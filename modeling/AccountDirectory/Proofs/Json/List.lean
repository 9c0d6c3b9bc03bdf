import AccountDirectory.Proofs.Json.Scalar

/-!
Lists that were written, and values that may be null: the reader of the items takes them.
-/

namespace AccountDirectory.Json

open AccountDirectory.Text (utf8 utf8_append)

/-- The text starts like a value that is neither null nor the end of a list. -/
def Begins (text : List UInt8) : Prop :=
  ∃ b rest, text = b :: rest ∧ isSpace b = false ∧ b ≠ byte 'n' ∧ b ≠ byte ']'

theorem Begins.number (n : Int) : Begins (utf8 (Value.number n).render) := by
  rcases Reader.utf8_number_cases n with ⟨m, -, written⟩ | ⟨m, -, -, written⟩
  · obtain ⟨b, digits, spelled, digit⟩ := digitBytes_head m
    have other : ∀ c, isDigit (byte c) = false → b ≠ byte c := by
      rintro c notDigit rfl
      exact Bool.noConfusion (notDigit.symm.trans digit)
    exact ⟨b, digits, written.trans spelled, Reader.isDigit_visible digit, other _ rfl, other _ rfl⟩
  · exact ⟨byte '-', digitBytes m, written, rfl, by decide, by decide⟩

theorem Begins.string (s : String) : Begins (utf8 (Value.string s).render) :=
  ⟨byte '"', quotedRest s, utf8_stringText s, rfl, by decide, by decide⟩

/-- The bytes of items, each after a comma but the first. -/
def itemBytes (isFirst : Bool) : List Value → List UInt8
  | [] => []
  | v :: items => (if isFirst then [] else [byte ',']) ++ utf8 v.render ++ itemBytes false items

theorem utf8_renderItems (items : List Value) : utf8 (Value.renderItems items) = itemBytes true items := by
  have comma : utf8 "," = [byte ','] := rfl
  induction items with
  | nil => rfl
  | cons v items ih =>
    cases items with
    | nil => simp [Value.renderItems, itemBytes]
    | cons next items =>
      rw [Value.renderItems, utf8_append, ih]
      simp [itemBytes, utf8_append, comma]

theorem utf8_list (items : List Value) :
    utf8 (Value.list items).render = byte '[' :: itemBytes true items ++ [byte ']'] := by
  rw [Value.render, utf8_append, utf8_append, utf8_renderItems]
  rfl

namespace Reader

variable {α : Type} {bound : Nat} {rest : List UInt8} {r : Reader α} {write : α → Value}

theorem ends_of_items (items : List Value) (rest : List UInt8) :
    Ends (itemBytes false items ++ byte ']' :: rest) := by
  intro b present
  cases items with
  | nil =>
    cases present
    exact .inr (.inr rfl)
  | cons v items =>
    cases present
    exact .inl rfl

theorem hasItem_end (isFirst : Bool) (rest : List UInt8) :
    hasItem isFirst bound (byte ']' :: rest) = .ok false (byte ']' :: rest) := by
  unfold hasItem
  rw [bind_ok (token?_apply rfl)]
  rfl

theorem hasItem_begins (bound : Nat) (isFirst : Bool) {text : List UInt8} (begins : Begins text) (rest : List UInt8) :
    hasItem isFirst bound ((if isFirst then [] else [byte ',']) ++ text ++ rest) =
      .ok true (text ++ rest) := by
  obtain ⟨b, tail, rfl, visible, -, notEnd⟩ := begins
  have token : token? bound (b :: (tail ++ rest)) = .ok (some b) (b :: (tail ++ rest)) :=
    token?_apply visible
  cases isFirst with
  | true =>
    unfold hasItem
    refine (bind_ok token).trans ?_
    simp [notEnd]
  | false =>
    have comma : token? bound (byte ',' :: b :: (tail ++ rest)) =
        .ok (some (byte ',')) (byte ',' :: b :: (tail ++ rest)) := token?_apply rfl
    unfold hasItem
    refine (bind_ok comma).trans ((bind_ok advance_apply).trans ((bind_ok token).trans ?_))
    simp [notEnd]

theorem length_le_itemBytes {as : List α} (begins : ∀ a ∈ as, Begins (utf8 (write a).render))
    (isFirst : Bool) : as.length ≤ (itemBytes isFirst (as.map write)).length := by
  induction as generalizing isFirst with
  | nil => exact Nat.le_refl 0
  | cons a as ih =>
    obtain ⟨b, tail, spelled, -⟩ := begins a List.mem_cons_self
    have later := ih (fun a member => begins a (List.mem_cons_of_mem _ member)) false
    have filled : 0 < (utf8 (write a).render).length := by simp [spelled]
    simp only [List.map_cons, itemBytes, List.length_append, List.length_cons]
    omega

/-- The items are read one after another, up to the bracket. -/
theorem items_apply {as : List α} (takes : ∀ a ∈ as, Takes r (utf8 (write a).render) a)
    (begins : ∀ a ∈ as, Begins (utf8 (write a).render)) :
    ∀ rounds i done, as.length < rounds →
      (itemBytes (i == 0) (as.map write)).length < bound →
      items r rounds i done bound (itemBytes (i == 0) (as.map write) ++ byte ']' :: rest) =
        .ok (done.reverse ++ as) (byte ']' :: rest) := by
  induction as with
  | nil =>
    intro rounds i done enough _
    obtain ⟨left, rfl⟩ : ∃ left, rounds = left + 1 := ⟨rounds - 1, by omega⟩
    have ended : inside (.index i) (do
        if ← hasItem (i == 0) then return some (← r) else return none : Reader (Option α)) bound
        (byte ']' :: rest) = .ok none (byte ']' :: rest) := by
      refine inside_ok _ ?_
      rw [bind_ok (hasItem_end (i == 0) rest)]
      rfl
    unfold items
    refine (bind_ok ended).trans ?_
    simp
  | cons a as ih =>
    intro rounds i done enough room
    obtain ⟨left, rfl⟩ : ∃ left, rounds = left + 1 := ⟨rounds - 1, by omega⟩
    simp only [List.map_cons, itemBytes, List.length_append, List.length_cons] at room enough
    let later := itemBytes false (as.map write) ++ byte ']' :: rest
    have reached := hasItem_begins bound (i == 0) (begins a List.mem_cons_self) later
    have taken := takes a List.mem_cons_self bound later (by omega) (ends_of_items _ rest)
    have item : inside (.index i) (do
        if ← hasItem (i == 0) then return some (← r) else return none : Reader (Option α)) bound
        ((if (i == 0) = true then [] else [byte ',']) ++ utf8 (write a).render ++ later) =
          .ok (some a) later := by
      refine inside_ok _ ?_
      rw [bind_ok reached]
      refine (bind_ok taken).trans ?_
      rfl
    have text : itemBytes (i == 0) ((a :: as).map write) ++ byte ']' :: rest =
        (if (i == 0) = true then [] else [byte ',']) ++ utf8 (write a).render ++ later := by
      simp [itemBytes, later]
    have next : (i + 1 == 0) = false := rfl
    have others := ih (fun a member => takes a (List.mem_cons_of_mem _ member))
      (fun a member => begins a (List.mem_cons_of_mem _ member)) left (i + 1) (a :: done)
      (by omega) (by rw [next]; omega)
    rw [text]
    unfold items
    refine (bind_ok item).trans ?_
    simpa [later] using others

theorem endOfList_apply (rest : List UInt8) : endOfList bound (byte ']' :: rest) = .ok () rest := by
  unfold endOfList
  rw [bind_ok (token?_apply rfl)]
  rfl

theorem list_takes {as : List α} (takes : ∀ a ∈ as, Takes r (utf8 (write a).render) a)
    (begins : ∀ a ∈ as, Begins (utf8 (write a).render)) :
    Takes (list r) (utf8 (Value.list (as.map write)).render) as := by
  intro bound rest enough follows
  rw [utf8_list] at enough ⊢
  simp only [List.length_append, List.length_cons] at enough
  have short := length_le_itemBytes begins true
  have read : items r bound 0 [] bound (itemBytes true (as.map write) ++ byte ']' :: rest) =
      .ok as (byte ']' :: rest) := items_apply takes begins bound 0 [] (by omega) (by simpa using by omega)
  have text : byte '[' :: itemBytes true (as.map write) ++ [byte ']'] ++ rest =
      byte '[' :: (itemBytes true (as.map write) ++ byte ']' :: rest) := by simp
  rw [text]
  unfold list
  refine (bind_ok (startOfValue_apply rfl)).trans ((bind_ok advance_apply).trans ?_)
  refine closedBy_ok ?_ (endOfList_apply rest)
  rw [bind_ok read_apply]
  exact read

theorem optional_takes {o : Option α} (takes : ∀ a, Takes r (utf8 (write a).render) a)
    (begins : ∀ a, Begins (utf8 (write a).render)) :
    Takes (optional r) (utf8 (Value.optional write o).render) o := by
  intro bound rest enough follows
  unfold optional
  cases o with
  | none =>
    have taken : restOfWord "null" bound (byte 'n' :: Text.ascii "ull" ++ rest) = .ok () rest :=
      restOfWord_apply (byte 'n') rest rfl
    exact (bind_ok (token?_apply rfl)).trans (bind_ok taken)
  | some a =>
    have taken := takes a bound rest enough follows
    obtain ⟨b, tail, spelled, visible, notNull, -⟩ := begins a
    have written : utf8 (Value.optional write (some a)).render = b :: tail := spelled
    rw [spelled] at taken
    rw [written, List.cons_append]
    refine (bind_ok (token?_apply visible)).trans ?_
    have other : ¬ some b = some (byte 'n') := fun same => notNull (Option.some.inj same)
    rw [if_neg other]
    exact bind_ok taken

end Reader

end AccountDirectory.Json
