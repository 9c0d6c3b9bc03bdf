import AccountDirectory.Json.Record
import AccountDirectory.Proofs.Json.Scalar

/-!
Objects that were written: a record takes them when each member either fills the slot of its field
or can be passed over.
-/

namespace AccountDirectory.Json

open AccountDirectory.Text (utf8 utf8_append)

/-- The bytes of members, each after a comma but the first. -/
def memberBytes (isFirst : Bool) : List (String × Value) → List UInt8
  | [] => []
  | (key, v) :: members =>
    (if isFirst then [] else [byte ',']) ++ (utf8 (stringText key) ++ (byte ':' :: utf8 v.render)) ++
      memberBytes false members

theorem utf8_renderMembers (members : List (String × Value)) :
    utf8 (Value.renderMembers members) = memberBytes true members := by
  have colon : utf8 ":" = [byte ':'] := rfl
  have comma : utf8 "," = [byte ','] := rfl
  induction members with
  | nil => rfl
  | cons member members ih =>
    obtain ⟨key, v⟩ := member
    cases members with
    | nil =>
      simp [Value.renderMembers, memberBytes, utf8_append, colon]
    | cons next members =>
      rw [Value.renderMembers, utf8_append, ih]
      simp [memberBytes, utf8_append, colon, comma]

theorem utf8_object (members : List (String × Value)) :
    utf8 (Value.object members).render =
      byte '\x7b' :: memberBytes true members ++ [byte '\x7d'] := by
  rw [Value.render, utf8_append, utf8_append, utf8_renderMembers]
  rfl

namespace Fields

/-- The value after a key goes into the slot of its field. -/
def Assigns (αs : List Type) (fs : Fields αs) (slots : Slots αs) (key : String) (v : Value)
    (after : Slots αs) : Prop :=
  ∃ r, assign αs fs slots key = some r ∧ Reader.Takes r (byte ':' :: utf8 v.render) after

variable {α : Type} {αs : List Type} {f : Field α} {fs : Fields αs} {slots after : Slots αs}
  {key : String} {v : Value}

theorem Assigns.here {a : α} (answers : f.answersTo key = true)
    (takes : Reader.Takes f.read (utf8 v.render) a) :
    Assigns (α :: αs) (f, fs) (none, slots) key v (some a, slots) := by
  refine ⟨_, if_pos answers, fun bound rest enough follows => ?_⟩
  have shorter : (utf8 v.render).length < bound := Nat.lt_of_succ_lt enough
  have read : Reader.inside (.key key) (do Reader.colon; f.read) bound
      (byte ':' :: utf8 v.render ++ rest) = .ok a rest := by
    refine Reader.inside_ok _ ?_
    rw [List.cons_append, Reader.bind_ok (Reader.colon_apply _)]
    exact takes bound rest shorter follows
  exact Reader.bind_ok read

theorem Assigns.later {slot : Option α} (other : f.answersTo key = false)
    (assigns : Assigns αs fs slots key v after) :
    Assigns (α :: αs) (f, fs) (slot, slots) key v (slot, after) := by
  obtain ⟨r, found, takes⟩ := assigns
  refine ⟨do return (slot, ← r), ?_, fun bound rest enough follows => ?_⟩
  · simp only [assign, other, found, Bool.false_eq_true, if_false]
    rfl
  · exact Reader.bind_ok (takes bound rest enough follows)

/-- What the members of an object make of the slots, one after another. -/
inductive Fills (αs : List Type) (fs : Fields αs) : Slots αs → List (String × Value) → Slots αs → Prop
  where
  | done {slots : Slots αs} : Fills αs fs slots [] slots
  | known {slots between after : Slots αs} {key : String} {v : Value}
      {members : List (String × Value)} (assigns : Assigns αs fs slots key v between)
      (fills : Fills αs fs between members after) : Fills αs fs slots ((key, v) :: members) after
  | unknown {slots after : Slots αs} {key : String} {v : Value} {members : List (String × Value)}
      (unanswered : assign αs fs slots key = none) (scalar : v.Scalar)
      (fills : Fills αs fs slots members after) : Fills αs fs slots ((key, v) :: members) after

variable {bound : Nat} {rest : List UInt8}

theorem ends_of_members (members : List (String × Value)) (rest : List UInt8) :
    Ends (memberBytes false members ++ byte '\x7d' :: rest) := by
  cases members with
  | nil => exact Ends.brace rest
  | cons member members => exact Ends.comma _

theorem hasMember_end (isFirst : Bool) (rest : List UInt8) :
    Reader.hasMember isFirst bound (byte '\x7d' :: rest) = .ok false (byte '\x7d' :: rest) := by
  unfold Reader.hasMember
  rw [Reader.bind_ok (Reader.token?_apply rfl)]
  rfl

theorem hasMember_key (bound : Nat) (isFirst : Bool) (rest : List UInt8) :
    Reader.hasMember isFirst bound ((if isFirst then [] else [byte ',']) ++ byte '"' :: rest) =
      .ok true (byte '"' :: rest) := by
  unfold Reader.hasMember
  cases isFirst with
  | true =>
    have token : Reader.token? bound (byte '"' :: rest) = .ok (some (byte '"')) (byte '"' :: rest) :=
      Reader.token?_apply rfl
    exact Reader.bind_ok token
  | false =>
    have comma : Reader.token? bound (byte ',' :: byte '"' :: rest) =
        .ok (some (byte ',')) (byte ',' :: byte '"' :: rest) := Reader.token?_apply rfl
    have token : Reader.token? bound (byte '"' :: rest) = .ok (some (byte '"')) (byte '"' :: rest) :=
      Reader.token?_apply rfl
    refine (Reader.bind_ok comma).trans ?_
    exact (Reader.bind_ok Reader.advance_apply).trans (Reader.bind_ok token)

/-- A member is reached: its key is read, and the value is left to the field that answers to it. -/
theorem members_cons {αs : List Type} (fs : Fields αs) (rounds : Nat) (isFirst : Bool)
    (slots : Slots αs) (key : String) (v : Value) (written : List (String × Value))
    (rest : List UInt8) :
    members αs fs (rounds + 1) isFirst slots bound (memberBytes isFirst ((key, v) :: written) ++ rest) =
      (match assign αs fs slots key with
        | some r => do members αs fs rounds false (← r)
        | none => do
          Reader.inside (.key key) do
            Reader.colon
            Reader.skip
          members αs fs rounds false slots : Reader (Slots αs)) bound
        (byte ':' :: utf8 v.render ++ (memberBytes false written ++ rest)) := by
  have reached := hasMember_key bound isFirst
    (quotedRest key ++ (byte ':' :: utf8 v.render ++ (memberBytes false written ++ rest)))
  have keyRead := Reader.string_apply key bound
    (byte ':' :: utf8 v.render ++ (memberBytes false written ++ rest))
  rw [utf8_stringText, List.cons_append] at keyRead
  have text : memberBytes isFirst ((key, v) :: written) ++ rest =
      (if isFirst then [] else [byte ',']) ++ byte '"' ::
        (quotedRest key ++ (byte ':' :: utf8 v.render ++ (memberBytes false written ++ rest))) := by
    simp [memberBytes, utf8_stringText]
  rw [text]
  exact (Reader.bind_ok reached).trans (Reader.bind_ok keyRead)

theorem members_apply {αs : List Type} {fs : Fields αs} {slots after : Slots αs}
    {written : List (String × Value)} (fills : Fills αs fs slots written after) :
    ∀ rounds isFirst, written.length < rounds → (memberBytes isFirst written).length < bound →
      members αs fs rounds isFirst slots bound (memberBytes isFirst written ++ byte '\x7d' :: rest) =
        .ok after (byte '\x7d' :: rest) := by
  induction fills with
  | done =>
    intro rounds isFirst enough _
    obtain ⟨left, rfl⟩ : ∃ left, rounds = left + 1 := ⟨rounds - 1, by omega⟩
    exact Reader.bind_ok (hasMember_end isFirst rest)
  | @known slots between after key v written assigns fills ih =>
    intro rounds isFirst enough room
    obtain ⟨left, rfl⟩ : ∃ left, rounds = left + 1 := ⟨rounds - 1, by omega⟩
    obtain ⟨r, found, takes⟩ := assigns
    simp only [memberBytes, List.length_append, List.length_cons] at room enough
    have taken := takes bound (memberBytes false written ++ byte '\x7d' :: rest)
      (by rw [List.length_cons]; omega) (ends_of_members written rest)
    rw [members_cons, found]
    exact (Reader.bind_ok taken).trans (ih left false (by omega) (by omega))
  | @unknown slots after key v written unanswered scalar fills ih =>
    intro rounds isFirst enough room
    obtain ⟨left, rfl⟩ : ∃ left, rounds = left + 1 := ⟨rounds - 1, by omega⟩
    simp only [memberBytes, List.length_append, List.length_cons] at room enough
    have skipped := Reader.skip_takes scalar bound (memberBytes false written ++ byte '\x7d' :: rest)
      (by omega) (ends_of_members written rest)
    have passed : Reader.inside (.key key) (do Reader.colon; Reader.skip) bound
        (byte ':' :: utf8 v.render ++ (memberBytes false written ++ byte '\x7d' :: rest)) =
        .ok () (memberBytes false written ++ byte '\x7d' :: rest) := by
      refine Reader.inside_ok _ ?_
      rw [List.cons_append, Reader.bind_ok (Reader.colon_apply _), skipped]
    rw [members_cons, unanswered]
    exact (Reader.bind_ok passed).trans (ih left false (by omega) (by omega))

theorem length_le_memberBytes (isFirst : Bool) (written : List (String × Value)) :
    written.length ≤ (memberBytes isFirst written).length := by
  induction written generalizing isFirst with
  | nil => exact Nat.le_refl 0
  | cons member written ih =>
    have later := ih false
    simp only [memberBytes, List.length_append, List.length_cons]
    omega

end Fields

/-- An object whose members fill the slots is taken as the record that the slots complete. -/
theorem record_takes {title : String} (αs : List Type) {fs : Fields αs} (slots : Slots αs)
    {tuple : Tuple αs} {written : List (String × Value)}
    (fills : Fields.Fills αs fs (Slots.empty αs) written slots)
    (complete : Fields.complete αs fs slots = pure tuple) :
    Reader.Takes (record title αs fs) (utf8 (Value.object written).render) tuple := by
  intro bound rest enough follows
  rw [utf8_object] at enough ⊢
  simp only [List.length_append, List.length_cons] at enough
  have short := Fields.length_le_memberBytes true written
  have filled : Fields.members αs fs bound true (Slots.empty αs) bound
      (memberBytes true written ++ byte '\x7d' :: rest) = .ok slots (byte '\x7d' :: rest) :=
    Fields.members_apply fills bound true (by omega) (by omega)
  have text : byte '\x7b' :: memberBytes true written ++ [byte '\x7d'] ++ rest =
      byte '\x7b' :: (memberBytes true written ++ byte '\x7d' :: rest) := by simp
  rw [text]
  refine (Reader.bind_ok (Reader.startOfValue_apply rfl)).trans ?_
  refine (Reader.bind_ok Reader.advance_apply).trans ?_
  refine Reader.closedBy_ok ?_ (Reader.endOfObject_apply rest)
  rw [Reader.bind_ok Reader.read_apply]
  refine (Reader.bind_ok filled).trans ?_
  rw [complete]
  rfl

section

variable {α : Type} {r : Reader α} {text : List UInt8} {a : α}

theorem Reader.Takes.whole (takes : Reader.Takes r text a) : r (text.length + 1) text = .ok a [] := by
  have taken := takes (text.length + 1) [] (Nat.lt_succ_self _) Ends.nil
  rwa [List.append_nil] at taken

theorem decodeFront_of_takes (takes : Reader.Takes r text a) : decodeFront r text = .ok a := by
  unfold decodeFront
  rw [takes.whole]

/-- A text that is one value. -/
theorem decode_of_takes (takes : Reader.Takes r text a) : decode r text = .ok a := by
  have whole : (do
      let a ← r
      if (← Reader.token?).isSome then Reader.fail .trailingCharacters
      return a : Reader α) (text.length + 1) text = .ok a [] := by
    rw [Reader.bind_ok takes.whole]
    rfl
  unfold decode decodeFront
  rw [whole]

end

end AccountDirectory.Json
