/-!
Steps that may fail: when one after another ends well, and when it fails.
-/

namespace AccountDirectory

/-- A step and what depends on it end well when both do. -/
theorem bind_eq_ok {ε α β : Type} {x : Except ε α} {f : α → Except ε β} {b : β} :
    (x >>= f) = .ok b ↔ ∃ a, x = .ok a ∧ f a = .ok b := by
  cases x with
  | error e => simp [Bind.bind, Except.bind]
  | ok a => simp [Bind.bind, Except.bind]

theorem bind_eq_error {ε α β : Type} {x : Except ε α} {f : α → Except ε β} {e : ε} :
    (x >>= f) = .error e ↔ x = .error e ∨ ∃ a, x = .ok a ∧ f a = .error e := by
  cases x with
  | error e => simp [Bind.bind, Except.bind]
  | ok a => simp [Bind.bind, Except.bind]

theorem exists_error_iff {ε α : Type} {x : Except ε α} : (∃ e, x = .error e) ↔ ∀ a, x ≠ .ok a := by
  cases x <;> simp

theorem map_eq_ok {ε α β : Type} {x : Except ε α} {f : α → β} {b : β} :
    x.map f = .ok b ↔ ∃ a, x = .ok a ∧ f a = b := by
  cases x <;> simp [Except.map]

theorem map_eq_error {ε α β : Type} {x : Except ε α} {f : α → β} {e : ε} :
    x.map f = .error e ↔ x = .error e := by
  cases x <;> simp [Except.map]

theorem mapError_eq_ok {ε δ α : Type} {x : Except ε α} {f : ε → δ} {a : α} :
    x.mapError f = .ok a ↔ x = .ok a := by
  cases x with
  | error e => exact ⟨fun done => (nomatch done), fun done => (nomatch done)⟩
  | ok b =>
    constructor
    · intro done
      cases done
      rfl
    · intro done
      cases done
      rfl

theorem mapError_eq_error {ε δ α : Type} {x : Except ε α} {f : ε → δ} {d : δ} :
    x.mapError f = .error d ↔ ∃ e, x = .error e ∧ f e = d := by
  cases x with
  | error e =>
    constructor
    · intro failed
      cases failed
      exact ⟨e, rfl, rfl⟩
    · rintro ⟨_, same, rfl⟩
      cases same
      rfl
  | ok b => exact ⟨fun failed => (nomatch failed), fun ⟨_, failed, _⟩ => (nomatch failed)⟩

theorem forM_eq_ok {ε α : Type} {f : α → Except ε Unit} {l : List α} :
    l.forM f = .ok () ↔ ∀ a ∈ l, f a = .ok () := by
  induction l with
  | nil => simp [List.forM, pure, Except.pure]
  | cons a l ih =>
    have unfolded : (a :: l).forM f = (f a >>= fun _ => l.forM f) := rfl
    rw [unfolded, bind_eq_ok, ih, List.forall_mem_cons]
    constructor
    · rintro ⟨_, first, rest⟩
      exact ⟨first, rest⟩
    · rintro ⟨first, rest⟩
      exact ⟨(), first, rest⟩

/-- Steps in a row fail with the first of them that fails. -/
theorem forM_eq_error {ε α : Type} {f : α → Except ε Unit} {l : List α} {e : ε} :
    l.forM f = .error e ↔
      ∃ before a after, l = before ++ a :: after ∧ (∀ b ∈ before, f b = .ok ()) ∧ f a = .error e := by
  induction l with
  | nil => simp [List.forM, pure, Except.pure]
  | cons a l ih =>
    have unfolded : (a :: l).forM f = (f a >>= fun _ => l.forM f) := rfl
    rw [unfolded, bind_eq_error]
    constructor
    · rintro (failed | ⟨_, passed, failed⟩)
      · exact ⟨[], a, l, rfl, by simp, failed⟩
      · obtain ⟨before, b, after, rfl, passedToo, failed⟩ := ih.1 failed
        exact ⟨a :: before, b, after, rfl, List.forall_mem_cons.2 ⟨passed, passedToo⟩, failed⟩
    · rintro ⟨before, b, after, cut, passed, failed⟩
      cases before with
      | nil =>
        cases cut
        exact .inl failed
      | cons first before =>
        cases cut
        obtain ⟨passed, passedToo⟩ := List.forall_mem_cons.1 passed
        exact .inr ⟨(), passed, ih.2 ⟨before, b, after, rfl, passedToo, failed⟩⟩

theorem toOption_eq_some {ε α : Type} {x : Except ε α} {a : α} :
    x.toOption = some a ↔ x = .ok a := by
  cases x with
  | error e => exact ⟨fun found => (nomatch found), fun done => (nomatch done)⟩
  | ok b =>
    constructor
    · intro found
      cases found
      rfl
    · intro done
      cases done
      rfl

/-- What a check stands before is found when the check passes. -/
theorem guard_bind_eq_some {α : Type} {p : Prop} [Decidable p] {x : Unit → Option α} {a : α} :
    (guard p >>= x) = some a ↔ p ∧ x () = some a := by
  by_cases holds : p
  · have passes : (guard p : Option Unit) = some () := if_pos holds
    rw [passes]
    exact ⟨fun found => ⟨holds, found⟩, fun ⟨_, found⟩ => found⟩
  · have stops : (guard p : Option Unit) = none := if_neg holds
    rw [stops]
    exact ⟨fun found => (nomatch found), fun ⟨passes, _⟩ => absurd passes holds⟩

end AccountDirectory
