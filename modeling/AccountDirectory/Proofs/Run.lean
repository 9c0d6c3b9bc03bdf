/-!
Runs of steps from a state. What holds along a run is shown step by step, and what holds at its end
has held throughout or began to hold at some step for the last time.
-/

namespace AccountDirectory.Run

universe u v

variable {σ : Type u} {ε : Type v} {step : σ → ε → σ} {start : σ} {run : List ε}

/-- What holds of the empty run, and goes from each beginning of a run to the next one, holds of
    all of them. -/
theorem along {P : List ε → Prop} (nil : P [])
    (next : ∀ before e rest, run = before ++ e :: rest → P before → P (before ++ [e])) :
    ∀ part, part <+: run → P part := by
  suffices every : ∀ done part, done ++ part <+: run → P done → P (done ++ part) from
    fun part inside => every [] part inside nil
  intro done part inside holds
  induction part generalizing done with
  | nil => exact (List.append_nil done).symm ▸ holds
  | cons e part ih =>
    obtain ⟨rest, whole⟩ := inside
    have place : run = done ++ e :: (part ++ rest) := by
      rw [← whole, List.append_assoc, List.cons_append]
    have longer : done ++ e :: part = (done ++ [e]) ++ part := (List.append_assoc done [e] part).symm
    rw [longer]
    refine ih (done ++ [e]) ?_ (next done e _ place holds)
    rw [← longer]
    exact ⟨rest, whole⟩

/-- What each step keeps under a condition of its own holds along a run just when each step of the
    run meets its condition. -/
theorem holds_along_iff {P : σ → Prop} {Q : σ → ε → Prop} (first : P start)
    (keeps : ∀ s e, P s → (P (step s e) ↔ Q s e)) :
    (∀ part, part <+: run → P (part.foldl step start)) ↔
      ∀ before e rest, run = before ++ e :: rest → Q (before.foldl step start) e := by
  constructor
  · intro holds before e rest place
    have here := holds before ⟨e :: rest, place.symm⟩
    have later := holds (before ++ [e]) ⟨rest, by rw [place, List.append_assoc]; rfl⟩
    rw [List.foldl_append] at later
    exact (keeps _ e here).1 later
  · intro meets
    refine along first fun before e rest place here => ?_
    rw [List.foldl_append]
    exact (keeps _ e here).2 (meets before e rest place)

theorem holds_throughout_or_begins {P : σ → Prop} (finish : P (run.foldl step start)) :
    (∀ part, part <+: run → P (part.foldl step start)) ∨
      ∃ before e rest, run = before ++ e :: rest ∧ ¬ P (before.foldl step start) ∧
        ∀ part, part <+: rest → P ((before ++ e :: part).foldl step start) := by
  induction run generalizing start with
  | nil =>
    left
    intro part inside
    rw [List.prefix_nil.1 inside]
    exact finish
  | cons e run ih =>
    rcases ih finish with throughout | ⟨before, w, rest, same, absent, begun⟩
    · by_cases atStart : P start
      · left
        intro part inside
        cases part with
        | nil => exact atStart
        | cons w part =>
          obtain ⟨rfl, deeper⟩ := List.cons_prefix_cons.1 inside
          exact throughout part deeper
      · exact .inr ⟨[], e, run, rfl, atStart, throughout⟩
    · exact .inr ⟨e :: before, w, rest, by rw [same]; rfl, absent, begun⟩

/-- What holds after a run and not before it begins to hold at some step, for the last time. -/
theorem begins {P : σ → Prop} (absent : ¬ P start) (finish : P (run.foldl step start)) :
    ∃ before e rest, run = before ++ e :: rest ∧ ¬ P (before.foldl step start) ∧
      ∀ part, part <+: rest → P ((before ++ e :: part).foldl step start) := by
  rcases holds_throughout_or_begins finish with throughout | begun
  · exact absurd (throughout [] List.nil_prefix) absent
  · exact begun

/-- What a step leaves when something begins to hold with it is there until the end, if the later
    steps keep it while that holds. -/
theorem since {P : σ → Prop} {Q : σ → ε → Prop} {F : ε → σ → Prop} (absent : ¬ P start)
    (finish : P (run.foldl step start))
    (turns : ∀ before e rest, run = before ++ e :: rest → ¬ P (before.foldl step start) →
      P (step (before.foldl step start) e) →
        Q (before.foldl step start) e ∧ F e (step (before.foldl step start) e))
    (keeps : ∀ s e next, F e s → P (step s next) → F e (step s next)) :
    ∃ before e rest, run = before ++ e :: rest ∧ Q (before.foldl step start) e ∧
      ∀ part, part <+: rest → P ((before ++ e :: part).foldl step start) ∧
        F e ((before ++ e :: part).foldl step start) := by
  obtain ⟨before, e, rest, place, missing, begun⟩ := begins absent finish
  have turned := begun [] List.nil_prefix
  rw [List.foldl_append] at turned
  obtain ⟨first, left⟩ := turns before e rest place missing turned
  have kept : ∀ part, part <+: rest → F e ((before ++ e :: part).foldl step start) := by
    refine along (by rwa [List.foldl_append]) fun part next after position here => ?_
    have still := begun (part ++ [next]) ⟨after, by rw [position, List.append_assoc]; rfl⟩
    have longer : before ++ e :: (part ++ [next]) = (before ++ e :: part) ++ [next] := by simp
    rw [longer, List.foldl_append] at still ⊢
    exact keeps _ e next here still
  exact ⟨before, e, rest, place, first, fun part inside => ⟨begun part inside, kept part inside⟩⟩

end AccountDirectory.Run
