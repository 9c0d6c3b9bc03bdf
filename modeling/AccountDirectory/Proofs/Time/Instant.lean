import AccountDirectory.Time.Instant

/-!
The order of instants, and how it goes with whole seconds.
-/

namespace AccountDirectory.Time.Instant

variable {a b c : Instant}

theorem lt_iff : a < b ↔ a.seconds < b.seconds ∨ (a.seconds = b.seconds ∧ a.nanos < b.nanos) :=
  Iff.rfl

theorem le_iff : a ≤ b ↔ a.seconds < b.seconds ∨ (a.seconds = b.seconds ∧ a.nanos ≤ b.nanos) :=
  Iff.rfl

theorem not_le : ¬ a ≤ b ↔ b < a := by
  rw [le_iff, lt_iff]
  omega

theorem not_lt : ¬ a < b ↔ b ≤ a := by
  rw [le_iff, lt_iff]
  omega

theorem le_trans (before : a ≤ b) (after : b ≤ c) : a ≤ c := by
  rw [le_iff] at before after ⊢
  omega

theorem addSeconds?_of_pos {t : Instant} {n : Int} (later : 0 < n) :
    t.addSeconds? n = ofSeconds? (t.seconds + n) (t.nanos % 1000000000) := by
  have other : n ≠ 0 := by omega
  have notEarlier : ¬ (n < 0 ∧ 1000000000 ≤ t.nanos) := by omega
  rw [addSeconds?, if_neg other, if_neg notEarlier]

theorem of_ofSeconds? {t : Instant} {seconds : Int} {nanos : Nat}
    (made : ofSeconds? seconds nanos = some t) : t.seconds = seconds ∧ t.nanos = nanos := by
  unfold ofSeconds? at made
  split at made
  · cases made
    exact ⟨rfl, rfl⟩
  · cases made

theorem seconds_of_addSeconds? {t sum : Instant} {n : Int} (later : 0 < n)
    (added : t.addSeconds? n = some sum) : sum.seconds = t.seconds + n := by
  rw [addSeconds?_of_pos later] at added
  exact (of_ofSeconds? added).1

/-- The second in which an instant lies, or after which it comes if it lies in a leap second. Whole
    seconds tell no more. -/
def wholeSecond (t : Instant) : Instant :=
  { t with nanos := 0, nanos_lt := Nat.zero_lt_of_lt t.nanos_lt }

theorem wholeSecond_eq_self_iff {t : Instant} : t.wholeSecond = t ↔ t.nanos = 0 := by
  constructor
  · intro same
    exact (congrArg nanos same).symm
  · intro whole
    unfold wholeSecond
    congr 1
    exact whole.symm

theorem nanos_floor (t : Instant) : t.floor.nanos = if t.nanos < 1000000000 then 0 else 1000000000 :=
  rfl

/-- The start of a second is a whole number of seconds unless it is a leap second. -/
theorem wholeSecond_floor_eq_iff {t : Instant} : t.floor.wholeSecond = t.floor ↔ t.nanos < 1000000000 := by
  rw [wholeSecond_eq_self_iff, nanos_floor]
  split
  · rename_i ordinary
    exact iff_of_true rfl ordinary
  · rename_i leaping
    exact iff_of_false (by decide) leaping

/-- What is counted on from the start of a second is no leap second. -/
theorem wholeSecond_of_addSeconds?_floor {t sum : Instant} {n : Int} (later : 0 < n)
    (added : t.floor.addSeconds? n = some sum) : sum.wholeSecond = sum := by
  rw [addSeconds?_of_pos later] at added
  rw [wholeSecond_eq_self_iff, (of_ofSeconds? added).2, nanos_floor]
  split
  · rfl
  · rfl

theorem wholeSecond_le_iff (t u : Instant) : t.wholeSecond ≤ u ↔ t.seconds ≤ u.seconds := by
  have start : t.wholeSecond.seconds = t.seconds ∧ t.wholeSecond.nanos = 0 := ⟨rfl, rfl⟩
  rw [le_iff, start.1, start.2]
  omega

theorem lt_of_lt_wholeSecond {t : Instant} (before : a < t.wholeSecond) : a < t := by
  have start : t.wholeSecond.seconds = t.seconds ∧ t.wholeSecond.nanos = 0 := ⟨rfl, rfl⟩
  rw [lt_iff] at before ⊢
  omega

end AccountDirectory.Time.Instant
