import AccountDirectory.Identifier
import AccountDirectory.Proofs.Text.Numeral

/-!
Identifiers as text: which texts are read as an identifier, and that a written one is read back if it
is positive.
-/

namespace AccountDirectory

/-- A text with digits, after a plus sign or none, that stand for a positive number of 32 bits. -/
def SpellsPositive (s : String) (v : Int32) : Prop :=
  ∃ n : Nat, Numeral.Spells s.toList n ∧ 1 ≤ n ∧ n ≤ 2147483647 ∧ v.toInt = n

section

variable {name s : String} {v : Int32}

theorem one_le_iff_toInt : 1 ≤ v ↔ 1 ≤ v.toInt :=
  Int32.le_iff_toInt_le

theorem spellsPositive_iff : SpellsPositive s v ↔ Numeral.Denotes s.toList v.toInt ∧ 1 ≤ v := by
  have high := Int32.toInt_lt v
  rw [one_le_iff_toInt]
  constructor
  · rintro ⟨n, spells, positive, -, same⟩
    rw [same]
    exact ⟨(Numeral.denotes_natural positive).2 spells, by omega⟩
  · rintro ⟨denotes, positive⟩
    obtain ⟨n, same⟩ : ∃ n : Nat, v.toInt = n := ⟨v.toInt.toNat, by omega⟩
    rw [same] at denotes
    have low : 1 ≤ n := by omega
    exact ⟨n, (Numeral.denotes_natural low).1 denotes, low, by omega, same⟩

theorem positiveId_ok_iff : positiveId name s = .ok v ↔ SpellsPositive s v := by
  rw [spellsPositive_iff, ← Numeral.int32_ok_iff]
  unfold positiveId
  cases Numeral.int32 s with
  | error e => simp
  | ok found =>
    by_cases low : found < 1
    · simp only [low, if_true, reduceCtorEq, false_iff, Except.ok.injEq, not_and]
      rintro rfl
      exact Int32.not_le.2 low
    · simp only [low, if_false, Except.ok.injEq]
      constructor
      · rintro rfl
        exact ⟨rfl, Int32.not_lt.1 low⟩
      · exact And.left

theorem positiveId_error_iff :
    (∃ reason, positiveId name s = .error (.invalidId reason)) ↔ ¬ ∃ v, SpellsPositive s v := by
  constructor
  · rintro ⟨reason, refused⟩ ⟨v, spells⟩
    rw [positiveId_ok_iff.2 spells] at refused
    cases refused
  · intro unspelled
    cases outcome : positiveId name s with
    | ok v => exact absurd ⟨v, positiveId_ok_iff.1 outcome⟩ unspelled
    | error e =>
      unfold positiveId at outcome
      split at outcome
      · cases outcome
        exact ⟨_, rfl⟩
      · split at outcome
        · cases outcome
          exact ⟨_, rfl⟩
        · cases outcome

/-- Identifiers of one kind are made from their numbers. -/
theorem map_positiveId_ok_iff {Id : Type} {make : Int32 → Id} {number : Id → Int32}
    (made : ∀ id, make (number id) = id) (numbered : ∀ v, number (make v) = v) {id : Id} :
    (positiveId name s).map make = .ok id ↔ SpellsPositive s (number id) := by
  rw [map_eq_ok]
  constructor
  · rintro ⟨v, read, rfl⟩
    rw [numbered]
    exact positiveId_ok_iff.1 read
  · intro spells
    exact ⟨number id, positiveId_ok_iff.2 spells, made id⟩

/-- What is written is read as the number it stands for, whatever its sign. -/
theorem map_positiveId_toString {Id : Type} (make : Int32 → Id) (name : String) (v : Int32) :
    (positiveId name (toString v.toInt)).map make =
      if 1 ≤ v then .ok (make v)
      else .error (.invalidId (name ++ ": must be positive, got " ++ toString v.toInt)) := by
  unfold positiveId
  rw [Numeral.int32_ok_iff.2 (Numeral.denotes_toString v.toInt)]
  by_cases positive : 1 ≤ v
  · simp [positive, Int32.not_lt.2 positive, Except.map]
  · simp [positive, Int32.not_le.1 positive, Except.map]

end

namespace UserId

variable {s : String} {id : UserId}

theorem parse_ok_iff : parse s = .ok id ↔ SpellsPositive s id.value :=
  map_positiveId_ok_iff (fun _ => rfl) fun _ => rfl

theorem parse_rendered (id : UserId) :
    parse id.render =
      if 1 ≤ id.value then .ok id
      else .error (.invalidId ("UserId: must be positive, got " ++ id.render)) :=
  map_positiveId_toString mk "UserId" id.value

theorem parse_render (positive : 1 ≤ id.value) : parse id.render = .ok id :=
  (parse_rendered id).trans (if_pos positive)

theorem isDigit_of_mem_render (positive : 1 ≤ id.value) : ∀ c ∈ id.render.toList, c.isDigit = true := by
  have low := one_le_iff_toInt.1 positive
  obtain ⟨n, same⟩ : ∃ n : Nat, id.value.toInt = n := ⟨id.value.toInt.toNat, by omega⟩
  have written : id.render = toString n := congrArg toString same
  rw [written]
  exact Numeral.isDigit_of_mem_toString n

end UserId

namespace GroupId

variable {s : String} {id : GroupId}

theorem parse_ok_iff : parse s = .ok id ↔ SpellsPositive s id.value :=
  map_positiveId_ok_iff (fun _ => rfl) fun _ => rfl

theorem parse_rendered (id : GroupId) :
    parse id.render =
      if 1 ≤ id.value then .ok id
      else .error (.invalidId ("GroupId: must be positive, got " ++ id.render)) :=
  map_positiveId_toString mk "GroupId" id.value

end GroupId

/-- The texts that are read as identifiers are the spellings of the positive numbers of 32 bits, and
    each stands for the number it spells. All others are refused, among them whatever is written for an
    identifier that is not positive. -/
theorem identifiers_spell_positive_numbers (s : String) (user : UserId) (group : GroupId) :
    (UserId.parse s = .ok user ↔ SpellsPositive s user.value) ∧
    (GroupId.parse s = .ok group ↔ SpellsPositive s group.value) ∧
    ((∃ reason, UserId.parse s = .error (.invalidId reason)) ↔ ¬ ∃ v, SpellsPositive s v) ∧
    ((∃ reason, GroupId.parse s = .error (.invalidId reason)) ↔ ¬ ∃ v, SpellsPositive s v) ∧
    (UserId.parse user.render =
      if 1 ≤ user.value then .ok user
      else .error (.invalidId ("UserId: must be positive, got " ++ user.render))) ∧
    (GroupId.parse group.render =
      if 1 ≤ group.value then .ok group
      else .error (.invalidId ("GroupId: must be positive, got " ++ group.render))) := by
  refine ⟨UserId.parse_ok_iff, GroupId.parse_ok_iff, ?_, ?_, user.parse_rendered,
    group.parse_rendered⟩
  · simp only [UserId.parse, map_eq_error]
    exact positiveId_error_iff
  · simp only [GroupId.parse, map_eq_error]
    exact positiveId_error_iff

example : UserId.parse "+007" = .ok ⟨7⟩ := by rfl

example : GroupId.parse "-7" = .error (.invalidId "GroupId: must be positive, got -7") := by rfl

end AccountDirectory
