import AccountDirectory.Proofs.Outcome
import AccountDirectory.Text.Numeral

/-!
Integers in decimal: the texts that are read, with their values, and that what was written is read
back.
-/

namespace AccountDirectory

namespace Numeral

variable {chars : List Char} {limit n : Nat} {beyond : NumeralError}

theorem le_ofDigitChars (chars : List Char) (n : Nat) : n ≤ Nat.ofDigitChars 10 chars n := by
  induction chars generalizing n with
  | nil => exact Nat.le_refl n
  | cons c chars ih =>
    have later := ih (10 * n + (c.toNat - '0'.toNat))
    rw [Nat.ofDigitChars_cons]
    omega

theorem digits_ok (isOne : ∀ c ∈ chars, c.isDigit = true)
    (fits : Nat.ofDigitChars 10 chars n ≤ limit) :
    digits limit beyond n chars = .ok (Nat.ofDigitChars 10 chars n) := by
  induction chars generalizing n with
  | nil => rfl
  | cons c chars ih =>
    have first : digit? c = some (c.toNat - '0'.toNat) := if_pos (isOne c List.mem_cons_self)
    rw [Nat.ofDigitChars_cons] at fits ⊢
    have within : n * 10 + (c.toNat - '0'.toNat) ≤ limit := by
      have later := le_ofDigitChars chars (10 * n + (c.toNat - '0'.toNat))
      omega
    have rest := ih (fun x inside => isOne x (List.mem_cons_of_mem _ inside)) fits
    unfold digits
    simp only [first, within, if_true]
    rwa [Nat.mul_comm n 10]

theorem digits_ok_iff {m : Nat} (start : n ≤ limit) :
    digits limit beyond n chars = .ok m ↔
      (∀ c ∈ chars, c.isDigit = true) ∧ Nat.ofDigitChars 10 chars n = m ∧ m ≤ limit := by
  constructor
  · intro read
    induction chars generalizing n with
    | nil =>
      cases read
      exact ⟨nofun, rfl, start⟩
    | cons c chars ih =>
      unfold digits at read
      split at read
      · cases read
      · rename_i d digit
        split at read
        · rename_i within
          obtain ⟨isOne, value, fits⟩ := ih within read
          obtain ⟨isDigit, rfl⟩ : c.isDigit = true ∧ c.toNat - '0'.toNat = d := by
            simpa [digit?] using digit
          refine ⟨List.forall_mem_cons.2 ⟨isDigit, isOne⟩, ?_, fits⟩
          rwa [Nat.ofDigitChars_cons, Nat.mul_comm]
        · cases read
  · rintro ⟨isOne, rfl, fits⟩
    exact digits_ok isOne fits

/-- A text with one digit or more that stand for a number, after a plus sign or none. -/
def Spells (text : List Char) (n : Nat) : Prop :=
  ∃ chars, (text = chars ∨ text = '+' :: chars) ∧ chars ≠ [] ∧
    (∀ c ∈ chars, c.isDigit = true) ∧ Nat.ofDigitChars 10 chars 0 = n

/-- One digit or more that stand for a number. -/
def Unsigned (text : List Char) (n : Nat) : Prop :=
  text ≠ [] ∧ (∀ c ∈ text, c.isDigit = true) ∧ Nat.ofDigitChars 10 text 0 = n

theorem magnitude_ok_iff {m : Nat} :
    magnitude limit beyond chars = .ok m ↔ Unsigned chars m ∧ m ≤ limit := by
  cases chars with
  | nil => simp [magnitude, Unsigned]
  | cons c chars =>
    have filled : c :: chars ≠ [] := List.cons_ne_nil c chars
    simp only [magnitude, digits_ok_iff (Nat.zero_le limit), Unsigned, filled, true_and, ne_eq,
      not_false_eq_true, and_assoc]

theorem Unsigned.head {text : List Char} {sign : Char} (number : Unsigned (sign :: text) n) :
    sign.isDigit = true :=
  number.2.1 sign List.mem_cons_self

theorem spells_nil : ¬ Spells [] n := by
  rintro ⟨chars, same | same, filled, -⟩
  · exact filled same.symm
  · cases same

theorem spells_plus : Spells ('+' :: chars) n ↔ Unsigned chars n := by
  constructor
  · rintro ⟨digits, rfl | same, number⟩
    · cases Unsigned.head number
    · cases same
      exact number
  · intro number
    exact ⟨chars, .inr rfl, number⟩

theorem spells_unsigned (unsigned : ∀ rest, chars ≠ '+' :: rest) :
    Spells chars n ↔ Unsigned chars n := by
  constructor
  · rintro ⟨digits, rfl | same, number⟩
    · exact number
    · exact absurd same (unsigned digits)
  · intro number
    exact ⟨chars, .inl rfl, number⟩

theorem natural_ok_iff {s : String} :
    natural limit s = .ok n ↔ Spells s.toList n ∧ n ≤ limit := by
  unfold natural
  split
  · rename_i empty
    simp [empty, spells_nil]
  · rename_i rest signed
    rw [magnitude_ok_iff, signed, spells_plus]
  · rename_i unsigned
    rw [magnitude_ok_iff, spells_unsigned unsigned]

theorem natural_error_iff {s : String} :
    (∃ fault, natural limit s = .error fault) ↔ ∀ n ≤ limit, ¬ Spells s.toList n := by
  rw [exists_error_iff]
  constructor
  · intro unread n fits spells
    exact unread n (natural_ok_iff.2 ⟨spells, fits⟩)
  · intro unspelled n read
    obtain ⟨spells, fits⟩ := natural_ok_iff.1 read
    exact unspelled n fits spells

/-- A text with digits that stand for an integer, after a sign or none. -/
def Denotes (text : List Char) (v : Int) : Prop :=
  (∃ n : Nat, Spells text n ∧ v = n) ∨
    ∃ (n : Nat) (rest : List Char), text = '-' :: rest ∧ Unsigned rest n ∧ v = -n

theorem denotes_natural (positive : 1 ≤ n) : Denotes chars n ↔ Spells chars n := by
  constructor
  · rintro (⟨m, spells, same⟩ | ⟨m, rest, -, -, same⟩)
    · obtain rfl : n = m := by omega
      exact spells
    · omega
  · intro spells
    exact .inl ⟨n, spells, rfl⟩

theorem denotes_minus {v : Int} : Denotes ('-' :: chars) v ↔ ∃ n : Nat, Unsigned chars n ∧ v = -n := by
  have unspelled (n : Nat) : ¬ Spells ('-' :: chars) n := by
    rw [spells_unsigned (by simp)]
    intro number
    cases number.head
  simp [Denotes, unspelled]

theorem denotes_other {v : Int} (unsigned : ∀ rest, chars ≠ '-' :: rest) :
    Denotes chars v ↔ ∃ n : Nat, Spells chars n ∧ v = n := by
  simp [Denotes, unsigned]

theorem map_magnitude_ok_iff {v : Int} :
    (magnitude limit beyond chars).map Int.ofNat = .ok v ↔
      (∃ n : Nat, Unsigned chars n ∧ v = n) ∧ v ≤ limit := by
  rw [map_eq_ok]
  constructor
  · rintro ⟨n, read, rfl⟩
    obtain ⟨number, fits⟩ := magnitude_ok_iff.1 read
    exact ⟨⟨n, number, rfl⟩, Int.ofNat_le.2 fits⟩
  · rintro ⟨⟨n, number, rfl⟩, fits⟩
    exact ⟨n, magnitude_ok_iff.2 ⟨number, Int.ofNat_le.1 fits⟩, rfl⟩

theorem integer_ok_iff {lowest highest : Nat} {s : String} {v : Int} :
    integer lowest highest s = .ok v ↔ Denotes s.toList v ∧ -lowest ≤ v ∧ v ≤ highest := by
  unfold integer
  split
  · rename_i empty
    simp [empty, Denotes, spells_nil]
  · rename_i rest signed
    rw [map_magnitude_ok_iff, signed, denotes_other (by simp)]
    simp only [spells_plus]
    constructor
    · rintro ⟨⟨n, number, rfl⟩, fits⟩
      exact ⟨⟨n, number, rfl⟩, by omega, fits⟩
    · rintro ⟨number, -, fits⟩
      exact ⟨number, fits⟩
  · rename_i rest signed
    rw [map_eq_ok, signed, denotes_minus]
    constructor
    · rintro ⟨_, read, rfl⟩
      obtain ⟨n, magnitude, same⟩ := bind_eq_ok.1 read
      cases same
      obtain ⟨number, fits⟩ := magnitude_ok_iff.1 magnitude
      exact ⟨⟨n, number, rfl⟩, by omega, by omega⟩
    · rintro ⟨⟨n, number, rfl⟩, fits, -⟩
      have within : n ≤ lowest := by omega
      exact ⟨n, bind_eq_ok.2 ⟨n, magnitude_ok_iff.2 ⟨number, within⟩, rfl⟩, rfl⟩
  · rename_i unsigned positive
    rw [map_magnitude_ok_iff, denotes_other positive]
    simp only [spells_unsigned unsigned]
    constructor
    · rintro ⟨⟨n, number, rfl⟩, fits⟩
      exact ⟨⟨n, number, rfl⟩, by omega, fits⟩
    · rintro ⟨number, -, fits⟩
      exact ⟨number, fits⟩

theorem int64_ok_iff {s : String} {v : Int} :
    int64 s = .ok v ↔
      Denotes s.toList v ∧ -9223372036854775808 ≤ v ∧ v ≤ 9223372036854775807 :=
  integer_ok_iff

theorem int64_error_iff {s : String} :
    (∃ fault, int64 s = .error fault) ↔
      ∀ v, -9223372036854775808 ≤ v → v ≤ 9223372036854775807 → ¬ Denotes s.toList v := by
  rw [exists_error_iff]
  constructor
  · intro unread v low high denotes
    exact unread v (int64_ok_iff.2 ⟨denotes, low, high⟩)
  · intro other v read
    obtain ⟨denotes, low, high⟩ := int64_ok_iff.1 read
    exact other v low high denotes

theorem int32_ok_iff {s : String} {v : Int32} : int32 s = .ok v ↔ Denotes s.toList v.toInt := by
  have low := Int32.le_toInt v
  have high := Int32.toInt_lt v
  unfold int32
  rw [map_eq_ok]
  constructor
  · rintro ⟨i, read, rfl⟩
    obtain ⟨denotes, least, greatest⟩ := integer_ok_iff.1 read
    rwa [Int32.toInt_ofInt_of_le (by omega) (by omega)]
  · intro denotes
    exact ⟨v.toInt, integer_ok_iff.2 ⟨denotes, by omega, by omega⟩, Int32.ofInt_toInt v⟩

theorem isDigit_of_mem_toString (n : Nat) : ∀ c ∈ (toString n).toList, c.isDigit = true := by
  intro c member
  have spelled : toString n = String.ofList (Nat.toDigits 10 n) := Nat.repr_eq_ofList_toDigits
  rw [spelled, String.toList_ofList] at member
  exact Nat.isDigit_of_mem_toDigits (by decide) (by decide) member

theorem toList_toString_ne_nil (n : Nat) : (toString n).toList ≠ [] := by
  have spelled : toString n = String.ofList (Nat.toDigits 10 n) := Nat.repr_eq_ofList_toDigits
  rw [spelled, String.toList_ofList]
  exact Nat.toDigits_ne_nil

theorem value_toString (n : Nat) : Nat.ofDigitChars 10 (toString n).toList 0 = n := by
  have spelled : toString n = String.ofList (Nat.toDigits 10 n) := Nat.repr_eq_ofList_toDigits
  rw [spelled, String.toList_ofList]
  exact Nat.ofDigitChars_ten_toDigits

theorem unsigned_toString (n : Nat) : Unsigned (toString n).toList n :=
  ⟨toList_toString_ne_nil n, isDigit_of_mem_toString n, value_toString n⟩

theorem spells_toString (n : Nat) : Spells (toString n).toList n :=
  ⟨_, .inl rfl, unsigned_toString n⟩

theorem denotes_toString (v : Int) : Denotes (toString v).toList v := by
  cases v with
  | ofNat n => exact .inl ⟨n, spells_toString n, rfl⟩
  | negSucc n =>
    have written : (toString (Int.negSucc n)).toList = '-' :: (toString (n + 1)).toList := by
      have signed : toString (Int.negSucc n) = "-" ++ toString (n + 1) := rfl
      rw [signed, String.toList_append]
      rfl
    exact .inr ⟨n + 1, _, written, unsigned_toString (n + 1), rfl⟩

theorem integer_toString {lowest highest : Nat} (fits : n ≤ highest) :
    integer lowest highest (toString n) = .ok n :=
  integer_ok_iff.2 ⟨.inl ⟨n, spells_toString n, rfl⟩, by omega, Int.ofNat_le.2 fits⟩

end Numeral

end AccountDirectory
