import AccountDirectory.Json.Number
import AccountDirectory.Proofs.Json.Reader

/-!
Whole numbers that were written: they are read back, and a reader that passes over them stops
behind their last digit.
-/

namespace AccountDirectory.Json

open AccountDirectory.Text (utf8 utf8_append utf8_ofList)

/-- The number that more digits make of the one before them. -/
def joinDigits (n : Nat) (digits : List UInt8) : Nat :=
  digits.foldl (fun n b => n * 10 + (b.toNat - 0x30)) n

theorem le_joinDigits (n : Nat) (digits : List UInt8) : n ≤ joinDigits n digits := by
  induction digits generalizing n with
  | nil => exact Nat.le_refl n
  | cons b digits ih =>
    have later := ih (n * 10 + (b.toNat - 0x30))
    simp only [joinDigits, List.foldl_cons] at later ⊢
    omega

theorem Ends.not_digit {rest : List UInt8} (follows : Ends rest) : rest.head?.any isDigit = false := by
  cases rest with
  | nil => rfl
  | cons b rest =>
    rcases follows b rfl with rfl | rfl | rfl <;> rfl

theorem Ends.not_point {rest : List UInt8} (follows : Ends rest) : rest.head? ≠ some (byte '.') := by
  intro point
  rcases follows _ point with same | same | same <;> exact absurd same (by decide)

theorem Ends.not_exponentMark {rest : List UInt8} (follows : Ends rest) :
    Reader.isExponentMark rest.head? = false := by
  cases rest with
  | nil => rfl
  | cons b rest =>
    rcases follows b rfl with rfl | rfl | rfl <;> rfl

theorem takeDigits_append {limit : Nat} {digits rest : List UInt8} (ends : rest.head?.any isDigit = false)
    (allDigits : ∀ b ∈ digits, isDigit b = true) {n : Nat} (fits : joinDigits n digits ≤ limit) :
    takeDigits limit n (digits ++ rest) = (joinDigits n digits, digits.length, rest) := by
  induction digits generalizing n with
  | nil =>
    cases rest with
    | nil => rfl
    | cons b rest =>
      have other : isDigit b = false := ends
      simp [takeDigits, other, joinDigits]
  | cons b digits ih =>
    have isOne := allDigits b List.mem_cons_self
    have within : n * 10 + (b.toNat - 0x30) ≤ limit :=
      Nat.le_trans (le_joinDigits _ digits) fits
    have later := ih (fun x inside => allDigits x (List.mem_cons_of_mem _ inside)) fits
    rw [List.cons_append, takeDigits]
    simp only [isOne, within, decide_true, Bool.and_self, if_true, later]
    rfl

theorem dropWhile_digits {digits rest : List UInt8} (ends : rest.head?.any isDigit = false)
    (allDigits : ∀ b ∈ digits, isDigit b = true) : (digits ++ rest).dropWhile isDigit = rest := by
  induction digits with
  | nil =>
    cases rest with
    | nil => rfl
    | cons b rest =>
      have other : isDigit b = false := ends
      simp [other]
  | cons b digits ih =>
    rw [List.cons_append, List.dropWhile_cons_of_pos (allDigits b List.mem_cons_self)]
    exact ih fun x inside => allDigits x (List.mem_cons_of_mem _ inside)

/-- The bytes of the digits of a number. -/
def digitBytes (n : Nat) : List UInt8 :=
  (Nat.toDigits 10 n).map fun c => UInt8.ofNat c.toNat

theorem toNat_digit {c : Char} (digit : c.isDigit = true) : 48 ≤ c.toNat ∧ c.toNat ≤ 57 := by
  simpa [Char.isDigit, UInt32.le_iff_toNat_le] using digit

theorem toNat_digitByte {c : Char} (digit : c.isDigit = true) :
    (UInt8.ofNat c.toNat).toNat = c.toNat := by
  have range := toNat_digit digit
  rw [UInt8.toNat_ofNat']
  omega

theorem isDigit_digitByte {c : Char} (digit : c.isDigit = true) :
    isDigit (UInt8.ofNat c.toNat) = true := by
  have range := toNat_digit digit
  simp only [isDigit, Bool.and_eq_true, decide_eq_true_eq, UInt8.le_iff_toNat_le, toNat_digitByte digit]
  exact range

theorem isDigit_of_mem_digitBytes {n : Nat} : ∀ b ∈ digitBytes n, isDigit b = true := by
  intro b member
  obtain ⟨c, inside, rfl⟩ := List.mem_map.1 member
  exact isDigit_digitByte (Nat.isDigit_of_mem_toDigits (by decide) (by decide) inside)

theorem joinDigits_map {chars : List Char} (digits : ∀ c ∈ chars, c.isDigit = true) (n : Nat) :
    joinDigits n (chars.map fun c => UInt8.ofNat c.toNat) = Nat.ofDigitChars 10 chars n := by
  induction chars generalizing n with
  | nil => rfl
  | cons c chars ih =>
    have value := toNat_digitByte (digits c List.mem_cons_self)
    have later := ih (fun x inside => digits x (List.mem_cons_of_mem _ inside))
      (10 * n + (c.toNat - '0'.toNat))
    rw [Nat.ofDigitChars_cons, ← later, List.map_cons]
    simp only [joinDigits, List.foldl_cons, value, Nat.mul_comm n 10]
    rfl

theorem joinDigits_digitBytes (n : Nat) : joinDigits 0 (digitBytes n) = n := by
  rw [digitBytes, joinDigits_map fun c => Nat.isDigit_of_mem_toDigits (by decide) (by decide)]
  exact Nat.ofDigitChars_ten_toDigits

theorem utf8_digits {chars : List Char} (digits : ∀ c ∈ chars, c.isDigit = true) :
    chars.flatMap String.utf8EncodeChar = chars.map fun c => UInt8.ofNat c.toNat := by
  induction chars with
  | nil => rfl
  | cons c chars ih =>
    have range := toNat_digit (digits c List.mem_cons_self)
    rw [List.flatMap_cons, List.map_cons, Text.utf8EncodeChar_ascii (by omega),
      ih fun x inside => digits x (List.mem_cons_of_mem _ inside)]
    rfl

theorem utf8_toString (n : Nat) : utf8 (toString n) = digitBytes n := by
  have spelled : toString n = String.ofList (Nat.toDigits 10 n) := Nat.repr_eq_ofList_toDigits
  rw [spelled, utf8_ofList, utf8_digits fun c => Nat.isDigit_of_mem_toDigits (by decide) (by decide)]
  rfl

/-- Only zero is written with a zero in front. -/
theorem leading_digit {n : Nat} (positive : 0 < n) :
    ∃ c chars, Nat.toDigits 10 n = c :: chars ∧ c ≠ '0' := by
  induction n using Nat.strongRecOn with
  | ind n ih =>
    by_cases small : n < 10
    · refine ⟨n.digitChar, [], Nat.toDigits_of_lt_base small, ?_⟩
      have nonzero : ∀ d < 10, 0 < d → d.digitChar ≠ '0' := by decide
      exact nonzero n small positive
    · obtain ⟨c, chars, spelled, nonzero⟩ := ih (n / 10) (by omega) (by omega)
      rw [Nat.toDigits_of_base_le (by decide) (Nat.not_lt.1 small), spelled]
      exact ⟨c, chars ++ [(n % 10).digitChar], rfl, nonzero⟩

theorem digitBytes_cons (n : Nat) :
    ∃ b digits, digitBytes n = b :: digits ∧ joinDigits (b.toNat - 0x30) digits = n ∧
      (b = byte '0' → digits = [] ∧ n = 0) := by
  rcases Nat.eq_zero_or_pos n with rfl | positive
  · exact ⟨byte '0', [], rfl, rfl, fun _ => ⟨rfl, rfl⟩⟩
  obtain ⟨c, chars, spelled, nonzero⟩ := leading_digit positive
  have isOne : c.isDigit = true := by
    refine Nat.isDigit_of_mem_toDigits (b := 10) (n := n) (by decide) (by decide) ?_
    rw [spelled]
    exact List.mem_cons_self
  have written : digitBytes n = UInt8.ofNat c.toNat :: chars.map fun c => UInt8.ofNat c.toNat := by
    rw [digitBytes, spelled, List.map_cons]
  refine ⟨_, _, written, ?_, fun zero => absurd ?_ nonzero⟩
  · have whole := joinDigits_digitBytes n
    rw [written] at whole
    simpa [joinDigits] using whole
  · have code := congrArg UInt8.toNat zero
    rw [toNat_digitByte isOne] at code
    exact Char.toNat_inj.1 code

theorem digitBytes_head (n : Nat) : ∃ b digits, digitBytes n = b :: digits ∧ isDigit b = true := by
  obtain ⟨b, digits, written, -, -⟩ := digitBytes_cons n
  exact ⟨b, digits, written, isDigit_of_mem_digitBytes b (written ▸ List.mem_cons_self)⟩

theorem utf8_toString_negative {n : Nat} (positive : 0 < n) :
    utf8 (toString (-(n : Int))) = byte '-' :: digitBytes n := by
  obtain ⟨m, rfl⟩ : ∃ m, n = m + 1 := ⟨n - 1, by omega⟩
  have spelled : toString (-((m + 1 : Nat) : Int)) = "-" ++ toString (m + 1) := rfl
  rw [spelled, utf8_append, utf8_toString]
  rfl

namespace Reader

variable {bound : Nat} {rest : List UInt8}

theorem atDigit_apply (s : List UInt8) : atDigit bound s = .ok (s.head?.any isDigit) s := rfl

theorem digitsUpTo_apply {limit n : Nat} {digits : List UInt8} (follows : Ends rest)
    (allDigits : ∀ b ∈ digits, isDigit b = true) (fits : joinDigits n digits ≤ limit) :
    digitsUpTo limit n bound (digits ++ rest) = .ok (joinDigits n digits, digits.length) rest := by
  have step : digitsUpTo limit n bound (digits ++ rest) =
      .ok ((takeDigits limit n (digits ++ rest)).1, (takeDigits limit n (digits ++ rest)).2.1)
        (takeDigits limit n (digits ++ rest)).2.2 := rfl
  rw [step, takeDigits_append follows.not_digit allDigits fits]

theorem afterDigits_natural (n : Nat) (follows : Ends rest) :
    afterDigits false n bound rest = .ok (.natural n) rest := by
  unfold afterDigits
  rw [bind_ok peek?_apply, if_neg follows.not_point, follows.not_exponentMark]
  rfl

theorem afterDigits_negative {n : Nat} (positive : 0 < n) (fits : n ≤ 0x8000000000000000)
    (follows : Ends rest) : afterDigits true n bound rest = .ok (.negative (-(n : Int))) rest := by
  unfold afterDigits
  rw [bind_ok peek?_apply, if_neg follows.not_point, follows.not_exponentMark]
  simp [positive, fits]

theorem unsigned_apply (isNegative : Bool) {n : Nat} (fits : n ≤ maxSignificand) (follows : Ends rest) :
    unsigned isNegative bound (digitBytes n ++ rest) = afterDigits isNegative n bound rest := by
  obtain ⟨b, digits, written, value, zero⟩ := digitBytes_cons n
  have allDigits : ∀ x ∈ b :: digits, isDigit x = true := written ▸ isDigit_of_mem_digitBytes
  unfold unsigned
  rw [written, List.cons_append, bind_ok (next?_cons b _)]
  by_cases isZero : b = byte '0'
  · obtain ⟨rfl, rfl⟩ := zero isZero
    simp only [isZero, if_true, List.nil_append]
    rw [bind_ok (atDigit_apply rest), follows.not_digit]
    rfl
  · simp only [isZero, allDigits b List.mem_cons_self, if_false, if_true]
    rw [bind_ok (digitsUpTo_apply follows (fun x inside => allDigits x (List.mem_cons_of_mem _ inside))
      (value ▸ fits))]
    simp only [value]
    rw [bind_ok (atDigit_apply rest), follows.not_digit]
    rfl

theorem number_natural {n : Nat} (fits : n ≤ maxSignificand) (follows : Ends rest) :
    number bound (digitBytes n ++ rest) = .ok (.natural n) rest := by
  obtain ⟨b, digits, written, isOne⟩ := digitBytes_head n
  have unsignedNumber : (digitBytes n ++ rest).head? ≠ some (byte '-') := by
    rw [written]
    intro same
    cases same
    exact absurd isOne (by decide)
  unfold number
  rw [bind_ok peek?_apply, if_neg unsignedNumber, unsigned_apply false fits follows,
    afterDigits_natural n follows]

theorem number_negative {n : Nat} (positive : 0 < n) (fits : n ≤ 0x8000000000000000)
    (follows : Ends rest) :
    number bound (byte '-' :: digitBytes n ++ rest) = .ok (.negative (-(n : Int))) rest := by
  have within : n ≤ maxSignificand := Nat.le_trans fits (by decide)
  unfold number
  rw [bind_ok peek?_apply, List.cons_append, List.head?_cons, if_pos rfl, bind_ok advance_apply,
    List.tail_cons, unsigned_apply true within follows, afterDigits_negative positive fits follows]

theorem someDigits_apply {b : UInt8} {digits : List UInt8}
    (allDigits : ∀ x ∈ b :: digits, isDigit x = true) (follows : Ends rest) :
    someDigits bound (b :: digits ++ rest) = .ok () rest := by
  have isOne : (b :: digits ++ rest).head?.any isDigit = true := allDigits b List.mem_cons_self
  have skipped : skipDigits bound (b :: digits ++ rest) =
      .ok () ((b :: digits ++ rest).dropWhile isDigit) := rfl
  unfold someDigits
  rw [bind_ok (atDigit_apply _), isOne, if_pos rfl, skipped,
    dropWhile_digits follows.not_digit allDigits]

theorem skipUnsigned_apply (n : Nat) (follows : Ends rest) :
    skipUnsigned bound (digitBytes n ++ rest) = .ok () rest := by
  obtain ⟨b, digits, written, -, zero⟩ := digitBytes_cons n
  have allDigits : ∀ x ∈ b :: digits, isDigit x = true := written ▸ isDigit_of_mem_digitBytes
  unfold skipUnsigned
  rw [written, bind_ok peek?_apply, List.cons_append, List.head?_cons]
  by_cases isZero : b = byte '0'
  · obtain ⟨rfl, -⟩ := zero isZero
    simp [isZero, bind_apply, atDigit_apply, follows.not_digit, follows.not_point,
      follows.not_exponentMark]
  · have skipped : someDigits bound (b :: (digits ++ rest)) = .ok () rest :=
      someDigits_apply allDigits follows
    simp [isZero, bind_apply, skipped, follows.not_point, follows.not_exponentMark]

end Reader

end AccountDirectory.Json
