import AccountDirectory.Json.Scalar
import AccountDirectory.Json.Skip
import AccountDirectory.Json.Value
import AccountDirectory.Proofs.Json.Number
import AccountDirectory.Proofs.Json.Text
import AccountDirectory.Proofs.Time.Instant

/-!
Scalars that were written: the reader of their type takes them, and any of them can be passed over.
-/

namespace AccountDirectory.Json

open AccountDirectory.Text (utf8)
open AccountDirectory.Time (Instant)

/-- A value without brackets. -/
inductive Value.Scalar : Value → Prop where
  | null : Scalar .null
  | bool (b : Bool) : Scalar (.bool b)
  | number (n : Int) : Scalar (.number n)
  | string (s : String) : Scalar (.string s)

namespace Reader

variable {bound : Nat} {rest : List UInt8}

theorem isDigit_visible {b : UInt8} (digit : isDigit b = true) : isSpace b = false := by
  simp only [isDigit, Bool.and_eq_true, decide_eq_true_eq, UInt8.le_iff_toNat_le] at digit
  have low : 48 ≤ b.toNat := digit.1
  simp only [isSpace, Bool.or_eq_false_iff, beq_eq_false_iff_ne, ne_eq]
  refine ⟨⟨⟨?_, ?_⟩, ?_⟩, ?_⟩ <;> rintro rfl <;> exact absurd low (by decide)

theorem startOfValue_digits (bound n : Nat) (rest : List UInt8) :
    ∃ b, isDigit b = true ∧ startOfValue bound (digitBytes n ++ rest) =
      .ok b (digitBytes n ++ rest) := by
  obtain ⟨b, digits, written, digit⟩ := digitBytes_head n
  rw [written]
  exact ⟨b, digit, startOfValue_apply (isDigit_visible digit)⟩

theorem stringAs_takes (expected s : String) : Takes (stringAs expected) (utf8 (stringText s)) s := by
  intro bound rest enough follows
  have start : startOfValue bound (utf8 (stringText s) ++ rest) =
      .ok (byte '"') (utf8 (stringText s) ++ rest) := by
    rw [utf8_stringText]
    exact startOfValue_apply rfl
  unfold stringAs
  rw [bind_ok start, if_pos rfl, string_apply]

theorem text_takes (s : String) : Takes text (utf8 (Value.string s).render) s :=
  stringAs_takes _ s

theorem boolean_takes (b : Bool) : Takes boolean (utf8 (Value.bool b).render) b := by
  intro bound rest enough follows
  cases b with
  | true =>
    have taken : restOfWord "true" bound (byte 't' :: Text.ascii "rue" ++ rest) = .ok () rest :=
      restOfWord_apply (byte 't') rest rfl
    exact (bind_ok (startOfValue_apply rfl)).trans (bind_ok taken)
  | false =>
    have taken : restOfWord "false" bound (byte 'f' :: Text.ascii "alse" ++ rest) = .ok () rest :=
      restOfWord_apply (byte 'f') rest rfl
    exact (bind_ok (startOfValue_apply rfl)).trans (bind_ok taken)

theorem utf8_number_cases (n : Int) :
    (∃ m : Nat, n = m ∧ utf8 (Value.number n).render = digitBytes m) ∨
      ∃ m : Nat, 0 < m ∧ n = -m ∧ utf8 (Value.number n).render = byte '-' :: digitBytes m := by
  have spelled : (Value.number n).render = toString n := by rw [Value.render]
  rw [spelled]
  rcases Int.lt_or_le n 0 with negative | natural
  · obtain ⟨m, rfl⟩ : ∃ m : Nat, n = -m := ⟨n.natAbs, by omega⟩
    have positive : 0 < m := by omega
    exact .inr ⟨m, positive, rfl, utf8_toString_negative positive⟩
  · obtain ⟨m, rfl⟩ : ∃ m : Nat, n = m := ⟨n.natAbs, by omega⟩
    exact .inl ⟨m, rfl, utf8_toString m⟩

theorem integer_takes {lowest highest n : Int} (expected : String) (refuse : Int → Cause)
    (low : lowest ≤ n) (high : n ≤ highest) (floor : -0x8000000000000000 ≤ lowest)
    (ceiling : highest ≤ 0xffffffffffffffff) :
    Takes (integer lowest highest expected refuse) (utf8 (Value.number n).render) n := by
  intro bound rest enough follows
  unfold integer
  rcases utf8_number_cases n with ⟨m, rfl, written⟩ | ⟨m, positive, rfl, written⟩
  · have fits : m ≤ maxSignificand := by
      have top : maxSignificand = 0xffffffffffffffff := rfl
      omega
    obtain ⟨b, digit, start⟩ := startOfValue_digits bound m rest
    rw [written, bind_ok start]
    simp only [startsNumber, digit, Bool.or_true, if_true]
    rw [bind_ok (number_natural fits follows)]
    simp only [low, high, and_self, if_true]
    rfl
  · have fits : m ≤ 0x8000000000000000 := by omega
    rw [written, List.cons_append, bind_ok (startOfValue_apply rfl)]
    have isNumber : startsNumber (byte '-') = true := rfl
    rw [if_pos isNumber, ← List.cons_append, bind_ok (number_negative positive fits follows)]
    simp only [low, high, and_self, if_true]
    rfl

theorem int32_takes (n : Int32) : Takes int32 (utf8 (Value.int32 n).render) n := by
  have low := Int32.le_toInt n
  have high := Int32.toInt_lt n
  intro bound rest enough follows
  unfold int32 Value.int32
  rw [bind_ok (integer_takes "i32" _ (by omega) (by omega) (by decide) (by decide) bound rest enough
    follows), Int32.ofInt_toInt]
  rfl

theorem instantOfSeconds_takes (t : Instant) :
    Takes instantOfSeconds (utf8 (Value.number t.seconds).render) t.wholeSecond := by
  have low := t.firstSecond_le
  have high := t.le_lastSecond
  intro bound rest enough follows
  have legal : Instant.ofSeconds? t.seconds 0 = some t.wholeSecond := by
    unfold Instant.ofSeconds?
    rw [dif_pos ⟨low, high, by decide⟩]
    rfl
  unfold instantOfSeconds
  rw [bind_ok (integer_takes _ _ (by omega) (by omega) (by decide) (by decide) bound rest enough follows),
    legal]
  rfl

theorem skip_of_skipScalar {b : UInt8} {w : List UInt8} (visible : isSpace b = false)
    (notList : b ≠ byte '[') (notObject : b ≠ byte '\x7b')
    (passes : ∀ bound rest, Ends rest → skipScalar b bound (b :: w ++ rest) = .ok () rest) :
    Takes skip (b :: w) () := by
  intro bound rest enough follows
  obtain ⟨rounds, rfl⟩ : ∃ rounds, bound = rounds + 1 := ⟨bound - 1, by omega⟩
  have passed := passes (rounds + 1) rest follows
  rw [List.cons_append] at passed ⊢
  have start : startOfValue (rounds + 1) (b :: (w ++ rest)) = .ok b (b :: (w ++ rest)) :=
    startOfValue_apply visible
  have closed : skipClosings true [] (rounds + 1) (rounds + 1) rest = .ok [] rest := rfl
  unfold skip
  rw [bind_ok read_apply]
  unfold skipValues
  rw [bind_ok start]
  simp [notList, notObject, bind_apply, passed, closed]

theorem skip_takes_word {b : UInt8} {w : List UInt8} (text : String) (spelled : Text.ascii text = b :: w)
    (visible : isSpace b = false) (notList : b ≠ byte '[') (notObject : b ≠ byte '\x7b')
    (chosen : skipScalar b = restOfWord text) : Takes skip (b :: w) () := by
  refine skip_of_skipScalar visible notList notObject fun bound rest follows => ?_
  rw [chosen]
  exact restOfWord_apply b rest spelled

theorem skip_takes_number (n : Int) : Takes skip (utf8 (Value.number n).render) () := by
  rcases utf8_number_cases n with ⟨m, -, written⟩ | ⟨m, -, -, written⟩
  · obtain ⟨b, digits, spelled, digit⟩ := digitBytes_head m
    have other : ∀ c, isDigit (byte c) = false → b ≠ byte c := by
      rintro c notDigit rfl
      exact Bool.noConfusion (notDigit.symm.trans digit)
    have chosen : skipScalar b = skipUnsigned := by
      unfold skipScalar
      simp only [other 'n' rfl, other 't' rfl, other 'f' rfl, other '-' rfl, digit, if_false, if_true]
    rw [written, spelled]
    refine skip_of_skipScalar (isDigit_visible digit) (other _ rfl) (other _ rfl)
      fun bound rest follows => ?_
    rw [chosen, ← spelled]
    exact skipUnsigned_apply m follows
  · rw [written]
    refine skip_of_skipScalar rfl (by decide) (by decide) fun bound rest follows => ?_
    exact (bind_ok advance_apply).trans (skipUnsigned_apply m follows)

/-- A scalar is passed over like any value. -/
theorem skip_takes {v : Value} (scalar : v.Scalar) : Takes skip (utf8 v.render) () := by
  cases scalar with
  | null => exact skip_takes_word "null" rfl rfl (by decide) (by decide) rfl
  | bool b =>
    cases b with
    | true => exact skip_takes_word "true" rfl rfl (by decide) (by decide) rfl
    | false => exact skip_takes_word "false" rfl rfl (by decide) (by decide) rfl
  | number n => exact skip_takes_number n
  | string s =>
    have written : utf8 (Value.string s).render = byte '"' :: quotedRest s := utf8_stringText s
    rw [written]
    refine skip_of_skipScalar rfl (by decide) (by decide) fun bound rest follows => ?_
    rw [← written]
    exact skipString_apply s bound rest

end Reader

end AccountDirectory.Json
