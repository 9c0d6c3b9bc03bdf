import AccountDirectory.Text.Bytes

/-!
Texts as bytes: the bytes of a text are those of its characters in order, they determine the text,
and a character is a single byte exactly when it is ASCII.
-/

namespace AccountDirectory.Text

theorem utf8_append (a b : String) : utf8 (a ++ b) = utf8 a ++ utf8 b := by
  simp [utf8, String.toByteArray_append]

theorem utf8_ofList (l : List Char) : utf8 (String.ofList l) = l.flatMap String.utf8EncodeChar := by
  simp [utf8, List.utf8Encode]

theorem utf8_eq_flatMap (s : String) : utf8 s = s.toList.flatMap String.utf8EncodeChar := by
  rw [← utf8_ofList, String.ofList_toList]

theorem length_utf8 (s : String) : (utf8 s).length = s.utf8ByteSize := by
  simp [utf8]

theorem fromUTF8?_utf8 (s : String) : String.fromUTF8? ⟨(utf8 s).toArray⟩ = some s := by
  have bytes : (⟨(utf8 s).toArray⟩ : ByteArray) = s.toByteArray := by simp [utf8]
  rw [bytes, String.fromUTF8?, dif_pos s.isValidUTF8]
  rfl

theorem utf8_injective {s t : String} (same : utf8 s = utf8 t) : s = t := by
  have read := fromUTF8?_utf8 s
  rw [same, fromUTF8?_utf8] at read
  exact (Option.some.inj read).symm

theorem utf8EncodeChar_ascii {c : Char} (ascii : c.toNat < 128) :
    String.utf8EncodeChar c = [UInt8.ofNat c.toNat] := by
  have small : c.val.toNat ≤ 0x7f := Nat.le_of_lt_succ ascii
  simp only [String.utf8EncodeChar, small, if_true]
  rfl

/-- Every byte of a character that is not ASCII has its highest bit set. -/
theorem high_of_mem_utf8EncodeChar {c : Char} (wide : 128 ≤ c.toNat) {b : UInt8}
    (member : b ∈ String.utf8EncodeChar c) : 128 ≤ b.toNat := by
  have large : ¬ c.val.toNat ≤ 0x7f := Nat.not_le_of_lt wide
  simp only [String.utf8EncodeChar, large, if_false] at member
  split at member
  · simp only [List.mem_cons, List.not_mem_nil, or_false] at member
    rcases member with rfl | rfl <;> simp only [UInt8.toNat_ofNat'] <;> omega
  · split at member
    · simp only [List.mem_cons, List.not_mem_nil, or_false] at member
      rcases member with rfl | rfl | rfl <;> simp only [UInt8.toNat_ofNat'] <;> omega
    · simp only [List.mem_cons, List.not_mem_nil, or_false] at member
      rcases member with rfl | rfl | rfl | rfl <;> simp only [UInt8.toNat_ofNat'] <;> omega

theorem zero_mem_utf8 {s : String} : 0 ∈ utf8 s ↔ '\x00' ∈ s.toList := by
  rw [utf8_eq_flatMap, List.mem_flatMap]
  constructor
  · rintro ⟨c, member, byte⟩
    by_cases ascii : c.toNat < 128
    · rw [utf8EncodeChar_ascii ascii, List.mem_singleton] at byte
      have code := congrArg UInt8.toNat byte
      rw [UInt8.toNat_ofNat'] at code
      have zero : c.toNat = 0 := by
        have none : (0 : UInt8).toNat = 0 := rfl
        omega
      have same : c = '\x00' := Char.toNat_inj.1 zero
      exact same ▸ member
    · have high := high_of_mem_utf8EncodeChar (Nat.le_of_not_lt ascii) byte
      exact absurd high (by decide)
  · intro member
    exact ⟨'\x00', member, by decide⟩

theorem toNat_char {b : UInt8} : (Char.ofNat b.toNat).toNat = b.toNat := by
  have bound := b.toNat_lt
  have valid : b.toNat.isValidChar := .inl (by omega)
  rw [Char.ofNat, dif_pos valid]
  rfl

theorem utf8_ofAscii {bytes : List UInt8} (ascii : ∀ b ∈ bytes, b.toNat < 128) :
    utf8 (ofAscii bytes) = bytes := by
  rw [ofAscii, utf8_ofList]
  induction bytes with
  | nil => rfl
  | cons b rest ih =>
    have head := ascii b List.mem_cons_self
    have tail := ih fun x inside => ascii x (List.mem_cons_of_mem _ inside)
    rw [List.map_cons, List.flatMap_cons, utf8EncodeChar_ascii (by rw [toNat_char]; exact head),
      toNat_char, UInt8.ofNat_toNat, tail]
    rfl

end AccountDirectory.Text
