import AccountDirectory.Http.Query
import AccountDirectory.Proofs.Outcome
import AccountDirectory.Proofs.Text.Bytes
import AccountDirectory.Proofs.Text.Numeral

/-!
Queries that are written plainly, without escapes, are read as they stand. A part of a list is asked
for by two numbers in decimal.
-/

namespace AccountDirectory

open AccountDirectory.Text (utf8)

namespace Text

theorem Percent.decode_plain {bytes : List UInt8} (plain : sign ∉ bytes) : decode bytes = bytes := by
  induction bytes with
  | nil => rfl
  | cons b rest ih =>
    have other : b ≠ sign := fun same => plain (same ▸ List.mem_cons_self)
    have kept := ih fun later => plain (List.mem_cons_of_mem _ later)
    unfold decode
    rw [if_neg other, kept]

variable {text : String}

theorem range_of_mem_digits (digits : ∀ c ∈ text.toList, c.isDigit = true) {b : UInt8}
    (member : b ∈ utf8 text) : 48 ≤ b.toNat ∧ b.toNat ≤ 57 := by
  rw [utf8_eq_flatMap] at member
  obtain ⟨c, inside, encoded⟩ := List.mem_flatMap.1 member
  have range : 48 ≤ c.toNat ∧ c.toNat ≤ 57 := by
    have digit := digits c inside
    simpa [Char.isDigit, UInt32.le_iff_toNat_le] using digit
  rw [utf8EncodeChar_ascii (by omega), List.mem_singleton] at encoded
  rw [encoded, UInt8.toNat_ofNat']
  omega

theorem sign_not_mem_digits (digits : ∀ c ∈ text.toList, c.isDigit = true) :
    Percent.sign ∉ utf8 text := by
  intro member
  have range := range_of_mem_digits digits member
  exact absurd range.1 (by decide)

theorem ofAscii_utf8 (ascii : ∀ b ∈ utf8 text, b.toNat < 128) : ofAscii (utf8 text) = text :=
  utf8_injective (utf8_ofAscii ascii)

end Text

namespace Http

namespace Query

/-- No byte means anything but itself. -/
def Plain (bytes : List UInt8) : Prop :=
  ∀ b ∈ bytes, b ≠ 0x26 ∧ b ≠ 0x3D ∧ b ≠ 0x2B ∧ b ≠ Text.Percent.sign

-- The bytes of the list are gone through, not all bytes that there are.
instance (bytes : List UInt8) : Decidable (Plain bytes) :=
  List.decidableBAll (fun b => b ≠ 0x26 ∧ b ≠ 0x3D ∧ b ≠ 0x2B ∧ b ≠ Text.Percent.sign) bytes

variable {name value : String} {bytes : List UInt8}

theorem plain_digits (digits : ∀ c ∈ value.toList, c.isDigit = true) : Plain (utf8 value) := by
  intro b member
  have range := Text.range_of_mem_digits digits member
  have apart : ∀ c : UInt8, c.toNat < 48 ∨ 57 < c.toNat → b ≠ c := by
    rintro _ outside rfl
    omega
  exact ⟨apart _ (by decide), apart _ (by decide), apart _ (by decide), apart _ (by decide)⟩

theorem unescape_plain (plain : Plain bytes) : unescape bytes = bytes := by
  have kept : bytes.map (fun b => if b = 0x2B then 0x20 else b) = bytes := by
    refine (List.map_congr_left fun b member => ?_).trans (List.map_id' bytes)
    exact if_neg (plain b member).2.2.1
  have unsigned : Text.Percent.sign ∉ bytes := fun member => (plain _ member).2.2.2 rfl
  rw [unescape, kept, Text.Percent.decode_plain unsigned]

theorem pair_plain {name value : List UInt8} (named : Plain name) (plain : Plain value) :
    pair (name ++ 0x3D :: value) = (name, value) := by
  have before : ∀ b ∈ name, decide (b ≠ 0x3D) = true := fun b member =>
    decide_eq_true (named b member).2.1
  rw [pair, List.takeWhile_append_of_pos before, List.dropWhile_append_of_pos before]
  simp [unescape_plain named, unescape_plain plain]

theorem pairs_single (named : Plain (utf8 name)) (plain : Plain (utf8 value)) :
    pairs (name ++ "=" ++ value) = [(utf8 name, utf8 value)] := by
  have equals : utf8 "=" = [0x3D] := by rfl
  have written : utf8 (name ++ "=" ++ value) = utf8 name ++ 0x3D :: utf8 value := by
    rw [Text.utf8_append, Text.utf8_append, equals, List.append_assoc, List.singleton_append]
  have whole : ∀ b ∈ utf8 name ++ 0x3D :: utf8 value, (b == 0x26) = false := by
    intro b member
    rcases List.mem_append.1 member with inName | later
    · exact beq_eq_false_iff_ne.2 (named b inName).1
    · rcases List.mem_cons.1 later with rfl | inValue
      · rfl
      · exact beq_eq_false_iff_ne.2 (plain b inValue).1
  rw [pairs, written, List.splitOnP_eq_singleton whole]
  simp [pair_plain named plain]

theorem pairs_append (first rest : String) :
    pairs (first ++ "&" ++ rest) = pairs first ++ pairs rest := by
  have ampersand : utf8 "&" = [0x26] := by rfl
  have written : utf8 (first ++ "&" ++ rest) = utf8 first ++ 0x26 :: utf8 rest := by
    rw [Text.utf8_append, Text.utf8_append, ampersand, List.append_assoc, List.singleton_append]
  rw [pairs, written, List.splitOnP_append_cons _ _ (by rfl), List.filter_append, List.map_append]
  rfl

/-- The greatest number that a query can give. -/
def greatest : Nat := 0x7fffffffffffffff

theorem integer_toString {n : Nat} (fits : n ≤ greatest) :
    integer (utf8 (toString n)) = .ok n := by
  have ascii : ∀ b ∈ utf8 (toString n), b.toNat < 128 := by
    intro b member
    have range := Text.range_of_mem_digits (Numeral.isDigit_of_mem_toString n) member
    omega
  have read : Numeral.int64 (toString n) = .ok n := Numeral.integer_toString fits
  rw [integer, Text.ofAscii_utf8 ascii, read]
  rfl

end Query

namespace PageQuery

/-- The query for the part of a list that has these numbers. -/
def text (limit offset : Nat) : String :=
  "limit" ++ "=" ++ toString limit ++ "&" ++ ("offset" ++ "=" ++ toString offset)

theorem assign_limit (q : PageQuery) (unset : q.limit = none) {n : Nat} (fits : n ≤ Query.greatest) :
    q.assign (utf8 "limit", utf8 (toString n)) = .ok { q with limit := some (n : Int) } := by
  have name : utf8 "limit" = Text.ascii "limit" ∧ Text.ascii "limit" ≠ Text.ascii "offset" := by decide
  rw [assign, if_neg (name.1 ▸ name.2), if_pos name.1, unset, Query.integer_toString fits]
  rfl

theorem assign_offset (q : PageQuery) (unset : q.offset = none) {n : Nat} (fits : n ≤ Query.greatest) :
    q.assign (utf8 "offset", utf8 (toString n)) = .ok { q with offset := some (n : Int) } := by
  have name : utf8 "offset" = Text.ascii "offset" := by decide
  rw [assign, if_pos name, unset, Query.integer_toString fits]
  rfl

theorem ofQuery_text {limit offset : Nat} (inRange : limit ≤ Query.greatest)
    (fits : offset ≤ Query.greatest) :
    ofQuery (text limit offset) = .ok { offset := some (offset : Int), limit := some (limit : Int) } := by
  have first := Query.pairs_single (show Query.Plain (utf8 "limit") by decide)
    (Query.plain_digits (Numeral.isDigit_of_mem_toString limit))
  have second := Query.pairs_single (show Query.Plain (utf8 "offset") by decide)
    (Query.plain_digits (Numeral.isDigit_of_mem_toString offset))
  have limited := assign_limit { offset := none, limit := none } rfl inRange
  have placed := assign_offset { offset := none, limit := some (limit : Int) } rfl fits
  rw [ofQuery, text, Query.pairs_append, first, second, List.singleton_append, List.foldlM_cons]
  exact bind_eq_ok.2 ⟨_, limited, bind_eq_ok.2 ⟨_, placed, rfl⟩⟩

end PageQuery

end Http

end AccountDirectory
