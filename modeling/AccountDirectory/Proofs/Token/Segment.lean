import AccountDirectory.Proofs.Text.Bytes
import AccountDirectory.Proofs.Text.Radix64
import AccountDirectory.Token.Basic

/-!
The three parts of a token: a text is cut at its dots into the parts that it was joined from, and the
text of a minted part is plain, so that none of it is empty or holds a dot.
-/

namespace AccountDirectory

namespace Crypto

theorem Sha2.length_hash {w : Nat} (v : Sha2.Variant w) (message : List UInt8) :
    (Sha2.hash v message).length = 8 * (w / 8) := by
  simp only [Sha2.hash, Sha2.State.words, List.flatMap_cons, List.flatMap_nil, List.length_append,
    List.length_nil, Sha2.bytesOfNat, List.length_map, List.length_reverse, List.length_range]
  omega

theorem hmacSha512_ne_nil (key message : List UInt8) : hmacSha512 key message ≠ [] := by
  intro empty
  have length : (hmacSha512 key message).length = 64 := Sha2.length_hash Sha2.sha512 _
  rw [empty] at length
  cases length

end Crypto

namespace Token

open AccountDirectory.Text (utf8 ofAscii)

/-- A text of symbols that may stand in a URL. -/
def Plain (s : String) : Prop :=
  ∃ bytes, bytes ≠ [] ∧ s = ofAscii (Text.Radix64.encode .url bytes)

theorem symbol_ascii {b : UInt8} (member : b ∈ Text.Alphabet.url.symbols) : b.toNat < 128 := by
  have every : ∀ b ∈ Text.Alphabet.url.symbols, b.toNat < 128 := by decide +kernel
  exact every b member

theorem utf8_encoded (bytes : List UInt8) :
    utf8 (ofAscii (Text.Radix64.encode .url bytes)) = Text.Radix64.encode .url bytes :=
  Text.utf8_ofAscii fun _ member => symbol_ascii (Text.Radix64.mem_encode member)

theorem read_encoded {α : Type} (r : Json.Reader α) (bytes : List UInt8) :
    read r (ofAscii (Text.Radix64.encode .url bytes)) =
      (Json.decode r bytes).mapError fun e => .malformed (.payload e.cause) := by
  unfold read
  rw [utf8_encoded, Text.Radix64.decode_encode Text.Radix64.url_unpadded]
  rfl

theorem Plain.toList_ne_nil {s : String} (plain : Plain s) : s.toList ≠ [] := by
  obtain ⟨bytes, filled, rfl⟩ := plain
  have some := Text.Radix64.encode_ne_nil (a := .url) filled
  simpa [ofAscii] using some

theorem Plain.isEmpty_eq_false {s : String} (plain : Plain s) : s.isEmpty = false := by
  have filled := plain.toList_ne_nil
  cases empty : s.isEmpty with
  | false => rfl
  | true =>
    rw [String.isEmpty_iff] at empty
    subst empty
    exact absurd rfl filled

/-- No character of a plain text is a dot, and a header may hold them all. -/
theorem Plain.char {s : String} (plain : Plain s) :
    ∀ c ∈ s.toList, c ≠ '.' ∧ Text.isBlank c = false ∧ 32 ≤ c.toNat ∧ c.toNat < 127 := by
  have every : ∀ b ∈ Text.Alphabet.url.symbols, Char.ofNat b.toNat ≠ '.' ∧
      Text.isBlank (Char.ofNat b.toNat) = false ∧ 32 ≤ (Char.ofNat b.toNat).toNat ∧
      (Char.ofNat b.toNat).toNat < 127 := by decide +kernel
  obtain ⟨bytes, -, rfl⟩ := plain
  intro c member
  simp only [ofAscii, String.toList_ofList, List.mem_map] at member
  obtain ⟨b, inside, rfl⟩ := member
  exact every b (Text.Radix64.mem_encode inside)

section Dots

variable {l first rest : List Char}

theorem splitOnP_dotFree (free : '.' ∉ l) : l.splitOnP (· == '.') = [l] := by
  refine List.splitOnP_eq_singleton fun c member => beq_eq_false_iff_ne.2 fun dot => ?_
  exact free (dot ▸ member)

theorem splitOnP_dot (free : '.' ∉ first) :
    (first ++ '.' :: rest).splitOnP (· == '.') = first :: rest.splitOnP (· == '.') := by
  refine List.splitOnP_append_cons_of_forall_mem (fun c member => ?_) '.' rfl rest
  exact beq_eq_false_iff_ne.2 fun dot => free (dot ▸ member)

/-- The first part ends at the first dot, or with the text. -/
theorem splitOnP_eq_cons {part : List Char} {more : List (List Char)}
    (split : l.splitOnP (· == '.') = part :: more) :
    '.' ∉ part ∧
      ((l = part ∧ more = []) ∨ ∃ rest, l = part ++ '.' :: rest ∧ rest.splitOnP (· == '.') = more) := by
  by_cases dot : '.' ∈ l
  · obtain ⟨first, rest, same, free⟩ := List.eq_append_cons_of_mem dot
    rw [same, splitOnP_dot free, List.cons.injEq] at split
    obtain ⟨rfl, later⟩ := split
    exact ⟨free, .inr ⟨rest, same, later⟩⟩
  · rw [splitOnP_dotFree dot, List.cons.injEq] at split
    obtain ⟨rfl, none⟩ := split
    exact ⟨dot, .inl ⟨rfl, none.symm⟩⟩

end Dots

theorem toList_join (h p s : String) :
    (h ++ "." ++ p ++ "." ++ s).toList = h.toList ++ '.' :: (p.toList ++ '.' :: s.toList) := by
  simp only [String.toList_append, List.append_assoc]
  rfl

/-- A text has three parts exactly when it is joined from three that hold no dot. -/
theorem dotted_eq_iff {token h p s : String} :
    dotted token = [h, p, s] ↔
      token = h ++ "." ++ p ++ "." ++ s ∧ '.' ∉ h.toList ∧ '.' ∉ p.toList ∧ '.' ∉ s.toList := by
  constructor
  · intro parts
    obtain ⟨first, more, split, rfl, afterFirst⟩ := List.map_eq_cons_iff.1 parts
    obtain ⟨second, last, rfl, rfl, afterSecond⟩ := List.map_eq_cons_iff.1 afterFirst
    obtain ⟨third, none, rfl, rfl, afterThird⟩ := List.map_eq_cons_iff.1 afterSecond
    obtain rfl := List.map_eq_nil_iff.1 afterThird
    obtain ⟨freeFirst, ⟨-, short⟩ | ⟨later, text, split⟩⟩ := splitOnP_eq_cons split
    · cases short
    obtain ⟨freeSecond, ⟨-, short⟩ | ⟨ending, textLater, split⟩⟩ := splitOnP_eq_cons split
    · cases short
    obtain ⟨freeThird, ⟨textEnd, -⟩ | ⟨beyond, -, split⟩⟩ := splitOnP_eq_cons split
    · simp only [String.toList_ofList]
      refine ⟨?_, freeFirst, freeSecond, freeThird⟩
      apply String.toList_injective
      rw [toList_join, text, textLater, textEnd]
      simp only [String.toList_ofList]
    · exact absurd split (List.splitOnP_ne_nil _ _)
  · rintro ⟨rfl, freeFirst, freeSecond, freeThird⟩
    unfold dotted
    rw [toList_join, splitOnP_dot freeFirst, splitOnP_dot freeSecond, splitOnP_dotFree freeThird]
    simp

theorem dotted_join {h p s : String} (head : Plain h) (payload : Plain p) (signature : Plain s) :
    dotted (h ++ "." ++ p ++ "." ++ s) = [h, p, s] := by
  have noDot : ∀ {part : String}, Plain part → '.' ∉ part.toList :=
    fun plain dot => (plain.char '.' dot).1 rfl
  exact dotted_eq_iff.2 ⟨rfl, noDot head, noDot payload, noDot signature⟩

theorem segment_plain {s : String} (filled : utf8 s ≠ []) : Plain (segment s) :=
  ⟨utf8 s, filled, rfl⟩

theorem signature_plain (key : SigningKey) (signed : String) : Plain (signature key signed) :=
  ⟨_, Crypto.hmacSha512_ne_nil _ _, rfl⟩

end Token

end AccountDirectory
