import AccountDirectory.Proofs.Text.Bytes
import AccountDirectory.Text.Radix64

/-!
Base 64 without padding: bytes that were written are read back.
-/

namespace AccountDirectory.Text

namespace Alphabet

variable (a : Alphabet)

theorem value?_symbol (v : Nat) : a.value? (a.symbol v) = some (v % 64) := by
  have bound : v % 64 < a.symbols.length := by rw [a.length_symbols]; omega
  unfold value? symbol
  rw [List.idxOf?_eq_some_iff]
  refine ⟨bound, rfl, fun j less => ?_⟩
  have distinct := List.pairwise_iff_getElem.1 a.nodup_symbols j (v % 64) (by omega) bound less
  simpa using distinct

/-- The sign that fills up groups elsewhere. -/
def pad : UInt8 := '='.toNat.toUInt8

/-- The equals sign is no symbol of the alphabet. -/
def Unpadded : Prop := pad ∉ a.symbols

theorem symbol_mem (v : Nat) : a.symbol v ∈ a.symbols := List.get_mem _ _

variable {a}

theorem Unpadded.symbol_ne (unpadded : a.Unpadded) (v : Nat) : a.symbol v ≠ pad :=
  fun same => unpadded (same ▸ a.symbol_mem v)

end Alphabet

namespace Radix64

open Alphabet

variable {a : Alphabet}

theorem value_symbol (offset v : Nat) : value a offset (a.symbol v) = .ok (v % 64) := by
  unfold value
  rw [value?_symbol]

theorem lastValues_symbols (unpadded : a.Unpadded) (start i : Nat) (vs : List Nat) :
    lastValues a start i none (vs.map a.symbol) = .ok (vs.map (· % 64), none) := by
  induction vs generalizing i with
  | nil => rfl
  | cons v rest ih =>
    have plain : ¬ a.symbol v = '='.toNat.toUInt8 := unpadded.symbol_ne v
    simp only [List.map_cons, lastValues, plain, if_false, value_symbol, ih]
    rfl

theorem decodeLast_symbols (unpadded : a.Unpadded) (start : Nat) (vs : List Nat) :
    decodeLast a start (vs.map a.symbol) =
      lastBytes start (vs.map a.symbol) (vs.map (· % 64)) := by
  unfold decodeLast
  rw [lastValues_symbols unpadded]
  simp [Bind.bind, Except.bind]

theorem ofNat_eq {n : Nat} {b : UInt8} (same : n % 256 = b.toNat) : UInt8.ofNat n = b := by
  apply UInt8.toNat_inj.1
  rw [UInt8.toNat_ofNat']
  exact same

theorem decodeLast_one (unpadded : a.Unpadded) (start : Nat) (x : UInt8) :
    decodeLast a start (encode a [x]) = .ok [x] := by
  have bound := x.toNat_lt
  have read := decodeLast_symbols unpadded start [x.toNat * 16 / 64, x.toNat * 16]
  have last : x.toNat * 16 % 64 % 16 = 0 := by omega
  refine read.trans ?_
  simp only [List.map_cons, List.map_nil, lastBytes, last, if_true]
  congr 2
  exact ofNat_eq (by omega)

theorem decodeLast_two (unpadded : a.Unpadded) (start : Nat) (x y : UInt8) :
    decodeLast a start (encode a [x, y]) = .ok [x, y] := by
  have boundX := x.toNat_lt
  have boundY := y.toNat_lt
  have read := decodeLast_symbols unpadded start
    [(x.toNat * 256 + y.toNat) * 4 / 4096, (x.toNat * 256 + y.toNat) * 4 / 64,
      (x.toNat * 256 + y.toNat) * 4]
  have last : (x.toNat * 256 + y.toNat) * 4 % 64 % 4 = 0 := by omega
  refine read.trans ?_
  simp only [List.map_cons, List.map_nil, lastBytes, last, if_true]
  congr 2
  · exact ofNat_eq (by omega)
  · congr 1
    exact ofNat_eq (by omega)

/-- The number that a group of three bytes stands for. -/
def group (x y z : UInt8) : Nat := (x.toNat * 256 + y.toNat) * 256 + z.toNat

theorem group_sixes (x y z : UInt8) :
    ((group x y z / 262144 % 64 * 64 + group x y z / 4096 % 64) * 64 + group x y z / 64 % 64) * 64 +
      group x y z % 64 = group x y z := by
  have boundX := x.toNat_lt
  have boundY := y.toNat_lt
  have boundZ := z.toNat_lt
  unfold group
  omega

theorem group_bytes (x y z : UInt8) :
    [UInt8.ofNat (group x y z / 65536), UInt8.ofNat (group x y z / 256), UInt8.ofNat (group x y z)] =
      [x, y, z] := by
  have boundX := x.toNat_lt
  have boundY := y.toNat_lt
  have boundZ := z.toNat_lt
  have first : UInt8.ofNat (group x y z / 65536) = x := ofNat_eq (by unfold group; omega)
  have second : UInt8.ofNat (group x y z / 256) = y := ofNat_eq (by unfold group; omega)
  have third : UInt8.ofNat (group x y z) = z := ofNat_eq (by unfold group; omega)
  rw [first, second, third]

theorem decodeLast_three (unpadded : a.Unpadded) (start : Nat) (x y z : UInt8) :
    decodeLast a start (encode a [x, y, z]) = .ok [x, y, z] := by
  have read := decodeLast_symbols unpadded start
    [group x y z / 262144, group x y z / 4096, group x y z / 64, group x y z]
  refine read.trans ?_
  simp only [List.map_cons, List.map_nil, lastBytes, group_sixes, group_bytes]

theorem encode_ne_nil {bytes : List UInt8} (filled : bytes ≠ []) : encode a bytes ≠ [] := by
  match bytes with
  | [x] | [x, y] | x :: y :: z :: rest => simp [encode]

theorem decodeFrom_encode (unpadded : a.Unpadded) (start : Nat) {bytes : List UInt8}
    (filled : bytes ≠ []) : decodeFrom a start (encode a bytes) = .ok bytes := by
  match bytes with
  | [x] => exact decodeLast_one unpadded start x
  | [x, y] => exact decodeLast_two unpadded start x y
  | [x, y, z] => exact decodeLast_three unpadded start x y z
  | x :: y :: z :: w :: rest =>
    have more := decodeFrom_encode unpadded (start + 4) (List.cons_ne_nil w rest)
    cases written : encode a (w :: rest) with
    | nil => exact absurd written (encode_ne_nil (List.cons_ne_nil w rest))
    | cons t later =>
      rw [written] at more
      have bytes := group_bytes x y z
      simp only [List.cons.injEq, and_true] at bytes
      obtain ⟨first, second, third⟩ := bytes
      have whole : encode a (x :: y :: z :: w :: rest) =
          a.symbol (group x y z / 262144) :: a.symbol (group x y z / 4096) ::
            a.symbol (group x y z / 64) :: a.symbol (group x y z) :: t :: later := by
        rw [← written]
        rfl
      simp only [whole, decodeFrom, value_symbol, more, Bind.bind, Except.bind, group_sixes, first,
        second, third]
      rfl

theorem mem_encode {bytes : List UInt8} {b : UInt8} (member : b ∈ encode a bytes) :
    b ∈ a.symbols := by
  match bytes with
  | [] => cases member
  | [x] =>
    simp only [encode, List.mem_cons, List.not_mem_nil, or_false] at member
    rcases member with rfl | rfl <;> exact a.symbol_mem _
  | [x, y] =>
    simp only [encode, List.mem_cons, List.not_mem_nil, or_false] at member
    rcases member with rfl | rfl | rfl <;> exact a.symbol_mem _
  | x :: y :: z :: rest =>
    simp only [encode, List.mem_cons] at member
    rcases member with rfl | rfl | rfl | rfl | inside
    · exact a.symbol_mem _
    · exact a.symbol_mem _
    · exact a.symbol_mem _
    · exact a.symbol_mem _
    · exact mem_encode inside

theorem decode_encode (unpadded : a.Unpadded) (bytes : List UInt8) :
    decode a (encode a bytes) = .ok bytes := by
  by_cases empty : bytes = []
  · rw [empty]
    rfl
  · unfold decode
    cases end? : (encode a bytes).getLast? with
    | none => exact absurd (List.getLast?_eq_none_iff.1 end?) (encode_ne_nil empty)
    | some last =>
      have member := mem_encode (List.mem_of_getLast? end?)
      have known : (a.value? last).isNone = false := by
        simpa [value?] using member
      simp only [known, Bool.false_eq_true, and_false, if_false]
      exact decodeFrom_encode unpadded 0 empty

theorem length_encode (bytes : List UInt8) : (encode a bytes).length = (bytes.length * 8 + 5) / 6 := by
  match bytes with
  | [] => rfl
  | [x] => simp [encode]
  | [x, y] => simp [encode]
  | x :: y :: z :: rest =>
    have later := length_encode rest
    simp only [encode, List.length_cons, later]
    omega

theorem digest_unpadded : Alphabet.digest.Unpadded := by
  unfold Unpadded
  decide +kernel

theorem url_unpadded : Alphabet.url.Unpadded := by
  unfold Unpadded
  decide +kernel

end Radix64

end AccountDirectory.Text
