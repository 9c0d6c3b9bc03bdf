import AccountDirectory.Proofs.Outcome
import AccountDirectory.Proofs.Text.Radix64

/-!
Base 64 without padding has one written form for each list of bytes: a text that is read is the text
that its bytes are written as.
-/

namespace AccountDirectory.Text

theorem Alphabet.symbol_value? {a : Alphabet} {b : UInt8} {v : Nat} (known : a.value? b = some v) :
    v < 64 ∧ a.symbol v = b := by
  unfold value? at known
  obtain ⟨bound, same, -⟩ := List.idxOf?_eq_some_iff.1 known
  rw [a.length_symbols] at bound
  refine ⟨bound, ?_⟩
  have place : v % 64 = v := Nat.mod_eq_of_lt bound
  simpa [symbol, place] using same

namespace Radix64

variable {a : Alphabet}

theorem value_ok {offset v : Nat} {b : UInt8} (read : value a offset b = .ok v) :
    v < 64 ∧ a.symbol v = b := by
  unfold value at read
  split at read
  · rename_i known
    cases read
    exact Alphabet.symbol_value? known
  · cases read

theorem symbol_eq {n v : Nat} (same : n % 64 = v % 64) : a.symbol n = a.symbol v := by
  simp only [Alphabet.symbol, same]

theorem lastValues_padded {start i p : Nat} {symbols : List UInt8} {vs : List Nat} {pad : Option Nat}
    (read : lastValues a start i (some p) symbols = .ok (vs, pad)) : pad = some p := by
  induction symbols generalizing i with
  | nil =>
    cases read
    rfl
  | cons b rest ih =>
    unfold lastValues at read
    split at read
    · split at read
      · cases read
      · exact ih read
    · cases read

/-- Without a sign that fills up, every symbol of the last group is read as its value. -/
theorem lastValues_ok {start i : Nat} {symbols : List UInt8} {vs : List Nat}
    (read : lastValues a start i none symbols = .ok (vs, none)) :
    symbols = vs.map a.symbol ∧ ∀ v ∈ vs, v < 64 := by
  induction symbols generalizing i vs with
  | nil =>
    cases read
    exact ⟨rfl, by simp⟩
  | cons b rest ih =>
    unfold lastValues at read
    split at read
    · split at read
      · cases read
      · have padded := lastValues_padded read
        cases padded
    · simp only [bind_eq_ok] at read
      obtain ⟨v, first, ⟨more, pad⟩, later, same⟩ := read
      cases same
      obtain ⟨small, written⟩ := value_ok first
      obtain ⟨same, bounds⟩ := ih later
      refine ⟨by rw [List.map_cons, written, ← same], fun x member => ?_⟩
      rcases List.mem_cons.1 member with rfl | inside
      · exact small
      · exact bounds x inside

theorem toNat_ofNat {n : Nat} (small : n < 256) : (UInt8.ofNat n).toNat = n := by
  rw [UInt8.toNat_ofNat']
  omega

theorem group_ofNat {n : Nat} (small : n < 16777216) :
    group (UInt8.ofNat (n / 65536)) (UInt8.ofNat (n / 256)) (UInt8.ofNat n) = n := by
  simp only [group, UInt8.toNat_ofNat']
  omega

theorem encode_group (x y z : UInt8) (rest : List UInt8) :
    encode a (x :: y :: z :: rest) =
      a.symbol (group x y z / 262144) :: a.symbol (group x y z / 4096) ::
        a.symbol (group x y z / 64) :: a.symbol (group x y z) :: encode a rest := rfl

/-- The four symbols of a group are those of the number that the group stands for. -/
theorem encode_sixes {v w x y : Nat} (first : v < 64) (second : w < 64) (third : x < 64)
    (fourth : y < 64) (rest : List UInt8) :
    encode a (UInt8.ofNat ((((v * 64 + w) * 64 + x) * 64 + y) / 65536) ::
      UInt8.ofNat ((((v * 64 + w) * 64 + x) * 64 + y) / 256) ::
        UInt8.ofNat (((v * 64 + w) * 64 + x) * 64 + y) :: rest) =
      a.symbol v :: a.symbol w :: a.symbol x :: a.symbol y :: encode a rest := by
  have number := group_ofNat (n := ((v * 64 + w) * 64 + x) * 64 + y) (by omega)
  have symbolV : a.symbol ((((v * 64 + w) * 64 + x) * 64 + y) / 262144) = a.symbol v :=
    symbol_eq (by omega)
  have symbolW : a.symbol ((((v * 64 + w) * 64 + x) * 64 + y) / 4096) = a.symbol w :=
    symbol_eq (by omega)
  have symbolX : a.symbol ((((v * 64 + w) * 64 + x) * 64 + y) / 64) = a.symbol x :=
    symbol_eq (by omega)
  have symbolY : a.symbol (((v * 64 + w) * 64 + x) * 64 + y) = a.symbol y := symbol_eq (by omega)
  rw [encode_group, number, symbolV, symbolW, symbolX, symbolY]

theorem two_le_length_of_lastBytes {start : Nat} {symbols bytes : List UInt8} {vs : List Nat}
    (read : lastBytes start symbols vs = .ok bytes) : 2 ≤ vs.length := by
  unfold lastBytes at read
  split at read
  · simp
  · simp
  · simp
  · cases read

theorem lastBytes_ok {start : Nat} {symbols bytes : List UInt8} {vs : List Nat}
    (small : ∀ v ∈ vs, v < 64) (read : lastBytes start symbols vs = .ok bytes) :
    vs.map a.symbol = encode a bytes := by
  unfold lastBytes at read
  split at read
  · rename_i v w
    have boundV := small v (by simp)
    have boundW := small w (by simp)
    split at read
    · rename_i aligned
      cases read
      have byte : (UInt8.ofNat ((v * 64 + w) / 16)).toNat = (v * 64 + w) / 16 :=
        toNat_ofNat (by omega)
      have symbolV : a.symbol ((v * 64 + w) / 16 * 16 / 64) = a.symbol v := symbol_eq (by omega)
      have symbolW : a.symbol ((v * 64 + w) / 16 * 16) = a.symbol w := symbol_eq (by omega)
      simp only [encode, byte, symbolV, symbolW, List.map_cons, List.map_nil]
    · cases read
  · rename_i v w x
    have boundV := small v (by simp)
    have boundW := small w (by simp)
    have boundX := small x (by simp)
    split at read
    · rename_i aligned
      cases read
      have number : ((UInt8.ofNat (((v * 64 + w) * 64 + x) / 4 / 256)).toNat * 256 +
          (UInt8.ofNat (((v * 64 + w) * 64 + x) / 4)).toNat) * 4 = (v * 64 + w) * 64 + x := by
        simp only [UInt8.toNat_ofNat']
        omega
      have symbolV : a.symbol (((v * 64 + w) * 64 + x) / 4096) = a.symbol v := symbol_eq (by omega)
      have symbolW : a.symbol (((v * 64 + w) * 64 + x) / 64) = a.symbol w := symbol_eq (by omega)
      have symbolX : a.symbol ((v * 64 + w) * 64 + x) = a.symbol x := symbol_eq (by omega)
      simp only [encode, number, symbolV, symbolW, symbolX, List.map_cons, List.map_nil]
    · cases read
  · rename_i v w x y
    cases read
    have written := encode_sixes (a := a) (small v (by simp)) (small w (by simp))
      (small x (by simp)) (small y (by simp)) []
    exact written.symm
  · cases read

theorem decodeLast_ok {start : Nat} {symbols bytes : List UInt8}
    (read : decodeLast a start symbols = .ok bytes) : symbols = encode a bytes := by
  unfold decodeLast at read
  obtain ⟨⟨vs, pad⟩, values, read⟩ := bind_eq_ok.1 read
  simp only at read
  split at read
  · cases read
  · rename_i filled
    have long := two_le_length_of_lastBytes read
    have unpadded : pad = none := by simpa [long] using filled
    subst unpadded
    obtain ⟨same, small⟩ := lastValues_ok values
    exact same.trans (lastBytes_ok small read)

theorem decodeFrom_ok {start : Nat} {symbols bytes : List UInt8}
    (read : decodeFrom a start symbols = .ok bytes) : symbols = encode a bytes := by
  fun_induction decodeFrom a start symbols generalizing bytes with
  | case1 start p q r s t rest ih =>
    simp only [bind_eq_ok] at read
    obtain ⟨v, first, w, second, x, third, y, fourth, more, later, same⟩ := read
    cases same
    obtain ⟨boundV, writtenV⟩ := value_ok first
    obtain ⟨boundW, writtenW⟩ := value_ok second
    obtain ⟨boundX, writtenX⟩ := value_ok third
    obtain ⟨boundY, writtenY⟩ := value_ok fourth
    rw [encode_sixes boundV boundW boundX boundY, writtenV, writtenW, writtenX, writtenY, ← ih later]
  | case2 start symbols => exact decodeLast_ok read

/-- What is read are the bytes that the text is the written form of. -/
theorem decode_ok_iff (unpadded : a.Unpadded) {symbols bytes : List UInt8} :
    decode a symbols = .ok bytes ↔ symbols = encode a bytes := by
  constructor
  · intro read
    unfold decode at read
    split at read
    · rename_i none
      cases read
      exact List.getLast?_eq_none_iff.1 none
    · split at read
      · cases read
      · exact decodeFrom_ok read
  · rintro rfl
    exact decode_encode unpadded bytes

end Radix64

end AccountDirectory.Text
