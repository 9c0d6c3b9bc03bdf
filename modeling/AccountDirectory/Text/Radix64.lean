import AccountDirectory.Text.Bytes

/-!
Bytes written in base 64: six bits a symbol, without padding. Reading is strict: every text that is
accepted is the written form of what it is read as.
-/

namespace AccountDirectory.Text

/-- The 64 symbols of a coding, in the order of their values. -/
structure Alphabet where
  symbols : List UInt8
  length_symbols : symbols.length = 64
  nodup_symbols : symbols.Nodup

namespace Alphabet

/-- The symbols that may stand in a URL. -/
def url : Alphabet where
  symbols := ascii "ABCDEFGHIJKLMNOPQRSTUVWXYZabcdefghijklmnopqrstuvwxyz0123456789-_"
  length_symbols := by decide +kernel
  nodup_symbols := by decide +kernel

/-- The symbols of salted digests. -/
def digest : Alphabet where
  symbols := ascii "./ABCDEFGHIJKLMNOPQRSTUVWXYZabcdefghijklmnopqrstuvwxyz0123456789"
  length_symbols := by decide +kernel
  nodup_symbols := by decide +kernel

/-- The symbol of the lowest six bits. -/
def symbol (a : Alphabet) (v : Nat) : UInt8 :=
  a.symbols.get ⟨v % 64, by have := a.length_symbols; omega⟩

def value? (a : Alphabet) (b : UInt8) : Option Nat :=
  a.symbols.idxOf? b

end Alphabet

/-- Why a text is not the written form of bytes. Offsets count symbols from the start. -/
inductive Radix64Error where
  | invalidSymbol (offset : Nat) (byte : UInt8)
  | invalidLastSymbol (offset : Nat) (byte : UInt8)
  | invalidLength (length : Nat)
  | invalidPadding
deriving DecidableEq, Repr

namespace Radix64Error

def message : Radix64Error → String
  | invalidSymbol offset byte => s!"Invalid symbol {byte}, offset {offset}."
  | invalidLastSymbol offset byte => s!"Invalid last symbol {byte}, offset {offset}."
  | invalidLength length => s!"Invalid input length: {length}"
  | invalidPadding => "Invalid padding"

end Radix64Error

namespace Radix64

/-- The written form of bytes: four symbols for every three. -/
def encode (a : Alphabet) : List UInt8 → List UInt8
  | [] => []
  | [x] =>
    let n := x.toNat * 16
    [a.symbol (n / 64), a.symbol n]
  | [x, y] =>
    let n := (x.toNat * 256 + y.toNat) * 4
    [a.symbol (n / 4096), a.symbol (n / 64), a.symbol n]
  | x :: y :: z :: rest =>
    let n := (x.toNat * 256 + y.toNat) * 256 + z.toNat
    a.symbol (n / 262144) :: a.symbol (n / 4096) :: a.symbol (n / 64) :: a.symbol n ::
      encode a rest

/-- The value of the symbol at an offset. -/
def value (a : Alphabet) (offset : Nat) (b : UInt8) : Except Radix64Error Nat :=
  match a.value? b with
  | some v => .ok v
  | none => .error (.invalidSymbol offset b)

/-- The values of the last group of at most four symbols. `pad` is the place of the first equals
    sign met; after one, nothing else may follow. -/
def lastValues (a : Alphabet) (start : Nat) :
    Nat → Option Nat → List UInt8 → Except Radix64Error (List Nat × Option Nat)
  | _, pad, [] => .ok ([], pad)
  | i, pad, b :: rest =>
    if b = '='.toNat.toUInt8 then
      if i < 2 then .error (.invalidSymbol (start + i) b)
      else lastValues a start (i + 1) (pad.or (some i)) rest
    else
      match pad with
      | some p => .error (.invalidSymbol (start + p) '='.toNat.toUInt8)
      | none => do
        let v ← value a (start + i) b
        let (vs, pad) ← lastValues a start (i + 1) none rest
        return (v :: vs, pad)

/-- The bytes of the last group, whose unused bits must be zero. -/
def lastBytes (start : Nat) (symbols : List UInt8) : List Nat → Except Radix64Error (List UInt8)
  | [v, w] =>
    if w % 16 = 0 then .ok [UInt8.ofNat ((v * 64 + w) / 16)]
    else .error (.invalidLastSymbol (start + 1) (symbols.getD 1 0))
  | [v, w, x] =>
    if x % 4 = 0 then
      let n := ((v * 64 + w) * 64 + x) / 4
      .ok [UInt8.ofNat (n / 256), UInt8.ofNat n]
    else .error (.invalidLastSymbol (start + 2) (symbols.getD 2 0))
  | [v, w, x, y] =>
    let n := ((v * 64 + w) * 64 + x) * 64 + y
    .ok [UInt8.ofNat (n / 65536), UInt8.ofNat (n / 256), UInt8.ofNat n]
  | vs => .error (.invalidLength (start + vs.length))

def decodeLast (a : Alphabet) (start : Nat) (symbols : List UInt8) :
    Except Radix64Error (List UInt8) := do
  let (vs, pad) ← lastValues a start 0 none symbols
  if 2 ≤ vs.length ∧ pad.isSome then throw .invalidPadding
  lastBytes start symbols vs

def decodeFrom (a : Alphabet) (start : Nat) : List UInt8 → Except Radix64Error (List UInt8)
  | p :: q :: r :: s :: t :: rest => do
    let v ← value a start p
    let w ← value a (start + 1) q
    let x ← value a (start + 2) r
    let y ← value a (start + 3) s
    let n := ((v * 64 + w) * 64 + x) * 64 + y
    let more ← decodeFrom a (start + 4) (t :: rest)
    return UInt8.ofNat (n / 65536) :: UInt8.ofNat (n / 256) :: UInt8.ofNat n :: more
  | symbols => decodeLast a start symbols

/-- Reads bytes back. A text with a single symbol left over is refused for that symbol first, if
    the symbol is not one of the alphabet. -/
def decode (a : Alphabet) (symbols : List UInt8) : Except Radix64Error (List UInt8) :=
  match symbols.getLast? with
  | none => .ok []
  | some last =>
    if symbols.length % 4 = 1 ∧ last ≠ '='.toNat.toUInt8 ∧ (a.value? last).isNone then
      .error (.invalidSymbol (symbols.length - 1) last)
    else decodeFrom a 0 symbols

end Radix64

end AccountDirectory.Text
