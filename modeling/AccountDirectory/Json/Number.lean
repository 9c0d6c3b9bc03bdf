import AccountDirectory.Decimal.Shortest
import AccountDirectory.Json.Reader

/-!
Numbers in a JSON text: whole numbers of 64 bits, and everything else in binary floating point.
-/

namespace AccountDirectory.Json

/-- A number as it is read. -/
inductive Number where
  /-- Below two to the 64. -/
  | natural (n : Nat)
  /-- A negative number of 64 bits. -/
  | negative (n : Int)
  /-- By its bits. -/
  | float (bits : UInt64)
deriving DecidableEq, Repr

/-- Floats are written positionally while the first digit stands no further than 16 places before
    the point or 5 after it, else with an exponent that has a sign and no leading zeros. -/
def floatText (bits : UInt64) : String :=
  let sign := if bits < 0x8000000000000000 then "" else "-"
  let x := Decimal.Binary.ofBits bits
  if x.m = 0 then sign ++ "0.0"
  else
    let d := x.shortest
    let ds := (toString d.digits).toList
    let lead := d.exponent + (ds.length : Int) - 1
    if 0 ≤ d.exponent ∧ lead < 16 then
      sign ++ String.ofList (ds ++ List.replicate d.exponent.toNat '0') ++ ".0"
    else if 0 ≤ lead ∧ lead < 16 then
      let k := lead.toNat + 1
      sign ++ String.ofList (ds.take k) ++ "." ++ String.ofList (ds.drop k)
    else if -5 ≤ lead ∧ lead < 0 then
      sign ++ "0." ++ String.ofList (List.replicate (-lead - 1).toNat '0' ++ ds)
    else
      sign ++ String.ofList (ds.take 1) ++
        (if ds.length = 1 then "" else "." ++ String.ofList (ds.drop 1)) ++
        (if lead < 0 then "e-" else "e+") ++ toString lead.natAbs

def Number.found : Number → Found
  | .natural n => .integer n
  | .negative n => .integer n
  | .float bits => .float (floatText bits)

/-- Appends digits to `n` while the result stays at most `limit`: the result, the number of digits
    taken, and what follows. -/
def takeDigits (limit n : Nat) : List UInt8 → Nat × Nat × List UInt8
  | [] => (n, 0, [])
  | b :: rest =>
    let m := n * 10 + (b.toNat - 0x30)
    if isDigit b && m ≤ limit then
      let (r, count, rest) := takeDigits limit m rest
      (r, count + 1, rest)
    else (n, 0, b :: rest)

/-- The largest significand. -/
def maxSignificand : Nat := 0xffffffffffffffff

/-- The largest magnitude of a written exponent. -/
def maxExponent : Nat := 0x7fffffff

/-- A significand times a power of ten: one multiplication or division for exponents up to 308,
    and further divisions by the largest power below that. -/
def floatOfParts (isNegative : Bool) (significand : Nat) (exponent : Int) : Option Float :=
  let signed (x : Float) := if isNegative then -x else x
  go signed 4 significand.toUInt64.toFloat exponent
where
  go (signed : Float → Float) : Nat → Float → Int → Option Float
    | 0, _, _ => some (signed 0)
    | n + 1, x, e =>
      if e.natAbs ≤ 308 then
        let power := Float.ofScientific 1 false e.natAbs
        if e < 0 then some (signed (x / power))
        else if (x * power).isInf then none
        else some (signed (x * power))
      else if x == 0 then some (signed x)
      else if 0 ≤ e then none
      else go signed n (x / Float.ofScientific 1 false 308) (e + 308)

namespace Reader

def float (isNegative : Bool) (significand : Nat) (exponent : Int) : Reader Number :=
  match floatOfParts isNegative significand exponent with
  | some x => return .float x.toBits
  | none => fail .numberOutOfRange

/-- Whether the next byte is a digit. -/
def atDigit : Reader Bool :=
  return (← peek?).any isDigit

def digitsUpTo (limit n : Nat) : Reader (Nat × Nat) := do
  let (r, count, rest) := takeDigits limit n (← get)
  set rest
  return (r, count)

def skipDigits : Reader Unit :=
  modify (·.dropWhile isDigit)

/-- The sign of an exponent; it is positive unless a minus stands there. -/
def exponentSign : Reader Bool := do
  let b ← peek?
  if b = some (byte '+') then advance; return true
  else if b = some (byte '-') then advance; return false
  else return true

def isExponentMark (b : Option UInt8) : Bool :=
  b == some (byte 'e') || b == some (byte 'E')

/-- An exponent, from its letter on. -/
def exponentPart (isNegative : Bool) (significand : Nat) (start : Int) : Reader Number := do
  advance
  let positive ← exponentSign
  match ← next? with
  | none => fail .endInValue
  | some b =>
    if !isDigit b then fail .invalidNumber
    let (e, _) ← digitsUpTo maxExponent (b.toNat - 0x30)
    if ← atDigit then
      advance
      if significand ≠ 0 && positive then fail .numberOutOfRange
      skipDigits
      float isNegative 0 0
    else float isNegative significand (if positive then start + e else start - e)

/-- An exponent, if there is one. -/
def exponentOrEnd (isNegative : Bool) (significand : Nat) (exponent : Int) : Reader Number := do
  if isExponentMark (← peek?) then exponentPart isNegative significand exponent
  else float isNegative significand exponent

/-- A fraction, from its point on. Digits beyond the largest significand are dropped. -/
def fractionPart (isNegative : Bool) (significand : Nat) (exponent : Int) : Reader Number := do
  advance
  let (n, count) ← digitsUpTo maxSignificand significand
  if ← atDigit then skipDigits
  else if count = 0 then fail (if (← peek?).isSome then .invalidNumber else .endInValue)
  exponentOrEnd isNegative n (exponent - count)

/-- What follows the digits before the point. -/
def afterDigits (isNegative : Bool) (n : Nat) : Reader Number := do
  let b ← peek?
  if b = some (byte '.') then fractionPart isNegative n 0
  else if isExponentMark b then exponentPart isNegative n 0
  else if !isNegative then return .natural n
  else if 0 < n ∧ n ≤ 0x8000000000000000 then return .negative (-(n : Int))
  else float true n 0

/-- Digits before the point that exceed the largest significand count as an exponent. -/
def manyDigits (isNegative : Bool) (n : Nat) : Reader Number := do
  let before := (← get).length
  skipDigits
  let dropped := before - (← get).length
  if (← peek?) = some (byte '.') then fractionPart isNegative n dropped
  else exponentOrEnd isNegative n dropped

/-- A number after its sign. -/
def unsigned (isNegative : Bool) : Reader Number := do
  match ← next? with
  | none => fail .endInValue
  | some b =>
    if b = byte '0' then
      if ← atDigit then fail .invalidNumber else afterDigits isNegative 0
    else if isDigit b then
      let (n, _) ← digitsUpTo maxSignificand (b.toNat - 0x30)
      if ← atDigit then manyDigits isNegative n else afterDigits isNegative n
    else fail .invalidNumber

/-- Whether a byte starts a number. -/
def startsNumber (b : UInt8) : Bool :=
  b == byte '-' || isDigit b

/-- A number; its first byte has been seen. -/
def number : Reader Number := do
  if (← peek?) = some (byte '-') then
    advance
    unsigned true
  else unsigned false

/-- One digit or more. -/
def someDigits : Reader Unit := do
  if ← atDigit then skipDigits else fail .invalidNumber

/-- Passes over a number after its sign. -/
def skipUnsigned : Reader Unit := do
  if (← peek?) = some (byte '0') then
    advance
    if ← atDigit then fail .invalidNumber
  else someDigits
  if (← peek?) = some (byte '.') then
    advance
    someDigits
  if isExponentMark (← peek?) then
    advance
    let _ ← exponentSign
    someDigits

end Reader

end AccountDirectory.Json
