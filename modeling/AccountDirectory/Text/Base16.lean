/-!
Bytes written in base 16.
-/

namespace AccountDirectory.Text.Base16

/-- The digit of the lowest four bits, in lower case. -/
def digit (n : Nat) : Char :=
  Nat.digitChar (n % 16)

/-- Two digits for each byte. -/
def encode (bytes : List UInt8) : String :=
  String.ofList (bytes.flatMap fun b => [digit (b.toNat / 16), digit b.toNat])

/-- The value of a digit, in either case. -/
def value? (b : UInt8) : Option Nat :=
  if 48 ≤ b ∧ b ≤ 57 then some (b.toNat - 48)
  else if 65 ≤ b ∧ b ≤ 70 then some (b.toNat - 55)
  else if 97 ≤ b ∧ b ≤ 102 then some (b.toNat - 87)
  else none

end AccountDirectory.Text.Base16
