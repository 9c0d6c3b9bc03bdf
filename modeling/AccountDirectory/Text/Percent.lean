import AccountDirectory.Text.Base16

/-!
Percent encoding: a percent sign and two digits of base 16 stand for a byte.
-/

namespace AccountDirectory.Text.Percent

def sign : UInt8 := 0x25

/-- The byte that two digits stand for. -/
def byte? (high low : UInt8) : Option UInt8 := do
  return UInt8.ofNat (16 * (← Base16.value? high) + (← Base16.value? low))

/-- The bytes that are meant. A percent sign without two digits after it stands for itself. -/
def decode : List UInt8 → List UInt8
  | [] => []
  | b :: rest =>
    if b = sign then
      match rest with
      | high :: low :: tail =>
        match byte? high low with
        | some c => c :: decode tail
        | none => b :: decode (high :: low :: tail)
      | short => b :: short
    else b :: decode rest

end AccountDirectory.Text.Percent
