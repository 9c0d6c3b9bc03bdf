import AccountDirectory.Json.Record
import AccountDirectory.Json.Tree

/-!
The registered claims of a token. Values of any type are accepted for them, but none may be there
twice, and a value that cannot be read to its end makes the members after it unreadable.
-/

namespace AccountDirectory.Token

open AccountDirectory.Json

/-- Reads a value and forgets whether that failed; reading goes on where it stopped. -/
def forgiving {α : Type} (r : Reader α) : Reader Unit := fun bound s =>
  match r bound s with
  | .ok _ s => .ok () s
  | .error _ s => .ok () s

/-- A time: a number, or a value that is given up. An object or a list is given up after its
    opening bracket. -/
def time : Reader Unit := forgiving do
  let b ← Reader.startOfValue
  if b = byte '[' then
    Reader.advance
    Reader.endOfList
  else if b = byte '\x7b' then
    Reader.advance
    Reader.endOfObject
  else if Reader.startsNumber b then let _ ← Reader.number
  else Reader.wrongType "a number" b

/-- The levels of brackets that are left inside the payload's own. -/
def room : Nat := 126

/-- The members `exp`, `nbf`, `sub`, `iss` and `aud`. -/
def registered : Reader Unit := do
  let _ ← record "ClaimsForValidation" [Unit, Unit, Unit, Unit, Unit]
    (.withDefault "exp" () time, .withDefault "nbf" () time,
      { name := "sub", read := forgiving (Reader.optional Reader.text), ifMissing := some () },
      { name := "iss", read := forgiving (Reader.tree room), ifMissing := some () },
      { name := "aud", read := forgiving (Reader.tree room), ifMissing := some () }, ())

end AccountDirectory.Token
