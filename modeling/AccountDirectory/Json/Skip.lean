import AccountDirectory.Json.Number
import AccountDirectory.Json.Text

/-!
Values that are passed over, to any depth. Only their grammar is checked.
-/

namespace AccountDirectory.Json

/-- An open bracket. -/
inductive Bracket where
  | list
  | object
deriving DecidableEq, Repr

namespace Reader

/-- Passes over a value that is no list and no object. -/
def skipScalar (b : UInt8) : Reader Unit :=
  if b = byte 'n' then restOfWord "null"
  else if b = byte 't' then restOfWord "true"
  else if b = byte 'f' then restOfWord "false"
  else if b = byte '-' then do advance; skipUnsigned
  else if isDigit b then skipUnsigned
  else if b = byte '"' then skipString
  else fail .expectedValue

/-- A key and its colon. -/
def skipKey : Reader Unit := do
  match ← token? with
  | none => fail .endInObject
  | some b =>
    if b = byte '"' then
      skipString
      colon
    else fail .keyNotString

/-- What comes after a value inside the open brackets, up to the start of the next value; whether
    there is one. -/
def skipClosings (afterValue : Bool) : List Bracket → Nat → Reader (List Bracket)
  | [], _ => return []
  | innermost :: _, 0 => fail (match innermost with | .list => .endInList | .object => .endInObject)
  | innermost :: outer, bound + 1 => do
    match ← token? with
    | none => fail (match innermost with | .list => .endInList | .object => .endInObject)
    | some b =>
      if b = byte ',' ∧ afterValue then
        advance
        if innermost = .object then skipKey
        return innermost :: outer
      else if (innermost = .list ∧ b = byte ']') ∨ (innermost = .object ∧ b = byte '\x7d') then
        advance
        skipClosings true outer bound
      else if afterValue then
        fail (match innermost with
          | .list => .expectedCommaOrBracket
          | .object => .expectedCommaOrBrace)
      else
        if innermost = .object then skipKey
        return innermost :: outer

/-- Passes over values until no bracket is open. -/
def skipValues : Nat → List Bracket → Reader Unit
  | 0, _ => fail .endInValue
  | bound + 1, brackets => do
    let b ← startOfValue
    let left ←
      if b = byte '[' then do advance; skipClosings false (.list :: brackets) (bound + 1)
      else if b = byte '\x7b' then do advance; skipClosings false (.object :: brackets) (bound + 1)
      else do skipScalar b; skipClosings true brackets (bound + 1)
    if left.isEmpty then return else skipValues bound left

/-- Passes over one value. -/
def skip : Reader Unit := do
  skipValues (← read) []

end Reader

end AccountDirectory.Json
