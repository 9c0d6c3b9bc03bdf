import AccountDirectory.Json.Number
import AccountDirectory.Json.Text
import AccountDirectory.Time.Text

/-!
Readers for values of a known type. A value of another kind is named in the failure; it is read
first, unless it is a list or an object.
-/

namespace AccountDirectory.Json

open AccountDirectory.Time (Instant)

namespace Reader

variable {α : Type}

/-- Refuses the value that starts with `b`. -/
def wrongType (expected : String) (b : UInt8) : Reader α := do
  if b = byte 'n' then
    restOfWord "null"
    fail (.wrongType .null expected)
  else if b = byte 't' then
    restOfWord "true"
    fail (.wrongType (.bool true) expected)
  else if b = byte 'f' then
    restOfWord "false"
    fail (.wrongType (.bool false) expected)
  else if startsNumber b then
    fail (.wrongType (← number).found expected)
  else if b = byte '"' then
    fail (.wrongType (.string (← string)) expected)
  else if b = byte '[' then fail (.wrongType .list expected)
  else if b = byte '\x7b' then fail (.wrongType .object expected)
  else fail .expectedValue

/-- A whole number between two bounds; outside them `refuse` names the failure. -/
def integer (lowest highest : Int) (expected : String) (refuse : Int → Cause) : Reader Int := do
  let check (n : Int) : Reader Int :=
    if lowest ≤ n ∧ n ≤ highest then return n else fail (refuse n)
  let b ← startOfValue
  if startsNumber b then
    match ← number with
    | .natural n => check n
    | .negative n => check n
    | x => fail (.wrongType x.found expected)
  else wrongType expected b

def int32 : Reader Int32 := do
  let n ← integer (-0x80000000) 0x7fffffff "i32" fun n => .wrongValue (.integer n) "i32"
  return Int32.ofInt n

def boolean : Reader Bool := do
  let b ← startOfValue
  if b = byte 't' then
    restOfWord "true"
    return true
  else if b = byte 'f' then
    restOfWord "false"
    return false
  else wrongType "a boolean" b

/-- A string; `expected` says what a value of another kind stands in for. -/
def stringAs (expected : String) : Reader String := do
  let b ← startOfValue
  if b = byte '"' then string else wrongType expected b

def text : Reader String :=
  stringAs "a string"

/-- Null, or a value. -/
def optional (r : Reader α) : Reader (Option α) := do
  if (← token?) = some (byte 'n') then
    restOfWord "null"
    return none
  else return some (← r)

def list (r : Reader α) : Reader (List α) := do
  let b ← startOfValue
  if b = byte '[' then
    advance
    closedBy (do items r (← read) 0 []) endOfList
  else wrongType "a sequence" b

/-- An instant as text. -/
def instant : Reader Instant := do
  let s ← stringAs "an RFC 3339 formatted date and time string"
  match Instant.parse s with
  | .ok t => return t
  | .error e => fail (.refused e.message)

/-- An instant as a number of seconds from the start of 1970. -/
def instantOfSeconds : Reader Instant := do
  let refuse (n : Int) : Cause := .refused ("value is not a legal timestamp: " ++ toString n)
  let n ← integer (-0x8000000000000000) 0x7fffffffffffffff "a unix timestamp in seconds" refuse
  match Instant.ofSeconds? n 0 with
  | some t => return t
  | none => fail (refuse n)

end Reader

end AccountDirectory.Json
