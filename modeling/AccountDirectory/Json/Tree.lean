import AccountDirectory.Json.Number
import AccountDirectory.Json.Text

/-!
Values of any kind. Every string and number in them is read, and the depth is bounded.
-/

namespace AccountDirectory.Json

/-- A value as it is read. Members stand in the order of the text, repeated keys included. -/
inductive Tree where
  | null
  | bool (b : Bool)
  | number (n : Number)
  | string (s : String)
  | list (items : List Tree)
  | object (members : List (String × Tree))

def Tree.found : Tree → Found
  | null => .null
  | bool b => .bool b
  | number n => n.found
  | string s => .string s
  | list _ => .list
  | object _ => .object

namespace Reader

variable {α : Type}

/-- The members of an object up to the closing brace, each by a reader for what follows its key. -/
def members (read : String → Reader α) : Nat → List α → Reader (List α)
  | 0, _ => fail .endInObject
  | bound + 1, done => do
    if ← hasMember done.isEmpty then
      let a ← read (← string)
      members read bound (a :: done)
    else return done.reverse

/-- A value with at most `room` levels of brackets. -/
def tree (room : Nat) : Reader Tree := do
  let b ← startOfValue
  if b = byte '"' then return .string (← string)
  else if startsNumber b then return .number (← number)
  else if b = byte 'n' then
    restOfWord "null"
    return .null
  else if b = byte 't' then
    restOfWord "true"
    return .bool true
  else if b = byte 'f' then
    restOfWord "false"
    return .bool false
  else if b = byte '[' then
    match room with
    | 0 => fail .nestedTooDeep
    | room + 1 =>
      advance
      return .list (← closedBy (do items (tree room) (← read) 0 []) endOfList)
  else if b = byte '\x7b' then
    match room with
    | 0 => fail .nestedTooDeep
    | room + 1 =>
      advance
      let member (key : String) : Reader (String × Tree) := do
        colon
        return (key, ← tree room)
      return .object (← closedBy (do members member (← read) []) endOfObject)
  else fail .expectedValue

end Reader

end AccountDirectory.Json
