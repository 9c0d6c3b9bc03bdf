/-!
JSON values that are written, and their compact text.
-/

namespace AccountDirectory.Json

/-- A value to write. Members stand in the order in which they are written. -/
inductive Value where
  | null
  | bool (b : Bool)
  | number (n : Int)
  | string (s : String)
  | list (items : List Value)
  | object (members : List (String × Value))
deriving Inhabited

/-- The escape of a character inside a string, or the character itself. -/
def escapeChar (c : Char) : String :=
  if c == '"' then "\\\""
  else if c == '\\' then "\\\\"
  else if c == '\x08' then "\\b"
  else if c == '\x0c' then "\\f"
  else if c == '\n' then "\\n"
  else if c == '\r' then "\\r"
  else if c == '\t' then "\\t"
  else if c.toNat < 32 then
    "\\u00" ++ String.ofList [Nat.digitChar (c.toNat / 16), Nat.digitChar (c.toNat % 16)]
  else c.toString

/-- A string in quotes. -/
def stringText (s : String) : String :=
  "\"" ++ String.join (s.toList.map escapeChar) ++ "\""

mutual

/-- The text of a value, without white space. -/
def Value.render : Value → String
  | .null => "null"
  | .bool b => if b then "true" else "false"
  | .number n => toString n
  | .string s => stringText s
  | .list items => "[" ++ renderItems items ++ "]"
  | .object members => "\x7b" ++ renderMembers members ++ "\x7d"

def Value.renderItems : List Value → String
  | [] => ""
  | [v] => v.render
  | v :: w :: rest => v.render ++ "," ++ renderItems (w :: rest)

def Value.renderMembers : List (String × Value) → String
  | [] => ""
  | [(k, v)] => stringText k ++ ":" ++ v.render
  | (k, v) :: m :: rest => stringText k ++ ":" ++ v.render ++ "," ++ renderMembers (m :: rest)

end

namespace Value

def int32 (n : Int32) : Value :=
  number n.toInt

/-- Null for none. -/
def optional {α : Type} (write : α → Value) : Option α → Value
  | none => null
  | some a => write a

end Value

end AccountDirectory.Json
