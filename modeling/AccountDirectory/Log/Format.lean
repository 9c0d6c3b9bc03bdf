import AccountDirectory.Text.Blank

/-!
The two formats of log lines.
-/

namespace AccountDirectory.Log

inductive Format where
  | json
  | pretty
deriving DecidableEq, Repr

/-- A letter of the ASCII alphabet in lower case, any other character as it is. -/
def asciiLower (s : String) : String :=
  s.map Char.toLower

/-- The format of a name; JSON for any other name, and for none. -/
def Format.ofName (name : Option String) : Format :=
  match name.map fun s => asciiLower (Text.trim s) with
  | some "pretty" | some "text" => .pretty
  | _ => .json

end AccountDirectory.Log
