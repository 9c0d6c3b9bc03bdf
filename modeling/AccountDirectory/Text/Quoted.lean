import AccountDirectory.Text.Unprintable

/-!
Quoted text, as diagnostics show it: double quotes around it, and escapes for the quote, the
backslash, the usual control characters and everything that cannot be seen.
-/

namespace AccountDirectory.Text

/-- The digits of a number in base sixteen, in lower case. -/
def hex (n : Nat) : String :=
  String.ofList (Nat.toDigits 16 n)

/-- One character of a quoted text. -/
def quoteChar (c : Char) : String :=
  if c == '\x00' then "\\0"
  else if c == '\t' then "\\t"
  else if c == '\r' then "\\r"
  else if c == '\n' then "\\n"
  else if c == '"' then "\\\""
  else if c == '\\' then "\\\\"
  else if isUnprintable c then "\\u\x7b" ++ hex c.toNat ++ "\x7d"
  else c.toString

/-- A text in double quotes, with escapes. -/
def quoted (s : String) : String :=
  "\"" ++ String.join (s.toList.map quoteChar) ++ "\""

end AccountDirectory.Text
