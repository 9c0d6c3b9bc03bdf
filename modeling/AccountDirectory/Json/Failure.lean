import AccountDirectory.Text.Quoted

/-!
Why a JSON text does not hold the wanted value, and where in the value the reader stood.
-/

namespace AccountDirectory.Json

/-- A value of another kind than the one expected, as a message shows it. -/
inductive Found where
  | null
  | bool (b : Bool)
  | integer (n : Int)
  | float (text : String)
  | string (s : String)
  | list
  | object
deriving DecidableEq, Repr

namespace Found

def message : Found → String
  | null => "null"
  | bool b => s!"boolean {tick}{b}{tick}"
  | integer n => s!"integer {tick}{n}{tick}"
  | float text => s!"floating point {tick}{text}{tick}"
  | string s => "string " ++ Text.quoted s
  | list => "sequence"
  | object => "map"
where
  tick : String := "\x60"

end Found

inductive Cause where
  /-- The text ended inside something. -/
  | endInValue
  | endInObject
  | endInList
  | endInString
  /-- The text does not follow the grammar. -/
  | expectedValue
  | expectedWord
  | expectedColon
  | expectedCommaOrBrace
  | expectedCommaOrBracket
  | invalidNumber
  | numberOutOfRange
  | invalidEscape
  | invalidCodePoint
  | controlCharacter
  | keyNotString
  | loneSurrogate
  | unfinishedPair
  | trailingComma
  | trailingCharacters
  | nestedTooDeep
  /-- The text holds another value than the wanted one. -/
  | wrongType (found : Found) (expected : String)
  | wrongValue (found : Found) (expected : String)
  | wrongLength (length : Nat) (expected : String)
  | missingField (name : String)
  | duplicateField (name : String)
  | unknownVariant (name : String) (expected : List String)
  | refused (reason : String)
deriving DecidableEq, Repr

/-- The three kinds of causes. -/
inductive Category where
  | eof
  | syntactic
  | data
deriving DecidableEq, Repr

namespace Cause

def category : Cause → Category
  | endInValue | endInObject | endInList | endInString => .eof
  | wrongType .. | wrongValue .. | wrongLength .. | missingField _ | duplicateField _
  | unknownVariant .. | refused _ => .data
  | _ => .syntactic

/-- A name between back quotes. -/
def ticked (s : String) : String :=
  "\x60" ++ s ++ "\x60"

def message : Cause → String
  | endInValue => "EOF while parsing a value"
  | endInObject => "EOF while parsing an object"
  | endInList => "EOF while parsing a list"
  | endInString => "EOF while parsing a string"
  | expectedValue => "expected value"
  | expectedWord => "expected ident"
  | expectedColon => "expected " ++ ticked ":"
  | expectedCommaOrBrace => "expected " ++ ticked "," ++ " or " ++ ticked "\x7d"
  | expectedCommaOrBracket => "expected " ++ ticked "," ++ " or " ++ ticked "]"
  | invalidNumber => "invalid number"
  | numberOutOfRange => "number out of range"
  | invalidEscape => "invalid escape"
  | invalidCodePoint => "invalid unicode code point"
  | controlCharacter => "control character (\\u0000-\\u001F) found while parsing a string"
  | keyNotString => "key must be a string"
  | loneSurrogate => "lone leading surrogate in hex escape"
  | unfinishedPair => "unexpected end of hex escape"
  | trailingComma => "trailing comma"
  | trailingCharacters => "trailing characters"
  | nestedTooDeep => "recursion limit exceeded"
  | wrongType found expected => "invalid type: " ++ found.message ++ ", expected " ++ expected
  | wrongValue found expected => "invalid value: " ++ found.message ++ ", expected " ++ expected
  | wrongLength length expected =>
    "invalid length " ++ toString length ++ ", expected " ++ expected
  | missingField name => "missing field " ++ ticked name
  | duplicateField name => "duplicate field " ++ ticked name
  | unknownVariant name expected =>
    "unknown variant " ++ ticked name ++ ", expected one of " ++
      ", ".intercalate (expected.map ticked)
  | refused reason => reason

end Cause

/-- A step into a value. -/
inductive PathStep where
  | key (name : String)
  | index (i : Nat)
deriving DecidableEq, Repr

/-- A cause, and the steps from the whole value to the place where it arose. -/
structure Failure where
  cause : Cause
  path : List PathStep := []
deriving DecidableEq, Repr

namespace Failure

/-- The steps as text: keys after dots, indices in brackets. -/
def pathText : List PathStep → String
  | [] => ""
  | .key name :: rest => "." ++ name ++ pathText rest
  | .index i :: rest => "[" ++ toString i ++ "]" ++ pathText rest

/-- The message, after the path if there is one. -/
def located (e : Failure) : String :=
  match e.path with
  | [] => e.cause.message
  | .key name :: rest => name ++ pathText rest ++ ": " ++ e.cause.message
  | steps => pathText steps ++ ": " ++ e.cause.message

end Failure

end AccountDirectory.Json
