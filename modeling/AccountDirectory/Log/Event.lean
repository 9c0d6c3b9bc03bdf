import AccountDirectory.Json.Value

/-!
Events of the log, and their two formats. The time of an event is no part of it.
-/

namespace AccountDirectory.Log

inductive Level where
  | error
  | warn
  | info
  | debug
  | trace
deriving DecidableEq, Repr

namespace Level

def name : Level → String
  | error => "ERROR"
  | warn => "WARN"
  | info => "INFO"
  | debug => "DEBUG"
  | trace => "TRACE"

/-- Graver levels come first. -/
def rank : Level → Nat
  | error => 1
  | warn => 2
  | info => 3
  | debug => 4
  | trace => 5

end Level

/-- A value that is logged. -/
inductive Datum where
  | text (s : String)
  | number (n : Nat)
deriving DecidableEq, Repr

namespace Datum

def toJson : Datum → Json.Value
  | text s => .string s
  | number n => .number n

def render : Datum → String
  | text s => s
  | number n => toString n

end Datum

abbrev Fields := List (String × Datum)

namespace Fields

def members (l : Fields) : List (String × Json.Value) :=
  l.map fun (name, d) => (name, d.toJson)

def texts (l : Fields) : List String :=
  l.map fun (name, d) => name ++ ": " ++ d.render

end Fields

/-- What was going on when an event arose. -/
structure Span where
  target : String
  name : String
  level : Level := .info
  fields : Fields := []
deriving DecidableEq, Repr

namespace Span

def toJson (s : Span) : Json.Value :=
  .object (Fields.members s.fields ++ [("name", .string s.name)])

def render (s : Span) : String :=
  "in " ++ s.target ++ "::" ++ s.name ++
    (if s.fields.isEmpty then "" else " with " ++ ", ".intercalate (Fields.texts s.fields))

end Span

structure Event where
  level : Level
  /-- The part of the program that the event arose in. -/
  target : String
  message : Option String
  fields : Fields := []
  /-- The outermost first. -/
  spans : List Span := []
deriving DecidableEq, Repr

namespace Event

/-- The names of the fields; the message is one of them. -/
def fieldNames (e : Event) : List String :=
  (e.message.toList.map fun _ => "message") ++ e.fields.map (·.1)

def toJson (e : Event) : Json.Value :=
  let message := e.message.toList.map fun m => ("message", Json.Value.string m)
  let around := match e.spans.getLast? with
    | none => []
    | some s => [("span", s.toJson), ("spans", .list (e.spans.map Span.toJson))]
  .object ([("level", .string e.level.name),
    ("fields", .object (message ++ Fields.members e.fields))] ++ around)

/-- The event on a line, then its spans from the innermost outwards. -/
def render (e : Event) : String :=
  let head := e.level.name ++ " " ++ e.target ++ ": " ++
    ", ".intercalate (e.message.toList ++ Fields.texts e.fields)
  "\n".intercalate (head :: e.spans.reverse.map Span.render)

end Event

end AccountDirectory.Log
