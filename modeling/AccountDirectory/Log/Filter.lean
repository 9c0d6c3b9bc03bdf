import AccountDirectory.Log.Event
import AccountDirectory.Log.Format
import AccountDirectory.Text.Numeral
import AccountDirectory.Text.Pattern.Parser

/-!
Which events are logged: directives, with commas between them, name the gravest level that is still
logged for a part of the program, for events with a field, or during a span.
-/

namespace AccountDirectory.Log

/-- What a directive asks of the value of a field. -/
inductive FieldValue where
  | number (n : Nat)
  | pattern (p : Text.Pattern)
  /-- A truth value, a negative number or a fraction. No datum is one. -/
  | unlogged
deriving DecidableEq, Repr

namespace FieldValue

/-- The digits at the front of a text, and what follows them. -/
def digits (l : List Char) : List Char × List Char :=
  l.span Char.isDigit

def withoutSign : List Char → List Char
  | '+' :: rest | '-' :: rest => rest
  | l => l

def isExponent : List Char → Bool
  | [] => true
  | e :: rest =>
    let (l, rest) := digits (withoutSign rest)
    (e == 'e' || e == 'E') && !l.isEmpty && rest.isEmpty

/-- Whether a text is a number in floating point: decimal, or by one of three names. -/
def isFloat (s : String) : Bool :=
  let l := withoutSign s.toList
  let (whole, rest) := digits l
  let (fraction, rest) := match rest with
    | '.' :: rest => digits rest
    | rest => ([], rest)
  ["inf", "infinity", "nan"].contains (asciiLower (String.ofList l)) ||
    (!(whole ++ fraction).isEmpty && isExponent rest)

/-- Reads a value; what is no truth value and no number is a pattern. -/
def parse? (s : String) : Option FieldValue :=
  match Numeral.natural 0xffffffffffffffff s with
  | .ok n => some (number n)
  | .error _ =>
    if s = "true" ∨ s = "false" ∨ isFloat s then some unlogged
    else (Text.Pattern.parse? s).map pattern

def holds : FieldValue → Datum → Bool
  | number n, .number m => n = m
  | pattern p, .text s => p.accepts s
  | _, _ => false

end FieldValue

/-- A field that there must be, with a value if one is asked for. -/
structure FieldTest where
  name : String
  value : Option FieldValue
deriving DecidableEq, Repr

/-- Reads the name of a field, and the value after an equals sign up to the next one. -/
def FieldTest.parse? (l : List Char) : Option FieldTest :=
  match (l.splitOnP (· == '=')).map String.ofList with
  | [] | [""] => none
  | [name] => some { name, value := none }
  | name :: value :: _ => do return { name, value := some (← FieldValue.parse? value) }

/-- A level as the greatest rank that is logged; zero switches off. -/
structure Directive where
  target : Option String := none
  span : Option String := none
  field : Option FieldTest := none
  rank : Nat
deriving DecidableEq, Repr

namespace Directive

/-- The rank of a level that is named or numbered. -/
def rank? (s : String) : Option Nat :=
  match asciiLower s with
  | "off" => some 0
  | "error" => some 1
  | "warn" => some 2
  | "info" => some 3
  | "debug" => some 4
  | "trace" => some 5
  | _ => (Numeral.natural 5 s).toOption

/-- The greatest rank, which a directive without a level has. -/
def everything : Nat := 5

/-- Whether a directive may start with a character. -/
def mayStart (c : Char) : Bool :=
  Text.isAlphanumeric c || c == '-' || c == ':' || c == '_'

/-- The rank that the text names from a position on. -/
def rankFrom? (text : List Char) (start : Nat) : Option Nat :=
  match text.drop start with
  | [] => some everything
  | level => rank? (String.ofList level)

/-- What follows the brackets: nothing, or an equals sign at `start` and a level. -/
def afterBrackets? (text : List Char) (d : Directive) (start : Nat) : List Char → Option Directive
  | [] => some d
  | '=' :: _ => do return { d with rank := ← rankFrom? text (start + 1) }
  | _ => none

/-- Reads what stands in the brackets, from `start` on: a span, or a span that may be missing and a
    field in braces. -/
def inBrackets? (text : List Char) (d : Directive) (start : Nat) (l : List Char) :
    Option Directive :=
  let (name, rest) := l.span fun c => c ≠ ']' && c ≠ '\x7b'
  let span := String.ofList ((text.drop start).take name.length)
  let inside := start + name.length + 1
  match rest with
  | ']' :: rest => afterBrackets? text { d with span := some span } inside rest
  | _ :: rest =>
    let (field, rest) := rest.span (· ≠ '\x7d')
    match rest with
    | '\x7d' :: ']' :: rest => do
      let test ← FieldTest.parse? ((text.drop inside).take field.length)
      let d := { d with span := if span.isEmpty then none else some span, field := some test }
      afterBrackets? text d (inside + field.length + 2) rest
    | _ => none
  | [] => none

/-- A level, or a target with a span, a field and a level, of which any may be missing. The parts
    are found in the text without the white space at its ends, and cut by their positions out of
    the text with it. -/
def parse? (s : String) : Option Directive :=
  let text := s.toList
  let (name, rest) := (Text.stripBoth Text.isBlank text).span fun c => c ≠ '=' && c ≠ '['
  let target := String.ofList (text.take name.length)
  let start := name.length + 1
  match name, rest with
  | [], '[' :: rest => inBrackets? text { rank := everything } start rest
  | [], _ => none
  | first :: _, rest =>
    if !mayStart first then none
    else
      match rest with
      | [] =>
        match rank? s with
        | some rank => some { rank }
        | none => some { target := some s, rank := everything }
      | '[' :: rest => inBrackets? text { target := some target, rank := everything } start rest
      | _ => do return { target := some target, rank := ← rankFrom? text start }

/-- Whether two directives differ in the level only. -/
def sameSubject (a b : Directive) : Bool :=
  a.target = b.target && a.span = b.span && a.field = b.field

/-- Whether the directive is about a part of the program. -/
def covers (d : Directive) (target : String) : Bool :=
  match d.target with
  | none => true
  | some t => t.toList.isPrefixOf target.toList

/-- Whether the directive decides wherever an event arises. -/
def isStatic (d : Directive) : Bool :=
  d.span.isNone && d.field.all fun f => f.value.isNone

/-- Whether the directive is about what happens during a span, if the value of its field is as it
    is to be. -/
def isAbout (d : Directive) (s : Span) : Bool :=
  (d.span.isSome || d.field.isSome) && d.covers s.target && d.span.all (· == s.name) &&
    d.field.all fun f => s.fields.any (·.1 == f.name)

/-- Whether the field of a span has the value that the directive asks for. -/
def holdsIn (d : Directive) (s : Span) : Bool :=
  match d.field with
  | some { name, value := some v } => ((s.fields.lookup name).map v.holds).getD false
  | _ => true

/-- Whether the directive is about events with these fields in a part of the program. -/
def coversEvent (d : Directive) (target : String) (names : List String) : Bool :=
  d.covers target && d.field.all fun f => names.contains f.name

/-- The number of bytes of the target. -/
def length (d : Directive) : Nat :=
  (d.target.map String.utf8ByteSize).getD 0

/-- Whether `b` decides before `a`: its target is longer, or as long and the name of its field is
    no less. -/
def yieldsTo (a b : Directive) : Bool :=
  a.length < b.length ||
    (a.length = b.length &&
      match a.field, b.field with
      | none, _ => true
      | some _, none => false
      | some f, some g => f.name ≤ g.name)

end Directive

structure Filter where
  /-- In their order, and no two with the same subject. -/
  directives : List Directive
  /-- The greatest rank of anything that is noted. -/
  limit : Nat
deriving DecidableEq, Repr

namespace Filter

/-- The last of the directives with the same subject. -/
def lastOfEach : List Directive → List Directive
  | [] => []
  | d :: rest => if rest.any d.sameSubject then lastOfEach rest else d :: lastOfEach rest

/-- A filter of directives. Spans are noted at every level if the value of a field is asked for,
    because it is not known before. -/
def ofDirectives (l : List Directive) : Filter where
  directives := lastOfEach l
  limit :=
    if l.any fun d => d.field.any fun f => f.value.isSome then Directive.everything
    else l.foldl (fun n d => max n d.rank) 0

def ofLevel (l : Level) : Filter :=
  ofDirectives [{ rank := l.rank }]

/-- Reads directives; without any, errors are logged. -/
def parse? (s : String) : Option Filter := do
  let parts := ((s.toList.splitOnP (· == ',')).filter fun p => !p.isEmpty).map String.ofList
  let directives ← parts.mapM Directive.parse?
  return if directives.isEmpty then ofLevel .error else ofDirectives directives

/-- The filter that a setting asks for; without one that can be read it is that of `info`. -/
def ofSetting (s : Option String) : Filter :=
  (s.bind parse?).getD (ofLevel .info)

/-- The directive that decides wherever something arises, of those that are about it. -/
def deciding? (f : Filter) (concerns : Directive → Bool) : Option Directive :=
  (f.directives.filter fun d => d.isStatic && concerns d).foldl
    (fun best d =>
      match best with
      | none => some d
      | some b => if b.yieldsTo d then some d else some b)
    none

/-- The greatest rank that is logged during spans because of them. -/
def rankDuring (f : Filter) (spans : List Span) : Nat :=
  (f.directives.filter fun d => spans.any fun s => d.isAbout s && d.holdsIn s).foldl
    (fun n d => max n d.rank) 0

/-- Whether something of a rank is noted during spans, given what concerns it elsewhere. -/
def allows (f : Filter) (spans : List Span) (concerns : Directive → Bool) (rank : Nat) : Bool :=
  rank ≤ f.limit &&
    (rank ≤ f.rankDuring spans ||
      ((f.deciding? concerns).map fun d => rank ≤ d.rank : Option Bool).getD false)

/-- The spans that are noted: those that a directive is about, and those that are allowed by their
    target, whatever field a directive asks of events. -/
def notedSpans (f : Filter) (spans : List Span) : List Span :=
  spans.foldl
    (fun outer s =>
      let named := s.level.rank ≤ f.limit && f.directives.any fun d => d.isAbout s
      if named || f.allows outer (fun d => d.covers s.target) s.level.rank then outer ++ [s]
      else outer)
    []

/-- The event as it is logged, with the spans that are noted, if it is. -/
def logged? (f : Filter) (e : Event) : Option Event :=
  let spans := f.notedSpans e.spans
  let concerns (d : Directive) : Bool := d.coversEvent e.target e.fieldNames
  if f.allows spans concerns e.level.rank then some { e with spans } else none

end Filter

/-- The names of the settings of the log. -/
def filterSetting : String := "RUST_LOG"

def formatSetting : String := "LOG_FORMAT"

end AccountDirectory.Log
