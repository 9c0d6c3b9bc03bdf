import AccountDirectory.Text.Alphanumeric
import AccountDirectory.Text.Base16
import AccountDirectory.Text.Pattern.Basic

/-!
Reading patterns. A pattern is refused if it is not well formed, and if it asks for more than is
known here: classes that reach beyond ASCII, letters of either case, the boundaries of words,
operations on classes, and repetitions by a number.
-/

namespace AccountDirectory.Text.Pattern

/-- Reads from the front of a pattern. -/
abbrev Scan := StateT (List Char) Option

namespace Scan

def next? : Scan (Option Char) := do
  match ← get with
  | [] => return none
  | c :: rest => set rest; return some c

def next : Scan Char := do
  match ← next? with
  | some c => return c
  | none => failure

/-- Takes the next character if it is this one. -/
def take? (c : Char) : Scan Bool := do
  if (← get).head? = some c then
    modify List.tail
    return true
  else return false

def expect (c : Char) : Scan Unit := do
  if !(← take? c) then failure

end Scan

open Scan

/-- What the flags of a group say. -/
structure Mode where
  ignoreCase : Bool := false
  multiLine : Bool := false
  /-- The point stands for a line break too. -/
  dotAll : Bool := false
  /-- Repetitions are lazy unless a question mark follows them. -/
  lazyFirst : Bool := false
deriving DecidableEq, Repr

def Mode.set? (m : Mode) (on : Bool) : Char → Option Mode
  | 'i' => some { m with ignoreCase := on }
  | 'm' => some { m with multiLine := on }
  | 's' => some { m with dotAll := on }
  | 'U' => some { m with lazyFirst := on }
  | 'u' => if on then some m else none
  | _ => none

/-- Flags, each at most once, and those after a minus sign switched off. -/
def flags (seen : List Char) (on : Bool) (m : Mode) : List Char → Option Mode
  | [] => if seen.head? = some '-' then none else some m
  | c :: rest =>
    if seen.contains c then none
    else if c = '-' then flags (c :: seen) false m rest
    else do flags (c :: seen) on (← m.set? on c) rest

/-- The character with a number of exactly `count` digits of base 16. -/
def numbered (count : Nat) : Scan Char := do
  let digits := (← get).take count
  modify (·.drop count)
  if digits.length ≠ count then failure
  let values ← digits.mapM fun c =>
    if c.toNat < 128 then Base16.value? (UInt8.ofNat c.toNat) else none
  let n := values.foldl (fun n v => n * 16 + v) 0
  if n.isValidChar then return Char.ofNat n else failure

/-- The character that stands behind a backslash. -/
def escaped (c : Char) : Scan Char :=
  match c with
  | 'a' => return '\x07'
  | 'f' => return '\x0c'
  | 't' => return '\t'
  | 'n' => return '\n'
  | 'r' => return '\r'
  | 'v' => return '\x0b'
  | 'x' => numbered 2
  | 'u' => numbered 4
  | 'U' => numbered 8
  | c => if c.toNat < 128 ∧ !c.isAlphanum ∧ c ≠ '<' ∧ c ≠ '>' then return c else failure

/-- The named classes of ASCII characters. -/
def asciiClass? : String → Option (List (Char × Char))
  | "alnum" => some [('0', '9'), ('A', 'Z'), ('a', 'z')]
  | "alpha" => some [('A', 'Z'), ('a', 'z')]
  | "ascii" => some [('\x00', '\x7f')]
  | "blank" => some [('\t', '\t'), (' ', ' ')]
  | "cntrl" => some [('\x00', '\x1f'), ('\x7f', '\x7f')]
  | "digit" => some [('0', '9')]
  | "graph" => some [('!', '~')]
  | "lower" => some [('a', 'z')]
  | "print" => some [(' ', '~')]
  | "punct" => some [('!', '/'), (':', '@'), ('[', '\x60'), ('\x7b', '~')]
  | "space" => some [('\t', '\r'), (' ', ' ')]
  | "upper" => some [('A', 'Z')]
  | "word" => some [('0', '9'), ('A', 'Z'), ('_', '_'), ('a', 'z')]
  | "xdigit" => some [('0', '9'), ('A', 'F'), ('a', 'f')]
  | _ => none

/-- The rest of a named class inside a class, after its opening bracket. -/
def namedClass : Scan (List (Char × Char)) := do
  expect ':'
  let name := (← get).takeWhile (· ≠ ':')
  modify (·.drop name.length)
  expect ':'
  expect ']'
  asciiClass? (String.ofList name)

/-- A character inside a class. -/
def classChar : Scan Char := do
  let c ← next
  if c = '\\' then escaped (← next) else return c

/-- The members of a class up to its closing bracket. Operations on sets are refused. -/
def classMembers : Nat → List (Char × Char) → Scan (List (Char × Char))
  | 0, _ => failure
  | bound + 1, done => do
    match ← get with
    | [] => failure
    | ']' :: rest => set rest; return done
    | '[' :: rest => set rest; classMembers bound (done ++ (← namedClass))
    | '&' :: '&' :: _ | '-' :: '-' :: _ | '~' :: '~' :: _ => failure
    | _ =>
      let first ← classChar
      match ← get with
      | '-' :: ']' :: _ | '-' :: '-' :: _ => classMembers bound (done ++ [(first, first)])
      | '-' :: rest =>
        set rest
        let last ← classChar
        if first ≤ last then classMembers bound (done ++ [(first, last)]) else failure
      | _ => classMembers bound (done ++ [(first, first)])

/-- A class after its opening bracket. Hyphens that stand first, and a closing bracket that stands
    first, are members. -/
def characterClass : Scan Pattern := do
  let negated ← take? '^'
  let hyphens := (← get).takeWhile (· == '-')
  modify (·.drop hyphens.length)
  let bracket ← if hyphens.isEmpty then take? ']' else pure false
  let first := (if hyphens.isEmpty then [] else [('-', '-')]) ++
    (if bracket then [(']', ']')] else [])
  return oneOf negated (← classMembers ((← get).length + 1) first)

/-- The name of a group up to its closing bracket. -/
def groupName : Scan Unit := do
  let name := (← get).takeWhile (· ≠ '>')
  modify (·.drop name.length)
  expect '>'
  match name with
  | [] => failure
  | c :: rest =>
    if !(c == '_' || isAlphanumeric c && !c.isDigit) then failure
    if !rest.all fun c => "_.[]".toList.contains c || isAlphanumeric c then failure

/-- What stands after the opening bracket of a group: the mode of the group, if it is one, or the
    mode for what follows. -/
def groupHead (m : Mode) : Scan (Mode × Bool) := do
  match ← get with
  | '?' :: 'P' :: '<' :: rest | '?' :: '<' :: rest =>
    set rest
    groupName
    return (m, true)
  | '?' :: rest =>
    let names := rest.takeWhile fun c => c ≠ ':' && c ≠ ')'
    set (rest.drop names.length)
    let inner ← flags [] true m names
    match ← next with
    | ':' => return (inner, true)
    | _ => if names.isEmpty then failure else return (inner, false)
  | _ => return (m, true)

/-- What has been read of a group: the choices before the last bar, what stands before the last
    item, and the last item if it can be repeated. -/
structure Progress where
  choices : Option Pattern := none
  front : Pattern := empty
  last : Option Pattern := none

namespace Progress

/-- Everything since the last bar. -/
def sequence (p : Progress) : Pattern :=
  match p.last with
  | none => p.front
  | some item => seq p.front item

def result (p : Progress) : Pattern :=
  match p.choices with
  | none => p.sequence
  | some before => choice before p.sequence

def push (p : Progress) (item : Pattern) : Progress :=
  { p with front := p.sequence, last := some item }

def bar (p : Progress) : Progress :=
  { choices := some p.result }

/-- Repeats the last item. -/
def again (p : Progress) (repetition : Pattern → Pattern) : Option Progress := do
  return { p with last := some (repetition (← p.last)) }

end Progress

/-- A character, unless its case is to be ignored. -/
def Mode.literal (m : Mode) (c : Char) : Scan Pattern :=
  if m.ignoreCase then failure else return char c

/-- An item behind a backslash. -/
def escapedItem (m : Mode) : Scan Pattern := do
  match ← next with
  | 'A' => return textStart
  | 'z' => return textEnd
  | c => m.literal (← escaped c)

/-- Items up to the end of the group. -/
def items (group : Mode → Scan Pattern) : Nat → Mode → Progress → Scan Pattern
  | 0, _, _ => failure
  | bound + 1, m, p => do
    let go (item : Pattern) : Scan Pattern := items group bound m (p.push item)
    let repetition (f : Bool → Pattern → Pattern) : Scan Pattern := do
      let swapped ← take? '?'
      items group bound m (← p.again (f (m.lazyFirst == swapped)))
    match (← get).head? with
    | none | some ')' => return p.result
    | some c =>
      modify List.tail
      match c with
      | '|' => items group bound m p.bar
      | '*' => repetition repeated
      | '+' => repetition onceOrMore
      | '?' => repetition optional
      | '{' => failure
      | '.' => go (oneOf true (if m.dotAll then [] else [('\n', '\n')]))
      | '^' => go (if m.multiLine then lineStart else textStart)
      | '$' => go (if m.multiLine then lineEnd else textEnd)
      | '[' => if m.ignoreCase then failure else go (← characterClass)
      | '\\' => go (← escapedItem m)
      | '(' =>
        match ← groupHead m with
        | (inner, true) =>
          let body ← group inner
          expect ')'
          go body
        | (following, false) =>
          items group bound following { p with front := p.sequence, last := none }
      | c => go (← m.literal c)

/-- A pattern up to a closing bracket or the end, with groups down to a depth. -/
def body : Nat → Mode → Scan Pattern
  | 0, _ => failure
  | depth + 1, m => do items (body depth) ((← get).length + 1) m {}

def parse? (s : String) : Option Pattern := do
  let (p, rest) ← (body (s.length + 1) {}).run s.toList
  if rest.isEmpty then some p else none

end AccountDirectory.Text.Pattern
