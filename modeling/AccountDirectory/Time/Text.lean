import AccountDirectory.Text.Blank
import AccountDirectory.Text.Numeral
import AccountDirectory.Time.Calendar
import AccountDirectory.Time.Instant

/-!
Instants as text: date, time of day and offset from UTC, with white space allowed around the
numbers. Written instants are in UTC and carry the fewest of 0, 3, 6 or 9 fraction digits.
-/

namespace AccountDirectory.Time

open AccountDirectory.Text (isBlank)

/-- Why a text is not an instant. -/
inductive InstantError where
  | outOfRange
  | impossible
  | invalid
  | tooShort
  | tooLong
deriving DecidableEq, Repr

namespace InstantError

def message : InstantError → String
  | outOfRange => "input is out of range"
  | impossible => "no possible date and time matching input"
  | invalid => "input contains invalid characters"
  | tooShort => "premature end of input"
  | tooLong => "trailing input"

end InstantError

namespace Instant

/-- Reads from the front of a list of characters. -/
abbrev Scan := StateT (List Char) (Except InstantError)

/-- Passes over the characters that satisfy `p`. -/
def skipWhile (p : Char → Bool) : Scan Unit :=
  modify (·.dropWhile p)

/-- The next character. -/
def next : Scan Char := do
  match ← get with
  | [] => throw .tooShort
  | c :: rest => set rest; return c

/-- A number of one to `width` digits, with their count. -/
def number (width : Nat) : Scan (Nat × Nat) := do
  let l ← get
  if l.isEmpty then throw .tooShort
  let ds := (l.take width).takeWhile Char.isDigit
  if ds.isEmpty then throw .invalid
  set (l.drop ds.length)
  return (ds.foldl (fun n c => n * 10 + (c.toNat - '0'.toNat)) 0, ds.length)

/-- A part of a date or a time after white space; it must lie between two bounds. -/
def part (lo hi : Nat) : Scan Nat := do
  skipWhile isBlank
  let (n, _) ← number 2
  if lo ≤ n ∧ n ≤ hi then return n else throw .outOfRange

/-- A year: four digits at most, or after a sign any number of them. -/
def year : Scan Int := do
  skipWhile isBlank
  let l ← get
  let signed := l.head? = some '-' ∨ l.head? = some '+'
  if signed then set l.tail
  let (n, _) ← number (if signed then l.length else 4)
  let y : Int := if l.head? = some '-' then -(n : Int) else n
  if -0x80000000 ≤ y ∧ y ≤ 0x7fffffff then return y else throw .outOfRange

/-- The character `c`, after white space. -/
def mark (c : Char) : Scan Unit := do
  skipWhile isBlank
  if (← next) ≠ c then throw .invalid

/-- What separates the date from the time: the letter T or one space. -/
def divider : Scan Unit := do
  let c ← next
  if c ≠ 'T' ∧ c ≠ 't' ∧ c ≠ ' ' then throw .invalid

/-- A fraction of a second in nanoseconds; digits after the ninth are dropped. -/
def fraction : Scan Nat := do
  match ← get with
  | '.' :: rest =>
    set rest
    let (n, count) ← number 9
    skipWhile Char.isDigit
    return n * Nat.pow 10 (9 - count)
  | _ => return 0

/-- Two digits. -/
def twoDigits : Scan (Nat × Nat) := do
  let first ← next
  if (← get).isEmpty ∧ 2 ≤ first.utf8Size then throw .invalid
  let second ← next
  match Numeral.digit? first, Numeral.digit? second with
  | some m, some n => return (m, n)
  | _, _ => throw .invalid

/-- Hours and minutes after the sign of an offset, in seconds. -/
def offsetSize : Scan Nat := do
  let (h₁, h₂) ← twoDigits
  skipWhile fun c => c == ':' || isBlank c
  let (m₁, m₂) ← twoDigits
  if m₁ ≤ 5 then return (h₁ * 10 + h₂) * 3600 + (m₁ * 10 + m₂) * 60 else throw .outOfRange

/-- An offset from UTC in seconds: the letter Z, the word UTC, or a sign, hours and minutes. -/
def offset : Scan Int := do
  let l ← get
  if (l.take 3).map Char.toUpper = ['U', 'T', 'C'] then
    set (l.drop 3)
    return 0
  let c ← next
  if c = 'Z' ∨ c = 'z' then return 0
  else if c = '+' then return (← offsetSize)
  else if c = '-' ∨ c = '−' then return -(← offsetSize)
  else throw .invalid

/-- A date, a time of day and an offset, up to the end of the text. -/
def scan : Scan Instant := do
  let y ← year
  mark '-'
  let mo ← part 1 12
  mark '-'
  let d ← part 1 31
  divider
  let h ← part 0 23
  mark ':'
  let mi ← part 0 59
  mark ':'
  let sec ← part 0 60
  let frac ← fraction
  skipWhile isBlank
  let east ← offset
  skipWhile isBlank
  if !(← get).isEmpty then throw .tooLong
  let date : Date := { year := y, month := mo, day := d }
  if ¬ date.Exists ∨ 86400 ≤ east.natAbs then throw .outOfRange
  let leap := if sec = 60 then 1 else 0
  let clock := h * 3600 + mi * 60 + (sec - leap)
  match ofSeconds? (date.toDays * 86400 + clock - east) (frac + leap * 1000000000) with
  | some t => return t
  | none => throw .impossible

/-- Reads an instant. -/
def parse (s : String) : Except InstantError Instant :=
  scan.run' s.toList

/-- A number with zeros before it up to a width. -/
def padded (width n : Nat) : String :=
  let s := toString n
  String.ofList (List.replicate (width - s.length) '0') ++ s

/-- Four digits for the years 0 to 9999, otherwise a sign and four digits or more. -/
def yearText (y : Int) : String :=
  if 0 ≤ y ∧ y ≤ 9999 then padded 4 y.toNat
  else (if y < 0 then "-" else "+") ++ padded 4 y.natAbs

/-- The fraction with 0, 3, 6 or 9 digits, the fewest that keep it. -/
def fractionText (nanos : Nat) : String :=
  if nanos = 0 then ""
  else if nanos % 1000000 = 0 then "." ++ padded 3 (nanos / 1000000)
  else if nanos % 1000 = 0 then "." ++ padded 6 (nanos / 1000)
  else "." ++ padded 9 nanos

/-- Date and time of day, in UTC, without a mark of the zone. -/
def localText (t : Instant) (between : String) : String :=
  let date := Date.ofDays (t.seconds / 86400)
  let clock := (t.seconds % 86400).toNat
  let leap := t.nanos / 1000000000
  yearText date.year ++ "-" ++ padded 2 date.month ++ "-" ++ padded 2 date.day ++ between ++
    padded 2 (clock / 3600) ++ ":" ++ padded 2 (clock / 60 % 60) ++ ":" ++
    padded 2 (clock % 60 + leap) ++ fractionText (t.nanos % 1000000000)

/-- The written form of an instant. -/
def render (t : Instant) : String :=
  t.localText "T" ++ "Z"

end Instant

end AccountDirectory.Time
