import AccountDirectory.Text.Base16
import AccountDirectory.Text.Numeral

/-!
Network addresses as text: four decimal numbers, or eight groups of hexadecimal digits in which one
run of zeros may be left out and the last two may stand as four decimal numbers.
-/

namespace AccountDirectory

inductive IpAddress where
  | v4 (a b c d : UInt8)
  | v6 (groups : Vector UInt16 8)
deriving DecidableEq, Repr

namespace IpAddress

/-- Reads from the front of a text, or leaves it as it was. -/
abbrev Scan := StateT (List Char) Option

def character (c : Char) : Scan Unit := do
  let d :: rest ← get | failure
  guard (c = d)
  set rest

/-- One to `width` digits, as a number. -/
def digits (width base : Nat) (value? : Char → Option Nat) : Scan Nat := do
  let l ← get
  let ds := (l.takeWhile fun c => (value? c).isSome).filterMap value?
  guard (0 < ds.length ∧ ds.length ≤ width)
  set (l.drop ds.length)
  return ds.foldl (fun n d => n * base + d) 0

/-- A number below 256, without zeros before it. -/
def octet : Scan UInt8 := do
  let leadingZero := (← get).head? = some '0'
  let before := (← get).length
  let n ← digits 3 10 Numeral.digit?
  guard (n < 256 ∧ (leadingZero → before - (← get).length = 1))
  return UInt8.ofNat n

def v4Address : Scan (UInt8 × UInt8 × UInt8 × UInt8) := do
  let a ← octet
  character '.'
  let b ← octet
  character '.'
  let c ← octet
  character '.'
  let d ← octet
  return (a, b, c, d)

/-- The value of a hexadecimal digit. -/
def hexDigit? (c : Char) : Option Nat :=
  if c.toNat < 128 then Text.Base16.value? (UInt8.ofNat c.toNat) else none

/-- The colon before any group but the first. -/
def separated {α : Type} (isFirst : Bool) (s : Scan α) : Scan α := do
  if !isFirst then character ':'
  s

def pair (high low : UInt8) : UInt16 :=
  high.toUInt16 <<< 8 ||| low.toUInt16

/-- Groups up to a number of them, and whether the last two were four decimal numbers. -/
def groups (isFirst : Bool) : Nat → Scan (List UInt16 × Bool)
  | 0 => return ([], false)
  | room + 1 => fun l =>
    match if 0 < room then (separated isFirst v4Address) l else none with
    | some ((a, b, c, d), rest) => some (([pair a b, pair c d], true), rest)
    | none =>
      match (separated isFirst (digits 4 16 hexDigit?)) l with
      | none => some (([], false), l)
      | some (g, rest) => do
        let ((more, dotted), rest) ← groups false room rest
        return ((UInt16.ofNat g :: more, dotted), rest)

def v6Address : Scan (Vector UInt16 8) := do
  let (head, dotted) ← groups true 8
  if h : head.length = 8 then return ⟨head.toArray, by simpa using h⟩
  guard !dotted
  character ':'
  character ':'
  let (tail, _) ← groups true (7 - head.length)
  let all := head ++ List.replicate (8 - head.length - tail.length) 0 ++ tail
  if h : all.length = 8 then return ⟨all.toArray, by simpa using h⟩ else failure

/-- Reads an address of either kind. -/
def parse? (s : String) : Option IpAddress :=
  match v4Address.run s.toList with
  | some ((a, b, c, d), []) => some (v4 a b c d)
  | _ =>
    match v6Address.run s.toList with
    | some (g, []) => some (v6 g)
    | _ => none

def dotted (a b c d : UInt8) : String :=
  s!"{a}.{b}.{c}.{d}"

def groupText (g : UInt16) : String :=
  String.ofList (Nat.toDigits 16 g.toNat)

/-- The groups with colons between them. -/
def colons (l : List UInt16) : String :=
  ":".intercalate (l.map groupText)

/-- The number of zeros at the front. -/
def zeros (l : List UInt16) : Nat :=
  (l.takeWhile (· == 0)).length

/-- Where the longest run of zeros starts, the first of them if there are several. -/
def longestZeros (l : List UInt16) : Nat :=
  (List.range l.length).foldl
    (fun best i => if zeros (l.drop best) < zeros (l.drop i) then i else best) 0

/-- Two zeros or more are written as two colons; an address that stands for one of four numbers
    ends in these. -/
def render : IpAddress → String
  | v4 a b c d => dotted a b c d
  | v6 groups =>
    let l := groups.toList
    match l with
    | [0, 0, 0, 0, 0, 0xffff, g, h] =>
      "::ffff:" ++ dotted (g >>> 8).toUInt8 g.toUInt8 (h >>> 8).toUInt8 h.toUInt8
    | _ =>
      let start := longestZeros l
      let run := zeros (l.drop start)
      if run < 2 then colons l
      else colons (l.take start) ++ "::" ++ colons (l.drop (start + run))

/-- An address with a port. -/
def withPort (a : IpAddress) (port : Nat) : String :=
  match a with
  | v4 .. => a.render ++ ":" ++ toString port
  | v6 _ => "[" ++ a.render ++ "]:" ++ toString port

end IpAddress

end AccountDirectory
