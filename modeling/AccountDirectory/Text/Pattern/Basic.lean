/-!
Patterns of texts. There may be several ways to match from the start of a text on; they are
ordered, and a text is accepted if the first of them takes all of it.
-/

namespace AccountDirectory.Text

inductive Pattern where
  | empty
  /-- A character in one of the ranges, or in none of them. -/
  | oneOf (negated : Bool) (ranges : List (Char × Char))
  | textStart
  | textEnd
  | lineStart
  | lineEnd
  | seq (a b : Pattern)
  /-- The ways of the first come before those of the second. -/
  | choice (a b : Pattern)
  /-- Any number of times: as often as possible first, or as rarely. -/
  | repeated (greedy : Bool) (a : Pattern)
deriving DecidableEq, Repr

namespace Pattern

def char (c : Char) : Pattern :=
  oneOf false [(c, c)]

def optional (greedy : Bool) (a : Pattern) : Pattern :=
  if greedy then choice a empty else choice empty a

/-- Once or more. -/
def onceOrMore (greedy : Bool) (a : Pattern) : Pattern :=
  seq a (repeated greedy a)

/-- A place in a text: the character before it and the characters after it. -/
structure Spot where
  before : Option Char
  rest : List Char

/-- Appends a spot unless it is there. Spots of one text differ in what is left of it. -/
def Spot.addTo (s : Spot) (l : List Spot) : List Spot :=
  if l.any fun t => t.rest.length = s.rest.length then l else l ++ [s]

/-- The spots without repetitions, the first ones kept. -/
def distinct (l : List Spot) : List Spot :=
  l.foldl (fun done s => s.addTo done) []

/-- Adds the ends of a repetition to those found before. What has been reached before is not gone
    on from again, and a round that takes nothing is the last one. The number bounds the length of
    what is left. -/
def roundsFrom (ends : Spot → List Spot) (greedy : Bool) : Nat → List Spot → Spot → List Spot
  | 0, found, s => s.addTo found
  | bound + 1, found, s =>
    if found.any fun t => t.rest.length = s.rest.length then found
    else
      let next (found : List Spot) (t : Spot) : List Spot :=
        if t.rest.length < s.rest.length then roundsFrom ends greedy bound found t
        else s.addTo found
      s.addTo ((ends s).foldl next (if greedy then found else s.addTo found))

/-- Where the ways to match from a spot end, in their order. -/
def ends : Pattern → Spot → List Spot
  | empty, s => [s]
  | oneOf negated ranges, s =>
    match s.rest with
    | [] => []
    | c :: rest =>
      if (ranges.any fun r => r.1 ≤ c && c ≤ r.2) != negated then [⟨some c, rest⟩] else []
  | textStart, s => if s.before.isNone then [s] else []
  | textEnd, s => if s.rest.isEmpty then [s] else []
  | lineStart, s => if s.before.all (· == '\n') then [s] else []
  | lineEnd, s => if s.rest.head?.all (· == '\n') then [s] else []
  | seq a b, s => distinct ((a.ends s).flatMap b.ends)
  | choice a b, s => distinct (a.ends s ++ b.ends s)
  | repeated greedy a, s => roundsFrom a.ends greedy s.rest.length [] s

def accepts (p : Pattern) (text : String) : Bool :=
  ((p.ends ⟨none, text.toList⟩).head?.map fun s => s.rest.isEmpty).getD false

end Pattern

end AccountDirectory.Text
