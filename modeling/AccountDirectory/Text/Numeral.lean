/-!
Integers written in decimal: an optional sign and ASCII digits, read from the left, so that the
first digit that leaves the range decides before anything that stands after it.
-/

namespace AccountDirectory

/-- Why a text is not an integer of the wanted range. -/
inductive NumeralError where
  | empty
  | invalidDigit
  | tooLarge
  | tooSmall
deriving DecidableEq, Repr

namespace NumeralError

def message : NumeralError → String
  | empty => "cannot parse integer from empty string"
  | invalidDigit => "invalid digit found in string"
  | tooLarge => "number too large to fit in target type"
  | tooSmall => "number too small to fit in target type"

end NumeralError

namespace Numeral

/-- The value of an ASCII digit. -/
def digit? (c : Char) : Option Nat :=
  if c.isDigit then some (c.toNat - '0'.toNat) else none

/-- Appends the digits to `acc`; `beyond` arises where the value first exceeds `limit`. -/
def digits (limit : Nat) (beyond : NumeralError) (acc : Nat) :
    List Char → Except NumeralError Nat
  | [] => .ok acc
  | c :: rest =>
    match digit? c with
    | none => .error .invalidDigit
    | some d =>
      if acc * 10 + d ≤ limit then digits limit beyond (acc * 10 + d) rest else .error beyond

/-- One digit or more. -/
def magnitude (limit : Nat) (beyond : NumeralError) : List Char → Except NumeralError Nat
  | [] => .error .invalidDigit
  | l => digits limit beyond 0 l

/-- Reads a natural number of at most `limit`; a plus sign may stand before it. -/
def natural (limit : Nat) (s : String) : Except NumeralError Nat :=
  match s.toList with
  | [] => .error .empty
  | '+' :: rest => magnitude limit .tooLarge rest
  | l => magnitude limit .tooLarge l

/-- Reads an integer of a range that is given by the magnitudes of its two ends. -/
def integer (lowest highest : Nat) (s : String) : Except NumeralError Int :=
  match s.toList with
  | [] => .error .empty
  | '+' :: rest => (magnitude highest .tooLarge rest).map Int.ofNat
  | '-' :: rest => (magnitude lowest .tooSmall rest).map fun n => -(n : Int)
  | l => (magnitude highest .tooLarge l).map Int.ofNat

/-- Reads a signed integer of 32 bits. -/
def int32 (s : String) : Except NumeralError Int32 :=
  (integer 0x80000000 0x7fffffff s).map Int32.ofInt

/-- Reads a signed integer of 64 bits. -/
def int64 (s : String) : Except NumeralError Int :=
  integer 0x8000000000000000 0x7fffffffffffffff s

end Numeral

end AccountDirectory
