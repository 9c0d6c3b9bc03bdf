/-!
Points in time: whole seconds from the start of 1970 and a fraction in nanoseconds. A fraction of
a second or more marks a leap second, which lies between its second and the next.
-/

namespace AccountDirectory.Time

/-- A point in time between the first and the last second of the calendar's range. -/
structure Instant where
  seconds : Int
  nanos : Nat
  firstSecond_le : -8334601228800 ≤ seconds := by decide
  le_lastSecond : seconds ≤ 8210266876799 := by decide
  nanos_lt : nanos < 2000000000 := by decide
deriving DecidableEq, Repr

namespace Instant

instance : Inhabited Instant := ⟨{ seconds := 0, nanos := 0 }⟩

/-- The instant at a second and a fraction, if it lies in the range. -/
def ofSeconds? (seconds : Int) (nanos : Nat) : Option Instant :=
  if h : -8334601228800 ≤ seconds ∧ seconds ≤ 8210266876799 ∧ nanos < 2000000000 then
    some ⟨seconds, nanos, h.1, h.2.1, h.2.2⟩
  else none

/-- The instant a number of microseconds from the start of 1970. -/
def ofMicros? (micros : Int) : Option Instant :=
  ofSeconds? (micros / 1000000) ((micros % 1000000).toNat * 1000)

instance : LT Instant where
  lt a b := a.seconds < b.seconds ∨ (a.seconds = b.seconds ∧ a.nanos < b.nanos)

instance : LE Instant where
  le a b := a.seconds < b.seconds ∨ (a.seconds = b.seconds ∧ a.nanos ≤ b.nanos)

instance (a b : Instant) : Decidable (a < b) :=
  inferInstanceAs (Decidable (_ ∨ _))

instance (a b : Instant) : Decidable (a ≤ b) :=
  inferInstanceAs (Decidable (_ ∨ _))

/-- The start of the instant's second, which for a leap second is its own start. -/
def floor (t : Instant) : Instant :=
  { t with
    nanos := if t.nanos < 1000000000 then 0 else 1000000000
    nanos_lt := by split <;> decide }

/-- The instant `n` seconds later; a sum outside the range is none. A leap second is counted with the
    second before it for what is later, and with the second after it for what is earlier. -/
def addSeconds? (t : Instant) (n : Int) : Option Instant :=
  if n = 0 then some t
  else if n < 0 ∧ 1000000000 ≤ t.nanos then
    ofSeconds? (t.seconds + 1 + n) (t.nanos - 1000000000)
  else ofSeconds? (t.seconds + n) (t.nanos % 1000000000)

/-- The instant `n` nanoseconds later, for a fraction below one second. -/
def addNanos? (t : Instant) (n : Nat) : Option Instant :=
  let total := t.nanos + n
  ofSeconds? (t.seconds + (total / 1000000000 : Nat)) (total % 1000000000)

/-- The report of a sum outside the range. -/
def outOfTimeMessage : String :=
  "\x60DateTime + TimeDelta\x60 overflowed"

end Instant

end AccountDirectory.Time
