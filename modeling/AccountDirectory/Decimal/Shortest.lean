/-!
The shortest decimal that identifies a binary floating-point number: the fewest digits that read
back to it, and among those the nearest to it.
-/

namespace AccountDirectory

/-- A decimal `digits * 10 ^ exponent`. -/
structure Decimal where
  digits : Nat
  exponent : Int
deriving DecidableEq, Repr

namespace Decimal

/-- A positive number `m * 2 ^ q`. `narrowBelow` holds at a power of two, where the next number
    below is half as far away as the next one above. -/
structure Binary where
  m : Nat
  q : Int
  narrowBelow : Bool
deriving DecidableEq, Repr

/-- The magnitude of a finite number. -/
def Binary.ofBits (bits : UInt64) : Binary :=
  let fraction : Nat := bits.toNat % 0x10000000000000
  let e : Nat := bits.toNat / 0x10000000000000 % 0x800
  if e = 0 then { m := fraction, q := -1074, narrowBelow := false }
  else { m := fraction + 0x10000000000000, q := (e : Int) - 1075, narrowBelow := fraction = 0 ∧ 1 < e }

/-- The numerator and the denominator of `n * base ^ e`. -/
def scaled (n base : Nat) (e : Int) : Nat × Nat :=
  if 0 ≤ e then (n * base.pow e.toNat, 1) else (n, base.pow (-e).toNat)

def lessEq (a b : Nat × Nat) : Bool :=
  a.1 * b.2 ≤ b.1 * a.2

def less (a b : Nat × Nat) : Bool :=
  a.1 * b.2 < b.1 * a.2

/-- Whether the decimal rounds to the number: it lies between the middles of the gaps on the two
    sides, the middles included for an even `m`. -/
def Binary.readsBack (x : Binary) (d : Decimal) : Bool :=
  let v := scaled d.digits 10 d.exponent
  let low := scaled (4 * x.m - (if x.narrowBelow then 1 else 2)) 2 (x.q - 2)
  let high := scaled (4 * x.m + 2) 2 (x.q - 2)
  if x.m % 2 = 0 then lessEq low v && lessEq v high else less low v && less v high

/-- The least `k` with `x < 10 ^ k`, from an estimate that is at most two too low. -/
def Binary.scale (x : Binary) : Int :=
  let v := scaled x.m 2 x.q
  let estimate := ((Nat.log2 x.m : Int) + x.q) * 1233 / 4096 - 1
  let fits (k : Int) : Bool := less v (scaled 1 10 k)
  if fits estimate then estimate
  else if fits (estimate + 1) then estimate + 1
  else if fits (estimate + 2) then estimate + 2
  else estimate + 3

/-- The decimals with `n` digits next to the number, the nearer one first. -/
def Binary.neighbours (x : Binary) (k : Int) (n : Nat) : List Decimal :=
  let g := k - n
  let v := scaled x.m 2 x.q
  let grid := scaled 1 10 g
  let num := v.1 * grid.2
  let den := v.2 * grid.1
  let below : Decimal := { digits := num / den, exponent := g }
  let above : Decimal := { digits := num / den + 1, exponent := g }
  if num % den * 2 ≤ den then [below, above] else [above, below]

/-- Moves the zeros at the end of the digits into the exponent. -/
def strip (fuel : Nat) (d : Decimal) : Decimal :=
  match fuel with
  | 0 => d
  | fuel + 1 =>
    if d.digits % 10 = 0 ∧ d.digits ≠ 0 then
      strip fuel { digits := d.digits / 10, exponent := d.exponent + 1 }
    else d

/-- The shortest decimal of a positive number; seventeen digits always suffice. -/
def Binary.shortest (x : Binary) : Decimal :=
  let k := x.scale
  let hits := (List.range 17).flatMap fun n => (x.neighbours k (n + 1)).filter x.readsBack
  match hits with
  | d :: _ => d.strip 17
  | [] => { digits := (scaled x.m 2 x.q).1 / (scaled x.m 2 x.q).2, exponent := 0 }

end Decimal

end AccountDirectory
