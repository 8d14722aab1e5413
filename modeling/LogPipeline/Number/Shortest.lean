/-!
# Shortest decimals

The decimal with the fewest digits that reads back as a given binary64 number. The reals that
round to a finite positive number form an interval; the decimal sought lies on the coarsest grid
of multiples of a power of ten that meets this interval, and is the point of the grid nearest to
the number. Of two points that are equally near it is the even multiple.
-/

namespace LogPipeline.Number

structure Dyadic where
  negative : Bool
  mantissa : Nat
  exponent : Int
  /-- The next smaller magnitude is only half as far away as the next larger one. -/
  narrow : Bool
  deriving DecidableEq, Repr

def Dyadic.ofFloat (x : Float) : Dyadic :=
  let bits : Nat := x.toBits.toNat
  let fraction : Nat := bits % 4503599627370496
  let power : Nat := bits / 4503599627370496 % 2048
  { negative := bits / 9223372036854775808 = 1
    mantissa := if power = 0 then fraction else 4503599627370496 + fraction
    exponent := if power = 0 then -1074 else (power : Int) - 1075
    narrow := fraction = 0 && power > 1 }

structure Decimal where
  digits : Nat
  exponent : Int
  deriving DecidableEq, Repr

/-- The reals that round to a number: the fractions from `low / unit` to `high / unit`, with the
number itself at `middle / unit`. -/
structure RoundingInterval where
  low : Nat
  middle : Nat
  high : Nat
  unit : Nat
  closed : Bool

def Dyadic.interval (d : Dyadic) : RoundingInterval :=
  let grow := Nat.pow 2 (d.exponent - 2).toNat
  { low := (4 * d.mantissa - if d.narrow then 1 else 2) * grow
    middle := 4 * d.mantissa * grow
    high := (4 * d.mantissa + 2) * grow
    unit := Nat.pow 2 (2 - d.exponent).toNat
    closed := d.mantissa % 2 = 0 }

def RoundingInterval.onGrid (i : RoundingInterval) (k : Int) : RoundingInterval :=
  let finer := Nat.pow 10 (-k).toNat
  { i with
    low := i.low * finer
    middle := i.middle * finer
    high := i.high * finer
    unit := i.unit * Nat.pow 10 k.toNat }

def RoundingInterval.contains (i : RoundingInterval) (n : Nat) : Bool :=
  if i.closed then i.low ≤ n * i.unit && n * i.unit ≤ i.high
  else i.low < n * i.unit && n * i.unit < i.high

def RoundingInterval.nearer (i : RoundingInterval) (below : Nat) : Nat :=
  let down := i.middle - below * i.unit
  let up := (below + 1) * i.unit - i.middle
  if down < up ∨ down = up ∧ below % 2 = 0 then below else below + 1

/-- The whole number in the interval that is nearest to its middle. Only the two neighbours of the
middle can be it. -/
def RoundingInterval.nearest? (i : RoundingInterval) : Option Nat :=
  let below := i.middle / i.unit
  let above := below + 1
  match i.contains below, i.contains above with
  | true, true => some (i.nearer below)
  | true, false => some below
  | false, true => some above
  | false, false => none

def searchGrids (i : RoundingInterval) : Nat → Int → Decimal
  | 0, k => ⟨(i.onGrid k).middle / (i.onGrid k).unit, k⟩
  | steps + 1, k =>
    match (i.onGrid k).nearest? with
    | some n => ⟨n, k⟩
    | none => searchGrids i steps (k - 1)

/-- The shortest decimal of a finite number. Seventeen digits always suffice, so twenty-two grids
from one that is coarser than the number itself are enough. -/
def shortest (d : Dyadic) : Decimal :=
  if d.mantissa = 0 then ⟨0, 0⟩
  else
    let bits := (Nat.log2 d.mantissa : Int) + d.exponent
    searchGrids d.interval 22 (bits * 30103 / 100000 + 2)

end LogPipeline.Number
