/-
# Shortest decimal digits

The fewest decimal digits that read back as the same double, and of those the nearest to it.  Of
`n` digits only the two neighbours of the number on the grid of its `n`-digit decimals can do: if
a point of the grid rounds to the number, so does one of them.
-/
import Fleet.Binary64.Basic

namespace Fleet.Binary64

/-! ## The rounding interval -/

/-- The positive rational numbers that round to a double: their least and their greatest. -/
structure Interval where
  /-- The number itself, in quarters of its last bit. -/
  value : Nat
  /-- The least number, in the same unit. -/
  low : Nat
  /-- The greatest number, in the same unit. -/
  high : Nat
  /-- The exponent of two of the unit. -/
  unit : Int
  /-- Whether the ends belong to it. -/
  closed : Bool

/-- The interval of a double that is not zero: half a last bit on both sides, but a quarter below
where the exponent changes. -/
def interval (x : Binary64) : Interval :=
  let m := x.significand
  { value := 4 * m
    low := if m = leadingBit ∧ x.exponent ≠ -1074 then 4 * m - 1 else 4 * m - 2
    high := 4 * m + 2
    unit := x.exponent - 2
    closed := m % 2 = 0 }

/-! ## Digits -/

/-- The quotient `a * 2 ^ e / 10 ^ t` as a pair of natural numbers. -/
def onGrid (a : Nat) (e t : Int) : Nat × Nat :=
  (a * Nat.pow 2 e.toNat * Nat.pow 10 (-t).toNat, Nat.pow 2 (-e).toNat * Nat.pow 10 t.toNat)

/-- Whether `d` steps of `10 ^ t` round to the double. -/
def Interval.holds (i : Interval) (d : Nat) (t : Int) : Bool :=
  let (low, den) := onGrid i.low i.unit t
  let (high, _) := onGrid i.high i.unit t
  if i.closed then decide (low ≤ d * den) && decide (d * den ≤ high)
  else decide (low < d * den) && decide (d * den < high)

/-- The neighbour on the grid of step `10 ^ t` that rounds to the double, the nearer of two, the
even one of a tie. -/
def Interval.neighbour? (i : Interval) (t : Int) : Option Nat :=
  let (num, den) := onGrid i.value i.unit t
  let d := num / den
  let r := num % den
  match i.holds d t, i.holds (d + 1) t with
  | true, true =>
    if 2 * r < den then some d
    else if den < 2 * r then some (d + 1)
    else if d % 2 = 0 then some d else some (d + 1)
  | true, false => some d
  | false, true => some (d + 1)
  | false, false => none

/-- The number of digits of the integer part, or minus the number of zeros behind the point. -/
def magnitude (num den : Nat) : Int :=
  if den ≤ num then ((Nat.toDigits 10 (num / den)).length : Int)
  else
    match (List.range 400).find? fun k => decide (den ≤ num * Nat.pow 10 (k + 1)) with
    | some k => -(k : Int)
    | none => -400

/-- Drops trailing zeros, counting them into the exponent. -/
def withoutZeros : Nat → Nat → Int → Nat × Int
  | 0, d, t => (d, t)
  | fuel + 1, d, t => if d ≠ 0 ∧ d % 10 = 0 then withoutZeros fuel (d / 10) (t + 1) else (d, t)

/-- The shortest digits `d` and their exponent `t`: the number reads back from `d * 10 ^ t`. -/
def shortest (x : Binary64) : Nat × Int :=
  if x.isZero then (0, 0)
  else
    let i := x.interval
    let (num, den) := onGrid i.value i.unit 0
    let size := magnitude num den
    match (List.range 17).findSome? fun (n : Nat) =>
        (i.neighbour? (size - (n + 1 : Nat))).map fun d => (d, size - ((n + 1 : Nat) : Int)) with
    | some (d, t) => withoutZeros 20 d t
    | none => (0, 0)

end Fleet.Binary64
