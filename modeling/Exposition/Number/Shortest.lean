import Exposition.Number.Binary64

/-! # Shortest decimal digits of a double

The digits of a positive finite double are those of the decimal with the fewest digits among all
that round to it, and of these the nearest one. The search is exact: for each number of digits it
tests the two neighbours of the value on that decimal grid.
-/

namespace Exposition

/-- A positive decimal `digits * 10 ^ exponent`. -/
structure Digits where
  digits : Nat
  exponent : Int
  deriving DecidableEq, Repr

/-- The positive reals `value` that a double stands for, all as multiples of one unit
    `1 / den`: from `low` to `high`, ends included if `closed`. -/
structure RoundingInterval where
  den : Nat
  low : Nat
  value : Nat
  high : Nat
  closed : Bool
  deriving Repr

namespace Binary64

/-- What rounds to a positive finite double: up to half a step above, and below it half of the
    step that is there, which is the smaller one at a power of two. The unit is a quarter of the
    step above. -/
def interval (x : Binary64) : RoundingInterval :=
  let m := x.significand
  let below := if m = twoTo 52 && 1 < x.exponentField then 1 else 2
  let up := twoTo (x.scale - 1074)
  { den := 4 * twoTo (1074 - x.scale)
    low := (4 * m - below) * up
    value := 4 * m * up
    high := (4 * m + 2) * up
    closed := m % 2 = 0 }

end Binary64

namespace RoundingInterval

/-- Does `num / den'` lie in the interval? -/
def contains (r : RoundingInterval) (num den' : Nat) : Bool :=
  let scaled := num * r.den
  if r.closed then r.low * den' ≤ scaled && scaled ≤ r.high * den'
  else r.low * den' < scaled && scaled < r.high * den'

/-- The integer part of the decimal logarithm of the value, found from below: `10 ^ k` for the
    largest `k` in reach that does not exceed it. -/
def decimalExponent (r : RoundingInterval) : Int :=
  let above := (r.value / r.den)
  if 0 < above then ((Nat.toDigits 10 above).length - 1 : Nat)
  else
    .negOfNat (Nat.toDigits 10 ((r.den - 1) / r.value)).length

/-- The neighbours of the value among the multiples of `10 ^ e`, the nearer one first, of two
    equally near ones the even one. -/
def neighbours (r : RoundingInterval) (e : Int) : List Nat :=
  let num := r.value * tenTo (-e).toNat
  let den := r.den * tenTo e.toNat
  let below := num / den
  let twice := 2 * (num % den)
  if twice < den || (twice = den && below % 2 = 0) then [below, below + 1] else [below + 1, below]

/-- The nearer of the value's neighbours among the multiples of `10 ^ e` that lie in the
    interval. -/
def onGrid? (r : RoundingInterval) (e : Int) : Option Nat :=
  (r.neighbours e).find? fun n => 0 < n && r.contains (n * tenTo e.toNat) (tenTo (-e).toNat)

/-- The first of `count` ever finer grids, from `10 ^ e` down, with a point in the interval. -/
def search (r : RoundingInterval) (e : Int) : Nat → Digits
  | 0 => ⟨(r.neighbours e).headD 0, e⟩
  | count + 1 =>
    match r.onGrid? e with
    | some n => ⟨n, e⟩
    | none => r.search (e - 1) count

end RoundingInterval

/-- The same decimal without the zeros at its end. -/
def Digits.normalize (d : Digits) : Digits :=
  if h : d.digits ≠ 0 ∧ d.digits % 10 = 0 then normalize ⟨d.digits / 10, d.exponent + 1⟩ else d
termination_by d.digits
decreasing_by
  show d.digits / 10 < d.digits
  omega

/-- The fewest digits that read back as a positive finite double; seventeen always do. -/
def Binary64.shortest (x : Binary64) : Digits :=
  let r := x.interval
  (r.search r.decimalExponent 16).normalize

end Exposition
