import Exposition.Number.Binary64

/-! # Rounding to the nearest double

A decimal numeral names a rational number. Its double is the nearest one, the one with an even
significand if two are equally near; what lies beyond the largest double by half a step or more
becomes infinity.
-/

namespace Exposition

/-- `num / den` rounded to the nearest natural, a half going to the even neighbour. -/
def roundHalfEven (num den : Nat) : Nat :=
  let q := num / den
  let twice := 2 * (num % den)
  if twice < den then q
  else if den < twice then q + 1
  else if q % 2 = 0 then q else q + 1

/-- The integer part of the binary logarithm of `num / den`. -/
def floorLog2 (num den : Nat) : Int :=
  let guess : Int := (Nat.log2 num : Int) - (Nat.log2 den : Int)
  let atLeast : Bool :=
    if 0 ≤ guess then den * twoTo guess.toNat ≤ num else den ≤ num * twoTo (-guess).toNat
  if atLeast then guess else guess - 1

namespace Binary64

/-- The magnitude bits of the double nearest to the positive rational `num / den`. A step of the
    result is `2 ^ q`, where the 53 leading bits of the number end, but never below `2 ^ -1074`.
    The significand may round up to `2 ^ 53`: then the carry runs into the exponent field, which
    is the next double. -/
def nearestMagnitude (num den : Nat) : Nat :=
  let q : Int := max (floorLog2 num den - 52) (-1074)
  let steps :=
    if 0 ≤ q then roundHalfEven num (den * twoTo q.toNat)
    else roundHalfEven (num * twoTo (-q).toNat) den
  min infinityBits ((q + 1074).toNat * twoTo 52 + steps)

end Binary64

/-- A decimal numeral: a sign, and a coefficient times a power of ten. -/
structure Decimal where
  negative : Bool
  coefficient : Nat
  exponent : Int
  deriving DecidableEq, Repr

namespace Decimal

/-- The bits below the sign of the double nearest to a numeral. A positive coefficient times
    `10 ^ 400` is beyond every double. A coefficient of `b` bits times `10 ^ -n` is below
    `2 ^ (b - 3 * n)`, which rounds to zero once the power is small enough; so powers of ten are
    computed only as long as they matter. -/
def magnitude (d : Decimal) : Nat :=
  if d.coefficient = 0 then 0
  else
    let n := (-d.exponent).toNat
    if 400 ≤ d.exponent then Binary64.infinityBits
    else if Nat.log2 d.coefficient + 1 + 1076 ≤ 3 * n then 0
    else Binary64.nearestMagnitude (d.coefficient * tenTo d.exponent.toNat) (tenTo n)

/-- The double nearest to a numeral; a zero keeps the sign of the numeral. -/
def toBinary64 (d : Decimal) : Binary64 := Binary64.ofParts d.negative d.magnitude

end Decimal

end Exposition
