/-! # Double-precision numbers by their bits

A sample value is an IEEE 754 double. It is kept as its 64 bits, so that rounding and printing are
exact computations on naturals and the model says everything about a value, the payload of a NaN
included.
-/

namespace Exposition

/-- `2 ^ n`. -/
def twoTo (n : Nat) : Nat := Nat.pow 2 n

/-- `10 ^ n`. -/
def tenTo (n : Nat) : Nat := Nat.pow 10 n

theorem twoTo_pos (n : Nat) : 0 < twoTo n := Nat.pow_pos (by decide)

theorem tenTo_zero : tenTo 0 = 1 := rfl

theorem tenTo_pos (n : Nat) : 0 < tenTo n := Nat.pow_pos (by decide)

/-- A double-precision number, given by its 64 bits: sign, 11 bits of exponent, 52 of fraction. -/
structure Binary64 where
  bits : UInt64
  deriving DecidableEq, Repr, Inhabited

namespace Binary64

def isNegative (x : Binary64) : Bool := x.bits.toNat / twoTo 63 = 1

/-- The bits below the sign. Among numbers of one sign they are ordered as the numbers are. -/
def magnitudeBits (x : Binary64) : Nat := x.bits.toNat % twoTo 63

def exponentField (x : Binary64) : Nat := x.magnitudeBits / twoTo 52

def fractionField (x : Binary64) : Nat := x.magnitudeBits % twoTo 52

/-- The magnitude bits of infinity: every finite number has less, every NaN more. -/
def infinityBits : Nat := 0x7FF * twoTo 52

/-- The number with a sign and given bits below it. -/
def ofParts (negative : Bool) (magnitude : Nat) : Binary64 :=
  ⟨UInt64.ofNat ((if negative then twoTo 63 else 0) + magnitude)⟩

def zero (negative : Bool) : Binary64 := ofParts negative 0

def infinity (negative : Bool) : Binary64 := ofParts negative infinityBits

/-- The quiet NaN that every written NaN stands for. -/
def nan : Binary64 := ofParts false (infinityBits + twoTo 51)

def isNaN (x : Binary64) : Bool := infinityBits < x.magnitudeBits

def isFinite (x : Binary64) : Bool := x.magnitudeBits < infinityBits

def isZero (x : Binary64) : Bool := x.magnitudeBits = 0

/-- The absolute value of a finite number is `significand * 2 ^ (scale - 1074)`. -/
def significand (x : Binary64) : Nat :=
  if x.exponentField = 0 then x.fractionField else twoTo 52 + x.fractionField

def scale (x : Binary64) : Nat := x.exponentField - 1

/-- Equality of numbers: a NaN differs from itself, and the two zeros are equal. -/
def equals (x y : Binary64) : Bool :=
  !x.isNaN && !y.isNaN && (x.bits == y.bits || (x.isZero && y.isZero))

end Binary64

end Exposition
