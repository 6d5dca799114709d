import Exposition.Number.Shortest

/-! # Layout of numbers

Which digits a number has is one question, where they are put is another. A layout record answers
the second for one output format.
-/

namespace Exposition

/-- How a format writes finite doubles. -/
structure NumberLayout where
  /-- The least power of ten that is written positionally. -/
  positionalFrom : Int
  /-- The least power of ten above it that is not. -/
  positionalBelow : Int
  /-- What a positional number without fraction ends in. -/
  wholeEnding : List Char
  exponentMark : Char
  deriving Repr

namespace NumberLayout

/-- Digits with the point where the power of ten puts it. -/
def positional (layout : NumberLayout) (digits : List Char) (exponent : Int) : List Char :=
  let point := digits.length + exponent
  if 0 ≤ exponent then digits ++ List.replicate exponent.toNat '0' ++ layout.wholeEnding
  else if 0 < point then digits.take point.toNat ++ '.' :: digits.drop point.toNat
  else '0' :: '.' :: List.replicate (-point).toNat '0' ++ digits

/-- One digit, the others after a point, and the power of ten with its sign. -/
def scientific (layout : NumberLayout) (digits : List Char) (power : Int) : List Char :=
  let fraction := match digits.drop 1 with
    | [] => []
    | rest => '.' :: rest
  digits.take 1 ++ fraction ++
    layout.exponentMark :: (if power < 0 then '-' else '+') :: Nat.toDigits 10 power.natAbs

/-- A positive decimal. -/
def decimal (layout : NumberLayout) (d : Digits) : List Char :=
  let digits := Nat.toDigits 10 d.digits
  let power := d.exponent + digits.length - 1
  if layout.positionalFrom ≤ power && power < layout.positionalBelow then
    layout.positional digits d.exponent
  else layout.scientific digits power

/-- A finite number by its shortest digits. -/
def finite (layout : NumberLayout) (x : Binary64) : List Char :=
  (if x.isNegative then ['-'] else []) ++
    if x.isZero then '0' :: layout.wholeEnding else layout.decimal x.shortest

end NumberLayout

end Exposition
