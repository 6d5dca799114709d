/-! # Likeness of words

A word that is not known may be a known one, mistyped. Two words are alike if many of their
characters match at about the same place in about the same order, the more so if they begin alike.
The measure is a fraction; it is compared exactly.
-/

namespace Exposition

/-- The places in another word that match the characters of a word, from its `i`th on. `free` holds
    the characters of the other word that nothing has matched yet; of those at most `reach` places
    away, the first match counts. -/
def matchPlaces (reach : Nat) : Nat → List (Nat × Char) → List Char → List Nat
  | _, _, [] => []
  | i, free, c :: rest =>
    match free.find? fun (j, d) => d == c && j ≤ i + reach && i ≤ j + reach with
    | some (j, d) => j :: matchPlaces reach (i + 1) (free.erase (j, d)) rest
    | none => matchPlaces reach (i + 1) free rest

/-- How often a number is smaller than the one before it. -/
def descents : List Nat → Nat
  | a :: b :: rest => (if b < a then 1 else 0) + descents (b :: rest)
  | _ => 0

def commonPrefixLength : List Char → List Char → Nat
  | a :: as, b :: bs => if a = b then commonPrefixLength as bs + 1 else 0
  | _, _ => 0

/-- Is the likeness of two words above four fifths?

    With `m` matches, `t` of them out of order, words of `a` and `b` characters have the likeness
    `s = (m/a + m/b + (m - t)/m) / 3`. Each of the `p` characters with which both begin adds a tenth
    of what `s` lacks to one. -/
def areAlike (word other : List Char) : Bool :=
  let a := word.length
  let b := other.length
  let places := matchPlaces (max a b / 2 - 1) 0 ((List.range b).zip other) word
  let m := places.length
  let t := descents places
  let p := commonPrefixLength word other
  let numerator := m * m * (a + b) + (m - t) * a * b
  let denominator := 3 * a * b * m
  8 * denominator < (10 - p) * numerator + p * denominator

end Exposition
