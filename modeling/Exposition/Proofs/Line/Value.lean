import Exposition.Proofs.Line.Token
import Exposition.Proofs.Number.Rounding

/-! # Tokens of values

Every value that can be read has a token that reads completely as it: the finite doubles a numeral,
infinities and the one NaN that is ever read their words.
-/

namespace Exposition

/-- A numeral as it may be written: an integer and a power of ten. -/
def Decimal.token (d : Decimal) : List Char :=
  (if d.negative then ['-'] else []) ++
    (Nat.toDigits 10 d.coefficient ++ 'e' :: (toString d.exponent).toList)

theorem numeral?_digits {power : List Char} {exponent : Int} (negative : Bool) (coefficient : Nat)
    (h : integer? power = some (exponent, [])) :
    numeral? negative (Nat.toDigits 10 coefficient ++ 'e' :: power) =
      some (⟨negative, coefficient, exponent⟩, []) := by
  have letter : Ends isMantissaChar ('e' :: power) := .cons (by decide) _
  have whole := mantissa?_whole Nat.toDigits_ne_nil
    (isDigit_of_mem_toDigits (n := coefficient)) letter
  have fraction : ofDigits coefficient [] = coefficient := rfl
  simp [numeral?, whole, exponent?_letter (.inl rfl), h, fraction]

theorem decimal?_token (d : Decimal) : decimal? d.token = some (d, []) := by
  have signed : sign d.token = (d.negative,
      Nat.toDigits 10 d.coefficient ++ 'e' :: (toString d.exponent).toList) := by
    rw [Decimal.token]
    cases d.negative with
    | true => rfl
    | false => exact sign_toDigits _ _
  rw [decimal?_eq, signed]
  exact numeral?_digits d.negative d.coefficient (integer?_toString d.exponent)

theorem value?_decimal_token (d : Decimal) : value? d.token = some (d.toBinary64, []) := by
  have isDecimal := decimal?_token d
  rw [decimal?_eq] at isDecimal
  rw [value?, special?_eq, specialWord?_eq_none isDecimal]
  simp [decimal?_token]

theorem Binary64.eq_infinity {x : Binary64} (h : x.magnitudeBits = infinityBits) :
    x = infinity x.isNegative := by
  conv_lhs => rw [← x.ofParts_magnitudeBits, h]
  rfl

/-- Of the many NaNs only one can be read. -/
def Binary64.IsReadable (x : Binary64) : Prop := x.isNaN = true → x = nan

theorem Binary64.IsReadable.exists_token {x : Binary64} (h : x.IsReadable) :
    ∃ token, value? token = some (x, []) := by
  rcases lt_trichotomy x.magnitudeBits Binary64.infinityBits with finite | infinite | nan
  · have finite : x.isFinite = true := by simpa [Binary64.isFinite] using finite
    exact ⟨x.exact.token, by rw [value?_decimal_token, Binary64.toBinary64_exact finite]⟩
  · rw [Binary64.eq_infinity infinite]
    cases x.isNegative with
    | true => exact ⟨['-', 'i', 'n', 'f'], by decide⟩
    | false => exact ⟨['i', 'n', 'f'], by decide⟩
  · have isNaN : x.isNaN = true := by simpa [Binary64.isNaN] using nan
    rw [h isNaN]
    exact ⟨['n', 'a', 'n'], by decide⟩

theorem isReadable_of_specialWord? {negative : Bool} {cs rest : List Char} {x : Binary64}
    (h : specialWord? negative cs = some (x, rest)) : x.IsReadable := by
  unfold specialWord? at h
  split at h
  · obtain ⟨rfl, -⟩ := Prod.mk.inj (Option.some.inj h)
    intro isNaN
    cases negative <;> exact absurd isNaN (by decide)
  · obtain ⟨_, _, same⟩ := Option.map_eq_some_iff.mp h
    obtain ⟨rfl, -⟩ := Prod.mk.inj same
    exact fun _ => rfl

theorem isReadable_of_value? {cs rest : List Char} {x : Binary64}
    (h : value? cs = some (x, rest)) : x.IsReadable := by
  unfold value? at h
  split at h
  · next special =>
      cases h
      exact isReadable_of_specialWord? special
  · obtain ⟨⟨d, _⟩, _, same⟩ := Option.map_eq_some_iff.mp h
    cases same
    intro isNaN
    rw [d.isNaN_toBinary64] at isNaN
    cases isNaN

end Exposition
