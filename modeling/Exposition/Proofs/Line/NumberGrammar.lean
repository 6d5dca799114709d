import Exposition.Proofs.Line.Token
import Exposition.Proofs.Text.Unambiguous

/-! # The grammar of numbers

The tokens of values and times as trees of their parts, with what the parts are written as and what
the whole stands for. A token is read completely exactly if some tree is written as that token, and
no two trees are written alike.
-/

namespace Exposition

/-- What may stand in front of a number. -/
inductive SignText where
  | none
  | plus
  | minus
  deriving DecidableEq

namespace SignText

def chars : SignText → List Char
  | none => []
  | plus => ['+']
  | minus => ['-']

def isMinus (s : SignText) : Bool := s = minus

end SignText

/-- The class of the characters that a number may start with a sign of. -/
def isSign (c : Char) : Bool := c == '-' || c == '+'

@[grind =] theorem isSign_iff {c : Char} : isSign c = true ↔ c = '-' ∨ c = '+' := by
  simp [isSign]

@[grind →] theorem isSign_of_isDigit {c : Char} (h : isDigit c = true) : isSign c = false := by
  rw [← Bool.not_eq_true, isSign_iff]
  rintro (rfl | rfl) <;> exact absurd h (by decide)

@[grind →] theorem isSign_of_isAlpha {c : Char} (h : isAlpha c = true) : isSign c = false := by
  rw [← Bool.not_eq_true, isSign_iff]
  rintro (rfl | rfl) <;> exact absurd h (by decide)

@[grind =]
theorem isMantissaChar_iff {c : Char} : isMantissaChar c = true ↔ isDigit c = true ∨ c = '.' := by
  simp [isMantissaChar]

theorem isMantissaChar_of_isAlpha {c : Char} (h : isAlpha c = true) :
    isMantissaChar c = false := by
  rw [← Bool.not_eq_true, isMantissaChar_iff]
  rintro (digit | rfl)
  · rw [isAlpha_of_isDigit digit] at h
    cases h
  · exact absurd h (by decide)

theorem isSign_of_isMantissaChar {c : Char} (h : isMantissaChar c = true) : isSign c = false := by
  cases isMantissaChar_iff.mp h with
  | inl digit => exact isSign_of_isDigit digit
  | inr point => rw [point]; rfl

theorem sign_chars (s : SignText) {cs : List Char} (unsigned : Ends isSign cs) :
    sign (s.chars ++ cs) = (s.isMinus, cs) := by
  cases s with
  | none =>
      cases cs with
      | nil => rfl
      | cons c cs =>
          have noSign := unsigned c rfl
          rw [← Bool.not_eq_true, isSign_iff] at noSign
          rw [SignText.chars, List.nil_append, sign_cons, if_neg noSign]
          rfl
  | plus => rfl
  | minus => rfl

theorem exists_sign (cs : List Char) :
    ∃ s : SignText, cs = s.chars ++ (sign cs).2 ∧ s.isMinus = (sign cs).1 := by
  unfold sign
  split
  · exact ⟨.minus, rfl, rfl⟩
  · exact ⟨.plus, rfl, rfl⟩
  · exact ⟨.none, rfl, rfl⟩

theorem SignText.chars_append_inj {s s' : SignText} {cs cs' : List Char} (unsigned : Ends isSign cs)
    (unsigned' : Ends isSign cs') (same : s.chars ++ cs = s'.chars ++ cs') : s = s' ∧ cs = cs' := by
  have read := congrArg sign same
  rw [sign_chars s unsigned, sign_chars s' unsigned'] at read
  obtain ⟨-, rfl⟩ := Prod.mk.inj read
  have signs := List.append_cancel_right same
  refine ⟨?_, rfl⟩
  cases s <;> cases s' <;> first | rfl | cases signs

/-- One or more digits. -/
structure AreDigits (cs : List Char) : Prop where
  inside : ∀ c ∈ cs, isDigit c = true
  nonempty : cs ≠ []

theorem AreDigits.ends {p : Char → Bool} {digits : List Char} (h : AreDigits digits)
    (apart : ∀ c, isDigit c = true → p c = false) (rest : List Char) : Ends p (digits ++ rest) :=
  (Ends.of_inside h.inside apart).append h.nonempty rest

theorem areDigits_of_digits? {cs digits rest : List Char} (h : digits? cs = some (digits, rest)) :
    (∀ c ∈ digits, isDigit c = true) ∧ digits ≠ [] ∧ cs = digits ++ rest := by
  unfold digits? at h
  split at h
  · cases h
  · next nonempty =>
      cases h
      exact ⟨fun _ => mem_takeWhile, nonempty, List.takeWhile_append_dropWhile.symm⟩

/-- An integer as it is written. -/
structure IntegerText where
  sign : SignText
  digits : List Char

namespace IntegerText

def chars (t : IntegerText) : List Char := t.sign.chars ++ t.digits

def IsValid (t : IntegerText) : Prop := AreDigits t.digits

def value (t : IntegerText) : Int :=
  if t.sign.isMinus then -(ofDigits 0 t.digits : Int) else ofDigits 0 t.digits

variable {t u : IntegerText}

theorem integer?_chars (valid : t.IsValid) {rest : List Char} (ends : Ends isDigit rest) :
    integer? (t.chars ++ rest) = some (t.value, rest) := by
  have unsigned : Ends isSign (t.digits ++ rest) :=
    AreDigits.ends valid (fun _ => isSign_of_isDigit) rest
  rw [chars, List.append_assoc, integer?, sign_chars t.sign unsigned]
  simp only [digits?_append valid.nonempty valid.inside ends, Option.map_some, value]

theorem exists_of_integer? {cs rest : List Char} {n : Int} (h : integer? cs = some (n, rest)) :
    ∃ t : IntegerText, t.IsValid ∧ cs = t.chars ++ rest ∧ t.value = n := by
  obtain ⟨s, signed, isMinus⟩ := exists_sign cs
  simp only [integer?, Option.map_eq_some_iff, Prod.exists, Prod.mk.injEq] at h
  obtain ⟨digits, _, found, rfl, rfl⟩ := h
  obtain ⟨inside, nonempty, split⟩ := areDigits_of_digits? found
  exact ⟨⟨s, digits⟩, ⟨inside, nonempty⟩, by rw [chars, List.append_assoc, ← split, ← signed],
    by rw [value, isMinus]⟩

theorem chars_inj (validT : t.IsValid) (validU : u.IsValid) (same : t.chars = u.chars) : t = u := by
  have unsigned {t : IntegerText} (valid : t.IsValid) : Ends isSign t.digits :=
    .of_inside valid.inside fun _ => isSign_of_isDigit
  obtain ⟨sign, digits⟩ := SignText.chars_append_inj (unsigned validT) (unsigned validU) same
  cases t
  cases u
  cases sign
  cases digits
  rfl

end IntegerText

/-- The digits of a numeral: without a point, with a point somewhere behind a digit, or with a
    point in front. -/
inductive MantissaText where
  | whole (digits : List Char)
  | point (before after : List Char)
  | fraction (digits : List Char)

namespace MantissaText

def chars : MantissaText → List Char
  | whole digits => digits
  | point before after => before ++ '.' :: after
  | fraction digits => '.' :: digits

def IsValid : MantissaText → Prop
  | whole digits => AreDigits digits
  | point before after => AreDigits before ∧ ∀ c ∈ after, isDigit c = true
  | fraction digits => AreDigits digits

/-- The digits in front of the point and those behind it. -/
def parts : MantissaText → List Char × List Char
  | whole digits => (digits, [])
  | point before after => (before, after)
  | fraction digits => ([], digits)

variable {t u : MantissaText} {rest : List Char}

theorem inside (valid : t.IsValid) : ∀ c ∈ t.chars, isMantissaChar c = true := by
  have digit {c : Char} (h : isDigit c = true) := isMantissaChar_iff.mpr (.inl h)
  have point : isMantissaChar '.' = true := rfl
  cases t with
  | whole digits => exact fun c hc => digit (valid.inside c hc)
  | point before after =>
      intro c hc
      rcases List.mem_append.mp hc with hc | hc
      · exact digit (valid.1.inside c hc)
      · rcases List.mem_cons.mp hc with rfl | hc
        · exact point
        · exact digit (valid.2 c hc)
  | fraction digits => exact List.forall_mem_cons.mpr ⟨point, fun c hc => digit (valid.inside c hc)⟩

theorem nonempty (valid : t.IsValid) : t.chars ≠ [] := by
  cases t with
  | whole digits => exact valid.nonempty
  | point before after => simp [chars]
  | fraction digits => simp [chars]

theorem mantissa?_chars (valid : t.IsValid) (ends : Ends isMantissaChar rest) :
    mantissa? (t.chars ++ rest) = some (t.parts, rest) := by
  have noDigit : Ends isDigit rest := ends.of_imp fun c hc => isMantissaChar_iff.mpr (.inl hc)
  cases t with
  | whole digits => exact mantissa?_whole valid.nonempty valid.inside ends
  | point before after =>
      have some : ¬ (before = [] ∧ after = []) := fun none => valid.1.nonempty none.1
      rw [chars, List.append_assoc]
      exact mantissa?_point valid.1.inside valid.2 some noDigit
  | fraction digits =>
      have some : ¬ (([] : List Char) = [] ∧ digits = []) := fun none => valid.nonempty none.2
      exact mantissa?_point (by simp) valid.inside some noDigit

theorem exists_of_mantissa? {cs : List Char} {parts : List Char × List Char}
    (h : mantissa? cs = some (parts, rest)) :
    ∃ t : MantissaText, t.IsValid ∧ cs = t.chars ++ rest ∧ t.parts = parts := by
  have digits : ∀ c ∈ cs.takeWhile isDigit, isDigit c = true := fun _ => mem_takeWhile
  have split : cs.takeWhile isDigit ++ cs.dropWhile isDigit = cs := List.takeWhile_append_dropWhile
  unfold mantissa? at h
  simp only at h
  split at h
  · next after point =>
      rw [point] at split
      have fraction : ∀ c ∈ after.takeWhile isDigit, isDigit c = true := fun _ => mem_takeWhile
      simp only [Option.ite_none_left_eq_some, Option.some.injEq, Prod.mk.injEq, Bool.and_eq_true,
        List.isEmpty_iff] at h
      obtain ⟨some, rfl, rfl⟩ := h
      have after_eq : after.takeWhile isDigit ++ after.dropWhile isDigit = after :=
        List.takeWhile_append_dropWhile
      by_cases none : cs.takeWhile isDigit = []
      · have nonempty := fun empty => some ⟨none, empty⟩
        refine ⟨.fraction (after.takeWhile isDigit), ⟨fraction, nonempty⟩, ?_, by rw [parts, none]⟩
        rw [chars, List.cons_append, after_eq, ← split, none, List.nil_append]
      · refine ⟨.point (cs.takeWhile isDigit) (after.takeWhile isDigit),
          ⟨⟨digits, none⟩, fraction⟩, ?_, rfl⟩
        rw [chars, List.append_assoc, List.cons_append, after_eq, split]
  · simp only [Option.ite_none_left_eq_some, Option.some.injEq, Prod.mk.injEq,
      List.isEmpty_iff] at h
    obtain ⟨some, rfl, rfl⟩ := h
    exact ⟨.whole (cs.takeWhile isDigit), ⟨digits, some⟩, split.symm, rfl⟩

theorem chars_inj (validT : t.IsValid) (validU : u.IsValid) (same : t.chars = u.chars) :
    t = u := by
  -- the point, where there is one, is not among the digits
  have parts : t.parts = u.parts := by
    have readT := mantissa?_chars validT (.nil _)
    have readU := mantissa?_chars validU (.nil _)
    rw [same, readU] at readT
    exact (Prod.mk.inj (Option.some.inj readT)).1.symm
  cases t with
  | whole digits =>
      cases u with
      | whole digits' => exact congrArg whole same
      | point before after => cases parts; simp [chars] at same
      | fraction digits' => cases parts; exact absurd rfl validT.nonempty
  | point before after =>
      cases u with
      | whole digits => cases parts; simp [chars] at same
      | point before' after' => cases parts; rfl
      | fraction digits => cases parts; exact absurd rfl validT.1.nonempty
  | fraction digits =>
      cases u with
      | whole digits' => cases parts; exact absurd rfl validU.nonempty
      | point before after => cases parts; exact absurd rfl validU.1.nonempty
      | fraction digits' => exact congrArg fraction (List.cons.inj same).2

end MantissaText

/-- The power of ten behind the digits of a numeral, if there is one. -/
inductive PowerText where
  | none
  | letter (e : Char) (exponent : IntegerText)

namespace PowerText

def chars : PowerText → List Char
  | none => []
  | letter e exponent => e :: exponent.chars

def IsValid : PowerText → Prop
  | none => True
  | letter e exponent => (e = 'e' ∨ e = 'E') ∧ exponent.IsValid

def value : PowerText → Int
  | none => 0
  | letter _ exponent => exponent.value

variable {t u : PowerText}

theorem exponent?_chars (valid : t.IsValid) : exponent? t.chars = some (t.value, []) := by
  cases t with
  | none => rfl
  | letter e exponent =>
      have read := IntegerText.integer?_chars valid.2 (.nil _)
      rw [List.append_nil] at read
      rw [chars, exponent?_letter valid.1, read, value]

theorem exists_of_exponent? {cs : List Char} {e : Int} (h : exponent? cs = some (e, [])) :
    ∃ t : PowerText, t.IsValid ∧ cs = t.chars ∧ t.value = e := by
  rcases exponent?_eq_some h with ⟨rfl, rfl, -⟩ | ⟨c, digits, letter, rfl, isInteger⟩
  · exact ⟨none, trivial, rfl, rfl⟩
  · obtain ⟨exponent, valid, split, value⟩ := IntegerText.exists_of_integer? isInteger
    rw [List.append_nil] at split
    exact ⟨.letter c exponent, ⟨letter, valid⟩, by rw [split, chars], value⟩

theorem ends (valid : t.IsValid) : Ends isMantissaChar t.chars := by
  cases t with
  | none => exact .nil _
  | letter e exponent =>
      cases valid.1 with
      | inl small => exact .cons (by rw [small]; decide) _
      | inr large => exact .cons (by rw [large]; decide) _

theorem chars_inj (validT : t.IsValid) (validU : u.IsValid) (same : t.chars = u.chars) :
    t = u := by
  cases t with
  | none =>
      cases u with
      | none => rfl
      | letter e exponent => cases same
  | letter e exponent =>
      cases u with
      | none => cases same
      | letter e' exponent' =>
          obtain ⟨rfl, exponents⟩ := List.cons.inj same
          rw [IntegerText.chars_inj validT.2 validU.2 exponents]

end PowerText

/-- A decimal numeral as it is written. -/
structure NumeralText where
  sign : SignText
  mantissa : MantissaText
  power : PowerText

namespace NumeralText

/-- What is written behind the sign. -/
def unsigned (t : NumeralText) : List Char := t.mantissa.chars ++ t.power.chars

def chars (t : NumeralText) : List Char := t.sign.chars ++ t.unsigned

def IsValid (t : NumeralText) : Prop := t.mantissa.IsValid ∧ t.power.IsValid

/-- All digits count as one number, and those behind the point lower the power of ten. -/
def value (t : NumeralText) : Decimal :=
  let (before, after) := t.mantissa.parts
  ⟨t.sign.isMinus, ofDigits (ofDigits 0 before) after, t.power.value - after.length⟩

variable {t u : NumeralText}

theorem unsigned_ends (valid : t.IsValid) : Ends isSign t.unsigned :=
  (Ends.of_inside (MantissaText.inside valid.1) fun _ => isSign_of_isMantissaChar).append
    (MantissaText.nonempty valid.1) _

theorem numeral?_unsigned (valid : t.IsValid) :
    numeral? t.sign.isMinus t.unsigned = some (t.value, []) := by
  rw [numeral?, unsigned, MantissaText.mantissa?_chars valid.1 (PowerText.ends valid.2)]
  simp only [Option.bind_eq_bind, Option.bind_some, PowerText.exponent?_chars valid.2]
  rfl

theorem exists_of_decimal? {cs : List Char} {d : Decimal} (h : decimal? cs = some (d, [])) :
    ∃ t : NumeralText, t.IsValid ∧ t.chars = cs ∧ t.value = d := by
  obtain ⟨s, signed, isMinus⟩ := exists_sign cs
  rw [decimal?_eq] at h
  simp only [numeral?, Option.bind_eq_bind, Option.bind_eq_some_iff, Prod.exists] at h
  obtain ⟨before, after, between, isMantissa, exponent, rest, isExponent, same⟩ := h
  cases same
  obtain ⟨mantissa, validMantissa, split, parts⟩ := MantissaText.exists_of_mantissa? isMantissa
  obtain ⟨power, validPower, rfl, exponent⟩ := PowerText.exists_of_exponent? isExponent
  refine ⟨⟨s, mantissa, power⟩, ⟨validMantissa, validPower⟩, ?_, ?_⟩
  · rw [chars, unsigned, ← split, ← signed]
  · simp only [value, parts, isMinus, exponent]

theorem chars_inj (validT : t.IsValid) (validU : u.IsValid) (same : t.chars = u.chars) :
    t = u := by
  obtain ⟨signs, unsigned⟩ :=
    SignText.chars_append_inj (unsigned_ends validT) (unsigned_ends validU) same
  obtain ⟨mantissas, powers⟩ := span_unique (MantissaText.inside validT.1)
    (MantissaText.inside validU.1) (PowerText.ends validT.2) (PowerText.ends validU.2) unsigned
  cases t
  cases u
  cases signs
  cases MantissaText.chars_inj validT.1 validU.1 mantissas
  cases PowerText.chars_inj validT.2 validU.2 powers
  rfl

end NumeralText

/-- A value as it is written: a word for infinity or not-a-number, or a numeral. -/
inductive ValueText where
  | word (sign : SignText) (letters : List Char)
  | numeral (t : NumeralText)

/-- The letters of infinity, in either case. -/
def IsInfinity (letters : List Char) : Prop := letters.map Char.toLower = ['i', 'n', 'f']

instance : DecidablePred IsInfinity :=
  fun letters => inferInstanceAs (Decidable (letters.map Char.toLower = ['i', 'n', 'f']))

/-- The letters of not-a-number, in either case. -/
def IsNan (letters : List Char) : Prop := letters.map Char.toLower = ['n', 'a', 'n']

namespace ValueText

def chars : ValueText → List Char
  | word sign letters => sign.chars ++ letters
  | numeral t => t.chars

def IsValid : ValueText → Prop
  | word _ letters => IsInfinity letters ∨ IsNan letters
  | numeral t => t.IsValid

def value : ValueText → Binary64
  | word sign letters => if IsInfinity letters then .infinity sign.isMinus else .nan
  | numeral t => t.value.toBinary64

end ValueText

theorem caseless?_append (letters rest : List Char) :
    caseless? (letters.map Char.toLower) (letters ++ rest) = some rest := by
  induction letters with
  | nil => rfl
  | cons c letters ih => simp [caseless?, ih]

theorem specialWord?_infinity {letters : List Char} (h : IsInfinity letters) (negative : Bool) :
    specialWord? negative letters = some (.infinity negative, []) := by
  have read := caseless?_append letters []
  rw [h, List.append_nil] at read
  rw [specialWord?, read]

theorem specialWord?_nan {letters : List Char} (h : IsNan letters) (negative : Bool) :
    specialWord? negative letters = some (.nan, []) := by
  have read := caseless?_append letters []
  rw [h, List.append_nil] at read
  -- the first letter already tells the two words apart
  have noInfinity : caseless? ['i', 'n', 'f'] letters = none := by
    cases letters with
    | nil => cases h
    | cons c letters => simp [caseless?, (List.cons.inj h).1]
  rw [specialWord?, noInfinity, read]
  rfl

theorem word_of_specialWord? {letters : List Char} {negative : Bool} {v : Binary64}
    (h : specialWord? negative letters = some (v, [])) :
    (IsInfinity letters ∧ v = .infinity negative) ∨ (IsNan letters ∧ v = .nan) := by
  unfold specialWord? at h
  split at h
  · next found =>
      obtain ⟨rfl, rfl⟩ := Prod.mk.inj (Option.some.inj h)
      obtain ⟨word, rfl, isInfinity, -⟩ := caseless?_eq_some found
      rw [List.append_nil]
      exact .inl ⟨isInfinity, rfl⟩
  · obtain ⟨rest, found, same⟩ := Option.map_eq_some_iff.mp h
    obtain ⟨rfl, rfl⟩ := Prod.mk.inj same
    obtain ⟨word, rfl, isNan, -⟩ := caseless?_eq_some found
    rw [List.append_nil]
    exact .inr ⟨isNan, rfl⟩

theorem IsNan.not_isInfinity {letters : List Char} (h : IsNan letters) : ¬ IsInfinity letters := by
  intro infinity
  rw [IsInfinity, h] at infinity
  cases infinity

namespace ValueText

variable {t u : ValueText}

theorem isAlpha_of_word {letters : List Char} (h : IsInfinity letters ∨ IsNan letters) :
    ∀ c ∈ letters, isAlpha c = true := by
  intro c hc
  have lower : c.toLower ∈ letters.map Char.toLower := List.mem_map_of_mem hc
  apply isAlpha_of_toLower
  cases h with
  | inl infinity =>
      have alpha : ∀ d ∈ ['i', 'n', 'f'], isAlpha d = true := by simp [isAlpha]
      rw [infinity] at lower
      exact alpha _ lower
  | inr nan =>
      have alpha : ∀ d ∈ ['n', 'a', 'n'], isAlpha d = true := by simp [isAlpha]
      rw [nan] at lower
      exact alpha _ lower

theorem value?_chars (valid : t.IsValid) : value? t.chars = some (t.value, []) := by
  cases t with
  | word sign letters =>
      have unsigned : Ends isSign letters :=
        .of_inside (isAlpha_of_word valid) fun _ => isSign_of_isAlpha
      rw [value?, special?_eq, chars, sign_chars sign unsigned]
      cases valid with
      | inl infinity => rw [specialWord?_infinity infinity, value, if_pos infinity]
      | inr nan => rw [specialWord?_nan nan, value, if_neg nan.not_isInfinity]
  | numeral t =>
      have read := NumeralText.numeral?_unsigned valid
      rw [value?, special?_eq, decimal?_eq, chars, NumeralText.chars,
        sign_chars t.sign (NumeralText.unsigned_ends valid), specialWord?_eq_none read, read]
      rfl

theorem exists_of_value? {cs : List Char} {v : Binary64} (h : value? cs = some (v, [])) :
    ∃ t : ValueText, t.IsValid ∧ t.chars = cs ∧ t.value = v := by
  unfold value? at h
  split at h
  · next special =>
      rw [h, special?_eq] at special
      obtain ⟨s, signed, isMinus⟩ := exists_sign cs
      refine ⟨.word s (sign cs).2, ?_, signed.symm, ?_⟩
      · exact (word_of_specialWord? special).imp And.left And.left
      · cases word_of_specialWord? special with
        | inl infinity => rw [value, if_pos infinity.1, isMinus, infinity.2]
        | inr nan => rw [value, if_neg nan.1.not_isInfinity, nan.2]
  · obtain ⟨⟨d, rest⟩, isDecimal, same⟩ := Option.map_eq_some_iff.mp h
    cases same
    obtain ⟨t, valid, same, rfl⟩ := NumeralText.exists_of_decimal? isDecimal
    exact ⟨.numeral t, valid, same, rfl⟩

/-- The values that are read are those of the grammar. -/
theorem value?_eq_some_iff {cs : List Char} {v : Binary64} :
    value? cs = some (v, []) ↔ ∃ t : ValueText, t.IsValid ∧ t.chars = cs ∧ t.value = v := by
  constructor
  · exact exists_of_value?
  · rintro ⟨t, valid, rfl, rfl⟩
    exact value?_chars valid

/-- Words start with a letter, numerals with a digit or a point. -/
theorem word_ne_numeral {s : SignText} {letters : List Char} {t : NumeralText}
    (valid : (word s letters).IsValid) (validT : t.IsValid) :
    (word s letters).chars ≠ (numeral t).chars := by
  intro same
  have word : Ends isSign letters := .of_inside (isAlpha_of_word valid) fun _ => isSign_of_isAlpha
  have letterFirst : Ends isMantissaChar letters :=
    .of_inside (isAlpha_of_word valid) fun _ => isMantissaChar_of_isAlpha
  obtain ⟨-, rfl⟩ := SignText.chars_append_inj word (NumeralText.unsigned_ends validT) same
  obtain ⟨c, cs, chars⟩ := List.exists_cons_of_ne_nil (MantissaText.nonempty validT.1)
  have digit := MantissaText.inside validT.1 c (chars ▸ List.mem_cons_self)
  have letter := letterFirst c (by rw [NumeralText.unsigned, chars]; rfl)
  rw [letter] at digit
  cases digit

theorem chars_inj (validT : t.IsValid) (validU : u.IsValid) (same : t.chars = u.chars) :
    t = u := by
  cases t with
  | word s letters =>
      cases u with
      | word s' letters' =>
          have unsigned {letters : List Char} (h : IsInfinity letters ∨ IsNan letters) :
              Ends isSign letters := .of_inside (isAlpha_of_word h) fun _ => isSign_of_isAlpha
          obtain ⟨rfl, rfl⟩ :=
            SignText.chars_append_inj (unsigned validT) (unsigned validU) same
          rfl
      | numeral t => exact absurd same (word_ne_numeral validT validU)
  | numeral t =>
      cases u with
      | word s letters => exact absurd same.symm (word_ne_numeral validU validT)
      | numeral u => rw [NumeralText.chars_inj validT validU same]

end ValueText

/-- The times that are read are the integers that 64 bits can hold. -/
theorem IntegerText.timestamp?_eq_some_iff {cs : List Char} {time : Int64} :
    timestamp? cs = .ok (some (time, [])) ↔
      ∃ t : IntegerText, t.IsValid ∧ t.chars = cs ∧ t.value = time.toInt := by
  rw [Exposition.timestamp?_eq_some_iff, time?, Option.bind_eq_some_iff]
  constructor
  · rintro ⟨⟨n, rest⟩, isInteger, inRange⟩
    obtain ⟨⟨lower, upper⟩, same⟩ := Option.ite_none_right_eq_some.mp inRange
    cases same
    obtain ⟨t, valid, split, rfl⟩ := exists_of_integer? isInteger
    exact ⟨t, valid, by rw [split, List.append_nil],
      (Int64.toInt_ofInt_of_le lower (Int.lt_add_one_of_le upper)).symm⟩
  · rintro ⟨t, valid, rfl, same⟩
    have read := integer?_chars valid (.nil _)
    rw [List.append_nil, same] at read
    have fits : Int64.minValue.toInt ≤ time.toInt ∧ time.toInt ≤ Int64.maxValue.toInt :=
      ⟨Int64.minValue_le_toInt time, Int64.toInt_le time⟩
    exact ⟨_, read, by simp only [if_pos fits, Int64.ofInt_toInt]⟩

end Exposition
