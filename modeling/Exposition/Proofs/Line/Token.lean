import Exposition.Line.Token
import Mathlib

/-! # Tokens and what may follow them

A reader takes the longest token at the front. What it finds is therefore fixed by the characters
of the token, as long as no character follows that would have continued it: `Ends` states the
condition on what follows, and each reader is described by the token and an arbitrary rest.
-/

namespace Exposition

/-- No character of the class comes next. -/
def Ends (p : Char → Bool) (rest : List Char) : Prop := ∀ c ∈ rest.head?, p c = false

theorem Ends.nil (p : Char → Bool) : Ends p [] := by
  intro c hc
  cases hc

theorem Ends.cons {p : Char → Bool} {c : Char} (h : p c = false) (rest : List Char) :
    Ends p (c :: rest) := by
  intro d hd
  cases hd
  exact h

theorem Ends.of_imp {p q : Char → Bool} {rest : List Char} (h : Ends p rest)
    (imp : ∀ c, q c = true → p c = true) : Ends q rest := by
  intro c hc
  have := h c hc
  rw [← Bool.not_eq_true] at this ⊢
  exact fun hq => this (imp c hq)

theorem Ends.of_inside {p q : Char → Bool} {cs : List Char} (inside : ∀ c ∈ cs, q c = true)
    (apart : ∀ c, q c = true → p c = false) : Ends p cs :=
  fun c hc => apart c (inside c (List.mem_of_head? hc))

theorem Ends.append {p : Char → Bool} {cs : List Char} (h : Ends p cs) (nonempty : cs ≠ [])
    (rest : List Char) : Ends p (cs ++ rest) := by
  obtain ⟨c, cs, rfl⟩ := List.exists_cons_of_ne_nil nonempty
  exact .cons (h c rfl) _

theorem ends_dropWhile (p : Char → Bool) (cs : List Char) : Ends p (cs.dropWhile p) := by
  intro c hc
  have := List.head?_dropWhile_not p cs
  simp_all

section Span

variable {p : Char → Bool} {word rest : List Char}

theorem dropWhile_of_ends (ends : Ends p rest) : rest.dropWhile p = rest := by
  cases rest with
  | nil => rfl
  | cons c rest => simp [ends c rfl]

theorem takeWhile_append_of_ends (inside : ∀ c ∈ word, p c = true) (ends : Ends p rest) :
    (word ++ rest).takeWhile p = word := by
  rw [List.takeWhile_append_of_pos inside]
  cases rest with
  | nil => simp
  | cons c rest => simp [ends c rfl]

theorem dropWhile_append_of_ends (inside : ∀ c ∈ word, p c = true) (ends : Ends p rest) :
    (word ++ rest).dropWhile p = rest := by
  rw [List.dropWhile_append_of_pos inside, dropWhile_of_ends ends]

theorem mem_takeWhile {c : Char} {cs : List Char} (h : c ∈ cs.takeWhile p) : p c = true :=
  List.all_eq_true.mp List.all_takeWhile c h

end Span

theorem isAlpha_eq (c : Char) : isAlpha c = c.isAlpha := by
  simp only [isAlpha, Char.isAlpha, Char.isUpper, Char.isLower, Bool.or_comm, Char.le_def,
    Bool.decide_and]

/-- The characters that a metric name may go on with. -/
def isMetricChar (c : Char) : Bool := isMetricStart c || isDigit c

/-- The characters that numbers and their special values are written with. -/
def isValueChar (c : Char) : Bool := isAlpha c || isDigit c || c == '+' || c == '-' || c == '.'

@[grind =] theorem isBlank_iff {c : Char} : isBlank c = true ↔ c = ' ' ∨ c = '\t' := by
  simp [isBlank]

@[grind →] theorem isMetricStart_of_isLabelStart {c : Char} (h : isLabelStart c = true) :
    isMetricStart c = true := by
  simp [isMetricStart, h]

@[grind →]
theorem isBlank_of_isMetricStart {c : Char} (h : isMetricStart c = true) : isBlank c = false := by
  rw [← Bool.not_eq_true, isBlank_iff]
  rintro (rfl | rfl) <;> exact absurd h (by decide)

@[grind →]
theorem isBlank_of_isValueChar {c : Char} (h : isValueChar c = true) : isBlank c = false := by
  rw [← Bool.not_eq_true, isBlank_iff]
  rintro (rfl | rfl) <;> exact absurd h (by decide)

@[grind →]
theorem isMetricChar_of_isBlank {c : Char} (h : isBlank c = true) : isMetricChar c = false := by
  rcases isBlank_iff.mp h with rfl | rfl <;> decide

@[grind →] theorem isLabelChar_of_isBlank {c : Char} (h : isBlank c = true) :
    (isLabelStart c || isDigit c) = false := by
  rcases isBlank_iff.mp h with rfl | rfl <;> decide

@[grind →]
theorem isValueChar_of_isBlank {c : Char} (h : isBlank c = true) : isValueChar c = false := by
  rcases isBlank_iff.mp h with rfl | rfl <;> decide

theorem skipBlanks_of_ends {cs : List Char} (ends : Ends isBlank cs) : skipBlanks cs = cs :=
  dropWhile_of_ends ends

theorem skipBlanks_cons {c : Char} {cs : List Char} (blank : isBlank c = true)
    (ends : Ends isBlank cs) : skipBlanks (c :: cs) = cs := by
  rw [skipBlanks, List.dropWhile_cons_of_pos blank, dropWhile_of_ends ends]

theorem blanks?_cons {c : Char} {rest : List Char} (blank : isBlank c = true)
    (ends : Ends isBlank rest) : blanks? (c :: rest) = some ((), rest) := by
  simp [blanks?, blank, skipBlanks_of_ends ends]

theorem ends_of_blanks? {cs rest : List Char} (h : blanks? cs = some ((), rest)) :
    Ends isBlank rest := by
  cases cs with
  | nil => cases h
  | cons c cs =>
      simp only [blanks?, Option.ite_none_right_eq_some, Option.some.injEq, Prod.mk.injEq,
        true_and] at h
      rw [← h.2]
      exact ends_dropWhile isBlank cs

/-- A name that starts with a character of one class and goes on with those and digits. -/
def IsName (isStart : Char → Bool) (name : String) : Prop :=
  ∃ c cs, name.toList = c :: cs ∧ isStart c = true ∧
    ∀ d ∈ cs, (isStart d || isDigit d) = true

-- `List.all`, since a quantifier over characters is decided by going through all of them
instance (isStart : Char → Bool) (name : String) : Decidable (IsName isStart name) :=
  match chars : name.toList with
  | [] => .isFalse fun ⟨_, _, same, _⟩ => by simp [chars] at same
  | c :: cs =>
      decidable_of_iff ((isStart c && cs.all fun d => isStart d || isDigit d) = true) <| by
        rw [Bool.and_eq_true, List.all_eq_true]
        constructor
        · exact fun ⟨start, inside⟩ => ⟨c, cs, chars, start, inside⟩
        · rintro ⟨_, _, same, start, inside⟩
          cases chars.symm.trans same
          exact ⟨start, inside⟩

theorem name?_append {isStart : Char → Bool} {name : String} {rest : List Char}
    (h : IsName isStart name) (ends : Ends (fun c => isStart c || isDigit c) rest) :
    name? isStart (name.toList ++ rest) = some (name, rest) := by
  obtain ⟨c, cs, chars, start, inside⟩ := h
  rw [chars, List.cons_append, name?]
  simp only [start, if_true, takeWhile_append_of_ends inside ends,
    dropWhile_append_of_ends inside ends, ← chars, String.ofList_toList]

theorem isName_of_name? {isStart : Char → Bool} {cs rest : List Char} {name : String}
    (h : name? isStart cs = some (name, rest)) : IsName isStart name := by
  cases cs with
  | nil => cases h
  | cons c cs =>
      simp only [name?, Option.ite_none_right_eq_some, Option.some.injEq, Prod.mk.injEq] at h
      obtain ⟨start, rfl, -⟩ := h
      exact ⟨c, _, String.toList_ofList, start, fun d hd => mem_takeWhile hd⟩

theorem name?_eq_some_iff {isStart : Char → Bool} {cs rest : List Char} {name : String} :
    name? isStart cs = some (name, rest) ↔
      IsName isStart name ∧ cs = name.toList ++ rest ∧
        Ends (fun c => isStart c || isDigit c) rest := by
  constructor
  · intro h
    refine ⟨isName_of_name? h, ?_⟩
    cases cs with
    | nil => cases h
    | cons c cs =>
        simp only [name?, Option.ite_none_right_eq_some, Option.some.injEq, Prod.mk.injEq] at h
        obtain ⟨-, rfl, rfl⟩ := h
        refine ⟨?_, ends_dropWhile _ cs⟩
        rw [String.toList_ofList, List.cons_append, List.takeWhile_append_dropWhile]
  · rintro ⟨isName, rfl, ends⟩
    exact name?_append isName ends

theorem IsName.append_inj {isStart : Char → Bool} {name name' : String} {rest rest' : List Char}
    (isName : IsName isStart name) (isName' : IsName isStart name')
    (ends : Ends (fun c => isStart c || isDigit c) rest)
    (ends' : Ends (fun c => isStart c || isDigit c) rest')
    (same : name.toList ++ rest = name'.toList ++ rest') : name = name' ∧ rest = rest' := by
  have read := name?_append isName ends
  rw [same, name?_append isName' ends'] at read
  cases read
  exact ⟨rfl, rfl⟩

theorem IsName.ends_append {isStart p : Char → Bool} {name : String} (h : IsName isStart name)
    (apart : ∀ c, isStart c = true → p c = false) (rest : List Char) :
    Ends p (name.toList ++ rest) := by
  obtain ⟨c, cs, chars, start, -⟩ := h
  rw [chars]
  exact .cons (apart c start) _

theorem IsName.notMem {isStart : Char → Bool} {name : String} {c : Char} (h : IsName isStart name)
    (other : (isStart c || isDigit c) = false) : c ∉ name.toList := by
  obtain ⟨d, cs, chars, start, inside⟩ := h
  rw [chars, List.mem_cons]
  rintro (rfl | later)
  · simp [start] at other
  · simp [inside c later] at other

/-- What the reader finds is decided by the characters it takes, at least one, as long as nothing
    of the class `stops` follows them. -/
def IsLocal {α : Type} (stops : Char → Bool) (read? : List Char → Option (α × List Char)) : Prop :=
  ∀ ⦃cs a rest⦄, read? cs = some (a, rest) →
    ∃ token, token ≠ [] ∧ cs = token ++ rest ∧ (∀ c ∈ token, isValueChar c = true) ∧
      ∀ rest', Ends stops rest' → read? (token ++ rest') = some (a, rest')

section Whole

variable {α : Type} {stops : Char → Bool} {read? : List Char → Option (α × List Char)} {a : α}

/-- A token that is read completely is read also where something follows it. -/
theorem IsLocal.token (h : IsLocal stops read?) {token : List Char}
    (whole : read? token = some (a, [])) :
    token ≠ [] ∧ (∀ c ∈ token, isValueChar c = true) ∧
      ∀ rest, Ends stops rest → read? (token ++ rest) = some (a, rest) := by
  obtain ⟨found, nonempty, split, chars, again⟩ := h whole
  rw [List.append_nil] at split
  subst split
  exact ⟨nonempty, chars, again⟩

/-- What is read in front of something is a token that is read completely. -/
theorem IsLocal.exists_token (h : IsLocal stops read?) {cs rest : List Char}
    (found : read? cs = some (a, rest)) :
    ∃ token, cs = token ++ rest ∧ read? token = some (a, []) := by
  obtain ⟨token, -, split, -, again⟩ := h found
  have whole := again [] (.nil stops)
  rw [List.append_nil] at whole
  exact ⟨token, split, whole⟩

end Whole

theorem IsLocal.map {α β : Type} {stops : Char → Bool} {read? : List Char → Option (α × List Char)}
    (h : IsLocal stops read?) (f : α → β) :
    IsLocal stops fun cs => (read? cs).map fun (a, rest) => (f a, rest) := by
  intro cs b rest found
  obtain ⟨⟨a, rest⟩, found, same⟩ := Option.map_eq_some_iff.mp found
  cases same
  obtain ⟨token, nonempty, split, chars, again⟩ := h found
  exact ⟨token, nonempty, split, chars, fun rest' ends => by simp [again rest' ends]⟩

@[grind =] theorem sign_cons (c : Char) (cs : List Char) :
    sign (c :: cs) = if c = '-' ∨ c = '+' then (c == '-', cs) else (false, c :: cs) := by
  unfold sign
  split
  · next h => cases h; simp
  · next h => cases h; simp
  · next minus plus =>
      have notMinus : c ≠ '-' := fun same => minus cs (by rw [same])
      have notPlus : c ≠ '+' := fun same => plus cs (by rw [same])
      simp [notMinus, notPlus]

/-- A sign in front of a token belongs to the token; where there is none, the token itself shows
    that there is none. -/
theorem IsLocal.signed {α : Type} {stops : Char → Bool}
    {read? : Bool → List Char → Option (α × List Char)}
    (h : ∀ negative, IsLocal stops (read? negative)) :
    IsLocal stops fun cs => read? (sign cs).1 (sign cs).2 := by
  intro cs a rest found
  obtain ⟨token, nonempty, split, chars, again⟩ := h _ found
  obtain ⟨t, ts, rfl⟩ := List.exists_cons_of_ne_nil nonempty
  cases cs with
  | nil => simp [sign] at split
  | cons c cs =>
      simp only [sign_cons] at split again
      by_cases signed : c = '-' ∨ c = '+'
      · simp only [signed, if_true] at split again
        have isValue : isValueChar c = true := by rcases signed with rfl | rfl <;> decide
        refine ⟨c :: t :: ts, by simp, by rw [split]; rfl, ?_, fun rest' ends => ?_⟩
        · exact List.forall_mem_cons.mpr ⟨isValue, chars⟩
        · simpa [sign_cons, signed] using again rest' ends
      · simp only [signed, if_false] at split again
        cases split
        refine ⟨t :: ts, nonempty, rfl, chars, fun rest' ends => ?_⟩
        simpa [sign_cons, signed] using again rest' ends

@[grind →]
theorem isValueChar_of_isDigit {c : Char} (h : isDigit c = true) : isValueChar c = true := by
  simp [isValueChar, h]

theorem isAlpha_of_isDigit {c : Char} (h : isDigit c = true) : isAlpha c = false := by
  simp only [isDigit, isAlpha, Bool.and_eq_true, Bool.or_eq_false_iff, Bool.and_eq_false_iff,
    decide_eq_true_eq, decide_eq_false_iff_not, Char.le_def, UInt32.le_iff_toNat_le] at h ⊢
  simp only [Char.reduceVal, UInt32.reduceToNat] at h ⊢
  omega

theorem digits?_append {digits rest : List Char} (nonempty : digits ≠ [])
    (inside : ∀ c ∈ digits, isDigit c = true) (ends : Ends isDigit rest) :
    digits? (digits ++ rest) = some (digits, rest) := by
  obtain ⟨d, ds, rfl⟩ := List.exists_cons_of_ne_nil nonempty
  rw [digits?, takeWhile_append_of_ends inside ends, dropWhile_append_of_ends inside ends]

theorem isLocal_digits? : IsLocal isDigit digits? := by
  intro cs digits rest found
  unfold digits? at found
  split at found
  · cases found
  · next nonempty =>
      cases found
      have inside : ∀ c ∈ cs.takeWhile isDigit, isDigit c = true := fun c hc => mem_takeWhile hc
      exact ⟨_, nonempty, List.takeWhile_append_dropWhile.symm,
        fun c hc => isValueChar_of_isDigit (inside c hc),
        fun rest' ends => digits?_append nonempty inside ends⟩

theorem isLocal_integer? : IsLocal isDigit integer? :=
  IsLocal.signed fun negative => isLocal_digits?.map fun digits =>
    if negative then -(ofDigits 0 digits : Int) else (ofDigits 0 digits : Int)

/-- The letters of a word are read whatever follows them. -/
theorem caseless?_eq_some {word cs rest : List Char} (h : caseless? word cs = some rest) :
    ∃ token, cs = token ++ rest ∧ token.map Char.toLower = word ∧
      ∀ rest', caseless? word (token ++ rest') = some rest' := by
  induction word generalizing cs with
  | nil =>
      cases h
      exact ⟨[], rfl, rfl, fun _ => rfl⟩
  | cons w word ih =>
      cases cs with
      | nil => cases h
      | cons c cs =>
          simp only [caseless?, Option.ite_none_right_eq_some] at h
          obtain ⟨lower, h⟩ := h
          obtain ⟨token, rfl, letters, again⟩ := ih h
          exact ⟨c :: token, rfl, by rw [List.map_cons, lower, letters], fun rest' => by
            simp [caseless?, lower, again rest']⟩

@[grind →]
theorem isAlpha_of_toLower {c : Char} (h : isAlpha c.toLower = true) : isAlpha c = true := by
  rwa [isAlpha_eq, Char.isAlpha_toLower_eq_isAlpha, ← isAlpha_eq] at h

/-- The word of a special value, after its sign. -/
def specialWord? (negative : Bool) (cs : List Char) : Option (Binary64 × List Char) :=
  match caseless? ['i', 'n', 'f'] cs with
  | some rest => some (.infinity negative, rest)
  | none => (caseless? ['n', 'a', 'n'] cs).map fun rest => (.nan, rest)

theorem special?_eq (cs : List Char) : special? cs = specialWord? (sign cs).1 (sign cs).2 := rfl

theorem isLocal_specialWord? (negative : Bool) : IsLocal isValueChar (specialWord? negative) := by
  have chars : ∀ {token word : List Char}, token.map Char.toLower = word →
      (∀ w ∈ word, isAlpha w = true) → ∀ c ∈ token, isValueChar c = true := by
    intro token word lower letters c hc
    have := isAlpha_of_toLower (letters c.toLower (lower ▸ List.mem_map_of_mem hc))
    simp [isValueChar, this]
  intro cs v rest found
  unfold specialWord? at found
  split at found
  · next inf =>
      obtain ⟨rfl, rfl⟩ := Prod.mk.inj (Option.some.inj found)
      obtain ⟨token, rfl, lower, again⟩ := caseless?_eq_some inf
      have nonempty : token ≠ [] := by rintro rfl; cases lower
      refine ⟨token, nonempty, rfl, chars lower (by simp [isAlpha]), fun rest' _ => ?_⟩
      simp [specialWord?, again rest']
  · next noInf =>
      obtain ⟨rest, nan, same⟩ := Option.map_eq_some_iff.mp found
      obtain ⟨rfl, rfl⟩ := Prod.mk.inj same
      obtain ⟨token, rfl, lower, again⟩ := caseless?_eq_some nan
      have nonempty : token ≠ [] := by rintro rfl; cases lower
      refine ⟨token, nonempty, rfl, chars lower (by simp [isAlpha]), fun rest' _ => ?_⟩
      -- the first letter already tells the two words apart
      have noInf : caseless? ['i', 'n', 'f'] (token ++ rest') = none := by
        cases token with
        | nil => cases lower
        | cons c token =>
            have first : c.toLower = 'n' := (List.cons.inj lower).1
            simp [caseless?, first]
      simp [specialWord?, noInf, again rest']

theorem isLocal_special? : IsLocal isValueChar special? := IsLocal.signed isLocal_specialWord?

/-- The characters that the digits before an exponent may go on with. -/
def isMantissaChar (c : Char) : Bool := isDigit c || c == '.'

theorem mantissa?_point {whole fraction rest : List Char}
    (before : ∀ c ∈ whole, isDigit c = true) (after : ∀ c ∈ fraction, isDigit c = true)
    (some : ¬ (whole = [] ∧ fraction = [])) (ends : Ends isDigit rest) :
    mantissa? (whole ++ '.' :: (fraction ++ rest)) = .some ((whole, fraction), rest) := by
  have point : Ends isDigit ('.' :: (fraction ++ rest)) := .cons (by decide) _
  simp only [mantissa?, takeWhile_append_of_ends before point,
    dropWhile_append_of_ends before point, takeWhile_append_of_ends after ends,
    dropWhile_append_of_ends after ends]
  simp [some]

theorem mantissa?_whole {whole rest : List Char} (nonempty : whole ≠ [])
    (digits : ∀ c ∈ whole, isDigit c = true) (ends : Ends isMantissaChar rest) :
    mantissa? (whole ++ rest) = some ((whole, []), rest) := by
  have noDigit : Ends isDigit rest := ends.of_imp fun c hc => by simp [isMantissaChar, hc]
  simp only [mantissa?, takeWhile_append_of_ends digits noDigit,
    dropWhile_append_of_ends digits noDigit]
  split
  · have := ends '.' rfl
    simp [isMantissaChar] at this
  · simp [nonempty]

theorem isLocal_mantissa? : IsLocal isMantissaChar mantissa? := by
  intro cs parts rest found
  have digits : ∀ c ∈ cs.takeWhile isDigit, isDigit c = true := fun c hc => mem_takeWhile hc
  have split : cs.takeWhile isDigit ++ cs.dropWhile isDigit = cs :=
    List.takeWhile_append_dropWhile
  unfold mantissa? at found
  simp only at found
  split at found
  · next after point =>
      rw [point] at split
      have fraction : ∀ c ∈ after.takeWhile isDigit, isDigit c = true := fun _ => mem_takeWhile
      simp only [Option.ite_none_left_eq_some, Option.some.injEq, Prod.mk.injEq, Bool.and_eq_true,
        List.isEmpty_iff] at found
      obtain ⟨some, rfl, rfl⟩ := found
      refine ⟨cs.takeWhile isDigit ++ '.' :: after.takeWhile isDigit, by simp, ?_, ?_, ?_⟩
      · conv_lhs => rw [← split]
        rw [List.append_assoc, List.cons_append, List.takeWhile_append_dropWhile]
      · intro c hc
        simp only [List.mem_append, List.mem_cons] at hc
        rcases hc with hc | rfl | hc
        · exact isValueChar_of_isDigit (digits c hc)
        · decide
        · exact isValueChar_of_isDigit (fraction c hc)
      · intro rest' ends
        have ends : Ends isDigit rest' := ends.of_imp fun c hc => by simp [isMantissaChar, hc]
        simpa using mantissa?_point digits fraction some ends
  · simp only [Option.ite_none_left_eq_some, Option.some.injEq, Prod.mk.injEq,
      List.isEmpty_iff] at found
    obtain ⟨nonempty, rfl, rfl⟩ := found
    exact ⟨_, nonempty, split.symm, fun c hc => isValueChar_of_isDigit (digits c hc),
      fun rest' ends => mantissa?_whole nonempty digits ends⟩

/-- Without the letter `e` there is no exponent, and nothing is taken. -/
theorem exponent?_eq_some {cs rest : List Char} {e : Int} (h : exponent? cs = some (e, rest)) :
    (e = 0 ∧ rest = cs ∧ Ends (fun c => c = 'e' || c = 'E') cs) ∨
      ∃ c digits, (c = 'e' ∨ c = 'E') ∧ cs = c :: digits ∧ integer? digits = some (e, rest) := by
  unfold exponent? at h
  split at h
  · cases h
    exact .inl ⟨rfl, rfl, .nil _⟩
  · next c digits =>
      split at h
      · next letter => exact .inr ⟨c, digits, by simpa using letter, rfl, h⟩
      · next noLetter =>
          cases h
          exact .inl ⟨rfl, rfl, .cons (by simpa using noLetter) _⟩

theorem exponent?_of_ends {rest : List Char} (ends : Ends (fun c => c = 'e' || c = 'E') rest) :
    exponent? rest = some (0, rest) := by
  cases rest with
  | nil => rfl
  | cons c rest =>
      have noLetter := ends c rfl
      simp only [exponent?, noLetter]
      rfl

theorem exponent?_letter {c : Char} (letter : c = 'e' ∨ c = 'E') (digits : List Char) :
    exponent? (c :: digits) = integer? digits := by
  simp [exponent?, letter]

/-- The digits of a numeral, after its sign. -/
def numeral? (negative : Bool) (cs : List Char) : Option (Decimal × List Char) := do
  let ((whole, fraction), rest) ← mantissa? cs
  let (exponent, rest) ← exponent? rest
  return (⟨negative, ofDigits (ofDigits 0 whole) fraction, exponent - fraction.length⟩, rest)

theorem decimal?_eq (cs : List Char) : decimal? cs = numeral? (sign cs).1 (sign cs).2 := rfl

theorem isLocal_numeral? (negative : Bool) : IsLocal isValueChar (numeral? negative) := by
  intro cs numeral rest found
  simp only [numeral?, Option.bind_eq_bind, Option.bind_eq_some_iff, Prod.exists] at found
  obtain ⟨whole, fraction, between, mantissa, exponent, rest, isExponent, same⟩ := found
  cases same
  obtain ⟨token, nonempty, rfl, chars, again⟩ := isLocal_mantissa? mantissa
  rcases exponent?_eq_some isExponent with ⟨rfl, rfl, -⟩ | ⟨c, digits, letter, rfl, isInteger⟩
  · refine ⟨token, nonempty, rfl, chars, fun rest' ends => ?_⟩
    have noPoint : Ends isMantissaChar rest' := ends.of_imp fun c hc => by
      rcases Bool.or_eq_true_iff.mp hc with hc | hc <;> simp [isValueChar, hc]
    have noLetter : Ends (fun c => c = 'e' || c = 'E') rest' := ends.of_imp fun c hc => by
      rcases Bool.or_eq_true_iff.mp hc with hc | hc <;> rw [of_decide_eq_true hc] <;> decide
    simp [numeral?, again rest' noPoint, exponent?_of_ends noLetter]
  · obtain ⟨power, -, rfl, powerChars, powerAgain⟩ := isLocal_integer? isInteger
    have isLetter : isValueChar c = true := by rcases letter with rfl | rfl <;> decide
    refine ⟨token ++ c :: power, by simp, by simp, ?_, fun rest' ends => ?_⟩
    · intro d hd
      simp only [List.mem_append, List.mem_cons] at hd
      rcases hd with hd | rfl | hd
      · exact chars d hd
      · exact isLetter
      · exact powerChars d hd
    · have noPoint : Ends isMantissaChar (c :: (power ++ rest')) :=
        .cons (by rcases letter with rfl | rfl <;> decide) _
      have noDigit : Ends isDigit rest' := ends.of_imp fun c hc => isValueChar_of_isDigit hc
      simp [numeral?, again _ noPoint, exponent?_letter letter, powerAgain rest' noDigit]

theorem isLocal_decimal? : IsLocal isValueChar decimal? := IsLocal.signed isLocal_numeral?

/-- A numeral starts with a digit or a point, a special value with a letter. -/
theorem specialWord?_eq_none {negative : Bool} {cs rest : List Char} {numeral : Decimal}
    (h : numeral? negative cs = some (numeral, rest)) : specialWord? negative cs = none := by
  cases cs with
  | nil => cases h
  | cons c cs =>
      have start : isDigit c = true ∨ c = '.' := by
        by_contra other
        obtain ⟨notDigit, notPoint⟩ := not_or.mp other
        simp [numeral?, mantissa?, notDigit, notPoint] at h
      have noLetter : isAlpha c = false := by
        rcases start with digit | rfl
        · exact isAlpha_of_isDigit digit
        · decide
      have otherLetter : ∀ w, isAlpha w = true → c.toLower ≠ w := by
        rintro w letter rfl
        simp [isAlpha_of_toLower letter] at noLetter
      simp [specialWord?, caseless?, otherLetter 'i' (by decide), otherLetter 'n' (by decide)]

theorem isLocal_value? : IsLocal isValueChar value? := by
  intro cs v rest found
  unfold value? at found
  split at found
  · next special =>
      cases found
      obtain ⟨token, nonempty, split, chars, again⟩ := isLocal_special? special
      exact ⟨token, nonempty, split, chars, fun rest' ends => by simp [value?, again rest' ends]⟩
  · next noSpecial =>
      obtain ⟨token, nonempty, split, chars, again⟩ := isLocal_decimal?.map Decimal.toBinary64 found
      refine ⟨token, nonempty, split, chars, fun rest' ends => ?_⟩
      have numeral := again rest' ends
      obtain ⟨⟨d, _⟩, isDecimal, -⟩ := Option.map_eq_some_iff.mp numeral
      rw [decimal?_eq] at isDecimal
      rw [value?, special?_eq, specialWord?_eq_none isDecimal]
      exact numeral

/-- An integer that 64 bits can hold. -/
def time? (cs : List Char) : Option (Int64 × List Char) :=
  (integer? cs).bind fun (n, rest) =>
    if Int64.minValue.toInt ≤ n ∧ n ≤ Int64.maxValue.toInt then some (Int64.ofInt n, rest) else none

theorem timestamp?_eq_some_iff {cs : List Char} {found : Int64 × List Char} :
    timestamp? cs = .ok (some found) ↔ time? cs = some found := by
  unfold timestamp? time?
  cases integer? cs with
  | none => simp
  | some found =>
      simp only [Option.bind_some, ← Bool.decide_and, decide_eq_true_eq]
      split <;> simp

theorem isLocal_time? : IsLocal isDigit time? := by
  intro cs time rest found
  obtain ⟨⟨n, rest⟩, isInteger, inRange⟩ := Option.bind_eq_some_iff.mp found
  obtain ⟨fits, same⟩ := Option.ite_none_right_eq_some.mp inRange
  cases same
  obtain ⟨token, nonempty, split, chars, again⟩ := isLocal_integer? isInteger
  refine ⟨token, nonempty, split, chars, fun rest' ends => ?_⟩
  rw [time?, again rest' ends]
  exact if_pos fits

theorem toString_int_toList (n : Int) :
    (toString n).toList =
      if 0 ≤ n then Nat.toDigits 10 n.toNat else '-' :: Nat.toDigits 10 (-n).toNat := by
  show (Int.repr n).toList = _
  rw [Int.repr_eq_if]
  split <;> simp [Nat.repr_eq_ofList_toDigits]

theorem isDigit_of_mem_toDigits {n : Nat} : ∀ c ∈ Nat.toDigits 10 n, isDigit c = true :=
  fun _ hc => Nat.isDigit_of_mem_toDigits (by decide) (by decide) hc

theorem isValueChar_of_mem_toString {n : Int} :
    ∀ c ∈ (toString n).toList, isValueChar c = true := by
  intro c hc
  rw [toString_int_toList] at hc
  split at hc
  · exact isValueChar_of_isDigit (isDigit_of_mem_toDigits c hc)
  · rcases List.mem_cons.mp hc with rfl | hc
    · decide
    · exact isValueChar_of_isDigit (isDigit_of_mem_toDigits c hc)

theorem toString_int_ne_nil (n : Int) : (toString n).toList ≠ [] := by
  rw [toString_int_toList]
  split <;> simp [Nat.toDigits_ne_nil]

@[simp] theorem ofDigits_toDigits (n : Nat) : ofDigits 0 (Nat.toDigits 10 n) = n :=
  Nat.ofDigitChars_ten_toDigits

/-- Digits have no sign in front of them. -/
theorem sign_toDigits (n : Nat) (rest : List Char) :
    sign (Nat.toDigits 10 n ++ rest) = (false, Nat.toDigits 10 n ++ rest) := by
  obtain ⟨d, ds, chars⟩ := List.exists_cons_of_ne_nil (Nat.toDigits_ne_nil (n := n) (b := 10))
  have first : isDigit d = true := isDigit_of_mem_toDigits d (chars ▸ List.mem_cons_self)
  have unsigned : ¬ (d = '-' ∨ d = '+') := by
    rintro (rfl | rfl) <;> simp [isDigit] at first
  rw [chars, List.cons_append, sign_cons, if_neg unsigned]

theorem integer?_toString (n : Int) : integer? (toString n).toList = some (n, []) := by
  have digits (m : Nat) : digits? (Nat.toDigits 10 m) = some (Nat.toDigits 10 m, []) := by
    simpa using digits?_append Nat.toDigits_ne_nil isDigit_of_mem_toDigits (.nil _)
  rw [toString_int_toList]
  split
  · next natural =>
      have noSign : sign (Nat.toDigits 10 n.toNat) = (false, Nat.toDigits 10 n.toNat) := by
        simpa using sign_toDigits n.toNat []
      simp only [integer?, noSign, digits, ofDigits_toDigits, Option.map_some, Bool.false_eq_true,
        if_false]
      simp [natural]
  · next negative =>
      simp only [integer?, sign_cons, digits, ofDigits_toDigits, Option.map_some, true_or, if_true,
        beq_self_eq_true]
      simp
      omega

theorem timestamp?_toString (t : Int64) :
    timestamp? (toString t.toInt).toList = .ok (some (t, [])) := by
  rw [timestamp?, integer?_toString]
  simp only [Int64.minValue_le_toInt, Int64.toInt_le, decide_true, Bool.and_self, if_true,
    Int64.ofInt_toInt]

end Exposition
