import Exposition.Proofs.Json.Decoding
import Exposition.Proofs.Line.Token

/-! # The layouts of a JSON value

The pretty layout is the compact one with white space between the tokens. White space inside of a
string belongs to the string, so who drops the rest has to know where strings end.
-/

namespace Exposition

namespace NumberLayout

variable {layout : NumberLayout} {digits : List Char}

/-- Besides digits, signs and points, a number has what the layout asks for. -/
structure InValueChars (layout : NumberLayout) : Prop where
  wholeEnding : ∀ c ∈ layout.wholeEnding, isValueChar c = true
  exponentMark : isValueChar layout.exponentMark = true

theorem isValueChar_of_mem_toDigits {n : Nat} : ∀ c ∈ Nat.toDigits 10 n, isValueChar c = true :=
  fun c member => isValueChar_of_isDigit (isDigit_of_mem_toDigits c member)

theorem isValueChar_of_mem_zeros (count : Nat) :
    ∀ c ∈ List.replicate count '0', isValueChar c = true := by
  intro c member
  rw [List.eq_of_mem_replicate member]
  decide

theorem InValueChars.positional (h : layout.InValueChars)
    (inDigits : ∀ c ∈ digits, isValueChar c = true) (exponent : Int) :
    ∀ c ∈ layout.positional digits exponent, isValueChar c = true := by
  have point : isValueChar '.' = true := by decide
  have zero : isValueChar '0' = true := by decide
  unfold NumberLayout.positional
  dsimp only
  split_ifs with whole inside
  · rw [List.forall_mem_append, List.forall_mem_append]
    exact ⟨⟨inDigits, isValueChar_of_mem_zeros _⟩, h.wholeEnding⟩
  · rw [List.forall_mem_append, List.forall_mem_cons]
    exact ⟨fun c member => inDigits c (List.mem_of_mem_take member), point,
      fun c member => inDigits c (List.mem_of_mem_drop member)⟩
  · rw [List.forall_mem_append, List.forall_mem_cons, List.forall_mem_cons]
    exact ⟨⟨zero, point, isValueChar_of_mem_zeros _⟩, inDigits⟩

theorem InValueChars.scientific (h : layout.InValueChars)
    (inDigits : ∀ c ∈ digits, isValueChar c = true) (power : Int) :
    ∀ c ∈ layout.scientific digits power, isValueChar c = true := by
  have point : isValueChar '.' = true := by decide
  have sign : isValueChar (if power < 0 then '-' else '+') = true := by split <;> decide
  have later : ∀ c ∈ digits.drop 1, isValueChar c = true :=
    fun c member => inDigits c (List.mem_of_mem_drop member)
  unfold NumberLayout.scientific
  rw [List.forall_mem_append, List.forall_mem_append, List.forall_mem_cons, List.forall_mem_cons]
  refine ⟨⟨fun c member => inDigits c (List.mem_of_mem_take member), ?_⟩, h.exponentMark, sign,
    isValueChar_of_mem_toDigits⟩
  split
  · exact List.forall_mem_nil _
  · exact List.forall_mem_cons.mpr ⟨point, later⟩

theorem InValueChars.finite (h : layout.InValueChars) (x : Binary64) :
    ∀ c ∈ layout.finite x, isValueChar c = true := by
  have zero : isValueChar '0' = true := by decide
  have sign : ∀ c ∈ if x.isNegative then ['-'] else [], isValueChar c = true := by
    split
    · exact List.forall_mem_singleton.mpr (by decide)
    · exact List.forall_mem_nil _
  unfold NumberLayout.finite NumberLayout.decimal
  rw [List.forall_mem_append]
  refine ⟨sign, ?_⟩
  split
  · exact List.forall_mem_cons.mpr ⟨zero, h.wholeEnding⟩
  · dsimp only
    split
    · exact h.positional isValueChar_of_mem_toDigits _
    · exact h.scientific isValueChar_of_mem_toDigits _

end NumberLayout

namespace Json

theorem isValueChar_of_mem_numberText (x : Binary64) :
    ∀ c ∈ numberText x, isValueChar c = true := by
  have inLayout : numberLayout.InValueChars :=
    ⟨List.all_eq_true.mp (by decide), by decide⟩
  rw [numberText]
  split
  · exact inLayout.finite x
  · exact List.all_eq_true.mp (by decide)

/-- Where a character of a JSON text stands. -/
inductive Place where
  | outside
  | inString
  /-- In a string, behind a backslash. -/
  | escaped
  deriving DecidableEq

/-- Where the character after `c` stands. -/
def Place.after (c : Char) : Place → Place
  | outside => if c = '"' then inString else outside
  | inString => if c = '"' then outside else if c = '\\' then escaped else inString
  | escaped => inString

/-- The text without the white space that stands outside of strings. -/
def dropSpace : Place → List Char → List Char
  | _, [] => []
  | place, c :: cs =>
    if place = .outside ∧ isSpace c then dropSpace place cs
    else c :: dropSpace (place.after c) cs

/-- Dropping white space makes `kept` of `cs`, whatever follows, which then stands at `next`. -/
def Leaves (place : Place) (cs kept : List Char) (next : Place) : Prop :=
  ∀ rest, dropSpace place (cs ++ rest) = kept ++ dropSpace next rest

/-- The character is neither white space nor a quote. -/
def isPlain (c : Char) : Bool := !isSpace c && c != '"'

theorem isPlain_of_isValueChar {c : Char} (h : isValueChar c = true) : isPlain c = true := by
  have range : 0x2b ≤ c.toNat ∧ c.toNat ≤ 0x7a := by
    simp only [isValueChar, isAlpha, isDigit, Bool.or_eq_true, Bool.and_eq_true, decide_eq_true_eq,
      beq_iff_eq, Char.le_def, UInt32.le_iff_toNat_le, Char.reduceVal, UInt32.reduceToNat,
      Char.toNat_val] at h
    rcases h with ((((lower | upper) | digit) | rfl) | rfl) | rfl
    · omega
    · omega
    · omega
    · decide
    · decide
    · decide
  have noSpace : isSpace c = false := by
    simp only [isSpace, Bool.or_eq_false_iff, Bool.and_eq_false_iff, decide_eq_false_iff_not,
      beq_eq_false_iff_ne]
    omega
  have noQuote : c ≠ '"' := by
    intro quote
    rw [quote] at range
    exact absurd range (by decide)
  rw [isPlain, noSpace, Bool.not_false, Bool.true_and, bne_iff_ne]
  exact noQuote

namespace Leaves

variable {place next last : Place} {c : Char} {cs cs' kept kept' : List Char}

theorem nil (place : Place) : Leaves place [] [] place := fun _ => rfl

theorem append (h : Leaves place cs kept next) (h' : Leaves next cs' kept' last) :
    Leaves place (cs ++ cs') (kept ++ kept') last := by
  intro rest
  rw [List.append_assoc, h, h', List.append_assoc]

theorem plain (isPlain : isPlain c = true) (h : Leaves .outside cs kept next) :
    Leaves .outside (c :: cs) (c :: kept) next := by
  intro rest
  rw [Json.isPlain, Bool.and_eq_true, Bool.not_eq_true', bne_iff_ne] at isPlain
  have stays : ¬ (Place.outside = .outside ∧ isSpace c = true) := by simp [isPlain.1]
  rw [List.cons_append, dropSpace, if_neg stays, Place.after, if_neg isPlain.2, h, List.cons_append]

theorem space (isSpace : isSpace c = true) (h : Leaves .outside cs kept next) :
    Leaves .outside (c :: cs) kept next := by
  intro rest
  rw [List.cons_append, dropSpace, if_pos ⟨rfl, isSpace⟩, h]

theorem newLine (depth : Nat) (h : Leaves .outside cs kept next) :
    Leaves .outside (newLine depth ++ cs) kept next := by
  have blanks (count : Nat) : Leaves .outside (List.replicate count ' ' ++ cs) kept next := by
    induction count with
    | zero => exact h
    | succ count ih => exact ih.space (by decide)
  exact (blanks (2 * depth)).space (by decide)

theorem of_plain (plain : ∀ c ∈ cs, isPlain c = true) : Leaves .outside cs cs .outside := by
  induction cs with
  | nil => exact .nil _
  | cons c cs ih =>
      obtain ⟨here, later⟩ := List.forall_mem_cons.mp plain
      exact (ih later).plain here

end Leaves

theorem IsStringChar.leaves {c : Char} {written : List Char} (h : IsStringChar c written) :
    Leaves .inString written written .inString := by
  have digits : ∀ n < 16, Nat.digitChar n ≠ '"' ∧ Nat.digitChar n ≠ '\\' := by decide
  intro rest
  cases h with
  | plain quote backslash => simp [dropSpace, Place.after, quote, backslash]
  | escape => simp [dropSpace, Place.after]
  | control small =>
      have high := digits (c.toNat / 16) (by omega)
      have low := digits (c.toNat % 16) (by omega)
      simp [dropSpace, Place.after, high, low]

theorem leaves_stringText (text : String) :
    Leaves .outside (stringText text) (stringText text) .outside := by
  have opening : Leaves .outside ['"'] ['"'] .inString := fun _ => rfl
  have closing : Leaves .inString ['"'] ['"'] .outside := fun _ => rfl
  have inside (chars : List Char) :
      Leaves .inString (chars.flatMap stringChar) (chars.flatMap stringChar) .inString := by
    induction chars with
    | nil => exact .nil _
    | cons c chars ih => exact (isStringChar c).leaves.append ih
  exact opening.append ((inside text.toList).append closing)

theorem leaves_number (x : Binary64) : Leaves .outside (numberText x) (numberText x) .outside :=
  .of_plain fun c member => isPlain_of_isValueChar (isValueChar_of_mem_numberText x c member)

theorem leaves_integer (n : Int) : Leaves .outside (integerText n) (integerText n) .outside :=
  .of_plain fun c member => isPlain_of_isValueChar (isValueChar_of_mem_toString c member)

mutual

/-- The pretty layout is the compact one but for white space. -/
theorem leaves_prettyAt (depth : Nat) (v : Json) :
    Leaves .outside (prettyAt depth v) v.compact .outside := by
  cases v with
  | null =>
      have word : ∀ c ∈ ['n', 'u', 'l', 'l'], isPlain c = true :=
        List.all_eq_true.mp (by decide)
      exact .of_plain word
  | integer n => exact leaves_integer n
  | number x => exact leaves_number x
  | string text => exact leaves_stringText text
  | array items =>
      cases items with
      | nil =>
          have brackets : ∀ c ∈ ['[', ']'], isPlain c = true := List.all_eq_true.mp (by decide)
          exact .of_plain brackets
      | cons item rest =>
          have items := leaves_prettyItems (depth + 1) (item :: rest)
          simp only [prettyAt, compact, List.cons_append, List.append_assoc]
          exact .plain (by decide) (items.append (.newLine depth (.plain (by decide) (.nil _))))
  | object members =>
      cases members with
      | nil =>
          have braces : ∀ c ∈ ['\x7b', '\x7d'], isPlain c = true :=
            List.all_eq_true.mp (by decide)
          exact .of_plain braces
      | cons member rest =>
          have members := leaves_prettyMembers (depth + 1) (member :: rest)
          simp only [prettyAt, compact, List.cons_append, List.append_assoc]
          exact .plain (by decide) (members.append (.newLine depth (.plain (by decide) (.nil _))))

theorem leaves_prettyItems (depth : Nat) (items : List Json) :
    Leaves .outside (prettyItems depth items) (compactItems items) .outside := by
  cases items with
  | nil => exact .nil _
  | cons item rest =>
      have first := leaves_prettyAt depth item
      cases rest with
      | nil =>
          rw [prettyItems, compactItems]
          exact .newLine depth first
      | cons next rest =>
          have later := leaves_prettyItems depth (next :: rest)
          simp only [prettyItems, compactItems, List.append_assoc]
          exact .newLine depth (first.append (.plain (by decide) later))

theorem leaves_prettyMembers (depth : Nat) (members : List (String × Json)) :
    Leaves .outside (prettyMembers depth members) (compactMembers members) .outside := by
  cases members with
  | nil => exact .nil _
  | cons member rest =>
      obtain ⟨name, value⟩ := member
      have first := leaves_prettyAt depth value
      have name := leaves_stringText name
      cases rest with
      | nil =>
          simp only [prettyMembers, compactMembers, List.append_assoc]
          exact .newLine depth (name.append (.plain (by decide) (.space (by decide) first)))
      | cons next rest =>
          have later := leaves_prettyMembers depth (next :: rest)
          simp only [prettyMembers, compactMembers, List.append_assoc]
          exact .newLine depth (name.append (.plain (by decide) (.space (by decide)
            (first.append (.plain (by decide) later)))))

end

theorem dropSpace_pretty (v : Json) : dropSpace .outside v.pretty = v.compact := by
  have all := leaves_prettyAt 0 v []
  rw [List.append_nil, dropSpace, List.append_nil] at all
  exact all

example : dropSpace .outside (pretty (array [string "a \" b", null])) =
    ['[', '"', 'a', ' ', '\\', '"', ' ', 'b', '"', ',', 'n', 'u', 'l', 'l', ']'] := by
  decide

end Json

end Exposition
