import Exposition.Proofs.Line.NumberGrammar
import Exposition.Proofs.Line.SampleSpelling

/-! # The grammar of sample lines

A sample line as a tree of its parts, in the order in which they stand on it: blanks, the name, the
labels, the value and the time. Which trees there are is said without the reader. The reader takes
for samples exactly the lines that some tree is written as, there is only one such tree, and the
sample holds the parts of it, with the escapes of quoted values resolved.

No two trees are written alike since the first character of every part tells how far the part in
front of it goes. This is shown part by part, each in front of an arbitrary rest.
-/

namespace Exposition

/-- A character of a quoted value, by itself or behind a backslash. -/
inductive QuotedItem where
  | plain (c : Char)
  | escape (c : Char)

namespace QuotedItem

def chars : QuotedItem → List Char
  | plain c => [c]
  | escape c => ['\\', c]

def IsValid : QuotedItem → Prop
  | plain c => c ≠ '"' ∧ c ≠ '\\'
  | escape _ => True

/-- Three escapes stand for one character. All others are kept as they are. -/
def decoded : QuotedItem → List Char
  | plain c => [c]
  | escape '\\' => ['\\']
  | escape '"' => ['"']
  | escape 'n' => ['\n']
  | escape c => ['\\', c]

theorem decoded_escape (c : Char) : (escape c).decoded = unescapeChar c := by
  unfold decoded unescapeChar
  split
  · next same => cases same
  · next same => cases same; rfl
  · next same => cases same; rfl
  · next same => cases same; rfl
  · next backslash quote feed same =>
      cases same
      simp only [Bool.or_eq_true, decide_eq_true_eq, if_neg (not_or.mpr ⟨backslash, quote⟩),
        if_neg feed]

theorem spelledText {items : List QuotedItem} (valid : ∀ i ∈ items, i.IsValid) :
    SpelledText (items.flatMap decoded) (items.flatMap chars) := by
  induction items with
  | nil => exact .nil
  | cons i items ih =>
      obtain ⟨here, later⟩ := List.forall_mem_cons.mp valid
      cases i with
      | plain c => exact .plain here.1 here.2 (ih later)
      | escape c =>
          rw [List.flatMap_cons, decoded_escape]
          exact .escape c (ih later)

theorem exists_of_spelledText {text body : List Char} (h : SpelledText text body) :
    ∃ items : List QuotedItem, (∀ i ∈ items, i.IsValid) ∧ items.flatMap chars = body ∧
      items.flatMap decoded = text := by
  induction h with
  | nil => exact ⟨[], by simp, rfl, rfl⟩
  | @plain c _ _ noQuote noBackslash _ ih =>
      obtain ⟨items, valid, rfl, rfl⟩ := ih
      exact ⟨plain c :: items, List.forall_mem_cons.mpr ⟨⟨noQuote, noBackslash⟩, valid⟩, rfl, rfl⟩
  | escape c _ ih =>
      obtain ⟨items, valid, rfl, rfl⟩ := ih
      refine ⟨escape c :: items, List.forall_mem_cons.mpr ⟨trivial, valid⟩, rfl, ?_⟩
      rw [List.flatMap_cons, decoded_escape]

theorem chars_append_inj {i i' : QuotedItem} {rest rest' : List Char} (valid : i.IsValid)
    (valid' : i'.IsValid) (same : i.chars ++ rest = i'.chars ++ rest') :
    i = i' ∧ rest = rest' := by
  cases i with
  | plain c =>
      cases i' with
      | plain c' => cases same; exact ⟨rfl, rfl⟩
      | escape c' => exact absurd (List.cons.inj same).1 valid.2
  | escape c =>
      cases i' with
      | plain c' => exact absurd (List.cons.inj same).1.symm valid'.2
      | escape c' => cases same; exact ⟨rfl, rfl⟩

theorem quote_ne_chars {i : QuotedItem} {rest rest' : List Char} (valid : i.IsValid) :
    '"' :: rest ≠ i.chars ++ rest' := by
  intro same
  cases i with
  | plain c => exact valid.1 (List.cons.inj same).1.symm
  | escape c => cases (List.cons.inj same).1

/-- The first quote that is no part of an item ends the value. -/
theorem flatMap_chars_inj {items items' : List QuotedItem} {rest rest' : List Char}
    (valid : ∀ i ∈ items, i.IsValid) (valid' : ∀ i ∈ items', i.IsValid)
    (same : items.flatMap chars ++ '"' :: rest = items'.flatMap chars ++ '"' :: rest') :
    items = items' ∧ rest = rest' :=
  flatMap_append_inj (fun i here i' here' => chars_append_inj (valid i here) (valid' i' here'))
    (fun i here => quote_ne_chars (valid i here)) (fun i here => quote_ne_chars (valid' i here))
    same

end QuotedItem

theorem blanks_append_inj {blanks blanks' rest rest' : List Char} (areBlanks : AreBlanks blanks)
    (areBlanks' : AreBlanks blanks') (ends : Ends isBlank rest) (ends' : Ends isBlank rest')
    (same : blanks ++ rest = blanks' ++ rest') : blanks = blanks' ∧ rest = rest' :=
  span_unique areBlanks areBlanks' ends ends' same

/-- A label with the blanks around its parts. -/
structure PairText where
  front : List Char
  name : String
  before : List Char
  after : List Char
  value : List QuotedItem
  back : List Char

namespace PairText

def chars (t : PairText) : List Char :=
  t.front ++ (t.name.toList ++ (t.before ++ '=' :: (t.after ++
    '"' :: (t.value.flatMap QuotedItem.chars ++ '"' :: t.back))))

structure IsValid (t : PairText) : Prop where
  front : AreBlanks t.front
  name : IsLabelName t.name
  before : AreBlanks t.before
  after : AreBlanks t.after
  value : ∀ i ∈ t.value, i.IsValid
  back : AreBlanks t.back

/-- The label that is written. -/
def pair (t : PairText) : String × String :=
  (t.name, String.ofList (t.value.flatMap QuotedItem.decoded))

variable {t u : PairText}

theorem spelledPair (valid : t.IsValid) : SpelledPair t.pair t.chars := by
  have text := QuotedItem.spelledText valid.value
  rw [← String.toList_ofList (l := t.value.flatMap QuotedItem.decoded)] at text
  exact .intro valid.front valid.name valid.before valid.after text valid.back

theorem exists_of_spelledPair {pair : String × String} {spelled : List Char}
    (h : SpelledPair pair spelled) : ∃ t : PairText, t.IsValid ∧ t.chars = spelled ∧
      t.pair = pair := by
  obtain @⟨name, value, front, before, after, body, back, isFront, isName, isBefore, isAfter,
    text, isBack⟩ := h
  obtain ⟨items, valid, rfl, decoded⟩ := QuotedItem.exists_of_spelledText text
  refine ⟨⟨front, name, before, after, items, back⟩,
    ⟨isFront, isName, isBefore, isAfter, valid, isBack⟩, rfl, ?_⟩
  rw [pair, decoded, String.ofList_toList]

theorem name_ends {p : Char → Bool} (apart : ∀ c, isLabelStart c = true → p c = false)
    (valid : t.IsValid) (rest : List Char) : Ends p (t.name.toList ++ rest) :=
  (isLabelName_iff.mp valid.name).ends_append apart rest

theorem chars_append_inj {rest rest' : List Char} (validT : t.IsValid) (validU : u.IsValid)
    (ends : Ends isBlank rest) (ends' : Ends isBlank rest')
    (same : t.chars ++ rest = u.chars ++ rest') : t = u ∧ rest = rest' := by
  have start {t : PairText} (valid : t.IsValid) (rest : List Char) :
      Ends isBlank (t.name.toList ++ rest) :=
    name_ends (fun c h => isBlank_of_isMetricStart (isMetricStart_of_isLabelStart h)) valid rest
  have stop {t : PairText} (valid : t.IsValid) (rest : List Char) :
      Ends (fun c => isLabelStart c || isDigit c) (t.before ++ '=' :: rest) :=
    valid.before.ends (fun _ => isLabelChar_of_isBlank) (.cons (by decide) _)
  have equals (rest : List Char) : Ends isBlank ('=' :: rest) := .cons (by decide) _
  have quote (rest : List Char) : Ends isBlank ('"' :: rest) := .cons (by decide) _
  obtain ⟨front, name, before, after, value, back⟩ := t
  obtain ⟨front', name', before', after', value', back'⟩ := u
  simp only [chars, List.append_assoc, List.cons_append] at same
  obtain ⟨fronts, same⟩ :=
    blanks_append_inj validT.front validU.front (start validT _) (start validU _) same
  obtain ⟨names, same⟩ := (isLabelName_iff.mp validT.name).append_inj
    (isLabelName_iff.mp validU.name) (stop validT _) (stop validU _) same
  obtain ⟨befores, same⟩ :=
    blanks_append_inj validT.before validU.before (equals _) (equals _) same
  obtain ⟨afters, same⟩ := blanks_append_inj validT.after validU.after (quote _) (quote _)
    (List.cons.inj same).2
  obtain ⟨values, same⟩ :=
    QuotedItem.flatMap_chars_inj validT.value validU.value (List.cons.inj same).2
  obtain ⟨backs, rests⟩ := blanks_append_inj validT.back validU.back ends ends' same
  cases fronts
  cases names
  cases befores
  cases afters
  cases values
  cases backs
  exact ⟨rfl, rests⟩

end PairText

/-- What stands between the braces of a label set: blanks, or pairs, behind the last of which there
    may be a comma and blanks. -/
inductive ListText where
  | empty (blanks : List Char)
  | pairs (first : PairText) (more : List PairText) (comma : Option (List Char))

namespace ListText

/-- Pairs with commas between them. -/
def pairsChars : PairText → List PairText → List Char
  | t, [] => t.chars
  | t, next :: more => t.chars ++ ',' :: pairsChars next more

def commaChars : Option (List Char) → List Char
  | none => []
  | some blanks => ',' :: blanks

/-- The closing brace belongs to the list. -/
def chars : ListText → List Char
  | empty blanks => blanks ++ ['\x7d']
  | pairs first more comma => pairsChars first more ++ (commaChars comma ++ ['\x7d'])

def IsValid : ListText → Prop
  | empty blanks => AreBlanks blanks
  | pairs first more comma =>
      (∀ t ∈ first :: more, t.IsValid) ∧ ∀ blanks ∈ comma, AreBlanks blanks

/-- The labels that are written, from left to right. -/
def labels : ListText → List (String × String)
  | empty _ => []
  | pairs first more _ => (first :: more).map PairText.pair

variable {t u : ListText}

theorem spelledPairs {first : PairText} {more : List PairText}
    (valid : ∀ t ∈ first :: more, t.IsValid) :
    SpelledPairs ((first :: more).map PairText.pair) (pairsChars first more) := by
  induction more generalizing first with
  | nil => exact .last (PairText.spelledPair (valid first List.mem_cons_self))
  | cons next more ih =>
      obtain ⟨here, later⟩ := List.forall_mem_cons.mp valid
      exact .cons (PairText.spelledPair here) (ih later)

theorem exists_of_spelledPairs {found : List (String × String)} {spelled : List Char}
    (h : SpelledPairs found spelled) :
    ∃ first more, (∀ t ∈ first :: more, t.IsValid) ∧ pairsChars first more = spelled ∧
      (first :: more).map PairText.pair = found := by
  induction h with
  | last isPair =>
      obtain ⟨t, valid, rfl, rfl⟩ := PairText.exists_of_spelledPair isPair
      exact ⟨t, [], by simpa using valid, rfl, rfl⟩
  | cons isPair _ ih =>
      obtain ⟨t, valid, rfl, rfl⟩ := PairText.exists_of_spelledPair isPair
      obtain ⟨next, more, later, rfl, rfl⟩ := ih
      exact ⟨t, next :: more, List.forall_mem_cons.mpr ⟨valid, later⟩, rfl, rfl⟩

theorem spelledList (valid : t.IsValid) : SpelledList t.labels t.chars := by
  cases t with
  | empty blanks => exact .empty valid
  | pairs first more comma =>
      cases comma with
      | none => exact .list (spelledPairs valid.1)
      | some blanks => exact .comma (spelledPairs valid.1) (valid.2 blanks rfl)

theorem exists_of_spelledList {found : List (String × String)} {spelled : List Char}
    (h : SpelledList found spelled) :
    ∃ t : ListText, t.IsValid ∧ t.chars = spelled ∧ t.labels = found := by
  cases h with
  | @empty blanks areBlanks => exact ⟨empty blanks, areBlanks, rfl, rfl⟩
  | list isPairs =>
      obtain ⟨first, more, valid, rfl, rfl⟩ := exists_of_spelledPairs isPairs
      exact ⟨pairs first more none, ⟨valid, by simp⟩, rfl, rfl⟩
  | @comma _ _ blanks isPairs areBlanks =>
      obtain ⟨first, more, valid, rfl, rfl⟩ := exists_of_spelledPairs isPairs
      exact ⟨pairs first more (some blanks), ⟨valid, by simpa using areBlanks⟩, rfl, rfl⟩

theorem exists_pairsChars (first : PairText) (more : List PairText) :
    ∃ rest, pairsChars first more = first.chars ++ rest := by
  cases more with
  | nil => exact ⟨[], (List.append_nil _).symm⟩
  | cons next more => exact ⟨_, rfl⟩

/-- A label name cannot start with the closing brace. -/
theorem brace_ne_pair {blanks rest rest' : List Char} {t : PairText} (areBlanks : AreBlanks blanks)
    (valid : t.IsValid) : blanks ++ '\x7d' :: rest ≠ t.chars ++ rest' := by
  intro same
  simp only [PairText.chars, List.append_assoc] at same
  have name (rest : List Char) : Ends isBlank (t.name.toList ++ rest) :=
    PairText.name_ends (fun c h => isBlank_of_isMetricStart (isMetricStart_of_isLabelStart h)) valid
      rest
  have noBrace (rest : List Char) : Ends (· == '\x7d') (t.name.toList ++ rest) := by
    apply PairText.name_ends _ valid
    intro c start
    rw [beq_eq_false_iff_ne]
    rintro rfl
    exact absurd start (by decide)
  obtain ⟨-, names⟩ :=
    blanks_append_inj areBlanks valid.front (.cons (by decide) rest) (name _) same
  cases (names ▸ noBrace _ : Ends (· == '\x7d') ('\x7d' :: rest)) '\x7d' rfl

theorem closing_ends {p : Char → Bool} (comma : p ',' = false) (brace : p '\x7d' = false)
    (more : Option (List Char)) (rest : List Char) :
    Ends p (commaChars more ++ '\x7d' :: rest) := by
  cases more with
  | none => exact .cons brace rest
  | some blanks => exact .cons comma _

theorem closing_ne_pair {comma : Option (List Char)} {rest rest' : List Char} {t : PairText}
    (areBlanks : ∀ blanks ∈ comma, AreBlanks blanks) (valid : t.IsValid) :
    commaChars comma ++ '\x7d' :: rest ≠ ',' :: (t.chars ++ rest') := by
  intro same
  cases comma with
  | none => cases (List.cons.inj same).1
  | some blanks => exact brace_ne_pair (areBlanks blanks rfl) valid (List.cons.inj same).2

theorem closing_inj {comma comma' : Option (List Char)} {rest rest' : List Char}
    (areBlanks : ∀ blanks ∈ comma, AreBlanks blanks)
    (areBlanks' : ∀ blanks ∈ comma', AreBlanks blanks)
    (same : commaChars comma ++ '\x7d' :: rest = commaChars comma' ++ '\x7d' :: rest') :
    comma = comma' ∧ rest = rest' := by
  have brace (rest : List Char) : Ends isBlank ('\x7d' :: rest) := .cons (by decide) rest
  cases comma with
  | none =>
      cases comma' with
      | none => exact ⟨rfl, (List.cons.inj same).2⟩
      | some blanks' => cases (List.cons.inj same).1
  | some blanks =>
      cases comma' with
      | none => cases (List.cons.inj same).1
      | some blanks' =>
          obtain ⟨rfl, rests⟩ := blanks_append_inj (areBlanks blanks rfl) (areBlanks' blanks' rfl)
            (brace rest) (brace rest') (List.cons.inj same).2
          exact ⟨rfl, (List.cons.inj rests).2⟩

theorem pairsChars_append_inj {first first' : PairText} {more more' : List PairText}
    {comma comma' : Option (List Char)} {rest rest' : List Char}
    (valid : ∀ t ∈ first :: more, t.IsValid) (valid' : ∀ t ∈ first' :: more', t.IsValid)
    (areBlanks : ∀ blanks ∈ comma, AreBlanks blanks)
    (areBlanks' : ∀ blanks ∈ comma', AreBlanks blanks)
    (same : pairsChars first more ++ (commaChars comma ++ '\x7d' :: rest) =
      pairsChars first' more' ++ (commaChars comma' ++ '\x7d' :: rest')) :
    first = first' ∧ more = more' ∧ comma = comma' ∧ rest = rest' := by
  have closing (more : Option (List Char)) (rest : List Char) :
      Ends isBlank (commaChars more ++ '\x7d' :: rest) :=
    closing_ends (by decide) (by decide) more rest
  have comma (rest : List Char) : Ends isBlank (',' :: rest) := .cons (by decide) rest
  induction more generalizing first first' more' with
  | nil =>
      obtain ⟨here, -⟩ := List.forall_mem_cons.mp valid
      obtain ⟨here', later'⟩ := List.forall_mem_cons.mp valid'
      cases more' with
      | nil =>
          obtain ⟨rfl, closings⟩ :=
            PairText.chars_append_inj here here' (closing _ _) (closing _ _) same
          obtain ⟨commas, rests⟩ := closing_inj areBlanks areBlanks' closings
          exact ⟨rfl, rfl, commas, rests⟩
      | cons next' more' =>
          rw [pairsChars, pairsChars, List.append_assoc, List.cons_append] at same
          obtain ⟨-, tails⟩ := PairText.chars_append_inj here here' (closing _ _) (comma _) same
          obtain ⟨back, split⟩ := exists_pairsChars next' more'
          rw [split, List.append_assoc] at tails
          exact absurd tails (closing_ne_pair areBlanks (later' next' List.mem_cons_self))
  | cons next more ih =>
      obtain ⟨here, later⟩ := List.forall_mem_cons.mp valid
      obtain ⟨here', later'⟩ := List.forall_mem_cons.mp valid'
      cases more' with
      | nil =>
          rw [pairsChars, pairsChars, List.append_assoc, List.cons_append] at same
          obtain ⟨-, tails⟩ := PairText.chars_append_inj here here' (comma _) (closing _ _) same
          obtain ⟨back, split⟩ := exists_pairsChars next more
          rw [split, List.append_assoc] at tails
          exact absurd tails.symm (closing_ne_pair areBlanks' (later next List.mem_cons_self))
      | cons next' more' =>
          rw [pairsChars, pairsChars, List.append_assoc, List.append_assoc, List.cons_append,
            List.cons_append] at same
          obtain ⟨rfl, tails⟩ := PairText.chars_append_inj here here' (comma _) (comma _) same
          obtain ⟨rfl, rfl, commas, rests⟩ := ih later later' (List.cons.inj tails).2
          exact ⟨rfl, rfl, commas, rests⟩

theorem chars_append_inj {rest rest' : List Char} (validT : t.IsValid) (validU : u.IsValid)
    (same : t.chars ++ rest = u.chars ++ rest') : t = u ∧ rest = rest' := by
  have brace (rest : List Char) : Ends isBlank ('\x7d' :: rest) := .cons (by decide) rest
  have noPairs {blanks rest rest' : List Char} {first : PairText} {more : List PairText}
      {comma : Option (List Char)} (areBlanks : AreBlanks blanks)
      (valid : (pairs first more comma).IsValid) :
      (empty blanks).chars ++ rest ≠ (pairs first more comma).chars ++ rest' := by
    obtain ⟨back, split⟩ := exists_pairsChars first more
    rw [chars, chars, split, List.append_assoc, List.append_assoc, List.append_assoc]
    exact brace_ne_pair areBlanks (valid.1 first List.mem_cons_self)
  cases t with
  | empty blanks =>
      cases u with
      | empty blanks' =>
          rw [chars, chars, List.append_assoc, List.append_assoc] at same
          obtain ⟨rfl, rests⟩ := blanks_append_inj validT validU (brace rest) (brace rest') same
          exact ⟨rfl, (List.cons.inj rests).2⟩
      | pairs first more comma => exact absurd same (noPairs validT validU)
  | pairs first more comma =>
      cases u with
      | empty blanks => exact absurd same.symm (noPairs validU validT)
      | pairs first' more' comma' =>
          simp only [chars, List.append_assoc, List.singleton_append] at same
          obtain ⟨rfl, rfl, rfl, rests⟩ :=
            pairsChars_append_inj validT.1 validU.1 validT.2 validU.2 same
          exact ⟨rfl, rests⟩

end ListText

/-- A label set with the blanks in front of it, or nothing. -/
inductive LabelsText where
  | none
  | braces (front : List Char) (list : ListText)

namespace LabelsText

def chars : LabelsText → List Char
  | none => []
  | braces front list => front ++ '\x7b' :: list.chars

def labels : LabelsText → List (String × String)
  | none => []
  | braces _ list => list.labels

/-- No name may be repeated. -/
def IsValid : LabelsText → Prop
  | none => True
  | braces front list =>
      AreBlanks front ∧ list.IsValid ∧ (list.labels.map (·.1)).Nodup

variable {t u : LabelsText}

theorem distinct (valid : t.IsValid) : (t.labels.map (·.1)).Nodup := by
  cases t with
  | none => exact List.nodup_nil
  | braces front list => exact valid.2.2

theorem spelledLabels {set : Labels} (valid : t.IsValid)
    (made : Labels.ofDistinct? t.labels = some set) : SpelledLabels set t.chars := by
  cases t with
  | none =>
      cases made
      exact .none
  | braces front list => exact .some valid.1 (ListText.spelledList valid.2.1) made

theorem exists_of_spelledLabels {set : Labels} {spelled : List Char}
    (h : SpelledLabels set spelled) :
    ∃ t : LabelsText, t.IsValid ∧ t.chars = spelled ∧ Labels.ofDistinct? t.labels = some set := by
  cases h with
  | none => exact ⟨none, trivial, rfl, rfl⟩
  | @some _ _ blanks _ areBlanks isList made =>
      obtain ⟨list, valid, rfl, rfl⟩ := ListText.exists_of_spelledList isList
      exact ⟨braces blanks list,
        ⟨areBlanks, valid, (Labels.ofDistinct?_eq_some_iff.mp made).1⟩, rfl, made⟩

theorem chars_append_inj {rest rest' : List Char} (validT : t.IsValid) (validU : u.IsValid)
    (noBrace : Ends (· == '\x7b') (skipBlanks rest))
    (noBrace' : Ends (· == '\x7b') (skipBlanks rest'))
    (same : t.chars ++ rest = u.chars ++ rest') : t = u ∧ rest = rest' := by
  have brace (rest : List Char) : Ends isBlank ('\x7b' :: rest) := .cons (by decide) rest
  have noLabels {front cs rest : List Char} (areBlanks : AreBlanks front)
      (noBrace : Ends (· == '\x7b') (skipBlanks rest)) : rest ≠ front ++ '\x7b' :: cs := by
    rintro rfl
    rw [areBlanks.skip (brace cs)] at noBrace
    cases noBrace '\x7b' rfl
  cases t with
  | none =>
      cases u with
      | none => exact ⟨rfl, same⟩
      | braces front list =>
          rw [chars, chars, List.nil_append, List.append_assoc] at same
          exact absurd same (noLabels validU.1 noBrace)
  | braces front list =>
      cases u with
      | none =>
          rw [chars, chars, List.nil_append, List.append_assoc] at same
          exact absurd same.symm (noLabels validT.1 noBrace')
      | braces front' list' =>
          rw [chars, chars, List.append_assoc, List.append_assoc] at same
          obtain ⟨rfl, lists⟩ := blanks_append_inj validT.1 validU.1 (brace _) (brace _) same
          obtain ⟨rfl, rests⟩ :=
            ListText.chars_append_inj validT.2.1 validU.2.1 (List.cons.inj lists).2
          exact ⟨rfl, rests⟩

end LabelsText

theorem ValueText.token {t : ValueText} (valid : t.IsValid) :
    t.chars ≠ [] ∧ ∀ c ∈ t.chars, isValueChar c = true :=
  have whole := isLocal_value?.token (value?_chars valid)
  ⟨whole.1, whole.2.1⟩

theorem IntegerText.token {t : IntegerText} (valid : t.IsValid) :
    t.chars ≠ [] ∧ ∀ c ∈ t.chars, isValueChar c = true := by
  have read := integer?_chars valid (.nil _)
  rw [List.append_nil] at read
  have whole := isLocal_integer?.token read
  exact ⟨whole.1, whole.2.1⟩

/-- What stands behind the value of a sample: its time after a gap, or none, and blanks. -/
inductive BackText where
  | none (blanks : List Char)
  | time (gap : List Char) (t : IntegerText) (blanks : List Char)

namespace BackText

def chars : BackText → List Char
  | none blanks => blanks
  | time gap t blanks => gap ++ (t.chars ++ blanks)

/-- A time has to fit into 64 bits. -/
def IsValid : BackText → Prop
  | none blanks => AreBlanks blanks
  | time gap t blanks =>
      IsGap gap ∧ t.IsValid ∧ (-2 ^ 63 ≤ t.value ∧ t.value < 2 ^ 63) ∧ AreBlanks blanks

def timestamp : BackText → Option Int
  | none _ => Option.none
  | time _ t _ => some t.value

variable {t u : BackText}

theorem ends (valid : t.IsValid) : Ends isValueChar t.chars := by
  cases t with
  | none blanks => exact .of_inside valid fun _ => isValueChar_of_isBlank
  | time gap t blanks => exact valid.1.ends (fun _ => isValueChar_of_isBlank) _

theorem spelledBack {timestamp : Option Int64} (valid : t.IsValid)
    (same : timestamp.map Int64.toInt = t.timestamp) : SpelledBack timestamp t.chars := by
  cases t with
  | none blanks =>
      cases Option.map_eq_none_iff.mp same
      exact .none valid
  | time gap t blanks =>
      obtain ⟨time, rfl, fits⟩ := Option.map_eq_some_iff.mp same
      have isTime := IntegerText.timestamp?_eq_some_iff.mpr ⟨t, valid.2.1, rfl, fits.symm⟩
      exact .some valid.1 isTime valid.2.2.2

theorem exists_of_spelledBack {timestamp : Option Int64} {back : List Char}
    (h : SpelledBack timestamp back) :
    ∃ t : BackText, t.IsValid ∧ t.chars = back ∧ timestamp.map Int64.toInt = t.timestamp := by
  cases h with
  | @none blanks areBlanks => exact ⟨none back, areBlanks, rfl, rfl⟩
  | @some time gap token blanks isGap isTime areBlanks =>
      obtain ⟨t, valid, rfl, value⟩ := IntegerText.timestamp?_eq_some_iff.mp isTime
      refine ⟨.time gap t blanks, ⟨isGap, valid, ?_, areBlanks⟩, rfl, by rw [timestamp, value]; rfl⟩
      rw [value]
      exact ⟨Int64.le_toInt time, Int64.toInt_lt time⟩

theorem exists_timestamp (valid : t.IsValid) :
    ∃ timestamp : Option Int64, timestamp.map Int64.toInt = t.timestamp := by
  cases t with
  | none blanks => exact ⟨Option.none, rfl⟩
  | time gap t blanks =>
      obtain ⟨lower, upper⟩ := valid.2.2.1
      exact ⟨some (Int64.ofInt t.value), congrArg some (Int64.toInt_ofInt_of_le lower upper)⟩

theorem chars_inj (validT : t.IsValid) (validU : u.IsValid) (same : t.chars = u.chars) : t = u := by
  have notBlank {t : IntegerText} (valid : t.IsValid) (rest : List Char) :
      Ends isBlank (t.chars ++ rest) :=
    have token := IntegerText.token valid
    (Ends.of_inside token.2 fun _ => isBlank_of_isValueChar).append token.1 rest
  have blanksEnd {blanks : List Char} (areBlanks : AreBlanks blanks) : Ends isValueChar blanks :=
    .of_inside areBlanks fun _ => isValueChar_of_isBlank
  have noTime {blanks gap blanks' : List Char} {t : IntegerText} (areBlanks : AreBlanks blanks)
      (isGap : IsGap gap) (valid : t.IsValid) : blanks ≠ gap ++ (t.chars ++ blanks') := by
    intro same
    rw [← List.append_nil blanks] at same
    obtain ⟨-, nothing⟩ := blanks_append_inj areBlanks isGap.blanks (.nil _) (notBlank valid _) same
    exact (IntegerText.token valid).1 (List.append_eq_nil_iff.mp nothing.symm).1
  cases t with
  | none blanks =>
      cases u with
      | none blanks' => exact congrArg none same
      | time gap t blanks' => exact absurd same (noTime validT validU.1 validU.2.1)
  | time gap t blanks =>
      cases u with
      | none blanks' => exact absurd same.symm (noTime validU validT.1 validT.2.1)
      | time gap' t' blanks' =>
          obtain ⟨isGap, isTime, -, areBlanks⟩ := validT
          obtain ⟨isGap', isTime', -, areBlanks'⟩ := validU
          obtain ⟨rfl, times⟩ := blanks_append_inj isGap.blanks isGap'.blanks (notBlank isTime _)
            (notBlank isTime' _) same
          obtain ⟨tokens, rfl⟩ := span_unique (IntegerText.token isTime).2
            (IntegerText.token isTime').2 (blanksEnd areBlanks) (blanksEnd areBlanks') times
          rw [IntegerText.chars_inj isTime isTime' tokens]

end BackText

/-- A sample line as it is written. -/
structure SampleText where
  front : List Char
  name : String
  labels : LabelsText
  gap : List Char
  value : ValueText
  back : BackText

namespace SampleText

def chars (t : SampleText) : List Char :=
  (t.front ++ (t.name.toList ++ (t.labels.chars ++ t.gap))) ++ (t.value.chars ++ t.back.chars)

structure IsValid (t : SampleText) : Prop where
  front : AreBlanks t.front
  name : IsMetricName t.name
  labels : t.labels.IsValid
  gap : IsGap t.gap
  value : t.value.IsValid
  back : t.back.IsValid

/-- The sample holds what is written, and its labels are those that are written. -/
structure Denotes (t : SampleText) (s : Sample) : Prop where
  name : s.identity.name = t.name
  labels : ∀ pair, pair ∈ s.identity.labels.entries ↔ pair ∈ t.labels.labels
  value : s.value = t.value.value
  timestamp : s.timestamp.map Int64.toInt = t.back.timestamp

variable {t u : SampleText} {s : Sample} {line : List Char}

theorem Denotes.spelledSample (h : t.Denotes s) (valid : t.IsValid) : SpelledSample s t.chars := by
  obtain ⟨⟨name, set⟩, value, timestamp⟩ := s
  obtain ⟨rfl, labels, rfl, timestamp⟩ := h
  have made := Labels.ofDistinct?_eq_some_iff.mpr ⟨LabelsText.distinct valid.labels, labels⟩
  exact .intro
    (.intro valid.front valid.name (LabelsText.spelledLabels valid.labels made) valid.gap)
    (ValueText.value?_chars valid.value) (BackText.spelledBack valid.back timestamp)

theorem exists_of_spelledSample (h : SpelledSample s line) :
    ∃ t : SampleText, t.IsValid ∧ t.chars = line ∧ t.Denotes s := by
  obtain ⟨identity, value, timestamp⟩ := s
  obtain @⟨_, token, back, isFront, isValue, isBack⟩ := h
  obtain @⟨name, set, front, spelled, gap, areBlanks, isName, isLabels, isGap⟩ := isFront
  obtain ⟨labels, validLabels, rfl, made⟩ := LabelsText.exists_of_spelledLabels isLabels
  obtain ⟨v, validValue, rfl, sameValue⟩ := ValueText.value?_eq_some_iff.mp isValue
  obtain ⟨b, validBack, rfl, sameTime⟩ := BackText.exists_of_spelledBack isBack
  exact ⟨⟨front, name, labels, gap, v, b⟩,
    ⟨areBlanks, isName, validLabels, isGap, validValue, validBack⟩, rfl,
    ⟨rfl, (Labels.ofDistinct?_eq_some_iff.mp made).2, sameValue.symm, sameTime⟩⟩

/-- Every tree stands for some sample. -/
theorem exists_denotes (valid : t.IsValid) : ∃ s, t.Denotes s := by
  obtain ⟨set, made⟩ := Labels.exists_ofDistinct? (LabelsText.distinct valid.labels)
  have sameLabels := (Labels.ofDistinct?_eq_some_iff.mp made).2
  obtain ⟨timestamp, sameTime⟩ := BackText.exists_timestamp valid.back
  exact ⟨⟨⟨t.name, set⟩, t.value.value, timestamp⟩, ⟨rfl, sameLabels, rfl, sameTime⟩⟩

theorem chars_inj (validT : t.IsValid) (validU : u.IsValid) (same : t.chars = u.chars) : t = u := by
  have value {t : SampleText} (valid : t.IsValid) {p : Char → Bool}
      (apart : ∀ c, isValueChar c = true → p c = false) :
      Ends p (t.value.chars ++ t.back.chars) :=
    have token := ValueText.token valid.value
    (Ends.of_inside token.2 apart).append token.1 _
  have noBlank {t : SampleText} (valid : t.IsValid) :
      Ends isBlank (t.value.chars ++ t.back.chars) :=
    value valid fun _ => isBlank_of_isValueChar
  have noBrace {t : SampleText} (valid : t.IsValid) :
      Ends (· == '\x7b') (skipBlanks (t.gap ++ (t.value.chars ++ t.back.chars))) := by
    rw [valid.gap.blanks.skip (noBlank valid)]
    apply value valid
    intro c inside
    rw [beq_eq_false_iff_ne]
    rintro rfl
    exact absurd inside (by decide)
  have start {t : SampleText} (valid : t.IsValid) (rest : List Char) :
      Ends isBlank (t.name.toList ++ rest) :=
    (isMetricName_iff.mp valid.name).ends_append (fun _ => isBlank_of_isMetricStart) rest
  have stop {t : SampleText} (valid : t.IsValid) :
      Ends isMetricChar (t.labels.chars ++ (t.gap ++ (t.value.chars ++ t.back.chars))) := by
    obtain ⟨set, made⟩ := Labels.exists_ofDistinct? (LabelsText.distinct valid.labels)
    exact (LabelsText.spelledLabels valid.labels made).ends valid.gap _
  simp only [chars, List.append_assoc] at same
  obtain ⟨fronts, same⟩ :=
    blanks_append_inj validT.front validU.front (start validT _) (start validU _) same
  obtain ⟨names, same⟩ := (isMetricName_iff.mp validT.name).append_inj
    (isMetricName_iff.mp validU.name) (stop validT) (stop validU) same
  obtain ⟨labels, same⟩ := LabelsText.chars_append_inj validT.labels validU.labels
    (noBrace validT) (noBrace validU) same
  obtain ⟨gaps, same⟩ := blanks_append_inj validT.gap.blanks validU.gap.blanks (noBlank validT)
    (noBlank validU) same
  obtain ⟨values, backs⟩ := span_unique (ValueText.token validT.value).2
    (ValueText.token validU.value).2 (BackText.ends validT.back) (BackText.ends validU.back) same
  cases t
  cases u
  cases fronts
  cases names
  cases labels
  cases gaps
  cases ValueText.chars_inj validT.value validU.value values
  cases BackText.chars_inj validT.back validU.back backs
  rfl

theorem read_eq_sample_iff_denotes :
    Line.read line = .ok (.sample s) ↔
      ∃ t : SampleText, t.IsValid ∧ t.chars = line ∧ t.Denotes s := by
  rw [read_eq_sample_iff_spelled]
  constructor
  · exact exists_of_spelledSample
  · rintro ⟨t, valid, rfl, denotes⟩
    exact denotes.spelledSample valid

end SampleText

/-- The sample lines are those of the grammar, each of which comes apart in one way only, and what
    is read is what the parts stand for. -/
theorem read_sample_grammar (line : List Char) :
    ((∃ s, Line.read line = .ok (.sample s)) ↔ ∃ t : SampleText, t.IsValid ∧ t.chars = line) ∧
      ∀ t : SampleText, t.IsValid → t.chars = line →
        (∀ u : SampleText, u.IsValid → u.chars = line → u = t) ∧
          ∀ s, Line.read line = .ok (.sample s) ↔ t.Denotes s := by
  refine ⟨⟨?_, ?_⟩, ?_⟩
  · intro h
    obtain ⟨s, read⟩ := h
    obtain ⟨t, valid, same, -⟩ := SampleText.read_eq_sample_iff_denotes.mp read
    exact ⟨t, valid, same⟩
  · intro h
    obtain ⟨t, valid, same⟩ := h
    obtain ⟨s, denotes⟩ := SampleText.exists_denotes valid
    exact ⟨s, SampleText.read_eq_sample_iff_denotes.mpr ⟨t, valid, same, denotes⟩⟩
  · intro t valid same
    have unique : ∀ u : SampleText, u.IsValid → u.chars = line → u = t :=
      fun u validU sameU => SampleText.chars_inj validU valid (sameU.trans same.symm)
    refine ⟨unique, fun s => ?_⟩
    rw [SampleText.read_eq_sample_iff_denotes]
    constructor
    · intro h
      obtain ⟨u, validU, sameU, denotes⟩ := h
      rwa [← unique u validU sameU]
    · exact fun denotes => ⟨t, valid, same, denotes⟩

example :
    (SampleText.mk [] "up"
      (.braces [' '] (.pairs ⟨[], "a", [], [' '], [.plain 'x', .escape 'n'], []⟩ [] (some [])))
      [' '] (.numeral ⟨.plus, .fraction ['5'], .letter 'e' ⟨.none, ['1']⟩⟩)
      (.time ['\t'] ⟨.minus, ['7']⟩ [])).chars =
    "up \x7ba= \"x\\n\",\x7d +.5e1\t-7".toList := rfl

end Exposition
