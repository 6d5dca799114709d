import Exposition.Proofs.Line.Reader

/-! # Lines that start with a hash

A line that starts with `#` is a comment, unless `HELP` or `TYPE` and a blank follow. Behind these
words there is no way back: what follows has to be spelled as a help or a type line, and a line
where it is not is rejected. The spellings are described here without the reader. White space at
the end of a help text is cut before its escapes are read, so a text may end in a line feed.
-/

namespace Exposition

/-- A help text and how it is written. Read from the left, `\\` and `\n` stand for the backslash and
    the line feed; a character that starts neither stands for itself. -/
inductive SpelledHelp : List Char → List Char → Prop where
  | nil : SpelledHelp [] []
  | backslash {text written} :
      SpelledHelp text written → SpelledHelp ('\\' :: text) ('\\' :: '\\' :: written)
  | feed {text written} :
      SpelledHelp text written → SpelledHelp ('\n' :: text) ('\\' :: 'n' :: written)
  | plain {c text written} :
      (c = '\\' → ∀ d ∈ written.head?, d ≠ '\\' ∧ d ≠ 'n') →
      SpelledHelp text written → SpelledHelp (c :: text) (c :: written)

theorem unescapeHelp_plain {c : Char} {cs : List Char}
    (noEscape : c = '\\' → ∀ d ∈ cs.head?, d ≠ '\\' ∧ d ≠ 'n') :
    unescapeHelp (c :: cs) = c :: unescapeHelp cs := by
  by_cases backslash : c = '\\'
  · subst backslash
    cases cs with
    | nil => rfl
    | cons d cs =>
        obtain ⟨noBackslash, noFeed⟩ := noEscape rfl d rfl
        rw [unescapeHelp]
        · rw [unescapeHelp]
          all_goals simp [noBackslash]
        · simpa using noBackslash
        · simpa using noFeed
  · rw [unescapeHelp]
    all_goals simp [backslash]

theorem spelledHelp_iff {text written : List Char} :
    SpelledHelp text written ↔ unescapeHelp written = text := by
  constructor
  · intro h
    induction h with
    | nil => rfl
    | backslash _ ih => rw [unescapeHelp, ih]
    | feed _ ih => rw [unescapeHelp, ih]
    | plain noEscape _ ih => rw [unescapeHelp_plain noEscape, ih]
  · intro h
    subst h
    fun_induction unescapeHelp written with
    | case1 => exact .nil
    | case2 rest ih => exact .backslash ih
    | case3 rest ih => exact .feed ih
    | case4 c rest noBackslash noFeed ih =>
        have other : c ≠ '\\' ∧ c ≠ 'n' := ⟨noBackslash, noFeed⟩
        exact .plain (by simpa using other) (.plain (fun same => absurd same noBackslash) ih)
    | case5 c rest noBackslash noFeed noEscape ih =>
        refine .plain (fun same => ?_) ih
        cases rest with
        | nil => simp
        | cons d rest => exact absurd same (noEscape d rest · rfl)

theorem trimEnd_eq_iff {cs front : List Char} :
    trimEnd cs = front ↔
      ∃ spaces, cs = front ++ spaces ∧ (∀ c ∈ spaces, isSpace c = true) ∧
        ∀ c ∈ front.getLast?, isSpace c = false := by
  constructor
  · intro h
    subst h
    refine ⟨(cs.reverse.takeWhile isSpace).reverse, ?_, ?_, isSpace_getLast?_trimEnd⟩
    · rw [trimEnd, ← List.reverse_append, List.takeWhile_append_dropWhile, List.reverse_reverse]
    · intro c hc
      exact mem_takeWhile (List.mem_reverse.mp hc)
  · intro h
    obtain ⟨spaces, split, inside, last⟩ := h
    have start : Ends isSpace front.reverse := by
      intro c hc
      exact last c (by rwa [List.head?_reverse] at hc)
    have inside : ∀ c ∈ spaces.reverse, isSpace c = true := fun c hc =>
      inside c (List.mem_reverse.mp hc)
    rw [trimEnd, split, List.reverse_append, dropWhile_append_of_ends inside start,
      List.reverse_reverse]

/-- A keyword and one or more blanks are in front of the rest. -/
def Opens (word cs rest : List Char) : Prop :=
  ∃ gap, IsGap gap ∧ cs = word ++ (gap ++ rest) ∧ Ends isBlank rest

theorem keyword?_eq_some_iff {word cs rest : List Char} :
    keyword? word cs = some rest ↔ Opens word cs rest := by
  unfold keyword?
  constructor
  · intro h
    split at h
    · next front =>
        obtain ⟨more, rfl⟩ := List.isPrefixOf_iff_prefix.mp front
        rw [List.drop_left] at h
        obtain ⟨⟨⟨⟩, _⟩, blank, rfl⟩ := Option.map_eq_some_iff.mp h
        obtain ⟨gap, isGap, rfl, ends⟩ := blanks?_eq_some_iff.mp blank
        exact ⟨gap, isGap, rfl, ends⟩
    · cases h
  · intro h
    obtain ⟨gap, isGap, split, ends⟩ := h
    subst split
    have front : word.isPrefixOf (word ++ (gap ++ rest)) = true :=
      List.isPrefixOf_iff_prefix.mpr (List.prefix_append _ _)
    rw [if_pos front, List.drop_left, blanks?_eq_some_iff.mpr ⟨gap, isGap, rfl, ends⟩]
    rfl

theorem keyword?_eq_none_iff {word cs : List Char} :
    keyword? word cs = none ↔ ∀ rest, ¬ Opens word cs rest := by
  rw [Option.eq_none_iff_forall_ne_some]
  exact forall_congr' fun rest => not_congr keyword?_eq_some_iff

/-- What may follow the keyword of a help line and the blanks behind it: a name alone, or a name,
    one or more blanks and a text that may end in white space. -/
inductive SpelledHelpLine : String → String → List Char → Prop where
  | alone {name} : IsMetricName name → SpelledHelpLine name "" name.toList
  | text {name text gap written spaces} :
      IsMetricName name → IsGap gap → Ends isBlank (written ++ spaces) →
      (∀ c ∈ written.getLast?, isSpace c = false) → (∀ c ∈ spaces, isSpace c = true) →
      SpelledHelp text.toList written →
      SpelledHelpLine name text (name.toList ++ (gap ++ (written ++ spaces)))

theorem helpLine_eq_ok_iff_spelled {cs : List Char} {line : Line} :
    helpLine cs = .ok line ↔
      ∃ name text, SpelledHelpLine name text cs ∧ line = .help name text := by
  rw [helpLine_eq_ok_iff]
  constructor
  · intro h
    obtain ⟨name, rest, found, which⟩ := h
    obtain ⟨isName, split, -⟩ := name?_eq_some_iff.mp found
    subst split
    have isName := isMetricName_iff.mpr isName
    cases which with
    | inl withText =>
        obtain ⟨text, blank, rfl⟩ := withText
        obtain ⟨gap, isGap, rfl, ends⟩ := blanks?_eq_some_iff.mp blank
        obtain ⟨spaces, split, inside, last⟩ := trimEnd_eq_iff.mp (rfl : trimEnd text = _)
        have decoded := spelledHelp_iff.mpr (rfl : unescapeHelp (trimEnd text) = _)
        rw [split] at ends
        refine ⟨name, _, ?_, rfl⟩
        conv => arg 3; rw [split]
        exact .text isName isGap ends last inside (by rwa [String.toList_ofList])
    | inr alone =>
        obtain ⟨rfl, rfl⟩ := alone
        rw [List.append_nil]
        exact ⟨name, "", .alone isName, rfl⟩
  · intro h
    obtain ⟨name, text, spelled, same⟩ := h
    subst same
    cases spelled with
    | alone isName =>
        have found := metricName?_append isName (.nil _)
        rw [List.append_nil] at found
        exact ⟨name, [], found, .inr ⟨rfl, rfl⟩⟩
    | @text _ gap written spaces isName isGap ends last inside decoded =>
        have stop : Ends isMetricChar (gap ++ (written ++ spaces)) :=
          isGap.ends (fun _ => isMetricChar_of_isBlank) _
        refine ⟨name, _, metricName?_append isName stop, .inl ⟨written ++ spaces, ?_, ?_⟩⟩
        · exact blanks?_eq_some_iff.mpr ⟨gap, isGap, rfl, ends⟩
        · rw [trimEnd_eq_iff.mpr ⟨spaces, rfl, inside, last⟩, spelledHelp_iff.mp decoded,
            String.ofList_toList]

/-- What may follow the keyword of a type line and the blanks behind it. -/
inductive SpelledTypeLine : String → MetricType → List Char → Prop where
  | intro {name gap blanks} (type : MetricType) :
      IsMetricName name → IsGap gap → AreBlanks blanks →
      SpelledTypeLine name type (name.toList ++ (gap ++ (type.keyword.toList ++ blanks)))

theorem word?_eq_some_iff {cs rest : List Char} {word : String} :
    word? cs = some (word, rest) ↔
      word.toList ≠ [] ∧ (∀ c ∈ word.toList, isAlpha c = true) ∧ cs = word.toList ++ rest ∧
        Ends isAlpha rest := by
  unfold word?
  constructor
  · intro h
    split at h
    · cases h
    · next nonempty =>
        cases h
        rw [String.toList_ofList]
        exact ⟨nonempty, fun _ => mem_takeWhile, List.takeWhile_append_dropWhile.symm,
          ends_dropWhile isAlpha cs⟩
  · intro h
    obtain ⟨nonempty, inside, split, ends⟩ := h
    subst split
    rw [takeWhile_append_of_ends inside ends, dropWhile_append_of_ends inside ends]
    split
    · next empty => exact absurd empty nonempty
    · rw [String.ofList_toList]

theorem word?_keyword_append (type : MetricType) {rest : List Char} (ends : Ends isAlpha rest) :
    word? (type.keyword.toList ++ rest) = some (type.keyword, rest) := by
  obtain ⟨nonempty, inside, -⟩ := word?_eq_some_iff.mp (word?_keyword type)
  exact word?_eq_some_iff.mpr ⟨nonempty, inside, rfl, ends⟩

theorem isAlpha_of_isBlank {c : Char} (h : isBlank c = true) : isAlpha c = false := by
  cases isBlank_iff.mp h with
  | inl space => subst space; rfl
  | inr tab => subst tab; rfl

theorem typeLine_eq_ok_iff_spelled {cs : List Char} {line : Line} :
    typeLine cs = .ok line ↔
      ∃ name type, SpelledTypeLine name type cs ∧ line = .type name type := by
  rw [typeLine_eq_ok_iff]
  constructor
  · intro h
    obtain ⟨name, afterName, start, word, rest, type, found, blank, isWord, known, stop, same⟩ := h
    obtain ⟨isName, split, -⟩ := name?_eq_some_iff.mp found
    obtain ⟨gap, isGap, rfl, -⟩ := blanks?_eq_some_iff.mp blank
    obtain ⟨-, -, rfl, -⟩ := word?_eq_some_iff.mp isWord
    rw [split, ← MetricType.keyword_of_ofKeyword? known]
    exact ⟨name, type, .intro type (isMetricName_iff.mpr isName) isGap
      (skipBlanks_eq_nil_iff.mp stop), same⟩
  · intro h
    obtain ⟨name, type, spelled, same⟩ := h
    subst same
    cases spelled with
    | @intro gap blanks _ isName isGap areBlanks =>
        have stop : Ends isMetricChar (gap ++ (type.keyword.toList ++ blanks)) :=
          isGap.ends (fun _ => isMetricChar_of_isBlank) _
        have start : Ends isBlank (type.keyword.toList ++ blanks) := by
          cases type <;> exact .cons (by decide) _
        have letters : Ends isAlpha blanks := .of_inside areBlanks fun _ => isAlpha_of_isBlank
        exact ⟨name, _, _, type.keyword, blanks, type, metricName?_append isName stop,
          blanks?_eq_some_iff.mpr ⟨gap, isGap, rfl, start⟩, word?_keyword_append type letters,
          MetricType.ofKeyword?_keyword type, skipBlanks_eq_nil_iff.mpr areBlanks, rfl⟩

/-- The characters behind the hash that a line starts with and the blanks after it. -/
def FollowsHash (line rest : List Char) : Prop :=
  ∃ before after, AreBlanks before ∧ AreBlanks after ∧ line = before ++ '#' :: (after ++ rest) ∧
    Ends isBlank rest

theorem FollowsHash.read {line rest : List Char} (h : FollowsHash line rest) :
    Line.read line = hashLine rest := by
  obtain ⟨before, after, blankBefore, blankAfter, rfl, ends⟩ := h
  have start : skipBlanks (before ++ '#' :: (after ++ rest)) = '#' :: (after ++ rest) :=
    blankBefore.skip (.cons (by decide) _)
  rw [Line.read, start]
  simp only [blankAfter.skip ends]

/-- What a line says, given the characters behind its hash; a line for which this is nothing is
    rejected. -/
inductive AfterHash : List Char → Option Line → Prop where
  | help {cs rest name text} :
      Opens ['H', 'E', 'L', 'P'] cs rest → SpelledHelpLine name text rest →
      AfterHash cs (some (.help name text))
  | brokenHelp {cs rest} :
      Opens ['H', 'E', 'L', 'P'] cs rest → (∀ name text, ¬ SpelledHelpLine name text rest) →
      AfterHash cs none
  | type {cs rest name type} :
      Opens ['T', 'Y', 'P', 'E'] cs rest → SpelledTypeLine name type rest →
      AfterHash cs (some (.type name type))
  | brokenType {cs rest} :
      Opens ['T', 'Y', 'P', 'E'] cs rest → (∀ name type, ¬ SpelledTypeLine name type rest) →
      AfterHash cs none
  | comment {cs} :
      (∀ rest, ¬ Opens ['H', 'E', 'L', 'P'] cs rest) →
      (∀ rest, ¬ Opens ['T', 'Y', 'P', 'E'] cs rest) → AfterHash cs (some .comment)

theorem hashLine_of_opens_help {cs rest : List Char} (h : Opens ['H', 'E', 'L', 'P'] cs rest) :
    hashLine cs = helpLine rest := by
  rw [hashLine, keyword?_eq_some_iff.mpr h]

theorem hashLine_of_opens_type {cs rest : List Char} (h : Opens ['T', 'Y', 'P', 'E'] cs rest) :
    hashLine cs = typeLine rest := by
  have other : keyword? ['H', 'E', 'L', 'P'] cs = none := by
    obtain ⟨gap, -, rfl, -⟩ := h
    rfl
  rw [hashLine, other, keyword?_eq_some_iff.mpr h]

theorem toOption_eq_none_of_forall {ε α : Type} {result : Except ε α}
    (h : ∀ a, result ≠ .ok a) : result.toOption = none := by
  cases result with
  | error e => rfl
  | ok a => exact absurd rfl (h a)

theorem AfterHash.hashLine {cs : List Char} {found : Option Line} (h : AfterHash cs found) :
    (hashLine cs).toOption = found := by
  cases h with
  | help opens spelled =>
      rw [hashLine_of_opens_help opens, helpLine_eq_ok_iff_spelled.mpr ⟨_, _, spelled, rfl⟩]
      rfl
  | brokenHelp opens broken =>
      rw [hashLine_of_opens_help opens]
      apply toOption_eq_none_of_forall
      intro line read
      obtain ⟨name, text, spelled, -⟩ := helpLine_eq_ok_iff_spelled.mp read
      exact broken name text spelled
  | type opens spelled =>
      rw [hashLine_of_opens_type opens, typeLine_eq_ok_iff_spelled.mpr ⟨_, _, spelled, rfl⟩]
      rfl
  | brokenType opens broken =>
      rw [hashLine_of_opens_type opens]
      apply toOption_eq_none_of_forall
      intro line read
      obtain ⟨name, type, spelled, -⟩ := typeLine_eq_ok_iff_spelled.mp read
      exact broken name type spelled
  | comment noHelp noType =>
      rw [Exposition.hashLine, keyword?_eq_none_iff.mpr noHelp, keyword?_eq_none_iff.mpr noType]
      rfl

theorem afterHash_toOption (cs : List Char) : AfterHash cs (hashLine cs).toOption := by
  by_cases opensHelp : ∃ rest, Opens ['H', 'E', 'L', 'P'] cs rest
  · obtain ⟨rest, opens⟩ := opensHelp
    rw [hashLine_of_opens_help opens]
    cases read : helpLine rest with
    | error e =>
        refine .brokenHelp opens fun name text spelled => ?_
        cases read.symm.trans (helpLine_eq_ok_iff_spelled.mpr ⟨name, text, spelled, rfl⟩)
    | ok line =>
        obtain ⟨name, text, spelled, rfl⟩ := helpLine_eq_ok_iff_spelled.mp read
        exact .help opens spelled
  · have noHelp := not_exists.mp opensHelp
    by_cases opensType : ∃ rest, Opens ['T', 'Y', 'P', 'E'] cs rest
    · obtain ⟨rest, opens⟩ := opensType
      rw [hashLine_of_opens_type opens]
      cases read : typeLine rest with
      | error e =>
          refine .brokenType opens fun name type spelled => ?_
          cases read.symm.trans (typeLine_eq_ok_iff_spelled.mpr ⟨name, type, spelled, rfl⟩)
      | ok line =>
          obtain ⟨name, type, spelled, rfl⟩ := typeLine_eq_ok_iff_spelled.mp read
          exact .type opens spelled
    · have noType := not_exists.mp opensType
      have comment := AfterHash.comment noHelp noType
      rwa [← comment.hashLine] at comment

/-- A line that starts with a hash is a help line, a type line, a comment or rejected, as the
    characters behind the hash say. -/
theorem read_after_hash {line rest : List Char} (start : FollowsHash line rest) :
    (∀ found, Line.read line = .ok found ↔ AfterHash rest (some found)) ∧
      ((∃ r, Line.read line = .error r) ↔ AfterHash rest none) := by
  rw [start.read]
  have told := afterHash_toOption rest
  constructor
  · intro found
    constructor
    · intro read
      rwa [read] at told
    · intro h
      have same := h.hashLine
      cases read : hashLine rest with
      | error e =>
          rw [read] at same
          cases same
      | ok line =>
          rw [read] at same
          cases same
          rfl
  · constructor
    · intro h
      obtain ⟨r, read⟩ := h
      rwa [read] at told
    · intro h
      have same := h.hashLine
      cases read : hashLine rest with
      | error e => exact ⟨e, rfl⟩
      | ok line =>
          rw [read] at same
          cases same

/-- A text that starts and ends with an escape, cut after a backslash that has lost its partner. -/
theorem read_after_hash_help :
    FollowsHash "#\tHELP up  \\n\\\\n\\ \u00a0".toList "HELP up  \\n\\\\n\\ \u00a0".toList ∧
      Line.read "#\tHELP up  \\n\\\\n\\ \u00a0".toList = .ok (.help "up" "\n\\n\\") := by
  have start : FollowsHash "#\tHELP up  \\n\\\\n\\ \u00a0".toList
      "HELP up  \\n\\\\n\\ \u00a0".toList :=
    ⟨[], ['\t'], by decide, by decide, by simp, .cons (by decide) _⟩
  have opens : Opens ['H', 'E', 'L', 'P'] "HELP up  \\n\\\\n\\ \u00a0".toList
      "up  \\n\\\\n\\ \u00a0".toList :=
    ⟨[' '], ⟨by decide, by decide⟩, by simp, .cons (by decide) _⟩
  have decoded : SpelledHelp ['\n', '\\', 'n', '\\'] ['\\', 'n', '\\', '\\', 'n', '\\'] :=
    .feed (.backslash (.plain (by simp) (.plain (by simp) .nil)))
  have isName : IsMetricName "up" := by decide
  have gap : IsGap [' ', ' '] := ⟨by decide, by decide⟩
  have last : ∀ c ∈ ['\\', 'n', '\\', '\\', 'n', '\\'].getLast?, isSpace c = false := by
    simp [isSpace]
  have spaces : ∀ c ∈ [' ', '\u00a0'], isSpace c = true := by simp [isSpace]
  have spelled : SpelledHelpLine "up" "\n\\n\\" "up  \\n\\\\n\\ \u00a0".toList :=
    @SpelledHelpLine.text "up" "\n\\n\\" _ _ _ isName gap (.cons (by decide) _) last spaces decoded
  exact ⟨start, ((read_after_hash start).1 _).mpr (.help opens spelled)⟩

end Exposition
