import Exposition.Proofs.Line.LabelSet

/-! # How labels may be spelled

A label set can be written in many ways: with blanks around names and values, with or without a
comma after the last pair, with escapes that stand for themselves. Which spellings there are is said
here without the reader, and the reader accepts exactly these. It works from the left and never goes
back further than to blanks, so every part is described with an arbitrary rest behind it, as tokens
are. The way a set is displayed is one of its spellings.
-/

namespace Exposition

/-- Blanks, maybe none. -/
def AreBlanks (cs : List Char) : Prop := ∀ c ∈ cs, isBlank c = true

instance : DecidablePred AreBlanks := fun cs =>
  decidable_of_iff (cs.all isBlank = true) List.all_eq_true

/-- One or more blanks. -/
structure IsGap (cs : List Char) : Prop where
  blanks : AreBlanks cs
  nonempty : cs ≠ []

theorem AreBlanks.skip {blanks rest : List Char} (h : AreBlanks blanks)
    (ends : Ends isBlank rest) : skipBlanks (blanks ++ rest) = rest :=
  dropWhile_append_of_ends h ends

theorem skipBlanks_eq_iff {cs rest : List Char} :
    skipBlanks cs = rest ↔
      ∃ blanks, AreBlanks blanks ∧ cs = blanks ++ rest ∧ Ends isBlank rest := by
  constructor
  · rintro rfl
    exact ⟨cs.takeWhile isBlank, fun _ => mem_takeWhile, List.takeWhile_append_dropWhile.symm,
      ends_dropWhile isBlank cs⟩
  · rintro ⟨blanks, areBlanks, rfl, ends⟩
    exact areBlanks.skip ends

theorem skipBlanks_eq_nil_iff {cs : List Char} : skipBlanks cs = [] ↔ AreBlanks cs :=
  List.dropWhile_eq_nil_iff

theorem AreBlanks.ends {p : Char → Bool} {blanks rest : List Char} (h : AreBlanks blanks)
    (apart : ∀ c, isBlank c = true → p c = false) (ends : Ends p rest) :
    Ends p (blanks ++ rest) := by
  cases blanks with
  | nil => exact ends
  | cons c blanks => exact .cons (apart c (h c List.mem_cons_self)) _

theorem IsGap.ends {p : Char → Bool} {gap : List Char} (h : IsGap gap)
    (apart : ∀ c, isBlank c = true → p c = false) (rest : List Char) : Ends p (gap ++ rest) := by
  obtain ⟨c, gap, rfl⟩ := List.exists_cons_of_ne_nil h.nonempty
  exact .cons (apart c (h.blanks c List.mem_cons_self)) _

theorem blanks?_eq_some_iff {cs rest : List Char} :
    blanks? cs = some ((), rest) ↔ ∃ gap, IsGap gap ∧ cs = gap ++ rest ∧ Ends isBlank rest := by
  constructor
  · intro h
    cases cs with
    | nil => cases h
    | cons c cs =>
        simp only [blanks?, Option.ite_none_right_eq_some, Option.some.injEq, Prod.mk.injEq,
          true_and] at h
        obtain ⟨blank, more⟩ := h
        obtain ⟨blanks, areBlanks, rfl, ends⟩ := skipBlanks_eq_iff.mp more
        exact ⟨c :: blanks, ⟨List.forall_mem_cons.mpr ⟨blank, areBlanks⟩, by simp⟩, rfl, ends⟩
  · rintro ⟨gap, ⟨blanks, nonempty⟩, rfl, ends⟩
    obtain ⟨c, gap, rfl⟩ := List.exists_cons_of_ne_nil nonempty
    have more : AreBlanks gap := fun d hd => blanks d (List.mem_cons_of_mem _ hd)
    simp only [blanks?, List.cons_append, blanks c List.mem_cons_self, if_true, more.skip ends]

/-- What may stand between the quotes of a value, and the text that it stands for. -/
inductive SpelledText : List Char → List Char → Prop where
  | nil : SpelledText [] []
  | plain {c text body} :
      c ≠ '"' → c ≠ '\\' → SpelledText text body → SpelledText (c :: text) (c :: body)
  | escape (c) {text body} :
      SpelledText text body → SpelledText (unescapeChar c ++ text) ('\\' :: c :: body)

theorem unescapeBody_plain {c : Char} (noQuote : c ≠ '"') (noBackslash : c ≠ '\\')
    (cs : List Char) :
    unescapeBody (c :: cs) = (unescapeBody cs).map fun (value, rest) => (c :: value, rest) := by
  rw [unescapeBody]
  · exact noQuote
  · exact fun same => absurd same noBackslash
  · exact fun _ _ same => absurd same noBackslash

theorem SpelledText.read {text body : List Char} (h : SpelledText text body) (rest : List Char) :
    unescapeBody (body ++ '"' :: rest) = some (text, '"' :: rest) := by
  induction h with
  | nil => rfl
  | plain noQuote noBackslash _ ih =>
      rw [List.cons_append, unescapeBody_plain noQuote noBackslash, ih]
      rfl
  | escape c _ ih =>
      rw [List.cons_append, List.cons_append, unescapeBody, ih]
      rfl

/-- The value is read up to the first quote that is not escaped, or up to the end of the line. -/
theorem spelledText_of_unescapeBody {cs text rest : List Char}
    (h : unescapeBody cs = some (text, rest)) :
    ∃ body, cs = body ++ rest ∧ SpelledText text body ∧ ∀ c ∈ rest.head?, c = '"' := by
  fun_induction unescapeBody cs generalizing text with
  | case1 =>
      cases h
      exact ⟨[], rfl, .nil, by simp⟩
  | case2 =>
      cases h
      exact ⟨[], rfl, .nil, by simp⟩
  | case3 => cases h
  | case4 c cs ih =>
      simp only [Option.map_eq_some_iff, Prod.exists, Prod.mk.injEq] at h
      obtain ⟨later, _, read, rfl, rfl⟩ := h
      obtain ⟨body, rfl, spelled, stop⟩ := ih read
      exact ⟨'\\' :: c :: body, rfl, .escape c spelled, stop⟩
  | case5 c cs noQuote noEnd noEscape ih =>
      simp only [Option.map_eq_some_iff, Prod.exists, Prod.mk.injEq] at h
      obtain ⟨later, _, read, rfl, rfl⟩ := h
      obtain ⟨body, split, spelled, stop⟩ := ih read
      refine ⟨c :: body, by rw [split, List.cons_append], .plain noQuote ?_ spelled, stop⟩
      intro backslash
      cases cs with
      | nil => exact noEnd backslash rfl
      | cons d cs => exact noEscape d cs backslash rfl

theorem labelValue_eq_ok_iff {cs rest : List Char} {value : String} :
    labelValue cs = .ok (value, rest) ↔
      ∃ body, cs = '"' :: (body ++ '"' :: rest) ∧ SpelledText value.toList body := by
  constructor
  · intro h
    unfold labelValue at h
    split at h
    · split at h
      · next read =>
          cases h
          obtain ⟨body, rfl, spelled, -⟩ := spelledText_of_unescapeBody read
          exact ⟨body, rfl, by rwa [String.toList_ofList]⟩
      · cases h
      · cases h
    · cases h
  · rintro ⟨body, rfl, spelled⟩
    simp only [labelValue, spelled.read, String.ofList_toList]

theorem equals?_eq_some_iff {cs rest : List Char} :
    equals? cs = some ((), rest) ↔
      ∃ before after, AreBlanks before ∧ AreBlanks after ∧ cs = before ++ '=' :: (after ++ rest) ∧
        Ends isBlank rest := by
  constructor
  · intro h
    unfold equals? at h
    split at h
    · next afterSign sign =>
        cases h
        obtain ⟨before, blankBefore, rfl, -⟩ := skipBlanks_eq_iff.mp sign
        obtain ⟨after, blankAfter, split, ends⟩ :=
          skipBlanks_eq_iff.mp (rfl : skipBlanks afterSign = _)
        exact ⟨before, after, blankBefore, blankAfter, by rw [← split], ends⟩
    · cases h
  · rintro ⟨before, after, blankBefore, blankAfter, rfl, ends⟩
    have sign : skipBlanks (before ++ '=' :: (after ++ rest)) = '=' :: (after ++ rest) :=
      blankBefore.skip (.cons (by decide) _)
    simp only [equals?, sign, blankAfter.skip ends]

/-- A label with the blanks around it. -/
inductive SpelledPair : String × String → List Char → Prop where
  | intro {name value front before after body back} :
      AreBlanks front → IsLabelName name → AreBlanks before → AreBlanks after →
      SpelledText value.toList body → AreBlanks back →
      SpelledPair (name, value)
        (front ++ (name.toList ++ (before ++ '=' :: (after ++ '"' :: (body ++ '"' :: back)))))

theorem pair?_eq_some_iff_spelled {cs rest : List Char} {pair : String × String} :
    pair? cs = .ok (some (pair, rest)) ↔
      ∃ spelled, cs = spelled ++ rest ∧ SpelledPair pair spelled ∧ Ends isBlank rest := by
  rw [pair?_eq_some_iff]
  constructor
  · rintro ⟨afterName, afterSign, afterValue, found, isSign, isValue, last⟩
    obtain ⟨isName, first, -⟩ := name?_eq_some_iff.mp found
    obtain ⟨front, blankFront, rfl, -⟩ := skipBlanks_eq_iff.mp first
    obtain ⟨before, after, blankBefore, blankAfter, rfl, -⟩ := equals?_eq_some_iff.mp isSign
    obtain ⟨body, rfl, spelled⟩ := labelValue_eq_ok_iff.mp isValue
    obtain ⟨back, blankBack, rfl, ends⟩ := skipBlanks_eq_iff.mp last.symm
    exact ⟨_, by simp, .intro blankFront (isLabelName_iff.mpr isName) blankBefore blankAfter spelled
      blankBack, ends⟩
  · rintro ⟨_, rfl, @⟨name, value, front, before, after, body, back, blankFront, isName,
      blankBefore, blankAfter, spelled, blankBack⟩, ends⟩
    have isName := isLabelName_iff.mp isName
    have start : Ends isBlank (name.toList ++
        (before ++ '=' :: (after ++ '"' :: (body ++ '"' :: (back ++ rest))))) :=
      isName.ends_append (fun c hc =>
        isBlank_of_isMetricStart (isMetricStart_of_isLabelStart hc)) _
    have stop : Ends (fun c => isLabelStart c || isDigit c)
        (before ++ '=' :: (after ++ '"' :: (body ++ '"' :: (back ++ rest)))) :=
      blankBefore.ends (fun _ => isLabelChar_of_isBlank) (.cons (by decide) _)
    have sign : equals? (before ++ '=' :: (after ++ '"' :: (body ++ '"' :: (back ++ rest)))) =
        some ((), '"' :: (body ++ '"' :: (back ++ rest))) :=
      equals?_eq_some_iff.mpr ⟨before, after, blankBefore, blankAfter, rfl, .cons (by decide) _⟩
    refine ⟨_, _, back ++ rest, ?_, sign, labelValue_eq_ok_iff.mpr ⟨body, rfl, spelled⟩,
      (blankBack.skip ends).symm⟩
    simp only [List.append_assoc, List.cons_append]
    rw [blankFront.skip start]
    exact name?_append isName stop

/-- One or more pairs with commas between them. -/
inductive SpelledPairs : List (String × String) → List Char → Prop where
  | last {pair spelled} : SpelledPair pair spelled → SpelledPairs [pair] spelled
  | cons {pair spelled more later} :
      SpelledPair pair spelled → SpelledPairs more later →
      SpelledPairs (pair :: more) (spelled ++ ',' :: later)

theorem SpelledPairs.ne_nil {found : List (String × String)} {spelled : List Char}
    (h : SpelledPairs found spelled) : found ≠ [] := by
  cases h <;> simp

theorem SpelledPairs.read {found : List (String × String)} {spelled rest : List Char}
    (h : SpelledPairs found spelled) (ends : Ends isBlank rest)
    (noPair : ∀ more, rest = ',' :: more → pair? more = .ok none) :
    pairs (spelled ++ rest) = .ok (found, rest) := by
  induction h with
  | @last pair spelled isPair =>
      have here := pair?_eq_some_iff_spelled.mpr ⟨spelled, rfl, isPair, ends⟩
      -- a comma may follow even the last pair, and then the reader looks for one more
      by_cases comma : ∃ more, rest = ',' :: more
      · obtain ⟨more, rfl⟩ := comma
        exact pairs_of_comma_only here (pairs_of_none (noPair more rfl))
      · exact pairs_of_last here (not_exists.mp comma)
  | @cons pair spelled more later isPair isMore ih =>
      obtain ⟨next, more, rfl⟩ := List.exists_cons_of_ne_nil isMore.ne_nil
      have here := pair?_eq_some_iff_spelled.mpr
        ⟨spelled, rfl, isPair, .cons (c := ',') (by decide) (later ++ rest)⟩
      rw [List.append_assoc, List.cons_append]
      exact pairs_of_comma here ih

theorem spelledPairs_of_pairs {cs rest : List Char} {found : List (String × String)}
    (h : pairs cs = .ok (found, rest)) :
    found = [] ∧ rest = cs ∨
      ∃ spelled, cs = spelled ++ rest ∧ SpelledPairs found spelled ∧ Ends isBlank rest := by
  fun_induction pairs cs generalizing found rest with
  | case1 cs wrong _ => cases h
  | case2 cs none =>
      cases h
      exact .inl ⟨rfl, rfl⟩
  | case3 cs pair rest first wrong _ _ => cases h
  | case4 cs pair rest first _ _ _ =>
      -- the comma has no pair behind it and is still there
      cases h
      obtain ⟨spelled, rfl, isPair, ends⟩ := pair?_eq_some_iff_spelled.mp first
      exact .inr ⟨spelled, rfl, .last isPair, ends⟩
  | case5 cs pair rest first more rest' some later ih =>
      cases h
      obtain ⟨spelled, rfl, isPair, -⟩ := pair?_eq_some_iff_spelled.mp first
      rcases ih later with ⟨none, -⟩ | ⟨spelled', rfl, isMore, ends⟩
      · exact absurd none some
      · exact .inr ⟨_, by simp, .cons isPair isMore, ends⟩
  | case6 cs pair rest _ last =>
      cases h
      obtain ⟨spelled, rfl, isPair, ends⟩ := pair?_eq_some_iff_spelled.mp last
      exact .inr ⟨spelled, rfl, .last isPair, ends⟩

/-- What may follow the opening brace of a label set, up to the closing one, and its pairs. -/
inductive SpelledList : List (String × String) → List Char → Prop where
  | empty {blanks} : AreBlanks blanks → SpelledList [] (blanks ++ ['\x7d'])
  | list {found spelled} : SpelledPairs found spelled → SpelledList found (spelled ++ ['\x7d'])
  | comma {found spelled blanks} :
      SpelledPairs found spelled → AreBlanks blanks →
      SpelledList found (spelled ++ ',' :: (blanks ++ ['\x7d']))

theorem pair?_blanks_brace {blanks : List Char} (h : AreBlanks blanks) (rest : List Char) :
    pair? (blanks ++ '\x7d' :: rest) = .ok none := by
  have noName : labelName? ('\x7d' :: rest) = none := rfl
  rw [pair?, h.skip (.cons (by decide) _), noName]

theorem dropComma_comma {found : List (String × String)} (some : found ≠ []) (rest : List Char) :
    dropComma found (',' :: rest) = rest := by
  obtain ⟨pair, more, rfl⟩ := List.exists_cons_of_ne_nil some
  have comma : skipBlanks (',' :: rest) = ',' :: rest := skipBlanks_of_ends (.cons (by decide) rest)
  simp only [dropComma, comma]

theorem dropComma_of_ne {found : List (String × String)} {cs : List Char} (ends : Ends isBlank cs)
    (noComma : ∀ more, cs ≠ ',' :: more) : dropComma found cs = cs := by
  unfold dropComma
  rw [skipBlanks_of_ends ends]
  split
  · exact absurd rfl (noComma _)
  · rfl

theorem SpelledList.read {found : List (String × String)} {spelled : List Char}
    (h : SpelledList found spelled) (rest : List Char) :
    ∃ afterPairs, pairs (spelled ++ rest) = .ok (found, afterPairs) ∧
      skipBlanks (dropComma found afterPairs) = '\x7d' :: rest := by
  have brace : Ends isBlank ('\x7d' :: rest) := .cons (by decide) rest
  cases h with
  | @empty blanks areBlanks =>
      refine ⟨blanks ++ '\x7d' :: rest, ?_, areBlanks.skip brace⟩
      rw [List.append_assoc]
      exact pairs_of_none (pair?_blanks_brace areBlanks rest)
  | list isPairs =>
      rw [List.append_assoc, List.singleton_append]
      refine ⟨_, isPairs.read brace (by simp), ?_⟩
      rw [dropComma_of_ne brace (by simp)]
      exact skipBlanks_of_ends brace
  | @comma _ _ blanks isPairs areBlanks =>
      have comma : Ends isBlank (',' :: (blanks ++ '\x7d' :: rest)) := .cons (by decide) _
      have noPair : ∀ more, ',' :: (blanks ++ '\x7d' :: rest) = ',' :: more →
          pair? more = .ok none := by
        rintro _ ⟨⟩
        exact pair?_blanks_brace areBlanks rest
      simp only [List.append_assoc, List.cons_append, List.nil_append]
      refine ⟨_, isPairs.read comma noPair, ?_⟩
      rw [dropComma_comma isPairs.ne_nil]
      exact areBlanks.skip brace

/-- What is read in front of the place of the closing brace would be a list with that brace. -/
theorem spelledList_of_pairs {body afterPairs : List Char} {found : List (String × String)}
    (isPairs : pairs body = .ok (found, afterPairs)) :
    ∃ front, body = front ++ skipBlanks (dropComma found afterPairs) ∧
      SpelledList found (front ++ ['\x7d']) := by
  obtain ⟨blanks, areBlanks, split, -⟩ :=
    skipBlanks_eq_iff.mp (rfl : skipBlanks (dropComma found afterPairs) = _)
  rcases spelledPairs_of_pairs isPairs with ⟨rfl, rfl⟩ | ⟨spelled, rfl, isSpelled, ends⟩
  · exact ⟨blanks, split, .empty areBlanks⟩
  · by_cases comma : ∃ more, afterPairs = ',' :: more
    · obtain ⟨more, rfl⟩ := comma
      rw [dropComma_comma isSpelled.ne_nil] at split ⊢
      refine ⟨spelled ++ ',' :: blanks, ?_, ?_⟩
      · conv_lhs => rw [split]
        simp
      · simpa using SpelledList.comma isSpelled areBlanks
    · rw [dropComma_of_ne ends (not_exists.mp comma), skipBlanks_of_ends ends]
      exact ⟨spelled, rfl, .list isSpelled⟩

theorem labelsAfterBrace_eq_ok_iff_spelled {start body rest : List Char} {set : Labels} :
    labelsAfterBrace start body = .ok (set, rest) ↔
      ∃ found spelled, body = spelled ++ rest ∧ SpelledList found spelled ∧
        Labels.ofDistinct? found = some set := by
  rw [labelsAfterBrace_eq_ok_iff]
  constructor
  · rintro ⟨found, afterPairs, isPairs, close, made⟩
    obtain ⟨front, split, isList⟩ := spelledList_of_pairs isPairs
    rw [close] at split
    exact ⟨found, front ++ ['\x7d'], by simp [split], isList, made⟩
  · rintro ⟨found, spelled, rfl, isList, made⟩
    obtain ⟨afterPairs, isPairs, close⟩ := isList.read rest
    exact ⟨found, afterPairs, isPairs, close, made⟩

/-- A label set with the blanks in front of it, or nothing. -/
inductive SpelledLabels : Labels → List Char → Prop where
  | none : SpelledLabels .empty []
  | some {set found blanks spelled} :
      AreBlanks blanks → SpelledList found spelled → Labels.ofDistinct? found = some set →
      SpelledLabels set (blanks ++ '\x7b' :: spelled)

theorem SpelledLabels.read {set : Labels} {spelled rest : List Char} (h : SpelledLabels set spelled)
    (noBrace : Ends (· == '\x7b') (skipBlanks rest)) :
    labels (spelled ++ rest) = .ok (set, rest) := by
  cases h with
  | none =>
      rw [List.nil_append, labels]
      split
      · next body brace =>
          have := noBrace '\x7b' (by rw [brace]; rfl)
          cases this
      · rfl
  | some areBlanks isList made =>
      rw [labels, List.append_assoc, List.cons_append, areBlanks.skip (.cons (by decide) _)]
      exact labelsAfterBrace_eq_ok_iff_spelled.mpr ⟨_, _, rfl, isList, made⟩

theorem spelledLabels_of_labels {cs rest : List Char} {set : Labels}
    (h : labels cs = .ok (set, rest)) :
    ∃ spelled, cs = spelled ++ rest ∧ SpelledLabels set spelled := by
  unfold labels at h
  split at h
  · next body brace =>
      obtain ⟨blanks, areBlanks, rfl, -⟩ := skipBlanks_eq_iff.mp brace
      obtain ⟨found, spelled, rfl, isList, made⟩ := labelsAfterBrace_eq_ok_iff_spelled.mp h
      exact ⟨_, by simp, .some areBlanks isList made⟩
  · cases h
    exact ⟨[], rfl, .none⟩

theorem SpelledPairs.isLabelName {found : List (String × String)} {spelled : List Char}
    (h : SpelledPairs found spelled) : ∀ pair ∈ found, IsLabelName pair.1 := by
  have one {pair : String × String} {spelled : List Char} (h : SpelledPair pair spelled) :
      IsLabelName pair.1 := by
    cases h
    assumption
  induction h with
  | last isPair => simpa using one isPair
  | cons isPair _ ih => exact List.forall_mem_cons.mpr ⟨one isPair, ih⟩

theorem SpelledList.isLabelName {found : List (String × String)} {spelled : List Char}
    (h : SpelledList found spelled) : ∀ pair ∈ found, IsLabelName pair.1 := by
  cases h with
  | empty => simp
  | list isPairs | comma isPairs => exact isPairs.isLabelName

theorem isLabelName_of_labels {cs rest : List Char} {set : Labels}
    (h : labels cs = .ok (set, rest)) : ∀ pair ∈ set.entries, IsLabelName pair.1 := by
  obtain ⟨spelled, -, isSpelled⟩ := spelledLabels_of_labels h
  cases isSpelled with
  | none =>
      intro pair hp
      cases hp
  | some _ isList made =>
      have sameEntries := (Labels.ofDistinct?_eq_some_iff.mp made).2
      exact fun pair hp => isList.isLabelName pair ((sameEntries pair).mp hp)

theorem spelledText_escape (value : List Char) : SpelledText value (escape value) := by
  induction value with
  | nil => exact .nil
  | cons c value ih =>
      rw [escape_cons, escapeChar]
      split_ifs with backslash quote feed
      · subst backslash
        exact .escape '\\' ih
      · subst quote
        exact .escape '"' ih
      · subst feed
        exact .escape 'n' ih
      · exact .plain quote backslash ih

theorem toList_displayPair (pair : String × String) :
    (Labels.displayPair pair).toList =
      pair.1.toList ++ '=' :: '"' :: (escape pair.2.toList ++ ['"']) := by
  simp [Labels.displayPair]

theorem spelledPair_display {pair : String × String} (named : IsLabelName pair.1) :
    SpelledPair pair (Labels.displayPair pair).toList := by
  have noBlank : AreBlanks [] := by decide
  rw [toList_displayPair]
  exact .intro noBlank named noBlank noBlank (spelledText_escape _) noBlank

/-- The pairs of some entries as they are written inside the braces. -/
def displayPairs (pairs : List (String × String)) : List Char :=
  (",".intercalate (pairs.map Labels.displayPair)).toList

theorem displayPairs_cons_cons (pair next : String × String) (more : List (String × String)) :
    displayPairs (pair :: next :: more) =
      (Labels.displayPair pair).toList ++ ',' :: displayPairs (next :: more) := by
  simp [displayPairs]

theorem spelledPairs_display {pair : String × String} {more : List (String × String)}
    (named : ∀ p ∈ pair :: more, IsLabelName p.1) :
    SpelledPairs (pair :: more) (displayPairs (pair :: more)) := by
  induction more generalizing pair with
  | nil =>
      have here := spelledPair_display (named pair List.mem_cons_self)
      simpa [displayPairs] using SpelledPairs.last here
  | cons next more ih =>
      obtain ⟨here, later⟩ := List.forall_mem_cons.mp named
      rw [displayPairs_cons_cons]
      exact .cons (spelledPair_display here) (ih later)

theorem spelledList_display {found : List (String × String)}
    (named : ∀ pair ∈ found, IsLabelName pair.1) :
    SpelledList found (displayPairs found ++ ['\x7d']) := by
  cases found with
  | nil => exact .empty (by decide)
  | cons pair more => exact .list (spelledPairs_display named)

theorem toList_display (set : Labels) (rest : List Char) :
    set.display.toList ++ rest = '\x7b' :: (displayPairs set.entries ++ '\x7d' :: rest) := by
  simp [Labels.display, displayPairs]

/-- A displayed set is one of the spellings of the set. -/
theorem spelledLabels_display {set : Labels} (named : ∀ pair ∈ set.entries, IsLabelName pair.1) :
    SpelledLabels set set.display.toList := by
  have written := toList_display set []
  have noBlank : AreBlanks [] := by decide
  rw [List.append_nil] at written
  rw [written]
  exact .some noBlank (spelledList_display named) set.ofDistinct?_entries

theorem feed_notMem_escape (value : List Char) : '\n' ∉ escape value := by
  simp only [escape, List.mem_flatMap, not_exists, not_and, escapeChar]
  intro c _
  split_ifs with backslash quote feed
  · simp
  · simp
  · simp
  · simpa using Ne.symm feed

theorem feed_notMem_displayPairs {found : List (String × String)}
    (named : ∀ pair ∈ found, IsLabelName pair.1) : '\n' ∉ displayPairs found := by
  have one : ∀ {pair : String × String}, IsLabelName pair.1 →
      '\n' ∉ (Labels.displayPair pair).toList := by
    intro pair isName
    have noName := (isLabelName_iff.mp isName).notMem (c := '\n') (by decide)
    simp [toList_displayPair, noName, feed_notMem_escape]
  induction found with
  | nil => simp [displayPairs]
  | cons pair more ih =>
      obtain ⟨here, named⟩ := List.forall_mem_cons.mp named
      cases more with
      | nil => simpa [displayPairs] using one here
      | cons next more =>
          rw [displayPairs_cons_cons]
          simp [one here, ih named]

end Exposition
