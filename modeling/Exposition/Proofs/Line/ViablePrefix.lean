import Exposition.Proofs.Line.HashLine
import Exposition.Proofs.Line.SampleSpelling

/-! # Where a line is rejected

A rejection names a place in its line. Up to that place the line is fine: it can be continued to a
line that is accepted, or whose only fault is a repeated label name. For each reader the characters
in front of the place are shown to be the front of something that the reader takes, by saying what
is missing. Names are compared only once a label set is closed, so a repeated name may stand
anywhere in front of the place.
-/

namespace Exposition

/-- Something is spelled this way. -/
def IsSpelling {α : Type} (spelled : α → List Char → Prop) (cs : List Char) : Prop :=
  ∃ a, spelled a cs

/-- The rest stands behind the front of something, which more characters make whole. -/
def BreaksOff (whole : List Char → Prop) (cs rest : List Char) : Prop :=
  ∃ front more, cs = front ++ rest ∧ '\n' ∉ more ∧ whole (front ++ more)

/-- A whole breaks off where a part of it does, if an end behind the part completes it. -/
theorem BreaksOff.within {part whole : List Char → Prop} {cs cs' rest : List Char}
    (h : BreaksOff part cs rest) (start stop : List Char) (split : cs' = start ++ cs)
    (noFeed : '\n' ∉ stop) (imp : ∀ cs, part cs → whole (start ++ (cs ++ stop))) :
    BreaksOff whole cs' rest := by
  obtain ⟨front, more, rfl, noFeedMore, isPart⟩ := h
  refine ⟨start ++ front, more ++ stop, by rw [split, List.append_assoc], ?_, ?_⟩
  · rw [List.mem_append]
    exact not_or.mpr ⟨noFeedMore, noFeed⟩
  · have isWhole := imp _ isPart
    simpa only [List.append_assoc] using isWhole

/-- A value in its quotes. -/
def SpelledQuoted (value : String) (cs : List Char) : Prop :=
  ∃ body, cs = '"' :: (body ++ ['"']) ∧ SpelledText value.toList body

theorem spelledQuoted_empty : SpelledQuoted "" ['"', '"'] := ⟨[], rfl, .nil⟩

theorem labelValue_breaksOff {cs : List Char} {r : Rejection} (h : labelValue cs = .error r) :
    BreaksOff (IsSpelling SpelledQuoted) cs r.rest := by
  unfold labelValue at h
  split at h
  · next body =>
      split at h
      · cases h
      · next text rest noQuote read =>
          cases h
          obtain ⟨body, rfl, spelled, -⟩ := spelledText_of_unescapeBody read
          refine ⟨'"' :: body, ['"'], rfl, by simp, String.ofList text, body, rfl, ?_⟩
          rwa [String.toList_ofList]
      · cases h
        exact ⟨['"'], ['"'], rfl, by simp, "", spelledQuoted_empty⟩
  · cases h
    exact ⟨[], ['"', '"'], rfl, by simp, "", spelledQuoted_empty⟩

theorem SpelledQuoted.pair {name value : String} {front before after quoted : List Char}
    (h : SpelledQuoted value quoted) (blankFront : AreBlanks front) (isName : IsLabelName name)
    (blankBefore : AreBlanks before) (blankAfter : AreBlanks after) :
    SpelledPair (name, value) (front ++ (name.toList ++ (before ++ '=' :: (after ++ quoted)))) := by
  obtain ⟨body, rfl, spelled⟩ := h
  exact .intro blankFront isName blankBefore blankAfter spelled (by decide : AreBlanks [])

theorem pair?_breaksOff {cs : List Char} {r : Rejection} (h : pair? cs = .error r) :
    BreaksOff (IsSpelling SpelledPair) cs r.rest := by
  unfold pair? at h
  split at h
  · cases h
  · next name afterName found =>
      obtain ⟨isName, first, -⟩ := name?_eq_some_iff.mp found
      obtain ⟨front, blankFront, rfl, -⟩ := skipBlanks_eq_iff.mp first
      have isName := isLabelName_iff.mpr isName
      rw [bind_eq_error_iff] at h
      cases h with
      | inl noSign =>
          obtain ⟨-, rfl⟩ := expect_eq_error_iff.mp noSign
          have noBlank : AreBlanks [] := by decide
          have pair := spelledQuoted_empty.pair blankFront isName noBlank noBlank
          exact ⟨front ++ name.toList, ['=', '"', '"'], by simp, by simp, _, by simpa using pair⟩
      | inr h =>
          obtain ⟨⟨⟨⟩, afterSign⟩, sign, h⟩ := h
          obtain ⟨before, after, blankBefore, blankAfter, rfl, -⟩ :=
            equals?_eq_some_iff.mp (expect_eq_ok_iff.mp sign)
          rw [bind_eq_error_iff] at h
          cases h with
          | inl noValue =>
              refine (labelValue_breaksOff noValue).within
                (front ++ (name.toList ++ (before ++ '=' :: after))) [] (by simp) (by simp) ?_
              intro cs isSpelling
              obtain ⟨value, quoted⟩ := isSpelling
              have pair := quoted.pair blankFront isName blankBefore blankAfter
              exact ⟨(name, value), by simpa using pair⟩
          | inr more =>
              obtain ⟨_, _, wrong⟩ := more
              cases wrong

theorem pairs_breaksOff {cs : List Char} {r : Rejection} (h : pairs cs = .error r) :
    BreaksOff (IsSpelling SpelledPairs) cs r.rest := by
  fun_induction pairs cs with
  | case1 cs r' wrong =>
      cases h
      refine (pair?_breaksOff wrong).within [] [] rfl (by simp) ?_
      intro cs isSpelling
      obtain ⟨pair, isPair⟩ := isSpelling
      exact ⟨[pair], by simpa using SpelledPairs.last isPair⟩
  | case2 cs none => cases h
  | case3 cs pair rest first r' wrong ih =>
      cases h
      obtain ⟨spelled, rfl, isPair, -⟩ := pair?_eq_some_iff_spelled.mp first
      refine (ih wrong).within (spelled ++ [',']) [] (by simp) (by simp) ?_
      intro cs isSpelling
      obtain ⟨more, isMore⟩ := isSpelling
      exact ⟨pair :: more, by simpa using SpelledPairs.cons isPair isMore⟩
  | case4 cs pair rest first _ _ _ => cases h
  | case5 cs pair rest first more rest' some later ih => cases h
  | case6 cs pair rest _ last => cases h

theorem labelsAfterBrace_breaksOff {start body : List Char} {r : Rejection}
    (h : labelsAfterBrace start body = .error r) :
    r.rest = start ∨ BreaksOff (IsSpelling SpelledList) body r.rest := by
  unfold labelsAfterBrace at h
  rw [bind_eq_error_iff] at h
  cases h with
  | inl noPairs =>
      refine .inr ((pairs_breaksOff noPairs).within [] ['\x7d'] rfl (by simp) ?_)
      intro cs isSpelling
      obtain ⟨found, isPairs⟩ := isSpelling
      exact ⟨found, .list isPairs⟩
  | inr h =>
      obtain ⟨⟨found, afterPairs⟩, isPairs, h⟩ := h
      simp only at h
      split at h
      · split at h
        · cases h
        · cases h
          exact .inl rfl
      · cases h
        obtain ⟨front, split, isList⟩ := spelledList_of_pairs isPairs
        exact .inr ⟨front, ['\x7d'], split, by simp, found, isList⟩

/-- The braces of a label set and the blanks in front of them; names may be repeated. -/
def SpelledBraces (found : List (String × String)) (cs : List Char) : Prop :=
  ∃ blanks spelled, cs = blanks ++ '\x7b' :: spelled ∧ AreBlanks blanks ∧ SpelledList found spelled

theorem labels_breaksOff {cs : List Char} {r : Rejection} (h : labels cs = .error r) :
    BreaksOff (IsSpelling SpelledBraces) cs r.rest := by
  unfold labels at h
  split at h
  · next body brace =>
      obtain ⟨blanks, areBlanks, rfl, -⟩ := skipBlanks_eq_iff.mp brace
      cases labelsAfterBrace_breaksOff h with
      | inl repeated =>
          have empty : SpelledList [] ['\x7d'] := .empty (by decide : AreBlanks [])
          rw [repeated]
          exact ⟨blanks, ['\x7b', '\x7d'], rfl, by simp, [], blanks, _, rfl, areBlanks, empty⟩
      | inr inside =>
          refine inside.within (blanks ++ ['\x7b']) [] (by simp) (by simp) ?_
          intro cs isSpelling
          obtain ⟨found, isList⟩ := isSpelling
          exact ⟨found, blanks, cs, by simp, areBlanks, isList⟩
  · cases h

/-- Nothing is found wrong, unless that a label name is repeated. -/
def UpToRepeats {α : Type} (result : Except Rejection α) : Prop :=
  ∀ r, result = .error r → r.expected = .uniqueLabelNames

theorem UpToRepeats.of_ok {α : Type} {result : Except Rejection α} {a : α} (h : result = .ok a) :
    UpToRepeats result := by
  intro r wrong
  cases h.symm.trans wrong

theorem SpelledBraces.ends {found : List (String × String)} {braces : List Char}
    (h : SpelledBraces found braces) (rest : List Char) : Ends isMetricChar (braces ++ rest) := by
  obtain ⟨blanks, spelled, rfl, areBlanks, -⟩ := h
  rw [List.append_assoc]
  exact areBlanks.ends (fun _ => isMetricChar_of_isBlank) (.cons (by decide) _)

/-- A set that repeats a name is rejected at its brace. -/
theorem SpelledBraces.repeated {found : List (String × String)} {braces : List Char}
    (h : SpelledBraces found braces) (repeated : Labels.ofDistinct? found = none)
    (rest : List Char) : ∃ start, labels (braces ++ rest) = .error ⟨.uniqueLabelNames, start⟩ := by
  obtain ⟨blanks, spelled, rfl, areBlanks, isList⟩ := h
  obtain ⟨afterPairs, isPairs, close⟩ := isList.read rest
  have brace : skipBlanks (blanks ++ '\x7b' :: spelled ++ rest) = '\x7b' :: (spelled ++ rest) := by
    rw [List.append_assoc]
    exact areBlanks.skip (.cons (by decide) _)
  refine ⟨'\x7b' :: (spelled ++ rest), ?_⟩
  simp only [labels, brace, labelsAfterBrace, isPairs, bind, Except.bind, close, repeated]

section Accepted

variable {name : String} (isName : IsMetricName name)

include isName

theorem upToRepeats_sample {set : Labels} {value : Binary64} {timestamp : Option Int64}
    {labels gap token back : List Char} (isLabels : SpelledLabels set labels) (isGap : IsGap gap)
    (isValue : value? token = some (value, [])) (isBack : SpelledBack timestamp back) :
    UpToRepeats (sampleLine (name.toList ++ (labels ++ (gap ++ (token ++ back))))) := by
  have noBlank : AreBlanks [] := by decide
  have front := SpelledFront.intro noBlank isName isLabels isGap
  have spelled := SpelledSample.intro (s := ⟨⟨name, set⟩, value, timestamp⟩) front isValue isBack
  have read := read_eq_sample_iff.mp (read_eq_sample_iff_spelled.mpr spelled)
  simp only [List.nil_append, List.append_assoc] at read
  rw [skipBlanks_of_ends (isName.ends_append _)] at read
  exact .of_ok read

/-- Where a value is missing, any value will do. -/
theorem upToRepeats_one {set : Labels} {labels gap : List Char}
    (isLabels : SpelledLabels set labels) (isGap : IsGap gap) :
    UpToRepeats (sampleLine (name.toList ++ (labels ++ (gap ++ ['1'])))) := by
  have one : value? ['1'] = some (⟨0x3ff0000000000000⟩, []) := by decide
  have noTime : SpelledBack none [] := .none (by decide : AreBlanks [])
  exact upToRepeats_sample isName isLabels isGap one noTime

theorem upToRepeats_braces {found : List (String × String)} {braces : List Char}
    (isBraces : SpelledBraces found braces) :
    UpToRepeats (sampleLine (name.toList ++ (braces ++ [' ', '1']))) := by
  cases made : Labels.ofDistinct? found with
  | some set =>
      obtain ⟨blanks, spelled, rfl, areBlanks, isList⟩ := isBraces
      have isGap : IsGap [' '] := ⟨by decide, by decide⟩
      exact upToRepeats_one isName (.some areBlanks isList made) isGap
  | none =>
      obtain ⟨start, repeated⟩ := isBraces.repeated made [' ', '1']
      have found := metricName?_append isName (isBraces.ends [' ', '1'])
      have rejected : sampleLine (name.toList ++ (braces ++ [' ', '1'])) =
          .error ⟨.uniqueLabelNames, start⟩ := by
        simp only [sampleLine, expect, found, repeated, bind, Except.bind]
      intro r h
      cases rejected.symm.trans h
      rfl

end Accepted

theorem timestampAfterBlanks_eq_error {cs : List Char} {r : Rejection}
    (h : timestampAfterBlanks cs = .error r) : ∃ gap, IsGap gap ∧ cs = gap ++ r.rest := by
  unfold timestampAfterBlanks at h
  split at h
  · cases h
  · next start blank =>
      obtain ⟨gap, isGap, rfl, -⟩ := blanks?_eq_some_iff.mp blank
      rw [bind_eq_error_iff] at h
      cases h with
      | inl outOfRange =>
          refine ⟨gap, isGap, ?_⟩
          unfold timestamp? at outOfRange
          split at outOfRange
          · cases outOfRange
          · split at outOfRange
            · cases outOfRange
            · cases outOfRange
              rfl
      | inr found =>
          obtain ⟨time, -, wrong⟩ := found
          split at wrong <;> cases wrong

/-- The readers of the parts of a sample in turn: the first that fails leaves the parts before it,
    and any parts it would take complete the line. -/
theorem sampleLine_breaksOff {cs : List Char} {r : Rejection} (h : sampleLine cs = .error r) :
    BreaksOff (fun cs => UpToRepeats (sampleLine cs)) cs r.rest := by
  simp only [sampleLine, bind_eq_error_iff, expect_eq_error_iff, expect_eq_ok_iff, Prod.exists] at h
  have oneBlank : IsGap [' '] := ⟨by decide, by decide⟩
  rcases h with ⟨-, rfl⟩ | ⟨name, afterName, found, h⟩
  · have isName : IsMetricName "a" := by decide
    exact ⟨[], ['a', ' ', '1'], rfl, by simp, upToRepeats_one isName .none oneBlank⟩
  obtain ⟨isName, rfl, -⟩ := name?_eq_some_iff.mp found
  have isName := isMetricName_iff.mpr isName
  rcases h with noLabels | ⟨set, afterLabels, isSet, h⟩
  · refine (labels_breaksOff noLabels).within name.toList [' ', '1'] rfl (by simp) ?_
    intro cs isSpelling
    obtain ⟨found, isBraces⟩ := isSpelling
    exact upToRepeats_braces isName isBraces
  obtain ⟨spelled, rfl, isLabels⟩ := spelledLabels_of_labels isSet
  rcases h with ⟨-, rfl⟩ | ⟨⟨⟩, start, blank, h⟩
  · have one := upToRepeats_one isName isLabels oneBlank
    exact ⟨name.toList ++ spelled, [' ', '1'], by simp, by simp, by simpa using one⟩
  obtain ⟨gap, isGap, rfl, -⟩ := blanks?_eq_some_iff.mp blank
  rcases h with ⟨-, rfl⟩ | ⟨value, afterValue, found, h⟩
  · have one := upToRepeats_one isName isLabels isGap
    exact ⟨name.toList ++ (spelled ++ gap), ['1'], by simp, by simp, by simpa using one⟩
  obtain ⟨token, rfl, isValue⟩ := isLocal_value?.exists_token found
  -- what is behind the value may be left out, so here nothing is missing
  have whole {time : Option Int64} {back rest : List Char} (isBack : SpelledBack time back) :
      BreaksOff (fun cs => UpToRepeats (sampleLine cs))
        (name.toList ++ (spelled ++ (gap ++ (token ++ (back ++ rest))))) rest := by
    have accepted := upToRepeats_sample isName isLabels isGap isValue isBack
    exact ⟨name.toList ++ (spelled ++ (gap ++ (token ++ back))), [], by simp, by simp,
      by simpa using accepted⟩
  rcases h with outOfRange | ⟨time, rest, isTime, stop | ⟨-, -, wrong⟩⟩
  · obtain ⟨gap', isGap', rfl⟩ := timestampAfterBlanks_eq_error outOfRange
    exact whole (.none isGap'.blanks)
  · obtain ⟨back, rfl, isBack⟩ := spelledBack_of_read isTime
    obtain ⟨-, rfl⟩ := expectEnd_eq_error_iff.mp stop
    exact whole isBack
  · cases wrong

theorem helpLine_breaksOff {cs : List Char} {r : Rejection} (h : helpLine cs = .error r) :
    BreaksOff (fun cs => ∃ name text, SpelledHelpLine name text cs) cs r.rest := by
  simp only [helpLine, bind_eq_error_iff, expect_eq_error_iff, expect_eq_ok_iff, Prod.exists] at h
  rcases h with ⟨-, rfl⟩ | ⟨name, rest, found, h⟩
  · exact ⟨[], ['a'], rfl, by simp, "a", "", .alone (by decide)⟩
  obtain ⟨isName, rfl, -⟩ := name?_eq_some_iff.mp found
  have alone := SpelledHelpLine.alone (isMetricName_iff.mpr isName)
  split at h
  · cases h
  · rcases bind_eq_error_iff.mp h with stop | ⟨-, -, wrong⟩
    · obtain ⟨-, rfl⟩ := expectEnd_eq_error_iff.mp stop
      exact ⟨name.toList, [], rfl, by simp, name, "", by simpa using alone⟩
    · cases wrong

theorem typeLine_breaksOff {cs : List Char} {r : Rejection} (h : typeLine cs = .error r) :
    BreaksOff (fun cs => ∃ name type, SpelledTypeLine name type cs) cs r.rest := by
  simp only [typeLine, bind_eq_error_iff, expect_eq_error_iff, expect_eq_ok_iff, Prod.exists] at h
  have noBlank : AreBlanks [] := by decide
  have oneBlank : IsGap [' '] := ⟨by decide, by decide⟩
  have noFeed : '\n' ∉ MetricType.gauge.keyword.toList := by simp [MetricType.keyword]
  rcases h with ⟨-, rfl⟩ | ⟨name, afterName, found, h⟩
  · have isName : IsMetricName "a" := by decide
    have spelled := SpelledTypeLine.intro .gauge isName oneBlank noBlank
    exact ⟨[], _, rfl, by decide, "a", .gauge, spelled⟩
  obtain ⟨isName, rfl, -⟩ := name?_eq_some_iff.mp found
  have isName := isMetricName_iff.mpr isName
  rcases h with ⟨-, rfl⟩ | ⟨⟨⟩, start, blank, h⟩
  · have spelled := SpelledTypeLine.intro .gauge isName oneBlank noBlank
    exact ⟨name.toList, _, rfl, by simp [noFeed], name, .gauge, spelled⟩
  obtain ⟨gap, isGap, rfl, -⟩ := blanks?_eq_some_iff.mp blank
  have noKeyword : BreaksOff (fun cs => ∃ name type, SpelledTypeLine name type cs)
      (name.toList ++ (gap ++ start)) start := by
    have spelled := SpelledTypeLine.intro .gauge isName isGap noBlank
    rw [List.append_nil, ← List.append_assoc] at spelled
    exact ⟨name.toList ++ gap, _, by simp, noFeed, name, .gauge, spelled⟩
  rcases h with ⟨-, rfl⟩ | ⟨word, rest, isWord, h⟩
  · exact noKeyword
  split at h
  · cases h
    exact noKeyword
  · next type known =>
      obtain ⟨-, -, rfl, -⟩ := word?_eq_some_iff.mp isWord
      obtain ⟨blanks, areBlanks, split, -⟩ := skipBlanks_eq_iff.mp (rfl : skipBlanks rest = _)
      rcases bind_eq_error_iff.mp h with stop | ⟨-, -, wrong⟩
      · obtain ⟨-, rfl⟩ := expectEnd_eq_error_iff.mp stop
        have spelled := SpelledTypeLine.intro type isName isGap areBlanks
        rw [MetricType.keyword_of_ofKeyword? known] at spelled
        refine ⟨name.toList ++ (gap ++ (word.toList ++ blanks)), [], ?_, by simp, name, type, ?_⟩
        · conv_lhs => rw [split]
          simp
        · simpa using spelled
      · cases wrong

theorem SpelledHelpLine.ends {name text : String} {cs : List Char}
    (h : SpelledHelpLine name text cs) : Ends isBlank cs := by
  cases h with
  | alone isName => simpa using isName.ends_append []
  | text isName => exact isName.ends_append _

theorem SpelledTypeLine.ends {name : String} {type : MetricType} {cs : List Char}
    (h : SpelledTypeLine name type cs) : Ends isBlank cs := by
  cases h with
  | intro _ isName => exact isName.ends_append _

theorem hashLine_breaksOff {cs : List Char} {r : Rejection} (h : hashLine cs = .error r) :
    BreaksOff (fun cs => Ends isBlank cs ∧ ∃ line, hashLine cs = .ok line) cs r.rest := by
  unfold hashLine at h
  split at h
  · next rest word =>
      obtain ⟨gap, isGap, rfl, -⟩ := keyword?_eq_some_iff.mp word
      refine (helpLine_breaksOff h).within (['H', 'E', 'L', 'P'] ++ gap) [] (by simp) (by simp) ?_
      intro cs isSpelling
      obtain ⟨name, text, spelled⟩ := isSpelling
      refine ⟨.cons (by decide) _, .help name text, ?_⟩
      rw [hashLine_of_opens_help ⟨gap, isGap, by simp, spelled.ends⟩]
      exact helpLine_eq_ok_iff_spelled.mpr ⟨name, text, spelled, rfl⟩
  · split at h
    · next rest word =>
        obtain ⟨gap, isGap, rfl, -⟩ := keyword?_eq_some_iff.mp word
        refine (typeLine_breaksOff h).within (['T', 'Y', 'P', 'E'] ++ gap) [] (by simp) (by simp) ?_
        intro cs isSpelling
        obtain ⟨name, type, spelled⟩ := isSpelling
        refine ⟨.cons (by decide) _, .type name type, ?_⟩
        rw [hashLine_of_opens_type ⟨gap, isGap, by simp, spelled.ends⟩]
        exact typeLine_eq_ok_iff_spelled.mpr ⟨name, type, spelled, rfl⟩
    · cases h

/-- A sample may be indented: whatever its reader takes starts with a name, not with a hash. -/
theorem UpToRepeats.indent {cs blanks : List Char} (h : UpToRepeats (sampleLine cs))
    (areBlanks : AreBlanks blanks) : UpToRepeats (Line.read (blanks ++ cs)) := by
  cases found : metricName? cs with
  | none =>
      have rejected : sampleLine cs = .error ⟨.validLine, cs⟩ := by
        simp only [sampleLine, expect, found, bind, Except.bind]
      cases h _ rejected
  | some result =>
      obtain ⟨name, rest⟩ := result
      obtain ⟨isName, rfl, -⟩ := name?_eq_some_iff.mp found
      intro r wrong
      rw [(isMetricName_iff.mpr isName).read_indented areBlanks, map_eq_error_iff] at wrong
      exact h r wrong

theorem read_breaksOff {line : List Char} {r : Rejection} (h : Line.read line = .error r) :
    BreaksOff (fun cs => UpToRepeats (Line.read cs)) line r.rest := by
  unfold Line.read at h
  split at h
  · cases h
  · next rest hash =>
      obtain ⟨before, blankBefore, rfl, -⟩ := skipBlanks_eq_iff.mp hash
      obtain ⟨after, blankAfter, split, -⟩ := skipBlanks_eq_iff.mp (rfl : skipBlanks rest = _)
      refine (hashLine_breaksOff h).within (before ++ '#' :: after) [] ?_ (by simp) ?_
      · conv_lhs => rw [split]
        simp
      · intro cs isSpelling
        obtain ⟨ends, line, read⟩ := isSpelling
        have follows : FollowsHash (before ++ '#' :: after ++ (cs ++ [])) cs :=
          ⟨before, after, blankBefore, blankAfter, by simp, ends⟩
        exact .of_ok (follows.read.trans read)
  · obtain ⟨blanks, areBlanks, split, -⟩ := skipBlanks_eq_iff.mp (rfl : skipBlanks line = _)
    refine (sampleLine_breaksOff (map_eq_error_iff.mp h)).within blanks [] split (by simp) ?_
    intro cs accepted
    rw [List.append_nil]
    exact accepted.indent areBlanks

/-- A line is rejected at a place that is no further than its end, and the characters in front of
    that place can be continued to a line that is accepted or only repeats a label name. -/
theorem rejection_viable {line : List Char} {r : Rejection} (h : Line.read line = .error r) :
    1 ≤ r.column line ∧ r.column line ≤ line.length + 1 ∧
      line.drop (r.column line - 1) = r.rest ∧
      ∃ more, '\n' ∉ more ∧ UpToRepeats (Line.read (line.take (r.column line - 1) ++ more)) := by
  obtain ⟨front, more, split, noFeed, accepted⟩ := read_breaksOff h
  have column : r.column line = front.length + 1 := by
    rw [split, Rejection.column, List.length_append]
    omega
  have length : line.length = front.length + r.rest.length := by rw [split, List.length_append]
  rw [column, Nat.add_sub_cancel]
  refine ⟨by omega, by omega, ?_, more, noFeed, ?_⟩
  · rw [split, List.drop_left]
  · rw [split, List.take_left]
    exact accepted

/-- A value that ends in half an escape is not begun, so the place is right behind its quote. A line
    that goes on from there repeats a label name. -/
theorem rejection_viable_halfEscape :
    Line.read "x\x7ba=\"\u00e9\",a=\"\\".toList = .error ⟨.closingQuote, ['\\']⟩ ∧
      Rejection.column ⟨.closingQuote, ['\\']⟩ "x\x7ba=\"\u00e9\",a=\"\\".toList = 12 ∧
      ∃ more, '\n' ∉ more ∧
        UpToRepeats (Line.read ("x\x7ba=\"\u00e9\",a=\"\\".toList.take 11 ++ more)) := by
  have read : Line.read "x\x7ba=\"\u00e9\",a=\"\\".toList = .error ⟨.closingQuote, ['\\']⟩ := by
    decide +kernel
  obtain ⟨-, -, -, viable⟩ := rejection_viable read
  exact ⟨read, rfl, viable⟩

end Exposition
