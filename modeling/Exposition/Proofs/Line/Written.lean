import Exposition.Proofs.Document
import Exposition.Proofs.Line.SampleSpelling

/-! # Written lines read back

A line is written with its parts in their fixed order, names and values escaped where they have to
be. Only the token of a value and the blanks of a sample line are left open. However they are
chosen, a well-formed line reads back as itself.
-/

namespace Exposition

/-- How the end of a sample line may be written: nothing, or a blank and the time in decimal. -/
inductive TimeWrittenAs : Option Int64 → List Char → Prop where
  | none : TimeWrittenAs none []
  | some (time : Int64) {blank} :
      isBlank blank = true → TimeWrittenAs (some time) (blank :: (toString time.toInt).toList)

/-- How a line may be written. A value has many tokens; any that reads completely as the value may
    stand for it. -/
inductive Line.WrittenAs : Line → List Char → Prop where
  | type (name type) :
      WrittenAs (.type name type) ("# TYPE " ++ name ++ " " ++ type.keyword).toList
  | help (name text) :
      WrittenAs (.help name text) (("# HELP " ++ name ++ " ").toList ++ escapeHelp text.toList)
  | sample (s) {blank token time} :
      isBlank blank = true → value? token = some (s.value, []) → TimeWrittenAs s.timestamp time →
      WrittenAs (.sample s) (s.identity.display.toList ++ blank :: (token ++ time))

theorem isLineText_of_inside {line : List Char} (inside : ∀ c ∈ line, isValueChar c = true) :
    IsLineText line := by
  constructor
  · intro feed
    exact absurd (inside _ feed) (by decide)
  · intro last
    exact absurd (inside _ (List.mem_of_getLast? last)) (by decide)

theorem feed_ne_of_isBlank {c : Char} (h : isBlank c = true) : '\n' ≠ c := by
  rintro rfl
  exact absurd h (by decide)

theorem keyword?_append {word : List Char} {blank : Char} {rest : List Char}
    (isBlank : isBlank blank = true) (ends : Ends Exposition.isBlank rest) :
    keyword? word (word ++ blank :: rest) = some rest := by
  simp [keyword?, blanks?_cons isBlank ends]

theorem read_hash {cs : List Char} (ends : Ends isBlank cs) :
    Line.read ('#' :: ' ' :: cs) = hashLine cs := by
  have mark : skipBlanks ('#' :: ' ' :: cs) = '#' :: ' ' :: cs :=
    skipBlanks_of_ends (.cons (by decide) _)
  rw [Line.read, mark]
  simp only [skipBlanks_cons (c := ' ') (by decide) ends]

theorem hashLine_help {rest : List Char} (ends : Ends isBlank rest) :
    hashLine ('H' :: 'E' :: 'L' :: 'P' :: ' ' :: rest) = helpLine rest := by
  have word : keyword? ['H', 'E', 'L', 'P'] ('H' :: 'E' :: 'L' :: 'P' :: ' ' :: rest) = some rest :=
    keyword?_append (by decide) ends
  rw [hashLine, word]

theorem hashLine_type {rest : List Char} (ends : Ends isBlank rest) :
    hashLine ('T' :: 'Y' :: 'P' :: 'E' :: ' ' :: rest) = typeLine rest := by
  have other : keyword? ['H', 'E', 'L', 'P'] ('T' :: 'Y' :: 'P' :: 'E' :: ' ' :: rest) = none := by
    simp [keyword?]
  have word : keyword? ['T', 'Y', 'P', 'E'] ('T' :: 'Y' :: 'P' :: 'E' :: ' ' :: rest) = some rest :=
    keyword?_append (by decide) ends
  rw [hashLine, other, word]

theorem typeLine_written {name : String} (h : IsMetricName name) (type : MetricType) :
    typeLine (name.toList ++ ' ' :: type.keyword.toList) = .ok (.type name type) := by
  have keyword : Ends isBlank type.keyword.toList := by cases type <;> exact .cons (by decide) _
  exact typeLine_eq_ok_iff.mpr ⟨name, _, _, _, [], type, metricName?_append h (.cons (by decide) _),
    blanks?_cons (by decide) keyword, word?_keyword type, MetricType.ofKeyword?_keyword type, rfl,
    rfl⟩

theorem helpLine_written {name text : String} (h : IsMetricName name)
    (isHelp : IsHelpText text.toList) :
    helpLine (name.toList ++ ' ' :: escapeHelp text.toList) = .ok (.help name text) := by
  refine helpLine_eq_ok_iff.mpr ⟨name, _, metricName?_append h (.cons (by decide) _), .inl
    ⟨_, blanks?_cons (by decide) isHelp.ends_escapeHelp, ?_⟩⟩
  rw [isHelp.trimEnd_escapeHelp, unescapeHelp_escapeHelp, String.ofList_toList]

theorem exists_timeWrittenAs (timestamp : Option Int64) : ∃ time, TimeWrittenAs timestamp time := by
  cases timestamp with
  | none => exact ⟨[], .none⟩
  | some t =>
      have blank : isBlank ' ' = true := rfl
      exact ⟨_, .some t blank⟩

theorem TimeWrittenAs.spelledBack {timestamp : Option Int64} {time : List Char}
    (h : TimeWrittenAs timestamp time) : SpelledBack timestamp time := by
  have noBlank : AreBlanks [] := by decide
  cases h with
  | none => exact .none noBlank
  | @some t blank isBlank =>
      have gap : IsGap [blank] := ⟨by simpa [AreBlanks] using isBlank, by simp⟩
      have isTime := timestamp?_toString t
      simpa using SpelledBack.some gap isTime noBlank

theorem TimeWrittenAs.isLineText {timestamp : Option Int64} {time token : List Char}
    (h : TimeWrittenAs timestamp time) (inside : ∀ c ∈ token, isValueChar c = true) :
    IsLineText (token ++ time) := by
  have front := isLineText_of_inside inside
  cases h with
  | none => simpa using front
  | @some t blank isBlank =>
      have digits : IsLineText (toString t.toInt).toList :=
        isLineText_of_inside isValueChar_of_mem_toString
      have noFeed : '\n' ∉ token ++ [blank] := by
        simp [front.noFeed, feed_ne_of_isBlank isBlank]
      rw [← List.singleton_append, ← List.append_assoc]
      exact digits.append (toString_int_ne_nil _) noFeed

theorem display_append (s : Sample) (rest : List Char) :
    s.identity.display.toList ++ rest = s.name.toList ++ (s.labels.display.toList ++ rest) := by
  simp [Identity.display, Sample.name, Sample.labels]

/-- A written sample line is spelled with the name at its front and the labels right behind it. -/
theorem spelledSample_written {s : Sample} {blank : Char} {token time : List Char}
    (wellFormed : s.WellFormed) (isBlank : isBlank blank = true)
    (isToken : value? token = some (s.value, [])) (isTime : TimeWrittenAs s.timestamp time) :
    SpelledSample s (s.identity.display.toList ++ blank :: (token ++ time)) := by
  have noBlank : AreBlanks [] := by decide
  have gap : IsGap [blank] := ⟨by simpa [AreBlanks] using isBlank, by simp⟩
  have front := SpelledFront.intro noBlank wellFormed.name
    (spelledLabels_display wellFormed.labelNames) gap
  have whole := SpelledSample.intro front isToken isTime.spelledBack
  rw [display_append]
  simpa using whole

theorem feed_notMem_display {s : Sample} (wellFormed : s.WellFormed) :
    '\n' ∉ s.identity.display.toList := by
  have name := wellFormed.name.feed_notMem
  have labels := feed_notMem_displayPairs wellFormed.labelNames
  have braces := toList_display s.labels []
  rw [List.append_nil] at braces
  rw [← List.append_nil s.identity.display.toList, display_append, braces]
  simp [name, labels]

theorem Line.WrittenAs.read {line : Line} {written : List Char} (h : line.WrittenAs written)
    (wellFormed : line.WellFormed) : Line.read written = .ok line := by
  cases h with
  | type name type =>
      have split : ("# TYPE " ++ name ++ " " ++ type.keyword).toList = '#' :: ' ' ::
          'T' :: 'Y' :: 'P' :: 'E' :: ' ' :: (name.toList ++ ' ' :: type.keyword.toList) := by
        simp
      rw [split, read_hash (.cons (by decide) _), hashLine_type (wellFormed.ends_append _)]
      exact typeLine_written wellFormed type
  | help name text =>
      obtain ⟨isName, isHelp⟩ := wellFormed
      have split : ("# HELP " ++ name ++ " ").toList ++ escapeHelp text.toList = '#' :: ' ' ::
          'H' :: 'E' :: 'L' :: 'P' :: ' ' :: (name.toList ++ ' ' :: escapeHelp text.toList) := by
        simp
      rw [split, read_hash (.cons (by decide) _), hashLine_help (isName.ends_append _)]
      exact helpLine_written isName isHelp
  | sample s isBlank isToken isTime =>
      exact read_eq_sample_iff_spelled.mpr (spelledSample_written wellFormed isBlank isToken isTime)

theorem Line.WrittenAs.isLineText {line : Line} {written : List Char} (h : line.WrittenAs written)
    (wellFormed : line.WellFormed) : IsLineText written := by
  cases h with
  | type name type =>
      have noName := IsMetricName.feed_notMem wellFormed
      have word : type.keyword.toList ≠ [] ∧ ∀ c ∈ type.keyword.toList, isValueChar c = true := by
        cases type <;> simp [MetricType.keyword, isValueChar, isAlpha]
      rw [String.toList_append]
      exact (isLineText_of_inside word.2).append word.1 (by simp [noName])
  | help name text =>
      obtain ⟨isName, isHelp⟩ := wellFormed
      have noName := isName.feed_notMem
      have split : ("# HELP " ++ name ++ " ").toList ++ escapeHelp text.toList =
          ("# HELP " ++ name).toList ++ (' ' :: escapeHelp text.toList) := by simp
      rw [split]
      refine IsLineText.append ⟨?_, ?_⟩ (by simp) (by simp [noName])
      · simp [feed_notMem_escapeHelp]
      · intro last
        by_cases empty : escapeHelp text.toList = []
        · simp [empty] at last
        · rw [List.getLast?_cons_of_ne_nil empty] at last
          exact absurd (isHelp.isSpace_getLast?_escapeHelp _ last) (by decide)
  | sample s isBlank isToken isTime =>
      obtain ⟨nonempty, inside, -⟩ := isLocal_value?.token isToken
      rw [← List.singleton_append, ← List.append_assoc]
      refine (isTime.isLineText inside).append (by simp [nonempty]) ?_
      simp [feed_notMem_display wellFormed, feed_ne_of_isBlank isBlank]

end Exposition
