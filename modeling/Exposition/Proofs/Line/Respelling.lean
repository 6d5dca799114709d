import Exposition.Proofs.Line.SampleGrammar
import Exposition.Proofs.Reading

/-! # Spellings of one sample

How a series is spelled is no part of it. Labels may change places, blanks may come and go wherever
the grammar has room for them, and so may the comma behind the last label and the braces of an empty
set: what is left of a line without all that is its content, and lines of one content are read
alike. Names may not be repeated in any spelling, whatever stands between the repetitions.
-/

namespace Exposition

instance (i : QuotedItem) : Decidable i.IsValid :=
  match i with
  | .plain c => inferInstanceAs (Decidable (c ≠ '"' ∧ c ≠ '\\'))
  | .escape _ => .isTrue trivial

/-- A label as it is written, without the blanks in it. -/
abbrev WrittenLabel := String × List QuotedItem

namespace WrittenLabel

def IsValid (w : WrittenLabel) : Prop := IsLabelName w.1 ∧ ∀ i ∈ w.2, i.IsValid

def pair (w : WrittenLabel) : String × String :=
  (w.1, String.ofList (w.2.flatMap QuotedItem.decoded))

end WrittenLabel

namespace PairText

def content (t : PairText) : WrittenLabel := (t.name, t.value)

/-- Nothing but blanks stands where blanks may stand. -/
structure IsSpaced (t : PairText) : Prop where
  front : AreBlanks t.front
  before : AreBlanks t.before
  after : AreBlanks t.after
  back : AreBlanks t.back

theorem isValid_iff {t : PairText} : t.IsValid ↔ t.IsSpaced ∧ t.content.IsValid := by
  constructor
  · intro valid
    exact ⟨⟨valid.front, valid.before, valid.after, valid.back⟩, valid.name, valid.value⟩
  · rintro ⟨spaced, name, value⟩
    exact ⟨spaced.front, name, spaced.before, spaced.after, value, spaced.back⟩

end PairText

namespace ListText

def content : ListText → List WrittenLabel
  | empty _ => []
  | pairs first more _ => (first :: more).map PairText.content

def IsSpaced : ListText → Prop
  | empty blanks => AreBlanks blanks
  | pairs first more comma =>
      (∀ t ∈ first :: more, t.IsSpaced) ∧ ∀ blanks ∈ comma, AreBlanks blanks

theorem isValid_iff {t : ListText} : t.IsValid ↔ t.IsSpaced ∧ ∀ w ∈ t.content, w.IsValid := by
  cases t with
  | empty blanks => simp [IsValid, IsSpaced, content]
  | pairs first more comma =>
      simp only [IsValid, IsSpaced, content, PairText.isValid_iff, List.forall_mem_map,
        forall_and]
      exact and_right_comm

theorem labels_eq (t : ListText) : t.labels = t.content.map WrittenLabel.pair := by
  cases t with
  | empty blanks => rfl
  | pairs first more comma => simp only [labels, content, List.map_map]; rfl

end ListText

namespace LabelsText

/-- Without labels it makes no difference if there are braces. -/
def content : LabelsText → List WrittenLabel
  | none => []
  | braces _ list => list.content

def IsSpaced : LabelsText → Prop
  | none => True
  | braces front list => AreBlanks front ∧ list.IsSpaced

theorem labels_eq (t : LabelsText) : t.labels = t.content.map WrittenLabel.pair := by
  cases t with
  | none => rfl
  | braces front list => exact list.labels_eq

theorem isValid_iff {t : LabelsText} :
    t.IsValid ↔ t.IsSpaced ∧ (∀ w ∈ t.content, w.IsValid) ∧ (t.content.map (·.1)).Nodup := by
  cases t with
  | none => simp [IsValid, IsSpaced, content]
  | braces front list =>
      simp only [IsValid, IsSpaced, content, ListText.isValid_iff, ListText.labels_eq,
        List.map_map, and_assoc]
      rfl

end LabelsText

namespace BackText

def content : BackText → Option IntegerText
  | none _ => Option.none
  | time _ t _ => some t

def IsSpaced : BackText → Prop
  | none blanks => AreBlanks blanks
  | time gap _ blanks => IsGap gap ∧ AreBlanks blanks

theorem timestamp_eq (t : BackText) : t.timestamp = t.content.map IntegerText.value := by
  cases t <;> rfl

theorem isValid_iff {t : BackText} :
    t.IsValid ↔ t.IsSpaced ∧
      ∀ i ∈ t.content, i.IsValid ∧ -2 ^ 63 ≤ i.value ∧ i.value < 2 ^ 63 := by
  cases t with
  | none blanks => simp [IsValid, IsSpaced, content]
  | time gap t blanks =>
      simp only [IsValid, IsSpaced, content, Option.mem_some_iff, forall_eq']
      tauto

end BackText

namespace SampleText

/-- Nothing but blanks stands where blanks may stand, and there are some where they have to. -/
structure IsSpaced (t : SampleText) : Prop where
  front : AreBlanks t.front
  labels : t.labels.IsSpaced
  gap : IsGap t.gap
  back : t.back.IsSpaced

/-- The second line is spaced in any way, has a comma behind its last label or none, and braces
    without labels or none. All else that is written on it is written on the first line, and the
    labels in some order. -/
structure Respells (t u : SampleText) : Prop where
  spaced : u.IsSpaced
  name : u.name = t.name
  labels : u.labels.content.Perm t.labels.content
  value : u.value = t.value
  time : u.back.content = t.back.content

variable {t u : SampleText} {s : Sample}

/-- What a valid line needs besides its spaces is in its content. -/
theorem Respells.isValid (h : t.Respells u) (valid : t.IsValid) : u.IsValid := by
  obtain ⟨-, written, distinct⟩ := LabelsText.isValid_iff.mp valid.labels
  obtain ⟨-, fits⟩ := BackText.isValid_iff.mp valid.back
  refine ⟨h.spaced.front, h.name ▸ valid.name, LabelsText.isValid_iff.mpr ⟨h.spaced.labels, ?_, ?_⟩,
    h.spaced.gap, h.value ▸ valid.value, BackText.isValid_iff.mpr ⟨h.spaced.back, ?_⟩⟩
  · exact fun w hw => written w (h.labels.mem_iff.mp hw)
  · exact ((h.labels.map _).nodup_iff).mpr distinct
  · rwa [h.time]

theorem Respells.denotes (h : t.Respells u) (denotes : t.Denotes s) : u.Denotes s where
  name := denotes.name.trans h.name.symm
  labels := by
    intro pair
    rw [denotes.labels, LabelsText.labels_eq, LabelsText.labels_eq, (h.labels.map _).mem_iff]
  value := by rw [denotes.value, h.value]
  timestamp := by rw [denotes.timestamp, BackText.timestamp_eq, BackText.timestamp_eq, h.time]

end SampleText

/-- The line as it was, or a sample line in another spelling. -/
inductive Respelling : List Char → List Char → Prop where
  | same (line) : Respelling line line
  | sample {t u : SampleText} : t.IsValid → t.Respells u → Respelling t.chars u.chars

/-- A line that is spelled in another way is a sample, and the same one in both spellings. -/
theorem Respelling.eq_or_read {line line' : List Char} (h : Respelling line line') :
    line' = line ∨
      ∃ s, Line.read line = .ok (.sample s) ∧ Line.read line' = .ok (.sample s) := by
  cases h with
  | same => exact .inl rfl
  | @sample t u valid respells =>
      obtain ⟨s, denotes⟩ := SampleText.exists_denotes valid
      exact .inr ⟨s,
        SampleText.read_eq_sample_iff_denotes.mpr ⟨t, valid, rfl, denotes⟩,
        SampleText.read_eq_sample_iff_denotes.mpr
          ⟨u, respells.isValid valid, rfl, respells.denotes denotes⟩⟩

theorem Respelling.read {line line' : List Char} (h : Respelling line line') {s : Sample}
    (isRead : Line.read line = .ok (.sample s)) : Line.read line' = .ok (.sample s) := by
  rcases h.eq_or_read with rfl | ⟨s', before, after⟩
  · exact isRead
  · cases isRead.symm.trans before
    exact after

/-- A line that is rejected stands in both texts as it is, so the texts have the same error. -/
theorem readLines_respelled {ls ls' : List (List Char)} (h : List.Forall₂ Respelling ls ls')
    (number : Nat) : readLines number ls' = readLines number ls := by
  induction h generalizing number with
  | nil => rfl
  | cons here _ ih =>
      rw [readLines, readLines, ih]
      rcases here.eq_or_read with rfl | ⟨s, before, after⟩
      · rfl
      · rw [before, after]

theorem ofText_respelled {text text' : String}
    (h : LineByLine Respelling text.toList text'.toList) :
    Dump.ofText text' = Dump.ofText text := by
  rw [Dump.ofText, Dump.ofText, familiesOfText, familiesOfText, readLines_respelled h.lines]

theorem pair?_ne_repeated {cs rest : List Char} : pair? cs ≠ .error ⟨.uniqueLabelNames, rest⟩ := by
  intro h
  unfold pair? at h
  split at h
  · cases h
  · simp only [bind_eq_error_iff, expect_eq_error_iff] at h
    rcases h with ⟨-, wrong⟩ | ⟨_, -, wrong | ⟨_, -, wrong⟩⟩
    · cases wrong
    · unfold labelValue at wrong
      split at wrong
      · split at wrong <;> cases wrong
      · cases wrong
    · cases wrong

theorem pairs_ne_repeated {cs rest : List Char} : pairs cs ≠ .error ⟨.uniqueLabelNames, rest⟩ := by
  intro h
  fun_induction pairs cs with
  | case1 cs r wrong =>
      cases h
      exact pair?_ne_repeated wrong
  | case3 cs pair after first r wrong ih =>
      cases h
      exact ih wrong
  | case2 | case4 | case5 | case6 => cases h

theorem labelsAfterBrace_eq_repeated_iff {start body rest : List Char} :
    labelsAfterBrace start body = .error ⟨.uniqueLabelNames, rest⟩ ↔
      rest = start ∧ ∃ (list : ListText) (after : List Char), body = list.chars ++ after ∧
        list.IsValid ∧ ¬ (list.labels.map (·.1)).Nodup := by
  constructor
  · intro h
    rw [labelsAfterBrace, bind_eq_error_iff] at h
    rcases h with wrong | ⟨⟨found, afterPairs⟩, isPairs, h⟩
    · exact absurd wrong pairs_ne_repeated
    · simp only at h
      split at h
      · next after close =>
          cases made : Labels.ofDistinct? found with
          | some set =>
              rw [made] at h
              cases h
          | none =>
              rw [made] at h
              cases h
              obtain ⟨front, split, isList⟩ := spelledList_of_pairs isPairs
              obtain ⟨list, valid, chars, rfl⟩ := ListText.exists_of_spelledList isList
              refine ⟨rfl, list, after, ?_, valid, Labels.ofDistinct?_eq_none_iff.mp made⟩
              rw [chars, split, close, List.append_assoc, List.singleton_append]
      · cases h
  · rintro ⟨rfl, list, after, rfl, valid, repeated⟩
    obtain ⟨afterPairs, isPairs, close⟩ := (ListText.spelledList valid).read after
    simp only [labelsAfterBrace, isPairs, bind, Except.bind, close,
      Labels.ofDistinct?_eq_none_iff.mpr repeated]

/-- The rest of a line starts with a label set that is well formed but for a repeated name. -/
def RepeatsName (rest : List Char) : Prop :=
  ∃ (list : ListText) (after : List Char), rest = '\x7b' :: (list.chars ++ after) ∧
    list.IsValid ∧ ¬ (list.labels.map (·.1)).Nodup

theorem labels_eq_repeated_iff {cs rest : List Char} :
    labels cs = .error ⟨.uniqueLabelNames, rest⟩ ↔
      ∃ blanks, AreBlanks blanks ∧ cs = blanks ++ rest ∧ RepeatsName rest := by
  constructor
  · intro h
    unfold labels at h
    split at h
    · next body brace =>
        obtain ⟨rfl, list, after, rfl, valid, repeated⟩ := labelsAfterBrace_eq_repeated_iff.mp h
        obtain ⟨blanks, areBlanks, rfl, -⟩ := skipBlanks_eq_iff.mp brace
        exact ⟨blanks, areBlanks, rfl, list, after, rfl, valid, repeated⟩
    · cases h
  · rintro ⟨blanks, areBlanks, rfl, list, after, rfl, valid, repeated⟩
    rw [labels, areBlanks.skip (.cons (by decide) _)]
    exact labelsAfterBrace_eq_repeated_iff.mpr ⟨rfl, _, after, rfl, valid, repeated⟩

theorem timestamp?_ne_repeated {cs rest : List Char} :
    timestamp? cs ≠ .error ⟨.uniqueLabelNames, rest⟩ := by
  intro h
  unfold timestamp? at h
  split at h
  · cases h
  · split at h <;> cases h

theorem timestampAfterBlanks_ne_repeated {cs rest : List Char} :
    timestampAfterBlanks cs ≠ .error ⟨.uniqueLabelNames, rest⟩ := by
  intro h
  unfold timestampAfterBlanks at h
  split at h
  · cases h
  · rcases bind_eq_error_iff.mp h with wrong | ⟨time, -, wrong⟩
    · exact timestamp?_ne_repeated wrong
    · split at wrong <;> cases wrong

/-- The name is read before the labels, and nothing behind them is looked at. -/
theorem sampleLine_eq_repeated_iff {cs rest : List Char} :
    sampleLine cs = .error ⟨.uniqueLabelNames, rest⟩ ↔
      ∃ name blanks, IsMetricName name ∧ AreBlanks blanks ∧
        cs = name.toList ++ (blanks ++ rest) ∧ RepeatsName rest := by
  constructor
  · intro h
    simp only [sampleLine, bind_eq_error_iff, expect_eq_error_iff, expect_eq_ok_iff,
      Prod.exists] at h
    rcases h with ⟨-, wrong⟩ | ⟨name, afterName, isName, h⟩
    · cases wrong
    rcases h with h | ⟨set, afterLabels, -, h⟩
    · obtain ⟨named, rfl, -⟩ := name?_eq_some_iff.mp isName
      obtain ⟨blanks, areBlanks, rfl, repeated⟩ := labels_eq_repeated_iff.mp h
      exact ⟨name, blanks, isMetricName_iff.mpr named, areBlanks, rfl, repeated⟩
    rcases h with ⟨-, wrong⟩ | ⟨_, start, -, h⟩
    · cases wrong
    rcases h with ⟨-, wrong⟩ | ⟨value, afterValue, -, h⟩
    · cases wrong
    rcases h with wrong | ⟨time, afterTime, -, wrong | ⟨_, -, wrong⟩⟩
    · exact absurd wrong timestampAfterBlanks_ne_repeated
    · cases (expectEnd_eq_error_iff.mp wrong).2
    · cases wrong
  · rintro ⟨name, blanks, isName, areBlanks, rfl, repeated⟩
    have rejected := labels_eq_repeated_iff.mpr ⟨blanks, areBlanks, rfl, repeated⟩
    have ends : Ends isMetricChar (blanks ++ rest) := by
      obtain ⟨list, after, rfl, -⟩ := repeated
      exact areBlanks.ends (fun _ => isMetricChar_of_isBlank) (.cons (by decide) _)
    simp only [sampleLine, expect, metricName?_append isName ends, rejected, bind, Except.bind]

theorem hashLine_ne_repeated {cs rest : List Char} :
    hashLine cs ≠ .error ⟨.uniqueLabelNames, rest⟩ := by
  intro h
  unfold hashLine at h
  split at h
  · simp only [helpLine, bind_eq_error_iff, expect_eq_error_iff, Prod.exists] at h
    rcases h with ⟨-, wrong⟩ | ⟨name, afterName, -, h⟩
    · cases wrong
    split at h
    · cases h
    · rcases bind_eq_error_iff.mp h with wrong | ⟨_, -, wrong⟩
      · cases (expectEnd_eq_error_iff.mp wrong).2
      · cases wrong
  · split at h
    · simp only [typeLine, bind_eq_error_iff, expect_eq_error_iff, Prod.exists] at h
      rcases h with ⟨-, wrong⟩ | ⟨name, afterName, -, ⟨-, wrong⟩ | ⟨_, start, -, h⟩⟩
      · cases wrong
      · cases wrong
      rcases h with ⟨-, wrong⟩ | ⟨word, after, -, h⟩
      · cases wrong
      split at h
      · cases h
      · rcases bind_eq_error_iff.mp h with wrong | ⟨_, -, wrong⟩
        · cases (expectEnd_eq_error_iff.mp wrong).2
        · cases wrong
    · cases h

theorem read_eq_repeated_iff {line rest : List Char} :
    Line.read line = .error ⟨.uniqueLabelNames, rest⟩ ↔
      ∃ front name blanks, AreBlanks front ∧ IsMetricName name ∧ AreBlanks blanks ∧
        line = front ++ (name.toList ++ (blanks ++ rest)) ∧ RepeatsName rest := by
  obtain ⟨front, areFront, split, -⟩ := skipBlanks_eq_iff.mp (rfl : skipBlanks line = _)
  constructor
  · intro h
    unfold Line.read at h
    split at h
    · cases h
    · exact absurd h hashLine_ne_repeated
    · obtain ⟨name, blanks, isName, areBlanks, start, repeated⟩ :=
        sampleLine_eq_repeated_iff.mp (map_eq_error_iff.mp h)
      exact ⟨front, name, blanks, areFront, isName, areBlanks, start ▸ split, repeated⟩
  · rintro ⟨front, name, blanks, areFront, isName, areBlanks, rfl, repeated⟩
    have rejected := sampleLine_eq_repeated_iff.mpr ⟨name, blanks, isName, areBlanks, rfl, repeated⟩
    rw [isName.read_indented areFront, rejected]
    rfl

example : Line.read "x\x7ba=\"1\",b=\"\",a=\"\"\x7d ?".toList =
    .error ⟨.uniqueLabelNames, "\x7ba=\"1\",b=\"\",a=\"\"\x7d ?".toList⟩ := by
  decide +kernel

/-- A sample line that is spelled in another way is accepted as the same sample, and a text with
    other spellings on any of its sample lines has the same dump or the same error. A label set is
    rejected for a repeated name, at its opening brace, if it is well formed but for that, and only
    then: what is in front of the brace is a name and blanks, and what is behind the set may be
    anything. -/
theorem spelling_immaterial :
    (∀ line line' s, Respelling line line' → Line.read line = .ok (.sample s) →
      Line.read line' = .ok (.sample s)) ∧
    (∀ text text' : String, LineByLine Respelling text.toList text'.toList →
      Dump.ofText text' = Dump.ofText text) ∧
    ∀ line rest, Line.read line = .error ⟨.uniqueLabelNames, rest⟩ ↔
      ∃ front name blanks, AreBlanks front ∧ IsMetricName name ∧ AreBlanks blanks ∧
        line = front ++ (name.toList ++ (blanks ++ rest)) ∧ RepeatsName rest :=
  ⟨fun _ _ _ respelled => respelled.read, fun _ _ => ofText_respelled,
    fun _ _ => read_eq_repeated_iff⟩

/-- On the first line the labels change places, blanks come and go around everything, and a comma is
    added. The last line loses its empty braces. -/
theorem lineByLine_respelling :
    Respelling "x\x7ba=\"1\", b=\"2\"\x7d 1 7".toList
        "\tx \x7b b = \"2\",a=\"1\" ,\x7d  1\t7 ".toList ∧
      LineByLine Respelling "x\x7ba=\"1\", b=\"2\"\x7d 1 7\n# c\r\nx\x7b \x7d 1".toList
        "\tx \x7b b = \"2\",a=\"1\" ,\x7d  1\t7 \n# c\r\nx 1".toList := by
  have noBlank : AreBlanks [] := by decide
  have blank : AreBlanks [' '] := by decide
  have gap : IsGap [' '] := ⟨blank, by decide⟩
  have one : ValueText.IsValid (.numeral ⟨.none, .whole ['1'], .none⟩) :=
    ⟨⟨by simp [isDigit], by simp⟩, trivial⟩
  have seven : BackText.IsValid (.time [' '] ⟨.none, ['7']⟩ []) :=
    ⟨gap, ⟨by simp [isDigit], by simp⟩, by decide, noBlank⟩
  have a : PairText.IsValid ⟨[], "a", [], [], [.plain '1'], []⟩ :=
    ⟨noBlank, by decide, noBlank, noBlank, by decide, noBlank⟩
  have b : PairText.IsValid ⟨[' '], "b", [], [], [.plain '2'], []⟩ :=
    ⟨blank, by decide, noBlank, noBlank, by decide, noBlank⟩
  have a' : PairText.IsSpaced ⟨[], "a", [], [], [.plain '1'], [' ']⟩ :=
    ⟨noBlank, noBlank, noBlank, blank⟩
  have b' : PairText.IsSpaced ⟨[' '], "b", [' '], [' '], [.plain '2'], []⟩ :=
    ⟨blank, blank, blank, noBlank⟩
  have valid : SampleText.IsValid ⟨[], "x",
      .braces [] (.pairs ⟨[], "a", [], [], [.plain '1'], []⟩
        [⟨[' '], "b", [], [], [.plain '2'], []⟩] none),
      [' '], .numeral ⟨.none, .whole ['1'], .none⟩, .time [' '] ⟨.none, ['7']⟩ []⟩ :=
    ⟨noBlank, by decide, ⟨noBlank, ⟨by simp [a, b], by simp⟩, by decide⟩, gap, one, seven⟩
  have spaced : SampleText.IsSpaced ⟨['\t'], "x",
      .braces [' '] (.pairs ⟨[' '], "b", [' '], [' '], [.plain '2'], []⟩
        [⟨[], "a", [], [], [.plain '1'], [' ']⟩] (some [])),
      [' ', ' '], .numeral ⟨.none, .whole ['1'], .none⟩, .time ['\t'] ⟨.none, ['7']⟩ [' ']⟩ :=
    ⟨by decide, ⟨blank, by simp [a', b'], by simp [noBlank]⟩, ⟨by decide, by decide⟩,
      ⟨by decide, by decide⟩, blank⟩
  have validEmpty : SampleText.IsValid ⟨[], "x", .braces [] (.empty [' ']), [' '],
      .numeral ⟨.none, .whole ['1'], .none⟩, .none []⟩ :=
    ⟨noBlank, by decide, ⟨noBlank, blank, by decide⟩, gap, one, noBlank⟩
  have swapped : Respelling "x\x7ba=\"1\", b=\"2\"\x7d 1 7".toList
      "\tx \x7b b = \"2\",a=\"1\" ,\x7d  1\t7 ".toList :=
    .sample valid ⟨spaced, rfl, .swap _ _ [], rfl, rfl⟩
  have noBraces : Respelling "x\x7b \x7d 1".toList "x 1".toList :=
    .sample (u := ⟨[], "x", .none, [' '], .numeral ⟨.none, .whole ['1'], .none⟩, .none []⟩)
      validEmpty ⟨⟨noBlank, trivial, gap, noBlank⟩, rfl, .refl _, rfl, rfl⟩
  refine ⟨swapped, .feed ⟨by decide, by decide⟩ ⟨by decide, by decide⟩ swapped
    (.returnFeed (by decide) (by decide) (.same "# c".toList)
      (.last (by decide) (by decide) (by decide) (by decide) noBraces))⟩

theorem spelling_immaterial_swapped :
    ∃ s d, Line.read "x\x7ba=\"1\", b=\"2\"\x7d 1 7".toList = .ok (.sample s) ∧
      Line.read "\tx \x7b b = \"2\",a=\"1\" ,\x7d  1\t7 ".toList = .ok (.sample s) ∧
      Dump.ofText "x\x7ba=\"1\", b=\"2\"\x7d 1 7\n# c\r\nx\x7b \x7d 1" = .ok d ∧
      Dump.ofText "\tx \x7b b = \"2\",a=\"1\" ,\x7d  1\t7 \n# c\r\nx 1" = .ok d := by
  obtain ⟨sameSample, sameDump, -⟩ := spelling_immaterial
  obtain ⟨swapped, respelled⟩ := lineByLine_respelling
  have read : Line.read "x\x7ba=\"1\", b=\"2\"\x7d 1 7".toList =
      .ok (.sample ⟨⟨"x", .ofList [("a", "1"), ("b", "2")]⟩, ⟨0x3ff0000000000000⟩, some 7⟩) := by
    decide +kernel
  obtain ⟨d, whole⟩ :
      ∃ d, Dump.ofText "x\x7ba=\"1\", b=\"2\"\x7d 1 7\n# c\r\nx\x7b \x7d 1" = .ok d :=
    exists_eq_ok_of_isOk (by decide +kernel)
  exact ⟨_, d, read, sameSample _ _ _ swapped read, whole, (sameDump _ _ respelled).trans whole⟩

end Exposition
