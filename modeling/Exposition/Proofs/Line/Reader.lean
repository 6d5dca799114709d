import Exposition.Line.Reader
import Exposition.Proofs.Line.LabelSpelling
import Exposition.Proofs.Line.Value
import Exposition.Proofs.Text.Help

/-! # What a line has to be

Each kind of line is accepted exactly if its parts are found one after another. What is read from a
line is therefore well formed, whatever the line looked like.
-/

namespace Exposition

theorem word?_keyword (type : MetricType) :
    word? type.keyword.toList = some (type.keyword, []) := by
  cases type <;> decide

theorem typeLine_eq_ok_iff {cs : List Char} {line : Line} :
    typeLine cs = .ok line ↔
      ∃ name afterName start word rest type, metricName? cs = some (name, afterName) ∧
        blanks? afterName = some ((), start) ∧ word? start = some (word, rest) ∧
        MetricType.ofKeyword? word = some type ∧ skipBlanks rest = [] ∧
        line = .type name type := by
  simp only [typeLine, bind_eq_ok_iff, expect_eq_ok_iff, Prod.exists]
  constructor
  · rintro ⟨name, afterName, isName, ⟨⟩, start, blank, word, rest, isWord, h⟩
    cases known : MetricType.ofKeyword? word with
    | none =>
        rw [known] at h
        cases h
    | some type =>
        simp only [known, bind_eq_ok_iff, expectEnd_eq_ok_iff] at h
        obtain ⟨⟨⟩, stop, ⟨⟩⟩ := h
        exact ⟨name, afterName, start, word, rest, type, isName, blank, isWord, known, stop, rfl⟩
  · rintro ⟨name, afterName, start, word, rest, type, isName, blank, isWord, known, stop, rfl⟩
    refine ⟨name, afterName, isName, (), start, blank, word, rest, isWord, ?_⟩
    rw [known]
    exact bind_eq_ok_iff.mpr ⟨(), expectEnd_eq_ok_iff.mpr stop, rfl⟩

theorem helpLine_eq_ok_iff {cs : List Char} {line : Line} :
    helpLine cs = .ok line ↔
      ∃ name rest, metricName? cs = some (name, rest) ∧
        ((∃ text, blanks? rest = some ((), text) ∧
            line = .help name (String.ofList (unescapeHelp (trimEnd text)))) ∨
          rest = [] ∧ line = .help name "") := by
  simp only [helpLine, bind_eq_ok_iff, expect_eq_ok_iff, Prod.exists]
  refine exists₂_congr fun name rest => and_congr_right fun _ => ?_
  cases blank : blanks? rest with
  | some found =>
      obtain ⟨⟨⟩, text⟩ := found
      constructor
      · rintro ⟨⟩
        exact .inl ⟨text, rfl, rfl⟩
      · rintro (⟨_, ⟨⟩, rfl⟩ | ⟨rfl, -⟩)
        · rfl
        · cases blank
  | none =>
      simp only [bind_eq_ok_iff, expectEnd_eq_ok_iff]
      constructor
      · rintro ⟨⟨⟩, stop, ⟨⟩⟩
        exact .inr ⟨stop, rfl⟩
      · rintro (⟨_, ⟨⟩, -⟩ | ⟨stop, rfl⟩)
        exact ⟨(), stop, rfl⟩

theorem timestampAfterBlanks_eq_none_iff {cs rest : List Char} :
    timestampAfterBlanks cs = .ok (none, rest) ↔
      (∀ start, blanks? cs = some ((), start) → timestamp? start = .ok none) ∧ cs = rest := by
  unfold timestampAfterBlanks
  cases blanks? cs with
  | none => simp
  | some found =>
      obtain ⟨⟨⟩, start⟩ := found
      simp only [Option.some.injEq, Prod.mk.injEq, true_and, forall_eq', bind_eq_ok_iff]
      constructor
      · rintro ⟨_ | ⟨time, rest⟩, isTime, ⟨⟩⟩
        exact ⟨isTime, rfl⟩
      · rintro ⟨isTime, rfl⟩
        exact ⟨_, isTime, rfl⟩

theorem timestampAfterBlanks_eq_some_iff {cs rest : List Char} {time : Int64} :
    timestampAfterBlanks cs = .ok (some time, rest) ↔
      ∃ start, blanks? cs = some ((), start) ∧ timestamp? start = .ok (some (time, rest)) := by
  unfold timestampAfterBlanks
  cases blanks? cs with
  | none => simp
  | some found =>
      obtain ⟨⟨⟩, start⟩ := found
      simp only [Option.some.injEq, Prod.mk.injEq, true_and, exists_eq_left', bind_eq_ok_iff]
      constructor
      · rintro ⟨_ | ⟨time, rest⟩, isTime, ⟨⟩⟩
        exact isTime
      · intro isTime
        exact ⟨_, isTime, rfl⟩

theorem sampleLine_eq_ok_iff {cs : List Char} {s : Sample} :
    sampleLine cs = .ok s ↔
      ∃ afterName afterLabels start afterValue rest,
        metricName? cs = some (s.name, afterName) ∧ labels afterName = .ok (s.labels, afterLabels) ∧
        blanks? afterLabels = some ((), start) ∧ value? start = some (s.value, afterValue) ∧
        timestampAfterBlanks afterValue = .ok (s.timestamp, rest) ∧ skipBlanks rest = [] := by
  simp only [sampleLine, bind_eq_ok_iff, expect_eq_ok_iff, Prod.exists]
  constructor
  · rintro ⟨name, afterName, isName, set, afterLabels, isSet, ⟨⟩, start, blank, value, afterValue,
      isValue, time, rest, isTime, ⟨⟩, stop, ⟨⟩⟩
    exact ⟨afterName, afterLabels, start, afterValue, rest, isName, isSet, blank, isValue, isTime,
      expectEnd_eq_ok_iff.mp stop⟩
  · rintro ⟨afterName, afterLabels, start, afterValue, rest, isName, isSet, blank, isValue, isTime,
      stop⟩
    exact ⟨s.name, afterName, isName, s.labels, afterLabels, isSet, (), start, blank, s.value,
      afterValue, isValue, s.timestamp, rest, isTime, (), expectEnd_eq_ok_iff.mpr stop, rfl⟩

theorem wellFormed_of_sampleLine {cs : List Char} {s : Sample} (h : sampleLine cs = .ok s) :
    s.WellFormed := by
  obtain ⟨_, _, _, _, _, isName, isSet, -⟩ := sampleLine_eq_ok_iff.mp h
  exact ⟨isMetricName_iff.mpr (isName_of_name? isName), isLabelName_of_labels isSet⟩

theorem wellFormed_of_hashLine {cs : List Char} {line : Line} (h : hashLine cs = .ok line) :
    line.WellFormed := by
  unfold hashLine at h
  split at h
  · obtain ⟨name, rest, isName, ⟨text, blank, rfl⟩ | ⟨-, rfl⟩⟩ := helpLine_eq_ok_iff.mp h
    · refine ⟨isMetricName_iff.mpr (isName_of_name? isName), ?_⟩
      rw [String.toList_ofList]
      exact isHelpText_unescapeHelp (ends_of_blanks? blank)
    · exact ⟨isMetricName_iff.mpr (isName_of_name? isName), ⟨by simp, by simp⟩⟩
  · split at h
    · obtain ⟨_, _, _, _, _, _, isName, -, -, -, -, rfl⟩ := typeLine_eq_ok_iff.mp h
      exact isMetricName_iff.mpr (isName_of_name? isName)
    · cases h
      trivial

theorem Line.wellFormed_of_read {cs : List Char} {line : Line} (h : Line.read cs = .ok line) :
    line.WellFormed := by
  unfold Line.read at h
  split at h
  · cases h
    trivial
  · exact wellFormed_of_hashLine h
  · obtain ⟨s, found, rfl⟩ := map_eq_ok_iff.mp h
    exact wellFormed_of_sampleLine found

theorem isReadable_of_sampleLine {cs : List Char} {s : Sample} (h : sampleLine cs = .ok s) :
    s.value.IsReadable := by
  obtain ⟨_, _, _, _, _, -, -, -, isValue, -⟩ := sampleLine_eq_ok_iff.mp h
  exact isReadable_of_value? isValue

theorem hashLine_ne_sample {cs : List Char} {s : Sample} : hashLine cs ≠ .ok (.sample s) := by
  intro h
  unfold hashLine at h
  split at h
  · obtain ⟨_, _, _, ⟨_, _, wrong⟩ | ⟨_, wrong⟩⟩ := helpLine_eq_ok_iff.mp h
    · cases wrong
    · cases wrong
  · split at h
    · obtain ⟨_, _, _, _, _, _, _, _, _, _, _, wrong⟩ := typeLine_eq_ok_iff.mp h
      cases wrong
    · cases h

theorem read_eq_sample_iff {line : List Char} {s : Sample} :
    Line.read line = .ok (.sample s) ↔ sampleLine (skipBlanks line) = .ok s := by
  unfold Line.read
  split
  · next none =>
      rw [none]
      constructor <;> intro wrong <;> cases wrong
  · next rest hash =>
      rw [hash]
      constructor
      · exact fun wrong => absurd wrong hashLine_ne_sample
      · intro wrong
        obtain ⟨_, _, _, _, _, isName, -⟩ := sampleLine_eq_ok_iff.mp wrong
        cases isName
  · rw [map_eq_ok_iff]
    simp

/-- What starts with a name is neither blank nor marked by a hash, and may be indented. -/
theorem IsMetricName.read_indented {name : String} (isName : IsMetricName name)
    {blanks : List Char} (areBlanks : AreBlanks blanks) (rest : List Char) :
    Line.read (blanks ++ (name.toList ++ rest)) =
      (sampleLine (name.toList ++ rest)).map .sample := by
  rw [Line.read, areBlanks.skip (isName.ends_append rest)]
  obtain ⟨c, chars, first, start, -⟩ := isName
  rw [first]
  split
  · next none => cases none
  · next hash =>
      cases hash
      cases start
  · rfl

theorem isReadable_of_read {cs : List Char} {s : Sample} (h : Line.read cs = .ok (.sample s)) :
    s.value.IsReadable :=
  isReadable_of_sampleLine (read_eq_sample_iff.mp h)

end Exposition
