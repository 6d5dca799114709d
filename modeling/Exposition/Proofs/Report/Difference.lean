import Exposition.Proofs.Line.HashLine
import Exposition.Proofs.Rearrangement
import Exposition.Proofs.Report.Section
import Exposition.Proofs.RoundTrip
import Exposition.Proofs.Text.Literal
import Exposition.Report.Basic

/-! # What a report on a difference tells

Names, label values and help texts come from the data. A report for people quotes them, and no data
can add a line to it, hide one or change what one says: the families and the series that are new or
gone can be told from the report, and so can every part of the metadata that changed. What did not
change is not in it.
-/

namespace Exposition

structure Identity.WellFormed (identity : Identity) : Prop where
  name : IsMetricName identity.name
  labelNames : ∀ pair ∈ identity.labels.entries, IsLabelName pair.1

theorem Sample.WellFormed.identity {s : Sample} (h : s.WellFormed) : s.identity.WellFormed :=
  ⟨h.name, h.labelNames⟩

namespace Identity

theorem toList_display (identity : Identity) :
    identity.display.toList = identity.name.toList ++ identity.labels.display.toList := by
  simp [display]

theorem WellFormed.feed_notMem_display {identity : Identity} (h : identity.WellFormed) :
    '\n' ∉ identity.display.toList := by
  have sample : Sample.WellFormed ⟨identity, .nan, none⟩ := ⟨h.name, h.labelNames⟩
  exact Exposition.feed_notMem_display (s := ⟨identity, .nan, none⟩) sample

/-- A displayed series is read back as that series, unless what follows could be its labels. -/
theorem WellFormed.display_append_inj {identity identity' : Identity} {rest rest' : List Char}
    (h : identity.WellFormed) (h' : identity'.WellFormed)
    (noBrace : Ends (· == '\x7b') (skipBlanks rest))
    (noBrace' : Ends (· == '\x7b') (skipBlanks rest'))
    (same : identity.display.toList ++ rest = identity'.display.toList ++ rest') :
    identity = identity' ∧ rest = rest' := by
  have braces (set : Labels) (rest : List Char) :
      Ends isMetricChar (set.display.toList ++ rest) := by
    rw [Exposition.toList_display]
    exact .cons (by decide) _
  rw [toList_display, toList_display, List.append_assoc, List.append_assoc] at same
  obtain ⟨names, sets⟩ := IsName.append_inj (isMetricName_iff.mp h.name)
    (isMetricName_iff.mp h'.name) (braces _ _) (braces _ _) same
  have read := (spelledLabels_display h.labelNames).read noBrace
  rw [sets, (spelledLabels_display h'.labelNames).read noBrace'] at read
  obtain ⟨labels, rests⟩ := Prod.mk.inj (Except.ok.inj read)
  cases identity
  cases identity'
  cases names
  cases labels
  exact ⟨rfl, rests.symm⟩

theorem WellFormed.display_inj {identity identity' : Identity} (h : identity.WellFormed)
    (h' : identity'.WellFormed) (same : identity.display = identity'.display) :
    identity = identity' := by
  have nothing : Ends (· == '\x7b') (skipBlanks []) := .nil _
  have chars := congrArg (fun text => text.toList ++ []) same
  exact (h.display_append_inj h' nothing nothing chars).1

end Identity

/-- The keyword of a type ends where its letters end. -/
theorem MetricType.keyword_append_inj {type type' : MetricType} {rest rest' : List Char}
    (ends : Ends isAlpha rest) (ends' : Ends isAlpha rest')
    (same : type.keyword.toList ++ rest = type'.keyword.toList ++ rest') :
    type = type' ∧ rest = rest' := by
  have word := word?_keyword_append type ends
  rw [same, word?_keyword_append type' ends'] at word
  obtain ⟨keywords, rests⟩ := Prod.mk.inj (Option.some.inj word)
  have known := ofKeyword?_keyword type
  rw [← keywords, ofKeyword?_keyword] at known
  exact ⟨(Option.some.inj known).symm, rests.symm⟩

namespace MetadataChange

/-- The parts that differ, each before and after. -/
def parts (c : MetadataChange) :
    Option (MetricType × MetricType) × Option (Option String × Option String) :=
  (if c.before.type = c.after.type then none else some (c.before.type, c.after.type),
    if c.before.help = c.after.help then none else some (c.before.help, c.after.help))

def typeLine (types : MetricType × MetricType) : String :=
  item ("type: " ++ types.1.keyword ++ " -> " ++ types.2.keyword)

/-- A help as it stands in a report. -/
def helpLiteral (help : Option String) : String :=
  help.elim "(none)" fun text => String.ofList (literal text.toList)

def helpLine (helps : Option String × Option String) : String :=
  item ("help: " ++ helpLiteral helps.1 ++ " -> " ++ helpLiteral helps.2)

/-- At most one line on the type and one on the help. -/
def partLines (parts : Option (MetricType × MetricType) × Option (Option String × Option String)) :
    List String :=
  parts.1.toList.map typeLine ++ parts.2.toList.map helpLine

theorem lines_eq (c : MetadataChange) : c.lines = partLines c.parts := by
  unfold lines parts partLines
  split_ifs <;> rfl

theorem toList_typeLine (types : MetricType × MetricType) :
    (typeLine types).toList = '\t' :: 't' :: 'y' :: 'p' :: 'e' :: ':' :: ' ' ::
      (types.1.keyword.toList ++ ' ' :: '-' :: '>' :: ' ' :: types.2.keyword.toList) := by
  simp [typeLine]

theorem toList_helpLine (helps : Option String × Option String) :
    (helpLine helps).toList = '\t' :: 'h' :: 'e' :: 'l' :: 'p' :: ':' :: ' ' ::
      ((helpLiteral helps.1).toList ++ ' ' :: '-' :: '>' :: ' ' ::
        (helpLiteral helps.2).toList) := by
  simp [helpLine]

theorem typeLine_inj {types types' : MetricType × MetricType}
    (same : typeLine types = typeLine types') : types = types' := by
  have chars := congrArg String.toList same
  rw [toList_typeLine, toList_typeLine] at chars
  simp only [List.cons.injEq, true_and] at chars
  have blank (rest : List Char) : Ends isAlpha (' ' :: rest) := .cons (by decide) rest
  obtain ⟨before, rests⟩ := MetricType.keyword_append_inj (blank _) (blank _) chars
  simp only [List.cons.injEq, true_and] at rests
  rw [← List.append_nil types.2.keyword.toList, ← List.append_nil types'.2.keyword.toList] at rests
  exact Prod.ext before (MetricType.keyword_append_inj (.nil _) (.nil _) rests).1

/-- No help is told from every help, since a literal starts with a quote. -/
theorem helpLiteral_append_inj {help help' : Option String} {rest rest' : List Char}
    (same : (helpLiteral help).toList ++ rest = (helpLiteral help').toList ++ rest') :
    help = help' ∧ rest = rest' := by
  have quote (text : String) : (helpLiteral (some text)).toList = literal text.toList :=
    String.toList_ofList
  cases help with
  | none =>
      cases help' with
      | none => exact ⟨rfl, List.append_cancel_left same⟩
      | some text' =>
          rw [quote] at same
          cases (List.cons.inj same).1
  | some text =>
      rw [quote] at same
      cases help' with
      | none => cases (List.cons.inj same).1
      | some text' =>
          rw [quote] at same
          obtain ⟨texts, rests⟩ := literal_append_inj same
          exact ⟨congrArg some (String.toList_inj.mp texts), rests⟩

theorem helpLine_inj {helps helps' : Option String × Option String}
    (same : helpLine helps = helpLine helps') : helps = helps' := by
  have chars := congrArg String.toList same
  rw [toList_helpLine, toList_helpLine] at chars
  simp only [List.cons.injEq, true_and] at chars
  obtain ⟨before, after⟩ := helpLiteral_append_inj chars
  simp only [List.cons.injEq, true_and] at after
  rw [← List.append_nil (helpLiteral helps.2).toList,
    ← List.append_nil (helpLiteral helps'.2).toList] at after
  exact Prod.ext before (helpLiteral_append_inj after).1

/-- The lines of a change tell its parts. -/
theorem partLines_inj
    {parts parts' : Option (MetricType × MetricType) × Option (Option String × Option String)}
    (same : partLines parts = partLines parts') : parts = parts' := by
  -- the lines of a type and of a help part after the tab
  have inside (types : Option (MetricType × MetricType)) :
      ∀ line ∈ types.toList.map typeLine, decide (line.toList[1]? = some 't') = true := by
    intro line member
    obtain ⟨pair, -, rfl⟩ := List.mem_map.mp member
    rw [toList_typeLine]
    rfl
  have ends (helps : Option (Option String × Option String)) :
      ∀ line ∈ (helps.toList.map helpLine).head?, decide (line.toList[1]? = some 't') = false := by
    intro line member
    obtain ⟨pair, -, rfl⟩ := List.mem_map.mp (List.mem_of_head? member)
    rw [toList_helpLine]
    rfl
  have optionInj {α : Type} {line : α → String} (inj : ∀ a b, line a = line b → a = b)
      {a b : Option α} (same : a.toList.map line = b.toList.map line) : a = b := by
    have lists := (List.map_inj_right inj).mp same
    cases a <;> cases b <;> simp_all
  obtain ⟨types, helps⟩ := span_unique (inside _) (inside _) (ends _) (ends _) same
  exact Prod.ext (optionInj (fun _ _ => typeLine_inj) types)
    (optionInj (fun _ _ => helpLine_inj) helps)

theorem feed_notMem_typeLine (types : MetricType × MetricType) :
    '\n' ∉ (typeLine types).toList := by
  have keyword : ∀ t : MetricType, '\n' ∉ t.keyword.toList := by
    intro t
    cases t <;> decide
  rw [toList_typeLine]
  simp [keyword]

theorem feed_notMem_helpLine (helps : Option String × Option String) :
    '\n' ∉ (helpLine helps).toList := by
  have literal (help : Option String) : '\n' ∉ (helpLiteral help).toList := by
    cases help with
    | none => decide
    | some text =>
        rw [helpLiteral, Option.elim_some, String.toList_ofList]
        exact feed_notMem_literal text.toList
  rw [toList_helpLine]
  simp [literal]

theorem sound_of_mem_lines {c : MetadataChange} {line : String} (h : line ∈ c.lines) :
    isItem line = true ∧ '\n' ∉ line.toList := by
  rw [lines_eq, partLines, List.mem_append] at h
  cases h with
  | inl type =>
      obtain ⟨types, -, rfl⟩ := List.mem_map.mp type
      exact ⟨isItem_item _, feed_notMem_typeLine types⟩
  | inr help =>
      obtain ⟨helps, -, rfl⟩ := List.mem_map.mp help
      exact ⟨isItem_item _, feed_notMem_helpLine helps⟩

end MetadataChange

namespace Difference

/-- The section on new or gone families, if there are any. -/
def familySections (topic : Topic) (names : SortedSet String) : List Section :=
  if names.isEmpty then [] else [⟨topic, "", names.toList.map item⟩]

/-- The sections on new or gone series, one for each family. -/
def seriesSections (topic : Topic) (m : SortedMap String (SortedSet Identity)) : List Section :=
  m.entries.map fun (name, series) => ⟨topic, name, series.toList.map fun id => item id.display⟩

def changeSections (m : SortedMap String MetadataChange) : List Section :=
  m.entries.map fun (name, change) => ⟨.metadata, name, change.lines⟩

/-- The sections of a report that are on one topic. -/
def sectionsOn (d : Difference) : Topic → List Section
  | .nothing => if d.isEmpty then [⟨.nothing, "", []⟩] else []
  | .newFamilies => familySections .newFamilies d.addedFamilies
  | .goneFamilies => familySections .goneFamilies d.removedFamilies
  | .newSamples => seriesSections .newSamples d.addedSamples
  | .goneSamples => seriesSections .goneSamples d.removedSamples
  | .metadata => changeSections d.metadataChanges

def sections (d : Difference) : List Section := Topic.all.flatMap d.sectionsOn

theorem topic_of_mem_sectionsOn {d : Difference} {topic : Topic} :
    ∀ s ∈ d.sectionsOn topic, s.topic = topic := by
  intro s member
  cases topic with
  | nothing =>
      rw [sectionsOn] at member
      split at member
      · rw [List.mem_singleton.mp member]
      · cases member
  | newFamilies | goneFamilies =>
      rw [sectionsOn, familySections] at member
      split at member
      · cases member
      · rw [List.mem_singleton.mp member]
  | newSamples | goneSamples | metadata =>
      obtain ⟨entry, -, rfl⟩ := List.mem_map.mp member
      rfl

/-- What a report has on a topic can be told from all its sections. -/
theorem filter_sections (d : Difference) (topic : Topic) :
    d.sections.filter (·.topic = topic) = d.sectionsOn topic := by
  have on (t : Topic) : (d.sectionsOn t).filter (·.topic = topic) =
      if t = topic then d.sectionsOn t else [] := by
    split
    · next same =>
        rw [List.filter_eq_self]
        intro s member
        exact decide_eq_true ((topic_of_mem_sectionsOn s member).trans same)
    · next other =>
        rw [List.filter_eq_nil_iff]
        intro s member
        rw [topic_of_mem_sectionsOn s member, decide_eq_true_eq]
        exact other
  rw [sections, List.filter_flatMap]
  simp only [on]
  cases topic <;> simp [Topic.all]

theorem headed_eq (topic : Topic) {heading : String}
    (same : topic.opening ++ topic.closing = heading) (names : SortedSet String) :
    headed heading names.toList = (familySections topic names).flatMap Section.lines := by
  have empty : names.toList.isEmpty = names.isEmpty := by
    simp [SortedSet.toList, SortedMap.keys, SortedMap.isEmpty]
  rw [headed, familySections, empty]
  split
  · rfl
  · rw [List.flatMap_singleton, Section.lines, Section.heading, String.append_empty, same]

theorem seriesLines_eq (topic : Topic) {heading : String}
    (opening : heading ++ " for metric family \"" = topic.opening) (closing : "\":" = topic.closing)
    (m : SortedMap String (SortedSet Identity)) :
    seriesLines heading m = (seriesSections topic m).flatMap Section.lines := by
  rw [seriesLines, seriesSections, List.flatMap_map]
  simp only [Section.lines, Section.heading, opening, closing]

theorem changeLines_eq (m : SortedMap String MetadataChange) :
    changeLines m = (changeSections m).flatMap Section.lines := by
  rw [changeLines, changeSections, List.flatMap_map]
  rfl

theorem sectionsOn_of_isEmpty {d : Difference} (empty : d.isEmpty = true) {topic : Topic}
    (other : topic ≠ .nothing) : d.sectionsOn topic = [] := by
  simp only [isEmpty, Bool.and_eq_true] at empty
  obtain ⟨⟨⟨⟨added, removed⟩, newSeries⟩, goneSeries⟩, changes⟩ := empty
  cases topic with
  | nothing => exact absurd rfl other
  | newFamilies => exact if_pos added
  | goneFamilies => exact if_pos removed
  | newSamples => exact List.map_eq_nil_iff.mpr (List.isEmpty_iff.mp newSeries)
  | goneSamples => exact List.map_eq_nil_iff.mpr (List.isEmpty_iff.mp goneSeries)
  | metadata => exact List.map_eq_nil_iff.mpr (List.isEmpty_iff.mp changes)

/-- The lines of a report are those of its sections. -/
theorem report_eq (d : Difference) : d.report = d.sections.flatMap Section.lines := by
  have all : d.sections = d.sectionsOn .nothing ++ d.sectionsOn .newFamilies ++
      d.sectionsOn .goneFamilies ++ d.sectionsOn .newSamples ++ d.sectionsOn .goneSamples ++
      d.sectionsOn .metadata := by
    simp [sections, Topic.all]
  rw [report, all]
  split
  · next empty =>
      have sentence : d.sectionsOn .nothing = [⟨.nothing, "", []⟩] := if_pos empty
      have others {t : Topic} (other : t ≠ .nothing) := sectionsOn_of_isEmpty empty other
      rw [sentence, others (by decide), others (by decide), others (by decide),
        others (by decide), others (by decide)]
      rfl
  · next some =>
      have noSentence : d.sectionsOn .nothing = [] := if_neg some
      have newFamilies : headed "The following metric families are new:" d.addedFamilies.toList =
          (d.sectionsOn .newFamilies).flatMap Section.lines := headed_eq .newFamilies rfl _
      have goneFamilies : headed "The following metric families no longer exist:"
          d.removedFamilies.toList = (d.sectionsOn .goneFamilies).flatMap Section.lines :=
        headed_eq .goneFamilies rfl _
      have newSamples : seriesLines "The following samples are new" d.addedSamples =
          (d.sectionsOn .newSamples).flatMap Section.lines := seriesLines_eq .newSamples rfl rfl _
      have goneSamples : seriesLines "The following samples no longer exist" d.removedSamples =
          (d.sectionsOn .goneSamples).flatMap Section.lines :=
        seriesLines_eq .goneSamples rfl rfl _
      have metadata : changeLines d.metadataChanges =
          (d.sectionsOn .metadata).flatMap Section.lines := changeLines_eq _
      rw [noSentence, newFamilies, goneFamilies, newSamples, goneSamples, metadata]
      simp only [List.nil_append, List.flatMap_append]

@[simp] theorem familySections_eq_nil_iff {topic : Topic} {names : SortedSet String} :
    familySections topic names = [] ↔ names.isEmpty = true := by
  simp [familySections]

theorem sections_ne_nil (d : Difference) : d.sections ≠ [] := by
  intro none
  have on (topic : Topic) : d.sectionsOn topic = [] :=
    List.flatMap_eq_nil_iff.mp none topic topic.mem_all
  have empty : d.isEmpty = true := by
    simp only [isEmpty, Bool.and_eq_true, SortedMap.isEmpty, List.isEmpty_iff]
    exact ⟨⟨⟨⟨List.isEmpty_iff.mp (familySections_eq_nil_iff.mp (on .newFamilies)),
      List.isEmpty_iff.mp (familySections_eq_nil_iff.mp (on .goneFamilies))⟩,
      List.map_eq_nil_iff.mp (on .newSamples)⟩, List.map_eq_nil_iff.mp (on .goneSamples)⟩,
      List.map_eq_nil_iff.mp (on .metadata)⟩
  have sentence : d.sectionsOn .nothing = [⟨.nothing, "", []⟩] := if_pos empty
  rw [on] at sentence
  cases sentence

/-- The names and the series of a difference are such as can stand in a text. -/
structure WellFormed (d : Difference) : Prop where
  addedFamilies : ∀ name ∈ d.addedFamilies.toList, IsMetricName name
  removedFamilies : ∀ name ∈ d.removedFamilies.toList, IsMetricName name
  addedSamples : ∀ entry ∈ d.addedSamples.entries,
    IsMetricName entry.1 ∧ ∀ id ∈ entry.2.toList, id.WellFormed
  removedSamples : ∀ entry ∈ d.removedSamples.entries,
    IsMetricName entry.1 ∧ ∀ id ∈ entry.2.toList, id.WellFormed
  changes : ∀ entry ∈ d.metadataChanges.entries, IsMetricName entry.1

variable {d e : Difference}

theorem sound_of_mem_familySections {topic : Topic} {names : SortedSet String}
    (named : ∀ name ∈ names.toList, IsMetricName name) :
    ∀ s ∈ familySections topic names, s.Sound := by
  intro s member
  rw [familySections] at member
  split at member
  · cases member
  · rw [List.mem_singleton.mp member]
    refine ⟨List.not_mem_nil, ?_, ?_⟩
    · intro line listed
      obtain ⟨name, -, rfl⟩ := List.mem_map.mp listed
      exact isItem_item name
    · intro line listed
      obtain ⟨name, inNames, rfl⟩ := List.mem_map.mp listed
      rw [toList_item]
      simp [(named name inNames).feed_notMem]

theorem sound_of_mem_seriesSections {topic : Topic} {m : SortedMap String (SortedSet Identity)}
    (wellFormed : ∀ entry ∈ m.entries,
      IsMetricName entry.1 ∧ ∀ id ∈ entry.2.toList, id.WellFormed) :
    ∀ s ∈ seriesSections topic m, s.Sound := by
  intro s member
  obtain ⟨entry, inMap, rfl⟩ := List.mem_map.mp member
  obtain ⟨isName, series⟩ := wellFormed entry inMap
  refine ⟨isName.feed_notMem, ?_, ?_⟩
  · intro line listed
    obtain ⟨id, -, rfl⟩ := List.mem_map.mp listed
    exact isItem_item id.display
  · intro line listed
    obtain ⟨id, inSeries, rfl⟩ := List.mem_map.mp listed
    rw [toList_item]
    simp [(series id inSeries).feed_notMem_display]

theorem WellFormed.sound (h : d.WellFormed) : ∀ s ∈ d.sections, s.Sound := by
  intro s member
  obtain ⟨topic, -, member⟩ := List.mem_flatMap.mp member
  cases topic with
  | nothing =>
      rw [sectionsOn] at member
      split at member
      · rw [List.mem_singleton.mp member]
        exact ⟨by decide, by simp, by simp⟩
      · cases member
  | newFamilies => exact sound_of_mem_familySections h.addedFamilies s member
  | goneFamilies => exact sound_of_mem_familySections h.removedFamilies s member
  | newSamples => exact sound_of_mem_seriesSections h.addedSamples s member
  | goneSamples => exact sound_of_mem_seriesSections h.removedSamples s member
  | metadata =>
      obtain ⟨entry, inMap, rfl⟩ := List.mem_map.mp member
      exact ⟨(h.changes entry inMap).feed_notMem,
        fun line listed => (MetadataChange.sound_of_mem_lines listed).1,
        fun line listed => (MetadataChange.sound_of_mem_lines listed).2⟩

/-- The text of a report for people, at any level of detail. -/
def humanText (d : Difference) : String := "\n".intercalate d.report

theorem WellFormed.splitOn_humanText (h : d.WellFormed) :
    d.humanText.toList.splitOn '\n' = d.report.map String.toList := by
  rw [humanText, report_eq]
  apply splitOn_intercalate_feed
  · intro none
    have sections := List.flatMap_eq_nil_iff.mp none
    obtain ⟨s, more, cons⟩ := List.exists_cons_of_ne_nil d.sections_ne_nil
    cases sections s (cons ▸ List.mem_cons_self)
  · intro line member
    obtain ⟨s, inReport, member⟩ := List.mem_flatMap.mp member
    exact (h.sound s inReport).feed_notMem line member

theorem WellFormed.sectionsOn_congr (h : d.WellFormed) (h' : e.WellFormed)
    (same : d.humanText = e.humanText) (topic : Topic) :
    d.sectionsOn topic = e.sectionsOn topic := by
  have lines : d.report = e.report := by
    have split := h.splitOn_humanText
    rw [same, h'.splitOn_humanText] at split
    exact ((List.map_inj_right fun _ _ => String.toList_inj.mp).mp split).symm
  rw [report_eq, report_eq] at lines
  rw [← filter_sections, ← filter_sections, Section.flatMap_lines_inj h.sound h'.sound lines]

/-- The same families and series, and for the same families the same changes of the parts that
    differ. -/
structure SameFindings (d e : Difference) : Prop extends d.SameSeries e where
  changes : (d.metadataChanges.map fun _ change => change.parts) =
    e.metadataChanges.map fun _ change => change.parts

theorem familySections_inj {topic : Topic} {names names' : SortedSet String}
    (same : familySections topic names = familySections topic names') : names = names' := by
  have items (names : SortedSet String) :
      (familySections topic names).flatMap Section.items = names.toList.map item := by
    rw [familySections]
    split
    · next empty =>
        rw [SortedSet.toList, SortedMap.keys, List.isEmpty_iff.mp empty]
        rfl
    · rw [List.flatMap_singleton]
  have listed := congrArg (List.flatMap Section.items) same
  rw [items, items] at listed
  exact SortedSet.ext_toList ((List.map_inj_right fun _ _ => item_inj).mp listed)

theorem seriesSections_inj {topic : Topic} {m n : SortedMap String (SortedSet Identity)}
    (inM : ∀ entry ∈ m.entries, ∀ id ∈ entry.2.toList, id.WellFormed)
    (inN : ∀ entry ∈ n.entries, ∀ id ∈ entry.2.toList, id.WellFormed)
    (same : seriesSections topic m = seriesSections topic n) : m = n := by
  have lineInj {id id' : Identity} (h : id.WellFormed) (h' : id'.WellFormed)
      (same : item id.display = item id'.display) : id = id' :=
    h.display_inj h' (item_inj same)
  refine SortedMap.ext_entries (map_injOn ?_ inM inN same)
  intro entry entry' series series' same
  obtain ⟨-, names, items⟩ := Section.mk.inj same
  exact Prod.ext names (SortedSet.ext_toList (map_injOn lineInj series series' items))

theorem changeSections_eq_iff {m n : SortedMap String MetadataChange} :
    changeSections m = changeSections n ↔
      (m.map fun _ change => change.parts) = n.map fun _ change => change.parts := by
  have parts (m : SortedMap String MetadataChange) : changeSections m =
      (m.map fun _ change => change.parts).entries.map fun (name, parts) =>
        ⟨.metadata, name, MetadataChange.partLines parts⟩ := by
    rw [changeSections, SortedMap.map, List.map_map]
    refine List.map_congr_left fun entry _ => ?_
    simp only [Function.comp_apply, MetadataChange.lines_eq]
  rw [parts, parts]
  constructor
  · intro same
    refine SortedMap.ext_entries ((List.map_inj_right ?_).mp same)
    intro entry entry' same
    obtain ⟨-, names, lines⟩ := Section.mk.inj same
    exact Prod.ext names (MetadataChange.partLines_inj lines)
  · exact fun same => by rw [same]

theorem SameFindings.isEmpty (same : d.SameFindings e) : d.isEmpty = e.isEmpty := by
  have keys (m : SortedMap String MetadataChange) :
      m.isEmpty = (m.map fun _ change => change.parts).isEmpty := by
    simp [SortedMap.isEmpty, SortedMap.map]
  rw [Difference.isEmpty, Difference.isEmpty, same.addedFamilies, same.removedFamilies,
    same.addedSamples, same.removedSamples, keys, same.changes, ← keys]

/-- A report tells the findings and nothing else. -/
theorem WellFormed.humanText_eq_iff (h : d.WellFormed) (h' : e.WellFormed) :
    d.humanText = e.humanText ↔ d.SameFindings e := by
  constructor
  · intro same
    have on := h.sectionsOn_congr h' same
    exact {
      addedFamilies := familySections_inj (on .newFamilies)
      removedFamilies := familySections_inj (on .goneFamilies)
      addedSamples := seriesSections_inj (fun entry member => (h.addedSamples entry member).2)
        (fun entry member => (h'.addedSamples entry member).2) (on .newSamples)
      removedSamples := seriesSections_inj (fun entry member => (h.removedSamples entry member).2)
        (fun entry member => (h'.removedSamples entry member).2) (on .goneSamples)
      changes := changeSections_eq_iff.mp (on .metadata) }
  · intro same
    have on (topic : Topic) : d.sectionsOn topic = e.sectionsOn topic := by
      cases topic with
      | nothing => rw [sectionsOn, sectionsOn, same.isEmpty]
      | newFamilies => rw [sectionsOn, sectionsOn, same.addedFamilies]
      | goneFamilies => rw [sectionsOn, sectionsOn, same.removedFamilies]
      | newSamples => rw [sectionsOn, sectionsOn, same.addedSamples]
      | goneSamples => rw [sectionsOn, sectionsOn, same.removedSamples]
      | metadata => exact changeSections_eq_iff.mpr same.changes
    rw [humanText, humanText, report_eq, report_eq, sections, sections, funext on]

end Difference

/-- Every family of the dump stands in some text, though not all need be from one: some families of
    a text may have been left out. -/
def Dump.IsRead (d : Dump) : Prop :=
  ∀ f ∈ d.families, ∃ text families, familiesOfText text = .ok families ∧ f ∈ families

theorem Dump.isRead_of_ofText {text : String} {d : Dump} (h : ofText text = .ok d) : d.IsRead := by
  obtain ⟨families, read, rfl⟩ := map_eq_ok_iff.mp h
  exact fun f member => ⟨text, families, read, member⟩

namespace Dump.IsRead

variable {a b : Dump} {name : String}

theorem wellFormed (h : a.IsRead) : ∀ f ∈ a.families, f.WellFormed := by
  intro f member
  obtain ⟨text, families, read, inFamilies⟩ := h f member
  obtain ⟨ls, isLines, rfl⟩ := familiesOfText_eq_ok_iff.mp read
  exact wellFormed_of_familiesOfLines (wellFormed_of_linesOf isLines) f inFamilies

theorem isMetricName (h : a.IsRead) (inNames : name ∈ a.names) : IsMetricName name := by
  obtain ⟨f, member, rfl⟩ := inNames
  exact (h.wellFormed f member).name

theorem series (h : a.IsRead) {id : Identity} (inSeries : id ∈ a.series name) :
    id.WellFormed := by
  obtain ⟨f, member, -, s, inSamples, rfl⟩ := inSeries
  exact ((h.wellFormed f member).samples s inSamples).identity

theorem onlySeries (h : b.IsRead) {entry : String × SortedSet Identity}
    (member : entry ∈ (onlySeries b.identitiesByFamily a.identitiesByFamily).entries) :
    IsMetricName entry.1 ∧ ∀ id ∈ entry.2.toList, id.WellFormed := by
  obtain ⟨⟨-, inNames⟩, -, only⟩ := mem_onlySeries (SortedMap.find?_eq_some_iff.mpr member)
  refine ⟨h.isMetricName inNames, fun id inEntry => ?_⟩
  have found : id ∈ entry.2.toSet := SortedSet.mem_toList.mp inEntry
  rw [only] at found
  exact h.series found.1

theorem diff (h : a.IsRead) (h' : b.IsRead) : (diff a b).WellFormed where
  addedFamilies name member :=
    h'.isMetricName (contains_addedFamilies.mp (SortedSet.mem_toList.mp member)).1
  removedFamilies name member :=
    h.isMetricName (contains_removedFamilies.mp (SortedSet.mem_toList.mp member)).1
  addedSamples _ member := h'.onlySeries member
  removedSamples _ member := h.onlySeries member
  changes entry member := by
    obtain ⟨before, -, -⟩ := find?_metadataChanges.mp (SortedMap.find?_eq_some_iff.mpr member)
    exact h.isMetricName (metadata?_isSome_iff.mp (by rw [before]; rfl))

end Dump.IsRead

/-- Reports for people are the same bytes exactly if they are on the same findings, and they have
    the lines that the findings give them and no others. -/
theorem difference_report_faithful {a b a' b' : Dump} (isRead : ∀ d ∈ [a, b, a', b'], d.IsRead)
    (detailed detailed' : Bool) :
    (((Report.difference (diff a b)).render (.human detailed)).toUTF8 =
        ((Report.difference (diff a' b')).render (.human detailed')).toUTF8 ↔
      (diff a b).SameFindings (diff a' b')) ∧
    ((Report.difference (diff a b)).render (.human detailed)).toList.splitOn '\n' =
      (diff a b).report.map String.toList := by
  have first : (diff a b).WellFormed := (isRead a (by simp)).diff (isRead b (by simp))
  have second : (diff a' b').WellFormed := (isRead a' (by simp)).diff (isRead b' (by simp))
  refine ⟨?_, first.splitOn_humanText⟩
  rw [← first.humanText_eq_iff second]
  exact String.toByteArray_inj

/-- Between bare quotes, both changes of the help would read alike. -/
theorem difference_report_faithful_quotes :
    ∃ a b a' b' : Dump,
      Dump.ofText "# HELP x p\n" = .ok a ∧ Dump.ofText "# HELP x q\" -> \"r\n" = .ok b ∧
      Dump.ofText "# HELP x p\" -> \"q\n" = .ok a' ∧ Dump.ofText "# HELP x r\n" = .ok b' ∧
      ((Report.difference (diff a b)).render (.human false)).toUTF8 ≠
        ((Report.difference (diff a' b')).render (.human false)).toUTF8 := by
  let dump (help : String) : Dump := ⟨.memory, [⟨"x", .untyped, some help, []⟩]⟩
  have readA : Dump.ofText "# HELP x p\n" = .ok (dump "p") := by decide +kernel
  have readB : Dump.ofText "# HELP x q\" -> \"r\n" = .ok (dump "q\" -> \"r") := by decide +kernel
  have readA' : Dump.ofText "# HELP x p\" -> \"q\n" = .ok (dump "p\" -> \"q") := by decide +kernel
  have readB' : Dump.ofText "# HELP x r\n" = .ok (dump "r") := by decide +kernel
  refine ⟨_, _, _, _, readA, readB, readA', readB', fun same => ?_⟩
  have isRead : ∀ d ∈ [dump "p", dump "q\" -> \"r", dump "p\" -> \"q", dump "r"], d.IsRead := by
    simp only [List.forall_mem_cons]
    exact ⟨Dump.isRead_of_ofText readA, Dump.isRead_of_ofText readB, Dump.isRead_of_ofText readA',
      Dump.isRead_of_ofText readB', by simp⟩
  have findings := (difference_report_faithful isRead false false).1.mp same
  exact absurd findings.changes (by decide +kernel)

end Exposition
