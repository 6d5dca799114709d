import Exposition.Proofs.Report.Validation
import Exposition.Report.Basic

/-! # What a report on a validation tells

A report for people names the families of several blocks and lists the series of several samples. No
label value can add to it, hide something in it or change a count: what was found can be told from
the report. In detail it tells the type and the size of each of the blocks as well, on lines of
their own; without these lines it is the plain report.
-/

namespace Exposition

/-- Is the line an item of an item? -/
def isDetail (line : List Char) : Bool := ['\t', '\t'].isPrefixOf line

theorem isDetail_item (text : String) : isDetail (item text).toList = isItem text := by
  rw [isDetail, isItem, toList_item]
  cases text.toList with
  | nil => rfl
  | cons c cs =>
      by_cases tab : c = '\t'
      · rw [tab]
        rfl
      · simp [List.isPrefixOf, tab, Ne.symm tab]

theorem isDetail_of_isItem {line : String} (heading : isItem line = false) :
    isDetail line.toList = false := by
  rw [isItem, decide_eq_false_iff_not] at heading
  rw [isDetail]
  cases chars : line.toList with
  | nil => rfl
  | cons c cs =>
      have noTab : ('\t' == c) = false := by
        rw [beq_eq_false_iff_ne]
        intro tab
        rw [chars, ← tab] at heading
        exact heading rfl
      rw [List.isPrefixOf_cons_cons, noTab, Bool.false_and]

theorem IsMetricName.isItem_append {name : String} (h : IsMetricName name) (text : String) :
    isItem (name ++ text) = false := by
  rw [isItem, decide_eq_false_iff_not, String.toList_append]
  intro tab
  have noBlank := h.ends_append text.toList '\t' tab
  cases noBlank

theorem IsMetricName.isItem {name : String} (h : IsMetricName name) : isItem name = false := by
  have noTab := h.isItem_append ""
  rwa [String.append_empty] at noTab

namespace Validation

/-- What a report tells of a block: its type and how many samples it has. -/
def outlineLine (outline : MetricType × Nat) : String :=
  item (item (outline.1.keyword ++ " with " ++ toString outline.2 ++ " sample(s)"))

theorem outlineLine_inj {outline outline' : MetricType × Nat}
    (same : outlineLine outline = outlineLine outline') : outline = outline' := by
  have blank (rest : List Char) : Ends isAlpha (" with ".toList ++ rest) :=
    .cons (c := ' ') (by decide) _
  have chars := congrArg String.toList (item_inj (item_inj same))
  simp only [String.toList_append, List.append_assoc] at chars
  obtain ⟨types, rests⟩ := MetricType.keyword_append_inj (blank _) (blank _) chars
  have counts := List.append_cancel_right (List.append_cancel_left rests)
  exact Prod.ext types (Nat.repr_inj.mp (String.toList_inj.mp counts))

/-- A series and how often it occurs. -/
def duplicateLine (d : DuplicateSample) : String :=
  item (d.identity.display ++ " (" ++ toString d.count ++ " occurrences)")

theorem duplicateLine_inj {d d' : DuplicateSample} (h : d.identity.WellFormed)
    (h' : d'.identity.WellFormed) (same : duplicateLine d = duplicateLine d') : d = d' := by
  have noBrace (rest : List Char) : Ends (· == '\x7b') (skipBlanks (" (".toList ++ rest)) :=
    .cons (c := '(') (by decide) _
  have chars := congrArg String.toList (item_inj same)
  simp only [String.toList_append, List.append_assoc] at chars
  obtain ⟨identities, rests⟩ := h.display_append_inj h' (noBrace _) (noBrace _) chars
  have counts := List.append_cancel_right (List.append_cancel_left rests)
  cases d
  cases d'
  cases identities
  cases Nat.repr_inj.mp (String.toList_inj.mp counts)
  rfl

/-- The heading over the series of a family. -/
def seriesHeading (name : String) : String :=
  "Metric family \"" ++ name ++ "\" contains duplicate samples:"

theorem toList_seriesHeading (name : String) :
    (seriesHeading name).toList =
      "Metric family \"".toList ++ (name.toList ++ "\" contains duplicate samples:".toList) := by
  -- an equation for the heading would be checked byte by byte
  delta seriesHeading
  rw [String.toList_append, String.toList_append, List.append_assoc]

theorem head?_seriesHeading (name : String) : (seriesHeading name).toList.head? = some 'M' := by
  rw [toList_seriesHeading]
  rfl

theorem seriesHeading_inj {name name' : String} (same : seriesHeading name = seriesHeading name') :
    name = name' := by
  have chars := congrArg String.toList same
  rw [toList_seriesHeading, toList_seriesHeading] at chars
  exact String.toList_inj.mp (List.append_cancel_right (List.append_cancel_left chars))

/-- The type and the size of each block of the families of several blocks. -/
def sizes (v : Validation) : SortedMap String (List (MetricType × Nat)) :=
  v.duplicateFamilies.map fun _ blocks => blocks.map fun f => (f.type, f.samples.length)

/-- The families of several blocks, and under each in a detailed report its blocks. -/
def familyParts (sizes : SortedMap String (List (MetricType × Nat))) (detailed : Bool) :
    List (String × List String) :=
  sizes.entries.map fun (name, blocks) =>
    (item name, if detailed then blocks.map outlineLine else [])

def sentenceParagraphs (v : Validation) : List (String × List String) :=
  if v.isClean then [("No problems found.", [])] else []

def familyParagraphs (sizes : SortedMap String (List (MetricType × Nat))) (detailed : Bool) :
    List (String × List String) :=
  if sizes.isEmpty then []
  else
    [("The following metric families are duplicated:",
      (familyParts sizes detailed).flatMap fun part => part.1 :: part.2)]

def sampleParagraphs (samples : SortedMap String (List DuplicateSample)) :
    List (String × List String) :=
  samples.entries.map fun (name, found) => (seriesHeading name, found.map duplicateLine)

/-- The paragraphs of a report, each a heading and its items. -/
def paragraphs (v : Validation) (detailed : Bool) : List (String × List String) :=
  v.sentenceParagraphs ++
    (familyParagraphs v.sizes detailed ++ sampleParagraphs v.duplicateSamples)

@[simp] theorem isEmpty_sizes (v : Validation) : v.sizes.isEmpty = v.duplicateFamilies.isEmpty := by
  simp [sizes, SortedMap.isEmpty, SortedMap.map]

theorem familyLines_eq (v : Validation) (detailed : Bool) :
    v.familyLines detailed =
      (familyParagraphs v.sizes detailed).flatMap fun part => part.1 :: part.2 := by
  rw [familyLines, familyParagraphs, isEmpty_sizes]
  split
  · rfl
  · rw [List.flatMap_singleton, familyParts, sizes, SortedMap.map, List.map_map, List.flatMap_map]
    refine congrArg _ (List.flatMap_congr fun entry _ => ?_)
    dsimp only [Function.comp_apply]
    rw [List.map_map]
    rfl

theorem report_eq (v : Validation) (detailed : Bool) :
    v.report detailed = (v.paragraphs detailed).flatMap fun part => part.1 :: part.2 := by
  have samples : (sampleParagraphs v.duplicateSamples).flatMap (fun part => part.1 :: part.2) =
      v.duplicateSamples.entries.flatMap fun (name, found) => sampleLines name found :=
    List.flatMap_map _ _ _
  rw [report, paragraphs, sentenceParagraphs, List.flatMap_append, List.flatMap_append, samples,
    ← familyLines_eq]
  split
  · next clean =>
      rw [isClean, Bool.and_eq_true] at clean
      have noSamples : v.duplicateSamples.entries = [] := List.isEmpty_iff.mp clean.2
      rw [familyLines, if_pos clean.1, noSamples]
      rfl
  · rfl

/-- Headings stand at the margin and items do not. -/
def AreSound (parts : List (String × List String)) : Prop :=
  ∀ part ∈ parts, isItem part.1 = false ∧ ∀ line ∈ part.2, isItem line = true

theorem sound_sentenceParagraphs (v : Validation) : AreSound v.sentenceParagraphs := by
  intro part member
  rw [sentenceParagraphs] at member
  split at member
  · rw [List.mem_singleton.mp member]
    exact ⟨by decide +kernel, List.forall_mem_nil _⟩
  · cases member

theorem isItem_of_mem_familyParts {sizes : SortedMap String (List (MetricType × Nat))}
    {detailed : Bool} {part : String × List String} (member : part ∈ familyParts sizes detailed) :
    ∀ line ∈ part.1 :: part.2, isItem line = true := by
  obtain ⟨entry, -, rfl⟩ := List.mem_map.mp member
  refine List.forall_mem_cons.mpr ⟨isItem_item _, fun line listed => ?_⟩
  dsimp only at listed
  split at listed
  · obtain ⟨outline, -, rfl⟩ := List.mem_map.mp listed
    exact isItem_item _
  · cases listed

theorem sound_familyParagraphs (sizes : SortedMap String (List (MetricType × Nat)))
    (detailed : Bool) : AreSound (familyParagraphs sizes detailed) := by
  have heading : isItem "The following metric families are duplicated:" = false := by
    decide +kernel
  intro part member
  rw [familyParagraphs] at member
  split at member
  · cases member
  · rw [List.mem_singleton.mp member]
    refine ⟨heading, fun line listed => ?_⟩
    obtain ⟨part, inParts, listed⟩ := List.mem_flatMap.mp listed
    exact isItem_of_mem_familyParts inParts line listed

theorem sound_sampleParagraphs (samples : SortedMap String (List DuplicateSample)) :
    AreSound (sampleParagraphs samples) := by
  intro part member
  obtain ⟨entry, -, rfl⟩ := List.mem_map.mp member
  have heading : isItem (seriesHeading entry.1) = false := by
    rw [isItem, head?_seriesHeading]
    rfl
  refine ⟨heading, fun line listed => ?_⟩
  obtain ⟨d, -, rfl⟩ := List.mem_map.mp listed
  exact isItem_item _

theorem sound_paragraphs (v : Validation) (detailed : Bool) : AreSound (v.paragraphs detailed) :=
  List.forall_mem_append.mpr ⟨v.sound_sentenceParagraphs, List.forall_mem_append.mpr
    ⟨sound_familyParagraphs v.sizes detailed, sound_sampleParagraphs v.duplicateSamples⟩⟩

/-- What a report has on families and what it has on series can be told from all its paragraphs. -/
theorem filter_paragraphs (v : Validation) (detailed : Bool) :
    (v.paragraphs detailed).filter (fun part => part.1.toList.head? = some 'T') =
        familyParagraphs v.sizes detailed ∧
      (v.paragraphs detailed).filter (fun part => part.1.toList.head? = some 'M') =
        sampleParagraphs v.duplicateSamples := by
  have sentence : ∀ part ∈ v.sentenceParagraphs, part.1.toList.head? = some 'N' := by
    intro part member
    rw [sentenceParagraphs] at member
    split at member
    · rw [List.mem_singleton.mp member]
      rfl
    · cases member
  have family : ∀ part ∈ familyParagraphs v.sizes detailed, part.1.toList.head? = some 'T' := by
    intro part member
    rw [familyParagraphs] at member
    split at member
    · cases member
    · rw [List.mem_singleton.mp member]
      simp
  have sample : ∀ part ∈ sampleParagraphs v.duplicateSamples, part.1.toList.head? = some 'M' := by
    intro part member
    obtain ⟨entry, -, rfl⟩ := List.mem_map.mp member
    exact head?_seriesHeading entry.1
  have on {group : List (String × List String)} {initial : Char}
      (same : ∀ part ∈ group, part.1.toList.head? = some initial) (c : Char) :
      group.filter (fun part => part.1.toList.head? = some c) =
        if initial = c then group else [] := by
    split
    · next here =>
        rw [List.filter_eq_self]
        intro part member
        rw [same part member, here, decide_eq_true_eq]
    · next other =>
        rw [List.filter_eq_nil_iff]
        intro part member
        rw [same part member, decide_eq_true_eq, Option.some_inj]
        exact other
  simp only [paragraphs, List.filter_append, on sentence, on family, on sample]
  exact ⟨by simp, by simp⟩

section Families

variable {sizes sizes' : SortedMap String (List (MetricType × Nat))} {detailed : Bool}

@[simp]
theorem isEmpty_familyParts (sizes : SortedMap String (List (MetricType × Nat))) (detailed : Bool) :
    (familyParts sizes detailed).isEmpty = sizes.isEmpty := by
  simp [familyParts, SortedMap.isEmpty]

theorem items_familyParagraphs :
    (familyParagraphs sizes detailed).flatMap (·.2) =
      (familyParts sizes detailed).flatMap fun part => part.1 :: part.2 := by
  rw [familyParagraphs, ← isEmpty_familyParts sizes detailed]
  split
  · next empty =>
      rw [List.isEmpty_iff.mp empty]
      rfl
  · rw [List.flatMap_singleton]

/-- The names stand one tab deep and the blocks two. -/
theorem sound_familyParts (named : ∀ entry ∈ sizes.entries, IsMetricName entry.1) :
    ∀ part ∈ familyParts sizes detailed,
      isDetail part.1.toList = false ∧ ∀ line ∈ part.2, isDetail line.toList = true := by
  intro part member
  obtain ⟨entry, inMap, rfl⟩ := List.mem_map.mp member
  refine ⟨?_, fun line listed => ?_⟩
  · rw [isDetail_item, (named entry inMap).isItem]
  · dsimp only at listed
    split at listed
    · obtain ⟨outline, -, rfl⟩ := List.mem_map.mp listed
      rw [outlineLine, isDetail_item, isItem_item]
    · cases listed

theorem familyParagraphs_eq_iff (named : ∀ entry ∈ sizes.entries, IsMetricName entry.1)
    (named' : ∀ entry ∈ sizes'.entries, IsMetricName entry.1) :
    familyParagraphs sizes detailed = familyParagraphs sizes' detailed ↔
      familyParts sizes detailed = familyParts sizes' detailed := by
  constructor
  · intro same
    have items := congrArg (List.flatMap (·.2)) same
    rw [items_familyParagraphs, items_familyParagraphs] at items
    exact paragraphs_inj (fun line => isDetail line.toList) (sound_familyParts named)
      (sound_familyParts named') items
  · intro same
    rw [familyParagraphs, familyParagraphs, ← isEmpty_familyParts sizes detailed, same,
      isEmpty_familyParts]

/-- Without the blocks, only the names are told. -/
theorem familyParts_plain_eq_iff :
    familyParts sizes false = familyParts sizes' false ↔ sizes.keys = sizes'.keys := by
  have names (sizes : SortedMap String (List (MetricType × Nat))) :
      familyParts sizes false = sizes.keys.map fun name => (item name, []) := by
    rw [familyParts, SortedMap.keys, List.map_map]
    rfl
  rw [names, names]
  exact List.map_inj_right fun name name' same => item_inj (Prod.mk.inj same).1

theorem familyParts_detailed_eq_iff :
    familyParts sizes true = familyParts sizes' true ↔ sizes = sizes' := by
  constructor
  · intro same
    refine SortedMap.ext_entries ((List.map_inj_right fun entry entry' same => ?_).mp same)
    obtain ⟨names, blocks⟩ := Prod.mk.inj same
    exact Prod.ext (item_inj names) ((List.map_inj_right fun _ _ => outlineLine_inj).mp blocks)
  · exact fun same => by rw [same]

end Families

theorem sampleParagraphs_inj {samples samples' : SortedMap String (List DuplicateSample)}
    (series : ∀ entry ∈ samples.entries, ∀ d ∈ entry.2, d.identity.WellFormed)
    (series' : ∀ entry ∈ samples'.entries, ∀ d ∈ entry.2, d.identity.WellFormed)
    (same : sampleParagraphs samples = sampleParagraphs samples') : samples = samples' := by
  refine SortedMap.ext_entries (map_injOn ?_ series series' same)
  intro entry entry' here here' same
  obtain ⟨names, lines⟩ := Prod.mk.inj same
  exact Prod.ext (seriesHeading_inj names) (map_injOn duplicateLine_inj here here' lines)

/-- The same families of several blocks, and the same series with the same counts. -/
structure SameFindings (v w : Validation) : Prop where
  families : v.duplicateFamilies.keys = w.duplicateFamilies.keys
  samples : v.duplicateSamples = w.duplicateSamples

/-- In addition, blocks of the same types and sizes in the same order. -/
structure SameDetails (v w : Validation) : Prop extends SameFindings v w where
  sizes : v.sizes = w.sizes

variable {v w : Validation} {detailed : Bool}

theorem WellFormed.sizes (h : v.WellFormed) :
    ∀ entry ∈ v.sizes.entries, IsMetricName entry.1 := by
  intro entry member
  obtain ⟨found, inMap, rfl⟩ := List.mem_map.mp member
  exact h.duplicateFamilies found inMap

theorem WellFormed.report_eq_iff_parts (h : v.WellFormed) (h' : w.WellFormed) :
    v.report detailed = w.report detailed ↔
      familyParts v.sizes detailed = familyParts w.sizes detailed ∧
        v.duplicateSamples = w.duplicateSamples := by
  rw [← familyParagraphs_eq_iff h.sizes h'.sizes, report_eq, report_eq]
  constructor
  · intro same
    have paragraphs :=
      paragraphs_inj isItem (sound_paragraphs v detailed) (sound_paragraphs w detailed) same
    obtain ⟨families, samples⟩ := filter_paragraphs v detailed
    obtain ⟨families', samples'⟩ := filter_paragraphs w detailed
    rw [paragraphs] at families samples
    exact ⟨families.symm.trans families',
      sampleParagraphs_inj (fun entry member => (h.duplicateSamples entry member).2)
        (fun entry member => (h'.duplicateSamples entry member).2) (samples.symm.trans samples')⟩
  · intro same
    obtain ⟨families, samples⟩ := same
    have items := (familyParagraphs_eq_iff h.sizes h'.sizes).mp families
    have clean : v.isClean = w.isClean := by
      rw [isClean, isClean, ← isEmpty_sizes, ← isEmpty_sizes, samples,
        ← isEmpty_familyParts v.sizes detailed, items, isEmpty_familyParts]
    rw [paragraphs, paragraphs, sentenceParagraphs, sentenceParagraphs, clean, families, samples]

theorem WellFormed.report_plain_eq_iff (h : v.WellFormed) (h' : w.WellFormed) :
    v.report false = w.report false ↔ v.SameFindings w := by
  have keys (v : Validation) : v.sizes.keys = v.duplicateFamilies.keys := by
    simp [Validation.sizes, SortedMap.keys, SortedMap.map]
  rw [h.report_eq_iff_parts h', familyParts_plain_eq_iff, keys, keys]
  exact ⟨fun same => ⟨same.1, same.2⟩, fun same => ⟨same.families, same.samples⟩⟩

theorem WellFormed.report_detailed_eq_iff (h : v.WellFormed) (h' : w.WellFormed) :
    v.report true = w.report true ↔ v.SameDetails w := by
  rw [h.report_eq_iff_parts h', familyParts_detailed_eq_iff]
  constructor
  · intro same
    obtain ⟨sizes, samples⟩ := same
    have plain := congrArg (familyParts · false) sizes
    exact ⟨(h.report_plain_eq_iff h').mp ((h.report_eq_iff_parts h').mpr ⟨plain, samples⟩), sizes⟩
  · exact fun same => ⟨same.sizes, same.samples⟩

theorem WellFormed.familyLines_plain (h : v.WellFormed) :
    v.familyLines false = (v.familyLines true).filter fun line => !isDetail line.toList := by
  have entry : ∀ e ∈ v.duplicateFamilies.entries,
      [item e.1] = (item e.1 :: e.2.map blockLine).filter fun line => !isDetail line.toList := by
    intro e member
    have name : isDetail (item e.1).toList = false := by
      rw [isDetail_item, (h.duplicateFamilies e member).isItem]
    have blocks : (e.2.map blockLine).filter (fun line => !isDetail line.toList) = [] := by
      rw [List.filter_eq_nil_iff]
      intro line listed
      obtain ⟨f, -, rfl⟩ := List.mem_map.mp listed
      rw [blockLine, isDetail_item, isItem_item]
      decide
    rw [List.filter_cons_of_pos (by rw [name]; rfl), blocks]
  have heading : isDetail "The following metric families are duplicated:".toList = false := by
    decide +kernel
  rw [familyLines, familyLines]
  split
  · rfl
  · rw [List.filter_cons_of_pos (by rw [heading]; rfl), List.filter_flatMap]
    exact congrArg _ (List.flatMap_congr entry)

/-- A displayed series starts with its name, so it is one tab deep like every item. -/
theorem filter_sampleLines (name : String) {found : List DuplicateSample}
    (series : ∀ d ∈ found, d.identity.WellFormed) :
    (sampleLines name found).filter (fun line => !isDetail line.toList) =
      sampleLines name found := by
  rw [List.filter_eq_self]
  intro line listed
  rw [Bool.not_eq_true']
  cases List.mem_cons.mp listed with
  | inl heading =>
      rw [heading]
      exact isDetail_of_isItem (by simp [isItem])
  | inr items =>
      obtain ⟨d, inFound, rfl⟩ := List.mem_map.mp items
      rw [isDetail_item, Identity.display, String.append_assoc, String.append_assoc,
        String.append_assoc]
      exact (series d inFound).name.isItem_append _

/-- In a plain report the lines on blocks are missing and nothing else. -/
theorem WellFormed.report_plain (h : v.WellFormed) :
    v.report false = (v.report true).filter fun line => !isDetail line.toList := by
  have samples : ∀ e ∈ v.duplicateSamples.entries, sampleLines e.1 e.2 =
      (sampleLines e.1 e.2).filter fun line => !isDetail line.toList :=
    fun e member => (filter_sampleLines e.1 (h.duplicateSamples e member).2).symm
  rw [report, report]
  split
  · decide +kernel
  · rw [List.filter_append, ← h.familyLines_plain, List.filter_flatMap]
    exact congrArg _ (List.flatMap_congr samples)

/-- The text of a report tells its lines. -/
theorem WellFormed.intercalate_report_eq_iff (h : v.WellFormed) (h' : w.WellFormed) :
    "\n".intercalate (v.report detailed) = "\n".intercalate (w.report detailed) ↔
      v.report detailed = w.report detailed := by
  constructor
  · intro same
    have lines := h.splitOn_report detailed
    rw [same, h'.splitOn_report] at lines
    exact ((List.map_inj_right fun _ _ => String.toList_inj.mp).mp lines).symm
  · exact fun same => by rw [same]

end Validation

/-- A report for people on a dump that was read tells the families of several blocks and the series
    of several samples with their counts, in detail also the types and sizes of the blocks, and
    nothing else. What a detailed report has in addition are the lines that start with two tabs. -/
theorem validation_report_faithful {a b : Dump} (isReadA : a.IsRead) (isReadB : b.IsRead) :
    (((Report.validation (validate a)).render (.human false)).toUTF8 =
        ((Report.validation (validate b)).render (.human false)).toUTF8 ↔
      (validate a).SameFindings (validate b)) ∧
    (((Report.validation (validate a)).render (.human true)).toUTF8 =
        ((Report.validation (validate b)).render (.human true)).toUTF8 ↔
      (validate a).SameDetails (validate b)) ∧
    ((Report.validation (validate a)).render (.human false)).toList.splitOn '\n' =
      (((Report.validation (validate a)).render (.human true)).toList.splitOn '\n').filter
        fun line => !isDetail line := by
  have first := isReadA.validate
  have second := isReadB.validate
  refine ⟨?_, ?_, ?_⟩
  · rw [← first.report_plain_eq_iff second, ← first.intercalate_report_eq_iff second]
    exact String.toByteArray_inj
  · rw [← first.report_detailed_eq_iff second, ← first.intercalate_report_eq_iff second]
    exact String.toByteArray_inj
  · rw [Report.render, Report.render, Report.lines, Report.lines, first.splitOn_report,
      first.splitOn_report, first.report_plain, List.filter_map]
    rfl

/-- The label value of the one series, written without escapes, would make its line the lines of two
    series. -/
theorem validation_report_faithful_forgery :
    ∃ a b : Dump,
      Dump.ofText ("x\x7bl=\"1\\\"\x7d (2 occurrences)\\n\tx\x7bl=\\\"2\"\x7d 0\n" ++
        "x\x7bl=\"1\\\"\x7d (2 occurrences)\\n\tx\x7bl=\\\"2\"\x7d 0\n") = .ok a ∧
      Dump.ofText ("x\x7bl=\"1\"\x7d 0\nx\x7bl=\"1\"\x7d 0\n" ++
        "x\x7bl=\"2\"\x7d 0\nx\x7bl=\"2\"\x7d 0\n") = .ok b ∧
      ((Report.validation (validate a)).render (.human false)).toUTF8 ≠
        ((Report.validation (validate b)).render (.human false)).toUTF8 := by
  let sample (value : String) : Sample := ⟨⟨"x", SortedMap.empty.insert "l" value⟩, ⟨0⟩, none⟩
  let dump (samples : List Sample) : Dump := ⟨.memory, [⟨"x", .untyped, none, samples⟩]⟩
  let forged := sample "1\"\x7d (2 occurrences)\n\tx\x7bl=\"2"
  have readA : Dump.ofText
      ("x\x7bl=\"1\\\"\x7d (2 occurrences)\\n\tx\x7bl=\\\"2\"\x7d 0\n" ++
        "x\x7bl=\"1\\\"\x7d (2 occurrences)\\n\tx\x7bl=\\\"2\"\x7d 0\n") =
      .ok (dump [forged, forged]) := by
    decide +kernel
  have readB : Dump.ofText
      ("x\x7bl=\"1\"\x7d 0\nx\x7bl=\"1\"\x7d 0\n" ++
        "x\x7bl=\"2\"\x7d 0\nx\x7bl=\"2\"\x7d 0\n") =
      .ok (dump [sample "1", sample "1", sample "2", sample "2"]) := by
    decide +kernel
  refine ⟨_, _, readA, readB, fun same => ?_⟩
  have isReadA := Dump.isRead_of_ofText readA
  have isReadB := Dump.isRead_of_ofText readB
  have findings := (validation_report_faithful isReadA isReadB).1.mp same
  exact absurd findings.samples (by decide +kernel)

end Exposition
