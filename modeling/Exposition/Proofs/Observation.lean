import Exposition.Proofs.Line.SampleSpelling
import Exposition.Proofs.Reading
import Exposition.Proofs.Rearrangement

/-! # Values and times have no part in the findings

Putting another value or another time on a sample line changes one sample and nothing else. Lines
are grouped by names and labels alone, so the blocks stay as they are but for that sample, and no
check looks at what is different. This is shown by forgetting values and times: the blocks of lines
that have forgotten them are the blocks of the lines, which then forget them, too.
-/

namespace Exposition

/-- The line as it was, or a sample line with another value and with another time or none. What is
    in front of the value stays. -/
inductive OtherObservation : List Char → List Char → Prop where
  | same (line) : OtherObservation line line
  | sample {line line' front token token' back back'} :
      IsSplit line front token back → IsSplit line' front token' back' → OtherObservation line line'

/-- Some sample of the same series. -/
def Sample.bare (s : Sample) : Sample := ⟨s.identity, ⟨0⟩, none⟩

def Line.bare : Line → Line
  | .sample s => .sample s.bare
  | line => line

def Block.bare (b : Block) : Block :=
  { b with samplesReversed := b.samplesReversed.map Sample.bare }

def Family.bare (f : Family) : Family := { f with samples := f.samples.map Sample.bare }

def Dump.bare (d : Dump) : Dump := { d with families := d.families.map Family.bare }

@[simp] theorem Sample.name_bare (s : Sample) : s.bare.name = s.name := rfl

@[simp] theorem Family.name_bare (f : Family) : f.bare.name = f.name := rfl

@[simp] theorem opening?_bare (line : Line) :
    Block.opening? line.bare = (Block.opening? line).map Block.bare := by
  cases line <;> rfl

theorem take?_bare (b : Block) (line : Line) :
    b.bare.take? line.bare = (b.take? line).map Block.bare := by
  have empty : b.bare.samplesReversed.isEmpty = b.samplesReversed.isEmpty := List.isEmpty_map
  cases line with
  | blank | comment => rfl
  | help | type =>
      simp only [Line.bare]
      rw [Block.take?, Block.take?, empty, apply_ite (Option.map Block.bare)]
      rfl
  | sample s =>
      rw [Line.bare, Block.take?, Block.take?, apply_ite (Option.map Block.bare)]
      rfl

@[simp] theorem close_bare (b : Block) : b.bare.close = b.close.bare := by
  simp [Block.bare, Block.close, Family.bare]

/-- Neither what a line does to a block nor what it opens depends on what is forgotten. -/
theorem familiesAfter_bare (b : Option Block) (ls : List Line) :
    familiesAfter (b.map Block.bare) (ls.map Line.bare) = (familiesAfter b ls).map Family.bare := by
  induction ls generalizing b with
  | nil =>
      cases b with
      | none => rfl
      | some b => simp [familiesAfter]
  | cons line rest ih =>
      cases b with
      | none =>
          rw [Option.map_none, List.map_cons, familiesAfter, familiesAfter, opening?_bare, ih]
      | some b =>
          rw [Option.map_some, List.map_cons, familiesAfter, familiesAfter, take?_bare]
          cases b.take? line with
          | none => simp [ih]
          | some b => exact ih (some b)

@[simp] theorem familiesOfLines_bare (ls : List Line) :
    familiesOfLines (ls.map Line.bare) = (familiesOfLines ls).map Family.bare :=
  familiesAfter_bare none ls

/-- What a family says about itself, and the series of its samples in source order. -/
def Family.outline (f : Family) : Metadata × List Identity :=
  (f.metadata, f.samples.map (·.identity))

@[simp] theorem Family.outline_bare (f : Family) : f.bare.outline = f.outline := by
  simp [outline, bare, metadata, Sample.bare, Function.comp_def]

section Bare

variable (d : Dump)

@[simp] theorem Dump.blocks_bare (name : String) :
    d.bare.blocks name = (d.blocks name).map Family.bare := by
  rw [blocks, bare, List.filter_map]
  rfl

@[simp]
theorem Dump.identities_bare (name : String) : d.bare.identities name = d.identities name := by
  simp [identities, Family.bare, Sample.bare, List.flatMap_map, ← List.map_flatMap,
    Function.comp_def]

@[simp] theorem Dump.names_bare : d.bare.names = d.names := by
  simp [names, bare]

@[simp] theorem Dump.metadata?_bare (name : String) : d.bare.metadata? name = d.metadata? name := by
  rw [metadata?, bare, List.find?_map, Option.map_map]
  rfl

theorem sameSamples_bare : SameSamples d.bare d :=
  ⟨d.names_bare, fun name => by rw [d.identities_bare]⟩

theorem sameContents_bare : SameContents d.bare d := by
  refine ⟨d.names_bare, fun name => ?_, d.metadata?_bare⟩
  ext identity
  rw [← Dump.mem_identities, ← Dump.mem_identities, d.identities_bare]

theorem find?_duplicateFamilies (name : String) :
    (validate d).duplicateFamilies.find? name =
      if 2 ≤ (d.blocks name).length then some (d.blocks name) else none := by
  apply Option.ext
  intro found
  rw [find?_duplicateFamilies_eq_some_iff, Option.ite_none_right_eq_some, Option.some.injEq]
  constructor
  · rintro ⟨rfl, several⟩
    exact ⟨several, rfl⟩
  · rintro ⟨several, rfl⟩
    exact ⟨rfl, several⟩

/-- What a validation says of the blocks that share a name, values and times left out. -/
def Validation.outlines (v : Validation) : SortedMap String (List (Metadata × List Identity)) :=
  v.duplicateFamilies.map fun _ blocks => blocks.map Family.outline

theorem outlines_bare : (validate d.bare).outlines = (validate d).outlines := by
  apply SortedMap.ext_find?
  intro name
  simp only [Validation.outlines, SortedMap.find?_map, find?_duplicateFamilies, d.blocks_bare,
    List.length_map]
  split <;> simp [Function.comp_def]

end Bare

theorem OtherObservation.read {line line' : List Char} (h : OtherObservation line line')
    {read : Line} (isRead : Line.read line = .ok read) :
    ∃ read', Line.read line' = .ok read' ∧ read'.bare = read.bare := by
  cases h with
  | same => exact ⟨read, isRead, rfl⟩
  | sample split split' =>
      obtain ⟨rfl, ⟨identity, isFront⟩, ⟨value, isValue⟩, ⟨timestamp, isBack⟩⟩ := split
      obtain ⟨rfl, -, ⟨value', isValue'⟩, ⟨timestamp', isBack'⟩⟩ := split'
      have before : SpelledSample ⟨identity, value, timestamp⟩ _ := .intro isFront isValue isBack
      have after : SpelledSample ⟨identity, value', timestamp'⟩ _ := .intro isFront isValue' isBack'
      rw [read_eq_sample_iff_spelled.mpr before] at isRead
      cases isRead
      exact ⟨_, read_eq_sample_iff_spelled.mpr after, rfl⟩

theorem exists_read_other {ls ls' : List (List Char)}
    (other : List.Forall₂ OtherObservation ls ls') {read : List Line}
    (isRead : List.Forall₂ (fun line read => Line.read line = .ok read) ls read) :
    ∃ read', List.Forall₂ (fun line read => Line.read line = .ok read) ls' read' ∧
      read'.map Line.bare = read.map Line.bare := by
  induction other generalizing read with
  | nil =>
      cases isRead
      exact ⟨[], .nil, rfl⟩
  | cons first _ ih =>
      cases isRead with
      | cons here later =>
          obtain ⟨one, here', same⟩ := first.read here
          obtain ⟨more, later', same'⟩ := ih later
          exact ⟨one :: more, .cons here' later', by rw [List.map_cons, List.map_cons, same, same']⟩

theorem exists_ofText_other {text text' : String} {d : Dump} (h : Dump.ofText text = .ok d)
    (other : LineByLine OtherObservation text.toList text'.toList) :
    ∃ d', Dump.ofText text' = .ok d' ∧ d'.bare = d.bare := by
  obtain ⟨read, isRead, rfl⟩ := Dump.ofText_eq_ok_iff.mp h
  obtain ⟨read', isRead', same⟩ := exists_read_other other.lines isRead
  refine ⟨_, Dump.ofText_eq_ok_iff.mpr ⟨read', isRead', rfl⟩, ?_⟩
  simp only [Dump.bare, ← familiesOfLines_bare, same]

/-- Every sample line has one value and one rest behind it. Whatever valid value and time or none
    are put in their place, on any of the lines of a text that is read, the text is still read, and
    there is nothing to report that there was not before. -/
theorem findings_of_otherObservations :
    (∀ (line : List Char) (s : Sample), Line.read line = .ok (.sample s) →
      ∃! split : List Char × List Char × List Char, IsSplit line split.1 split.2.1 split.2.2) ∧
    ∀ (text text' : String) (d : Dump), Dump.ofText text = .ok d →
      LineByLine OtherObservation text.toList text'.toList →
        ∃ d', Dump.ofText text' = .ok d' ∧
          (diff d d').isEmpty = true ∧ (diff d' d).isEmpty = true ∧
          (validate d').duplicateSamples = (validate d).duplicateSamples ∧
          (validate d').outlines = (validate d).outlines := by
  refine ⟨fun _ _ => existsUnique_split, fun text text' d h other => ?_⟩
  obtain ⟨d', h', same⟩ := exists_ofText_other h other
  have contents : SameContents d d' :=
    sameContents_equivalence.trans (sameContents_equivalence.symm (sameContents_bare d))
      (same ▸ sameContents_bare d')
  refine ⟨d', h', isEmpty_diff_iff.mpr contents,
    isEmpty_diff_iff.mpr (sameContents_equivalence.symm contents), ?_, ?_⟩
  · rw [← (sameSamples_bare d').duplicateSamples, same, (sameSamples_bare d).duplicateSamples]
  · rw [← outlines_bare d', same, outlines_bare d]

/-- One line gets a time, another one loses it, and the values are no longer finite. -/
theorem lineByLine_otherObservation :
    LineByLine OtherObservation "n\x7ba=\"x\"\x7d 1\n# c\r\nn 2 7".toList
      "n\x7ba=\"x\"\x7d NaN 5\n# c\r\nn -Inf ".toList := by
  have gap : IsGap [' '] := ⟨by decide, by decide⟩
  have time (digit : Char) (t : Int64) (h : timestamp? [digit] = .ok (some (t, []))) :
      ∃ timestamp, SpelledBack timestamp [' ', digit] :=
    ⟨some t, @SpelledBack.some t [' '] [digit] [] gap h (by decide)⟩
  have pair : SpelledPair ("a", "x") ['a', '=', '"', 'x', '"'] :=
    @SpelledPair.intro "a" "x" [] [] [] ['x'] [] (by decide) (by decide) (by decide) (by decide)
      (.plain (by decide) (by decide) .nil) (by decide)
  have labelled : ∃ identity, SpelledFront identity "n\x7ba=\"x\"\x7d ".toList :=
    ⟨⟨"n", _⟩, @SpelledFront.intro "n" _ [] "\x7ba=\"x\"\x7d".toList [' '] (by decide) (by decide)
      (@SpelledLabels.some _ _ [] _ (by decide) (.list (.last pair)) rfl) gap⟩
  have plain : ∃ identity, SpelledFront identity "n ".toList :=
    ⟨⟨"n", _⟩, @SpelledFront.intro "n" _ [] [] [' '] (by decide) (by decide) .none gap⟩
  have first : OtherObservation "n\x7ba=\"x\"\x7d 1".toList "n\x7ba=\"x\"\x7d NaN 5".toList :=
    @OtherObservation.sample _ _ _ ['1'] ['N', 'a', 'N'] [] [' ', '5']
      ⟨rfl, labelled, ⟨_, rfl⟩, ⟨_, .none (by decide)⟩⟩
      ⟨rfl, labelled, ⟨_, rfl⟩, time '5' 5 rfl⟩
  have last : OtherObservation "n 2 7".toList "n -Inf ".toList :=
    @OtherObservation.sample _ _ _ ['2'] ['-', 'I', 'n', 'f'] [' ', '7'] [' ']
      ⟨rfl, plain, ⟨_, rfl⟩, time '7' 7 rfl⟩ ⟨rfl, plain, ⟨_, rfl⟩, ⟨_, .none (by decide)⟩⟩
  exact .feed ⟨by decide, by decide⟩ ⟨by decide, by decide⟩ first
    (.returnFeed (by decide) (by decide) (.same "# c".toList)
      (.last (by decide) (by decide) (by decide) (by decide) last))

theorem findings_of_otherObservations_infinite :
    ∃ d d', Dump.ofText "n\x7ba=\"x\"\x7d 1\n# c\r\nn 2 7" = .ok d ∧
      LineByLine OtherObservation "n\x7ba=\"x\"\x7d 1\n# c\r\nn 2 7".toList
        "n\x7ba=\"x\"\x7d NaN 5\n# c\r\nn -Inf ".toList ∧
      Dump.ofText "n\x7ba=\"x\"\x7d NaN 5\n# c\r\nn -Inf " = .ok d' ∧
      (diff d d').isEmpty = true ∧ (diff d' d).isEmpty = true ∧
      (validate d').duplicateSamples = (validate d).duplicateSamples ∧
      (validate d').outlines = (validate d).outlines := by
  have readable : (Dump.ofText "n\x7ba=\"x\"\x7d 1\n# c\r\nn 2 7").isOk = true := by
    decide +kernel
  cases read : Dump.ofText "n\x7ba=\"x\"\x7d 1\n# c\r\nn 2 7" with
  | error e => simp [read, Except.isOk, Except.toBool] at readable
  | ok d =>
      obtain ⟨d', read', findings⟩ :=
        findings_of_otherObservations.2 _ _ d read lineByLine_otherObservation
      exact ⟨d, d', rfl, lineByLine_otherObservation, read', findings⟩

end Exposition
