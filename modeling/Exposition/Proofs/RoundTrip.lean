import Exposition.Proofs.Line.Written
import Exposition.Proofs.Segmentation

/-! # Written texts read back

Families are written one after the other, each with its type line, its help line if it has a help
text, and its samples. The type line is what keeps families apart: a block takes only one, so no
family runs into the next, whatever their names and even if one has no samples.
-/

namespace Exposition

/-- The lines that a family is written in. -/
def Family.lines (f : Family) : List Line :=
  .type f.name f.type :: ((f.help.map (.help f.name)).toList ++ f.samples.map .sample)

/-- The text is one of those that families are written as; they differ in the tokens of values and
    in blanks. -/
def Writes (text : String) (fs : List Family) : Prop :=
  ∃ written, List.Forall₂ Line.WrittenAs (fs.flatMap Family.lines) written ∧
    text.toList = written.flatMap (· ++ ['\n'])

/-- All values of the family can be read. -/
def Family.IsReadable (f : Family) : Prop := ∀ s ∈ f.samples, s.value.IsReadable

theorem Family.mem_lines {f : Family} {line : Line} :
    line ∈ f.lines ↔ line = .type f.name f.type ∨ (∃ text ∈ f.help, line = .help f.name text) ∨
      ∃ s ∈ f.samples, line = .sample s := by
  simp only [lines, List.mem_cons, List.mem_append, Option.mem_toList, Option.map_eq_some_iff,
    List.mem_map, eq_comm (a := line), Option.mem_def]

theorem Family.lines_eq (f : Family) :
    ∃ preamble, Preamble f.name preamble (some f.type) f.help ∧
      f.lines = preamble ++ f.samples.map .sample := by
  obtain ⟨name, type, help?, samples⟩ := f
  cases help? with
  | none => exact ⟨_, .type type, rfl⟩
  | some text => exact ⟨_, .typeHelp type text, rfl⟩

theorem Family.WellFormed.isRun {f : Family} (h : f.WellFormed) :
    IsRun f.lines f.name (some f.type) f.help f.samples := by
  obtain ⟨preamble, declares, split⟩ := f.lines_eq
  rw [split]
  exact .declared f.samples declares h.accepts

theorem Family.WellFormed.stops {f : Family} (h : f.WellFormed) (g : Family) :
    Stops f.lines g.lines := by
  have held : Block.Holds ⟨f.name, some f.type, f.help, f.samples.reverse⟩ f.lines := by
    simpa [Block.Holds] using h.isRun
  have refused : Block.take? ⟨f.name, some f.type, f.help, f.samples.reverse⟩
      (.type g.name g.type) = none := by
    simp [Block.take?]
  exact held.stops refused rfl

theorem greedyRuns_lines {fs : List Family} (h : ∀ f ∈ fs, f.WellFormed) :
    GreedyRuns (fs.flatMap Family.lines) (fs.map Family.lines) := by
  refine ⟨?_, rfl, ?_⟩
  · intro run hr
    obtain ⟨f, hf, rfl⟩ := List.mem_map.mp hr
    exact ⟨f, some f.type, (h f hf).isRun, rfl⟩
  · induction fs with
    | nil => exact .nil
    | cons f rest ih =>
        obtain ⟨here, h⟩ := List.forall_mem_cons.mp h
        cases rest with
        | nil => exact .singleton _
        | cons g rest => exact List.isChain_cons_cons.mpr ⟨here.stops g, ih h⟩

theorem carries_lines {fs : List Family} (h : ∀ f ∈ fs, f.WellFormed) :
    List.Forall₂ Family.Carries fs (fs.map Family.lines) := by
  rw [List.forall₂_map_right_iff, List.forall₂_same]
  exact fun f hf => ⟨some f.type, (h f hf).isRun, rfl⟩

theorem Family.lines_isContent (f : Family) : ∀ line ∈ f.lines, line.isContent = true := by
  intro line hl
  rcases Family.mem_lines.mp hl with rfl | ⟨_, _, rfl⟩ | ⟨_, _, rfl⟩ <;> rfl

theorem familiesOfLines_lines {fs : List Family} (h : ∀ f ∈ fs, f.WellFormed) :
    familiesOfLines (fs.flatMap Family.lines) = fs := by
  have content : ∀ line ∈ fs.flatMap Family.lines, line.isContent = true := by
    intro line hl
    obtain ⟨f, -, hl⟩ := List.mem_flatMap.mp hl
    exact f.lines_isContent line hl
  refine familiesOfLines_eq_of_greedyRuns ?_ (carries_lines h)
  rw [List.filter_eq_self.mpr content]
  exact greedyRuns_lines h

theorem Family.WellFormed.lines {f : Family} (h : f.WellFormed) :
    ∀ line ∈ f.lines, line.WellFormed := by
  intro line hl
  rcases Family.mem_lines.mp hl with rfl | ⟨text, isHelp, rfl⟩ | ⟨s, hs, rfl⟩
  · exact h.name
  · exact ⟨h.name, h.help text isHelp⟩
  · exact h.samples s hs

theorem Preamble.wellFormed {name preamble type? help?} (h : Preamble name preamble type? help?)
    (lines : ∀ line ∈ preamble, line.WellFormed) :
    IsMetricName name ∧ ∀ text ∈ help?, IsHelpText text.toList := by
  cases h <;> simp_all [Line.WellFormed]

theorem Family.Carries.wellFormed {f : Family} {run : List Line} (h : f.Carries run)
    (lines : ∀ line ∈ run, line.WellFormed) : f.WellFormed := by
  have accepts := h.accepts
  obtain ⟨name, type, help?, samples⟩ := f
  obtain ⟨type?, isRun, -⟩ := h
  cases isRun with
  | declared _ preamble _ =>
      obtain ⟨isName, isHelp⟩ := preamble.wellFormed fun line hl =>
        lines line (List.mem_append_left _ hl)
      have samples : ∀ s ∈ samples, s.WellFormed := fun s hs =>
        lines (.sample s) (List.mem_append_right _ (List.mem_map_of_mem hs))
      exact ⟨isName, isHelp, samples, accepts⟩
  | implicit _ nonempty named =>
      have samples : ∀ s ∈ samples, s.WellFormed := fun s hs =>
        lines (.sample s) (List.mem_map_of_mem hs)
      obtain ⟨s, hs⟩ := List.exists_mem_of_ne_nil _ nonempty
      have first : s.name = name := named s hs
      have isName : IsMetricName s.name := (samples s hs).name
      exact ⟨first ▸ isName, by simp, samples, accepts⟩

theorem wellFormed_of_linesOf {text : String} {read : List Line} (h : LinesOf text read) :
    ∀ line ∈ read, line.WellFormed := by
  intro line hl
  obtain ⟨cs, -, isRead⟩ := exists_mem_left h hl
  exact Line.wellFormed_of_read isRead

theorem wellFormed_of_familiesOfLines {ls : List Line} (h : ∀ line ∈ ls, line.WellFormed) :
    ∀ f ∈ familiesOfLines ls, f.WellFormed := by
  obtain ⟨runs, cut, carried⟩ := exists_greedyRuns_filter ls
  intro f hf
  obtain ⟨run, hr, carries⟩ := exists_mem_right carried hf
  refine carries.wellFormed fun line hl => h line ?_
  have mem : line ∈ runs.flatten := List.mem_flatten_of_mem hr hl
  rw [cut.flatten] at mem
  exact List.mem_of_mem_filter mem

theorem Writes.linesOf {text : String} {fs : List Family} (h : Writes text fs)
    (wellFormed : ∀ f ∈ fs, f.WellFormed) : LinesOf text (fs.flatMap Family.lines) := by
  obtain ⟨written, isWritten, split⟩ := h
  have lines : ∀ line ∈ fs.flatMap Family.lines, line.WellFormed := by
    intro line hl
    obtain ⟨f, hf, hl⟩ := List.mem_flatMap.mp hl
    exact (wellFormed f hf).lines line hl
  have both := (List.forall₂_and_left _ _).mpr ⟨lines, isWritten⟩
  have isText : ∀ cs ∈ written, IsLineText cs := by
    intro cs hc
    obtain ⟨line, -, good, isWritten⟩ := exists_mem_left both hc
    exact isWritten.isLineText good
  rw [LinesOf, split, lines_flatMap_feed isText]
  exact (both.imp fun line cs h => h.2.read h.1).flip

theorem Writes.familiesOfText {text : String} {fs : List Family} (h : Writes text fs)
    (wellFormed : ∀ f ∈ fs, f.WellFormed) : familiesOfText text = .ok fs :=
  familiesOfText_eq_ok_iff.mpr ⟨_, h.linesOf wellFormed, familiesOfLines_lines wellFormed⟩

theorem Family.IsReadable.exists_writtenAs {f : Family} (h : f.IsReadable) :
    ∀ line ∈ f.lines, ∃ written, line.WrittenAs written := by
  intro line hl
  rcases Family.mem_lines.mp hl with rfl | ⟨text, -, rfl⟩ | ⟨s, hs, rfl⟩
  · exact ⟨_, .type f.name f.type⟩
  · exact ⟨_, .help f.name text⟩
  · obtain ⟨token, isToken⟩ := (h s hs).exists_token
    obtain ⟨time, isTime⟩ := exists_timeWrittenAs s.timestamp
    have blank : isBlank ' ' = true := rfl
    exact ⟨_, .sample s blank isToken isTime⟩

theorem exists_writes {fs : List Family} (h : ∀ f ∈ fs, f.IsReadable) : ∃ text, Writes text fs := by
  have each : ∀ line ∈ fs.flatMap Family.lines, ∃ written, line.WrittenAs written := by
    intro line hl
    obtain ⟨f, hf, hl⟩ := List.mem_flatMap.mp hl
    exact (h f hf).exists_writtenAs line hl
  obtain ⟨written, isWritten⟩ := exists_forall₂ each
  exact ⟨String.ofList (written.flatMap (· ++ ['\n'])), written, isWritten, String.toList_ofList⟩

theorem isReadable_of_linesOf {text : String} {read : List Line} (h : LinesOf text read) :
    ∀ f ∈ familiesOfLines read, f.IsReadable := by
  intro f hf s hs
  have mem : s ∈ read.filterMap Line.sample? := by
    rw [← flatMap_samples_familiesOfLines]
    exact List.mem_flatMap.mpr ⟨f, hf, hs⟩
  obtain ⟨line, hl, isSample⟩ := List.mem_filterMap.mp mem
  cases line with
  | sample s' =>
      cases isSample
      obtain ⟨cs, -, isRead⟩ := exists_mem_left h hl
      exact isReadable_of_read isRead
  | blank | comment | help | type => cases isSample

/-- Well-formed families are read back from every text that they are written as, and there is such a
    text unless a sample has a NaN that no text stands for. Nothing else is ever read. -/
theorem familiesOfText_written :
    (∀ (fs : List Family) (text : String), (∀ f ∈ fs, f.WellFormed) → Writes text fs →
      familiesOfText text = .ok fs) ∧
    (∀ fs : List Family, (∀ f ∈ fs, f.IsReadable) → ∃ text, Writes text fs) ∧
    ∀ (text : String) (fs : List Family), familiesOfText text = .ok fs →
      ∀ f ∈ fs, f.WellFormed ∧ f.IsReadable := by
  refine ⟨fun fs text wellFormed written => written.familiesOfText wellFormed,
    fun fs => exists_writes, fun text fs h f hf => ?_⟩
  obtain ⟨read, isRead, rfl⟩ := familiesOfText_eq_ok_iff.mp h
  exact ⟨wellFormed_of_familiesOfLines (wellFormed_of_linesOf isRead) f hf,
    isReadable_of_linesOf isRead f hf⟩

theorem familiesOfText_written_histogram :
    ∃ (fs : List Family) (text : String),
      fs = [⟨"h", .histogram, some "two\n\\lines\n",
          [⟨⟨"h_bucket", SortedMap.ofList [("le", "a\"\\\n\r"), ("_", "")]⟩, .nan, some (-5)⟩]⟩,
        ⟨"h", .untyped, none, []⟩, ⟨"h", .untyped, none, []⟩] ∧
      text = "# TYPE h histogram\n# HELP h two\\n\\\\lines\\n\nh_bucket\x7b_=\"\"," ++
        "le=\"a\\\"\\\\\\n\r\"\x7d\tNaN -5\n# TYPE h untyped\n# TYPE h untyped\n" ∧
      (∀ f ∈ fs, f.WellFormed) ∧ Writes text fs ∧ familiesOfText text = .ok fs ∧
      (∀ f ∈ fs, f.WellFormed ∧ f.IsReadable) ∧ ∃ text, Writes text fs := by
  have tab : isBlank '\t' = true := rfl
  have space : isBlank ' ' = true := rfl
  have token : value? ['N', 'a', 'N'] = some (.nan, []) := by decide
  have both : ∀ {fs : List Family} {text : String}, (∀ f ∈ fs, f.WellFormed) → Writes text fs →
      (∀ f ∈ fs, f.WellFormed) ∧ Writes text fs ∧ familiesOfText text = .ok fs ∧
      (∀ f ∈ fs, f.WellFormed ∧ f.IsReadable) ∧ ∃ text, Writes text fs := by
    intro fs text wellFormed written
    have read := familiesOfText_written.1 fs text wellFormed written
    have good := familiesOfText_written.2.2 text fs read
    exact ⟨wellFormed, written, read, good,
      familiesOfText_written.2.1 fs fun f hf => (good f hf).2⟩
  refine ⟨_, _, rfl, rfl, both (by decide +kernel) ?_⟩
  refine ⟨_, .cons (.type "h" .histogram) (.cons (.help "h" _) (.cons
    (.sample _ tab token (.some (-5) space)) (.cons (.type "h" .untyped)
    (.cons (.type "h" .untyped) .nil)))), ?_⟩
  decide +kernel

end Exposition
