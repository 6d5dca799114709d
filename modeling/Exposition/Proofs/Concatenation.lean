import Exposition.Proofs.Reading
import Exposition.Proofs.Segmentation
import Exposition.Proofs.Validation

/-! # One text after another

The last block of a text is still open where another text starts. Whether it takes the first line
of that text can be told from the family that it closes to, although the family no longer says
whether its type was declared. If it does not take that line, the lines after it are grouped as if
there had been nothing in front of them, so the two texts have their families side by side and
every merged sequence is that of the one followed by that of the other.
-/

namespace Exposition

/-- The family, had its block stayed open, would not take the line. A type other than the default
    one has been declared. -/
inductive Family.Refuses (f : Family) : Line → Prop where
  | help {name} (text) :
      name ≠ f.name ∨ f.samples ≠ [] ∨ f.help ≠ none → Refuses f (.help name text)
  | type {name} (type) :
      name ≠ f.name ∨ f.samples ≠ [] ∨ f.type ≠ .untyped → Refuses f (.type name type)
  | sample {s} : f.accepts s.name = false → Refuses f (.sample s)

theorem Block.take?_eq_none {b : Block} {line : Line} (h : b.close.Refuses line) :
    b.take? line = none := by
  obtain ⟨name, type?, help?, samples⟩ := b
  cases h with
  | help text other =>
      rw [take?, if_neg]
      simp only [Bool.and_eq_true, decide_eq_true_eq, Option.isNone_iff_eq_none,
        List.isEmpty_iff]
      rintro ⟨⟨rfl, rfl⟩, rfl⟩
      simp [close] at other
  | type type other =>
      rw [take?, if_neg]
      simp only [Bool.and_eq_true, decide_eq_true_eq, Option.isNone_iff_eq_none,
        List.isEmpty_iff]
      rintro ⟨⟨rfl, rfl⟩, rfl⟩
      simp [close, default] at other
  | sample other =>
      rw [take?, if_neg]
      simpa [close, Family.accepts] using other

/-- A block that does not take the first line of what follows leaves it to blocks of its own. -/
theorem familiesAfter_of_refuses {b : Block} {ls : List Line}
    (refused : ∀ line ∈ ls.find? (·.isContent), b.close.Refuses line) :
    familiesAfter (some b) ls = b.close :: familiesOfLines ls := by
  rw [familiesOfLines, ← familiesAfter_filter (some b), ← familiesAfter_filter none]
  rw [← List.head?_filter] at refused
  cases content : ls.filter (·.isContent) with
  | nil => rfl
  | cons line rest =>
      have notTaken := Block.take?_eq_none (refused line (by simp [content]))
      simp [familiesAfter, notTaken]

/-- Whatever block is open before the first lines, the last family that they give is the one that
    meets the next line. -/
theorem familiesAfter_append {state : Option Block} {ls ls' : List Line}
    (refused : ∀ last ∈ (familiesAfter state ls).getLast?,
      ∀ line ∈ ls'.find? (·.isContent), last.Refuses line) :
    familiesAfter state (ls ++ ls') = familiesAfter state ls ++ familiesOfLines ls' := by
  induction ls generalizing state with
  | nil =>
      cases state with
      | none => rfl
      | some b => exact familiesAfter_of_refuses (refused b.close rfl)
  | cons line rest ih =>
      rw [List.cons_append]
      cases state with
      | none => exact ih refused
      | some b =>
          simp only [familiesAfter] at refused ⊢
          cases taken : b.take? line with
          | some longer =>
              simp only [taken] at refused ⊢
              exact ih refused
          | none =>
              simp only [taken, List.cons_append, List.cons.injEq, true_and] at refused ⊢
              refine ih fun last isLast => refused last ?_
              rw [List.getLast?_cons, isLast]
              rfl

theorem LinesOf.append {text text' : String} {ls ls' : List Line} (h : LinesOf text ls)
    (h' : LinesOf text' ls') (ended : IsEnded text.toList) :
    LinesOf (text ++ text') (ls ++ ls') := by
  rw [LinesOf, String.toList_append, lines_append ended]
  exact List.rel_append h h'

/-- The samples of a name, all its blocks together; a name without blocks has none. -/
def Dump.mergedSamples (d : Dump) (name : String) : List Sample :=
  (d.samplesByFamily.find? name).getD []

/-- How often a series occurs among some samples. -/
def occurrencesOf (identity : Identity) (samples : List Sample) : Nat :=
  ((occurrences samples).find? identity).getD 0

theorem Dump.mergedSamples_eq (d : Dump) (name : String) :
    d.mergedSamples name = (d.blocks name).flatMap (·.samples) := by
  rw [mergedSamples, find?_samplesByFamily]
  split
  · next none => simp [none]
  · rfl

theorem Dump.mergedSamples_append {d e both : Dump} (h : both.families = d.families ++ e.families)
    (name : String) : both.mergedSamples name = d.mergedSamples name ++ e.mergedSamples name := by
  simp only [mergedSamples_eq, blocks, h, List.filter_append, List.flatMap_append]

theorem occurrencesOf_eq (identity : Identity) (samples : List Sample) :
    occurrencesOf identity samples = (samples.map (·.identity)).count identity := by
  rw [occurrencesOf, find?_occurrences]
  split
  · rfl
  · next absent => rw [List.count_eq_zero_of_not_mem absent, Option.getD_none]

@[simp] theorem occurrencesOf_append (identity : Identity) (samples samples' : List Sample) :
    occurrencesOf identity (samples ++ samples') =
      occurrencesOf identity samples + occurrencesOf identity samples' := by
  simp only [occurrencesOf_eq, List.map_append, List.count_append]

/-- The second text starts with a block of its own: there is no block before it, it has no line that
    belongs to a block, or the last family of the first text refuses the first line that does. -/
def StartsAfresh (before : List Family) (ls : List Line) : Prop :=
  before = [] ∨ (∀ line ∈ ls, line.isContent = false) ∨
    ∃ last line, before.getLast? = some last ∧ ls.find? (·.isContent) = some line ∧
      last.Refuses line

theorem StartsAfresh.refuses {before : List Family} {ls : List Line} (h : StartsAfresh before ls) :
    ∀ last ∈ before.getLast?, ∀ line ∈ ls.find? (·.isContent), last.Refuses line := by
  intro last isLast line isFirst
  rcases h with rfl | none | ⟨last', line', isLast', isFirst', refused⟩
  · cases isLast
  · have content := List.find?_some isFirst
    rw [none line (List.mem_of_find?_eq_some isFirst)] at content
    cases content
  · cases isLast.symm.trans isLast'
    cases isFirst.symm.trans isFirst'
    exact refused

/-- A text that starts afresh after another one can be read together with it: the families are those
    of the first text followed by those of the second one. So are the merged samples of every name,
    and the occurrences of a series add up. -/
theorem ofText_append {text text' : String} {d e : Dump} {ls : List Line}
    (read : Dump.ofText text = .ok d) (read' : Dump.ofText text' = .ok e)
    (isLines : LinesOf text' ls) (ended : IsEnded text.toList)
    (afresh : StartsAfresh d.families ls) :
    ∃ both, Dump.ofText (text ++ text') = .ok both ∧ both.families = d.families ++ e.families ∧
      (∀ name, both.mergedSamples name = d.mergedSamples name ++ e.mergedSamples name) ∧
      ∀ name identity, occurrencesOf identity (both.mergedSamples name) =
        occurrencesOf identity (d.mergedSamples name) +
          occurrencesOf identity (e.mergedSamples name) := by
  obtain ⟨before, isBefore, rfl⟩ := Dump.ofText_eq_ok_iff.mp read
  have readAgain := Dump.ofText_eq_ok_iff.mpr ⟨ls, isLines, rfl⟩
  cases read'.symm.trans readAgain
  have families : familiesOfLines (before ++ ls) = familiesOfLines before ++ familiesOfLines ls :=
    familiesAfter_append afresh.refuses
  have merged : ∀ name, Dump.mergedSamples ⟨.memory, familiesOfLines (before ++ ls)⟩ name =
      Dump.mergedSamples ⟨.memory, familiesOfLines before⟩ name ++
        Dump.mergedSamples ⟨.memory, familiesOfLines ls⟩ name :=
    Dump.mergedSamples_append families
  refine ⟨_, Dump.ofText_eq_ok_iff.mpr ⟨_, isBefore.append isLines ended, rfl⟩, families, merged,
    fun name identity => ?_⟩
  rw [merged, occurrencesOf_append]

/-- The second text declares a type for the name of the family that is open, which has a sample. -/
theorem ofText_append_summary :
    ∃ d e ls, Dump.ofText "# TYPE n summary\nn_sum 1\n" = .ok d ∧
      Dump.ofText "\n# TYPE n gauge\nn_sum 2\nn 2" = .ok e ∧
      LinesOf "\n# TYPE n gauge\nn_sum 2\nn 2" ls ∧
      IsEnded "# TYPE n summary\nn_sum 1\n".toList ∧ StartsAfresh d.families ls ∧
      ∃ both, Dump.ofText
          ("# TYPE n summary\nn_sum 1\n" ++ "\n# TYPE n gauge\nn_sum 2\nn 2") = .ok both ∧
        both.families = d.families ++ e.families ∧
        (∀ name, both.mergedSamples name = d.mergedSamples name ++ e.mergedSamples name) ∧
        ∀ name identity, occurrencesOf identity (both.mergedSamples name) =
          occurrencesOf identity (d.mergedSamples name) +
            occurrencesOf identity (e.mergedSamples name) := by
  have read : Dump.ofText "# TYPE n summary\nn_sum 1\n" = .ok ⟨.memory, [⟨"n", .summary, none,
      [⟨⟨"n_sum", .empty⟩, ⟨0x3ff0000000000000⟩, none⟩]⟩]⟩ := by
    decide +kernel
  have isLines : LinesOf "\n# TYPE n gauge\nn_sum 2\nn 2" [.blank, .type "n" .gauge,
      .sample ⟨⟨"n_sum", .empty⟩, ⟨0x4000000000000000⟩, none⟩,
      .sample ⟨⟨"n", .empty⟩, ⟨0x4000000000000000⟩, none⟩] :=
    (readLines_eq_ok_iff 1).mp (by decide +kernel)
  have read' := Dump.ofText_eq_ok_iff.mpr ⟨_, isLines, rfl⟩
  have ended : IsEnded "# TYPE n summary\nn_sum 1\n".toList := .inr (by decide)
  have afresh : StartsAfresh [⟨"n", .summary, none,
      [⟨⟨"n_sum", .empty⟩, ⟨0x3ff0000000000000⟩, none⟩]⟩] [.blank, .type "n" .gauge,
      .sample ⟨⟨"n_sum", .empty⟩, ⟨0x4000000000000000⟩, none⟩,
      .sample ⟨⟨"n", .empty⟩, ⟨0x4000000000000000⟩, none⟩] :=
    .inr (.inr ⟨_, _, rfl, rfl, .type .gauge (.inr (.inl (by simp)))⟩)
  exact ⟨_, _, _, read, read', isLines, ended, afresh,
    ofText_append read read' isLines ended afresh⟩

end Exposition
