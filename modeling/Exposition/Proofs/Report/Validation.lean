import Exposition.Proofs.Report.Itemized
import Exposition.Proofs.Validation

/-! # Reports on a validation

A report on a validation is made of paragraphs as well: one on the families of several blocks, and
one for each family with a series of several samples. Names and series that were read have no line
feed, so the lines can be told from the text of the report.
-/

namespace Exposition

namespace Validation

/-- The names and the series of a validation are such as can stand in a text. -/
structure WellFormed (v : Validation) : Prop where
  duplicateFamilies : ∀ entry ∈ v.duplicateFamilies.entries, IsMetricName entry.1
  duplicateSamples : ∀ entry ∈ v.duplicateSamples.entries,
    IsMetricName entry.1 ∧ ∀ found ∈ entry.2, found.identity.WellFormed

variable {v : Validation} {detailed : Bool}

/-- An item under the heading is the name of a family or one of its blocks. -/
theorem mem_familyItems {entries : List (String × List Family)} {line : String}
    (listed : line ∈ entries.flatMap fun (name, blocks) =>
      item name :: if detailed then blocks.map blockLine else []) :
    ∃ entry ∈ entries, line = item entry.1 ∨ ∃ f ∈ entry.2, line = blockLine f := by
  obtain ⟨entry, member, listed⟩ := List.mem_flatMap.mp listed
  refine ⟨entry, member, ?_⟩
  cases List.mem_cons.mp listed with
  | inl name => exact .inl name
  | inr detail =>
      split at detail
      · obtain ⟨f, block, rfl⟩ := List.mem_map.mp detail
        exact .inr ⟨f, block, rfl⟩
      · cases detail

theorem itemized_familyLines (v : Validation) (detailed : Bool) :
    Itemized (v.familyLines detailed) := by
  rw [familyLines]
  split
  · exact .nil
  · next some =>
      refine .one (by decide +kernel) (fun none => some ?_) fun line listed => ?_
      · rw [SortedMap.isEmpty, List.isEmpty_iff]
        cases entries : v.duplicateFamilies.entries with
        | nil => rfl
        | cons entry more => simp [entries] at none
      · obtain ⟨entry, -, rfl | ⟨f, -, rfl⟩⟩ := mem_familyItems listed <;> exact isItem_item _

theorem itemized_sampleLines (name : String) {found : List DuplicateSample} (some : found ≠ []) :
    Itemized (sampleLines name found) := by
  refine .one ?_ (fun none => some (List.map_eq_nil_iff.mp none)) fun line listed => ?_
  · simp [isItem]
  · obtain ⟨d, -, rfl⟩ := List.mem_map.mp listed
    exact isItem_item _

theorem itemized_report (d : Dump) (notClean : (validate d).isClean = false) (detailed : Bool) :
    Itemized ((validate d).report detailed) := by
  rw [report, notClean]
  refine (itemized_familyLines _ detailed).append (.flatMap fun entry member => ?_)
  have found := find?_duplicateSamples_eq_some_iff.mp (SortedMap.find?_eq_some_iff.mpr member)
  exact itemized_sampleLines entry.1 found.2

theorem feed_notMem_toString (n : Nat) : '\n' ∉ (toString n).toList := by
  intro inside
  have digits : (toString n).toList = Nat.toDigits 10 n := by
    simp [Nat.repr_eq_ofList_toDigits]
  rw [digits] at inside
  exact absurd (isDigit_of_mem_toDigits _ inside) (by decide)

theorem feed_notMem_blockLine (f : Family) : '\n' ∉ (blockLine f).toList := by
  have keyword : '\n' ∉ f.type.keyword.toList := by cases f.type <;> decide
  simp [blockLine, keyword, -Nat.toString_eq_repr, feed_notMem_toString]

theorem WellFormed.feed_notMem_familyLines (h : v.WellFormed) (detailed : Bool) :
    ∀ line ∈ v.familyLines detailed, '\n' ∉ line.toList := by
  intro line listed
  rw [familyLines] at listed
  split at listed
  · cases listed
  · cases List.mem_cons.mp listed with
    | inl heading => exact heading ▸ by decide +kernel
    | inr items =>
        obtain ⟨entry, member, rfl | ⟨f, -, rfl⟩⟩ := mem_familyItems items
        · simp [(h.duplicateFamilies _ member).feed_notMem]
        · exact feed_notMem_blockLine f

theorem feed_notMem_sampleLines {name : String} {found : List DuplicateSample}
    (isName : IsMetricName name) (series : ∀ d ∈ found, d.identity.WellFormed) :
    ∀ line ∈ sampleLines name found, '\n' ∉ line.toList := by
  intro line listed
  cases List.mem_cons.mp listed with
  | inl heading =>
      rw [heading]
      simp [isName.feed_notMem]
  | inr items =>
      obtain ⟨d, member, rfl⟩ := List.mem_map.mp items
      simp [(series d member).feed_notMem_display, -Nat.toString_eq_repr,
        feed_notMem_toString]

theorem WellFormed.feed_notMem (h : v.WellFormed) (detailed : Bool) :
    ∀ line ∈ v.report detailed, '\n' ∉ line.toList := by
  intro line listed
  rw [report] at listed
  split at listed
  · rw [List.mem_singleton.mp listed]
    decide +kernel
  · cases List.mem_append.mp listed with
    | inl family => exact h.feed_notMem_familyLines detailed line family
    | inr samples =>
        obtain ⟨entry, member, samples⟩ := List.mem_flatMap.mp samples
        obtain ⟨isName, series⟩ := h.duplicateSamples entry member
        exact feed_notMem_sampleLines isName series line samples

theorem report_ne_nil (v : Validation) (detailed : Bool) : v.report detailed ≠ [] := by
  rw [report]
  split
  · simp
  · next findings =>
      intro none
      obtain ⟨noFamilies, noSamples⟩ := List.append_eq_nil_iff.mp none
      apply findings
      rw [isClean, Bool.and_eq_true, SortedMap.isEmpty, SortedMap.isEmpty]
      constructor
      · rw [familyLines] at noFamilies
        split at noFamilies
        · assumption
        · cases noFamilies
      · rw [List.isEmpty_iff, List.eq_nil_iff_forall_not_mem]
        intro entry member
        cases List.flatMap_eq_nil_iff.mp noSamples entry member

theorem WellFormed.splitOn_report (h : v.WellFormed) (detailed : Bool) :
    ("\n".intercalate (v.report detailed)).toList.splitOn '\n' =
      (v.report detailed).map String.toList :=
  splitOn_intercalate_feed (v.report_ne_nil detailed) (h.feed_notMem detailed)

end Validation

theorem Dump.IsRead.validate {d : Dump} (h : d.IsRead) : (validate d).WellFormed where
  duplicateFamilies entry member := by
    obtain ⟨found, several⟩ :=
      find?_duplicateFamilies_eq_some_iff.mp (SortedMap.find?_eq_some_iff.mpr member)
    refine h.isMetricName (blocks_ne_nil_iff.mp fun none => ?_)
    rw [found, none] at several
    cases several
  duplicateSamples entry member := by
    obtain ⟨found, some⟩ :=
      find?_duplicateSamples_eq_some_iff.mp (SortedMap.find?_eq_some_iff.mpr member)
    refine ⟨h.isMetricName (blocks_ne_nil_iff.mp fun none => ?_), fun dup listed => ?_⟩
    · rw [found, none] at some
      exact some (repeated_eq_nil_iff.mpr .nil)
    · rw [found] at listed
      obtain ⟨several, count⟩ := mem_repeated.mp listed
      have inSeries : dup.identity ∈ d.identities entry.1 :=
        List.count_pos_iff.mp (by rw [Dump.identities]; omega)
      exact h.series (mem_identities.mp inSeries)

end Exposition
