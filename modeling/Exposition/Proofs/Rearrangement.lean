import Exposition.Proofs.Difference
import Exposition.Proofs.Validation

/-! # Dumps that hold the same samples

The checks know a dump by its family names. Which block of a name holds a sample, in which order
blocks and samples stand, and what the values and the times are makes no difference to them. What
a family says about itself is the exception: it is read off the first block of a name, so there
the order counts.
-/

namespace Exposition

/-- The same names, and under each of them equally many samples of every series. -/
structure SameSamples (a b : Dump) : Prop where
  names : a.names = b.names
  series : ∀ name, (a.identities name).Perm (b.identities name)

/-- Differences that name the same families and the same series. -/
structure Difference.SameSeries (d e : Difference) : Prop where
  addedFamilies : d.addedFamilies = e.addedFamilies
  removedFamilies : d.removedFamilies = e.removedFamilies
  addedSamples : d.addedSamples = e.addedSamples
  removedSamples : d.removedSamples = e.removedSamples

theorem repeated_congr {samples samples' : List Sample}
    (same : (samples.map (·.identity)).Perm (samples'.map (·.identity))) :
    repeated samples = repeated samples' := by
  rw [repeated, repeated, occurrences_congr same]

namespace SameSamples

variable {a b : Dump}

theorem duplicateSamples (same : SameSamples a b) :
    (validate a).duplicateSamples = (validate b).duplicateSamples := by
  apply SortedMap.ext_find?
  intro name
  apply Option.ext
  intro found
  rw [find?_duplicateSamples_eq_some_iff, find?_duplicateSamples_eq_some_iff,
    repeated_congr (same.series name)]

/-- Names without samples keep their entry, so the names have to agree, too. -/
theorem identitiesByFamily (same : SameSamples a b) :
    a.identitiesByFamily = b.identitiesByFamily := by
  apply SortedMap.ext_find?
  intro name
  have sameBlocks : a.blocks name = [] ↔ b.blocks name = [] := by
    rw [← not_iff_not, ← ne_eq, ← ne_eq, Dump.blocks_ne_nil_iff, Dump.blocks_ne_nil_iff, same.names]
  rw [Dump.find?_identitiesByFamily, Dump.find?_identitiesByFamily,
    SortedSet.ofList_congr fun _ => (same.series name).mem_iff]
  simp only [sameBlocks]

end SameSamples

section Differences

variable {a a' b b' : Dump}

theorem diff_sameSeries (before : SameSamples a a') (after : SameSamples b b') :
    (diff a b).SameSeries (diff a' b') := by
  have before := before.identitiesByFamily
  have after := after.identitiesByFamily
  constructor <;> simp only [diff, before, after]

theorem metadataChanges_congr (before : ∀ name, a.metadata? name = a'.metadata? name)
    (after : ∀ name, b.metadata? name = b'.metadata? name) :
    (diff a b).metadataChanges = (diff a' b').metadataChanges := by
  apply SortedMap.ext_find?
  intro name
  apply Option.ext
  intro change
  rw [find?_metadataChanges, find?_metadataChanges, before, after]

theorem Difference.SameSeries.eq {d e : Difference} (same : d.SameSeries e)
    (changes : d.metadataChanges = e.metadataChanges) : d = e := by
  obtain ⟨_, _, _, _, _⟩ := d
  obtain ⟨_, _, _, _, _⟩ := e
  obtain ⟨rfl, rfl, rfl, rfl⟩ := same
  cases changes
  rfl

end Differences

/-- Dumps that hold the same samples have the same duplicate series and differ from any third dump
    by the same families and series. If their first blocks say the same about each family, they
    differ from it alike in everything. -/
theorem checks_of_sameSamples {a a' : Dump} (same : SameSamples a a') :
    (validate a).duplicateSamples = (validate a').duplicateSamples ∧
      (∀ b, (diff a b).SameSeries (diff a' b) ∧ (diff b a).SameSeries (diff b a')) ∧
      ((∀ name, a.metadata? name = a'.metadata? name) →
        ∀ b, diff a b = diff a' b ∧ diff b a = diff b a') := by
  have itself : ∀ b, SameSamples b b := fun b => ⟨rfl, fun _ => .refl _⟩
  have families := fun b => diff_sameSeries same (itself b)
  have families' := fun b => diff_sameSeries (itself b) same
  refine ⟨same.duplicateSamples, fun b => ⟨families b, families' b⟩, fun metadata b => ⟨?_, ?_⟩⟩
  · exact (families b).eq (metadataChanges_congr metadata fun _ => rfl)
  · exact (families' b).eq (metadataChanges_congr (fun _ => rfl) metadata)

/-- The samples of a family stand in two blocks of one text and in one block of the other, with
    other values and times, and the families stand in another order. -/
theorem exists_sameSamples :
    ∃ a a' : Dump,
      Dump.ofText "# TYPE x gauge\nx 0\ny 0\n# HELP x h\nx 0\n" = .ok a ∧
      Dump.ofText "y 1\n# TYPE x gauge\nx 1\nx 1 7\n" = .ok a' ∧
      SameSamples a a' ∧ ∀ name, a.metadata? name = a'.metadata? name := by
  refine ⟨⟨.memory, [⟨"x", .gauge, none, [⟨⟨"x", .empty⟩, ⟨0⟩, none⟩]⟩,
      ⟨"y", .untyped, none, [⟨⟨"y", .empty⟩, ⟨0⟩, none⟩]⟩,
      ⟨"x", .untyped, some "h", [⟨⟨"x", .empty⟩, ⟨0⟩, none⟩]⟩]⟩,
    ⟨.memory, [⟨"y", .untyped, none, [⟨⟨"y", .empty⟩, ⟨0x3ff0000000000000⟩, none⟩]⟩,
      ⟨"x", .gauge, none, [⟨⟨"x", .empty⟩, ⟨0x3ff0000000000000⟩, none⟩,
        ⟨⟨"x", .empty⟩, ⟨0x3ff0000000000000⟩, some 7⟩]⟩]⟩,
    by decide +kernel, by decide +kernel, ⟨?names, fun name => ?series⟩, fun name => ?metadata⟩
  case names =>
    ext name
    simp [Dump.names]
    tauto
  case series =>
    by_cases x : "x" = name
    · subst x
      simp [Dump.identities, Dump.blocks]
    · by_cases y : "y" = name <;> simp [Dump.identities, Dump.blocks, x, y]
  case metadata =>
    by_cases x : "x" = name
    · subst x
      rfl
    · by_cases y : "y" = name <;> simp [Dump.metadata?, x, y, Family.metadata]

theorem checks_of_sameSamples_split :
    ∃ a a' : Dump,
      Dump.ofText "# TYPE x gauge\nx 0\ny 0\n# HELP x h\nx 0\n" = .ok a ∧
      Dump.ofText "y 1\n# TYPE x gauge\nx 1\nx 1 7\n" = .ok a' ∧
      SameSamples a a' ∧ (∀ name, a.metadata? name = a'.metadata? name) ∧
      (validate a).duplicateSamples = (validate a').duplicateSamples ∧
      ∀ b, (diff a b).SameSeries (diff a' b) ∧ (diff b a).SameSeries (diff b a') ∧
        diff a b = diff a' b ∧ diff b a = diff b a' := by
  obtain ⟨a, a', read, read', same, metadata⟩ := exists_sameSamples
  obtain ⟨duplicates, families, differences⟩ := checks_of_sameSamples same
  exact ⟨a, a', read, read', same, metadata, duplicates,
    fun b => ⟨(families b).1, (families b).2, differences metadata b⟩⟩

end Exposition
