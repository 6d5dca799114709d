import Exposition.Difference
import Exposition.Proofs.Merge

/-! # Differences as patches

Each part of a difference is first described by its answers: which names and which series it holds,
and what it records for a name. From these descriptions a difference is a patch that leads from the
baseline to the new dump and names nothing that it does not have to, and the difference in the
other direction is the same patch read backwards.
-/

namespace Exposition

/-- The elements of a sorted set. -/
def SortedSet.toSet {α : Type} [Ord α] (s : SortedSet α) : Set α := {a | s.contains a = true}

/-- The series that a map keeps for a name; a name without an entry has none. -/
def seriesAt (m : SortedMap String (SortedSet Identity)) (name : String) : Set Identity :=
  {identity | ∃ s, m.find? name = some s ∧ s.contains identity = true}

namespace Dump

/-- What the first block of a name says about it. -/
def metadata? (d : Dump) (name : String) : Option Metadata :=
  (d.families.find? (·.name = name)).map (·.metadata)

/-- The first block of a group is the first block of its name. -/
theorem head?_familiesByName (d : Dump) (name : String) :
    (d.familiesByName.find? name).bind (fun group => group.head?.map (·.metadata)) =
      d.metadata? name := by
  rw [find?_familiesByName, metadata?, ← List.head?_filter, ← blocks]
  split
  · next none => simp [none]
  · rfl

@[simp, grind =] theorem metadata?_isSome_iff {d : Dump} {name : String} :
    (d.metadata? name).isSome = true ↔ name ∈ d.names := by
  simp [metadata?, names]

end Dump

section Parts

variable {a b : Dump} {name : String}

theorem contains_onlyNames :
    (onlyNames b.identitiesByFamily a.identitiesByFamily).contains name = true ↔
      name ∈ b.names ∧ name ∉ a.names := by
  rw [← Dump.contains_identitiesByFamily, ← Dump.contains_identitiesByFamily]
  simp only [onlyNames, SortedMap.contains, SortedMap.find?_map, SortedMap.find?_filter,
    Option.isSome_map]
  cases b.identitiesByFamily.find? name <;> simp [Option.filter]

@[simp, grind =] theorem contains_addedFamilies :
    (diff a b).addedFamilies.contains name = true ↔ name ∈ b.names ∧ name ∉ a.names :=
  contains_onlyNames

@[simp, grind =] theorem contains_removedFamilies :
    (diff a b).removedFamilies.contains name = true ↔ name ∈ a.names ∧ name ∉ b.names :=
  contains_onlyNames

theorem find?_onlySeries {m n : SortedMap String (SortedSet Identity)}
    {found : SortedSet Identity} :
    (onlySeries m n).find? name = some found ↔
      ∃ mine others, m.find? name = some mine ∧ n.find? name = some others ∧
        found = mine.difference others ∧ found.isEmpty = false := by
  simp only [onlySeries, SortedMap.find?_filterMap, Option.bind_eq_some_iff]
  constructor
  · rintro ⟨mine, hm, others, hn, kept⟩
    split at kept
    · cases kept
    · next nonempty =>
        cases kept
        exact ⟨mine, others, hm, hn, rfl, by simpa using nonempty⟩
  · rintro ⟨mine, others, hm, hn, rfl, nonempty⟩
    exact ⟨mine, hm, others, hn, by simp [nonempty]⟩

/-- The series kept for a name are those that the first dump alone has, and there is at least
    one. -/
theorem mem_onlySeries {found : SortedSet Identity}
    (h : (onlySeries b.identitiesByFamily a.identitiesByFamily).find? name = some found) :
    (name ∈ a.names ∧ name ∈ b.names) ∧ found.isEmpty = false ∧
      found.toSet = b.series name \ a.series name := by
  obtain ⟨mine, others, hb, ha, rfl, nonempty⟩ := find?_onlySeries.mp h
  refine ⟨⟨Dump.mem_names_of_find? ha, Dump.mem_names_of_find? hb⟩, nonempty, ?_⟩
  ext identity
  have inB := Dump.contains_iff_mem_series hb identity
  have inA := Dump.contains_iff_mem_series ha identity
  simp only [SortedSet.toSet, Set.mem_ofPred_eq, SortedSet.contains_difference, Set.mem_sdiff,
    ← inB, ← inA, Bool.not_eq_true]

/-- For a name of both dumps nothing that only the first has is left out. -/
theorem seriesAt_onlySeries (inA : name ∈ a.names) (inB : name ∈ b.names) :
    seriesAt (onlySeries b.identitiesByFamily a.identitiesByFamily) name =
      b.series name \ a.series name := by
  ext identity
  constructor
  · rintro ⟨found, h, member⟩
    rw [← (mem_onlySeries h).2.2]
    exact member
  · intro only
    obtain ⟨mine, hb⟩ := SortedMap.contains_iff.mp (Dump.contains_identitiesByFamily.mpr inB)
    obtain ⟨others, ha⟩ := SortedMap.contains_iff.mp (Dump.contains_identitiesByFamily.mpr inA)
    have member : (mine.difference others).contains identity = true := by
      rw [SortedSet.contains_difference, Dump.contains_iff_mem_series hb, ← Bool.not_eq_true,
        Dump.contains_iff_mem_series ha]
      exact only
    have nonempty : (mine.difference others).isEmpty = false := by
      rw [← Bool.not_eq_true, SortedSet.isEmpty_iff]
      intro none
      simp [none identity] at member
    exact ⟨_, find?_onlySeries.mpr ⟨mine, others, hb, ha, rfl, nonempty⟩, member⟩

theorem find?_metadataChanges {change : MetadataChange} :
    (diff a b).metadataChanges.find? name = some change ↔
      a.metadata? name = some change.before ∧ b.metadata? name = some change.after ∧
        change.before ≠ change.after := by
  obtain ⟨old, new⟩ := change
  simp only [diff, changes, SortedMap.find?_filterMap, ← Dump.head?_familiesByName,
    Option.bind_eq_some_iff, Option.map_eq_some_iff, bind]
  constructor
  · rintro ⟨group, hb, f, hf, later, ha, g, hg, kept⟩
    split at kept
    · cases kept
    · next differ =>
        cases kept
        exact ⟨⟨group, hb, f, hf, rfl⟩, ⟨later, ha, g, hg, rfl⟩, differ⟩
  · rintro ⟨⟨group, hb, f, hf, rfl⟩, ⟨later, ha, g, hg, rfl⟩, differ⟩
    exact ⟨group, hb, f, hf, later, ha, g, hg, by simp [differ]⟩

end Parts

theorem Difference.isEmpty_iff {d : Difference} :
    d.isEmpty = true ↔
      (∀ name, d.addedFamilies.contains name = false) ∧
      (∀ name, d.removedFamilies.contains name = false) ∧
      (∀ name, d.addedSamples.find? name = none) ∧
      (∀ name, d.removedSamples.find? name = none) ∧
      ∀ name, d.metadataChanges.find? name = none := by
  simp [isEmpty, SortedMap.isEmpty_iff, SortedMap.contains, and_assoc]

/-- The same changes seen from the other side. -/
def Difference.swap (d : Difference) : Difference where
  addedFamilies := d.removedFamilies
  removedFamilies := d.addedFamilies
  addedSamples := d.removedSamples
  removedSamples := d.addedSamples
  metadataChanges := d.metadataChanges.map fun _ change => ⟨change.after, change.before⟩

/-- Changed metadata are collected from the groups of the baseline alone. They come out the same
    from the other side because a change needs a block on both. -/
theorem metadataChanges_swap (a b : Dump) :
    (diff b a).metadataChanges = (diff a b).swap.metadataChanges := by
  apply SortedMap.ext_find?
  intro name
  apply Option.ext
  rintro ⟨old, new⟩
  simp only [Difference.swap, SortedMap.find?_map, Option.map_eq_some_iff, find?_metadataChanges,
    MetadataChange.mk.injEq]
  constructor
  · rintro ⟨inB, inA, differ⟩
    exact ⟨⟨new, old⟩, ⟨inA, inB, differ.symm⟩, rfl, rfl⟩
  · rintro ⟨⟨_, _⟩, ⟨inA, inB, differ⟩, rfl, rfl⟩
    exact ⟨inB, inA, differ.symm⟩

theorem diff_eq_swap (a b : Dump) : diff b a = (diff a b).swap := by
  have sameChanges := metadataChanges_swap a b
  simp only [diff, Difference.swap] at sameChanges ⊢
  rw [sameChanges]

/-- A series that both directions add would be in one of the dumps and not in it. -/
theorem onlySeries_symmetric_empty {a b : Dump}
    (same : (diff a b).addedSamples = (diff a b).removedSamples) (name : String) :
    (diff a b).addedSamples.find? name = none := by
  rw [Option.eq_none_iff_forall_ne_some]
  intro found h
  obtain ⟨-, nonempty, added⟩ := mem_onlySeries h
  obtain ⟨-, -, removed⟩ := mem_onlySeries (same ▸ h)
  rw [← Bool.not_eq_true, SortedSet.isEmpty_iff] at nonempty
  apply nonempty
  intro identity
  rw [← Bool.not_eq_true]
  intro member
  have inB : identity ∈ b.series name \ a.series name := added ▸ member
  have inA : identity ∈ a.series name \ b.series name := removed ▸ member
  exact inA.2 inB.1

theorem isEmpty_of_eq_swap {a b : Dump} (same : diff a b = (diff a b).swap) :
    (diff a b).isEmpty = true := by
  have families : (diff a b).addedFamilies = (diff a b).removedFamilies :=
    congrArg Difference.addedFamilies same
  have samples : (diff a b).addedSamples = (diff a b).removedSamples :=
    congrArg Difference.addedSamples same
  have changes := congrArg Difference.metadataChanges same
  have noFamily : ∀ name, (diff a b).addedFamilies.contains name = false := by
    intro name
    rw [← Bool.not_eq_true]
    intro added
    have removed := families ▸ added
    exact (contains_addedFamilies.mp added).2 (contains_removedFamilies.mp removed).1
  have noSeries := onlySeries_symmetric_empty samples
  refine Difference.isEmpty_iff.mpr
    ⟨noFamily, families ▸ noFamily, noSeries, samples ▸ noSeries, ?_⟩
  intro name
  rw [Option.eq_none_iff_forall_ne_some]
  intro change h
  have reversed : (diff a b).swap.metadataChanges.find? name = some change := changes ▸ h
  simp only [Difference.swap, SortedMap.find?_map, h, Option.map_some, Option.some.injEq]
    at reversed
  have unchanged : change.before = change.after := congrArg MetadataChange.after reversed
  exact (find?_metadataChanges.mp h).2.2 unchanged

theorem Difference.eq_swap_of_isEmpty {d : Difference} (empty : d.isEmpty = true) :
    d = d.swap := by
  obtain ⟨noAdded, noRemoved, noAddedSeries, noRemovedSeries, noChange⟩ := isEmpty_iff.mp empty
  have families : d.addedFamilies = d.removedFamilies :=
    SortedSet.ext_contains fun name => by simp [noAdded, noRemoved]
  have samples : d.addedSamples = d.removedSamples :=
    SortedMap.ext_find? fun name => by simp [noAddedSeries, noRemovedSeries]
  have changes : d.metadataChanges = d.swap.metadataChanges :=
    SortedMap.ext_find? fun name => by simp [swap, noChange]
  obtain ⟨_, _, _, _, _⟩ := d
  simp only [swap] at families samples changes ⊢
  rw [families, samples, ← changes]

/-- The difference in the other direction has the parts exchanged, so only dumps without a
    difference differ alike in both directions. -/
theorem diff_antisymmetric (a b : Dump) :
    diff b a = (diff a b).swap ∧ (diff a b = diff b a ↔ (diff a b).isEmpty = true) := by
  refine ⟨diff_eq_swap a b, ?_⟩
  rw [diff_eq_swap a b]
  exact ⟨isEmpty_of_eq_swap, Difference.eq_swap_of_isEmpty⟩

/-- The difference leads from one dump to the other and says no more than it has to. -/
structure IsPatch (d : Difference) (before after : Dump) : Prop where
  names : after.names = (before.names \ d.removedFamilies.toSet) ∪ d.addedFamilies.toSet
  addedNames_new : Disjoint d.addedFamilies.toSet before.names
  removedNames_old : d.removedFamilies.toSet ⊆ before.names
  series : ∀ name ∈ before.names ∩ after.names,
    after.series name =
      (before.series name \ seriesAt d.removedSamples name) ∪ seriesAt d.addedSamples name
  addedSeries_new : ∀ name ∈ before.names ∩ after.names,
    Disjoint (seriesAt d.addedSamples name) (before.series name)
  removedSeries_old : ∀ name ∈ before.names ∩ after.names,
    seriesAt d.removedSamples name ⊆ before.series name
  addedSeries_entries : ∀ name found, d.addedSamples.find? name = some found →
    name ∈ before.names ∩ after.names ∧ found.isEmpty = false
  removedSeries_entries : ∀ name found, d.removedSamples.find? name = some found →
    name ∈ before.names ∩ after.names ∧ found.isEmpty = false
  changed : ∀ name change, d.metadataChanges.find? name = some change →
    name ∈ before.names ∩ after.names ∧ before.metadata? name = some change.before ∧
      after.metadata? name = some change.after ∧ change.after ≠ change.before
  unchanged : ∀ name ∈ before.names ∩ after.names, d.metadataChanges.find? name = none →
    after.metadata? name = before.metadata? name

/-- The same names, and for every name the same series and the same metadata. -/
structure SameContents (a b : Dump) : Prop where
  names : a.names = b.names
  series : ∀ name, a.series name = b.series name
  metadata : ∀ name, a.metadata? name = b.metadata? name

theorem diff_isPatch (before after : Dump) : IsPatch (diff before after) before after where
  names := by
    ext name
    simp only [SortedSet.toSet, Set.mem_union, Set.mem_sdiff, Set.mem_ofPred_eq,
      contains_addedFamilies, contains_removedFamilies]
    tauto
  addedNames_new := Set.disjoint_left.mpr fun _ added => (contains_addedFamilies.mp added).2
  removedNames_old := fun _ removed => (contains_removedFamilies.mp removed).1
  series := by
    rintro name ⟨old, new⟩
    simp only [diff, seriesAt_onlySeries old new, seriesAt_onlySeries new old]
    ext identity
    simp only [Set.mem_union, Set.mem_sdiff]
    tauto
  addedSeries_new := by
    rintro name ⟨old, new⟩
    simp only [diff, seriesAt_onlySeries old new]
    exact Set.disjoint_sdiff_left
  removedSeries_old := by
    rintro name ⟨old, new⟩
    simp only [diff, seriesAt_onlySeries new old]
    exact Set.sdiff_subset
  addedSeries_entries := fun _ _ h => ⟨(mem_onlySeries h).1, (mem_onlySeries h).2.1⟩
  removedSeries_entries := fun _ _ h => ⟨(mem_onlySeries h).1.symm, (mem_onlySeries h).2.1⟩
  changed := by
    intro name change h
    obtain ⟨old, new, differ⟩ := find?_metadataChanges.mp h
    exact ⟨⟨Dump.metadata?_isSome_iff.mp (by simp [old]),
      Dump.metadata?_isSome_iff.mp (by simp [new])⟩, old, new, differ.symm⟩
  unchanged := by
    rintro name ⟨old, new⟩ none
    obtain ⟨oldData, old⟩ := Option.isSome_iff_exists.mp (Dump.metadata?_isSome_iff.mpr old)
    obtain ⟨newData, new⟩ := Option.isSome_iff_exists.mp (Dump.metadata?_isSome_iff.mpr new)
    by_contra differ
    have differ : oldData ≠ newData := by
      rintro rfl
      exact differ (new.trans old.symm)
    have recorded : (diff before after).metadataChanges.find? name = some ⟨oldData, newData⟩ :=
      find?_metadataChanges.mpr ⟨old, new, differ⟩
    simp [none] at recorded

theorem Dump.series_eq_empty {d : Dump} {name : String} (absent : name ∉ d.names) :
    d.series name = ∅ :=
  Set.eq_empty_of_forall_notMem fun _ ⟨f, hf, named, _⟩ => absent ⟨f, hf, named⟩

theorem Dump.metadata?_eq_none {d : Dump} {name : String} (absent : name ∉ d.names) :
    d.metadata? name = none := by
  rw [← Option.not_isSome_iff_eq_none, metadata?_isSome_iff]
  exact absent

theorem seriesAt_eq_empty {m : SortedMap String (SortedSet Identity)} {name : String}
    (h : m.find? name = none) : seriesAt m name = ∅ := by
  simp [seriesAt, h]

/-- An empty patch leads back to the baseline. -/
theorem IsPatch.sameContents {d : Difference} {before after : Dump}
    (patch : IsPatch d before after) (empty : d.isEmpty = true) : SameContents before after := by
  obtain ⟨noAdded, noRemoved, noAddedSeries, noRemovedSeries, noChange⟩ :=
    Difference.isEmpty_iff.mp empty
  have sameNames : before.names = after.names := by
    simp [patch.names, SortedSet.toSet, noAdded, noRemoved]
  refine ⟨sameNames, fun name => ?_, fun name => ?_⟩
  · by_cases present : name ∈ before.names
    · have step := patch.series name ⟨present, sameNames ▸ present⟩
      simpa [seriesAt_eq_empty, noAddedSeries, noRemovedSeries] using step.symm
    · rw [Dump.series_eq_empty present, Dump.series_eq_empty (sameNames ▸ present)]
  · by_cases present : name ∈ before.names
    · exact (patch.unchanged name ⟨present, sameNames ▸ present⟩ (noChange name)).symm
    · rw [Dump.metadata?_eq_none present, Dump.metadata?_eq_none (sameNames ▸ present)]

theorem SameContents.isEmpty_diff {a b : Dump} (same : SameContents a b) :
    (diff a b).isEmpty = true := by
  have noSeries : ∀ {a b : Dump}, SameContents a b → ∀ name,
      (diff a b).addedSamples.find? name = none := by
    intro a b same name
    rw [Option.eq_none_iff_forall_ne_some]
    intro found h
    obtain ⟨-, nonempty, only⟩ := mem_onlySeries h
    rw [same.series, Set.sdiff_self] at only
    rw [← Bool.not_eq_true, SortedSet.isEmpty_iff] at nonempty
    refine nonempty fun identity => ?_
    rw [← Bool.not_eq_true]
    intro member
    have : identity ∈ (∅ : Set Identity) := only ▸ member
    exact this
  have reversed : SameContents b a :=
    ⟨same.names.symm, fun name => (same.series name).symm, fun name => (same.metadata name).symm⟩
  refine Difference.isEmpty_iff.mpr ⟨?_, ?_, noSeries same, noSeries reversed, ?_⟩
  · intro name
    rw [← Bool.not_eq_true, contains_addedFamilies, same.names]
    exact fun h => h.2 h.1
  · intro name
    rw [← Bool.not_eq_true, contains_removedFamilies, same.names]
    exact fun h => h.2 h.1
  · intro name
    rw [Option.eq_none_iff_forall_ne_some]
    intro change h
    obtain ⟨old, new, differ⟩ := find?_metadataChanges.mp h
    rw [same.metadata, new] at old
    exact differ (Option.some.inj old).symm

@[simp] theorem isEmpty_diff_iff {a b : Dump} : (diff a b).isEmpty = true ↔ SameContents a b :=
  ⟨(diff_isPatch a b).sameContents, SameContents.isEmpty_diff⟩

theorem sameContents_equivalence : Equivalence SameContents where
  refl _ := ⟨rfl, fun _ => rfl, fun _ => rfl⟩
  symm same := ⟨same.names.symm, fun n => (same.series n).symm, fun n => (same.metadata n).symm⟩
  trans ab bc := ⟨ab.names.trans bc.names, fun n => (ab.series n).trans (bc.series n),
    fun n => (ab.metadata n).trans (bc.metadata n)⟩

/-- A difference is a complete and minimal patch. It is empty exactly for dumps with the same
    contents, and having no difference is an equivalence of dumps. -/
theorem diff_complete_minimal_patch (before after : Dump) :
    IsPatch (diff before after) before after ∧
      ((diff before after).isEmpty = true ↔ SameContents before after) ∧
      Equivalence fun a b : Dump => (diff a b).isEmpty = true := by
  refine ⟨diff_isPatch before after, isEmpty_diff_iff, ?_⟩
  simp only [isEmpty_diff_iff]
  exact sameContents_equivalence

end Exposition
