import Exposition.Dump
import Exposition.Proofs.Grouping

/-! # What merging keeps

The groups that the checks work on, read off the block list: the blocks of a name and the series
those blocks hold together. The maps by name are determined by these, key by key. Together they hold
what the dump holds: every block and every sample once, and every name, also one without
samples.
-/

namespace Exposition

namespace Dump

/-- The names that some block has. -/
def names (d : Dump) : Set String := {name | ∃ f ∈ d.families, f.name = name}

/-- The blocks of a name, in source order. -/
def blocks (d : Dump) (name : String) : List Family := d.families.filter (·.name = name)

/-- The series of a name, over all its blocks. -/
def series (d : Dump) (name : String) : Set Identity :=
  {identity | ∃ f ∈ d.families, f.name = name ∧ ∃ s ∈ f.samples, s.identity = identity}

/-- The series of all samples of a name, over all its blocks in source order. -/
def identities (d : Dump) (name : String) : List Identity :=
  ((d.blocks name).flatMap (·.samples)).map (·.identity)

theorem blocks_ne_nil_iff {d : Dump} {name : String} : d.blocks name ≠ [] ↔ name ∈ d.names := by
  simp [blocks, names]

theorem mem_identities {d : Dump} {name : String} {identity : Identity} :
    identity ∈ d.identities name ↔ identity ∈ d.series name := by
  simp only [series, identities, blocks, Set.mem_ofPred_eq, List.mem_map, List.mem_flatMap,
    List.mem_filter, decide_eq_true_eq]
  constructor
  · rintro ⟨s, ⟨f, ⟨hf, named⟩, hs⟩, same⟩
    exact ⟨f, hf, named, s, hs, same⟩
  · rintro ⟨f, hf, named, s, hs, same⟩
    exact ⟨s, ⟨f, ⟨hf, named⟩, hs⟩, same⟩

@[simp, grind =] theorem find?_familiesByName (d : Dump) (name : String) :
    d.familiesByName.find? name = if d.blocks name = [] then none else some (d.blocks name) :=
  SortedMap.find?_foldl_alter_append Family.name d.families name

@[simp, grind =] theorem find?_samplesByFamily (d : Dump) (name : String) :
    d.samplesByFamily.find? name =
      if d.blocks name = [] then none else some ((d.blocks name).flatMap (·.samples)) := by
  rw [samplesByFamily, SortedMap.find?_map, find?_familiesByName]
  split <;> rfl

@[simp, grind =] theorem find?_identitiesByFamily (d : Dump) (name : String) :
    d.identitiesByFamily.find? name =
      if d.blocks name = [] then none
      else some (.ofList (d.identities name)) := by
  rw [identitiesByFamily, SortedMap.find?_map, find?_samplesByFamily]
  split <;> rfl

@[simp, grind =] theorem contains_identitiesByFamily {d : Dump} {name : String} :
    d.identitiesByFamily.contains name = true ↔ name ∈ d.names := by
  rw [SortedMap.contains_iff, find?_identitiesByFamily, ← blocks_ne_nil_iff]
  split <;> simp [*]

@[grind →] theorem mem_names_of_find? {d : Dump} {name : String} {ids : SortedSet Identity}
    (h : d.identitiesByFamily.find? name = some ids) : name ∈ d.names :=
  contains_identitiesByFamily.mp (SortedMap.contains_iff.mpr ⟨ids, h⟩)

theorem contains_iff_mem_series {d : Dump} {name : String} {ids : SortedSet Identity}
    (h : d.identitiesByFamily.find? name = some ids) (identity : Identity) :
    ids.contains identity = true ↔ identity ∈ d.series name := by
  rw [find?_identitiesByFamily] at h
  split at h
  · cases h
  · cases h
    rw [SortedSet.contains_ofList, mem_identities]

@[simp, grind =] theorem contains_familyNames {d : Dump} {name : String} :
    d.familyNames.contains name = true ↔ name ∈ d.names := by
  rw [familyNames, SortedSet.contains_ofList, List.mem_map]
  rfl

@[simp]
theorem keys_identitiesByFamily (d : Dump) : d.identitiesByFamily.keys = d.familyNames.toList :=
  SortedSet.keys_eq_toList fun _ => contains_identitiesByFamily.trans contains_familyNames.symm

@[simp]
theorem keys_samplesByFamily (d : Dump) : d.samplesByFamily.keys = d.familyNames.toList := by
  rw [← keys_identitiesByFamily, identitiesByFamily, SortedMap.keys_map]

@[simp] theorem keys_familiesByName (d : Dump) : d.familiesByName.keys = d.familyNames.toList := by
  rw [← keys_samplesByFamily, samplesByFamily, SortedMap.keys_map]

theorem isStablePartition_familiesByName (d : Dump) :
    d.familiesByName.IsStablePartition Family.name d.families :=
  SortedMap.isStablePartition_foldl_alter Family.name d.families

/-- The sequences of all names are a rearrangement of the samples, since the groups are one of the
    blocks. -/
theorem perm_samplesByFamily (d : Dump) :
    (d.samplesByFamily.entries.flatMap (·.2)).Perm (d.families.flatMap (·.samples)) := by
  have sequences : d.samplesByFamily.entries.flatMap (·.2) =
      (d.familiesByName.entries.flatMap (·.2)).flatMap (·.samples) := by
    rw [List.flatMap_assoc, samplesByFamily, SortedMap.map, List.flatMap_map]
  rw [sequences]
  exact (isStablePartition_familiesByName d).perm.flatMap_right _

/-- Three maps hold the contents of a dump by family name: its blocks, their samples in source order
    and the series of these. -/
structure MergesTo (d : Dump) (groups : SortedMap String (List Family))
    (sequences : SortedMap String (List Sample)) (series : SortedMap String (SortedSet Identity)) :
    Prop where
  groups_keys : groups.keys = d.familyNames.toList
  groups_partition : groups.IsStablePartition Family.name d.families
  groups_sizes : (groups.entries.map (·.2.length)).sum = d.size
  sequences_keys : sequences.keys = d.familyNames.toList
  sequences_find? : ∀ name, sequences.find? name =
    (groups.find? name).map fun group => group.flatMap (·.samples)
  sequences_perm : (sequences.entries.flatMap (·.2)).Perm (d.families.flatMap (·.samples))
  series_keys : series.keys = d.familyNames.toList
  series_find? : ∀ name samples, sequences.find? name = some samples →
    ∃ ids, series.find? name = some ids ∧
      ∀ identity, ids.contains identity = true ↔ ∃ s ∈ samples, s.identity = identity

theorem mergesTo_byFamily (d : Dump) :
    d.MergesTo d.familiesByName d.samplesByFamily d.identitiesByFamily where
  groups_keys := keys_familiesByName d
  groups_partition := isStablePartition_familiesByName d
  groups_sizes := by
    rw [size, ← (isStablePartition_familiesByName d).perm.length_eq, List.length_flatMap]
  sequences_keys := keys_samplesByFamily d
  sequences_find? := fun name => SortedMap.find?_map _ _ name
  sequences_perm := perm_samplesByFamily d
  series_keys := keys_identitiesByFamily d
  series_find? := by
    intro name samples found
    refine ⟨.ofList (samples.map (·.identity)), ?_, fun identity => ?_⟩
    · rw [identitiesByFamily, SortedMap.find?_map, found, Option.map_some]
    · rw [SortedSet.contains_ofList, List.mem_map]

end Dump

/-- Merging keeps every block, every sample and every name and adds none. The maps of the samples
    and of the series are the same when they are collected anew from the pairs of the map before. -/
theorem merging_lossless (d : Dump) :
    d.MergesTo d.familiesByName d.samplesByFamily d.identitiesByFamily ∧
      d.samplesByFamily = .ofList (d.familiesByName.entries.map fun (name, group) =>
        (name, group.flatMap (·.samples))) ∧
      d.identitiesByFamily = .ofList (d.samplesByFamily.entries.map fun (name, samples) =>
        (name, .ofList (samples.map (·.identity)))) :=
  ⟨d.mergesTo_byFamily, SortedMap.map_eq_ofList _ _, SortedMap.map_eq_ofList _ _⟩

/-- The last name has a help line and no sample. -/
example :
    (Dump.ofText "# TYPE a counter\na 1\nb 0\n# TYPE a gauge\na 2\n# HELP c h\n").toOption.map
        (fun d => (d.familiesByName.entries.map fun (name, group) => (name, group.length),
          d.samplesByFamily.entries.map fun (name, samples) => (name, samples.length),
          d.identitiesByFamily.entries.map fun (name, ids) => (name, ids.size))) =
      some ([("a", 2), ("b", 1), ("c", 1)], [("a", 2), ("b", 1), ("c", 0)],
        [("a", 1), ("b", 1), ("c", 0)]) := by
  decide +kernel

end Exposition
