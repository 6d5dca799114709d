import Exposition.Proofs.Line.LabelSet
import Exposition.Proofs.Merge
import Exposition.Validation

/-! # What a validation reports

A validation is described by its answers: the blocks it lists for a name and the series it lists
with their counts. The counts are those of the samples over all blocks of the name together, so
neither how the samples are spread over these blocks nor their order shows in them.
-/

namespace Exposition

theorem find?_occurrences (samples : List Sample) (identity : Identity) :
    (occurrences samples).find? identity =
      if identity ∈ samples.map (·.identity) then some ((samples.map (·.identity)).count identity)
      else none := by
  have counted : (samples.map (·.identity)).count identity =
      (samples.filter (·.identity = identity)).foldl (fun count _ => count + 1) 0 := by
    rw [List.foldl_add_const, List.count, List.countP_map, List.countP_eq_length_filter,
      Nat.zero_add, Nat.one_mul]
    rfl
  have present : identity ∈ samples.map (·.identity) ↔
      samples.filter (·.identity = identity) ≠ [] := by
    simp
  rw [occurrences, SortedMap.find?_foldl_alter Sample.identity (fun count _ => count + 1) 0,
    SortedMap.find?_empty, Option.getD_none, counted]
  simp only [present, ne_eq, ite_not]

/-- Only the series of the samples matter, and they in any order. -/
theorem occurrences_congr {samples samples' : List Sample}
    (same : (samples.map (·.identity)).Perm (samples'.map (·.identity))) :
    occurrences samples = occurrences samples' := by
  apply SortedMap.ext_find?
  intro identity
  rw [find?_occurrences, find?_occurrences, same.count_eq]
  simp only [same.mem_iff]

theorem mem_repeated {samples : List Sample} {identity : Identity} {count : Nat} :
    ⟨identity, count⟩ ∈ repeated samples ↔
      2 ≤ count ∧ count = (samples.map (·.identity)).count identity := by
  have listed : ⟨identity, count⟩ ∈ repeated samples ↔
      2 ≤ count ∧ (occurrences samples).find? identity = some count := by
    rw [SortedMap.find?_eq_some_iff]
    simp only [repeated, List.mem_filterMap, Option.ite_none_right_eq_some, Option.some.injEq,
      DuplicateSample.mk.injEq]
    constructor
    · rintro ⟨_, h, several, rfl, rfl⟩
      exact ⟨several, h⟩
    · rintro ⟨several, h⟩
      exact ⟨_, h, several, rfl, rfl⟩
  rw [listed, find?_occurrences]
  refine and_congr_right fun several => ?_
  rw [Option.ite_none_right_eq_some, Option.some.injEq]
  constructor
  · rintro ⟨-, rfl⟩
    rfl
  · rintro rfl
    exact ⟨List.count_pos_iff.mp (by omega), rfl⟩

theorem repeated_eq_nil_iff {samples : List Sample} :
    repeated samples = [] ↔ (samples.map (·.identity)).Nodup := by
  rw [List.eq_nil_iff_forall_not_mem, List.nodup_iff_count_le_one]
  constructor
  · intro none identity
    by_contra several
    exact none ⟨identity, _⟩ (mem_repeated.mpr ⟨by omega, rfl⟩)
  · rintro single ⟨identity, count⟩ listed
    obtain ⟨several, rfl⟩ := mem_repeated.mp listed
    have := single identity
    omega

theorem repeated_ascending (samples : List Sample) :
    (repeated samples).Pairwise fun a b => compare a.identity b.identity = .lt := by
  refine List.Pairwise.filterMap _ ?_ (occurrences samples).ascending
  rintro ⟨i, m⟩ ⟨j, n⟩ lt a ha b hb
  obtain ⟨-, ⟨⟩⟩ := Option.ite_none_right_eq_some.mp ha
  obtain ⟨-, ⟨⟩⟩ := Option.ite_none_right_eq_some.mp hb
  exact lt

section Findings

variable {d : Dump} {name : String}

theorem find?_duplicateFamilies_eq_some_iff {found : List Family} :
    (validate d).duplicateFamilies.find? name = some found ↔
      found = d.blocks name ∧ 2 ≤ found.length := by
  rw [validate, SortedMap.find?_filter, Option.filter_eq_some_iff, Dump.find?_familiesByName,
    decide_eq_true_iff]
  split
  · next absent => simp +contextual [absent]
  · rw [Option.some_inj, eq_comm]
    rfl

/-- A name without any block has no samples, so its case needs no mention. -/
theorem find?_duplicateSamples_eq_some_iff {found : List DuplicateSample} :
    (validate d).duplicateSamples.find? name = some found ↔
      found = repeated ((d.blocks name).flatMap (·.samples)) ∧ found ≠ [] := by
  rw [validate, SortedMap.find?_filter, Option.filter_eq_some_iff, SortedMap.find?_map,
    Dump.find?_samplesByFamily]
  split
  · next absent =>
    rw [absent]
    simp +contextual [repeated, occurrences, SortedMap.empty]
  · rw [Option.map_some, Option.some_inj, eq_comm]
    simp

/-- A validation is clean if no name has two blocks and no block has two samples of a series. -/
theorem isClean_validate_iff :
    (validate d).isClean = true ↔
      (d.families.map (·.name)).Nodup ∧ ∀ f ∈ d.families, (f.samples.map (·.identity)).Nodup := by
  have distinct : (d.families.map (·.name)).Nodup ↔ ∀ name, (d.blocks name).length ≤ 1 := by
    rw [List.nodup_iff_count_le_one]
    refine forall_congr' fun name => ?_
    rw [List.count, List.countP_map, List.countP_eq_length_filter]
    rfl
  have noFamily : ∀ name, (validate d).duplicateFamilies.find? name = none ↔
      (d.blocks name).length ≤ 1 := by
    intro name
    simp [Option.eq_none_iff_forall_ne_some, find?_duplicateFamilies_eq_some_iff]
  have noSample : ∀ name, (validate d).duplicateSamples.find? name = none ↔
      (d.identities name).Nodup := by
    intro name
    simp [Option.eq_none_iff_forall_ne_some, find?_duplicateSamples_eq_some_iff,
      repeated_eq_nil_iff, Dump.identities]
  rw [Validation.isClean, Bool.and_eq_true, SortedMap.isEmpty_iff, SortedMap.isEmpty_iff, distinct]
  simp only [noFamily, noSample]
  -- From here on a name has one block, whose series are all the series of the name.
  refine and_congr_right fun single => ?_
  constructor
  · intro nodup f hf
    have here : f ∈ d.blocks f.name := by simpa [Dump.blocks] using hf
    obtain ⟨g, alone⟩ := List.length_eq_one_iff.mp
      (le_antisymm (single f.name) (List.length_pos_of_mem here))
    rw [alone, List.mem_singleton] at here
    simpa [Dump.identities, alone, ← here] using nodup f.name
  · intro nodup name
    rw [Dump.identities]
    cases found : d.blocks name with
    | nil => simp
    | cons f rest =>
        have hf : f ∈ d.blocks name := by simp [found]
        have alone : rest = [] := by simpa [found] using single name
        simpa [alone] using nodup f (List.mem_filter.mp hf).1

end Findings

/-- How many samples of a series the blocks of a name hold, all blocks together. A sample is of the
    series if it has its name and its labels, whatever its value and its time. -/
def Dump.count (d : Dump) (name : String) (identity : Identity) : Nat :=
  ((d.blocks name).map fun f =>
    f.samples.countP fun s => s.name = identity.name ∧ s.labels = identity.labels).sum

theorem Dump.count_eq (d : Dump) (name : String) (identity : Identity) :
    d.count name identity = (d.identities name).count identity := by
  rw [count, identities, List.count, List.countP_map, List.countP_flatMap]
  refine congrArg List.sum (List.map_congr_left fun f _ => List.countP_congr fun s _ => ?_)
  rw [decide_eq_true_iff, Function.comp_apply, beq_iff_eq]
  obtain ⟨⟨_, _⟩, _, _⟩ := s
  obtain ⟨_, _⟩ := identity
  simp [Sample.name, Sample.labels]

/-- What a validation says about a dump: the names of several blocks, with these blocks in source
    order, and under each name the series of several samples, with their number. -/
structure ListsDuplicates (v : Validation) (d : Dump) : Prop where
  families_iff : ∀ name, v.duplicateFamilies.contains name = true ↔ 2 ≤ (d.blocks name).length
  families_blocks : ∀ name found, v.duplicateFamilies.find? name = some found →
    found = d.blocks name
  samples_iff : ∀ name, v.duplicateSamples.contains name = true ↔
    ∃ identity, 2 ≤ d.count name identity
  samples_ascending : ∀ name found, v.duplicateSamples.find? name = some found →
    found.Pairwise fun a b => compare a.identity b.identity = .lt
  samples_counts : ∀ name found, v.duplicateSamples.find? name = some found →
    ∀ identity count, ⟨identity, count⟩ ∈ found ↔ 2 ≤ count ∧ count = d.count name identity

theorem validate_listsDuplicates (d : Dump) : ListsDuplicates (validate d) d where
  families_iff := by
    intro name
    simp [SortedMap.contains_iff, find?_duplicateFamilies_eq_some_iff]
  families_blocks := by
    intro name found h
    exact (find?_duplicateFamilies_eq_some_iff.mp h).1
  samples_iff := by
    intro name
    rw [SortedMap.contains_iff]
    constructor
    · rintro ⟨found, h⟩
      obtain ⟨rfl, nonempty⟩ := find?_duplicateSamples_eq_some_iff.mp h
      obtain ⟨⟨identity, count⟩, listed⟩ := List.exists_mem_of_ne_nil _ nonempty
      obtain ⟨several, rfl⟩ := mem_repeated.mp listed
      exact ⟨identity, by rwa [Dump.count_eq]⟩
    · rintro ⟨identity, several⟩
      have listed := mem_repeated.mpr ⟨several, Dump.count_eq d name identity⟩
      exact ⟨_, find?_duplicateSamples_eq_some_iff.mpr ⟨rfl, List.ne_nil_of_mem listed⟩⟩
  samples_ascending := by
    intro name found h
    obtain ⟨rfl, -⟩ := find?_duplicateSamples_eq_some_iff.mp h
    exact repeated_ascending _
  samples_counts := by
    intro name found h identity count
    obtain ⟨rfl, -⟩ := find?_duplicateSamples_eq_some_iff.mp h
    rw [mem_repeated, Dump.count_eq]
    rfl

/-- A validation lists every duplicate and nothing else. Label sets written in another order are
    one set, so the order in which a sample line gives its labels does not count. -/
theorem validate_exact :
    (∀ d, ListsDuplicates (validate d) d) ∧
      ∀ pairs pairs' : List (String × String), pairs.Perm pairs' →
        Labels.ofDistinct? pairs = Labels.ofDistinct? pairs' :=
  ⟨validate_listsDuplicates, fun _ _ => Labels.ofDistinct?_congr⟩

end Exposition
