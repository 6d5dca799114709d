import Exposition.FamilyFilter
import Exposition.Proofs.Difference
import Exposition.Proofs.Line.Basic
import Exposition.Validation

/-! # Families left out

A filter looks at the names of families only. All blocks of a name go or all of them stay, with
their samples and in their order, and so it makes no difference whether families are left out of
the dumps or of what is found in them. Which names are left out does not matter for that: the
statements about groups and checks hold for any choice of names.
-/

namespace Exposition

/-- The map without the entries of some names. -/
def SortedMap.without {ν : Type} (m : SortedMap String ν) (drop : String → Bool) :
    SortedMap String ν :=
  m.filter fun name _ => !drop name

/-- The dump without all blocks of some names. -/
def Dump.without (d : Dump) (drop : String → Bool) : Dump :=
  ⟨d.origin, d.families.filter fun f => !drop f.name⟩

/-- What was found under names that are not left out. -/
def Validation.without (v : Validation) (drop : String → Bool) : Validation where
  duplicateFamilies := v.duplicateFamilies.without drop
  duplicateSamples := v.duplicateSamples.without drop

/-- The difference in names that are not left out. -/
def Difference.without (d : Difference) (drop : String → Bool) : Difference where
  addedFamilies := d.addedFamilies.without drop
  removedFamilies := d.removedFamilies.without drop
  addedSamples := d.addedSamples.without drop
  removedSamples := d.removedSamples.without drop
  metadataChanges := d.metadataChanges.without drop

section Maps

variable {ν μ : Type} {drop : String → Bool}

@[simp, grind =]
theorem SortedMap.find?_without (m : SortedMap String ν) (drop : String → Bool) (name : String) :
    (m.without drop).find? name = if drop name then none else m.find? name := by
  rw [without, find?_filter]
  cases drop name <;> cases m.find? name <;> simp

@[simp, grind =]
theorem SortedMap.contains_without (m : SortedMap String ν) (drop : String → Bool) (name : String) :
    (m.without drop).contains name = (!drop name && m.contains name) := by
  rw [contains, contains, find?_without]
  cases drop name <;> rfl

@[simp] theorem SortedMap.map_without (m : SortedMap String ν) (f : String → ν → μ) :
    (m.without drop).map f = (m.map f).without drop := by
  apply ext_find?
  intro name
  cases dropped : drop name <;> simp [dropped]

@[simp] theorem SortedMap.filter_without (m : SortedMap String ν) (p : String → ν → Bool) :
    (m.without drop).filter p = (m.filter p).without drop := by
  apply ext_find?
  intro name
  cases dropped : drop name <;> simp [dropped]

/-- The names of the second map that are left out are left out of the first one, too. -/
@[simp] theorem onlyNames_without (m : SortedMap String ν) (n : SortedMap String μ) :
    onlyNames (m.without drop) (n.without drop) = (onlyNames m n).without drop := by
  apply SortedMap.ext_find?
  intro name
  cases dropped : drop name <;> simp [onlyNames, dropped]

@[simp] theorem onlySeries_without (m n : SortedMap String (SortedSet Identity)) :
    onlySeries (m.without drop) (n.without drop) = (onlySeries m n).without drop := by
  apply SortedMap.ext_find?
  intro name
  cases dropped : drop name <;> simp [onlySeries, dropped]

@[simp] theorem changes_without (before after : SortedMap String (List Family)) :
    changes (before.without drop) (after.without drop) = (changes before after).without drop := by
  apply SortedMap.ext_find?
  intro name
  cases dropped : drop name <;> simp [changes, dropped]

end Maps

namespace Dump

variable {drop : String → Bool}

/-- A name keeps all its blocks or loses them all. -/
@[simp] theorem blocks_without (d : Dump) (drop : String → Bool) (name : String) :
    (d.without drop).blocks name = if drop name then [] else d.blocks name := by
  rw [blocks, without, List.filter_filter]
  split
  · next dropped =>
    apply List.filter_eq_nil_iff.mpr
    rintro f - kept
    simp only [Bool.and_eq_true, decide_eq_true_eq, Bool.not_eq_true'] at kept
    obtain ⟨rfl, kept⟩ := kept
    simp [dropped] at kept
  · next kept =>
    apply List.filter_congr
    intro f _
    by_cases named : f.name = name
    · simp [named, kept]
    · simp [named]

@[simp] theorem familiesByName_without (d : Dump) :
    (d.without drop).familiesByName = d.familiesByName.without drop := by
  apply SortedMap.ext_find?
  intro name
  cases dropped : drop name <;> simp [dropped]

@[simp] theorem samplesByFamily_without (d : Dump) :
    (d.without drop).samplesByFamily = d.samplesByFamily.without drop := by
  simp [samplesByFamily]

@[simp] theorem identitiesByFamily_without (d : Dump) :
    (d.without drop).identitiesByFamily = d.identitiesByFamily.without drop := by
  simp [identitiesByFamily]

@[simp] theorem without_without (d : Dump) (drop drop' : String → Bool) :
    (d.without drop).without drop' = d.without fun name => drop name || drop' name := by
  simp only [without, List.filter_filter, Bool.not_or, Bool.and_comm]

end Dump

theorem validate_without (d : Dump) (drop : String → Bool) :
    validate (d.without drop) = (validate d).without drop := by
  simp [validate, Validation.without]

theorem diff_without (before after : Dump) (drop : String → Bool) :
    diff (before.without drop) (after.without drop) = (diff before after).without drop := by
  simp [diff, Difference.without]

namespace FamilyFilter

/-- A filter with the patterns of both. -/
def append (f g : FamilyFilter) : FamilyFilter := ⟨f.excluded ++ g.excluded⟩

@[simp, grind =] theorem excludes_append (f g : FamilyFilter) (name : String) :
    (f.append g).excludes name = (f.excludes name || g.excludes name) :=
  List.any_append

/-- Without patterns no name is left out, so that case is no exception. -/
theorem apply_eq_without (f : FamilyFilter) (d : Dump) : f.apply d = d.without f.excludes := by
  rw [apply, Dump.without]
  split
  · next empty =>
    have none : f.excluded = [] := List.isEmpty_iff.mp empty
    simp [excludes, none]
  · rfl

theorem apply_append (f g : FamilyFilter) (d : Dump) :
    (f.append g).apply d = g.apply (f.apply d) := by
  rw [apply_eq_without, apply_eq_without, apply_eq_without, Dump.without_without]
  simp only [← excludes_append]

@[simp] theorem apply_apply (f : FamilyFilter) (d : Dump) : f.apply (f.apply d) = f.apply d := by
  rw [apply_eq_without, apply_eq_without, Dump.without_without]
  simp only [Bool.or_self]

/-- The patterns may stand in any order. -/
theorem apply_of_perm {f g : FamilyFilter} (same : f.excluded.Perm g.excluded) (d : Dump) :
    f.apply d = g.apply d := by
  have sameNames : f.excludes = g.excludes := funext fun name => same.any_eq
  rw [apply_eq_without, apply_eq_without, sameNames]

section Budget

variable {fits : Pattern.Expr → Bool} {texts texts' : List String}

/-- A filter has a pattern for each of its texts, in their order. -/
theorem ofPatternsWithin_eq_ok_iff {f : FamilyFilter} :
    ofPatternsWithin fits texts = .ok f ↔
      List.Forall₂ (fun text p => compileWithin fits text = .ok p) texts f.excluded := by
  have compiled : ∀ ps, texts.mapM (compileWithin fits) = .ok ps ↔
      List.Forall₂ (fun text p => compileWithin fits text = .ok p) texts ps := by
    induction texts with
    | nil => simp [pure, Except.pure, eq_comm]
    | cons text rest ih =>
        intro ps
        simp only [List.mapM_cons, bind_eq_ok_iff, List.forall₂_cons_left_iff, ih, pure,
          Except.pure, Except.ok.injEq]
        constructor
        · rintro ⟨p, here, more, later, rfl⟩
          exact ⟨p, more, here, later, rfl⟩
        · rintro ⟨p, more, here, later, rfl⟩
          exact ⟨p, here, more, later, rfl⟩
  obtain ⟨ps⟩ := f
  rw [ofPatternsWithin, map_eq_ok_iff, ← compiled]
  simp

theorem ofPatternsWithin_append_iff {both : FamilyFilter} :
    ofPatternsWithin fits (texts ++ texts') = .ok both ↔
      ∃ f g, ofPatternsWithin fits texts = .ok f ∧ ofPatternsWithin fits texts' = .ok g ∧
        both = f.append g := by
  obtain ⟨ps⟩ := both
  simp only [ofPatternsWithin_eq_ok_iff]
  constructor
  · intro compiled
    have split := List.take_append_drop texts.length ps
    have first := List.forall₂_take texts.length compiled
    have second := List.forall₂_drop texts.length compiled
    rw [List.take_left] at first
    rw [List.drop_left] at second
    exact ⟨⟨_⟩, ⟨_⟩, first, second, by rw [append, split]⟩
  · rintro ⟨f, g, first, second, same⟩
    cases same
    exact List.rel_append first second

theorem ofPatternsWithin_of_perm {f : FamilyFilter} (same : texts.Perm texts')
    (made : ofPatternsWithin fits texts = .ok f) :
    ∃ g, ofPatternsWithin fits texts' = .ok g ∧ ∀ d, g.apply d = f.apply d := by
  obtain ⟨ps, compiled, samePatterns⟩ :=
    List.perm_comp_forall₂ same.symm (ofPatternsWithin_eq_ok_iff.mp made)
  exact ⟨⟨ps⟩, ofPatternsWithin_eq_ok_iff.mpr compiled, fun d => apply_of_perm samePatterns d⟩

end Budget

end FamilyFilter

/-- Leaving names out of dumps commutes with every check: what is found in the dumps that are left
    is what was found in the whole dumps, without the names that are left out. The origin and the
    order of the other blocks stay. -/
structure CommutesWithChecks (leave : Dump → Dump) (drop : String → Bool) : Prop where
  validation : ∀ d, validate (leave d) = (validate d).without drop
  difference : ∀ a b, diff (leave a) (leave b) = (diff a b).without drop
  origin : ∀ d, (leave d).origin = d.origin
  families : ∀ d, (leave d).families = d.families.filter fun family => !drop family.name

theorem commutesWithChecks_without (drop : String → Bool) :
    CommutesWithChecks (·.without drop) drop where
  validation d := validate_without d drop
  difference a b := diff_without a b drop
  origin _ := rfl
  families _ := rfl

/-- A filter leaves out the names that its patterns match, whatever a pattern is. -/
theorem FamilyFilter.commutesWithChecks_apply (f : FamilyFilter) :
    CommutesWithChecks f.apply f.excludes := by
  rw [show f.apply = (·.without f.excludes) from funext f.apply_eq_without]
  exact commutesWithChecks_without f.excludes

/-- Leaving out any names commutes with every check, and so it does for the names that a filter
    excludes. Patterns can be applied all at once or some after the others, in any order and more
    than once. -/
theorem exclusion_commutes_with_checks :
    (∀ drop, CommutesWithChecks (·.without drop) drop) ∧
      (∀ d drop drop', (Dump.without d drop).without drop' =
        d.without fun name => drop name || drop' name) ∧
      (∀ f : FamilyFilter, CommutesWithChecks f.apply f.excludes) ∧
      (∀ fits texts texts' both, FamilyFilter.ofPatternsWithin fits (texts ++ texts') = .ok both ↔
        ∃ f g, FamilyFilter.ofPatternsWithin fits texts = .ok f ∧
          FamilyFilter.ofPatternsWithin fits texts' = .ok g ∧ both = f.append g) ∧
      (∀ f g d, (FamilyFilter.append f g).apply d = g.apply (f.apply d)) ∧
      (∀ fits texts texts' f, texts.Perm texts' →
        FamilyFilter.ofPatternsWithin fits texts = .ok f →
          ∃ g, FamilyFilter.ofPatternsWithin fits texts' = .ok g ∧ ∀ d, g.apply d = f.apply d) ∧
      ∀ (f : FamilyFilter) d, f.apply (f.apply d) = f.apply d := by
  refine ⟨commutesWithChecks_without, Dump.without_without, FamilyFilter.commutesWithChecks_apply,
    fun _ _ _ _ => ?_, FamilyFilter.apply_append, fun _ _ _ _ => ?_, FamilyFilter.apply_apply⟩
  · exact FamilyFilter.ofPatternsWithin_append_iff
  · exact FamilyFilter.ofPatternsWithin_of_perm

/-- A filter that leaves out a histogram, but not a family named like the sum of one. -/
theorem exists_filter :
    ∃ f, FamilyFilter.ofPatterns ["n", "up|m"] = .ok f ∧
      f.excludes "n" = true ∧ f.excludes "n_sum" = false := by
  have names : (FamilyFilter.ofPatterns ["n", "up|m"]).map
      (fun f => (f.excludes "n", f.excludes "n_sum")) = .ok (true, false) := by
    decide +kernel
  obtain ⟨f, made, names⟩ := map_eq_ok_iff.mp names
  exact ⟨f, made, congrArg Prod.fst names, congrArg Prod.snd names⟩

theorem exclusion_commutes_with_checks_reordered :
    ∃ f g, ["n", "up|m"].Perm ["up|m", "n"] ∧ FamilyFilter.ofPatterns ["n", "up|m"] = .ok f ∧
      FamilyFilter.ofPatterns ["up|m", "n"] = .ok g ∧
      f.excludes "n" = true ∧ f.excludes "n_sum" = false ∧ (∀ d, g.apply d = f.apply d) ∧
      ∀ d, validate (f.apply d) = (validate d).without f.excludes := by
  obtain ⟨f, made, dropped, kept⟩ := exists_filter
  obtain ⟨-, -, commutes, -, -, reordered, -⟩ := exclusion_commutes_with_checks
  have swapped : ["n", "up|m"].Perm ["up|m", "n"] := .swap "up|m" "n" []
  obtain ⟨g, made', same⟩ := reordered Pattern.Expr.fits _ _ f swapped made
  exact ⟨f, g, swapped, made, made', dropped, kept, same, (commutes f).validation⟩

end Exposition
