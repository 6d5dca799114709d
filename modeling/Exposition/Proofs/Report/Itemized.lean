import Exposition.Proofs.Report.Difference

/-! # Headings and their items

A heading announces what stands under it, so a report that has a heading without an item says
nothing with it. Lines are put together from paragraphs, each a heading and one or more items. A
report on a difference of two dumps is made of them, since the checks keep no empty set of series
and no change that changes nothing.
-/

namespace Exposition

/-- Lines in which each heading has items behind it, up to the next heading. -/
inductive Itemized : List String → Prop where
  | nil : Itemized []
  | paragraph {heading items rest} :
      isItem heading = false → items ≠ [] → (∀ line ∈ items, isItem line = true) →
      Itemized rest → Itemized (heading :: (items ++ rest))

namespace Itemized

theorem one {heading : String} {items : List String} (isHeading : isItem heading = false)
    (some : items ≠ []) (areItems : ∀ line ∈ items, isItem line = true) :
    Itemized (heading :: items) := by
  have alone := paragraph isHeading some areItems .nil
  rwa [List.append_nil] at alone

theorem append {front back : List String} (h : Itemized front) (h' : Itemized back) :
    Itemized (front ++ back) := by
  induction h with
  | nil => exact h'
  | paragraph isHeading some areItems _ ih =>
      rw [List.cons_append, List.append_assoc]
      exact .paragraph isHeading some areItems ih

theorem flatMap {α : Type} {parts : List α} {lines : α → List String}
    (h : ∀ a ∈ parts, Itemized (lines a)) : Itemized (parts.flatMap lines) := by
  induction parts with
  | nil => exact .nil
  | cons a parts ih =>
      obtain ⟨here, later⟩ := List.forall_mem_cons.mp h
      rw [List.flatMap_cons]
      exact here.append (ih later)

/-- The line behind a heading is an item. -/
theorem next {lines : List String} (h : Itemized lines) {k : Nat} {heading : String}
    (here : lines[k]? = some heading) (isHeading : isItem heading = false) :
    ∃ line, lines[k + 1]? = some line ∧ isItem line = true := by
  induction h generalizing k with
  | nil => cases here
  | @paragraph _ items rest _ some areItems _ ih =>
      obtain ⟨first, more, rfl⟩ := List.exists_cons_of_ne_nil some
      cases k with
      | zero => exact ⟨first, rfl, areItems first List.mem_cons_self⟩
      | succ k =>
          rw [List.getElem?_cons_succ] at here
          -- a heading further on cannot be among the items of the first paragraph
          by_cases inside : k < (first :: more).length
          · rw [List.getElem?_append_left inside] at here
            rw [areItems heading (List.mem_of_getElem? here)] at isHeading
            cases isHeading
          · have behind : (first :: more).length ≤ k := by omega
            rw [List.getElem?_append_right behind] at here
            obtain ⟨line, later, isItem⟩ := ih here
            refine ⟨line, ?_, isItem⟩
            rw [List.getElem?_cons_succ, List.getElem?_append_right (by omega), ← later]
            congr 1
            omega

/-- No heading stands alone. -/
theorem ne_singleton {lines : List String} (h : Itemized lines) {heading : String}
    (isHeading : isItem heading = false) : lines ≠ [heading] := by
  rintro rfl
  obtain ⟨line, behind, -⟩ := h.next (k := 0) rfl isHeading
  cases behind

end Itemized

theorem SortedSet.toList_ne_nil {α : Type} [Ord α] {s : SortedSet α} (some : s.isEmpty = false) :
    s.toList ≠ [] := by
  intro none
  have empty := List.map_eq_nil_iff.mp none
  simp [SortedMap.isEmpty, empty] at some

theorem MetadataChange.lines_ne_nil {change : MetadataChange}
    (differ : change.before ≠ change.after) : change.lines ≠ [] := by
  intro none
  obtain ⟨types, helps⟩ := List.append_eq_nil_iff.mp none
  apply differ
  obtain ⟨⟨type, help⟩, ⟨type', help'⟩⟩ := change
  simp only [ite_eq_left_iff, reduceCtorEq, imp_false, not_not] at types helps
  rw [types, helps]

namespace Difference

/-- Everything that is listed has something to show. -/
structure IsVisible (d : Difference) : Prop where
  addedSamples : ∀ entry ∈ d.addedSamples.entries, entry.2.isEmpty = false
  removedSamples : ∀ entry ∈ d.removedSamples.entries, entry.2.isEmpty = false
  changes : ∀ entry ∈ d.metadataChanges.entries, entry.2.before ≠ entry.2.after

theorem isVisible_diff (a b : Dump) : (diff a b).IsVisible where
  addedSamples _ member := (mem_onlySeries (SortedMap.find?_eq_some_iff.mpr member)).2.1
  removedSamples _ member := (mem_onlySeries (SortedMap.find?_eq_some_iff.mpr member)).2.1
  changes _ member := (find?_metadataChanges.mp (SortedMap.find?_eq_some_iff.mpr member)).2.2

variable {d : Difference}

theorem IsVisible.items_ne_nil (h : d.IsVisible) {topic : Topic} (finding : topic ≠ .nothing) :
    ∀ s ∈ d.sectionsOn topic, s.items ≠ [] := by
  have family {topic : Topic} {names : SortedSet String} :
      ∀ s ∈ familySections topic names, s.items ≠ [] := by
    intro s member
    rw [familySections] at member
    split at member
    · cases member
    · next some =>
        rw [List.mem_singleton.mp member]
        intro none
        rw [Bool.not_eq_true] at some
        exact SortedSet.toList_ne_nil some (List.map_eq_nil_iff.mp none)
  have series {topic : Topic} {m : SortedMap String (SortedSet Identity)}
      (some : ∀ entry ∈ m.entries, entry.2.isEmpty = false) :
      ∀ s ∈ seriesSections topic m, s.items ≠ [] := by
    intro s member
    obtain ⟨entry, inMap, rfl⟩ := List.mem_map.mp member
    exact fun none => SortedSet.toList_ne_nil (some entry inMap) (List.map_eq_nil_iff.mp none)
  cases topic with
  | nothing => contradiction
  | newFamilies | goneFamilies => exact family
  | newSamples => exact series h.addedSamples
  | goneSamples => exact series h.removedSamples
  | metadata =>
      intro s member
      obtain ⟨entry, inMap, rfl⟩ := List.mem_map.mp member
      exact MetadataChange.lines_ne_nil (h.changes entry inMap)

theorem IsVisible.itemized (h : d.IsVisible) (wellFormed : d.WellFormed)
    (some : d.isEmpty = false) : Itemized d.report := by
  rw [report_eq]
  refine .flatMap fun s member => ?_
  refine .one s.isItem_heading ?_ (wellFormed.sound s member).items
  obtain ⟨topic, -, member⟩ := List.mem_flatMap.mp member
  refine h.items_ne_nil (fun nothing => ?_) s member
  rw [nothing, sectionsOn, some] at member
  cases member

end Difference

end Exposition
