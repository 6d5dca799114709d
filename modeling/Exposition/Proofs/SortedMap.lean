import Exposition.SortedMap
import Mathlib

/-! # Sorted maps as partial functions

A map is determined by what `find?` answers for every key, and every operation is described by
what it does to those answers. Later proofs never look at the list of entries: they compare
answers, and `ext_find?` turns equal answers into equal maps.
-/

namespace Exposition

namespace SortedMap

variable {κ ν μ : Type} [Ord κ]

@[grind =] theorem contains_iff {m : SortedMap κ ν} {k : κ} :
    m.contains k = true ↔ ∃ v, m.find? k = some v := by
  simp [contains, Option.isSome_iff_exists]

@[simp, grind =] theorem find?_empty (k : κ) : (empty : SortedMap κ ν).find? k = none := rfl

theorem isEmpty_iff_eq_empty {m : SortedMap κ ν} : m.isEmpty = true ↔ m = .empty := by
  rw [isEmpty, List.isEmpty_iff]
  constructor
  · intro nothing
    exact ext_entries nothing
  · rintro rfl
    rfl

@[simp] theorem findEntry?_nil (k : κ) : findEntry? k ([] : List (κ × ν)) = none := rfl

@[grind =] theorem findEntry?_cons (k : κ) (e : κ × ν) (es : List (κ × ν)) :
    findEntry? k (e :: es) = if compare k e.1 = .eq then some e.2 else findEntry? k es := rfl

theorem findEntry?_eq_none {k : κ} {es : List (κ × ν)} (h : ∀ e ∈ es, compare k e.1 ≠ .eq) :
    findEntry? k es = none := by
  induction es with
  | nil => rfl
  | cons e rest ih =>
      have here := h e (by simp)
      rw [findEntry?_cons, if_neg here]
      exact ih fun e' he => h e' (List.mem_cons_of_mem _ he)

section Answers

variable [Std.LawfulEqOrd κ]

/-- In ascending entries a key stands once, so the first entry of a key is its only one. -/
theorem findEntry?_eq_some_iff {k : κ} {v : ν} {es : List (κ × ν)}
    (ascending : es.Pairwise fun a b => compare a.1 b.1 = .lt) :
    findEntry? k es = some v ↔ (k, v) ∈ es := by
  induction es with
  | nil => simp
  | cons e rest ih =>
      obtain ⟨k', v'⟩ := e
      obtain ⟨first, ascending⟩ := List.pairwise_cons.mp ascending
      simp only [findEntry?_cons, List.mem_cons, Prod.mk.injEq]
      split
      · next same =>
          have same := Std.LawfulEqCmp.eq_of_compare same
          subst same
          constructor
          · intro h
            exact .inl ⟨rfl, (Option.some.inj h).symm⟩
          · rintro (⟨-, rfl⟩ | later)
            · rfl
            · have := first _ later
              simp at this
      · next differ =>
          rw [ih ascending]
          constructor
          · exact .inr
          · rintro (⟨rfl, -⟩ | later)
            · simp at differ
            · exact later

@[grind =] theorem find?_eq_some_iff {m : SortedMap κ ν} {k : κ} {v : ν} :
    m.find? k = some v ↔ (k, v) ∈ m.entries :=
  findEntry?_eq_some_iff m.ascending

/-- Maps that answer alike are equal: both list the same entries in the one ascending order. -/
theorem ext_find? [Std.TransOrd κ] {m n : SortedMap κ ν} (h : ∀ k, m.find? k = n.find? k) :
    m = n := by
  have sameEntries : ∀ e, e ∈ m.entries ↔ e ∈ n.entries := by
    rintro ⟨k, v⟩
    rw [← find?_eq_some_iff, h k, find?_eq_some_iff]
  have nodup : ∀ m : SortedMap κ ν, m.entries.Nodup := fun m =>
    m.ascending.imp fun lt same => by subst same; simp at lt
  apply ext_entries
  refine ((List.perm_ext_iff_of_nodup (nodup m) (nodup n)).mpr sameEntries).eq_of_pairwise
    (fun a b _ _ ab ba => ?_) m.ascending n.ascending
  cases ba.symm.trans (Std.OrientedCmp.gt_of_lt ab)

theorem isEmpty_iff {m : SortedMap κ ν} : m.isEmpty = true ↔ ∀ k, m.find? k = none := by
  simp only [isEmpty, List.isEmpty_iff]
  constructor
  · intro none k
    simp [find?, none]
  · intro unanswered
    apply List.eq_nil_iff_forall_not_mem.mpr
    rintro ⟨k, v⟩ he
    have := find?_eq_some_iff.mpr he
    simp [unanswered] at this

end Answers

theorem findEntry?_alterEntries_self [Std.TransOrd κ] (k : κ) (f : Option ν → ν) {es : List (κ × ν)}
    (ascending : es.Pairwise fun a b => compare a.1 b.1 = .lt) :
    findEntry? k (alterEntries k f es) = some (f <| findEntry? k es) := by
  induction es with
  | nil => simp [alterEntries, findEntry?_cons]
  | cons e rest ih =>
      obtain ⟨k', v⟩ := e
      obtain ⟨first, ascending⟩ := List.pairwise_cons.mp ascending
      rw [alterEntries]
      split
      · next before =>
          have absent : findEntry? k rest = none := findEntry?_eq_none fun e he => by
            simp [Std.TransCmp.lt_trans before (first e he)]
          simp [findEntry?_cons, before, absent]
      · next same => simp [findEntry?_cons, same]
      · next after => simp [findEntry?_cons, after, ih ascending]

@[simp, grind =]
theorem find?_alter_self [Std.TransOrd κ] (m : SortedMap κ ν) (k : κ) (f : Option ν → ν) :
    (m.alter k f).find? k = some (f (m.find? k)) :=
  findEntry?_alterEntries_self k f m.ascending

@[simp, grind =] theorem find?_insert_self [Std.TransOrd κ] (m : SortedMap κ ν) (k : κ) (v : ν) :
    (m.insert k v).find? k = some v :=
  find?_alter_self m k _

@[simp] theorem keys_map (m : SortedMap κ ν) (f : κ → ν → μ) : (m.map f).keys = m.keys := by
  rw [keys, map, List.map_map]
  rfl

section Collecting

variable [Std.TransOrd κ]

theorem alterEntries_of_last {k : κ} {es : List (κ × ν)} (f : Option ν → ν)
    (last : ∀ e ∈ es, compare e.1 k = .lt) : alterEntries k f es = es ++ [(k, f none)] := by
  induction es with
  | nil => rfl
  | cons e rest ih =>
      have after : compare k e.1 = .gt := Std.OrientedCmp.gt_of_lt (last e List.mem_cons_self)
      rw [alterEntries, after, List.cons_append]
      exact congrArg (e :: ·) (ih fun e' he => last e' (List.mem_cons_of_mem _ he))

/-- Pairs in ascending order that come behind all entries are put at the end, one by one. -/
theorem entries_foldl_insert {pairs : List (κ × ν)} {m : SortedMap κ ν}
    (ascending : (m.entries ++ pairs).Pairwise fun a b => compare a.1 b.1 = .lt) :
    (pairs.foldl (fun m p => m.insert p.1 p.2) m).entries = m.entries ++ pairs := by
  induction pairs generalizing m with
  | nil => rw [List.foldl_nil, List.append_nil]
  | cons p rest ih =>
      have last : (m.insert p.1 p.2).entries = m.entries ++ [p] :=
        alterEntries_of_last _ fun e he =>
          (List.pairwise_append.mp ascending).2.2 e he p List.mem_cons_self
      rw [List.foldl_cons, ih, last, List.append_assoc, List.singleton_append]
      rwa [last, List.append_assoc, List.singleton_append]

/-- Collecting the entries of a map into a new one gives the same map. -/
@[simp] theorem ofList_entries (m : SortedMap κ ν) : ofList m.entries = m :=
  ext_entries (entries_foldl_insert (m := empty) m.ascending)

/-- To map the values of a map is to collect the pairs with the new values. -/
theorem map_eq_ofList (m : SortedMap κ ν) (f : κ → ν → μ) :
    m.map f = ofList (m.entries.map fun (k, v) => (k, f k v)) :=
  (ofList_entries (m.map f)).symm

end Collecting

section Lawful

variable [Std.LawfulEqOrd κ]

theorem findEntry?_alterEntries_of_ne {k k' : κ} (different : k' ≠ k) (f : Option ν → ν)
    (es : List (κ × ν)) : findEntry? k' (alterEntries k f es) = findEntry? k' es := by
  have apart : compare k' k ≠ .eq := fun same => different (Std.LawfulEqCmp.eq_of_compare same)
  induction es with
  | nil => simp [alterEntries, findEntry?_cons, apart]
  | cons e rest ih =>
      rw [alterEntries]
      split
      · simp [findEntry?_cons, apart]
      · next same =>
          have same := Std.LawfulEqCmp.eq_of_compare same
          simp [findEntry?_cons, ← same, apart]
      · simp [findEntry?_cons, ih]

@[simp, grind =]
theorem find?_alter_of_ne [Std.TransOrd κ] (m : SortedMap κ ν) {k k' : κ} (different : k' ≠ k)
    (f : Option ν → ν) : (m.alter k f).find? k' = m.find? k' :=
  findEntry?_alterEntries_of_ne different f m.entries

@[simp, grind =]
theorem find?_insert_of_ne [Std.TransOrd κ] (m : SortedMap κ ν) {k k' : κ} (different : k' ≠ k)
    (v : ν) : (m.insert k v).find? k' = m.find? k' :=
  find?_alter_of_ne m different _

/-- When items alter a map one after another, each the value of its own key, a key ends up with what
    its items make of its value, in their order; without a value they start from `init`. -/
theorem find?_foldl_alter {α : Type} [Std.TransOrd κ] [DecidableEq κ] (key : α → κ)
    (step : ν → α → ν) (init : ν) (items : List α) (m : SortedMap κ ν) (k : κ) :
    (items.foldl (fun m a => m.alter (key a) fun v => step (v.getD init) a) m).find? k =
      if items.filter (key · = k) = [] then m.find? k
      else some ((items.filter (key · = k)).foldl step ((m.find? k).getD init)) := by
  induction items generalizing m with
  | nil => rfl
  | cons a rest ih =>
      rw [List.foldl_cons, ih]
      by_cases same : key a = k
      · subst same
        by_cases last : rest.filter (key · = key a) = [] <;> simp [last]
      · simp [same, Ne.symm same]

@[simp, grind =] theorem find?_map (m : SortedMap κ ν) (f : κ → ν → μ) (k : κ) :
    (m.map f).find? k = (m.find? k).map (f k) := by
  apply Option.ext
  intro w
  simp only [find?_eq_some_iff, map, List.mem_map, Prod.mk.injEq, Option.map_eq_some_iff]
  constructor
  · rintro ⟨⟨k', v⟩, he, rfl, rfl⟩
    exact ⟨v, he, rfl⟩
  · rintro ⟨v, he, rfl⟩
    exact ⟨(k, v), he, rfl, rfl⟩

@[simp, grind =] theorem find?_filterMap (m : SortedMap κ ν) (f : κ → ν → Option μ) (k : κ) :
    (m.filterMap f).find? k = (m.find? k).bind (f k) := by
  apply Option.ext
  intro w
  simp only [find?_eq_some_iff, filterMap, List.mem_filterMap, Option.map_eq_some_iff,
    Prod.mk.injEq, Option.bind_eq_some_iff]
  constructor
  · rintro ⟨⟨k', v⟩, he, u, hu, rfl, rfl⟩
    exact ⟨v, he, hu⟩
  · rintro ⟨v, he, hu⟩
    exact ⟨(k, v), he, w, hu, rfl, rfl⟩

@[simp, grind =] theorem find?_filter (m : SortedMap κ ν) (p : κ → ν → Bool) (k : κ) :
    (m.filter p).find? k = (m.find? k).filter (p k) := by
  apply Option.ext
  intro v
  simp [find?_eq_some_iff, filter, Option.filter_eq_some_iff]

end Lawful

end SortedMap

namespace SortedSet

variable {α : Type} [Ord α] [Std.LawfulEqOrd α]

@[simp, grind =] theorem contains_difference {s t : SortedSet α} {a : α} :
    (s.difference t).contains a = true ↔ s.contains a = true ∧ t.contains a = false := by
  simp only [difference, SortedMap.contains_iff, SortedMap.find?_filter, Option.filter_eq_some_iff]
  simp

theorem isEmpty_iff {s : SortedSet α} : s.isEmpty = true ↔ ∀ a, s.contains a = false := by
  simp [SortedMap.isEmpty_iff, SortedMap.contains]

@[simp, grind =]
theorem mem_toList {s : SortedSet α} {a : α} : a ∈ s.toList ↔ s.contains a = true := by
  simp [toList, SortedMap.keys, SortedMap.contains_iff, SortedMap.find?_eq_some_iff]

omit [Std.LawfulEqOrd α] in
/-- Sets that list the same elements are equal. -/
theorem ext_toList {s t : SortedSet α} (h : s.toList = t.toList) : s = t :=
  SortedMap.ext_entries ((List.map_inj_right fun _ _ same => Prod.ext same rfl).mp h)

variable [Std.TransOrd α]

@[simp, grind =] theorem contains_insert {s : SortedSet α} {a b : α} :
    (s.insert a).contains b = true ↔ b = a ∨ s.contains b = true := by
  by_cases same : b = a
  · subst same
    simp [SortedMap.contains, insert]
  · simp [SortedMap.contains, insert, same]

theorem contains_foldl_insert {as : List α} {s : SortedSet α} {a : α} :
    (as.foldl insert s).contains a = true ↔ a ∈ as ∨ s.contains a = true := by
  induction as generalizing s with
  | nil => simp
  | cons b rest ih =>
      simp only [List.foldl_cons, ih, contains_insert, List.mem_cons]
      tauto

@[simp, grind =] theorem contains_ofList {as : List α} {a : α} :
    (ofList as).contains a = true ↔ a ∈ as := by
  rw [ofList, contains_foldl_insert]
  simp [SortedMap.contains]

/-- Sets with the same elements are equal. -/
theorem ext_contains {s t : SortedSet α}
    (h : ∀ a, s.contains a = true ↔ t.contains a = true) : s = t := by
  apply SortedMap.ext_find?
  intro a
  have same := h a
  simp only [SortedMap.contains] at same
  cases hs : s.find? a <;> cases ht : t.find? a <;> simp_all

theorem ofList_congr {as bs : List α} (h : ∀ a, a ∈ as ↔ a ∈ bs) : ofList as = ofList bs :=
  ext_contains fun a => by rw [contains_ofList, contains_ofList, h]

/-- A map whose keys are the elements of a set lists them as the set does. -/
theorem keys_eq_toList {ν : Type} {m : SortedMap α ν} {s : SortedSet α}
    (same : ∀ a, m.contains a = true ↔ s.contains a = true) : m.keys = s.toList := by
  have support : m.map (fun _ _ => ()) = s := ext_contains fun a => by
    rw [← same, SortedMap.contains, SortedMap.find?_map, Option.isSome_map, SortedMap.contains]
  rw [← support, toList, SortedMap.keys_map]

end SortedSet

end Exposition
