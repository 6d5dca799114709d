import Exposition.Proofs.SortedMap

/-! # Grouping by a key

Items that are added one after another, each at the end of the group of its key, end up in a stable
partition: a group is what a filter by its key leaves of the items, and the groups together are
the items in another order.
-/

namespace Exposition

namespace SortedMap

variable {κ α : Type} [Ord κ]

/-- The groups of a map are a stable partition of some items by a key. A group is listed for
    exactly the keys that an item has. It holds the items of its key in their order, and the groups
    together hold every item as often as it is there. -/
structure IsStablePartition [DecidableEq κ] (groups : SortedMap κ (List α)) (key : α → κ)
    (items : List α) : Prop where
  group_iff : ∀ k group, groups.find? k = some group ↔
    group ≠ [] ∧ group = items.filter (key · = k)
  perm : (groups.entries.flatMap (·.2)).Perm items

/-- An item goes into one group, whether its key is new or not. -/
theorem perm_flatMap_alterEntries (k : κ) (a : α) (es : List (κ × List α)) :
    ((alterEntries k (fun group => group.getD [] ++ [a]) es).flatMap (·.2)).Perm
      (es.flatMap (·.2) ++ [a]) := by
  induction es with
  | nil => exact .refl _
  | cons e rest ih =>
      obtain ⟨k', group⟩ := e
      rw [alterEntries]
      cases compare k k' with
      | lt => exact List.perm_append_comm
      | eq =>
          simp only [List.flatMap_cons, Option.getD_some, List.append_assoc]
          exact List.perm_append_comm.append_left group
      | gt =>
          simp only [List.flatMap_cons, List.append_assoc]
          exact ih.append_left group

variable [Std.TransOrd κ] (key : α → κ) (items : List α)

theorem perm_flatMap_foldl_alter (m : SortedMap κ (List α)) :
    ((items.foldl (fun m a => m.alter (key a) fun group => group.getD [] ++ [a]) m).entries.flatMap
      (·.2)).Perm (m.entries.flatMap (·.2) ++ items) := by
  induction items generalizing m with
  | nil => rw [List.foldl_nil, List.append_nil]
  | cons a rest ih =>
      have step := (perm_flatMap_alterEntries (key a) a m.entries).append_right rest
      rw [List.append_assoc, List.singleton_append] at step
      exact (ih _).trans step

variable [Std.LawfulEqOrd κ] [DecidableEq κ]

/-- A group only ever grows at its end, so it keeps the order of its items. -/
theorem find?_foldl_alter_append (k : κ) :
    (items.foldl (fun m a => m.alter (key a) fun group => group.getD [] ++ [a]) empty).find? k =
      if items.filter (key · = k) = [] then none else some (items.filter (key · = k)) := by
  have grown : ∀ as : List α, as.foldl (fun group a => group ++ [a]) [] = as := fun as => by
    rw [List.foldl_append_eq_append, List.nil_append, ← List.flatMap_def, List.flatMap_singleton']
  rw [find?_foldl_alter key (fun group a => group ++ [a]) [], find?_empty, Option.getD_none, grown]

theorem isStablePartition_foldl_alter :
    (items.foldl (fun m a => m.alter (key a) fun group => group.getD [] ++ [a])
      empty).IsStablePartition key items where
  group_iff := by
    intro k group
    rw [find?_foldl_alter_append, Option.ite_none_left_eq_some, Option.some_inj]
    constructor
    · rintro ⟨present, rfl⟩
      exact ⟨present, rfl⟩
    · rintro ⟨nonempty, rfl⟩
      exact ⟨nonempty, rfl⟩
  perm := perm_flatMap_foldl_alter key items empty

end SortedMap

end Exposition
