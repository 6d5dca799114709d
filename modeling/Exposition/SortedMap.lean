/-! # Sorted maps and sets

A finite map is the list of its entries with strictly ascending keys. The order is part of the
type, so a map has one representation and the order in which reports list keys needs no
separate sorting step.
-/

namespace Exposition

/-- A finite map kept as its entries, keys strictly ascending. -/
structure SortedMap (κ ν : Type) [Ord κ] where
  entries : List (κ × ν)
  ascending : entries.Pairwise fun a b => compare a.1 b.1 = .lt

namespace SortedMap

variable {κ ν μ : Type} [Ord κ]

instance [DecidableEq κ] [DecidableEq ν] : DecidableEq (SortedMap κ ν) := fun a b =>
  match decEq a.entries b.entries with
  | isTrue h => isTrue (by cases a; cases b; simp_all)
  | isFalse h => isFalse (fun e => h (e ▸ rfl))

/-- Two maps with the same entries are the same map. -/
theorem ext_entries {a b : SortedMap κ ν} (h : a.entries = b.entries) : a = b := by
  cases a; cases b; simp_all

def empty : SortedMap κ ν := ⟨[], .nil⟩

instance : Inhabited (SortedMap κ ν) := ⟨empty⟩

def size (m : SortedMap κ ν) : Nat := m.entries.length

def isEmpty (m : SortedMap κ ν) : Bool := m.entries.isEmpty

def keys (m : SortedMap κ ν) : List κ := m.entries.map (·.1)

/-- The value of the first entry whose key compares equal to `k`. -/
def findEntry? (k : κ) : List (κ × ν) → Option ν
  | [] => none
  | (k', v) :: rest => if compare k k' = .eq then some v else findEntry? k rest

def find? (m : SortedMap κ ν) (k : κ) : Option ν := findEntry? k m.entries

def contains (m : SortedMap κ ν) (k : κ) : Bool := (m.find? k).isSome

/-- Replaces the value of `k` by `f` of the value it had, putting a new key in its place in the
    order. -/
def alterEntries (k : κ) (f : Option ν → ν) : List (κ × ν) → List (κ × ν)
  | [] => [(k, f none)]
  | (k', v) :: rest =>
    match compare k k' with
    | .lt => (k, f none) :: (k', v) :: rest
    | .eq => (k', f (some v)) :: rest
    | .gt => (k', v) :: alterEntries k f rest

/-- Altering a key brings in no key but that one. -/
theorem key_of_mem_alterEntries {k : κ} {f : Option ν → ν} {es : List (κ × ν)} {a : κ × ν}
    (h : a ∈ alterEntries k f es) : a.1 = k ∨ ∃ b ∈ es, a.1 = b.1 := by
  induction es with
  | nil => simp_all [alterEntries]
  | cons e rest ih =>
    obtain ⟨k', v⟩ := e
    rw [alterEntries] at h
    split at h
    · rcases List.mem_cons.1 h with rfl | h
      · exact .inl rfl
      · exact .inr ⟨a, h, rfl⟩
    · rcases List.mem_cons.1 h with rfl | h
      · exact .inr ⟨(k', v), by simp, rfl⟩
      · exact .inr ⟨a, by simp [h], rfl⟩
    · rcases List.mem_cons.1 h with rfl | h
      · exact .inr ⟨(k', v), by simp, rfl⟩
      · rcases ih h with h | ⟨b, hb, e⟩
        · exact .inl h
        · exact .inr ⟨b, by simp [hb], e⟩

theorem alterEntries_ascending [Std.TransOrd κ] {k : κ} {f : Option ν → ν} {es : List (κ × ν)}
    (h : es.Pairwise fun a b => compare a.1 b.1 = .lt) :
    (alterEntries k f es).Pairwise fun a b => compare a.1 b.1 = .lt := by
  induction es with
  | nil => simp [alterEntries]
  | cons e rest ih =>
    obtain ⟨k', v⟩ := e
    rw [alterEntries]
    rw [List.pairwise_cons] at h
    split
    · next hlt =>
      refine List.pairwise_cons.2 ⟨?_, List.pairwise_cons.2 h⟩
      intro b hb
      rcases List.mem_cons.1 hb with rfl | hb
      · exact hlt
      · exact Std.TransCmp.lt_trans hlt (h.1 b hb)
    · exact List.pairwise_cons.2 ⟨fun b hb => h.1 b hb, h.2⟩
    · next hgt =>
      refine List.pairwise_cons.2 ⟨?_, ih h.2⟩
      intro b hb
      rcases key_of_mem_alterEntries hb with e | ⟨c, hc, e⟩
      · rw [e]; exact Std.OrientedCmp.lt_of_gt hgt
      · rw [e]; exact h.1 c hc

/-- Replaces the value of `k` by `f` of the value it had, if any. -/
def alter [Std.TransOrd κ] (m : SortedMap κ ν) (k : κ) (f : Option ν → ν) : SortedMap κ ν :=
  ⟨alterEntries k f m.entries, alterEntries_ascending m.ascending⟩

/-- Gives `k` the value `v`, whatever it had before. -/
def insert [Std.TransOrd κ] (m : SortedMap κ ν) (k : κ) (v : ν) : SortedMap κ ν :=
  m.alter k fun _ => v

/-- The map of the pairs, a later pair of a key winning over an earlier one. -/
def ofList [Std.TransOrd κ] (pairs : List (κ × ν)) : SortedMap κ ν :=
  pairs.foldl (fun m p => m.insert p.1 p.2) empty

/-- The entries that satisfy `p`. -/
def filter (m : SortedMap κ ν) (p : κ → ν → Bool) : SortedMap κ ν :=
  ⟨m.entries.filter fun e => p e.1 e.2, m.ascending.filter _⟩

/-- The entries for which `f` has a value, with that value. -/
def filterMap (m : SortedMap κ ν) (f : κ → ν → Option μ) : SortedMap κ μ :=
  ⟨m.entries.filterMap fun e => (f e.1 e.2).map (e.1, ·), by
    refine List.Pairwise.filterMap _ ?_ m.ascending
    intro a b h c hc d hd
    obtain ⟨_, _, rfl⟩ := Option.map_eq_some_iff.1 hc
    obtain ⟨_, _, rfl⟩ := Option.map_eq_some_iff.1 hd
    exact h⟩

/-- The same keys, each with `f` of its value. -/
def map (m : SortedMap κ ν) (f : κ → ν → μ) : SortedMap κ μ :=
  ⟨m.entries.map fun e => (e.1, f e.1 e.2), List.Pairwise.map _ (fun _ _ h => h) m.ascending⟩

/-- Entries are ordered by key, then by value. -/
def compareEntries [Ord ν] : κ × ν → κ × ν → Ordering :=
  compareLex (compareOn Prod.fst) (compareOn Prod.snd)

instance [Ord ν] [Std.TransOrd κ] [Std.TransOrd ν] :
    Std.TransCmp (compareEntries : κ × ν → κ × ν → Ordering) :=
  inferInstanceAs (Std.TransCmp (compareLex (compareOn Prod.fst) (compareOn Prod.snd)))

instance [Ord ν] [Std.LawfulEqOrd κ] [Std.LawfulEqOrd ν] :
    Std.LawfulEqCmp (compareEntries : κ × ν → κ × ν → Ordering) where
  compare_self := by
    intro a
    simp [compareEntries, compareLex, compareOn]
  eq_of_compare := by
    intro a b h
    have h : (compare a.1 b.1).then (compare a.2 b.2) = .eq := h
    rw [Ordering.then_eq_eq] at h
    exact Prod.ext (Std.LawfulEqCmp.eq_of_compare h.1) (Std.LawfulEqCmp.eq_of_compare h.2)

/-- Maps are ordered entry by entry, as words are in a dictionary. -/
instance [Ord ν] : Ord (SortedMap κ ν) where
  compare a b := List.compareLex compareEntries a.entries b.entries

instance [Ord ν] [Std.TransOrd κ] [Std.TransOrd ν] : Std.TransOrd (SortedMap κ ν) where
  eq_swap {a b} := by
    show List.compareLex compareEntries a.entries b.entries =
      (List.compareLex compareEntries b.entries a.entries).swap
    exact Std.OrientedCmp.eq_swap
  isLE_trans {a b c} hab hbc := by
    have hab : (List.compareLex compareEntries a.entries b.entries).isLE := hab
    have hbc : (List.compareLex compareEntries b.entries c.entries).isLE := hbc
    show (List.compareLex compareEntries a.entries c.entries).isLE
    exact Std.TransCmp.isLE_trans hab hbc

instance [Ord ν] [Std.LawfulEqOrd κ] [Std.LawfulEqOrd ν] : Std.LawfulEqOrd (SortedMap κ ν) where
  compare_self {a} := by
    show List.compareLex compareEntries a.entries a.entries = .eq
    exact Std.ReflCmp.compare_self
  eq_of_compare {a b} h := by
    have h : List.compareLex compareEntries a.entries b.entries = .eq := h
    exact ext_entries (Std.LawfulEqCmp.eq_of_compare h)

end SortedMap

/-- A finite set, kept as its elements in strictly ascending order. -/
abbrev SortedSet (α : Type) [Ord α] := SortedMap α Unit

namespace SortedSet

variable {α : Type} [Ord α]

def toList (s : SortedSet α) : List α := s.keys

def insert [Std.TransOrd α] (s : SortedSet α) (a : α) : SortedSet α := SortedMap.insert s a ()

def ofList [Std.TransOrd α] (as : List α) : SortedSet α := as.foldl insert SortedMap.empty

/-- The elements of `s` that are not in `t`. -/
def difference (s t : SortedSet α) : SortedSet α := s.filter fun a _ => !t.contains a

end SortedSet

end Exposition
