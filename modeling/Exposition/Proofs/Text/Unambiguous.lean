import Mathlib

/-! # Texts that come apart in one way

Arguments by which the parts of a text can be told from the text: a part goes on as long as its
characters are of some class and what follows is not, or it is a row of codes none of which starts
like another one or like what ends the row. The first holds of lines as well, where the class is
that of the lines under a heading.
-/

namespace Exposition

/-- Where a run of elements of a class ends is not open to interpretation. -/
theorem span_unique {α : Type} {p : α → Bool} {run run' rest rest' : List α}
    (inside : ∀ a ∈ run, p a = true) (inside' : ∀ a ∈ run', p a = true)
    (ends : ∀ a ∈ rest.head?, p a = false) (ends' : ∀ a ∈ rest'.head?, p a = false)
    (same : run ++ rest = run' ++ rest') : run = run' ∧ rest = rest' := by
  have clash {a : α} {run rest rest' : List α} (inside : ∀ b ∈ a :: run, p b = true)
      (ends : ∀ b ∈ rest.head?, p b = false) : rest ≠ a :: run ++ rest' := by
    rintro rfl
    have goesOn := inside a List.mem_cons_self
    rw [ends a rfl] at goesOn
    cases goesOn
  induction run generalizing run' with
  | nil =>
      cases run' with
      | nil => exact ⟨rfl, same⟩
      | cons a run' => exact absurd same (clash inside' ends)
  | cons a run ih =>
      cases run' with
      | nil => exact absurd same.symm (clash inside ends')
      | cons a' run' =>
          obtain ⟨-, later⟩ := List.forall_mem_cons.mp inside
          obtain ⟨-, later'⟩ := List.forall_mem_cons.mp inside'
          obtain ⟨rfl, tails⟩ := List.cons.inj same
          obtain ⟨rfl, rests⟩ := ih later later' tails
          exact ⟨rfl, rests⟩

section Rows

variable {α β : Type} {code : α → List β} {separator stop : β} {row row' : List α}
  {rest rest' : List β}

/-- A row of codes ends at the first `stop` that no code starts with. -/
theorem flatMap_append_inj
    (inj : ∀ a ∈ row, ∀ b ∈ row', ∀ {rest rest'}, code a ++ rest = code b ++ rest' →
      a = b ∧ rest = rest')
    (noStop : ∀ a ∈ row, ∀ {rest rest'}, stop :: rest ≠ code a ++ rest')
    (noStop' : ∀ a ∈ row', ∀ {rest rest'}, stop :: rest ≠ code a ++ rest')
    (same : row.flatMap code ++ stop :: rest = row'.flatMap code ++ stop :: rest') :
    row = row' ∧ rest = rest' := by
  induction row generalizing row' with
  | nil =>
      cases row' with
      | nil => exact ⟨rfl, (List.cons.inj same).2⟩
      | cons a row' =>
          rw [List.flatMap_cons, List.append_assoc] at same
          exact absurd same (noStop' a List.mem_cons_self)
  | cons a row ih =>
      rw [List.flatMap_cons, List.append_assoc] at same
      cases row' with
      | nil => exact absurd same.symm (noStop a List.mem_cons_self)
      | cons a' row' =>
          rw [List.flatMap_cons, List.append_assoc] at same
          obtain ⟨rfl, tails⟩ := inj a List.mem_cons_self a' List.mem_cons_self same
          obtain ⟨-, later⟩ := List.forall_mem_cons.mp noStop
          obtain ⟨-, later'⟩ := List.forall_mem_cons.mp noStop'
          have injLater : ∀ b ∈ row, ∀ b' ∈ row', ∀ {rest rest'},
              code b ++ rest = code b' ++ rest' → b = b' ∧ rest = rest' :=
            fun b member b' member' =>
              inj b (List.mem_cons_of_mem a member) b' (List.mem_cons_of_mem a member')
          obtain ⟨rfl, rests⟩ := ih injLater later later' tails
          exact ⟨rfl, rests⟩

theorem intercalate_map_cons (a : α) :
    [separator].intercalate ((a :: row).map code) =
      code a ++ row.flatMap fun b => separator :: code b := by
  induction row generalizing a with
  | nil => simp
  | cons b row ih =>
      rw [List.flatMap_cons, List.cons_append, ← ih b]
      simp [List.intercalate_cons_cons]

/-- So does a row that has a separator between each two of its codes. -/
theorem intercalate_append_inj (other : separator ≠ stop)
    (inj : ∀ a ∈ row, ∀ b ∈ row', ∀ {rest rest'}, code a ++ rest = code b ++ rest' →
      a = b ∧ rest = rest')
    (noStop : ∀ a ∈ row, ∀ {rest rest'}, stop :: rest ≠ code a ++ rest')
    (noStop' : ∀ a ∈ row', ∀ {rest rest'}, stop :: rest ≠ code a ++ rest')
    (same : [separator].intercalate (row.map code) ++ stop :: rest =
      [separator].intercalate (row'.map code) ++ stop :: rest') :
    row = row' ∧ rest = rest' := by
  cases row with
  | nil =>
      cases row' with
      | nil => exact ⟨rfl, (List.cons.inj same).2⟩
      | cons a row' =>
          rw [intercalate_map_cons, List.append_assoc] at same
          exact absurd same (noStop' a List.mem_cons_self)
  | cons a row =>
      rw [intercalate_map_cons, List.append_assoc] at same
      cases row' with
      | nil => exact absurd same.symm (noStop a List.mem_cons_self)
      | cons a' row' =>
          rw [intercalate_map_cons, List.append_assoc] at same
          obtain ⟨rfl, tails⟩ := inj a List.mem_cons_self a' List.mem_cons_self same
          have goesOn {row : List α} : ∀ b ∈ row, ∀ {rest rest'},
              stop :: rest ≠ separator :: code b ++ rest' :=
            fun b _ rest rest' same => other (List.cons.inj same).1.symm
          have injLater : ∀ b ∈ row, ∀ b' ∈ row', ∀ {rest rest'},
              separator :: code b ++ rest = separator :: code b' ++ rest' →
                b = b' ∧ rest = rest' :=
            fun b member b' member' _ _ same =>
              inj b (List.mem_cons_of_mem a member) b' (List.mem_cons_of_mem a member')
                (List.cons.inj same).2
          obtain ⟨rfl, rests⟩ := flatMap_append_inj injLater goesOn goesOn tails
          exact ⟨rfl, rests⟩

end Rows

/-- A paragraph, which is a heading and what stands under it, ends at the next heading. -/
theorem paragraphs_inj {α : Type} (under : α → Bool) {parts parts' : List (α × List α)}
    (sound : ∀ part ∈ parts, under part.1 = false ∧ ∀ a ∈ part.2, under a = true)
    (sound' : ∀ part ∈ parts', under part.1 = false ∧ ∀ a ∈ part.2, under a = true)
    (same : (parts.flatMap fun part => part.1 :: part.2) =
      parts'.flatMap fun part => part.1 :: part.2) : parts = parts' := by
  have ends {parts : List (α × List α)}
      (sound : ∀ part ∈ parts, under part.1 = false ∧ ∀ a ∈ part.2, under a = true) :
      ∀ a ∈ (parts.flatMap fun part => part.1 :: part.2).head?, under a = false := by
    intro a first
    cases parts with
    | nil => cases first
    | cons part parts =>
        cases first
        exact (sound part List.mem_cons_self).1
  induction parts generalizing parts' with
  | nil =>
      cases parts' with
      | nil => rfl
      | cons part' parts' => cases same
  | cons part parts ih =>
      cases parts' with
      | nil => cases same
      | cons part' parts' =>
          obtain ⟨here, later⟩ := List.forall_mem_cons.mp sound
          obtain ⟨here', later'⟩ := List.forall_mem_cons.mp sound'
          rw [List.flatMap_cons, List.flatMap_cons] at same
          obtain ⟨headings, tails⟩ := List.cons.inj same
          obtain ⟨items, tails⟩ := span_unique here.2 here'.2 (ends later) (ends later') tails
          rw [Prod.ext headings items, ih later later' tails]

/-- A list of codes tells what is coded, if each code does. -/
theorem map_injOn {α β : Type} {code : α → β} {valid : α → Prop}
    (inj : ∀ {a b}, valid a → valid b → code a = code b → a = b) {row row' : List α}
    (inRow : ∀ a ∈ row, valid a) (inRow' : ∀ a ∈ row', valid a)
    (same : row.map code = row'.map code) : row = row' := by
  induction row generalizing row' with
  | nil => exact (List.map_eq_nil_iff.mp same.symm).symm
  | cons a row ih =>
      cases row' with
      | nil => cases same
      | cons a' row' =>
          obtain ⟨heads, tails⟩ := List.cons.inj same
          obtain ⟨here, later⟩ := List.forall_mem_cons.mp inRow
          obtain ⟨here', later'⟩ := List.forall_mem_cons.mp inRow'
          rw [inj here here' heads, ih later later' tails]

end Exposition
