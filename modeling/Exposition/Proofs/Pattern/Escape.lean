import Exposition.Pattern.Escape
import Exposition.Proofs.Pattern.Cursor

/-! # Escapes in front of a closing parenthesis

No escape goes on where a parenthesis stands: it is complete before it, or broken off, or the
parenthesis is what is escaped.
-/

namespace Exposition.Pattern

open Cursor (beyond behind)

variable {text : List Char} {c c' : Cursor}

/-- The digits and the value of a code point in braces as one result. -/
def bracedHexPair (brace fuel value count : Nat) (c : Cursor) :
    Except Fault ((Nat × Nat) × Cursor) :=
  (bracedHex brace fuel value count c).map fun (value, count, c) => ((value, count), c)

theorem bracedHexPair_within {brace fuel value count : Nat} :
    Within c.next.rest (bracedHexPair brace fuel value count c) := by
  induction fuel generalizing value count c with
  | zero => exact .error _
  | succ fuel ih =>
      unfold bracedHexPair at ih ⊢
      rw [bracedHex]
      simp only
      split
      · exact .error _
      · exact .ok c.nextSkipping_suffix
      · split
        · exact .error _
        · exact ih.mono ((Cursor.next_suffix _).trans c.nextSkipping_suffix)

theorem bracedHexPair_agrees (h : c.Follows text c') {brace brace' fuel fuel' value count : Nat}
    (enough : c.rest.length ≤ fuel) (le : fuel ≤ fuel') :
    Agrees text Eq beyond (bracedHexPair brace fuel value count c)
      (bracedHexPair brace' fuel' value count c') := by
  induction fuel generalizing fuel' value count c c' with
  | zero => exact .of_none h (Cursor.head?_of_length enough) rfl bracedHexPair_within
  | succ fuel ih =>
      obtain ⟨fuel', rfl⟩ : ∃ n, fuel' = n + 1 := Nat.exists_eq_succ_of_ne_zero (by omega)
      cases here : c.head? with
      | none =>
          have stop := Cursor.head?_nextSkipping_of_none here
          refine .of_none h here ?_ bracedHexPair_within
          rw [bracedHexPair, bracedHex]
          simp only [stop]
          rfl
      | some x =>
          have follows := h.nextSkipping here
          have shorter := c.length_nextSkipping_le
          unfold bracedHexPair at ih ⊢
          rw [bracedHex, bracedHex]
          rcases follows.head?_cases with ⟨stop, stop'⟩ | ⟨stop, stop'⟩ | ⟨y, here, here'⟩
          · simp only [stop, stop']
            exact .fail _ _ _ _
          · simp only [stop, stop']
            exact .fail _ _ _ _
          · simp only [here, here']
            split
            · exact .fail _ _ _ _
            · exact .ok rfl follows
            · split
              · exact .fail _ _ _ _
              · exact ih follows (by omega) (by omega)

theorem head?_of_bracedHexPair {brace fuel value count : Nat} {pair : Nat × Nat} {d : Cursor}
    (h : bracedHexPair brace fuel value count c = .ok (pair, d)) : d.head? = some '\x7d' := by
  induction fuel generalizing value count c with
  | zero => cases h
  | succ fuel ih =>
      unfold bracedHexPair at ih h
      rw [bracedHex] at h
      simp only at h
      split at h
      · cases h
      · next brace =>
          cases h
          exact brace
      · split at h
        · cases h
        · exact ih h

theorem bracedCode_eq (c : Cursor) :
    bracedCode c = bracedHexPair c.offset c.rest.length 0 0 c >>= fun (pair, closing) =>
      let after := closing.nextSkipping
      if pair.2 = 0 then Cursor.fail .escapeHexEmpty (after.since c.offset)
      else
        match char? pair.1 with
        | none => Cursor.fail .escapeHexInvalid (closing.since (c.offset + 1))
        | some char => .ok (char, after) := by
  rw [bracedCode, bracedHexPair]
  cases bracedHex c.offset c.rest.length 0 0 c <;> rfl

theorem bracedCode_within : Within c.next.rest (bracedCode c) := by
  rw [bracedCode_eq]
  refine bracedHexPair_within.bind fun pair d inside => ?_
  simp only
  split
  · exact .fail _ _
  · split
    · exact .fail _ _
    · exact .ok (d.nextSkipping_suffix_rest.trans inside)

theorem bracedCode_agrees (h : c.Follows text c') :
    Agrees text Eq beyond (bracedCode c) (bracedCode c') := by
  rw [bracedCode_eq, bracedCode_eq]
  refine (bracedHexPair_agrees h le_rfl h.length_le).bind ?_ ?_
  · rintro pair _ d d' read rfl follows
    simp only
    split
    · exact .fail _ _ _ _
    · split
      · exact .fail _ _ _ _
      · exact .ok rfl (follows.nextSkipping (head?_of_bracedHexPair read))
  · intro pair d inside
    simp only
    split
    · exact .fail _ _
    · split
      · exact .fail _ _
      · exact .ok (d.nextSkipping_suffix_rest.trans inside)

theorem fixedHex_within {count value : Nat} : Within c.rest (fixedHex count value c) := by
  induction count generalizing value c with
  | zero => exact .ok List.suffix_rfl
  | succ count ih =>
      rw [fixedHex]
      split
      · exact .fail _ _
      · split
        · exact .fail _ _
        · exact ih.mono c.nextSkipping_suffix_rest

theorem fixedHex_agrees (h : c.Follows text c') {count value : Nat} :
    Agrees text Eq beyond (fixedHex count value c) (fixedHex count value c') := by
  induction count generalizing value c c' with
  | zero => exact .ok rfl h
  | succ count ih =>
      rw [fixedHex, fixedHex]
      rcases h.head?_cases with ⟨stop, stop'⟩ | ⟨stop, stop'⟩ | ⟨x, here, here'⟩
      · simp only [stop, stop']
        exact .fail _ _ _ _
      · simp only [stop, stop']
        exact .fail _ _ _ _
      · simp only [here, here']
        split
        · exact .fail _ _ _ _
        · exact ih (h.nextSkipping here)

theorem fixedCode_within {count : Nat} : Within c.rest (fixedCode count c) := by
  refine fixedHex_within.bind fun value d inside => ?_
  simp only
  split
  · exact .fail _ _
  · exact .ok inside

theorem fixedCode_agrees (h : c.Follows text c') {count : Nat} :
    Agrees text Eq beyond (fixedCode count c) (fixedCode count c') := by
  refine (fixedHex_agrees h).bind ?_ ?_
  · rintro value _ d d' - rfl follows
    simp only
    split
    · exact .fail _ _ _ _
    · exact .ok rfl follows
  · intro value d inside
    simp only
    split
    · exact .fail _ _
    · exact .ok inside

theorem codeEscape_within {count : Nat} : Within c.next.rest (codeEscape count c) := by
  rw [codeEscape]
  simp only
  split
  · exact .fail _ _
  · exact (bracedCode_within.mono ((Cursor.next_suffix _).trans c.nextSkipping_suffix)).map _
  · exact (fixedCode_within.mono c.nextSkipping_suffix).map _

/-- A parenthesis is no digit, so it breaks off an escape that has not all its digits. -/
theorem codeEscape_agrees (h : c.Follows text c') {x : Char} (here : c.head? = some x)
    (count : Nat) :
    Agrees text Eq beyond (codeEscape (count + 1) c) (codeEscape (count + 1) c') := by
  have follows := h.nextSkipping here
  rw [codeEscape, codeEscape]
  simp only
  rcases follows.head?_cases with ⟨stop, stop'⟩ | ⟨stop, stop'⟩ | ⟨y, here, here'⟩
  · simp only [stop, stop']
    exact .fail _ _ _ _
  · simp only [stop, stop', fixedCode, fixedHex]
    exact .fail _ _ _ _
  · simp only [here, here']
    split
    · exact .fail _ _ _ _
    · exact (bracedCode_agrees follows).map fun _ _ _ _ same => by rw [same]
    · exact (fixedCode_agrees follows).map fun _ _ _ _ same => by rw [same]

theorem propertyName_within {fuel : Nat} : Within c.next.rest (propertyName fuel c) := by
  induction fuel generalizing c with
  | zero => exact .fail _ _
  | succ fuel ih =>
      rw [propertyName]
      simp only
      have later := (Cursor.next_suffix c.nextSkipping).trans c.nextSkipping_suffix
      split
      · exact .fail _ _
      · exact .ok later
      · exact (ih.mono later).map _

theorem propertyName_agrees (h : c.Follows text c') {fuel fuel' : Nat}
    (enough : c.rest.length ≤ fuel) (le : fuel ≤ fuel') :
    Agrees text Eq beyond (propertyName fuel c) (propertyName fuel' c') := by
  induction fuel generalizing fuel' c c' with
  | zero => exact .of_none h (Cursor.head?_of_length enough) rfl propertyName_within
  | succ fuel ih =>
      obtain ⟨fuel', rfl⟩ : ∃ n, fuel' = n + 1 := Nat.exists_eq_succ_of_ne_zero (by omega)
      cases here : c.head? with
      | none =>
          have stop := Cursor.head?_nextSkipping_of_none here
          refine .of_none h here ?_ propertyName_within
          rw [propertyName]
          simp only [stop]
          rfl
      | some x =>
          have follows := h.nextSkipping here
          have shorter := c.length_nextSkipping_le
          rw [propertyName, propertyName]
          simp only
          rcases follows.head?_cases with ⟨stop, stop'⟩ | ⟨stop, stop'⟩ | ⟨y, here, here'⟩
          · simp only [stop, stop']
            exact .fail _ _ _ _
          · simp only [stop, stop']
            exact .error _ ((propertyName_within.mono (follows.next_suffix_of_none stop)).map _)
          · simp only [here, here']
            split
            · exact .fail _ _ _ _
            · exact .ok rfl (follows.next here)
            · exact (ih follows (by omega) (by omega)).map fun _ _ _ _ same => by rw [same]

theorem propertyEscape_within {negated : Bool} :
    Within c.next.rest (propertyEscape negated c) := by
  rw [propertyEscape]
  simp only
  have later := (Cursor.next_suffix c.nextSkipping).trans c.nextSkipping_suffix
  split
  · exact .fail _ _
  · exact (propertyName_within.mono later).map _
  · exact .fail _ _
  · exact .ok ((Cursor.nextSkipping_suffix _).trans later)

theorem propertyEscape_agrees (h : c.Follows text c') {x : Char} (here : c.head? = some x)
    (negated : Bool) :
    Agrees text Eq beyond (propertyEscape negated c) (propertyEscape negated c') := by
  have follows := h.nextSkipping here
  rw [propertyEscape, propertyEscape]
  simp only
  rcases follows.head?_cases with ⟨stop, stop'⟩ | ⟨stop, stop'⟩ | ⟨y, here, here'⟩
  · simp only [stop, stop']
    exact .fail _ _ _ _
  · simp only [stop, stop']
    exact .error _ (.ok ((Cursor.nextSkipping_suffix _).trans (follows.next_suffix_of_none stop)))
  · simp only [here, here']
    split
    · exact .fail _ _ _ _
    · exact (propertyName_agrees follows le_rfl follows.length_le).map
        fun _ _ _ _ same => by rw [same]
    · exact .fail _ _ _ _
    · exact .ok rfl (follows.nextSkipping here)

theorem escape_within : Within c.next.next.rest (escape c) := by
  rw [escape]
  simp only
  split
  · exact .fail _ _
  · split_ifs
    · exact .fail _ _
    · exact codeEscape_within.map _
    · exact codeEscape_within.map _
    · exact codeEscape_within.map _
    · exact propertyEscape_within.map _
    · exact propertyEscape_within.map _
    · split
      · exact .ok List.suffix_rfl
      · exact .fail _ _

/-- What an escape stands for, wherever it does. -/
def SameElement (e e' : Span × Element) : Prop := e.2 = e'.2

theorem escape_agrees (h : c.Follows text c') {x : Char} (here : c.head? = some x) :
    Agrees text SameElement beyond (escape c) (escape c') := by
  have follows := h.next here
  rcases follows.head?_cases with ⟨stop, stop'⟩ | ⟨stop, -⟩ | ⟨y, here, here'⟩
  · rw [escape, escape]
    simp only [stop, stop']
    exact .fail _ _ _ _
  · refine .of_none follows stop ?_ escape_within
    rw [escape]
    simp only [stop]
    rfl
  · rw [escape, escape]
    simp only [here, here', follows.ignoresSpace]
    split_ifs
    · exact .fail _ _ _ _
    · exact (codeEscape_agrees follows here 1).map fun _ _ _ _ same => same
    · exact (codeEscape_agrees follows here 3).map fun _ _ _ _ same => same
    · exact (codeEscape_agrees follows here 7).map fun _ _ _ _ same => same
    · exact (propertyEscape_agrees follows here false).map fun _ _ _ _ same => same
    · exact (propertyEscape_agrees follows here true).map fun _ _ _ _ same => same
    · split
      · exact .ok rfl (follows.next here)
      · exact .fail _ _ _ _

theorem element_within {char : Char} : Within c.next.rest (element char c) := by
  unfold element
  split
  · exact escape_within.mono (Cursor.next_suffix _)
  all_goals exact .ok List.suffix_rfl

theorem element_agrees (h : c.Follows text c') {char : Char} (here : c.head? = some char) :
    Agrees text SameElement beyond (element char c) (element char c') := by
  unfold element
  split
  · exact escape_agrees h here
  all_goals exact .ok rfl (h.next here)

end Exposition.Pattern
