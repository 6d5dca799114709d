import Exposition.Json.Basic
import Exposition.Proofs.Text.Literal

/-! # Values can be told from their JSON

In a string every character stands for itself, but for the quote, the backslash and the controls,
whose escapes differ. So the first quote that is no part of an escape ends a string, and since no
value starts like a value of another kind or like a closing bracket, the text of a value tells the
value, whatever is in its strings, and where the value ends. Numbers are the exception: what is not
finite is written as `null`.
-/

namespace Exposition

namespace Json

/-- The letters of the escapes of two characters. -/
def stringEscapes : List (Char × Char) :=
  [('"', '"'), ('\\', '\\'), ('b', '\x08'), ('f', '\x0c'), ('n', '\n'), ('r', '\r'), ('t', '\t')]

/-- The forms that a character may have in a string. -/
inductive IsStringChar : Char → List Char → Prop where
  | plain {c} : c ≠ '"' → c ≠ '\\' → IsStringChar c [c]
  | escape {letter c} : (letter, c) ∈ stringEscapes → IsStringChar c ['\\', letter]
  | control {c} : c.toNat < 0x20 → IsStringChar c
      ['\\', 'u', '0', '0', Nat.digitChar (c.toNat / 16), Nat.digitChar (c.toNat % 16)]

theorem isStringChar (c : Char) : IsStringChar c (stringChar c) := by
  unfold stringChar
  split_ifs with quote backslash back form feed ret tab control
  · exact .escape (by simp [stringEscapes, quote])
  · exact .escape (by simp [stringEscapes, backslash])
  · exact .escape (by simp [stringEscapes, back])
  · exact .escape (by simp [stringEscapes, form])
  · exact .escape (by simp [stringEscapes, feed])
  · exact .escape (by simp [stringEscapes, ret])
  · exact .escape (by simp [stringEscapes, tab])
  · exact .control control
  · exact .plain quote backslash

namespace IsStringChar

variable {c d : Char} {written written' rest rest' : List Char}

theorem quote_ne (h : IsStringChar c written) : '"' :: rest ≠ written ++ rest' := by
  intro same
  cases h with
  | plain quote _ => exact quote (List.cons.inj same).1.symm
  | escape | control => cases (List.cons.inj same).1

/-- No form starts like that of another character. -/
theorem append_inj (h : IsStringChar c written) (h' : IsStringChar d written')
    (same : written ++ rest = written' ++ rest') : c = d ∧ rest = rest' := by
  have letters : ∀ e ∈ stringEscapes, ∀ f ∈ stringEscapes, e.1 = f.1 → e.2 = f.2 := by decide
  have noCode : ∀ e ∈ stringEscapes, e.1 ≠ 'u' := by decide
  cases h with
  | plain _ backslash =>
      cases h' with
      | plain _ _ => exact List.cons.inj same
      | escape | control => exact absurd (List.cons.inj same).1 backslash
  | escape known =>
      cases h' with
      | plain _ backslash => exact absurd (List.cons.inj same).1.symm backslash
      | escape known' =>
          obtain ⟨letter, rests⟩ := List.cons.inj (List.cons.inj same).2
          exact ⟨letters _ known _ known' letter, rests⟩
      | control _ => exact absurd (List.cons.inj (List.cons.inj same).2).1 (noCode _ known)
  | control small =>
      cases h' with
      | plain _ backslash => exact absurd (List.cons.inj same).1.symm backslash
      | escape known =>
          exact absurd (List.cons.inj (List.cons.inj same).2).1.symm (noCode _ known)
      | control small' =>
          simp only [List.cons_append, List.nil_append, List.cons.injEq, true_and] at same
          obtain ⟨high, low, rests⟩ := same
          have sameHigh := digitChar_inj (c.toNat / 16) (by omega) (d.toNat / 16) (by omega) high
          have sameLow := digitChar_inj (c.toNat % 16) (by omega) (d.toNat % 16) (by omega) low
          exact ⟨Char.toNat_inj.mp (by omega), rests⟩

end IsStringChar

/-- A string ends where it ends whatever follows it, and tells its text. -/
theorem stringText_append_inj {text text' : String} {rest rest' : List Char}
    (same : stringText text ++ rest = stringText text' ++ rest') : text = text' ∧ rest = rest' := by
  simp only [stringText, List.cons_append, List.append_assoc] at same
  obtain ⟨chars, rests⟩ := flatMap_append_inj
    (fun c _ d _ => (isStringChar c).append_inj (isStringChar d))
    (fun c _ => (isStringChar c).quote_ne) (fun c _ => (isStringChar c).quote_ne)
    (List.cons.inj same).2
  exact ⟨String.toList_inj.mp chars, rests⟩

def compactMember (member : String × Json) : List Char :=
  stringText member.1 ++ ':' :: member.2.compact

theorem compactItems_eq (items : List Json) :
    compactItems items = [','].intercalate (items.map compact) := by
  induction items with
  | nil => rfl
  | cons item rest ih =>
      cases rest with
      | nil => simp [compactItems]
      | cons next rest =>
          rw [compactItems, ih]
          · simp [List.intercalate_cons_cons]
          · exact List.cons_ne_nil _ _

theorem compactMembers_eq (members : List (String × Json)) :
    compactMembers members = [','].intercalate (members.map compactMember) := by
  induction members with
  | nil => rfl
  | cons member rest ih =>
      cases rest with
      | nil => simp [compactMembers, compactMember]
      | cons next rest =>
          rw [compactMembers, ih]
          · simp [List.intercalate_cons_cons, compactMember]
          · exact List.cons_ne_nil _ _

/-- There is no number in the value. -/
inductive Textual : Json → Prop where
  | null : Textual null
  | string (text : String) : Textual (string text)
  | array {items : List Json} : (∀ item ∈ items, Textual item) → Textual (array items)
  | object {members : List (String × Json)} :
      (∀ member ∈ members, Textual member.2) → Textual (object members)

namespace Textual

variable {v w : Json} {rest rest' : List Char}

theorem bracket_ne (h : v.Textual) : ']' :: rest ≠ v.compact ++ rest' := by
  intro same
  cases h with
  | null | string | array | object => cases (List.cons.inj same).1

/-- No text of a value starts like that of another value. -/
theorem compact_append_inj (h : v.Textual) (h' : w.Textual)
    (same : v.compact ++ rest = w.compact ++ rest') : v = w ∧ rest = rest' := by
  induction h generalizing w rest rest' with
  | null =>
      cases h' with
      | null => exact ⟨rfl, List.append_cancel_left same⟩
      | string | array | object => cases (List.cons.inj same).1
  | string text =>
      cases h' with
      | string text' =>
          obtain ⟨rfl, rests⟩ := stringText_append_inj same
          exact ⟨rfl, rests⟩
      | null | array | object => cases (List.cons.inj same).1
  | array valid ih =>
      cases h' with
      | array valid' =>
          simp only [compact, List.cons_append, List.append_assoc, compactItems_eq] at same
          obtain ⟨rfl, rests⟩ := intercalate_append_inj (by decide)
            (fun item here item' here' => ih item here (valid' item' here'))
            (fun item here => (valid item here).bracket_ne)
            (fun item here => (valid' item here).bracket_ne) (List.cons.inj same).2
          exact ⟨rfl, rests⟩
      | null | string | object => cases (List.cons.inj same).1
  | @object members valid ih =>
      cases h' with
      | @object members' valid' =>
          simp only [compact, List.cons_append, List.append_assoc, compactMembers_eq] at same
          have brace (member : String × Json) {rest rest' : List Char} :
              '\x7d' :: rest ≠ compactMember member ++ rest' := by
            intro same
            cases (List.cons.inj same).1
          have inj : ∀ member ∈ members, ∀ member' ∈ members', ∀ {rest rest'},
              compactMember member ++ rest = compactMember member' ++ rest' →
                member = member' ∧ rest = rest' := by
            intro member here member' here' rest rest' same
            rw [compactMember, compactMember, List.append_assoc, List.append_assoc] at same
            obtain ⟨names, tails⟩ := stringText_append_inj same
            obtain ⟨values, rests⟩ :=
              ih member here (valid' member' here') (List.cons.inj tails).2
            exact ⟨Prod.ext names values, rests⟩
          obtain ⟨rfl, rests⟩ := intercalate_append_inj (by decide) inj
            (fun member _ => brace member) (fun member _ => brace member) (List.cons.inj same).2
          exact ⟨rfl, rests⟩
      | null | string | array => cases (List.cons.inj same).1

theorem compact_inj (h : v.Textual) (h' : w.Textual) (same : v.compact = w.compact) : v = w :=
  (h.compact_append_inj h' (congrArg (· ++ []) same)).1

end Textual

end Json

end Exposition
