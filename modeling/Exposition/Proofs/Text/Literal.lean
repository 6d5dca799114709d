import Exposition.Proofs.Text.Unambiguous
import Exposition.Text.Literal

/-! # Literals can be told apart

A character stands in a literal as itself or as an escape, which starts with a backslash and from
which the character can be told. So the closing quote is the first quote of a literal that is not
part of an escape, what is between the quotes tells the text, and a literal has no line feed.
-/

namespace Exposition

theorem hexDigits_of_lt {n : Nat} (small : n < 16) : hexDigits n = [Nat.digitChar n] :=
  Nat.toDigits_of_lt_base small

theorem hexDigits_of_le {n : Nat} (large : 16 ≤ n) :
    hexDigits n = hexDigits (n / 16) ++ [Nat.digitChar (n % 16)] :=
  Nat.toDigits_of_base_le (by decide) large

theorem hexDigits_ne_nil (n : Nat) : hexDigits n ≠ [] := Nat.toDigits_ne_nil

theorem notMem_hexDigits {c : Char} (other : ∀ d < 16, Nat.digitChar d ≠ c) (n : Nat) :
    c ∉ hexDigits n := by
  induction n using Nat.strongRecOn with
  | ind n ih =>
      cases Nat.lt_or_ge n 16 with
      | inl small =>
          rw [hexDigits_of_lt small, List.mem_singleton]
          exact (other n small).symm
      | inr large =>
          rw [hexDigits_of_le large, List.mem_append, List.mem_singleton, not_or]
          exact ⟨ih (n / 16) (by omega), (other (n % 16) (Nat.mod_lt n (by decide))).symm⟩

theorem digitChar_inj : ∀ m < 16, ∀ n < 16, Nat.digitChar m = Nat.digitChar n → m = n := by
  decide

theorem hexDigits_inj {m n : Nat} (same : hexDigits m = hexDigits n) : m = n := by
  have longer {d n : Nat} (large : 16 ≤ n) : [Nat.digitChar d] ≠ hexDigits n := by
    intro same
    rw [hexDigits_of_le large] at same
    have lengths := congrArg List.length same
    have nonempty := List.length_pos_iff.mpr (hexDigits_ne_nil (n / 16))
    rw [List.length_append, List.length_singleton, List.length_singleton] at lengths
    omega
  induction m using Nat.strongRecOn generalizing n with
  | ind m ih =>
      cases Nat.lt_or_ge m 16 with
      | inl small =>
          rw [hexDigits_of_lt small] at same
          cases Nat.lt_or_ge n 16 with
          | inl small' =>
              rw [hexDigits_of_lt small'] at same
              exact digitChar_inj m small n small' (List.singleton_inj.mp same)
          | inr large => exact absurd same (longer large)
      | inr large =>
          cases Nat.lt_or_ge n 16 with
          | inl small =>
              rw [hexDigits_of_lt small] at same
              exact absurd same.symm (longer large)
          | inr large' =>
              rw [hexDigits_of_le large, hexDigits_of_le large'] at same
              obtain ⟨front, last⟩ := List.append_inj' same rfl
              have sameFront := ih (m / 16) (by omega) front
              have sameLast := digitChar_inj _ (Nat.mod_lt m (by decide)) _
                (Nat.mod_lt n (by decide)) (List.singleton_inj.mp last)
              omega

/-- The letters of the escapes of two characters. -/
def literalEscapes : List (Char × Char) :=
  [('0', '\x00'), ('t', '\t'), ('r', '\r'), ('n', '\n'), ('"', '"'), ('\\', '\\')]

/-- The forms that a character may have in a literal. -/
inductive IsLiteralChar : Char → List Char → Prop where
  | plain {c} : c ≠ '\\' → c ≠ '"' → c ≠ '\n' → IsLiteralChar c [c]
  | escape {letter c} : (letter, c) ∈ literalEscapes → IsLiteralChar c ['\\', letter]
  | code (c) : IsLiteralChar c ('\\' :: 'u' :: '\x7b' :: (hexDigits c.toNat ++ ['\x7d']))

theorem isLiteralChar (c : Char) : IsLiteralChar c (literalChar c) := by
  unfold literalChar
  split_ifs with zero tab ret feed quote backslash printable
  · exact .escape (by simp [literalEscapes, zero])
  · exact .escape (by simp [literalEscapes, tab])
  · exact .escape (by simp [literalEscapes, ret])
  · exact .escape (by simp [literalEscapes, feed])
  · exact .escape (by simp [literalEscapes, quote])
  · exact .escape (by simp [literalEscapes, backslash])
  · exact .plain backslash quote feed
  · exact .code c

namespace IsLiteralChar

variable {c d : Char} {written written' rest rest' : List Char}

theorem feed_notMem (h : IsLiteralChar c written) : '\n' ∉ written := by
  cases h with
  | plain _ _ feed => simpa using feed.symm
  | escape known =>
      have letters : ∀ e ∈ literalEscapes, '\n' ∉ ['\\', e.1] := by decide
      exact letters _ known
  | code => simp [notMem_hexDigits (c := '\n') (by decide)]

theorem quote_ne (h : IsLiteralChar c written) : '"' :: rest ≠ written ++ rest' := by
  intro same
  cases h with
  | plain _ quote _ => exact quote (List.cons.inj same).1.symm
  | escape => cases (List.cons.inj same).1
  | code => cases (List.cons.inj same).1

/-- No form starts like that of another character. -/
theorem append_inj (h : IsLiteralChar c written) (h' : IsLiteralChar d written')
    (same : written ++ rest = written' ++ rest') : c = d ∧ rest = rest' := by
  have letters : ∀ e ∈ literalEscapes, ∀ f ∈ literalEscapes, e.1 = f.1 → e.2 = f.2 := by decide
  have noCode : ∀ e ∈ literalEscapes, e.1 ≠ 'u' := by decide
  cases h with
  | plain backslash _ _ =>
      cases h' with
      | plain _ _ _ => exact List.cons.inj same
      | escape _ => exact absurd (List.cons.inj same).1 backslash
      | code _ => exact absurd (List.cons.inj same).1 backslash
  | escape known =>
      cases h' with
      | plain backslash _ _ => exact absurd (List.cons.inj same).1.symm backslash
      | escape known' =>
          obtain ⟨letter, rests⟩ := List.cons.inj (List.cons.inj same).2
          exact ⟨letters _ known _ known' letter, rests⟩
      | code _ => exact absurd (List.cons.inj (List.cons.inj same).2).1 (noCode _ known)
  | code _ =>
      cases h' with
      | plain backslash _ _ => exact absurd (List.cons.inj same).1.symm backslash
      | escape known =>
          exact absurd (List.cons.inj (List.cons.inj same).2).1.symm (noCode _ known)
      | code _ =>
          -- the closing brace is no digit
          have inside (n : Nat) : ∀ a ∈ hexDigits n, (a != '\x7d') = true := by
            intro a member
            rw [bne_iff_ne]
            rintro rfl
            exact notMem_hexDigits (by decide) n member
          have stop (rest : List Char) : ∀ a ∈ ('\x7d' :: rest).head?, (a != '\x7d') = false := by
            simp
          simp only [List.cons_append, List.cons.injEq, true_and, List.append_assoc] at same
          obtain ⟨digits, rests⟩ := span_unique (inside _) (inside _) (stop _) (stop _) same
          exact ⟨Char.toNat_inj.mp (hexDigits_inj digits), (List.cons.inj rests).2⟩

end IsLiteralChar

theorem feed_notMem_literal (text : List Char) : '\n' ∉ literal text := by
  simp only [literal, List.cons_append, List.mem_cons, List.mem_append, List.mem_flatMap,
    List.not_mem_nil, or_false, not_or, not_exists, not_and]
  exact ⟨by decide, fun c _ => (isLiteralChar c).feed_notMem, by decide⟩

/-- A literal ends where it ends whatever follows it, and tells its text. -/
theorem literal_append_inj {text text' rest rest' : List Char}
    (same : literal text ++ rest = literal text' ++ rest') : text = text' ∧ rest = rest' := by
  simp only [literal, List.cons_append, List.append_assoc] at same
  obtain ⟨rfl, rests⟩ := flatMap_append_inj
    (fun c _ d _ => (isLiteralChar c).append_inj (isLiteralChar d))
    (fun c _ => (isLiteralChar c).quote_ne) (fun c _ => (isLiteralChar c).quote_ne)
    (List.cons.inj same).2
  exact ⟨rfl, rests⟩

end Exposition
