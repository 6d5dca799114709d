import Exposition.Proofs.Line.LabelSpelling
import Exposition.Proofs.Text.Help

/-! # Escapes that values and help texts share

A label value is read up to its closing quote, a help text to the end of its line, and of the
escapes only the one for a quote is not common to both. So a text without quotes stands for the same
text in either place, provided that it can be put between quotes at all: the quote behind it closes
the value unless the last backslash of the text escapes it, and backslashes are used up in pairs.
-/

namespace Exposition

/-- How many backslashes a text ends in. -/
def finalBackslashes (cs : List Char) : Nat := (cs.rtakeWhile (· == '\\')).length

@[grind =] theorem finalBackslashes_cons (c : Char) (cs : List Char) :
    finalBackslashes (c :: cs) =
      if c = '\\' ∧ finalBackslashes cs = cs.length then cs.length + 1
      else finalBackslashes cs := by
  simp only [finalBackslashes, List.rtakeWhile, List.length_reverse, List.reverse_cons,
    List.takeWhile_append]
  by_cases backslash : c = '\\' <;> split_ifs <;> simp_all

theorem finalBackslashes_plain {c : Char} (noBackslash : c ≠ '\\') (cs : List Char) :
    finalBackslashes (c :: cs) = finalBackslashes cs := by
  rw [finalBackslashes_cons, if_neg fun h => noBackslash h.1]

/-- An escape at the front of a text, even of a backslash, does not change whether the last
    backslash is left over. -/
theorem odd_finalBackslashes_escape (c : Char) (cs : List Char) :
    Odd (finalBackslashes ('\\' :: c :: cs)) ↔ Odd (finalBackslashes cs) := by
  have behind : finalBackslashes cs ≤ cs.length := by
    have suffix := List.rtakeWhile_suffix (· == '\\') cs
    exact suffix.length_le
  rw [finalBackslashes_cons, finalBackslashes_cons c cs, List.length_cons]
  by_cases all : c = '\\' ∧ finalBackslashes cs = cs.length
  · rw [if_pos all, if_pos ⟨rfl, rfl⟩, all.2, Nat.odd_add_one, Nat.odd_add_one, not_not]
  · have other : finalBackslashes cs ≠ cs.length + 1 := by omega
    rw [if_neg all, if_neg fun h => other h.2]

/-- No text that can stand between quotes ends in half an escape. -/
theorem SpelledText.not_odd_finalBackslashes {text body : List Char} (h : SpelledText text body) :
    ¬ Odd (finalBackslashes body) := by
  induction h with
  | nil => decide
  | plain _ noBackslash _ ih => rwa [finalBackslashes_plain noBackslash]
  | escape c _ ih => rwa [odd_finalBackslashes_escape]

theorem unescapeChar_of_other {c : Char} (noBackslash : c ≠ '\\') (noQuote : c ≠ '"')
    (noFeed : c ≠ 'n') : unescapeChar c = ['\\', c] := by
  simp [unescapeChar, noBackslash, noQuote, noFeed]

theorem spelledText_unescapeHelp {body : List Char} (noQuote : '"' ∉ body)
    (whole : ¬ Odd (finalBackslashes body)) : SpelledText (unescapeHelp body) body := by
  fun_induction unescapeHelp body with
  | case1 => exact .nil
  | case2 rest ih =>
      rw [odd_finalBackslashes_escape] at whole
      exact .escape '\\' (ih (by simp_all) whole)
  | case3 rest ih =>
      rw [odd_finalBackslashes_escape] at whole
      exact .escape 'n' (ih (by simp_all) whole)
  | case4 c rest noBackslash noFeed ih =>
      rw [odd_finalBackslashes_escape] at whole
      have same := unescapeChar_of_other noBackslash (by rintro rfl; simp at noQuote) noFeed
      have spelled := SpelledText.escape c (ih (by simp_all) whole)
      rwa [same] at spelled
  | case5 c rest noEscape noFeed noOther ih =>
      have noBackslash : c ≠ '\\' := by
        rintro rfl
        cases rest with
        | nil => exact whole (by decide)
        | cons d rest => exact noOther d rest rfl rfl
      rw [finalBackslashes_plain noBackslash] at whole
      exact .plain (by rintro rfl; simp at noQuote) noBackslash (ih (by simp_all) whole)

/-- Between quotes, a text without quotes is read to its end and as a help text would be, whatever
    follows it, exactly if the backslashes that it ends in are not odd in number. -/
theorem quoted_eq_help_iff {body : List Char} (noQuote : '"' ∉ body) (rest : List Char) :
    labelValue ('"' :: (body ++ '"' :: rest)) = .ok (String.ofList (unescapeHelp body), rest) ↔
      ¬ Odd (finalBackslashes body) := by
  rw [labelValue_eq_ok_iff, String.toList_ofList]
  constructor
  · rintro ⟨inside, same, spelled⟩
    rw [List.append_cancel_right (List.cons.inj same).2]
    exact spelled.not_odd_finalBackslashes
  · exact fun whole => ⟨body, rfl, spelledText_unescapeHelp noQuote whole⟩

/-- The text ends in four backslashes and has escapes that only look like known ones. -/
theorem quoted_eq_help_iff_backslashes :
    '"' ∉ "\\t\u00e9\\n\\\\n\\\\\\\\".toList ∧
      ¬ Odd (finalBackslashes "\\t\u00e9\\n\\\\n\\\\\\\\".toList) ∧
      labelValue "\"\\t\u00e9\\n\\\\n\\\\\\\\\"\\\" 1".toList =
        .ok ("\\t\u00e9\n\\n\\\\", "\\\" 1".toList) := by
  have noQuote : '"' ∉ "\\t\u00e9\\n\\\\n\\\\\\\\".toList := by decide
  have whole : ¬ Odd (finalBackslashes "\\t\u00e9\\n\\\\n\\\\\\\\".toList) := by decide
  exact ⟨noQuote, whole, (quoted_eq_help_iff noQuote "\\\" 1".toList).mpr whole⟩

end Exposition
