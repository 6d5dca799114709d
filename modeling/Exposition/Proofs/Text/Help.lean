import Exposition.Proofs.WellFormed
import Exposition.Text.Escape

/-! # Help texts written and read back

White space is cut from the end of a help line before its escapes are read, so a text may end in a
line feed but not in any other white space. What reading gives is such a text, and every such text
is given back.
-/

namespace Exposition

/-- A character of a help text as it is written. -/
def escapeHelpChar (c : Char) : List Char :=
  if c = '\\' then ['\\', '\\']
  else if c = '\n' then ['\\', 'n']
  else [c]

/-- A help text as it is written. -/
def escapeHelp (text : List Char) : List Char := text.flatMap escapeHelpChar

@[simp] theorem escapeHelp_cons (c : Char) (cs : List Char) :
    escapeHelp (c :: cs) = escapeHelpChar c ++ escapeHelp cs := by
  simp [escapeHelp]

theorem escapeHelpChar_cases (c : Char) :
    (c = '\\' ∧ escapeHelpChar c = ['\\', '\\']) ∨ (c = '\n' ∧ escapeHelpChar c = ['\\', 'n']) ∨
      (c ≠ '\\' ∧ c ≠ '\n' ∧ escapeHelpChar c = [c]) := by
  by_cases backslash : c = '\\'
  · exact .inl ⟨backslash, by simp [escapeHelpChar, backslash]⟩
  · by_cases feed : c = '\n'
    · exact .inr (.inl ⟨feed, by simp [escapeHelpChar, feed]⟩)
    · exact .inr (.inr ⟨backslash, feed, by simp [escapeHelpChar, backslash, feed]⟩)

theorem unescapeHelp_escapeHelp (text : List Char) : unescapeHelp (escapeHelp text) = text := by
  induction text with
  | nil => rfl
  | cons c cs ih =>
      rw [escapeHelp_cons]
      rcases escapeHelpChar_cases c with ⟨rfl, same⟩ | ⟨rfl, same⟩ | ⟨backslash, -, same⟩
      · simp [same, unescapeHelp, ih]
      · simp [same, unescapeHelp, ih]
      · rw [same, List.singleton_append, unescapeHelp, ih]
        all_goals simp [backslash]

theorem feed_notMem_escapeHelp (text : List Char) : '\n' ∉ escapeHelp text := by
  simp only [escapeHelp, List.mem_flatMap, not_exists, not_and]
  intro c _
  rcases escapeHelpChar_cases c with ⟨rfl, same⟩ | ⟨rfl, same⟩ | ⟨-, feed, same⟩
  · simp [same]
  · simp [same]
  · simpa [same] using feed.symm

theorem trimEnd_of_getLast? {cs : List Char} (h : ∀ c ∈ cs.getLast?, isSpace c = false) :
    trimEnd cs = cs := by
  have start : Ends isSpace cs.reverse := by simpa [Ends] using h
  rw [trimEnd, dropWhile_of_ends start, List.reverse_reverse]

theorem isSpace_getLast?_trimEnd {cs : List Char} :
    ∀ c ∈ (trimEnd cs).getLast?, isSpace c = false := by
  rw [trimEnd, List.getLast?_reverse]
  exact ends_dropWhile isSpace cs.reverse

theorem isPrefix_trimEnd (cs : List Char) : trimEnd cs <+: cs := by
  rw [trimEnd, ← List.reverse_suffix, List.reverse_reverse]
  exact List.dropWhile_suffix isSpace

theorem Ends.of_isPrefixOf {p : Char → Bool} {cs ds : List Char} (h : Ends p ds)
    (front : cs <+: ds) : Ends p cs := by
  obtain ⟨more, rfl⟩ := front
  cases cs with
  | nil => exact .nil p
  | cons c cs => exact .cons (h c rfl) cs

theorem IsHelpText.ends_escapeHelp {text : List Char} (h : IsHelpText text) :
    Ends isBlank (escapeHelp text) := by
  cases text with
  | nil => exact .nil _
  | cons c cs =>
      rw [escapeHelp_cons]
      have noBlank : isBlank c = false := by
        simpa [isBlank] using h.start c rfl
      rcases escapeHelpChar_cases c with ⟨-, same⟩ | ⟨-, same⟩ | ⟨-, -, same⟩
      · rw [same]
        exact .cons (by decide) _
      · rw [same]
        exact .cons (by decide) _
      · rw [same]
        exact .cons noBlank _

theorem IsHelpText.isSpace_getLast?_escapeHelp {text : List Char} (h : IsHelpText text) :
    ∀ c ∈ (escapeHelp text).getLast?, isSpace c = false := by
  cases text using List.reverseRecOn with
  | nil => simp [escapeHelp]
  | append_singleton cs c =>
      have last := h.stop c (by simp)
      intro d hd
      rw [escapeHelp, List.flatMap_append, List.flatMap_singleton, List.getLast?_append] at hd
      rcases escapeHelpChar_cases c with ⟨-, same⟩ | ⟨-, same⟩ | ⟨-, feed, same⟩
      · rw [same] at hd
        cases hd
        decide
      · rw [same] at hd
        cases hd
        decide
      · rw [same] at hd
        cases hd
        exact Bool.not_eq_true _ ▸ mt last feed

theorem IsHelpText.trimEnd_escapeHelp {text : List Char} (h : IsHelpText text) :
    trimEnd (escapeHelp text) = escapeHelp text :=
  trimEnd_of_getLast? h.isSpace_getLast?_escapeHelp

theorem ends_unescapeHelp {cs : List Char} (h : Ends isBlank cs) :
    Ends isBlank (unescapeHelp cs) := by
  unfold unescapeHelp
  split
  · exact h
  · exact .cons (by decide) _
  · exact .cons (by decide) _
  · exact .cons (by decide) _
  · exact .cons (h _ rfl) _

theorem unescapeHelp_eq_nil {cs : List Char} (h : unescapeHelp cs = []) : cs = [] := by
  fun_cases unescapeHelp cs <;> simp_all [unescapeHelp]

theorem getLast?_unescapeHelp_append {c : Char} {rest : List Char} (front read : List Char)
    (here : c ∈ read.getLast? → c = '\n' ∨ c ∈ front.getLast?)
    (later : c ∈ (unescapeHelp rest).getLast? → c = '\n' ∨ c ∈ rest.getLast?)
    (h : c ∈ (read ++ unescapeHelp rest).getLast?) : c = '\n' ∨ c ∈ (front ++ rest).getLast? := by
  by_cases more : rest = []
  · subst more
    simp only [unescapeHelp, List.append_nil] at h ⊢
    exact here h
  · rw [List.getLast?_append_of_ne_nil _ (mt unescapeHelp_eq_nil more)] at h
    rw [List.getLast?_append_of_ne_nil _ more]
    exact later h

/-- The last character read is the last one written, unless it is written as an escape. -/
theorem getLast?_unescapeHelp {cs : List Char} {c : Char} (h : c ∈ (unescapeHelp cs).getLast?) :
    c = '\n' ∨ c ∈ cs.getLast? := by
  fun_induction unescapeHelp cs with
  | case1 => exact .inr h
  | case2 rest ih => exact getLast?_unescapeHelp_append ['\\', '\\'] ['\\'] .inr ih h
  | case3 rest ih =>
      have feed : c ∈ ['\n'].getLast? → c = '\n' := by simp [eq_comm]
      exact getLast?_unescapeHelp_append ['\\', 'n'] ['\n'] (.inl ∘ feed) ih h
  | case4 d rest _ _ ih => exact getLast?_unescapeHelp_append ['\\', d] ['\\', d] .inr ih h
  | case5 d rest _ _ _ ih => exact getLast?_unescapeHelp_append [d] [d] .inr ih h

/-- What is read from a help line is a help text. -/
theorem isHelpText_unescapeHelp {cs : List Char} (h : Ends isBlank cs) :
    IsHelpText (unescapeHelp (trimEnd cs)) := by
  constructor
  · intro c hc
    have := ends_unescapeHelp (h.of_isPrefixOf (isPrefix_trimEnd cs)) c hc
    simpa [isBlank] using this
  · intro c hc space
    rcases getLast?_unescapeHelp hc with feed | last
    · exact feed
    · rw [isSpace_getLast?_trimEnd c last] at space
      cases space

end Exposition
