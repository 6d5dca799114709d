import Exposition.Dump
import Mathlib

/-! # A text as its lines

A text is accepted exactly if each of its lines is, on its own, and its families are those of its
lines. Where a line ends is decided by the line feeds alone.
-/

namespace Exposition

section Forall₂

variable {α β : Type} {R : α → β → Prop} {as : List α} {bs : List β}

theorem exists_mem_right (h : List.Forall₂ R as bs) {a : α} (ha : a ∈ as) : ∃ b ∈ bs, R a b := by
  induction h with
  | nil => cases ha
  | @cons a' b as bs here _ ih =>
      rcases List.mem_cons.mp ha with rfl | later
      · exact ⟨b, List.mem_cons_self, here⟩
      · obtain ⟨c, hc, found⟩ := ih later
        exact ⟨c, List.mem_cons_of_mem _ hc, found⟩

theorem exists_mem_left (h : List.Forall₂ R as bs) {b : β} (hb : b ∈ bs) : ∃ a ∈ as, R a b :=
  exists_mem_right h.flip hb

theorem exists_forall₂ (h : ∀ a ∈ as, ∃ b, R a b) : ∃ bs, List.Forall₂ R as bs := by
  induction as with
  | nil => exact ⟨[], .nil⟩
  | cons a as ih =>
      obtain ⟨⟨b, here⟩, h⟩ := List.forall_mem_cons.mp h
      obtain ⟨bs, later⟩ := ih h
      exact ⟨b :: bs, .cons here later⟩

end Forall₂

/-- The lines of a text, each read without the others. -/
def LinesOf (text : String) (read : List Line) : Prop :=
  List.Forall₂ (fun line read => Line.read line = .ok read) (lines text.toList) read

theorem readLines_eq_ok_iff (number : Nat) {ls : List (List Char)} {read : List Line} :
    readLines number ls = .ok read ↔
      List.Forall₂ (fun line read => Line.read line = .ok read) ls read := by
  induction ls generalizing number read with
  | nil => simp [readLines, eq_comm]
  | cons line rest ih =>
      simp only [readLines, List.forall₂_cons_left_iff, ← ih (number + 1)]
      cases here : Line.read line with
      | error r => simp
      | ok first =>
          cases later : readLines (number + 1) rest <;> simp [Except.map, eq_comm]

theorem familiesOfText_eq_ok_iff {text : String} {fs : List Family} :
    familiesOfText text = .ok fs ↔ ∃ read, LinesOf text read ∧ familiesOfLines read = fs := by
  simp only [LinesOf, ← readLines_eq_ok_iff 1, familiesOfText]
  cases readLines 1 (lines text.toList) <;> simp [Except.map]

@[simp] theorem lines_nil : lines [] = [] := by
  rw [lines]
  rfl

/-- A line feed ends the line that has none. -/
theorem lines_append_feed {line : List Char} (noFeed : '\n' ∉ line) (rest : List Char) :
    lines (line ++ '\n' :: rest) = dropReturn line :: lines rest := by
  have upTo : ∀ c ∈ line, (c != '\n') = true := fun c hc =>
    bne_iff_ne.mpr fun same => noFeed (same ▸ hc)
  have rests : (line ++ '\n' :: rest).dropWhile (· != '\n') = '\n' :: rest := by
    simp [List.dropWhile_append_of_pos upTo]
  rw [lines]
  split
  · next none => rw [rests] at none; cases none
  · next c after found =>
      rw [rests] at found
      cases found
      simp [List.takeWhile_append_of_pos upTo]

/-- A text is empty, or one line without a line feed, or a line with its line feed and more text. -/
@[elab_as_elim]
theorem induction_on_lines {motive : List Char → Prop} (text : List Char) (nil : motive [])
    (last : ∀ line, line ≠ [] → '\n' ∉ line → motive line)
    (feed : ∀ line rest, '\n' ∉ line → motive rest → motive (line ++ '\n' :: rest)) :
    motive text := by
  fun_induction lines text with
  | case1 text _ empty =>
      rw [List.isEmpty_iff.mp empty]
      exact nil
  | case2 text none nonempty =>
      refine last text (by simpa using nonempty) fun feed => ?_
      have inside := List.dropWhile_eq_nil_iff.mp none '\n' feed
      simp at inside
  | case3 text c rest found ih =>
      have noFeed : '\n' ∉ text.takeWhile (· != '\n') := fun feed => by
        simpa using List.mem_takeWhile_imp feed
      have isFeed : c = '\n' := by
        have := List.head?_dropWhile_not (· != '\n') text
        simpa [found] using this
      subst isFeed
      have whole := feed _ rest noFeed ih
      rwa [← found, List.takeWhile_append_dropWhile] at whole

/-- No line of the text is left open: what comes after the text starts a line. -/
def IsEnded (text : List Char) : Prop := text = [] ∨ text.getLast? = some '\n'

theorem lines_append {text : List Char} (ended : IsEnded text) (text' : List Char) :
    lines (text ++ text') = lines text ++ lines text' := by
  induction text using induction_on_lines with
  | nil =>
      rw [lines_nil]
      rfl
  | last line nonempty noFeed =>
      rcases ended with rfl | last
      · exact absurd rfl nonempty
      · exact absurd (List.mem_of_getLast? last) noFeed
  | feed line rest noFeed ih =>
      have later : IsEnded rest := by
        cases rest with
        | nil => exact .inl rfl
        | cons d more =>
            refine .inr (ended.elim (by simp) fun last => ?_)
            rwa [List.getLast?_append_cons, List.getLast?_cons_cons] at last
      rw [List.append_assoc, List.cons_append, lines_append_feed noFeed, ih later,
        lines_append_feed noFeed, List.cons_append]

/-- A line that comes back whole when a line feed is put after it. -/
structure IsLineText (line : List Char) : Prop where
  noFeed : '\n' ∉ line
  noReturn : line.getLast? ≠ some '\r'

theorem IsLineText.append {front line : List Char} (h : IsLineText line) (nonempty : line ≠ [])
    (noFeed : '\n' ∉ front) : IsLineText (front ++ line) := by
  constructor
  · simpa [noFeed] using h.noFeed
  · rw [List.getLast?_append_of_ne_nil _ nonempty]
    exact h.noReturn

theorem IsLineText.lines_append_feed {line : List Char} (h : IsLineText line) (rest : List Char) :
    lines (line ++ '\n' :: rest) = line :: lines rest := by
  have whole : dropReturn line = line := if_neg h.noReturn
  rw [Exposition.lines_append_feed h.noFeed, whole]

theorem lines_flatMap_feed {written : List (List Char)} (h : ∀ line ∈ written, IsLineText line) :
    lines (written.flatMap (· ++ ['\n'])) = written := by
  induction written with
  | nil => exact lines_nil
  | cons line rest ih =>
      obtain ⟨first, h⟩ := List.forall_mem_cons.mp h
      rw [List.flatMap_cons, List.append_assoc, List.singleton_append, first.lines_append_feed,
        ih h]

/-- Texts with related lines and the same line ends. -/
inductive LineByLine (R : List Char → List Char → Prop) : List Char → List Char → Prop where
  | nil : LineByLine R [] []
  | last {line line'} :
      line ≠ [] → line' ≠ [] → '\n' ∉ line → '\n' ∉ line' → R line line' → LineByLine R line line'
  | feed {line line' rest rest'} :
      IsLineText line → IsLineText line' → R line line' → LineByLine R rest rest' →
      LineByLine R (line ++ '\n' :: rest) (line' ++ '\n' :: rest')
  | returnFeed {line line' rest rest'} :
      '\n' ∉ line → '\n' ∉ line' → R line line' → LineByLine R rest rest' →
      LineByLine R (line ++ '\r' :: '\n' :: rest) (line' ++ '\r' :: '\n' :: rest')

theorem lines_of_notMem {line : List Char} (nonempty : line ≠ []) (noFeed : '\n' ∉ line) :
    lines line = [line] := by
  have none : line.dropWhile (· != '\n') = [] :=
    List.dropWhile_eq_nil_iff.mpr fun c hc => bne_iff_ne.mpr fun same => noFeed (same ▸ hc)
  rw [lines]
  split
  · rw [if_neg (by simpa using nonempty)]
  · next found =>
      rw [none] at found
      cases found

theorem lines_append_returnFeed {line : List Char} (noFeed : '\n' ∉ line) (rest : List Char) :
    lines (line ++ '\r' :: '\n' :: rest) = line :: lines rest := by
  have cut : dropReturn (line ++ ['\r']) = line := by simp [dropReturn]
  have split : line ++ '\r' :: '\n' :: rest = (line ++ ['\r']) ++ '\n' :: rest := by simp
  rw [split, lines_append_feed (by simpa using noFeed), cut]

theorem LineByLine.lines {R : List Char → List Char → Prop} {text text' : List Char}
    (h : LineByLine R text text') : List.Forall₂ R (lines text) (lines text') := by
  induction h with
  | nil =>
      rw [lines_nil]
      exact .nil
  | last nonempty nonempty' noFeed noFeed' related =>
      rw [lines_of_notMem nonempty noFeed, lines_of_notMem nonempty' noFeed']
      exact .cons related .nil
  | feed whole whole' related _ ih =>
      rw [whole.lines_append_feed, whole'.lines_append_feed]
      exact .cons related ih
  | returnFeed noFeed noFeed' related _ ih =>
      rw [lines_append_returnFeed noFeed, lines_append_returnFeed noFeed']
      exact .cons related ih

end Exposition
