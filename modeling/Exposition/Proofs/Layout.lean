import Exposition.Proofs.Line.HashLine
import Exposition.Proofs.Reading
import Exposition.Proofs.Segmentation

/-! # Layout

Blank lines and comments may stand between any two lines of a text, inside a block too. With more of
them a text has the same families, and if it is refused then for the same line, which has only moved
down by the lines put in front of it. Nor does it matter if lines end in `\r\n` or `\n`, and if the
last one ends at all.
-/

namespace Exposition

/-- The line is blank or a comment. -/
def IsLayout (line : List Char) : Prop :=
  Line.read line = .ok .blank ∨ Line.read line = .ok .comment

theorem IsLayout.read {line : List Char} (h : IsLayout line) :
    ∃ read, Line.read line = .ok read ∧ read.isContent = false := by
  rcases h with blank | comment
  · exact ⟨_, blank, rfl⟩
  · exact ⟨_, comment, rfl⟩

theorem IsLayout.isAccepted {line : List Char} (h : IsLayout line) : IsAccepted line := by
  obtain ⟨read, isRead, -⟩ := h.read
  exact ⟨read, isRead⟩

theorem hashLine_eq_comment_iff {cs : List Char} :
    hashLine cs = .ok .comment ↔
      (∀ rest, ¬ Opens ['H', 'E', 'L', 'P'] cs rest) ∧
        ∀ rest, ¬ Opens ['T', 'Y', 'P', 'E'] cs rest := by
  constructor
  · intro h
    have told := afterHash_toOption cs
    rw [h] at told
    cases told with
    | comment noHelp noType => exact ⟨noHelp, noType⟩
  · rintro ⟨noHelp, noType⟩
    rw [hashLine, keyword?_eq_none_iff.mpr noHelp, keyword?_eq_none_iff.mpr noType]

theorem hashLine_ne_blank {cs : List Char} : hashLine cs ≠ .ok .blank := by
  intro h
  have told := afterHash_toOption cs
  rw [h] at told
  cases told

theorem isLayout_iff {line : List Char} :
    IsLayout line ↔
      skipBlanks line = [] ∨
        ∃ rest, skipBlanks line = '#' :: rest ∧ hashLine (skipBlanks rest) = .ok .comment := by
  unfold IsLayout Line.read
  split
  · next none => simp [none]
  · next rest hash => simp [hash, hashLine_ne_blank]
  · next noBlank noHash =>
      simp only [map_eq_ok_iff, reduceCtorEq, and_false, exists_false, or_self, false_iff, not_or,
        not_exists, not_and]
      exact ⟨noBlank, fun rest hash => absurd hash (noHash rest)⟩

theorem skipBlanks_append_return (cs : List Char) :
    skipBlanks (cs ++ ['\r']) = skipBlanks cs ++ ['\r'] := by
  obtain ⟨blanks, areBlanks, split, ends⟩ := skipBlanks_eq_iff.mp (rfl : skipBlanks cs = _)
  have ends : Ends isBlank (skipBlanks cs ++ ['\r']) := by
    cases rest : skipBlanks cs with
    | nil => exact .cons (by decide) _
    | cons c more => exact .cons (ends c (by simp [rest])) _
  exact skipBlanks_eq_iff.mpr ⟨blanks, areBlanks, by rw [← List.append_assoc, ← split], ends⟩

theorem Opens.append_return {word cs rest : List Char} (h : Opens word cs rest) :
    Opens word (cs ++ ['\r']) (rest ++ ['\r']) := by
  obtain ⟨gap, isGap, rfl, ends⟩ := h
  refine ⟨gap, isGap, by simp, ?_⟩
  cases rest with
  | nil => exact .cons (by decide) _
  | cons c more => exact .cons (ends c rfl) _

/-- A layout line is one without its carriage return as well: none of the blanks in front of it is
    the return, and a word that it does not open with it does not open with then either. -/
theorem IsLayout.dropReturn {line : List Char} (h : IsLayout line) :
    IsLayout (dropReturn line) := by
  by_cases last : line.getLast? = some '\r'
  · obtain ⟨front, rfl⟩ := List.getLast?_eq_some_iff.mp last
    rw [Exposition.dropReturn, if_pos last, List.dropLast_concat]
    rw [isLayout_iff, skipBlanks_append_return] at h
    rcases h with none | ⟨rest, hash, comment⟩
    · simp at none
    cases start : skipBlanks front with
    | nil =>
        rw [start] at hash
        cases hash
    | cons c more =>
        rw [start, List.cons_append, List.cons.injEq] at hash
        obtain ⟨rfl, rfl⟩ := hash
        rw [skipBlanks_append_return, hashLine_eq_comment_iff] at comment
        obtain ⟨noHelp, noType⟩ := comment
        refine isLayout_iff.mpr (.inr ⟨more, start, hashLine_eq_comment_iff.mpr ⟨?_, ?_⟩⟩)
        · exact fun _ opens => noHelp _ opens.append_return
        · exact fun _ opens => noType _ opens.append_return
  · rwa [Exposition.dropReturn, if_neg last]

/-- The second text is the first with layout lines inserted between its lines. The marks say for
    each line of the second text, as far as lines are inserted, if it is an inserted one. -/
inductive LayoutInserted : List Char → List Char → List Bool → Prop where
  | rest (text) : LayoutInserted text text []
  | keep (line) {text text' marks} :
      '\n' ∉ line → LayoutInserted text text' marks →
      LayoutInserted (line ++ '\n' :: text) (line ++ '\n' :: text') (false :: marks)
  | insert (line) {text text' marks} :
      '\n' ∉ line → IsLayout (dropReturn line) → LayoutInserted text text' marks →
      LayoutInserted text (line ++ '\n' :: text') (true :: marks)

/-- The number of lines inserted before the one that `n` lines are in front of. -/
def insertedBefore : List Bool → Nat → Nat
  | true :: marks, n => insertedBefore marks n + 1
  | false :: marks, n + 1 => insertedBefore marks n
  | _, _ => 0

namespace LayoutInserted

variable {text text' : List Char} {marks : List Bool}

/-- Only lines without content are read in addition. -/
theorem read (h : LayoutInserted text text' marks) {read : List Line}
    (isRead : List.Forall₂ (fun line read => Line.read line = .ok read) (lines text) read) :
    ∃ read', List.Forall₂ (fun line read => Line.read line = .ok read) (lines text') read' ∧
      read'.filter (·.isContent) = read.filter (·.isContent) := by
  induction h generalizing read with
  | rest text => exact ⟨read, isRead, rfl⟩
  | keep line noFeed _ ih =>
      rw [lines_append_feed noFeed] at isRead ⊢
      obtain ⟨first, read, here, later, rfl⟩ := List.forall₂_cons_left_iff.mp isRead
      obtain ⟨read', isRead', same⟩ := ih later
      exact ⟨first :: read', .cons here isRead', by rw [List.filter_cons, List.filter_cons, same]⟩
  | insert line noFeed isLayout _ ih =>
      obtain ⟨read', isRead', same⟩ := ih isRead
      obtain ⟨first, here, noContent⟩ := isLayout.read
      rw [lines_append_feed noFeed]
      exact ⟨first :: read', .cons here isRead',
        by rw [List.filter_cons_of_neg (by simp [noContent]), same]⟩

/-- A line with accepted lines in front of it has them there still, and inserted ones. -/
theorem exists_split (h : LayoutInserted text text' marks) {before after : List (List Char)}
    {line : List Char} (split : lines text = before ++ line :: after)
    (accepted : ∀ l ∈ before, IsAccepted l) :
    ∃ before' after', lines text' = before' ++ line :: after' ∧ (∀ l ∈ before', IsAccepted l) ∧
      before'.length = before.length + insertedBefore marks before.length := by
  induction h generalizing before with
  | rest text => exact ⟨before, after, split, accepted, by simp [insertedBefore]⟩
  | keep first noFeed _ ih =>
      rw [lines_append_feed noFeed] at split ⊢
      cases before with
      | nil =>
          cases split
          exact ⟨[], _, rfl, accepted, rfl⟩
      | cons first' before =>
          obtain ⟨rfl, later⟩ := List.cons.inj split
          obtain ⟨here, accepted⟩ := List.forall_mem_cons.mp accepted
          obtain ⟨before', after', split', accepted', moved⟩ := ih later accepted
          refine ⟨dropReturn first :: before', after', by rw [split', List.cons_append],
            List.forall_mem_cons.mpr ⟨here, accepted'⟩, ?_⟩
          simp only [List.length_cons, insertedBefore]
          omega
  | insert first noFeed isLayout _ ih =>
      obtain ⟨before', after', split', accepted', moved⟩ := ih split accepted
      refine ⟨dropReturn first :: before', after', ?_,
        List.forall_mem_cons.mpr ⟨isLayout.isAccepted, accepted'⟩, ?_⟩
      · rw [lines_append_feed noFeed, split', List.cons_append]
      · simp only [List.length_cons, insertedBefore]
        omega

end LayoutInserted

variable {text text' : String}

theorem familiesOfLines_congr {read read' : List Line}
    (same : read'.filter (·.isContent) = read.filter (·.isContent)) :
    familiesOfLines read' = familiesOfLines read := by
  rw [familiesOfLines, familiesOfLines, ← familiesAfter_filter, same, familiesAfter_filter]

theorem ofText_inserted {marks : List Bool} {d : Dump}
    (h : LayoutInserted text.toList text'.toList marks) (accepted : Dump.ofText text = .ok d) :
    Dump.ofText text' = .ok d := by
  obtain ⟨read, isRead, rfl⟩ := Dump.ofText_eq_ok_iff.mp accepted
  obtain ⟨read', isRead', same⟩ := h.read isRead
  exact Dump.ofText_eq_ok_iff.mpr ⟨read', isRead', by rw [familiesOfLines_congr same]⟩

theorem ofText_inserted_error {marks : List Bool} {e : ParseError}
    (h : LayoutInserted text.toList text'.toList marks) (refused : Dump.ofText text = .error e) :
    Dump.ofText text' = .error { e with line := e.line + insertedBefore marks (e.line - 1) } := by
  obtain ⟨before, line, after, r, split, accepted, rejected, rfl⟩ :=
    Dump.ofText_eq_error_iff.mp refused
  obtain ⟨before', after', split', accepted', moved⟩ := h.exists_split split accepted
  refine Dump.ofText_eq_error_iff.mpr ⟨before', line, after', r, split', accepted', rejected, ?_⟩
  simp only [moved, Nat.add_sub_cancel_left, Nat.add_assoc]

/-- The text with a carriage return in front of each line feed. -/
def returnFeeds (text : List Char) : List Char :=
  text.flatMap fun c => if c = '\n' then ['\r', '\n'] else [c]

theorem returnFeeds_of_notMem {line : List Char} (noFeed : '\n' ∉ line) :
    returnFeeds line = line := by
  have same : ∀ c ∈ line, (if c = '\n' then ['\r', '\n'] else [c]) = [c] := by
    intro c hc
    rw [if_neg]
    rintro rfl
    exact noFeed hc
  rw [returnFeeds, List.flatMap_congr same, List.flatMap_singleton']

theorem returnFeeds_append_feed {line : List Char} (noFeed : '\n' ∉ line) (rest : List Char) :
    returnFeeds (line ++ '\n' :: rest) = line ++ '\r' :: '\n' :: returnFeeds rest := by
  have front := returnFeeds_of_notMem noFeed
  unfold returnFeeds at front ⊢
  rw [List.flatMap_append, front]
  rfl

/-- The rest of the text has no return either. -/
theorem isLineText_of_notMem {line rest : List Char} (noFeed : '\n' ∉ line)
    (noReturn : '\r' ∉ line ++ '\n' :: rest) : IsLineText line ∧ '\r' ∉ rest := by
  simp only [List.mem_append, List.mem_cons, not_or] at noReturn
  obtain ⟨noReturn, -, later⟩ := noReturn
  exact ⟨⟨noFeed, fun last => noReturn (List.mem_of_getLast? last)⟩, later⟩

theorem lines_returnFeeds {text : List Char} (noReturn : '\r' ∉ text) :
    lines (returnFeeds text) = lines text := by
  induction text using induction_on_lines with
  | nil => rfl
  | last line _ noFeed => rw [returnFeeds_of_notMem noFeed]
  | feed line rest noFeed ih =>
      obtain ⟨isLine, noReturn⟩ := isLineText_of_notMem noFeed noReturn
      rw [returnFeeds_append_feed noFeed, lines_append_returnFeed noFeed, ih noReturn,
        isLine.lines_append_feed]

/-- One more line feed ends the last line or is a line of its own. -/
theorem lines_append_singleton_feed {text : List Char} (noReturn : '\r' ∉ text) :
    lines (text ++ ['\n']) = lines text ∨ lines (text ++ ['\n']) = lines text ++ [[]] := by
  induction text using induction_on_lines with
  | nil =>
      have feed : lines ([] ++ '\n' :: []) = _ := lines_append_feed (by simp) []
      rw [lines_nil] at feed ⊢
      exact .inr feed
  | last line nonempty noFeed =>
      have isLine : IsLineText line := ⟨noFeed, fun last => noReturn (List.mem_of_getLast? last)⟩
      rw [isLine.lines_append_feed, lines_nil, lines_of_notMem nonempty noFeed]
      exact .inl rfl
  | feed line rest noFeed ih =>
      obtain ⟨isLine, noReturn⟩ := isLineText_of_notMem noFeed noReturn
      rw [List.append_assoc, List.cons_append, isLine.lines_append_feed, isLine.lines_append_feed]
      exact (ih noReturn).imp (congrArg _) (congrArg _)

theorem readLines_append_nil (number : Nat) (ls : List (List Char)) :
    readLines number (ls ++ [[]]) = (readLines number ls).map (· ++ [.blank]) := by
  induction ls generalizing number with
  | nil => rfl
  | cons line rest ih =>
      rw [List.cons_append, readLines, readLines, ih]
      cases Line.read line with
      | error r => rfl
      | ok read => cases readLines (number + 1) rest <;> rfl

theorem ofText_congr_lines (same : lines text'.toList = lines text.toList) :
    Dump.ofText text' = Dump.ofText text := by
  rw [Dump.ofText, Dump.ofText, familiesOfText, familiesOfText, same]

theorem ofText_append_feed (noReturn : '\r' ∉ text.toList) :
    Dump.ofText (text ++ "\n") = Dump.ofText text := by
  have chars : (text ++ "\n").toList = text.toList ++ ['\n'] := String.toList_append
  rcases lines_append_singleton_feed noReturn with same | more
  · exact ofText_congr_lines (by rw [chars, same])
  · rw [Dump.ofText, Dump.ofText, familiesOfText, familiesOfText, chars, more, readLines_append_nil]
    cases readLines 1 (lines text.toList) with
    | error e => rfl
    | ok read =>
        have same : familiesOfLines (read ++ [.blank]) = familiesOfLines read :=
          familiesOfLines_congr (by simp [Line.isContent])
        simp only [Except.map, same]

/-- A text with layout lines inserted has the same dump, or the same error, but for the number of
    its line, which counts the lines inserted before it. A layout line is one with a carriage return
    or without. A text that has no carriage return has the same dump or the same error with one at
    the end of each line, and with one more line feed. -/
theorem layout_neutral :
    (∀ (text text' : String) (marks : List Bool),
      LayoutInserted text.toList text'.toList marks →
      (∀ d, Dump.ofText text = .ok d → Dump.ofText text' = .ok d) ∧
      ∀ e, Dump.ofText text = .error e →
        Dump.ofText text' =
          .error { e with line := e.line + insertedBefore marks (e.line - 1) }) ∧
    (∀ line, IsLayout line → IsLayout (dropReturn line)) ∧
    ∀ text : String, '\r' ∉ text.toList →
      Dump.ofText (String.ofList (returnFeeds text.toList)) = Dump.ofText text ∧
      Dump.ofText (text ++ "\n") = Dump.ofText text := by
  refine ⟨fun text text' marks inserted => ⟨fun d => ofText_inserted inserted,
    fun e => ofText_inserted_error inserted⟩, fun line => IsLayout.dropReturn,
    fun text noReturn => ⟨?_, ofText_append_feed noReturn⟩⟩
  exact ofText_congr_lines (by rw [String.toList_ofList, lines_returnFeeds noReturn])

/-- Lines are inserted in front of a block, behind its preamble, between its samples and at its
    end. -/
theorem layoutInserted_histogram :
    LayoutInserted "# TYPE h histogram\nh_sum 1\nh_count 2\n".toList
      "\t\n# TYPE h histogram\n# HELP\nh_sum 1\n#x\r\nh_count 2\n\n".toList
      [true, false, true, false, true, false, true] :=
  .insert ['\t'] (by decide) (.inl rfl)
    (.keep "# TYPE h histogram".toList (by decide)
      (.insert "# HELP".toList (by decide) (.inr rfl)
        (.keep "h_sum 1".toList (by decide)
          (.insert "#x\r".toList (by decide) (.inr rfl)
            (.keep "h_count 2".toList (by decide)
              (.insert [] (by decide) (.inl rfl) (.rest [])))))))

theorem layout_neutral_histogram :
    (∃ d, Dump.ofText "# TYPE h histogram\nh_sum 1\nh_count 2\n" = .ok d ∧
      Dump.ofText "\t\n# TYPE h histogram\n# HELP\nh_sum 1\n#x\r\nh_count 2\n\n" = .ok d) ∧
    IsLayout (dropReturn "#x\r".toList) ∧
    Dump.ofText "up 1\nup ?" = .error ⟨2, 4, "up ?", .sampleValue⟩ ∧
    Dump.ofText "up 1\r\nup ?" = .error ⟨2, 4, "up ?", .sampleValue⟩ ∧
    Dump.ofText "up 1\nup ?\n" = .error ⟨2, 4, "up ?", .sampleValue⟩ ∧
    Dump.ofText "# c\nup 1\n\nup ?\n" = .error ⟨4, 4, "up ?", .sampleValue⟩ := by
  obtain ⟨inserting, returning, ends⟩ := layout_neutral
  have moved : LayoutInserted "up 1\nup ?\n".toList "# c\nup 1\n\nup ?\n".toList
      [true, false, true] :=
    .insert "# c".toList (by decide) (.inr rfl)
      (.keep "up 1".toList (by decide)
        (.insert [] (by decide) (.inl rfl) (.rest "up ?\n".toList)))
  obtain ⟨d, isRead⟩ : ∃ d, Dump.ofText "# TYPE h histogram\nh_sum 1\nh_count 2\n" = .ok d :=
    exists_eq_ok_of_isOk (by decide +kernel)
  have refused : Dump.ofText "up 1\nup ?" = .error ⟨2, 4, "up ?", .sampleValue⟩ := by
    decide +kernel
  obtain ⟨sameReturn, sameFeed⟩ := ends "up 1\nup ?" (by decide)
  have later := (inserting _ _ _ moved).2 _ (sameFeed.trans refused)
  exact ⟨⟨d, isRead, (inserting _ _ _ layoutInserted_histogram).1 d isRead⟩,
    returning _ (.inr rfl), refused, sameReturn.trans refused, sameFeed.trans refused, later⟩

end Exposition
