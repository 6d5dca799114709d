import Exposition.Proofs.Line.ViablePrefix
import Exposition.Proofs.Reading

/-! # What an error message says was found

The message of an error quotes what stands at the place of the error, up to the next white space,
and says that the line ends there if that is nothing. So it takes any white space at the place for
the end of the line. A place at a blank is rare: every reader skips blanks before it looks for a
token, but the equals sign of a label is missed right behind the label's name, and a value that
breaks off in an escape is missed at its first character. White space that is no blank can stand at
any place.
-/

namespace Exposition

/-- The place of the rejection is no blank, unless what was expected is the equals sign of a label
    or the closing quote of its value. -/
def Rejection.AtToken (r : Rejection) : Prop :=
  Ends isBlank r.rest ∨ r.expected = .equalsSign ∨ r.expected = .closingQuote

theorem ends_skipBlanks (cs : List Char) : Ends isBlank (skipBlanks cs) := ends_dropWhile isBlank cs

theorem ends_of_blanks?_eq_none {cs : List Char} (h : blanks? cs = none) : Ends isBlank cs := by
  cases cs with
  | nil => exact .nil _
  | cons c cs =>
      have noBlank : isBlank c = false := by simpa [blanks?] using h
      exact .cons noBlank cs

theorem labelValue_atToken {cs : List Char} {r : Rejection} (ends : Ends isBlank cs)
    (h : labelValue cs = .error r) : r.AtToken := by
  unfold labelValue at h
  split at h
  · split at h
    · cases h
    · cases h
      exact .inr (.inr rfl)
    · cases h
      exact .inr (.inr rfl)
  · cases h
    exact .inl ends

theorem pair?_atToken {cs : List Char} {r : Rejection} (h : pair? cs = .error r) : r.AtToken := by
  unfold pair? at h
  split at h
  · cases h
  · simp only [bind_eq_error_iff, expect_eq_error_iff, expect_eq_ok_iff, Prod.exists] at h
    rcases h with ⟨-, rfl⟩ | ⟨⟨⟩, afterSign, sign, noValue | ⟨_, _, -, wrong⟩⟩
    · exact .inr (.inl rfl)
    · obtain ⟨-, -, -, -, -, ends⟩ := equals?_eq_some_iff.mp sign
      exact labelValue_atToken ends noValue
    · cases wrong

theorem pairs_atToken {cs : List Char} {r : Rejection} (h : pairs cs = .error r) : r.AtToken := by
  fun_induction pairs cs with
  | case1 cs r' wrong =>
      cases h
      exact pair?_atToken wrong
  | case2 cs none => cases h
  | case3 cs pair rest first r' wrong ih =>
      cases h
      exact ih wrong
  | case4 cs pair rest first _ _ _ => cases h
  | case5 cs pair rest first more rest' some later ih => cases h
  | case6 cs pair rest _ last => cases h

theorem labels_atToken {cs : List Char} {r : Rejection} (h : labels cs = .error r) :
    r.AtToken := by
  unfold labels at h
  split at h
  · rcases bind_eq_error_iff.mp h with noPairs | ⟨⟨found, afterPairs⟩, -, h⟩
    · exact pairs_atToken noPairs
    · simp only at h
      split at h
      · split at h
        · cases h
        · cases h
          exact .inl (.cons (by decide) _)
      · cases h
        exact .inl (ends_skipBlanks _)
  · cases h

theorem timestampAfterBlanks_atToken {cs : List Char} {r : Rejection}
    (h : timestampAfterBlanks cs = .error r) : r.AtToken := by
  unfold timestampAfterBlanks at h
  split at h
  · cases h
  · next start blank =>
      rcases bind_eq_error_iff.mp h with outOfRange | ⟨time, -, wrong⟩
      · unfold timestamp? at outOfRange
        split at outOfRange
        · cases outOfRange
        · split at outOfRange
          · cases outOfRange
          · cases outOfRange
            exact .inl (ends_of_blanks? blank)
      · split at wrong <;> cases wrong

theorem sampleLine_atToken {cs : List Char} {r : Rejection} (ends : Ends isBlank cs)
    (h : sampleLine cs = .error r) : r.AtToken := by
  simp only [sampleLine, bind_eq_error_iff, expect_eq_error_iff, expect_eq_ok_iff, Prod.exists] at h
  rcases h with ⟨-, rfl⟩ | ⟨name, afterName, -, h⟩
  · exact .inl ends
  rcases h with noLabels | ⟨set, afterLabels, -, h⟩
  · exact labels_atToken noLabels
  rcases h with ⟨noBlank, rfl⟩ | ⟨⟨⟩, start, blank, h⟩
  · exact .inl (ends_of_blanks?_eq_none noBlank)
  rcases h with ⟨-, rfl⟩ | ⟨value, afterValue, -, h⟩
  · exact .inl (ends_of_blanks? blank)
  rcases h with outOfRange | ⟨time, rest, -, stop | ⟨-, -, wrong⟩⟩
  · exact timestampAfterBlanks_atToken outOfRange
  · obtain ⟨-, rfl⟩ := expectEnd_eq_error_iff.mp stop
    exact .inl (ends_skipBlanks rest)
  · cases wrong

theorem helpLine_atToken {cs : List Char} {r : Rejection} (ends : Ends isBlank cs)
    (h : helpLine cs = .error r) : r.AtToken := by
  simp only [helpLine, bind_eq_error_iff, expect_eq_error_iff, expect_eq_ok_iff, Prod.exists] at h
  rcases h with ⟨-, rfl⟩ | ⟨name, rest, -, h⟩
  · exact .inl ends
  split at h
  · cases h
  · next noBlank =>
      rcases bind_eq_error_iff.mp h with stop | ⟨-, -, wrong⟩
      · obtain ⟨-, rfl⟩ := expectEnd_eq_error_iff.mp stop
        exact .inl (ends_of_blanks?_eq_none noBlank)
      · cases wrong

theorem typeLine_atToken {cs : List Char} {r : Rejection} (ends : Ends isBlank cs)
    (h : typeLine cs = .error r) : r.AtToken := by
  simp only [typeLine, bind_eq_error_iff, expect_eq_error_iff, expect_eq_ok_iff, Prod.exists] at h
  rcases h with ⟨-, rfl⟩ | ⟨name, afterName, -, h⟩
  · exact .inl ends
  rcases h with ⟨noBlank, rfl⟩ | ⟨⟨⟩, start, blank, h⟩
  · exact .inl (ends_of_blanks?_eq_none noBlank)
  rcases h with ⟨-, rfl⟩ | ⟨word, rest, -, h⟩
  · exact .inl (ends_of_blanks? blank)
  split at h
  · cases h
    exact .inl (ends_of_blanks? blank)
  · rcases bind_eq_error_iff.mp h with stop | ⟨-, -, wrong⟩
    · obtain ⟨-, rfl⟩ := expectEnd_eq_error_iff.mp stop
      exact .inl (ends_skipBlanks rest)
    · cases wrong

theorem hashLine_atToken {cs : List Char} {r : Rejection} (h : hashLine cs = .error r) :
    r.AtToken := by
  unfold hashLine at h
  split at h
  · next word =>
      obtain ⟨-, -, -, ends⟩ := keyword?_eq_some_iff.mp word
      exact helpLine_atToken ends h
  · split at h
    · next word =>
        obtain ⟨-, -, -, ends⟩ := keyword?_eq_some_iff.mp word
        exact typeLine_atToken ends h
    · cases h

theorem read_atToken {line : List Char} {r : Rejection} (h : Line.read line = .error r) :
    r.AtToken := by
  unfold Line.read at h
  split at h
  · cases h
  · exact hashLine_atToken h
  · exact sampleLine_atToken (ends_skipBlanks line) (map_eq_error_iff.mp h)

namespace ParseError

/-- The message reports this as what was found. -/
def Reports (e : ParseError) (found : String) : Prop :=
  e.describe = toString e.line ++ ":" ++ toString e.column ++ " unexpected " ++ found ++
    ", expected " ++ e.expected.describe ++ " in line \"" ++ e.text ++ "\""

/-- The line from the place of the error on. -/
def rest (e : ParseError) : List Char := e.text.toList.drop (e.column - 1)

/-- The place of the error is one behind the last character of the line. -/
def IsAtEnd (e : ParseError) : Prop := e.column = e.text.length + 1

/-- A character of the class stands at the place of the error. -/
def IsAt (p : Char → Bool) (e : ParseError) : Prop := ∃ c, e.rest.head? = some c ∧ p c = true

variable {e : ParseError}

theorem reports_iff {found : String} : e.Reports found ↔ e.describeFound = found := by
  rw [Reports, describe]
  simp only [String.append_left_inj, String.append_right_inj]

theorem reports_endOfLine_iff : e.Reports "end of line" ↔ e.found = [] := by
  rw [reports_iff, describeFound]
  split
  · next nothing => simp [nothing]
  · next word something =>
      refine iff_of_false (fun same => ?_) something
      -- a word is quoted, and what is said of the end of a line starts with a letter
      have first := congrArg (fun s => s.toList.head?) same
      simp at first

theorem reports_of_found {word : List Char} (h : e.found = word) (something : word ≠ []) :
    e.Reports ("\"" ++ String.ofList word ++ "\"") := by
  rw [reports_iff, describeFound, h]
  split
  · contradiction
  · rfl

/-- There is nothing to quote where the line has ended, and where white space stands. -/
theorem found_eq_nil_iff : e.found = [] ↔ e.rest = [] ∨ IsAt isSpace e := by
  rw [found, firstWord, IsAt, rest]
  cases e.text.toList.drop (e.column - 1) with
  | nil => simp
  | cons c cs => cases isSpace c <;> simp

end ParseError

/-- The error of a text is about one of its lines, and keeps the place at which that line is
    rejected. -/
theorem Dump.exists_rejection {text : String} {e : ParseError} (h : ofText text = .error e) :
    ∃ line front r, line ∈ lines text.toList ∧ Line.read line = .error r ∧ line = front ++ r.rest ∧
      e.text = String.ofList line ∧ e.column = front.length + 1 ∧ e.expected = r.expected := by
  obtain ⟨before, line, after, r, split, -, rejected, rfl⟩ := ofText_eq_error_iff.mp h
  obtain ⟨front, more, here, -⟩ := read_breaksOff rejected
  refine ⟨line, front, r, ?_, rejected, here, rfl, ?_, rfl⟩
  · rw [split]
    simp
  · simp only [Rejection.column]
    rw [here, List.length_append]
    omega

/-- The message of a refused text says that the line ends exactly if the place of the error is
    behind the line or at white space. Otherwise it quotes what starts there and goes up to the next
    white space. The place is at a blank only where an equals sign or a closing quote was
    expected. -/
theorem error_message_found {text : String} {e : ParseError} (h : Dump.ofText text = .error e) :
    e.text.toList ∈ lines text.toList ∧ 1 ≤ e.column ∧ e.column ≤ e.text.length + 1 ∧
      (e.Reports "end of line" ↔ e.IsAtEnd ∨ e.IsAt isSpace) ∧
      (¬ e.Reports "end of line" → ∃ token rest, token ≠ [] ∧ (∀ c ∈ token, isSpace c = false) ∧
        (∀ c ∈ rest.head?, isSpace c = true) ∧ e.rest = token ++ rest ∧
        e.Reports ("\"" ++ String.ofList token ++ "\"")) ∧
      (e.IsAt isBlank → e.expected = .equalsSign ∨ e.expected = .closingQuote) := by
  obtain ⟨line, front, r, member, rejected, split, isText, isColumn, isExpected⟩ :=
    Dump.exists_rejection h
  have chars : e.text.toList = line := by rw [isText, String.toList_ofList]
  have length : e.text.length = front.length + r.rest.length := by
    rw [← String.length_toList, chars, split, List.length_append]
  have isRest : e.rest = r.rest := by
    rw [ParseError.rest, chars, isColumn, Nat.add_sub_cancel, split, List.drop_left]
  have atEnd : e.IsAtEnd ↔ e.rest = [] := by
    rw [ParseError.IsAtEnd, isColumn, length, isRest, ← List.length_eq_zero_iff]
    omega
  refine ⟨chars ▸ member, by omega, by omega, ?_, fun something => ?_, fun blank => ?_⟩
  · rw [ParseError.reports_endOfLine_iff, ParseError.found_eq_nil_iff, atEnd]
  · rw [ParseError.reports_endOfLine_iff] at something
    refine ⟨e.found, e.rest.dropWhile fun c => !isSpace c, something, fun c inWord => ?_, ?_,
      List.takeWhile_append_dropWhile.symm, ParseError.reports_of_found rfl something⟩
    · simpa using mem_takeWhile inWord
    · intro c first
      simpa using ends_dropWhile (fun c => !isSpace c) e.rest c first
  · obtain ⟨c, first, isBlank⟩ := blank
    rw [isRest] at first
    rw [isExpected]
    refine (read_atToken rejected).resolve_left fun ends => ?_
    rw [ends c first] at isBlank
    cases isBlank

/-- The blank in front of the place is skipped, and what stands there goes up to the next one. -/
theorem error_message_found_brace :
    let e : ParseError := ⟨2, 10, "up\x7ba=\"b\" \u00fc\x7d 0", .commaOrBrace⟩
    Dump.ofText "up 1\nup\x7ba=\"b\" \u00fc\x7d 0\n" = .error e ∧ ¬ e.IsAtEnd ∧
      ¬ e.IsAt isSpace ∧ ∃ token rest, token ≠ [] ∧ e.rest = token ++ rest ∧
        e.Reports ("\"" ++ String.ofList token ++ "\"") := by
  intro e
  have refused : Dump.ofText "up 1\nup\x7ba=\"b\" \u00fc\x7d 0\n" = .error e := by decide +kernel
  have inside : ¬ e.IsAtEnd := by
    rw [ParseError.IsAtEnd]
    decide
  have atToken : ¬ e.IsAt isSpace := by
    have here : e.rest = ['\u00fc', '\x7d', ' ', '0'] := by decide
    rintro ⟨c, first, space⟩
    rw [here] at first
    cases first
    exact absurd space (by decide)
  obtain ⟨-, -, -, ends, quotes, -⟩ := error_message_found refused
  obtain ⟨token, rest, some, -, -, split, reports⟩ :=
    quotes (mt ends.mp (not_or.mpr ⟨inside, atToken⟩))
  exact ⟨refused, inside, atToken, token, rest, some, split, reports⟩

/-- The equals sign is missed right behind the name, where a blank stands, and the message says that
    the line ends there. -/
theorem error_message_end_inside :
    let e : ParseError := ⟨1, 6, "foo\x7ba \x7d 0", .equalsSign⟩
    Dump.ofText "foo\x7ba \x7d 0" = .error e ∧ e.Reports "end of line" ∧ ¬ e.IsAtEnd := by
  intro e
  refine ⟨by decide +kernel, ParseError.reports_endOfLine_iff.mpr (by decide), ?_⟩
  rw [ParseError.IsAtEnd]
  decide

end Exposition
