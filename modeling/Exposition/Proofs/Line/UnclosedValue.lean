import Exposition.Proofs.Line.LabelSpelling
import Exposition.Proofs.Line.Reader

/-! # Label values without a closing quote

A label value is read to its closing quote. Where there is none, the reader gets to the end of the
line, and that is where the quote is missing. It is reported there with one exception: if the line
ends behind the backslash of an escape, nothing of the value is taken, and the quote is missed right
behind the one that opens the value. Nothing in front of the value changes this.
-/

namespace Exposition

/-- The value that starts here comes to a quote that belongs to no escape. -/
def HasClosingQuote (body : List Char) : Prop :=
  ∃ text inside rest, body = inside ++ '"' :: rest ∧ SpelledText text inside

/-- The value that starts here ends behind the backslash of an escape. -/
def EndsInEscape (body : List Char) : Prop :=
  ∃ text inside, body = inside ++ ['\\'] ∧ SpelledText text inside

theorem hasClosingQuote_iff {body : List Char} :
    HasClosingQuote body ↔ (labelValue ('"' :: body)).isOk = true := by
  constructor
  · rintro ⟨text, inside, rest, rfl, spelled⟩
    rw [← String.toList_ofList (l := text)] at spelled
    rw [labelValue_eq_ok_iff.mpr ⟨inside, rfl, spelled⟩]
    rfl
  · intro isOk
    obtain ⟨⟨value, rest⟩, read⟩ := exists_eq_ok_of_isOk isOk
    obtain ⟨inside, split, spelled⟩ := labelValue_eq_ok_iff.mp read
    exact ⟨_, inside, rest, (List.cons.inj split).2, spelled⟩

instance : DecidablePred HasClosingQuote := fun _ => decidable_of_iff _ hasClosingQuote_iff.symm

theorem SpelledText.unescapeBody_half {text inside : List Char} (h : SpelledText text inside) :
    unescapeBody (inside ++ ['\\']) = none := by
  induction h with
  | nil => rfl
  | plain noQuote noBackslash _ ih =>
      rw [List.cons_append, unescapeBody_plain noQuote noBackslash, ih]
      rfl
  | escape c _ ih =>
      rw [List.cons_append, List.cons_append, unescapeBody, ih]
      rfl

theorem endsInEscape_iff {body : List Char} :
    EndsInEscape body ↔ unescapeBody body = none := by
  constructor
  · rintro ⟨text, inside, rfl, spelled⟩
    exact spelled.unescapeBody_half
  · intro h
    fun_induction unescapeBody body with
    | case1 => cases h
    | case2 => cases h
    | case3 => exact ⟨[], [], rfl, .nil⟩
    | case4 c rest ih =>
        obtain ⟨text, inside, rfl, spelled⟩ := ih (Option.map_eq_none_iff.mp h)
        exact ⟨_, '\\' :: c :: inside, rfl, .escape c spelled⟩
    | case5 c rest noQuote noEnd noEscape ih =>
        obtain ⟨text, inside, rfl, spelled⟩ := ih (Option.map_eq_none_iff.mp h)
        refine ⟨_, c :: inside, rfl, .plain noQuote ?_ spelled⟩
        intro backslash
        obtain ⟨d, more, cons⟩ := List.exists_cons_of_ne_nil (l := inside ++ ['\\']) (by simp)
        exact noEscape d more backslash cons

instance : DecidablePred EndsInEscape := fun _ => decidable_of_iff _ endsInEscape_iff.symm

/-- Without a closing quote the value is rejected, and the place is the end of the line unless the
    line ends inside an escape. -/
theorem labelValue_of_unclosed {body : List Char} (unclosed : ¬ HasClosingQuote body) :
    labelValue ('"' :: body) =
      .error ⟨.closingQuote, if EndsInEscape body then body else []⟩ := by
  cases read : unescapeBody body with
  | none => simp only [labelValue, read, if_pos (endsInEscape_iff.mpr read)]
  | some result =>
      obtain ⟨text, rest⟩ := result
      have whole : ¬ EndsInEscape body := by
        rw [endsInEscape_iff, read]
        simp
      obtain ⟨inside, rfl, spelled, stop⟩ := spelledText_of_unescapeBody read
      cases rest with
      | nil => simp only [labelValue, read, if_neg whole]
      | cons c rest =>
          cases stop c rfl
          exact absurd ⟨text, inside, rest, rfl, spelled⟩ unclosed

/-- What may stand between the brace and the value of a label: the labels before it, its name and
    the equals sign. -/
inductive OpensValue : List Char → Prop where
  | first {front name before after} :
      AreBlanks front → IsLabelName name → AreBlanks before → AreBlanks after →
      OpensValue (front ++ (name.toList ++ (before ++ '=' :: after)))
  | later {pair spelled front} :
      SpelledPair pair spelled → OpensValue front → OpensValue (spelled ++ ',' :: front)

/-- What may stand in front of the value of a label on its line. -/
inductive LeadsToValue : List Char → Prop where
  | intro {blanks name gap front} :
      AreBlanks blanks → IsMetricName name → AreBlanks gap → OpensValue front →
      LeadsToValue (blanks ++ (name.toList ++ (gap ++ '\x7b' :: front)))

section Rejected

variable {cs : List Char} {r : Rejection} (quote : Ends isBlank cs)
  (wrong : labelValue cs = .error r)

include quote wrong

theorem OpensValue.pairs {front : List Char} (h : OpensValue front) :
    pairs (front ++ cs) = .error r := by
  induction h with
  | @first front name before after blankFront isName blankBefore blankAfter =>
      have isName := isLabelName_iff.mp isName
      have start : Ends isBlank (name.toList ++ (before ++ '=' :: (after ++ cs))) :=
        isName.ends_append (fun c hc =>
          isBlank_of_isMetricStart (isMetricStart_of_isLabelStart hc)) _
      have stop : Ends (fun c => isLabelStart c || isDigit c) (before ++ '=' :: (after ++ cs)) :=
        blankBefore.ends (fun _ => isLabelChar_of_isBlank) (.cons (by decide) _)
      have found : labelName? (name.toList ++ (before ++ '=' :: (after ++ cs))) = some (name, _) :=
        name?_append isName stop
      have sign : equals? (before ++ '=' :: (after ++ cs)) = some ((), cs) :=
        equals?_eq_some_iff.mpr ⟨before, after, blankBefore, blankAfter, rfl, quote⟩
      have rejected : pair? (front ++ (name.toList ++ (before ++ '=' :: (after ++ cs)))) =
          .error r := by
        simp only [pair?, blankFront.skip start, found, expect, sign, wrong, bind, Except.bind]
      simp only [List.append_assoc, List.cons_append]
      exact pairs_of_error rejected
  | @later pair spelled front isPair _ ih =>
      have here := pair?_eq_some_iff_spelled.mpr
        ⟨spelled, rfl, isPair, .cons (c := ',') (by decide) (front ++ cs)⟩
      simp only [List.append_assoc, List.cons_append]
      exact pairs_of_comma_error here ih

/-- The value is read with nothing but the end of the line behind it, so what is wrong with it is
    wrong with the line. -/
theorem LeadsToValue.read {front : List Char} (h : LeadsToValue front) :
    Line.read (front ++ cs) = .error r := by
  obtain @⟨blanks, name, gap, front, areBlanks, isName, blankGap, opens⟩ := h
  have stop : Ends isMetricChar (gap ++ '\x7b' :: (front ++ cs)) :=
    blankGap.ends (fun _ => isMetricChar_of_isBlank) (.cons (by decide) _)
  have found := metricName?_append isName stop
  have brace : skipBlanks (gap ++ '\x7b' :: (front ++ cs)) = '\x7b' :: (front ++ cs) :=
    blankGap.skip (.cons (by decide) _)
  have rejected : sampleLine (name.toList ++ (gap ++ '\x7b' :: (front ++ cs))) = .error r := by
    simp only [sampleLine, expect, found, labels, brace, labelsAfterBrace,
      opens.pairs quote wrong, bind, Except.bind]
  simp only [List.append_assoc, List.cons_append]
  rw [isName.read_indented areBlanks, rejected]
  rfl

end Rejected

/-- A value without a closing quote is rejected for want of it, on its own and wherever it stands on
    a line. The place is the end of the line, unless the line ends inside an escape of the value;
    then it is right behind the opening quote. -/
theorem unclosed_value_rejected {body : List Char} (unclosed : ¬ HasClosingQuote body) :
    ∃ r : Rejection, r.expected.describe = "closing '\"'" ∧
      labelValue ('"' :: body) = .error r ∧
      (¬ EndsInEscape body → r.column ('"' :: body) = ('"' :: body).length + 1) ∧
      (EndsInEscape body → r.column ('"' :: body) = 2) ∧
      ∀ front, LeadsToValue front → Line.read (front ++ '"' :: body) = .error r ∧
        r.column (front ++ '"' :: body) = front.length + r.column ('"' :: body) := by
  have rejected := labelValue_of_unclosed unclosed
  refine ⟨_, rfl, rejected, fun whole => ?_, fun half => ?_, fun front leads => ?_⟩
  · simp [Rejection.column, whole]
  · simp [Rejection.column, half]
  · refine ⟨leads.read (.cons (by decide) _) rejected, ?_⟩
    by_cases half : EndsInEscape body <;> simp [Rejection.column, half] <;> omega

/-- The quote in the value is escaped, so it does not close the value. -/
theorem unclosed_value_rejected_escapedQuote :
    ¬ HasClosingQuote "\u00e9\\\"x".toList ∧ ¬ EndsInEscape "\u00e9\\\"x".toList ∧
      LeadsToValue "a\x7bb=".toList ∧
      ∃ r : Rejection, r.expected.describe = "closing '\"'" ∧
        Line.read "a\x7bb=\"\u00e9\\\"x".toList = .error r ∧
        r.column "a\x7bb=\"\u00e9\\\"x".toList = 10 := by
  have unclosed : ¬ HasClosingQuote "\u00e9\\\"x".toList := by decide +kernel
  have whole : ¬ EndsInEscape "\u00e9\\\"x".toList := by decide +kernel
  have noBlank : AreBlanks [] := by decide
  have isName : IsMetricName "a" := by decide
  have isLabel : IsLabelName "b" := by decide
  have leads : LeadsToValue "a\x7bb=".toList :=
    .intro noBlank isName noBlank (.first noBlank isLabel noBlank noBlank)
  obtain ⟨r, expected, -, atEnd, -, onLine⟩ := unclosed_value_rejected unclosed
  obtain ⟨rejected, column⟩ := onLine _ leads
  refine ⟨unclosed, whole, leads, r, expected, rejected, ?_⟩
  rw [atEnd whole] at column
  exact column

/-- A value that ends in half an escape has no closing quote, and is not reported at the end of the
    line. -/
theorem unclosed_value_not_at_end :
    ¬ HasClosingQuote "x\\".toList ∧
      labelValue "\"x\\".toList = .error ⟨.closingQuote, "x\\".toList⟩ ∧
      Rejection.column ⟨.closingQuote, "x\\".toList⟩ "\"x\\".toList ≠ "\"x\\".toList.length + 1 ∧
      Line.read "a\x7bb=\"x\\".toList = .error ⟨.closingQuote, "x\\".toList⟩ ∧
      Rejection.column ⟨.closingQuote, "x\\".toList⟩ "a\x7bb=\"x\\".toList = 6 := by
  decide +kernel

end Exposition
