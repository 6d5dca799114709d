import Exposition.Proofs.Line.SampleGrammar

/-! # Times are exact or refused

The time of a sample is an integer of 64 bits, but it may be written with any number of digits. An
integer behind the value of a sample is always taken for its time: the line is rejected if 64 bits
cannot hold it, and otherwise the sample has exactly this time. That the integer is out of range
does not make it something else than a time, so it is refused before anything behind it is looked
at.
-/

namespace Exposition

namespace IntegerText

/-- Can 64 bits hold the integer? -/
def Fits (t : IntegerText) : Prop := -2 ^ 63 ≤ t.value ∧ t.value < 2 ^ 63

instance : DecidablePred Fits := fun t =>
  inferInstanceAs (Decidable (-2 ^ 63 ≤ t.value ∧ t.value < 2 ^ 63))

variable {t : IntegerText} {gap rest : List Char}

theorem Fits.toInt_ofInt (h : t.Fits) : (Int64.ofInt t.value).toInt = t.value :=
  Int64.toInt_ofInt_of_le h.1 h.2

theorem timestamp?_append (valid : t.IsValid) (ends : Ends isDigit rest) :
    timestamp? (t.chars ++ rest) =
      if t.Fits then .ok (some (Int64.ofInt t.value, rest))
      else .error ⟨.timestampInRange, t.chars ++ rest⟩ := by
  have least : Int64.minValue.toInt = -2 ^ 63 := by decide
  have greatest : Int64.maxValue.toInt = 2 ^ 63 - 1 := by decide
  have fits : (Int64.minValue.toInt ≤ t.value && t.value ≤ Int64.maxValue.toInt) = true ↔
      t.Fits := by
    rw [Bool.and_eq_true, decide_eq_true_iff, decide_eq_true_iff, least, greatest,
      Int.le_sub_one_iff]
    rfl
  simp only [timestamp?, integer?_chars valid ends, fits]

theorem timestampAfterBlanks_append (isGap : IsGap gap) (valid : t.IsValid)
    (ends : Ends isDigit rest) :
    timestampAfterBlanks (gap ++ (t.chars ++ rest)) =
      if t.Fits then .ok (some (Int64.ofInt t.value), rest)
      else .error ⟨.timestampInRange, t.chars ++ rest⟩ := by
  obtain ⟨nonempty, inside⟩ := IntegerText.token valid
  have start : Ends isBlank t.chars := .of_inside inside fun _ => isBlank_of_isValueChar
  have blank := blanks?_eq_some_iff.mpr ⟨gap, isGap, rfl, start.append nonempty rest⟩
  rw [timestampAfterBlanks, blank]
  simp only [timestamp?_append valid ends]
  split <;> rfl

end IntegerText

/-- What becomes of a line is a matter of what is behind the value, once the line is read so far. -/
theorem SpelledFront.read_line {identity : Identity} {value : Binary64}
    {front token back : List Char} (isFront : SpelledFront identity front)
    (isValue : value? token = some (value, [])) (stop : Ends isValueChar back) :
    Line.read (front ++ (token ++ back)) =
      (timestampAfterBlanks back).bind fun (timestamp, rest) =>
        (expectEnd .endOfLine (skipBlanks rest)).map fun _ =>
          .sample ⟨identity, value, timestamp⟩ := by
  obtain ⟨afterName, afterLabels, isName, isLabels, blank, found⟩ :=
    isFront.read_value isValue stop
  obtain @⟨name, set, blanks, labels, gap, areBlanks, named, -, -⟩ := isFront
  have noBlank := (isMetricName_iff.mp named).ends_append (fun _ => isBlank_of_isMetricStart)
  simp only [List.append_assoc] at isName ⊢
  rw [areBlanks.skip (noBlank _)] at isName
  rw [named.read_indented areBlanks]
  simp only [sampleLine, expect, isName, isLabels, blank, found, bind, Except.bind]
  cases timestampAfterBlanks back with
  | error r => rfl
  | ok time =>
      dsimp only
      cases expectEnd .endOfLine (skipBlanks time.2) with
      | error r => rfl
      | ok _ => rfl

/-- A line with a sample that has no time, and behind it an integer and anything else. -/
theorem read_timed {front gap rest : List Char} {s : Sample} {t : IntegerText}
    (accepted : Line.read front = .ok (.sample s)) (untimed : s.timestamp = none)
    (isGap : IsGap gap) (valid : t.IsValid) (ends : Ends isDigit rest) :
    Line.read (front ++ (gap ++ (t.chars ++ rest))) =
      if ¬ t.Fits then .error ⟨.timestampInRange, t.chars ++ rest⟩
      else if AreBlanks rest then .ok (.sample { s with timestamp := some (Int64.ofInt t.value) })
      else .error ⟨.endOfLine, skipBlanks rest⟩ := by
  obtain ⟨identity, value, timestamp⟩ := s
  obtain @⟨start, token, back, isFront, isValue, isBack⟩ := read_eq_sample_iff_spelled.mp accepted
  cases untimed
  cases isBack with
  | none areBlanks =>
      have isGap : IsGap (back ++ gap) :=
        ⟨List.forall_mem_append.mpr ⟨areBlanks, isGap.blanks⟩, by simp [isGap.nonempty]⟩
      have stop := isGap.ends (fun _ => isValueChar_of_isBlank) (t.chars ++ rest)
      have read := isFront.read_line isValue stop
      rw [IntegerText.timestampAfterBlanks_append isGap valid ends] at read
      simp only [List.append_assoc] at read ⊢
      rw [read]
      by_cases fits : t.Fits
      · rw [if_pos fits, if_neg (not_not.mpr fits)]
        by_cases blank : AreBlanks rest
        · simp [Except.bind, expectEnd, skipBlanks_eq_nil_iff.mpr blank, blank, Except.map]
        · simp [Except.bind, expectEnd, mt skipBlanks_eq_nil_iff.mp blank, blank, Except.map]
      · rw [if_neg fits, if_pos fits]
        rfl

/-- An integer behind a sample without a time is the time of the sample, exactly, or the line is
    rejected. If it is out of range the place is that of its first character, whatever follows; if
    it is in range and only blanks follow, the line is accepted. -/
theorem time_exact_or_refused {front gap rest : List Char} {s : Sample} {t : IntegerText}
    (accepted : Line.read front = .ok (.sample s)) (untimed : s.timestamp = none)
    (isGap : IsGap gap) (valid : t.IsValid) (ends : Ends isDigit rest) :
    (t.Fits → AreBlanks rest → ∃ time : Int64, time.toInt = t.value ∧
      Line.read (front ++ (gap ++ (t.chars ++ rest))) =
        .ok (.sample { s with timestamp := some time })) ∧
    (¬ t.Fits → ∃ r : Rejection, r.expected.describe = "timestamp within 64-bit range" ∧
      r.column (front ++ (gap ++ (t.chars ++ rest))) = (front ++ gap).length + 1 ∧
      Line.read (front ++ (gap ++ (t.chars ++ rest))) = .error r) ∧
    ∀ line, Line.read (front ++ (gap ++ (t.chars ++ rest))) = .ok line →
      ∃ time : Int64, time.toInt = t.value ∧ line = .sample { s with timestamp := some time } := by
  have read := read_timed accepted untimed isGap valid ends
  refine ⟨fun fits blank => ?_, fun tooLarge => ?_, fun line isRead => ?_⟩
  · rw [if_neg (not_not.mpr fits), if_pos blank] at read
    exact ⟨_, fits.toInt_ofInt, read⟩
  · rw [if_pos tooLarge] at read
    refine ⟨_, rfl, ?_, read⟩
    simp only [Rejection.column, List.length_append]
    omega
  · rw [read] at isRead
    split at isRead
    · cases isRead
    · next fits =>
        split at isRead
        · cases isRead
          exact ⟨_, (not_not.mp fits).toInt_ofInt, rfl⟩
        · cases isRead

/-- The least time with zeros in front of it, and the integer below it. -/
theorem time_exact_or_refused_least :
    ∃ (s : Sample) (least below : IntegerText),
      Line.read " a\x7b\x7d .5".toList = .ok (.sample s) ∧ s.timestamp = none ∧
      least.IsValid ∧ least.chars = "-009223372036854775808".toList ∧ least.Fits ∧
      below.IsValid ∧ below.chars = "-009223372036854775809".toList ∧ ¬ below.Fits ∧
      Line.read " a\x7b\x7d .5 -009223372036854775808\t".toList =
        .ok (.sample { s with timestamp := some Int64.minValue }) ∧
      ∃ r : Rejection, r.expected.describe = "timestamp within 64-bit range" ∧
        r.column " a\x7b\x7d .5 -009223372036854775809x".toList = 9 ∧
        Line.read " a\x7b\x7d .5 -009223372036854775809x".toList = .error r := by
  let s : Sample := ⟨⟨"a", .empty⟩, ⟨0x3FE0000000000000⟩, none⟩
  let least : IntegerText := ⟨.minus, "009223372036854775808".toList⟩
  let below : IntegerText := ⟨.minus, "009223372036854775809".toList⟩
  have accepted : Line.read " a\x7b\x7d .5".toList = .ok (.sample s) := by decide +kernel
  have isGap : IsGap [' '] := ⟨by decide, by decide⟩
  have validLeast : least.IsValid := ⟨List.all_eq_true.mp (by decide), by decide⟩
  have validBelow : below.IsValid := ⟨List.all_eq_true.mp (by decide), by decide⟩
  have fits : least.Fits := by decide +kernel
  have tooSmall : ¬ below.Fits := by decide +kernel
  have blank : AreBlanks ['\t'] := by decide
  obtain ⟨time, same, read⟩ :=
    (time_exact_or_refused accepted rfl isGap validLeast (.cons (by decide) [])).1 fits blank
  have isLeast : time = Int64.minValue := Int64.toInt_inj.mp (same.trans (by decide))
  rw [isLeast] at read
  have refused :=
    (time_exact_or_refused accepted rfl isGap validBelow (.cons (c := 'x') (by decide) [])).2.1
  exact ⟨s, least, below, accepted, rfl, validLeast, rfl, fits, validBelow, rfl, tooSmall, read,
    refused tooSmall⟩

end Exposition
