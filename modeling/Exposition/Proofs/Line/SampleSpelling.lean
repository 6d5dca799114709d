import Exposition.Proofs.Line.Reader

/-! # How a sample line may be spelled

The name, the labels, the value and the time of a sample stand in this order on its line, with
blanks between them, and the reader takes for samples exactly the lines of this form. A line has
it in one way only: what is in front of the value and what is behind it is no matter of choice, and
both read the same with any other value between them.
-/

namespace Exposition

/-- What stands in front of the value of a sample: its series, and a gap. -/
inductive SpelledFront : Identity → List Char → Prop where
  | intro {name set blanks labels gap} :
      AreBlanks blanks → IsMetricName name → SpelledLabels set labels → IsGap gap →
      SpelledFront ⟨name, set⟩ (blanks ++ (name.toList ++ (labels ++ gap)))

/-- What stands behind the value of a sample: its time after another gap, or none. -/
inductive SpelledBack : Option Int64 → List Char → Prop where
  | none {blanks} : AreBlanks blanks → SpelledBack none blanks
  | some {time gap token blanks} :
      IsGap gap → timestamp? token = .ok (some (time, [])) → AreBlanks blanks →
      SpelledBack (some time) (gap ++ (token ++ blanks))

/-- A sample line. The value may be any token that is read completely as that value. -/
inductive SpelledSample : Sample → List Char → Prop where
  | intro {s front token back} :
      SpelledFront s.identity front → value? token = some (s.value, []) →
      SpelledBack s.timestamp back → SpelledSample s (front ++ (token ++ back))

theorem SpelledLabels.ends {set : Labels} {labels gap : List Char} (h : SpelledLabels set labels)
    (isGap : IsGap gap) (rest : List Char) : Ends isMetricChar (labels ++ (gap ++ rest)) := by
  cases h with
  | none => exact isGap.ends (fun _ => isMetricChar_of_isBlank) rest
  | some areBlanks _ _ =>
      rw [List.append_assoc]
      exact areBlanks.ends (fun _ => isMetricChar_of_isBlank) (.cons (by decide) _)

theorem SpelledFront.read {identity : Identity} {front rest : List Char}
    (h : SpelledFront identity front) (ends : Ends isBlank rest)
    (noBrace : Ends (· == '\x7b') rest) :
    ∃ afterName afterLabels,
      metricName? (skipBlanks (front ++ rest)) = some (identity.name, afterName) ∧
      labels afterName = .ok (identity.labels, afterLabels) ∧
      blanks? afterLabels = some ((), rest) := by
  obtain @⟨name, set, blanks, labels, gap, areBlanks, isName, isLabels, isGap⟩ := h
  refine ⟨labels ++ (gap ++ rest), gap ++ rest, ?_, isLabels.read ?_,
    blanks?_eq_some_iff.mpr ⟨gap, isGap, rfl, ends⟩⟩
  · simp only [List.append_assoc]
    rw [areBlanks.skip (isName.ends_append _)]
    exact metricName?_append isName (isLabels.ends isGap rest)
  · rwa [isGap.blanks.skip ends]

theorem spelledFront_of_read {identity : Identity} {cs afterName afterLabels rest : List Char}
    (isName : metricName? (skipBlanks cs) = some (identity.name, afterName))
    (isLabels : labels afterName = .ok (identity.labels, afterLabels))
    (blank : blanks? afterLabels = some ((), rest)) :
    ∃ front, cs = front ++ rest ∧ SpelledFront identity front := by
  obtain ⟨named, first, -⟩ := name?_eq_some_iff.mp isName
  obtain ⟨blanks, areBlanks, rfl, -⟩ := skipBlanks_eq_iff.mp first
  obtain ⟨spelled, rfl, isSpelled⟩ := spelledLabels_of_labels isLabels
  obtain ⟨gap, isGap, rfl, -⟩ := blanks?_eq_some_iff.mp blank
  exact ⟨_, by simp, .intro areBlanks (isMetricName_iff.mpr named) isSpelled isGap⟩

theorem SpelledBack.ends {timestamp : Option Int64} {back : List Char}
    (h : SpelledBack timestamp back) : Ends isValueChar back := by
  cases h with
  | none areBlanks => exact .of_inside areBlanks fun _ => isValueChar_of_isBlank
  | some isGap _ _ => exact isGap.ends (fun _ => isValueChar_of_isBlank) _

theorem SpelledBack.read {timestamp : Option Int64} {back : List Char}
    (h : SpelledBack timestamp back) :
    ∃ rest, timestampAfterBlanks back = .ok (timestamp, rest) ∧ skipBlanks rest = [] := by
  cases h with
  | none areBlanks =>
      refine ⟨back, timestampAfterBlanks_eq_none_iff.mpr ⟨fun start blank => ?_, rfl⟩,
        skipBlanks_eq_nil_iff.mpr areBlanks⟩
      obtain ⟨gap, -, rfl, ends⟩ := blanks?_eq_some_iff.mp blank
      have nothing : start = [] := by
        cases start with
        | nil => rfl
        | cons c start =>
            have noBlank := ends c rfl
            simp [areBlanks c (by simp)] at noBlank
      rw [nothing]
      rfl
  | @some time gap token blanks isGap isTime areBlanks =>
      obtain ⟨nonempty, inside, again⟩ := isLocal_time?.token (timestamp?_eq_some_iff.mp isTime)
      have start : Ends isBlank token := .of_inside inside fun _ => isBlank_of_isValueChar
      have stop : Ends isDigit blanks := .of_inside areBlanks fun c hc => by
        rcases isBlank_iff.mp hc with rfl | rfl <;> decide
      have blank := blanks?_eq_some_iff.mpr ⟨gap, isGap, rfl, start.append nonempty blanks⟩
      have found := timestamp?_eq_some_iff.mpr (again blanks stop)
      exact ⟨blanks, timestampAfterBlanks_eq_some_iff.mpr ⟨_, blank, found⟩,
        skipBlanks_eq_nil_iff.mpr areBlanks⟩

theorem spelledBack_of_read {timestamp : Option Int64} {cs rest : List Char}
    (isTime : timestampAfterBlanks cs = .ok (timestamp, rest)) :
    ∃ back, cs = back ++ skipBlanks rest ∧ SpelledBack timestamp back := by
  obtain ⟨blanks, areBlanks, split, -⟩ := skipBlanks_eq_iff.mp (rfl : skipBlanks rest = _)
  cases timestamp with
  | none =>
      obtain ⟨-, rfl⟩ := timestampAfterBlanks_eq_none_iff.mp isTime
      exact ⟨blanks, split, .none areBlanks⟩
  | some time =>
      obtain ⟨start, blank, found⟩ := timestampAfterBlanks_eq_some_iff.mp isTime
      obtain ⟨gap, isGap, rfl, -⟩ := blanks?_eq_some_iff.mp blank
      obtain ⟨token, rfl, whole⟩ := isLocal_time?.exists_token (timestamp?_eq_some_iff.mp found)
      refine ⟨gap ++ (token ++ blanks), ?_,
        .some isGap (timestamp?_eq_some_iff.mpr whole) areBlanks⟩
      rw [List.append_assoc, List.append_assoc, ← split]

section Split

variable {identity : Identity} {value : Binary64} {timestamp : Option Int64}
  {front token back : List Char}

/-- The reader gets to the value of a spelled line and over it, whatever is wrong behind it. -/
theorem SpelledFront.read_value (isFront : SpelledFront identity front)
    (isValue : value? token = some (value, [])) (stop : Ends isValueChar back) :
    ∃ afterName afterLabels,
      metricName? (skipBlanks (front ++ (token ++ back))) = some (identity.name, afterName) ∧
      labels afterName = .ok (identity.labels, afterLabels) ∧
      blanks? afterLabels = some ((), token ++ back) ∧
      value? (token ++ back) = some (value, back) := by
  obtain ⟨nonempty, inside, again⟩ := isLocal_value?.token isValue
  have start : Ends isBlank token := .of_inside inside fun _ => isBlank_of_isValueChar
  have noBrace : Ends (· == '\x7b') token := .of_inside inside fun c hc => by
    rw [← Bool.not_eq_true, beq_iff_eq]
    rintro rfl
    exact absurd hc (by decide)
  obtain ⟨afterName, afterLabels, isName, isLabels, blank⟩ :=
    isFront.read (start.append nonempty back) (noBrace.append nonempty back)
  exact ⟨afterName, afterLabels, isName, isLabels, blank, again back stop⟩

/-- The reader takes for samples the lines that are spelled as samples, and no others. -/
theorem read_eq_sample_iff_spelled {line : List Char} {s : Sample} :
    Line.read line = .ok (.sample s) ↔ SpelledSample s line := by
  rw [read_eq_sample_iff, sampleLine_eq_ok_iff]
  constructor
  · rintro ⟨afterName, afterLabels, start, afterValue, rest, isName, isLabels, blank, isValue,
      isTime, stop⟩
    obtain ⟨front, rfl, isFront⟩ := spelledFront_of_read isName isLabels blank
    obtain ⟨token, rfl, whole⟩ := isLocal_value?.exists_token isValue
    obtain ⟨back, split, isBack⟩ := spelledBack_of_read isTime
    rw [stop, List.append_nil] at split
    rw [split]
    exact .intro isFront whole isBack
  · rintro @⟨front, token, back, isFront, isValue, isBack⟩
    obtain ⟨afterName, afterLabels, isName, isLabels, blank, found⟩ :=
      isFront.read_value isValue isBack.ends
    obtain ⟨rest, isTime, stop⟩ := isBack.read
    exact ⟨afterName, afterLabels, _, back, rest, isName, isLabels, blank, found, isTime, stop⟩

/-- Where the value of a line stands is not open to interpretation. -/
theorem split_unique {identity' : Identity} {value' : Binary64} {timestamp' : Option Int64}
    {front' token' back' : List Char} (isFront : SpelledFront identity front)
    (isValue : value? token = some (value, [])) (isBack : SpelledBack timestamp back)
    (isFront' : SpelledFront identity' front') (isValue' : value? token' = some (value', []))
    (isBack' : SpelledBack timestamp' back')
    (same : front ++ (token ++ back) = front' ++ (token' ++ back')) :
    front = front' ∧ token = token' ∧ back = back' := by
  obtain ⟨afterName, afterLabels, isName, isLabels, blank, found⟩ :=
    isFront.read_value isValue isBack.ends
  obtain ⟨afterName', afterLabels', isName', isLabels', blank', found'⟩ :=
    isFront'.read_value isValue' isBack'.ends
  rw [same, isName'] at isName
  obtain ⟨-, rfl⟩ := Prod.mk.inj (Option.some.inj isName)
  rw [isLabels'] at isLabels
  obtain ⟨-, rfl⟩ := Prod.mk.inj (Except.ok.inj isLabels)
  rw [blank'] at blank
  obtain ⟨-, rest⟩ := Prod.mk.inj (Option.some.inj blank)
  rw [← rest, found'] at found
  obtain ⟨-, rfl⟩ := Prod.mk.inj (Option.some.inj found)
  rw [rest] at same
  exact ⟨List.append_cancel_right same, (List.append_cancel_right rest).symm, rfl⟩

end Split

/-- A sample line comes apart into what is in front of its value, the value and what is behind. -/
structure IsSplit (line front token back : List Char) : Prop where
  whole : line = front ++ (token ++ back)
  front : ∃ identity, SpelledFront identity front
  value : ∃ value, value? token = some (value, [])
  back : ∃ timestamp, SpelledBack timestamp back

theorem existsUnique_split {line : List Char} {s : Sample} (h : Line.read line = .ok (.sample s)) :
    ∃! split : List Char × List Char × List Char, IsSplit line split.1 split.2.1 split.2.2 := by
  obtain @⟨front, token, back, isFront, isValue, isBack⟩ := read_eq_sample_iff_spelled.mp h
  refine ⟨⟨front, token, back⟩, ⟨rfl, ⟨_, isFront⟩, ⟨_, isValue⟩, ⟨_, isBack⟩⟩, ?_⟩
  rintro ⟨front', token', back'⟩ ⟨same, ⟨_, isFront'⟩, ⟨_, isValue'⟩, ⟨_, isBack'⟩⟩
  obtain ⟨rfl, rfl, rfl⟩ := split_unique isFront isValue isBack isFront' isValue' isBack' same
  rfl

end Exposition
