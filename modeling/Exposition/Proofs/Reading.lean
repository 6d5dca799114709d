import Exposition.Dump
import Exposition.Proofs.Document
import Exposition.Proofs.Line.Basic

/-! # Reading is all or nothing

Bytes are no text, or a text with a line that is rejected, or a text whose lines are all accepted.
Which of these they are is decided by the lines, each on its own, before any of them is grouped.
Every way to read a dump has the same outcome in each case, and an error says nothing about the
text but where its first rejected line is and what is wrong inside that line.
-/

namespace Exposition

theorem fromUTF8?_eq_some_iff {bytes : ByteArray} {text : String} :
    String.fromUTF8? bytes = some text ↔ text.toUTF8 = bytes := by
  unfold String.fromUTF8?
  constructor
  · intro h
    split at h
    · cases h
      rfl
    · cases h
  · rintro rfl
    exact dif_pos text.isValidUTF8

theorem fromUTF8?_eq_none_iff {bytes : ByteArray} :
    String.fromUTF8? bytes = none ↔ ∀ text : String, text.toUTF8 ≠ bytes := by
  rw [Option.eq_none_iff_forall_ne_some]
  exact forall_congr' fun _ => not_congr fromUTF8?_eq_some_iff

/-- The line can be read on its own. -/
def IsAccepted (line : List Char) : Prop := ∃ read, Line.read line = .ok read

/-- The error of the first line that cannot be read: its number, what the line reader expected and
    where in the line, and the line as it stands. -/
def IsFirstRejection (number : Nat) (ls : List (List Char)) (e : ParseError) : Prop :=
  ∃ before line after r, ls = before ++ line :: after ∧ (∀ l ∈ before, IsAccepted l) ∧
    Line.read line = .error r ∧
    e = ⟨number + before.length, r.column line, String.ofList line, r.expected⟩

theorem readLines_of_isFirstRejection {number : Nat} {ls : List (List Char)} {e : ParseError}
    (first : IsFirstRejection number ls e) : readLines number ls = .error e := by
  obtain ⟨before, line, after, r, rfl, accepted, rejected, rfl⟩ := first
  induction before generalizing number with
  | nil => simp [readLines, rejected, ParseError.ofRejection]
  | cons l before ih =>
      obtain ⟨⟨read, here⟩, later⟩ := List.forall_mem_cons.mp accepted
      simp [readLines, here, ih later, Except.map, Nat.add_assoc, Nat.add_comm 1]

/-- Lines that are not all read have a first one that is rejected. -/
theorem isFirstRejection_of_readLines {number : Nat} {ls : List (List Char)} {e : ParseError}
    (h : readLines number ls = .error e) : IsFirstRejection number ls e := by
  induction ls generalizing number e with
  | nil => cases h
  | cons line rest ih =>
      rw [readLines] at h
      cases here : Line.read line with
      | error r =>
          simp only [here, Except.error.injEq] at h
          subst h
          exact ⟨[], line, rest, r, rfl, by simp, here, rfl⟩
      | ok read =>
          simp only [here, map_eq_error_iff] at h
          obtain ⟨before, rejected, after, r, rfl, accepted, failed, rfl⟩ := ih h
          refine ⟨line :: before, rejected, after, r, rfl, ?_, failed, ?_⟩
          · exact List.forall_mem_cons.mpr ⟨⟨read, here⟩, accepted⟩
          · simp [Nat.add_assoc, Nat.add_comm 1]

/-- A text is refused for its first rejected line. Grouping has no part in it. -/
theorem Dump.ofText_eq_error_iff {text : String} {e : ParseError} :
    Dump.ofText text = .error e ↔ IsFirstRejection 1 (lines text.toList) e := by
  rw [Dump.ofText, map_eq_error_iff, familiesOfText, map_eq_error_iff]
  exact ⟨isFirstRejection_of_readLines, readLines_of_isFirstRejection⟩

theorem Dump.ofText_eq_ok_iff {text : String} {d : Dump} :
    Dump.ofText text = .ok d ↔
      ∃ read, LinesOf text read ∧ d = ⟨.memory, familiesOfLines read⟩ := by
  simp only [Dump.ofText, map_eq_ok_iff, familiesOfText_eq_ok_iff]
  constructor
  · rintro ⟨_, ⟨read, isRead, rfl⟩, rfl⟩
    exact ⟨read, isRead, rfl⟩
  · rintro ⟨read, isRead, rfl⟩
    exact ⟨_, ⟨read, isRead, rfl⟩, rfl⟩

/-- A text is accepted as a whole if each of its lines is. -/
theorem Dump.exists_ofText_iff {text : String} :
    (∃ d, Dump.ofText text = .ok d) ↔ ∀ line ∈ lines text.toList, IsAccepted line := by
  simp only [Dump.ofText_eq_ok_iff]
  constructor
  · rintro ⟨_, read, isRead, -⟩ line hl
    obtain ⟨r, -, here⟩ := exists_mem_right isRead hl
    exact ⟨r, here⟩
  · intro accepted
    obtain ⟨read, isRead⟩ := exists_forall₂ accepted
    exact ⟨_, read, isRead, rfl⟩

/-- What bytes turn out to be. -/
inductive Reading where
  | noText
  | rejected (text : String) (error : ParseError)
  | accepted (text : String)

/-- What the bytes are, told from the lines of their text alone. -/
inductive Reading.Of (bytes : ByteArray) : Reading → Prop where
  | noText : (∀ text : String, text.toUTF8 ≠ bytes) → Of bytes .noText
  | rejected {text error} :
      text.toUTF8 = bytes → IsFirstRejection 1 (lines text.toList) error →
      Of bytes (.rejected text error)
  | accepted {text} :
      text.toUTF8 = bytes → (∀ line ∈ lines text.toList, IsAccepted line) →
      Of bytes (.accepted text)

/-- The result is a failure that another one led to. -/
def FailedBecause (result : Except Failure Dump) (cause : Failure) : Prop :=
  ∃ failure, result = .error failure ∧ failure.cause? = some cause

/-- What comes of reading a dump from some origin. -/
def Reading.Outcome (origin : Origin) (result : Except Failure Dump) : Reading → Prop
  | noText => ∃ cause, FailedBecause result cause ∧ cause.isRejection = false
  | rejected text error => Dump.ofText text = .error error ∧ FailedBecause result (.rejected error)
  | accepted text =>
    ∃ families, Dump.ofText text = .ok ⟨.memory, families⟩ ∧ result = .ok ⟨origin, families⟩

namespace Reading

variable {bytes : ByteArray}

/-- Whatever the bytes are said to be, reading them comes out that way. -/
theorem Of.outcome {reading : Reading} (h : reading.Of bytes) (place : String) (origin : Origin) :
    reading.Outcome origin (Dump.decode place origin bytes) := by
  cases h with
  | noText none =>
      rw [Dump.decode, fromUTF8?_eq_none_iff.mpr none]
      exact ⟨_, ⟨_, rfl, rfl⟩, rfl⟩
  | rejected encoded first =>
      have refused := Dump.ofText_eq_error_iff.mpr first
      rw [Dump.ofText, map_eq_error_iff] at refused
      rw [Dump.decode, fromUTF8?_eq_some_iff.mpr encoded]
      simp only [refused]
      exact ⟨by rw [Dump.ofText, map_eq_error_iff, refused], _, rfl, rfl⟩
  | accepted encoded all =>
      obtain ⟨d, read⟩ := Dump.exists_ofText_iff.mpr all
      obtain ⟨families, grouped, rfl⟩ := map_eq_ok_iff.mp read
      rw [Dump.decode, fromUTF8?_eq_some_iff.mpr encoded]
      simp only [grouped]
      exact ⟨families, read, rfl⟩

/-- What a text turns out to be when it is read. -/
def ofText (text : String) : Reading :=
  match Dump.ofText text with
  | .error e => .rejected text e
  | .ok _ => .accepted text

/-- Bytes are those of one text at most, and that is either refused, with one error, or not. -/
theorem of_iff_ofText {text : String} (encoded : text.toUTF8 = bytes) {reading : Reading} :
    reading.Of bytes ↔ reading = ofText text := by
  have sameText : ∀ {text' : String}, text'.toUTF8 = bytes → text' = text := fun encoded' =>
    String.toByteArray_inj.mp (encoded'.trans encoded.symm)
  constructor
  · intro h
    cases h with
    | noText none => exact absurd encoded (none text)
    | rejected encoded' first =>
        cases sameText encoded'
        simp [ofText, Dump.ofText_eq_error_iff.mpr first]
    | accepted encoded' all =>
        cases sameText encoded'
        obtain ⟨d, read⟩ := Dump.exists_ofText_iff.mpr all
        simp [ofText, read]
  · rintro rfl
    rw [ofText]
    cases read : Dump.ofText text with
    | error e => exact .rejected encoded (Dump.ofText_eq_error_iff.mp read)
    | ok d => exact .accepted encoded (Dump.exists_ofText_iff.mp ⟨d, read⟩)

theorem of_iff_noText (none : ∀ text : String, text.toUTF8 ≠ bytes) {reading : Reading} :
    reading.Of bytes ↔ reading = noText := by
  constructor
  · intro h
    cases h with
    | noText _ => rfl
    | rejected encoded _ | accepted encoded _ => exact absurd encoded (none _)
  · rintro rfl
    exact .noText none

/-- The three cases exclude each other and leave no bytes out. -/
theorem exists_forall_of_iff (bytes : ByteArray) :
    ∃ reading : Reading, ∀ other : Reading, other.Of bytes ↔ other = reading := by
  by_cases isText : ∃ text : String, text.toUTF8 = bytes
  · obtain ⟨text, encoded⟩ := isText
    exact ⟨ofText text, fun _ => of_iff_ofText encoded⟩
  · exact ⟨noText, fun _ => of_iff_noText (not_exists.mp isText)⟩

end Reading

theorem IsFirstRejection.local {number number' : Nat} {ls ls' : List (List Char)}
    {e e' : ParseError} (h : IsFirstRejection number ls e) (h' : IsFirstRejection number' ls' e')
    (same : e.text = e'.text) : e.column = e'.column ∧ e.expected = e'.expected := by
  obtain ⟨_, line, _, r, -, -, rejected, rfl⟩ := h
  obtain ⟨_, line', _, r', -, -, rejected', rfl⟩ := h'
  have sameLine : line = line' := String.ofList_injective same
  subst sameLine
  rw [rejected] at rejected'
  cases rejected'
  exact ⟨rfl, rfl⟩

/-- Reading bytes has exactly one of three outcomes, the same from a stream and from a file: they
    are no text, or the text is refused for its first rejected line, or there is a dump of all of
    it. Where a line is rejected and what was expected there depends on that line alone. -/
theorem reading_all_or_nothing :
    (∀ bytes, ∃ reading : Reading, (∀ other : Reading, other.Of bytes ↔ other = reading) ∧
      (∀ origin, reading.Outcome origin (Dump.ofStream origin bytes)) ∧
      ∀ path, reading.Outcome (.file path) (Dump.ofFile path (.ok bytes))) ∧
    ∀ ls ls' e e', IsFirstRejection 1 ls e → IsFirstRejection 1 ls' e' → e.text = e'.text →
      e.column = e'.column ∧ e.expected = e'.expected := by
  refine ⟨fun bytes => ?_, fun _ _ _ _ => IsFirstRejection.local⟩
  obtain ⟨reading, only⟩ := Reading.exists_forall_of_iff bytes
  have isReading : reading.Of bytes := (only reading).mpr rfl
  refine ⟨reading, only, fun origin => ?_, fun path => ?_⟩
  · exact isReading.outcome origin.display origin
  · exact isReading.outcome ("'" ++ path ++ "'") (.file path)

end Exposition
