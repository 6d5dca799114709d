import Exposition.Family
import Exposition.Proofs.Line.Token

/-! # Well-formed families

What the text format can say is less than what the types allow: names are made of few characters,
a help text cannot start with a blank or end in white space, and a block holds only the samples
that its name and type accept.
-/

namespace Exposition

/-- A name that matches `[a-zA-Z_:][a-zA-Z0-9_:]*`. -/
def IsMetricName (name : String) : Prop := IsName (fun c => c.isAlpha || c == '_' || c == ':') name

/-- A name that matches `[a-zA-Z_][a-zA-Z0-9_]*`. -/
def IsLabelName (name : String) : Prop := IsName (fun c => c.isAlpha || c == '_') name

instance : DecidablePred IsMetricName := fun name =>
  inferInstanceAs (Decidable (IsName (fun c => c.isAlpha || c == '_' || c == ':') name))

instance : DecidablePred IsLabelName := fun name =>
  inferInstanceAs (Decidable (IsName (fun c => c.isAlpha || c == '_') name))

/-- A text that keeps its ends on a help line: blanks in front of it and white space after it would
    be cut, but a line feed is written as an escape. -/
structure IsHelpText (text : List Char) : Prop where
  start : ∀ c ∈ text.head?, c ≠ ' ' ∧ c ≠ '\t'
  stop : ∀ c ∈ text.getLast?, isSpace c = true → c = '\n'

/-- Label values are not restricted. -/
structure Sample.WellFormed (s : Sample) : Prop where
  name : IsMetricName s.name
  labelNames : ∀ pair ∈ s.labels.entries, IsLabelName pair.1

structure Family.WellFormed (f : Family) : Prop where
  name : IsMetricName f.name
  help : ∀ text ∈ f.help, IsHelpText text.toList
  samples : ∀ s ∈ f.samples, s.WellFormed
  accepts : ∀ s ∈ f.samples, f.accepts s.name = true

instance : DecidablePred IsHelpText := fun text =>
  decidable_of_iff ((text.head?.all fun c => c ≠ ' ' ∧ c ≠ '\t') = true ∧
      (text.getLast?.all fun c => isSpace c = true → c = '\n') = true) <| by
    simp only [Option.all_eq_true, decide_eq_true_eq]
    exact ⟨fun ⟨start, stop⟩ => ⟨start, stop⟩, fun h => ⟨h.start, h.stop⟩⟩

instance : DecidablePred Sample.WellFormed := fun _ =>
  decidable_of_iff _ ⟨fun ⟨name, labelNames⟩ => ⟨name, labelNames⟩,
    fun h => And.intro h.name h.labelNames⟩

instance : DecidablePred Family.WellFormed := fun _ =>
  decidable_of_iff _ ⟨fun ⟨name, help, samples, accepts⟩ => ⟨name, help, samples, accepts⟩,
    fun h => And.intro h.name (And.intro h.help (And.intro h.samples h.accepts))⟩

/-- What a well-formed line says. -/
def Line.WellFormed : Line → Prop
  | .blank | .comment => True
  | .help name text => IsMetricName name ∧ IsHelpText text.toList
  | .type name _ => IsMetricName name
  | .sample s => s.WellFormed

theorem isLabelStart_eq : isLabelStart = fun c => c.isAlpha || c == '_' := by
  funext c
  rw [isLabelStart, isAlpha_eq]

theorem isMetricStart_eq : isMetricStart = fun c => c.isAlpha || c == '_' || c == ':' := by
  funext c
  rw [isMetricStart, isLabelStart_eq]

theorem isMetricName_iff {name : String} : IsMetricName name ↔ IsName isMetricStart name := by
  rw [IsMetricName, isMetricStart_eq]

theorem isLabelName_iff {name : String} : IsLabelName name ↔ IsName isLabelStart name := by
  rw [IsLabelName, isLabelStart_eq]

theorem IsMetricName.ends_append {name : String} (h : IsMetricName name) (rest : List Char) :
    Ends isBlank (name.toList ++ rest) :=
  (isMetricName_iff.mp h).ends_append (fun _ start => isBlank_of_isMetricStart start) rest

theorem IsMetricName.feed_notMem {name : String} (h : IsMetricName name) : '\n' ∉ name.toList :=
  (isMetricName_iff.mp h).notMem (by decide)

theorem metricName?_append {name : String} {rest : List Char} (h : IsMetricName name)
    (ends : Ends isMetricChar rest) : metricName? (name.toList ++ rest) = some (name, rest) :=
  name?_append (isMetricName_iff.mp h) ends

end Exposition
