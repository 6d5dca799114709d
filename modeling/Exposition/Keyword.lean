import Exposition.Failure

/-! # Keywords

The words that stand for a metric type or an output format, where a wrong one is a failure of its
own.
-/

namespace Exposition

def MetricType.ofKeyword (word : String) : Except Failure MetricType :=
  match MetricType.ofKeyword? word with
  | some type => .ok type
  | none => .error (.plain ("unknown metric type '" ++ word ++ "'"))

/-- Who or what a report is for. -/
inductive OutputFormat where
  | human
  | json
  deriving DecidableEq, Repr

/-- Reports are for people unless JSON is asked for. -/
instance : Inhabited OutputFormat := ⟨.human⟩

/-- The format that a keyword or its initial names. -/
def OutputFormat.ofKeyword? : String → Option OutputFormat
  | "human" | "h" => some human
  | "json" | "j" => some json
  | _ => none

def OutputFormat.ofKeyword (word : String) : Except Failure OutputFormat :=
  match OutputFormat.ofKeyword? word with
  | some format => .ok format
  | none =>
    .error (.plain ("unknown output format '" ++ word ++ "', expected one of: human, json"))

end Exposition
