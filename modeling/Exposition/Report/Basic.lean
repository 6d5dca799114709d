import Exposition.Json.Basic
import Exposition.Json.Model
import Exposition.Report.Human

/-! # Reports

What a check finds is written in one of several styles. A report has no line end after its last
line.
-/

namespace Exposition

/-- What a check found. -/
inductive Report where
  | validation (result : Validation)
  | difference (result : Difference)

inductive ReportStyle where
  /-- For people; with more detail, if wanted. -/
  | human (detailed : Bool)
  /-- As JSON, on one line or spread out. -/
  | json (pretty : Bool)
  deriving DecidableEq, Repr

namespace Report

/-- Did the check find nothing to report? -/
def isClean : Report → Bool
  | validation result => result.isClean
  | difference result => result.isEmpty

def lines (detailed : Bool) : Report → List String
  | validation result => result.report detailed
  | difference result => result.report

def toJson : Report → Json
  | validation result => result.toJson
  | difference result => result.toJson

def render (report : Report) : ReportStyle → String
  | .human detailed => "\n".intercalate (report.lines detailed)
  | .json true => String.ofList report.toJson.pretty
  | .json false => String.ofList report.toJson.compact

end Report

end Exposition
