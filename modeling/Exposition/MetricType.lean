/-! # Metric types

The type of a metric family decides which sample names its block takes besides the family's own.
-/

namespace Exposition

inductive MetricType where
  | counter
  | gauge
  | histogram
  | summary
  | untyped
  deriving DecidableEq, Repr

namespace MetricType

/-- A family without a type line is untyped. -/
instance : Inhabited MetricType := ⟨untyped⟩

def all : List MetricType := [counter, gauge, histogram, summary, untyped]

def keyword : MetricType → String
  | counter => "counter"
  | gauge => "gauge"
  | histogram => "histogram"
  | summary => "summary"
  | untyped => "untyped"

/-- The type that a keyword names; keywords are in lower case. -/
def ofKeyword? (word : String) : Option MetricType := all.find? (·.keyword == word)

/-- What may follow the family name in the name of one of its samples. -/
def sampleSuffixes : MetricType → List String
  | histogram => ["_bucket", "_sum", "_count"]
  | summary => ["_sum", "_count"]
  | _ => []

@[simp] theorem ofKeyword?_keyword (t : MetricType) : ofKeyword? t.keyword = some t := by
  cases t <;> decide

theorem keyword_of_ofKeyword? {word : String} {t : MetricType} (h : ofKeyword? word = some t) :
    t.keyword = word := by
  simpa using List.find?_some h

/-- Does a block of family `name` and type `t` take samples named `sample`? -/
def accepts (t : MetricType) (name sample : String) : Bool :=
  sample == name || t.sampleSuffixes.any fun suffix => sample == name ++ suffix

end MetricType

end Exposition
