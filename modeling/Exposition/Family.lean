import Exposition.MetricType
import Exposition.Sample

/-! # Metric families

A family is one block of exposition text: its name, what its preamble says about it, and its
samples in source order.
-/

namespace Exposition

structure Family where
  name : String
  type : MetricType
  help : Option String
  samples : List Sample
  deriving DecidableEq

namespace Family

/-- Does the block take samples of this name? -/
def accepts (f : Family) (sample : String) : Bool := f.type.accepts f.name sample

/-- Equal preambles, and samples that agree one by one. -/
def agrees (f g : Family) : Bool :=
  f.name = g.name && f.type = g.type && f.help = g.help &&
    f.samples.length = g.samples.length &&
    (f.samples.zip g.samples).all fun (s, t) => s.agrees t

end Family

end Exposition
