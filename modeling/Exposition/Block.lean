import Exposition.Family
import Exposition.Line.Basic

/-! # Blocks

The lines of a text are grouped into blocks, one for each family in the result. A block is opened
by a help line, a type line or a sample, and takes the lines after it as long as they fit. The
first line that does not fit closes it and opens the next one.
-/

namespace Exposition

/-- A block that may still take lines: what its lines have said, the last sample first. -/
structure Block where
  name : String
  type : Option MetricType
  help : Option String
  samplesReversed : List Sample
  deriving DecidableEq

namespace Block

/-- The block that a line opens. Blank lines and comments open none. -/
def opening? : Line → Option Block
  | .blank | .comment => none
  | .help name text => some ⟨name, none, some text, []⟩
  | .type name type => some ⟨name, some type, none, []⟩
  | .sample s => some ⟨s.name, none, none, [s]⟩

/-- The block with one more line, if it fits: one help and one type line of the block's name before
    any sample, and the samples that a family of its name and type accepts. -/
def take? (b : Block) : Line → Option Block
  | .blank | .comment => some b
  | .help name text =>
    if name = b.name && b.help.isNone && b.samplesReversed.isEmpty then
      some { b with help := some text }
    else none
  | .type name type =>
    if name = b.name && b.type.isNone && b.samplesReversed.isEmpty then
      some { b with type := some type }
    else none
  | .sample s =>
    if (b.type.getD default).accepts b.name s.name then
      some { b with samplesReversed := s :: b.samplesReversed }
    else none

/-- The family of a block that takes no more lines. -/
def close (b : Block) : Family :=
  ⟨b.name, b.type.getD default, b.help, b.samplesReversed.reverse⟩

end Block

/-- The families of some lines that come after those of a block still open, if there is one. -/
def familiesAfter : Option Block → List Line → List Family
  | none, [] => []
  | some b, [] => [b.close]
  | none, line :: rest => familiesAfter (Block.opening? line) rest
  | some b, line :: rest =>
    match b.take? line with
    | some b => familiesAfter (some b) rest
    | none => b.close :: familiesAfter (Block.opening? line) rest

/-- The families of some lines, in source order. -/
def familiesOfLines (lines : List Line) : List Family := familiesAfter none lines

end Exposition
