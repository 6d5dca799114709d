import Exposition.Block
import Exposition.Failure
import Exposition.Line.Reader
import Exposition.Text.Spacing

/-! # Dumps

A dump is one snapshot of exposition text: its families exactly as they stand in it, families that
share a name included. A text is read line by line, and then its lines are grouped; every line is
judged without the others, and one bad line refuses the whole text. To the checks blocks of one name
are one family: merging keeps what they hold in source order.
-/

namespace Exposition

/-- Where a dump was read from: a label that reports and errors show. -/
inductive Origin where
  | file (path : String)
  | stdin
  | memory
  deriving DecidableEq, Repr

def Origin.display : Origin → String
  | file path => path
  | stdin => "<stdin>"
  | memory => "<memory>"

/-- Reads lines of which the first is the `number`th of its text. -/
def readLines (number : Nat) : List (List Char) → Except ParseError (List Line)
  | [] => .ok []
  | line :: rest =>
    match Line.read line with
    | .error r => .error (.ofRejection number line r)
    | .ok read => (readLines (number + 1) rest).map (read :: ·)

/-- The families of a text, in source order. -/
def familiesOfText (text : String) : Except ParseError (List Family) :=
  (readLines 1 (lines text.toList)).map familiesOfLines

structure Dump where
  origin : Origin
  families : List Family
  deriving DecidableEq

namespace Dump

/-- The dump of a text that is at hand. -/
def ofText (text : String) : Except ParseError Dump :=
  (familiesOfText text).map fun families => ⟨.memory, families⟩

/-- The text of a dump could not be had from some place. -/
def unreadable (place : String) (fault : ReadFault) : Failure :=
  .because ("couldn't read " ++ place) (.system fault.describe)

def malformed (origin : Origin) (error : ParseError) : Failure :=
  .because ("error while parsing '" ++ origin.display ++ "'") (.rejected error)

/-- The dump of bytes that came from `place`. They have to be UTF-8. -/
def decode (place : String) (origin : Origin) (bytes : ByteArray) : Except Failure Dump :=
  match String.fromUTF8? bytes with
  | none => .error (unreadable place .notUtf8)
  | some text =>
    match familiesOfText text with
    | .error e => .error (malformed origin e)
    | .ok families => .ok ⟨origin, families⟩

/-- The dump of all bytes of a stream. -/
def ofStream (origin : Origin) (bytes : ByteArray) : Except Failure Dump :=
  decode origin.display origin bytes

/-- The dump of a file, given its bytes or why they cannot be had. -/
def ofFile (path : String) (contents : Except ReadFault ByteArray) : Except Failure Dump :=
  let place := "'" ++ path ++ "'"
  match contents with
  | .error fault => .error (unreadable place fault)
  | .ok bytes => decode place (.file path) bytes

/-- The distinct names of the families, in ascending order. -/
def familyNames (d : Dump) : SortedSet String := SortedSet.ofList (d.families.map (·.name))

/-- The number of blocks, blocks of one name counted separately. -/
def size (d : Dump) : Nat := d.families.length

def isEmpty (d : Dump) : Bool := d.families.isEmpty

/-- Same origin, and families that agree one by one. -/
def agrees (d e : Dump) : Bool :=
  d.origin = e.origin && d.families.length = e.families.length &&
    (d.families.zip e.families).all fun (f, g) => f.agrees g

/-- The blocks of each name, in source order. -/
def familiesByName (d : Dump) : SortedMap String (List Family) :=
  d.families.foldl (fun groups f => groups.alter f.name fun group => group.getD [] ++ [f])
    SortedMap.empty

/-- The samples of all blocks of each name, in source order. -/
def samplesByFamily (d : Dump) : SortedMap String (List Sample) :=
  d.familiesByName.map fun _ group => group.flatMap (·.samples)

/-- The distinct series of each name. -/
def identitiesByFamily (d : Dump) : SortedMap String (SortedSet Identity) :=
  d.samplesByFamily.map fun _ samples => .ofList (samples.map (·.identity))

end Dump

end Exposition
