/-! # Output

Reports go to a sink that takes bytes until it is full. What was taken before a write failed stays
written.
-/

namespace Exposition

/-- An output: what it has taken, how much more it can take, and whether it can be flushed. -/
structure Sink where
  written : List UInt8
  /-- The number of bytes that there is room for; without one there is always room. -/
  room : Option Nat
  /-- Why flushing fails, if it does. -/
  flushFault : Option String
  deriving DecidableEq, Repr

namespace Sink

/-- An output that takes everything. -/
def unbounded : Sink := ⟨[], none, none⟩

def fullFault : String := "sink is full"

/-- Writes all bytes, or as many as there is room for and fails. -/
def write (s : Sink) (bytes : List UInt8) : Sink × Except String Unit :=
  match s.room with
  | none => ({ s with written := s.written ++ bytes }, .ok ())
  | some room =>
    let taken := bytes.take room
    ({ s with written := s.written ++ taken, room := some (room - taken.length) },
      if bytes.length ≤ room then .ok () else .error fullFault)

/-- The byte that ends a line. -/
def lineEnd : UInt8 := 10

/-- Writes the bytes and a line end. -/
def writeLine (s : Sink) (bytes : List UInt8) : Sink × Except String Unit :=
  match s.write bytes with
  | (s, .ok ()) => s.write [lineEnd]
  | failed => failed

/-- Writes lines until one fails. -/
def writeLines (s : Sink) : List (List UInt8) → Sink × Except String Unit
  | [] => (s, .ok ())
  | line :: rest =>
    match s.writeLine line with
    | (s, .ok ()) => s.writeLines rest
    | failed => failed

/-- What was written, as text. If the sink became full inside of a character, a replacement
    character stands for what there is of it. -/
def text (s : Sink) : String :=
  let upTo (cut : Nat) : Option String :=
    String.fromUTF8? ⟨(s.written.take (s.written.length - cut)).toArray⟩
  match upTo 0 with
  | some whole => whole
  | none => (([1, 2, 3].findSome? upTo).getD "") ++ "\ufffd"

def flush (s : Sink) : Except String Unit :=
  match s.flushFault with
  | none => .ok ()
  | some fault => .error fault

end Sink

end Exposition
