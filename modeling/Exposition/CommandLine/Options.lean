import Exposition.Keyword

/-! # Commands and options

What a user asks for: a check of one dump or of two, and how to report it.
-/

namespace Exposition

/-- How much is logged, and how weighty a logged event is. -/
inductive LogLevel where
  | warn
  | info
  | debug
  | trace
  deriving DecidableEq, Repr

namespace LogLevel

def ofVerbosity : Nat → LogLevel
  | 0 => warn
  | 1 => info
  | 2 => debug
  | _ => trace

def label : LogLevel → String
  | warn => "WARN"
  | info => "INFO"
  | debug => "DEBUG"
  | trace => "TRACE"

/-- The place of a level in the order from weighty to chatty. -/
def rank : LogLevel → Nat
  | warn => 0
  | info => 1
  | debug => 2
  | trace => 3

/-- Does a log of this level show events of that one? -/
def shows (level event : LogLevel) : Bool := event.rank ≤ level.rank

end LogLevel

structure Options where
  format : OutputFormat
  /-- Patterns of the families to leave out. -/
  excludes : List String
  /-- How often more detail was asked for, as far as a byte counts. -/
  verbosity : UInt8
  deriving DecidableEq, Repr

namespace Options

def isDetailed (o : Options) : Bool := o.verbosity ≠ 0

def logLevel (o : Options) : LogLevel := .ofVerbosity o.verbosity.toNat

end Options

/-- A check and the paths of the dumps it is for. -/
inductive Command where
  | validate (dump : String)
  | diff (before after : String)
  deriving DecidableEq, Repr

def Command.paths : Command → List String
  | validate dump => [dump]
  | diff before after => [before, after]

/-- A whole command line. -/
structure Invocation where
  options : Options
  command : Command
  deriving DecidableEq, Repr

end Exposition
