import Exposition.ParseError

/-! # Failures

A failure is a chain of messages, the outermost first, down to what went wrong in the first place.
-/

namespace Exposition

/-- Why the bytes of a source cannot be had, or are no text. -/
inductive ReadFault where
  | missing
  | notDirectory
  | isDirectory
  | nameTooLong
  /-- A path with a character that no path can hold. -/
  | nulInPath
  | notUtf8
  /-- Any other fault, in the words of the system. -/
  | other (text : String)
  deriving DecidableEq, Repr

def ReadFault.describe : ReadFault → String
  | missing => "No such file or directory (os error 2)"
  | notDirectory => "Not a directory (os error 20)"
  | isDirectory => "Is a directory (os error 21)"
  | nameTooLong => "File name too long (os error 36)"
  | nulInPath => "file name contained an unexpected NUL byte"
  | notUtf8 => "stream did not contain valid UTF-8"
  | other text => text

/-- What went wrong, and in the course of what. -/
inductive Failure where
  /-- A message of this library. -/
  | plain (message : String)
  /-- What the system reports, in its words. -/
  | system (text : String)
  /-- A rejected line of a text. -/
  | rejected (error : ParseError)
  /-- A pattern that is none, with the report of its fault. -/
  | pattern (report : String)
  /-- A failure that another one led to. -/
  | because (message : String) (cause : Failure)
  deriving DecidableEq, Repr

namespace Failure

/-- Reading or writing failed for the system's reason. -/
def ofSystem (text : String) : Failure := .because "I/O failed" (.system text)

/-- The whole chain, a colon between any two links. -/
def describe : Failure → String
  | plain message => message
  | system text => text
  | rejected error => error.describe
  | pattern report => report
  | because message cause => message ++ ": " ++ cause.describe

/-- The outermost link alone. -/
def message : Failure → String
  | because message _ => message
  | failure => failure.describe

def cause? : Failure → Option Failure
  | because _ cause => some cause
  | _ => none

/-- Is this the rejection of a line itself? -/
def isRejection : Failure → Bool
  | rejected _ => true
  | _ => false

/-- The chain as the report of something that should not happen. -/
def report (failure : Failure) : String := "Unexpected error: " ++ failure.describe

/-- The failure that led to several others, each message wrapping the failure before it. -/
def wrap (messages : List String) (cause : Failure) : Failure :=
  messages.foldr because cause

end Failure

end Exposition
