import Exposition.CommandLine.Options
import Exposition.Directory
import Exposition.FamilyFilter
import Exposition.Report.Basic
import Exposition.Sink

/-! # Sessions

A session carries out commands, one after another, with the same options. What goes from one command
to the next is what is left of the standard input, of which the first command that reads it reads
all, and the output, if they share one.
-/

namespace Exposition

/-- Where a dump is read from. -/
inductive Source where
  | stdin
  | file (path : String)
  deriving DecidableEq, Repr

namespace Source

/-- A lone dash is the standard input, also with slashes after it that lead nowhere. -/
def isDash (path : String) : Bool :=
  match pathNames path with
  | "-" :: rest => rest.all fun name => name = "" || name = "."
  | _ => false

def ofPath (path : String) : Source := if isDash path then .stdin else .file path

/-- The dump of a source, and what is left of the standard input. A stream is used up even if it
    holds no dump. -/
def load (files : String → Except ReadFault ByteArray) (stdin : ByteArray) :
    Source → Except Failure Dump × ByteArray
  | .stdin => (Dump.ofStream .stdin stdin, .empty)
  | .file path => (Dump.ofFile path (files path), stdin)

end Source

/-- What a command does that can be logged. -/
inductive Event where
  | loaded (origin : Origin) (blocks names : Nat)
  | filtered (blocksLeft : Nat)
  | validated (origin : Origin) (result : Validation)
  | compared (before after : Origin) (result : Difference)
  deriving DecidableEq

namespace Event

def level : Event → LogLevel
  | loaded .. | filtered .. => .debug
  | validated .. | compared .. => .info

def describe : Event → String
  | loaded origin blocks names =>
    "loaded " ++ origin.display ++ ": " ++ toString blocks ++ " family blocks, " ++
      toString names ++ " distinct names"
  | filtered blocksLeft => toString blocksLeft ++ " family blocks left after excludes"
  | validated origin result =>
    origin.display ++ ": " ++ toString result.duplicateFamilies.size ++ " duplicate families, " ++
      toString result.duplicateSamples.size ++ " families with duplicate samples"
  | compared before after result =>
    before.display ++ " -> " ++ after.display ++ ": " ++ toString result.addedFamilies.size ++
      " new families, " ++ toString result.removedFamilies.size ++ " removed families, " ++
      toString result.metadataChanges.size ++ " changed families"

end Event

/-- What part of a command has come to: its result, the events on the way to it, and what it has
    left of the standard input. -/
structure Progress (α : Type) where
  result : Except Failure α
  events : List Event
  stdin : ByteArray

namespace Progress

/-- Goes on with the result, if there is one. -/
def andThen {α β : Type} (p : Progress α) (next : α → ByteArray → Progress β) : Progress β :=
  match p.result with
  | .error failure => ⟨.error failure, p.events, p.stdin⟩
  | .ok a =>
    let after := next a p.stdin
    ⟨after.result, p.events ++ after.events, after.stdin⟩

/-- The progress with one more event, if there is a result. -/
def note {α : Type} (p : Progress α) (event : α → List Event) : Progress α :=
  p.andThen fun a stdin => ⟨.ok a, event a, stdin⟩

def map {α β : Type} (p : Progress α) (f : α → β) : Progress β :=
  { p with result := p.result.map f }

end Progress

/-- What a successful command says about its dumps. -/
inductive Verdict where
  | clean
  | findings
  deriving DecidableEq, Repr

def Report.verdict (report : Report) : Verdict := if report.isClean then .clean else .findings

/-- The options of a session, made ready for use. -/
structure Session where
  style : ReportStyle
  filter : FamilyFilter
  level : LogLevel
  deriving DecidableEq, Repr

/-- What a command has come to, with the events that the session logs, what is left of the standard
    input and the output. -/
structure Outcome where
  result : Except Failure Verdict
  events : List Event
  stdin : ByteArray
  output : Sink

/-- The exit code of a program that stops after the command. -/
def Outcome.exitCode (outcome : Outcome) : Nat :=
  match outcome.result with
  | .ok .clean => 0
  | .ok .findings => 1
  | .error _ => 2

namespace Session

/-- JSON reports are spread out; those for people have details if any detail is asked for. -/
def styleOf (options : Options) : ReportStyle :=
  match options.format with
  | .human => .human options.isDetailed
  | .json => .json true

/-- The session of some options, if their exclude patterns are patterns. -/
def ofOptions (options : Options) : Except Failure Session := do
  let filter ← FamilyFilter.ofPatterns options.excludes
  return ⟨styleOf options, filter, options.logLevel⟩

variable (session : Session) (files : String → Except ReadFault ByteArray)

/-- The dump at a path, without the families that the session leaves out. -/
def load (path : String) (stdin : ByteArray) : Progress Dump :=
  let (result, stdin) := (Source.ofPath path).load files stdin
  let read : Progress Dump := ⟨result, [], stdin⟩
  let noted := read.note fun d => [.loaded d.origin d.size d.familyNames.size]
  (noted.map session.filter.apply).note fun d =>
    if session.filter.isEmpty then [] else [.filtered d.size]

/-- What a command finds. The second dump is read only if the first one could be. -/
def check (command : Command) (stdin : ByteArray) : Progress Report :=
  match command with
  | .validate path =>
    (session.load files path stdin).andThen fun dump stdin =>
      let result := Exposition.validate dump
      ⟨.ok (.validation result), [.validated dump.origin result], stdin⟩
  | .diff before after =>
    (session.load files before stdin).andThen fun before stdin =>
      (session.load files after stdin).andThen fun after stdin =>
        let result := Exposition.diff before after
        ⟨.ok (.difference result), [.compared before.origin after.origin result], stdin⟩

/-- Writes a report as one line end after its text, and flushes the output. -/
def emit (report : Report) (output : Sink) : Sink × Except Failure Unit :=
  match output.writeLine (report.render session.style).toUTF8.toList with
  | (output, .error fault) => (output, .error (.because "writer failed" (.system fault)))
  | (output, .ok ()) =>
    match output.flush with
    | .error fault => (output, .error (.ofSystem fault))
    | .ok () => (output, .ok ())

/-- Carries out a command. Nothing is written unless all its dumps could be loaded. -/
def run (command : Command) (stdin : ByteArray) (output : Sink) : Outcome :=
  let progress := session.check files command stdin
  let events := progress.events.filter fun event => session.level.shows event.level
  match progress.result with
  | .error failure => ⟨.error failure, events, progress.stdin, output⟩
  | .ok report =>
    let (output, written) := session.emit report output
    ⟨written.map fun () => report.verdict, events, progress.stdin, output⟩

/-- Carries out commands one after another, each with an output of its own. -/
def runAll (output : Sink) : List Command → ByteArray → List Outcome
  | [], _ => []
  | command :: rest, stdin =>
    let outcome := session.run files command stdin output
    outcome :: runAll output rest outcome.stdin

/-- Carries out commands one after another, all with one output. -/
def runInTurn : List Command → ByteArray → Sink → List Outcome
  | [], _, _ => []
  | command :: rest, stdin, output =>
    let outcome := session.run files command stdin output
    outcome :: runInTurn rest outcome.stdin outcome.output

end Session

end Exposition
