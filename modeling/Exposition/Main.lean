import Exposition.CommandLine.Reader
import Exposition.Session

/-! # The program

Carries out one command line: reads the dumps that it names, runs the command and writes what came
of it. The report goes to the standard output, all else to the standard error.
-/

namespace Exposition

/-- What an error of the system means for a file that was to be read. The number that tells the
    directory that should not be one comes with either sign. -/
def faultOfError : IO.Error → ReadFault
  | .noFileOrDirectory .. => .missing
  | .inappropriateType _ code _ =>
    if code = 21 || code = 0 - 21 then .isDirectory else .notDirectory
  | error => .other (toString error)

def readFile (path : String) : IO (Except ReadFault ByteArray) := do
  if path.toList.contains '\x00' then return .error .nulInPath
  try return .ok (← IO.FS.readBinFile path)
  catch error => return .error (faultOfError error)

/-- The files at some paths, each of them read once. -/
def readFiles : List String → IO (String → Except ReadFault ByteArray)
  | [] => return fun _ => .error .missing
  | path :: rest => do
    let contents ← readFile path
    let others ← readFiles rest
    return fun wanted => if wanted = path then contents else others wanted

/-- The files of a command, and all of the standard input if the command is to read it. -/
def gather (command : Command) : IO ((String → Except ReadFault ByteArray) × ByteArray) := do
  let (dashes, paths) := command.paths.partition Source.isDash
  let files ← readFiles paths
  let stdin ← if dashes.isEmpty then pure .empty else (← IO.getStdin).readBinToEnd
  return (files, stdin)

/-- Writes what a command has come to, and gives the exit code. -/
def finish (outcome : Outcome) : IO UInt32 := do
  for event in outcome.events do
    IO.eprintln (event.level.label ++ " " ++ event.describe)
  let stdout ← IO.getStdout
  stdout.write ⟨outcome.output.written.toArray⟩
  stdout.flush
  if let .error failure := outcome.result then IO.eprintln failure.describe
  return outcome.exitCode.toUInt32

/-- Carries out the command of a line that is in order. -/
def carryOut (invocation : Invocation) : IO UInt32 := do
  match Session.ofOptions invocation.options with
  | .error failure =>
    IO.eprintln failure.describe
    return 2
  | .ok session =>
    let (files, stdin) ← gather invocation.command
    finish (session.run files invocation.command stdin .unbounded)

end Exposition

open Exposition in
def main (arguments : List String) : IO UInt32 := do
  match Invocation.ofArguments arguments with
  | .ok invocation => carryOut invocation
  | .error error =>
    if error.isInquiry then
      IO.println error.describe
      return 0
    else
      IO.eprintln error.describe
      return 1
