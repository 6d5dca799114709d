import Exposition.CommandLine.Options
import Exposition.CommandLine.Word
import Exposition.Text.Similarity

/-! # Reading a command line

Options come first, then a command, then its operands. The arguments are read once from left to
right, and the first one that has no meaning where it stands refuses the whole line. Only a line
that could be read to its end is judged for the values of its options.
-/

namespace Exposition

/-- Why a command line is not carried out. -/
inductive UsageError where
  | helpRequested
  | versionRequested
  | commandMissing
  /-- A word that is much like a command. -/
  | commandMistyped (word : String)
  /-- Help was asked for on something that is no command. -/
  | helpUnknown (topic : String)
  | unexpected (word : String)
  | operandMissing
  | valueMissing
  | formatUnknown (word : String)
  | formatRepeated
  deriving DecidableEq, Repr

/-- The options that take a value. -/
inductive Setting where
  | format
  | exclude
  deriving DecidableEq, Repr

/-- What one argument says with options: how often it asks for more detail, and the setting that it
    ends in, with the value if that stands in the argument, too. -/
structure OptionGroup where
  verbosity : Nat
  setting : Option (Setting × Option String)
  deriving DecidableEq, Repr

namespace OptionGroup

/-- The group of one option; a value is dropped that the option does not take. -/
def ofSwitch (value : Option String) : Switch → Except UsageError OptionGroup
  | .format => .ok ⟨0, some (.format, value)⟩
  | .exclude => .ok ⟨0, some (.exclude, value)⟩
  | .verbose => .ok ⟨1, none⟩
  | .help => .error .helpRequested
  | .version => .error .versionRequested

def ofLong (name : List Char) (value : Option (List Char)) : Except UsageError OptionGroup :=
  match Switch.ofName? name with
  | some switch => ofSwitch (value.map String.ofList) switch
  | none => .error (.unexpected ("--" ++ String.ofList name))

/-- What stands after a letter in its argument; nothing is no value. -/
def attached? : List Char → Option String
  | [] => none
  | rest => some (String.ofList (Word.dropEquals rest))

/-- A letter that takes a value takes all that follows it. -/
def ofLetters : List Char → Except UsageError OptionGroup
  | [] => .ok ⟨0, none⟩
  | c :: rest =>
    match Switch.ofLetter? c with
    | none => .error (.unexpected (String.ofList ['-', c]))
    | some switch =>
      match ofSwitch (attached? rest) switch with
      | .ok ⟨verbosity, none⟩ =>
        (ofLetters rest).map fun group => { group with verbosity := verbosity + group.verbosity }
      | result => result

end OptionGroup

/-- The options of a line, each use with its value, if it got one. -/
structure OptionUses where
  formats : List (Option String)
  excludes : List (Option String)
  verbosity : Nat
  deriving DecidableEq, Repr

namespace OptionUses

def empty : OptionUses := ⟨[], [], 0⟩

def use (u : OptionUses) (value : Option String) : Setting → OptionUses
  | .format => { u with formats := u.formats ++ [value] }
  | .exclude => { u with excludes := u.excludes ++ [value] }

/-- A setting that gets no value any more. -/
def abandon (u : OptionUses) (lacking : Option Setting) : OptionUses :=
  lacking.elim u (u.use none)

def raise (u : OptionUses) (verbosity : Nat) : OptionUses :=
  { u with verbosity := u.verbosity + verbosity }

/-- The format of a line that names at most one. -/
def format (u : OptionUses) : Except UsageError OutputFormat :=
  match u.formats.filterMap id |>.find? fun word => (OutputFormat.ofKeyword? word).isNone with
  | some word => .error (.formatUnknown word)
  | none =>
    match u.formats with
    | [] | [none] => .ok default
    | [some word] => .ok ((OutputFormat.ofKeyword? word).getD default)
    | _ => .error .formatRepeated

/-- The exclude patterns; a line that asks for some has to name one. -/
def patterns (u : OptionUses) : Except UsageError (List String) :=
  match u.excludes, u.excludes.filterMap id with
  | _ :: _, [] => .error .valueMissing
  | _, patterns => .ok patterns

def options (u : OptionUses) : Except UsageError Options := do
  let format ← u.format
  let excludes ← u.patterns
  return ⟨format, excludes, UInt8.ofNat u.verbosity⟩

end OptionUses

/-- The commands, apart from their operands. -/
inductive CommandName where
  | validate
  | diff
  deriving DecidableEq, Repr

namespace CommandName

def all : List CommandName := [validate, diff]

def keyword : CommandName → String
  | validate => "validate"
  | diff => "diff"

def ofKeyword? (word : String) : Option CommandName := all.find? (·.keyword == word)

end CommandName

/-- The word that asks for help where a command may stand. -/
def helpWord : String := "help"

/-- The words that may stand for a command. -/
def commandWords : List String := CommandName.all.map CommandName.keyword ++ [helpWord]

/-- A word that is no command. -/
def strayWord (word : String) : UsageError :=
  if commandWords.any fun known => areAlike word.toList known.toList then .commandMistyped word
  else .unexpected word

/-- No word is a command any more after the terminator. -/
def afterTerminator : List String → UsageError
  | [] => .commandMissing
  | word :: _ => strayWord word

/-- Help is given on the line as a whole or on one command. -/
def helpOn : List String → UsageError
  | [] => .helpRequested
  | [topic] => if commandWords.contains topic then .helpRequested else .helpUnknown topic
  | topic :: next :: _ => .helpUnknown (if commandWords.contains topic then next else topic)

/-- An option after a command: only help and the version can be asked for there. -/
def lateOption (word : String) : Option Switch → UsageError
  | some .help => .helpRequested
  | some .version => .versionRequested
  | _ => .unexpected word

/-- The operands of a command that has room for so many. -/
def readOperands : Nat → List String → Except UsageError (List String)
  | _, [] => .ok []
  | room, argument :: rest =>
    match Word.ofArgument argument with
    | .terminator =>
      match rest.drop room with
      | [] => .ok rest
      | extra :: _ => .error (.unexpected extra)
    | .long name _ => .error (lateOption argument (Switch.ofName? name))
    | .letters cluster => .error (lateOption argument (cluster.head?.bind Switch.ofLetter?))
    | .operand =>
      match room with
      | 0 => .error (.unexpected argument)
      | room + 1 => (readOperands room rest).map (argument :: ·)

def readCommand (arguments : List String) : CommandName → Except UsageError Command
  | .validate => do
    match ← readOperands 1 arguments with
    | [dump] => return .validate dump
    | _ => throw .operandMissing
  | .diff => do
    match ← readOperands 2 arguments with
    | [before, after] => return .diff before after
    | _ => throw .operandMissing

/-- The options before the command, and the command. A setting that still lacks its value takes the
    next argument, if that is no option. -/
def readArguments (uses : OptionUses) (lacking : Option Setting) :
    List String → Except UsageError (OptionUses × Command)
  | [] => .error .commandMissing
  | argument :: rest =>
    let goOn (group : OptionGroup) : Except UsageError (OptionUses × Command) :=
      let uses := (uses.abandon lacking).raise group.verbosity
      match group.setting with
      | none => readArguments uses none rest
      | some (setting, some value) => readArguments (uses.use (some value) setting) none rest
      | some (setting, none) => readArguments uses (some setting) rest
    match Word.ofArgument argument, lacking with
    | .terminator, _ => .error (afterTerminator rest)
    | .long name value, _ => OptionGroup.ofLong name value >>= goOn
    | .letters cluster, _ => OptionGroup.ofLetters cluster >>= goOn
    | .operand, some setting => readArguments (uses.use (some argument) setting) none rest
    | .operand, none =>
      match CommandName.ofKeyword? argument with
      | some name => (readCommand rest name).map (uses, ·)
      | none => .error (if argument = helpWord then helpOn rest else strayWord argument)

/-- What the arguments after the program's name ask for. -/
def Invocation.ofArguments (arguments : List String) : Except UsageError Invocation := do
  let (uses, command) ← readArguments .empty none arguments
  let options ← uses.options
  return ⟨options, command⟩

namespace UsageError

/-- The usage in short. -/
def synopsis : String :=
  "usage: [-v] [-f human|json] [-x PATTERN]... (validate DUMP | diff FROM TO)"

def describe : UsageError → String
  | helpRequested => synopsis
  | versionRequested => "0.1.0"
  | commandMissing => "a command is missing\n" ++ synopsis
  | commandMistyped word => "no such command: " ++ word
  | helpUnknown topic => "no help on: " ++ topic
  | unexpected word => "unexpected argument: " ++ word
  | operandMissing => "an operand is missing\n" ++ synopsis
  | valueMissing => "a pattern to exclude is missing"
  | formatUnknown word => "no such output format: " ++ word
  | formatRepeated => "the output format is given more than once"

/-- Is the line in order, and only asks about the program? -/
def isInquiry : UsageError → Bool
  | helpRequested | versionRequested => true
  | _ => false

end UsageError

end Exposition
