/-! # Words of a command line

What an argument is can be told from its first characters, whatever stands before it.
-/

namespace Exposition

/-- An argument by its form. -/
inductive Word where
  /-- The two dashes after which nothing is an option. -/
  | terminator
  /-- An option by its full name, maybe with a value after an equals sign. -/
  | long (name : List Char) (value : Option (List Char))
  /-- Options by their letters. -/
  | letters (cluster : List Char)
  /-- Anything else, a lone dash included. -/
  | operand
  deriving DecidableEq, Repr

namespace Word

/-- Drops equals signs at the front: a value does not begin with one. -/
def dropEquals (value : List Char) : List Char := value.dropWhile (· = '=')

/-- The name and the value of a full option, split at the first equals sign. -/
def ofLong (text : List Char) : Word :=
  let isName := fun c => c ≠ '='
  match text.dropWhile isName with
  | [] => .long text none
  | _ :: value => .long (text.takeWhile isName) (some (dropEquals value))

/-- Any number of dashes from two on introduces a full name. -/
def ofArgument (argument : String) : Word :=
  match argument.toList with
  | ['-', '-'] => .terminator
  | '-' :: '-' :: rest => ofLong (rest.dropWhile (· = '-'))
  | '-' :: c :: rest => .letters (c :: rest)
  | _ => .operand

end Word

/-- What options are for. -/
inductive Switch where
  | format
  | exclude
  | verbose
  | help
  | version
  deriving DecidableEq, Repr

namespace Switch

def ofName? (name : List Char) : Option Switch :=
  match String.ofList name with
  | "format" => some format
  | "exclude" => some exclude
  | "verbose" => some verbose
  | "help" => some help
  | "version" => some version
  | _ => none

def ofLetter? : Char → Option Switch
  | 'f' => some format
  | 'x' => some exclude
  | 'v' => some verbose
  | 'h' => some help
  | 'V' => some version
  | _ => none

end Switch

end Exposition
