import Exposition.Failure

/-! # Directories

The working directory, as far as reading dumps needs it: the files below it and what they hold.
Above it nothing is known but the directories that lead to it.
-/

namespace Exposition

/-- What a path leads to. -/
inductive Node where
  | file (bytes : ByteArray)
  | directory

/-- The working directory: what it holds, by the names on the way down. -/
structure Directory where
  entries : List (List String × Node)

/-- A place that a path has led to so far. -/
inductive Place where
  /-- Below the working directory, the innermost name first. -/
  | below (names : List String)
  /-- Above it. -/
  | above
  deriving DecidableEq, Repr

/-- The names of a path, and an empty one wherever slashes do not have a name between them. -/
def pathNames (path : String) : List String :=
  path.toList.splitOn '/' |>.map String.ofList

/-- The place that one name of a path leads on to. What lies above cannot be told apart from what
    is not there. -/
def Place.enter? : Place → String → Option Place
  | place, "" | place, "." => some place
  | below (_ :: names), ".." => some (below names)
  | below [], ".." | above, ".." => some above
  | below names, name => some (below (name :: names))
  | above, _ => none

/-- The most bytes that a name may have. -/
def maxNameSize : Nat := 255

/-- The most bytes that a path may have. -/
def maxPathSize : Nat := 4095

namespace Directory

/-- A name that others are reached through is that of a directory. -/
def node? (d : Directory) : Place → Option Node
  | .above | .below [] => some .directory
  | .below names =>
    match d.entries.find? (·.1 = names.reverse) with
    | some (_, node) => some node
    | none => if d.entries.any (names.reverse.isPrefixOf ·.1) then some .directory else none

/-- Follows the names of a path. Only directories lead on. -/
def follow (d : Directory) (place : Place) : List String → Except ReadFault Node
  | [] => (d.node? place).elim (.error .missing) .ok
  | name :: rest =>
    match d.node? place with
    | none => .error .missing
    | some (.file _) => .error .notDirectory
    | some .directory =>
      if maxNameSize < name.utf8ByteSize then .error .nameTooLong
      else
        match place.enter? name with
        | none => .error .missing
        | some place => d.follow place rest

/-- A path that starts with a slash starts above the working directory. -/
def start (path : String) : Place := if path.toList.head? = some '/' then .above else .below []

/-- The bytes of the file that a path leads to. -/
def read (d : Directory) (path : String) : Except ReadFault ByteArray :=
  if path.isEmpty then .error .missing
  else if path.toList.contains '\x00' then .error .nulInPath
  else if maxPathSize < path.utf8ByteSize then .error .nameTooLong
  else
    match d.follow (start path) (pathNames path) with
    | .error fault => .error fault
    | .ok .directory => .error .isDirectory
    | .ok (.file bytes) => .ok bytes

end Directory

end Exposition
