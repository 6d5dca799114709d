import Exposition.SortedMap
import Exposition.Text.Escape

/-! # Label sets

A label set gives each label name one value. Names are in ascending order, so two spellings of a
set are the same value and are displayed alike.
-/

namespace Exposition

/-- The labels of a sample, by name. -/
abbrev Labels := SortedMap String String

namespace Labels

/-- The label set of pairs with distinct names; there is none if a name is repeated. -/
def ofDistinct? (pairs : List (String × String)) : Option Labels :=
  pairs.foldlM (fun (labels : Labels) (name, value) =>
    if labels.contains name then none else some (labels.insert name value)) SortedMap.empty

/-- A label as it is written inside the braces. -/
def displayPair (pair : String × String) : String :=
  pair.1 ++ "=\"" ++ String.ofList (escape pair.2.toList) ++ "\""

/-- The set as it is written, braces included. -/
def display (labels : Labels) : String :=
  "\x7b" ++ ",".intercalate (labels.entries.map displayPair) ++ "\x7d"

end Labels

end Exposition
