import Exposition.Difference
import Exposition.Text.Literal
import Exposition.Validation

/-! # Reports for people

A report is a list of headings, each followed by its items, indented by a tab. A check that finds
nothing says so in one sentence.
-/

namespace Exposition

/-- An item of a report. -/
def item (text : String) : String := "\t" ++ text

/-- A heading and its items, or nothing if there are none. -/
def headed (heading : String) (items : List String) : List String :=
  if items.isEmpty then [] else heading :: items.map item

namespace Validation

/-- What a detailed report says about one of several blocks of a name. -/
def blockLine (f : Family) : String :=
  item (item (f.type.keyword ++ " with " ++ toString f.samples.length ++ " sample(s)"))

/-- The names that have several blocks; in detail, with those blocks. -/
def familyLines (v : Validation) (detailed : Bool) : List String :=
  if v.duplicateFamilies.isEmpty then []
  else
    "The following metric families are duplicated:" ::
      v.duplicateFamilies.entries.flatMap fun (name, blocks) =>
        item name :: if detailed then blocks.map blockLine else []

def sampleLines (name : String) (found : List DuplicateSample) : List String :=
  ("Metric family \"" ++ name ++ "\" contains duplicate samples:") ::
    found.map fun d =>
      item (d.identity.display ++ " (" ++ toString d.count ++ " occurrences)")

def report (v : Validation) (detailed : Bool) : List String :=
  if v.isClean then ["No problems found."]
  else
    v.familyLines detailed ++
      v.duplicateSamples.entries.flatMap fun (name, found) => sampleLines name found

end Validation

namespace Metadata

/-- The help as a literal; an absent help is told from every literal. -/
def helpText (m : Metadata) : String :=
  m.help.elim "(none)" fun text => String.ofList (literal text.toList)

end Metadata

namespace MetadataChange

def lines (c : MetadataChange) : List String :=
  (if c.before.type = c.after.type then []
    else [item ("type: " ++ c.before.type.keyword ++ " -> " ++ c.after.type.keyword)]) ++
  (if c.before.help = c.after.help then []
    else [item ("help: " ++ c.before.helpText ++ " -> " ++ c.after.helpText)])

end MetadataChange

namespace Difference

/-- A heading that ends in the name of a family, and its series. -/
def seriesLines (heading : String) (m : SortedMap String (SortedSet Identity)) : List String :=
  m.entries.flatMap fun (name, series) =>
    (heading ++ " for metric family \"" ++ name ++ "\":") ::
      series.toList.map fun id => item id.display

def changeLines (m : SortedMap String MetadataChange) : List String :=
  m.entries.flatMap fun (name, change) =>
    ("The metadata of metric family \"" ++ name ++ "\" changed:") :: change.lines

def report (d : Difference) : List String :=
  if d.isEmpty then ["No differences found."]
  else
    headed "The following metric families are new:" d.addedFamilies.toList ++
      headed "The following metric families no longer exist:" d.removedFamilies.toList ++
      seriesLines "The following samples are new" d.addedSamples ++
      seriesLines "The following samples no longer exist" d.removedSamples ++
      changeLines d.metadataChanges

end Difference

end Exposition
