import Exposition.Difference
import Exposition.Json.Basic
import Exposition.Validation

/-! # JSON of the model

How series, samples, families, dumps and findings are written as JSON values. What a sample or a
family does not have is left out; only changed metadata name an absent help.
-/

namespace Exposition

open Json (string)

def MetricType.toJson (t : MetricType) : Json := string t.keyword

def Labels.toJson (labels : Labels) : Json :=
  .object (labels.entries.map fun (name, value) => (name, string value))

/-- The members that tell a series. -/
def Identity.members (id : Identity) : List (String × Json) :=
  [("name", string id.name), ("labels", id.labels.toJson)]

def Identity.toJson (id : Identity) : Json := .object id.members

def Sample.toJson (s : Sample) : Json :=
  .object (s.identity.members ++ [("value", .number s.value)] ++
    (s.timestamp.map fun time => ("timestamp", Json.integer time.toInt)).toList)

def Family.toJson (f : Family) : Json :=
  .object ([("name", string f.name), ("type", f.type.toJson)] ++
    (f.help.map fun text => ("help", string text)).toList ++
    [("samples", .array (f.samples.map Sample.toJson))])

def Origin.toJson : Origin → Json
  | file path => .object [("file", string path)]
  | stdin => string "stdin"
  | memory => string "memory"

def Dump.toJson (d : Dump) : Json :=
  .object [("origin", d.origin.toJson), ("families", .array (d.families.map Family.toJson))]

/-- A map with names for keys. -/
def SortedMap.toJson {ν : Type} (value : ν → Json) (m : SortedMap String ν) : Json :=
  .object (m.entries.map fun (name, v) => (name, value v))

/-- A set, as the list of its elements. -/
def SortedSet.toJson {α : Type} [Ord α] (element : α → Json) (s : SortedSet α) : Json :=
  .array (s.toList.map element)

def DuplicateSample.toJson (d : DuplicateSample) : Json :=
  .object [("identity", d.identity.toJson), ("count", .integer d.count)]

def Validation.toJson (v : Validation) : Json :=
  .object
    [("duplicate_families",
        v.duplicateFamilies.toJson fun blocks => .array (blocks.map Family.toJson)),
      ("duplicate_samples",
        v.duplicateSamples.toJson fun found => .array (found.map DuplicateSample.toJson))]

def Metadata.toJson (m : Metadata) : Json :=
  .object [("type", m.type.toJson), ("help", m.help.elim .null string)]

def MetadataChange.toJson (c : MetadataChange) : Json :=
  .object [("from", c.before.toJson), ("to", c.after.toJson)]

def Difference.toJson (d : Difference) : Json :=
  .object
    [("added_families", SortedSet.toJson string d.addedFamilies),
      ("removed_families", SortedSet.toJson string d.removedFamilies),
      ("added_samples_by_family", d.addedSamples.toJson (SortedSet.toJson Identity.toJson)),
      ("removed_samples_by_family", d.removedSamples.toJson (SortedSet.toJson Identity.toJson)),
      ("metadata_changes", d.metadataChanges.toJson MetadataChange.toJson)]

end Exposition
