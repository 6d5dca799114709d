import Exposition.Dump

/-! # Differences

Two dumps are compared by family name and by series, not by value. Blocks of one name are merged on
both sides first; what a family says about itself is what its first block says.
-/

namespace Exposition

/-- What a family says about itself. -/
structure Metadata where
  type : MetricType
  help : Option String
  deriving DecidableEq, Repr

def Family.metadata (f : Family) : Metadata := ⟨f.type, f.help⟩

structure MetadataChange where
  before : Metadata
  after : Metadata
  deriving DecidableEq, Repr

/-- What one dump has against another, the baseline. -/
structure Difference where
  addedFamilies : SortedSet String
  removedFamilies : SortedSet String
  /-- For families of both dumps: the series that only the new dump has. -/
  addedSamples : SortedMap String (SortedSet Identity)
  /-- For families of both dumps: the series that only the baseline has. -/
  removedSamples : SortedMap String (SortedSet Identity)
  /-- For families of both dumps that now say something else about themselves. -/
  metadataChanges : SortedMap String MetadataChange
  deriving DecidableEq

/-- The names that only the first of two maps has. -/
def onlyNames {α β : Type} (m : SortedMap String α) (n : SortedMap String β) : SortedSet String :=
  (m.filter fun name _ => !n.contains name).map fun _ _ => ()

/-- For the names of both maps, the series that only the first one has, if there are any. -/
def onlySeries (m n : SortedMap String (SortedSet Identity)) :
    SortedMap String (SortedSet Identity) :=
  m.filterMap fun name series =>
    (n.find? name).bind fun others =>
      let only := series.difference others
      if only.isEmpty then none else some only

/-- For the names of both dumps, how the metadata of the first blocks differ, if they do. -/
def changes (before after : SortedMap String (List Family)) : SortedMap String MetadataChange :=
  before.filterMap fun name blocks => do
    let old := (← blocks.head?).metadata
    let new := (← (← after.find? name).head?).metadata
    if old = new then none else some ⟨old, new⟩

/-- What `after` has against the baseline `before`. -/
def diff (before after : Dump) : Difference where
  addedFamilies := onlyNames after.identitiesByFamily before.identitiesByFamily
  removedFamilies := onlyNames before.identitiesByFamily after.identitiesByFamily
  addedSamples := onlySeries after.identitiesByFamily before.identitiesByFamily
  removedSamples := onlySeries before.identitiesByFamily after.identitiesByFamily
  metadataChanges := changes before.familiesByName after.familiesByName

def Difference.isEmpty (d : Difference) : Bool :=
  d.addedFamilies.isEmpty && d.removedFamilies.isEmpty && d.addedSamples.isEmpty &&
    d.removedSamples.isEmpty && d.metadataChanges.isEmpty

end Exposition
