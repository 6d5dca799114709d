import Exposition.Dump

/-! # Validation

A dump should declare every family in one block and give every series one sample. The result of a
validation lists what does not.
-/

namespace Exposition

/-- A series with more than one sample. -/
structure DuplicateSample where
  identity : Identity
  count : Nat
  deriving DecidableEq

structure Validation where
  /-- The blocks of each name that has several. -/
  duplicateFamilies : SortedMap String (List Family)
  /-- By family name, the series with several samples, in ascending order. -/
  duplicateSamples : SortedMap String (List DuplicateSample)
  deriving DecidableEq

/-- How often each series occurs. -/
def occurrences (samples : List Sample) : SortedMap Identity Nat :=
  samples.foldl (fun counts s => counts.alter s.identity fun count => count.getD 0 + 1)
    SortedMap.empty

/-- The series that occur more than once. -/
def repeated (samples : List Sample) : List DuplicateSample :=
  (occurrences samples).entries.filterMap fun (identity, count) =>
    if 1 < count then some ⟨identity, count⟩ else none

def validate (d : Dump) : Validation where
  duplicateFamilies := d.familiesByName.filter fun _ group => 1 < group.length
  duplicateSamples :=
    (d.samplesByFamily.map fun _ samples => repeated samples).filter fun _ found => !found.isEmpty

namespace Validation

def isClean (v : Validation) : Bool := v.duplicateFamilies.isEmpty && v.duplicateSamples.isEmpty

/-- Equal findings, where the blocks that are listed agree. -/
def agrees (v w : Validation) : Bool :=
  v.duplicateFamilies.keys = w.duplicateFamilies.keys &&
    ((v.duplicateFamilies.entries.zip w.duplicateFamilies.entries).all fun ((_, fs), (_, gs)) =>
      fs.length = gs.length && (fs.zip gs).all fun (f, g) => f.agrees g) &&
    v.duplicateSamples = w.duplicateSamples

end Validation

end Exposition
