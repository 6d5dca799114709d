import Exposition.Labels
import Exposition.Number.Binary64

/-! # Samples

A sample is a value, and maybe a time, of one series. The series is its identity: a name and a
label set. Reports compare identities only.
-/

namespace Exposition

/-- What tells one series from another. -/
structure Identity where
  name : String
  labels : Labels
  deriving DecidableEq

namespace Identity

/-- By name, then by labels. -/
instance : Ord Identity where
  compare a b := (compare a.name b.name).then (compare a.labels b.labels)

instance : Std.TransOrd Identity where
  eq_swap :=
    (inferInstance : Std.TransCmp (compareLex (compareOn name) (compareOn labels))).eq_swap
  isLE_trans :=
    (inferInstance : Std.TransCmp (compareLex (compareOn name) (compareOn labels))).isLE_trans

instance : Std.LawfulEqOrd Identity where
  compare_self {a} := by
    show (compare a.name a.name).then (compare a.labels a.labels) = .eq
    simp
  eq_of_compare {a b} h := by
    have h : (compare a.name b.name).then (compare a.labels b.labels) = .eq := h
    rw [Ordering.then_eq_eq] at h
    cases a; cases b
    simp only [Identity.mk.injEq]
    exact ⟨Std.LawfulEqCmp.eq_of_compare h.1, Std.LawfulEqCmp.eq_of_compare h.2⟩

/-- The identity as a sample line writes it; an empty label set is written, too. -/
def display (id : Identity) : String := id.name ++ id.labels.display

end Identity

/-- One observation of a series. -/
structure Sample where
  identity : Identity
  value : Binary64
  timestamp : Option Int64
  deriving DecidableEq

namespace Sample

def name (s : Sample) : String := s.identity.name

def labels (s : Sample) : Labels := s.identity.labels

/-- Same series, same time and equal values, as numbers: a sample with a NaN agrees with none. -/
def agrees (s t : Sample) : Bool :=
  s.identity = t.identity && s.value.equals t.value && s.timestamp = t.timestamp

end Sample

end Exposition
