import Exposition.Dump
import Exposition.Pattern.Basic

/-! # Filters

A filter drops whole families by name. Its patterns are put between the anchors of start and end.
-/

namespace Exposition

/-- A filter drops the families whose name any of its patterns matches. -/
structure FamilyFilter where
  excluded : List Pattern
  deriving DecidableEq, Repr

namespace FamilyFilter

/-- The filter that drops nothing. -/
def empty : FamilyFilter := ⟨[]⟩

/-- The pattern between anchors, in a group of its own. -/
def anchor (text : String) : String := "^(?:" ++ text ++ ")$"

/-- An exclude pattern, anchored, within a budget. -/
def compileWithin (fits : Pattern.Expr → Bool) (text : String) : Except Failure Pattern :=
  match Pattern.ofTextWithin fits (anchor text) with
  | .ok pattern => .ok pattern
  | .error e =>
    .error (.because ("bad exclude pattern '" ++ text ++ "'") (.pattern e.describe))

/-- The filter of some exclude patterns, if all of them are patterns within a budget. -/
def ofPatternsWithin (fits : Pattern.Expr → Bool) (texts : List String) :
    Except Failure FamilyFilter :=
  (texts.mapM (compileWithin fits)).map FamilyFilter.mk

/-- The filter of some exclude patterns, if all of them are patterns. -/
def ofPatterns : List String → Except Failure FamilyFilter := ofPatternsWithin Pattern.Expr.fits

def isEmpty (f : FamilyFilter) : Bool := f.excluded.isEmpty

/-- Is a family of this name dropped? -/
def excludes (f : FamilyFilter) (name : String) : Bool := f.excluded.any (·.isMatch name)

/-- The dump without the families that are dropped. A filter without patterns leaves it alone. -/
def apply (f : FamilyFilter) (d : Dump) : Dump :=
  if f.isEmpty then d
  else { d with families := d.families.filter fun family => !f.excludes family.name }

end FamilyFilter

end Exposition
