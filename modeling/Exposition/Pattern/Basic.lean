import Exposition.Pattern.Matching
import Exposition.Pattern.Meaning
import Exposition.Pattern.Size

/-! # Patterns

A pattern is a text with a meaning for which there is enough space. How much that is, the budget, is
left open where it does not matter.
-/

namespace Exposition

/-- A text and the expression that it stands for. -/
structure Pattern where
  text : String
  expr : Pattern.Expr
  deriving DecidableEq, Repr

namespace Pattern

inductive Error where
  | faulty (text : String) (fault : Fault)
  | tooLarge
  deriving DecidableEq, Repr

def Error.describe : Error → String
  | faulty text fault => fault.report text.toList
  | tooLarge => "Compiled regex exceeds size limit of " ++ toString sizeLimit ++ " bytes."

/-- The expression of a text, if it has one. -/
def exprOfText (text : List Char) : Except Fault Expr := do
  let tree ← Tree.ofText text
  return (← tree.toExpr .initial).1

/-- Reads a pattern within a budget, which says if there is space for an expression. -/
def ofTextWithin (fits : Expr → Bool) (text : String) : Except Error Pattern :=
  match exprOfText text.toList with
  | .error fault => .error (.faulty text fault)
  | .ok expr => if fits expr then .ok ⟨text, expr⟩ else .error .tooLarge

/-- Reads a pattern. -/
def ofText : String → Except Error Pattern := ofTextWithin Expr.fits

/-- Does the pattern match some part of the text? -/
def isMatch (p : Pattern) (text : String) : Bool := p.expr.isMatch text

/-- Does the pattern match the text from its start to its end? -/
def matchesWhole (p : Pattern) (text : String) : Bool := p.expr.matchesWhole text

end Pattern

end Exposition
