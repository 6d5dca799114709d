import Exposition.Pattern.Tree
import Exposition.Unicode.CharSet

/-! # Expressions

What a pattern means, flags and properties resolved: characters, places, and how they are
combined. Groups stay, since those that capture take up room.
-/

namespace Exposition.Pattern

/-- A property of a place in a text. Words are made of the characters of a set. -/
inductive Look where
  | startText
  | endText
  | startLine
  | endLine
  | wordBoundary (word : CharSet)
  | notWordBoundary (word : CharSet)
  deriving Repr, DecidableEq

inductive Expr where
  | empty
  | char (set : CharSet)
  /-- One byte of the text's UTF-8, which need not be a whole character. -/
  | byte (set : CharSet)
  | look (look : Look)
  | group (captures : Bool) (content : Expr)
  | both (left right : Expr)
  | either (left right : Expr)
  | repeated (times : Times) (content : Expr)
  deriving Repr, DecidableEq

namespace Expr

def isEmpty : Expr → Bool
  | empty => true
  | _ => false

/-- Expressions one after the other. -/
def all : List Expr → Expr
  | [] => empty
  | [e] => e
  | e :: rest => both e (all rest)

/-- Expressions of which any may match. -/
def any : List Expr → Expr
  | [] => empty
  | [e] => e
  | e :: rest => either e (any rest)

end Expr

end Exposition.Pattern
