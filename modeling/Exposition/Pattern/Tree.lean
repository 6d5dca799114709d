import Exposition.Pattern.Fault

/-! # Pattern trees

A pattern as it is written: what stands where, before flags and properties are given their meaning.
-/

namespace Exposition.Pattern

/-- A mode that a pattern can turn on and off. -/
inductive Flag where
  | caseInsensitive
  | multiLine
  | dotMatchesNewLine
  | swapGreed
  | unicode
  | ignoreWhitespace
  deriving DecidableEq, Repr

/-- What a list of flags does: each flag in it is turned on or off. -/
abbrev FlagChanges := List (Flag × Bool)

/-- A character of a pattern. -/
structure Literal where
  char : Char
  /-- Is it written as two hexadecimal digits, which can also name a byte? -/
  twoDigits : Bool
  deriving DecidableEq, Repr

/-- The classes that a backslash and one letter name. -/
inductive LetterClass where
  | digit
  | space
  | word
  deriving DecidableEq, Repr

/-- The classes that a name between `[:` and `:]` stands for. They hold ASCII characters only. -/
inductive NamedClass where
  | alnum
  | alpha
  | ascii
  | blank
  | cntrl
  | digit
  | graph
  | lower
  | print
  | punct
  | space
  | upper
  | word
  | xdigit
  deriving DecidableEq, Repr

/-- How a class asks for a Unicode property. -/
inductive PropertyQuery where
  | named (name : String)
  | valued (name value : String)
  deriving DecidableEq, Repr

inductive Assertion where
  | startLine
  | endLine
  | startText
  | endText
  | wordBoundary
  | notWordBoundary
  deriving DecidableEq, Repr

/-- How often something stands in a row. -/
inductive Times where
  | atMostOnce
  | anyNumber
  | atLeastOnce
  /-- From `least` to `most` times, without limit if there is no `most`. -/
  | counted (least : Nat) (most : Option Nat)
  deriving DecidableEq, Repr

namespace Times

def least : Times → Nat
  | atMostOnce | anyNumber => 0
  | atLeastOnce => 1
  | counted least _ => least

def most : Times → Option Nat
  | atMostOnce => some 1
  | anyNumber | atLeastOnce => none
  | counted _ most => most

end Times

/-- How two classes are combined. -/
inductive ClassOperator where
  | intersection
  | difference
  | symmetricDifference
  deriving DecidableEq, Repr

/-- What stands in the brackets of a class. -/
inductive ClassTree where
  | empty (span : Span)
  | literal (span : Span) (literal : Literal)
  | range (span : Span) (low : Span × Literal) (high : Span × Literal)
  | named (span : Span) (negated : Bool) (name : NamedClass)
  | letter (span : Span) (negated : Bool) (letter : LetterClass)
  | property (span : Span) (negated : Bool) (query : PropertyQuery)
  | bracketed (span : Span) (negated : Bool) (content : ClassTree)
  | union (span : Span) (items : List ClassTree)
  | combined (span : Span) (operator : ClassOperator) (left right : ClassTree)

def ClassTree.span : ClassTree → Span
  | empty span | literal span _ | range span _ _ | named span _ _ | letter span _ _
  | property span _ _ | bracketed span _ _ | union span _ | combined span _ _ _ => span

inductive Tree where
  | empty (span : Span)
  | flags (span : Span) (changes : FlagChanges)
  | literal (span : Span) (literal : Literal)
  | dot (span : Span)
  | assertion (span : Span) (assertion : Assertion)
  | letter (span : Span) (negated : Bool) (letter : LetterClass)
  | property (span : Span) (negated : Bool) (query : PropertyQuery)
  | bracketed (span : Span) (negated : Bool) (content : ClassTree)
  | repetition (span : Span) (times : Times) (content : Tree)
  | group (span : Span) (captures : Bool) (changes : FlagChanges) (content : Tree)
  | sequence (span : Span) (items : List Tree)
  | alternatives (span : Span) (items : List Tree)

namespace Tree

def span : Tree → Span
  | empty span | flags span _ | literal span _ | dot span | assertion span _ | letter span _ _
  | property span _ _ | bracketed span _ _ | repetition span _ _ | group span _ _ _
  | sequence span _ | alternatives span _ => span

/-- Can the tree be repeated? Nothing at all and a change of flags cannot. -/
def isRepeatable : Tree → Bool
  | empty _ | flags _ _ => false
  | _ => true

/-- Trees one after the other; a single one stands for itself. -/
def ofSequence (span : Span) : List Tree → Tree
  | [] => .empty span
  | [tree] => tree
  | items => .sequence span items

/-- Trees of which any may match; a single one stands for itself. -/
def ofAlternatives (span : Span) : List Tree → Tree
  | [] => .empty span
  | [tree] => tree
  | items => .alternatives span items

end Tree

/-- The first fault where a tree nested deeper than the limit starts. -/
def tooDeep (depth : Nat) (span : Span) : Except Fault Unit :=
  if nestLimit ≤ depth then .error ⟨.nestLimitExceeded, span, none⟩ else .ok ()

mutual

/-- Checks the depth of a class that stands `depth` levels deep. -/
def ClassTree.checkDepth (depth : Nat) : ClassTree → Except Fault Unit
  | .bracketed span _ content => do
    tooDeep depth span
    content.checkDepth (depth + 1)
  | .union span items => do
    tooDeep depth span
    checkDepths (depth + 1) items
  | .combined span _ left right => do
    tooDeep depth span
    left.checkDepth (depth + 1)
    right.checkDepth (depth + 1)
  | _ => .ok ()

def ClassTree.checkDepths (depth : Nat) : List ClassTree → Except Fault Unit
  | [] => .ok ()
  | item :: rest => do
    item.checkDepth depth
    checkDepths depth rest

end

mutual

/-- Checks the depth of a tree that stands `depth` levels deep. -/
def Tree.checkDepth (depth : Nat) : Tree → Except Fault Unit
  | .bracketed span _ content => do
    tooDeep depth span
    content.checkDepth (depth + 1)
  | .repetition span _ content | .group span _ _ content => do
    tooDeep depth span
    content.checkDepth (depth + 1)
  | .sequence span items | .alternatives span items => do
    tooDeep depth span
    checkDepths (depth + 1) items
  | _ => .ok ()

def Tree.checkDepths (depth : Nat) : List Tree → Except Fault Unit
  | [] => .ok ()
  | item :: rest => do
    item.checkDepth depth
    checkDepths depth rest

end

end Exposition.Pattern
