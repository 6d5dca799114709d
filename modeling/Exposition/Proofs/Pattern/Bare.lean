import Exposition.Pattern.Meaning
import Mathlib

/-! # Trees without their spans

Spans say where the parts of a pattern stand and are only used to report faults. Trees that are
alike but for their spans have the same meaning and are equally deep.
-/

namespace Exposition.Pattern

@[simp] theorem toOption_ok {ε α : Type} (a : α) : (.ok a : Except ε α).toOption = some a := rfl

@[simp] theorem toOption_fail {α : Type} (kind : Fault.Kind) (span : Span) :
    (Cursor.fail kind span : Except Fault α).toOption = none := rfl

@[simp] theorem toOption_bind {ε α β : Type} (step : Except ε α) (next : α → Except ε β) :
    (step >>= next).toOption = step.toOption.bind fun a => (next a).toOption := by
  cases step <;> rfl

@[simp] theorem toOption_ite {ε α : Type} (p : Prop) [Decidable p] (yes no : Except ε α) :
    (if p then yes else no).toOption = if p then yes.toOption else no.toOption := by
  split <;> rfl

theorem toOption_eq_some_iff {ε α : Type} {result : Except ε α} {a : α} :
    result.toOption = some a ↔ result = .ok a := by
  cases result <;> simp [Except.toOption]

/-- The span that all parts get. -/
def nowhere : Span := ⟨0, 0⟩

mutual

/-- The class without its spans. -/
def ClassTree.bare : ClassTree → ClassTree
  | .empty _ => .empty nowhere
  | .literal _ l => .literal nowhere l
  | .range _ (_, low) (_, high) => .range nowhere (nowhere, low) (nowhere, high)
  | .named _ negated name => .named nowhere negated name
  | .letter _ negated name => .letter nowhere negated name
  | .property _ negated query => .property nowhere negated query
  | .bracketed _ negated content => .bracketed nowhere negated content.bare
  | .union _ items => .union nowhere (bares items)
  | .combined _ operator left right => .combined nowhere operator left.bare right.bare

def ClassTree.bares : List ClassTree → List ClassTree
  | [] => []
  | item :: rest => item.bare :: bares rest

end

@[simp] theorem ClassTree.bares_eq_map (items : List ClassTree) : bares items = items.map bare := by
  induction items with
  | nil => rfl
  | cons item rest ih => rw [bares, ih, List.map_cons]

section Meaning

variable (m : Modes)

theorem toOption_close (span span' : Span) (negated : Bool) (s : CharSet) :
    (m.close span negated s).toOption = (m.close span' negated s).toOption := by
  simp only [Modes.close, toOption_ite, toOption_fail, toOption_ok]

theorem toOption_propertySet (span span' : Span) (negated : Bool) (query : PropertyQuery) :
    (propertySet m span negated query).toOption = (propertySet m span' negated query).toOption := by
  unfold propertySet
  split
  · rfl
  · simp only
    split <;> rfl

theorem toOption_classCode (span span' : Span) (l : Literal) :
    (classCode m span l).toOption = (classCode m span' l).toOption := by
  simp only [classCode, toOption_ite, toOption_fail, toOption_ok]

mutual

theorem ClassTree.toOption_addTo_bare (before : CharSet) (t : ClassTree) :
    (t.bare.addTo m before).toOption = (t.addTo m before).toOption := by
  cases t with
  | empty | letter => rfl
  | literal span l =>
      simp only [bare, addTo, toOption_bind, toOption_classCode m nowhere span]
  | range span low high =>
      obtain ⟨low, l⟩ := low
      obtain ⟨high, l'⟩ := high
      simp only [bare, addTo, toOption_bind, toOption_classCode m nowhere low l,
        toOption_classCode m nowhere high l']
  | named span negated name => exact toOption_close m nowhere span negated _
  | property span negated query =>
      simp only [bare, addTo, toOption_bind, toOption_propertySet m nowhere span]
  | bracketed span negated content =>
      simp only [bare, addTo, toOption_bind, toOption_addTo_bare .empty content,
        toOption_close m nowhere span]
  | union span items =>
      simp only [bare, addTo]
      exact toOption_addAll_bares before items
  | combined span operator left right =>
      simp only [bare, addTo, toOption_bind, toOption_addTo_bare .empty left,
        toOption_addTo_bare .empty right]
termination_by structural t

theorem ClassTree.toOption_addAll_bares (before : CharSet) (items : List ClassTree) :
    (addAll m before (bares items)).toOption = (addAll m before items).toOption := by
  cases items with
  | nil => rfl
  | cons item rest =>
      simp only [bares, addAll, toOption_bind, toOption_addTo_bare before item]
      exact congrArg _ (funext fun after => toOption_addAll_bares after rest)
termination_by structural items

end

mutual

/-- The tree without its spans. -/
def Tree.bare : Tree → Tree
  | .empty _ => .empty nowhere
  | .flags _ changes => .flags nowhere changes
  | .literal _ l => .literal nowhere l
  | .dot _ => .dot nowhere
  | .assertion _ a => .assertion nowhere a
  | .letter _ negated name => .letter nowhere negated name
  | .property _ negated query => .property nowhere negated query
  | .bracketed _ negated content => .bracketed nowhere negated content.bare
  | .repetition _ times content => .repetition nowhere times content.bare
  | .group _ captures changes content => .group nowhere captures changes content.bare
  | .sequence _ items => .sequence nowhere (bares items)
  | .alternatives _ items => .alternatives nowhere (bares items)

def Tree.bares : List Tree → List Tree
  | [] => []
  | tree :: rest => tree.bare :: bares rest

end

@[simp] theorem Tree.bares_eq_map (items : List Tree) : bares items = items.map bare := by
  induction items with
  | nil => rfl
  | cons item rest ih => rw [bares, ih, List.map_cons]

theorem toOption_literalExpr (span span' : Span) (l : Literal) :
    (literalExpr m span l).toOption = (literalExpr m span' l).toOption := by
  simp only [literalExpr, toOption_bind, toOption_classCode m span span']

theorem toOption_dotExpr (span span' : Span) :
    (dotExpr m span).toOption = (dotExpr m span').toOption := by
  simp only [dotExpr, toOption_ite, toOption_fail, toOption_ok]

theorem toOption_assertionExpr (span span' : Span) (a : Assertion) :
    (assertionExpr m span a).toOption = (assertionExpr m span' a).toOption := by
  cases a with
  | notWordBoundary => simp only [assertionExpr, toOption_ite, toOption_fail, toOption_ok]
  | _ => rfl

mutual

theorem Tree.toOption_toExpr_bare (m : Modes) (t : Tree) :
    (t.bare.toExpr m).toOption = (t.toExpr m).toOption := by
  cases t with
  | empty | flags | letter => rfl
  | literal span l =>
      simp only [bare, toExpr, toOption_bind, toOption_literalExpr m nowhere span]
  | dot span => simp only [bare, toExpr, toOption_bind, toOption_dotExpr m nowhere span]
  | assertion span a =>
      simp only [bare, toExpr, toOption_bind, toOption_assertionExpr m nowhere span]
  | property span negated query =>
      simp only [bare, toExpr, toOption_bind, toOption_propertySet m nowhere span]
  | bracketed span negated content =>
      simp only [bare, toExpr, toOption_bind, content.toOption_addTo_bare m,
        toOption_close m nowhere span, toOption_ite, toOption_fail]
  | repetition span times content =>
      simp only [bare, toExpr, toOption_bind, toOption_toExpr_bare m content]
  | group span captures changes content =>
      simp only [bare, toExpr, toOption_bind, toOption_toExpr_bare (m.apply changes) content]
  | sequence span items | alternatives span items =>
      simp only [bare, toExpr, toOption_bind, toOption_toExprs_bares m items]
termination_by structural t

theorem Tree.toOption_toExprs_bares (m : Modes) (items : List Tree) :
    (toExprs m (bares items)).toOption = (toExprs m items).toOption := by
  cases items with
  | nil => rfl
  | cons item rest =>
      simp only [bares, toExprs, toOption_bind, toOption_toExpr_bare m item]
      exact congrArg _ (funext fun first => by rw [toOption_toExprs_bares first.2 rest])
termination_by structural items

end

end Meaning

theorem Tree.toExpr_of_bare {t t' : Tree} (same : t.bare = t'.bare) {m : Modes}
    {result : Expr × Modes} (h : t.toExpr m = .ok result) : t'.toExpr m = .ok result := by
  rw [← toOption_eq_some_iff, ← toOption_toExpr_bare] at h ⊢
  rwa [← same]

theorem toOption_tooDeep (depth : Nat) (span span' : Span) :
    (tooDeep depth span).toOption = (tooDeep depth span').toOption := by
  unfold tooDeep
  split <;> rfl

mutual

theorem ClassTree.toOption_checkDepth_bare (depth : Nat) (t : ClassTree) :
    (t.bare.checkDepth depth).toOption = (t.checkDepth depth).toOption := by
  cases t with
  | empty | literal | range | named | letter | property => rfl
  | bracketed span negated content =>
      simp only [bare, checkDepth, toOption_bind, toOption_tooDeep depth nowhere span,
        toOption_checkDepth_bare (depth + 1) content]
  | union span items =>
      simp only [bare, checkDepth, toOption_bind, toOption_tooDeep depth nowhere span,
        toOption_checkDepths_bares (depth + 1) items]
  | combined span operator left right =>
      simp only [bare, checkDepth, toOption_bind, toOption_tooDeep depth nowhere span,
        toOption_checkDepth_bare (depth + 1) left, toOption_checkDepth_bare (depth + 1) right]
termination_by structural t

theorem ClassTree.toOption_checkDepths_bares (depth : Nat) (items : List ClassTree) :
    (checkDepths depth (bares items)).toOption = (checkDepths depth items).toOption := by
  cases items with
  | nil => rfl
  | cons item rest =>
      simp only [bares, checkDepths, toOption_bind, toOption_checkDepth_bare depth item,
        toOption_checkDepths_bares depth rest]
termination_by structural items

end

mutual

theorem Tree.toOption_checkDepth_bare (depth : Nat) (t : Tree) :
    (t.bare.checkDepth depth).toOption = (t.checkDepth depth).toOption := by
  cases t with
  | empty | flags | literal | dot | assertion | letter | property => rfl
  | bracketed span negated content =>
      simp only [bare, checkDepth, toOption_bind, toOption_tooDeep depth nowhere span,
        content.toOption_checkDepth_bare]
  | repetition span times content | group span captures changes content =>
      simp only [bare, checkDepth, toOption_bind, toOption_tooDeep depth nowhere span,
        toOption_checkDepth_bare (depth + 1) content]
  | sequence span items | alternatives span items =>
      simp only [bare, checkDepth, toOption_bind, toOption_tooDeep depth nowhere span,
        toOption_checkDepths_bares (depth + 1) items]
termination_by structural t

theorem Tree.toOption_checkDepths_bares (depth : Nat) (items : List Tree) :
    (checkDepths depth (bares items)).toOption = (checkDepths depth items).toOption := by
  cases items with
  | nil => rfl
  | cons item rest =>
      simp only [bares, checkDepths, toOption_bind, toOption_checkDepth_bare depth item,
        toOption_checkDepths_bares depth rest]
termination_by structural items

end

theorem Tree.checkDepth_of_bare {t t' : Tree} (same : t.bare = t'.bare) {depth : Nat}
    (h : t.checkDepth depth = .ok ()) : t'.checkDepth depth = .ok () := by
  rw [← toOption_eq_some_iff, ← toOption_checkDepth_bare] at h ⊢
  rwa [← same]

end Exposition.Pattern
