import Exposition.Pattern.Basic
import Exposition.Proofs.Pattern.Reader

/-! # Patterns between anchors

A pattern between anchors is read as its tree in a group if it is a pattern on its own. Two faults
are told apart from this: a comment that the pattern leaves open takes in what closes the group, and
a parenthesis that the pattern does not open closes it early.
-/

namespace Exposition.Pattern

open Cursor (beyond behind)

/-- A pattern between anchors, in a group of its own. -/
def anchored (cs : List Char) : List Char := '^' :: '(' :: '?' :: ':' :: (cs ++ behind)

/-- A tree between anchors. -/
def Tree.anchored (t : Tree) : Tree :=
  .sequence nowhere
    [.assertion nowhere .startLine, .group nowhere false [] t, .assertion nowhere .endLine]

theorem tooDeep_of_succ {depth : Nat} {span : Span} (h : tooDeep (depth + 1) span = .ok ()) :
    tooDeep depth span = .ok () := by
  unfold tooDeep at h ⊢
  split at h
  · cases h
  · rw [if_neg (by omega)]

mutual

theorem ClassTree.checkDepth_of_succ (depth : Nat) (t : ClassTree)
    (h : t.checkDepth (depth + 1) = .ok ()) : t.checkDepth depth = .ok () := by
  cases t with
  | empty | literal | range | named | letter | property => rfl
  | bracketed span negated content =>
      rw [checkDepth] at h ⊢
      obtain ⟨_, here, inside⟩ := bind_eq_ok_iff.mp h
      exact bind_eq_ok_iff.mpr ⟨_, tooDeep_of_succ here, checkDepth_of_succ _ content inside⟩
  | union span items =>
      rw [checkDepth] at h ⊢
      obtain ⟨_, here, inside⟩ := bind_eq_ok_iff.mp h
      exact bind_eq_ok_iff.mpr ⟨_, tooDeep_of_succ here, checkDepths_of_succ _ items inside⟩
  | combined span operator left right =>
      rw [checkDepth] at h ⊢
      obtain ⟨_, here, inside⟩ := bind_eq_ok_iff.mp h
      obtain ⟨_, inLeft, inRight⟩ := bind_eq_ok_iff.mp inside
      exact bind_eq_ok_iff.mpr ⟨_, tooDeep_of_succ here, bind_eq_ok_iff.mpr
        ⟨_, checkDepth_of_succ _ left inLeft, checkDepth_of_succ _ right inRight⟩⟩
termination_by structural t

theorem ClassTree.checkDepths_of_succ (depth : Nat) (items : List ClassTree)
    (h : checkDepths (depth + 1) items = .ok ()) : checkDepths depth items = .ok () := by
  cases items with
  | nil => rfl
  | cons item rest =>
      rw [checkDepths] at h ⊢
      obtain ⟨_, first, others⟩ := bind_eq_ok_iff.mp h
      exact bind_eq_ok_iff.mpr
        ⟨_, checkDepth_of_succ depth item first, checkDepths_of_succ depth rest others⟩
termination_by structural items

end

mutual

/-- A tree that is not nested too deep at some depth is not so further up. -/
theorem Tree.checkDepth_of_succ (depth : Nat) (t : Tree)
    (h : t.checkDepth (depth + 1) = .ok ()) : t.checkDepth depth = .ok () := by
  cases t with
  | empty | flags | literal | dot | assertion | letter | property => rfl
  | bracketed span negated content =>
      rw [checkDepth] at h ⊢
      obtain ⟨_, here, inside⟩ := bind_eq_ok_iff.mp h
      exact bind_eq_ok_iff.mpr ⟨_, tooDeep_of_succ here, content.checkDepth_of_succ _ inside⟩
  | repetition span times content | group span captures changes content =>
      rw [checkDepth] at h ⊢
      obtain ⟨_, here, inside⟩ := bind_eq_ok_iff.mp h
      exact bind_eq_ok_iff.mpr ⟨_, tooDeep_of_succ here, checkDepth_of_succ _ content inside⟩
  | sequence span items | alternatives span items =>
      rw [checkDepth] at h ⊢
      obtain ⟨_, here, inside⟩ := bind_eq_ok_iff.mp h
      exact bind_eq_ok_iff.mpr ⟨_, tooDeep_of_succ here, checkDepths_of_succ _ items inside⟩
termination_by structural t

theorem Tree.checkDepths_of_succ (depth : Nat) (items : List Tree)
    (h : checkDepths (depth + 1) items = .ok ()) : checkDepths depth items = .ok () := by
  cases items with
  | nil => rfl
  | cons item rest =>
      rw [checkDepths] at h ⊢
      obtain ⟨_, first, others⟩ := bind_eq_ok_iff.mp h
      exact bind_eq_ok_iff.mpr
        ⟨_, checkDepth_of_succ depth item first, checkDepths_of_succ depth rest others⟩
termination_by structural items

end

/-- Between anchors a tree stands two levels deep. -/
theorem Tree.checkDepth_anchored (t : Tree) :
    t.anchored.checkDepth 0 = .ok () ↔ t.checkDepth 2 = .ok () := by
  have above (depth : Nat) (few : depth < nestLimit) : tooDeep depth nowhere = .ok () :=
    if_neg (by omega)
  rw [anchored, checkDepth, above 0 (by decide)]
  simp only [checkDepths, checkDepth, above 1 (by decide)]
  cases t.checkDepth 2 <;> rfl

/-- What is read of a text as alternatives, up to a closing parenthesis or the end. -/
def readUpTo (cs : List Char) : Except Fault (Tree × Cursor) :=
  readAlternatives (2 * cs.length + 4) 0 [] (Cursor.ofPattern cs)

theorem ofText_eq (cs : List Char) :
    Tree.ofText cs = readUpTo cs >>= fun (t, d) =>
      if d.isAtEnd then t.checkDepth 0 >>= fun _ => .ok t
      else Cursor.fail .groupUnopened d.here := rfl

/-- The place where a pattern starts between anchors. -/
def Cursor.anchored (cs : List Char) : Cursor :=
  ⟨(Pattern.anchored cs).length, cs ++ behind, false, []⟩

/-- What is read of a pattern between anchors, up to what closes the group. -/
def readInside (cs : List Char) : Except Fault (Tree × Cursor) :=
  readAlternatives (2 * cs.length + 13) (Cursor.anchored cs).offset [] (Cursor.anchored cs)

theorem opening_anchored (cs : List Char) :
    opening (Cursor.ofPattern (anchored cs)).next = .ok (.group false [], Cursor.anchored cs) := by
  rw [opening_eq]
  rfl

/-- What is read after the pattern: the closing parenthesis and the anchor. -/
def readBehind (fuel : Nat) (c : Cursor) (content : Tree) (closing : Cursor) :
    Except Fault (Tree × Cursor) :=
  if closing.isAtEnd then Cursor.fail .groupUnclosed c.next.here
  else
    let after := { closing.next with ignoresSpace := false }
    readSequence fuel
      ⟨0, [.group (after.since c.next.offset) false [] content, .assertion c.here .startLine]⟩ after

theorem readSequence_anchored (fuel : Nat) (cs : List Char) :
    readSequence (fuel + 2) ⟨0, []⟩ (Cursor.ofPattern (anchored cs)) =
      readAlternatives fuel (Cursor.anchored cs).offset [] (Cursor.anchored cs) >>=
        fun (content, closing) =>
          readBehind fuel (Cursor.ofPattern (anchored cs)) content closing := by
  calc readSequence (fuel + 2) ⟨0, []⟩ (Cursor.ofPattern (anchored cs))
    _ = readSequence (fuel + 1)
        ⟨0, [.assertion (Cursor.ofPattern (anchored cs)).here .startLine]⟩
        (Cursor.ofPattern (anchored cs)).next := by
      rw [readSequence]
      rfl
    _ = _ := by
      rw [readSequence]
      change opening (Cursor.ofPattern (anchored cs)).next >>= _ = _
      rw [opening_anchored]
      rfl

/-- If the closing parenthesis is left, it closes the group and the anchor ends the pattern. -/
theorem readBehind_of_behind (fuel : Nat) (c : Cursor) {content : Tree} {closing : Cursor}
    (left : closing.rest = behind) :
    ∃ t d, readBehind (fuel + 2) c content closing = .ok (t, d) ∧ d.rest = [] ∧
      SameTree content.anchored t := by
  obtain ⟨total, rest, ignoresSpace, names⟩ := closing
  cases left
  let after : Cursor := ⟨total, beyond, false, names⟩
  let items : List Tree :=
    [.group (after.since c.next.offset) false [] content, .assertion c.here .startLine]
  have anchor : readSequence (fuel + 2) ⟨0, items⟩ after =
      .ok (Sequence.tree ⟨0, .assertion after.here .endLine :: items⟩ after.next, after.next) := by
    calc readSequence (fuel + 2) ⟨0, items⟩ after
      _ = readSequence (fuel + 1) ⟨0, .assertion after.here .endLine :: items⟩ after.next := by
        rw [readSequence]
        rfl
      _ = _ := by
        rw [readSequence]
        rfl
  exact ⟨_, after.next, anchor, rfl, rfl⟩

/-- Between anchors the pattern is read first, and then what stands behind it. -/
theorem readUpTo_anchored (cs : List Char) :
    readUpTo (anchored cs) =
      (readInside cs >>= fun (content, closing) =>
        readBehind (2 * cs.length + 13) (Cursor.ofPattern (anchored cs)) content closing) >>=
        fun (t, d) =>
          match d.head? with
          | some '|' => readAlternatives (2 * cs.length + 15) 0 [t] d.next
          | _ => .ok (t, d) := by
  have length : (anchored cs).length = cs.length + 6 := by
    simp [anchored, behind, beyond]
  have start : (Cursor.ofPattern (anchored cs)).offset = 0 := Nat.sub_self _
  rw [readUpTo, length, readAlternatives, start, readInside, ← readSequence_anchored]
  rfl

/-- Reading a pattern between anchors goes along with reading it on its own. -/
theorem readInside_agrees (cs : List Char) :
    Agrees cs SameTree beyond (readUpTo cs) (readInside cs) := by
  refine readAlternatives_agrees _ _ ?_ rfl (Nat.add_le_add_left (by decide) _) (by omega)
  exact ⟨List.suffix_rfl, .inl rfl, rfl, rfl⟩

theorem SameTree.anchored {t t' : Tree} (same : SameTree t t') :
    SameTree t.anchored t'.anchored := by
  simp only [SameTree, Tree.anchored, Tree.bare, Tree.bares, show t'.bare = t.bare from same]

/-- If what stands behind a pattern is left, the tree of the pattern is in a group. -/
theorem ofText_anchored_of_behind {cs : List Char} {content : Tree} {closing : Cursor}
    (read : readInside cs = .ok (content, closing)) (left : closing.rest = behind) :
    ∃ t, SameTree content.anchored t ∧
      Tree.ofText (anchored cs) = t.checkDepth 0 >>= fun _ => .ok t := by
  obtain ⟨t, d, last, ended, same⟩ :=
    readBehind_of_behind (2 * cs.length + 11) (Cursor.ofPattern (anchored cs)) left
  have stop : d.head? = none := List.head?_eq_none_iff.mpr ended
  have whole : readUpTo (anchored cs) = .ok (t, d) := by
    rw [readUpTo_anchored]
    refine bind_eq_ok_iff.mpr ⟨(t, d), bind_eq_ok_iff.mpr ⟨_, read, last⟩, ?_⟩
    simp only [stop]
  refine ⟨t, same, ?_⟩
  rw [ofText_eq, whole]
  change (if d.isAtEnd then _ else _) = _
  rw [Cursor.isAtEnd_eq, stop]
  rfl

/-- What closes the group of a pattern between anchors is a parenthesis. -/
theorem head?_closing_of_anchored {cs : List Char} {t : Tree}
    (h : Tree.ofText (anchored cs) = .ok t) :
    ∃ content closing, readInside cs = .ok (content, closing) ∧ closing.head? = some ')' := by
  rw [ofText_eq, readUpTo_anchored] at h
  obtain ⟨_, h, -⟩ := bind_eq_ok_iff.mp h
  obtain ⟨_, h, -⟩ := bind_eq_ok_iff.mp h
  obtain ⟨⟨content, closing⟩, read, h⟩ := bind_eq_ok_iff.mp h
  refine ⟨content, closing, read, (head?_of_readAlternatives read).resolve_left fun stop => ?_⟩
  simp only [readBehind, Cursor.isAtEnd_eq, stop] at h
  cases h

/-- A pattern between anchors is one on its own, unless it closes a group that it does not open. -/
theorem Tree.ofText_of_anchored {cs : List Char} {t' : Tree}
    (h : Tree.ofText (Pattern.anchored cs) = .ok t') :
    (∃ span, Tree.ofText cs = Cursor.fail .groupUnopened span) ∨
      ∃ t, Tree.ofText cs = .ok t ∧ SameTree t.anchored t' := by
  obtain ⟨content, closing, between, closes⟩ := head?_closing_of_anchored h
  have agrees := readInside_agrees cs
  rw [between] at agrees
  generalize alone : readUpTo cs = result at agrees
  cases agrees with
  | error fault within =>
      -- reading on has used up the only parenthesis that could close the group
      have inside : ')' ∈ beyond := (within _ _ rfl).subset (List.mem_of_head? closes)
      exact absurd inside (by decide)
  | ok same follows =>
      next t d =>
        have unread : Tree.ofText cs =
            if d.head?.isNone then t.checkDepth 0 >>= fun _ => .ok t
            else Cursor.fail .groupUnopened d.here := by
          rw [ofText_eq, alone, ← Cursor.isAtEnd_eq]
          rfl
        rw [unread]
        rcases follows.head?_cases with ⟨-, stop'⟩ | ⟨stop, -⟩ | ⟨x, here, -⟩
        · rw [closes] at stop'
          cases stop'
        · have left : closing.rest = behind := by
            rcases follows.rest with whole | ⟨⟨-, none⟩, -⟩
            · rw [whole, List.head?_eq_none_iff.mp stop, List.nil_append]
            · rw [Cursor.head?, none] at closes
              cases closes
          obtain ⟨u, same', read⟩ := ofText_anchored_of_behind between left
          rw [read] at h
          obtain ⟨_, room, ⟨⟩⟩ := bind_eq_ok_iff.mp h
          have same := same'.trans (SameTree.anchored same)
          have deep := t.checkDepth_anchored.mp (Tree.checkDepth_of_bare same room)
          have room := t.checkDepth_of_succ 0 (t.checkDepth_of_succ 1 deep)
          refine .inr ⟨t, ?_, same⟩
          rw [stop, room]
          rfl
        · refine .inl ⟨d.here, ?_⟩
          rw [here]
          rfl

/-- A pattern is one between anchors, too, if there is room for them and all comments are closed. -/
theorem Tree.ofText_anchored {cs : List Char} {t : Tree} (h : Tree.ofText cs = .ok t)
    (closed : Cursor.CommentsClosed cs) (shallow : t.checkDepth 2 = .ok ()) :
    ∃ t', Tree.ofText (Pattern.anchored cs) = .ok t' ∧ SameTree t.anchored t' := by
  have agrees := readInside_agrees cs
  rw [ofText_eq] at h
  obtain ⟨⟨u, d⟩, alone, h⟩ := bind_eq_ok_iff.mp h
  simp only at h
  split at h
  · next ended =>
    obtain ⟨-, -, ⟨⟩⟩ := bind_eq_ok_iff.mp h
    rw [alone] at agrees
    generalize between : readInside cs = result at agrees
    cases agrees with
    | ok same follows =>
      next content closing =>
        have ended : d.rest = [] := List.isEmpty_iff.mp ended
        have left : closing.rest = behind := by
          rcases follows.rest with whole | ⟨-, isOpen⟩
          · rw [whole, ended, List.nil_append]
          · exact absurd closed isOpen
        obtain ⟨t', same', read⟩ := ofText_anchored_of_behind between left
        have same := same'.trans (SameTree.anchored same)
        have room := t.checkDepth_anchored.mpr shallow
        exact ⟨t', by rw [read, Tree.checkDepth_of_bare same.symm room]; rfl, same⟩
  · cases h

/-- An expression between anchors, in a group of its own. -/
def Expr.anchored (e : Expr) : Expr :=
  .both (.look .startText) (.both (.group false e) (.look .endText))

theorem Tree.toExpr_anchored (t : Tree) :
    t.anchored.toExpr .initial =
      t.toExpr .initial >>= fun (e, _) => .ok (e.anchored, .initial) := by
  have unchanged : Modes.initial.apply [] = .initial := rfl
  simp only [anchored, toExprs, toExpr, assertionExpr, unchanged, bind, Except.bind, pure,
    Except.pure]
  cases t.toExpr .initial <;> rfl

/-- Of the places where a character starts only the first is the start of the text. -/
theorem Subject.startText_starts (text : String) :
    (Subject.ofText text).starts.filter ((Subject.ofText text).satisfies · .startText) = [0] := by
  have first :
      0 = (Subject.ofText text).size ∨ ((Subject.ofText text).charAt? 0).isSome := by
    unfold Subject.ofText
    cases text.toList with
    | nil => exact .inl rfl
    | cons c cs => exact .inr rfl
  rw [starts, List.filter_filter, List.range_succ_eq_map,
    List.filter_cons_of_pos (by simpa [satisfies] using first)]
  refine congrArg _ (List.filter_eq_nil_iff.mpr ?_)
  simp [satisfies]

/-- Between anchors an expression that matches some part of a text matches all of it. -/
theorem Expr.isMatch_anchored (e : Expr) (text : String) :
    e.anchored.isMatch text = e.matchesWhole text := by
  unfold isMatch matchesWhole
  simp only [anchored, reach]
  rw [Subject.startText_starts, Bool.eq_iff_iff]
  simp [Subject.satisfies]

theorem exprOfText_eq_ok_iff {cs : List Char} {e : Expr} :
    exprOfText cs = .ok e ↔
      ∃ t m, Tree.ofText cs = .ok t ∧ t.toExpr .initial = .ok (e, m) := by
  simp only [exprOfText, bind_eq_ok_iff, pure, Except.pure, Except.ok.injEq, Prod.exists,
    exists_and_right, exists_and_left, exists_eq_right]

theorem exprOfText_of_anchored {cs : List Char} {e' : Expr}
    (h : exprOfText (anchored cs) = .ok e') :
    (∃ span, Tree.ofText cs = Cursor.fail .groupUnopened span) ∨
      ∃ e, exprOfText cs = .ok e ∧ e' = e.anchored := by
  obtain ⟨t', m, tree, meaning⟩ := exprOfText_eq_ok_iff.mp h
  refine (Tree.ofText_of_anchored tree).imp id fun ⟨t, alone, same⟩ => ?_
  have between := Tree.toExpr_of_bare same meaning
  rw [Tree.toExpr_anchored] at between
  obtain ⟨⟨e, m⟩, inside, ⟨⟩⟩ := bind_eq_ok_iff.mp between
  exact ⟨e, exprOfText_eq_ok_iff.mpr ⟨t, m, alone, inside⟩, rfl⟩

theorem exprOfText_anchored {cs : List Char} {e : Expr} (h : exprOfText cs = .ok e)
    (closed : Cursor.CommentsClosed cs)
    (shallow : ∀ t, Tree.ofText cs = .ok t → t.checkDepth 2 = .ok ()) :
    exprOfText (anchored cs) = .ok e.anchored := by
  obtain ⟨t, m, tree, meaning⟩ := exprOfText_eq_ok_iff.mp h
  obtain ⟨t', between, same⟩ := Tree.ofText_anchored tree closed (shallow t tree)
  refine exprOfText_eq_ok_iff.mpr ⟨t', .initial, between, Tree.toExpr_of_bare same.symm ?_⟩
  rw [Tree.toExpr_anchored, meaning]
  rfl

end Exposition.Pattern
