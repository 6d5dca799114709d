import Exposition.Pattern.Brackets
import Exposition.Proofs.Pattern.Bare
import Exposition.Proofs.Pattern.Escape

/-! # Classes in front of a closing parenthesis

A parenthesis in a class is an item like others. A class that is not closed before the pattern ends
takes in what stands behind the pattern and is not closed by it either.
-/

namespace Exposition.Pattern

open Cursor (beyond behind)

variable {text : List Char} {c c' : Cursor}

/-- Levels that are alike but for spans. -/
structure Level.Like (l l' : Level) : Prop where
  negated : l'.negated = l.negated
  pending : l'.pending.map (Prod.map id ClassTree.bare) =
    l.pending.map (Prod.map id ClassTree.bare)
  items : l'.itemsReversed.map ClassTree.bare = l.itemsReversed.map ClassTree.bare

/-- Classes that are alike but for spans. -/
abbrev SameClass (t t' : ClassTree) : Prop := t'.bare = t.bare

namespace Level

theorem items_bare (l : Level) :
    l.items.bare =
      match l.itemsReversed.map ClassTree.bare with
      | [] => .empty nowhere
      | [item] => item
      | items => .union nowhere items.reverse := by
  unfold items
  split
  · next none => simp [none, ClassTree.bare]
  · next single => simp [single]
  · next last others noSingle several =>
      obtain ⟨second, others, rfl⟩ := List.exists_cons_of_ne_nil noSingle
      simp [several, ClassTree.bare]

theorem content_bare (l : Level) :
    l.content.bare =
      match l.pending.map (Prod.map id ClassTree.bare) with
      | none => l.items.bare
      | some (operator, left) => .combined nowhere operator left l.items.bare := by
  unfold content
  cases l.pending <;> rfl

namespace Like

variable {l l' : Level}

theorem push (h : l.Like l') {t t' : ClassTree} (same : SameClass t t') :
    (l.push t).Like (l'.push t') :=
  ⟨h.negated, h.pending, by simp only [Level.push, List.map_cons, h.items, same]⟩

theorem content (h : l.Like l') : SameClass l.content l'.content := by
  rw [SameClass, content_bare, content_bare, items_bare, items_bare, h.items, h.pending]

theorem operate (h : l.Like l') (operator : ClassOperator) (start start' : Nat) :
    (l.operate operator start).Like (l'.operate operator start') :=
  ⟨h.negated, by simp only [Level.operate, Option.map_some, Prod.map, h.content],
    rfl⟩

end Like

end Level

/-- The name of a class and what closes it, after the opening and the sign of a negation. -/
def classNameAfter? (start : Nat) (negated : Bool) (c : Cursor) : Option (ClassTree × Cursor) := do
  let name := c.rest.takeWhile (· != ':')
  let stop ← { c with rest := c.rest.drop name.length }.past? [':', ']']
  let found ← NamedClass.ofName? (String.ofList name)
  return (.named (stop.since start) negated found, stop)

theorem namedClass?_eq (c : Cursor) :
    namedClass? c = (c.past? ['[', ':']).bind fun start =>
      match start.past? ['^'] with
      | some inner => classNameAfter? c.offset true inner
      | none => classNameAfter? c.offset false start := by
  unfold namedClass?
  cases c.past? ['[', ':'] with
  | none => rfl
  | some start =>
      simp only [Option.bind_eq_bind, Option.bind_some]
      cases start.past? ['^'] <;> rfl

theorem classNameAfter?_suffix {start : Nat} {negated : Bool} {t : ClassTree} {d : Cursor}
    (h : classNameAfter? start negated c = some (t, d)) : d.rest <:+ c.rest := by
  simp only [classNameAfter?, Option.bind_eq_bind, Option.bind_eq_some_iff, Option.pure_def,
    Option.some.injEq, Prod.mk.injEq] at h
  obtain ⟨stop, closed, -, -, -, rfl⟩ := h
  exact (Cursor.past?_suffix closed).trans (List.drop_suffix _ _)

theorem namedClass?_suffix {t : ClassTree} {d : Cursor} (h : namedClass? c = some (t, d)) :
    d.rest <:+ c.next.rest := by
  rw [namedClass?_eq, Option.bind_eq_some_iff] at h
  obtain ⟨start, opened, h⟩ := h
  have inside := Cursor.past?_suffix_next opened
  split at h
  · next negation =>
    exact (classNameAfter?_suffix h).trans ((Cursor.past?_suffix negation).trans inside)
  · exact (classNameAfter?_suffix h).trans inside

theorem takeWhile_colon {name : List Char} (noColon : ':' ∉ name) (rest : List Char) :
    (name ++ ':' :: rest).takeWhile (· != ':') = name := by
  have inside : ∀ x ∈ name, (x != ':') = true := fun x hx =>
    bne_iff_ne.mpr fun same => noColon (same ▸ hx)
  simp [List.takeWhile_append_of_pos inside]

theorem classNameAfter?_eq_none {start : Nat} {negated : Bool} (noColon : ':' ∉ c.rest) :
    classNameAfter? start negated c = none := by
  have whole : c.rest.takeWhile (· != ':') = c.rest :=
    List.takeWhile_eq_self_iff.mpr fun x hx => bne_iff_ne.mpr fun same => noColon (same ▸ hx)
  simp [classNameAfter?, whole, Cursor.past?]

/-- A name that a colon ends is the same one, and one that no colon ends is not closed at all. -/
theorem classNameAfter?_cases (h : c.Follows text c') (start start' : Nat) (negated : Bool) :
    (classNameAfter? start negated c = none ∧ classNameAfter? start' negated c' = none) ∨
      ∃ t t' d d', classNameAfter? start negated c = some (t, d) ∧
        classNameAfter? start' negated c' = some (t', d') ∧ SameClass t t' ∧ d.Follows text d' := by
  by_cases colon : ':' ∈ c.rest
  · obtain ⟨name, rest, split, noColon⟩ := List.eq_append_cons_of_mem colon
    have split' : c'.rest = name ++ ':' :: (rest ++ behind) := by
      rcases h.rest with whole | ⟨⟨none, -⟩, -⟩
      · simp [whole, split]
      · simp [none] at colon
    have follows : Cursor.Follows { c with rest := ':' :: rest } text
        { c' with rest := ':' :: (rest ++ behind) } :=
      ⟨(split ▸ List.suffix_append name _).trans h.inside, .inl rfl, h.ignoresSpace, h.names⟩
    simp only [classNameAfter?, split, split', takeWhile_colon noColon, List.drop_left,
      Option.bind_eq_bind]
    rcases follows.past? [':', ']'] (by simp) (by simp) with
      ⟨no, no'⟩ | ⟨d, d', closed, closed', follows⟩
    · simp [no, no']
    · simp only [closed, closed', Option.bind_some]
      cases NamedClass.ofName? (String.ofList name) with
      | none => exact .inl ⟨rfl, rfl⟩
      | some found => exact .inr ⟨_, _, d, d', rfl, rfl, rfl, follows⟩
  · refine .inl ⟨classNameAfter?_eq_none colon, classNameAfter?_eq_none ?_⟩
    rcases h.rest with whole | ⟨⟨-, none⟩, -⟩
    · simpa [whole, behind, beyond] using colon
    · simp [none]

theorem namedClass?_cases (h : c.Follows text c') :
    (namedClass? c = none ∧ namedClass? c' = none) ∨
      ∃ t t' d d', namedClass? c = some (t, d) ∧ namedClass? c' = some (t', d') ∧
        SameClass t t' ∧ d.Follows text d' := by
  rw [namedClass?_eq, namedClass?_eq]
  rcases h.past? ['[', ':'] (by simp) (by simp) with
    ⟨no, no'⟩ | ⟨start, start', opened, opened', follows⟩
  · simp [no, no']
  · simp only [opened, opened', Option.bind_some]
    rcases follows.past? ['^'] (by simp) (by simp) with
      ⟨no, no'⟩ | ⟨inner, inner', negation, negation', inside⟩
    · simp only [no, no']
      exact classNameAfter?_cases follows _ _ _
    · simp only [negation, negation']
      exact classNameAfter?_cases inside _ _ _

theorem classElement_within {char : Char} : Within c.next.rest (classElement char c) := by
  unfold classElement
  split
  · exact escape_within.mono (Cursor.next_suffix _)
  · exact .ok List.suffix_rfl

theorem classElement_agrees (h : c.Follows text c') {char : Char} (here : c.head? = some char) :
    Agrees text SameElement beyond (classElement char c) (classElement char c') := by
  unfold classElement
  split
  · exact escape_agrees h here
  · exact .ok rfl (h.next here)

theorem Element.toClass_cases (span span' : Span) (e : Element) :
    (∃ t t', e.toClass span = .ok t ∧ e.toClass span' = .ok t' ∧ SameClass t t') ∨
      ∃ f f', e.toClass span = .error f ∧ e.toClass span' = .error f' := by
  cases e with
  | literal | letter | property => exact .inl ⟨_, _, rfl, rfl, rfl⟩
  | dot | assertion => exact .inr ⟨_, _, rfl, rfl⟩

theorem Element.toBound_cases (span span' : Span) (e : Element) :
    (∃ l, e.toBound span = .ok l ∧ e.toBound span' = .ok l) ∨
      ∃ f f', e.toBound span = .error f ∧ e.toBound span' = .error f' := by
  cases e with
  | literal => exact .inl ⟨_, rfl, rfl⟩
  | _ => exact .inr ⟨_, _, rfl, rfl⟩

theorem firstVisible?_append (afterHash : Bool) (cs : List Char) :
    Cursor.firstVisible? afterHash (cs ++ behind) =
      (Cursor.firstVisible? afterHash cs).or (some ')') := by
  induction cs generalizing afterHash with
  | nil => cases afterHash <;> decide
  | cons c cs ih =>
      rw [List.cons_append, Cursor.firstVisible?, Cursor.firstVisible?]
      split
      · exact ih _
      · split
        · exact ih _
        · rfl

/-- Before the first visible character nothing but spaces and a hash is to be seen. -/
theorem head?_of_firstVisible? {cs : List Char} (none : Cursor.firstVisible? false cs = none)
    {x : Char} (first : cs.head? = some x) : isSpace x = true ∨ x = '#' := by
  obtain ⟨rest, rfl⟩ := List.head?_eq_some_iff.mp first
  by_contra other
  obtain ⟨noSpace, noHash⟩ := not_or.mp other
  simp [Cursor.firstVisible?, noSpace, noHash] at none

/-- The next character that counts is found alike unless it is the parenthesis. -/
theorem Cursor.Follows.peekSkipping? (h : c.Follows text c') {x y : Char} (here : c.head? = some y)
    (noSpace : isSpace x = false) (noHash : x ≠ '#') (other : x ≠ ')') :
    c'.peekSkipping? = some x ↔ c.peekSkipping? = some x := by
  have inside := h.next here
  unfold Cursor.peekSkipping?
  rw [h.ignoresSpace, c.isAtEnd_eq, c'.isAtEnd_eq, here, h.head?_of_some here]
  split
  · simp only [Option.isNone_some, Bool.false_eq_true, if_false]
    rcases inside.rest with whole | ⟨⟨none, none'⟩, -⟩
    · rw [whole, firstVisible?_append]
      cases visible : Cursor.firstVisible? false c.next.rest with
      | some z => simp
      | none =>
          have unseen : c.peek? ≠ some x := fun first => by
            rcases head?_of_firstVisible? visible first with space | hash
            · simp [noSpace] at space
            · exact noHash hash
          simpa [other.symm] using unseen
    · simp [none, none', Cursor.peek?, Cursor.head?, Cursor.firstVisible?]
  · exact inside.head?_eq_iff other

/-- The range from one element to another, if both are literals and in this order. -/
def rangeOf (low high : Span × Element) (c : Cursor) : Except Fault (ClassTree × Cursor) := do
  let whole : Span := ⟨low.1.start, high.1.stop⟩
  let first ← low.2.toBound low.1
  let last ← high.2.toBound high.1
  if last.char < first.char then Cursor.fail .classRangeInvalid whole
  else return (.range whole (low.1, first) (high.1, last), c)

/-- The rest of an item whose first element has been read. -/
def itemAfter (l : Level) (low : Span × Element) (c : Cursor) :
    Except Fault (ClassTree × Cursor) := do
  if c.isAtEnd then Cursor.fail .classUnclosed l.opening
  else if c.head? ≠ some '-' || c.peekSkipping? = some ']' || c.peekSkipping? = some '-' then
    return (← low.2.toClass low.1, c)
  else
    let c := c.nextSkipping
    match c.head? with
    | none => Cursor.fail .classUnclosed l.opening
    | some char =>
      let (high, c) ← classElement char c
      rangeOf low high c

theorem classItem_eq (l : Level) (char : Char) (c : Cursor) :
    classItem l char c = classElement char c >>= fun (low, c) => itemAfter l low c.skipIgnored :=
  rfl

theorem rangeOf_within {low high : Span × Element} : Within c.rest (rangeOf low high c) := by
  intro t d read
  simp only [rangeOf, bind_eq_ok_iff] at read
  obtain ⟨first, -, last, -, read⟩ := read
  split at read
  · cases read
  · cases read
    exact List.suffix_rfl

theorem rangeOf_agrees (h : c.Follows text c') {low low' high high' : Span × Element}
    (sameLow : SameElement low low') (sameHigh : SameElement high high') :
    Agrees text SameClass behind (rangeOf low high c) (rangeOf low' high' c') := by
  simp only [rangeOf, ← show low.2 = low'.2 from sameLow, ← show high.2 = high'.2 from sameHigh]
  rcases low.2.toBound_cases low.1 low'.1 with ⟨first, isFirst, isFirst'⟩ | ⟨f, f', no, no'⟩
  · rcases high.2.toBound_cases high.1 high'.1 with ⟨last, isLast, isLast'⟩ | ⟨f, f', no, no'⟩
    · simp only [isFirst, isFirst', isLast, isLast', bind, Except.bind]
      split
      · exact .fail _ _ _ _
      · exact .ok rfl h
    · simp only [isFirst, isFirst', no, no', bind, Except.bind]
      exact .error _ (.error _)
  · simp only [no, no', bind, Except.bind]
    exact .error _ (.error _)

theorem itemAfter_within {l : Level} {low : Span × Element} :
    Within c.rest (itemAfter l low c) := by
  unfold itemAfter
  split
  · exact .fail _ _
  · split
    · rcases low.2.toClass_cases low.1 low.1 with ⟨t, -, read, -⟩ | ⟨f, -, no, -⟩
      · rw [read]
        exact .ok List.suffix_rfl
      · rw [no]
        exact .error _
    · simp only
      split
      · exact .fail _ _
      · refine (classElement_within.mono (Cursor.next_suffix _)).bind fun high d inside => ?_
        exact rangeOf_within.mono (inside.trans c.nextSkipping_suffix_rest)

/-- If the pattern ends behind the first element then the class is not closed. In front of the
    parenthesis the element is an item, but nothing after it is read. -/
theorem itemAfter_agrees (h : c.Follows text c') {l l' : Level} {low low' : Span × Element}
    (same : SameElement low low') :
    Agrees text SameClass behind (itemAfter l low c) (itemAfter l' low' c') := by
  cases here : c.head? with
  | none =>
      have failed : itemAfter l low c = Cursor.fail .classUnclosed l.opening := by
        rw [itemAfter, if_pos (by rw [c.isAtEnd_eq, here]; rfl)]
      rw [failed]
      exact .error _ (itemAfter_within.mono (h.suffix_behind_of_none here))
  | some y =>
      have here' := h.head?_of_some here
      have follows := h.nextSkipping here
      unfold itemAfter
      simp only [c.isAtEnd_eq, c'.isAtEnd_eq, here, here', Option.isNone_some, Bool.false_eq_true,
        if_false,
        @Cursor.Follows.peekSkipping? text c c' h ']' y here (by decide) (by decide) (by decide),
        @Cursor.Follows.peekSkipping? text c c' h '-' y here (by decide) (by decide) (by decide),
        ← show low.2 = low'.2 from same]
      split
      · rcases low.2.toClass_cases low.1 low'.1 with ⟨t, t', read, read', same⟩ | ⟨f, f', no, no'⟩
        · rw [read, read']
          exact .ok same h
        · rw [no, no']
          exact .error _ (.error _)
      · rcases follows.head?_cases with ⟨stop, stop'⟩ | ⟨stop, stop'⟩ | ⟨z, here, here'⟩
        · simp only [stop, stop']
          exact .fail _ _ _ _
        · simp only [stop, stop']
          refine .error _ (classElement_within.bind fun high d inside => ?_)
          have inside := inside.trans (follows.next_suffix_of_none stop)
          exact rangeOf_within.mono (inside.trans Cursor.beyond_suffix_behind)
        · simp only [here, here']
          refine (classElement_agrees follows here).bind ?_ fun high d inside => ?_
          · intro high high' d d' _ sameHigh follows
            exact rangeOf_agrees follows same sameHigh
          · exact rangeOf_within.mono (inside.trans Cursor.beyond_suffix_behind)

theorem classItem_within {l : Level} {char : Char} :
    Within c.next.rest (classItem l char c) := by
  rw [classItem_eq]
  refine classElement_within.bind fun low d inside => ?_
  exact itemAfter_within.mono (d.skipIgnored_suffix.trans inside)

theorem classItem_agrees (h : c.Follows text c') {char : Char} (here : c.head? = some char)
    {l l' : Level} : Agrees text SameClass behind (classItem l char c) (classItem l' char c') := by
  rw [classItem_eq, classItem_eq]
  refine (classElement_agrees h here).bind ?_ fun low d inside => ?_
  · intro low low' d d' _ same follows
    exact itemAfter_agrees follows.skipIgnored same
  · have inside := (d.skipIgnored_suffix.trans inside).trans Cursor.beyond_suffix_behind
    exact itemAfter_within.mono inside

theorem leadingMinuses_within {start fuel : Nat} {l : Level} :
    Within c.rest (leadingMinuses start fuel l c) := by
  induction fuel generalizing l c with
  | zero => exact .ok List.suffix_rfl
  | succ fuel ih =>
      rw [leadingMinuses]
      split
      · simp only
        split
        · exact .fail _ _
        · exact ih.mono c.nextSkipping_suffix_rest
      · exact .ok List.suffix_rfl

theorem leadingMinuses_agrees (h : c.Follows text c') {start start' fuel fuel' : Nat} {l l' : Level}
    (like : l.Like l') (enough : c.rest.length ≤ fuel) (le : fuel ≤ fuel') :
    Agrees text Level.Like behind (leadingMinuses start fuel l c)
      (leadingMinuses start' fuel' l' c') := by
  induction fuel generalizing fuel' l l' c c' with
  | zero =>
      have stop : c'.head? ≠ some '-' := fun minus => by
        have minus := (h.head?_eq_iff (by decide)).mp minus
        rw [Cursor.head?_of_length enough] at minus
        cases minus
      cases fuel' with
      | zero => exact .ok like h
      | succ fuel' =>
          rw [leadingMinuses, leadingMinuses, if_neg stop]
          exact .ok like h
  | succ fuel ih =>
      obtain ⟨fuel', rfl⟩ : ∃ n, fuel' = n + 1 := Nat.exists_eq_succ_of_ne_zero (by omega)
      rw [leadingMinuses, leadingMinuses]
      simp only [h.head?_eq_iff (show '-' ≠ ')' by decide)]
      split
      · next minus =>
        have follows := h.nextSkipping minus
        have shorter := c.length_nextSkipping_le
        rw [Cursor.isAtEnd_eq, Cursor.isAtEnd_eq]
        cases here : c.nextSkipping.head? with
        | none =>
            refine .error _ ?_
            split
            · exact .fail _ _
            · exact leadingMinuses_within.mono (follows.suffix_behind_of_none here)
        | some x =>
            rw [follows.head?_of_some here]
            exact ih follows (like.push rfl) (by omega) (by omega)
      · exact .ok like h

/-- The last of what belongs to an opening, a closing bracket that stands for itself. -/
def leadingBracket (start : Nat) (l : Level) (c : Cursor) : Except Fault (Level × Cursor) := do
  if l.itemsReversed.isEmpty && c.head? = some ']' then
    let l := l.push (.literal c.here ⟨']', false⟩)
    let c := c.nextSkipping
    if c.isAtEnd then Cursor.fail .classUnclosed (c.since start)
    else return ({ l with opening := c.since start }, c)
  else return ({ l with opening := c.since start }, c)

/-- What belongs to an opening after the sign of a negation. -/
def openingItems (start : Nat) (negated : Bool) (c : Cursor) : Except Fault (Level × Cursor) := do
  if c.isAtEnd then Cursor.fail .classUnclosed (c.since start)
  else
    let (l, c) ← leadingMinuses start c.rest.length ⟨c.empty, negated, none, c.offset, []⟩ c
    leadingBracket start l c

theorem openBracket_eq (c : Cursor) :
    openBracket c =
      if c.nextSkipping.head? = some '^' then
        openingItems c.offset true c.nextSkipping.nextSkipping
      else openingItems c.offset false c.nextSkipping := by
  unfold openBracket
  split
  · next negation => simp only [negation, decide_true, if_true]; rfl
  · next negation => simp only [negation, decide_false, if_false]; rfl

theorem leadingBracket_within {start : Nat} {l : Level} :
    Within c.rest (leadingBracket start l c) := by
  unfold leadingBracket
  split
  · simp only
    split
    · exact .fail _ _
    · exact .ok c.nextSkipping_suffix_rest
  · exact .ok List.suffix_rfl

theorem Level.Like.isEmpty_items {l l' : Level} (like : l.Like l') :
    l'.itemsReversed.isEmpty = l.itemsReversed.isEmpty := by
  rw [← List.isEmpty_map (f := ClassTree.bare), like.items, List.isEmpty_map]

theorem leadingBracket_agrees (h : c.Follows text c') {start start' : Nat} {l l' : Level}
    (like : l.Like l') :
    Agrees text Level.Like behind (leadingBracket start l c) (leadingBracket start' l' c') := by
  unfold leadingBracket
  simp only [like.isEmpty_items, h.head?_eq_iff (show ']' ≠ ')' by decide)]
  split
  · next bracket =>
    have here : c.head? = some ']' := by simpa using (Bool.and_eq_true_iff.mp bracket).2
    have follows := h.nextSkipping here
    rw [Cursor.isAtEnd_eq, Cursor.isAtEnd_eq]
    cases here : c.nextSkipping.head? with
    | none =>
        refine .error _ ?_
        split
        · exact .fail _ _
        · exact .ok (follows.suffix_behind_of_none here)
    | some x =>
        rw [follows.head?_of_some here]
        have like := @Level.Like.push l l' like (.literal c.here ⟨']', false⟩)
          (.literal c'.here ⟨']', false⟩) rfl
        exact .ok ⟨like.negated, like.pending, like.items⟩ follows
  · exact .ok ⟨like.negated, like.pending, like.items⟩ h

theorem openingItems_within {start : Nat} {negated : Bool} :
    Within c.rest (openingItems start negated c) := by
  unfold openingItems
  split
  · exact .fail _ _
  · exact leadingMinuses_within.bind fun l d inside => leadingBracket_within.mono inside

theorem openingItems_agrees (h : c.Follows text c') {start start' : Nat} {negated : Bool} :
    Agrees text Level.Like behind (openingItems start negated c)
      (openingItems start' negated c') := by
  cases here : c.head? with
  | none =>
      have failed : openingItems start negated c = Cursor.fail .classUnclosed (c.since start) := by
        rw [openingItems, if_pos (by rw [c.isAtEnd_eq, here]; rfl)]
      rw [failed]
      exact .error _ (openingItems_within.mono (h.suffix_behind_of_none here))
  | some x =>
      unfold openingItems
      rw [Cursor.isAtEnd_eq, Cursor.isAtEnd_eq, here, h.head?_of_some here]
      simp only [Option.isNone_some, Bool.false_eq_true, if_false]
      have like : Level.Like ⟨c.empty, negated, none, c.offset, []⟩
          ⟨c'.empty, negated, none, c'.offset, []⟩ := ⟨rfl, rfl, rfl⟩
      refine (leadingMinuses_agrees h like le_rfl h.length_le).bind ?_ ?_
      · intro l l' d d' _ like follows
        exact leadingBracket_agrees follows like
      · intro l d inside
        exact leadingBracket_within.mono inside

theorem openBracket_within : Within c.next.rest (openBracket c) := by
  rw [openBracket_eq]
  split
  · exact openingItems_within.mono (c.nextSkipping.nextSkipping_suffix_rest.trans
      c.nextSkipping_suffix)
  · exact openingItems_within.mono c.nextSkipping_suffix

theorem openBracket_agrees (h : c.Follows text c') {x : Char} (here : c.head? = some x) :
    Agrees text Level.Like behind (openBracket c) (openBracket c') := by
  have follows := h.nextSkipping here
  rw [openBracket_eq, openBracket_eq]
  simp only [follows.head?_eq_iff (show '^' ≠ ')' by decide)]
  split
  · next negation => exact openingItems_agrees (follows.nextSkipping negation)
  · exact openingItems_agrees follows

theorem classOperator?_suffix {operator : ClassOperator} {d : Cursor}
    (h : classOperator? c = some (operator, d)) : d.rest <:+ c.next.rest := by
  unfold classOperator? at h
  split at h
  · next found =>
    cases h
    exact Cursor.past?_suffix_next found
  · next found _ =>
    cases h
    exact Cursor.past?_suffix_next found
  · next found _ _ =>
    cases h
    exact Cursor.past?_suffix_next found
  · cases h

theorem classOperator?_cases (h : c.Follows text c') :
    (classOperator? c = none ∧ classOperator? c' = none) ∨
      ∃ operator d d', classOperator? c = some (operator, d) ∧
        classOperator? c' = some (operator, d') ∧ d.Follows text d' := by
  unfold classOperator?
  rcases h.past? ['&', '&'] (by simp) (by simp) with ⟨no, no'⟩ | ⟨d, d', first, first', follows⟩
  · rcases h.past? ['-', '-'] (by simp) (by simp) with
      ⟨no₁, no₁'⟩ | ⟨d, d', second, second', follows⟩
    · rcases h.past? ['~', '~'] (by simp) (by simp) with
        ⟨no₂, no₂'⟩ | ⟨d, d', third, third', follows⟩
      · exact .inl ⟨by simp only [no, no₁, no₂], by simp only [no', no₁', no₂']⟩
      · exact .inr ⟨.symmetricDifference, d, d', by simp only [no, no₁, third],
          by simp only [no', no₁', third'], follows⟩
    · exact .inr ⟨.difference, d, d', by simp only [no, second], by simp only [no', second'],
        follows⟩
  · exact .inr ⟨.intersection, d, d', by simp only [first], by simp only [first'], follows⟩

/-- The next part of a class, which begins with some character: an item of it, or an operator. -/
def classPart (fuel : Nat) (char : Char) (l : Level) (c : Cursor) : Except Fault (Level × Cursor) :=
  if char = '[' then
    match namedClass? c with
    | some (item, d) => .ok (l.push item, d)
    | none =>
      brackets fuel c >>= fun ((span, negated, content), d) =>
        .ok (l.push (.bracketed span negated content), d)
  else
    match classOperator? c with
    | some (operator, d) => .ok (l.operate operator d.offset, d)
    | none => classItem l char c >>= fun (item, d) => .ok (l.push item, d)

theorem bracketItems_succ (fuel : Nat) (l : Level) (c : Cursor) :
    bracketItems (fuel + 1) l c =
      match c.skipIgnored.head? with
      | none => Cursor.fail .classUnclosed l.opening
      | some char =>
        if char = ']' then .ok (l, c.skipIgnored.next)
        else classPart fuel char l c.skipIgnored >>= fun (l, d) => bracketItems fuel l d := by
  rw [bracketItems]
  simp only
  generalize c.skipIgnored = c
  cases here : c.head? with
  | none => rfl
  | some char =>
      simp only
      split
      · next none => cases none
      · next same =>
        cases same
        rfl
      · next same =>
        cases same
        unfold classPart
        cases namedClass? c with
        | some found => rfl
        | none =>
          change brackets fuel c >>= _ = (brackets fuel c >>= _) >>= _
          cases brackets fuel c <;> rfl
      · next noClosing noOpening same =>
        cases same
        rw [if_neg noClosing, classPart, if_neg noOpening]
        cases classOperator? c with
        | some found => rfl
        | none => cases classItem l char c <;> rfl

/-- Classes in brackets that are alike but for spans. -/
def SameBrackets (p p' : Span × Bool × ClassTree) : Prop :=
  p'.2.1 = p.2.1 ∧ SameClass p.2.2 p'.2.2

theorem classPart_within {fuel : Nat} (inner : ∀ d, Within d.next.rest (brackets fuel d))
    {char : Char} {l : Level} : Within c.next.rest (classPart fuel char l c) := by
  unfold classPart
  split
  · split
    · next found => exact .ok (namedClass?_suffix found)
    · exact (inner c).map _
  · split
    · next found => exact .ok (classOperator?_suffix found)
    · exact classItem_within.map _

theorem classPart_agrees (h : c.Follows text c') {char : Char} (here : c.head? = some char)
    {fuel fuel' : Nat}
    (inner : Agrees text SameBrackets beyond (brackets fuel c) (brackets fuel' c'))
    {l l' : Level} (like : l.Like l') :
    Agrees text Level.Like behind (classPart fuel char l c) (classPart fuel' char l' c') := by
  unfold classPart
  split
  · rcases namedClass?_cases h with ⟨no, no'⟩ | ⟨t, t', d, d', found, found', same, follows⟩
    · simp only [no, no']
      refine (inner.mono Cursor.beyond_suffix_behind).map ?_
      rintro ⟨span, negated, content⟩ ⟨span', _, content'⟩ d d' ⟨rfl, same⟩
      refine like.push ?_
      simp only [ClassTree.bare, SameClass, show content'.bare = content.bare from same]
    · simp only [found, found']
      exact .ok (like.push same) follows
  · rcases classOperator?_cases h with ⟨no, no'⟩ | ⟨operator, d, d', found, found', follows⟩
    · simp only [no, no']
      refine (classItem_agrees h here).map ?_
      exact fun _ _ _ _ same => like.push same
    · simp only [found, found']
      exact .ok (like.operate _ _ _) follows

mutual

theorem brackets_within (fuel : Nat) (c : Cursor) : Within c.next.rest (brackets fuel c) := by
  cases fuel with
  | zero => exact .fail _ _
  | succ fuel =>
      rw [brackets]
      refine openBracket_within.bind fun l d inside => ?_
      refine (bracketItems_within fuel l d).bind fun l e inside' => .ok ?_
      exact (inside'.trans (Cursor.next_suffix _)).trans (d.skipIgnored_suffix.trans inside)
termination_by fuel

/-- At least the closing bracket is read. -/
theorem bracketItems_within (fuel : Nat) (l : Level) (c : Cursor) :
    Within c.skipIgnored.next.rest (bracketItems fuel l c) := by
  cases fuel with
  | zero => exact .fail _ _
  | succ fuel =>
      rw [bracketItems_succ]
      split
      · exact .fail _ _
      · split
        · exact .ok List.suffix_rfl
        · refine (classPart_within (brackets_within fuel)).bind fun l d inside => ?_
          exact (bracketItems_within fuel l d).mono
            (((Cursor.next_suffix _).trans d.skipIgnored_suffix).trans inside)
termination_by fuel

end

theorem bracketItems_within_beyond {fuel : Nat} {l : Level} {stop : List Char}
    (inside : c.rest <:+ stop) : Within (stop.drop 1) (bracketItems fuel l c) :=
  (bracketItems_within fuel l c).mono
    (Cursor.drop_one_suffix (c.skipIgnored_suffix.trans inside))

mutual

theorem brackets_agrees (fuel fuel' : Nat) {text : List Char} {c c' : Cursor}
    (h : c.Follows text c') {x : Char} (here : c.head? = some x) (enough : 2 * c.rest.length ≤ fuel)
    (le : fuel ≤ fuel') :
    Agrees text SameBrackets beyond (brackets fuel c) (brackets fuel' c') := by
  have nonempty := Cursor.length_pos_of_head? here
  cases fuel with
  | zero => omega
  | succ fuel =>
      obtain ⟨fuel', rfl⟩ : ∃ n, fuel' = n + 1 := Nat.exists_eq_succ_of_ne_zero (by omega)
      rw [brackets, brackets]
      refine (openBracket_agrees h here).bind ?_ fun l d inside => ?_
      · intro l l' d d' read like follows
        have shorter := (openBracket_within l d read).length_le.trans_eq List.length_drop
        refine (bracketItems_agrees fuel fuel' follows like (by omega) (by omega)).map ?_
        exact fun _ _ _ _ like => ⟨like.negated, like.content⟩
      · exact (bracketItems_within_beyond inside).map _
termination_by fuel

theorem bracketItems_agrees (fuel fuel' : Nat) {text : List Char} {c c' : Cursor}
    (h : c.Follows text c') {l l' : Level} (like : l.Like l')
    (enough : 2 * c.rest.length + 1 ≤ fuel) (le : fuel ≤ fuel') :
    Agrees text Level.Like beyond (bracketItems fuel l c) (bracketItems fuel' l' c') := by
  have follows := h.skipIgnored
  cases fuel with
  | zero => omega
  | succ fuel =>
      obtain ⟨fuel', rfl⟩ : ∃ n, fuel' = n + 1 := Nat.exists_eq_succ_of_ne_zero (by omega)
      cases here : c.skipIgnored.head? with
      | none =>
          refine .of_none follows here ?_ (bracketItems_within _ _ _)
          rw [bracketItems_succ, here]
          rfl
      | some x =>
          have nonempty := Cursor.length_pos_of_head? here
          have skipped := c.skipIgnored_suffix.length_le
          rw [bracketItems_succ, bracketItems_succ, here, follows.head?_of_some here]
          simp only
          split
          · exact .ok like (follows.next here)
          · have inner := brackets_agrees fuel fuel' follows here (by omega) (by omega)
            refine (classPart_agrees follows here inner like).bind ?_ ?_
            · intro l l' d d' read like follows
              have inside := classPart_within (brackets_within fuel) l d read
              have shorter := inside.length_le.trans_eq List.length_drop
              exact bracketItems_agrees fuel fuel' follows like (by omega) (by omega)
            · exact fun l d inside => bracketItems_within_beyond inside
termination_by fuel

end

end Exposition.Pattern
