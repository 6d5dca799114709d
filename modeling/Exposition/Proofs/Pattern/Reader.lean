import Exposition.Proofs.Pattern.Brackets
import Exposition.Proofs.Pattern.Opening

/-! # Patterns in front of a closing parenthesis

What is read as a pattern on its own is read alike in a group. What has a fault on its own is never
closed by the parenthesis behind it: reading on uses that parenthesis up.
-/

namespace Exposition.Pattern

open Cursor (beyond behind)

variable {text : List Char} {c c' : Cursor}

/-- Trees that are alike but for spans. -/
abbrev SameTree (t t' : Tree) : Prop := t'.bare = t.bare

theorem Cursor.Follows.head?_of_none (h : c.Follows text c') (stop : c.head? = none) :
    c'.head? = none ∨ c'.head? = some ')' := by
  rcases h.head?_cases with ⟨-, stop'⟩ | ⟨-, stop'⟩ | ⟨x, here, -⟩
  · exact .inl stop'
  · exact .inr stop'
  · rw [stop] at here
    cases here

theorem countDigits_suffix (fuel : Nat) (digits : List Char) (c : Cursor) :
    (countDigits fuel digits c).2.rest <:+ c.rest := by
  induction fuel generalizing digits c with
  | zero => exact List.suffix_rfl
  | succ fuel ih =>
      rw [countDigits]
      split
      · split
        · exact (ih _ _).trans c.nextSkipping_suffix_rest
        · exact List.suffix_rfl
      · exact List.suffix_rfl

theorem countDigits_of_stop (stop : c.head? = none ∨ c.head? = some ')') (fuel : Nat)
    (digits : List Char) : countDigits fuel digits c = (digits, c) := by
  cases fuel with
  | zero => rfl
  | succ fuel =>
      rw [countDigits]
      rcases stop with stop | stop <;> rw [stop]
      rfl

theorem countDigits_follows (h : c.Follows text c') {fuel fuel' : Nat} (digits : List Char)
    (enough : c.rest.length ≤ fuel) (le : fuel ≤ fuel') :
    (countDigits fuel' digits c').1 = (countDigits fuel digits c).1 ∧
      (countDigits fuel digits c).2.Follows text (countDigits fuel' digits c').2 := by
  induction fuel generalizing fuel' digits c c' with
  | zero =>
      have stop := Cursor.head?_of_length enough
      rw [countDigits_of_stop (h.head?_of_none stop)]
      exact ⟨rfl, h⟩
  | succ fuel ih =>
      obtain ⟨fuel', rfl⟩ : ∃ n, fuel' = n + 1 := Nat.exists_eq_succ_of_ne_zero (by omega)
      cases here : c.head? with
      | none =>
          rw [countDigits_of_stop (.inl here), countDigits_of_stop (h.head?_of_none here)]
          exact ⟨rfl, h⟩
      | some x =>
          have shorter := c.length_nextSkipping_le
          rw [countDigits, countDigits, here, h.head?_of_some here]
          simp only
          split
          · exact ih (h.nextSkipping here) _ (by omega) (by omega)
          · exact ⟨rfl, h⟩

theorem pastSpace_suffix (skipping : Bool) (fuel : Nat) (c : Cursor) :
    (pastSpace skipping fuel c).rest <:+ c.rest := by
  induction fuel generalizing c with
  | zero => exact List.suffix_rfl
  | succ fuel ih =>
      rw [pastSpace]
      split
      · refine (ih _).trans ?_
        split
        · exact c.nextSkipping_suffix_rest
        · exact c.next_suffix
      · exact List.suffix_rfl

theorem pastSpace_of_stop (stop : c.head? = none ∨ c.head? = some ')') (skipping : Bool)
    (fuel : Nat) : pastSpace skipping fuel c = c := by
  cases fuel with
  | zero => rfl
  | succ fuel =>
      rw [pastSpace]
      rcases stop with stop | stop <;> rw [stop] <;> rfl

theorem pastSpace_follows (h : c.Follows text c') (skipping : Bool) {fuel fuel' : Nat}
    (enough : c.rest.length ≤ fuel) (le : fuel ≤ fuel') :
    (pastSpace skipping fuel c).Follows text (pastSpace skipping fuel' c') := by
  induction fuel generalizing fuel' c c' with
  | zero =>
      have stop := Cursor.head?_of_length enough
      rwa [pastSpace_of_stop (h.head?_of_none stop)]
  | succ fuel ih =>
      obtain ⟨fuel', rfl⟩ : ∃ n, fuel' = n + 1 := Nat.exists_eq_succ_of_ne_zero (by omega)
      cases here : c.head? with
      | none => rwa [pastSpace_of_stop (.inl here), pastSpace_of_stop (h.head?_of_none here)]
      | some x =>
          have shorter := c.length_nextSkipping_le
          have shorter' : c.next.rest.length = c.rest.length - 1 := List.length_drop
          rw [pastSpace, pastSpace, here, h.head?_of_some here]
          split
          · cases skipping with
            | true => exact ih (h.nextSkipping here) (by omega) (by omega)
            | false => exact ih (h.next here) (by omega) (by omega)
          · exact h

theorem count_within : Within c.rest (count c) := by
  unfold count
  simp only
  split
  · exact .fail _ _
  · split
    · exact .fail _ _
    · refine .ok ?_
      exact (pastSpace_suffix _ _ _).trans
        ((countDigits_suffix _ _ _).trans (pastSpace_suffix _ _ _))

theorem count_agrees (h : c.Follows text c') {stop : List Char} :
    Agrees text Eq stop (count c) (count c') := by
  have follows := pastSpace_follows h false le_rfl h.length_le
  obtain ⟨same, follows⟩ := countDigits_follows follows [] le_rfl follows.length_le
  have follows := pastSpace_follows follows true le_rfl follows.length_le
  unfold count
  simp only [same]
  split
  · exact .fail _ _ _ _
  · split
    · exact .fail _ _ _ _
    · exact .ok rfl follows

theorem pastLazy_suffix (c : Cursor) : (pastLazy c).rest <:+ c.rest := by
  unfold pastLazy
  cases found : c.past? ['?'] with
  | none => exact List.suffix_rfl
  | some d => exact Cursor.past?_suffix found

theorem pastLazy_follows (h : c.Follows text c') : (pastLazy c).Follows text (pastLazy c') := by
  unfold pastLazy
  rcases h.past? ['?'] (by decide) (by decide) with ⟨no, no'⟩ | ⟨d, d', found, found', follows⟩
  · rwa [no, no']
  · rwa [found, found']

/-- The upper end of a counted repetition, none if it has no limit. -/
def upperCount (start least : Nat) (c : Cursor) : Except Fault (Option Nat × Cursor) :=
  if c.head? = some ',' then
    let c := c.nextSkipping
    if c.isAtEnd then Cursor.fail .repetitionCountUnclosed (c.since start)
    else if c.head? = some '\x7d' then .ok (none, c)
    else count c >>= fun (most, c) => .ok (some most, c)
  else .ok (some least, c)

/-- The end of a counted repetition. -/
def closeRepetition (start least : Nat) (most : Option Nat) (content : Tree) (c : Cursor) :
    Except Fault (Tree × Cursor) :=
  if c.head? ≠ some '\x7d' then Cursor.fail .repetitionCountUnclosed (c.since start)
  else
    let c := pastLazy c.nextSkipping
    if most.any (· < least) then Cursor.fail .repetitionCountInvalid (c.since start)
    else .ok (.repetition (c.since content.span.start) (.counted least most) content, c)

theorem countedRepetition_eq (content : Tree) (c : Cursor) :
    countedRepetition content c =
      if c.nextSkipping.isAtEnd then
        Cursor.fail .repetitionCountUnclosed (c.nextSkipping.since c.offset)
      else
        count c.nextSkipping >>= fun (least, d) =>
          upperCount c.offset least d >>= fun (most, d) =>
            closeRepetition c.offset least most content d := by
  unfold countedRepetition
  simp only
  split
  · rfl
  · cases count c.nextSkipping with
    | error fault => rfl
    | ok result =>
        obtain ⟨least, d⟩ := result
        simp only [bind, Except.bind]
        unfold upperCount
        split
        · simp only [Cursor.isAtEnd_eq]
          generalize d.nextSkipping.head? = here
          split
          · rfl
          · rfl
          · next other =>
            rw [if_neg (by simp), if_neg (by simpa using other)]
            cases count d.nextSkipping <;> rfl
        · rfl

theorem upperCount_within {start least : Nat} : Within c.rest (upperCount start least c) := by
  unfold upperCount
  split
  · simp only
    split_ifs
    · exact .fail _ _
    · exact .ok c.nextSkipping_suffix_rest
    · exact (count_within.mono c.nextSkipping_suffix_rest).map _
  · exact .ok List.suffix_rfl

theorem upperCount_agrees (h : c.Follows text c') {start start' least : Nat} :
    Agrees text Eq behind (upperCount start least c) (upperCount start' least c') := by
  unfold upperCount
  simp only [h.head?_eq_iff (show ',' ≠ ')' by decide)]
  split
  · next comma =>
    have follows := h.nextSkipping comma
    simp only [Cursor.isAtEnd_eq]
    cases here : c.nextSkipping.head? with
    | none =>
        refine .error _ ?_
        have inside := follows.suffix_behind_of_none here
        split_ifs
        · exact .fail _ _
        · exact .ok inside
        · exact (count_within.mono inside).map _
    | some x =>
        simp only [follows.head?_of_some here, Option.isNone_some, Bool.false_eq_true, if_false]
        split
        · exact .ok rfl follows
        · exact (count_agrees follows).map fun _ _ _ _ same => by rw [same]
  · exact .ok rfl h

theorem closeRepetition_within {start least : Nat} {most : Option Nat} {content : Tree} :
    Within c.next.rest (closeRepetition start least most content c) := by
  unfold closeRepetition
  split
  · exact .fail _ _
  · simp only
    split
    · exact .fail _ _
    · exact .ok ((pastLazy_suffix _).trans c.nextSkipping_suffix)

theorem closeRepetition_agrees (h : c.Follows text c') {start start' least : Nat}
    {most : Option Nat} {content content' : Tree} (same : SameTree content content') :
    Agrees text SameTree beyond (closeRepetition start least most content c)
      (closeRepetition start' least most content' c') := by
  unfold closeRepetition
  simp only [ne_eq, h.head?_eq_iff (show '\x7d' ≠ ')' by decide)]
  split
  · exact .fail _ _ _ _
  · next brace =>
    split
    · exact .fail _ _ _ _
    · refine .ok ?_ (pastLazy_follows (h.nextSkipping (not_not.mp brace)))
      rw [SameTree, Tree.bare, Tree.bare, same]

/-- The closing brace is read after what may stand behind a pattern. -/
theorem countedRepetition_within {content : Tree} :
    Within c.nextSkipping.next.rest (countedRepetition content c) := by
  rw [countedRepetition_eq]
  split
  · exact .fail _ _
  · refine count_within.bind fun least d inside => upperCount_within.bind fun most e inside' => ?_
    exact closeRepetition_within.mono (Cursor.drop_one_suffix (inside'.trans inside))

theorem countedRepetition_agrees (h : c.Follows text c') {x : Char} (here : c.head? = some x)
    {content content' : Tree} (same : SameTree content content') :
    Agrees text SameTree beyond (countedRepetition content c) (countedRepetition content' c') := by
  have follows := h.nextSkipping here
  cases here : c.nextSkipping.head? with
  | none =>
      refine .of_none follows here ?_ countedRepetition_within
      rw [countedRepetition_eq, Cursor.isAtEnd_eq, here]
      rfl
  | some y =>
      rw [countedRepetition_eq, countedRepetition_eq]
      simp only [Cursor.isAtEnd_eq, here, follows.head?_of_some here]
      have counted : Agrees text Eq behind (count c.nextSkipping) (count c'.nextSkipping) :=
        count_agrees follows
      refine counted.bind ?_ ?_
      · rintro least _ d d' - rfl follows
        refine (upperCount_agrees follows).bind ?_ ?_
        · rintro most _ e e' - rfl follows
          exact closeRepetition_agrees follows same
        · exact fun most e inside => closeRepetition_within.mono (Cursor.drop_one_behind inside)
      · exact fun least d inside => upperCount_within.bind fun most e inside' =>
          closeRepetition_within.mono (Cursor.drop_one_behind (inside'.trans inside))

theorem repetition_within {operator : Char} {content : Tree} :
    Within c.next.rest (repetition operator content c) := by
  unfold repetition
  split
  · exact .ok (pastLazy_suffix _)
  · exact countedRepetition_within.mono ((Cursor.next_suffix _).trans c.nextSkipping_suffix)

theorem repetition_agrees (h : c.Follows text c') {operator : Char}
    (here : c.head? = some operator) {content content' : Tree} (same : SameTree content content') :
    Agrees text SameTree beyond (repetition operator content c)
      (repetition operator content' c') := by
  have follows := pastLazy_follows (h.next here)
  unfold repetition
  split
  · exact .ok (by rw [SameTree, Tree.bare, Tree.bare, same]) follows
  · exact countedRepetition_agrees h here same

@[simp] theorem Tree.isRepeatable_bare (t : Tree) : t.bare.isRepeatable = t.isRepeatable := by
  cases t <;> rfl

theorem Tree.ofSequence_bare (span : Span) (items : List Tree) :
    (ofSequence span items).bare = ofSequence nowhere (items.map bare) := by
  match items with
  | [] | [_] => rfl
  | _ :: _ :: _ => simp only [ofSequence, bare, bares_eq_map, List.map_cons]

theorem Tree.ofAlternatives_bare (span : Span) (items : List Tree) :
    (ofAlternatives span items).bare = ofAlternatives nowhere (items.map bare) := by
  match items with
  | [] | [_] => rfl
  | _ :: _ :: _ => simp only [ofAlternatives, bare, bares_eq_map, List.map_cons]

/-- Items of a sequence that are alike but for spans. -/
abbrev SameItems (items items' : List Tree) : Prop := items'.map Tree.bare = items.map Tree.bare

/-- Sequences that are alike but for spans. -/
abbrev SameSequence (s s' : Sequence) : Prop := SameItems s.itemsReversed s'.itemsReversed

def Sequence.push (s : Sequence) (t : Tree) : Sequence :=
  { s with itemsReversed := t :: s.itemsReversed }

theorem SameItems.cons {items items' : List Tree} (same : SameItems items items') {t t' : Tree}
    (first : SameTree t t') : SameItems (t :: items) (t' :: items') := by
  rw [SameItems, List.map_cons, List.map_cons, same, first]

theorem SameItems.alternatives {done done' : List Tree} (same : SameItems done done')
    (span span' : Span) :
    SameTree (Tree.ofAlternatives span done.reverse) (Tree.ofAlternatives span' done'.reverse) := by
  simp only [SameTree, Tree.ofAlternatives_bare, List.map_reverse, same]

namespace SameSequence

variable {s s' : Sequence}

theorem push (same : SameSequence s s') {t t' : Tree} (last : SameTree t t') :
    SameSequence (s.push t) (s'.push t') :=
  SameItems.cons same last

theorem tree (same : SameSequence s s') (d d' : Cursor) : SameTree (s.tree d) (s'.tree d') := by
  simp only [SameTree, Sequence.tree, Tree.ofSequence_bare, List.map_reverse, same]

end SameSequence

/-- The last item of a sequence repeated by an operator. -/
def repeatLast (operator : Char) (s : Sequence) (c : Cursor) : Except Fault (Sequence × Cursor) :=
  match s.itemsReversed with
  | [] => Cursor.fail .repetitionMissing c.empty
  | last :: others =>
    if last.isRepeatable then
      repetition operator last c >>= fun (t, d) =>
        .ok ({ s with itemsReversed := t :: others }, d)
    else Cursor.fail .repetitionMissing c.empty

/-- A group as the next item of a sequence, after its opening. -/
def readGroup (fuel : Nat) (captures : Bool) (changes : FlagChanges) (s : Sequence)
    (c inside : Cursor) : Except Fault (Sequence × Cursor) :=
  let inside := { inside with ignoresSpace := changes.apply .ignoreWhitespace c.ignoresSpace }
  readAlternatives fuel inside.offset [] inside >>= fun (content, closing) =>
    if closing.isAtEnd then Cursor.fail .groupUnclosed c.here
    else
      let after := { closing.next with ignoresSpace := c.ignoresSpace }
      .ok (s.push (.group (after.since c.offset) captures changes content), after)

/-- What an opening begins as the next item of a sequence. -/
def readOpened (fuel : Nat) (s : Sequence) (c : Cursor) :
    Opening × Cursor → Except Fault (Sequence × Cursor)
  | (.flags changes, after) =>
    let after := { after with ignoresSpace := changes.apply .ignoreWhitespace c.ignoresSpace }
    .ok (s.push (.flags (after.since c.offset) changes), after)
  | (.group captures changes, inside) => readGroup fuel captures changes s c inside

/-- The next item of a sequence, which begins with some character. -/
def readItem (fuel : Nat) (char : Char) (s : Sequence) (c : Cursor) :
    Except Fault (Sequence × Cursor) :=
  if char = '(' then opening c >>= readOpened fuel s c
  else if char = '[' then
    brackets fuel c >>= fun ((span, negated, content), d) =>
      .ok (s.push (.bracketed span negated content), d)
  else if char = '?' || char = '*' || char = '+' || char = '\x7b' then repeatLast char s c
  else element char c >>= fun ((span, e), d) => .ok (s.push (e.toTree span), d)

theorem readSequence_succ (fuel : Nat) (s : Sequence) (c : Cursor) :
    readSequence (fuel + 1) s c =
      match c.skipIgnored.head? with
      | none => .ok (s.tree c.skipIgnored, c.skipIgnored)
      | some char =>
        if char = '|' ∨ char = ')' then .ok (s.tree c.skipIgnored, c.skipIgnored)
        else readItem fuel char s c.skipIgnored >>= fun (s, d) => readSequence fuel s d := by
  rw [readSequence]
  simp only
  generalize c.skipIgnored = c
  cases here : c.head? with
  | none => rfl
  | some char =>
      simp only
      split
      · next none => cases none
      · next same => cases same; rfl
      · next same => cases same; rfl
      · next same =>
        cases same
        change opening c >>= _ = (opening c >>= readOpened fuel s c) >>= _
        cases opening c with
        | error fault => rfl
        | ok opened =>
            obtain ⟨⟨captures, changes⟩ | changes, inside⟩ := opened
            · simp only [bind, Except.bind, readOpened, readGroup]
              cases readAlternatives fuel _ [] _ with
              | error fault => rfl
              | ok result =>
                  simp only
                  split <;> rfl
            · rfl
      · next same =>
        cases same
        change brackets fuel c >>= _ = (brackets fuel c >>= _) >>= _
        cases brackets fuel c <;> rfl
      · next noBar noParen noOpening noBracket same =>
        cases same
        rw [if_neg (not_or.mpr ⟨noBar, noParen⟩), readItem, if_neg noOpening, if_neg noBracket]
        split
        · unfold repeatLast
          cases s.itemsReversed with
          | nil => rfl
          | cons last others =>
              simp only
              split
              · cases repetition char last c <;> rfl
              · rfl
        · cases element char c <;> rfl

theorem repeatLast_within {operator : Char} {s : Sequence} :
    Within c.next.rest (repeatLast operator s c) := by
  unfold repeatLast
  split
  · exact .fail _ _
  · split
    · exact repetition_within.map _
    · exact .fail _ _

theorem readGroup_within {fuel : Nat}
    (inner : ∀ start done (d : Cursor), Within d.rest (readAlternatives fuel start done d))
    {captures : Bool} {changes : FlagChanges} {s : Sequence} {inside : Cursor} :
    Within inside.rest (readGroup fuel captures changes s c inside) := by
  refine (inner _ _ _).bind fun content closing within => ?_
  simp only
  split
  · exact .fail _ _
  · exact .ok (closing.next_suffix.trans within)

theorem readItem_within {fuel : Nat}
    (inner : ∀ start done (d : Cursor), Within d.rest (readAlternatives fuel start done d))
    {char : Char} {s : Sequence} : Within c.next.rest (readItem fuel char s c) := by
  unfold readItem
  split_ifs
  · refine opening_within.bind fun opened d inside => ?_
    cases opened with
    | group captures changes => exact (readGroup_within inner).mono inside
    | flags changes => exact .ok inside
  · exact (brackets_within fuel c).map _
  · exact repeatLast_within
  · exact element_within.map _

mutual

theorem readAlternatives_within (fuel start : Nat) (done : List Tree) (c : Cursor) :
    Within c.rest (readAlternatives fuel start done c) := by
  cases fuel with
  | zero => exact .fail _ _
  | succ fuel =>
      rw [readAlternatives]
      refine (readSequence_within fuel _ c).bind fun t d inside => ?_
      simp only
      split
      · exact (readAlternatives_within fuel start _ _).mono (d.next_suffix.trans inside)
      · exact .ok inside
termination_by fuel

theorem readSequence_within (fuel : Nat) (s : Sequence) (c : Cursor) :
    Within c.rest (readSequence fuel s c) := by
  cases fuel with
  | zero => exact .fail _ _
  | succ fuel =>
      have skipped := c.skipIgnored_suffix
      rw [readSequence_succ]
      split
      · exact .ok skipped
      · split
        · exact .ok skipped
        · refine (readItem_within (readAlternatives_within fuel)).bind fun s d inside => ?_
          have inside := inside.trans (c.skipIgnored.next_suffix.trans skipped)
          exact (readSequence_within fuel s d).mono inside
termination_by fuel

end

/-- A sequence ends in front of a bar, a closing parenthesis or the end. -/
theorem head?_of_readSequence {fuel : Nat} {s : Sequence} {t : Tree} {d : Cursor}
    (h : readSequence fuel s c = .ok (t, d)) :
    d.head? = none ∨ d.head? = some '|' ∨ d.head? = some ')' := by
  induction fuel generalizing s c with
  | zero => cases h
  | succ fuel ih =>
      rw [readSequence_succ] at h
      split at h
      · next stop =>
        cases h
        exact .inl stop
      · next char here =>
        split at h
        · next stop =>
          cases h
          exact .inr (by simpa [here] using stop)
        · obtain ⟨_, -, h⟩ := bind_eq_ok_iff.mp h
          exact ih h

/-- Alternatives end in front of a closing parenthesis or the end. -/
theorem head?_of_readAlternatives {fuel start : Nat} {done : List Tree} {t : Tree} {d : Cursor}
    (h : readAlternatives fuel start done c = .ok (t, d)) :
    d.head? = none ∨ d.head? = some ')' := by
  induction fuel generalizing done c with
  | zero => cases h
  | succ fuel ih =>
      rw [readAlternatives] at h
      obtain ⟨⟨tree, e⟩, read, h⟩ := bind_eq_ok_iff.mp h
      simp only at h
      split at h
      · exact ih h
      · next noBar =>
        cases h
        rcases head?_of_readSequence read with stop | stop | stop
        · exact .inl stop
        · exact absurd stop noBar
        · exact .inr stop

theorem repeatLast_agrees (h : c.Follows text c') {operator : Char}
    (here : c.head? = some operator) {s s' : Sequence} (same : SameSequence s s') :
    Agrees text SameSequence beyond (repeatLast operator s c) (repeatLast operator s' c') := by
  unfold repeatLast
  cases items : s.itemsReversed with
  | nil =>
      rw [SameSequence, items] at same
      rw [List.map_eq_nil_iff.mp same]
      exact .fail _ _ _ _
  | cons last others =>
      rw [SameSequence, items] at same
      obtain ⟨last', others', items', alike, same⟩ := List.map_eq_cons_iff.mp same
      have repeatable : last'.isRepeatable = last.isRepeatable := by
        rw [← last'.isRepeatable_bare, alike, last.isRepeatable_bare]
      simp only [items', repeatable]
      split
      · exact (repetition_agrees h here alike).map fun _ _ _ _ first => SameItems.cons same first
      · exact .fail _ _ _ _

theorem Element.toTree_bare (span span' : Span) (e : Element) :
    (e.toTree span').bare = (e.toTree span).bare := by
  cases e <;> rfl

/-- What a change of flags sets does not move the cursor. -/
theorem Cursor.Follows.withFlag (h : c.Follows text c') (ignoresSpace : Bool) :
    { c with ignoresSpace := ignoresSpace }.Follows text
      { c' with ignoresSpace := ignoresSpace } :=
  ⟨h.inside, h.rest, rfl, h.names⟩

/-- A group that the pattern leaves open takes the parenthesis behind the pattern as its own. -/
theorem readGroup_agrees {fuel fuel' : Nat} (h : c.Follows text c') {inside inside' : Cursor}
    (follows : inside.Follows text inside')
    (inner : ∀ d d' : Cursor, d.Follows text d' → d.rest = inside.rest →
      Agrees text SameTree beyond (readAlternatives fuel d.offset [] d)
        (readAlternatives fuel' d'.offset [] d'))
    {captures : Bool} {changes : FlagChanges} {s s' : Sequence} (same : SameSequence s s') :
    Agrees text SameSequence beyond (readGroup fuel captures changes s c inside)
      (readGroup fuel' captures changes s' c' inside') := by
  unfold readGroup
  simp only [h.ignoresSpace, Cursor.isAtEnd_eq]
  have opened := follows.withFlag (changes.apply .ignoreWhitespace c.ignoresSpace)
  refine (inner _ _ opened rfl).bind ?_ ?_
  · intro t t' d d' _ content follows
    cases here : d.head? with
    | none =>
        refine .error _ ?_
        split
        · exact .fail _ _
        · exact .ok (follows.next_suffix_of_none here)
    | some x =>
        rw [follows.head?_of_some here]
        refine .ok (same.push ?_) ((follows.next here).withFlag _)
        rw [SameTree, Tree.bare, Tree.bare, content]
  · intro t d within
    simp only
    split
    · exact .fail _ _
    · exact .ok (d.next_suffix.trans within)

theorem readItem_agrees {fuel fuel' : Nat} (h : c.Follows text c') {char : Char}
    (here : c.head? = some char)
    (inner : ∀ d d' : Cursor, d.Follows text d' → d.rest <:+ c.next.rest →
      Agrees text SameTree beyond (readAlternatives fuel d.offset [] d)
        (readAlternatives fuel' d'.offset [] d'))
    {s s' : Sequence} (same : SameSequence s s') (enough : 2 * c.rest.length ≤ fuel)
    (le : fuel ≤ fuel') :
    Agrees text SameSequence beyond (readItem fuel char s c) (readItem fuel' char s' c') := by
  unfold readItem
  split_ifs with paren
  · refine (opening_agrees h (paren ▸ here)).bind ?_ ?_
    · rintro opened _ d d' read rfl follows
      have inside := opening_within opened d read
      cases opened with
      | group captures changes =>
          refine readGroup_agrees h follows (fun e e' follows start => ?_) same
          exact inner e e' follows (start ▸ inside)
      | flags changes =>
          simp only [readOpened, h.ignoresSpace]
          exact .ok (same.push rfl) (follows.withFlag _)
    · intro opened d inside
      cases opened with
      | group captures changes =>
          exact (readGroup_within (readAlternatives_within fuel')).mono inside
      | flags changes => exact .ok inside
  · refine (brackets_agrees fuel fuel' h here enough le).map ?_
    rintro ⟨span, negated, content⟩ ⟨span', _, content'⟩ d d' ⟨rfl, like⟩
    refine same.push ?_
    simp only [SameTree, Tree.bare, show content'.bare = content.bare from like]
  · exact repeatLast_agrees h here same
  · refine (element_agrees h here).map ?_
    rintro ⟨span, e⟩ ⟨span', _⟩ d d' rfl
    exact same.push (e.toTree_bare span span')

-- The induction is on the fuel of reading the pattern on its own. A call takes a character or comes
-- right after one that did, so what is left bounds the fuel that is needed from below.
mutual

theorem readAlternatives_agrees (fuel fuel' : Nat) {text : List Char} {c c' : Cursor}
    (h : c.Follows text c') {start start' : Nat} {done done' : List Tree}
    (same : SameItems done done') (enough : 2 * c.rest.length + 2 ≤ fuel) (le : fuel ≤ fuel') :
    Agrees text SameTree beyond (readAlternatives fuel start done c)
      (readAlternatives fuel' start' done' c') := by
  cases fuel with
  | zero => omega
  | succ fuel =>
      obtain ⟨fuel', rfl⟩ : ∃ n, fuel' = n + 1 := Nat.exists_eq_succ_of_ne_zero (by omega)
      rw [readAlternatives, readAlternatives]
      have sequence : Agrees text SameTree beyond (readSequence fuel ⟨c.offset, []⟩ c)
          (readSequence fuel' ⟨c'.offset, []⟩ c') :=
        readSequence_agrees fuel fuel' h rfl (by omega) (by omega)
      refine sequence.bind ?_ ?_
      · intro t t' d d' read first follows
        have inside := (readSequence_within fuel _ c t d read).length_le
        have same := same.cons first
        rcases follows.head?_cases with ⟨stop, stop'⟩ | ⟨stop, stop'⟩ | ⟨x, here, here'⟩
        · simp only [stop, stop']
          exact .ok (same.alternatives _ _) follows
        · simp only [stop, stop']
          exact .ok (same.alternatives _ _) follows
        · have nonempty := Cursor.length_pos_of_head? here
          have shorter : d.next.rest.length = d.rest.length - 1 := List.length_drop
          simp only [here, here']
          split
          · exact readAlternatives_agrees fuel fuel' (follows.next here) same (by omega) (by omega)
          · exact .ok (same.alternatives _ _) follows
      · intro t d inside
        simp only
        split
        · exact (readAlternatives_within _ _ _ _).mono (d.next_suffix.trans inside)
        · exact .ok inside
termination_by fuel

theorem readSequence_agrees (fuel fuel' : Nat) {text : List Char} {c c' : Cursor}
    (h : c.Follows text c') {s s' : Sequence} (same : SameSequence s s')
    (enough : 2 * c.rest.length + 1 ≤ fuel) (le : fuel ≤ fuel') :
    Agrees text SameTree beyond (readSequence fuel s c) (readSequence fuel' s' c') := by
  have follows := h.skipIgnored
  cases fuel with
  | zero => omega
  | succ fuel =>
      obtain ⟨fuel', rfl⟩ : ∃ n, fuel' = n + 1 := Nat.exists_eq_succ_of_ne_zero (by omega)
      have skipped := c.skipIgnored_suffix.length_le
      rw [readSequence_succ, readSequence_succ]
      rcases follows.head?_cases with ⟨stop, stop'⟩ | ⟨stop, stop'⟩ | ⟨x, here, here'⟩
      · simp only [stop, stop']
        exact .ok (same.tree _ _) follows
      · simp only [stop, stop']
        exact .ok (same.tree _ _) follows
      · have nonempty := Cursor.length_pos_of_head? here
        have shorter : ∀ d : Cursor, d.rest <:+ c.skipIgnored.next.rest →
            2 * d.rest.length + 2 ≤ fuel := fun d inside => by
          have := inside.length_le.trans_eq List.length_drop
          omega
        simp only [here, here']
        split
        · exact .ok (same.tree _ _) follows
        · refine (readItem_agrees follows here (fun d d' follows inside => ?_) same (by omega)
            (by omega)).bind ?_ ?_
          · exact readAlternatives_agrees fuel fuel' follows rfl (shorter d inside) (by omega)
          · intro s s' d d' read same follows
            have inside := readItem_within (readAlternatives_within fuel) s d read
            have := shorter d inside
            exact readSequence_agrees fuel fuel' follows same (by omega) (by omega)
          · exact fun s d inside => (readSequence_within fuel' s d).mono inside
termination_by fuel

end

end Exposition.Pattern
