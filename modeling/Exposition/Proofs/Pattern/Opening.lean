import Exposition.Pattern.Reader
import Exposition.Proofs.Pattern.Cursor

/-! # Openings of groups in front of a closing parenthesis

Flags can end with a parenthesis, so those that the pattern breaks off are complete with the one
behind it. Then that parenthesis is used up.
-/

namespace Exposition.Pattern

open Cursor (beyond behind)

variable {text : List Char} {c c' : Cursor}

/-- The same is found in lists of the same keys. -/
theorem find?_cases_of_keys {α β : Type} [DecidableEq α] {xs ys : List (α × β)}
    (same : ys.map (·.1) = xs.map (·.1)) (a : α) :
    (xs.find? (·.1 = a) = none ∧ ys.find? (·.1 = a) = none) ∨
      ∃ x y, xs.find? (·.1 = a) = some x ∧ ys.find? (·.1 = a) = some y := by
  have found := congrArg (·.find? (· = a)) same
  simp only [List.find?_map, Function.comp_def] at found
  cases here : xs.find? (·.1 = a) with
  | none => exact .inl ⟨rfl, by simpa [here] using found⟩
  | some x =>
      rw [here] at found
      obtain ⟨y, here', -⟩ := Option.map_eq_some_iff.mp found
      exact .inr ⟨x, y, rfl, here'⟩

/-- What a letter between flags stands for: one of them, or a minus. -/
def flagOf? (letter : Char) : Option (Option Flag) :=
  if letter = '-' then some none else (Flag.ofLetter? letter).map some

/-- The flags at their end, where no minus may stand. -/
def endOfFlags (items : List FlagItem) (c : Cursor) : Except Fault (List FlagItem × Cursor) :=
  match items with
  | (none, span) :: _ => Cursor.fail .flagDanglingNegation span
  | _ => .ok (items, c)

theorem flagItems_succ (fuel : Nat) (items : List FlagItem) (c : Cursor) :
    flagItems (fuel + 1) items c =
      match c.head? with
      | none => Cursor.fail .flagUnclosed c.empty
      | some letter =>
        if letter = ':' ∨ letter = ')' then endOfFlags items c
        else
          match flagOf? letter with
          | none => Cursor.fail .flagUnrecognized c.here
          | some flag =>
            match items.find? (·.1 = flag) with
            | some (_, span) =>
              Cursor.failAgainst
                (if flag.isNone then .flagRepeatedNegation else .flagDuplicate) c.here span
            | none => flagItems fuel ((flag, c.here) :: items) c.next := by
  rw [flagItems.eq_def]
  cases here : c.head? with
  | none => simp only [here]
  | some letter =>
      simp only [here]
      split
      · next same => cases same
      · next same => cases same; rfl
      · next same => cases same; rfl
      · next noColon noParen same =>
        cases same
        rw [if_neg (not_or.mpr ⟨noColon, noParen⟩), flagOf?]
        split
        · rfl
        · cases Flag.ofLetter? letter <;> rfl

theorem flagItems_within {fuel : Nat} {items : List FlagItem} :
    Within c.rest (flagItems fuel items c) := by
  induction fuel generalizing items c with
  | zero => exact .fail _ _
  | succ fuel ih =>
      rw [flagItems_succ]
      split
      · exact .fail _ _
      · split
        · unfold endOfFlags
          split
          · exact .fail _ _
          · exact .ok List.suffix_rfl
        · split
          · exact .fail _ _
          · split
            · exact .error _
            · exact ih.mono c.next_suffix

/-- Flags that are alike but for spans. -/
abbrev SameFlags (items items' : List FlagItem) : Prop := items'.map (·.1) = items.map (·.1)

theorem endOfFlags_agrees (h : c.Follows text c') {items items' : List FlagItem}
    (same : SameFlags items items') :
    Agrees text SameFlags behind (endOfFlags items c) (endOfFlags items' c') := by
  match items, items' with
  | [], [] => exact .ok rfl h
  | (none, _) :: _, (none, _) :: _ => exact .fail _ _ _ _
  | (some _, _) :: _, (some _, _) :: _ => exact .ok same h

theorem flagItems_agrees (h : c.Follows text c') {fuel fuel' : Nat} {items items' : List FlagItem}
    (same : SameFlags items items') (enough : c.rest.length ≤ fuel) (le : fuel ≤ fuel') :
    Agrees text SameFlags behind (flagItems fuel items c) (flagItems fuel' items' c') := by
  induction fuel generalizing fuel' items items' c c' with
  | zero =>
      have stop := Cursor.head?_of_length enough
      exact .error _ (flagItems_within.mono (h.suffix_behind_of_none stop))
  | succ fuel ih =>
      obtain ⟨fuel', rfl⟩ : ∃ n, fuel' = n + 1 := Nat.exists_eq_succ_of_ne_zero (by omega)
      cases here : c.head? with
      | none =>
          rw [flagItems_succ, here]
          exact .error _ (flagItems_within.mono (h.suffix_behind_of_none here))
      | some letter =>
          have nonempty := Cursor.length_pos_of_head? here
          have shorter : c.next.rest.length = c.rest.length - 1 := List.length_drop
          rw [flagItems_succ, flagItems_succ, here, h.head?_of_some here]
          simp only
          split
          · exact endOfFlags_agrees h same
          · split
            · exact .fail _ _ _ _
            · next flag _ =>
              rcases find?_cases_of_keys same flag with ⟨new, new'⟩ | ⟨_, _, old, old'⟩
              · simp only [new, new']
                refine ih (h.next here) ?_ (by omega) (by omega)
                rw [SameFlags, List.map_cons, List.map_cons, same]
              · simp only [old, old']
                exact .error _ (.error _)

/-- Flags end in front of a colon or a parenthesis. -/
theorem head?_of_flagItems {fuel : Nat} {items found : List FlagItem} {d : Cursor}
    (h : flagItems fuel items c = .ok (found, d)) : ∃ x, d.head? = some x := by
  induction fuel generalizing items c with
  | zero => cases h
  | succ fuel ih =>
      rw [flagItems_succ] at h
      split at h
      · cases h
      · next letter here =>
        split at h
        · unfold endOfFlags at h
          split at h
          · cases h
          · cases h
            exact ⟨letter, here⟩
        · split at h
          · cases h
          · split at h
            · cases h
            · exact ih h

theorem flagChanges_congr {items items' : List FlagItem} (same : SameFlags items items')
    (on : Bool) : flagChanges on items' = flagChanges on items := by
  induction items generalizing items' on with
  | nil => rw [List.map_eq_nil_iff.mp same]
  | cons item items ih =>
      cases items' with
      | nil => cases same
      | cons item' items' =>
          obtain ⟨flag, span⟩ := item
          obtain ⟨flag', span'⟩ := item'
          obtain ⟨⟨⟩, others⟩ := List.cons.inj same
          cases flag with
          | none => exact ih others false
          | some flag => exact congrArg ((flag, on) :: ·) (ih others on)

theorem captureNameChars_within {fuel : Nat} {first : Bool} :
    Within c.rest (captureNameChars fuel first c) := by
  induction fuel generalizing first c with
  | zero => exact .fail _ _
  | succ fuel ih =>
      rw [captureNameChars]
      split
      · exact .fail _ _
      · exact .ok List.suffix_rfl
      · split
        · exact (ih.mono c.next_suffix).map _
        · exact .fail _ _

theorem captureNameChars_agrees (h : c.Follows text c') {fuel fuel' : Nat} {first : Bool}
    (enough : c.rest.length ≤ fuel) (le : fuel ≤ fuel') :
    Agrees text Eq behind (captureNameChars fuel first c) (captureNameChars fuel' first c') := by
  induction fuel generalizing fuel' first c c' with
  | zero =>
      have stop := Cursor.head?_of_length enough
      exact .error _ (captureNameChars_within.mono (h.suffix_behind_of_none stop))
  | succ fuel ih =>
      obtain ⟨fuel', rfl⟩ : ∃ n, fuel' = n + 1 := Nat.exists_eq_succ_of_ne_zero (by omega)
      cases here : c.head? with
      | none =>
          rw [captureNameChars, here]
          exact .error _ (captureNameChars_within.mono (h.suffix_behind_of_none here))
      | some x =>
          have nonempty := Cursor.length_pos_of_head? here
          have shorter : c.next.rest.length = c.rest.length - 1 := List.length_drop
          rw [captureNameChars, captureNameChars, here, h.head?_of_some here]
          simp only
          split
          · next none => cases none
          · exact .ok rfl h
          · split
            · refine (ih (h.next here) (by omega) (by omega)).map ?_
              exact fun _ _ _ _ same => by rw [same]
            · exact .fail _ _ _ _

theorem head?_of_captureNameChars {fuel : Nat} {first : Bool} {name : List Char} {d : Cursor}
    (h : captureNameChars fuel first c = .ok (name, d)) : d.head? = some '>' := by
  induction fuel generalizing first c name with
  | zero => cases h
  | succ fuel ih =>
      rw [captureNameChars] at h
      split at h
      · cases h
      · next closing =>
        cases h
        exact closing
      · split at h
        · obtain ⟨⟨rest, e⟩, read, ⟨⟩⟩ := bind_eq_ok_iff.mp h
          exact ih read
        · cases h

/-- The opening of a group that is captured under a name. -/
def namedOpening (c : Cursor) : Except Fault (Opening × Cursor) := do
  return (.group true [], ← captureName c)

theorem namedOpening_eq (c : Cursor) :
    namedOpening c =
      captureNameChars (c.rest.length + 1) true c >>= fun (name, closing) =>
        let span := closing.since c.offset
        if name.isEmpty then Cursor.fail .captureNameEmpty span
        else
          match closing.captureNames.find? (·.1 = name) with
          | some (_, other) => Cursor.failAgainst .captureNameDuplicate span other
          | none =>
            .ok (.group true [],
              { closing.next with captureNames := (name, span) :: closing.captureNames }) := by
  rw [namedOpening, captureName]
  cases captureNameChars (c.rest.length + 1) true c with
  | error fault => rfl
  | ok result =>
      obtain ⟨name, closing⟩ := result
      simp only [bind, Except.bind]
      cases name with
      | nil => rfl
      | cons first name =>
          cases closing.captureNames.find? (·.1 = first :: name) <;> rfl

theorem namedOpening_within : Within c.rest (namedOpening c) := by
  rw [namedOpening_eq]
  refine captureNameChars_within.bind fun name d inside => ?_
  simp only
  split
  · exact .fail _ _
  · split
    · exact .error _
    · exact .ok (d.next_suffix.trans inside)

theorem namedOpening_agrees (h : c.Follows text c') :
    Agrees text Eq beyond (namedOpening c) (namedOpening c') := by
  rw [namedOpening_eq, namedOpening_eq]
  have le := h.length_le
  refine (captureNameChars_agrees h (by omega) (by omega)).bind ?_ ?_
  · rintro name _ d d' read rfl follows
    simp only
    split
    · exact .fail _ _ _ _
    · rcases find?_cases_of_keys follows.names name with ⟨new, new'⟩ | ⟨_, _, old, old'⟩
      · simp only [new, new']
        have next := follows.next (head?_of_captureNameChars read)
        refine .ok rfl ⟨next.inside, next.rest, next.ignoresSpace, ?_⟩
        rw [List.map_cons, List.map_cons, follows.names]
      · simp only [old, old']
        exact .error _ (.error _)
  · intro name d inside
    simp only
    split
    · exact .fail _ _
    · split
      · exact .error _
      · exact .ok (Cursor.drop_one_behind inside)

/-- What an opening with flags is, after its question mark. -/
def flagOpening (paren : Span) (inner c : Cursor) : Except Fault (Opening × Cursor) := do
  if c.isAtEnd then Cursor.fail .groupUnclosed paren
  else
    let (items, c) ← flagItems (c.rest.length + 1) [] c
    let changes := flagChanges true items.reverse
    if c.head? = some ')' then
      if items.isEmpty then Cursor.fail .repetitionMissing inner.empty
      else return (.flags changes, c.next)
    else return (.group false changes, c.next)

/-- The words of the openings that look around. -/
def lookAroundWords : List (List Char) := [['?', '='], ['?', '!'], ['?', '<', '='], ['?', '<', '!']]

theorem opening_eq (c : Cursor) :
    opening c =
      match lookAroundWords.findSome? c.nextSkipping.past? with
      | some d => Cursor.fail .lookAround (d.since c.offset)
      | none =>
        match c.nextSkipping.past? ['?', 'P', '<'] with
        | some d => namedOpening d
        | none =>
          match c.nextSkipping.past? ['?'] with
          | some d => flagOpening c.here c.nextSkipping d
          | none => .ok (.group true [], c.nextSkipping) := by
  unfold opening
  simp only
  rw [← lookAroundWords]
  cases lookAroundWords.findSome? c.nextSkipping.past? with
  | some d => rfl
  | none =>
      cases c.nextSkipping.past? ['?', 'P', '<'] with
      | some d => rfl
      | none => cases c.nextSkipping.past? ['?'] <;> rfl

theorem flagOpening_within {paren : Span} {inner : Cursor} :
    Within c.next.rest (flagOpening paren inner c) := by
  unfold flagOpening
  split
  · exact .fail _ _
  · refine flagItems_within.bind fun items d inside => ?_
    simp only
    split
    · split
      · exact .fail _ _
      · exact .ok (Cursor.drop_one_suffix inside)
    · exact .ok (Cursor.drop_one_suffix inside)

theorem flagOpening_agrees (h : c.Follows text c') {paren paren' : Span} {inner inner' : Cursor} :
    Agrees text Eq beyond (flagOpening paren inner c) (flagOpening paren' inner' c') := by
  cases here : c.head? with
  | none =>
      refine .of_none h here ?_ flagOpening_within
      rw [flagOpening, Cursor.isAtEnd_eq, here]
      rfl
  | some x =>
      have le := h.length_le
      unfold flagOpening
      simp only [Cursor.isAtEnd_eq, here, h.head?_of_some here]
      refine (flagItems_agrees h rfl (by omega) (by omega)).bind ?_ ?_
      · intro items items' d d' read same follows
        obtain ⟨y, closing⟩ := head?_of_flagItems read
        have changes : flagChanges true items'.reverse = flagChanges true items.reverse :=
          flagChanges_congr (by rw [SameFlags, List.map_reverse, List.map_reverse, same]) true
        have empty : items'.isEmpty = items.isEmpty := by
          rw [← List.isEmpty_map (f := (·.1)), same, List.isEmpty_map]
        simp only [closing, follows.head?_of_some closing, changes, empty]
        split
        · split
          · exact .fail _ _ _ _
          · exact .ok rfl (follows.next closing)
        · exact .ok rfl (follows.next closing)
      · intro items d inside
        have inside := Cursor.drop_one_behind inside
        simp only
        split
        · split
          · exact .fail _ _
          · exact .ok inside
        · exact .ok inside

/-- The opening parenthesis is read at least. -/
theorem opening_within : Within c.next.rest (opening c) := by
  rw [opening_eq]
  split
  · exact .fail _ _
  · split
    · next found =>
      exact namedOpening_within.mono ((Cursor.past?_suffix found).trans c.nextSkipping_suffix)
    · split
      · next d found =>
        exact flagOpening_within.mono
          (d.next_suffix.trans ((Cursor.past?_suffix found).trans c.nextSkipping_suffix))
      · exact .ok c.nextSkipping_suffix

theorem findSome?_past?_cases (h : c.Follows text c') {words : List (List Char)}
    (plain : ∀ word ∈ words, word ≠ [] ∧ ')' ∉ word) :
    (words.findSome? c.past? = none ∧ words.findSome? c'.past? = none) ∨
      ∃ d d', words.findSome? c.past? = some d ∧ words.findSome? c'.past? = some d' := by
  induction words with
  | nil => exact .inl ⟨rfl, rfl⟩
  | cons word words ih =>
      obtain ⟨⟨nonempty, apart⟩, plain⟩ := List.forall_mem_cons.mp plain
      rcases h.past? word nonempty apart with ⟨no, no'⟩ | ⟨d, d', found, found', -⟩
      · simp only [List.findSome?_cons, no, no']
        exact ih plain
      · exact .inr ⟨d, d', by simp only [List.findSome?_cons, found],
          by simp only [List.findSome?_cons, found']⟩

theorem opening_agrees (h : c.Follows text c') (here : c.head? = some '(') :
    Agrees text Eq beyond (opening c) (opening c') := by
  have inner := h.nextSkipping here
  have plain : ∀ word ∈ lookAroundWords, word ≠ [] ∧ ')' ∉ word := by decide
  rw [opening_eq, opening_eq]
  rcases findSome?_past?_cases inner plain with ⟨no, no'⟩ | ⟨d, d', found, found'⟩
  · simp only [no, no']
    rcases inner.past? ['?', 'P', '<'] (by decide) (by decide) with
      ⟨no, no'⟩ | ⟨d, d', found, found', follows⟩
    · simp only [no, no']
      rcases inner.past? ['?'] (by decide) (by decide) with
        ⟨no, no'⟩ | ⟨d, d', found, found', follows⟩
      · simp only [no, no']
        exact .ok rfl inner
      · simp only [found, found']
        exact flagOpening_agrees follows
    · simp only [found, found']
      exact namedOpening_agrees follows
  · simp only [found, found']
    exact .fail _ _ _ _

end Exposition.Pattern
