import Exposition.Pattern.Cursor
import Exposition.Proofs.Line.Basic
import Mathlib

/-! # A pattern in front of a closing parenthesis

The same pattern is read on its own and between anchors, where a closing parenthesis and the anchor
of the end stand behind it. Reading it there is compared with reading it on its own step by step:
two cursors at the same place of the pattern move on to the same place. The texts differ only where
the pattern ends. If reading the pattern fails there then reading on consumes the parenthesis that
was meant to close the group, so that group stays open.
-/

namespace Exposition.Pattern

namespace Cursor

theorem dropIgnored_suffix (inComment : Bool) (cs : List Char) :
    dropIgnored inComment cs <:+ cs := by
  induction cs generalizing inComment with
  | nil => exact List.suffix_rfl
  | cons c rest ih =>
      unfold dropIgnored
      split
      · exact (ih _).trans (List.suffix_cons c rest)
      · split
        · exact (ih _).trans (List.suffix_cons c rest)
        · split
          · exact (ih _).trans (List.suffix_cons c rest)
          · exact List.suffix_rfl

theorem next_suffix (c : Cursor) : c.next.rest <:+ c.rest := List.drop_suffix 1 c.rest

theorem skipIgnored_suffix (c : Cursor) : c.skipIgnored.rest <:+ c.rest := by
  unfold skipIgnored
  split
  · exact dropIgnored_suffix false c.rest
  · exact List.suffix_rfl

theorem nextSkipping_suffix (c : Cursor) : c.nextSkipping.rest <:+ c.next.rest :=
  c.next.skipIgnored_suffix

theorem nextSkipping_suffix_rest (c : Cursor) : c.nextSkipping.rest <:+ c.rest :=
  c.nextSkipping_suffix.trans c.next_suffix

/-- A cursor that is further on is further on after one more character. -/
theorem drop_one_suffix {cs ds : List Char} (h : cs <:+ ds) : cs.drop 1 <:+ ds.drop 1 := by
  obtain ⟨front, rfl⟩ := h
  cases front with
  | nil => exact List.suffix_rfl
  | cons d front => exact (List.drop_suffix 1 cs).trans (List.suffix_append front cs)

theorem isAtEnd_eq (c : Cursor) : c.isAtEnd = c.head?.isNone := by
  cases start : c.rest <;> simp [isAtEnd, head?, start]

theorem length_nextSkipping_le (c : Cursor) :
    c.nextSkipping.rest.length ≤ c.rest.length - 1 :=
  c.nextSkipping_suffix.length_le.trans_eq List.length_drop

theorem head?_of_length {c : Cursor} (short : c.rest.length ≤ 0) : c.head? = none :=
  List.head?_eq_none_iff.mpr (List.eq_nil_of_length_eq_zero (Nat.le_zero.mp short))

theorem length_pos_of_head? {c : Cursor} {x : Char} (here : c.head? = some x) :
    0 < c.rest.length :=
  List.length_pos_of_mem (List.mem_of_head? here)

theorem head?_nextSkipping_of_none {c : Cursor} (stop : c.head? = none) :
    c.nextSkipping.head? = none := by
  have short := c.length_nextSkipping_le
  rw [List.head?_eq_none_iff.mp stop] at short
  exact head?_of_length short

theorem past?_suffix {word : List Char} {c d : Cursor} (h : c.past? word = some d) :
    d.rest <:+ c.rest := by
  obtain ⟨-, ⟨⟩⟩ := Option.ite_none_right_eq_some.mp h
  exact List.drop_suffix _ _

theorem past?_suffix_next {first : Char} {word : List Char} {c d : Cursor}
    (h : c.past? (first :: word) = some d) : d.rest <:+ c.next.rest := by
  obtain ⟨-, ⟨⟩⟩ := Option.ite_none_right_eq_some.mp h
  simp only [next, List.length_cons, Nat.add_comm _ 1, ← List.drop_drop]
  exact List.drop_suffix _ _

/-- What stands behind the group of a pattern between anchors. -/
def beyond : List Char := ['$']

/-- What stands behind a pattern between anchors. -/
def behind : List Char := ')' :: beyond

/-- Wherever a comment may start it ends inside of the text. -/
def CommentsClosed (text : List Char) : Prop :=
  ∀ back ∈ text.tails, back.head? = some '#' → '\n' ∈ back

instance : DecidablePred CommentsClosed := fun text =>
  inferInstanceAs (Decidable (∀ back ∈ text.tails, back.head? = some '#' → '\n' ∈ back))

theorem CommentsClosed.suffix {text cs : List Char} (h : CommentsClosed text) (le : cs <:+ text) :
    CommentsClosed cs := fun back inside =>
  h back ((List.mem_tails _ _).mpr (((List.mem_tails _ _).mp inside).trans le))

theorem CommentsClosed.comment {cs : List Char} (h : CommentsClosed ('#' :: cs)) : '\n' ∈ cs :=
  (List.mem_cons.mp (h _ ((List.mem_tails _ _).mpr List.suffix_rfl) rfl)).resolve_left (by decide)

/-- The second cursor is at the same place of a pattern as the first, in front of the same rest of
    the pattern and of what stands behind it, unless a comment that the pattern does not close has
    taken that in. -/
structure Follows (c : Cursor) (text : List Char) (c' : Cursor) : Prop where
  inside : c.rest <:+ text
  rest : c'.rest = c.rest ++ behind ∨ (c.rest = [] ∧ c'.rest = []) ∧ ¬ CommentsClosed text
  ignoresSpace : c'.ignoresSpace = c.ignoresSpace
  names : c'.captureNames.map (·.1) = c.captureNames.map (·.1)

theorem beyond_suffix_behind : beyond <:+ behind := List.suffix_cons _ _

theorem drop_one_behind {cs : List Char} (h : cs <:+ behind) : cs.drop 1 <:+ beyond :=
  drop_one_suffix h

namespace Follows

variable {text : List Char} {c c' : Cursor}

theorem length_le (h : c.Follows text c') : c.rest.length ≤ c'.rest.length := by
  rcases h.rest with rest | ⟨⟨rest, rest'⟩, -⟩
  · simp [rest]
  · simp [rest]

/-- Unless the pattern ends here, both cursors are in front of the same character. -/
theorem head?_cases (h : c.Follows text c') :
    (c.head? = none ∧ c'.head? = none) ∨ (c.head? = none ∧ c'.head? = some ')') ∨
      ∃ x, c.head? = some x ∧ c'.head? = some x := by
  unfold head?
  rcases h.rest with whole | ⟨⟨rest, rest'⟩, -⟩
  · cases rest : c.rest with
    | nil => exact .inr (.inl ⟨rfl, by simp [whole, rest, behind]⟩)
    | cons x rest => exact .inr (.inr ⟨x, rfl, by simp [whole, rest]⟩)
  · exact .inl ⟨by simp [rest], by simp [rest']⟩

theorem head?_of_some (h : c.Follows text c') {x : Char} (here : c.head? = some x) :
    c'.head? = some x := by
  rcases h.head?_cases with ⟨stop, -⟩ | ⟨stop, -⟩ | ⟨y, here', same⟩
  · simp [here] at stop
  · simp [here] at stop
  · rw [same, ← here', here]

theorem next (h : c.Follows text c') {x : Char} (here : c.head? = some x) :
    c.next.Follows text c'.next := by
  refine ⟨c.next_suffix.trans h.inside, .inl ?_, h.ignoresSpace, h.names⟩
  rcases h.rest with whole | ⟨⟨rest, -⟩, -⟩
  · obtain ⟨rest, start⟩ := List.head?_eq_some_iff.mp here
    simp [Cursor.next, whole, start]
  · simp [head?, rest] at here

/-- No character that is looked for is the parenthesis. -/
theorem head?_eq_iff (h : c.Follows text c') {x : Char} (other : x ≠ ')') :
    c'.head? = some x ↔ c.head? = some x := by
  rcases h.head?_cases with ⟨stop, stop'⟩ | ⟨stop, stop'⟩ | ⟨y, here, here'⟩
  · simp [stop, stop']
  · simp [stop, stop', other.symm]
  · simp [here, here']

/-- Where the pattern ends, nothing but what stands behind it is left. -/
theorem suffix_behind_of_none (h : c.Follows text c') (stop : c.head? = none) :
    c'.rest <:+ behind := by
  have stop : c.rest = [] := List.head?_eq_none_iff.mp stop
  rcases h.rest with whole | ⟨⟨-, none⟩, -⟩
  · simp [whole, stop]
  · simp [none]

/-- Where the pattern ends, one more character is all of what stands behind it but the anchor. -/
theorem next_suffix_of_none (h : c.Follows text c') (stop : c.head? = none) :
    c'.next.rest <:+ beyond :=
  drop_one_behind (h.suffix_behind_of_none stop)

end Follows

/-- In front of what stands behind a pattern the same is skipped, unless a comment does not end. -/
theorem dropIgnored_append (inComment : Bool) (cs : List Char) :
    dropIgnored inComment (cs ++ behind) = dropIgnored inComment cs ++ behind ∨
      (dropIgnored inComment cs = [] ∧ dropIgnored inComment (cs ++ behind) = []) ∧
        ¬ (CommentsClosed cs ∧ (inComment = true → '\n' ∈ cs)) := by
  induction cs generalizing inComment with
  | nil =>
      cases inComment with
      | true => exact .inr ⟨⟨rfl, rfl⟩, by simp⟩
      | false => exact .inl rfl
  | cons c rest ih =>
      have tail : CommentsClosed (c :: rest) → CommentsClosed rest := fun closed =>
        closed.suffix (List.suffix_cons c rest)
      rw [List.cons_append, dropIgnored, dropIgnored]
      split
      · next comment =>
        refine (ih _).imp id (And.imp id fun isOpen closed => isOpen ⟨tail closed.1, ?_⟩)
        intro more
        exact (List.mem_cons.mp (closed.2 comment)).resolve_left (bne_iff_ne.mp more).symm
      · split
        · exact (ih _).imp id (And.imp id fun isOpen closed => isOpen ⟨tail closed.1, by simp⟩)
        · split
          · next hash =>
            subst hash
            exact (ih _).imp id (And.imp id fun isOpen closed =>
              isOpen ⟨tail closed.1, fun _ => closed.1.comment⟩)
          · exact .inl rfl

theorem isPrefixOf_append_behind {word cs : List Char} (apart : ')' ∉ word) :
    word.isPrefixOf (cs ++ behind) = word.isPrefixOf cs := by
  induction word generalizing cs with
  | nil => simp
  | cons w word ih =>
      obtain ⟨other, apart⟩ := not_or.mp (List.mem_cons.not.mp apart)
      cases cs with
      | nil => simp [behind, List.isPrefixOf, Ne.symm other]
      | cons c cs => simp [List.isPrefixOf, ih apart]

namespace Follows

variable {text : List Char} {c c' : Cursor}

theorem skipIgnored (h : c.Follows text c') : c.skipIgnored.Follows text c'.skipIgnored := by
  unfold Cursor.skipIgnored
  rw [h.ignoresSpace]
  split
  · refine ⟨(dropIgnored_suffix false c.rest).trans h.inside, ?_, rfl, h.names⟩
    rcases h.rest with whole | ⟨⟨rest, rest'⟩, isOpen⟩
    · simp only [whole]
      refine (dropIgnored_append false c.rest).imp id (And.imp id fun isOpen closed => isOpen ?_)
      exact ⟨closed.suffix h.inside, by simp⟩
    · exact .inr ⟨by simp [rest, rest', dropIgnored], isOpen⟩
  · exact h

theorem nextSkipping (h : c.Follows text c') {x : Char} (here : c.head? = some x) :
    c.nextSkipping.Follows text c'.nextSkipping :=
  (h.next here).skipIgnored

/-- A word is found in both places or in none: none of those looked for has a parenthesis in it. -/
theorem past? (h : c.Follows text c') (word : List Char) (nonempty : word ≠ [])
    (apart : ')' ∉ word) :
    (c.past? word = none ∧ c'.past? word = none) ∨
      ∃ d d', c.past? word = some d ∧ c'.past? word = some d' ∧ d.Follows text d' := by
  unfold Cursor.past?
  rcases h.rest with whole | ⟨⟨rest, rest'⟩, -⟩
  · rw [whole, isPrefixOf_append_behind apart]
    by_cases here : word.isPrefixOf c.rest
    · obtain ⟨rest, split⟩ := List.isPrefixOf_iff_prefix.mp here
      refine .inr ⟨_, _, if_pos here, if_pos here, (List.drop_suffix _ _).trans h.inside, .inl ?_,
        h.ignoresSpace, h.names⟩
      simp [← split, List.append_assoc]
    · exact .inl ⟨if_neg here, if_neg here⟩
  · obtain ⟨x, word, rfl⟩ := List.exists_cons_of_ne_nil nonempty
    simp [rest, rest']

end Follows

end Cursor

/-- If something is read, the cursor after it is in front of some end of `stop`. -/
def Within {α : Type} (stop : List Char) (result : Except Fault (α × Cursor)) : Prop :=
  ∀ a d, result = .ok (a, d) → d.rest <:+ stop

namespace Within

variable {α β : Type} {stop stop' : List Char}

theorem ok {a : α} {d : Cursor} (h : d.rest <:+ stop) : Within stop (.ok (a, d)) := by
  rintro _ _ ⟨⟩
  exact h

theorem error (fault : Fault) : Within (α := α) stop (.error fault) := by
  rintro _ _ ⟨⟩

theorem fail (kind : Fault.Kind) (span : Span) : Within (α := α) stop (Cursor.fail kind span) :=
  error _

theorem mono {result : Except Fault (α × Cursor)} (h : Within stop result) (le : stop <:+ stop') :
    Within stop' result :=
  fun a d read => (h a d read).trans le

theorem bind {step : Except Fault (α × Cursor)} {next : α × Cursor → Except Fault (β × Cursor)}
    (h : Within stop step) (later : ∀ a d, d.rest <:+ stop → Within stop' (next (a, d))) :
    Within stop' (step >>= next) := by
  intro b d read
  obtain ⟨⟨a, c⟩, first, read⟩ := bind_eq_ok_iff.mp read
  exact later a c (h a c first) b d read

/-- What is made of the result does not move the cursor. -/
theorem map {step : Except Fault (α × Cursor)} (h : Within stop step) (f : α × Cursor → β) :
    Within stop (step >>= fun p => .ok (f p, p.2)) :=
  h.bind fun _ _ inside => .ok inside

end Within

/-- The result of reading in front of `Cursor.behind` agrees with that of reading without it: it is
    alike if there is one, and otherwise nothing is read or all up to some end of `stop` is. -/
inductive Agrees {α : Type} (text : List Char) (R : α → α → Prop) (stop : List Char) :
    Except Fault (α × Cursor) → Except Fault (α × Cursor) → Prop where
  | ok {a a' c c'} : R a a' → c.Follows text c' → Agrees text R stop (.ok (a, c)) (.ok (a', c'))
  | error (fault) {result'} : Within stop result' → Agrees text R stop (.error fault) result'

namespace Agrees

variable {α β : Type} {text : List Char} {R : α → α → Prop} {S : β → β → Prop}
  {stop stop' : List Char}

theorem fail (kind kind' : Fault.Kind) (span span' : Span) :
    Agrees text R stop (Cursor.fail kind span) (Cursor.fail kind' span') :=
  .error _ (.fail kind' span')

theorem mono {result result' : Except Fault (α × Cursor)} (h : Agrees text R stop result result')
    (le : stop <:+ stop') : Agrees text R stop' result result' := by
  cases h with
  | ok related follows => exact .ok related follows
  | error fault within => exact .error fault (within.mono le)

/-- Where the pattern ends, reading on consumes the parenthesis if it consumes anything. -/
theorem of_none {c c' : Cursor} (h : c.Follows text c') (stop : c.head? = none)
    {result result' : Except Fault (α × Cursor)} (failed : result.isOk = false)
    (within : Within c'.next.rest result') : Agrees text R Cursor.beyond result result' := by
  cases result with
  | ok a => cases failed
  | error fault => exact .error fault (within.mono (h.next_suffix_of_none stop))

theorem bind {step step' : Except Fault (α × Cursor)}
    {next next' : α × Cursor → Except Fault (β × Cursor)} (h : Agrees text R stop step step')
    (later : ∀ a a' c c', step = .ok (a, c) → R a a' → c.Follows text c' →
      Agrees text S stop' (next (a, c)) (next' (a', c')))
    (beyond : ∀ a' c', c'.rest <:+ stop → Within stop' (next' (a', c'))) :
    Agrees text S stop' (step >>= next) (step' >>= next') := by
  cases h with
  | ok related follows => exact later _ _ _ _ rfl related follows
  | error fault within => exact .error fault (within.bind beyond)

/-- What is made of alike results is alike. -/
theorem map {step step' : Except Fault (α × Cursor)} (h : Agrees text R stop step step')
    {f f' : α × Cursor → β} (alike : ∀ a a' c c', R a a' → S (f (a, c)) (f' (a', c'))) :
    Agrees text S stop (step >>= fun p => .ok (f p, p.2)) (step' >>= fun p => .ok (f' p, p.2)) :=
  h.bind (fun _ _ _ _ _ related follows => .ok (alike _ _ _ _ related) follows)
    fun _ _ inside => .ok inside

end Agrees

end Exposition.Pattern
