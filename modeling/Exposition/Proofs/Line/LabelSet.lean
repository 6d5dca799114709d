import Exposition.Line.LabelSet
import Exposition.Proofs.Line.Basic
import Exposition.Proofs.SortedMap
import Exposition.Proofs.WellFormed

/-! # What a label set has to be

Pairs with distinct names make up one label set, in whatever order they stand. Reading a set
succeeds exactly if its parts are found one after another.
-/

namespace Exposition

theorem find?_insert_eq_some_iff {labels : Labels} {name name' value value' : String}
    (absent : labels.find? name = none) :
    (labels.insert name value).find? name' = some value' ↔
      (name' = name ∧ value' = value) ∨ labels.find? name' = some value' := by
  by_cases same : name' = name
  · subst same
    simp [absent, eq_comm]
  · simp [same]

theorem find?_insert_eq_none_iff {labels : Labels} {name name' value : String} :
    (labels.insert name value).find? name' = none ↔ name' ≠ name ∧ labels.find? name' = none := by
  by_cases same : name' = name
  · subst same
    simp
  · simp [same]

/-- The set with one more pair, if its name is new. -/
def addNew? (labels : Labels) (pair : String × String) : Option Labels :=
  if labels.contains pair.1 then none else some (labels.insert pair.1 pair.2)

theorem addNew?_eq_none {labels : Labels} {name value value' : String}
    (taken : labels.find? name = some value') : addNew? labels (name, value) = none :=
  if_pos (SortedMap.contains_iff.mpr ⟨value', taken⟩)

theorem addNew?_eq_some {labels : Labels} {name value : String}
    (absent : labels.find? name = none) :
    addNew? labels (name, value) = some (labels.insert name value) :=
  if_neg (by simp [SortedMap.contains, absent])

theorem foldlM_addNew?_eq_some_iff {pairs : List (String × String)} {start labels : Labels} :
    pairs.foldlM addNew? start = some labels ↔
      (pairs.map (·.1)).Nodup ∧ (∀ p ∈ pairs, start.find? p.1 = none) ∧
        ∀ name value, labels.find? name = some value ↔
          (name, value) ∈ pairs ∨ start.find? name = some value := by
  induction pairs generalizing start with
  | nil =>
      simp only [List.foldlM_nil, List.map_nil, List.nodup_nil, List.not_mem_nil, false_or]
      constructor
      · rintro ⟨⟩
        simp
      · rintro ⟨-, -, same⟩
        congr 1
        exact SortedMap.ext_find? fun name => Option.ext fun value => (same name value).symm
  | cons p rest ih =>
      obtain ⟨name, value⟩ := p
      simp only [List.foldlM_cons, Option.bind_eq_bind]
      cases before : start.find? name with
      | some value' => simp [addNew?_eq_none before, before]
      | none =>
          rw [addNew?_eq_some before, Option.bind_some, ih, List.forall_mem_cons]
          simp only [find?_insert_eq_none_iff, find?_insert_eq_some_iff before, List.map_cons,
            List.nodup_cons, List.mem_cons, Prod.mk.injEq, List.mem_map, not_exists, not_and]
          constructor
          · rintro ⟨distinct, fresh, answers⟩
            exact ⟨⟨fun p hp => (fresh p hp).1, distinct⟩, ⟨before, fun p hp => (fresh p hp).2⟩,
              fun n v => by rw [answers, or_left_comm, or_assoc]⟩
          · rintro ⟨⟨new, distinct⟩, ⟨-, fresh⟩, answers⟩
            exact ⟨distinct, fun p hp => ⟨new p hp, fresh p hp⟩,
              fun n v => by rw [answers, or_left_comm, or_assoc]⟩

/-- Pairs make up a set if no name is repeated, and then its entries are the pairs. -/
theorem Labels.ofDistinct?_eq_some_iff {pairs : List (String × String)} {labels : Labels} :
    ofDistinct? pairs = some labels ↔
      (pairs.map (·.1)).Nodup ∧ ∀ pair, pair ∈ labels.entries ↔ pair ∈ pairs := by
  show pairs.foldlM addNew? SortedMap.empty = some labels ↔ _
  rw [foldlM_addNew?_eq_some_iff]
  simp [SortedMap.find?_eq_some_iff]

theorem exists_foldlM_addNew? {pairs : List (String × String)} {start : Labels}
    (distinct : (pairs.map (·.1)).Nodup) (fresh : ∀ p ∈ pairs, start.find? p.1 = none) :
    ∃ labels, pairs.foldlM addNew? start = some labels := by
  induction pairs generalizing start with
  | nil => exact ⟨start, rfl⟩
  | cons p rest ih =>
      obtain ⟨new, distinct⟩ := List.nodup_cons.mp distinct
      obtain ⟨absent, fresh⟩ := List.forall_mem_cons.mp fresh
      have others : ∀ q ∈ rest, (start.insert p.1 p.2).find? q.1 = none := by
        intro q hq
        have other : q.1 ≠ p.1 := fun same => new (List.mem_map.mpr ⟨q, hq, same⟩)
        exact find?_insert_eq_none_iff.mpr ⟨other, fresh q hq⟩
      obtain ⟨labels, made⟩ := ih distinct others
      exact ⟨labels, by rw [List.foldlM_cons, addNew?_eq_some absent]; exact made⟩

theorem Labels.exists_ofDistinct? {pairs : List (String × String)}
    (distinct : (pairs.map (·.1)).Nodup) : ∃ labels, ofDistinct? pairs = some labels :=
  exists_foldlM_addNew? distinct fun _ _ => rfl

theorem Labels.ofDistinct?_eq_none_iff {pairs : List (String × String)} :
    ofDistinct? pairs = none ↔ ¬ (pairs.map (·.1)).Nodup := by
  constructor
  · intro none distinct
    obtain ⟨labels, made⟩ := exists_ofDistinct? distinct
    cases none.symm.trans made
  · intro repeated
    rw [Option.eq_none_iff_forall_ne_some]
    exact fun labels made => repeated (ofDistinct?_eq_some_iff.mp made).1

theorem Labels.ofDistinct?_entries (labels : Labels) :
    ofDistinct? labels.entries = some labels := by
  refine ofDistinct?_eq_some_iff.mpr ⟨?_, fun pair => Iff.rfl⟩
  refine List.Pairwise.map _ (fun a b lt same => ?_) labels.ascending
  rw [same] at lt
  simp at lt

/-- A label set does not depend on the order in which its pairs are written. -/
theorem Labels.ofDistinct?_congr {pairs pairs' : List (String × String)}
    (same : pairs.Perm pairs') : ofDistinct? pairs = ofDistinct? pairs' := by
  apply Option.ext
  intro labels
  rw [ofDistinct?_eq_some_iff, ofDistinct?_eq_some_iff, (same.map _).nodup_iff]
  simp only [same.mem_iff]

theorem pair?_eq_some_iff {cs rest : List Char} {pair : String × String} :
    pair? cs = .ok (some (pair, rest)) ↔
      ∃ afterName afterSign afterValue, labelName? (skipBlanks cs) = some (pair.1, afterName) ∧
        equals? afterName = some ((), afterSign) ∧
        labelValue afterSign = .ok (pair.2, afterValue) ∧ rest = skipBlanks afterValue := by
  obtain ⟨name, value⟩ := pair
  rw [pair?]
  cases isName : labelName? (skipBlanks cs) with
  | none => simp
  | some found =>
      obtain ⟨name', afterName⟩ := found
      simp only [bind_eq_ok_iff, expect_eq_ok_iff, Option.some.injEq, Prod.mk.injEq, pure,
        Except.pure, Except.ok.injEq]
      constructor
      · rintro ⟨⟨⟨⟩, afterSign⟩, sign, ⟨value', afterValue⟩, isValue, ⟨rfl, rfl⟩, rfl⟩
        exact ⟨_, afterSign, afterValue, ⟨rfl, rfl⟩, sign, isValue, rfl⟩
      · rintro ⟨_, afterSign, afterValue, ⟨rfl, rfl⟩, sign, isValue, rfl⟩
        exact ⟨((), afterSign), sign, (value, afterValue), isValue, ⟨rfl, rfl⟩, rfl⟩

theorem pairs_of_none {cs : List Char} (h : pair? cs = .ok none) : pairs cs = .ok ([], cs) := by
  rw [pairs]
  split <;> simp_all

theorem pairs_of_error {cs : List Char} {r : Rejection} (h : pair? cs = .error r) :
    pairs cs = .error r := by
  rw [pairs]
  split <;> simp_all

theorem pairs_of_last {cs rest : List Char} {pair : String × String}
    (h : pair? cs = .ok (some (pair, rest))) (noComma : ∀ more, rest ≠ ',' :: more) :
    pairs cs = .ok ([pair], rest) := by
  rw [pairs]
  split
  · next wrong => cases h.symm.trans wrong
  · next none => cases h.symm.trans none
  · next comma =>
      cases h.symm.trans comma
      exact absurd rfl (noComma _)
  · next last =>
      cases h.symm.trans last
      rfl

theorem pairs_of_comma {cs rest rest' : List Char} {pair next : String × String}
    {more : List (String × String)} (h : pair? cs = .ok (some (pair, ',' :: rest)))
    (later : pairs rest = .ok (next :: more, rest')) :
    pairs cs = .ok (pair :: next :: more, rest') := by
  rw [pairs]
  split <;> simp_all

theorem pairs_of_comma_error {cs rest : List Char} {pair : String × String} {r : Rejection}
    (h : pair? cs = .ok (some (pair, ',' :: rest))) (later : pairs rest = .error r) :
    pairs cs = .error r := by
  rw [pairs]
  split <;> simp_all

/-- A comma is left where it is if no pair follows it. -/
theorem pairs_of_comma_only {cs rest rest' : List Char} {pair : String × String}
    (h : pair? cs = .ok (some (pair, ',' :: rest))) (later : pairs rest = .ok ([], rest')) :
    pairs cs = .ok ([pair], ',' :: rest) := by
  rw [pairs]
  split <;> simp_all

theorem labelsAfterBrace_eq_ok_iff {start body rest : List Char} {set : Labels} :
    labelsAfterBrace start body = .ok (set, rest) ↔
      ∃ found afterPairs, pairs body = .ok (found, afterPairs) ∧
        skipBlanks (dropComma found afterPairs) = '\x7d' :: rest ∧
        Labels.ofDistinct? found = some set := by
  simp only [labelsAfterBrace, bind_eq_ok_iff, Prod.exists]
  refine exists₂_congr fun found afterPairs => and_congr_right fun _ => ?_
  split
  · next after close =>
      cases Labels.ofDistinct? found <;> simp [close, and_comm]
  · next noBrace =>
      constructor
      · intro wrong
        cases wrong
      · rintro ⟨close, -⟩
        exact absurd close (noBrace rest)

end Exposition
