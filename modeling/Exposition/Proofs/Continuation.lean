import Exposition.Proofs.Concatenation

/-! # More lines at the end of a text

Where more lines follow a text its last block is still open, so they may give it a help text, a type
and samples before they open blocks of their own. They never take back what has been read: a block
keeps its name and the samples that it has. What a validation finds in a text it finds in every
longer text too.
-/

namespace Exposition

/-- The second family has the name of the first and its samples, and after them maybe more. -/
structure Family.Grows (f g : Family) : Prop where
  name : g.name = f.name
  samples : f.samples <+: g.samples

theorem Family.Grows.refl (f : Family) : f.Grows f := ⟨rfl, List.prefix_rfl⟩

theorem Family.Grows.trans {f g h : Family} (first : f.Grows g) (second : g.Grows h) : f.Grows h :=
  ⟨second.name.trans first.name, first.samples.trans second.samples⟩

theorem Block.grows_of_take? {b longer : Block} {line : Line} (taken : b.take? line = some longer) :
    b.close.Grows longer.close := by
  cases line with
  | blank | comment =>
      cases taken
      exact .refl _
  | help | type =>
      obtain ⟨-, ⟨⟩⟩ := Option.ite_none_right_eq_some.mp taken
      exact ⟨rfl, List.prefix_rfl⟩
  | sample s =>
      obtain ⟨-, ⟨⟩⟩ := Option.ite_none_right_eq_some.mp taken
      refine ⟨rfl, ?_⟩
      simp only [close, List.reverse_cons]
      exact List.prefix_append _ _

/-- Whatever lines follow an open block, its family is the first that they give. -/
theorem exists_familiesAfter_some (b : Block) (ls : List Line) :
    ∃ g more, familiesAfter (some b) ls = g :: more ∧ b.close.Grows g := by
  induction ls generalizing b with
  | nil => exact ⟨b.close, [], rfl, .refl _⟩
  | cons line rest ih =>
      rw [familiesAfter]
      cases taken : b.take? line with
      | none => exact ⟨b.close, _, rfl, .refl _⟩
      | some longer =>
          obtain ⟨g, more, families, grows⟩ := ih longer
          exact ⟨g, more, families, (Block.grows_of_take? taken).trans grows⟩

/-- The families of some lines come first with more lines as well, each of them grown. -/
theorem familiesAfter_append_grows (state : Option Block) (ls ls' : List Line) :
    ∃ grown more, familiesAfter state (ls ++ ls') = grown ++ more ∧
      List.Forall₂ Family.Grows (familiesAfter state ls) grown := by
  induction ls generalizing state with
  | nil =>
      cases state with
      | none => exact ⟨[], _, rfl, .nil⟩
      | some b =>
          obtain ⟨g, more, families, grows⟩ := exists_familiesAfter_some b ls'
          exact ⟨[g], more, families, .cons grows .nil⟩
  | cons line rest ih =>
      cases state with
      | none => exact ih (Block.opening? line)
      | some b =>
          rw [List.cons_append, familiesAfter, familiesAfter]
          cases b.take? line with
          | some longer => exact ih (some longer)
          | none =>
              obtain ⟨grown, more, families, grows⟩ := ih (Block.opening? line)
              refine ⟨b.close :: grown, more, ?_, .cons (.refl _) grows⟩
              simp only [families, List.cons_append]

/-- The families of the first dump come first in the second one, each of them grown. -/
def Dump.Grows (d e : Dump) : Prop :=
  ∃ grown more, e.families = grown ++ more ∧ List.Forall₂ Family.Grows d.families grown

/-- Lines that are read after a text leave the lines of the text as they are. -/
theorem Dump.grows_of_ofText_append {text text' : String} {d e : Dump}
    (ended : IsEnded text.toList) (read : Dump.ofText text = .ok d)
    (readBoth : Dump.ofText (text ++ text') = .ok e) : d.Grows e := by
  obtain ⟨before, isBefore, rfl⟩ := Dump.ofText_eq_ok_iff.mp read
  have accepted := Dump.exists_ofText_iff.mp ⟨e, readBoth⟩
  rw [String.toList_append, lines_append ended] at accepted
  obtain ⟨d', read'⟩ : ∃ d', Dump.ofText text' = .ok d' :=
    Dump.exists_ofText_iff.mpr fun line hl => accepted line (List.mem_append_right _ hl)
  obtain ⟨after, isAfter, -⟩ := Dump.ofText_eq_ok_iff.mp read'
  have readAgain := Dump.ofText_eq_ok_iff.mpr ⟨_, isBefore.append isAfter ended, rfl⟩
  cases readBoth.symm.trans readAgain
  exact familiesAfter_append_grows none before after

theorem blocks_grow {fs gs : List Family} (h : List.Forall₂ Family.Grows fs gs) (name : String) :
    List.Forall₂ Family.Grows (fs.filter (·.name = name)) (gs.filter (·.name = name)) :=
  List.rel_filter (fun f g grows => by simp [grows.name]) h

theorem flatMap_samples_sublist {fs gs : List Family} (h : List.Forall₂ Family.Grows fs gs) :
    (fs.flatMap (·.samples)).Sublist (gs.flatMap (·.samples)) := by
  induction h with
  | nil => exact .refl _
  | cons grows _ ih =>
      rw [List.flatMap_cons, List.flatMap_cons]
      exact grows.samples.sublist.append ih

namespace Dump.Grows

variable {d e : Dump}

theorem length_blocks_le (h : d.Grows e) (name : String) :
    (d.blocks name).length ≤ (e.blocks name).length := by
  obtain ⟨grown, more, families, grows⟩ := h
  rw [blocks, blocks, families, List.filter_append, List.length_append,
    (blocks_grow grows name).length_eq]
  exact Nat.le_add_right _ _

theorem samples_sublist (h : d.Grows e) (name : String) :
    ((d.blocks name).flatMap (·.samples)).Sublist ((e.blocks name).flatMap (·.samples)) := by
  obtain ⟨grown, more, families, grows⟩ := h
  rw [blocks, blocks, families, List.filter_append, List.flatMap_append]
  exact (flatMap_samples_sublist (blocks_grow grows name)).trans (List.sublist_append_left _ _)

theorem duplicateFamilies (h : d.Grows e) {name : String} {fs : List Family}
    (found : (validate d).duplicateFamilies.find? name = some fs) :
    ∃ gs, (validate e).duplicateFamilies.find? name = some gs ∧ fs.length ≤ gs.length := by
  obtain ⟨rfl, several⟩ := find?_duplicateFamilies_eq_some_iff.mp found
  have more := h.length_blocks_le name
  exact ⟨_, find?_duplicateFamilies_eq_some_iff.mpr ⟨rfl, several.trans more⟩, more⟩

theorem duplicateSamples (h : d.Grows e) {name : String} {found : List DuplicateSample}
    (isFound : (validate d).duplicateSamples.find? name = some found) {identity : Identity}
    {count : Nat} (listed : ⟨identity, count⟩ ∈ found) :
    ∃ found' count', (validate e).duplicateSamples.find? name = some found' ∧
      ⟨identity, count'⟩ ∈ found' ∧ count ≤ count' := by
  obtain ⟨rfl, -⟩ := find?_duplicateSamples_eq_some_iff.mp isFound
  obtain ⟨several, rfl⟩ := mem_repeated.mp listed
  have more := ((h.samples_sublist name).map Sample.identity).count_le identity
  have listed' := mem_repeated.mpr ⟨several.trans more, rfl⟩
  exact ⟨_, _, find?_duplicateSamples_eq_some_iff.mpr ⟨rfl, List.ne_nil_of_mem listed'⟩, listed',
    more⟩

end Dump.Grows

/-- Lines that are appended to a text hide nothing that is found in it: a name that has several
    blocks keeps them, and a series that has several samples keeps them under the same name. -/
theorem findings_kept {text text' : String} {d e : Dump} (ended : IsEnded text.toList)
    (read : Dump.ofText text = .ok d) (readBoth : Dump.ofText (text ++ text') = .ok e) :
    (∀ name fs, (validate d).duplicateFamilies.find? name = some fs →
      ∃ gs, (validate e).duplicateFamilies.find? name = some gs ∧ fs.length ≤ gs.length) ∧
    ∀ name found identity count, (validate d).duplicateSamples.find? name = some found →
      ⟨identity, count⟩ ∈ found →
      ∃ found' count', (validate e).duplicateSamples.find? name = some found' ∧
        ⟨identity, count'⟩ ∈ found' ∧ count ≤ count' := by
  have grows := Dump.grows_of_ofText_append ended read readBoth
  exact ⟨fun _ _ found => grows.duplicateFamilies found,
    fun _ _ _ _ found listed => grows.duplicateSamples found listed⟩

/-- The block that is open after the first lines takes a type and samples. -/
theorem findings_kept_openBlock :
    ∃ d e, IsEnded "n 1\nn 2\nm 1\n# HELP n x\n".toList ∧
      Dump.ofText "n 1\nn 2\nm 1\n# HELP n x\n" = .ok d ∧
      Dump.ofText ("n 1\nn 2\nm 1\n# HELP n x\n" ++ "# TYPE n summary\nn_sum 1\nn 3") = .ok e ∧
      (∃ gs, (validate e).duplicateFamilies.find? "n" = some gs ∧ 2 ≤ gs.length) ∧
      ∃ found count, (validate e).duplicateSamples.find? "n" = some found ∧
        ⟨⟨"n", .empty⟩, count⟩ ∈ found ∧ 2 ≤ count := by
  let n : Identity := ⟨"n", .empty⟩
  let d : Dump := ⟨.memory,
    [⟨"n", .untyped, none, [⟨n, ⟨0x3ff0000000000000⟩, none⟩, ⟨n, ⟨0x4000000000000000⟩, none⟩]⟩,
      ⟨"m", .untyped, none, [⟨⟨"m", .empty⟩, ⟨0x3ff0000000000000⟩, none⟩]⟩,
      ⟨"n", .untyped, some "x", []⟩]⟩
  have ended : IsEnded "n 1\nn 2\nm 1\n# HELP n x\n".toList := .inr (by decide)
  have read : Dump.ofText "n 1\nn 2\nm 1\n# HELP n x\n" = .ok d := by decide +kernel
  obtain ⟨e, readBoth⟩ : ∃ e, Dump.ofText
      ("n 1\nn 2\nm 1\n# HELP n x\n" ++ "# TYPE n summary\nn_sum 1\nn 3") = .ok e :=
    exists_eq_ok_of_isOk (by decide +kernel)
  have blocks : (validate d).duplicateFamilies.find? "n" = some (d.blocks "n") := by
    decide +kernel
  have samples : (validate d).duplicateSamples.find? "n" = some [⟨n, 2⟩] := by decide +kernel
  obtain ⟨families, series⟩ := findings_kept ended read readBoth
  exact ⟨d, e, ended, read, readBoth, families "n" _ blocks,
    series "n" _ n 2 samples (List.mem_singleton_self _)⟩

end Exposition
