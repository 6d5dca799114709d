import Exposition.Proofs.Document

/-! # Blocks as greedy runs of lines

Which lines form a block is stated without the machine that collects them: a run is a preamble and
the samples it accepts, or samples of one name, and a run ends only where the next line would break
it. The machine reads any lines into such runs, and there is no other way to cut the lines: a
shorter run could have taken the line that opens the next one.
-/

namespace Exposition

namespace Line

/-- Help, type and sample lines; only these belong to a block. -/
def isContent : Line → Bool
  | .blank | .comment => false
  | .help .. | .type .. | .sample _ => true

def sample? : Line → Option Sample
  | .sample s => some s
  | _ => none

end Line

/-- A help line, a type line or one of each, in either order, all for one name; with the type and
    the help that they declare. -/
inductive Preamble (name : String) : List Line → Option MetricType → Option String → Prop where
  | help (text) : Preamble name [.help name text] none (some text)
  | type (type) : Preamble name [.type name type] (some type) none
  | helpType (text type) :
      Preamble name [.help name text, .type name type] (some type) (some text)
  | typeHelp (type text) :
      Preamble name [.type name type, .help name text] (some type) (some text)

/-- The lines of one block, with what they say: its name, the type and help declared, its samples.
    After a preamble the samples have to be accepted by the name and type; without one they all
    have the name of the first. -/
inductive IsRun : List Line → String → Option MetricType → Option String → List Sample → Prop where
  | declared {name preamble type? help?} (samples) :
      Preamble name preamble type? help? →
      (∀ s ∈ samples, (type?.getD .untyped).accepts name s.name = true) →
      IsRun (preamble ++ samples.map .sample) name type? help? samples
  | implicit {name} (samples) :
      samples ≠ [] → (∀ s ∈ samples, s.name = name) →
      IsRun (samples.map .sample) name none none samples

/-- The family carries what the run says; it is untyped if the run declares no type. -/
def Family.Carries (f : Family) (run : List Line) : Prop :=
  ∃ type?, IsRun run f.name type? f.help f.samples ∧ f.type = type?.getD .untyped

/-- The run could not have taken the first line of the next one. -/
def Stops (run next : List Line) : Prop :=
  ∀ line ∈ next.head?, ¬ ∃ f : Family, f.Carries (run ++ [line])

/-- The lines cut into runs, each of which goes on as long as it can. -/
structure GreedyRuns (ls : List Line) (runs : List (List Line)) : Prop where
  isRun : ∀ run ∈ runs, ∃ f : Family, f.Carries run
  flatten : runs.flatten = ls
  greedy : runs.IsChain Stops

@[simp] theorem MetricType.accepts_untyped {name sample : String} :
    MetricType.untyped.accepts name sample = true ↔ sample = name := by
  simp [accepts, sampleSuffixes]

theorem Preamble.ne_nil {name preamble type? help?} (h : Preamble name preamble type? help?) :
    preamble ≠ [] := by
  cases h <;> simp

theorem IsRun.ne_nil {run name type? help? samples} (h : IsRun run name type? help? samples) :
    run ≠ [] := by
  cases h with
  | declared _ preamble _ => simp [preamble.ne_nil]
  | implicit _ nonempty _ => simpa using nonempty

theorem IsRun.isContent {run name type? help? samples} (h : IsRun run name type? help? samples) :
    ∀ line ∈ run, line.isContent = true := by
  cases h with
  | declared _ preamble _ => cases preamble <;> simp +contextual [Line.isContent, or_imp]
  | implicit _ _ _ => simp [Line.isContent]

namespace Block

/-- The block says what the run says. -/
def Holds (b : Block) (run : List Line) : Prop :=
  IsRun run b.name b.type b.help b.samplesReversed.reverse

/-- The block of some lines, if the first opens it and it takes all others. -/
def ofRun? : List Line → Option Block
  | [] => none
  | line :: rest => (opening? line).bind fun b => rest.foldlM take? b

theorem ofRun?_append {run : List Line} (nonempty : run ≠ []) (more : List Line) :
    ofRun? (run ++ more) = (ofRun? run).bind fun b => more.foldlM take? b := by
  cases run with
  | nil => exact absurd rfl nonempty
  | cons line rest =>
      simp only [List.cons_append, ofRun?, List.foldlM_append, Option.bind_assoc]
      rfl

theorem foldlM_take?_samples {b : Block} {samples : List Sample}
    (accepted : ∀ s ∈ samples, (b.type.getD .untyped).accepts b.name s.name = true) :
    (samples.map .sample).foldlM take? b =
      some { b with samplesReversed := samples.reverse ++ b.samplesReversed } := by
  induction samples generalizing b with
  | nil => rfl
  | cons s rest ih =>
      have here : b.take? (.sample s) = some { b with samplesReversed := s :: b.samplesReversed } :=
        if_pos (accepted s (by simp))
      have later := ih (b := { b with samplesReversed := s :: b.samplesReversed }) fun t ht =>
        accepted t (List.mem_cons_of_mem _ ht)
      simp only [List.map_cons, List.foldlM_cons, here, Option.bind_eq_bind, Option.bind_some]
      rw [later]
      simp

/-- A run opens a block with its first line, and the block takes all the others. -/
theorem ofRun?_of_isRun {run name type? help? samples}
    (h : IsRun run name type? help? samples) :
    ofRun? run = some ⟨name, type?, help?, samples.reverse⟩ := by
  cases h with
  | @declared _ preamble _ _ samples declares accepted =>
      have opened : ofRun? preamble = some ⟨name, type?, help?, []⟩ := by
        cases declares <;> simp [ofRun?, opening?, take?]
      rw [ofRun?_append declares.ne_nil, opened, Option.bind_some, foldlM_take?_samples accepted]
      simp
  | implicit samples nonempty named =>
      cases samples with
      | nil => exact absurd rfl nonempty
      | cons s rest =>
          have first : s.name = name := named s (by simp)
          have accepted : ∀ t ∈ rest, MetricType.untyped.accepts name t.name = true :=
            fun t ht => MetricType.accepts_untyped.mpr (named t (List.mem_cons_of_mem _ ht))
          simp only [List.map_cons, ofRun?, opening?, Option.bind_some, first]
          rw [foldlM_take?_samples accepted]
          simp

theorem holds_opening {line : Line} {b : Block} (h : opening? line = some b) : b.Holds [line] := by
  cases line with
  | blank | comment => cases h
  | help name text =>
      cases h
      exact .declared [] (.help text) (by simp)
  | type name type =>
      cases h
      exact .declared [] (.type type) (by simp)
  | sample s =>
      cases h
      exact .implicit [s] (by simp) (by simp)

/-- What a block says after one more line is what the longer run says. -/
theorem Holds.take {b b' : Block} {run : List Line} {line : Line} (h : b.Holds run)
    (content : line.isContent = true) (taken : b.take? line = some b') :
    b'.Holds (run ++ [line]) := by
  obtain ⟨name, type?, help?, samples⟩ := b
  simp only [Holds] at h ⊢
  cases line with
  | blank | comment => cases content
  | help name' text =>
      simp only [take?, Option.ite_none_right_eq_some, Option.some.injEq, Bool.and_eq_true,
        decide_eq_true_eq, Option.isNone_iff_eq_none, List.isEmpty_iff] at taken
      obtain ⟨⟨⟨rfl, rfl⟩, rfl⟩, rfl⟩ := taken
      cases h with
      | declared _ preamble _ =>
          cases preamble with
          | type type => exact .declared [] (.typeHelp type text) (by simp)
      | implicit _ nonempty _ => exact absurd rfl nonempty
  | type name' type =>
      simp only [take?, Option.ite_none_right_eq_some, Option.some.injEq, Bool.and_eq_true,
        decide_eq_true_eq, Option.isNone_iff_eq_none, List.isEmpty_iff] at taken
      obtain ⟨⟨⟨rfl, rfl⟩, rfl⟩, rfl⟩ := taken
      cases h with
      | declared _ preamble _ =>
          cases preamble with
          | help text => exact .declared [] (.helpType text type) (by simp)
      | implicit _ nonempty _ => exact absurd rfl nonempty
  | sample s =>
      simp only [take?, Option.ite_none_right_eq_some, Option.some.injEq] at taken
      obtain ⟨fits, rfl⟩ := taken
      simp only [List.reverse_cons]
      cases h with
      | declared _ declares accepted =>
          rw [List.append_assoc, ← List.map_singleton, ← List.map_append]
          refine .declared _ declares fun t ht => ?_
          rcases List.mem_append.mp ht with earlier | last
          · exact accepted t earlier
          · rw [List.mem_singleton.mp last]
            exact fits
      | implicit samples nonempty named =>
          rw [← List.map_singleton, ← List.map_append]
          refine .implicit _ (by simp) fun t ht => ?_
          rcases List.mem_append.mp ht with earlier | last
          · exact named t earlier
          · rw [List.mem_singleton.mp last]
            exact MetricType.accepts_untyped.mp fits

theorem holds_iff {b : Block} {run : List Line} :
    b.Holds run ↔ (∀ line ∈ run, line.isContent = true) ∧ ofRun? run = some b := by
  constructor
  · intro h
    exact ⟨h.isContent, by simpa using ofRun?_of_isRun h⟩
  · rintro ⟨content, h⟩
    induction run using List.reverseRecOn generalizing b with
    | nil => cases h
    | append_singleton run line ih =>
        by_cases first : run = []
        · subst first
          obtain ⟨opened, ho, taken⟩ := Option.bind_eq_some_iff.mp h
          cases taken
          exact holds_opening ho
        · rw [ofRun?_append first, Option.bind_eq_some_iff] at h
          obtain ⟨before, hb, taken⟩ := h
          have held := ih (fun l hl => content l (List.mem_append_left _ hl)) hb
          refine held.take (content line (by simp)) ?_
          simpa using taken

theorem Holds.carries {b : Block} {run : List Line} (h : b.Holds run) : b.close.Carries run :=
  ⟨b.type, h, rfl⟩

end Block

theorem Family.carries_iff {f : Family} {run : List Line} :
    f.Carries run ↔ ∃ b : Block, b.Holds run ∧ b.close = f := by
  constructor
  · rintro ⟨type?, h, typed⟩
    refine ⟨⟨f.name, type?, f.help, f.samples.reverse⟩, ?_, ?_⟩
    · simpa [Block.Holds] using h
    · obtain ⟨_, _, _, _⟩ := f
      simp only at typed
      subst typed
      simp [Block.close]
      rfl
  · rintro ⟨b, h, rfl⟩
    exact h.carries

theorem Family.Carries.ne_nil {f : Family} {run : List Line} (h : f.Carries run) : run ≠ [] := by
  obtain ⟨_, h, _⟩ := h
  exact h.ne_nil

theorem Family.Carries.unique {f g : Family} {run : List Line} (hf : f.Carries run)
    (hg : g.Carries run) : f = g := by
  obtain ⟨b, held, rfl⟩ := carries_iff.mp hf
  obtain ⟨c, held', rfl⟩ := carries_iff.mp hg
  have same : some b = some c := (Block.holds_iff.mp held).2.symm.trans (Block.holds_iff.mp held').2
  rw [Option.some.inj same]

/-- The first lines of a run are a run. -/
theorem Family.Carries.of_append {f : Family} {run more : List Line} (nonempty : run ≠ [])
    (h : f.Carries (run ++ more)) : ∃ g : Family, g.Carries run := by
  obtain ⟨b, held, rfl⟩ := carries_iff.mp h
  obtain ⟨content, read⟩ := Block.holds_iff.mp held
  rw [Block.ofRun?_append nonempty, Option.bind_eq_some_iff] at read
  obtain ⟨c, first, -⟩ := read
  have content := fun line hl => content line (List.mem_append_left more hl)
  exact ⟨c.close, (Block.holds_iff.mpr ⟨content, first⟩).carries⟩

/-- A line that the open block refuses does not continue its run. -/
theorem Block.Holds.stops {b : Block} {run next : List Line} {line : Line} (h : b.Holds run)
    (refused : b.take? line = none) (first : next.head? = some line) : Stops run next := by
  intro line' hl
  rw [first] at hl
  cases hl
  rintro ⟨f, carried⟩
  obtain ⟨c, held, rfl⟩ := Family.carries_iff.mp carried
  have read := (holds_iff.mp held).2
  rw [ofRun?_append h.ne_nil, (holds_iff.mp h).2] at read
  simp [refused] at read

theorem opening?_isSome {line : Line} (content : line.isContent = true) :
    ∃ b, Block.opening? line = some b := by
  cases line with
  | blank | comment => cases content
  | help | type | sample => exact ⟨_, rfl⟩

@[simp] theorem familiesAfter_filter (state : Option Block) (ls : List Line) :
    familiesAfter state (ls.filter (·.isContent)) = familiesAfter state ls := by
  induction ls generalizing state with
  | nil => rfl
  | cons line rest ih =>
      cases content : line.isContent with
      | true =>
          rw [List.filter_cons_of_pos content]
          cases state with
          | none => simp only [familiesAfter, ih]
          | some b => simp only [familiesAfter, ih]
      | false =>
          rw [List.filter_cons_of_neg (by simp [content]), ih]
          cases line with
          | blank | comment => cases state <;> rfl
          | help | type | sample => cases content

/-- With a block open, its run is completed and all lines after it are cut into runs. The invariant
    of the induction is that the open block says what the lines of its run so far say. -/
theorem exists_runs_after {b : Block} {run ls : List Line} (held : b.Holds run)
    (content : ∀ line ∈ ls, line.isContent = true) :
    ∃ first runs, run <+: first ∧ (first :: runs).flatten = run ++ ls ∧
      (first :: runs).IsChain Stops ∧
      List.Forall₂ Family.Carries (familiesAfter (some b) ls) (first :: runs) := by
  induction ls generalizing b run with
  | nil => exact ⟨run, [], List.prefix_rfl, by simp, .singleton run, .cons held.carries .nil⟩
  | cons line rest ih =>
      have here := content line (by simp)
      have later := fun l hl => content l (List.mem_cons_of_mem line hl)
      cases taken : b.take? line with
      | some longer =>
          obtain ⟨first, runs, pre, all, greedy, carried⟩ := ih (held.take here taken) later
          refine ⟨first, runs, (List.prefix_append _ _).trans pre, by simpa using all, greedy, ?_⟩
          simpa [familiesAfter, taken] using carried
      | none =>
          obtain ⟨opened, ho⟩ := opening?_isSome here
          obtain ⟨first, runs, pre, all, greedy, carried⟩ := ih (Block.holds_opening ho) later
          have head : first.head? = some line := by
            obtain ⟨more, rfl⟩ := pre
            rfl
          have all : (run :: first :: runs).flatten = run ++ line :: rest := by
            rw [List.flatten_cons, all]
            rfl
          refine ⟨run, first :: runs, List.prefix_rfl, all,
            .cons_cons (held.stops taken head) greedy, ?_⟩
          simpa [familiesAfter, taken, ho] using List.Forall₂.cons held.carries carried

theorem exists_greedyRuns {ls : List Line} (content : ∀ line ∈ ls, line.isContent = true) :
    ∃ runs, GreedyRuns ls runs ∧ List.Forall₂ Family.Carries (familiesOfLines ls) runs := by
  cases ls with
  | nil => exact ⟨[], ⟨by simp, rfl, .nil⟩, .nil⟩
  | cons line rest =>
      obtain ⟨opened, ho⟩ := opening?_isSome (content line (by simp))
      have later := fun l hl => content l (List.mem_cons_of_mem line hl)
      obtain ⟨first, runs, -, all, greedy, carried⟩ :=
        exists_runs_after (Block.holds_opening ho) later
      have carried :
          List.Forall₂ Family.Carries (familiesOfLines (line :: rest)) (first :: runs) := by
        simpa [familiesOfLines, familiesAfter, ho] using carried
      refine ⟨first :: runs, ⟨fun run hr => ?_, all, greedy⟩, carried⟩
      obtain ⟨f, -, carries⟩ := exists_mem_left carried hr
      exact ⟨f, carries⟩

/-- Blank lines and comments do not matter. -/
theorem exists_greedyRuns_filter (ls : List Line) :
    ∃ runs, GreedyRuns (ls.filter (·.isContent)) runs ∧
      List.Forall₂ Family.Carries (familiesOfLines ls) runs := by
  have content : ∀ line ∈ ls.filter (·.isContent), line.isContent = true := by simp
  obtain ⟨runs, cut, carried⟩ := exists_greedyRuns content
  rw [familiesOfLines, familiesAfter_filter] at carried
  exact ⟨runs, cut, carried⟩

/-- Of two greedy cuts of the same lines the first run of one is not a proper part of the first
    run of the other: the line after it would have continued it. -/
theorem GreedyRuns.first_maximal {ls first more : List Line} {rest rest' : List (List Line)}
    (cut : GreedyRuns ls (first :: rest)) (cut' : GreedyRuns ls ((first ++ more) :: rest')) :
    more = [] := by
  have same : rest.flatten = more ++ rest'.flatten := by
    have := cut.flatten.trans cut'.flatten.symm
    simpa using this
  cases more with
  | nil => rfl
  | cons line more =>
      cases rest with
      | nil => simp at same
      | cons second rest =>
          obtain ⟨f, isSecond⟩ := cut.isRun second (by simp)
          obtain ⟨head, tail, rfl⟩ := List.exists_cons_of_ne_nil isSecond.ne_nil
          simp only [List.flatten_cons, List.cons_append, List.cons.injEq] at same
          obtain ⟨rfl, -⟩ := same
          have stops : Stops first (head :: tail) := (List.isChain_cons_cons.mp cut.greedy).1
          obtain ⟨g, longer⟩ := cut'.isRun _ (List.mem_cons_self ..)
          rw [← List.singleton_append, ← List.append_assoc] at longer
          exact absurd (longer.of_append (by simp)) (stops head rfl)

theorem GreedyRuns.unique {ls : List Line} {runs runs' : List (List Line)}
    (cut : GreedyRuns ls runs) (cut' : GreedyRuns ls runs') : runs = runs' := by
  induction runs generalizing ls runs' with
  | nil =>
      cases runs' with
      | nil => rfl
      | cons first' rest' =>
          obtain ⟨f, isFirst⟩ := cut'.isRun first' (by simp)
          have := cut.flatten.trans cut'.flatten.symm
          simp [isFirst.ne_nil] at this
  | cons first rest ih =>
      cases runs' with
      | nil =>
          obtain ⟨f, isFirst⟩ := cut.isRun first (by simp)
          have := cut'.flatten.trans cut.flatten.symm
          simp [isFirst.ne_nil] at this
      | cons first' rest' =>
          have flat : first ++ rest.flatten = first' ++ rest'.flatten := by
            simpa using cut.flatten.trans cut'.flatten.symm
          have same : first = first' := by
            rcases List.append_eq_append_iff.mp flat with ⟨more, rfl, -⟩ | ⟨more, rfl, -⟩
            · simp [cut.first_maximal cut']
            · simp [cut'.first_maximal cut]
          subst same
          have tail : ∀ {runs}, GreedyRuns ls (first :: runs) → GreedyRuns runs.flatten runs :=
            fun cut => ⟨fun run hr => cut.isRun run (List.mem_cons_of_mem _ hr), rfl,
              (List.isChain_cons.mp cut.greedy).2⟩
          have rests := tail cut'
          rw [← List.append_cancel_left flat] at rests
          rw [ih (tail cut) rests]

theorem carries_unique {fs gs : List Family} {runs : List (List Line)}
    (hf : List.Forall₂ Family.Carries fs runs) (hg : List.Forall₂ Family.Carries gs runs) :
    fs = gs := by
  have unique : Relator.LeftUnique Family.Carries := fun _ _ _ hf hg => hf.unique hg
  exact List.left_unique_forall₂' unique hf hg

/-- Any greedy cut of some lines gives their families. -/
theorem familiesOfLines_eq_of_greedyRuns {ls : List Line} {runs : List (List Line)}
    {fs : List Family} (cut : GreedyRuns (ls.filter (·.isContent)) runs)
    (carried : List.Forall₂ Family.Carries fs runs) : familiesOfLines ls = fs := by
  obtain ⟨runs', cut', carried'⟩ := exists_greedyRuns_filter ls
  cases cut.unique cut'
  exact carries_unique carried' carried

theorem Family.Carries.samples {f : Family} {run : List Line} (h : f.Carries run) :
    run.filterMap Line.sample? = f.samples := by
  have ofSamples : ∀ samples : List Sample,
      (samples.map Line.sample).filterMap Line.sample? = samples := by
    intro samples
    simp [List.filterMap_map, Function.comp_def, Line.sample?]
  obtain ⟨name, type, help?, samples⟩ := f
  obtain ⟨type?, isRun, -⟩ := h
  cases isRun with
  | declared _ preamble _ =>
      rw [List.filterMap_append, ofSamples]
      cases preamble <;> rfl
  | implicit _ _ _ => exact ofSamples _

theorem Family.Carries.accepts {f : Family} {run : List Line} (h : f.Carries run) :
    ∀ s ∈ f.samples, f.accepts s.name = true := by
  obtain ⟨name, type, help?, samples⟩ := f
  obtain ⟨type?, isRun, rfl⟩ := h
  cases isRun with
  | declared _ _ accepted => exact accepted
  | implicit _ _ named => exact fun s hs => MetricType.accepts_untyped.mpr (named s hs)

theorem samples_of_carries {fs : List Family} {runs : List (List Line)}
    (carried : List.Forall₂ Family.Carries fs runs) :
    fs.flatMap (·.samples) = runs.flatten.filterMap Line.sample? := by
  induction carried with
  | nil => rfl
  | cons first _ ih => simp [ih, first.samples]

@[simp] theorem filterMap_sample?_filter (ls : List Line) :
    (ls.filter (·.isContent)).filterMap Line.sample? = ls.filterMap Line.sample? := by
  rw [List.filterMap_filter]
  congr 1
  funext line
  cases line <;> rfl

/-- No sample is lost, doubled or moved. -/
@[simp] theorem flatMap_samples_familiesOfLines (ls : List Line) :
    (familiesOfLines ls).flatMap (·.samples) = ls.filterMap Line.sample? := by
  obtain ⟨runs, cut, carried⟩ := exists_greedyRuns_filter ls
  rw [samples_of_carries carried, cut.flatten, filterMap_sample?_filter]

/-- The families of a text carry the runs of the one greedy cut of its lines, blank lines and
    comments left out: no sample is lost, doubled or moved, and each is in a block that accepts
    it. -/
theorem families_greedy_segmentation {text : String} {fs : List Family}
    (h : familiesOfText text = .ok fs) :
    ∃ read runs, LinesOf text read ∧ GreedyRuns (read.filter (·.isContent)) runs ∧
      List.Forall₂ Family.Carries fs runs ∧
      (∀ runs', GreedyRuns (read.filter (·.isContent)) runs' → runs' = runs) ∧
      (∀ fs', List.Forall₂ Family.Carries fs' runs → fs' = fs) ∧
      fs.flatMap (·.samples) = read.filterMap Line.sample? ∧
      ∀ f ∈ fs, ∀ s ∈ f.samples, f.accepts s.name = true := by
  obtain ⟨read, isRead, rfl⟩ := familiesOfText_eq_ok_iff.mp h
  obtain ⟨runs, cut, carried⟩ := exists_greedyRuns_filter read
  refine ⟨read, runs, isRead, cut, carried, fun _ cut' => cut'.unique cut,
    fun _ carried' => carries_unique carried' carried, flatMap_samples_familiesOfLines read, ?_⟩
  intro f hf
  obtain ⟨run, -, carries⟩ := exists_mem_right carried hf
  exact carries.accepts

theorem families_greedy_segmentation_histogram :
    ∃ fs, familiesOfText "# TYPE h histogram\nh_sum 1\n\n# HELP h x\nh_count 2\n" = .ok fs ∧
    ∃ read runs, LinesOf "# TYPE h histogram\nh_sum 1\n\n# HELP h x\nh_count 2\n" read ∧
      GreedyRuns (read.filter (·.isContent)) runs ∧
      List.Forall₂ Family.Carries fs runs ∧
      (∀ runs', GreedyRuns (read.filter (·.isContent)) runs' → runs' = runs) ∧
      (∀ fs', List.Forall₂ Family.Carries fs' runs → fs' = fs) ∧
      fs.flatMap (·.samples) = read.filterMap Line.sample? ∧
      ∀ f ∈ fs, ∀ s ∈ f.samples, f.accepts s.name = true := by
  have read : familiesOfText "# TYPE h histogram\nh_sum 1\n\n# HELP h x\nh_count 2\n" =
      .ok [⟨"h", .histogram, none, [⟨⟨"h_sum", SortedMap.empty⟩, ⟨0x3ff0000000000000⟩, none⟩]⟩,
        ⟨"h", .untyped, some "x", []⟩,
        ⟨"h_count", .untyped, none,
          [⟨⟨"h_count", SortedMap.empty⟩, ⟨0x4000000000000000⟩, none⟩]⟩] := by
    decide +kernel
  exact ⟨_, read, families_greedy_segmentation read⟩

end Exposition
