import Exposition.Proofs.Reading
import Exposition.Proofs.Segmentation
import Exposition.Proofs.Validation

/-! # Texts with a clean validation

Duplicates are looked for under one family name at a time, but a sample name can belong to two
families: to the one of that very name, and to a histogram or summary whose name it continues with
a suffix. So a clean validation does not rule out that a series has two sample lines. It does rule
out everything else: a third line, and two lines under one family name.
-/

namespace Exposition

/-- The samples of some families in source order, each with the family whose block it stands in. -/
def placements (fs : List Family) : List (Family × Sample) :=
  fs.flatMap fun f => f.samples.map (f, ·)

/-- The name of the sample is that of the family with a suffix of its type. -/
def Family.TakesBySuffix (f : Family) (s : Sample) : Prop :=
  ∃ suffix ∈ f.type.sampleSuffixes, s.name = f.name ++ suffix

/-- Of the two families one has the name of the sample and the other takes it by a suffix. -/
def SharedSample (f g : Family) (s : Sample) : Prop :=
  (s.name = f.name ∧ g.TakesBySuffix s) ∨ (s.name = g.name ∧ f.TakesBySuffix s)

@[simp] theorem map_snd_placements (fs : List Family) :
    (placements fs).map (·.2) = fs.flatMap (·.samples) := by
  simp [placements, List.map_flatMap, Function.comp_def]

theorem mem_sampleSuffixes {type : MetricType} {suffix : String}
    (h : suffix ∈ type.sampleSuffixes) : suffix ∈ ["_bucket", "_sum", "_count"] := by
  cases type with
  | histogram => exact h
  | summary => exact List.mem_cons_of_mem _ h
  | counter | gauge | untyped => cases h

/-- No suffix ends in another one, so a name can be cut in one way only. -/
theorem append_suffix_inj {name name' suffix suffix' : String}
    (h : suffix ∈ ["_bucket", "_sum", "_count"]) (h' : suffix' ∈ ["_bucket", "_sum", "_count"])
    (same : name ++ suffix = name' ++ suffix') : name = name' := by
  -- Read from their ends, different suffixes differ within two letters.
  have reversed : (name ++ suffix).toList.reverse = (name' ++ suffix').toList.reverse := by
    rw [same]
  simp only [String.toList_append, List.reverse_append] at reversed
  simp only [List.mem_cons, List.not_mem_nil, or_false] at h h'
  rcases h with rfl | rfl | rfl <;> rcases h' with rfl | rfl | rfl <;> simp at reversed
  all_goals exact String.toList_inj.mp reversed

theorem Family.accepts_iff {f : Family} {s : Sample} :
    f.accepts s.name = true ↔ s.name = f.name ∨ f.TakesBySuffix s := by
  simp [accepts, MetricType.accepts, TakesBySuffix]

theorem sharedSample_of_accepts {f g : Family} {s : Sample} (different : f.name ≠ g.name)
    (hf : f.accepts s.name = true) (hg : g.accepts s.name = true) : SharedSample f g s := by
  rcases Family.accepts_iff.mp hf with own | ⟨suffix, mem, named⟩
  · rcases Family.accepts_iff.mp hg with own' | suffixed
    · exact absurd (own.symm.trans own') different
    · exact .inl ⟨own, suffixed⟩
  · rcases Family.accepts_iff.mp hg with own' | ⟨suffix', mem', named'⟩
    · exact .inr ⟨own', suffix, mem, named⟩
    · exact absurd (append_suffix_inj (mem_sampleSuffixes mem) (mem_sampleSuffixes mem')
        (named.symm.trans named')) different

/-- Two places of a series are in families of different names that share it. -/
def SharedOnly (p q : Family × Sample) : Prop :=
  p.2.identity = q.2.identity → p.1.name ≠ q.1.name ∧ SharedSample p.1 q.1 p.2

theorem placements_sharedOnly {d : Dump} (clean : (validate d).isClean = true)
    (accepted : ∀ f ∈ d.families, ∀ s ∈ f.samples, f.accepts s.name = true) :
    (placements d.families).Pairwise SharedOnly := by
  obtain ⟨names, series⟩ := isClean_validate_iff.mp clean
  refine List.pairwise_flatMap.mpr ⟨fun f hf => ?_, ?_⟩
  · refine List.pairwise_map.mpr ((List.pairwise_map.mp (series f hf)).imp ?_)
    intro s t different same
    exact absurd same different
  · refine (List.pairwise_map.mp names).imp_of_mem ?_
    intro f g hf hg different p hp q hq same
    obtain ⟨s, hs, rfl⟩ := List.mem_map.mp hp
    obtain ⟨t, ht, rfl⟩ := List.mem_map.mp hq
    have sameName : s.name = t.name := congrArg Identity.name same
    exact ⟨different,
      sharedSample_of_accepts different (accepted f hf s hs) (sameName ▸ accepted g hg t ht)⟩

/-- Of three places of a series two would be in the family that has the name of the sample. -/
theorem length_le_two_of_sharedOnly {places : List (Family × Sample)} {identity : Identity}
    (shared : places.Pairwise SharedOnly) (same : ∀ p ∈ places, p.2.identity = identity) :
    places.length ≤ 2 := by
  match places with
  | [] | [_] | [_, _] => simp
  | p :: q :: r :: rest =>
    have sameP := same p (by simp)
    have sameQ := same q (by simp)
    have sameR := same r (by simp)
    obtain ⟨fromP, shared⟩ := List.pairwise_cons.mp shared
    obtain ⟨fromQ, -⟩ := List.pairwise_cons.mp shared
    obtain ⟨apartPQ, sharedPQ⟩ := fromP q (by simp) (sameP.trans sameQ.symm)
    obtain ⟨apartPR, sharedPR⟩ := fromP r (by simp) (sameP.trans sameR.symm)
    obtain ⟨apartQR, sharedQR⟩ := fromQ r (by simp) (sameQ.trans sameR.symm)
    have sameName : p.2.name = q.2.name := congrArg Identity.name (sameP.trans sameQ.symm)
    -- Each pair has an owner of the name, so two of the three have that name, but names differ.
    exfalso
    rcases sharedPQ with ⟨ownP, -⟩ | ⟨ownQ, -⟩
    · rcases sharedQR with ⟨ownQ, -⟩ | ⟨ownR, -⟩
      · exact apartPQ (ownP.symm.trans (sameName.trans ownQ))
      · exact apartPR (ownP.symm.trans (sameName.trans ownR))
    · rcases sharedPR with ⟨ownP, -⟩ | ⟨ownR, -⟩
      · exact apartPQ (ownP.symm.trans ownQ)
      · exact apartQR (ownQ.symm.trans ownR)

theorem countP_le_two_of_sharedOnly {places : List (Family × Sample)}
    (shared : places.Pairwise SharedOnly) (identity : Identity) :
    places.countP (·.2.identity = identity) ≤ 2 := by
  rw [List.countP_eq_length_filter]
  exact length_le_two_of_sharedOnly (shared.filter _) fun p hp => by
    simpa using (List.mem_filter.mp hp).2

theorem accepts_of_mem_familiesOfLines {ls : List Line} {f : Family}
    (hf : f ∈ familiesOfLines ls) : ∀ s ∈ f.samples, f.accepts s.name = true := by
  obtain ⟨runs, -, carried⟩ := exists_greedyRuns_filter ls
  obtain ⟨run, -, carries⟩ := exists_mem_right carried hf
  exact carries.accepts

/-- In a text with a clean validation a series has a second sample line only if two families share
    it: one has the name of the sample and the other is a histogram or summary that takes it by a
    suffix. So it has at most two lines, under different family names. -/
theorem series_of_clean_text {text : String} {d : Dump} (read : Dump.ofText text = .ok d)
    (clean : (validate d).isClean = true) :
    ∃ ls, LinesOf text ls ∧ (placements d.families).map (·.2) = ls.filterMap Line.sample? ∧
      (placements d.families).Pairwise SharedOnly ∧
      ∀ identity, (ls.filterMap Line.sample?).countP (·.identity = identity) ≤ 2 := by
  obtain ⟨ls, isLines, rfl⟩ := Dump.ofText_eq_ok_iff.mp read
  have samples : (placements (familiesOfLines ls)).map (·.2) = ls.filterMap Line.sample? := by
    rw [map_snd_placements, flatMap_samples_familiesOfLines]
  have shared : (placements (familiesOfLines ls)).Pairwise SharedOnly :=
    placements_sharedOnly clean fun f hf => accepts_of_mem_familiesOfLines hf
  refine ⟨ls, isLines, samples, shared, fun identity => ?_⟩
  rw [← samples, List.countP_map]
  exact countP_le_two_of_sharedOnly shared identity

/-- A summary and a family named like the sum of the summary, each with one line of one series. -/
theorem exists_clean_repetition :
    ∃ d, Dump.ofText "# TYPE n summary\nn_sum 0\nm 0\nn_sum 0\n" = .ok d ∧
      (validate d).isClean = true ∧
      d.families.flatMap (·.samples) = [⟨⟨"n_sum", .empty⟩, ⟨0⟩, none⟩,
        ⟨⟨"m", .empty⟩, ⟨0⟩, none⟩, ⟨⟨"n_sum", .empty⟩, ⟨0⟩, none⟩] := by
  refine ⟨⟨.memory, [⟨"n", .summary, none, [⟨⟨"n_sum", .empty⟩, ⟨0⟩, none⟩]⟩,
    ⟨"m", .untyped, none, [⟨⟨"m", .empty⟩, ⟨0⟩, none⟩]⟩,
    ⟨"n_sum", .untyped, none, [⟨⟨"n_sum", .empty⟩, ⟨0⟩, none⟩]⟩]⟩, ?_, ?_, ?_⟩
  · decide +kernel
  · decide +kernel
  · rfl

theorem series_of_clean_text_summary :
    ∃ d, Dump.ofText "# TYPE n summary\nn_sum 0\nm 0\nn_sum 0\n" = .ok d ∧
      (validate d).isClean = true ∧
      ∃ ls, LinesOf "# TYPE n summary\nn_sum 0\nm 0\nn_sum 0\n" ls ∧
        (placements d.families).map (·.2) = ls.filterMap Line.sample? ∧
        (placements d.families).Pairwise SharedOnly ∧
        ∀ identity, (ls.filterMap Line.sample?).countP (·.identity = identity) ≤ 2 := by
  obtain ⟨d, read, clean, -⟩ := exists_clean_repetition
  exact ⟨d, read, clean, series_of_clean_text read clean⟩

/-- A clean validation does not mean that no series has two sample lines. -/
theorem clean_text_repeats_series :
    ¬ ∀ (text : String) (d : Dump) (ls : List Line), Dump.ofText text = .ok d →
      (validate d).isClean = true → LinesOf text ls →
      (ls.filterMap Line.sample?).Pairwise fun s t => s.identity ≠ t.identity := by
  intro distinct
  obtain ⟨d, read, clean, samples⟩ := exists_clean_repetition
  obtain ⟨ls, isLines, rfl⟩ := Dump.ofText_eq_ok_iff.mp read
  have distinct := distinct _ _ ls read clean isLines
  rw [← flatMap_samples_familiesOfLines, samples] at distinct
  simp at distinct

end Exposition
