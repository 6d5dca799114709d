import Exposition.Proofs.Exclusion
import Exposition.Proofs.Report.Validation
import Exposition.Proofs.Session

/-! # Verdicts and reports

The verdict of a command is read off what its check found, and so is its report, each by a test of
its own. They agree, whatever the report looks like: the verdict is the same for every choice of
format and detail, it is clean exactly if nothing is listed, and a report for people is the one
sentence that says so exactly in that case. In all other cases every heading has an item.
-/

namespace Exposition

theorem Dump.isRead_of_decode {place : String} {origin : Origin} {bytes : ByteArray} {d : Dump}
    (h : decode place origin bytes = .ok d) : d.IsRead := by
  rw [decode] at h
  split at h
  · cases h
  · next text _ =>
      split at h
      · cases h
      · next families read =>
          cases h
          exact fun f member => ⟨text, families, read, member⟩

theorem Source.isRead_of_load {source : Source} {files : String → Except ReadFault ByteArray}
    {stdin : ByteArray} {d : Dump} (h : (source.load files stdin).1 = .ok d) : d.IsRead := by
  cases source with
  | stdin => exact Dump.isRead_of_decode h
  | file path =>
      have inFile : Dump.ofFile path (files path) = .ok d := h
      cases contents : files path with
      | error fault =>
          rw [contents] at inFile
          cases inFile
      | ok bytes =>
          rw [contents] at inFile
          exact Dump.isRead_of_decode inFile

theorem FamilyFilter.isRead_apply (filter : FamilyFilter) {d : Dump} (h : d.IsRead) :
    (filter.apply d).IsRead := by
  rw [apply_eq_without]
  exact fun f member => h f (List.mem_filter.mp member).1

namespace Report

/-- The report is on dumps whose families were read from texts. -/
inductive OfRead : Report → Prop where
  | validation {d} : d.IsRead → OfRead (.validation (validate d))
  | difference {a b} : a.IsRead → b.IsRead → OfRead (.difference (diff a b))

/-- There is nothing in any part of the result. -/
def HasNoFindings : Report → Prop
  | validation v => v.duplicateFamilies = .empty ∧ v.duplicateSamples = .empty
  | difference d =>
    d.addedFamilies = .empty ∧ d.removedFamilies = .empty ∧ d.addedSamples = .empty ∧
      d.removedSamples = .empty ∧ d.metadataChanges = .empty

/-- The one sentence of a report without findings. -/
def sentence : Report → String
  | validation _ => "No problems found."
  | difference _ => "No differences found."

variable {report : Report}

theorem isClean_iff : report.isClean = true ↔ report.HasNoFindings := by
  cases report with
  | validation v =>
      simp only [isClean, Validation.isClean, Bool.and_eq_true, SortedMap.isEmpty_iff_eq_empty,
        HasNoFindings]
  | difference d =>
      simp only [isClean, Difference.isEmpty, Bool.and_eq_true, SortedMap.isEmpty_iff_eq_empty,
        HasNoFindings, and_assoc]

theorem verdict_eq_clean_iff : report.verdict = .clean ↔ report.HasNoFindings := by
  rw [← isClean_iff, verdict]
  cases report.isClean <;> decide

theorem isItem_sentence (report : Report) : isItem report.sentence = false := by
  cases report with
  | validation v => exact (by decide +kernel : isItem "No problems found." = false)
  | difference d => exact (by decide +kernel : isItem "No differences found." = false)

theorem splitOn_sentence (report : Report) :
    report.sentence.toList.splitOn '\n' = [report.sentence.toList] := by
  refine List.splitOn_eq_singleton ?_
  cases report with
  | validation v => exact (by decide +kernel : '\n' ∉ "No problems found.".toList)
  | difference d => exact (by decide +kernel : '\n' ∉ "No differences found.".toList)

theorem lines_of_isClean (clean : report.isClean = true) (detailed : Bool) :
    report.lines detailed = [report.sentence] := by
  cases report with
  | validation v => exact if_pos clean
  | difference d => exact if_pos clean

theorem OfRead.itemized (h : report.OfRead) (findings : report.isClean = false) (detailed : Bool) :
    Itemized (report.lines detailed) := by
  cases h with
  | validation _ => exact Validation.itemized_report _ findings detailed
  | difference isRead isRead' =>
      exact (Difference.isVisible_diff _ _).itemized (isRead.diff isRead') findings

/-- No line of a report is broken by what stands in it. -/
theorem OfRead.splitOn_render (h : report.OfRead) (detailed : Bool) :
    (report.render (.human detailed)).toList.splitOn '\n' =
      (report.lines detailed).map String.toList := by
  cases h with
  | validation isRead => exact isRead.validate.splitOn_report detailed
  | difference isRead isRead' => exact (isRead.diff isRead').splitOn_humanText

theorem OfRead.render_eq_sentence_iff (h : report.OfRead) (detailed : Bool) :
    report.render (.human detailed) = report.sentence ↔ report.isClean = true := by
  constructor
  · intro same
    by_contra findings
    rw [Bool.not_eq_true] at findings
    have lines := h.splitOn_render detailed
    rw [same, splitOn_sentence] at lines
    have one : report.lines detailed = [report.sentence] :=
      ((List.map_inj_right fun _ _ => String.toList_inj.mp).mp (lines.symm.trans rfl))
    exact (h.itemized findings detailed).ne_singleton report.isItem_sentence one
  · intro clean
    rw [render, lines_of_isClean clean]
    rfl

end Report

theorem Command.Finds.ofRead {filter : FamilyFilter} {files : String → Except ReadFault ByteArray}
    {stdin : ByteArray} {command : Command} {report : Report}
    (h : command.Finds filter files stdin report) : report.OfRead := by
  cases command with
  | validate path =>
      obtain ⟨dump, loaded, rfl⟩ := h
      exact .validation (filter.isRead_apply (Source.isRead_of_load loaded))
  | diff before after =>
      obtain ⟨old, new, first, second, rfl⟩ := h
      exact .difference (filter.isRead_apply (Source.isRead_of_load first))
        (filter.isRead_apply (Source.isRead_of_load second))

theorem Session.ofOptions_eq {options : Options} {filter : FamilyFilter}
    (made : FamilyFilter.ofPatterns options.excludes = .ok filter) :
    ofOptions options = .ok ⟨styleOf options, filter, options.logLevel⟩ := by
  simp only [ofOptions, made, bind, Except.bind, pure, Except.pure]

theorem Session.run_of_unfailing (session : Session) {files : String → Except ReadFault ByteArray}
    {stdin : ByteArray} {command : Command} {report : Report}
    (found : command.Finds session.filter files stdin report) {output : Sink}
    (unfailing : output.Unfailing) :
    (session.run files command stdin output).result = .ok report.verdict ∧
      (session.run files command stdin output).output =
        output.put (report.render session.style ++ "\n").toUTF8.toList := by
  obtain ⟨written, result⟩ := session.run_of_finds files found output
  rw [written, result, session.emit_of_unfailing unfailing, toList_toUTF8_append_feed]
  exact ⟨rfl, rfl⟩

@[simp] theorem Sink.put_inj {output : Sink} {bytes bytes' : List UInt8} :
    output.put bytes = output.put bytes' ↔ bytes = bytes' := by
  simp [put]

/-- A command whose dumps can be loaded comes to the same verdict under all options with the same
    exclude patterns, and the verdict agrees with what is reported. It is clean exactly if the check
    found nothing in the dumps that the filter leaves, and exactly if a report for people is the one
    sentence that says so. Otherwise each heading of the report has an item on the next line. -/
theorem verdict_agrees_with_reports {filter : FamilyFilter}
    {files : String → Except ReadFault ByteArray} {stdin : ByteArray} {command : Command}
    {report : Report} (found : command.Finds filter files stdin report) :
    (∀ options, FamilyFilter.ofPatterns options.excludes = .ok filter →
      ∃ session, Session.ofOptions options = .ok session ∧
        ∀ output : Sink, output.Unfailing →
          (session.run files command stdin output).result = .ok report.verdict ∧
          (session.run files command stdin output).output =
            output.put (report.render (Session.styleOf options) ++ "\n").toUTF8.toList ∧
          (options.format = .human →
            ((session.run files command stdin output).output =
              output.put (report.sentence ++ "\n").toUTF8.toList ↔ report.verdict = .clean))) ∧
      (report.verdict = .clean ↔ report.HasNoFindings) ∧
      ∀ detailed,
        (report.render (.human detailed)).toList.splitOn '\n' =
          (report.lines detailed).map String.toList ∧
        (report.verdict ≠ .clean → ∀ k heading, (report.lines detailed)[k]? = some heading →
          isItem heading = false →
            ∃ line, (report.lines detailed)[k + 1]? = some line ∧ isItem line = true) := by
  refine ⟨fun options made => ?_, Report.verdict_eq_clean_iff, fun detailed => ⟨?_, ?_⟩⟩
  · refine ⟨_, Session.ofOptions_eq made, fun output unfailing => ?_⟩
    obtain ⟨result, written⟩ := Session.run_of_unfailing
      ⟨Session.styleOf options, filter, options.logLevel⟩ found unfailing
    refine ⟨result, written, fun human => ?_⟩
    have style : Session.styleOf options = .human options.isDetailed := by
      simp only [Session.styleOf, human]
    rw [written, Sink.put_inj, toList_toUTF8_inj, String.append_left_inj, style,
      found.ofRead.render_eq_sentence_iff, Report.isClean_iff, Report.verdict_eq_clean_iff]
  · exact found.ofRead.splitOn_render detailed
  · intro findings k heading here isHeading
    rw [ne_eq, Report.verdict_eq_clean_iff, ← Report.isClean_iff, Bool.not_eq_true] at findings
    exact (found.ofRead.itemized findings detailed).next here isHeading

/-- Without the family that is left out there is still a series with two samples. -/
theorem verdict_agrees_with_reports_repeated :
    let files : String → Except ReadFault ByteArray := fun _ => .error .missing
    let stdin := "m 1\nm 0\nup 1\nup 0\n".toUTF8
    ∃ filter report, FamilyFilter.ofPatterns ["m"] = .ok filter ∧
      (Command.validate "-").Finds filter files stdin report ∧ ¬ report.HasNoFindings ∧
      (∀ options : Options, options.excludes = ["m"] →
        ∃ session, Session.ofOptions options = .ok session ∧
          (session.run files (.validate "-") stdin .unbounded).result = .ok .findings) ∧
      ∀ detailed k heading, (report.lines detailed)[k]? = some heading → isItem heading = false →
        ∃ line, (report.lines detailed)[k + 1]? = some line ∧ isItem line = true := by
  intro files stdin
  have found : (FamilyFilter.ofPatterns ["m"]).map
      (fun filter => (familiesOfText "m 1\nm 0\nup 1\nup 0\n").map
        fun families => (validate (filter.apply ⟨.stdin, families⟩)).isClean) =
      .ok (.ok false) := by
    decide +kernel
  obtain ⟨filter, made, found⟩ := map_eq_ok_iff.mp found
  obtain ⟨families, read, found⟩ := map_eq_ok_iff.mp found
  have isStdin : Source.ofPath "-" = .stdin := by decide +kernel
  have decoded : String.fromUTF8? stdin = some "m 1\nm 0\nup 1\nup 0\n" :=
    fromUTF8?_eq_some_iff.mpr rfl
  have loaded : ((Source.ofPath "-").load files stdin).1 = .ok ⟨.stdin, families⟩ := by
    simp only [isStdin, Source.load, Dump.ofStream, Dump.decode, decoded, read]
  have finds : (Command.validate "-").Finds filter files stdin
      (.validation (validate (filter.apply ⟨.stdin, families⟩))) := ⟨_, loaded, rfl⟩
  obtain ⟨agree, clean, listed⟩ := verdict_agrees_with_reports finds
  have verdict : (Report.validation (validate (filter.apply ⟨.stdin, families⟩))).verdict =
      .findings := by
    simp only [Report.verdict, Report.isClean, found]
    rfl
  refine ⟨filter, _, made, finds, ?_, ?_, fun detailed => ?_⟩
  · rw [← clean, verdict]
    decide
  · intro options excludes
    obtain ⟨session, opened, runs⟩ := agree options (excludes ▸ made)
    exact ⟨session, opened, verdict ▸ (runs .unbounded Sink.unfailing_unbounded).1⟩
  · exact (listed detailed).2 (by rw [verdict]; decide)

end Exposition
