import Exposition.Proofs.Session

/-! # Outputs that fail

A report and the end of its last line are handed to an output one after the other, each of them
again and again until all of it is taken. The output may take as little at a time as it likes, and
it may fail at any byte. Whatever it does, a command that comes to a verdict has put out the whole
line and flushed it. If there is not enough room the output has as much of the line as there was
room for, and the command fails without flushing.
-/

namespace Exposition

/-- An output by its two operations. Of the bytes that are written it may take only the first few,
    and the answer is their number. If it fails it takes none of them. -/
structure Device (σ : Type) where
  write : σ → List UInt8 → σ × Except String Nat
  flush : σ → σ × Except String Unit
  le_length : ∀ {s s' bytes n}, write s bytes = (s', .ok n) → n ≤ bytes.length

namespace Device

/-- A device that takes nothing has not failed, but it makes no sense to go on. -/
def stuckFault : String := "failed to write whole buffer"

section Writing

variable {σ : Type} (device : Device σ)

/-- Writes what is left of the bytes until there is nothing left. -/
def writeAll (s : σ) : List UInt8 → σ × Except String Unit
  | [] => (s, .ok ())
  | byte :: rest =>
    match device.write s (byte :: rest) with
    | (s, .error fault) => (s, .error fault)
    | (s, .ok 0) => (s, .error stuckFault)
    | (s, .ok (n + 1)) => writeAll s (rest.drop n)
termination_by bytes => bytes.length
decreasing_by simp

/-- Writes the bytes and a line end. -/
def writeLine (s : σ) (bytes : List UInt8) : σ × Except String Unit :=
  match device.writeAll s bytes with
  | (s, .ok ()) => device.writeAll s [Sink.lineEnd]
  | failed => failed

/-- Writes lines until one fails. -/
def writeLines (s : σ) : List (List UInt8) → σ × Except String Unit
  | [] => (s, .ok ())
  | line :: rest =>
    match device.writeLine s line with
    | (s, .ok ()) => writeLines s rest
    | failed => failed

end Writing

end Device

/-- What happened to a device: the bytes it took and how often it was flushed. -/
structure Log where
  taken : List UInt8
  flushes : Nat
  deriving DecidableEq

namespace Log

def empty : Log := ⟨[], 0⟩

/-- A log and what it has become by an attempt to write bytes. No byte was lost or moved, and
    nothing was flushed. -/
structure Grows (log : Log) (bytes : List UInt8) (result : Except String Unit) (log' : Log) :
    Prop where
  taken : ∃ k, log'.taken = log.taken ++ bytes.take k
  whole : result = .ok () → log'.taken = log.taken ++ bytes
  flushes : log'.flushes = log.flushes

variable {log log' log'' : Log} {front back bytes : List UInt8} {result : Except String Unit}

theorem Grows.nothing : log.Grows [] (.ok ()) log :=
  ⟨⟨0, by simp⟩, fun _ => by simp, rfl⟩

theorem Grows.failed (fault : String) : log.Grows bytes (.error fault) log :=
  ⟨⟨0, by simp⟩, nofun, rfl⟩

theorem Grows.append (h : log.Grows front (.ok ()) log') (h' : log'.Grows back result log'') :
    log.Grows (front ++ back) result log'' := by
  obtain ⟨k, taken⟩ := h'.taken
  refine ⟨⟨front.length + k, ?_⟩, fun ok => ?_, h'.flushes.trans h.flushes⟩
  · rw [taken, h.whole rfl, List.take_length_add_append, List.append_assoc]
  · rw [h'.whole ok, h.whole rfl, List.append_assoc]

/-- What comes behind bytes that could not be written does not matter. -/
theorem Grows.stopped {fault : String} (h : log.Grows front (.error fault) log')
    (back : List UInt8) : log.Grows (front ++ back) (.error fault) log' := by
  obtain ⟨k, taken⟩ := h.taken
  refine ⟨⟨min k front.length, ?_⟩, nofun, h.flushes⟩
  rw [taken, List.take_append_of_le_length (Nat.min_le_right ..), ← List.take_take,
    List.take_length]

end Log

namespace Device

variable {σ : Type} (device : Device σ)

/-- The device with a log. -/
def logged : Device (σ × Log) where
  write := fun (s, log) bytes =>
    match device.write s bytes with
    | (s, .error fault) => ((s, log), .error fault)
    | (s, .ok n) => ((s, { log with taken := log.taken ++ bytes.take n }), .ok n)
  flush := fun (s, log) =>
    let (s, result) := device.flush s
    ((s, { log with flushes := log.flushes + 1 }), result)
  le_length := by
    rintro ⟨s, log⟩ _ bytes n written
    dsimp only at written
    split at written
    · cases written
    · next here =>
        cases written
        exact device.le_length here

@[simp] theorem logged_flush (s : σ) (log : Log) :
    device.logged.flush (s, log) =
      (((device.flush s).1, { log with flushes := log.flushes + 1 }), (device.flush s).2) :=
  rfl

/-- The log does not change what the device does. -/
theorem fst_logged_write (s : σ × Log) (bytes : List UInt8) :
    device.write s.1 bytes = (device.logged.write s bytes).map Prod.fst id := by
  simp only [logged]
  split <;> simp [*]

theorem fst_logged_writeAll (s : σ × Log) (bytes : List UInt8) :
    device.writeAll s.1 bytes = (device.logged.writeAll s bytes).map Prod.fst id := by
  fun_induction device.logged.writeAll s bytes with
  | case1 s => simp [writeAll]
  | case2 s byte rest s' fault written =>
      simp [writeAll, fst_logged_write, written]
  | case3 s byte rest s' written =>
      simp [writeAll, fst_logged_write, written]
  | case4 s byte rest s' n written ih =>
      simp [writeAll, fst_logged_write, written, ih]

theorem fst_logged_writeLine (s : σ × Log) (bytes : List UInt8) :
    device.writeLine s.1 bytes = (device.logged.writeLine s bytes).map Prod.fst id := by
  rw [writeLine, writeLine, fst_logged_writeAll]
  obtain ⟨s', result⟩ := device.logged.writeAll s bytes
  cases result with
  | error fault => rfl
  | ok => exact device.fst_logged_writeAll s' _

section Step

variable {device : Device σ} {s s' : σ × Log} {bytes : List UInt8}

theorem log_of_write_error {fault : String}
    (failed : device.logged.write s bytes = (s', .error fault)) : s'.2 = s.2 := by
  simp only [logged] at failed
  split at failed <;> cases failed
  rfl

theorem log_of_write_ok {n : Nat} (written : device.logged.write s bytes = (s', .ok n)) :
    s'.2 = { s.2 with taken := s.2.taken ++ bytes.take n } := by
  simp only [logged] at written
  split at written <;> cases written
  rfl

end Step

theorem grows_writeAll (s : σ × Log) (bytes : List UInt8) :
    s.2.Grows bytes (device.logged.writeAll s bytes).2 (device.logged.writeAll s bytes).1.2 := by
  fun_induction device.logged.writeAll s bytes with
  | case1 s => exact .nothing
  | case2 s byte rest s' fault failed => exact log_of_write_error failed ▸ .failed fault
  | case3 s byte rest s' written =>
      have same : s'.2 = s.2 := by simpa using log_of_write_ok written
      exact same ▸ .failed stuckFault
  | case4 s byte rest s' n written ih =>
      -- what the device takes first and what it takes later are the two ends of the bytes
      have first : s.2.Grows ((byte :: rest).take (n + 1)) (.ok ()) s'.2 := by
        rw [log_of_write_ok written]
        exact ⟨⟨n + 1, by simp⟩, fun _ => rfl, rfl⟩
      have whole := first.append ih
      rwa [List.take_succ_cons, List.cons_append, List.take_append_drop] at whole

theorem grows_writeLine (s : σ × Log) (bytes : List UInt8) :
    s.2.Grows (bytes ++ [Sink.lineEnd]) (device.logged.writeLine s bytes).2
      (device.logged.writeLine s bytes).1.2 := by
  have first := device.grows_writeAll s bytes
  rw [writeLine]
  revert first
  obtain ⟨s', result⟩ := device.logged.writeAll s bytes
  intro first
  cases result with
  | error fault => exact first.stopped _
  | ok => exact first.append (device.grows_writeAll s' _)

theorem grows_writeLines (s : σ × Log) (lines : List (List UInt8)) :
    s.2.Grows (lines.flatMap (· ++ [Sink.lineEnd])) (device.logged.writeLines s lines).2
      (device.logged.writeLines s lines).1.2 := by
  induction lines generalizing s with
  | nil => exact .nothing
  | cons line rest ih =>
      have first := device.grows_writeLine s line
      rw [writeLines, List.flatMap_cons]
      revert first
      obtain ⟨s', result⟩ := device.logged.writeLine s line
      intro first
      cases result with
      | error fault => exact first.stopped _
      | ok => exact first.append (ih s')

end Device

namespace Sink

/-- A sink takes what there is room for, and fails once there is none. -/
def device : Device Sink where
  write s bytes :=
    match s.room with
    | none => ({ s with written := s.written ++ bytes }, .ok bytes.length)
    | some 0 => (s, .error fullFault)
    | some (room + 1) =>
      let taken := bytes.take (room + 1)
      ({ s with written := s.written ++ taken, room := some (room + 1 - taken.length) },
        .ok taken.length)
  flush s := (s, s.flush)
  le_length := by
    intro s s' bytes n written
    dsimp only at written
    split at written <;> cases written
    · exact Nat.le_refl _
    · exact List.length_take_le' ..

variable (s : Sink)

theorem write_append (front back : List UInt8) :
    s.write (front ++ back) =
      match s.write front with
      | (s, .ok ()) => s.write back
      | failed => failed := by
  obtain ⟨written, room, flushFault⟩ := s
  cases room with
  | none => simp [write]
  | some room =>
      by_cases fits : front.length ≤ room
      · have inner : (front ++ back).take room = front ++ back.take (room - front.length) := by
          rw [List.take_append, List.take_of_length_le fits]
        have both : front.length + back.length ≤ room ↔ back.length ≤ room - front.length := by
          omega
        simp [write, inner, fits, both, Nat.sub_sub]
      · have cut : (front ++ back).take room = front.take room :=
          List.take_append_of_le_length (by omega)
        have neither : ¬ front.length + back.length ≤ room := by omega
        simp [write, cut, fits, neither]

@[simp] theorem write_nil : s.write [] = (s, .ok ()) := by
  obtain ⟨written, room, flushFault⟩ := s
  cases room <;> simp [write]

/-- The bytes and the line end go out as if they were written at once. -/
theorem writeLine_eq_write (bytes : List UInt8) :
    s.writeLine bytes = s.write (bytes ++ [lineEnd]) := by
  rw [write_append]
  rfl

theorem writeLines_eq_write (lines : List (List UInt8)) :
    s.writeLines lines = s.write (lines.flatMap (· ++ [lineEnd])) := by
  induction lines generalizing s with
  | nil => exact s.write_nil.symm
  | cons line rest ih =>
      rw [writeLines, List.flatMap_cons, write_append, writeLine_eq_write]
      obtain ⟨s', result⟩ := s.write (line ++ [lineEnd])
      cases result with
      | error fault => rfl
      | ok => exact ih s'

theorem written_write {n : Nat} (room : s.room = some n) (bytes : List UInt8) :
    (s.write bytes).1.written = s.written ++ bytes.take n := by
  simp only [write, room]

theorem write_eq_ok_iff {n : Nat} (room : s.room = some n) {bytes : List UInt8} :
    (s.write bytes).2 = .ok () ↔ bytes.length ≤ n := by
  simp [write, room]

theorem written_of_write_eq_ok {bytes : List UInt8} (ok : (s.write bytes).2 = .ok ()) :
    (s.write bytes).1.written = s.written ++ bytes := by
  cases room : s.room with
  | none => simp only [write, room]
  | some n =>
      rw [s.written_write room, List.take_of_length_le ((s.write_eq_ok_iff room).mp ok)]

theorem write_of_device_write {s s' : Sink} {bytes : List UInt8} {n : Nat}
    (taken : device.write s bytes = (s', .ok n)) : s.write (bytes.take n) = (s', .ok ()) := by
  simp only [device] at taken
  split at taken
  · next unbounded =>
      cases taken
      simp [write, unbounded]
  · cases taken
  · next room bounded =>
      cases taken
      simp [write, bounded, List.take_take, List.take_eq_take_iff]

/-- What a sink is given at once is what it takes bit by bit. -/
theorem device_writeAll (s : Sink) (bytes : List UInt8) :
    device.writeAll s bytes = s.write bytes := by
  fun_induction device.writeAll s bytes with
  | case1 s => exact s.write_nil.symm
  | case2 s byte rest s' fault written =>
      simp only [device] at written
      split at written <;> cases written
      next full =>
        obtain ⟨written, room, flushFault⟩ := s
        cases full
        simp [write]
  | case3 s byte rest s' written =>
      simp only [device] at written
      split at written <;> simp at written
  | case4 s byte rest s' n written ih =>
      have whole : (byte :: rest).take (n + 1) ++ rest.drop n = byte :: rest :=
        List.take_append_drop (n + 1) (byte :: rest)
      rw [← whole, write_append, write_of_device_write written]
      exact ih

theorem device_writeLine (s : Sink) (bytes : List UInt8) :
    device.writeLine s bytes = s.writeLine bytes := by
  rw [Device.writeLine, device_writeAll, writeLine]
  obtain ⟨s', result⟩ := s.write bytes
  cases result with
  | error fault => rfl
  | ok => exact device_writeAll s' _

end Sink

/-- The output did not take all that was written. -/
def WriterFailed {α : Type} (result : Except Failure α) : Prop :=
  ∃ failure, result = .error failure ∧ failure.message = "writer failed"

theorem writerFailed_map_iff {α β : Type} {result : Except Failure α} {f : α → β} :
    WriterFailed (result.map f) ↔ WriterFailed result := by
  cases result <;> simp [WriterFailed, Except.map]

theorem not_writerFailed_ofSystem {result : Except String Unit} :
    ¬ WriterFailed (result.mapError Failure.ofSystem) := by
  cases result <;> simp [WriterFailed, Except.mapError, Failure.ofSystem, Failure.message]

namespace Session

variable (session : Session)

/-- The bytes of a report and of the end of its last line. -/
def line (report : Report) : List UInt8 :=
  (report.render session.style).toUTF8.toList ++ [Sink.lineEnd]

section Running

variable (files : String → Except ReadFault ByteArray) {σ : Type} (device : Device σ)

/-- Writes a report to the device and flushes it. -/
def emitOn (report : Report) (s : σ) : σ × Except Failure Unit :=
  match device.writeLine s (report.render session.style).toUTF8.toList with
  | (s, .error fault) => (s, .error (.because "writer failed" (.system fault)))
  | (s, .ok ()) => (device.flush s).map id (·.mapError .ofSystem)

/-- Carries out a command with the device as its output. -/
def runOn (command : Command) (stdin : ByteArray) (s : σ) : σ × Except Failure Verdict :=
  match (session.check files command stdin).result with
  | .error failure => (s, .error failure)
  | .ok report =>
    let (s, written) := session.emitOn device report s
    (s, written.map fun () => report.verdict)

/-- What can come of a report that is written as `line`. A report is cut before it is flushed, or it
    is there as a whole and was flushed once. -/
inductive Emitted (log : Log) (line : List UInt8) : Except Failure Unit → Log → Prop where
  | cut {fault : String} {log' : Log} : log.Grows line (.error fault) log' →
      Emitted log line (.error (.because "writer failed" (.system fault))) log'
  | refused {fault : String} :
      Emitted log line (.error (.ofSystem fault)) ⟨log.taken ++ line, log.flushes + 1⟩
  | whole : Emitted log line (.ok ()) ⟨log.taken ++ line, log.flushes + 1⟩

theorem emitted_emitOn (report : Report) (s : σ × Log) :
    Emitted s.2 (session.line report) (session.emitOn device.logged report s).2
      (session.emitOn device.logged report s).1.2 := by
  have written := device.grows_writeLine s (report.render session.style).toUTF8.toList
  rw [emitOn]
  revert written
  obtain ⟨⟨s', log'⟩, result⟩ :=
    device.logged.writeLine s (report.render session.style).toUTF8.toList
  intro written
  cases result with
  | error fault => exact .cut written
  | ok =>
      have after : log' = ⟨s.2.taken ++ session.line report, s.2.flushes⟩ := by
        rw [line, ← written.whole rfl, ← written.flushes]
      rw [after]
      simp only [Device.logged_flush, Prod.map]
      cases (device.flush s').2 with
      | error fault => exact .refused
      | ok => exact .whole

variable {log log' : Log} {line : List UInt8} {result : Except Failure Unit}

theorem Emitted.eq_of_not_writerFailed (h : Emitted log line result log')
    (taken : ¬ WriterFailed result) : log' = ⟨log.taken ++ line, log.flushes + 1⟩ := by
  cases h with
  | cut => exact absurd ⟨_, rfl, rfl⟩ taken
  | refused | whole => rfl

/-- Only a report that is cut is not flushed. -/
theorem Emitted.flushes_eq_iff (h : Emitted log line result log') :
    log'.flushes = log.flushes ↔ WriterFailed result := by
  constructor
  · intro same
    by_contra taken
    rw [h.eq_of_not_writerFailed taken] at same
    exact Nat.succ_ne_self _ same
  · rintro ⟨failure, rfl, message⟩
    cases h with
    | cut written => exact written.flushes
    | refused => simp [Failure.ofSystem, Failure.message] at message

theorem fst_logged_emitOn (report : Report) (s : σ × Log) :
    session.emitOn device report s.1 =
      (session.emitOn device.logged report s).map Prod.fst id := by
  rw [emitOn, emitOn, device.fst_logged_writeLine]
  obtain ⟨⟨s', log'⟩, result⟩ :=
    device.logged.writeLine s (report.render session.style).toUTF8.toList
  cases result <;> rfl

variable {files}

section Found

variable {command : Command} {stdin : ByteArray} {report : Report}
  (found : command.Finds session.filter files stdin report)

include found

theorem runOn_eq (s : σ) :
    session.runOn files device command stdin s =
      (session.emitOn device report s).map id (·.map fun () => report.verdict) := by
  simp only [runOn, (session.check_eq_ok_iff files).mpr found]
  rfl

theorem flushes_runOn_eq_iff (s : σ × Log) :
    (session.runOn files device.logged command stdin s).1.2.flushes = s.2.flushes ↔
      WriterFailed (session.runOn files device.logged command stdin s).2 := by
  rw [session.runOn_eq device.logged found, Prod.map, writerFailed_map_iff]
  exact (session.emitted_emitOn device report s).flushes_eq_iff

theorem log_runOn (s : σ × Log)
    (taken : ¬ WriterFailed (session.runOn files device.logged command stdin s).2) :
    (session.runOn files device.logged command stdin s).1.2 =
      ⟨s.2.taken ++ session.line report, s.2.flushes + 1⟩ := by
  rw [session.runOn_eq device.logged found, Prod.map, writerFailed_map_iff] at taken
  rw [session.runOn_eq device.logged found]
  exact (session.emitted_emitOn device report s).eq_of_not_writerFailed taken

theorem runOn_eq_ok {s : σ} {verdict : Verdict}
    (ok : (session.runOn files device command stdin s).2 = .ok verdict) :
    verdict = report.verdict := by
  rw [session.runOn_eq device found, Prod.map] at ok
  cases emitted : (session.emitOn device report s).2 with
  | error failure => simp [emitted, Except.map] at ok
  | ok => simpa [emitted, Except.map] using ok.symm

end Found

end Running

theorem emitOn_device (report : Report) (output : Sink) :
    session.emitOn Sink.device report output = session.emit report output := by
  rw [emitOn, emit, Sink.device_writeLine]
  obtain ⟨s, result⟩ := output.writeLine (report.render session.style).toUTF8.toList
  cases result with
  | error fault => rfl
  | ok =>
      simp only [Sink.device, Prod.map]
      cases s.flush <;> rfl

theorem emit_eq (report : Report) (output : Sink) :
    session.emit report output =
      match output.write (session.line report) with
      | (s, .error fault) => (s, .error (.because "writer failed" (.system fault)))
      | (s, .ok ()) => (s, s.flush.mapError .ofSystem) := by
  rw [emit, Sink.writeLine_eq_write, line]
  obtain ⟨s, result⟩ :=
    output.write ((report.render session.style).toUTF8.toList ++ [Sink.lineEnd])
  cases result with
  | error fault => rfl
  | ok =>
      dsimp only
      cases s.flush <;> rfl

theorem length_line (report : Report) :
    (session.line report).length = (report.render session.style).toUTF8.toList.length + 1 := by
  rw [line, List.length_append, List.length_singleton]

variable {files : String → Except ReadFault ByteArray} {command : Command} {stdin : ByteArray}
  {report : Report} (found : command.Finds session.filter files stdin report)

include found

theorem runOn_logged_device (output : Sink) (log : Log) :
    (session.runOn files Sink.device.logged command stdin (output, log)).map Prod.fst id =
      ((session.run files command stdin output).output,
        (session.run files command stdin output).result) := by
  obtain ⟨written, result⟩ := session.run_of_finds files found output
  rw [written, result, ← session.emitOn_device,
    session.fst_logged_emitOn Sink.device report (output, log), session.runOn_eq _ found]
  rfl

variable {output : Sink} {n : Nat} (room : output.room = some n)

include room

theorem run_of_lt (short : n < (session.line report).length) :
    (session.run files command stdin output).output.written =
        output.written ++ (session.line report).take n ∧
      (session.run files command stdin output).result =
        .error (.because "writer failed" (.system Sink.fullFault)) := by
  obtain ⟨written, result⟩ := session.run_of_finds files found output
  have full : ¬ (session.line report).length ≤ n := by omega
  rw [written, result]
  simp only [emit_eq, Sink.write, room, full, if_false, Except.map, and_self]

theorem run_of_le (fits : (session.line report).length ≤ n) :
    (session.run files command stdin output).output.written =
        output.written ++ session.line report ∧
      (session.run files command stdin output).result =
        (output.flush.mapError .ofSystem).map fun () => report.verdict := by
  obtain ⟨written, result⟩ := session.run_of_finds files found output
  rw [written, result]
  simp only [emit_eq, Sink.write, room, fits, if_true, List.take_of_length_le, true_and]
  rfl

theorem writerFailed_run_iff :
    WriterFailed (session.run files command stdin output).result ↔
      n < (session.line report).length := by
  by_cases short : n < (session.line report).length
  · rw [(session.run_of_lt found room short).2]
    exact iff_of_true ⟨_, rfl, rfl⟩ short
  · rw [(session.run_of_le found room (by omega)).2, writerFailed_map_iff]
    exact iff_of_false not_writerFailed_ofSystem short

theorem written_run :
    (session.run files command stdin output).output.written =
      output.written ++ (session.line report).take (min n (session.line report).length) := by
  by_cases short : n < (session.line report).length
  · rw [(session.run_of_lt found room short).1, Nat.min_eq_left (by omega)]
  · rw [(session.run_of_le found room (by omega)).1, Nat.min_eq_right (by omega), List.take_length]

end Session

/-- A command whose dumps can be loaded does not come to a verdict with a part of its report. With
    room for `n` bytes the output has the first `n` bytes of the report and its line end, or all of
    them. If these are too few the command fails, without flushing the output; otherwise it flushes
    it once, and comes to its verdict if that succeeds. The same is true of any other output: with a
    verdict, it has taken the whole report and was flushed. And lines that are written one after
    another are in the output one after another. -/
theorem truncated_report_fails (session : Session)
    {files : String → Except ReadFault ByteArray} {stdin : ByteArray} {command : Command}
    {report : Report} (found : command.Finds session.filter files stdin report) :
    (∀ (output : Sink) (n : Nat), output.room = some n →
      let size := (report.render session.style).toUTF8.toList.length
      let outcome := session.run files command stdin output
      let logged := session.runOn files Sink.device.logged command stdin (output, .empty)
      (logged.1.1 = outcome.output ∧ logged.2 = outcome.result) ∧
      outcome.output.written = output.written ++ (session.line report).take (min n (size + 1)) ∧
      (WriterFailed outcome.result ↔ n < size + 1) ∧
      (logged.1.2.flushes = 0 ↔ n < size + 1) ∧
      (size + 1 ≤ n →
        outcome.output.written = output.written ++ session.line report ∧
        logged.1.2.flushes = 1 ∧
        (output.flush = .ok () → outcome.result = .ok report.verdict) ∧
        ∀ fault, output.flush = .error fault → outcome.result = .error (.ofSystem fault))) ∧
    (∀ (σ : Type) (device : Device σ) (s : σ),
      let logged := session.runOn files device.logged command stdin (s, .empty)
      (logged.1.2.flushes = 0 ↔ WriterFailed logged.2) ∧
      ∀ verdict, logged.2 = .ok verdict →
        verdict = report.verdict ∧ logged.1.2 = ⟨session.line report, 1⟩) ∧
    (∀ (σ : Type) (device : Device σ) (s : σ) (lines : List (List UInt8)),
      (device.logged.writeLines (s, .empty) lines).2 = .ok () →
        (device.logged.writeLines (s, .empty) lines).1.2.taken =
          lines.flatMap (· ++ [Sink.lineEnd])) ∧
    ∀ (output : Sink) (lines : List (List UInt8)), (output.writeLines lines).2 = .ok () →
      (output.writeLines lines).1.written =
        output.written ++ lines.flatMap (· ++ [Sink.lineEnd]) := by
  refine ⟨fun output n room => ?_, fun σ device s => ?_, fun σ device s lines ok => ?_,
    fun output lines ok => ?_⟩
  · intro size outcome logged
    have ends : size + 1 = (session.line report).length := (session.length_line report).symm
    -- a sink does not count its flushes, so they are counted in the run with a log
    obtain ⟨state, result⟩ := Prod.mk.inj (session.runOn_logged_device found output .empty)
    have failed : WriterFailed outcome.result ↔ n < size + 1 :=
      ends ▸ session.writerFailed_run_iff found room
    refine ⟨⟨state, result⟩, ends ▸ session.written_run found room, failed, ?_, fun fits => ?_⟩
    · rw [← failed, ← result]
      exact session.flushes_runOn_eq_iff Sink.device found (output, .empty)
    · obtain ⟨written, ended⟩ := session.run_of_le found room (ends ▸ fits)
      have taken : ¬ WriterFailed logged.2 := by
        intro cut
        have short := failed.mp (result ▸ cut)
        omega
      refine ⟨written, ?_, fun flushed => ?_, fun fault refused => ?_⟩
      · exact congrArg Log.flushes (session.log_runOn Sink.device found (output, .empty) taken)
      · exact ended.trans (by rw [flushed]; rfl)
      · exact ended.trans (by rw [refused]; rfl)
  · intro logged
    refine ⟨session.flushes_runOn_eq_iff device found (s, .empty), fun verdict ok => ?_⟩
    have taken : ¬ WriterFailed logged.2 := by
      rw [ok]
      simp [WriterFailed]
    exact ⟨session.runOn_eq_ok device.logged found ok,
      session.log_runOn device found (s, .empty) taken⟩
  · exact (device.grows_writeLines (s, .empty) lines).whole ok
  · rw [output.writeLines_eq_write] at ok ⊢
    exact output.written_of_write_eq_ok ok

/-- There is room for a sentence but not for its line end; then for both, but flushing fails. -/
theorem truncated_report_fails_at_line_end :
    let session : Session := ⟨.human false, .empty, .warn⟩
    let files : String → Except ReadFault ByteArray := fun _ => .error .missing
    let full := session.run files (.validate "-") .empty ⟨[], some 18, none⟩
    let wide := session.run files (.validate "-") .empty ⟨[], some 19, some "flush refused"⟩
    (WriterFailed full.result ∧ full.output.written = "No problems found.".toUTF8.toList) ∧
    wide.result = .error (.ofSystem "flush refused") ∧
      wide.output.written = "No problems found.\n".toUTF8.toList := by
  intro session files full wide
  let report := Report.validation (validate ⟨.stdin, []⟩)
  have isStdin : Source.ofPath "-" = .stdin := by decide +kernel
  have found : (Command.validate "-").Finds session.filter files .empty report := by
    refine ⟨⟨.stdin, []⟩, ?_, rfl⟩
    rw [isStdin]
    exact Dump.ofStream_empty .stdin
  have line : session.line report = "No problems found.\n".toUTF8.toList := by decide +kernel
  have size : (report.render session.style).toUTF8.toList.length = 18 := by decide +kernel
  obtain ⟨sink, -⟩ := truncated_report_fails session found
  rw [size, line] at sink
  obtain ⟨-, cut, failed, -⟩ := sink ⟨[], some 18, none⟩ 18 rfl
  obtain ⟨-, -, -, -, fits⟩ := sink ⟨[], some 19, some "flush refused"⟩ 19 rfl
  obtain ⟨written, -, -, refused⟩ := fits (by decide)
  refine ⟨⟨failed.mpr (by decide), cut.trans (by decide +kernel)⟩, ?_, written⟩
  exact refused "flush refused" rfl

end Exposition
