import Exposition.Proofs.Reading
import Exposition.Session

/-! # Commands of one session

From one command to the next a session keeps what is left of the standard input and what was
written. Whether a command uses the input up is decided by its paths and the files, not by the
input itself, and a report goes behind what was written before without a look at it. So a command
comes to the same in a session as on its own, with the standard input whole or used up. What
happens to an output that fails is not said here.
-/

namespace Exposition

namespace Sink

/-- Nothing that is written to the output fails, nor does flushing it. -/
structure Unfailing (s : Sink) : Prop where
  writes : ∀ bytes, (s.write bytes).2 = .ok ()
  flushes : s.flush = .ok ()

/-- The output with more bytes behind what was written. -/
def put (s : Sink) (bytes : List UInt8) : Sink := { s with written := s.written ++ bytes }

variable {s : Sink}

/-- Any bound on the room is exceeded by some bytes. -/
theorem Unfailing.room (h : s.Unfailing) : s.room = none := by
  cases bound : s.room with
  | none => rfl
  | some room =>
      have full := h.writes (List.replicate (room + 1) lineEnd)
      simp [write, bound] at full

theorem Unfailing.write (h : s.Unfailing) (bytes : List UInt8) :
    s.write bytes = (s.put bytes, .ok ()) := by
  simp only [Sink.write, Sink.put, h.room]

theorem Unfailing.put (h : s.Unfailing) (bytes : List UInt8) : (s.put bytes).Unfailing := by
  refine ⟨fun more => ?_, h.flushes⟩
  simp only [Sink.write, Sink.put, h.room]

@[simp]
theorem put_put (bytes more : List UInt8) : (s.put bytes).put more = s.put (bytes ++ more) := by
  simp [put]

@[simp] theorem put_nil : s.put [] = s := by
  simp [put]

theorem Unfailing.writeLine (h : s.Unfailing) (bytes : List UInt8) :
    s.writeLine bytes = (s.put (bytes ++ [lineEnd]), .ok ()) := by
  simp only [Sink.writeLine, h.write, (h.put bytes).write, put_put]

theorem unfailing_unbounded : unbounded.Unfailing := ⟨fun _ => rfl, rfl⟩

end Sink

theorem toList_loop (bytes : ByteArray) (i : Nat) (front : List UInt8) :
    ByteArray.toList.loop bytes i front = front.reverse ++ bytes.data.toList.drop i := by
  fun_induction ByteArray.toList.loop bytes i front with
  | case1 i front more ih =>
      have inside : i < bytes.data.toList.length := by simpa using more
      have here : bytes.get! i = bytes.data.toList[i] := by
        simp [ByteArray.get!, more]
      rw [ih, List.drop_eq_getElem_cons inside, here]
      simp
  | case2 i front stop =>
      have behind : bytes.data.toList.length ≤ i := by simpa using stop
      rw [List.drop_eq_nil_of_le behind, List.append_nil]

theorem toList_bytes (bytes : ByteArray) : bytes.toList = bytes.data.toList :=
  toList_loop bytes 0 []

@[simp] theorem toList_toUTF8_inj {text text' : String} :
    text.toUTF8.toList = text'.toUTF8.toList ↔ text = text' := by
  rw [toList_bytes, toList_bytes, Array.toList_inj, ← ByteArray.ext_iff]
  exact String.toByteArray_inj

theorem toList_toUTF8_append_feed (text : String) :
    (text ++ "\n").toUTF8.toList = text.toUTF8.toList ++ [Sink.lineEnd] := by
  rw [toList_bytes, toList_bytes, String.toUTF8_eq_toByteArray, String.toByteArray_append,
    ByteArray.data_append, Array.toList_append]
  rfl

/-- Does the file hold a dump? -/
def holdsDump (files : String → Except ReadFault ByteArray) (path : String) : Bool :=
  (Dump.ofFile path (files path)).isOk

/-- Does the command read the standard input? The second source of a comparison is read only if the
    first one could be. -/
def Command.readsStdin (files : String → Except ReadFault ByteArray) : Command → Bool
  | validate path => Source.isDash path
  | diff before after =>
    Source.isDash before || (Source.isDash after && holdsDump files before)

/-- The standard input after some commands. -/
def stdinAfter (files : String → Except ReadFault ByteArray) (commands : List Command)
    (stdin : ByteArray) : ByteArray :=
  if commands.any (·.readsStdin files) then .empty else stdin

namespace Progress

variable {α β : Type} (p : Progress α) (next : α → ByteArray → Progress β)

theorem stdin_andThen :
    (p.andThen next).stdin =
      match p.result with
      | .error _ => p.stdin
      | .ok a => (next a p.stdin).stdin := by
  rw [andThen]
  cases p.result <;> rfl

theorem result_andThen :
    (p.andThen next).result = p.result.bind fun a => (next a p.stdin).result := by
  rw [andThen]
  cases p.result <;> rfl

end Progress

namespace Session

variable (session : Session) (files : String → Except ReadFault ByteArray)

theorem result_load (path : String) (stdin : ByteArray) :
    (session.load files path stdin).result =
      ((Source.ofPath path).load files stdin).1.map session.filter.apply := by
  rw [load]
  generalize (Source.ofPath path).load files stdin = source
  obtain ⟨result, left⟩ := source
  cases result <;> rfl

theorem stdin_ofPath_load (path : String) (stdin : ByteArray) :
    ((Source.ofPath path).load files stdin).2 = (session.load files path stdin).stdin := by
  rw [load]
  generalize (Source.ofPath path).load files stdin = source
  obtain ⟨result, left⟩ := source
  cases result <;> rfl

theorem stdin_load (path : String) (stdin : ByteArray) :
    (session.load files path stdin).stdin = if Source.isDash path then .empty else stdin := by
  rw [← stdin_ofPath_load, Source.ofPath]
  split <;> rfl

/-- Whether there is a dump in a file is not up to the standard input. -/
theorem isOk_load {path : String} (isFile : Source.isDash path = false) (stdin : ByteArray) :
    (session.load files path stdin).result.isOk = holdsDump files path := by
  have isSource : Source.ofPath path = .file path := by
    rw [Source.ofPath, isFile]
    rfl
  rw [result_load, isSource, holdsDump, Source.load]
  cases Dump.ofFile path (files path) <;> rfl

theorem stdin_check (command : Command) (stdin : ByteArray) :
    (session.check files command stdin).stdin =
      if command.readsStdin files then .empty else stdin := by
  cases command with
  | validate path =>
      rw [check, Progress.stdin_andThen, Command.readsStdin, ← session.stdin_load files path stdin]
      cases (session.load files path stdin).result <;> rfl
  | diff before after =>
      have second (stdin : ByteArray) (first : Dump) :
          ((session.load files after stdin).andThen fun dump stdin =>
            let result := Exposition.diff first dump
            ⟨.ok (.difference result), [.compared first.origin dump.origin result],
              stdin⟩ : Progress Report).stdin =
            if Source.isDash after then .empty else stdin := by
        rw [Progress.stdin_andThen, ← session.stdin_load files after stdin]
        cases (session.load files after stdin).result <;> rfl
      rw [check, Progress.stdin_andThen, Command.readsStdin]
      simp only [second]
      cases isDash : Source.isDash before with
      | true =>
          simp only [stdin_load, isDash]
          cases (session.load files before stdin).result <;> simp
      | false =>
          rw [← session.isOk_load files isDash stdin]
          simp only [stdin_load, isDash]
          cases (session.load files before stdin).result <;> simp [Except.isOk, Except.toBool]

theorem stdin_run (command : Command) (stdin : ByteArray) (output : Sink) :
    (session.run files command stdin output).stdin =
      if command.readsStdin files then .empty else stdin := by
  rw [run, ← session.stdin_check files command stdin]
  cases (session.check files command stdin).result <;> rfl

end Session

/-- Two runs of a command with different outputs came to the same, and both put the same bytes
    behind what was written. -/
structure SameEffect (output output' : Sink) (outcome outcome' : Outcome) : Prop where
  result : outcome.result = outcome'.result
  events : outcome.events = outcome'.events
  stdin : outcome.stdin = outcome'.stdin
  output : ∃ bytes, outcome.output = output.put bytes ∧ outcome'.output = output'.put bytes

/-- The output after commands that came to some outcomes. -/
def outputAfter (output : Sink) (outcomes : List Outcome) : Sink :=
  (outcomes.getLast?.map (·.output)).getD output

@[simp] theorem outputAfter_cons (output : Sink) (outcome : Outcome) (outcomes : List Outcome) :
    outputAfter output (outcome :: outcomes) = outputAfter outcome.output outcomes := by
  rw [outputAfter, outputAfter, List.getLast?_cons]
  cases outcomes.getLast? <;> rfl

@[simp] theorem stdinAfter_cons (files : String → Except ReadFault ByteArray) (command : Command)
    (commands : List Command) (stdin : ByteArray) :
    stdinAfter files (command :: commands) stdin =
      stdinAfter files commands (if command.readsStdin files then .empty else stdin) := by
  rw [stdinAfter, stdinAfter, List.any_cons]
  cases command.readsStdin files <;> simp

namespace Session

variable (session : Session) (files : String → Except ReadFault ByteArray)

theorem emit_of_unfailing {output : Sink} (h : output.Unfailing) (report : Report) :
    session.emit report output =
      (output.put ((report.render session.style).toUTF8.toList ++ [Sink.lineEnd]), .ok ()) := by
  simp only [emit, h.writeLine, (h.put _).flushes]

theorem run_of_error {command : Command} {stdin : ByteArray} {failure : Failure}
    (h : (session.check files command stdin).result = .error failure) (output : Sink) :
    (session.run files command stdin output).result = .error failure ∧
      (session.run files command stdin output).output = output := by
  simp only [run, h, and_self]

theorem check_of_run_error {output : Sink} (h : output.Unfailing) {command : Command}
    {stdin : ByteArray} {failure : Failure}
    (failed : (session.run files command stdin output).result = .error failure) :
    (session.check files command stdin).result = .error failure := by
  rw [run] at failed
  cases checked : (session.check files command stdin).result with
  | error e =>
      simp only [checked, Except.error.injEq] at failed
      rw [failed]
  | ok report => simp [checked, session.emit_of_unfailing h, Except.map] at failed

theorem run_sameEffect {output output' : Sink} (h : output.Unfailing) (h' : output'.Unfailing)
    (command : Command) (stdin : ByteArray) :
    SameEffect output output' (session.run files command stdin output)
      (session.run files command stdin output') := by
  rw [run, run]
  cases (session.check files command stdin).result with
  | error failure => exact ⟨rfl, rfl, rfl, [], Sink.put_nil.symm, Sink.put_nil.symm⟩
  | ok report =>
      simp only [session.emit_of_unfailing h, session.emit_of_unfailing h']
      exact ⟨rfl, rfl, rfl, _, rfl, rfl⟩

/-- With an output for each command, only the standard input is handed on. -/
theorem getElem?_runAll {commands : List Command} {k : Nat} {command : Command}
    (here : commands[k]? = some command) (stdin : ByteArray) (output : Sink) :
    (session.runAll files output commands stdin)[k]? =
      some (session.run files command (stdinAfter files (commands.take k) stdin) output) := by
  induction commands generalizing k stdin with
  | nil => cases here
  | cons first rest ih =>
      cases k with
      | zero =>
          cases here
          rfl
      | succ k =>
          rw [runAll, List.getElem?_cons_succ, ih here, session.stdin_run, List.take_succ_cons,
            stdinAfter_cons]

/-- Each command of a session has the effect it has on its own. -/
theorem runInTurn_sameEffect {output fresh : Sink} (h : output.Unfailing)
    (isFresh : fresh.Unfailing) {commands : List Command} {k : Nat} {command : Command}
    (here : commands[k]? = some command) (stdin : ByteArray) :
    ∃ outcome, (session.runInTurn files commands stdin output)[k]? = some outcome ∧
      SameEffect (outputAfter output ((session.runInTurn files commands stdin output).take k)) fresh
        outcome
        (session.run files command (stdinAfter files (commands.take k) stdin) fresh) := by
  -- The output is different at each command, but stays one that does not fail.
  induction commands generalizing k stdin output with
  | nil => cases here
  | cons first rest ih =>
      have effect := session.run_sameEffect files h isFresh first stdin
      rw [runInTurn]
      cases k with
      | zero =>
          cases here
          exact ⟨_, rfl, effect⟩
      | succ k =>
          obtain ⟨bytes, written, -⟩ := effect.output
          have unfailing : (session.run files first stdin output).output.Unfailing :=
            written ▸ h.put bytes
          simp only [List.take_succ_cons, outputAfter_cons, stdinAfter_cons,
            ← session.stdin_run files first stdin output]
          exact ih unfailing here _

end Session

/-- The command comes to a source that cannot be read or holds no dump. The second source of a
    comparison is come to with what the first one leaves of the standard input. -/
def Command.LoadFails (files : String → Except ReadFault ByteArray) (stdin : ByteArray)
    (failure : Failure) : Command → Prop
  | validate path => ((Source.ofPath path).load files stdin).1 = .error failure
  | diff before after =>
    let (first, left) := (Source.ofPath before).load files stdin
    first = .error failure ∨
      ((∃ dump, first = .ok dump) ∧ ((Source.ofPath after).load files left).1 = .error failure)

/-- Every source of the command holds a dump, and this is what the check finds in them without the
    families that the filter drops. -/
def Command.Finds (filter : FamilyFilter) (files : String → Except ReadFault ByteArray)
    (stdin : ByteArray) : Command → Report → Prop
  | validate path, report =>
    ∃ dump, ((Source.ofPath path).load files stdin).1 = .ok dump ∧
      report = .validation (Exposition.validate (filter.apply dump))
  | diff before after, report =>
    let (first, left) := (Source.ofPath before).load files stdin
    ∃ old new, first = .ok old ∧ ((Source.ofPath after).load files left).1 = .ok new ∧
      report = .difference (Exposition.diff (filter.apply old) (filter.apply new))

theorem Dump.ofStream_empty (origin : Origin) : ofStream origin .empty = .ok ⟨origin, []⟩ := by
  have noBytes : String.fromUTF8? .empty = some "" := fromUTF8?_eq_some_iff.mpr rfl
  have noLines : familiesOfText "" = .ok [] := by decide +kernel
  simp only [ofStream, decode, noBytes, noLines]

namespace Session

variable (session : Session) (files : String → Except ReadFault ByteArray)

theorem check_eq_error_iff {command : Command} {stdin : ByteArray} {failure : Failure} :
    (session.check files command stdin).result = .error failure ↔
      command.LoadFails files stdin failure := by
  cases command with
  | validate path =>
      rw [check, Progress.result_andThen, result_load, Command.LoadFails]
      cases ((Source.ofPath path).load files stdin).1 <;> simp [Except.map, Except.bind]
  | diff before after =>
      rw [check, Progress.result_andThen, result_load, Command.LoadFails, ← stdin_ofPath_load]
      obtain ⟨first, left⟩ := (Source.ofPath before).load files stdin
      cases first with
      | error failure => simp [Except.map, Except.bind]
      | ok dump =>
          simp only [Except.map, Except.bind, Progress.result_andThen, result_load]
          cases ((Source.ofPath after).load files left).1 <;> simp

theorem check_eq_ok_iff {command : Command} {stdin : ByteArray} {report : Report} :
    (session.check files command stdin).result = .ok report ↔
      command.Finds session.filter files stdin report := by
  cases command with
  | validate path =>
      rw [check, Progress.result_andThen, result_load, Command.Finds]
      cases ((Source.ofPath path).load files stdin).1 <;> simp [Except.map, Except.bind, eq_comm]
  | diff before after =>
      rw [check, Progress.result_andThen, result_load, Command.Finds, ← stdin_ofPath_load]
      obtain ⟨first, left⟩ := (Source.ofPath before).load files stdin
      cases first with
      | error failure => simp [Except.map, Except.bind]
      | ok dump =>
          simp only [Except.map, Except.bind, Progress.result_andThen, result_load]
          cases ((Source.ofPath after).load files left).1 <;> simp [eq_comm]

theorem run_of_finds {command : Command} {stdin : ByteArray} {report : Report}
    (found : command.Finds session.filter files stdin report) (output : Sink) :
    (session.run files command stdin output).output = (session.emit report output).1 ∧
      (session.run files command stdin output).result =
        (session.emit report output).2.map fun () => report.verdict := by
  simp only [run, (session.check_eq_ok_iff files).mpr found, and_self]

/-- The standard input is read once: the second time there are no families in it. -/
theorem check_stdin_twice {stdin : ByteArray} {dump : Dump}
    (h : Dump.ofStream .stdin stdin = .ok dump) :
    (session.check files (.diff "-" "-") stdin).result =
      .ok (.difference (diff (session.filter.apply dump) ⟨.stdin, []⟩)) := by
  have isStdin : Source.ofPath "-" = .stdin := by decide +kernel
  have nothingLeft : session.filter.apply ⟨.stdin, []⟩ = ⟨.stdin, []⟩ := by
    rw [FamilyFilter.apply]
    split <;> rfl
  have isDash : Source.isDash "-" = true := by decide +kernel
  simp only [check, Progress.result_andThen, result_load, stdin_load, isStdin, isDash, Source.load,
    h, Dump.ofStream_empty, Except.map, Except.bind, if_true, nothingLeft]

end Session

/-- The commands of a session do not affect each other but by using up the standard input. Each has
    the result it has on its own, with a fresh output and with the standard input as it was or, if
    one of the earlier commands read it, with none, and it puts the same bytes behind what was
    written before. If a dump cannot be loaded, nothing is written. -/
theorem commands_independent (session : Session) (files : String → Except ReadFault ByteArray) :
    (∀ (commands : List Command) (stdin : ByteArray) (output fresh : Sink), output.Unfailing →
      fresh.Unfailing → ∀ (k : Nat) (command : Command), commands[k]? = some command →
        ∃ outcome, (session.runInTurn files commands stdin output)[k]? = some outcome ∧
          SameEffect (outputAfter output ((session.runInTurn files commands stdin output).take k))
            fresh outcome
            (session.run files command (stdinAfter files (commands.take k) stdin) fresh)) ∧
    (∀ (commands : List Command) (stdin : ByteArray) (fresh : Sink) (k : Nat) (command : Command),
      commands[k]? = some command →
        (session.runAll files fresh commands stdin)[k]? =
          some (session.run files command (stdinAfter files (commands.take k) stdin) fresh)) ∧
    (∀ (command : Command) (stdin : ByteArray) (output : Sink),
      (session.run files command stdin output).stdin =
        if command.readsStdin files then .empty else stdin) ∧
    (∀ (stdin : ByteArray) (dump : Dump), Dump.ofStream .stdin stdin = .ok dump →
      (session.check files (.diff "-" "-") stdin).result =
        .ok (.difference (diff (session.filter.apply dump) ⟨.stdin, []⟩))) ∧
    (∀ (command : Command) (stdin : ByteArray) (output : Sink) (failure : Failure),
      command.LoadFails files stdin failure →
        (session.run files command stdin output).result = .error failure ∧
          (session.run files command stdin output).output = output) ∧
    ∀ (command : Command) (stdin : ByteArray) (output : Sink) (failure : Failure),
      output.Unfailing → (session.run files command stdin output).result = .error failure →
        command.LoadFails files stdin failure := by
  refine ⟨?_, ?_, session.stdin_run files, fun _ _ => session.check_stdin_twice files, ?_, ?_⟩
  · intro commands stdin output fresh h isFresh k command here
    exact session.runInTurn_sameEffect files h isFresh here stdin
  · intro commands stdin fresh k command here
    exact session.getElem?_runAll files here stdin fresh
  · intro command stdin output failure fails
    exact session.run_of_error files ((session.check_eq_error_iff files).mpr fails) output
  · intro command stdin output failure h failed
    exact (session.check_eq_error_iff files).mp (session.check_of_run_error files h failed)

/-- The first command fails at a missing file, so the standard input is left to the second one. The
    third one has nothing to read. -/
theorem commands_independent_stdin_once :
    let session : Session := ⟨.human false, .empty, .warn⟩
    let files : String → Except ReadFault ByteArray := fun _ => .error .missing
    let commands : List Command := [.diff "before" "-", .validate "-", .diff "-" "after"]
    let stdin := "n 1\n".toUTF8
    let output : Sink := ⟨[0x6e], none, none⟩
    let outcomes := session.runInTurn files commands stdin output
    (∃ outcome, outcomes[1]? = some outcome ∧
      SameEffect (outputAfter output (outcomes.take 1)) .unbounded outcome
        (session.run files (.validate "-") stdin .unbounded)) ∧
    (∃ outcome, outcomes[2]? = some outcome ∧
      SameEffect (outputAfter output (outcomes.take 2)) .unbounded outcome
        (session.run files (.diff "-" "after") .empty .unbounded)) ∧
    (session.run files (.diff "before" "-") stdin output).output = output := by
  intro session files commands stdin output outcomes
  obtain ⟨inTurn, -, -, -, failing, -⟩ := commands_independent session files
  have unfailing : output.Unfailing := ⟨fun _ => rfl, rfl⟩
  have dash : Source.isDash "-" = true := by decide +kernel
  have noDash : Source.isDash "before" = false := by decide +kernel
  have unread : stdinAfter files (commands.take 1) stdin = stdin := by
    simp [stdinAfter, commands, Command.readsStdin, noDash, holdsDump, files, Dump.ofFile,
      Except.isOk, Except.toBool]
  have usedUp : stdinAfter files (commands.take 2) stdin = .empty := by
    simp [stdinAfter, commands, Command.readsStdin, dash]
  have missing : (Command.diff "before" "-").LoadFails files stdin
      (Dump.unreadable "'before'" .missing) := by
    simp [Command.LoadFails, Source.ofPath, noDash, Source.load, files, Dump.ofFile]
  refine ⟨?_, ?_, (failing _ stdin output _ missing).2⟩
  · rw [← unread]
    exact inTurn commands stdin output .unbounded unfailing Sink.unfailing_unbounded 1 _ rfl
  · rw [← usedUp]
    exact inTurn commands stdin output .unbounded unfailing Sink.unfailing_unbounded 2 _ rfl

end Exposition
