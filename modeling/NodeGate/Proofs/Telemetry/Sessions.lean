import NodeGate.Proofs.Telemetry.Ledger
import NodeGate.Rehearsal.Session

/-!
# Sessions keep the ledger

A session does one thing after the other. Whatever it works on, its counters are those that the
controller comes to when it does its duties in one go each, so they account for every effect.
-/

namespace NodeGate

open Program

/-- A program whose end is renamed runs as before. -/
theorem Program.Runs.map {α β : Type} {program : Program α} {trace : List Happening} {value : α}
    (change : α → β) (run : Runs program trace value) :
    Runs (change <$> program) trace (change value) := by
  rw [map_eq_pure_bind]
  exact runs_bind_iff.mpr ⟨trace, [], value, (List.append_nil _).symm, run, .done⟩

namespace Rehearsal

namespace Recorder

variable {recorder : Recorder} {asked : Call} {told : Signal}

/-- An answer counts nothing. -/
theorem counters_answer : (answer asked recorder).2.counters = recorder.counters := by
  unfold answer
  split
  · rfl
  · cases asked <;> rfl

theorem counters_hear : (hear told recorder).counters = recorder.counters.observe told := by
  cases told <;> rfl

/-- A program runs against the recorder, which counts all that is told. -/
theorem exists_runs_counted {α : Type} (program : Program α) (recorder : Recorder) :
    ∃ trace, Runs program trace (program.runWith answering recorder).1 ∧
      (program.runWith answering recorder).2.counters =
        trace.foldl Counters.heed recorder.counters := by
  induction program generalizing recorder with
  | done value => exact ⟨[], .done, rfl⟩
  | request asked next ih =>
      obtain ⟨trace, run, counted⟩ := ih (answer asked recorder).1 (answer asked recorder).2
      rw [counters_answer] at counted
      exact ⟨_, .request run, counted⟩
  | signal told next ih =>
      obtain ⟨trace, run, counted⟩ := ih (hear told recorder)
      rw [counters_hear] at counted
      exact ⟨_, .signal run, counted⟩
  | freshPart next ih =>
      obtain ⟨trace, run, counted⟩ := ih constantPart recorder
      exact ⟨trace, .freshPart run, counted⟩
  | presentTime next ih =>
      obtain ⟨trace, run, counted⟩ := ih constantNow recorder
      exact ⟨trace, .presentTime run, counted⟩

end Recorder

variable {ω : Type} {log : List Entry}

namespace Session

variable {session : Session ω} {key : String} {pod : Pod}

/-- The session stands where the controller is idle after that log. -/
abbrev Logs (session : Session ω) (log : List Entry) : Prop :=
  Engine.Reaches log ⟨session.recorder.counters, []⟩

theorem Logs.reportLength (logs : session.Logs log) : session.reportLength.Logs log :=
  Engine.Reaches.gauge logs _

/-- The work on a key is a pass. -/
theorem Logs.work (logs : session.Logs log) : ∃ trace,
    (session.work key).2.Logs
      (log ++ Engine.entries (.pass key) session.site trace (.passed (session.work key).1)) := by
  obtain ⟨trace, run, counted⟩ :=
    Recorder.exists_runs_counted (Release.pass session.site key) session.recorder
  have passed : Runs (Duty.work session.site (.pass key)) trace (.passed _) :=
    run.map Duty.Result.passed
  have performed := logs.perform passed
  rw [← counted] at performed
  exact ⟨trace, Logs.reportLength performed⟩

theorem Logs.tick (logs : session.Logs log) : ∃ trace,
    session.tick.2.Logs
      (log ++ Engine.entries .tick session.site trace (.ticked session.tick.1)) := by
  obtain ⟨trace, run, counted⟩ :=
    Recorder.exists_runs_counted (Pool.tick session.site) session.recorder
  have ticked : Runs (Duty.work session.site .tick) trace (.ticked _) :=
    run.map Duty.Result.ticked
  have performed := logs.perform ticked
  rw [← counted] at performed
  exact ⟨trace, performed⟩

theorem Logs.noticeGone (logs : session.Logs log) : ∃ trace,
    (session.noticeGone pod).Logs
      (log ++ Engine.entries (.farewell pod) session.site trace .parted) := by
  obtain ⟨trace, run, counted⟩ :=
    Recorder.exists_runs_counted (Release.podVanished session.site pod) session.recorder
  have parted : Runs (Duty.work session.site (.farewell pod)) trace .parted :=
    run.map fun _ => Duty.Result.parted
  have performed := logs.perform parted
  rw [← counted] at performed
  exact ⟨trace, performed⟩

theorem Logs.noticePod (logs : session.Logs log) : (session.noticePod pod).Logs log := by
  unfold Session.noticePod
  dsimp only
  split
  · exact Logs.reportLength logs
  · exact logs

end Session

namespace Run

variable {run : Run ω}

/-- Whatever happens in a run is logged. -/
theorem step_logs (logs : run.session.Logs log) (event : RunEvent) :
    ∃ later, (run.step event).session.Logs (log ++ later) := by
  cases event with
  | work =>
      unfold step Session.workNext?
      cases run.session.desk.queue.take? with
      | none => exact ⟨[], by rwa [List.append_nil]⟩
      | some taken =>
          obtain ⟨key, queue⟩ := taken
          have before : (run.session.withQueue fun _ => queue).Logs log := logs
          obtain ⟨trace, worked⟩ := before.work
          exact ⟨_, worked⟩
  | tick =>
      obtain ⟨trace, ticked⟩ := logs.tick
      exact ⟨_, ticked⟩
  | pulse =>
      have queued := Engine.Reaches.gauge logs run.session.noticeAll.desk.queue.length
      exact ⟨[], by rwa [List.append_nil]⟩
  | pass instant => exact ⟨[], by rwa [List.append_nil]⟩

theorem steps_logs {limit : Nat} (logs : run.session.Logs log) :
    ∃ later, (steps limit run).session.Logs (log ++ later) := by
  induction limit generalizing run log with
  | zero => exact ⟨[], by rwa [List.append_nil]⟩
  | succ limit ih =>
      unfold steps
      split
      · exact ⟨[], by rwa [List.append_nil]⟩
      next event _ =>
        obtain ⟨first, stepped⟩ := step_logs logs event
        obtain ⟨rest, reached⟩ := ih stepped
        exact ⟨first ++ rest, by rwa [← List.append_assoc]⟩

end Run

/-- Whatever a session does in a time, its counters account for it. -/
theorem Session.Logs.run {session : Session ω} {limit pulses time : Nat} {staffed : Bool}
    (logs : session.Logs log) :
    ∃ later, (session.run limit staffed pulses time).2.Logs (log ++ later) :=
  Run.steps_logs logs

end Rehearsal

end NodeGate
