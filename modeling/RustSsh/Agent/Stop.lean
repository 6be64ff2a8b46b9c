/-
# Agent.Stop -- what is left when the agent has stopped

A stop drops the future of `run_control` at the await it is suspended at and shuts the
`JoinSet` down.  Dropping the `JoinHandle` of the reader task detaches it, so a stop
that finds `run_control_stream` in its loop leaves a task behind that still owns the
read half of the control stream, and with it the connection; nothing the agent does
afterwards ends it.  `stop_ends_all` says that this is the only way: a stop anywhere
else leaves no task.
-/
import RustSsh.Agent.Supervisor

namespace RustSsh.Agent

open RustSsh.Theory RustSsh.Protocol
open RustSsh.Server (ReaderTask)

set_option autoImplicit false

namespace Former

/-- The reader task has ended or was aborted. -/
def Ended (f : Former) : Prop := f.aborted = true ∨ f.control.reader = .ended

/-- A reader task that ended does nothing. -/
theorem Ended.step {f : Former} {e : ControlEvent} {control : Control} (ended : f.Ended)
    (own : e.byReader = true) (taken : f.control.step e = some control) :
    Ended { f with control } := by
  cases ended with
  | inl aborted => exact .inl aborted
  | inr reader =>
      cases e <;> simp only [ControlEvent.byReader] at own <;> try cases own
      all_goals simp [Control.step, reader] at taken

end Former

namespace Supervisor

/-- No task the supervisor spawned still runs: each has finished or was aborted. -/
structure AllEnded (s : Supervisor) : Prop where
  sessions : ∀ session ∈ s.sessions, session.task ≠ .running
  readers : ∀ f ∈ s.former, f.Ended

/-- `run_control_stream` is in its loop and its reader task is running. -/
def ReaderLive (s : Supervisor) : Prop :=
  ∃ c, s.phase = .control c ∧ c.point ≠ .joinReader ∧ c.reader ≠ .ended

/-- Whatever follows a stop in this state, no task is left when the function returns. -/
def StopEndsAll (s : Supervisor) : Prop :=
  ∀ s' acts t, s.step .stop = some s' → exec step s' acts = some t → t.phase = .returned →
    t.AllEnded

/-! ## Before a stop -/

/-- The loop of the connection in progress is running, and the reader tasks of all earlier
ones have ended. -/
structure Tidy (s : Supervisor) : Prop where
  running : ∀ c, s.phase = .control c → c.running = true ∧ c.Consumed
  former : s.phase ≠ .stopping → s.phase ≠ .returned → ∀ f ∈ s.former, f.Ended

theorem tidy_start (target : Except String Unit) : (start target).Tidy := by
  cases target with
  | ok valid =>
      refine ⟨?_, ?_⟩
      · intro c here
        cases here
      · intro _ _ f inside
        cases inside
  | error error =>
      refine ⟨?_, ?_⟩
      · intro c here
        cases here
      · intro _ _ f inside
        cases inside

/-- The reader task of one former connection makes a step, or is dropped. -/
theorem ended_set {former : List Former} {index : Nat} {f f' : Former}
    (ended : ∀ f ∈ former, f.Ended) (here : former[index]? = some f)
    (next : f.Ended → f'.Ended) : ∀ g ∈ former.set index f', g.Ended := by
  intro g inside
  cases List.mem_or_eq_of_mem_set inside with
  | inl other => exact ended g other
  | inr same =>
      rw [same]
      exact next (ended f (List.mem_of_getElem? here))

/-- The next suspension is not in the control loop, and the reader tasks are the same. -/
theorem Tidy.outside {s s' : Supervisor} (tidy : s.Tidy) (going : s.phase ≠ .stopping)
    (loose : s.phase ≠ .returned) (after : ∀ c, s'.phase ≠ .control c)
    (former : s'.former = s.former) : s'.Tidy := by
  refine ⟨fun c here => absurd here (after c), fun _ _ => ?_⟩
  rw [former]
  exact tidy.former going loose

/-- The supervisor is being shut down, or was. -/
theorem tidy_stopped {s : Supervisor} (stopped : s.phase = .stopping ∨ s.phase = .returned) :
    s.Tidy := by
  refine ⟨fun c here => ?_, fun going loose => ?_⟩
  · cases stopped with
    | inl stopping =>
        rw [stopping] at here
        cases here
    | inr returned =>
        rw [returned] at here
        cases here
  · cases stopped with
    | inl stopping => exact absurd stopping going
    | inr returned => exact absurd returned loose

theorem Tidy.step {s s' : Supervisor} {e : Event} (tidy : s.Tidy) (taken : s.step e = some s') :
    s'.Tidy := by
  cases step_rule taken with
  | connected here => exact tidy.outside (by simp [here]) (by simp [here]) (by simp) rfl
  | greeted here => exact tidy.outside (by simp [here]) (by simp [here]) (by simp) rfl
  | refused m here => exact tidy.outside (by simp [here]) (by simp [here]) (by simp [retryLater]) rfl
  | retry retryDelay here => exact tidy.outside (by simp [here]) (by simp [here]) (by simp) rfl
  | failed here =>
      apply tidy.outside
      · rintro stopping
        simp [stopping] at here
      · rintro returned
        simp [returned] at here
      · simp [retryLater]
      · rfl
  | welcomed features here =>
      refine ⟨?_, fun _ _ => tidy.former (by simp [here]) (by simp [here])⟩
      intro c same
      cases same
      exact ⟨rfl, Control.consumed_start _⟩
  | loops c c' e here own next inside =>
      obtain ⟨running, consumed⟩ := tidy.running c here
      refine ⟨?_, fun _ _ => tidy.former (by simp [here]) (by simp [here])⟩
      intro other same
      cases same
      exact ⟨Control.running_step running own.2 next inside, Control.consumed_step consumed next⟩
  | leaves c c' e here own next left =>
      obtain ⟨running, consumed⟩ := tidy.running c here
      refine ⟨?_, fun _ _ f inside => ?_⟩
      · intro other same
        cases same
      · -- the connection that was left had joined its reader task
        simp only [retryLater, List.mem_append, List.mem_singleton] at inside
        cases inside with
        | inl earlier => exact tidy.former (by simp [here]) (by simp [here]) f earlier
        | inr last =>
            rw [last]
            exact .inr ((Control.consumed_step consumed next).joined left)
  | former index e f control here own next =>
      exact ⟨tidy.running, fun going loose =>
        ended_set (tidy.former going loose) here fun ended => ended.step own next⟩
  | dropsReader index f here =>
      exact ⟨tidy.running, fun going loose =>
        ended_set (tidy.former going loose) here fun _ => .inr rfl⟩
  | sessionEnds => exact ⟨tidy.running, tidy.former⟩
  | join => exact ⟨tidy.running, tidy.former⟩
  | drops => exact tidy_stopped (.inl rfl)
  | stops => exact tidy_stopped (.inl rfl)
  | returns => exact tidy_stopped (.inr rfl)

/-! ## After a stop -/

/-- The function shuts the sessions down or has returned, and no task runs. -/
structure Quiet (s : Supervisor) : Prop where
  phase : s.phase = .stopping ∨ s.phase = .returned
  ended : s.AllEnded

theorem Quiet.step {s s' : Supervisor} {e : Event} (quiet : s.Quiet) (taken : s.step e = some s') :
    s'.Quiet := by
  obtain ⟨phase, sessions, readers⟩ := quiet
  cases step_rule taken with
  | former index e f control here own next =>
      exact ⟨phase, sessions, ended_set readers here fun ended => ended.step own next⟩
  | dropsReader index f here =>
      exact ⟨phase, sessions, ended_set readers here fun _ => .inr rfl⟩
  | sessionEnds index session here =>
      refine ⟨phase, ?_, readers⟩
      intro other inside
      cases List.mem_or_eq_of_mem_set inside with
      | inl old => exact sessions other old
      | inr same =>
          rw [same]
          simp
  | join index =>
      exact ⟨phase, fun session inside => sessions session (List.mem_of_mem_eraseIdx inside), readers⟩
  | returns => exact ⟨.inr rfl, sessions, readers⟩
  | connected here | greeted here | welcomed features here | refused m here | retry retryDelay here
  | loops c c' e here | leaves c c' e here | drops c control here => simp [here] at phase
  | failed here =>
      cases phase with
      | inl stopping => simp [stopping] at here
      | inr returned => simp [returned] at here
  | stops outside going loose =>
      cases phase with
      | inl stopping => exact absurd stopping going
      | inr returned => exact absurd returned loose

/-- A session that is being shut down does not run. -/
theorem abort_task (session : Session) : session.abort.task ≠ .running := by
  unfold Session.abort
  cases here : session.task <;> simp [here]

/-- A stop that leaves no reader task running leaves no task running. -/
theorem Tidy.stop {s s' : Supervisor} (tidy : s.Tidy) (dead : ¬ s.ReaderLive)
    (taken : s.step .stop = some s') : s'.Quiet := by
  have aborted : ∀ session ∈ s.sessions.map Session.abort, session.task ≠ .running := by
    intro session inside
    obtain ⟨before, -, rfl⟩ := List.mem_map.mp inside
    exact abort_task before
  cases step_rule taken with
  | drops c control here next =>
      refine ⟨.inl rfl, aborted, ?_⟩
      intro f inside
      simp only [Supervisor.stop, List.mem_append, List.mem_singleton] at inside
      cases inside with
      | inl earlier => exact tidy.former (by simp [here]) (by simp [here]) f earlier
      | inr last =>
          rw [last]
          by_cases joining : c.point = .joinReader
          · exact .inl (by simp [joining])
          · right
            by_contra live
            apply dead
            refine ⟨c, here, joining, ?_⟩
            simp only [Control.step] at next
            split at next <;> cases next
            exact live
  | stops outside going loose => exact ⟨.inl rfl, aborted, tidy.former going loose⟩

/-- The shutdown can always come to its end while the other tasks do nothing. -/
theorem shutdown_returns (sessions : List Session) {s : Supervisor} (stopping : s.phase = .stopping)
    (here : s.sessions = sessions) :
    ∃ acts t, exec step s acts = some t ∧ t.phase = .returned ∧ t.former = s.former := by
  induction sessions generalizing s with
  | nil =>
      refine ⟨[.returns], { s with phase := .returned }, ?_, rfl, rfl⟩
      simp [exec, Supervisor.step, stopping, here]
  | cons session rest ih =>
      obtain ⟨acts, t, run, returned, former⟩ :=
        ih (s := { s with sessions := rest }) stopping rfl
      by_cases finished : session.task = .finished
      · refine ⟨.join 0 :: acts, t, ?_, returned, former⟩
        simpa [exec, Supervisor.step, joinSession, stopping, here, finished] using run
      · refine ⟨.sessionEnds 0 :: .join 0 :: acts, t, ?_, returned, former⟩
        simpa [exec, Supervisor.step, endSession, joinSession, stopping, here, finished] using run

/-! ## The result -/

/-- **A stop ends all tasks exactly where no reader task is left to run**: in every state
of every run, whatever follows the stop. -/
theorem stop_ends_all {target : Except String Unit} {s : Supervisor}
    (reached : Reached step (start target) s) : s.StopEndsAll ↔ ¬ s.ReaderLive := by
  have tidy : s.Tidy :=
    reached.invariant (tidy_start target) fun _ _ _ holds taken => holds.step taken
  constructor
  · intro ends live
    obtain ⟨c, here, looping, reading⟩ := live
    have running := (tidy.running c here).1
    let dropped : Former := ⟨{ c with point := .dropped }, false⟩
    have taken : s.step .stop =
        some (Supervisor.stop { s with former := s.former ++ [dropped] }) := by
      simp [Supervisor.step, here, Control.step, running, looping, dropped]
    obtain ⟨acts, t, run, returned, former⟩ :=
      shutdown_returns _ (s := Supervisor.stop { s with former := s.former ++ [dropped] }) rfl rfl
    have all := ends _ acts t taken run returned
    have left : dropped ∈ t.former := by
      rw [former]
      simp [Supervisor.stop]
    cases all.readers dropped left with
    | inl aborted => cases aborted
    | inr ended => exact reading ended
  · intro dead s' acts t taken run returned
    have quiet : t.Quiet :=
      Reached.invariant ⟨acts, run⟩ (tidy.stop dead taken) fun _ _ _ holds taken => holds.step taken
    exact quiet.ended

/-- A stop in the sleep after a failed connection. -/
theorem stop_ends_all_backoff :
    ∃ s, Reached step (start (.ok ())) s ∧ s.phase = .backoff 1 ∧ (s.StopEndsAll ↔ ¬ s.ReaderLive) :=
  have reached : Reached step (start (.ok ())) ((exec step (start (.ok ())) [.failed]).get (by decide)) :=
    ⟨[.failed], (Option.some_get _).symm⟩
  ⟨_, reached, by decide, stop_ends_all reached⟩

/-- The agent is connected when it is stopped. -/
def stoppedActs : List Event :=
  [.connected, .greeted, .answered (.helloOk []), .stop, .returns]

def stoppedEnd : Supervisor := (exec step (start (.ok ())) stoppedActs).get (by decide)

/-- The function has returned and the reader task still reads the control stream. -/
theorem reader_outlives_stop :
    exec step (start (.ok ())) stoppedActs = some stoppedEnd ∧ stoppedEnd.phase = .returned ∧
      (stoppedEnd.former.map fun f => (f.aborted, f.control.reader)) = [(false, .reading)] ∧
      ¬ ∀ s, Reached step (start (.ok ())) s → s.StopEndsAll := by
  refine ⟨(Option.some_get _).symm, by decide, by decide, ?_⟩
  intro claim
  have run : exec step (start (.ok ()))
      ([.connected, .greeted, .answered (.helloOk [])] ++ .stop :: [.returns]) = some stoppedEnd :=
    (Option.some_get _).symm
  obtain ⟨connected, stopped, before, taken, after⟩ := exec_split run
  have all := claim connected ⟨_, before⟩ stopped _ stoppedEnd taken after (by decide)
  have left : ∀ f ∈ stoppedEnd.former, ¬ f.Ended := by
    unfold Former.Ended
    decide
  have here : stoppedEnd.former ≠ [] := by decide
  obtain ⟨f, inside⟩ := List.exists_mem_of_ne_nil _ here
  exact left f inside (all.readers f inside)

end Supervisor

end RustSsh.Agent
