/-
# Agent.Reconnect -- what the agent reports and how long it sleeps

A run of the reconnect loop is a sequence of attempts, each of which the relay accepted or not:
an attempt begins with the run or behind a sleep, and is accepted by a `HelloOk` (`attempts`).
`reconnects` says that nothing else about a run shows: the statuses are those of its attempts, one
after the other, with one `Stopped` behind them once the stop has come, and the sleep behind an
attempt is one second if the attempt was accepted and doubles, up to thirty seconds, with every
attempt in a row that was not.
-/
import RustSsh.Agent.Supervisor
import Mathlib.Algebra.Group.Nat.Defs

namespace RustSsh.Agent

open RustSsh.Theory RustSsh.Protocol

set_option autoImplicit false

/-! ## Attempts -/

/-- Whether the relay accepted each attempt, the oldest first, and the last one. -/
structure Attempts where
  past : List Bool
  last : Bool
  deriving DecidableEq, Repr

def Attempts.after (a : Attempts) : Event → Attempts
  | .retry => ⟨a.past ++ [a.last], false⟩
  | .answered (.helloOk _) => { a with last := true }
  | _ => a

/-- The attempts that the events of a run make. -/
def attempts (acts : List Event) : Attempts := acts.foldl Attempts.after ⟨[], false⟩

theorem attempts_snoc (acts : List Event) (e : Event) :
    attempts (acts ++ [e]) = (attempts acts).after e := by
  simp [attempts]

/-- Any other event is inside an attempt or behind one. -/
theorem attempts_other {e : Event} (retry : e ≠ .retry)
    (answer : ∀ features, e ≠ .answered (.helloOk features)) (acts : List Event) :
    attempts (acts ++ [e]) = attempts acts := by
  rw [attempts_snoc]
  unfold Attempts.after
  split
  · exact absurd rfl retry
  · exact absurd rfl (answer _)
  · rfl

/-- The attempts at the end that were not accepted. -/
def failuresInARow (past : List Bool) : Nat := (past.reverse.takeWhile (!·)).length

@[simp] theorem failuresInARow_nil : failuresInARow [] = 0 := rfl

@[simp] theorem failuresInARow_accepted (past : List Bool) :
    failuresInARow (past ++ [true]) = 0 := by
  simp [failuresInARow]

@[simp] theorem failuresInARow_failed (past : List Bool) :
    failuresInARow (past ++ [false]) = failuresInARow past + 1 := by
  simp [failuresInARow]

/-- The seconds slept behind an attempt, `past` being those before it. -/
def sleepAfter (past : List Bool) (accepted : Bool) : Nat :=
  if accepted then initialReconnectDelay
  else min (2 ^ failuresInARow past) maxReconnectDelay

theorem sleepAfter_bounds (past : List Bool) (accepted : Bool) :
    1 ≤ sleepAfter past accepted ∧ sleepAfter past accepted ≤ 30 := by
  have power : 0 < 2 ^ failuresInARow past := Nat.two_pow_pos _
  cases accepted with
  | true => simp [sleepAfter, initialReconnectDelay]
  | false =>
      simp only [sleepAfter, maxReconnectDelay, Bool.false_eq_true, if_false]
      omega

/-- The delay that the loop carries is the sleep behind an attempt that fails. -/
theorem nextReconnectDelay_attempt (past : List Bool) (accepted : Bool) :
    nextReconnectDelay (sleepAfter past false) accepted =
      sleepAfter (past ++ [accepted]) false := by
  cases accepted with
  | true => simp [nextReconnectDelay, sleepAfter, initialReconnectDelay, maxReconnectDelay]
  | false =>
      simp only [nextReconnectDelay, sleepAfter, maxReconnectDelay, failuresInARow_failed,
        Bool.false_eq_true, if_false, Nat.pow_succ]
      omega

/-- What an attempt reports; `ended` if the loop sleeps behind it. -/
def attemptTold (accepted ended : Bool) : List Status :=
  .connecting :: ((if accepted then [.connected] else []) ++ if ended then [.retrying] else [])

/-! ## The run -/

def Phase.sleeping : Phase → Bool
  | .backoff _ => true
  | _ => false

def Phase.stopped : Phase → Bool
  | .stopping => true
  | .returned => true
  | _ => false

/-- The attempt in progress has been accepted by the relay; in a sleep it is over. -/
def Phase.accepted : Phase → Option Bool
  | .connecting => some false
  | .greeting => some false
  | .awaitingHello => some false
  | .control _ => some true
  | _ => none

/-- The state in which the stop came, or else the last one. -/
def BeforeStop (acts : List Event) (s mid : Supervisor) : Prop :=
  if s.phase.stopped then
    mid.phase.stopped = false ∧ ∃ pre post, acts = pre ++ .stop :: post ∧
      exec Supervisor.step (Supervisor.start (.ok ())) pre = some mid
  else mid = s

/-- What a run of the loop shows of its attempts. -/
structure Reconnects (acts : List Event) (s : Supervisor) : Prop where
  /-- the loop knows whether its last attempt was accepted -/
  connected : s.connected = (attempts acts).last
  /-- an attempt in progress is accepted in the control loop and nowhere else -/
  progress : ∀ accepted, s.phase.accepted = some accepted → (attempts acts).last = accepted
  told : ∃ mid, BeforeStop acts s mid ∧
    s.statuses = (attempts acts).past.flatMap (attemptTold · true) ++
      attemptTold (attempts acts).last mid.phase.sleeping ++
      if s.phase.stopped then [.stopped] else []
  sleeps : ∀ retryDelay, s.phase = .backoff retryDelay →
    retryDelay = sleepAfter (attempts acts).past (attempts acts).last
  delay : s.delay = sleepAfter (attempts acts).past false

namespace Reconnects

variable {acts : List Event} {s s' : Supervisor} {e : Event}

theorem start : Reconnects [] (Supervisor.start (.ok ())) where
  connected := rfl
  progress accepted here := by
    cases here
    rfl
  told := ⟨_, rfl, rfl⟩
  sleeps retryDelay here := by cases here
  delay := rfl

/-- A run that has not stopped tells of its last state. -/
theorem going (before : Reconnects acts s) (running : s.phase.stopped = false) :
    s.statuses = (attempts acts).past.flatMap (attemptTold · true) ++
      attemptTold (attempts acts).last s.phase.sleeping := by
  obtain ⟨mid, last, told⟩ := before.told
  simp only [BeforeStop, running, Bool.false_eq_true, if_false] at last
  rw [last, running] at told
  simpa using told

/-- A step inside an attempt, or behind the stop, that reports nothing. -/
theorem quiet (before : Reconnects acts s) (same : attempts (acts ++ [e]) = attempts acts)
    (phase : s'.phase.accepted = s.phase.accepted)
    (stopped : s'.phase.stopped = s.phase.stopped) (sleeping : s'.phase.sleeping = s.phase.sleeping)
    (sleeps : ∀ retryDelay, s'.phase = .backoff retryDelay → s.phase = .backoff retryDelay)
    (connected : s'.connected = s.connected) (statuses : s'.statuses = s.statuses)
    (delay : s'.delay = s.delay) : Reconnects (acts ++ [e]) s' where
  connected := by rw [same, connected, before.connected]
  progress accepted here := by
    rw [same]
    exact before.progress accepted (phase ▸ here)
  told := by
    obtain ⟨mid, last, told⟩ := before.told
    rw [same, statuses, told, stopped]
    unfold BeforeStop at last ⊢
    rw [stopped]
    split at last
    · rename_i ended
      obtain ⟨loose, pre, post, split, reach⟩ := last
      refine ⟨mid, ?_, rfl⟩
      rw [if_pos ended]
      exact ⟨loose, pre, post ++ [e], by simp [split], reach⟩
    · rename_i going
      refine ⟨s', by rw [if_neg going], ?_⟩
      rw [last, sleeping]
  sleeps retryDelay here := by
    rw [same]
    exact before.sleeps retryDelay (sleeps retryDelay here)
  delay := by rw [same, delay, before.delay]

/-- The attempt ends and the loop goes to sleep. -/
theorem later (before : Reconnects acts s) (same : attempts (acts ++ [e]) = attempts acts)
    (running : s.phase.accepted.isSome = true) {t : Supervisor} (connected : t.connected = s.connected)
    (statuses : t.statuses = s.statuses) (delay : t.delay = s.delay) :
    Reconnects (acts ++ [e]) t.retryLater where
  connected := by
    rw [same, ← before.connected, ← connected]
    rfl
  progress accepted here := by cases here
  told := by
    have going : s.phase.stopped = false ∧ s.phase.sleeping = false := by
      cases here : s.phase <;> simp_all [Phase.accepted, Phase.stopped, Phase.sleeping]
    have told := before.going going.1
    refine ⟨t.retryLater, rfl, ?_⟩
    rw [going.2] at told
    simp [same, Supervisor.retryLater, Phase.stopped, Phase.sleeping, statuses, told, attemptTold]
  sleeps retryDelay here := by
    have slept : (if t.connected then initialReconnectDelay else t.delay) = retryDelay :=
      Phase.backoff.inj here
    rw [same, ← slept, connected, delay, before.delay, before.connected]
    cases (attempts acts).last <;> rfl
  delay := by
    rw [same, ← before.delay, ← delay]
    rfl

theorem stop (run : exec Supervisor.step (Supervisor.start (.ok ())) acts = some s)
    (before : Reconnects acts s) (going : s.phase.stopped = false)
    {t : Supervisor} (connected : t.connected = s.connected) (statuses : t.statuses = s.statuses)
    (delay : t.delay = s.delay) : Reconnects (acts ++ [.stop]) t.stop := by
  have same : attempts (acts ++ [.stop]) = attempts acts := attempts_other (by simp) (by simp) acts
  constructor
  · rw [same, ← before.connected, ← connected]
    rfl
  · intro accepted here
    cases here
  · refine ⟨s, ⟨going, acts, [], rfl, run⟩, ?_⟩
    rw [same]
    simp [Supervisor.stop, Phase.stopped, statuses, before.going going]
  · intro retryDelay here
    cases here
  · rw [same, ← before.delay, ← delay]
    rfl

/-- The sleep is over and the next attempt begins. -/
theorem retry {retryDelay : Nat} (before : Reconnects acts s)
    (here : s.phase = .backoff retryDelay) :
    Reconnects (acts ++ [.retry])
      { s with
        phase := .connecting
        delay := nextReconnectDelay s.delay s.connected
        connected := false
        statuses := s.statuses ++ [.connecting] } := by
  have next : attempts (acts ++ [.retry]) = ⟨(attempts acts).past ++ [(attempts acts).last], false⟩ :=
    attempts_snoc ..
  constructor
  · rw [next]
  · intro accepted phase
    rw [next]
    cases phase
    rfl
  · have told := before.going (by rw [here]; rfl)
    refine ⟨_, rfl, ?_⟩
    rw [here] at told
    simp [next, told, Phase.stopped, Phase.sleeping, attemptTold]
  · intro retryDelay phase
    cases phase
  · rw [next, before.delay, before.connected]
    exact nextReconnectDelay_attempt ..

/-- The relay accepts the attempt. -/
theorem welcome {features : List String} (before : Reconnects acts s)
    (here : s.phase = .awaitingHello) (c : Control) :
    Reconnects (acts ++ [.answered (.helloOk features)])
      { s with phase := .control c, connected := true, statuses := s.statuses ++ [.connected] } := by
  have next : attempts (acts ++ [.answered (.helloOk features)]) = ⟨(attempts acts).past, true⟩ :=
    attempts_snoc ..
  constructor
  · rw [next]
  · intro accepted phase
    rw [next]
    cases phase
    rfl
  · have told := before.going (by rw [here]; rfl)
    have refused : (attempts acts).last = false := before.progress false (by rw [here]; rfl)
    refine ⟨_, rfl, ?_⟩
    rw [here, refused] at told
    simp [next, told, Phase.stopped, Phase.sleeping, attemptTold]
  · intro retryDelay phase
    cases phase
  · rw [next]
    exact before.delay

theorem next (run : exec Supervisor.step (Supervisor.start (.ok ())) acts = some s)
    (before : Reconnects acts s) (taken : s.Rule e s') : Reconnects (acts ++ [e]) s' := by
  cases taken with
  | connected here | greeted here =>
      refine before.quiet (attempts_other (by simp) (by simp) acts) ?_ ?_ ?_ ?_ rfl rfl rfl <;>
        simp [here] <;> rfl
  | welcomed features here => exact before.welcome here _
  | refused m here other =>
      exact before.later (attempts_other (by simp) (by simpa using other) acts) (by rw [here]; rfl)
        rfl rfl rfl
  | failed here =>
      refine before.later (attempts_other (by simp) (by simp) acts) ?_ rfl rfl rfl
      rcases here with here | here | here <;> rw [here] <;> rfl
  | loops c c' e here own next inside =>
      refine before.quiet (attempts_other (by simp) (by simp) acts) ?_ ?_ ?_ ?_ rfl rfl rfl <;>
        simp [here] <;> rfl
  | leaves c c' e here own next left =>
      exact before.later (attempts_other (by simp) (by simp) acts) (by rw [here]; rfl) rfl rfl rfl
  | former | dropsReader | sessionEnds | join =>
      exact before.quiet (attempts_other (by simp) (by simp) acts) rfl rfl rfl (fun _ => id)
        rfl rfl rfl
  | retry retryDelay here => exact before.retry here
  | drops c control here next =>
      exact before.stop run (by rw [here]; rfl) rfl rfl rfl
  | stops outside going loose =>
      refine before.stop run ?_ rfl rfl rfl
      cases here : s.phase <;> first | rfl | exact absurd here going | exact absurd here loose
  | returns here empty =>
      refine before.quiet (attempts_other (by simp) (by simp) acts) ?_ ?_ ?_ ?_ rfl rfl rfl <;>
        simp [here] <;> rfl

end Reconnects

/-- **A run of the loop is the sequence of its attempts.** -/
theorem reconnects {acts : List Event} {s : Supervisor}
    (run : exec Supervisor.step (Supervisor.start (.ok ())) acts = some s) :
    Reconnects acts s :=
  exec_induction (P := Reconnects) .start
    (fun _ _ _ _ run before taken => before.next run (Supervisor.step_rule taken)) acts s run

/-- Two failures, an accepted attempt whose connection breaks, and a stop in the sleep behind it. -/
def reconnectActs : List Event :=
  [.failed, .retry, .connected, .greeted, .failed, .retry, .connected, .greeted,
    .answered (.helloOk []), .control .readError, .control .readerDone, .control .joinReader,
    .stop, .returns]

def reconnectEnd : Supervisor :=
  (exec Supervisor.step (Supervisor.start (.ok ())) reconnectActs).get (by decide)

theorem reconnects_run : Reconnects reconnectActs reconnectEnd :=
  reconnects (Option.some_get _).symm

example : attempts reconnectActs = ⟨[false, false], true⟩ := by decide

end RustSsh.Agent
