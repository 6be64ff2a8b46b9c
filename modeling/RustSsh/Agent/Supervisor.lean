/-
# Agent.Supervisor -- the agent's reconnect loop

`run_until_stopped_with_timing` and `run_control` of `src/agent.rs`.  The supervisor is
suspended either in the future of `run_control`, at the await its `Phase` names, or in
the sleep before the next attempt; in both it also waits for `stop`, and a stop drops the
future where it stands.  The session tasks are in a `JoinSet` of the supervisor; the
reader task of a control connection is spawned by `run_control_stream`, which joins it
before it returns but cannot when it is dropped.

Every task the supervisor spawned is in the state as long as it may live: the sessions
until they are joined, the reader task of the connection in progress in its `Control`,
those of earlier connections and of a dropped one in `former`.

`Rule` lists the steps; `step_rule` is all that the invariants need of `step`.
-/
import RustSsh.Agent.Control
import RustSsh.Theory.Run

namespace RustSsh.Agent

open RustSsh.Theory RustSsh.Protocol
open RustSsh.Server (ReaderTask)

set_option autoImplicit false

/-- `INITIAL_RECONNECT_DELAY`, in seconds. -/
def initialReconnectDelay : Nat := 1

/-- `MAX_RECONNECT_DELAY`. -/
def maxReconnectDelay : Nat := 30

def nextReconnectDelay (current : Nat) (wasConnected : Bool) : Nat :=
  if wasConnected then initialReconnectDelay else min (current * 2) maxReconnectDelay

/-! ## The target -/

inductive IpAddr where
  | v4 (octets : List UInt8)
  | v6 (segments : List UInt16)
  deriving DecidableEq, Repr

/-- `IpAddr::is_loopback`. -/
def IpAddr.isLoopback : IpAddr → Bool
  | .v4 octets => octets.head? = some 127
  | .v6 segments => segments = [0, 0, 0, 0, 0, 0, 0, 1]

structure SocketAddr where
  ip : IpAddr
  port : UInt16
  deriving DecidableEq, Repr

/-- `parse` is `str::parse::<SocketAddr>`. -/
def validateTarget (parse : String → Option SocketAddr) (target : String) : Except String Unit :=
  match parse target with
  | none => .error "SSH target must be a loopback IP address with port"
  | some address =>
      if address.ip.isLoopback then .ok ()
      else .error "SSH target must stay on loopback (127.0.0.1 or ::1)"

/-! ## The state -/

/-- A task of the `JoinSet`. -/
inductive SessionTask where
  | running
  /-- aborted, and not yet dropped by the runtime -/
  | aborted
  | finished
  deriving DecidableEq, Repr

structure Session where
  sessionId : String
  task : SessionTask
  deriving DecidableEq, Repr

/-- `JoinSet::abort_all` on one task. -/
def Session.abort (s : Session) : Session :=
  match s.task with
  | .running => { s with task := .aborted }
  | _ => s

/-- Where the function is suspended. -/
inductive Phase where
  /-- `run_control`: `noise::client_connect` -/
  | connecting
  /-- `run_control`: writing `Hello` -/
  | greeting
  /-- `run_control`: reading the answer -/
  | awaitingHello
  /-- `run_control_stream` -/
  | control (c : Control)
  /-- the sleep before the next attempt -/
  | backoff (retryDelay : Nat)
  /-- `sessions.shutdown()` -/
  | stopping
  | returned
  deriving DecidableEq, Repr

inductive Status where
  | connecting
  | connected
  | retrying
  | stopped
  | failed (error : String)
  deriving DecidableEq, Repr

/-- A control connection whose `run_control_stream` returned or was dropped. -/
structure Former where
  control : Control
  /-- `reader_task.abort()` was called -/
  aborted : Bool
  deriving DecidableEq, Repr

structure Supervisor where
  phase : Phase
  sessions : List Session
  former : List Former
  connected : Bool
  delay : Nat
  /-- what was reported -/
  statuses : List Status
  deriving DecidableEq, Repr

inductive Event where
  /-- `client_connect` returned a stream -/
  | connected
  /-- `Hello` was written in time -/
  | greeted
  /-- the relay answered `Hello` -/
  | answered (m : Message)
  /-- an error or a timeout before the control loop -/
  | failed
  /-- a step of the control loop or its reader task -/
  | control (e : ControlEvent)
  /-- the reader task of a former connection goes on -/
  | former (index : Nat) (e : ControlEvent)
  /-- the runtime drops an aborted reader task -/
  | dropsReader (index : Nat)
  /-- a session task ends, or is dropped after an abort -/
  | sessionEnds (index : Nat)
  /-- `sessions.join_next` in the control loop or in `shutdown` -/
  | join (index : Nat)
  /-- the sleep is over -/
  | retry
  | stop
  /-- `shutdown` found the set empty -/
  | returns
  deriving DecidableEq, Repr

/-- What the reader task does by itself. -/
def ControlEvent.byReader : ControlEvent → Bool
  | .readFrame _ => true
  | .readError => true
  | .deliver => true
  | _ => false

namespace Supervisor

/-- The state at the first suspension; an invalid target is refused before. -/
def start (target : Except String Unit) : Supervisor :=
  match target with
  | .ok () =>
      { phase := .connecting, sessions := [], former := [], connected := false,
        delay := initialReconnectDelay, statuses := [.connecting] }
  | .error error =>
      { phase := .returned, sessions := [], former := [], connected := false,
        delay := initialReconnectDelay, statuses := [.failed error] }

/-- `run_control` returned: the sleep before the next attempt. -/
def retryLater (s : Supervisor) : Supervisor :=
  { s with
    phase := .backoff (if s.connected then initialReconnectDelay else s.delay)
    statuses := s.statuses ++ [.retrying] }

/-- The stop branch: `sessions.shutdown()` aborts all tasks and starts to join them. -/
def stop (s : Supervisor) : Supervisor :=
  { s with
    phase := .stopping
    sessions := s.sessions.map Session.abort
    statuses := s.statuses ++ [.stopped] }

/-- A session task that has not finished does. -/
def endSession (s : Supervisor) (index : Nat) : Option Supervisor :=
  match s.sessions[index]? with
  | some session =>
      if session.task = .finished then none
      else some { s with sessions := s.sessions.set index { session with task := .finished } }
  | none => none

/-- A finished session task leaves the set. -/
def joinSession (s : Supervisor) (index : Nat) : Option Supervisor :=
  match s.sessions[index]? with
  | some session =>
      if session.task = .finished then some { s with sessions := s.sessions.eraseIdx index }
      else none
  | none => none

/-- A step of the control loop.  Completions are `join`'s, and only a stop drops the loop. -/
def controlStep (s : Supervisor) (c : Control) (e : ControlEvent) : Option Supervisor :=
  if e = .sessionDone ∨ e = .drop then none
  else
    match c.step e with
    | none => none
    | some c' =>
        let opened : List Session := (c.opened e).toList.map fun sessionId => ⟨sessionId, .running⟩
        let s := { s with sessions := s.sessions ++ opened }
        if c'.point = .left then
          some (retryLater { s with former := s.former ++ [⟨c', !c'.readerConsumed⟩] })
        else some { s with phase := .control c' }

def step (s : Supervisor) : Event → Option Supervisor
  | .connected => if s.phase = .connecting then some { s with phase := .greeting } else none
  | .greeted => if s.phase = .greeting then some { s with phase := .awaitingHello } else none
  | .answered m =>
      if s.phase = .awaitingHello then
        match m with
        | .helloOk features =>
            some { s with
              phase := .control (.start (features.contains heartbeatFeature))
              connected := true
              statuses := s.statuses ++ [.connected] }
        | _ => some s.retryLater
      else none
  | .failed =>
      match s.phase with
      | .connecting => some s.retryLater
      | .greeting => some s.retryLater
      | .awaitingHello => some s.retryLater
      | _ => none
  | .control e =>
      match s.phase with
      | .control c => s.controlStep c e
      | _ => none
  | .former index e =>
      match s.former[index]? with
      | some f =>
          if e.byReader then
            (f.control.step e).map fun control =>
              { s with former := s.former.set index { f with control } }
          else none
      | none => none
  | .dropsReader index =>
      match s.former[index]? with
      | some f =>
          if f.aborted then
            let control := { f.control with reader := .ended }
            some { s with former := s.former.set index { f with control } }
          else none
      | none => none
  | .sessionEnds index => s.endSession index
  | .join index =>
      match s.phase with
      | .control c => if c.point = .select then s.joinSession index else none
      | .stopping => s.joinSession index
      | _ => none
  | .retry =>
      match s.phase with
      | .backoff _ =>
          some { s with
            phase := .connecting
            delay := nextReconnectDelay s.delay s.connected
            connected := false
            statuses := s.statuses ++ [.connecting] }
      | _ => none
  | .stop =>
      match s.phase with
      | .control c =>
          -- at its join the loop has aborted the reader task before it was suspended
          (c.step .drop).map fun control =>
            stop { s with former := s.former ++ [⟨control, c.point = .joinReader⟩] }
      | .stopping => none
      | .returned => none
      | _ => some s.stop
  | .returns =>
      if s.phase = .stopping ∧ s.sessions = [] then some { s with phase := .returned } else none

/-! ## What a step can be -/

/-- The steps of the function, each with the state it leads to. -/
inductive Rule (s : Supervisor) : Event → Supervisor → Prop where
  | connected (here : s.phase = .connecting) : Rule s .connected { s with phase := .greeting }
  | greeted (here : s.phase = .greeting) : Rule s .greeted { s with phase := .awaitingHello }
  | welcomed (features : List String) (here : s.phase = .awaitingHello) :
      Rule s (.answered (.helloOk features))
        { s with
          phase := .control (.start (features.contains heartbeatFeature))
          connected := true
          statuses := s.statuses ++ [.connected] }
  /-- an answer other than `HelloOk` -/
  | refused (m : Message) (here : s.phase = .awaitingHello)
      (other : ∀ features, m ≠ .helloOk features) : Rule s (.answered m) s.retryLater
  | failed (here : s.phase = .connecting ∨ s.phase = .greeting ∨ s.phase = .awaitingHello) :
      Rule s .failed s.retryLater
  /-- the control loop goes on -/
  | loops (c c' : Control) (e : ControlEvent) (here : s.phase = .control c)
      (own : e ≠ .sessionDone ∧ e ≠ .drop) (next : c.step e = some c') (inside : c'.point ≠ .left) :
      Rule s (.control e)
        { s with
          phase := .control c'
          sessions := s.sessions ++ (c.opened e).toList.map fun sessionId => ⟨sessionId, .running⟩ }
  /-- `run_control_stream` returns -/
  | leaves (c c' : Control) (e : ControlEvent) (here : s.phase = .control c)
      (own : e ≠ .sessionDone ∧ e ≠ .drop) (next : c.step e = some c') (left : c'.point = .left) :
      Rule s (.control e) (retryLater
        { s with
          sessions := s.sessions ++ (c.opened e).toList.map fun sessionId => ⟨sessionId, .running⟩
          former := s.former ++ [⟨c', !c'.readerConsumed⟩] })
  | former (index : Nat) (e : ControlEvent) (f : Former) (control : Control)
      (here : s.former[index]? = some f) (own : e.byReader = true)
      (next : f.control.step e = some control) :
      Rule s (.former index e) { s with former := s.former.set index { f with control } }
  | dropsReader (index : Nat) (f : Former) (here : s.former[index]? = some f)
      (aborted : f.aborted = true) :
      Rule s (.dropsReader index)
        { s with
          former := s.former.set index { f with control := { f.control with reader := .ended } } }
  | sessionEnds (index : Nat) (session : Session) (here : s.sessions[index]? = some session)
      (unfinished : session.task ≠ .finished) :
      Rule s (.sessionEnds index)
        { s with sessions := s.sessions.set index { session with task := .finished } }
  | join (index : Nat) (session : Session)
      (reaps : s.phase = .stopping ∨ ∃ c, s.phase = .control c ∧ c.point = .select)
      (here : s.sessions[index]? = some session) (finished : session.task = .finished) :
      Rule s (.join index) { s with sessions := s.sessions.eraseIdx index }
  | retry (retryDelay : Nat) (here : s.phase = .backoff retryDelay) :
      Rule s .retry
        { s with
          phase := .connecting
          delay := nextReconnectDelay s.delay s.connected
          connected := false
          statuses := s.statuses ++ [.connecting] }
  /-- the stop drops the control loop -/
  | drops (c control : Control) (here : s.phase = .control c) (next : c.step .drop = some control) :
      Rule s .stop
        (stop { s with former := s.former ++ [⟨control, c.point = .joinReader⟩] })
  | stops (outside : ∀ c, s.phase ≠ .control c) (going : s.phase ≠ .stopping)
      (loose : s.phase ≠ .returned) : Rule s .stop s.stop
  | returns (here : s.phase = .stopping) (empty : s.sessions = []) :
      Rule s .returns { s with phase := .returned }

theorem controlStep_rule {s s' : Supervisor} {c : Control} {e : ControlEvent}
    (here : s.phase = .control c) (taken : s.controlStep c e = some s') :
    s.Rule (.control e) s' := by
  unfold controlStep at taken
  split at taken
  · cases taken
  · rename_i own
    push Not at own
    cases next : c.step e with
    | none => simp [next] at taken
    | some c' =>
        simp only [next] at taken
        split at taken <;> cases taken
        · rename_i left
          exact .leaves c c' e here own next left
        · rename_i inside
          exact .loops c c' e here own next inside

theorem joinSession_rule {s s' : Supervisor} {index : Nat}
    (reaps : s.phase = .stopping ∨ ∃ c, s.phase = .control c ∧ c.point = .select)
    (taken : s.joinSession index = some s') : s.Rule (.join index) s' := by
  unfold joinSession at taken
  split at taken
  · rename_i session here
    split at taken <;> cases taken
    rename_i finished
    exact .join index session reaps here finished
  · cases taken

theorem step_rule {s s' : Supervisor} {e : Event} (taken : s.step e = some s') : s.Rule e s' := by
  cases e with
  | connected =>
      simp only [step] at taken
      split at taken <;> cases taken
      rename_i here
      exact .connected here
  | greeted =>
      simp only [step] at taken
      split at taken <;> cases taken
      rename_i here
      exact .greeted here
  | answered m =>
      simp only [step] at taken
      split at taken
      · rename_i here
        split at taken <;> cases taken
        · rename_i features
          exact .welcomed features here
        · rename_i other
          exact .refused m here other
      · cases taken
  | failed =>
      simp only [step] at taken
      split at taken <;> cases taken <;> rename_i here <;> exact .failed (by simp [here])
  | control e =>
      simp only [step] at taken
      split at taken
      · rename_i c here
        exact controlStep_rule here taken
      · cases taken
  | former index e =>
      simp only [step] at taken
      split at taken
      · rename_i f here
        split at taken
        · rename_i own
          obtain ⟨control, next, rfl⟩ := Option.map_eq_some_iff.mp taken
          exact .former index e f control here own next
        · cases taken
      · cases taken
  | dropsReader index =>
      simp only [step] at taken
      split at taken
      · rename_i f here
        split at taken <;> cases taken
        rename_i aborted
        exact .dropsReader index f here aborted
      · cases taken
  | sessionEnds index =>
      simp only [step, endSession] at taken
      split at taken
      · rename_i session here
        split at taken <;> cases taken
        rename_i unfinished
        exact .sessionEnds index session here unfinished
      · cases taken
  | join index =>
      simp only [step] at taken
      split at taken
      · rename_i c here
        split at taken
        · rename_i selecting
          exact joinSession_rule (.inr ⟨c, here, selecting⟩) taken
        · cases taken
      · rename_i here
        exact joinSession_rule (.inl here) taken
      · cases taken
  | retry =>
      simp only [step] at taken
      split at taken <;> cases taken
      rename_i retryDelay here
      exact .retry retryDelay here
  | stop =>
      simp only [step] at taken
      split at taken
      · rename_i c here
        obtain ⟨control, next, rfl⟩ := Option.map_eq_some_iff.mp taken
        exact .drops c control here next
      · cases taken
      · cases taken
      · rename_i outside going loose
        cases taken
        exact .stops outside going loose
  | returns =>
      simp only [step] at taken
      split at taken <;> cases taken
      rename_i here
      exact .returns here.1 here.2

end Supervisor

end RustSsh.Agent
