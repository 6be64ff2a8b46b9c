/-
# Agent.Sessions -- sessions outlive the control connections

The `JoinSet` belongs to `run_until_stopped_with_timing`; `run_control_stream` borrows
it, spawns a task into it for every `Open` and reaps what finished.  `started` is the
roster of the session tasks of a run: every task ever spawned, in order, and whether it
is still in the set.  `sessions_survive`: as long as nobody stops the agent, the roster is
exactly the `Open`s acted on, the set is what has not left the roster, and a task leaves
it because it ended, whatever the control connections do.
-/
import RustSsh.Agent.Supervisor
import RustSsh.Theory.Roster

namespace RustSsh.Agent

open RustSsh.Theory RustSsh.Protocol

set_option autoImplicit false

namespace Session

/-- The task of an `Open`, just spawned. -/
def spawned (sessionId : String) : Session := ⟨sessionId, .running⟩

def ended (session : Session) : Session := { session with task := .finished }

end Session

namespace Supervisor

/-- The session of the `Open` the step acts on. -/
def opening (s : Supervisor) (e : Event) : Option String :=
  match s.phase, e with
  | .control c, .control e => c.opened e
  | _, _ => none

/-- The roster of session tasks after the step. -/
def enroll (s : Supervisor) (e : Event) (tasks : Roster Session) : Roster Session :=
  match e with
  | .control e => tasks.enter ((s.opening (.control e)).toList.map Session.spawned)
  | .sessionEnds place => tasks.update Session.ended place
  | .join place => tasks.leave place
  | .stop => tasks.map fun (session, inside) => (if inside then session.abort else session, inside)
  | _ => tasks

/-- The session tasks of a run, in the order they were spawned. -/
def started (target : Except String Unit) (acts : List Event) : Roster Session :=
  history step enroll (start target) [] acts

/-- The sessions of the `Open`s a run acted on, in order. -/
def opens (target : Except String Unit) (acts : List Event) : List String :=
  history step (fun s e ids => ids ++ (s.opening e).toList) (start target) [] acts

/-! ## What a step does to the set -/

/-- The effect of a step on the `JoinSet`. -/
inductive SetStep (s s' : Supervisor) : Event → Prop where
  | opens (e : ControlEvent)
      (sessions : s'.sessions =
        s.sessions ++ (s.opening (.control e)).toList.map Session.spawned) :
      SetStep s s' (.control e)
  | ends (place : Nat) (session : Session) (here : s.sessions[place]? = some session)
      (unfinished : session.task ≠ .finished)
      (sessions : s'.sessions = s.sessions.set place session.ended) :
      SetStep s s' (.sessionEnds place)
  | joins (place : Nat) (session : Session) (here : s.sessions[place]? = some session)
      (finished : session.task = .finished)
      (sessions : s'.sessions = s.sessions.eraseIdx place) : SetStep s s' (.join place)
  | keeps (e : Event) (sessions : s'.sessions = s.sessions)
      (opening : s.opening e = none) (enroll : ∀ tasks, s.enroll e tasks = tasks) : SetStep s s' e

/-- A step other than a stop opens sessions, ends one, joins one or keeps the set. -/
theorem setStep {s s' : Supervisor} {e : Event} (going : e ≠ .stop) (taken : s.step e = some s') :
    SetStep s s' e := by
  cases step_rule taken with
  | loops c c' e here =>
      apply SetStep.opens
      simp [opening, here, Session.spawned]
  | leaves c c' e here =>
      apply SetStep.opens
      simp [opening, here, retryLater, Session.spawned]
  | sessionEnds place session here unfinished => exact .ends place session here unfinished rfl
  | join place session _ here finished => exact .joins place session here finished rfl
  | drops | stops => exact absurd rfl going
  | connected | greeted | welcomed | refused | failed | former | dropsReader | retry | returns =>
      refine .keeps _ rfl ?_ fun _ => rfl
      simp [opening]

/-! ## The roster along a run -/

/-- The set is what is present on the roster; nothing on it was aborted, and what left it
had finished. -/
structure Kept (tasks : Roster Session) (s : Supervisor) : Prop where
  set : s.sessions = tasks.present
  left : ∀ entry ∈ tasks, entry.2 = false → entry.1.task = .finished
  unaborted : ∀ entry ∈ tasks, entry.1.task ≠ .aborted

/-- What the step did to the task at a place of the roster. -/
inductive Continues (s : Supervisor) (tasks : Roster Session) (k : Nat) (session : Session)
    (inside : Bool) (e : Event) : Prop where
  | same (still : (s.enroll e tasks)[k]? = some (session, inside))
  /-- the task ended by itself -/
  | ended (place : Nat) (own : e = .sessionEnds place) (present : inside = true)
      (running : session.task = .running)
      (after : (s.enroll e tasks)[k]? = some (session.ended, true))
  /-- the task had ended and was joined -/
  | joined (place : Nat) (reaped : e = .join place) (present : inside = true)
      (finished : session.task = .finished)
      (after : (s.enroll e tasks)[k]? = some (session, false))

theorem Kept.continues {tasks : Roster Session} {s s' : Supervisor} {e : Event}
    (kept : Kept tasks s) (taken : SetStep s s' e) {k : Nat} {session : Session} {inside : Bool}
    (here : tasks[k]? = some (session, inside)) : Continues s tasks k session inside e := by
  cases taken with
  | opens e =>
      have bound := (List.getElem?_eq_some_iff.mp here).1
      refine .same ?_
      simpa [enroll, Roster.enter, List.getElem?_append_left bound] using here
  | ends place other at_ unfinished =>
      have kinds : (Roster.change (fun a => (Session.ended a, true)) tasks place)[k]? = _ ∨ _ :=
        Roster.change_getElem? here
      cases kinds with
      | inl same => exact .same same
      | inr changed =>
          obtain ⟨present, member, after⟩ := changed
          rw [← kept.set, at_] at member
          cases member
          have unaborted := kept.unaborted _ (List.mem_of_getElem? here)
          refine .ended place rfl present ?_ after
          cases now : session.task with
          | running => rfl
          | aborted => exact absurd now unaborted
          | finished => exact absurd now unfinished
  | joins place other at_ finished =>
      have kinds : (Roster.change (fun a => (a, false)) tasks place)[k]? = _ ∨ _ :=
        Roster.change_getElem? here
      cases kinds with
      | inl same => exact .same same
      | inr changed =>
          obtain ⟨present, member, after⟩ := changed
          rw [← kept.set, at_] at member
          cases member
          exact .joined place rfl present finished after
  | keeps e sessions opening enroll =>
      refine .same ?_
      rw [enroll]
      exact here

theorem Kept.step {tasks : Roster Session} {s s' : Supervisor} {e : Event}
    (kept : Kept tasks s) (taken : SetStep s s' e) : Kept (s.enroll e tasks) s' := by
  obtain ⟨set, left, unaborted⟩ := kept
  cases taken with
  | opens e sessions =>
      -- what is new is running
      have either : ∀ entry ∈ s.enroll (.control e) tasks,
          entry ∈ tasks ∨ (entry.2 = true ∧ entry.1.task = .running) := by
        intro entry inside
        cases List.mem_append.mp inside with
        | inl old => exact .inl old
        | inr new =>
            obtain ⟨session, spawned, rfl⟩ := List.mem_map.mp new
            obtain ⟨sessionId, -, rfl⟩ := List.mem_map.mp spawned
            exact .inr ⟨rfl, rfl⟩
      refine ⟨?_, ?_, ?_⟩
      · rw [sessions, set]
        exact (Roster.present_enter tasks _).symm
      · intro entry inside gone
        cases either entry inside with
        | inl old => exact left entry old gone
        | inr new =>
            rw [new.1] at gone
            cases gone
      · intro entry inside
        cases either entry inside with
        | inl old => exact unaborted entry old
        | inr new =>
            rw [new.2]
            simp
  | ends place session here unfinished sessions =>
      rw [set] at here
      refine ⟨?_, ?_, ?_⟩
      · rw [sessions, set]
        exact (Roster.present_update here).symm
      · intro entry inside gone
        cases Roster.mem_change inside with
        | inl old => exact left entry old gone
        | inr new =>
            obtain ⟨other, -, -, rfl⟩ := new
            cases gone
      · intro entry inside
        cases Roster.mem_change inside with
        | inl old => exact unaborted entry old
        | inr new =>
            obtain ⟨other, -, -, rfl⟩ := new
            simp [Session.ended]
  | joins place session here finished sessions =>
      rw [set] at here
      refine ⟨?_, ?_, ?_⟩
      · rw [sessions, set]
        exact (Roster.present_leave tasks place).symm
      · intro entry inside gone
        cases Roster.mem_change inside with
        | inl old => exact left entry old gone
        | inr new =>
            obtain ⟨other, at_, -, rfl⟩ := new
            rw [here] at at_
            cases at_
            exact finished
      · intro entry inside
        cases Roster.mem_change inside with
        | inl old => exact unaborted entry old
        | inr new =>
            obtain ⟨other, -, member, rfl⟩ := new
            exact unaborted (other, true) member
  | keeps e sessions opening enroll =>
      rw [enroll]
      exact ⟨sessions.trans set, left, unaborted⟩

/-- The roster grows by the session of the `Open` a step acts on. -/
theorem enroll_ids {s s' : Supervisor} {e : Event} (tasks : Roster Session)
    (taken : SetStep s s' e) :
    (s.enroll e tasks).map (fun entry => entry.1.sessionId) =
      (tasks.map fun entry => entry.1.sessionId) ++ (s.opening e).toList := by
  have silent {e : Event} (other : ∀ c, e ≠ .control c) : s.opening e = none := by
    unfold opening
    split
    · rename_i c e here
      exact absurd rfl (other e)
    · rfl
  cases taken with
  | opens e => simp [enroll, Roster.enter, Session.spawned, Function.comp_def]
  | ends place =>
      rw [silent (by simp)]
      simpa [enroll, Roster.update] using
        Roster.change_map (g := Session.sessionId) (fun _ => rfl) tasks place
  | joins place =>
      rw [silent (by simp)]
      simpa [enroll, Roster.leave] using
        Roster.change_map (g := Session.sessionId) (fun _ => rfl) tasks place
  | keeps e sessions opening enroll => simp [enroll, opening]

variable {target : Except String Unit} {acts : List Event} {s s' : Supervisor}

theorem started_snoc {e : Event} (run : exec step (start target) acts = some s)
    (taken : s.step e = some s') :
    started target (acts ++ [e]) = s.enroll e (started target acts) :=
  history_snoc run taken

theorem opens_snoc {e : Event} (run : exec step (start target) acts = some s)
    (taken : s.step e = some s') :
    opens target (acts ++ [e]) = opens target acts ++ (s.opening e).toList :=
  history_snoc run taken

theorem run_kept (run : exec step (start target) acts = some s) (going : .stop ∉ acts) :
    Kept (started target acts) s ∧
      (started target acts).map (fun entry => entry.1.sessionId) = opens target acts := by
  refine exec_induction (P := fun acts s => .stop ∉ acts →
    Kept (started target acts) s ∧
      (started target acts).map (fun entry => entry.1.sessionId) = opens target acts)
    ?_ ?_ acts s run going
  · intro _
    refine ⟨⟨?_, ?_, ?_⟩, rfl⟩
    · cases target <;> rfl
    · intro entry inside
      cases inside
    · intro entry inside
      cases inside
  · intro acts s e s' before holds taken going
    simp only [List.mem_append, List.mem_singleton, not_or] at going
    obtain ⟨kept, ids⟩ := holds going.1
    have set := setStep (Ne.symm going.2) taken
    rw [started_snoc before taken]
    refine ⟨kept.step set, ?_⟩
    rw [enroll_ids _ set, ids]
    exact (opens_snoc before taken).symm

/-- **Sessions survive the failures of the control connections.**  In a run nobody stopped,
the tasks spawned are the `Open`s acted on, one each and in order; the supervisor's set is
what has not left; a task that left it had ended and none was aborted; and what any further
step does to a task is to let it be, or to see it end by itself, or to join it once it has,
where a step that acts on no `Open` and neither ends nor joins a task changes nothing. -/
theorem sessions_survive (run : exec step (start target) acts = some s) (going : .stop ∉ acts) :
    (started target acts).map (fun entry => entry.1.sessionId) = opens target acts ∧
    s.sessions = (started target acts).present ∧
    (∀ entry ∈ started target acts,
      entry.1.task ≠ .aborted ∧ (entry.2 = false → entry.1.task = .finished)) ∧
    ∀ e s', e ≠ .stop → step s e = some s' →
      (∀ (k : Nat) session inside, (started target acts)[k]? = some (session, inside) →
        Continues s (started target acts) k session inside e) ∧
      started target (acts ++ [e]) = s.enroll e (started target acts) ∧
      (s.opening e = none → (∀ place, e ≠ .sessionEnds place) → (∀ place, e ≠ .join place) →
        s'.sessions = s.sessions ∧ started target (acts ++ [e]) = started target acts) := by
  obtain ⟨kept, ids⟩ := run_kept run going
  refine ⟨ids, kept.set, fun entry inside => ⟨kept.unaborted entry inside, kept.left entry inside⟩, ?_⟩
  intro e s' alive taken
  have set := setStep alive taken
  refine ⟨fun k session inside here => kept.continues set here, started_snoc run taken, ?_⟩
  intro silent unended unjoined
  rw [started_snoc run taken]
  cases set with
  | opens e sessions => simp [sessions, silent, enroll, Roster.enter]
  | ends place => exact absurd rfl (unended place)
  | joins place => exact absurd rfl (unjoined place)
  | keeps e sessions _ enroll => exact ⟨sessions, enroll _⟩

/-- The relay asks for a session and its answer is lost: the reader fails. -/
def openThenFail (sessionId : String) : List Event :=
  [.connected, .greeted, .answered (.helloOk [heartbeatFeature]),
    .control (.readFrame (.openSession sessionId)), .control .deliver, .control .frame,
    .control .readError, .control .readerDone, .control .joinReader, .retry]

/-- Two control connections fail, each after an `Open`; the first session ends. -/
def failingActs : List Event :=
  openThenFail "a" ++ [.failed, .retry] ++ openThenFail "b" ++
    [.sessionEnds 0, .connected, .greeted, .answered (.helloOk []), .join 0]

def failingEnd : Supervisor := (exec step (start (.ok ())) failingActs).get (by decide)

theorem sessions_survive_failing :
    (started (.ok ()) failingActs).map (fun entry => entry.1.sessionId) = ["a", "b"] ∧
      failingEnd.sessions = [Session.spawned "b"] := by
  have run : exec step (start (.ok ())) failingActs = some failingEnd := (Option.some_get _).symm
  have survive := sessions_survive run (by decide)
  refine ⟨survive.1.trans (by decide), ?_⟩
  rw [survive.2.1]
  decide

end Supervisor

end RustSsh.Agent
