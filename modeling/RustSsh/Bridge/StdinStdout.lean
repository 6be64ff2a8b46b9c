/-
# Bridge.StdinStdout -- the proxy between a terminal and a session

`stdin_stdout_with_io` of `src/bridge.rs`, down to the polls of its two halves: an upload that
shuts the writing side down behind its copy, and a download that flushes behind its copy.
`io::copy` is a parameter (`Copier`).  Whatever the order of the polls and the answers of the
streams, each half is where its own calls have brought it (`Ran`), so a download whose proxy
has succeeded was copied to the end (`remote_output_complete`).
-/
import RustSsh.Theory.Copy
import RustSsh.Theory.Run

namespace RustSsh.Bridge

open RustSsh.Theory

set_option autoImplicit false

variable {β C : Type}

/-! ## The halves -/

inductive Direction where
  | upload
  | download
  deriving DecidableEq, Repr

def Direction.other : Direction → Direction
  | .upload => .download
  | .download => .upload

/-- A call of a half: one of its copy's, or the one behind it, which is `shutdown` of the stream
for the upload and `flush` of the output for the download. -/
inductive HalfCall (β : Type) where
  | copy (call : IoCall β)
  | close
  deriving DecidableEq, Repr

def HalfCall.takes : HalfCall β → IoAnswer β → Bool
  | .copy call, a => call.takes a
  | .close, a => IoCall.flush.takes a

/-- Where an `async` block is: `let result = io::copy(..).await; let _ = close.await; result`. -/
inductive Half (C : Type) where
  | copying (c : C)
  /-- `waiting` if the call was pending -/
  | closing (result : Except String Nat) (waiting : Bool)
  | done (result : Except String Nat)

namespace Half

variable (m : Copier β C)

/-- The call a half is at. -/
def call : Half C → Option (HalfCall β)
  | .copying c =>
      match m.wants c with
      | .call call => some (.copy call)
      | .suspend | .finished _ => none
  | .closing _ waiting => if waiting then none else some .close
  | .done _ => none

def answer : Half C → IoAnswer β → Half C
  | .copying c, a => .copying (m.answer c a)
  | .closing result _, .pending => .closing result true
  | .closing result _, _ => .done result
  | .done result, _ => .done result

end Half

/-- What a poll of a half comes to without a call. -/
inductive Turn (C : Type) where
  | on (half : Half C)
  | pending (half : Half C)
  | ready (result : Except String Nat)

def Half.turn (m : Copier β C) : Half C → Option (Turn C)
  | .copying c =>
      match m.wants c with
      | .call _ => none
      | .suspend => some (.pending (.copying (m.resume c)))
      | .finished result => some (.on (.closing result false))
  | .closing result waiting => if waiting then some (.pending (.closing result false)) else none
  | .done result => some (.ready result)

/-! ## The proxy -/

/-- Where `stdin_stdout_with_io` is. -/
inductive Stage where
  /-- in `select!`, between two polls -/
  | selecting
  /-- in a poll of `select!`, at this half; `second` if the other was pending in this poll -/
  | polling (direction : Direction) (second : Bool)
  /-- in `download.await` -/
  | draining (polled : Bool)
  | returned (result : Except String Unit)
  deriving DecidableEq

structure Proxy (β C : Type) where
  upload : Half C
  download : Half C
  stage : Stage
  /-- the calls on the streams, with their answers -/
  log : List (Direction × HalfCall β × IoAnswer β)

inductive Act (β : Type) where
  /-- a poll; `select!` begins with this half -/
  | poll (first : Direction)
  | answer (a : IoAnswer β)
  | turn
  deriving DecidableEq, Repr

namespace Proxy

def half (s : Proxy β C) : Direction → Half C
  | .upload => s.upload
  | .download => s.download

def setHalf (s : Proxy β C) : Direction → Half C → Proxy β C
  | .upload, half => { s with upload := half }
  | .download, half => { s with download := half }

/-- The half being polled. -/
def polled (s : Proxy β C) : Option Direction :=
  match s.stage with
  | .polling direction _ => some direction
  | .draining true => some .download
  | .selecting | .draining false | .returned _ => none

def start (m : Copier β C) : Proxy β C where
  upload := .copying m.start
  download := .copying m.start
  stage := .selecting
  log := []

/-- The half that was polled is pending. -/
def suspended : Stage → Stage
  | .polling direction false => .polling direction.other true
  | .polling _ true => .selecting
  | .draining _ => .draining false
  | stage => stage

/-- `result?` behind the upload, and then `download.await?`; `result?` behind the download. -/
def resolved : Direction → Except String Nat → Stage
  | .upload, .error error => .returned (.error error)
  | .upload, .ok _ => .draining true
  | .download, .error error => .returned (.error error)
  | .download, .ok _ => .returned (.ok ())

def step (m : Copier β C) (s : Proxy β C) : Act β → Option (Proxy β C)
  | .poll first =>
      match s.stage with
      | .selecting => some { s with stage := .polling first false }
      | .draining false => some { s with stage := .draining true }
      | .polling _ _ | .draining true | .returned _ => none
  | .answer a =>
      match s.polled with
      | none => none
      | some d =>
          match (s.half d).call m with
          | none => none
          | some call =>
              if call.takes a then
                some { s.setHalf d ((s.half d).answer m a) with log := s.log ++ [(d, call, a)] }
              else none
  | .turn =>
      match s.polled with
      | none => none
      | some d =>
          match (s.half d).turn m with
          | none => none
          | some (.on half) => some (s.setHalf d half)
          | some (.pending half) => some { s.setHalf d half with stage := suspended s.stage }
          | some (.ready result) => some { s with stage := resolved d result }

end Proxy

/-! ## What one step does -/

/-- The calls of one half. -/
def events (d : Direction) (log : List (Direction × HalfCall β × IoAnswer β)) :
    List (HalfCall β × IoAnswer β) :=
  log.filterMap fun event => if event.1 = d then some event.2 else none

theorem events_snoc (d : Direction) (log : List (Direction × HalfCall β × IoAnswer β))
    (event : Direction × HalfCall β × IoAnswer β) :
    events d (log ++ [event]) = events d log ++ if event.1 = d then [event.2] else [] := by
  rw [events, List.filterMap_append]
  by_cases own : event.1 = d
  · simp [events, own]
  · simp [events, own]

namespace Proxy

variable {m : Copier β C} {s s' : Proxy β C}

@[simp] theorem half_setHalf (s : Proxy β C) (d : Direction) (half : Half C) :
    (s.setHalf d half).half d = half := by
  cases d <;> rfl

theorem half_setHalf_other (s : Proxy β C) {d d' : Direction} (other : d' ≠ d) (half : Half C) :
    (s.setHalf d half).half d' = s.half d' := by
  cases d <;> cases d' <;> first | rfl | exact absurd rfl other

@[simp] theorem setHalf_log (s : Proxy β C) (d : Direction) (half : Half C) :
    (s.setHalf d half).log = s.log := by
  cases d <;> rfl

@[simp] theorem setHalf_stage (s : Proxy β C) (d : Direction) (half : Half C) :
    (s.setHalf d half).stage = s.stage := by
  cases d <;> rfl

/-- The ways of a step. -/
inductive Rule (m : Copier β C) (s : Proxy β C) : Proxy β C → Prop where
  | select (first : Direction) : s.stage = .selecting →
      Rule m s { s with stage := .polling first false }
  | drain : s.stage = .draining false → Rule m s { s with stage := .draining true }
  | answer {d : Direction} {call : HalfCall β} {a : IoAnswer β} : s.polled = some d →
      (s.half d).call m = some call → call.takes a = true →
      Rule m s { s.setHalf d ((s.half d).answer m a) with log := s.log ++ [(d, call, a)] }
  | on {d : Direction} {half : Half C} : s.polled = some d →
      (s.half d).turn m = some (.on half) → Rule m s (s.setHalf d half)
  | pending {d : Direction} {half : Half C} : s.polled = some d →
      (s.half d).turn m = some (.pending half) →
      Rule m s { s.setHalf d half with stage := suspended s.stage }
  | ready {d : Direction} {result : Except String Nat} : s.polled = some d →
      s.half d = .done result → Rule m s { s with stage := resolved d result }

theorem turn_ready {half : Half C} {result : Except String Nat}
    (ready : half.turn m = some (.ready result)) : half = .done result := by
  cases half with
  | copying c => cases wanted : m.wants c <;> simp [Half.turn, wanted] at ready
  | closing closed waiting => cases waiting <;> simp [Half.turn] at ready
  | done own =>
      simp only [Half.turn, Option.some.injEq, Turn.ready.injEq] at ready
      rw [ready]

theorem step_rule {a : Act β} (taken : s.step m a = some s') : Rule m s s' := by
  cases a with
  | poll first =>
      simp only [step] at taken
      split at taken
      · rename_i here
        cases taken
        exact .select first here
      · rename_i here
        cases taken
        exact .drain here
      all_goals cases taken
  | answer a =>
      simp only [step] at taken
      split at taken
      · cases taken
      · rename_i d here
        split at taken
        · cases taken
        · rename_i call at_call
          split at taken
          · rename_i takes
            cases taken
            exact .answer here at_call takes
          · cases taken
  | turn =>
      simp only [step] at taken
      split at taken
      · cases taken
      · rename_i d here
        split at taken
        · cases taken
        · rename_i half turned
          cases taken
          exact .on here turned
        · rename_i half turned
          cases taken
          exact .pending here turned
        · rename_i result turned
          cases taken
          exact .ready here (turn_ready turned)

end Proxy

/-! ## Where a half is -/

/-- A call of the copy, and the one behind it. -/
def ofCopy (event : IoEvent β) : HalfCall β × IoAnswer β := (.copy event.1, event.2)

def ofClose (a : IoAnswer β) : HalfCall β × IoAnswer β := (.close, a)

/-- A half is where its own calls have brought it: those of its copy, and behind a copy that is
finished the one that closes. -/
inductive Ran (m : Copier β C) : List (HalfCall β × IoAnswer β) → Half C → Prop where
  | copying {copy : List (IoEvent β)} {c : C} : m.Runs copy c → Ran m (copy.map ofCopy) (.copying c)
  | closing {copy : List (IoEvent β)} {c : C} {result : Except String Nat}
      (answers : List (IoAnswer β)) (waiting : Bool) : m.Runs copy c →
      m.wants c = .finished result →
      Ran m (copy.map ofCopy ++ answers.map ofClose) (.closing result waiting)
  | done {copy : List (IoEvent β)} {c : C} {result : Except String Nat}
      {answers : List (IoAnswer β)} : m.Runs copy c → m.wants c = .finished result →
      answers ≠ [] → Ran m (copy.map ofCopy ++ answers.map ofClose) (.done result)

namespace Ran

variable {m : Copier β C} {log : List (HalfCall β × IoAnswer β)} {half : Half C}

theorem answer (ran : Ran m log half) {call : HalfCall β} {a : IoAnswer β}
    (at_call : half.call m = some call) (takes : call.takes a = true) :
    Ran m (log ++ [(call, a)]) (half.answer m a) := by
  cases ran with
  | @copying copy c run =>
      cases wanted : m.wants c with
      | call own =>
          simp only [Half.call, wanted, Option.some.injEq] at at_call
          subst at_call
          have more := Ran.copying (run.answer wanted takes)
          rwa [List.map_append] at more
      | suspend => simp [Half.call, wanted] at at_call
      | finished result => simp [Half.call, wanted] at at_call
  | @closing copy c result answers waiting run finished =>
      cases waiting with
      | true => simp [Half.call] at at_call
      | false =>
          obtain rfl : HalfCall.close = call := by simpa [Half.call] using at_call
          have behind : copy.map ofCopy ++ answers.map ofClose ++ [(.close, a)] =
              copy.map ofCopy ++ (answers ++ [a]).map ofClose := by
            simp [ofClose]
          rw [behind]
          cases a with
          | pending => exact .closing _ true run finished
          | got | wrote | flushed | failed => exact .done run finished (by simp)
  | done run finished some => simp [Half.call] at at_call

theorem turn (ran : Ran m log half) {next : Half C}
    (turned : half.turn m = some (.on next) ∨ half.turn m = some (.pending next)) :
    Ran m log next := by
  cases ran with
  | @copying copy c run =>
      cases wanted : m.wants c with
      | call own => simp [Half.turn, wanted] at turned
      | suspend =>
          obtain rfl : .copying (m.resume c) = next := by simpa [Half.turn, wanted] using turned
          exact .copying (run.resume wanted)
      | finished result =>
          obtain rfl : .closing result false = next := by simpa [Half.turn, wanted] using turned
          have first := Ran.closing [] false run wanted
          rwa [List.map_nil, List.append_nil] at first
  | @closing copy c result answers waiting run finished =>
      cases waiting with
      | true =>
          obtain rfl : .closing result false = next := by simpa [Half.turn] using turned
          exact .closing answers false run finished
      | false => simp [Half.turn] at turned
  | done run finished some => simp [Half.turn] at turned

/-- The calls of a half are its copy's, and behind a finished copy the closing ones. -/
theorem shape (ran : Ran m log half) : ∃ copy answers, log = copy.map ofCopy ++ answers.map ofClose ∧
    (answers ≠ [] → ∃ c result, m.Runs copy c ∧ m.wants c = .finished result) := by
  cases ran with
  | @copying copy c run => exact ⟨copy, [], by simp, fun some => absurd rfl some⟩
  | closing answers waiting run finished => exact ⟨_, answers, rfl, fun _ => ⟨_, _, run, finished⟩⟩
  | done run finished some => exact ⟨_, _, rfl, fun _ => ⟨_, _, run, finished⟩⟩

end Ran

/-! ## Runs -/

namespace Proxy

/-- Each half is where its calls have brought it; the proxy drains once the upload has
succeeded, and returns once the download has ended or the upload has failed. -/
structure Sound (m : Copier β C) (s : Proxy β C) : Prop where
  ran : ∀ d, Ran m (events d s.log) (s.half d)
  draining : ∀ polled, s.stage = .draining polled → ∃ count, s.upload = .done (.ok count)
  returned : ∀ result, s.stage = .returned result →
    (∃ own, s.download = .done own ∧ resolved .download own = .returned result) ∨
      ∃ error, s.upload = .done (.error error) ∧ result = .error error

variable {m : Copier β C} {s s' : Proxy β C}

theorem sound_start (m : Copier β C) : Sound m (start m) where
  ran d := by
    cases d with
    | upload => exact .copying .start
    | download => exact .copying .start
  draining _ here := by cases here
  returned _ here := by cases here

/-- The stage of a poll that goes on or is left: it is no end, and it drains if it did. -/
def Goes (s : Proxy β C) (stage : Stage) : Prop :=
  (∀ result, stage ≠ .returned result) ∧
    ∀ polled, stage = .draining polled → ∃ polled', s.stage = .draining polled'

theorem goes_setHalf {d : Direction} (here : s.polled = some d) (half : Half C) :
    s.Goes (s.setHalf d half).stage := by
  rw [setHalf_stage]
  refine ⟨fun result ends => ?_, fun polled draining => ⟨polled, draining⟩⟩
  simp [polled, ends] at here

theorem goes_suspended {d : Direction} (here : s.polled = some d) : s.Goes (suspended s.stage) := by
  obtain ⟨upload, download, stage, log⟩ := s
  cases stage with
  | selecting => simp [polled] at here
  | polling own second =>
      cases second with
      | false => exact ⟨by simp [suspended], by simp [suspended]⟩
      | true => exact ⟨by simp [suspended], by simp [suspended]⟩
  | draining polled => exact ⟨by simp [suspended], fun _ _ => ⟨polled, rfl⟩⟩
  | returned result => simp [polled] at here

/-- Behind the upload only the download is polled. -/
theorem polled_draining {d : Direction} {polled : Bool} (here : s.polled = some d)
    (draining : s.stage = .draining polled) : d = .download := by
  cases polled with
  | true => simpa [Proxy.polled, draining] using here.symm
  | false => simp [Proxy.polled, draining] at here

/-- The half that is polled moves, and the other stays. -/
theorem Sound.moved (sound : Sound m s) {d : Direction} (here : s.polled = some d) {half : Half C}
    {stage : Stage} {log : List (Direction × HalfCall β × IoAnswer β)} (goes : s.Goes stage)
    (own : Ran m (events d log) half) (other : ∀ d', d' ≠ d → events d' log = events d' s.log) :
    Sound m { s.setHalf d half with stage, log } where
  ran d' := by
    by_cases same : d' = d
    · subst same
      show Ran m (events d' log) ((s.setHalf d' half).half d')
      rw [half_setHalf]
      exact own
    · show Ran m (events d' log) ((s.setHalf d half).half d')
      rw [half_setHalf_other s same, other d' same]
      exact sound.ran d'
  draining polled there := by
    obtain ⟨polled', draining⟩ := goes.2 polled there
    obtain rfl := polled_draining here draining
    exact sound.draining polled' draining
  returned result ends := absurd ends (goes.1 result)

theorem Sound.rule (sound : Sound m s) (rule : Rule m s s') : Sound m s' := by
  cases rule with
  | select first here =>
      refine ⟨sound.ran, ?_, ?_⟩
      · intro polled draining
        cases draining
      · intro result ends
        cases ends
  | drain here =>
      refine ⟨sound.ran, ?_, ?_⟩
      · intro polled _
        exact sound.draining false here
      · intro result ends
        cases ends
  | @answer d call a here at_call takes =>
      refine sound.moved here (goes_setHalf here _) ?_ ?_
      · rw [events_snoc, if_pos rfl]
        exact (sound.ran d).answer at_call takes
      · intro d' other
        rw [events_snoc, if_neg (Ne.symm other), List.append_nil]
  | @on d half here turned =>
      have moved := sound.moved here (goes_setHalf here half) ((sound.ran d).turn (.inl turned))
        (fun _ _ => rfl)
      rwa [← setHalf_log s d half] at moved
  | @pending d half here turned =>
      have moved := sound.moved here (goes_suspended here) ((sound.ran d).turn (.inr turned))
        (fun _ _ => rfl)
      rwa [← setHalf_log s d half] at moved
  | @ready d result here done =>
      refine ⟨sound.ran, ?_, ?_⟩
      · intro polled draining
        cases d with
        | upload =>
            cases result with
            | ok count => exact ⟨count, done⟩
            | error error => cases draining
        | download => cases result <;> cases draining
      · intro final ends
        cases d with
        | upload =>
            cases result with
            | ok count => cases ends
            | error error =>
                cases ends
                exact .inr ⟨error, done, rfl⟩
        | download => exact .inl ⟨result, done, ends⟩

theorem sound_run {acts : List (Act β)} (run : exec (step m) (start m) acts = some s) :
    Sound m s :=
  exec_induction (P := fun _ s => Sound m s) (sound_start m)
    (fun _ _ _ _ _ sound taken => sound.rule (step_rule taken)) acts s run

/-- What a step at the upload leaves alone: the download, and the proxy unless the upload has
failed. -/
theorem Rule.apart (rule : Rule m s s') (here : s.polled = some .upload) :
    s'.download = s.download ∧ events .download s'.log = events .download s.log ∧
      ∀ result, s'.stage = .returned result →
        ∃ error, s.upload = .done (.error error) ∧ result = .error error := by
  cases rule with
  | select first there => simp [polled, there] at here
  | drain there => simp [polled, there] at here
  | @answer d call a there at_call takes =>
      obtain rfl : .upload = d := Option.some.inj (here.symm.trans there)
      have open_ := (goes_setHalf here ((s.half .upload).answer m a)).1
      refine ⟨rfl, ?_, fun result ends => absurd ends (open_ result)⟩
      rw [events_snoc, if_neg (by simp), List.append_nil]
  | @on d half there turned =>
      obtain rfl : .upload = d := Option.some.inj (here.symm.trans there)
      exact ⟨rfl, rfl, fun result ends => absurd ends ((goes_setHalf here half).1 result)⟩
  | @pending d half there turned =>
      obtain rfl : .upload = d := Option.some.inj (here.symm.trans there)
      exact ⟨rfl, rfl, fun result ends => absurd ends ((goes_suspended here).1 result)⟩
  | @ready d result there done =>
      obtain rfl : .upload = d := Option.some.inj (here.symm.trans there)
      refine ⟨rfl, rfl, fun final ends => ?_⟩
      cases result with
      | ok count => cases ends
      | error error =>
          cases ends
          exact ⟨error, done, rfl⟩

end Proxy

/-! ## What the output got -/

def copyEvent : HalfCall β × IoAnswer β → Option (IoEvent β)
  | (.copy call, a) => some (call, a)
  | (.close, _) => none

/-- The calls of the copy in one half. -/
def copied (d : Direction) (log : List (Direction × HalfCall β × IoAnswer β)) :
    List (IoEvent β) :=
  (events d log).filterMap copyEvent

/-- What the remote end sent up to its end. -/
def remote (log : List (Direction × HalfCall β × IoAnswer β)) : List β :=
  yielded (copied .download log)

/-- What was written to the output. -/
def output (log : List (Direction × HalfCall β × IoAnswer β)) : List β :=
  written (copied .download log)

/-- The output got all of the remote end's bytes, and its flush was called behind them. -/
structure Delivered (log : List (Direction × HalfCall β × IoAnswer β)) : Prop where
  ended : Ended (copied .download log)
  bytes : output log = remote log
  flushed : ∃ before a after, log = before ++ (.download, .close, a) :: after ∧
    copied .download after = []

/-- The end of the input: behind a finished copy the upload makes no call but `shutdown`; its
steps leave the download where it is; and the proxy returns only what the download came to, or
an error of the upload. -/
structure OnlyShutsDown (m : Copier β C) (s : Proxy β C) : Prop where
  upload : ∃ copy answers,
    events .upload s.log = copy.map ofCopy ++ answers.map ofClose ∧
      (answers ≠ [] → ∃ c result, m.Runs copy c ∧ m.wants c = .finished result)
  apart : ∀ a s', s.polled = some .upload → s.step m a = some s' →
    s'.download = s.download ∧ events .download s'.log = events .download s.log ∧
      ∀ result, s'.stage = .returned result →
        ∃ error, s.upload = .done (.error error) ∧ result = .error error
  returned : ∀ result, s.stage = .returned result →
    (∃ own, s.download = .done own ∧ Proxy.resolved .download own = .returned result) ∨
      ∃ error, s.upload = .done (.error error) ∧ result = .error error

theorem copied_shape {d : Direction} {log : List (Direction × HalfCall β × IoAnswer β)}
    {copy : List (IoEvent β)} {answers : List (IoAnswer β)}
    (shape : events d log = copy.map ofCopy ++ answers.map ofClose) : copied d log = copy := by
  have own : (copy.map ofCopy).filterMap copyEvent = copy := by
    rw [List.filterMap_map, show copyEvent ∘ ofCopy = (some : IoEvent β → _) from rfl,
      List.filterMap_some]
  have closing : (answers.map ofClose).filterMap (@copyEvent β) = [] := by
    rw [List.filterMap_map, List.filterMap_eq_nil_iff]
    intro a _
    rfl
  rw [copied, shape, List.filterMap_append, own, closing, List.append_nil]

/-- Behind the first closing call there is none of the copy. -/
theorem closed_behind {d : Direction} {log : List (Direction × HalfCall β × IoAnswer β)}
    {copy : List (IoEvent β)} {answers : List (IoAnswer β)} (some_ : answers ≠ [])
    (shape : events d log = copy.map ofCopy ++ answers.map ofClose) :
    ∃ before a after, log = before ++ (d, .close, a) :: after ∧ copied d after = [] := by
  obtain ⟨a, rest, rfl⟩ := List.exists_cons_of_ne_nil some_
  obtain ⟨front, back, rfl, -, behind⟩ := List.filterMap_eq_append_iff.mp shape
  obtain ⟨others, event, after, rfl, -, here, last⟩ := List.filterMap_eq_cons_iff.mp behind
  obtain ⟨own, call⟩ : event.1 = d ∧ event.2 = ofClose a := by simpa using here
  obtain rfl : event = (d, .close, a) := Prod.ext own call
  exact ⟨front ++ others, a, after, (List.append_assoc ..).symm, @copied_shape _ d after [] rest last⟩

/-- A download that has succeeded has delivered. -/
theorem delivered {m : Copier β C} (copies : m.CopiesToEnd) {s : Proxy β C} (sound : s.Sound m)
    {count : Nat} (done : s.download = .done (.ok count)) : Delivered s.log := by
  have ran := sound.ran .download
  generalize own : events .download s.log = calls at ran
  rw [show s.half .download = .done (.ok count) from done] at ran
  cases ran with
  | @done copy c _ answers run finished some_ =>
      refine ⟨?_, ?_, closed_behind some_ own⟩
      · rw [copied_shape own]
        exact copies.ended copy c count run finished
      · rw [output, remote, copied_shape own]
        exact copies.complete copy c count run finished

/-- **The proxy never cuts the remote output short**: whenever the input ends and however the
polls of the halves and the answers of the streams follow each other, success means that the
output has it all, and the end of the input only shuts the writing side down. -/
theorem remote_output_complete {m : Copier β C} (copies : m.CopiesToEnd) {acts : List (Act β)}
    {s : Proxy β C} (run : exec (Proxy.step m) (Proxy.start m) acts = some s) :
    (s.stage = .returned (.ok ()) → Delivered s.log) ∧ OnlyShutsDown m s := by
  have sound := Proxy.sound_run run
  refine ⟨fun ends => ?_, ⟨(sound.ran .upload).shape, ?_, sound.returned⟩⟩
  · rcases sound.returned _ ends with ⟨own, done, result⟩ | ⟨error, done, result⟩
    · cases own with
      | ok count => exact delivered copies sound done
      | error error => cases result
    · cases result
  · intro a s' here taken
    exact (Proxy.step_rule taken).apart here

/-- The input ends before the first chunk, and `shutdown` is pending until the first one is
written; another comes behind it. -/
def earlyEnd : List (Act Nat) :=
  [.poll .upload, .answer (.got []), .answer .flushed, .turn, .answer .pending, .turn,
    .answer (.got [1, 2]), .answer (.wrote 1), .answer (.wrote 1), .answer .pending,
    .answer .flushed, .turn,
    .poll .upload, .answer .flushed, .turn,
    .answer (.got [3]), .answer (.wrote 1), .answer (.got []), .answer .flushed, .turn,
    .answer .flushed, .turn]

theorem remote_output_complete_earlyEnd :
    ∃ s, exec (Proxy.step (copyLoop Nat)) (Proxy.start (copyLoop Nat)) earlyEnd = some s ∧
      output s.log = [1, 2, 3] ∧ Delivered s.log ∧ OnlyShutsDown (copyLoop Nat) s := by
  have ran : ((exec (Proxy.step (copyLoop Nat)) (Proxy.start (copyLoop Nat)) earlyEnd).map fun s =>
      (s.stage, output s.log)) = some (.returned (.ok ()), [1, 2, 3]) := by
    decide +kernel
  obtain ⟨s, run, seen⟩ := Option.map_eq_some_iff.mp ran
  obtain ⟨ends, sent⟩ := Prod.mk.inj seen
  obtain ⟨complete, separate⟩ := remote_output_complete copyLoop_copies run
  exact ⟨s, run, sent, complete ends, separate⟩

end RustSsh.Bridge
