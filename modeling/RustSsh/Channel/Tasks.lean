/-
# Channel.Tasks -- what the loops and their tasks keep

Three relations for the three hops a control message makes.  `Hears`: what a loop acts on
was read frame by frame by its reader task.  `Answers`: each `Open` and `Pong` the relay's
loop hands on answers one request or one `Ping`.  `Hands`: the relay's writer task begins
frames in the order they were handed to it.  For each there is one account of what a step
of the loops does (`Handles`, `Loops`, `Writes`), and a lemma that the relation is kept.
-/
import RustSsh.Channel.Step

namespace RustSsh.Channel

open RustSsh.Theory RustSsh.Protocol RustSsh.Noise
open RustSsh.Server (ReaderTask)

set_option autoImplicit false

variable {S R : Type}

/-! ## From the reader task to its loop -/

/-- The message a reader task holds. -/
def holding : ReaderTask → List Message
  | .delivering m => [m]
  | _ => []

/-- What a step that polls nothing does with the frames of a reader task: the loop
acts on some. -/
inductive Handles : ReaderTask → List Message → List Message → ReaderTask → List Message → Prop where
  | keeps (task : ReaderTask) (frames : List Message) : Handles task frames [] task frames
  | delivers (m : Message) (frames : List Message) :
      Handles (.delivering m) frames [] .reading (frames ++ [m])
  | acts (task : ReaderTask) (m : Message) (frames : List Message) :
      Handles task (m :: frames) [m] task frames
  | ends (task : ReaderTask) (frames : List Message) : Handles task frames [] .ended frames

/-- A reader task that ended stays so. -/
theorem Handles.ended {task' : ReaderTask} {frames acted frames' : List Message}
    (handles : Handles .ended frames acted task' frames') : task' = .ended := by
  cases handles with
  | keeps => rfl
  | acts => rfl
  | ends => rfl

theorem relay_handles {c c' : Server.Control} {e : Server.ControlEvent} (unpolled : relayPolls e = false)
    (taken : c.step e = some c') :
    Handles c.reader c.frames (c.actsOn e).toList c'.reader c'.frames := by
  cases e with
  | readFrame m => cases unpolled
  | readError => cases unpolled
  | wrote m => cases unpolled
  | deliver =>
      simp only [Server.Control.step] at taken
      cases task : c.reader with
      | delivering m =>
          simp only [task] at taken
          split at taken <;> cases taken
          exact .delivers m c.frames
      | reading => simp [task] at taken
      | ended => simp [task] at taken
  | frame =>
      simp only [Server.Control.step] at taken
      split at taken
      · split at taken
        · rename_i rest waiting
          cases taken
          simpa [Server.Control.actsOn, Server.Control.leave, waiting] using Handles.acts c.reader .ping rest
        · rename_i m rest other waiting
          cases taken
          simpa [Server.Control.actsOn, Server.Control.leave, waiting] using Handles.acts c.reader m rest
        · rename_i waiting
          split at taken <;> cases taken
          simpa [Server.Control.actsOn, Server.Control.leave, waiting] using Handles.keeps c.reader []
      · cases taken
  | joinReader =>
      simp only [Server.Control.step] at taken
      split at taken <;> cases taken
      cases c.readerConsumed with
      | false => exact .ends c.reader c.frames
      | true => exact .keeps c.reader c.frames
  | nextOutgoing | writeError | shutdown | openRequest sessionId | forward | readerDone
    | writerDone | heartbeatDead | joinWriter =>
      simp only [Server.Control.step] at taken
      (repeat' split at taken) <;> cases taken <;> exact .keeps c.reader c.frames

theorem agent_handles {c c' : Agent.Control} {e : Agent.ControlEvent} (unpolled : agentPolls e = false)
    (taken : c.step e = some c') :
    Handles c.reader c.frames (c.actsOn e).toList c'.reader c'.frames := by
  cases e with
  | readFrame m => cases unpolled
  | readError => cases unpolled
  | pinged => cases unpolled
  | deliver =>
      simp only [Agent.Control.step] at taken
      cases task : c.reader with
      | delivering m =>
          simp only [task] at taken
          split at taken
          · cases taken
            exact .ends _ c.frames
          · split at taken <;> cases taken
            exact .delivers m c.frames
      | reading => simp [task] at taken
      | ended => simp [task] at taken
  | frame =>
      simp only [Agent.Control.step] at taken
      split at taken
      · split at taken
        · rename_i sessionId rest waiting
          cases taken
          simpa [Agent.Control.actsOn, Agent.Control.leave, waiting] using Handles.acts c.reader (.openSession sessionId) rest
        · rename_i rest waiting
          cases taken
          simpa [Agent.Control.actsOn, Agent.Control.leave, waiting] using Handles.acts c.reader .pong rest
        · rename_i m rest opens pongs waiting
          cases taken
          simpa [Agent.Control.actsOn, Agent.Control.leave, waiting] using Handles.acts c.reader m rest
        · rename_i waiting
          split at taken <;> cases taken
          simpa [Agent.Control.actsOn, Agent.Control.leave, waiting] using Handles.keeps c.reader []
      · cases taken
  | joinReader =>
      simp only [Agent.Control.step] at taken
      split at taken <;> cases taken
      cases c.readerConsumed with
      | false => exact .ends c.reader c.frames
      | true => exact .keeps c.reader c.frames
  | sessionDone | readerDone | ping | pingFailed | heartbeatDead | drop =>
      simp only [Agent.Control.step] at taken
      (repeat' split at taken) <;> cases taken <;> exact .keeps c.reader c.frames

/-- The loop acted on the first messages its reader task received, and the rest is on the
way to it for as long as that task runs. -/
structure Hears (codec : Codec) (task : ReaderTask) (frames acted : List Message) (l : Lane S R) :
    Prop where
  intact : task ≠ .ended → l.Intact
  boundary : ∀ m, task = .delivering m → l.reader = .start
  ordered : acted ++ frames ++ holding task <+: l.received codec
  all : task ≠ .ended → acted ++ frames ++ holding task = l.received codec

section Hears

variable {codec : Codec} {task task' : ReaderTask} {frames frames' acted more : List Message}
  {l l' : Lane S R}

theorem hears_start (codec : Codec) (s₀ : S) (r₀ : R) :
    Hears codec .reading [] [] (Lane.start s₀ r₀) :=
  ⟨fun _ => rfl, fun _ _ => rfl, List.prefix_rfl, fun _ => rfl⟩

theorem Hears.unread (hears : Hears codec task frames acted l) (unread : l.Unread l') :
    Hears codec task frames acted l' := by
  have same : l'.received codec = l.received codec := by simp [Lane.received, unread.read]
  constructor
  · intro going
    exact unread.intact (hears.intact going)
  · intro m delivering
    rw [unread.reader]
    exact hears.boundary m delivering
  · rw [same]
    exact hears.ordered
  · intro going
    rw [same]
    exact hears.all going

theorem Hears.handle (hears : Hears codec task frames acted l)
    (handles : Handles task frames more task' frames') :
    Hears codec task' frames' (acted ++ more) l := by
  cases handles with
  | keeps =>
      rw [List.append_nil]
      exact hears
  | delivers m =>
      have all := hears.all (by simp)
      have shifted : acted ++ [] ++ (frames ++ [m]) ++ holding .reading = l.received codec := by
        rw [← all]
        simp [holding]
      refine ⟨fun _ => hears.intact (by simp), ?_, ?_, fun _ => shifted⟩
      · intro other delivering
        cases delivering
      · rw [shifted]
  | acts _ m _ =>
      have shifted : acted ++ [m] ++ frames' ++ holding task =
          acted ++ m :: frames' ++ holding task := by simp
      refine ⟨hears.intact, hears.boundary, ?_, ?_⟩
      · rw [shifted]
        exact hears.ordered
      · intro going
        rw [shifted]
        exact hears.all going
  | ends =>
      refine ⟨fun going => absurd rfl going, ?_, ?_, fun going => absurd rfl going⟩
      · intro other delivering
        cases delivering
      · refine List.IsPrefix.trans ?_ hears.ordered
        simp [holding]

/-- A poll of `read_frame` that did not fail. -/
theorem Hears.poll (hears : Hears codec .reading frames acted l) {cipher : Cipher S R}
    {answers : List Arrival} {progress : ReadProgress}
    (polled : l.pollReadFrame cipher codec answers = some (l', progress))
    (intact : progress ≠ .failed → l'.Intact) :
    match progress with
    | .more => Hears codec .reading frames acted l'
    | .message m => Hears codec (.delivering m) frames acted l'
    | .failed => Hears codec .ended frames acted l' := by
  have all := hears.all (by simp)
  have received := Lane.pollReadFrame_received polled
  rw [← all] at received
  cases progress with
  | more =>
      have same : l'.received codec = acted ++ frames := by simpa [holding, ReadProgress.messages] using received
      refine ⟨fun _ => intact (by simp), ?_, ?_, ?_⟩
      · intro other delivering
        cases delivering
      · simp [holding, same]
      · simp [holding, same]
  | message m =>
      have more : l'.received codec = acted ++ frames ++ [m] := by
        simpa [holding, ReadProgress.messages] using received
      refine ⟨fun _ => intact (by simp), fun _ _ => Lane.pollReadFrame_message polled, ?_, ?_⟩
      · simp [holding, more]
      · simp [holding, more]
  | failed =>
      have same : l'.received codec = acted ++ frames := by simpa [holding, ReadProgress.messages] using received
      refine ⟨fun going => absurd rfl going, ?_, ?_, fun going => absurd rfl going⟩
      · intro other delivering
        cases delivering
      · simp [holding, same]

/-- Bytes consumed for a frame that no `read_frame` goes on with mean that the task ended. -/
theorem Hears.dropped (hears : Hears codec task frames acted l) (held : l.reader.held ≠ []) (idle : task ≠ .reading) :
    task = .ended := by
  cases task with
  | ended => rfl
  | reading => exact absurd rfl idle
  | delivering m =>
      rw [hears.boundary m rfl] at held
      exact absurd rfl held

end Hears

/-! ## From the relay's loop to its writer task -/

/-- What a step that polls nothing does with the writer task and its channel: the loop
hands messages over, the task takes one up. -/
inductive Writes : Server.WriterTask → List Message → List Message → Option Message →
    Server.WriterTask → List Message → Prop where
  | keeps (task : Server.WriterTask) (outgoing : List Message) :
      Writes task outgoing [] none task outgoing
  | takes (m : Message) (rest : List Message) : Writes .idle (m :: rest) [] (some m) (.writing m) rest
  | queues (task : Server.WriterTask) (m : Message) (outgoing : List Message) :
      Writes task outgoing [m] none task (outgoing ++ [m])
  | ends (task : Server.WriterTask) (outgoing : List Message) : Writes task outgoing [] none .ended outgoing

/-- A writer task that ended stays so, and takes nothing up. -/
theorem Writes.ended {task' : Server.WriterTask} {outgoing handed outgoing' : List Message}
    {next : Option Message} (writes : Writes .ended outgoing handed next task' outgoing') :
    task' = .ended ∧ next = none := by
  cases writes with
  | keeps => exact ⟨rfl, rfl⟩
  | queues => exact ⟨rfl, rfl⟩
  | ends => exact ⟨rfl, rfl⟩

theorem relay_writes {c c' : Server.Control} {e : Server.ControlEvent} (unwritten : ∀ m, e ≠ .wrote m)
    (taken : c.step e = some c') :
    Writes c.writer c.outgoing (c.handsOver e).toList (c.takesUp e) c'.writer c'.outgoing := by
  cases e with
  | wrote m => exact absurd rfl (unwritten m)
  | nextOutgoing =>
      simp only [Server.Control.step] at taken
      split at taken
      · rename_i m rest idle waiting
        cases taken
        simpa [Server.Control.takesUp, Server.Control.handsOver, idle, waiting] using Writes.takes m rest
      · cases taken
  | writeError =>
      simp only [Server.Control.step] at taken
      split at taken <;> cases taken
      exact .ends c.writer c.outgoing
  | forward =>
      obtain ⟨m, -, ⟨-, handed, rfl⟩ | ⟨-, handed, rfl⟩⟩ := Server.Control.forward_cases taken
      · rw [handed]
        exact .keeps c.writer c.outgoing
      · rw [handed]
        exact .queues c.writer m c.outgoing
  | joinWriter =>
      simp only [Server.Control.step] at taken
      split at taken <;> cases taken
      cases c.writerConsumed with
      | false => exact .ends c.writer c.outgoing
      | true => exact .keeps c.writer c.outgoing
  | readFrame m | readError | deliver | shutdown | openRequest sessionId | frame | readerDone
    | writerDone | heartbeatDead | joinReader =>
      simp only [Server.Control.step] at taken
      (repeat' split at taken) <;> cases taken <;> exact .keeps c.writer c.outgoing

/-- The frames begun are the first messages handed over; the others wait in the channel,
for as long as the task is not stuck behind a message it cannot write. -/
structure Hands (task : Server.WriterTask) (outgoing handed : List Message) (l : Lane S R) : Prop where
  idle : task = .idle → l.writing = none
  begun : l.begun <+: handed
  all : task = .idle ∨ task ≠ .ended ∧ l.writing.isSome = true → handed = l.begun ++ outgoing

section Hands

variable {codec : Codec} {task task' : Server.WriterTask}
  {outgoing outgoing' handed more : List Message} {next : Option Message} {l l' : Lane S R}

theorem Hands.step (hands : Hands task outgoing handed l)
    (writes : Writes task outgoing more next task' outgoing') :
    Hands task' outgoing' (handed ++ more)
      (match next with | some m => l.beginFrame codec m | none => l) := by
  cases writes with
  | keeps =>
      rw [List.append_nil]
      exact hands
  | takes m =>
      have all := hands.all (.inl rfl)
      have ready := hands.idle rfl
      rw [List.append_nil]
      show Hands (.writing m) outgoing' handed (l.beginFrame codec m)
      unfold Lane.beginFrame
      cases writeFrame codec m with
      | none =>
          refine ⟨?_, hands.begun, ?_⟩
          · intro idle
            cases idle
          · intro busy
            simp [ready] at busy
      | some bytes =>
          have moved : handed = l.begun ++ [m] ++ outgoing' := by
            rw [all]
            simp
          refine ⟨?_, ?_, fun _ => moved⟩
          · intro idle
            cases idle
          · rw [moved]
            exact List.prefix_append ..
  | queues _ m =>
      refine ⟨hands.idle, hands.begun.trans (List.prefix_append ..), ?_⟩
      intro going
      rw [hands.all going, List.append_assoc]
  | ends =>
      rw [List.append_nil]
      refine ⟨?_, hands.begun, ?_⟩
      · intro idle
        cases idle
      · intro going
        simp at going

/-- A poll of `write_frame`. -/
theorem Hands.poll {m : Message} (hands : Hands (.writing m) outgoing handed l) {cipher : Cipher S R}
    {answers : List (Poll Nat)} {innerFlush : Poll Unit} {progress : WriteProgress}
    (polled : l.pollWriteFrame cipher answers innerFlush = some (l', progress)) :
    match progress with
    | .more => Hands (.writing m) outgoing handed l'
    | .written => Hands .idle outgoing handed l'
    | .failed => Hands (.writing m) outgoing handed l' := by
  obtain ⟨busy, begun, after⟩ := Lane.pollWriteFrame_writing polled
  simp only at begun after
  have all := hands.all (.inr ⟨by simp, busy⟩)
  rw [← begun] at all
  have prefixed : l'.begun <+: handed := by
    rw [begun]
    exact hands.begun
  have keeps : Hands (.writing m) outgoing handed l' := by
    refine ⟨?_, prefixed, fun _ => all⟩
    intro idle
    cases idle
  cases progress with
  | more => exact keeps
  | failed => exact keeps
  | written =>
      have done : l'.writing = none := by simpa using after
      exact ⟨fun _ => done, prefixed, fun _ => all⟩

end Hands

/-! ## What the relay's loop hands over -/

/-- The message a branch body waits to hand over. -/
def forwarding : Server.LoopPoint → List Message
  | .forwarding m => [m]
  | _ => []

def looping : Server.LoopPoint → Bool
  | .select => true
  | .forwarding _ => true
  | _ => false

/-- The session ids of the `Open`s. -/
def opens (messages : List Message) : List String :=
  messages.filterMap fun
    | .openSession sessionId => some sessionId
    | _ => none

/-- What a step does at the point of the loop: requests dequeued, messages acted on and
messages handed over. -/
inductive Loops : Server.LoopPoint → List String → List Message → List Message →
    Server.LoopPoint → Prop where
  | keeps (point : Server.LoopPoint) : Loops point [] [] [] point
  | request (sessionId : String) :
      Loops .select [sessionId] [] [] (.forwarding (.openSession sessionId))
  | ping : Loops .select [] [.ping] [] (.forwarding .pong)
  | hands (m : Message) : Loops (.forwarding m) [] [] [m] .select
  | leaves (point point' : Server.LoopPoint) (acted : List Message) (gone : looping point' = false) :
      Loops point [] acted [] point'

theorem relay_loops {c c' : Server.Control} {e : Server.ControlEvent} (taken : c.step e = some c') :
    Loops c.point (dequeues e).toList (c.actsOn e).toList (c.handsOver e).toList c'.point := by
  cases e with
  | openRequest sessionId =>
      simp only [Server.Control.step] at taken
      split at taken
      · rename_i select
        cases taken
        rw [select]
        exact .request sessionId
      · cases taken
  | forward =>
      obtain ⟨m, waiting, ⟨-, handed, rfl⟩ | ⟨-, handed, rfl⟩⟩ := Server.Control.forward_cases taken
      · rw [waiting, handed]
        exact .leaves (.forwarding m) .joinReader [] rfl
      · rw [waiting, handed]
        exact .hands m
  | frame =>
      simp only [Server.Control.step] at taken
      split at taken
      · rename_i select
        split at taken
        · rename_i rest waiting
          cases taken
          simpa [dequeues, Server.Control.actsOn, Server.Control.handsOver, waiting, select] using Loops.ping
        · rename_i m rest other waiting
          cases taken
          exact .leaves _ _ _ rfl
        · split at taken <;> cases taken
          exact .leaves _ _ _ rfl
      · cases taken
  | shutdown | readerDone | writerDone | heartbeatDead | joinReader | joinWriter =>
      simp only [Server.Control.step] at taken
      split at taken <;> cases taken <;> exact .leaves _ _ _ rfl
  | readFrame m | readError | deliver | nextOutgoing | wrote m | writeError =>
      simp only [Server.Control.step] at taken
      (repeat' split at taken) <;> cases taken <;> exact .keeps c.point

/-- Each message handed over answers a request that was dequeued or a `Ping` that was
acted on, and none is answered twice. -/
structure Answers (point : Server.LoopPoint) (dequeued : List String) (acted handed : List Message) :
    Prop where
  ordered : opens (handed ++ forwarding point) <+: dequeued
  all : looping point = true → opens (handed ++ forwarding point) = dequeued
  pongs : (handed ++ forwarding point).count .pong ≤ acted.count .ping
  only : ∀ m ∈ handed ++ forwarding point, Server.Control.Outgoing m

theorem answers_start : Answers .select [] [] [] := by
  refine ⟨List.prefix_rfl, fun _ => rfl, Nat.zero_le _, ?_⟩
  intro m inside
  cases inside

/-- The loop takes a message on, for a request or for a `Ping`. -/
theorem Answers.takesOn {dequeued requests : List String} {acted handed received : List Message}
    {m : Message} (answers : Answers .select dequeued acted handed)
    (outgoing : Server.Control.Outgoing m) (asked : opens [m] = requests)
    (pinged : [m].count .pong ≤ received.count .ping) :
    Answers (.forwarding m) (dequeued ++ requests) (acted ++ received) handed := by
  have all := answers.all rfl
  have pongs := answers.pongs
  simp only [forwarding, List.append_nil] at all pongs
  have same : opens (handed ++ forwarding (.forwarding m)) = dequeued ++ requests := by
    rw [← all, ← asked]
    exact List.filterMap_append
  refine ⟨?_, fun _ => same, ?_, ?_⟩
  · rw [same]
  · simp only [forwarding, List.count_append]
    omega
  · intro m' inside
    simp only [forwarding, List.mem_append, List.mem_singleton] at inside
    cases inside with
    | inl earlier => exact answers.only m' (List.mem_append_left _ earlier)
    | inr last =>
        rw [last]
        exact outgoing

theorem Answers.step {point point' : Server.LoopPoint} {dequeued requests : List String}
    {acted handed received more : List Message} (answers : Answers point dequeued acted handed)
    (loops : Loops point requests received more point') :
    Answers point' (dequeued ++ requests) (acted ++ received) (handed ++ more) := by
  cases loops with
  | keeps =>
      simp only [List.append_nil]
      exact answers
  | request sessionId =>
      rw [List.append_nil handed]
      exact answers.takesOn (.openSession sessionId) rfl (by simp)
  | ping =>
      rw [List.append_nil handed]
      exact answers.takesOn .pong rfl (by simp)
  | hands m =>
      simp only [List.append_nil]
      have moved : handed ++ [m] ++ forwarding .select = handed ++ forwarding (.forwarding m) := by
        simp [forwarding]
      refine ⟨?_, fun _ => ?_, ?_, ?_⟩
      · rw [moved]
        exact answers.ordered
      · rw [moved]
        exact answers.all rfl
      · rw [moved]
        exact answers.pongs
      · rw [moved]
        exact answers.only
  | leaves _ _ _ gone =>
      -- what was being forwarded is dropped
      have none_left : forwarding point' = [] := by
        cases point' <;> first | rfl | cases gone
      have kept : handed <+: handed ++ forwarding point := List.prefix_append ..
      simp only [List.append_nil]
      refine ⟨?_, ?_, ?_, ?_⟩
      · rw [none_left, List.append_nil]
        exact (kept.filterMap _).trans answers.ordered
      · intro going
        rw [gone] at going
        cases going
      · rw [none_left, List.append_nil, List.count_append]
        have before := kept.sublist.count_le .pong
        have pongs := answers.pongs
        omega
      · intro m inside
        rw [none_left, List.append_nil] at inside
        exact answers.only m (kept.subset inside)

end RustSsh.Channel
