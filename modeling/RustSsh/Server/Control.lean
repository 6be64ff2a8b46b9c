/-
# Server.Control -- the control connection of one agent

The part of `handle_agent` (`src/server.rs`) between the registration and the
cleanup: the reader task, the writer task and the `select!` loop that joins them
by two bounded channels.  `read_frame` and `write_frame` are not cancellation safe,
so each half of the stream belongs to a task of its own and the loop only ever
waits on channels; `reader` and `writer` say what each task is doing, `ended` that
it has returned or was aborted and so has dropped its half.

A choice between ready `select!` branches, the moment a task runs and the moment
a deadline passes are all the scheduler's: every event enabled in a state may
happen in it.
-/
import RustSsh.Protocol.Message

namespace RustSsh.Server

open RustSsh.Protocol

set_option autoImplicit false

/-- `CONTROL_FRAME_CHANNEL_CAPACITY`. -/
def controlFrameChannelCapacity : Nat := 16

/-- The task that owns the read half. -/
inductive ReaderTask where
  /-- inside `read_frame` -/
  | reading
  /-- holding a whole frame, waiting for room in the frame channel -/
  | delivering (m : Message)
  | ended
  deriving DecidableEq, Repr

/-- The task that owns the write half. -/
inductive WriterTask where
  /-- waiting for the next message -/
  | idle
  /-- inside `timeout(write_timeout, write_frame(..))` -/
  | writing (m : Message)
  | ended
  deriving DecidableEq, Repr

inductive LoopPoint where
  | select
  /-- a branch body is waiting for room in the writer's channel -/
  | forwarding (m : Message)
  /-- after the loop: `reader_task.abort()` and its join -/
  | joinReader
  | joinWriter
  | left
  deriving DecidableEq, Repr

structure Control where
  heartbeat : Bool
  point : LoopPoint
  reader : ReaderTask
  /-- `frame_tx` to `frame_rx` -/
  frames : List Message
  writer : WriterTask
  /-- `writer_tx` to `writer_rx` -/
  outgoing : List Message
  readerConsumed : Bool
  writerConsumed : Bool
  deriving DecidableEq, Repr

inductive ControlEvent where
  /-- reader task: `read_frame` returned a message -/
  | readFrame (m : Message)
  | readError
  /-- reader task: `frame_tx.send` completed -/
  | deliver
  /-- writer task: `writer_rx.recv` returned a message -/
  | nextOutgoing
  /-- writer task: the whole frame was written in time -/
  | wrote (m : Message)
  /-- writer task: the write failed or ran out of time -/
  | writeError
  /-- loop: `shutdown_rx` -/
  | shutdown
  /-- loop: `open_rx.recv` -/
  | openRequest (sessionId : String)
  /-- loop: `writer_tx.send` completed or found the channel closed -/
  | forward
  /-- loop: `frame_rx.recv` -/
  | frame
  /-- loop: the reader task's handle -/
  | readerDone
  /-- loop: the writer task's handle -/
  | writerDone
  /-- loop: no frame for `dead_after` -/
  | heartbeatDead
  | joinReader
  | joinWriter
  deriving DecidableEq, Repr

namespace Control

/-- The state in which the loop is entered, both tasks just spawned. -/
def start (heartbeat : Bool) : Control :=
  { heartbeat, point := .select, reader := .reading, frames := [], writer := .idle,
    outgoing := [], readerConsumed := false, writerConsumed := false }

/-- `break`: on to the cleanup. -/
def leave (c : Control) : Control := { c with point := .joinReader }

def step (c : Control) : ControlEvent → Option Control
  | .readFrame m =>
      match c.reader with
      | .reading => some { c with reader := .delivering m }
      | _ => none
  | .readError =>
      match c.reader with
      | .reading => some { c with reader := .ended }
      | _ => none
  | .deliver =>
      match c.reader with
      | .delivering m =>
          if c.frames.length < controlFrameChannelCapacity then
            some { c with reader := .reading, frames := c.frames ++ [m] }
          else none
      | _ => none
  | .nextOutgoing =>
      match c.writer, c.outgoing with
      | .idle, m :: rest => some { c with writer := .writing m, outgoing := rest }
      | _, _ => none
  | .wrote m => if c.writer = .writing m then some { c with writer := .idle } else none
  | .writeError =>
      match c.writer with
      | .writing _ => some { c with writer := .ended }
      | _ => none
  | .shutdown => if c.point = .select then some c.leave else none
  | .openRequest sessionId =>
      if c.point = .select then some { c with point := .forwarding (.openSession sessionId) }
      else none
  | .forward =>
      match c.point with
      | .forwarding m =>
          -- the writer task owns `writer_rx`, so the channel closes when it ends
          if c.writer = .ended then some c.leave
          else if c.outgoing.length < controlFrameChannelCapacity then
            some { c with point := .select, outgoing := c.outgoing ++ [m] }
          else none
      | _ => none
  | .frame =>
      if c.point = .select then
        match c.frames with
        | .ping :: rest => some { c with point := .forwarding .pong, frames := rest }
        | _ :: rest => some { c with frames := rest }.leave
        | [] => if c.reader = .ended then some c.leave else none
      else none
  | .readerDone =>
      if c.point = .select ∧ c.reader = .ended ∧ c.readerConsumed = false then
        some { c with readerConsumed := true }.leave
      else none
  | .writerDone =>
      if c.point = .select ∧ c.writer = .ended ∧ c.writerConsumed = false then
        some { c with writerConsumed := true }.leave
      else none
  | .heartbeatDead => if c.point = .select ∧ c.heartbeat = true then some c.leave else none
  | .joinReader =>
      if c.point = .joinReader then
        some { c with point := .joinWriter, reader := if c.readerConsumed then c.reader else .ended }
      else none
  | .joinWriter =>
      if c.point = .joinWriter then
        some { c with point := .left, writer := if c.writerConsumed then c.writer else .ended }
      else none

/-- The message the loop takes from `frame_rx`. -/
def actsOn (c : Control) : ControlEvent → Option Message
  | .frame => c.frames.head?
  | _ => none

/-- The message the loop hands to the writer task. -/
def handsOver (c : Control) : ControlEvent → Option Message
  | .forward =>
      match c.point, c.writer with
      | .forwarding _, .ended => none
      | .forwarding m, _ => some m
      | _, _ => none
  | _ => none

/-- The message the writer task takes up. -/
def takesUp (c : Control) : ControlEvent → Option Message
  | .nextOutgoing => c.outgoing.head?
  | _ => none

/-- A handle is consumed only once its task has ended. -/
structure Consumed (c : Control) : Prop where
  reader : c.readerConsumed = true → c.reader = .ended
  writer : c.writerConsumed = true → c.writer = .ended
  /-- past its join a task has ended -/
  readerJoined : c.point = .joinWriter ∨ c.point = .left → c.reader = .ended
  writerJoined : c.point = .left → c.writer = .ended

theorem consumed_start (heartbeat : Bool) : Consumed (start heartbeat) := by
  constructor <;> simp [start]

theorem consumed_step {c c' : Control} {e : ControlEvent} (holds : Consumed c)
    (taken : c.step e = some c') : Consumed c' := by
  obtain ⟨reader, writer, readerJoined, writerJoined⟩ := holds
  cases e <;> simp only [step] at taken <;> (repeat' split at taken) <;>
    (try cases taken) <;> constructor <;> simp_all [leave]

/-- The loop hands its message over, or leaves because there is no writer task. -/
theorem forward_cases {c c' : Control} (taken : c.step .forward = some c') :
    ∃ m, c.point = .forwarding m ∧
      ((c.writer = .ended ∧ c.handsOver .forward = none ∧ c' = c.leave) ∨
        (c.writer ≠ .ended ∧ c.handsOver .forward = some m ∧
          c' = { c with point := .select, outgoing := c.outgoing ++ [m] })) := by
  simp only [step] at taken
  split at taken
  · rename_i m waiting
    refine ⟨m, waiting, ?_⟩
    by_cases ended : c.writer = .ended
    · rw [if_pos ended] at taken
      cases taken
      exact .inl ⟨ended, by simp [handsOver, waiting, ended], rfl⟩
    · rw [if_neg ended] at taken
      split at taken <;> cases taken
      refine .inr ⟨ended, ?_, rfl⟩
      unfold handsOver
      rw [waiting]
      cases task : c.writer with
      | ended => exact absurd task ended
      | idle => rfl
      | writing other => rfl
  · cases taken

/-- The messages the loop took on to write and the writer task has not finished, the
next one to finish first. -/
def toWrite (c : Control) : List Message :=
  (match c.writer with | .writing m => [m] | _ => []) ++ c.outgoing ++
    (match c.point with | .forwarding m => [m] | _ => [])

/-- What the loop writes: `Open` for a queued request, `Pong` for a `Ping`. -/
inductive Outgoing : Message → Prop where
  | openSession (sessionId : String) : Outgoing (.openSession sessionId)
  | pong : Outgoing .pong

/-- Only a request and a `Ping` put something on; the other steps keep, write or drop. -/
theorem toWrite_step {c c' : Control} {e : ControlEvent} (taken : c.step e = some c') :
    ∀ m ∈ c'.toWrite, m ∈ c.toWrite ∨ Outgoing m := by
  intro m member
  cases e <;> simp only [step] at taken <;> (repeat' split at taken) <;>
    (try cases taken) <;> simp only [toWrite, leave] at member ⊢ <;> grind [Outgoing]

theorem wrote_toWrite {c c' : Control} {m : Message} (taken : c.step (.wrote m) = some c') :
    c.toWrite = m :: c'.toWrite := by
  simp only [step] at taken
  split at taken
  · rename_i writing
    cases taken
    simp [toWrite, writing]
  · cases taken

end Control

end RustSsh.Server
