/-
# Agent.Control -- the control loop of the agent

`run_control_stream` of `src/agent.rs`: the reader task, the same as the relay's, owns
the read half of the stream, and the `select!` loop owns the write half and writes the
`Ping`s itself.  A `Ping` is written inside a branch body, so while one is being written
the loop looks at nothing else.

The future may be dropped at any of its suspension points (`dropped`): the loop and
the write half are gone then, but the reader task is detached, not aborted, and goes
on until its frame channel or its stream fails.  The session tasks belong to the
supervisor; the loop only starts them (`opened`) and reaps them (`sessionDone`).
-/
import RustSsh.Server.Control

namespace RustSsh.Agent

open RustSsh.Protocol
open RustSsh.Server (ReaderTask)

set_option autoImplicit false

/-- `CONTROL_FRAME_CHANNEL_CAPACITY`. -/
def controlFrameChannelCapacity : Nat := 16

inductive LoopPoint where
  | select
  /-- inside `timeout(write_timeout, write_frame(.., Ping))` -/
  | pinging
  /-- after the loop: `reader_task.abort()` and its join -/
  | joinReader
  | left
  /-- the future was dropped -/
  | dropped
  deriving DecidableEq, Repr

structure Control where
  /-- the relay's `HelloOk` listed the heartbeat -/
  heartbeat : Bool
  point : LoopPoint
  reader : ReaderTask
  /-- `frame_tx` to `frame_rx` -/
  frames : List Message
  readerConsumed : Bool
  deriving DecidableEq, Repr

inductive ControlEvent where
  /-- reader task: `read_frame` returned a message -/
  | readFrame (m : Message)
  | readError
  /-- reader task: `frame_tx.send` completed or found the channel closed -/
  | deliver
  /-- loop: `frame_rx.recv` -/
  | frame
  /-- loop: `sessions.join_next` -/
  | sessionDone
  /-- loop: the reader task's handle -/
  | readerDone
  /-- loop: `ping_interval` after the last `Ping` -/
  | ping
  /-- loop: the whole `Ping` was written in time -/
  | pinged
  /-- loop: the write failed or ran out of time -/
  | pingFailed
  /-- loop: no frame for `dead_after` -/
  | heartbeatDead
  | joinReader
  | drop
  deriving DecidableEq, Repr

namespace Control

/-- The state in which the loop is entered, the reader task just spawned. -/
def start (heartbeat : Bool) : Control :=
  { heartbeat, point := .select, reader := .reading, frames := [], readerConsumed := false }

/-- `break`: on to the cleanup. -/
def leave (c : Control) : Control := { c with point := .joinReader }

/-- The function has not returned and its future exists. -/
def running (c : Control) : Bool :=
  match c.point with
  | .left => false
  | .dropped => false
  | _ => true

def step (c : Control) : ControlEvent → Option Control
  | .readFrame m =>
      match c.reader with
      | .reading => some { c with reader := .delivering m }
      | _ => none
  | .readError =>
      match c.reader with
      | .reading => some { c with reader := .ended }
      | _ => none
  | .deliver =>
      match c.reader with
      | .delivering m =>
          -- the loop owns `frame_rx`
          if c.running = false then some { c with reader := .ended }
          else if c.frames.length < controlFrameChannelCapacity then
            some { c with reader := .reading, frames := c.frames ++ [m] }
          else none
      | _ => none
  | .frame =>
      if c.point = .select then
        match c.frames with
        | .openSession _ :: rest => some { c with frames := rest }
        | .pong :: rest => some { c with frames := rest }
        | _ :: rest => some { c with frames := rest }.leave
        | [] => if c.reader = .ended then some c.leave else none
      else none
  | .sessionDone => if c.point = .select then some c else none
  | .readerDone =>
      if c.point = .select ∧ c.reader = .ended ∧ c.readerConsumed = false then
        some { c with readerConsumed := true }.leave
      else none
  | .ping =>
      if c.point = .select ∧ c.heartbeat = true then some { c with point := .pinging } else none
  | .pinged => if c.point = .pinging then some { c with point := .select } else none
  | .pingFailed => if c.point = .pinging then some c.leave else none
  | .heartbeatDead => if c.point = .select ∧ c.heartbeat = true then some c.leave else none
  | .joinReader =>
      if c.point = .joinReader then
        some { c with point := .left, reader := if c.readerConsumed then c.reader else .ended }
      else none
  | .drop => if c.running then some { c with point := .dropped } else none

/-- The message the event takes from `frame_rx`. -/
def actsOn (c : Control) : ControlEvent → Option Message
  | .frame => c.frames.head?
  | _ => none

/-- The session the event starts. -/
def opened (c : Control) (e : ControlEvent) : Option String :=
  match c.actsOn e with
  | some (.openSession sessionId) => some sessionId
  | _ => none

/-- The reader's handle is consumed only once the task has ended, and a loop that returned
has joined it. -/
structure Consumed (c : Control) : Prop where
  reader : c.readerConsumed = true → c.reader = .ended
  joined : c.point = .left → c.reader = .ended

theorem consumed_start (heartbeat : Bool) : Consumed (start heartbeat) := by
  constructor <;> simp [start]

theorem consumed_step {c c' : Control} {e : ControlEvent} (holds : Consumed c)
    (taken : c.step e = some c') : Consumed c' := by
  obtain ⟨reader, joined⟩ := holds
  cases e <;> simp only [step] at taken <;> (repeat' split at taken) <;>
    (try cases taken) <;> constructor <;> simp_all [leave, running]

/-- The loop runs until it returns or is dropped. -/
theorem running_step {c c' : Control} {e : ControlEvent} (running : c.running = true)
    (kept : e ≠ .drop) (taken : c.step e = some c') (inside : c'.point ≠ .left) :
    c'.running = true := by
  cases e with
  | drop => exact absurd rfl kept
  | joinReader =>
      simp only [step] at taken
      split at taken <;> cases taken
      exact absurd rfl inside
  | readFrame m | readError | deliver | frame | sessionDone | readerDone | ping | pinged
    | pingFailed | heartbeatDead =>
      simp only [step] at taken
      (repeat' split at taken) <;> cases taken <;> first | exact running | rfl

end Control

end RustSsh.Agent
