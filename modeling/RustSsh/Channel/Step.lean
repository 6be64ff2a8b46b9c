/-
# Channel.Step -- both ends of a control connection

The relay's `handle_agent` and the agent's `run_control_stream` over the two lanes
between them.  Every poll of every task is a step of its own, so the runs are all the
interleavings of the two loops and their tasks, with every fragmentation of the bytes;
a write that runs out of time (`writeError`, `pingFailed`), a reader that is aborted
(`joinReader`) and a future that is dropped (`drop`) may come between any two polls.

The hello exchange before it left both directions at the end of a frame, everything
sent having been read, so the lanes start empty, with the keys as it left them.  What
the loops took and handed on is recorded as the steps happen (`dequeued`, `handed`,
`relayActed`, `agentActed`).
-/
import RustSsh.Agent.Control
import RustSsh.Channel.Lane

namespace RustSsh.Channel

open RustSsh.Theory RustSsh.Protocol RustSsh.Noise

set_option autoImplicit false

structure Setup (S R : Type) where
  cipher : Cipher S R
  codec : Codec
  /-- from the relay to the agent -/
  downKeys : S × R
  upKeys : S × R
  relayHeartbeat : Bool
  agentHeartbeat : Bool

structure Peers (S R : Type) where
  relay : Server.Control
  agent : Agent.Control
  /-- from the relay to the agent -/
  down : Lane S R
  up : Lane S R
  /-- the requests the relay's loop took from `open_rx` -/
  dequeued : List String
  /-- the messages the relay's loop handed to its writer task -/
  handed : List Message
  /-- the messages each loop took from its reader task -/
  relayActed : List Message
  agentActed : List Message
  deriving DecidableEq, Repr

inductive Act where
  | relay (e : Server.ControlEvent)
  /-- the relay's writer task polls its `write_frame` -/
  | relayWrite (answers : List (Poll Nat)) (innerFlush : Poll Unit)
  /-- the relay's reader task polls its `read_frame` -/
  | relayRead (answers : List Arrival)
  | agent (e : Agent.ControlEvent)
  /-- the agent's loop polls the `write_frame` of a `Ping` -/
  | agentWrite (answers : List (Poll Nat)) (innerFlush : Poll Unit)
  | agentRead (answers : List Arrival)
  deriving DecidableEq, Repr

/-- The events a poll of `read_frame` or `write_frame` brings about. -/
def relayPolls : Server.ControlEvent → Bool
  | .readFrame _ => true
  | .readError => true
  | .wrote _ => true
  | _ => false

def agentPolls : Agent.ControlEvent → Bool
  | .readFrame _ => true
  | .readError => true
  | .pinged => true
  | _ => false

/-- The request the event takes from `open_rx`. -/
def dequeues : Server.ControlEvent → Option String
  | .openRequest sessionId => some sessionId
  | _ => none

namespace Peers

variable {S R : Type}

def start (setup : Setup S R) : Peers S R :=
  { relay := .start setup.relayHeartbeat, agent := .start setup.agentHeartbeat,
    down := .start setup.downKeys.1 setup.downKeys.2, up := .start setup.upKeys.1 setup.upKeys.2,
    dequeued := [], handed := [], relayActed := [], agentActed := [] }

def relayStep (codec : Codec) (c : Peers S R) (e : Server.ControlEvent) :
    Option (Peers S R) :=
  (c.relay.step e).map fun relay =>
    { c with
      relay
      down := match c.relay.takesUp e with | some m => c.down.beginFrame codec m | none => c.down
      dequeued := c.dequeued ++ (dequeues e).toList
      handed := c.handed ++ (c.relay.handsOver e).toList
      relayActed := c.relayActed ++ (c.relay.actsOn e).toList }

def agentStep (codec : Codec) (c : Peers S R) (e : Agent.ControlEvent) : Option (Peers S R) :=
  (c.agent.step e).map fun agent =>
    { c with
      agent
      up := if e = .ping then c.up.beginFrame codec .ping else c.up
      agentActed := c.agentActed ++ (c.agent.actsOn e).toList }

def step (setup : Setup S R) (c : Peers S R) : Act → Option (Peers S R)
  | .relay e => if relayPolls e then none else c.relayStep setup.codec e
  | .relayWrite answers innerFlush =>
      match c.relay.writer, c.down.pollWriteFrame setup.cipher answers innerFlush with
      | .writing _, some (down, .more) => some { c with down }
      | .writing m, some (down, .written) => { c with down }.relayStep setup.codec (.wrote m)
      | .writing _, some (down, .failed) => { c with down }.relayStep setup.codec .writeError
      | _, _ => none
  | .relayRead answers =>
      match c.relay.reader, c.up.pollReadFrame setup.cipher setup.codec answers with
      | .reading, some (up, .more) => some { c with up }
      | .reading, some (up, .message m) => { c with up }.relayStep setup.codec (.readFrame m)
      | .reading, some (up, .failed) => { c with up }.relayStep setup.codec .readError
      | _, _ => none
  | .agent e => if agentPolls e then none else c.agentStep setup.codec e
  | .agentWrite answers innerFlush =>
      match c.agent.point, c.up.pollWriteFrame setup.cipher answers innerFlush with
      | .pinging, some (up, .more) => some { c with up }
      | .pinging, some (up, .written) => { c with up }.agentStep setup.codec .pinged
      | .pinging, some (up, .failed) => { c with up }.agentStep setup.codec .pingFailed
      | _, _ => none
  | .agentRead answers =>
      match c.agent.reader, c.down.pollReadFrame setup.cipher setup.codec answers with
      | .reading, some (down, .more) => some { c with down }
      | .reading, some (down, .message m) => { c with down }.agentStep setup.codec (.readFrame m)
      | .reading, some (down, .failed) => { c with down }.agentStep setup.codec .readError
      | _, _ => none

end Peers

end RustSsh.Channel
