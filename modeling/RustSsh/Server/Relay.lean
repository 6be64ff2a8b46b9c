/-
# Server.Relay -- the shared state of the relay and its tasks

The data of `src/server.rs`: the registry of devices, one `Device` per control
connection that registered, one response channel per session request, the permits
of the connection semaphore, and every connection's task with its place in its
handler and the streams and permits its locals own.

A connection is named by the order in which it was admitted.  A handler registers
at most one device and makes at most one session request, so the connection also
names its `Device` (`Arc::ptr_eq` compares names) and its response channel; a
stream and a permit carry the name of the connection they were made for.
-/
import RustSsh.Server.Auth
import RustSsh.Server.Control
import RustSsh.Theory.Oneshot
import Mathlib.Tactic.Simps.Basic
import Mathlib.Logic.Function.Basic

namespace RustSsh.Server

open RustSsh.Theory RustSsh.Protocol

set_option autoImplicit false

/-- `MAX_CONNECTIONS`. -/
def maxConnections : Nat := 128

/-- `MAX_PENDING_SESSIONS_PER_DEVICE`, also the capacity of a device's `open_tx`. -/
def maxPendingSessionsPerDevice : Nat := 32

abbrev ConnId := Nat
abbrev DeviceId := String
abbrev SessionId := String

/-- What an agent session answers a request with: its stream and the permit the
stream occupies, or the reason there is none. -/
abbrev SessionHandoff := Except String (ConnId × ConnId)

/-- The permits in a handoff. -/
def handoffPermits : Option SessionHandoff → List ConnId
  | some (.ok (_, permit)) => [permit]
  | _ => []

/-- The streams in a handoff. -/
def handoffStreams : Option SessionHandoff → List ConnId
  | some (.ok (stream, _)) => [stream]
  | _ => []

structure Device where
  /-- requests queued in `open_tx` -/
  opens : List SessionId
  /-- `open_rx` is alive -/
  openReceiver : Bool
  pending : HashMap SessionId ConnId
  /-- `shutdown_tx` and the receiver the control loop selects on -/
  shutdown : Oneshot Unit

namespace Device

/-- The device `handle_agent` builds. -/
def new : Device := ⟨[], true, ∅, Oneshot.channel⟩

/-- No device: the connection has not registered one. -/
def absent : Device := ⟨[], false, ∅, Oneshot.closed⟩

end Device

/-! ## Where each task is

One constructor per `await` point or lock section of the handlers. -/

inductive AgentPoint where
  | insert
  | stopPrevious (previous : ConnId)
  | running (control : Control)
  | failPending
  /-- sending the failure to the requests `fail_pending` took out of the map -/
  | failing (responses : List ConnId)
  | unregistered
  deriving DecidableEq

inductive SessionPoint where
  | attach
  | lookup (sessionId : SessionId)
  | take (device : ConnId) (sessionId : SessionId)
  | accept (sessionId : SessionId) (response : ConnId)
  | ready (sessionId : SessionId) (response : ConnId)
  /-- `response_tx.send(..)`: `none` hands over this stream and its permit -/
  | respond (response : ConnId) (refusal : Option String)
  /-- the request was refused; about to return -/
  | done
  | reply (m : Message)
  deriving DecidableEq

inductive ControllerPoint where
  | request
  | list
  | lookup (target : DeviceId) (sessionId : SessionId)
  | register (device : ConnId) (sessionId : SessionId)
  /-- `open_tx.send` -/
  | enqueue (device : ConnId) (sessionId : SessionId)
  /-- `response_rx` -/
  | await (device : ConnId) (sessionId : SessionId)
  /-- the request failed before its deadline: `take_pending` -/
  | cancel (device : ConnId) (sessionId : SessionId) (reason : String)
  /-- the sender `take_pending` returned is answered -/
  | refuse (response : ConnId) (sessionId : SessionId) (reason : String)
  /-- the deadline passed: `take_pending` -/
  | timedOut (device : ConnId) (sessionId : SessionId)
  | reply (m : Message)
  | ready (sessionId : SessionId) (agent : ConnId)
  | bridge (agent : ConnId)
  | bridging (agent : ConnId)
  deriving DecidableEq

inductive Phase where
  | unborn
  | handshake
  | hello
  | authenticate (role : Role) (deviceId : Option String) (token : String)
      (features : List String)
  | helloOk (role : Role) (deviceId : Option String) (heartbeat : Bool)
  | agent (deviceId : DeviceId) (heartbeat : Bool) (point : AgentPoint)
  | session (deviceId : DeviceId) (point : SessionPoint)
  | controller (point : ControllerPoint)
  | returned
  deriving DecidableEq

/-- A connection's task: where it is, and the streams and permits it owns. -/
structure Task where
  phase : Phase
  streams : List ConnId
  permits : List ConnId

structure Relay where
  auth : AuthSnapshot
  devices : HashMap DeviceId ConnId
  device : ConnId → Device
  response : ConnId → Oneshot SessionHandoff
  task : ConnId → Task
  /-- connections admitted so far; the next one gets this name -/
  admitted : Nat
  /-- permits available in the semaphore -/
  free : Nat

namespace Relay

/-- The relay when it starts listening. -/
def start (auth : AuthSnapshot) : Relay :=
  { auth, devices := ∅, device := fun _ => .absent, response := fun _ => Oneshot.closed,
    task := fun _ => ⟨.unborn, [], []⟩, admitted := 0, free := maxConnections }

/-! ## Operations on the shared state -/

/-- `tokio::spawn` in the accept loop: a permit, a task, the stream. -/
@[simps] def spawn (s : Relay) : Relay :=
  { s with
    task := Function.update s.task s.admitted ⟨.handshake, [s.admitted], [s.admitted]⟩
    admitted := s.admitted + 1
    free := s.free - 1 }

/-- The task moves on; it keeps what it owns. -/
@[simps] def goto (s : Relay) (c : ConnId) (phase : Phase) : Relay :=
  { s with task := Function.update s.task c { s.task c with phase } }

/-- The task returns and drops its streams and permits. -/
@[simps] def finish (s : Relay) (c : ConnId) : Relay :=
  { s with
    task := Function.update s.task c ⟨.returned, [], []⟩
    free := s.free + (s.task c).permits.length }

@[simps] def setDevice (s : Relay) (g : ConnId) (d : Device) : Relay :=
  { s with device := Function.update s.device g d }

@[simps] def setResponse (s : Relay) (k : ConnId) (o : Oneshot SessionHandoff) : Relay :=
  { s with response := Function.update s.response k o }

/-- `devices.insert`. -/
@[simps] def insertDevice (s : Relay) (d : DeviceId) (g : ConnId) : Relay :=
  { s with devices := s.devices.insert d g }

/-- The stream is split between the reader and the writer task, which own it now. -/
@[simps] def spawnControl (s : Relay) (c : ConnId) (d : DeviceId) (heartbeat : Bool) : Relay :=
  { s with
    task := Function.update s.task c
      ⟨.agent d heartbeat (.running (Control.start heartbeat)), [], (s.task c).permits⟩ }

/-- `register_pending`. -/
def registerPending (s : Relay) (g : ConnId) (sessionId : SessionId) (k : ConnId) :
    Option Relay :=
  if maxPendingSessionsPerDevice ≤ (s.device g).pending.entries.length ∨
      sessionId ∈ (s.device g).pending then none
  else some (s.setDevice g
    { s.device g with pending := (s.device g).pending.insert sessionId k })

/-- What `take_pending` leaves. -/
@[simp] def removePending (s : Relay) (g : ConnId) (sessionId : SessionId) : Relay :=
  s.setDevice g { s.device g with pending := (s.device g).pending.erase sessionId }

/-- What `fail_pending` leaves: the map is empty, its senders are the caller's. -/
@[simp] def drainPending (s : Relay) (g : ConnId) : Relay :=
  s.setDevice g { s.device g with pending := ∅ }

/-- `stop_device`: the signal is sent once. -/
@[simp] def stopDevice (s : Relay) (g : ConnId) : Relay :=
  s.setDevice g { s.device g with
    shutdown :=
      if (s.device g).shutdown.sender then ((s.device g).shutdown.send ()).1
      else (s.device g).shutdown }

/-- `unregister`: only the generation that is still the registered one is removed. -/
@[simps] def unregister (s : Relay) (d : DeviceId) (g : ConnId) : Relay :=
  { s with
    devices := if s.devices.lookup d = some g then s.devices.erase d else s.devices }

/-- `open_tx.send`, when the receiver is alive and the queue has room. -/
@[simp] def enqueueOpen (s : Relay) (g : ConnId) (sessionId : SessionId) : Relay :=
  s.setDevice g { s.device g with opens := (s.device g).opens ++ [sessionId] }

/-- `open_rx` is dropped, and with it what was queued. -/
@[simp] def dropOpens (s : Relay) (g : ConnId) : Relay :=
  s.setDevice g { s.device g with opens := [], openReceiver := false }

/-- `response_tx.send`; a refusal that finds no receiver is dropped. -/
@[simp] def refuseRequest (s : Relay) (k : ConnId) (reason : String) : Relay :=
  s.setResponse k ((s.response k).send (.error reason)).1

/-- A sender is dropped without a value. -/
@[simp] def dropRequest (s : Relay) (k : ConnId) : Relay :=
  s.setResponse k (s.response k).dropSender

/-- `response_tx.send(Ok((stream, permit)))`: the handler gives up both, and a
handoff that finds no receiver is dropped with its permit. -/
@[simps] def handOver (s : Relay) (c k : ConnId) : Relay :=
  let sent := (s.response k).send (.ok (c, c))
  { s with
    response := Function.update s.response k sent.1
    task := Function.update s.task c ⟨.returned, [], []⟩
    free := s.free + (handoffPermits sent.2).length }

/-- `response_rx` is dropped; a handoff still in the channel goes with it. -/
@[simps] def dropResponse (s : Relay) (k : ConnId) : Relay :=
  let dropped := (s.response k).dropReceiver
  { s with
    response := Function.update s.response k dropped.1
    free := s.free + (handoffPermits dropped.2).length }

/-- The controller takes a handed-over stream and its permit. -/
@[simps] def takeHandoff (s : Relay) (k : ConnId) (sessionId : SessionId) (stream permit : ConnId) : Relay :=
  { s with
    response := Function.update s.response k (s.response k).dropReceiver.1
    task := Function.update s.task k
      ⟨.controller (.ready sessionId stream), stream :: (s.task k).streams,
        permit :: (s.task k).permits⟩ }

end Relay

end RustSsh.Server
