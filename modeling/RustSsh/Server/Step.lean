/-
# Server.Step -- the relay's handlers, one step at a time

`run_with_timing`, `handle_connection`, `handle_agent`, `handle_agent_session` and
`handle_controller` of `src/server.rs`.  `step` takes one action of one task: a
lock section, a channel operation, a frame read or written, a deadline.  Runs of
`step` are all interleavings of any number of connections; the peers choose every
frame and every failure, and a deadline may pass wherever the source sets one.

An event names what is visible of a step (the frame, the device inserted, the
stream bridged), so that what a connection sent and was sent is read off a run
(`received`, `sent`).
-/
import RustSsh.Server.Relay
import RustSsh.Theory.Run

namespace RustSsh.Server

open RustSsh.Theory RustSsh.Protocol

set_option autoImplicit false

/-- What the replies print: `open_timeout` in seconds, and the characters `{:?}`
leaves as they are. -/
structure Settings where
  openTimeoutSecs : Nat
  printable : Char → Bool

inductive Event where
  /-- the Noise handshake finished in time, or it did not -/
  | handshake (ok : Bool)
  /-- `read_frame` returned a message -/
  | recv (m : Message)
  /-- `read_frame` failed -/
  | recvError (error : String)
  /-- the deadline around the current `await` passed -/
  | timeout
  /-- `write_frame` of this message succeeded -/
  | send (m : Message)
  | sendError (error : String)
  | authenticate
  /-- `devices.insert` under this id -/
  | insert (deviceId : DeviceId)
  | stopPrevious
  | control (e : ControlEvent)
  /-- `fail_pending` takes the map -/
  | failPending
  /-- `fail_pending` answers this request -/
  | failRequest (response : ConnId)
  | unregister
  /-- the handler returns -/
  | return
  | list
  /-- `devices.get` -/
  | lookup
  /-- an attaching session's `take_pending` -/
  | take
  /-- `response_tx.send` -/
  | respond
  | register
  | enqueue
  /-- the response channel resolved -/
  | receive
  /-- `take_pending` of a request that failed -/
  | cancel
  | bridge (agent : ConnId)
  deriving DecidableEq

inductive Act where
  /-- the listener accepts a connection -/
  | accept
  /-- `spawn_auth_reload` installs a snapshot -/
  | reload (auth : AuthSnapshot)
  /-- a step of one connection's task -/
  | task (c : ConnId) (e : Event)
  deriving DecidableEq

/-! ## Replies -/

def offline (sessionId : SessionId) (d : DeviceId) : Message :=
  .failed sessionId s!"device is offline: {d}"

def noLongerWaiting (sessionId : SessionId) : Message :=
  .failed sessionId "SSH session is no longer waiting"

def tooManyPending (sessionId : SessionId) : Message :=
  .failed sessionId
    s!"device has too many pending SSH sessions (limit: {maxPendingSessionsPerDevice})"

def noResponse (cfg : Settings) (sessionId : SessionId) : Message :=
  .failed sessionId s!"agent did not respond within {cfg.openTimeoutSecs} seconds"

def helloOkFor (heartbeat : Bool) : Message :=
  .helloOk (if heartbeat then [heartbeatFeature] else [])

/-- `DeviceList`: the registered ids, sorted. -/
def deviceListOf (devices : HashMap DeviceId ConnId) : Message :=
  .deviceList ((devices.keys.mergeSort (· ≤ ·)).map DeviceInfo.mk)

/-! ## The handlers -/

/-- The role dispatch that ends `handle_connection`. -/
def dispatch (s : Relay) (c : ConnId) (role : Role) (deviceId : Option String)
    (heartbeat : Bool) : Relay :=
  match role, deviceId with
  | .agent, some d =>
      if DeviceId.isValid d then s.goto c (.agent d heartbeat .insert) else s.finish c
  | .agentSession, some d => s.goto c (.session d .attach)
  | .controller, _ => s.goto c (.controller .request)
  | _, none => s.finish c

/-- `handle_connection`, from the spawned task's handshake to the role dispatch. -/
def connectionStep (s : Relay) (c : ConnId) (phase : Phase) (e : Event) : Option Relay :=
  match phase, e with
  | .handshake, .handshake ok => some (if ok then s.goto c .hello else s.finish c)
  | .handshake, .timeout => some (s.finish c)
  | .hello, .recv (.hello version role token deviceId features) =>
      if version = protocolVersion then
        some (s.goto c (.authenticate role deviceId token features))
      else some (s.finish c)
  | .hello, .recv _ => some (s.finish c)
  | .hello, .recvError _ => some (s.finish c)
  | .hello, .timeout => some (s.finish c)
  | .authenticate role deviceId token features, .authenticate =>
      match authenticate role deviceId token s.auth with
      | .ok _ => some (s.goto c (.helloOk role deviceId (features.any (· == heartbeatFeature))))
      | .error _ => some (s.finish c)
  | .helloOk role deviceId heartbeat, .send m =>
      if m = helloOkFor heartbeat then some (dispatch s c role deviceId heartbeat) else none
  | .helloOk _ _ _, .sendError _ => some (s.finish c)
  | _, _ => none

/-- The loop takes a request from `open_rx`; `shutdown_rx` resolves once it was
signalled.  The other branches touch nothing outside the handler. -/
def controlAllowed (s : Relay) (c : ConnId) : ControlEvent → Prop
  | .openRequest sessionId => (s.device c).opens.head? = some sessionId
  | .shutdown => (s.device c).shutdown.value = some ()
  | _ => True

instance (s : Relay) (c : ConnId) (e : ControlEvent) : Decidable (controlAllowed s c e) := by
  cases e <;> unfold controlAllowed <;> infer_instance

/-- A request that was received is no longer in `open_rx`. -/
def Device.afterControl (device : Device) : ControlEvent → Device
  | .openRequest _ => { device with opens := device.opens.tail }
  | _ => device

@[simp] theorem Device.afterControl_pending (device : Device) (e : ControlEvent) :
    (device.afterControl e).pending = device.pending := by
  cases e <;> rfl

@[simp] theorem Device.afterControl_shutdown (device : Device) (e : ControlEvent) :
    (device.afterControl e).shutdown = device.shutdown := by
  cases e <;> rfl

@[simp] def afterControl (s : Relay) (c : ConnId) (e : ControlEvent) : Relay :=
  s.setDevice c ((s.device c).afterControl e)

/-- `handle_agent`. -/
def agentStep (s : Relay) (c : ConnId) (d : DeviceId) (heartbeat : Bool) (point : AgentPoint)
    (e : Event) : Option Relay :=
  match point, e with
  | .insert, .insert d' =>
      if d' = d then
        let inserted := (s.setDevice c .new).insertDevice d c
        match s.devices.lookup d with
        | none => some (inserted.spawnControl c d heartbeat)
        | some previous => some (inserted.goto c (.agent d heartbeat (.stopPrevious previous)))
      else none
  | .stopPrevious previous, .stopPrevious =>
      some ((s.stopDevice previous).spawnControl c d heartbeat)
  | .running control, .control e =>
      if controlAllowed s c e then
        match control.step e with
        | none => none
        | some control =>
            some ((afterControl s c e).goto c (.agent d heartbeat
              (if control.point = .left then .failPending else .running control)))
      else none
  | .failPending, .failPending =>
      some ((s.drainPending c).goto c
        (.agent d heartbeat (.failing (s.device c).pending.values)))
  | .failing responses, .failRequest k =>
      if k ∈ responses then
        some ((s.refuseRequest k "device control connection ended").goto c
          (.agent d heartbeat (.failing (responses.erase k))))
      else none
  | .failing [], .unregister =>
      some ((s.unregister d c).goto c (.agent d heartbeat .unregistered))
  | .unregistered, .return => some ((s.dropOpens c).finish c)
  | _, _ => none

/-- `handle_agent_session`. -/
def sessionStep (cfg : Settings) (s : Relay) (c : ConnId) (d : DeviceId) (point : SessionPoint)
    (e : Event) : Option Relay :=
  match point, e with
  | .attach, .recv (.sessionAttach sessionId) => some (s.goto c (.session d (.lookup sessionId)))
  | .attach, .recv _ => some (s.finish c)
  | .attach, .recvError _ => some (s.finish c)
  | .attach, .timeout => some (s.finish c)
  | .lookup sessionId, .lookup =>
      match s.devices.lookup d with
      | none => some (s.goto c (.session d (.reply (offline sessionId d))))
      | some g => some (s.goto c (.session d (.take g sessionId)))
  | .take g sessionId, .take =>
      match (s.device g).pending.lookup sessionId with
      | none => some (s.goto c (.session d (.reply (noLongerWaiting sessionId))))
      | some k => some ((s.removePending g sessionId).goto c (.session d (.accept sessionId k)))
  | .accept sessionId k, .send m =>
      if m = .sessionAccepted sessionId then
        some (s.goto c (.session d (.ready sessionId k)))
      else none
  | .accept _ k, .sendError error =>
      some (s.goto c (.session d (.respond k (some s!"could not accept agent session: {error}"))))
  | .ready sessionId k, .recv m =>
      let unexpected := s!"unexpected agent session response: {m.debug cfg.printable}"
      match m with
      | .ready id =>
          some (s.goto c (.session d
            (.respond k (if id = sessionId then none else some unexpected))))
      | .failed id reason =>
          some (s.goto c (.session d
            (.respond k (some (if id = sessionId then reason else unexpected)))))
      | _ => some (s.goto c (.session d (.respond k (some unexpected))))
  | .ready _ k, .recvError error =>
      some (s.goto c (.session d
        (.respond k (some s!"agent session ended before ready: {error}"))))
  | .ready _ k, .timeout =>
      some (s.goto c (.session d
        (.respond k (some "agent session did not become ready in time"))))
  | .respond k none, .respond => some (s.handOver c k)
  | .respond k (some reason), .respond =>
      some ((s.refuseRequest k reason).goto c (.session d .done))
  | .done, .return => some (s.finish c)
  | .reply m, .send m' => if m' = m then some (s.finish c) else none
  | .reply _, .sendError _ => some (s.finish c)
  | _, _ => none

/-- `handle_controller`. -/
def controllerStep (cfg : Settings) (s : Relay) (c : ConnId) (point : ControllerPoint)
    (e : Event) : Option Relay :=
  match point, e with
  | .request, .recv .listRequest => some (s.goto c (.controller .list))
  | .request, .recv (.openRequest target sessionId) =>
      some (s.goto c (.controller (.lookup target sessionId)))
  | .request, .recv _ => some (s.finish c)
  | .request, .recvError _ => some (s.finish c)
  | .request, .timeout => some (s.finish c)
  | .list, .list => some (s.goto c (.controller (.reply (deviceListOf s.devices))))
  | .lookup target sessionId, .lookup =>
      match s.devices.lookup target with
      | none => some (s.goto c (.controller (.reply (offline sessionId target))))
      | some g => some (s.goto c (.controller (.register g sessionId)))
  | .register g sessionId, .register =>
      match s.registerPending g sessionId c with
      | none => some (s.goto c (.controller (.reply (tooManyPending sessionId))))
      | some registered =>
          some ((registered.setResponse c Oneshot.channel).goto c
            (.controller (.enqueue g sessionId)))
  | .enqueue g sessionId, .enqueue =>
      if (s.device g).openReceiver = false then
        some ((s.dropResponse c).goto c (.controller
          (.cancel g sessionId "device agent disconnected before session started")))
      else if (s.device g).opens.length < maxPendingSessionsPerDevice then
        some ((s.enqueueOpen g sessionId).goto c (.controller (.await g sessionId)))
      else none
  | .enqueue g sessionId, .timeout =>
      some ((s.dropResponse c).goto c (.controller (.timedOut g sessionId)))
  | .await g sessionId, .receive =>
      match (s.response c).poll with
      | .pending => none
      | .ready (.ok (stream, permit)) => some (s.takeHandoff c sessionId stream permit)
      | .ready (.error reason) =>
          some ((s.dropResponse c).goto c (.controller (.reply (.failed sessionId reason))))
      | .closed =>
          some ((s.dropResponse c).goto c (.controller
            (.cancel g sessionId "agent closed before accepting session")))
  | .await g sessionId, .timeout =>
      some ((s.dropResponse c).goto c (.controller (.timedOut g sessionId)))
  | .cancel g sessionId reason, .cancel =>
      match (s.device g).pending.lookup sessionId with
      | none => some (s.goto c (.controller (.reply (.failed sessionId reason))))
      | some k =>
          some ((s.removePending g sessionId).goto c (.controller (.refuse k sessionId reason)))
  | .refuse k sessionId reason, .respond =>
      some ((s.refuseRequest k reason).goto c (.controller (.reply (.failed sessionId reason))))
  | .timedOut g sessionId, .cancel =>
      match (s.device g).pending.lookup sessionId with
      | none => some (s.goto c (.controller (.reply (noResponse cfg sessionId))))
      | some k =>
          some (((s.removePending g sessionId).dropRequest k).goto c
            (.controller (.reply (noResponse cfg sessionId))))
  | .reply m, .send m' => if m' = m then some (s.finish c) else none
  | .reply _, .sendError _ => some (s.finish c)
  | .ready sessionId agent, .send m =>
      if m = .ready sessionId then some (s.goto c (.controller (.bridge agent))) else none
  | .ready _ _, .sendError _ => some (s.finish c)
  | .bridge agent, .bridge agent' =>
      if agent' = agent then some (s.goto c (.controller (.bridging agent))) else none
  | .bridging _, .return => some (s.finish c)
  | _, _ => none

/-- One action of the relay. -/
def step (cfg : Settings) (s : Relay) : Act → Option Relay
  | .accept => some (if 0 < s.free then s.spawn else s)
  | .reload auth => some { s with auth }
  | .task c e =>
      match (s.task c).phase with
      | .agent d heartbeat point => agentStep s c d heartbeat point e
      | .session d point => sessionStep cfg s c d point e
      | .controller point => controllerStep cfg s c point e
      | phase => connectionStep s c phase e

/-! ## What a run shows of a connection -/

/-- The frame an action reads from connection `c`. -/
def receivedFrame (c : ConnId) : Act → Option Message
  | .task c' (.recv m) => if c' = c then some m else none
  | .task c' (.control (.readFrame m)) => if c' = c then some m else none
  | _ => none

/-- The frame an action writes to connection `c`. -/
def sentFrame (c : ConnId) : Act → Option Message
  | .task c' (.send m) => if c' = c then some m else none
  | .task c' (.control (.wrote m)) => if c' = c then some m else none
  | _ => none

/-- The frames read from connection `c`, in order. -/
def received (c : ConnId) (acts : List Act) : List Message := acts.filterMap (receivedFrame c)

/-- The frames written to connection `c`, in order. -/
def sent (c : ConnId) (acts : List Act) : List Message := acts.filterMap (sentFrame c)

/-- The relay's runs from its start. -/
abbrev Run (cfg : Settings) (auth : AuthSnapshot) (acts : List Act) (s : Relay) : Prop :=
  exec (step cfg) (Relay.start auth) acts = some s

/-! ## A session from registration to bridge -/

/-- A connection is admitted, says Hello and is let in. -/
def joins (c : ConnId) (role : Role) (deviceId : Option String) (token : String) : List Act :=
  [.accept, .task c (.handshake true),
    .task c (.recv (.hello protocolVersion role token deviceId [])),
    .task c .authenticate, .task c (.send (helloOkFor false))]

/-- The agent of device `d` connects as `c`; nothing was registered before. -/
def registers (c : ConnId) (d : DeviceId) (token : String) : List Act :=
  joins c .agent (some d) token ++ [.task c (.insert d)]

/-- Controller `k` asks for a session and waits. -/
def requests (k : ConnId) (d : DeviceId) (sessionId : SessionId) (token : String) : List Act :=
  joins k .controller none token ++
    [.task k (.recv (.openRequest d sessionId)), .task k .lookup, .task k .register,
      .task k .enqueue]

/-- The agent's session `c` attaches and hands its stream over. -/
def attaches (c : ConnId) (d : DeviceId) (sessionId : SessionId) (token : String) : List Act :=
  joins c .agentSession (some d) token ++
    [.task c (.recv (.sessionAttach sessionId)), .task c .lookup, .task c .take,
      .task c (.send (.sessionAccepted sessionId)), .task c (.recv (.ready sessionId)),
      .task c .respond]

/-- The reader of control connection `c` fails, the loop ends and joins its tasks. -/
def leaves (c : ConnId) : List Act :=
  [.task c (.control .readError), .task c (.control .readerDone), .task c (.control .joinReader),
    .task c (.control .joinWriter)]

def deviceToken : String := "device-token-0123456789abcdef012345"
def controllerToken : String := "controller-token-0123456789abcdef0"

/-- One device, `desk`. -/
def oneDevice : AuthSnapshot :=
  { controllerToken, deviceTokens := (∅ : HashMap String String).insert "desk" deviceToken }

def plainSettings : Settings := ⟨30, fun _ => true⟩

/-- Connection 0 registers `desk`, controller 1 asks for session `s` and is bridged to
the stream of connection 2. -/
def bridgedSession : List Act :=
  registers 0 "desk" deviceToken ++ requests 1 "desk" "s" controllerToken ++
    [.task 0 (.control (.openRequest "s")), .task 0 (.control .forward)] ++
    attaches 2 "desk" "s" deviceToken ++
    [.task 1 .receive, .task 1 (.send (.ready "s")), .task 1 (.bridge 2)]

/-- Where `bridgedSession` ends. -/
def bridged : Relay :=
  (exec (step plainSettings) (Relay.start oneDevice) bridgedSession).get (by decide)

theorem bridgedSession_run : Run plainSettings oneDevice bridgedSession bridged :=
  (Option.some_get _).symm

end RustSsh.Server
