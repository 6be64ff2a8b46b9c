/-
# Session.Handover -- from control frames to the bridged bytes

One session: the agent's data connection, the client's connection and the relay
between them.  Each of the four ends runs its program, translated from the function
named at it; the relay's end of the agent's stream, with whatever it has decrypted and
not returned, goes from `handle_agent_session` through the oneshot to
`handle_controller`, which copies both ways.

The refusals of these functions (an unknown device, a session nobody waits for, a local
target that cannot be reached, every deadline) end in a task that returned: the run just
does not go on there.  A session that is bridged took none of them.
-/
import RustSsh.Session.Connection
import RustSsh.Server.Step

namespace RustSsh.Session

open RustSsh.Theory RustSsh.Protocol RustSsh.Noise RustSsh.Server

set_option autoImplicit false

/-! ## The programs -/

/-- `handle_connection`, for a connection whose `Hello` names this role; `handler` is the
rest.  Another role leads to a handler that has no part in the session. -/
def handleConnection (auth : AuthSnapshot) (role : Role) (handler : Program) : Program :=
  .receive fun
    | .hello version role' token deviceId features =>
        if version = protocolVersion ∧ role' = role then
          match authenticate role' deviceId token auth with
          | .ok _ => .send (helloOkFor (features.any (· == heartbeatFeature))) handler
          | .error _ => .refuse
        else .refuse
    | _ => .refuse

/-- `handle_agent_session`; at its end the stream is sent to the controller's handler. -/
def handleAgentSession : Program :=
  .receive fun
    | .sessionAttach sessionId =>
        .send (.sessionAccepted sessionId) (.receive fun
          | .ready id => if id = sessionId then .bridge else .refuse
          | _ => .refuse)
    | _ => .refuse

/-- `handle_controller`; `await` is its wait for the agent's stream. -/
def handleController : Program :=
  .receive fun
    | .openRequest _ sessionId => .await (.send (.ready sessionId) .bridge)
    | _ => .refuse

/-- `run_session` of the agent; `connected` is the result of connecting to the local target. -/
def runSession (connected : Except String Unit) (token deviceId sessionId : String) : Program :=
  .send (.hello protocolVersion .agentSession token (some deviceId) []) (.receive fun
    | .helloOk _ =>
        .send (.sessionAttach sessionId) (.receive fun
          | .sessionAccepted id =>
              if id = sessionId then
                match connected with
                | .ok () => .send (.ready sessionId) .bridge
                | .error error =>
                    .send (.failed sessionId s!"cannot connect to local SSH target: {error}") .refuse
              else .refuse
          | _ => .refuse)
    | _ => .refuse)

/-- `run` of `src/connect.rs`.  This client copies only behind `Ready`; one that sends
data right behind its request is allowed as well. -/
def runClient (token target sessionId : String) : Program :=
  .send (.hello protocolVersion .controller token none []) (.receive fun
    | .helloOk _ =>
        .send (.openRequest target sessionId) (.talk (.receive fun
          | .ready id => if id = sessionId then .bridge else .refuse
          | _ => .refuse))
    | _ => .refuse)

/-! ### Their frames -/

theorem handleConnection_counts {auth : AuthSnapshot} {role : Role} {handler : Program}
    {sends receives : Nat} (later : handler.Counts sends receives) :
    (handleConnection auth role handler).Counts (sends + 1) (receives + 1) := by
  refine .receive fun m => ?_
  cases m with
  | hello version role' token deviceId features =>
      simp only
      split
      · split
        · exact .send later
        · exact .refuse _ _
      · exact .refuse _ _
  | _ => exact .refuse _ _

theorem handleAgentSession_counts : handleAgentSession.Counts 1 2 := by
  refine .receive fun m => ?_
  cases m with
  | sessionAttach sessionId =>
      refine .send (.receive fun m => ?_)
      cases m with
      | ready id =>
          simp only
          split
          · exact .bridge
          · exact .refuse _ _
      | _ => exact .refuse _ _
  | _ => exact .refuse _ _

theorem handleController_counts : handleController.Counts 1 1 := by
  refine .receive fun m => ?_
  cases m with
  | openRequest target sessionId => exact .await (.send .bridge)
  | _ => exact .refuse _ _

theorem runSession_counts (connected : Except String Unit) (token deviceId sessionId : String) :
    (runSession connected token deviceId sessionId).Counts 3 2 := by
  refine .send (.receive fun m => ?_)
  cases m with
  | helloOk features =>
      refine .send (.receive fun m => ?_)
      cases m with
      | sessionAccepted id =>
          simp only
          split
          · cases connected with
            | ok reached => exact .send .bridge
            | error error => exact .send (.refuse _ _)
          · exact .refuse _ _
      | _ => exact .refuse _ _
  | _ => exact .refuse _ _

theorem runClient_counts (token target sessionId : String) :
    (runClient token target sessionId).Counts 2 2 := by
  refine .send (.receive fun m => ?_)
  cases m with
  | helloOk features =>
      refine .send (.talk (.receive fun m => ?_))
      cases m with
      | ready id =>
          simp only
          split
          · exact .bridge
          · exact .refuse _ _
      | _ => exact .refuse _ _
  | _ => exact .refuse _ _

/-! ## The session -/

/-- Which task owns the relay's end of the agent's stream. -/
inductive Custody where
  /-- `handle_agent_session` -/
  | session
  /-- sent through the oneshot, not received -/
  | oneshot
  /-- `handle_controller` -/
  | controller
  deriving DecidableEq, Repr

structure Handover (S R : Type) where
  agent : Connection S R
  client : Connection S R
  custody : Custody

/-- What the session is set up with. -/
structure Setup (S R : Type) where
  cipher : Cipher S R
  codec : Codec
  auth : AuthSnapshot
  deviceToken : String
  deviceId : String
  /-- whether the agent reaches its local target -/
  connected : Except String Unit
  controllerToken : String
  target : String
  sessionId : String
  /-- the cipher states the Noise handshakes of the two connections left -/
  agentKeys : Side → S × R
  clientKeys : Side → S × R

inductive Act where
  | agent (op : Op)
  /-- on the relay's end of the agent's stream, by the task that owns it -/
  | session (op : Op)
  /-- on the relay's end of the client's stream -/
  | controller (op : Op)
  | client (op : Op)
  /-- `response_tx.send(Ok((stream, permit)))` -/
  | handOver
  /-- `response_rx.await` returned the stream -/
  | receiveStream
  /-- the bridge reads the agent's stream and has the bytes to write to the client's -/
  | down (size : Nat) (answers : List Arrival)
  | up (size : Nat) (answers : List Arrival)
  deriving DecidableEq, Repr

namespace Handover

variable {S R : Type}

def start (setup : Setup S R) : Handover S R :=
  { agent := .start (fun side => (setup.agentKeys side).1)
      (fun side => (setup.agentKeys side.other).2)
      fun
        | .peer => runSession setup.connected setup.deviceToken setup.deviceId setup.sessionId
        | .relay => handleConnection setup.auth .agentSession handleAgentSession
    client := .start (fun side => (setup.clientKeys side).1)
      (fun side => (setup.clientKeys side.other).2)
      fun
        | .peer => runClient setup.controllerToken setup.target setup.sessionId
        | .relay => handleConnection setup.auth .controller handleController
    custody := .session }

/-- `copy_bidirectional`, from one stream to the other: the bytes read are the next to be
written. -/
def copy (setup : Setup S R) (source target : Connection S R) (size : Nat)
    (answers : List Arrival) : Option (Connection S R × Connection S R) :=
  match source.step setup.cipher setup.codec .relay (.readRaw size answers),
    target.step setup.cipher setup.codec .relay
      (.produce (source.polled setup.cipher .relay size answers).bytes) with
  | some source', some target' => some (source', target')
  | _, _ => none

def step (setup : Setup S R) (s : Handover S R) : Act → Option (Handover S R)
  | .agent op =>
      (s.agent.step setup.cipher setup.codec .peer op).map fun agent => { s with agent }
  | .client op =>
      (s.client.step setup.cipher setup.codec .peer op).map fun client => { s with client }
  | .session op =>
      if op.establishes then
        (s.agent.step setup.cipher setup.codec .relay op).map fun agent => { s with agent }
      else none
  | .controller op =>
      if op.establishes then
        (s.client.step setup.cipher setup.codec .relay op).map fun client => { s with client }
      else none
  | .handOver =>
      if s.custody = .session ∧ (s.agent.ends .relay).program.isBridge then
        some { s with custody := .oneshot }
      else none
  | .receiveStream =>
      if s.custody = .oneshot then
        (s.client.step setup.cipher setup.codec .relay .await).map fun client =>
          { s with client, custody := .controller }
      else none
  | .down size answers =>
      if s.custody = .controller then
        (copy setup s.agent s.client size answers).map fun moved =>
          { s with agent := moved.1, client := moved.2 }
      else none
  | .up size answers =>
      if s.custody = .controller then
        (copy setup s.client s.agent size answers).map fun moved =>
          { s with client := moved.1, agent := moved.2 }
      else none

/-! ## The invariant -/

def agentSends : Side → Nat
  | .peer => 3
  | .relay => 2

def clientSends : Side → Nat
  | .peer => 2
  | .relay => 2

/-- Both connections are sound, and the bridge writes to one what it read from the other. -/
structure Sound (setup : Setup S R) (s : Handover S R) : Prop where
  agent : Connection.Sound setup.cipher (fun side => (setup.agentKeys side).1)
    (fun side => (setup.agentKeys side.other).2) agentSends s.agent
  client : Connection.Sound setup.cipher (fun side => (setup.clientKeys side).1)
    (fun side => (setup.clientKeys side.other).2) clientSends s.client
  down : (s.client.ends .relay).data = (s.agent.ends .relay).raw
  up : (s.agent.ends .relay).data = (s.client.ends .relay).raw

theorem sound_start (setup : Setup S R) : Sound setup (start setup) := by
  refine ⟨Connection.sound_start fun side => ?_, Connection.sound_start fun side => ?_, rfl, rfl⟩
  · cases side with
    | peer => exact runSession_counts ..
    | relay => exact handleConnection_counts handleAgentSession_counts
  · cases side with
    | peer => exact runClient_counts ..
    | relay => exact handleConnection_counts handleController_counts

variable {setup : Setup S R}

/-- The keys of both directions of both connections fit. -/
structure Keyed (setup : Setup S R) : Prop where
  agent : ∀ side, setup.cipher.Inverts (setup.agentKeys side).1 (setup.agentKeys side.other).2
  client : ∀ side, setup.cipher.Inverts (setup.clientKeys side).1 (setup.clientKeys side.other).2

/-- Copying moves the bytes read behind those written before, and only these. -/
theorem copy_ends {source target source' target' : Connection S R} {size : Nat}
    {answers : List Arrival} (taken : copy setup source target size answers = some (source', target')) :
    source.step setup.cipher setup.codec .relay (.readRaw size answers) = some source' ∧
      target.step setup.cipher setup.codec .relay
        (.produce (source.polled setup.cipher .relay size answers).bytes) = some target' ∧
      (source'.ends .relay).raw =
        (source.ends .relay).raw ++ (source.polled setup.cipher .relay size answers).bytes ∧
      (source'.ends .relay).data = (source.ends .relay).data ∧
      (target'.ends .relay).data =
        (target.ends .relay).data ++ (source.polled setup.cipher .relay size answers).bytes ∧
      (target'.ends .relay).raw = (target.ends .relay).raw := by
  unfold copy at taken
  split at taken
  · rename_i one other reads writes
    cases taken
    refine ⟨reads, writes, ?_⟩
    simp only [Connection.step] at reads writes
    split at reads
    · split at writes
      · cases reads
        cases writes
        simp [Connection.setEnd]
      · cases writes
    · cases reads
  · cases taken

theorem Sound.step (keyed : Keyed setup) {s s' : Handover S R} {act : Act} (sound : Sound setup s)
    (taken : s.step setup act = some s') : Sound setup s' := by
  obtain ⟨agent, client, down, up⟩ := sound
  cases act with
  | agent op =>
      obtain ⟨next, took, rfl⟩ := Option.map_eq_some_iff.mp taken
      have same : next.ends .relay = s.agent.ends .relay := Connection.step_other took
      exact ⟨agent.step keyed.agent took, client, by rw [same]; exact down, by rw [same]; exact up⟩
  | client op =>
      obtain ⟨next, took, rfl⟩ := Option.map_eq_some_iff.mp taken
      have same : next.ends .relay = s.client.ends .relay := Connection.step_other took
      exact ⟨agent, client.step keyed.client took, by rw [same]; exact down, by rw [same]; exact up⟩
  | session op =>
      simp only [Handover.step] at taken
      split at taken
      · rename_i establishes
        obtain ⟨next, took, rfl⟩ := Option.map_eq_some_iff.mp taken
        obtain ⟨raw, data⟩ := Connection.step_establishes establishes took
        exact ⟨agent.step keyed.agent took, client, by rw [raw]; exact down, by rw [data]; exact up⟩
      · cases taken
  | controller op =>
      simp only [Handover.step] at taken
      split at taken
      · rename_i establishes
        obtain ⟨next, took, rfl⟩ := Option.map_eq_some_iff.mp taken
        obtain ⟨raw, data⟩ := Connection.step_establishes establishes took
        exact ⟨agent, client.step keyed.client took, by rw [data]; exact down, by rw [raw]; exact up⟩
      · cases taken
  | handOver =>
      simp only [Handover.step] at taken
      split at taken
      · cases taken
        exact ⟨agent, client, down, up⟩
      · cases taken
  | receiveStream =>
      simp only [Handover.step] at taken
      split at taken
      · obtain ⟨next, took, rfl⟩ := Option.map_eq_some_iff.mp taken
        obtain ⟨raw, data⟩ := Connection.step_await took
        exact ⟨agent, client.step keyed.client took, by rw [data]; exact down, by rw [raw]; exact up⟩
      · cases taken
  | down size answers =>
      simp only [Handover.step] at taken
      split at taken
      · obtain ⟨⟨agent', client'⟩, moved, rfl⟩ := Option.map_eq_some_iff.mp taken
        obtain ⟨reads, writes, raw, data, data', raw'⟩ := copy_ends moved
        exact ⟨agent.step keyed.agent reads, client.step keyed.client writes,
          by rw [data', raw, down], by rw [data, raw', up]⟩
      · cases taken
  | up size answers =>
      simp only [Handover.step] at taken
      split at taken
      · obtain ⟨⟨client', agent'⟩, moved, rfl⟩ := Option.map_eq_some_iff.mp taken
        obtain ⟨reads, writes, raw, data, data', raw'⟩ := copy_ends moved
        exact ⟨agent.step keyed.agent writes, client.step keyed.client reads,
          by rw [data, raw', down], by rw [data', raw, up]⟩
      · cases taken

/-! ## Nothing is lost -/

/-- The data an end wrote behind its frames, as far as `poll_write` took it. -/
def written (c : Connection S R) (side : Side) : Bytes :=
  ((c.links side).reported ++ (c.links side).chunk).drop (frames (c.ends side).sent).length

/-- What the two outer ends of a session may rely on. -/
structure Lossless (s : Handover S R) : Prop where
  /-- what the client reads behind its `Ready` -/
  down : (s.client.ends .peer).raw <+: (s.agent.ends .peer).data ∧
    ((s.agent.ends .peer).closed = false → (s.client.ends .peer).raw <+: written s.agent .peer)
  /-- what the agent reads behind `SessionAccepted` -/
  up : (s.agent.ends .peer).raw <+: (s.client.ends .peer).data ∧
    ((s.client.ends .peer).closed = false → (s.agent.ends .peer).raw <+: written s.client .peer)
  /-- on each stream the frames are read as they were sent, and the data is behind them -/
  frames : ∀ side, s.agent.Ordered side ∧ s.client.Ordered side

/-- **The handover from control frames to data loses nothing**, however the frames and
the bytes behind them are cut into Noise frames and segments. -/
theorem handover_lossless (keyed : Keyed setup) {acts : List Act} {s : Handover S R}
    (run : exec (step setup) (start setup) acts = some s) : Lossless s := by
  have sound : Sound setup s :=
    Reached.invariant ⟨acts, run⟩ (sound_start setup) fun _ _ _ holds taken => holds.step keyed taken
  have toClient := sound.client.ordered .peer
  have toAgent := sound.agent.ordered .peer
  have fromAgent := sound.agent.ordered .relay
  have fromClient := sound.client.ordered .relay
  have down : (s.client.ends .peer).raw <+: (s.agent.ends .relay).raw := by
    rw [← sound.down]
    exact toClient.raw
  have up : (s.agent.ends .peer).raw <+: (s.client.ends .relay).raw := by
    rw [← sound.up]
    exact toAgent.raw
  exact ⟨⟨down.trans fromAgent.raw, fun writable => down.trans (fromAgent.written writable)⟩,
    ⟨up.trans fromClient.raw, fun writable => up.trans (fromClient.written writable)⟩,
    fun side => ⟨sound.agent.ordered side, sound.client.ordered side⟩⟩

end Handover

/-! ## A session to run -/

/-- The JSON text of the messages of a session; their strings need no escapes. -/
def json : Message → String
  | .hello version role token deviceId _ =>
      "\x7b\"type\":\"hello\",\"version\":" ++ toString version.toNat ++ ",\"role\":\"" ++
        (match role with
          | .agent => "agent"
          | .agentSession => "agent_session"
          | .controller => "controller") ++
        "\",\"token\":\"" ++ token ++ "\",\"device_id\":" ++
        (match deviceId with | some d => "\"" ++ d ++ "\"" | none => "null") ++ "\x7d"
  | .helloOk _ => "\x7b\"type\":\"hello_ok\"\x7d"
  | .sessionAttach id => "\x7b\"type\":\"session_attach\",\"session_id\":\"" ++ id ++ "\"\x7d"
  | .sessionAccepted id => "\x7b\"type\":\"session_accepted\",\"session_id\":\"" ++ id ++ "\"\x7d"
  | .openRequest target id =>
      "\x7b\"type\":\"open_request\",\"target\":\"" ++ target ++ "\",\"session_id\":\"" ++ id ++ "\"\x7d"
  | .ready id => "\x7b\"type\":\"ready\",\"session_id\":\"" ++ id ++ "\"\x7d"
  | _ => ""

def sessionMessages : List Message :=
  [.hello protocolVersion .agentSession deviceToken (some "desk") [],
   .hello protocolVersion .controller controllerToken none [], .helloOk [], .sessionAttach "s",
   .sessionAccepted "s", .openRequest "desk" "s", .ready "s"]

def sessionCodec : Codec where
  encode m := utf8 (json m)
  decode payload := sessionMessages.find? fun m => utf8 (json m) = payload

def sessionSetup : Setup Nat Nat :=
  { cipher := counterCipher, codec := sessionCodec, auth := oneDevice, deviceToken, deviceId := "desk",
    connected := .ok (), controllerToken, target := "desk", sessionId := "s",
    agentKeys := fun _ => (0, 0), clientKeys := fun _ => (0, 0) }

namespace Handover

/-- The end writes all it has, in one chunk. -/
def writeAll (c : Connection Nat Nat) (side : Side) : Op :=
  let size := (c.ends side).outgoing.length - (c.links side).reported.length
  .write size [.done (4 + size + noiseTagSize)]

/-- What is on the wire arrives in one segment. -/
def arrived (c : Connection Nat Nat) (side : Side) : List Arrival :=
  [.ready (c.links side.other).wire]

def agentSays : List (Handover Nat Nat → Act) :=
  [fun s => .agent (writeAll s.agent .peer), fun s => .session (.readFrame (arrived s.agent .relay)),
   fun _ => .session (.readFrame [])]

def sessionSays : List (Handover Nat Nat → Act) :=
  [fun _ => .session .send, fun s => .session (writeAll s.agent .relay),
   fun s => .agent (.readFrame (arrived s.agent .peer)), fun _ => .agent (.readFrame [])]

def clientSays : List (Handover Nat Nat → Act) :=
  [fun s => .client (writeAll s.client .peer), fun s => .controller (.readFrame (arrived s.client .relay)),
   fun _ => .controller (.readFrame [])]

def controllerSays : List (Handover Nat Nat → Act) :=
  [fun s => .controller (writeAll s.client .relay), fun s => .client (.readFrame (arrived s.client .peer)),
   fun _ => .client (.readFrame [])]

/-- Both `Ready` frames and the request share a Noise frame with data. -/
def sharedFrames : List (Handover Nat Nat → Act) :=
  [fun _ => .agent .send] ++ agentSays ++ sessionSays ++ [fun _ => .agent .send] ++ agentSays ++
    sessionSays ++ [fun _ => .agent .send, fun _ => .agent (.produce [1, 2, 3])] ++ agentSays ++
    [fun _ => .handOver, fun _ => .client .send] ++ clientSays ++ [fun _ => .controller .send] ++
    controllerSays ++
    [fun _ => .client .send, fun _ => .client .talk, fun _ => .client (.produce [7, 8])] ++
    clientSays ++
    [fun _ => .receiveStream, fun _ => .controller .send, fun _ => .down 2 []] ++ controllerSays ++
    [fun _ => .client (.readRaw 8 []), fun _ => .up 8 [], fun s => .session (writeAll s.agent .relay),
     fun s => .agent (.readRaw 8 (arrived s.agent .peer))]

def sharedActs : List Act := drive (step sessionSetup) (start sessionSetup) sharedFrames

theorem sharedActs_reads :
    (exec (step sessionSetup) (start sessionSetup) sharedActs).map (fun s =>
      ((s.client.ends .peer).raw, (s.agent.ends .peer).raw)) = some ([1, 2], [7, 8]) := by
  decide +kernel

theorem sessionSetup_keyed : Keyed sessionSetup :=
  ⟨fun _ => counterCipher_inverts 0, fun _ => counterCipher_inverts 0⟩

theorem handover_lossless_shared :
    ∃ s, exec (step sessionSetup) (start sessionSetup) sharedActs = some s ∧ Lossless s ∧
      (s.client.ends .peer).raw = [1, 2] ∧ (s.agent.ends .peer).raw = [7, 8] := by
  obtain ⟨s, run, reads⟩ := Option.map_eq_some_iff.mp sharedActs_reads
  obtain ⟨down, up⟩ := Prod.mk.inj reads
  exact ⟨s, run, handover_lossless sessionSetup_keyed run, down, up⟩

end Handover

end RustSsh.Session
