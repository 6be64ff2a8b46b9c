/-
# Agent.Heartbeat -- the heartbeat between endpoints of any two versions

`run_control` asks for the heartbeat and `run_control_stream` uses it only if the relay's
`HelloOk` granted it; the data connections never ask and never send one.  An endpoint of
an earlier version is a peer that lists nothing, so what the two halves do against any
peer (`RelaySide`, `AgentSide`) is what they do in all pairings of versions.
-/
import RustSsh.Agent.Supervisor
import RustSsh.Server.Heartbeat
import RustSsh.Session.Handover

namespace RustSsh.Agent

open RustSsh.Theory RustSsh.Protocol
open RustSsh.Session (Program)

set_option autoImplicit false

/-- The `Hello` of `run_control`. -/
def controlHello (token deviceId : String) : Message :=
  .hello protocolVersion .agent token (some deviceId) [heartbeatFeature]

/-- The step begins or ends a `Ping`, or finds that the relay does not answer. -/
def ControlEvent.beats : ControlEvent → Bool
  | .ping => true
  | .pinged => true
  | .pingFailed => true
  | .heartbeatDead => true
  | _ => false

namespace Event

def beats : Event → Bool
  | .control e => e.beats
  | .former _ e => e.beats
  | _ => false

/-- The features of the `HelloOk` that was read. -/
def granted : Event → Option (List String)
  | .answered (.helloOk features) => some features
  | _ => none

end Event

/-- The features of the last `HelloOk` of a run, that of the connection in progress. -/
def granted (acts : List Event) : Option (List String) := (acts.filterMap Event.granted).getLast?

namespace Control

/-- The loop uses the heartbeat only if it was granted, and is pinging only then. -/
def Beats (c : Control) (granted : Bool) : Prop :=
  c.heartbeat = granted ∧ (c.point = .pinging → granted = true)

theorem beats_step {c c' : Control} {e : ControlEvent} {granted : Bool} (beats : c.Beats granted)
    (taken : c.step e = some c') : c'.Beats granted ∧ (e.beats = true → granted = true) := by
  obtain ⟨on, pinging⟩ := beats
  cases e <;> simp only [step] at taken <;> (repeat' split at taken) <;> cases taken <;>
    simp_all [Beats, leave, ControlEvent.beats]

/-- In the loop the heartbeat's branches are there exactly if it was granted. -/
theorem beats_isSome {c : Control} {granted : Bool} (beats : c.Beats granted)
    (here : c.point = .select) :
    (c.step .ping).isSome = granted ∧ (c.step .heartbeatDead).isSome = granted := by
  obtain ⟨on, -⟩ := beats
  cases granted <;> simp [step, here, on]

end Control

namespace Supervisor

variable {target : Except String Unit} {acts : List Event} {s s' : Supervisor}

theorem granted_snoc (acts : List Event) (e : Event) :
    granted (acts ++ [e]) = (e.granted.orElse fun _ => granted acts) := by
  unfold granted
  rw [List.filterMap_append]
  cases new : e.granted <;> simp [new]

/-- The loop in progress goes by the last `HelloOk`. -/
def Beats (acts : List Event) (s : Supervisor) : Prop :=
  ∀ c, s.phase = .control c → ∃ features, granted acts = some features ∧
    c.Beats (features.contains heartbeatFeature)

theorem beats_step {e : Event} (beats : Beats acts s) (taken : s.step e = some s') :
    Beats (acts ++ [e]) s' ∧ (e.beats = true →
      ∃ features, granted acts = some features ∧ features.contains heartbeatFeature = true) := by
  have outside (after : ∀ c, s'.phase ≠ .control c) (silent : e.beats = false) :
      Beats (acts ++ [e]) s' ∧ (e.beats = true →
        ∃ features, granted acts = some features ∧
          features.contains heartbeatFeature = true) :=
    ⟨fun c here => absurd here (after c), fun loud => by rw [silent] at loud; cases loud⟩
  have same (phase : s'.phase = s.phase) (old : e.granted = none) (silent : e.beats = false) :
      Beats (acts ++ [e]) s' ∧ (e.beats = true →
        ∃ features, granted acts = some features ∧
          features.contains heartbeatFeature = true) := by
    refine ⟨?_, fun loud => by rw [silent] at loud; cases loud⟩
    intro c here
    rw [granted_snoc, old]
    exact beats c (phase ▸ here)
  cases step_rule taken with
  | loops c c' e here own next =>
      obtain ⟨features, last, loop⟩ := beats c here
      obtain ⟨loop', loud⟩ := Control.beats_step loop next
      refine ⟨?_, fun beats => ⟨features, last, loud beats⟩⟩
      intro other after
      cases after
      rw [granted_snoc]
      exact ⟨features, last, loop'⟩
  | leaves c c' e here own next =>
      obtain ⟨features, last, loop⟩ := beats c here
      refine ⟨?_, fun beats => ⟨features, last, (Control.beats_step loop next).2 beats⟩⟩
      intro other after
      cases after
  | welcomed features =>
      refine ⟨?_, by simp [Event.beats]⟩
      intro c here
      cases here
      refine ⟨features, by simp [granted_snoc, Event.granted], rfl, ?_⟩
      intro pinging
      cases pinging
  | former index e f control here own =>
      refine same rfl rfl ?_
      cases e <;> first | rfl | cases own
  | dropsReader | sessionEnds | join => exact same rfl rfl rfl
  | connected | greeted | refused | failed | retry | drops | stops | returns =>
      exact outside (by simp [retryLater, Supervisor.stop]) rfl

theorem run_beats (run : exec step (start target) acts = some s) : Beats acts s := by
  refine exec_induction (P := Beats) ?_ ?_ acts s run
  · intro c here
    cases target <;> cases here
  · intro acts s e s' _ beats taken
    exact (beats_step beats taken).1

end Supervisor

/-! ## The data connections -/

/-- A message the program may write, whatever it reads. -/
inductive MayWrite : Program → Message → Prop where
  | now (m : Message) (next : Program) : MayWrite (.send m next) m
  | later {m m' : Message} {next : Program} (writes : MayWrite next m) : MayWrite (.send m' next) m
  | receive {m : Message} {next : Message → Program} (read : Message)
      (writes : MayWrite (next read) m) : MayWrite (.receive next) m
  | await {m : Message} {next : Program} (writes : MayWrite next m) : MayWrite (.await next) m
  | talk {m : Message} {next : Program} (writes : MayWrite next m) : MayWrite (.talk next) m

/-- `list_devices` of `src/connect.rs`. -/
def listDevices (token : String) : Program :=
  .send (.hello protocolVersion .controller token none []) (.receive fun
    | .helloOk _ => .send .listRequest (.receive fun _ => .refuse)
    | _ => .refuse)

/-- The program never writes a heartbeat. -/
def Silent (program : Program) : Prop :=
  ∀ m, MayWrite program m → m ≠ .ping ∧ m ≠ .pong

theorem silent_refuse : Silent .refuse := by
  intro m writes
  cases writes

theorem silent_bridge : Silent .bridge := by
  intro m writes
  cases writes

theorem Silent.send {m : Message} {next : Program} (plain : m ≠ .ping ∧ m ≠ .pong)
    (later : Silent next) : Silent (.send m next) := by
  intro m' writes
  cases writes with
  | now => exact plain
  | later writes => exact later m' writes

theorem Silent.receive {next : Message → Program} (later : ∀ m, Silent (next m)) :
    Silent (.receive next) := by
  intro m writes
  cases writes with
  | receive read writes => exact later read m writes

theorem Silent.talk {next : Program} (later : Silent next) : Silent (.talk next) := by
  intro m writes
  cases writes with
  | talk writes => exact later m writes

theorem runSession_silent (connected : Except String Unit) (token deviceId sessionId : String) :
    Silent (Session.runSession connected token deviceId sessionId) := by
  refine Silent.send (by simp) (Silent.receive fun m => ?_)
  cases m with
  | helloOk features =>
      refine Silent.send (by simp) (Silent.receive fun m => ?_)
      cases m with
      | sessionAccepted id =>
          simp only
          split
          · cases connected with
            | ok reached => exact Silent.send (by simp) silent_bridge
            | error error => exact Silent.send (by simp) silent_refuse
          · exact silent_refuse
      | _ => exact silent_refuse
  | _ => exact silent_refuse

theorem runClient_silent (token target sessionId : String) :
    Silent (Session.runClient token target sessionId) := by
  refine Silent.send (by simp) (Silent.receive fun m => ?_)
  cases m with
  | helloOk features =>
      refine Silent.send (by simp) (Silent.talk (Silent.receive fun m => ?_))
      cases m with
      | ready id =>
          simp only
          split
          · exact silent_bridge
          · exact silent_refuse
      | _ => exact silent_refuse
  | _ => exact silent_refuse

theorem listDevices_silent (token : String) : Silent (listDevices token) := by
  refine Silent.send (by simp) (Silent.receive fun m => ?_)
  cases m with
  | helloOk features => exact Silent.send (by simp) (Silent.receive fun _ => silent_refuse)
  | _ => exact silent_refuse

/-! ## The result -/

section Result

open RustSsh.Server (Settings AuthSnapshot Act Relay ConnId Greeted listed sent received)

/-- What the relay keeps to on connection `c`, against any peer. -/
structure RelaySide (cfg : Settings) (acts : List Act) (s : Relay) (c : ConnId) : Prop where
  /-- the `HelloOk` carries the heartbeat exactly if the `Hello` listed it -/
  helloOk : ∀ role features features', Greeted acts c role features →
    .helloOk features' ∈ sent c acts → features' = if listed features then [heartbeatFeature] else []
  dead : ∀ role features, Greeted acts c role features → listed features = false →
    Act.task c (.control .heartbeatDead) ∉ acts
  /-- at any time no more `Pong`s were written than `Ping`s received -/
  answered : ∀ pre, pre <+: acts → (sent c pre).count .pong ≤ (received c pre).count .ping
  /-- the loop has its death branch exactly if the `Hello` listed the heartbeat -/
  enabled : ∀ d heartbeat control, (s.task c).phase = .agent d heartbeat (.running control) →
    ∃ features, Greeted acts c .agent features ∧ (control.point = .select →
      (Server.step cfg s (.task c (.control .heartbeatDead))).isSome = listed features)
  /-- only a control connection is written heartbeats -/
  silent : ∀ role features, Greeted acts c role features → role ≠ .agent →
    .ping ∉ sent c acts ∧ .pong ∉ sent c acts

/-- What the agent keeps to on its control connections, against any peer. -/
structure AgentSide (acts : List Event) (s : Supervisor) : Prop where
  /-- it pings and looks for a dead peer only if the `HelloOk` listed the heartbeat -/
  silent : ∀ pre e post, acts = pre ++ e :: post → e.beats = true →
    ∃ features, granted pre = some features ∧ features.contains heartbeatFeature = true
  /-- the loop has these branches exactly then -/
  enabled : ∀ control features, s.phase = .control control → granted acts = some features →
    control.point = .select →
      (s.step (.control .ping)).isSome = features.contains heartbeatFeature ∧
        (s.step (.control .heartbeatDead)).isSome = features.contains heartbeatFeature

theorem relaySide {cfg : Settings} {auth : AuthSnapshot} {acts : List Act} {s : Relay}
    (run : Server.Run cfg auth acts s) (c : ConnId) : RelaySide cfg acts s c where
  helloOk role features features' greeted written := by
    obtain ⟨role', known, first, same⟩ :=
      (Server.run_negotiated run c).1.helloOk features' written
    rw [(greeted.unique first).2]
    exact Message.helloOk.inj same
  dead role features greeted off taken := by
    obtain ⟨known, first, on⟩ := (Server.run_negotiated run c).1.dead taken
    rw [(greeted.unique first).2, on] at off
    cases off
  answered pre inside := by
    obtain ⟨rest, rfl⟩ := inside
    obtain ⟨mid, before, -⟩ := exec_prefix run
    exact (Server.run_negotiated before c).1.answered
  enabled d heartbeat control here := by
    have knows := (Server.run_negotiated run c).2
    rw [here] at knows
    obtain ⟨⟨features, greeted, same⟩, on, -⟩ := knows
    refine ⟨features, greeted, ?_⟩
    intro point
    have branch := Server.Control.heartbeatDead_isSome point
    rw [on, same] at branch
    rw [← branch]
    simp only [Server.step, here, Server.agentStep, Server.controlAllowed]
    cases control.step .heartbeatDead <;> rfl
  silent role features greeted other := by
    have negotiated := (Server.run_negotiated run c).1
    refine ⟨negotiated.silent, ?_⟩
    intro written
    obtain ⟨known, first⟩ := negotiated.agents written
    exact other (greeted.unique first).1

theorem agentSide {target : Except String Unit} {acts : List Event} {s : Supervisor}
    (run : exec Supervisor.step (Supervisor.start target) acts = some s) : AgentSide acts s where
  silent pre e post split beats := by
    subst split
    obtain ⟨before, after, first, taken, -⟩ := exec_split run
    exact (Supervisor.beats_step (Supervisor.run_beats first) taken).2 beats
  enabled control features here last point := by
    obtain ⟨known, last', loop⟩ := Supervisor.run_beats run control here
    rw [last] at last'
    cases last'
    have branches := Control.beats_isSome loop point
    have step (e : ControlEvent) (own : e ≠ .sessionDone) (kept : e ≠ .drop) :
        (s.step (.control e)).isSome = (control.step e).isSome := by
      simp only [Supervisor.step, here, Supervisor.controlStep, own, kept, or_self, if_false]
      cases control.step e with
      | none => rfl
      | some control' =>
          simp only
          split <;> rfl
    rw [step .ping (by simp) (by simp), step .heartbeatDead (by simp) (by simp)]
    exact branches

/-- **The heartbeat is safe for peers that do not know it.**  The relay and the agent each
use it exactly if the other listed it, whatever else the peer does; this agent lists it
and takes this relay's answer for it, so between the two it is on; and the data
connections carry none. -/
theorem heartbeat_negotiation :
    (∀ cfg auth acts s c, Server.Run cfg auth acts s → RelaySide cfg acts s c) ∧
    (∀ target acts s, exec Supervisor.step (Supervisor.start target) acts = some s →
      AgentSide acts s) ∧
    (∀ cfg auth acts s c token deviceId rest, Server.Run cfg auth acts s →
      received c acts = controlHello token deviceId :: rest →
      (∀ features, .helloOk features ∈ sent c acts →
        features.contains heartbeatFeature = true) ∧
      ∀ d heartbeat control, (s.task c).phase = .agent d heartbeat (.running control) →
        control.point = .select →
          (Server.step cfg s (.task c (.control .heartbeatDead))).isSome = true) ∧
    (∀ connected token deviceId sessionId,
      Silent (Session.runSession connected token deviceId sessionId)) ∧
    (∀ token target sessionId, Silent (Session.runClient token target sessionId)) ∧
    ∀ token, Silent (listDevices token) := by
  refine ⟨fun _ _ _ _ c run => relaySide run c, fun _ _ _ run => agentSide run, ?_,
    runSession_silent, runClient_silent, listDevices_silent⟩
  intro cfg auth acts s c token deviceId rest run first
  have side := relaySide run c
  have greeted : Greeted acts c .agent [heartbeatFeature] :=
    ⟨protocolVersion, token, some deviceId, rest, first⟩
  have on : listed [heartbeatFeature] = true := by decide
  constructor
  · intro features written
    rw [side.helloOk _ _ _ greeted written, on]
    decide
  · intro d heartbeat control here point
    obtain ⟨features, known, branch⟩ := side.enabled d heartbeat control here
    rw [branch point, ← (greeted.unique known).2]
    exact on

/-- An agent of an earlier version: no frame of its connection carried the heartbeat. -/
theorem heartbeat_negotiation_bridged :
    Greeted Server.bridgedSession 0 .agent [] ∧
      RelaySide Server.plainSettings Server.bridgedSession Server.bridged 0 :=
  ⟨⟨protocolVersion, Server.deviceToken, some "desk", [], by decide⟩,
    heartbeat_negotiation.1 _ _ _ _ 0 Server.bridgedSession_run⟩

end Result

end RustSsh.Agent
