/-
# Server.Rules -- what one step of the relay can do

Every action `step` allows is one of the rules of `Rule` (`step_rule`), with its
guard and its exact effect, and the invariants of the relay are derived from the
rules alone.  Two of them stand for many program points: a `Moves` step only moves
its task on, a `Finishes` step only returns and drops what the task owns.  The
other rules are the operations on shared state, one each.
-/
import RustSsh.Server.Step

namespace RustSsh.Server

open RustSsh.Theory RustSsh.Protocol

set_option autoImplicit false

namespace Relay

theorem registerPending_eq {s registered : Relay} {g k : ConnId} {sessionId : SessionId}
    (ok : s.registerPending g sessionId k = some registered) :
    registered = s.setDevice g
        { s.device g with pending := (s.device g).pending.insert sessionId k } ∧
      (s.device g).pending.entries.length < maxPendingSessionsPerDevice ∧
      (s.device g).pending.lookup sessionId = none := by
  simp only [registerPending] at ok
  split at ok
  · cases ok
  · rename_i free
    simp only [not_or, not_le] at free
    exact ⟨(Option.some.inj ok).symm, free.1, AList.lookup_eq_none.mpr free.2⟩

end Relay

/-- What a read of a frame under a deadline ends with. -/
def Event.incoming : Event → Bool
  | .recv _ => true
  | .recvError _ => true
  | .timeout => true
  | _ => false

/-- The steps of task `c` that only move it on.  They may read the shared state. -/
inductive Moves (s : Relay) (c : ConnId) : Phase → Event → Phase → Prop where
  | handshake : Moves s c .handshake (.handshake true) .hello
  | hello (role : Role) (deviceId : Option String) (token : String) (features : List String) :
      Moves s c .hello (.recv (.hello protocolVersion role token deviceId features))
        (.authenticate role deviceId token features)
  | authenticate {role : Role} {deviceId : Option String} {token : String}
      {features : List String} (ok : authenticate role deviceId token s.auth = .ok ()) :
      Moves s c (.authenticate role deviceId token features) .authenticate
        (.helloOk role deviceId (features.any (· == heartbeatFeature)))
  | agent {d : DeviceId} {heartbeat : Bool} (valid : DeviceId.isValid d = true) :
      Moves s c (.helloOk .agent (some d) heartbeat) (.send (helloOkFor heartbeat))
        (.agent d heartbeat .insert)
  | session (d : DeviceId) (heartbeat : Bool) :
      Moves s c (.helloOk .agentSession (some d) heartbeat) (.send (helloOkFor heartbeat))
        (.session d .attach)
  | controller (deviceId : Option String) (heartbeat : Bool) :
      Moves s c (.helloOk .controller deviceId heartbeat) (.send (helloOkFor heartbeat))
        (.controller .request)
  | attach (d : DeviceId) (sessionId : SessionId) :
      Moves s c (.session d .attach) (.recv (.sessionAttach sessionId))
        (.session d (.lookup sessionId))
  | sessionOffline {d : DeviceId} {sessionId : SessionId} (absent : s.devices.lookup d = none) :
      Moves s c (.session d (.lookup sessionId)) .lookup
        (.session d (.reply (offline sessionId d)))
  | sessionDevice {d : DeviceId} {sessionId : SessionId} {g : ConnId}
      (found : s.devices.lookup d = some g) :
      Moves s c (.session d (.lookup sessionId)) .lookup (.session d (.take g sessionId))
  | notWaiting {d : DeviceId} {sessionId : SessionId} {g : ConnId}
      (absent : (s.device g).pending.lookup sessionId = none) :
      Moves s c (.session d (.take g sessionId)) .take
        (.session d (.reply (noLongerWaiting sessionId)))
  | accepted (d : DeviceId) (sessionId : SessionId) (k : ConnId) :
      Moves s c (.session d (.accept sessionId k)) (.send (.sessionAccepted sessionId))
        (.session d (.ready sessionId k))
  | notAccepted (d : DeviceId) (sessionId : SessionId) (k : ConnId) (error reason : String) :
      Moves s c (.session d (.accept sessionId k)) (.sendError error)
        (.session d (.respond k (some reason)))
  | ready (d : DeviceId) (sessionId : SessionId) (k : ConnId) :
      Moves s c (.session d (.ready sessionId k)) (.recv (.ready sessionId))
        (.session d (.respond k none))
  | notReady (d : DeviceId) (sessionId : SessionId) (k : ConnId) (reason : String) {e : Event}
      (incoming : e.incoming = true) :
      Moves s c (.session d (.ready sessionId k)) e (.session d (.respond k (some reason)))
  | listRequest : Moves s c (.controller .request) (.recv .listRequest) (.controller .list)
  | openRequest (target : DeviceId) (sessionId : SessionId) :
      Moves s c (.controller .request) (.recv (.openRequest target sessionId))
        (.controller (.lookup target sessionId))
  | list : Moves s c (.controller .list) .list (.controller (.reply (deviceListOf s.devices)))
  | targetOffline {target : DeviceId} {sessionId : SessionId}
      (absent : s.devices.lookup target = none) :
      Moves s c (.controller (.lookup target sessionId)) .lookup
        (.controller (.reply (offline sessionId target)))
  | targetDevice {target : DeviceId} {sessionId : SessionId} {g : ConnId}
      (found : s.devices.lookup target = some g) :
      Moves s c (.controller (.lookup target sessionId)) .lookup
        (.controller (.register g sessionId))
  | tooMany {g : ConnId} {sessionId : SessionId}
      (refused : s.registerPending g sessionId c = none) :
      Moves s c (.controller (.register g sessionId)) .register
        (.controller (.reply (tooManyPending sessionId)))
  | cancelled {g : ConnId} {sessionId : SessionId} {reason : String}
      (absent : (s.device g).pending.lookup sessionId = none) :
      Moves s c (.controller (.cancel g sessionId reason)) .cancel
        (.controller (.reply (.failed sessionId reason)))
  | expired {cfg : Settings} {g : ConnId} {sessionId : SessionId}
      (absent : (s.device g).pending.lookup sessionId = none) :
      Moves s c (.controller (.timedOut g sessionId)) .cancel
        (.controller (.reply (noResponse cfg sessionId)))
  | confirm (sessionId : SessionId) (agent : ConnId) :
      Moves s c (.controller (.ready sessionId agent)) (.send (.ready sessionId))
        (.controller (.bridge agent))
  | bridge (agent : ConnId) :
      Moves s c (.controller (.bridge agent)) (.bridge agent) (.controller (.bridging agent))

/-- The program points whose next step may be a return. -/
inductive Finishes : Phase → Event → Prop where
  | handshake : Finishes .handshake (.handshake false)
  | handshakeTimeout : Finishes .handshake .timeout
  | hello {e : Event} (incoming : e.incoming = true) : Finishes .hello e
  | authenticate (role : Role) (deviceId : Option String) (token : String)
      (features : List String) :
      Finishes (.authenticate role deviceId token features) .authenticate
  | helloOk (role : Role) (deviceId : Option String) (heartbeat : Bool) :
      Finishes (.helloOk role deviceId heartbeat) (.send (helloOkFor heartbeat))
  | helloOkLost (role : Role) (deviceId : Option String) (heartbeat : Bool) (error : String) :
      Finishes (.helloOk role deviceId heartbeat) (.sendError error)
  | attach (d : DeviceId) {e : Event} (incoming : e.incoming = true) :
      Finishes (.session d .attach) e
  | sessionDone (d : DeviceId) : Finishes (.session d .done) .return
  | sessionReplied (d : DeviceId) (m : Message) : Finishes (.session d (.reply m)) (.send m)
  | sessionReplyLost (d : DeviceId) (m : Message) (error : String) :
      Finishes (.session d (.reply m)) (.sendError error)
  | request {e : Event} (incoming : e.incoming = true) : Finishes (.controller .request) e
  | replied (m : Message) : Finishes (.controller (.reply m)) (.send m)
  | replyLost (m : Message) (error : String) : Finishes (.controller (.reply m)) (.sendError error)
  | notConfirmed (sessionId : SessionId) (agent : ConnId) (error : String) :
      Finishes (.controller (.ready sessionId agent)) (.sendError error)
  | bridged (agent : ConnId) : Finishes (.controller (.bridging agent)) .return

/-- The effect of one action. -/
inductive Rule (s : Relay) : Act → Relay → Prop where
  | spawn (available : 0 < s.free) : Rule s .accept s.spawn
  | full (none : s.free = 0) : Rule s .accept s
  | reload (auth : AuthSnapshot) : Rule s (.reload auth) { s with auth }
  | move {c : ConnId} {e : Event} {next : Phase} (moves : Moves s c (s.task c).phase e next) :
      Rule s (.task c e) (s.goto c next)
  | finish {c : ConnId} {e : Event} (finishes : Finishes (s.task c).phase e) :
      Rule s (.task c e) (s.finish c)
  | insertFresh {c : ConnId} {d : DeviceId} {heartbeat : Bool}
      (here : (s.task c).phase = .agent d heartbeat .insert)
      (absent : s.devices.lookup d = none) :
      Rule s (.task c (.insert d))
        (((s.setDevice c .new).insertDevice d c).spawnControl c d heartbeat)
  | insertOver {c : ConnId} {d : DeviceId} {heartbeat : Bool} {previous : ConnId}
      (here : (s.task c).phase = .agent d heartbeat .insert)
      (found : s.devices.lookup d = some previous) :
      Rule s (.task c (.insert d))
        (((s.setDevice c .new).insertDevice d c).goto c
          (.agent d heartbeat (.stopPrevious previous)))
  | stopPrevious {c : ConnId} {d : DeviceId} {heartbeat : Bool} {previous : ConnId}
      (here : (s.task c).phase = .agent d heartbeat (.stopPrevious previous)) :
      Rule s (.task c .stopPrevious) ((s.stopDevice previous).spawnControl c d heartbeat)
  | control {c : ConnId} {d : DeviceId} {heartbeat : Bool} {control control' : Control}
      {e : ControlEvent} (here : (s.task c).phase = .agent d heartbeat (.running control))
      (allowed : controlAllowed s c e) (taken : control.step e = some control') :
      Rule s (.task c (.control e))
        ((afterControl s c e).goto c (.agent d heartbeat
          (if control'.point = .left then .failPending else .running control')))
  | failPending {c : ConnId} {d : DeviceId} {heartbeat : Bool}
      (here : (s.task c).phase = .agent d heartbeat .failPending) :
      Rule s (.task c .failPending)
        ((s.drainPending c).goto c
          (.agent d heartbeat (.failing (s.device c).pending.values)))
  | failRequest {c : ConnId} {d : DeviceId} {heartbeat : Bool} {responses : List ConnId}
      {k : ConnId} (here : (s.task c).phase = .agent d heartbeat (.failing responses))
      (member : k ∈ responses) :
      Rule s (.task c (.failRequest k))
        ((s.refuseRequest k "device control connection ended").goto c
          (.agent d heartbeat (.failing (responses.erase k))))
  | unregister {c : ConnId} {d : DeviceId} {heartbeat : Bool}
      (here : (s.task c).phase = .agent d heartbeat (.failing [])) :
      Rule s (.task c .unregister) ((s.unregister d c).goto c (.agent d heartbeat .unregistered))
  | agentReturn {c : ConnId} {d : DeviceId} {heartbeat : Bool}
      (here : (s.task c).phase = .agent d heartbeat .unregistered) :
      Rule s (.task c .return) ((s.dropOpens c).finish c)
  | take {c : ConnId} {d : DeviceId} {g : ConnId} {sessionId : SessionId} {k : ConnId}
      (here : (s.task c).phase = .session d (.take g sessionId))
      (found : (s.device g).pending.lookup sessionId = some k) :
      Rule s (.task c .take)
        ((s.removePending g sessionId).goto c (.session d (.accept sessionId k)))
  | handOver {c : ConnId} {d : DeviceId} {k : ConnId}
      (here : (s.task c).phase = .session d (.respond k none)) :
      Rule s (.task c .respond) (s.handOver c k)
  | refuse {c : ConnId} {d : DeviceId} {k : ConnId} {reason : String}
      (here : (s.task c).phase = .session d (.respond k (some reason))) :
      Rule s (.task c .respond) ((s.refuseRequest k reason).goto c (.session d .done))
  | register {c : ConnId} {g : ConnId} {sessionId : SessionId} {registered : Relay}
      (here : (s.task c).phase = .controller (.register g sessionId))
      (ok : s.registerPending g sessionId c = some registered) :
      Rule s (.task c .register)
        ((registered.setResponse c Oneshot.channel).goto c
          (.controller (.enqueue g sessionId)))
  | enqueue {c : ConnId} {g : ConnId} {sessionId : SessionId}
      (here : (s.task c).phase = .controller (.enqueue g sessionId))
      (alive : (s.device g).openReceiver = true)
      (room : (s.device g).opens.length < maxPendingSessionsPerDevice) :
      Rule s (.task c .enqueue)
        ((s.enqueueOpen g sessionId).goto c (.controller (.await g sessionId)))
  | enqueueClosed {c : ConnId} {g : ConnId} {sessionId : SessionId} {reason : String}
      (here : (s.task c).phase = .controller (.enqueue g sessionId))
      (gone : (s.device g).openReceiver = false) :
      Rule s (.task c .enqueue)
        ((s.dropResponse c).goto c (.controller (.cancel g sessionId reason)))
  | receive {c : ConnId} {g : ConnId} {sessionId : SessionId} {stream permit : ConnId}
      (here : (s.task c).phase = .controller (.await g sessionId))
      (value : (s.response c).value = some (.ok (stream, permit))) :
      Rule s (.task c .receive) (s.takeHandoff c sessionId stream permit)
  | receiveRefusal {c : ConnId} {g : ConnId} {sessionId : SessionId} {reason : String}
      (here : (s.task c).phase = .controller (.await g sessionId))
      (value : (s.response c).value = some (.error reason)) :
      Rule s (.task c .receive)
        ((s.dropResponse c).goto c (.controller (.reply (.failed sessionId reason))))
  | receiveClosed {c : ConnId} {g : ConnId} {sessionId : SessionId} {reason : String}
      (here : (s.task c).phase = .controller (.await g sessionId))
      (value : (s.response c).value = none) (gone : (s.response c).sender = false) :
      Rule s (.task c .receive)
        ((s.dropResponse c).goto c (.controller (.cancel g sessionId reason)))
  | expireEnqueue {c : ConnId} {g : ConnId} {sessionId : SessionId}
      (here : (s.task c).phase = .controller (.enqueue g sessionId)) :
      Rule s (.task c .timeout)
        ((s.dropResponse c).goto c (.controller (.timedOut g sessionId)))
  | expireAwait {c : ConnId} {g : ConnId} {sessionId : SessionId}
      (here : (s.task c).phase = .controller (.await g sessionId)) :
      Rule s (.task c .timeout)
        ((s.dropResponse c).goto c (.controller (.timedOut g sessionId)))
  | cancel {c : ConnId} {g : ConnId} {sessionId : SessionId} {reason : String} {k : ConnId}
      (here : (s.task c).phase = .controller (.cancel g sessionId reason))
      (found : (s.device g).pending.lookup sessionId = some k) :
      Rule s (.task c .cancel)
        ((s.removePending g sessionId).goto c (.controller (.refuse k sessionId reason)))
  | refuseCancelled {c : ConnId} {k : ConnId} {sessionId : SessionId} {reason : String}
      (here : (s.task c).phase = .controller (.refuse k sessionId reason)) :
      Rule s (.task c .respond)
        ((s.refuseRequest k reason).goto c (.controller (.reply (.failed sessionId reason))))
  | cancelExpired {cfg : Settings} {c : ConnId} {g : ConnId} {sessionId : SessionId} {k : ConnId}
      (here : (s.task c).phase = .controller (.timedOut g sessionId))
      (found : (s.device g).pending.lookup sessionId = some k) :
      Rule s (.task c .cancel)
        (((s.removePending g sessionId).dropRequest k).goto c
          (.controller (.reply (noResponse cfg sessionId))))

namespace Rule

variable {s s' : Relay} {c : ConnId} {e : Event}

/-- A step of one task leaves every other task where it was. -/
theorem task_other (rule : Rule s (.task c e) s') {c' : ConnId} (other : c' ≠ c) :
    s'.task c' = s.task c' := by
  cases rule with
  | register here ok =>
      obtain ⟨rfl, -, -⟩ := Relay.registerPending_eq ok
      simp [other]
  | _ => simp [other]

theorem admitted_eq (rule : Rule s (.task c e) s') : s'.admitted = s.admitted := by
  cases rule with
  | register here ok =>
      obtain ⟨rfl, -, -⟩ := Relay.registerPending_eq ok
      rfl
  | _ => rfl

/-- Only a task that was spawned takes a step. -/
theorem spawned (rule : Rule s (.task c e) s') : (s.task c).phase ≠ .unborn := by
  cases rule with
  | move moves =>
      intro unborn
      rw [unborn] at moves
      cases moves
  | finish finishes =>
      intro unborn
      rw [unborn] at finishes
      cases finishes
  | _ here => simp [here]

/-- A handler that returned takes no more steps. -/
theorem not_returned (rule : Rule s (.task c e) s') : (s.task c).phase ≠ .returned := by
  cases rule with
  | move moves =>
      intro returned
      rw [returned] at moves
      cases moves
  | finish finishes =>
      intro returned
      rw [returned] at finishes
      cases finishes
  | _ here => simp [here]

end Rule

/-- The names that were not given out yet have no task. -/
def Unborn (s : Relay) : Prop := ∀ k, s.admitted ≤ k → s.task k = ⟨.unborn, [], []⟩

theorem unborn_start (auth : AuthSnapshot) : Unborn (Relay.start auth) := fun _ _ => rfl

theorem unborn_rule {s s' : Relay} {a : Act} (holds : Unborn s) (rule : Rule s a s') :
    Unborn s' := by
  intro k later
  cases a with
  | accept =>
      cases rule with
      | full => exact holds k later
      | spawn =>
          have past : s.admitted + 1 ≤ k := later
          simpa [show k ≠ s.admitted by omega] using holds k (by omega)
  | reload auth =>
      cases rule
      exact holds k later
  | task c e =>
      rw [rule.admitted_eq] at later
      have other : k ≠ c := by
        rintro rfl
        exact rule.spawned (by rw [holds k later])
      rw [rule.task_other other]
      exact holds k later

/-! ## Every step is a rule -/

theorem dispatch_rule {s s' : Relay} {c : ConnId} {role : Role} {deviceId : Option String}
    {heartbeat : Bool} (here : (s.task c).phase = .helloOk role deviceId heartbeat)
    (result : dispatch s c role deviceId heartbeat = s') :
    Rule s (.task c (.send (helloOkFor heartbeat))) s' := by
  subst result
  have finishes : Rule s (.task c (.send (helloOkFor heartbeat))) (s.finish c) :=
    .finish (here ▸ .helloOk role deviceId heartbeat)
  cases role with
  | agent =>
      cases deviceId with
      | none => exact finishes
      | some d =>
          simp only [dispatch]
          split
          · rename_i valid
            exact .move (here ▸ .agent valid)
          · exact finishes
  | agentSession =>
      cases deviceId with
      | none => exact finishes
      | some d => exact .move (here ▸ .session d heartbeat)
  | controller =>
      cases deviceId <;> exact .move (here ▸ .controller _ heartbeat)

theorem connection_rule {s s' : Relay} {c : ConnId} {e : Event}
    (taken : connectionStep s c (s.task c).phase e = some s') : Rule s (.task c e) s' := by
  generalize here : (s.task c).phase = phase at taken
  unfold connectionStep at taken
  split at taken
  · rename_i ok
    cases taken
    cases ok
    · exact .finish (here ▸ .handshake)
    · exact .move (here ▸ .handshake)
  · cases taken
    exact .finish (here ▸ .handshakeTimeout)
  · split at taken
    · rename_i current
      cases taken
      subst current
      exact .move (here ▸ .hello _ _ _ _)
    · cases taken
      exact .finish (here ▸ .hello rfl)
  · cases taken
    exact .finish (here ▸ .hello rfl)
  · cases taken
    exact .finish (here ▸ .hello rfl)
  · cases taken
    exact .finish (here ▸ .hello rfl)
  · split at taken
    · rename_i ok
      cases taken
      exact .move (here ▸ .authenticate ok)
    · cases taken
      exact .finish (here ▸ .authenticate _ _ _ _)
  · split at taken
    · rename_i same
      cases taken
      subst same
      exact dispatch_rule here rfl
    · cases taken
  · cases taken
    exact .finish (here ▸ .helloOkLost _ _ _ _)
  · cases taken

theorem agent_rule {s s' : Relay} {c : ConnId} {d : DeviceId} {heartbeat : Bool}
    {point : AgentPoint} {e : Event} (here : (s.task c).phase = .agent d heartbeat point)
    (taken : agentStep s c d heartbeat point e = some s') : Rule s (.task c e) s' := by
  unfold agentStep at taken
  split at taken
  · split at taken
    · rename_i same
      subst same
      dsimp only at taken
      split at taken
      · rename_i absent
        cases taken
        exact .insertFresh here absent
      · rename_i previous found
        cases taken
        exact .insertOver here found
    · cases taken
  · cases taken
    exact .stopPrevious here
  · split at taken
    · rename_i allowed
      split at taken
      · cases taken
      · rename_i control' stepped
        cases taken
        exact .control here allowed stepped
    · cases taken
  · cases taken
    exact .failPending here
  · split at taken
    · rename_i member
      cases taken
      exact .failRequest here member
    · cases taken
  · cases taken
    exact .unregister here
  · cases taken
    exact .agentReturn here
  · cases taken

theorem session_rule {cfg : Settings} {s s' : Relay} {c : ConnId} {d : DeviceId}
    {point : SessionPoint} {e : Event} (here : (s.task c).phase = .session d point)
    (taken : sessionStep cfg s c d point e = some s') : Rule s (.task c e) s' := by
  unfold sessionStep at taken
  split at taken
  · cases taken
    exact .move (here ▸ .attach d _)
  · cases taken
    exact .finish (here ▸ .attach d rfl)
  · cases taken
    exact .finish (here ▸ .attach d rfl)
  · cases taken
    exact .finish (here ▸ .attach d rfl)
  · split at taken
    · rename_i absent
      cases taken
      exact .move (here ▸ .sessionOffline absent)
    · rename_i g found
      cases taken
      exact .move (here ▸ .sessionDevice found)
  · split at taken
    · rename_i absent
      cases taken
      exact .move (here ▸ .notWaiting absent)
    · rename_i k found
      cases taken
      exact .take here found
  · split at taken
    · rename_i same
      cases taken
      subst same
      exact .move (here ▸ .accepted d _ _)
    · cases taken
  · cases taken
    exact .move (here ▸ .notAccepted d _ _ _ _)
  · dsimp only at taken
    split at taken
    · rename_i _ _ sessionId k _ id
      cases taken
      by_cases same : id = sessionId
      · rw [if_pos same]
        subst same
        exact .move (here ▸ .ready d _ _)
      · rw [if_neg same]
        exact .move (here ▸ .notReady d _ _ _ rfl)
    · cases taken
      exact .move (here ▸ .notReady d _ _ _ rfl)
    · cases taken
      exact .move (here ▸ .notReady d _ _ _ rfl)
  · cases taken
    exact .move (here ▸ .notReady d _ _ _ rfl)
  · cases taken
    exact .move (here ▸ .notReady d _ _ _ rfl)
  · cases taken
    exact .handOver here
  · cases taken
    exact .refuse here
  · cases taken
    exact .finish (here ▸ .sessionDone d)
  · split at taken
    · rename_i same
      cases taken
      subst same
      exact .finish (here ▸ .sessionReplied d _)
    · cases taken
  · cases taken
    exact .finish (here ▸ .sessionReplyLost d _ _)
  · cases taken

theorem receive_rule {s s' : Relay} {c g : ConnId} {sessionId : SessionId}
    (here : (s.task c).phase = .controller (.await g sessionId)) {cfg : Settings}
    (taken : controllerStep cfg s c (.await g sessionId) .receive = some s') :
    Rule s (.task c .receive) s' := by
  simp only [controllerStep, Oneshot.poll] at taken
  cases value : (s.response c).value with
  | none =>
      cases gone : (s.response c).sender with
      | true => simp [value, gone] at taken
      | false =>
          simp only [value, gone, Bool.false_eq_true, if_false, Option.some.injEq] at taken
          subst taken
          exact .receiveClosed here value gone
  | some handoff =>
      simp only [value] at taken
      cases handoff with
      | ok pair =>
          simp only [Option.some.injEq] at taken
          subst taken
          exact .receive here value
      | error reason =>
          simp only [Option.some.injEq] at taken
          subst taken
          exact .receiveRefusal here value

theorem controller_rule {cfg : Settings} {s s' : Relay} {c : ConnId} {point : ControllerPoint}
    {e : Event} (here : (s.task c).phase = .controller point)
    (taken : controllerStep cfg s c point e = some s') : Rule s (.task c e) s' := by
  have stepped := taken
  unfold controllerStep at taken
  split at taken
  · cases taken
    exact .move (here ▸ .listRequest)
  · cases taken
    exact .move (here ▸ .openRequest _ _)
  · cases taken
    exact .finish (here ▸ .request rfl)
  · cases taken
    exact .finish (here ▸ .request rfl)
  · cases taken
    exact .finish (here ▸ .request rfl)
  · cases taken
    exact .move (here ▸ .list)
  · split at taken
    · rename_i absent
      cases taken
      exact .move (here ▸ .targetOffline absent)
    · rename_i g found
      cases taken
      exact .move (here ▸ .targetDevice found)
  · split at taken
    · rename_i refused
      cases taken
      exact .move (here ▸ .tooMany refused)
    · rename_i registered ok
      cases taken
      exact .register here ok
  · split at taken
    · rename_i gone
      cases taken
      exact .enqueueClosed here gone
    · rename_i alive
      split at taken
      · rename_i room
        cases taken
        exact .enqueue here (by simpa using alive) room
      · cases taken
  · cases taken
    exact .expireEnqueue here
  · exact receive_rule here stepped
  · cases taken
    exact .expireAwait here
  · split at taken
    · rename_i absent
      cases taken
      exact .move (here ▸ .cancelled absent)
    · rename_i k found
      cases taken
      exact .cancel here found
  · cases taken
    exact .refuseCancelled here
  · split at taken
    · rename_i absent
      cases taken
      exact .move (here ▸ .expired absent)
    · rename_i k found
      cases taken
      exact .cancelExpired here found
  · split at taken
    · rename_i same
      cases taken
      subst same
      exact .finish (here ▸ .replied _)
    · cases taken
  · cases taken
    exact .finish (here ▸ .replyLost _ _)
  · split at taken
    · rename_i same
      cases taken
      subst same
      exact .move (here ▸ .confirm _ _)
    · cases taken
  · cases taken
    exact .finish (here ▸ .notConfirmed _ _ _)
  · split at taken
    · rename_i same
      cases taken
      subst same
      exact .move (here ▸ .bridge _)
    · cases taken
  · cases taken
    exact .finish (here ▸ .bridged _)
  · cases taken

/-- **Every step of the relay is one of the rules.** -/
theorem step_rule {cfg : Settings} {s s' : Relay} {a : Act} (taken : step cfg s a = some s') :
    Rule s a s' := by
  cases a with
  | accept =>
      simp only [step, Option.some.injEq] at taken
      subst taken
      split
      · rename_i available
        exact .spawn available
      · rename_i none
        exact .full (by omega)
  | reload auth =>
      simp only [step, Option.some.injEq] at taken
      subst taken
      exact .reload auth
  | task c e =>
      simp only [step] at taken
      split at taken
      · rename_i here
        exact agent_rule here taken
      · rename_i here
        exact session_rule here taken
      · rename_i here
        exact controller_rule here taken
      · exact connection_rule taken

theorem run_unborn {cfg : Settings} {auth : AuthSnapshot} {acts : List Act} {s : Relay}
    (run : Run cfg auth acts s) : Unborn s :=
  exec_induction (P := fun _ s => Unborn s) (unborn_start auth)
    (fun _ _ _ _ _ holds taken => unborn_rule holds (step_rule taken)) acts s run

/-- **Induction along the runs of the relay, one task at a time**: a fact about a
connection, its place and the run so far that the steps of others keep. -/
theorem run_each_step {cfg : Settings} {auth : AuthSnapshot}
    {P : List Act → ConnId → Phase → Prop}
    (start : ∀ c, P [] c .unborn)
    (quiet : ∀ acts c a phase, (∀ e, a ≠ .task c e) → P acts c phase → P (acts ++ [a]) c phase)
    (spawn : ∀ acts c, P acts c .unborn → P acts c .handshake)
    (own : ∀ acts s c e s', Run cfg auth acts s → step cfg s (.task c e) = some s' →
      P acts c (s.task c).phase → P (acts ++ [.task c e]) c (s'.task c).phase)
    {acts : List Act} {s : Relay} (run : Run cfg auth acts s) (c : ConnId) :
    P acts c (s.task c).phase := by
  refine exec_induction (P := fun acts s => ∀ c, P acts c (s.task c).phase)
    start ?_ acts s run c
  intro acts s a s' before holds taken c
  have rule := step_rule taken
  cases a with
  | accept =>
      have kept := quiet acts c .accept _ (by simp) (holds c)
      cases rule with
      | full => exact kept
      | spawn =>
          rcases eq_or_ne c s.admitted with rfl | other
          · rw [run_unborn before _ le_rfl] at kept
            simpa using spawn _ _ kept
          · simpa [other] using kept
  | reload auth =>
      have kept := quiet acts c (.reload auth) _ (by simp) (holds c)
      cases rule
      exact kept
  | task c' e =>
      rcases eq_or_ne c c' with rfl | other
      · exact own acts s c e s' before taken (holds c)
      · rw [rule.task_other other]
        exact quiet acts c _ _ (by simp [other.symm]) (holds c)

/-- The same, for a fact the rules are enough for. -/
theorem run_each {cfg : Settings} {auth : AuthSnapshot} {P : List Act → ConnId → Phase → Prop}
    (start : ∀ c, P [] c .unborn)
    (quiet : ∀ acts c a phase, (∀ e, a ≠ .task c e) → P acts c phase → P (acts ++ [a]) c phase)
    (spawn : ∀ acts c, P acts c .unborn → P acts c .handshake)
    (own : ∀ acts s c e s', Run cfg auth acts s → Rule s (.task c e) s' →
      P acts c (s.task c).phase → P (acts ++ [.task c e]) c (s'.task c).phase)
    {acts : List Act} {s : Relay} (run : Run cfg auth acts s) (c : ConnId) :
    P acts c (s.task c).phase :=
  run_each_step start quiet spawn
    (fun acts s c e s' before taken => own acts s c e s' before (step_rule taken)) run c

/-- A fact about the place of a task that its own steps keep. -/
theorem run_place {cfg : Settings} {auth : AuthSnapshot} {P : Phase → Prop} (start : P .unborn)
    (spawn : P .handshake)
    (own : ∀ acts s c e s', Run cfg auth acts s → Rule s (.task c e) s' →
      P (s.task c).phase → P (s'.task c).phase)
    {acts : List Act} {s : Relay} (run : Run cfg auth acts s) (c : ConnId) : P (s.task c).phase :=
  run_each (P := fun _ _ => P) (fun _ => start) (fun _ _ _ _ _ holds => holds)
    (fun _ _ _ => spawn) own run c

/-- A task that was spawned is where it was when another one steps. -/
theorem Rule.task_kept {s s' : Relay} {a : Act} (unborn : Unborn s) (rule : Rule s a s') {c : ConnId}
    (other : ∀ e, a ≠ .task c e) (spawned : (s.task c).phase ≠ .unborn) :
    s'.task c = s.task c := by
  cases a with
  | accept =>
      cases rule with
      | full => rfl
      | spawn =>
          have older : c ≠ s.admitted := by
            rintro rfl
            exact spawned (by rw [unborn _ le_rfl])
          simp [older]
  | reload auth =>
      cases rule
      rfl
  | task c' e => exact rule.task_other fun same => other e (by rw [same])

/-- A handler that returned does nothing any more. -/
theorem returned_silent {cfg : Settings} {auth : AuthSnapshot} {pre acts : List Act}
    {s s' : Relay} (before : Run cfg auth pre s) (run : exec (step cfg) s acts = some s')
    {c : ConnId} (returned : (s.task c).phase = .returned) :
    (∀ e, Act.task c e ∉ acts) ∧ (s'.task c).phase = .returned := by
  induction acts generalizing pre s with
  | nil =>
      cases run
      exact ⟨by simp, returned⟩
  | cons a rest ih =>
      obtain ⟨t, taken, last⟩ := Option.bind_eq_some_iff.mp run
      have rule := step_rule taken
      have other : ∀ e, a ≠ .task c e := by
        rintro e rfl
        exact rule.not_returned returned
      have still : (t.task c).phase = .returned := by
        rw [rule.task_kept (run_unborn before) other (by simp [returned])]
        exact returned
      obtain ⟨silent, after⟩ := ih (exec_snoc before taken) last still
      refine ⟨fun e member => ?_, after⟩
      rcases List.mem_cons.mp member with same | member
      · exact other e same.symm
      · exact silent e member

end RustSsh.Server
