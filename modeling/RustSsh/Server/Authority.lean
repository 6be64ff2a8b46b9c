/-
# Server.Authority -- what a connection may change, and who it is

A connection is `Authenticated` when its first frame was a Hello and the token in it
was the stored one at the moment the relay compared them.  Where its task is decides
who it authenticated as (`Standing`); every change of the registry, of a pending map
and every device list is a step of a task whose place entitles it to that step.
-/
import RustSsh.Server.Registry

namespace RustSsh.Server

open RustSsh.Theory RustSsh.Protocol

set_option autoImplicit false

/-! ## Frames of a run -/

theorem received_snoc (c : ConnId) (acts : List Act) (a : Act) :
    received c (acts ++ [a]) = received c acts ++ (receivedFrame c a).toList := by
  simp only [received, List.filterMap_append]
  cases found : receivedFrame c a <;> simp [found]

theorem receivedFrame_other {c c' : ConnId} (other : c ≠ c') (e : Event) :
    receivedFrame c (.task c' e) = none := by
  unfold receivedFrame
  split <;> simp_all [eq_comm]

/-! ## Authentication -/

section Standing

variable (cfg : Settings) (auth : AuthSnapshot)

/-- The first frame was a Hello for `role` and `deviceId`, with the token the snapshot
held for them when `authenticate` read it. -/
def Authenticated (acts : List Act) (c : ConnId) (role : Role) (deviceId : Option String) : Prop :=
  ∃ pre mid token features, pre ++ [.task c .authenticate] <+: acts ∧
    Run cfg auth pre mid ∧
    received c pre = [.hello protocolVersion role token deviceId features] ∧
    Entitled mid.auth role deviceId token

/-- What a task's place says about the connection. -/
def Standing (acts : List Act) (c : ConnId) : Phase → Prop
  | .unborn => received c acts = []
  | .handshake => received c acts = []
  | .hello => received c acts = []
  | .authenticate role deviceId token features =>
      received c acts = [.hello protocolVersion role token deviceId features]
  | .helloOk role deviceId _ => Authenticated cfg auth acts c role deviceId
  | .agent d _ _ => Authenticated cfg auth acts c .agent (some d)
  | .session d _ => Authenticated cfg auth acts c .agentSession (some d)
  | .controller _ => ∃ deviceId, Authenticated cfg auth acts c .controller deviceId
  | .returned => True

end Standing

section Authentication

variable {cfg : Settings} {auth : AuthSnapshot} {acts : List Act} {s s' : Relay} {a : Act}
  {c : ConnId}

theorem authenticated_stable (c : ConnId) (role : Role) (deviceId : Option String) :
    Stable fun acts => Authenticated cfg auth acts c role deviceId := by
  rintro acts more ⟨pre, mid, token, features, inside, run, frames, entitled⟩
  exact ⟨pre, mid, token, features, inside.trans (List.prefix_append acts more), run, frames,
    entitled⟩

/-- A connection authenticates as one identity. -/
theorem Authenticated.unique {role role' : Role} {deviceId deviceId' : Option String}
    (one : Authenticated cfg auth acts c role deviceId)
    (other : Authenticated cfg auth acts c role' deviceId') :
    role = role' ∧ deviceId = deviceId' := by
  obtain ⟨pre, mid, token, features, inside, -, frames, -⟩ := one
  obtain ⟨pre', mid', token', features', inside', -, frames', -⟩ := other
  have first : ∀ {p hello}, p ++ [Act.task c .authenticate] <+: acts → received c p = [hello] →
      (received c acts)[0]? = some hello := by
    rintro p hello ⟨rest, rfl⟩ only
    simp only [received, List.filterMap_append] at only ⊢
    simp [only]
  have same := first inside frames
  rw [first inside' frames'] at same
  simp only [Option.some.injEq, Message.hello.injEq] at same
  exact ⟨same.2.1.symm, same.2.2.2.1.symm⟩

theorem standing_quiet (quiet : receivedFrame c a = none) {phase : Phase}
    (standing : Standing cfg auth acts c phase) : Standing cfg auth (acts ++ [a]) c phase := by
  have frames : received c (acts ++ [a]) = received c acts := by
    rw [received_snoc, quiet]
    simp
  cases phase with
  | unborn | handshake | hello | authenticate => exact frames.trans standing
  | helloOk | agent | session => exact authenticated_stable _ _ _ acts [a] standing
  | controller =>
      obtain ⟨deviceId, known⟩ := standing
      exact ⟨deviceId, authenticated_stable _ _ _ acts [a] known⟩
  | returned => trivial

theorem standing_move {e : Event} {phase next : Phase} (run : Run cfg auth acts s)
    (moves : Moves s c phase e next) (standing : Standing cfg auth acts c phase) :
    Standing cfg auth (acts ++ [.task c e]) c next := by
  cases moves with
  | handshake =>
      have silent : received c acts = [] := standing
      simp [Standing, received_snoc, silent, receivedFrame]
  | hello role deviceId token features =>
      have silent : received c acts = [] := standing
      simp [Standing, received_snoc, silent, receivedFrame]
  | authenticate ok =>
      exact ⟨acts, s, _, _, List.prefix_rfl, run, standing, authenticate_entitled ok⟩
  | agent | session | attach | sessionOffline | sessionDevice | notWaiting | accepted
  | notAccepted | ready | notReady => exact authenticated_stable _ _ _ acts _ standing
  | controller deviceId => exact ⟨deviceId, authenticated_stable _ _ _ acts _ standing⟩
  | _ =>
      obtain ⟨deviceId, known⟩ := standing
      exact ⟨deviceId, authenticated_stable _ _ _ acts _ known⟩

theorem standing_rule {e : Event} (run : Run cfg auth acts s) (rule : Rule s (.task c e) s')
    (standing : Standing cfg auth acts c (s.task c).phase) :
    Standing cfg auth (acts ++ [.task c e]) c (s'.task c).phase := by
  cases rule with
  | move moves => simpa using standing_move run moves standing
  | finish | agentReturn | handOver => simp [Standing]
  | insertFresh here | insertOver here | stopPrevious here | control here | failPending here
  | failRequest here | unregister here | take here | refuse here =>
      rw [here] at standing
      simpa [Standing] using authenticated_stable _ _ _ acts _ standing
  | register here ok =>
      obtain ⟨rfl, -, -⟩ := Relay.registerPending_eq ok
      rw [here] at standing
      obtain ⟨deviceId, known⟩ := standing
      simpa [Standing] using ⟨deviceId, authenticated_stable _ _ _ acts _ known⟩
  | _ here =>
      rw [here] at standing
      obtain ⟨deviceId, known⟩ := standing
      simpa [Standing] using ⟨deviceId, authenticated_stable _ _ _ acts _ known⟩

theorem run_standing (run : Run cfg auth acts s) (c : ConnId) :
    Standing cfg auth acts c (s.task c).phase := by
  refine run_each (P := Standing cfg auth) (fun _ => rfl) ?_ (fun _ _ silent => silent) ?_ run c
  · intro acts c a phase other standing
    refine standing_quiet ?_ standing
    cases a with
    | accept | reload => rfl
    | task c' e => exact receivedFrame_other (fun same => other e (by rw [same])) e
  · intro acts s c e s' before rule standing
    exact standing_rule before rule standing

end Authentication

/-! ## The generation a handler works with -/

/-- Connection `g` was inserted under `d`. -/
def GenerationOf (acts : List Act) (d : DeviceId) (g : ConnId) : Prop :=
  Act.task g (.insert d) ∈ acts

/-- Connection `k` asked for a session of the target. -/
def Asked (acts : List Act) (k : ConnId) (target : DeviceId) (sessionId : SessionId) : Prop :=
  Act.task k (.recv (.openRequest target sessionId)) ∈ acts

/-- The generation a controller asks, and under which id. -/
def Phase.request : Phase → Option (ConnId × SessionId)
  | .controller (.register g sessionId) => some (g, sessionId)
  | .controller (.enqueue g sessionId) => some (g, sessionId)
  | .controller (.await g sessionId) => some (g, sessionId)
  | .controller (.cancel g sessionId _) => some (g, sessionId)
  | .controller (.timedOut g sessionId) => some (g, sessionId)
  | _ => none

/-- A handler only works with generations of the device it looked up. -/
structure Sought (acts : List Act) (c : ConnId) (phase : Phase) : Prop where
  take : ∀ {d g sessionId}, phase = .session d (.take g sessionId) → GenerationOf acts d g
  asked : ∀ {target sessionId}, phase = .controller (.lookup target sessionId) →
    Asked acts c target sessionId
  request : ∀ {g sessionId}, phase.request = some (g, sessionId) →
    ∃ target, Asked acts c target sessionId ∧ GenerationOf acts target g

section Generations

variable {cfg : Settings} {auth : AuthSnapshot} {acts : List Act} {s s' : Relay} {a : Act}
  {c : ConnId}

theorem generation_authenticated (run : Run cfg auth acts s) {d : DeviceId} {g : ConnId}
    (generation : GenerationOf acts d g) : Authenticated cfg auth acts g .agent (some d) := by
  obtain ⟨pre, post, rfl⟩ := List.append_of_mem generation
  obtain ⟨before, after, first, taken, -⟩ := exec_split run
  obtain ⟨⟨heartbeat, here⟩, -⟩ := (step_rule taken).inserted
  have standing := run_standing first g
  rw [here] at standing
  exact authenticated_stable _ _ _ pre _ standing

/-- A connection is a generation of one device. -/
theorem generation_unique (run : Run cfg auth acts s) {d d' : DeviceId} {g : ConnId}
    (one : GenerationOf acts d g) (other : GenerationOf acts d' g) : d = d' :=
  Option.some.inj ((generation_authenticated run one).unique (generation_authenticated run other)).2

theorem registered_generation (run : Run cfg auth acts s) {d : DeviceId} {g : ConnId}
    (found : s.devices.lookup d = some g) : GenerationOf acts d g := by
  refine exec_induction (P := fun acts s => ∀ d g, s.devices.lookup d = some g →
    GenerationOf acts d g) ?_ ?_ acts s run d g found
  · intro d g found
    simp [Relay.start] at found
  · intro acts s a s' _ holds taken d g found
    rcases (step_rule taken).registers found with before | rfl
    · exact List.mem_append_left [a] (holds d g before)
    · exact List.mem_append_right acts List.mem_cons_self

theorem Sought.more {phase : Phase} (sought : Sought acts c phase) (more : List Act) :
    Sought (acts ++ more) c phase where
  take here := List.mem_append_left more (sought.take here)
  asked here := List.mem_append_left more (sought.asked here)
  request here := by
    obtain ⟨target, asked, generation⟩ := sought.request here
    exact ⟨target, List.mem_append_left more asked, List.mem_append_left more generation⟩

/-- A place without a generation. -/
theorem sought_none {phase : Phase} (take : ∀ d g sessionId, phase ≠ .session d (.take g sessionId))
    (lookup : ∀ target sessionId, phase ≠ .controller (.lookup target sessionId))
    (request : phase.request = none) : Sought acts c phase where
  take here := absurd here (take _ _ _)
  asked here := absurd here (lookup _ _)
  request here := by
    rw [request] at here
    cases here

/-- A step of a controller that goes on with the same request. -/
theorem sought_kept {phase next : Phase} (sought : Sought acts c phase)
    (take : ∀ d g sessionId, next ≠ .session d (.take g sessionId))
    (lookup : ∀ target sessionId, next ≠ .controller (.lookup target sessionId))
    (request : next.request = phase.request) : Sought acts c next where
  take here := absurd here (take _ _ _)
  asked here := absurd here (lookup _ _)
  request here := sought.request (request ▸ here)

theorem sought_move {e : Event} {phase next : Phase} (run : Run cfg auth acts s)
    (moves : Moves s c phase e next) (sought : Sought acts c phase) :
    Sought (acts ++ [.task c e]) c next := by
  cases moves with
  | sessionDevice found =>
      refine { take := ?_, asked := by simp, request := by simp [Phase.request] }
      rintro d g sessionId ⟨⟩
      exact List.mem_append_left _ (registered_generation run found)
  | openRequest target sessionId =>
      refine { take := by simp, asked := ?_, request := by simp [Phase.request] }
      rintro target sessionId ⟨⟩
      exact List.mem_append_right acts List.mem_cons_self
  | targetDevice found =>
      refine { take := by simp, asked := by simp, request := ?_ }
      rintro g sessionId ⟨⟩
      exact ⟨_, List.mem_append_left _ (sought.asked rfl),
        List.mem_append_left _ (registered_generation run found)⟩
  | _ => exact sought_none (by simp) (by simp) rfl

theorem sought_rule {e : Event} (run : Run cfg auth acts s) (rule : Rule s (.task c e) s')
    (sought : Sought acts c (s.task c).phase) :
    Sought (acts ++ [.task c e]) c (s'.task c).phase := by
  have kept := sought.more [.task c e]
  cases rule with
  | move moves => simpa using sought_move run moves sought
  | control =>
      simp only [Relay.goto_task, Function.update_self]
      split <;> exact sought_none (by simp) (by simp) rfl
  | register here ok =>
      obtain ⟨rfl, -, -⟩ := Relay.registerPending_eq ok
      rw [here] at kept
      simp only [Relay.goto_task, Function.update_self]
      exact sought_kept kept (by simp) (by simp) rfl
  | enqueue here | enqueueClosed here | receiveClosed here | expireEnqueue here
  | expireAwait here =>
      rw [here] at kept
      simp only [Relay.goto_task, Function.update_self]
      exact sought_kept kept (by simp) (by simp) rfl
  | _ =>
      simp only [Relay.goto_task, Relay.finish_task, Relay.spawnControl_task, Relay.handOver_task,
        Relay.takeHandoff_task, Function.update_self]
      exact sought_none (by simp) (by simp) rfl

theorem run_sought (run : Run cfg auth acts s) (c : ConnId) : Sought acts c (s.task c).phase := by
  refine run_each (P := Sought) ?_ (fun _ _ a _ _ sought => sought.more [a]) ?_ ?_ run c
  · exact fun _ => sought_none (by simp) (by simp) rfl
  · exact fun _ _ _ => sought_none (by simp) (by simp) rfl
  · intro acts s c e s' before rule sought
    exact sought_rule before rule sought

end Generations

/-! ## What the relay says and to whom -/

/-- What a handler may be about to write. -/
def Speaks : Phase → Prop
  | .session _ (.reply m) => ∃ sessionId reason, m = .failed sessionId reason
  | .agent _ _ (.running control) => ∀ m ∈ control.toWrite, Control.Outgoing m
  | _ => True

theorem run_speaks {cfg : Settings} {auth : AuthSnapshot} {acts : List Act} {s : Relay}
    (run : Run cfg auth acts s) (c : ConnId) : Speaks (s.task c).phase := by
  refine run_place (P := Speaks) trivial trivial ?_ run c
  intro acts s c e s' _ rule speaks
  cases rule with
  | move moves =>
      simp only [Relay.goto_task, Function.update_self]
      generalize (s.task c).phase = phase at moves
      cases moves with
      | sessionOffline | notWaiting => exact ⟨_, _, rfl⟩
      | _ => trivial
  | insertFresh | stopPrevious => simp [Speaks, Control.start, Control.toWrite]
  | control here allowed stepped =>
      rw [here] at speaks
      simp only [Relay.goto_task, Function.update_self]
      split
      · trivial
      · intro m member
        rcases Control.toWrite_step stepped m member with before | outgoing
        · exact speaks m before
        · exact outgoing
  | register here ok =>
      obtain ⟨rfl, -, -⟩ := Relay.registerPending_eq ok
      simp [Speaks]
  | _ => simp [Speaks]

/-- Where a handler is when it writes a frame itself. -/
inductive Writes : Phase → Message → Prop where
  | helloOk (role : Role) (deviceId : Option String) (heartbeat : Bool) :
      Writes (.helloOk role deviceId heartbeat) (helloOkFor heartbeat)
  | accepted (d : DeviceId) (sessionId : SessionId) (k : ConnId) :
      Writes (.session d (.accept sessionId k)) (.sessionAccepted sessionId)
  | reply (d : DeviceId) (m : Message) : Writes (.session d (.reply m)) m
  | controller (point : ControllerPoint) (m : Message) : Writes (.controller point) m

theorem Moves.writes {s : Relay} {c : ConnId} {phase next : Phase} {e : Event} {m : Message}
    (moves : Moves s c phase e next) (send : e = .send m) : Writes phase m := by
  cases moves with
  | agent valid => cases send; exact .helloOk _ _ _
  | session => cases send; exact .helloOk _ _ _
  | controller => cases send; exact .helloOk _ _ _
  | accepted => cases send; exact .accepted _ _ _
  | confirm => exact .controller _ _
  | notReady _ _ _ _ incoming => subst send; cases incoming
  | _ => cases send

theorem Finishes.writes {phase : Phase} {e : Event} {m : Message} (finishes : Finishes phase e)
    (send : e = .send m) : Writes phase m := by
  cases finishes with
  | helloOk => cases send; exact .helloOk _ _ _
  | sessionReplied => cases send; exact .reply _ _
  | replied => exact .controller _ _
  | hello incoming | attach _ incoming | request incoming => subst send; cases incoming
  | _ => cases send

theorem Moves.not_control {s : Relay} {c : ConnId} {phase next : Phase} {e : ControlEvent} :
    ¬ Moves s c phase (.control e) next := by
  intro moves
  cases moves with
  | notReady _ _ _ _ incoming => cases incoming

theorem Finishes.not_control {phase : Phase} {e : ControlEvent} :
    ¬ Finishes phase (.control e) := by
  intro finishes
  cases finishes <;> rename_i incoming <;> cases incoming

/-- A control event is a step of a running control connection. -/
theorem Rule.controls {s s' : Relay} {c : ConnId} {e : ControlEvent}
    (rule : Rule s (.task c (.control e)) s') :
    ∃ d heartbeat control control', (s.task c).phase = .agent d heartbeat (.running control) ∧
      control.step e = some control' := by
  cases rule with
  | move moves => exact absurd moves Moves.not_control
  | finish finishes => exact absurd finishes Finishes.not_control
  | control here allowed stepped => exact ⟨_, _, _, _, here, stepped⟩

/-- Only a controller is written a device list. -/
theorem deviceList_controller {cfg : Settings} {auth : AuthSnapshot} {acts : List Act}
    {s s' : Relay} {a : Act} {c : ConnId} {devices : List DeviceInfo} (run : Run cfg auth acts s)
    (rule : Rule s a s') (sent : sentFrame c a = some (.deviceList devices)) :
    ∃ point, (s.task c).phase = .controller point := by
  have speaks := run_speaks run c
  unfold sentFrame at sent
  split at sent
  · rename_i c' m
    split at sent
    · rename_i same
      subst same
      cases sent
      have writes : Writes (s.task c').phase (.deviceList devices) := by
        cases rule with
        | move moves => exact moves.writes rfl
        | finish finishes => exact finishes.writes rfl
      generalize (s.task c').phase = phase at writes speaks
      cases writes with
      | reply =>
          obtain ⟨_, _, impossible⟩ := speaks
          cases impossible
      | controller point => exact ⟨point, rfl⟩
    · cases sent
  · rename_i c' m
    split at sent
    · rename_i same
      subst same
      cases sent
      obtain ⟨d, heartbeat, control, control', here, stepped⟩ := rule.controls
      rw [here] at speaks
      have member := speaks (.deviceList devices)
        (by rw [Control.wrote_toWrite stepped]; exact List.mem_cons_self)
      cases member
    · cases sent
  · cases sent

/-! ## Who changes what -/

/-- The steps that change the pending map of generation `g`. -/
inductive TouchesPending (s : Relay) (g : ConnId) : Act → Prop where
  | insert {d : DeviceId} {heartbeat : Bool} (here : (s.task g).phase = .agent d heartbeat .insert) :
      TouchesPending s g (.task g (.insert d))
  | failPending {d : DeviceId} {heartbeat : Bool}
      (here : (s.task g).phase = .agent d heartbeat .failPending) :
      TouchesPending s g (.task g .failPending)
  | take {c : ConnId} {d : DeviceId} {sessionId : SessionId}
      (here : (s.task c).phase = .session d (.take g sessionId)) :
      TouchesPending s g (.task c .take)
  | register {c : ConnId} {sessionId : SessionId}
      (here : (s.task c).phase = .controller (.register g sessionId)) :
      TouchesPending s g (.task c .register)
  | cancel {c : ConnId} {point : ControllerPoint} (here : (s.task c).phase = .controller point) :
      TouchesPending s g (.task c .cancel)

/-- The steps that change the registry entry of device `d`. -/
inductive TouchesEntry (s : Relay) (d : DeviceId) : Act → Prop where
  | insert {c : ConnId} {heartbeat : Bool} (here : (s.task c).phase = .agent d heartbeat .insert) :
      TouchesEntry s d (.task c (.insert d))
  | unregister {c : ConnId} {heartbeat : Bool}
      (here : (s.task c).phase = .agent d heartbeat (.failing [])) :
      TouchesEntry s d (.task c .unregister)

theorem Rule.touchesPending {s s' : Relay} {a : Act} (rule : Rule s a s') {g : ConnId}
    (changed : (s'.device g).pending ≠ (s.device g).pending) : TouchesPending s g a := by
  cases rule with
  | @insertFresh c d heartbeat here | @insertOver c d heartbeat _ here =>
      rcases eq_or_ne g c with rfl | other
      · exact .insert here
      · simp [other] at changed
  | @failPending c d heartbeat here =>
      rcases eq_or_ne g c with rfl | other
      · exact .failPending here
      · simp [other] at changed
  | @take c d g₁ sessionId k here =>
      rcases eq_or_ne g g₁ with rfl | other
      · exact .take here
      · simp [other] at changed
  | @register c g₁ sessionId registered here ok =>
      obtain ⟨rfl, -, -⟩ := Relay.registerPending_eq ok
      rcases eq_or_ne g g₁ with rfl | other
      · exact .register here
      · simp [other] at changed
  | cancel here | cancelExpired here => exact .cancel here
  | @stopPrevious _ _ _ c | @control c | @agentReturn c | @enqueue _ c =>
      rcases eq_or_ne g c with rfl | other
      · simp at changed
      · simp [other] at changed
  | _ => exact absurd rfl changed

theorem Rule.touchesEntry {s s' : Relay} {a : Act} (rule : Rule s a s') {d : DeviceId}
    (changed : s'.devices.lookup d ≠ s.devices.lookup d) : TouchesEntry s d a := by
  cases rule with
  | @insertFresh c d₁ heartbeat here | @insertOver c d₁ heartbeat _ here =>
      rcases eq_or_ne d d₁ with rfl | other
      · exact .insert here
      · simp [AList.lookup_insert_ne other] at changed
  | @unregister c d₁ heartbeat here =>
      rcases eq_or_ne d d₁ with rfl | other
      · exact .unregister here
      · simp only [Relay.goto_devices, Relay.unregister_devices] at changed
        split at changed
        · simp [AList.lookup_erase_ne other] at changed
        · exact absurd rfl changed
  | register here ok =>
      obtain ⟨rfl, -, -⟩ := Relay.registerPending_eq ok
      exact absurd rfl changed
  | _ => exact absurd rfl changed

section Authorisation

variable {cfg : Settings} {auth : AuthSnapshot} {acts : List Act} {s s' : Relay} {a : Act}

theorem entry_authorised (run : Run cfg auth acts s) (rule : Rule s a s') {d : DeviceId}
    (changed : s'.devices.lookup d ≠ s.devices.lookup d) :
    ∃ c, (a = .task c (.insert d) ∨ a = .task c .unregister) ∧
      Authenticated cfg auth acts c .agent (some d) := by
  cases rule.touchesEntry changed with
  | @insert c _ here =>
      have standing := run_standing run c
      rw [here] at standing
      exact ⟨c, .inl rfl, standing⟩
  | @unregister c _ here =>
      have standing := run_standing run c
      rw [here] at standing
      exact ⟨c, .inr rfl, standing⟩

theorem pending_authorised (run : Run cfg auth acts s) (rule : Rule s a s') {g : ConnId}
    (changed : (s'.device g).pending ≠ (s.device g).pending) :
    ∃ c, (a = .task c .take ∧ ∃ d, GenerationOf acts d g ∧
          Authenticated cfg auth acts c .agentSession (some d)) ∨
      ((a = .task c .register ∨ a = .task c .cancel) ∧
        ∃ deviceId, Authenticated cfg auth acts c .controller deviceId) ∨
      (c = g ∧ ∃ d, (a = .task c (.insert d) ∨ a = .task c .failPending) ∧
        Authenticated cfg auth acts c .agent (some d)) := by
  cases rule.touchesPending changed with
  | @insert d _ here =>
      have standing := run_standing run g
      rw [here] at standing
      exact ⟨g, .inr (.inr ⟨rfl, d, .inl rfl, standing⟩)⟩
  | @failPending d _ here =>
      have standing := run_standing run g
      rw [here] at standing
      exact ⟨g, .inr (.inr ⟨rfl, d, .inr rfl, standing⟩)⟩
  | @take c d _ here =>
      have standing := run_standing run c
      rw [here] at standing
      exact ⟨c, .inl ⟨rfl, d, (run_sought run c).take here, standing⟩⟩
  | @register c _ here =>
      have standing := run_standing run c
      rw [here] at standing
      exact ⟨c, .inr (.inl ⟨.inl rfl, standing⟩)⟩
  | @cancel c _ here =>
      have standing := run_standing run c
      rw [here] at standing
      exact ⟨c, .inr (.inl ⟨.inr rfl, standing⟩)⟩

/-- **Authorisation over whole runs.** -/
theorem authorisation (run : Run cfg auth acts s) (taken : step cfg s a = some s') :
    (∀ d, s'.devices.lookup d ≠ s.devices.lookup d →
      ∃ c, (a = .task c (.insert d) ∨ a = .task c .unregister) ∧
        Authenticated cfg auth acts c .agent (some d)) ∧
    (∀ g, (s'.device g).pending ≠ (s.device g).pending →
      ∃ c, (a = .task c .take ∧ ∃ d, GenerationOf acts d g ∧
          Authenticated cfg auth acts c .agentSession (some d)) ∨
        ((a = .task c .register ∨ a = .task c .cancel) ∧
          ∃ deviceId, Authenticated cfg auth acts c .controller deviceId) ∨
        (c = g ∧ ∃ d, (a = .task c (.insert d) ∨ a = .task c .failPending) ∧
          Authenticated cfg auth acts c .agent (some d))) ∧
    (∀ c devices, sentFrame c a = some (.deviceList devices) →
      ∃ deviceId, Authenticated cfg auth acts c .controller deviceId) ∧
    (∀ c e, a = .task c e → (∀ role deviceId, ¬ Authenticated cfg auth acts c role deviceId) →
      (∀ d, s'.devices.lookup d = s.devices.lookup d) ∧
        ∀ g, (s'.device g).pending = (s.device g).pending) ∧
    (∀ c e d, a = .task c e →
      (Authenticated cfg auth acts c .agent (some d) ∨
        Authenticated cfg auth acts c .agentSession (some d)) →
      ∀ d', d' ≠ d → s'.devices.lookup d' = s.devices.lookup d' ∧
        ∀ g, GenerationOf acts d' g → (s'.device g).pending = (s.device g).pending) := by
  have rule := step_rule taken
  refine ⟨fun d => entry_authorised run rule, fun g => pending_authorised run rule,
    fun c devices sent => ?_, ?_, ?_⟩
  · obtain ⟨point, here⟩ := deviceList_controller run rule sent
    have standing := run_standing run c
    rw [here] at standing
    exact standing
  · rintro c e rfl stranger
    constructor
    · intro d
      by_contra changed
      obtain ⟨c', same | same, known⟩ := entry_authorised run rule changed <;> cases same <;>
        exact stranger _ _ known
    · intro g
      by_contra changed
      obtain ⟨c', ⟨same, d, -, known⟩ | ⟨same | same, deviceId, known⟩ |
        ⟨-, d, same | same, known⟩⟩ := pending_authorised run rule changed <;> cases same <;>
        exact stranger _ _ known
  · rintro c e d rfl party d' other
    -- whoever authenticates as an agent or a session of `d'` is not this connection
    have apart : ∀ role, ¬ Authenticated cfg auth acts c role (some d') := by
      intro role known
      rcases party with one | one <;> exact other (Option.some.inj (known.unique one).2)
    constructor
    · by_contra changed
      obtain ⟨c', same | same, known⟩ := entry_authorised run rule changed <;> cases same <;>
        exact apart _ known
    · intro g generation
      by_contra changed
      obtain ⟨c', ⟨same, d₁, mine, known⟩ | ⟨same, deviceId, known⟩ | ⟨rfl, d₁, same, -⟩⟩ :=
        pending_authorised run rule changed
      · cases same
        cases generation_unique run generation mine
        exact apart _ known
      · have role : ∀ role, Authenticated cfg auth acts c role (some d) → role = .controller := by
          intro role one
          rcases same with same | same <;> cases same <;> exact (one.unique known).1
        rcases party with one | one <;> cases role _ one
      · have known := generation_authenticated run generation
        rcases same with same | same <;> cases same <;> exact apart _ known

end Authorisation

/-- The agent of `desk` has been let in and is about to register. -/
def letIn : Relay :=
  (exec (step plainSettings) (Relay.start oneDevice)
    (joins 0 .agent (some "desk") deviceToken)).get (by decide)

theorem authorisation_insert :
    ∃ c, (Act.task 0 (.insert "desk") = .task c (.insert "desk") ∨
        Act.task 0 (.insert "desk") = .task c .unregister) ∧
      Authenticated plainSettings oneDevice (joins 0 .agent (some "desk") deviceToken) c .agent
        (some "desk") := by
  have run : Run plainSettings oneDevice (joins 0 .agent (some "desk") deviceToken) letIn :=
    (Option.some_get _).symm
  have taken : step plainSettings letIn (.task 0 (.insert "desk")) =
      some ((step plainSettings letIn (.task 0 (.insert "desk"))).get (by decide)) :=
    (Option.some_get _).symm
  exact (authorisation run taken).1 "desk" (by decide)

end RustSsh.Server
