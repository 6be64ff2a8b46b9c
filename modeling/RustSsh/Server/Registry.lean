/-
# Server.Registry -- control connections of one device replace each other

`devices.insert`, `stop_device` and `unregister` are separate lock sections of
different tasks.  Seen from the registry they are the steps of a `Takeover`: the
relay refines it (`rule_takeover`), so what is valid of a takeover in every order of
steps holds of the registry.  `registry_generations` puts together what that means
for the connections of a device.
-/
import RustSsh.Server.Senders
import RustSsh.Theory.Takeover

namespace RustSsh.Server

open RustSsh.Theory RustSsh.Protocol

set_option autoImplicit false

/-- Where a connection stands as a generation of its device. -/
def Phase.stage : Phase → Stage DeviceId ConnId
  | .agent _ _ .insert => .fresh
  | .agent d _ (.stopPrevious previous) => .announcing d previous
  | .agent d _ (.running _) => .serving d
  | .agent d _ .failPending => .leaving d
  | .agent d _ (.failing _) => .leaving d
  | .agent _ _ .unregistered => .gone
  | .returned => .gone
  | _ => .fresh

namespace Phase

theorem stage_announcing {phase : Phase} {d : DeviceId} {previous : ConnId} :
    phase.stage = .announcing d previous ↔
      ∃ heartbeat, phase = .agent d heartbeat (.stopPrevious previous) := by
  constructor
  · intro announcing
    unfold stage at announcing
    split at announcing <;> simp_all
  · rintro ⟨heartbeat, rfl⟩
    rfl

theorem stage_key {phase : Phase} {d : DeviceId} (key : phase.stage.key = some d) :
    ∃ heartbeat point, phase = .agent d heartbeat point := by
  unfold stage at key
  split at key <;> simp_all [Stage.key]

end Phase

/-- The relay as a registry of generations. -/
def Relay.takeover (s : Relay) : Takeover DeviceId ConnId where
  registry d := s.devices.lookup d
  stage c := (s.task c).phase.stage
  signalled g := (s.device g).shutdown.value.isSome

theorem Moves.stage_eq {s : Relay} {c : ConnId} {phase next : Phase} {e : Event}
    (moves : Moves s c phase e next) : phase.stage = .fresh ∧ next.stage = .fresh := by
  cases moves <;> exact ⟨rfl, rfl⟩

theorem Finishes.stage_eq {phase : Phase} {e : Event} (finishes : Finishes phase e) :
    phase.stage = .fresh := by
  cases finishes <;> rfl

/-- A stop signal that can still be sent, or was. -/
def Signalling (o : Oneshot Unit) : Prop := o = Oneshot.channel ∨ o = ⟨some (), false, true⟩

/-- Whoever may be told to stop can be told. -/
structure Signals (s : Relay) : Prop where
  registered : ∀ {d g}, s.devices.lookup d = some g → Signalling (s.device g).shutdown
  replaced : ∀ {c d heartbeat previous},
    (s.task c).phase = .agent d heartbeat (.stopPrevious previous) →
      Signalling (s.device previous).shutdown

/-- The signal after `stop_device`. -/
def stopped (o : Oneshot Unit) : Oneshot Unit := if o.sender then (o.send ()).1 else o

theorem stopped_signalling {o : Oneshot Unit} (signalling : Signalling o) :
    Signalling (stopped o) ∧ (stopped o).value.isSome = true := by
  rcases signalling with rfl | rfl <;> exact ⟨.inr rfl, rfl⟩

theorem signals_start (auth : AuthSnapshot) : Signals (Relay.start auth) where
  registered := by simp [Relay.start]
  replaced := by simp [Relay.start]

/-- The signals only go from sendable to sent. -/
theorem rule_shutdown {s s' : Relay} {a : Act} (rule : Rule s a s') (g : ConnId)
    (signalling : Signalling (s.device g).shutdown) : Signalling (s'.device g).shutdown := by
  cases rule with
  | @insertFresh c | @insertOver c =>
      rcases eq_or_ne g c with rfl | other
      · exact .inl (by simp [Device.new])
      · simpa [other] using signalling
  | @stopPrevious c d heartbeat previous =>
      rcases eq_or_ne g previous with rfl | other
      · simpa [stopped] using (stopped_signalling signalling).1
      · simpa [other] using signalling
  | @register c g₁ sessionId registered here ok =>
      obtain ⟨rfl, -, -⟩ := Relay.registerPending_eq ok
      rcases eq_or_ne g g₁ with rfl | other
      · simpa using signalling
      · simpa [other] using signalling
  | @control c | @failPending c | @agentReturn c | @take _ _ c | @enqueue _ c | @cancel _ c
  | @cancelExpired _ _ c =>
      rcases eq_or_ne g c with rfl | other
      · simpa using signalling
      · simpa [other] using signalling
  | _ => exact signalling

namespace Rule

variable {s s' : Relay} {a : Act} {d : DeviceId} {g : ConnId}

/-- Only its own insertion registers a connection. -/
theorem registers (rule : Rule s a s') (found : s'.devices.lookup d = some g) :
    s.devices.lookup d = some g ∨ a = .task g (.insert d) := by
  cases rule with
  | insertFresh | insertOver =>
      rcases HashMap.lookup_insert_iff.mp found with ⟨rfl, rfl⟩ | ⟨-, before⟩
      · exact .inr rfl
      · exact .inl before
  | @unregister c d₁ =>
      simp only [Relay.goto_devices, Relay.unregister_devices] at found
      split at found
      · exact .inl (HashMap.lookup_erase_iff.mp found).2
      · exact .inl found
  | register here ok =>
      obtain ⟨rfl, -, -⟩ := Relay.registerPending_eq ok
      exact .inl found
  | _ => exact .inl found

/-- A registered connection stays registered until it withdraws or is replaced. -/
theorem stays_registered (rule : Rule s a s') (found : s.devices.lookup d = some g) :
    s'.devices.lookup d = some g ∨ a = .task g .unregister ∨ ∃ c, a = .task c (.insert d) := by
  cases rule with
  | @insertFresh c d₁ | @insertOver c d₁ =>
      rcases eq_or_ne d d₁ with rfl | other
      · exact .inr (.inr ⟨c, rfl⟩)
      · exact .inl (HashMap.lookup_insert_iff.mpr (.inr ⟨other, found⟩))
  | @unregister c d₁ =>
      simp only [Relay.goto_devices, Relay.unregister_devices]
      split
      · rename_i own
        rcases eq_or_ne d d₁ with rfl | other
        · rw [own] at found
          cases found
          exact .inr (.inl rfl)
        · exact .inl (HashMap.lookup_erase_iff.mpr ⟨other, found⟩)
      · exact .inl found
  | register here ok =>
      obtain ⟨rfl, -, -⟩ := Relay.registerPending_eq ok
      exact .inl found
  | _ => exact .inl found

end Rule

theorem Moves.not_insert {s : Relay} {c : ConnId} {phase next : Phase} {d : DeviceId} :
    ¬ Moves s c phase (.insert d) next := by
  intro moves
  cases moves with
  | notReady _ _ _ _ incoming => cases incoming

theorem Finishes.not_insert {phase : Phase} {d : DeviceId} : ¬ Finishes phase (.insert d) := by
  intro finishes
  cases finishes <;> rename_i incoming <;> cases incoming

/-- What an insertion does. -/
theorem Rule.inserted {s s' : Relay} {c : ConnId} {d : DeviceId}
    (rule : Rule s (.task c (.insert d)) s') :
    (∃ heartbeat, (s.task c).phase = .agent d heartbeat .insert) ∧
      s'.devices = s.devices.insert d c ∧ s'.device c = .new := by
  cases rule with
  | move moves => exact absurd moves Moves.not_insert
  | finish finishes => exact absurd finishes Finishes.not_insert
  | insertFresh here | insertOver here => exact ⟨⟨_, here⟩, rfl, by simp⟩

/-- A connection about to stop another one has just replaced it. -/
theorem Rule.replaces {s s' : Relay} {a : Act} (rule : Rule s a s') {c previous : ConnId}
    {d : DeviceId} {heartbeat : Bool}
    (here : (s'.task c).phase = .agent d heartbeat (.stopPrevious previous)) :
    (s.task c).phase = .agent d heartbeat (.stopPrevious previous) ∨
      s.devices.lookup d = some previous := by
  cases a with
  | accept =>
      cases rule with
      | full => exact .inl here
      | spawn =>
          rcases eq_or_ne c s.admitted with rfl | other
          · simp at here
          · exact .inl (by simpa [other] using here)
  | reload auth =>
      cases rule
      exact .inl here
  | task c' e =>
      rcases eq_or_ne c c' with rfl | other
      · cases rule with
        | move moves =>
            have fresh := moves.stage_eq.2
            simp only [Relay.goto_task, Function.update_self] at here
            rw [here] at fresh
            cases fresh
        | insertOver at_ found =>
            simp only [Relay.goto_task, Function.update_self, Phase.agent.injEq,
              AgentPoint.stopPrevious.injEq] at here
            obtain ⟨rfl, -, rfl⟩ := here
            exact .inr found
        | control =>
            simp only [Relay.goto_task, Function.update_self, Phase.agent.injEq] at here
            obtain ⟨-, -, point⟩ := here
            split at point <;> cases point
        | register at_ ok =>
            obtain ⟨rfl, -, -⟩ := Relay.registerPending_eq ok
            simp at here
        | _ => simp at here
      · exact .inl (by rwa [rule.task_other other] at here)

theorem rule_signals {s s' : Relay} {a : Act} (holds : Signals s) (rule : Rule s a s') :
    Signals s' where
  registered := by
    intro d g found
    rcases rule.registers found with before | rfl
    · exact rule_shutdown rule g (holds.registered before)
    · exact .inl (by rw [rule.inserted.2.2]; rfl)
  replaced := by
    intro c d heartbeat previous here
    rcases rule.replaces here with before | found
    · exact rule_shutdown rule previous (holds.replaced before)
    · exact rule_shutdown rule previous (holds.registered found)

/-! ## The refinement -/

section Refinement

variable {s s' : Relay} {c g : ConnId} {t : Task} {device : Device}

theorem takeover_eq {r : DeviceId → Option ConnId}
    (tasks : s'.task = Function.update s.task c t)
    (devices : s'.device = Function.update s.device g device)
    (registered : ∀ d, s'.devices.lookup d = r d) :
    s'.takeover =
      { registry := r
        stage := Function.update s.takeover.stage c t.phase.stage
        signalled := Function.update s.takeover.signalled g device.shutdown.value.isSome } := by
  have stages : s'.takeover.stage = Function.update s.takeover.stage c t.phase.stage := by
    funext c'
    rcases eq_or_ne c' c with rfl | other <;> simp [Relay.takeover, *]
  have signals : s'.takeover.signalled =
      Function.update s.takeover.signalled g device.shutdown.value.isSome := by
    funext g'
    rcases eq_or_ne g' g with rfl | other <;> simp [Relay.takeover, *]
  rw [← stages, ← signals, ← funext registered]
  rfl

/-- A step that keeps the registry and the signals, and takes one task to `t`. -/
theorem takeover_stage (tasks : s'.task = Function.update s.task c t)
    (devices : s'.device = Function.update s.device g device)
    (shutdown : device.shutdown = (s.device g).shutdown) (registry : s'.devices = s.devices) :
    s'.takeover =
      { s.takeover with stage := Function.update s.takeover.stage c t.phase.stage } := by
  have same := Function.update_eq_self g s.takeover.signalled
  rw [takeover_eq tasks devices fun d => by rw [registry], shutdown]
  exact congrArg (fun signalled => Takeover.mk _ _ signalled) same

theorem takeover_stutters (tasks : s'.task = Function.update s.task c t)
    (devices : s'.device = Function.update s.device g device)
    (shutdown : device.shutdown = (s.device g).shutdown) (registry : s'.devices = s.devices)
    (stage : t.phase.stage = (s.task c).phase.stage) : s'.takeover = s.takeover := by
  have same := Function.update_eq_self c s.takeover.stage
  rw [takeover_stage tasks devices shutdown registry, stage]
  exact congrArg (fun stage => Takeover.mk _ stage _) same

/-- A step that touches no device. -/
theorem takeover_stutters_task (tasks : s'.task = Function.update s.task c t)
    (devices : s'.device = s.device) (registry : s'.devices = s.devices)
    (stage : t.phase.stage = (s.task c).phase.stage) : s'.takeover = s.takeover :=
  takeover_stutters (g := c) tasks (by rw [devices, Function.update_eq_self]) rfl registry stage

/-- A handler that never registered returns. -/
theorem takeover_abandon (tasks : s'.task = Function.update s.task c t)
    (devices : s'.device = s.device) (registry : s'.devices = s.devices)
    (before : (s.task c).phase.stage = .fresh) (after : t.phase.stage = .gone) :
    Takeover.Step s.takeover s'.takeover := by
  rw [takeover_stage (g := c) tasks (by rw [devices, Function.update_eq_self]) rfl registry, after]
  exact .abandon before

variable {d : DeviceId}

theorem takeover_enter (tasks : s'.task = Function.update s.task c t)
    (devices : s'.device = Function.update s.device c .new)
    (registry : s'.devices = s.devices.insert d c) (absent : s.devices.lookup d = none)
    (before : (s.task c).phase.stage = .fresh) (after : t.phase.stage = .serving d) :
    Takeover.Step s.takeover s'.takeover := by
  rw [takeover_eq tasks devices fun k =>
    registry ▸ HashMap.lookup_insert_update s.devices d c k, after]
  exact .enter d before absent

theorem takeover_replace {previous : ConnId} (tasks : s'.task = Function.update s.task c t)
    (devices : s'.device = Function.update s.device c .new)
    (registry : s'.devices = s.devices.insert d c) (found : s.devices.lookup d = some previous)
    (before : (s.task c).phase.stage = .fresh) (after : t.phase.stage = .announcing d previous) :
    Takeover.Step s.takeover s'.takeover := by
  rw [takeover_eq tasks devices fun k =>
    registry ▸ HashMap.lookup_insert_update s.devices d c k, after]
  exact .replace before found

theorem takeover_announce {previous : ConnId} (tasks : s'.task = Function.update s.task c t)
    (devices : s'.device = Function.update s.device previous device)
    (told : device.shutdown.value.isSome = true) (registry : s'.devices = s.devices)
    (before : (s.task c).phase.stage = .announcing d previous)
    (after : t.phase.stage = .serving d) : Takeover.Step s.takeover s'.takeover := by
  rw [takeover_eq tasks devices fun k => by rw [registry], after, told]
  exact .announce before

theorem takeover_leave (tasks : s'.task = Function.update s.task c t)
    (devices : s'.device = Function.update s.device g device)
    (shutdown : device.shutdown = (s.device g).shutdown) (registry : s'.devices = s.devices)
    (before : (s.task c).phase.stage = .serving d) (after : t.phase.stage = .leaving d) :
    Takeover.Step s.takeover s'.takeover := by
  rw [takeover_stage tasks devices shutdown registry, after]
  exact .leave before

theorem takeover_withdraw (tasks : s'.task = Function.update s.task c t)
    (devices : s'.device = s.device) (registry : s'.devices = (s.unregister d c).devices)
    (before : (s.task c).phase.stage = .leaving d) (after : t.phase.stage = .gone) :
    Takeover.Step s.takeover s'.takeover := by
  have same := Function.update_eq_self c s.device
  have signals := Function.update_eq_self c s.takeover.signalled
  have withdrawn := Takeover.Step.withdraw (t := s.takeover) before
  rw [takeover_eq (r := if s.devices.lookup d = some c then
      Function.update s.takeover.registry d none else s.takeover.registry)
    tasks (by rw [devices, same]) ?_, after]
  · exact signals.symm ▸ withdrawn
  · intro k
    rw [registry, Relay.unregister_devices]
    split
    · exact HashMap.lookup_erase_update s.devices d k
    · rfl

end Refinement

/-- **The relay refines the takeover**: each of its steps is a step of it, or none. -/
theorem rule_takeover {s s' : Relay} {a : Act} (unborn : Unborn s) (signals : Signals s)
    (rule : Rule s a s') :
    s'.takeover = s.takeover ∨ Takeover.Step s.takeover s'.takeover := by
  cases rule with
  | full | reload => exact .inl rfl
  | spawn =>
      exact .inl (takeover_stutters_task rfl rfl rfl (by rw [unborn _ le_rfl]; rfl))
  | move moves =>
      exact .inl (takeover_stutters_task rfl rfl rfl
        (moves.stage_eq.2.trans moves.stage_eq.1.symm))
  | finish finishes => exact .inr (takeover_abandon rfl rfl rfl finishes.stage_eq rfl)
  | handOver here => exact .inr (takeover_abandon rfl rfl rfl (by rw [here]; rfl) rfl)
  | insertFresh here absent =>
      exact .inr (takeover_enter rfl rfl rfl absent (by rw [here]; rfl) rfl)
  | insertOver here found =>
      exact .inr (takeover_replace rfl rfl rfl found (by rw [here]; rfl) rfl)
  | stopPrevious here =>
      have sent := (stopped_signalling (signals.replaced here)).2
      exact .inr (takeover_announce rfl rfl sent rfl (by rw [here]; rfl) rfl)
  | @control c d heartbeat control control' e here =>
      by_cases left : control'.point = .left
      · rw [if_pos left]
        exact .inr (takeover_leave (d := d) rfl rfl (by simp) rfl (by rw [here]; rfl) rfl)
      · rw [if_neg left]
        exact .inl (takeover_stutters rfl rfl (by simp) rfl (by rw [here]; rfl))
  | unregister here =>
      exact .inr (takeover_withdraw rfl rfl rfl (by rw [here]; rfl) rfl)
  | register here ok =>
      obtain ⟨rfl, -, -⟩ := Relay.registerPending_eq ok
      exact .inl (takeover_stutters rfl rfl rfl rfl (by rw [here]; rfl))
  | failPending here | agentReturn here | take here | enqueue here | cancel here
  | cancelExpired here =>
      exact .inl (takeover_stutters rfl rfl rfl rfl (by rw [here]; rfl))
  | failRequest here | refuse here | enqueueClosed here | receive here | receiveRefusal here
  | receiveClosed here | expireEnqueue here | expireAwait here | refuseCancelled here =>
      exact .inl (takeover_stutters_task rfl rfl rfl (by rw [here]; rfl))

/-! ## What it means for the connections of a device -/

theorem run_takeover {cfg : Settings} {auth : AuthSnapshot} {acts : List Act} {s : Relay}
    (run : Run cfg auth acts s) : Signals s ∧ s.takeover.Valid := by
  refine exec_induction (P := fun _ s => Signals s ∧ s.takeover.Valid)
    ⟨signals_start auth, ?_⟩ ?_ acts s run
  · exact Takeover.valid_empty fun _ => false
  rintro acts s a s' before ⟨signals, valid⟩ taken
  have rule := step_rule taken
  refine ⟨rule_signals signals rule, ?_⟩
  rcases rule_takeover (run_senders before).1 signals rule with same | stepped
  · rwa [same]
  · exact valid.step stepped

/-- From its insertion on, a connection is the registered one until it withdraws or
another one is inserted. -/
theorem insertion_stays {cfg : Settings} {s s' : Relay} {post : List Act} {c : ConnId}
    {d : DeviceId} (run : exec (step cfg) s post = some s')
    (registered : s.devices.lookup d = some c)
    (newest : ∀ c', Act.task c' (.insert d) ∉ post) (here : Act.task c .unregister ∉ post) :
    s'.devices.lookup d = some c := by
  refine exec_preserves (I := fun s => s.devices.lookup d = some c)
    (P := fun a => a ≠ .task c .unregister ∧ ∀ c', a ≠ .task c' (.insert d)) ?_
    post s s' run ?_ registered
  · rintro s a s' holds ⟨notWithdrawn, notReplaced⟩ taken
    rcases (step_rule taken).stays_registered holds with stays | rfl | ⟨c', rfl⟩
    · exact stays
    · exact absurd rfl notWithdrawn
    · exact absurd rfl (notReplaced c')
  · intro a member
    refine ⟨?_, fun c' => ?_⟩
    · rintro rfl
      exact here member
    · rintro rfl
      exact newest c' member

/-- After its insertion a control connection touches no other one: not its registry
entry, not its pending map, not the requests in it. -/
theorem agent_frame {s s' : Relay} {c : ConnId} {d : DeviceId} {heartbeat : Bool}
    {point : AgentPoint} {e : Event} (senders : Senders s)
    (here : (s.task c).phase = .agent d heartbeat point) (rule : Rule s (.task c e) s')
    (inserted : ∀ d, e ≠ .insert d) {g : ConnId} (other : g ≠ c) :
    (∀ d, s.devices.lookup d = some g → s'.devices.lookup d = some g) ∧
      (s'.device g).pending = (s.device g).pending ∧
      ∀ sessionId k, (s.device g).pending.lookup sessionId = some k →
        s'.response k = s.response k := by
  refine ⟨fun d found => ?_, ?_⟩
  · rcases rule.stays_registered found with stays | same | ⟨c', same⟩
    · exact stays
    · cases same
      exact absurd rfl other
    · cases same
      exact absurd rfl (inserted _)
  cases rule with
  | move | finish | unregister => exact ⟨rfl, fun _ _ _ => rfl⟩
  | insertFresh | insertOver => exact absurd rfl (inserted _)
  | @stopPrevious _ _ _ previous =>
      refine ⟨?_, fun _ _ _ => rfl⟩
      rcases eq_or_ne g previous with rfl | apart
      · simp
      · simp [apart]
  | control | failPending | agentReturn => exact ⟨by simp [other], fun _ _ _ => rfl⟩
  | @failRequest _ _ _ responses k at_ member =>
      refine ⟨rfl, fun sessionId k' found => ?_⟩
      have held : s.HoldsSender (.task c) k := by
        simpa [Relay.HoldsSender, at_, Phase.senders] using member
      have apart : k' ≠ k := by
        rintro rfl
        exact absurd (senders.exclusive (p := .entry g sessionId) found held) (by simp)
      simp [apart]
  | _ at_ => rw [here] at at_; cases at_

/-- **Registry generations.**  The newest insertion of a device is the registered
connection until it withdraws; no other step of a control connection touches another
one's entry or requests; a connection that runs without being registered was told to
stop, or the one that replaced it is about to; a device without a handler is not
registered. -/
theorem registry_generations {cfg : Settings} {auth : AuthSnapshot} {acts : List Act} {s : Relay}
    (run : Run cfg auth acts s) :
    (∀ pre c d post, acts = pre ++ .task c (.insert d) :: post →
      (∀ c', Act.task c' (.insert d) ∉ post) → Act.task c .unregister ∉ post →
        s.devices.lookup d = some c) ∧
    (∀ c d heartbeat point e s', (s.task c).phase = .agent d heartbeat point →
      step cfg s (.task c e) = some s' → (∀ d, e ≠ .insert d) → ∀ g, g ≠ c →
        (∀ d, s.devices.lookup d = some g → s'.devices.lookup d = some g) ∧
        (s'.device g).pending = (s.device g).pending ∧
        ∀ sessionId k, (s.device g).pending.lookup sessionId = some k →
          s'.response k = s.response k) ∧
    (∀ g d heartbeat control, (s.task g).phase = .agent d heartbeat (.running control) →
      s.devices.lookup d ≠ some g →
        (s.device g).shutdown.value = some () ∨
          ∃! h, ∃ heartbeat, (s.task h).phase = .agent d heartbeat (.stopPrevious g)) ∧
    (∀ d, (∀ g heartbeat point, (s.task g).phase ≠ .agent d heartbeat point) →
      s.devices.lookup d = none) := by
  obtain ⟨unborn, senders⟩ := run_senders run
  obtain ⟨signals, valid⟩ := run_takeover run
  refine ⟨?_, ?_, ?_, ?_⟩
  · rintro pre c d post rfl newest here
    obtain ⟨before, after, -, taken, rest⟩ := exec_split run
    have registered : after.devices.lookup d = some c := by
      rw [(step_rule taken).inserted.2.1]
      exact AList.lookup_insert before.devices
    exact insertion_stays rest registered newest here
  · intro c d heartbeat point e s' here taken inserted g other
    exact agent_frame senders here (step_rule taken) inserted other
  · intro g d heartbeat control here lost
    have key : (s.takeover.stage g).key = some d := by
      simp [Relay.takeover, here, Phase.stage, Stage.key]
    rcases valid.notice key lost with told | ⟨h, announcing⟩
    · exact .inl (Option.isSome_iff_exists.mp told).choose_spec
    · refine .inr ⟨h, Phase.stage_announcing.mp announcing, fun h' announcing' => ?_⟩
      exact valid.once (Phase.stage_announcing.mpr announcing') announcing
  · intro d idle
    cases found : s.devices.lookup d with
    | none => rfl
    | some g =>
        obtain ⟨heartbeat, point, here⟩ := Phase.stage_key (valid.registered found)
        exact absurd here (idle g heartbeat point)

/-- Connection 1 has taken `desk` over from connection 0 and not told it yet. -/
def takenOver : List Act :=
  registers 0 "desk" deviceToken ++ registers 1 "desk" deviceToken

def takenOverEnd : Relay :=
  (exec (step plainSettings) (Relay.start oneDevice) takenOver).get (by decide)

theorem registry_generations_takenOver :
    takenOverEnd.devices.lookup "desk" = some 1 ∧
      ((takenOverEnd.device 0).shutdown.value = some () ∨
        ∃! h, ∃ heartbeat,
          (takenOverEnd.task h).phase = .agent "desk" heartbeat (.stopPrevious 0)) := by
  have run : Run plainSettings oneDevice takenOver takenOverEnd := (Option.some_get _).symm
  obtain ⟨newest, -, notice, -⟩ := registry_generations run
  exact ⟨newest (registers 0 "desk" deviceToken ++ joins 1 .agent (some "desk") deviceToken) 1 "desk"
      [] rfl (by simp) (by simp),
    notice 0 "desk" false (Control.start false) (by decide) (by decide)⟩

end RustSsh.Server
