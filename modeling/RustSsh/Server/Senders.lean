/-
# Server.Senders -- the sender of a response is in one place

A request's `oneshot::Sender` is made by `register_pending` and then moves: out of
the pending map into the session that took it, into the list `fail_pending` works
through, or back to the controller that cancels.  `Senders` says it is never in two
of these places, that it is unused as long as it is in one, and that the receiver
lives exactly while its controller waits.  Everything the relay promises about a
request rests on this.
-/
import RustSsh.Server.Rules
import RustSsh.Theory.Ownership

namespace RustSsh.Server

open RustSsh.Theory RustSsh.Protocol

set_option autoImplicit false

/-- Where the sender of a response can be. -/
inductive SenderPlace where
  | entry (g : ConnId) (sessionId : SessionId)
  | task (c : ConnId)
  deriving DecidableEq

namespace Phase

/-- The senders the locals of a handler hold. -/
def senders : Phase → List ConnId
  | .agent _ _ (.failing responses) => responses
  | .session _ (.accept _ k) => [k]
  | .session _ (.ready _ k) => [k]
  | .session _ (.respond k _) => [k]
  | .controller (.refuse k _ _) => [k]
  | _ => []

/-- The handler still holds the receiver of its response. -/
def awaits : Phase → Bool
  | .controller (.enqueue _ _) => true
  | .controller (.await _ _) => true
  | _ => false

/-- The handler has made no response channel yet. -/
def early : Phase → Bool
  | .agent _ _ _ => true
  | .session _ _ => true
  | .controller .request => true
  | .controller .list => true
  | .controller (.lookup _ _) => true
  | .controller (.register _ _) => true
  | .controller _ => false
  | .returned => false
  | _ => true

end Phase

namespace Moves

variable {s : Relay} {c : ConnId} {phase next : Phase} {e : Event}

theorem senders_sublist (moves : Moves s c phase e next) :
    next.senders.Sublist phase.senders := by
  cases moves <;> simp [Phase.senders]

theorem awaits_eq (moves : Moves s c phase e next) :
    phase.awaits = false ∧ next.awaits = false := by
  cases moves <;> exact ⟨rfl, rfl⟩

theorem early_of (moves : Moves s c phase e next) (early : next.early = true) :
    phase.early = true := by
  cases moves <;> first | rfl | exact early

end Moves

theorem Finishes.awaits_eq {phase : Phase} {e : Event} (finishes : Finishes phase e) :
    phase.awaits = false := by
  cases finishes <;> rfl

namespace Relay

/-- Place `p` holds the sender of the response to `k`. -/
def HoldsSender (s : Relay) : SenderPlace → ConnId → Prop
  | .entry g sessionId, k => (s.device g).pending.lookup sessionId = some k
  | .task c, k => k ∈ (s.task c).phase.senders

end Relay

/-! ## What a step does to them

Every rule replaces one task and at most one device, so the places it can change
are that task's locals and that device's map. -/

/-- A step drops senders, moves some to one place, or makes one with its channel. -/
inductive SenderStep (s s' : Relay) : Prop where
  | drop (after : ∀ p k, s'.HoldsSender p k → s.HoldsSender p k)
  | move (moved : ConnId → Prop) (dst : SenderPlace)
      (before : ∀ k, moved k → ∃ p, s.HoldsSender p k)
      (after : ∀ p k, s'.HoldsSender p k → (¬ moved k ∧ s.HoldsSender p k) ∨ (moved k ∧ p = dst))
  | make (made : ConnId) (dst : SenderPlace) (channel : s'.response made = Oneshot.channel)
      (after : ∀ p k, s'.HoldsSender p k → (k ≠ made ∧ s.HoldsSender p k) ∨ (k = made ∧ p = dst))

theorem SenderStep.exclusive {s s' : Relay} (passed : SenderStep s s')
    (exclusive : Exclusive s.HoldsSender) : Exclusive s'.HoldsSender := by
  cases passed with
  | drop after => exact exclusive.mono after
  | move moved dst before after => exact exclusive.transfer moved dst after
  | make made dst channel after => exact exclusive.transfer (· = made) dst after

theorem SenderStep.source {s s' : Relay} (passed : SenderStep s s') {p : SenderPlace} {k : ConnId}
    (held : s'.HoldsSender p k) :
    (∃ q, s.HoldsSender q k) ∨ s'.response k = Oneshot.channel := by
  cases passed with
  | drop after => exact .inl ⟨p, after p k held⟩
  | move moved dst before after =>
      rcases after p k held with ⟨-, was⟩ | ⟨gone, -⟩
      · exact .inl ⟨p, was⟩
      · exact .inl (before k gone)
  | make made dst channel after =>
      rcases after p k held with ⟨-, was⟩ | ⟨rfl, -⟩
      · exact .inl ⟨p, was⟩
      · exact .inr channel

section Effect

variable {s s' : Relay} {c g : ConnId} {t : Task} {d : Device}

theorem holds_task (tasks : s'.task = Function.update s.task c t) {c' k : ConnId} :
    s'.HoldsSender (.task c') k ↔
      (c' = c ∧ k ∈ t.phase.senders) ∨ (c' ≠ c ∧ s.HoldsSender (.task c') k) := by
  rcases eq_or_ne c' c with rfl | other
  · simp [Relay.HoldsSender, tasks]
  · simp [Relay.HoldsSender, tasks, other]

theorem holds_entry (devices : s'.device = Function.update s.device g d) {g' k : ConnId}
    {sessionId : SessionId} :
    s'.HoldsSender (.entry g' sessionId) k ↔
      (g' = g ∧ d.pending.lookup sessionId = some k) ∨
        (g' ≠ g ∧ s.HoldsSender (.entry g' sessionId) k) := by
  rcases eq_or_ne g' g with rfl | other
  · simp [Relay.HoldsSender, devices]
  · simp [Relay.HoldsSender, devices, other]

theorem drop_senders (tasks : s'.task = Function.update s.task c t)
    (devices : s'.device = Function.update s.device g d)
    (own : t.phase.senders ⊆ (s.task c).phase.senders)
    (entries : ∀ sessionId k, d.pending.lookup sessionId = some k →
      (s.device g).pending.lookup sessionId = some k) : SenderStep s s' := by
  refine .drop ?_
  rintro (⟨g', sessionId⟩ | c') k held
  · rcases (holds_entry devices).mp held with ⟨rfl, found⟩ | ⟨-, before⟩
    · exact entries sessionId k found
    · exact before
  · rcases (holds_task tasks).mp held with ⟨rfl, member⟩ | ⟨-, before⟩
    · exact own member
    · exact before

/-- A step that touches no device. -/
theorem drop_locals (tasks : s'.task = Function.update s.task c t)
    (devices : s'.device = s.device)
    (own : t.phase.senders ⊆ (s.task c).phase.senders) : SenderStep s s' :=
  drop_senders (g := c) tasks (by rw [devices, Function.update_eq_self]) own
    fun _ _ found => found

/-- `take_pending` moves a sender into the locals of the task that called it. -/
theorem take_sender {sessionId : SessionId} {k : ConnId} (exclusive : Exclusive s.HoldsSender)
    (found : (s.device g).pending.lookup sessionId = some k)
    (tasks : s'.task = Function.update s.task c t) (own : t.phase.senders = [k])
    (devices : s'.device = (s.removePending g sessionId).device) : SenderStep s s' := by
  have elsewhere : ∀ p k', p ≠ .entry g sessionId → s.HoldsSender p k' → k' ≠ k := by
    rintro p k' other held rfl
    exact other (exclusive held (show s.HoldsSender (.entry g sessionId) _ from found))
  refine .move (· = k) (.task c) ?_ ?_
  · rintro _ rfl
    exact ⟨.entry g sessionId, found⟩
  rintro (⟨g', id⟩ | c') k' held
  · left
    rcases (holds_entry devices).mp held with ⟨rfl, kept⟩ | ⟨other, before⟩
    · obtain ⟨different, before⟩ := HashMap.lookup_erase_iff.mp kept
      exact ⟨elsewhere (.entry g' id) k' (by simp [different]) before, before⟩
    · exact ⟨elsewhere _ k' (by simp [other]) before, before⟩
  · rcases (holds_task tasks).mp held with ⟨rfl, member⟩ | ⟨-, before⟩
    · right
      exact ⟨by simpa [own] using member, rfl⟩
    · left
      exact ⟨elsewhere _ k' (by simp) before, before⟩

/-- `fail_pending` moves every sender of the map. -/
theorem drain_senders (exclusive : Exclusive s.HoldsSender)
    (tasks : s'.task = Function.update s.task c t)
    (own : t.phase.senders = (s.device c).pending.values)
    (devices : s'.device = (s.drainPending c).device) : SenderStep s s' := by
  have elsewhere : ∀ p k, (∀ id, p ≠ .entry c id) → s.HoldsSender p k →
      k ∉ (s.device c).pending.values := by
    intro p k other held member
    obtain ⟨id, found⟩ := HashMap.mem_values.mp member
    exact other id (exclusive held (show s.HoldsSender (.entry c id) k from found))
  refine .move (· ∈ (s.device c).pending.values) (.task c) ?_ ?_
  · intro k member
    obtain ⟨id, found⟩ := HashMap.mem_values.mp member
    exact ⟨.entry c id, found⟩
  rintro (⟨g', id⟩ | c') k held
  · left
    rcases (holds_entry devices).mp held with ⟨rfl, kept⟩ | ⟨other, before⟩
    · simp at kept
    · exact ⟨elsewhere _ k (by simp [other]) before, before⟩
  · rcases (holds_task tasks).mp held with ⟨rfl, member⟩ | ⟨-, before⟩
    · right
      exact ⟨by simpa [own] using member, rfl⟩
    · left
      exact ⟨elsewhere _ k (by simp) before, before⟩

/-- `register_pending` puts a new sender into the map. -/
theorem register_sender {sessionId : SessionId} {k : ConnId} (new : ∀ p, ¬ s.HoldsSender p k)
    (channel : s'.response k = Oneshot.channel)
    (tasks : s'.task = Function.update s.task c t) (own : t.phase.senders = [])
    (devices : s'.device = Function.update s.device g
      { s.device g with pending := (s.device g).pending.insert sessionId k }) :
    SenderStep s s' := by
  have known : ∀ p k', s.HoldsSender p k' → k' ≠ k := by
    rintro p k' held rfl
    exact new p held
  refine .make k (.entry g sessionId) channel ?_
  rintro (⟨g', id⟩ | c') k' held
  · rcases (holds_entry devices).mp held with ⟨rfl, found⟩ | ⟨-, before⟩
    · rcases HashMap.lookup_insert_iff.mp found with ⟨rfl, rfl⟩ | ⟨-, before⟩
      · exact .inr ⟨rfl, rfl⟩
      · exact .inl ⟨known (.entry g' id) k' before, before⟩
    · exact .inl ⟨known _ k' before, before⟩
  · left
    rcases (holds_task tasks).mp held with ⟨rfl, member⟩ | ⟨-, before⟩
    · simp [own] at member
    · exact ⟨known _ k' before, before⟩

theorem awaits_task (tasks : s'.task = Function.update s.task c t)
    (own : t.phase.awaits = (s.task c).phase.awaits) (k : ConnId) :
    (s'.task k).phase.awaits = (s.task k).phase.awaits := by
  rcases eq_or_ne k c with rfl | other
  · simp [tasks, own]
  · simp [tasks, other]

/-- The task that held a sender gave it up. -/
theorem given_up {k : ConnId} (exclusive : Exclusive s.HoldsSender)
    (before : k ∈ (s.task c).phase.senders) (tasks : s'.task = Function.update s.task c t)
    (devices : s'.device = s.device) (own : k ∉ t.phase.senders) :
    ∀ p, ¬ s'.HoldsSender p k := by
  have place := fun p held => exclusive (t := k) (p := p) (q := .task c) held before
  rintro (⟨g', id⟩ | c') held
  · have still : s.HoldsSender (.entry g' id) k := by simpa [Relay.HoldsSender, devices] using held
    exact absurd (place _ still) (by simp)
  · rcases (holds_task tasks).mp held with ⟨rfl, member⟩ | ⟨other, still⟩
    · exact own member
    · exact other (SenderPlace.task.inj (place _ still))

/-- The entry that held a sender was removed. -/
theorem taken_out {k : ConnId} {sessionId : SessionId} (exclusive : Exclusive s.HoldsSender)
    (found : (s.device g).pending.lookup sessionId = some k)
    (tasks : s'.task = Function.update s.task c t)
    (devices : s'.device = (s.removePending g sessionId).device) (own : t.phase.senders = []) :
    ∀ p, ¬ s'.HoldsSender p k := by
  have place := fun p held => exclusive (t := k) (p := p) (q := .entry g sessionId) held found
  rintro (⟨g', id⟩ | c') held
  · rcases (holds_entry devices).mp held with ⟨rfl, kept⟩ | ⟨other, still⟩
    · obtain ⟨different, still⟩ := HashMap.lookup_erase_iff.mp kept
      exact different (SenderPlace.entry.inj (place (.entry g' id) still)).2
    · exact other (SenderPlace.entry.inj (place _ still)).1
  · rcases (holds_task tasks).mp held with ⟨rfl, member⟩ | ⟨-, still⟩
    · simp [own] at member
    · exact absurd (place _ still) (by simp)

end Effect

/-- What a step does to the response channels: nothing, one sender is used up, one
receiver is dropped, or one channel is made. -/
inductive ResponseStep (s s' : Relay) : Prop where
  | same (responses : s'.response = s.response)
      (awaits : ∀ k, (s'.task k).phase.awaits = (s.task k).phase.awaits)
  | answered (k : ConnId) (held : ∃ p, s.HoldsSender p k) (after : ∀ p, ¬ s'.HoldsSender p k)
      (o : Oneshot SessionHandoff)
      (used : (∃ v, o = ((s.response k).send v).1) ∨ o = (s.response k).dropSender)
      (responses : s'.response = Function.update s.response k o)
      (awaits : ∀ k, (s'.task k).phase.awaits = (s.task k).phase.awaits)
  | dropped (k : ConnId) (early : (s.task k).phase.early = false)
      (responses : s'.response =
        Function.update s.response k (s.response k).dropReceiver.1)
      (left : (s'.task k).phase.awaits = false)
      (awaits : ∀ k', k' ≠ k → (s'.task k').phase.awaits = (s.task k').phase.awaits)
  | made (k : ConnId) (held : ∃ p, s'.HoldsSender p k)
      (early : (s'.task k).phase.early = false)
      (responses : s'.response = Function.update s.response k Oneshot.channel)
      (entered : (s'.task k).phase.awaits = true)
      (awaits : ∀ k', k' ≠ k → (s'.task k').phase.awaits = (s.task k').phase.awaits)

/-! ## The invariant -/

structure Senders (s : Relay) : Prop where
  exclusive : Exclusive s.HoldsSender
  once : ∀ c, (s.task c).phase.senders.Nodup
  live : ∀ {p k}, s.HoldsSender p k →
    (s.response k).sender = true ∧ (s.response k).value = none
  fresh : ∀ k, (s.task k).phase.early = true → s.response k = Oneshot.closed
  receiver : ∀ k, (s.response k).receiver = (s.task k).phase.awaits
  valued : ∀ k v, (s.response k).value = some v → (s.response k).receiver = true

theorem senders_start (auth : AuthSnapshot) : Senders (Relay.start auth) where
  exclusive := by
    rintro k (⟨g, sessionId⟩ | c) q held
    · simp [Relay.HoldsSender, Relay.start, Device.absent] at held
    · simp [Relay.HoldsSender, Relay.start, Phase.senders] at held
  once := by simp [Relay.start, Phase.senders]
  live := by
    rintro (⟨g, sessionId⟩ | c) k held
    · simp [Relay.HoldsSender, Relay.start, Device.absent] at held
    · simp [Relay.HoldsSender, Relay.start, Phase.senders] at held
  fresh := by simp [Relay.start]
  receiver := by simp [Relay.start, Phase.awaits]
  valued := by simp [Relay.start]

namespace Senders

variable {s s' : Relay} {a : Act}

/-- Nobody holds the sender of a channel that was not made yet. -/
theorem unborn (holds : Senders s) {k : ConnId} (early : (s.task k).phase.early = true) :
    ∀ p, ¬ s.HoldsSender p k := by
  intro p held
  have sender := (holds.live held).1
  rw [holds.fresh k early] at sender
  cases sender

theorem rule_passed (holds : Senders s) (rule : Rule s a s') : SenderStep s s' := by
  have exclusive := holds.exclusive
  cases rule with
  | full | reload => exact .drop fun _ _ held => held
  | spawn => exact drop_locals rfl rfl (by simp [Phase.senders])
  | move moves => exact drop_locals rfl rfl moves.senders_sublist.subset
  | finish => exact drop_locals rfl rfl (by simp [Phase.senders])
  | insertFresh | insertOver =>
      exact drop_senders rfl rfl (by simp [Phase.senders]) (by simp [Device.new])
  | stopPrevious => exact drop_senders rfl rfl (by simp [Phase.senders]) (by simp)
  | control =>
      refine drop_senders rfl rfl ?_ (by simp)
      split <;> simp [Phase.senders]
  | failPending => exact drain_senders exclusive rfl rfl rfl
  | failRequest here member =>
      exact drop_locals rfl rfl (by simpa [Phase.senders, here] using List.erase_subset)
  | unregister => exact drop_locals rfl rfl (by simp [Phase.senders])
  | agentReturn => exact drop_senders rfl rfl (by simp [Phase.senders]) (by simp)
  | take here found => exact take_sender exclusive found rfl rfl rfl
  | handOver | refuse => exact drop_locals rfl rfl (by simp [Phase.senders])
  | @register c g sessionId registered here ok =>
      obtain ⟨rfl, -, -⟩ := Relay.registerPending_eq ok
      exact register_sender (holds.unborn (by rw [here]; rfl)) (by simp) rfl rfl rfl
  | enqueue => exact drop_senders rfl rfl (by simp [Phase.senders]) (by simp)
  | enqueueClosed | receive | receiveRefusal | receiveClosed | expireEnqueue | expireAwait
  | refuseCancelled => exact drop_locals rfl rfl (by simp [Phase.senders])
  | cancel here found => exact take_sender exclusive found rfl rfl rfl
  | cancelExpired =>
      exact drop_senders rfl rfl (by simp [Phase.senders])
        fun _ _ kept => (HashMap.lookup_erase_iff.mp kept).2

theorem rule_response (holds : Senders s) (unborn : Unborn s) (rule : Rule s a s') :
    ResponseStep s s' := by
  have exclusive := holds.exclusive
  cases rule with
  | full | reload => exact .same rfl fun _ => rfl
  | spawn => exact .same rfl (awaits_task rfl (by rw [unborn _ le_rfl]; rfl))
  | move moves => exact .same rfl (awaits_task rfl (moves.awaits_eq.2.trans moves.awaits_eq.1.symm))
  | finish finishes => exact .same rfl (awaits_task rfl finishes.awaits_eq.symm)
  | insertFresh here | insertOver here | stopPrevious here | failPending here
  | unregister here | agentReturn here | take here | enqueue here | cancel here =>
      exact .same rfl (awaits_task rfl (by rw [here]; rfl))
  | control here =>
      refine .same rfl (awaits_task rfl ?_)
      rw [here]
      split <;> rfl
  | @failRequest c d heartbeat responses k here member =>
      have once := holds.once c
      rw [here] at once
      have before : k ∈ (s.task c).phase.senders := by rw [here]; exact member
      exact .answered k ⟨.task c, before⟩ (given_up exclusive before rfl rfl once.not_mem_erase)
        _ (.inl ⟨_, rfl⟩) rfl (awaits_task rfl (by rw [here]; rfl))
  | @handOver c d k here =>
      have before : k ∈ (s.task c).phase.senders := by simp [here, Phase.senders]
      exact .answered k ⟨.task c, before⟩
        (given_up exclusive before rfl rfl (by simp [Phase.senders]))
        _ (.inl ⟨_, rfl⟩) rfl (awaits_task rfl (by rw [here]; rfl))
  | @refuse c d k reason here =>
      have before : k ∈ (s.task c).phase.senders := by simp [here, Phase.senders]
      exact .answered k ⟨.task c, before⟩
        (given_up exclusive before rfl rfl (by simp [Phase.senders]))
        _ (.inl ⟨_, rfl⟩) rfl (awaits_task rfl (by rw [here]; rfl))
  | @refuseCancelled c k sessionId reason here =>
      have before : k ∈ (s.task c).phase.senders := by simp [here, Phase.senders]
      exact .answered k ⟨.task c, before⟩
        (given_up exclusive before rfl rfl (by simp [Phase.senders]))
        _ (.inl ⟨_, rfl⟩) rfl (awaits_task rfl (by rw [here]; rfl))
  | @cancelExpired cfg c g sessionId k here found =>
      exact .answered k ⟨.entry g sessionId, found⟩ (taken_out exclusive found rfl rfl rfl)
        _ (.inr rfl) rfl (awaits_task rfl (by rw [here]; rfl))
  | @register c g sessionId registered here ok =>
      obtain ⟨rfl, -, -⟩ := Relay.registerPending_eq ok
      exact .made c ⟨.entry g sessionId, by simp [Relay.HoldsSender, AList.lookup_insert]⟩
        (by simp [Phase.early]) rfl (by simp [Phase.awaits]) fun k other => by simp [other]
  | @enqueueClosed c g sessionId reason here | @receive c g sessionId stream permit here
  | @receiveRefusal c g sessionId reason here | @receiveClosed c g sessionId reason here
  | @expireEnqueue c g sessionId here | @expireAwait c g sessionId here =>
      exact .dropped c (by rw [here]; rfl) rfl (by simp [Phase.awaits])
        fun k other => by simp [other]

/-- No step makes a handler early again. -/
theorem rule_early (unborn : Unborn s) (rule : Rule s a s') {k : ConnId}
    (early : (s'.task k).phase.early = true) : (s.task k).phase.early = true := by
  cases a with
  | accept =>
      cases rule with
      | full => exact early
      | spawn =>
          rcases eq_or_ne k s.admitted with rfl | other
          · rw [unborn _ le_rfl]
            rfl
          · simpa [other] using early
  | reload auth =>
      cases rule
      exact early
  | task c e =>
      rcases eq_or_ne k c with rfl | other
      · cases rule with
        | move moves => exact moves.early_of (by simpa using early)
        | register here => simp [here, Phase.early]
        | finish | agentReturn | handOver => simp [Phase.early] at early
        | _ here => first | (rw [here]; rfl) | simp [Phase.early] at early
      · rwa [rule.task_other other] at early

theorem rule_once (holds : Senders s) (rule : Rule s a s') (k : ConnId) :
    (s'.task k).phase.senders.Nodup := by
  cases a with
  | accept =>
      cases rule with
      | full => exact holds.once k
      | spawn =>
          rcases eq_or_ne k s.admitted with rfl | other
          · simp [Phase.senders]
          · simpa [other] using holds.once k
  | reload auth =>
      cases rule
      exact holds.once k
  | task c e =>
      rcases eq_or_ne k c with rfl | other
      · cases rule with
        | move moves => simpa using (holds.once k).sublist moves.senders_sublist
        | control =>
            simp only [Relay.goto_task, Function.update_self]
            split <;> simp [Phase.senders]
        | failPending =>
            have nodup : (s.device k).pending.values.Nodup :=
              HashMap.values_nodup fun id id' v found found' =>
                (SenderPlace.entry.inj (holds.exclusive (t := v) (p := .entry k id)
                  (q := .entry k id') found found')).2
            simpa [Phase.senders] using nodup
        | failRequest here =>
            have once := holds.once k
            rw [here] at once
            simpa [Phase.senders] using once.erase _
        | _ => simp [Phase.senders]
      · rw [rule.task_other other]
        exact holds.once k

theorem rule_live (holds : Senders s) (unborn : Unborn s) (rule : Rule s a s') {p : SenderPlace}
    {k : ConnId} (held : s'.HoldsSender p k) :
    (s'.response k).sender = true ∧ (s'.response k).value = none := by
  rcases (holds.rule_passed rule).source held with ⟨q, before⟩ | channel
  · have live := holds.live before
    cases holds.rule_response unborn rule with
    | same responses => rwa [responses]
    | answered k₀ _ after o _ responses =>
        have other : k ≠ k₀ := by
          rintro rfl
          exact after p held
        rwa [responses, Function.update_of_ne other]
    | dropped k₀ _ responses =>
        rcases eq_or_ne k k₀ with rfl | other
        · simp [responses, live.1]
        · rwa [responses, Function.update_of_ne other]
    | made k₀ _ _ responses =>
        rcases eq_or_ne k k₀ with rfl | other
        · simp [responses]
        · rwa [responses, Function.update_of_ne other]
  · simp [channel]

theorem rule_fresh (holds : Senders s) (unborn : Unborn s) (rule : Rule s a s') {k : ConnId}
    (early : (s'.task k).phase.early = true) : s'.response k = Oneshot.closed := by
  have earlier := rule_early unborn rule early
  have closed := holds.fresh k earlier
  cases holds.rule_response unborn rule with
  | same responses => rw [responses, closed]
  | answered k₀ held _ _ _ responses =>
      obtain ⟨p, before⟩ := held
      have other : k ≠ k₀ := by
        rintro rfl
        exact holds.unborn earlier p before
      rw [responses, Function.update_of_ne other, closed]
  | dropped k₀ late responses =>
      have other : k ≠ k₀ := by
        rintro rfl
        rw [late] at earlier
        cases earlier
      rw [responses, Function.update_of_ne other, closed]
  | made k₀ _ late responses =>
      have other : k ≠ k₀ := by
        rintro rfl
        rw [late] at early
        cases early
      rw [responses, Function.update_of_ne other, closed]

theorem rule_receiver (holds : Senders s) (unborn : Unborn s) (rule : Rule s a s') (k : ConnId) :
    (s'.response k).receiver = (s'.task k).phase.awaits := by
  have before := holds.receiver k
  cases holds.rule_response unborn rule with
  | same responses awaits => rw [responses, awaits, before]
  | answered k₀ _ _ o used responses awaits =>
      rw [responses, awaits, ← before]
      rcases eq_or_ne k k₀ with rfl | other
      · rcases used with ⟨v, rfl⟩ | rfl <;> simp
      · rw [Function.update_of_ne other]
  | dropped k₀ _ responses left awaits =>
      rcases eq_or_ne k k₀ with rfl | other
      · simp [responses, left]
      · rw [responses, Function.update_of_ne other, awaits k other, before]
  | made k₀ _ _ responses entered awaits =>
      rcases eq_or_ne k k₀ with rfl | other
      · simp [responses, entered]
      · rw [responses, Function.update_of_ne other, awaits k other, before]

theorem rule_valued (holds : Senders s) (unborn : Unborn s) (rule : Rule s a s') {k : ConnId}
    {v : SessionHandoff} (value : (s'.response k).value = some v) :
    (s'.response k).receiver = true := by
  cases holds.rule_response unborn rule with
  | same responses =>
      rw [responses] at value ⊢
      exact holds.valued k v value
  | answered k₀ _ _ o used responses =>
      rcases eq_or_ne k k₀ with rfl | other
      · rw [responses, Function.update_self] at value ⊢
        rcases used with ⟨w, rfl⟩ | rfl
        · rw [Oneshot.send_value] at value
          rw [Oneshot.send_receiver]
          split at value
          · assumption
          · exact holds.valued k v value
        · exact holds.valued k v value
      · rw [responses, Function.update_of_ne other] at value ⊢
        exact holds.valued k v value
  | dropped k₀ _ responses | made k₀ _ _ responses =>
      rcases eq_or_ne k k₀ with rfl | other
      · simp [responses] at value
      · rw [responses, Function.update_of_ne other] at value ⊢
        exact holds.valued k v value

theorem rule_kept (holds : Senders s) (unborn : Unborn s) (rule : Rule s a s') : Senders s' where
  exclusive := (holds.rule_passed rule).exclusive holds.exclusive
  once := holds.rule_once rule
  live := holds.rule_live unborn rule
  fresh _ := holds.rule_fresh unborn rule
  receiver := holds.rule_receiver unborn rule
  valued _ _ := holds.rule_valued unborn rule

end Senders

/-- **In every reachable state a response sender is in one place, and unused there.** -/
theorem run_senders {cfg : Settings} {auth : AuthSnapshot} {acts : List Act} {s : Relay}
    (run : Run cfg auth acts s) : Unborn s ∧ Senders s := by
  refine exec_induction (P := fun _ s => Unborn s ∧ Senders s)
    ⟨unborn_start auth, senders_start auth⟩ ?_ acts s run
  rintro acts s a s' _ ⟨unborn, senders⟩ taken
  have rule := step_rule taken
  exact ⟨unborn_rule unborn rule, senders.rule_kept unborn rule⟩

end RustSsh.Server
