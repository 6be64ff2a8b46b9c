/-
# Server.Quota -- the connection permits

A connection's permit is in `handle_connection`'s scope, a handler's parameter, the
handoff tuple in a response channel, or the controller that took it.  `Quota` is the
ledger of these places: who holds which permits and streams is decided by where each
task is, a stream is always beside its own permit, and the permits out and the free
ones are `MAX_CONNECTIONS` together.
-/
import RustSsh.Server.Senders

namespace RustSsh.Server

open RustSsh.Theory RustSsh.Protocol

set_option autoImplicit false

/-- Where a stream or a permit can be. -/
inductive Place where
  | task (c : ConnId)
  | channel (k : ConnId)
  deriving DecidableEq

namespace Phase

/-- The permits in the scope of connection `c`'s handler. -/
def permits (c : ConnId) : Phase → List ConnId
  | .unborn => []
  | .returned => []
  | .controller (.ready _ stream) => [stream, c]
  | .controller (.bridge stream) => [stream, c]
  | .controller (.bridging stream) => [stream, c]
  | _ => [c]

/-- The streams in that scope. -/
def streams (c : ConnId) : Phase → List ConnId
  | .unborn => []
  | .returned => []
  | .agent _ _ .insert => [c]
  | .agent _ _ (.stopPrevious _) => [c]
  | .agent _ _ _ => []
  | .controller (.ready _ stream) => [stream, c]
  | .controller (.bridge stream) => [stream, c]
  | .controller (.bridging stream) => [stream, c]
  | _ => [c]

/-- The stream whose halves the reader and the writer task own.  The loop is left only
when both tasks have ended (`loop_left`). -/
def halves (c : ConnId) : Phase → List ConnId
  | .agent _ _ (.running control) =>
      if control.reader = .ended ∧ control.writer = .ended then [] else [c]
  | _ => []

theorem halves_subset_permits (c : ConnId) (phase : Phase) : phase.halves c ⊆ phase.permits c := by
  unfold halves
  split
  · split <;> simp [permits]
  · simp

theorem streams_subset_permits (c : ConnId) (phase : Phase) :
    phase.streams c ⊆ phase.permits c := by
  unfold streams
  split <;> simp [permits]

end Phase

theorem Moves.permits_eq {s : Relay} {c : ConnId} {phase next : Phase} {e : Event}
    (moves : Moves s c phase e next) :
    next.permits c = phase.permits c ∧ next.streams c = phase.streams c := by
  cases moves <;> exact ⟨rfl, rfl⟩

namespace Relay

def permitsAt (s : Relay) : Place → List ConnId
  | .task c => (s.task c).permits
  | .channel k => handoffPermits (s.response k).value

def streamsAt (s : Relay) : Place → List ConnId
  | .task c => (s.task c).streams ++ (s.task c).phase.halves c
  | .channel k => handoffStreams (s.response k).value

end Relay

structure Quota (s : Relay) : Prop where
  permits : ∀ c, (s.task c).permits = (s.task c).phase.permits c
  streams : ∀ c, (s.task c).streams = (s.task c).phase.streams c
  /-- a stream is handed over with its own permit -/
  paired : ∀ k stream permit, (s.response k).value = some (.ok (stream, permit)) →
    permit = stream
  ledger : Ledger s.permitsAt (Set.Iio s.admitted) s.free maxConnections

section Effect

variable {s s' : Relay} {c k : ConnId} {t : Task} {o : Oneshot SessionHandoff}

theorem permitsAt_eq (tasks : s'.task = Function.update s.task c t)
    (responses : s'.response = Function.update s.response k o) :
    s'.permitsAt = Function.update (Function.update s.permitsAt (.task c) t.permits)
      (.channel k) (handoffPermits o.value) := by
  funext p
  cases p with
  | task c' => rcases eq_or_ne c' c with rfl | other <;> simp [Relay.permitsAt, *]
  | channel k' => rcases eq_or_ne k' k with rfl | other <;> simp [Relay.permitsAt, *]

theorem permitsAt_task (tasks : s'.task = Function.update s.task c t)
    (responses : s'.response = s.response) :
    s'.permitsAt = Function.update s.permitsAt (.task c) t.permits := by
  funext p
  cases p with
  | task c' => rcases eq_or_ne c' c with rfl | other <;> simp [Relay.permitsAt, *]
  | channel k' => simp [Relay.permitsAt, responses]

/-- A step that leaves the permits where they are. -/
theorem permitsAt_same (tasks : s'.task = Function.update s.task c t)
    (own : t.permits = (s.task c).permits)
    (responses : s'.response = Function.update s.response k o)
    (handoff : handoffPermits o.value = handoffPermits (s.response k).value) :
    s'.permitsAt = s.permitsAt := by
  rw [permitsAt_eq tasks responses, own, handoff]
  funext p
  cases p with
  | task c' => rcases eq_or_ne c' c with rfl | other <;> simp [Relay.permitsAt, *]
  | channel k' => rcases eq_or_ne k' k with rfl | other <;> simp [Relay.permitsAt, *]

/-- A refusal, sent or found no receiver, carries no permit. -/
theorem refused_permits {reason : String} (value : o.value = none) :
    handoffPermits (o.send (.error reason)).1.value = handoffPermits o.value := by
  rw [Oneshot.send_value, value]
  split <;> rfl

end Effect

theorem quota_start (auth : AuthSnapshot) : Quota (Relay.start auth) where
  permits _ := rfl
  streams _ := rfl
  paired := by simp [Relay.start]
  ledger := by
    have empty : (Relay.start auth).permitsAt = fun _ => [] := by
      funext p
      cases p <;> rfl
    rw [empty]
    exact ledger_empty _ _

namespace Quota

variable {s s' : Relay} {a : Act}

theorem rule_shape (holds : Quota s) (rule : Rule s a s') (c : ConnId) :
    (s'.task c).permits = (s'.task c).phase.permits c ∧
      (s'.task c).streams = (s'.task c).phase.streams c := by
  have before := And.intro (holds.permits c) (holds.streams c)
  cases a with
  | accept =>
      cases rule with
      | full => exact before
      | spawn =>
          rcases eq_or_ne c s.admitted with rfl | other
          · simp [Phase.permits, Phase.streams]
          · simpa [other] using before
  | reload auth =>
      cases rule
      exact before
  | task c' e =>
      rcases eq_or_ne c c' with rfl | other
      · cases rule with
        | move moves => simp [before, moves.permits_eq]
        | finish | agentReturn | handOver => simp [Phase.permits, Phase.streams]
        | control here =>
            rw [here] at before
            simp only [Relay.goto_task, Function.update_self]
            split <;> simpa [Phase.permits, Phase.streams] using before
        | register here ok =>
            obtain ⟨rfl, -, -⟩ := Relay.registerPending_eq ok
            rw [here] at before
            simpa [Phase.permits, Phase.streams] using before
        | receive here value =>
            rw [here] at before
            have paired := holds.paired _ _ _ value
            simp [Phase.permits, Phase.streams, paired, before]
        | insertFresh here | stopPrevious here =>
            rw [here] at before
            simpa [Phase.permits, Phase.streams] using before.1
        | _ here =>
            rw [here] at before
            simpa [Phase.permits, Phase.streams] using before
      · rw [rule.task_other other]
        exact before

theorem paired_update (holds : Quota s) {k : ConnId} {o : Oneshot SessionHandoff}
    (responses : s'.response = Function.update s.response k o)
    (own : ∀ stream permit, o.value = some (.ok (stream, permit)) → permit = stream)
    (k' stream permit : ConnId) (value : (s'.response k').value = some (.ok (stream, permit))) :
    permit = stream := by
  rw [responses] at value
  rcases eq_or_ne k' k with rfl | other
  · exact own stream permit (by simpa using value)
  · exact holds.paired k' stream permit (by simpa [other] using value)

theorem rule_paired (holds : Quota s) (rule : Rule s a s') :
    ∀ k stream permit, (s'.response k).value = some (.ok (stream, permit)) → permit = stream := by
  cases rule with
  | failRequest | refuse | refuseCancelled =>
      refine holds.paired_update rfl fun stream permit value => ?_
      rw [Oneshot.send_value] at value
      split at value
      · cases value
      · exact holds.paired _ _ _ value
  | handOver =>
      refine holds.paired_update rfl fun stream permit value => ?_
      rw [Oneshot.send_value] at value
      split at value
      · cases value
        rfl
      · exact holds.paired _ _ _ value
  | cancelExpired => exact holds.paired_update rfl fun _ _ value => holds.paired _ _ _ value
  | register here ok =>
      obtain ⟨rfl, -, -⟩ := Relay.registerPending_eq ok
      exact holds.paired_update rfl (by simp)
  | enqueueClosed | receive | receiveRefusal | receiveClosed | expireEnqueue | expireAwait =>
      exact holds.paired_update rfl (by simp)
  | _ => exact holds.paired

/-- A step that leaves every permit where it is. -/
theorem ledger_kept (holds : Quota s) {c k : ConnId} {t : Task} {o : Oneshot SessionHandoff}
    (tasks : s'.task = Function.update s.task c t) (own : t.permits = (s.task c).permits)
    (responses : s'.response = Function.update s.response k o)
    (handoff : handoffPermits o.value = handoffPermits (s.response k).value)
    (free : s'.free = s.free) (admitted : s'.admitted = s.admitted) :
    Ledger s'.permitsAt (Set.Iio s'.admitted) s'.free maxConnections := by
  rw [permitsAt_same tasks own responses handoff, free, admitted]
  exact holds.ledger

/-- A step that touches no response channel either. -/
theorem ledger_kept_task (holds : Quota s) {c : ConnId} {t : Task}
    (tasks : s'.task = Function.update s.task c t) (own : t.permits = (s.task c).permits)
    (responses : s'.response = s.response) (free : s'.free = s.free)
    (admitted : s'.admitted = s.admitted) :
    Ledger s'.permitsAt (Set.Iio s'.admitted) s'.free maxConnections :=
  holds.ledger_kept (k := c) tasks own (by rw [responses, Function.update_eq_self]) rfl free admitted

/-- A handler returns. -/
theorem ledger_returned (holds : Quota s) {c : ConnId}
    (tasks : s'.task = Function.update s.task c ⟨.returned, [], []⟩)
    (responses : s'.response = s.response)
    (free : s'.free = s.free + (s.task c).permits.length) (admitted : s'.admitted = s.admitted) :
    Ledger s'.permitsAt (Set.Iio s'.admitted) s'.free maxConnections := by
  rw [permitsAt_task tasks responses, free, admitted]
  exact holds.ledger.release (.task c)

/-- A controller drops its receiver, and a handoff that was still in the channel. -/
theorem ledger_dropped (holds : Quota s) {k : ConnId} {t : Task}
    (tasks : s'.task = Function.update s.task k t) (own : t.permits = (s.task k).permits)
    (responses : s'.response = Function.update s.response k (s.response k).dropReceiver.1)
    (free : s'.free = s.free + (handoffPermits (s.response k).value).length)
    (admitted : s'.admitted = s.admitted) :
    Ledger s'.permitsAt (Set.Iio s'.admitted) s'.free maxConnections := by
  have here : s.permitsAt (.task k) = t.permits := own.symm
  rw [permitsAt_eq tasks responses, free, admitted, ← here, Function.update_eq_self]
  exact holds.ledger.release (.channel k)

/-- The handoff moves the permit into the channel, or releases it. -/
theorem ledger_handOver (holds : Quota s) (senders : Senders s) {c k : ConnId} {d : DeviceId}
    (here : (s.task c).phase = .session d (.respond k none)) :
    Ledger (s.handOver c k).permitsAt (Set.Iio s.admitted) (s.handOver c k).free
      maxConnections := by
  have held : s.HoldsSender (.task c) k := by simp [Relay.HoldsSender, here, Phase.senders]
  have empty := (senders.live held).2
  have own : s.permitsAt (.task c) = [c] := by
    simp [Relay.permitsAt, holds.permits, here, Phase.permits]
  have unused : s.permitsAt (.channel k) = [] := by simp [Relay.permitsAt, empty, handoffPermits]
  have contents : (s.handOver c k).permitsAt = _ := permitsAt_eq rfl rfl
  rw [contents]
  cases alive : (s.response k).receiver with
  | true =>
      have moved := holds.ledger.move (.task c) (.channel k) (by simp)
      simpa [own, unused, Oneshot.send_value, Oneshot.send_returned, alive, handoffPermits]
        using moved
  | false =>
      have released := holds.ledger.release (.task c)
      have kept := Function.update_eq_self (Place.channel k)
        (Function.update s.permitsAt (Place.task c) [])
      rw [Function.update_of_ne (by simp), unused] at kept
      simpa [own, kept, Oneshot.send_value, Oneshot.send_returned, alive, empty, handoffPermits]
        using released

/-- The controller takes the permit out of the channel. -/
theorem ledger_receive (holds : Quota s) {k stream permit : ConnId} {sessionId : SessionId}
    (value : (s.response k).value = some (.ok (stream, permit))) :
    Ledger (s.takeHandoff k sessionId stream permit).permitsAt (Set.Iio s.admitted) s.free
      maxConnections := by
  have inside : s.permitsAt (.channel k) = [permit] := by
    simp [Relay.permitsAt, value, handoffPermits]
  have contents : (s.takeHandoff k sessionId stream permit).permitsAt = _ :=
    permitsAt_eq rfl rfl
  have moved := holds.ledger.move (.channel k) (.task k) (by simp)
  rw [inside, Function.update_comm (by simp)] at moved
  rw [contents]
  exact moved

theorem rule_ledger (holds : Quota s) (unborn : Unborn s) (senders : Senders s)
    (rule : Rule s a s') : Ledger s'.permitsAt (Set.Iio s'.admitted) s'.free maxConnections := by
  have ledger := holds.ledger
  cases rule with
  | full => exact ledger
  | reload => exact ledger
  | spawn available =>
      have unused : s.permitsAt (.task s.admitted) = [] := by
        simp [Relay.permitsAt, unborn _ le_rfl]
      have acquired := ledger.acquire (t := s.admitted) unused (by simp) available
      have issued : insert s.admitted (Set.Iio s.admitted) = Set.Iio (s.admitted + 1) := by
        ext t
        simp only [Set.mem_insert_iff, Set.mem_Iio]
        omega
      rw [issued] at acquired
      have tasks : s.spawn.task = Function.update s.task s.admitted _ := rfl
      rw [permitsAt_task tasks rfl]
      exact acquired
  | move | insertFresh | insertOver | stopPrevious | control | failPending | unregister | take
  | enqueue | cancel => exact holds.ledger_kept_task rfl rfl rfl rfl rfl
  | finish | agentReturn => exact holds.ledger_returned rfl rfl rfl rfl
  | @failRequest c _ _ _ k here member =>
      have held : s.HoldsSender (.task c) k := by
        simpa [Relay.HoldsSender, here, Phase.senders] using member
      exact holds.ledger_kept rfl rfl rfl (refused_permits (senders.live held).2) rfl rfl
  | @refuse c _ k _ here | @refuseCancelled c k _ _ here =>
      have held : s.HoldsSender (.task c) k := by
        simp [Relay.HoldsSender, here, Phase.senders]
      exact holds.ledger_kept rfl rfl rfl (refused_permits (senders.live held).2) rfl rfl
  | cancelExpired => exact holds.ledger_kept rfl rfl rfl rfl rfl rfl
  | @register c _ _ _ here ok =>
      obtain ⟨rfl, -, -⟩ := Relay.registerPending_eq ok
      have closed := senders.fresh c (by rw [here]; rfl)
      exact holds.ledger_kept rfl rfl rfl (by rw [closed]; rfl) rfl rfl
  | enqueueClosed | receiveRefusal | receiveClosed | expireEnqueue | expireAwait =>
      exact holds.ledger_dropped rfl rfl rfl rfl rfl
  | @handOver c _ k here => exact holds.ledger_handOver senders here
  | receive here value => exact holds.ledger_receive value

theorem rule_kept (holds : Quota s) (unborn : Unborn s) (senders : Senders s)
    (rule : Rule s a s') : Quota s' where
  permits c := (holds.rule_shape rule c).1
  streams c := (holds.rule_shape rule c).2
  paired := holds.rule_paired rule
  ledger := holds.rule_ledger unborn senders rule

/-- A stream is where its permit is. -/
theorem streams_covered (holds : Quota s) {p : Place} {c : ConnId} (owned : c ∈ s.streamsAt p) :
    c ∈ s.permitsAt p := by
  cases p with
  | task k =>
      simp only [Relay.streamsAt, holds.streams, List.mem_append] at owned
      simp only [Relay.permitsAt, holds.permits]
      rcases owned with whole | half
      · exact Phase.streams_subset_permits k _ whole
      · exact Phase.halves_subset_permits k _ half
  | channel k =>
      simp only [Relay.streamsAt] at owned
      simp only [Relay.permitsAt]
      unfold handoffStreams at owned
      split at owned
      · rename_i stream permit value
        have paired := holds.paired k stream permit value
        simpa [handoffPermits, value, paired] using owned
      · cases owned

/-- When every handler has returned, nothing is left in a response channel. -/
theorem returned_empty (holds : Quota s) (senders : Senders s)
    (idle : ∀ c, (s.task c).phase = .unborn ∨ (s.task c).phase = .returned) (p : Place) :
    s.permitsAt p = [] := by
  cases p with
  | task c =>
      simp only [Relay.permitsAt, holds.permits]
      rcases idle c with here | here <;> rw [here] <;> rfl
  | channel k =>
      cases value : (s.response k).value with
      | none => simp [Relay.permitsAt, value, handoffPermits]
      | some v =>
          have alive := senders.valued k v value
          rw [senders.receiver] at alive
          rcases idle k with here | here <;> rw [here] at alive <;> cases alive

end Quota

theorem run_quota {cfg : Settings} {auth : AuthSnapshot} {acts : List Act} {s : Relay}
    (run : Run cfg auth acts s) : Quota s := by
  refine exec_induction (P := fun _ s => Quota s) (quota_start auth) ?_ acts s run
  intro acts s a s' before holds taken
  obtain ⟨unborn, senders⟩ := run_senders before
  exact holds.rule_kept unborn senders (step_rule taken)

theorem Moves.not_running {s : Relay} {c : ConnId} {phase : Phase} {e : Event} {d : DeviceId}
    {heartbeat : Bool} {control : Control} :
    ¬ Moves s c phase e (.agent d heartbeat (.running control)) := by
  intro moves
  cases moves

/-- A handle that was consumed is of a task that ended, in every reachable state. -/
theorem run_consumed {cfg : Settings} {auth : AuthSnapshot} {acts : List Act} {s : Relay}
    (run : Run cfg auth acts s) (c : ConnId) :
    ∀ d heartbeat control, (s.task c).phase = .agent d heartbeat (.running control) →
      Control.Consumed control := by
  refine run_place (P := fun phase => ∀ d heartbeat control,
    phase = .agent d heartbeat (.running control) → Control.Consumed control)
    (by simp) (by simp) ?_ run c
  intro acts s c e s' _ rule holds d heartbeat control here
  cases rule with
  | move moves =>
      simp only [Relay.goto_task, Function.update_self] at here
      exact absurd moves (here ▸ Moves.not_running)
  | insertFresh | stopPrevious =>
      simp only [Relay.spawnControl_task, Function.update_self, Phase.agent.injEq,
        AgentPoint.running.injEq] at here
      obtain ⟨-, -, rfl⟩ := here
      exact Control.consumed_start _
  | control at_ allowed stepped =>
      simp only [Relay.goto_task, Function.update_self, Phase.agent.injEq] at here
      obtain ⟨-, -, point⟩ := here
      split at point
      · cases point
      · cases point
        exact Control.consumed_step (holds _ _ _ at_) stepped
  | register at_ ok =>
      obtain ⟨rfl, -, -⟩ := Relay.registerPending_eq ok
      simp at here
  | _ => simp at here

/-- The handler goes past the loop with both tasks ended, their halves dropped. -/
theorem loop_left {cfg : Settings} {auth : AuthSnapshot} {acts : List Act} {s : Relay}
    (run : Run cfg auth acts s) {c : ConnId} {d : DeviceId} {heartbeat : Bool}
    {control control' : Control} {e : ControlEvent}
    (here : (s.task c).phase = .agent d heartbeat (.running control))
    (taken : control.step e = some control') (left : control'.point = .left) :
    control'.reader = .ended ∧ control'.writer = .ended := by
  have consumed := Control.consumed_step (run_consumed run c _ _ _ here) taken
  exact ⟨consumed.readerJoined (.inr left), consumed.writerJoined left⟩

/-- **The connection quota is exact.**  A stream some task, channel or bridge owns is
beside its one permit, the permits out and the free ones are `maxConnections`, and all
are free once every handler has returned. -/
theorem connection_quota {cfg : Settings} {auth : AuthSnapshot} {acts : List Act} {s : Relay}
    (run : Run cfg auth acts s) :
    (∀ live : Finset ConnId, (∀ c ∈ live, ∃ p, c ∈ s.streamsAt p) →
      s.free + live.card ≤ maxConnections) ∧
    (∃ out : Finset ConnId, (∀ c, c ∈ out ↔ ∃ p, c ∈ s.permitsAt p) ∧
      s.free + out.card = maxConnections) ∧
    (∀ p c, c ∈ s.streamsAt p →
      (s.permitsAt p).count c = 1 ∧ ∀ q, c ∈ s.permitsAt q → q = p) ∧
    (∀ k stream permit, (s.response k).value = some (.ok (stream, permit)) →
      s.streamsAt (.channel k) = [stream] ∧ s.permitsAt (.channel k) = [stream]) ∧
    (∀ k stream, (s.task k).phase = .controller (.bridging stream) →
      s.streamsAt (.task k) = [stream, k] ∧ s.permitsAt (.task k) = [stream, k]) ∧
    ((∀ c, (s.task c).phase = .unborn ∨ (s.task c).phase = .returned) →
      s.free = maxConnections) := by
  have quota := run_quota run
  have ledger := quota.ledger
  refine ⟨fun live owned => ledger.live_le fun c inside => ?_, ledger.counted,
    fun p c owned => ⟨?_, ?_⟩, fun k stream permit value => ?_, fun k stream here => ?_,
    fun idle => ?_⟩
  · obtain ⟨p, here⟩ := owned c inside
    exact ⟨p, quota.streams_covered here⟩
  · exact List.count_eq_one_of_mem (ledger.once p) (quota.streams_covered owned)
  · intro q also
    exact ledger.exclusive also (quota.streams_covered owned)
  · have paired := quota.paired k stream permit value
    simp [Relay.streamsAt, Relay.permitsAt, value, handoffStreams, handoffPermits, paired]
  · simp [Relay.streamsAt, Relay.permitsAt, quota.streams, quota.permits, here, Phase.streams,
      Phase.permits, Phase.halves]
  · exact ledger.all_free (quota.returned_empty (run_senders run).2 idle)

/-- With a session bridged, its two streams and the control connection hold three. -/
theorem connection_quota_bridged :
    bridged.free + ({0, 1, 2} : Finset ConnId).card ≤ maxConnections ∧
      (bridged.permitsAt (.task 1)).count 2 = 1 := by
  have exact := connection_quota bridgedSession_run
  refine ⟨exact.1 {0, 1, 2} fun c inside => ?_, (exact.2.2.1 (.task 1) 2 (by decide)).1⟩
  simp only [Finset.mem_insert, Finset.mem_singleton] at inside
  rcases inside with rfl | rfl | rfl
  · exact ⟨.task 0, by decide⟩
  · exact ⟨.task 1, by decide⟩
  · exact ⟨.task 1, by decide⟩

end RustSsh.Server
