/-
# Server.Resolution -- the books of the pending requests

A run's `registrations` are the entries `register_pending` made and its `resolutions` the
requests whose sender was used up: sent through, or dropped by a controller that gave up.
Three parties remove entries, under separate locks.  `pending_bookkeeping` says that in
every state each generation holds at most its 32 entries, that an entry belongs to a
call that registered it and is still waiting, so that a call which returned has none left
anywhere, and that no request is resolved twice.
-/
import RustSsh.Server.Pending

namespace RustSsh.Server

open RustSsh.Theory RustSsh.Protocol

set_option autoImplicit false

namespace Relay

/-- The entry the action makes: whose it is, the generation and the id. -/
def registers (s : Relay) : Act → Option (ConnId × ConnId × SessionId)
  | .task c .register =>
      match (s.task c).phase with
      | .controller (.register g sessionId) =>
          if (s.registerPending g sessionId c).isSome then some (c, g, sessionId) else none
      | _ => none
  | _ => none

/-- The request whose sender the action uses up. -/
def resolves (s : Relay) : Act → Option ConnId
  | .task _ (.failRequest k) => some k
  | .task c .respond =>
      match (s.task c).phase with
      | .session _ (.respond k _) => some k
      | .controller (.refuse k _ _) => some k
      | _ => none
  | .task c .cancel =>
      match (s.task c).phase with
      | .controller (.timedOut g sessionId) => (s.device g).pending.lookup sessionId
      | _ => none
  | _ => none

end Relay

/-- The entries a run made, in order. -/
def registrations (cfg : Settings) (auth : AuthSnapshot) (acts : List Act) :
    List (ConnId × ConnId × SessionId) :=
  history (step cfg) (fun s a made => made ++ (s.registers a).toList) (Relay.start auth) [] acts

/-- The requests a run resolved, in order. -/
def resolutions (cfg : Settings) (auth : AuthSnapshot) (acts : List Act) : List ConnId :=
  history (step cfg) (fun s a done => done ++ (s.resolves a).toList) (Relay.start auth) [] acts

section Resolution

variable {cfg : Settings} {auth : AuthSnapshot} {acts : List Act} {s s' : Relay} {a : Act}
  {c g k : ConnId}

theorem registrations_snoc (run : Run cfg auth acts s) (taken : step cfg s a = some s') :
    registrations cfg auth (acts ++ [a]) = registrations cfg auth acts ++ (s.registers a).toList :=
  history_snoc run taken

theorem resolutions_snoc (run : Run cfg auth acts s) (taken : step cfg s a = some s') :
    resolutions cfg auth (acts ++ [a]) = resolutions cfg auth acts ++ (s.resolves a).toList :=
  history_snoc run taken

/-! ## The bound -/

/-- A map grows only by a registration, which finds room. -/
theorem Rule.pending_bound (rule : Rule s a s')
    (bound : ∀ g, (s.device g).pending.entries.length ≤ maxPendingSessionsPerDevice) (g : ConnId) :
    (s'.device g).pending.entries.length ≤ maxPendingSessionsPerDevice := by
  have shrinks (pending : HashMap SessionId ConnId) (sessionId : SessionId) :
      (pending.erase sessionId).entries.length ≤ pending.entries.length :=
    (List.kerase_sublist sessionId pending.entries).length_le
  by_cases same : (s'.device g).pending = (s.device g).pending
  · rw [same]
    exact bound g
  cases rule with
  | @insertFresh c | @insertOver c | @failPending c =>
      rcases eq_or_ne g c with rfl | other
      · simp [Device.new]
      · simp [other] at same
  | @take _ _ g₁ sessionId | @cancel _ g₁ sessionId | @cancelExpired _ _ g₁ sessionId =>
      rcases eq_or_ne g g₁ with rfl | other
      · have before := bound g
        have after := shrinks (s.device g).pending sessionId
        simp only [Relay.goto_device, Relay.removePending, Relay.dropRequest,
          Relay.setResponse_device, Relay.setDevice_device, Function.update_self]
        omega
      · simp [other] at same
  | @register c g₁ id registered here ok =>
      obtain ⟨rfl, room, -⟩ := Relay.registerPending_eq ok
      rcases eq_or_ne g g₁ with rfl | other
      · have after := shrinks (s.device g).pending id
        simp only [Relay.goto_device, Relay.setResponse_device, Relay.setDevice_device,
          Function.update_self]
        rw [AList.entries_insert, List.length_cons]
        exact Nat.lt_of_le_of_lt after room
      · simp [other] at same
  | @stopPrevious _ _ _ g₁ | @control g₁ | @agentReturn g₁ | @enqueue _ g₁ =>
      rcases eq_or_ne g g₁ with rfl | other
      · simp at same
      · simp [other] at same
  | _ => exact absurd rfl same

theorem run_bound (run : Run cfg auth acts s) (g : ConnId) :
    (s.device g).pending.entries.length ≤ maxPendingSessionsPerDevice := by
  refine exec_induction
    (P := fun _ s => ∀ g, (s.device g).pending.entries.length ≤ maxPendingSessionsPerDevice)
    ?_ ?_ acts s run g
  · intro g
    simp [Relay.start, Device.absent]
  · intro acts s a s' before holds taken g
    exact (step_rule taken).pending_bound holds g

/-! ## Registrations -/

/-- A new entry is the one its controller registers. -/
theorem Rule.registers_entry (rule : Rule s a s') (unborn : Unborn s) {sessionId : SessionId}
    (found : (s'.device g).pending.lookup sessionId = some k) :
    (s.device g).pending.lookup sessionId = some k ∨ s.registers a = some (k, g, sessionId) := by
  cases rule.adds_entry found with
  | inl old => exact .inl old
  | inr new =>
      right
      obtain ⟨here, after⟩ := new
      by_cases own : ∃ e, a = .task k e
      · obtain ⟨e, rfl⟩ := own
        cases rule with
        | register at_ ok =>
            rw [here] at at_
            cases at_
            simp [Relay.registers, here, ok]
        | move moves =>
            rw [here] at moves
            cases moves
            simp at after
        | finish finishes =>
            rw [here] at finishes
            cases finishes
        | _ at_ =>
            rw [here] at at_
            cases at_
      · have kept := rule.task_kept unborn (fun e same => own ⟨e, same⟩) (by simp [here])
        rw [kept, here] at after
        cases after

theorem entry_registered (run : Run cfg auth acts s) {sessionId : SessionId}
    (found : (s.device g).pending.lookup sessionId = some k) :
    (k, g, sessionId) ∈ registrations cfg auth acts := by
  refine exec_induction (P := fun acts s => ∀ g sessionId k,
    (s.device g).pending.lookup sessionId = some k → (k, g, sessionId) ∈ registrations cfg auth acts)
    ?_ ?_ acts s run g sessionId k found
  · intro g sessionId k found
    simp [Relay.start, Device.absent] at found
  · intro acts s a s' before holds taken g sessionId k found
    rw [registrations_snoc before taken]
    cases (step_rule taken).registers_entry (run_unborn before) found with
    | inl old => exact List.mem_append_left _ (holds g sessionId k old)
    | inr new =>
        rw [new]
        exact List.mem_append_right _ (by simp)

theorem Relay.registers_some {entry : ConnId × ConnId × SessionId}
    (registers : s.registers a = some entry) :
    a = .task entry.1 .register ∧
      (s.task entry.1).phase = .controller (.register entry.2.1 entry.2.2) ∧
      (s.registerPending entry.2.1 entry.2.2 entry.1).isSome := by
  unfold Relay.registers at registers
  split at registers
  · split at registers
    · rename_i here
      split at registers
      · rename_i ok
        cases registers
        exact ⟨rfl, here, ok⟩
      · cases registers
    · cases registers
  · cases registers

/-- A call that registered is past its registration. -/
theorem registered_late (run : Run cfg auth acts s) {entry : ConnId × ConnId × SessionId}
    (made : entry ∈ registrations cfg auth acts) : (s.task entry.1).phase.early = false := by
  refine exec_induction (P := fun acts s => ∀ entry ∈ registrations cfg auth acts,
    (s.task entry.1).phase.early = false) ?_ ?_ acts s run entry made
  · intro entry made
    cases made
  · intro acts s a s' before holds taken entry made
    rw [registrations_snoc before taken] at made
    have rule := step_rule taken
    obtain ⟨unborn, senders⟩ := run_senders before
    cases List.mem_append.mp made with
    | inl old =>
        rw [Bool.eq_false_iff]
        intro early
        have earlier := Senders.rule_early unborn rule early
        rw [holds entry old] at earlier
        cases earlier
    | inr new =>
        obtain ⟨rfl, here, ok⟩ := Relay.registers_some (Option.mem_toList.mp new)
        cases rule with
        | register => simp [Phase.early]
        | move moves =>
            rw [here] at moves
            cases moves with
            | tooMany refused =>
                rw [refused] at ok
                cases ok
        | finish finishes =>
            rw [here] at finishes
            cases finishes

/-- A call registers at most once. -/
theorem registrations_once (run : Run cfg auth acts s) :
    ((registrations cfg auth acts).map Prod.fst).Nodup := by
  refine exec_induction (P := fun acts _ => ((registrations cfg auth acts).map Prod.fst).Nodup)
    List.nodup_nil ?_ acts s run
  intro acts s a s' before holds taken
  rw [registrations_snoc before taken, List.map_append]
  refine holds.append ?_ ?_
  · cases s.registers a <;> simp
  · intro k old new
    obtain ⟨entry, made, rfl⟩ := List.mem_map.mp old
    obtain ⟨entry', new, same⟩ := List.mem_map.mp new
    obtain ⟨-, here, -⟩ := Relay.registers_some (Option.mem_toList.mp new)
    have late := registered_late before made
    rw [← same, here] at late
    cases late

/-! ## Resolutions -/

/-- What a read brings resolves nothing. -/
theorem Relay.resolves_incoming {e : Event} (incoming : e.incoming = true) :
    s.resolves (.task c e) = none := by
  cases e <;> first | rfl | cases incoming

/-- Who resolves a request has its sender, and uses it up. -/
theorem Rule.resolves_sender (rule : Rule s a s') (resolves : s.resolves a = some k) :
    (∃ p, s.HoldsSender p k) ∧ (s'.response k).sender = false := by
  cases rule with
  | @failRequest c _ _ _ _ here member =>
      cases resolves
      refine ⟨⟨.task c, ?_⟩, by simp⟩
      show k ∈ (s.task c).phase.senders
      rw [here]
      exact member
  | @handOver c _ _ here | @refuse c _ _ _ here | @refuseCancelled c _ _ _ here =>
      simp only [Relay.resolves, here, Option.some.injEq] at resolves
      subst resolves
      exact ⟨⟨.task c, by simp [Relay.HoldsSender, here, Phase.senders]⟩, by simp⟩
  | @cancelExpired _ c g sessionId _ here found =>
      simp only [Relay.resolves, here, found, Option.some.injEq] at resolves
      subst resolves
      exact ⟨⟨.entry g sessionId, found⟩, by simp⟩
  | @move c e next moves =>
      exfalso
      generalize here : (s.task c).phase = phase at moves
      cases moves with
      | notReady _ _ _ _ incoming =>
          rw [Relay.resolves_incoming incoming] at resolves
          cases resolves
      | cancelled absent | expired absent => simp [Relay.resolves, here, absent] at resolves
      | _ => cases resolves
  | @finish c e finishes =>
      exfalso
      generalize (s.task c).phase = phase at finishes
      cases finishes with
      | hello incoming | attach _ incoming | request incoming =>
          rw [Relay.resolves_incoming incoming] at resolves
          cases resolves
      | _ => cases resolves
  | cancel here => simp [Relay.resolves, here] at resolves
  | _ => cases resolves

/-- Only a registration makes a sender. -/
theorem Rule.makes_sender (rule : Rule s a s') (used : (s.response k).sender = false)
    (made : (s'.response k).sender = true) :
    ∃ g sessionId, s.registers a = some (k, g, sessionId) := by
  have unchanged (same : (s'.response k).sender = (s.response k).sender) :
      ∃ g sessionId, s.registers a = some (k, g, sessionId) := by
    rw [same, used] at made
    cases made
  cases rule with
  | @register c g sessionId _ here ok =>
      rcases eq_or_ne k c with rfl | other
      · exact ⟨g, sessionId, by simp [Relay.registers, here, ok]⟩
      · obtain ⟨rfl, -, -⟩ := Relay.registerPending_eq ok
        exact unchanged (by simp [other])
  | @failRequest _ _ _ _ k₁ | @handOver _ _ k₁ | @refuse _ _ k₁ | @refuseCancelled _ k₁
  | @cancelExpired _ _ _ _ k₁ =>
      rcases eq_or_ne k k₁ with rfl | other
      · simp at made
      · exact unchanged (by simp [other])
  | @enqueueClosed c | @receive c | @receiveRefusal c | @receiveClosed c | @expireEnqueue c
  | @expireAwait c =>
      rcases eq_or_ne k c with rfl | other
      · exact unchanged (by simp)
      · exact unchanged (by simp [other])
  | _ => exact unchanged rfl

/-- A request with a sender was registered. -/
theorem sender_registered (run : Run cfg auth acts s) (sender : (s.response k).sender = true) :
    ∃ g sessionId, (k, g, sessionId) ∈ registrations cfg auth acts := by
  refine exec_induction (P := fun acts s => ∀ k, (s.response k).sender = true →
    ∃ g sessionId, (k, g, sessionId) ∈ registrations cfg auth acts) ?_ ?_ acts s run k sender
  · intro k sender
    simp [Relay.start] at sender
  · intro acts s a s' before holds taken k sender
    rw [registrations_snoc before taken]
    cases earlier : (s.response k).sender with
    | true =>
        obtain ⟨g, sessionId, made⟩ := holds k earlier
        exact ⟨g, sessionId, List.mem_append_left _ made⟩
    | false =>
        obtain ⟨g, sessionId, made⟩ := (step_rule taken).makes_sender earlier sender
        exact ⟨g, sessionId, List.mem_append_right _ (by simp [made])⟩

/-- A resolved request was registered, and its sender is used up for good. -/
theorem resolved_used (run : Run cfg auth acts s) (resolved : k ∈ resolutions cfg auth acts) :
    (s.response k).sender = false ∧ ∃ g sessionId, (k, g, sessionId) ∈ registrations cfg auth acts := by
  refine exec_induction (P := fun acts s => ∀ k ∈ resolutions cfg auth acts,
    (s.response k).sender = false ∧
      ∃ g sessionId, (k, g, sessionId) ∈ registrations cfg auth acts) ?_ ?_ acts s run k resolved
  · intro k resolved
    cases resolved
  · intro acts s a s' before holds taken k resolved
    rw [resolutions_snoc before taken] at resolved
    have rule := step_rule taken
    have senders := (run_senders before).2
    have more (made : ∃ g sessionId, (k, g, sessionId) ∈ registrations cfg auth acts) :
        ∃ g sessionId, (k, g, sessionId) ∈ registrations cfg auth (acts ++ [a]) := by
      obtain ⟨g, sessionId, made⟩ := made
      rw [registrations_snoc before taken]
      exact ⟨g, sessionId, List.mem_append_left _ made⟩
    cases List.mem_append.mp resolved with
    | inl old =>
        obtain ⟨used, made⟩ := holds k old
        refine ⟨?_, more made⟩
        by_contra again
        obtain ⟨g, sessionId, registers⟩ := rule.makes_sender used (by simpa using again)
        obtain ⟨g', sessionId', earlier⟩ := made
        have late : (s.task k).phase.early = false := registered_late before earlier
        have here : (s.task k).phase = .controller (.register g sessionId) :=
          (Relay.registers_some registers).2.1
        rw [here] at late
        cases late
    | inr new =>
        obtain ⟨⟨p, held⟩, used⟩ := rule.resolves_sender (Option.mem_toList.mp new)
        exact ⟨used, more (sender_registered before (senders.live held).1)⟩

/-- No request is resolved twice. -/
theorem resolutions_once (run : Run cfg auth acts s) : (resolutions cfg auth acts).Nodup := by
  refine exec_induction (P := fun acts _ => (resolutions cfg auth acts).Nodup) List.nodup_nil ?_
    acts s run
  intro acts s a s' before holds taken
  rw [resolutions_snoc before taken]
  refine holds.append ?_ ?_
  · cases s.resolves a <;> simp
  · intro k old new
    obtain ⟨⟨p, held⟩, -⟩ := (step_rule taken).resolves_sender (Option.mem_toList.mp new)
    have live := ((run_senders before).2.live held).1
    rw [(resolved_used before old).1] at live
    cases live

/-! ## The result -/

/-- **The books of the pending requests**: the bound of every generation, whose the entries
are, that a call which returned has none, and that requests are registered and resolved
at most once. -/
theorem pending_bookkeeping (run : Run cfg auth acts s) :
    (∀ g, (s.device g).pending.entries.length ≤ maxPendingSessionsPerDevice) ∧
    (∀ g sessionId k, (s.device g).pending.lookup sessionId = some k →
      (k, g, sessionId) ∈ registrations cfg auth acts ∧
        (s.task k).phase.request = some (g, sessionId) ∧ (s.task k).phase ≠ .returned) ∧
    (∀ k, (s.task k).phase = .returned →
      ∀ g sessionId, (s.device g).pending.lookup sessionId ≠ some k) ∧
    ((registrations cfg auth acts).map Prod.fst).Nodup ∧
    (resolutions cfg auth acts).Nodup ∧
    (∀ k ∈ resolutions cfg auth acts,
      ∃ g sessionId, (k, g, sessionId) ∈ registrations cfg auth acts) := by
  have waiting : ∀ g sessionId k, (s.device g).pending.lookup sessionId = some k →
      (s.task k).phase ≠ .returned := by
    intro g sessionId k entry returned
    have request := (entry_owner run entry).1
    rw [returned] at request
    cases request
  refine ⟨run_bound run, ?_, ?_, registrations_once run, resolutions_once run,
    fun k resolved => (resolved_used run resolved).2⟩
  · intro g sessionId k entry
    exact ⟨entry_registered run entry, (entry_owner run entry).1, waiting g sessionId k entry⟩
  · intro k returned g sessionId entry
    exact waiting g sessionId k entry returned

theorem pending_bookkeeping_bridged :
    resolutions plainSettings oneDevice bridgedSession = [1] ∧
      (resolutions plainSettings oneDevice bridgedSession).Nodup :=
  ⟨by decide, (pending_bookkeeping bridgedSession_run).2.2.2.2.1⟩

end Resolution

end RustSsh.Server
