/-
# Server.Pending -- the requests of a control connection that ends

An entry of a pending map belongs to the controller that registered it and is still
busy with that request (`entry_owner`); a sender is in some place until it is used
(`run_placed`); and `open_rx` lives as long as the handler that owns it (`run_opens`).
With these, `requests_fail_promptly` says when no request is left behind by a control
connection that ended: `fail_pending`, `unregister` and the drop of `open_rx` are
three steps, and the window between the first and the last is the whole condition.
-/
import RustSsh.Server.Matching

namespace RustSsh.Server

open RustSsh.Theory RustSsh.Protocol

set_option autoImplicit false

section Pending

variable {cfg : Settings} {auth : AuthSnapshot} {acts : List Act} {s s' : Relay} {a : Act}
  {c g k : ConnId}

/-! ## Senders stay until they are used -/

/-- A generation has been inserted, so it is not fresh. -/
theorem generation_stage (run : Run cfg auth acts s) {d : DeviceId}
    (generation : GenerationOf acts d g) : (s.task g).phase.stage ≠ .fresh := by
  refine exec_induction (P := fun acts s => ∀ d g, GenerationOf acts d g →
    (s.task g).phase.stage ≠ .fresh) ?_ ?_ acts s run d g generation
  · intro d g impossible
    cases impossible
  · intro acts s a s' before holds taken d g member
    have rule := step_rule taken
    rcases List.mem_append.mp member with old | new
    · have known : s.takeover.stage g ≠ .fresh := holds d g old
      rcases rule_takeover (run_unborn before) (run_takeover before).1 rule with same | stepped
      · have kept : s'.takeover.stage g ≠ .fresh := same ▸ known
        exact kept
      · exact Takeover.Valid.step_not_fresh stepped known
    · cases List.mem_singleton.mp new
      cases rule with
      | move moves => exact absurd moves Moves.not_insert
      | finish finishes => exact absurd finishes Finishes.not_insert
      | insertFresh | insertOver => simp [Phase.stage]

theorem Moves.senders_eq {phase next : Phase} {e : Event} (moves : Moves s c phase e next) :
    next.senders = phase.senders := by
  cases moves <;> rfl

theorem Finishes.senders_eq {phase : Phase} {e : Event} (finishes : Finishes phase e) :
    phase.senders = [] := by
  cases finishes <;> rfl

/-- A connection that is about to register has no entries yet. -/
theorem insert_empty (run : Run cfg auth acts s) {d : DeviceId} {heartbeat : Bool}
    (here : (s.task c).phase = .agent d heartbeat .insert) (sessionId : SessionId) :
    (s.device c).pending.lookup sessionId ≠ some k := by
  intro found
  obtain ⟨target, -, generation⟩ := entry_asked run found
  exact generation_stage run generation (by rw [here]; rfl)

section Keep

variable {t : Task} {d : Device}

theorem keep_senders {p : SenderPlace} (held : s.HoldsSender p k)
    (tasks : s'.task = Function.update s.task c t)
    (devices : s'.device = Function.update s.device g d)
    (own : (s.task c).phase.senders ⊆ t.phase.senders)
    (entries : ∀ sessionId k, (s.device g).pending.lookup sessionId = some k →
      d.pending.lookup sessionId = some k) : s'.HoldsSender p k := by
  rcases p with ⟨g', sessionId⟩ | c'
  · rcases eq_or_ne g' g with rfl | other
    · exact (holds_entry devices).mpr (.inl ⟨rfl, entries sessionId k held⟩)
    · exact (holds_entry devices).mpr (.inr ⟨other, held⟩)
  · rcases eq_or_ne c' c with rfl | other
    · exact (holds_task tasks).mpr (.inl ⟨rfl, own held⟩)
    · exact (holds_task tasks).mpr (.inr ⟨other, held⟩)

theorem keep_senders_task {p : SenderPlace} (held : s.HoldsSender p k)
    (tasks : s'.task = Function.update s.task c t) (devices : s'.device = s.device)
    (own : (s.task c).phase.senders ⊆ t.phase.senders) : s'.HoldsSender p k :=
  keep_senders (g := c) held tasks (by rw [devices, Function.update_eq_self]) own
    fun _ _ found => found

/-- The entry that was removed is in the locals of `c` now, the others stay. -/
theorem keep_taken {sessionId : SessionId} {k₀ : ConnId} {p : SenderPlace}
    (held : s.HoldsSender p k) (found : (s.device g).pending.lookup sessionId = some k₀)
    (tasks : s'.task = Function.update s.task c t)
    (devices : s'.device = (s.removePending g sessionId).device)
    (before : (s.task c).phase.senders = []) (kept : k = k₀ → k ∈ t.phase.senders) : ∃ p, s'.HoldsSender p k := by
  by_cases same : k = k₀
  · exact ⟨.task c, (holds_task tasks).mpr (.inl ⟨rfl, kept same⟩)⟩
  refine ⟨p, ?_⟩
  rcases p with ⟨g', id⟩ | c'
  · rcases eq_or_ne g' g with rfl | other
    · refine (holds_entry devices).mpr (.inl ⟨rfl, HashMap.lookup_erase_iff.mpr ⟨?_, held⟩⟩)
      rintro rfl
      exact same (Option.some.inj (held.symm.trans found))
    · exact (holds_entry devices).mpr (.inr ⟨other, held⟩)
  · rcases eq_or_ne c' c with rfl | other
    · simp [Relay.HoldsSender, before] at held
    · exact (holds_task tasks).mpr (.inr ⟨other, held⟩)

/-- The sender of `k₀` is used up and leaves the locals of `c`, the others stay. -/
theorem keep_others {k₀ : ConnId} {p : SenderPlace} (held : s.HoldsSender p k)
    (tasks : s'.task = Function.update s.task c t)
    (devices : s'.device = s.device) {o : Oneshot SessionHandoff}
    (responses : s'.response = Function.update s.response k₀ o) (used : o.sender = false)
    (own : ∀ k ∈ (s.task c).phase.senders, k ≠ k₀ → k ∈ t.phase.senders) :
    (∃ p, s'.HoldsSender p k) ∨ (s'.response k).sender = false := by
  by_cases same : k = k₀
  · exact .inr (by simp [same, responses, used])
  refine .inl ⟨p, ?_⟩
  rcases p with ⟨g', id⟩ | c'
  · have kept : (s'.device g').pending.lookup id = some k := by rw [devices]; exact held
    exact kept
  · rcases eq_or_ne c' c with rfl | other
    · exact (holds_task tasks).mpr (.inl ⟨rfl, own k held same⟩)
    · exact (holds_task tasks).mpr (.inr ⟨other, held⟩)

end Keep

/-- A step keeps a sender in some place, or uses it. -/
theorem rule_placed (run : Run cfg auth acts s) (rule : Rule s a s') {p : SenderPlace}
    (held : s.HoldsSender p k) :
    (∃ p, s'.HoldsSender p k) ∨ (s'.response k).sender = false := by
  cases rule with
  | full | reload => exact .inl ⟨p, held⟩
  | spawn =>
      have unborn : (s.task s.admitted).phase.senders = [] := by
        rw [run_unborn run _ le_rfl]
        rfl
      exact .inl ⟨p, keep_senders_task held rfl rfl (by simp [unborn])⟩
  | move moves => exact .inl ⟨p, keep_senders_task held rfl rfl (by simp [moves.senders_eq])⟩
  | finish finishes =>
      exact .inl ⟨p, keep_senders_task held rfl rfl (by simp [finishes.senders_eq])⟩
  | insertFresh here | insertOver here =>
      refine .inl ⟨p, keep_senders held rfl rfl (by simp [here, Phase.senders]) ?_⟩
      exact fun sessionId k found => absurd found (insert_empty run here sessionId)
  | stopPrevious here | control here | agentReturn here | enqueue here =>
      exact .inl ⟨p, keep_senders held rfl rfl (by simp [here, Phase.senders]) (by simp)⟩
  | unregister here | enqueueClosed here | receive here | receiveRefusal here
  | receiveClosed here | expireEnqueue here | expireAwait here =>
      exact .inl ⟨p, keep_senders_task held rfl rfl (by simp [here, Phase.senders])⟩
  | @failPending c d heartbeat here =>
      left
      by_cases drained : ∃ id, p = .entry c id
      · obtain ⟨id, rfl⟩ := drained
        refine ⟨.task c, ?_⟩
        simpa [Relay.HoldsSender, Phase.senders] using HashMap.mem_values.mpr ⟨id, held⟩
      · refine ⟨p, ?_⟩
        rcases p with ⟨g', id⟩ | c'
        · have other : g' ≠ c := fun same => drained ⟨id, by rw [same]⟩
          simpa [Relay.HoldsSender, other] using held
        · rcases eq_or_ne c' c with rfl | other
          · simp [Relay.HoldsSender, here, Phase.senders] at held
          · simpa [Relay.HoldsSender, other] using held
  | failRequest here member =>
      refine keep_others held rfl rfl rfl (by simp) ?_
      intro k inside other
      rw [here] at inside
      exact (List.mem_erase_of_ne other).mpr inside
  | take here found =>
      exact .inl (keep_taken held found rfl rfl (by rw [here]; rfl) (by simp [Phase.senders]))
  | cancel here found =>
      exact .inl (keep_taken held found rfl rfl (by rw [here]; rfl) (by simp [Phase.senders]))
  | handOver here | refuse here | refuseCancelled here =>
      refine keep_others held rfl rfl rfl (by simp) ?_
      intro k inside other
      rw [here] at inside
      exact absurd (List.mem_singleton.mp inside) other
  | @register c g sessionId registered here ok =>
      obtain ⟨rfl, -, free⟩ := Relay.registerPending_eq ok
      refine .inl ⟨p, keep_senders held rfl rfl (by simp [here, Phase.senders]) ?_⟩
      intro id k found
      refine HashMap.lookup_insert_iff.mpr (.inr ⟨?_, found⟩)
      rintro rfl
      rw [free] at found
      cases found
  | @cancelExpired _ c g sessionId k₀ here found =>
      by_cases same : k = k₀
      · exact .inr (by simp [same])
      · exact .inl (keep_taken held found rfl rfl (by rw [here]; rfl)
          fun impossible => absurd impossible same)

/-- A response that can still be sent is in some place. -/
theorem run_placed (run : Run cfg auth acts s) (sender : (s.response k).sender = true) :
    ∃ p, s.HoldsSender p k := by
  refine exec_induction (P := fun _ s => ∀ k, (s.response k).sender = true →
    ∃ p, s.HoldsSender p k) ?_ ?_ acts s run k sender
  · intro k sender
    simp [Relay.start] at sender
  · intro acts s a s' before holds taken k sender
    have rule := step_rule taken
    obtain ⟨unborn, senders⟩ := run_senders before
    have kept : (s.response k).sender = true → ∃ p, s'.HoldsSender p k := by
      intro earlier
      obtain ⟨p, held⟩ := holds k earlier
      rcases rule_placed before rule held with still | used
      · exact still
      · rw [used] at sender
        cases sender
    cases senders.rule_response unborn rule with
    | same responses => exact kept (by rwa [responses] at sender)
    | answered k₀ _ _ o used responses =>
        rcases eq_or_ne k k₀ with rfl | other
        · rcases used with ⟨v, rfl⟩ | rfl <;> simp [responses] at sender
        · exact kept (by simpa [responses, other] using sender)
    | dropped k₀ _ responses =>
        rcases eq_or_ne k k₀ with rfl | other
        · exact kept (by simpa [responses] using sender)
        · exact kept (by simpa [responses, other] using sender)
    | made k₀ held _ responses =>
        rcases eq_or_ne k k₀ with rfl | other
        · exact held
        · exact kept (by simpa [responses, other] using sender)

/-! ## Whose the entries are -/

/-- A step of the controller whose entry is still there goes on with the same request. -/
theorem owner_step {e : Event} {sessionId : SessionId} (senders : Senders s)
    (rule : Rule s (.task k e) s') (entry : (s.device g).pending.lookup sessionId = some k)
    (still : (s'.device g).pending.lookup sessionId = some k)
    (request : (s.task k).phase.request = some (g, sessionId))
    (late : (s.task k).phase.early = false) :
    (s'.task k).phase.request = some (g, sessionId) ∧ (s'.task k).phase.early = false := by
  have live := senders.live (p := .entry g sessionId) entry
  cases rule with
  | move moves =>
      simp only [Relay.goto_task, Function.update_self]
      generalize (s.task k).phase = phase at moves request late
      cases moves with
      | cancelled absent | expired absent =>
          cases request
          rw [absent] at entry
          cases entry
      | tooMany => cases late
      | _ => cases request
  | finish finishes =>
      generalize (s.task k).phase = phase at finishes request
      cases finishes <;> cases request
  | enqueue here | enqueueClosed here | receiveClosed here | expireEnqueue here
  | expireAwait here =>
      rw [here] at request
      simpa [Phase.request, Phase.early] using request
  | receive _ value | receiveRefusal _ value =>
      rw [live.2] at value
      cases value
  | cancel here | cancelExpired here =>
      rw [here] at request
      cases request
      simp [AList.lookup_erase] at still
  | register here =>
      rw [here] at late
      cases late
  | _ here =>
      rw [here] at request
      cases request

/-- An entry belongs to the controller that registered it and is busy with it. -/
theorem entry_owner (run : Run cfg auth acts s) {sessionId : SessionId}
    (entry : (s.device g).pending.lookup sessionId = some k) :
    (s.task k).phase.request = some (g, sessionId) ∧ (s.task k).phase.early = false := by
  refine exec_induction (P := fun _ s => ∀ g sessionId k,
    (s.device g).pending.lookup sessionId = some k →
      (s.task k).phase.request = some (g, sessionId) ∧ (s.task k).phase.early = false)
    ?_ ?_ acts s run g sessionId k entry
  · intro g sessionId k found
    simp [Relay.start, Device.absent] at found
  · intro acts s a s' before holds taken g sessionId k found
    have rule := step_rule taken
    obtain ⟨unborn, senders⟩ := run_senders before
    rcases rule.adds_entry found with old | ⟨-, here⟩
    · obtain ⟨request, late⟩ := holds g sessionId k old
      by_cases own : ∃ e, a = .task k e
      · obtain ⟨e, rfl⟩ := own
        exact owner_step senders rule old found request late
      · have kept := rule.task_kept unborn (fun e same => own ⟨e, same⟩)
          (fun unborn => by rw [unborn] at request; cases request)
        rw [kept]
        exact ⟨request, late⟩
    · rw [here]
      exact ⟨rfl, rfl⟩

/-! ## The queue of a control connection -/

/-- The handler has inserted its device and not returned. -/
def Phase.hosting : Phase → Bool
  | .agent _ _ .insert => false
  | .agent _ _ _ => true
  | _ => false

/-- `fail_pending` is still to come. -/
def Phase.collects : Phase → Bool
  | .agent _ _ (.stopPrevious _) => true
  | .agent _ _ (.running _) => true
  | .agent _ _ .failPending => true
  | _ => false

/-- Only an insertion makes a queue. -/
theorem Rule.makes_queue (rule : Rule s a s') (alive : (s'.device g).openReceiver = true) :
    (s.device g).openReceiver = true ∨ ∃ d, a = .task g (.insert d) := by
  cases rule with
  | @insertFresh c d | @insertOver c d =>
      rcases eq_or_ne g c with rfl | other
      · exact .inr ⟨d, rfl⟩
      · exact .inl (by simpa [other] using alive)
  | @register _ g₁ _ _ _ ok =>
      obtain ⟨rfl, -, -⟩ := Relay.registerPending_eq ok
      rcases eq_or_ne g g₁ with rfl | other
      · exact .inl (by simpa using alive)
      · exact .inl (by simpa [other] using alive)
  | @control c _ _ _ _ e =>
      rcases eq_or_ne g c with rfl | other
      · cases e <;> exact .inl (by simpa [Device.afterControl] using alive)
      · exact .inl (by simpa [other] using alive)
  | @agentReturn g₁ =>
      rcases eq_or_ne g g₁ with rfl | other
      · simp at alive
      · exact .inl (by simpa [other] using alive)
  | @stopPrevious _ _ _ g₁ | @failPending g₁ | @take _ _ g₁ | @enqueue _ g₁ | @cancel _ g₁
  | @cancelExpired _ _ g₁ =>
      rcases eq_or_ne g g₁ with rfl | other
      · exact .inl (by simpa using alive)
      · exact .inl (by simpa [other] using alive)
  | _ => exact .inl alive

/-- A hosting handler goes on hosting until it returns and drops its queue. -/
theorem Rule.keeps_hosting {e : Event} (rule : Rule s (.task g e) s')
    (hosting : (s.task g).phase.hosting = true) (alive : (s'.device g).openReceiver = true) :
    (s'.task g).phase.hosting = true := by
  cases rule with
  | move moves =>
      generalize (s.task g).phase = phase at moves hosting
      cases moves <;> cases hosting
  | finish finishes =>
      generalize (s.task g).phase = phase at finishes hosting
      cases finishes <;> cases hosting
  | insertFresh | insertOver | stopPrevious | failPending | failRequest | unregister =>
      simp [Phase.hosting]
  | control =>
      simp only [Relay.goto_task, Function.update_self]
      split <;> rfl
  | agentReturn => simp at alive
  | _ here =>
      rw [here] at hosting
      cases hosting

/-- `open_rx` is alive only while its handler runs. -/
theorem run_opens (run : Run cfg auth acts s) (alive : (s.device g).openReceiver = true) :
    (s.task g).phase.hosting = true := by
  refine exec_induction (P := fun _ s => ∀ g, (s.device g).openReceiver = true →
    (s.task g).phase.hosting = true) ?_ ?_ acts s run g alive
  · intro g alive
    simp [Relay.start, Device.absent] at alive
  · intro acts s a s' before holds taken g alive
    have rule := step_rule taken
    rcases rule.makes_queue alive with old | ⟨d, rfl⟩
    · have hosting := holds g old
      by_cases own : ∃ e, a = .task g e
      · obtain ⟨e, rfl⟩ := own
        exact rule.keeps_hosting hosting alive
      · rw [rule.task_kept (run_unborn before) (fun e same => own ⟨e, same⟩)
          (fun unborn => by rw [unborn] at hosting; cases hosting)]
        exact hosting
    · cases rule with
      | move moves => exact absurd moves Moves.not_insert
      | finish finishes => exact absurd finishes Finishes.not_insert
      | insertFresh | insertOver => simp [Phase.hosting]

/-! ## No request is left behind -/

/-- Controller `k` queues its request in the window the cleanup leaves open: it
registered after `fail_pending` took the map, and `open_rx` is not dropped yet. -/
def LateOpen (s : Relay) (k : ConnId) : Prop :=
  ∃ g sessionId, (s.task k).phase = .controller (.enqueue g sessionId) ∧
    (s.device g).pending.lookup sessionId = some k ∧
    (s.task g).phase.hosting = true ∧ (s.task g).phase.collects = false

/-- What a request sees of a control connection whose handler has returned: its
`open_tx.send` fails, and while it waits its sender is in no pending map, so the
response was resolved or a handler that runs is about to. -/
def FailsPromptly (s : Relay) : Prop :=
  ∀ g k sessionId, (s.task g).phase = .returned →
    ((s.task k).phase = .controller (.enqueue g sessionId) →
      (s.device g).openReceiver = false) ∧
    ((s.task k).phase = .controller (.await g sessionId) →
      (∀ g' id, (s.device g').pending.lookup id ≠ some k) ∧
        ((s.response k).value.isSome = true ∨ (s.response k).sender = false ∨
          ∃ c, k ∈ (s.task c).phase.senders))

/-- A collecting handler collects until it takes the map. -/
theorem Rule.keeps_collecting {e : Event} (rule : Rule s (.task g e) s')
    (collects : (s.task g).phase.collects = true) {id : SessionId}
    (entry : (s'.device g).pending.lookup id = some k) :
    (s'.task g).phase.collects = true := by
  cases rule with
  | move moves =>
      generalize (s.task g).phase = phase at moves collects
      cases moves <;> cases collects
  | finish finishes =>
      generalize (s.task g).phase = phase at finishes collects
      cases finishes <;> cases collects
  | insertFresh | insertOver | stopPrevious => simp [Phase.collects]
  | control =>
      simp only [Relay.goto_task, Function.update_self]
      split <;> rfl
  | failPending => simp at entry
  | _ here =>
      rw [here] at collects
      cases collects

/-- The only step into the wait is the one that queues the request. -/
theorem Rule.awaits_by {e : Event} (rule : Rule s (.task k e) s') {sessionId : SessionId}
    (here : (s'.task k).phase = .controller (.await g sessionId)) :
    e = .enqueue ∧ (s.task k).phase = .controller (.enqueue g sessionId) ∧
      (s.device g).openReceiver = true := by
  cases rule with
  | move moves =>
      simp only [Relay.goto_task, Function.update_self] at here
      subst here
      generalize (s.task k).phase = phase at moves
      cases moves
  | enqueue at_ alive =>
      simp only [Relay.goto_task, Function.update_self, Phase.controller.injEq,
        ControllerPoint.await.injEq] at here
      obtain ⟨rfl, rfl⟩ := here
      exact ⟨rfl, at_, alive⟩
  | control =>
      simp only [Relay.goto_task, Function.update_self] at here
      split at here <;> cases here
  | register _ ok =>
      obtain ⟨rfl, -, -⟩ := Relay.registerPending_eq ok
      simp at here
  | _ => simp at here

/-- In a run without late opens, the handler whose map holds a waiting request will
still collect it. -/
theorem run_collects (run : Run cfg auth acts s)
    (prompt : ∀ pre k post mid, acts = pre ++ .task k .enqueue :: post → Run cfg auth pre mid →
      ¬ LateOpen mid k) {sessionId id : SessionId}
    (here : (s.task k).phase = .controller (.await g sessionId))
    (entry : (s.device g).pending.lookup id = some k) : (s.task g).phase.collects = true := by
  refine exec_induction (P := fun acts s =>
    (∀ pre k post mid, acts = pre ++ .task k .enqueue :: post → Run cfg auth pre mid →
      ¬ LateOpen mid k) → ∀ g k sessionId id,
    (s.task k).phase = .controller (.await g sessionId) →
      (s.device g).pending.lookup id = some k → (s.task g).phase.collects = true)
    ?_ ?_ acts s run prompt g k sessionId id here entry
  · intro _ g k sessionId id here
    cases here
  · intro acts s a s' before holds taken prompt g k sessionId id here entry
    have rule := step_rule taken
    have unborn := run_unborn before
    have earlier : ∀ pre k post mid, acts = pre ++ .task k .enqueue :: post →
        Run cfg auth pre mid → ¬ LateOpen mid k := by
      rintro pre k post mid rfl
      exact prompt pre k (post ++ [a]) mid (by simp)
    rcases rule.adds_entry entry with old | ⟨-, entered⟩
    · obtain ⟨request, late⟩ := entry_owner before old
      have spawned : (s.task k).phase ≠ .unborn := by
        intro unborn
        rw [unborn] at request
        cases request
      by_cases own : ∃ e, a = .task k e
      · obtain ⟨e, rfl⟩ := own
        obtain ⟨rfl, queued, alive⟩ := rule.awaits_by here
        have hosting := run_opens before alive
        have apart : g ≠ k := by
          rintro rfl
          rw [queued] at hosting
          cases hosting
        rw [queued] at request
        cases request
        rw [rule.task_other apart]
        by_contra closed
        exact prompt acts k [] s rfl before
          ⟨g, sessionId, queued, old, hosting, Bool.eq_false_iff.mpr closed⟩
      · rw [rule.task_kept unborn (fun e same => own ⟨e, same⟩) spawned] at here
        have collects := holds earlier g k sessionId id here old
        by_cases own : ∃ e, a = .task g e
        · obtain ⟨e, rfl⟩ := own
          exact rule.keeps_collecting collects entry
        · rw [rule.task_kept unborn (fun e same => own ⟨e, same⟩)
            (fun unborn => by rw [unborn] at collects; cases collects)]
          exact collects
    · rw [entered] at here
      cases here

/-- **Requests on a control connection that ended fail promptly**, in every run in which
no controller queues a request between that connection's `fail_pending` and the drop of
its `open_rx` that it registered after the `fail_pending`. -/
theorem requests_fail_promptly (run : Run cfg auth acts s)
    (prompt : ∀ pre k post mid, acts = pre ++ .task k .enqueue :: post → Run cfg auth pre mid →
      ¬ LateOpen mid k) : FailsPromptly s := by
  intro g k sessionId returned
  constructor
  · intro _
    by_contra alive
    have hosting := run_opens run (Bool.not_eq_false _ ▸ alive)
    rw [returned] at hosting
    cases hosting
  · intro here
    have absent : ∀ g' id, (s.device g').pending.lookup id ≠ some k := by
      intro g' id entry
      obtain ⟨request, -⟩ := entry_owner run entry
      rw [here] at request
      cases request
      have collects := run_collects run prompt here entry
      rw [returned] at collects
      cases collects
    refine ⟨absent, ?_⟩
    cases sender : (s.response k).sender with
    | false => exact .inr (.inl rfl)
    | true =>
        obtain ⟨⟨g', id⟩ | c, held⟩ := run_placed run sender
        · exact absurd held (absent g' id)
        · exact .inr (.inr ⟨c, held⟩)

end Pending

/-- The control connection ends while it holds a request, and answers it. -/
def promptRun : List Act :=
  registers 0 "desk" deviceToken ++ requests 1 "desk" "s" controllerToken ++ leaves 0 ++
    [.task 0 .failPending, .task 0 (.failRequest 1), .task 0 .unregister, .task 0 .return]

def promptEnd : Relay :=
  (exec (step plainSettings) (Relay.start oneDevice) promptRun).get (by decide)

/-- The step queues an Open. -/
def enqueues : Act → Bool
  | .task _ .enqueue => true
  | _ => false

/-- Where `promptRun` is when the request is queued. -/
def promptQueued : Relay :=
  (exec (step plainSettings) (Relay.start oneDevice) (promptRun.take 14)).get (by decide)

theorem requests_fail_promptly_answered : FailsPromptly promptEnd := by
  have run : Run plainSettings oneDevice promptRun promptEnd := (Option.some_get _).symm
  refine requests_fail_promptly run fun pre k post mid split before => ?_
  have only : ∀ i < promptRun.length, promptRun[i]?.map enqueues = some true → i = 14 := by decide
  have short : pre.length < promptRun.length := by simp [split]
  have queued := only pre.length short (by simp [split, enqueues])
  have last : promptRun[14]? = some (.task 1 .enqueue) := by decide
  have here : promptRun[pre.length]? = some (.task k .enqueue) := by simp [split]
  rw [queued, last] at here
  cases here
  have same : pre = promptRun.take 14 := by rw [split, ← queued]; simp
  subst same
  have there : Run plainSettings oneDevice (promptRun.take 14) promptQueued :=
    (Option.some_get _).symm
  cases before.symm.trans there
  have queues : (promptQueued.task 1).phase = .controller (.enqueue 0 "s") := by decide
  have collects : (promptQueued.task 0).phase.collects = true := by decide
  rintro ⟨g, sessionId, at_, -, -, closed⟩
  rw [queues] at at_
  cases at_
  rw [collects] at closed
  cases closed

/-- The controller looked the device up, the control connection ends and collects what is
pending; the controller registers and queues its request; the handler returns. -/
def strandedRun : List Act :=
  registers 0 "desk" deviceToken ++ joins 1 .controller none controllerToken ++
    [.task 1 (.recv (.openRequest "desk" "s")), .task 1 .lookup] ++ leaves 0 ++
    [.task 0 .failPending, .task 1 .register, .task 1 .enqueue, .task 0 .unregister,
      .task 0 .return]

def strandedEnd : Relay :=
  (exec (step plainSettings) (Relay.start oneDevice) strandedRun).get (by decide)

/-- The handler has returned, the controller waits, its sender is in the dead map. -/
theorem request_stranded :
    Run plainSettings oneDevice strandedRun strandedEnd ∧
      (strandedEnd.task 0).phase = .returned ∧
      (strandedEnd.task 1).phase = .controller (.await 0 "s") ∧
      (strandedEnd.device 0).pending.lookup "s" = some 1 ∧ ¬ FailsPromptly strandedEnd := by
  have waits : (strandedEnd.task 1).phase = .controller (.await 0 "s") := by decide
  refine ⟨(Option.some_get _).symm, by decide, waits, by decide, fun prompt => ?_⟩
  exact ((prompt 0 1 "s" (by decide)).2 waits).1 0 "s" (by decide)

end RustSsh.Server
