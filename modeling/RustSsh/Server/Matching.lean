/-
# Server.Matching -- a controller is bridged to the session it asked for

The sender of a request is followed from the pending map (`entry_asked`) into the
session that takes it (`Serves`), and the stream that session hands over from its one
`response_tx.send` (`HandedTo`) through the response channel to the controller
(`run_bridges`).  A stream is handed over once and a controller bridges once, so
what is bridged is matched, whatever the order of the steps and however the session
ids collide.
-/
import RustSsh.Server.Authority

namespace RustSsh.Server

open RustSsh.Theory RustSsh.Protocol

set_option autoImplicit false

/-! ## The agent session's side -/

/-- Session `c` attached to `sessionId`. -/
def attachSteps (c : ConnId) (sessionId : SessionId) : List Act :=
  [.task c (.recv (.sessionAttach sessionId))]

/-- And was accepted. -/
def acceptSteps (c : ConnId) (sessionId : SessionId) : List Act :=
  attachSteps c sessionId ++ [.task c (.send (.sessionAccepted sessionId))]

/-- And answered `Ready`, all in this order. -/
def readySteps (c : ConnId) (sessionId : SessionId) : List Act :=
  acceptSteps c sessionId ++ [.task c (.recv (.ready sessionId))]

/-- What a session handler knows of the connection and of the request it holds. -/
def Serves (acts : List Act) (c : ConnId) : Phase → Prop
  | .session _ (.lookup sessionId) => (attachSteps c sessionId).Sublist acts
  | .session _ (.take _ sessionId) => (attachSteps c sessionId).Sublist acts
  | .session d (.accept sessionId k) =>
      (attachSteps c sessionId).Sublist acts ∧ Asked acts k d sessionId
  | .session d (.ready sessionId k) =>
      (acceptSteps c sessionId).Sublist acts ∧ Asked acts k d sessionId
  | .session d (.respond k none) =>
      ∃ sessionId, (readySteps c sessionId).Sublist acts ∧ Asked acts k d sessionId
  | _ => True

section Matching

variable {cfg : Settings} {auth : AuthSnapshot} {acts : List Act} {s s' : Relay} {a : Act}
  {c k : ConnId}

theorem Asked.more {target : DeviceId} {sessionId : SessionId}
    (asked : Asked acts k target sessionId) (more : List Act) :
    Asked (acts ++ more) k target sessionId :=
  List.mem_append_left more asked

theorem sublist_more {steps : List Act} (sub : steps.Sublist acts) (more : List Act) :
    steps.Sublist (acts ++ more) :=
  sub.trans (List.sublist_append_left acts more)

/-- An entry appears by the registration of the controller whose sender it holds. -/
theorem Rule.adds_entry (rule : Rule s a s') {g : ConnId} {sessionId : SessionId}
    (found : (s'.device g).pending.lookup sessionId = some k) :
    (s.device g).pending.lookup sessionId = some k ∨
      ((s.task k).phase = .controller (.register g sessionId) ∧
        (s'.task k).phase = .controller (.enqueue g sessionId)) := by
  by_cases same : (s'.device g).pending = (s.device g).pending
  · exact .inl (same ▸ found)
  cases rule with
  | @insertFresh c | @insertOver c =>
      rcases eq_or_ne g c with rfl | other
      · simp [Device.new] at found
      · simp [other] at same
  | @failPending c =>
      rcases eq_or_ne g c with rfl | other
      · simp at found
      · simp [other] at same
  | @take _ _ g₁ | @cancel _ g₁ | @cancelExpired _ _ g₁ =>
      rcases eq_or_ne g g₁ with rfl | other
      · simp only [Relay.goto_device, Relay.removePending, Relay.dropRequest,
          Relay.setResponse_device, Relay.setDevice_device, Function.update_self] at found
        exact .inl (HashMap.lookup_erase_iff.mp found).2
      · simp [other] at same
  | @register c g₁ id registered here ok =>
      obtain ⟨rfl, -, -⟩ := Relay.registerPending_eq ok
      rcases eq_or_ne g g₁ with rfl | other
      · simp only [Relay.goto_device, Relay.setResponse_device, Relay.setDevice_device,
          Function.update_self] at found
        rcases HashMap.lookup_insert_iff.mp found with ⟨rfl, rfl⟩ | ⟨-, before⟩
        · exact .inr ⟨here, by simp⟩
        · exact .inl before
      · simp [other] at same
  | @stopPrevious _ _ _ g₁ | @control g₁ | @agentReturn g₁ | @enqueue _ g₁ =>
      rcases eq_or_ne g g₁ with rfl | other
      · simp at same
      · simp [other] at same
  | _ => exact absurd rfl same

/-- Whoever has an entry asked for that id, of the entry's device. -/
theorem entry_asked (run : Run cfg auth acts s) {g : ConnId} {sessionId : SessionId}
    (found : (s.device g).pending.lookup sessionId = some k) :
    ∃ target, Asked acts k target sessionId ∧ GenerationOf acts target g := by
  refine exec_induction (P := fun acts s => ∀ g sessionId k,
    (s.device g).pending.lookup sessionId = some k →
      ∃ target, Asked acts k target sessionId ∧ GenerationOf acts target g)
    ?_ ?_ acts s run g sessionId k found
  · intro g sessionId k found
    simp [Relay.start, Device.absent] at found
  · intro acts s a s' before holds taken g sessionId k found
    have known : ∃ target, Asked acts k target sessionId ∧ GenerationOf acts target g := by
      rcases (step_rule taken).adds_entry found with old | ⟨here, -⟩
      · exact holds g sessionId k old
      · exact (run_sought before k).request (by rw [here]; rfl)
    obtain ⟨target, asked, generation⟩ := known
    exact ⟨target, asked.more [a], List.mem_append_left [a] generation⟩

theorem serves_more {phase : Phase} (more : List Act) (serves : Serves acts c phase) :
    Serves (acts ++ more) c phase := by
  unfold Serves at serves ⊢
  split <;> first
    | exact sublist_more serves more
    | exact ⟨sublist_more serves.1 more, serves.2.more more⟩
    | exact serves.imp fun _ known => ⟨sublist_more known.1 more, known.2.more more⟩
    | trivial

theorem serves_move {e : Event} {phase next : Phase} (moves : Moves s c phase e next)
    (serves : Serves acts c phase) : Serves (acts ++ [.task c e]) c next := by
  cases moves with
  | attach d sessionId => exact List.sublist_append_right acts _
  | sessionDevice found => exact sublist_more serves _
  | accepted d sessionId k =>
      exact ⟨serves.1.append (.refl _), serves.2.more _⟩
  | ready d sessionId k =>
      exact ⟨sessionId, serves.1.append (.refl _), serves.2.more _⟩
  | _ => trivial

theorem run_serves (run : Run cfg auth acts s) (c : ConnId) : Serves acts c (s.task c).phase := by
  refine run_each (P := Serves) (fun _ => trivial) (fun _ _ a _ _ => serves_more [a])
    (fun _ _ _ => trivial) ?_ run c
  intro acts s c e s' before rule serves
  cases rule with
  | move moves => simpa using serves_move moves serves
  | @take c d g sessionId k here found =>
      rw [here] at serves
      obtain ⟨target, asked, generation⟩ := entry_asked before found
      cases generation_unique before generation ((run_sought before c).take here)
      simpa [Serves] using And.intro (sublist_more serves _) (asked.more _)
  | control =>
      simp only [Relay.goto_task, Function.update_self]
      split <;> trivial
  | register here ok =>
      obtain ⟨rfl, -, -⟩ := Relay.registerPending_eq ok
      simp [Serves]
  | _ => simp [Serves]

/-! ## The handoff -/

variable (cfg auth) in
/-- Session `agent` answered the request of `k` with its stream. -/
def HandedTo (acts : List Act) (agent k : ConnId) : Prop :=
  ∃ pre mid d, pre ++ [.task agent .respond] <+: acts ∧ Run cfg auth pre mid ∧
    (mid.task agent).phase = .session d (.respond k none)

theorem HandedTo.more {agent : ConnId} (handed : HandedTo cfg auth acts agent k)
    (more : List Act) : HandedTo cfg auth (acts ++ more) agent k := by
  obtain ⟨pre, mid, d, inside, run, here⟩ := handed
  exact ⟨pre, mid, d, inside.trans (List.prefix_append acts more), run, here⟩

/-- What a session that hands its stream over has been through. -/
theorem HandedTo.matched {agent : ConnId} (handed : HandedTo cfg auth acts agent k) :
    ∃ target sessionId, Asked acts k target sessionId ∧
      Authenticated cfg auth acts agent .agentSession (some target) ∧
      (readySteps agent sessionId).Sublist acts := by
  obtain ⟨pre, mid, d, ⟨rest, rfl⟩, run, here⟩ := handed
  have serves := run_serves run agent
  have standing := run_standing run agent
  rw [here] at serves standing
  obtain ⟨sessionId, ready, asked⟩ := serves
  rw [List.append_assoc]
  exact ⟨d, sessionId, asked.more _, authenticated_stable _ _ _ pre _ standing,
    sublist_more ready _⟩

/-- After its handoff a session hands nothing over again. -/
theorem handed_last {agent : ConnId} {pre pre' : List Act} {mid mid' : Relay} {d d' : DeviceId}
    {k' : ConnId} (run : Run cfg auth pre mid)
    (here : (mid.task agent).phase = .session d (.respond k none))
    (run' : Run cfg auth pre' mid')
    (here' : (mid'.task agent).phase = .session d' (.respond k' none))
    (earlier : pre ++ [.task agent .respond] <+: pre') : False := by
  obtain ⟨rest, rfl⟩ := earlier
  obtain ⟨after, first, last⟩ := exec_prefix run'
  obtain ⟨before, start, taken⟩ := exec_prefix first
  cases start.symm.trans run
  have stepped : step cfg mid (.task agent .respond) = some after := by simpa [exec] using taken
  have returned : (after.task agent).phase = .returned := by
    cases step_rule stepped with
    | handOver => simp
    | move moves =>
        rw [here] at moves
        cases moves
    | finish => simp
    | refuse at_ => rw [here] at at_; cases at_
    | refuseCancelled at_ => rw [here] at at_; cases at_
  have still := (returned_silent first last returned).2
  rw [still] at here'
  cases here'

theorem HandedTo.unique {agent k' : ConnId} (one : HandedTo cfg auth acts agent k)
    (other : HandedTo cfg auth acts agent k') : k = k' := by
  obtain ⟨pre, mid, d, inside, run, here⟩ := one
  obtain ⟨pre', mid', d', inside', run', here'⟩ := other
  rcases lt_trichotomy pre.length pre'.length with shorter | same | longer
  · have earlier : pre ++ [.task agent .respond] <+: pre' :=
      List.prefix_of_prefix_length_le inside ((List.prefix_append pre' _).trans inside')
        (by rw [List.length_append]; exact shorter)
    exact (handed_last run here run' here' earlier).elim
  · have equal : pre = pre' :=
      (List.prefix_of_prefix_length_le ((List.prefix_append pre _).trans inside)
        ((List.prefix_append pre' _).trans inside') same.le).eq_of_length same
    subst equal
    cases run.symm.trans run'
    rw [here] at here'
    cases here'
    rfl
  · have earlier : pre' ++ [.task agent .respond] <+: pre :=
      List.prefix_of_prefix_length_le inside' ((List.prefix_append pre _).trans inside)
        (by rw [List.length_append]; exact longer)
    exact (handed_last run' here' run here earlier).elim

/-- The `response_tx.send` that puts a value into the channel of `k`. -/
inductive Sends (s : Relay) (a : Act) (k : ConnId) : SessionHandoff → Prop where
  | handOver {c : ConnId} {d : DeviceId} (act : a = .task c .respond)
      (here : (s.task c).phase = .session d (.respond k none)) : Sends s a k (.ok (c, c))
  | refuse {c : ConnId} {d : DeviceId} {reason : String}
      (here : (s.task c).phase = .session d (.respond k (some reason))) :
      Sends s a k (.error reason)
  | refuseCancelled {c : ConnId} {sessionId : SessionId} {reason : String}
      (here : (s.task c).phase = .controller (.refuse k sessionId reason)) :
      Sends s a k (.error reason)
  | failRequest : Sends s a k (.error "device control connection ended")

/-- A channel with the value `v` was sent `v`, or is as it was. -/
theorem sent_value {o : Oneshot SessionHandoff} {v w : SessionHandoff}
    (value : (o.send w).1.value = some v) : o.value = some v ∨ v = w := by
  rw [Oneshot.send_value] at value
  split at value
  · exact .inr (Option.some.inj value).symm
  · exact .inl value

/-- What is in a response channel after a step was there before, or was sent by the step. -/
theorem Rule.sends (rule : Rule s a s') {v : SessionHandoff}
    (value : (s'.response k).value = some v) :
    (s.response k).value = some v ∨ Sends s a k v := by
  have sent {k₁ : ConnId} {w : SessionHandoff}
      (value : (Function.update s.response k₁ ((s.response k₁).send w).1 k).value = some v)
      (sends : k = k₁ → Sends s a k w) : (s.response k).value = some v ∨ Sends s a k v := by
    rcases eq_or_ne k k₁ with rfl | other
    · rw [Function.update_self] at value
      refine (sent_value value).imp_right ?_
      rintro rfl
      exact sends rfl
    · rw [Function.update_of_ne other] at value
      exact .inl value
  cases rule with
  | @handOver c d k₁ here =>
      rw [Relay.handOver_response] at value
      apply sent value
      rintro rfl
      exact .handOver rfl here
  | @failRequest _ _ _ _ k₁ =>
      simp only [Relay.goto_response, Relay.refuseRequest, Relay.setResponse_response] at value
      apply sent value
      rintro rfl
      exact .failRequest
  | @refuse _ _ k₁ _ here =>
      simp only [Relay.goto_response, Relay.refuseRequest, Relay.setResponse_response] at value
      apply sent value
      rintro rfl
      exact .refuse here
  | @refuseCancelled _ k₁ _ _ here =>
      simp only [Relay.goto_response, Relay.refuseRequest, Relay.setResponse_response] at value
      apply sent value
      rintro rfl
      exact .refuseCancelled here
  | @cancelExpired _ _ _ _ k₁ =>
      rcases eq_or_ne k k₁ with rfl | other
      · exact .inl (by simpa using value)
      · exact .inl (by simpa [other] using value)
  | @register c _ _ _ here ok =>
      obtain ⟨rfl, -, -⟩ := Relay.registerPending_eq ok
      rcases eq_or_ne k c with rfl | other
      · simp at value
      · exact .inl (by simpa [other] using value)
  | @enqueueClosed c | @receive c | @receiveRefusal c | @receiveClosed c | @expireEnqueue c
  | @expireAwait c =>
      rcases eq_or_ne k c with rfl | other
      · simp at value
      · exact .inl (by simpa [other] using value)
  | _ => exact .inl value

/-- A stream in a response channel was handed to its controller. -/
theorem value_handed (run : Run cfg auth acts s) {agent permit : ConnId}
    (value : (s.response k).value = some (.ok (agent, permit))) :
    HandedTo cfg auth acts agent k := by
  refine exec_induction (P := fun acts s => ∀ k agent permit,
    (s.response k).value = some (.ok (agent, permit)) → HandedTo cfg auth acts agent k)
    ?_ ?_ acts s run k agent permit value
  · intro k agent permit value
    simp [Relay.start] at value
  · intro acts s a s' before holds taken k agent permit value
    cases (step_rule taken).sends value with
    | inl old => exact (holds k agent permit old).more [a]
    | inr sends =>
        cases sends with
        | @handOver c d act here =>
            subst act
            exact ⟨acts, s, d, List.prefix_rfl, before, here⟩

/-- A controller past the response holds a stream that was handed to it. -/
def Holds (cfg : Settings) (auth : AuthSnapshot) (acts : List Act) (k : ConnId) : Phase → Prop
  | .controller (.ready _ agent) => HandedTo cfg auth acts agent k
  | .controller (.bridge agent) => HandedTo cfg auth acts agent k
  | .controller (.bridging agent) => HandedTo cfg auth acts agent k
  | _ => True

theorem run_holds (run : Run cfg auth acts s) (k : ConnId) :
    Holds cfg auth acts k (s.task k).phase := by
  have more : ∀ acts k phase a, Holds cfg auth acts k phase →
      Holds cfg auth (acts ++ [a]) k phase := by
    intro acts k phase a holds
    unfold Holds at holds ⊢
    split <;> first
      | exact HandedTo.more holds [a]
      | trivial
  refine run_each (P := Holds cfg auth) (fun _ => trivial) (fun acts c a phase _ => more acts c phase a)
    (fun _ _ _ => trivial) ?_ run k
  intro acts s c e s' before rule holds
  have kept := more acts c _ (.task c e) holds
  cases rule with
  | move moves =>
      simp only [Relay.goto_task, Function.update_self]
      generalize (s.task c).phase = phase at moves kept
      cases moves with
      | confirm | bridge => exact kept
      | _ => trivial
  | receive here value =>
      simpa [Holds] using (value_handed before value).more [.task c .receive]
  | control =>
      simp only [Relay.goto_task, Function.update_self]
      split <;> trivial
  | register here ok =>
      obtain ⟨rfl, -, -⟩ := Relay.registerPending_eq ok
      simp [Holds]
  | _ => simp [Holds]

/-! ## Bridging -/

theorem Rule.bridges {agent : ConnId} (rule : Rule s (.task k (.bridge agent)) s') :
    (s.task k).phase = .controller (.bridge agent) ∧
      (s'.task k).phase = .controller (.bridging agent) := by
  cases rule with
  | move moves =>
      simp only [Relay.goto_task, Function.update_self]
      generalize (s.task k).phase = phase at moves
      cases moves with
      | notReady _ _ _ _ incoming => cases incoming
      | bridge => exact ⟨rfl, rfl⟩
  | finish finishes =>
      generalize (s.task k).phase = phase at finishes
      cases finishes <;> rename_i incoming <;> cases incoming

/-- What is left to a controller that bridges is to return. -/
theorem Rule.bridging_over {agent : ConnId} {e : Event} (rule : Rule s (.task k e) s')
    (here : (s.task k).phase = .controller (.bridging agent)) :
    (s'.task k).phase = .returned := by
  cases rule with
  | move moves =>
      rw [here] at moves
      cases moves
  | finish => simp
  | _ at_ =>
      rw [here] at at_
      cases at_

theorem bridging_last {pre rest : List Act} {agent : ConnId} (before : Run cfg auth pre s)
    (run : exec (step cfg) s rest = some s')
    (here : (s.task k).phase = .controller (.bridging agent)) (agent' : ConnId) :
    Act.task k (.bridge agent') ∉ rest := by
  induction rest generalizing pre s with
  | nil => simp
  | cons a rest ih =>
      obtain ⟨t, taken, last⟩ := Option.bind_eq_some_iff.mp run
      have rule := step_rule taken
      by_cases own : ∃ e, a = .task k e
      · obtain ⟨e, rfl⟩ := own
        have silent := (returned_silent (exec_snoc before taken) last (rule.bridging_over here)).1
        rintro (_ | ⟨_, member⟩)
        · rw [rule.bridges.1] at here
          cases here
        · exact silent _ member
      · have kept := rule.task_kept (run_unborn before) (fun e same => own ⟨e, same⟩)
          (by simp [here])
        have later := ih (exec_snoc before taken) last (by rw [kept, here])
        rintro (_ | ⟨_, member⟩)
        · exact own ⟨_, rfl⟩
        · exact later member

/-- What a controller is bridged to was handed to it. -/
theorem bridge_handed (run : Run cfg auth acts s) {agent : ConnId}
    (bridged : Act.task k (.bridge agent) ∈ acts) : HandedTo cfg auth acts agent k := by
  obtain ⟨pre, post, rfl⟩ := List.append_of_mem bridged
  obtain ⟨before, after, first, taken, -⟩ := exec_split run
  have holds := run_holds first k
  rw [(step_rule taken).bridges.1] at holds
  exact HandedTo.more holds _

/-- After a controller was bridged to a stream, neither is bridged again. -/
theorem bridge_last {pre post : List Act} {agent agent' k' : ConnId}
    (run : Run cfg auth (pre ++ .task k (.bridge agent) :: post) s)
    (again : Act.task k' (.bridge agent') ∈ post) : k ≠ k' ∧ agent ≠ agent' := by
  have member : Act.task k' (.bridge agent') ∈ pre ++ .task k (.bridge agent) :: post := by
    simp [again]
  obtain ⟨before, after, first, taken, last⟩ := exec_split run
  have apart : k ≠ k' := by
    rintro rfl
    exact bridging_last (exec_snoc first taken) last (step_rule taken).bridges.2 agent' again
  refine ⟨apart, ?_⟩
  rintro rfl
  exact apart ((bridge_handed run (by simp)).unique (bridge_handed run member))

/-- A controller that was sent `Failed` returns. -/
theorem Rule.sent_failed {sessionId : SessionId} {reason : String}
    (rule : Rule s (.task k (.send (.failed sessionId reason))) s') :
    (s'.task k).phase = .returned := by
  cases rule with
  | move moves =>
      generalize (s.task k).phase = phase at moves
      cases moves with
      | notReady _ _ _ _ incoming => cases incoming
  | finish => simp

/-- **Session matching is exact.**  A controller that is bridged asked for the target and
the session whose stream it gets; no controller and no stream is bridged twice, and a
controller that was sent `Failed` is not bridged afterwards. -/
theorem session_matching (run : Run cfg auth acts s) :
    (∀ k agent, Act.task k (.bridge agent) ∈ acts →
      ∃ target sessionId, Asked acts k target sessionId ∧
        Authenticated cfg auth acts agent .agentSession (some target) ∧
        (readySteps agent sessionId).Sublist acts) ∧
    (∀ (i j : Nat) k k' agent agent', acts[i]? = some (.task k (.bridge agent)) →
      acts[j]? = some (.task k' (.bridge agent')) → k = k' ∨ agent = agent' → i = j) ∧
    (∀ pre post k sessionId reason,
      acts = pre ++ .task k (.send (.failed sessionId reason)) :: post →
      ∀ agent, Act.task k (.bridge agent) ∉ post) := by
  refine ⟨fun k agent bridged => (bridge_handed run bridged).matched, ?_, ?_⟩
  · have later : ∀ (i j : Nat) k k' agent agent', acts[i]? = some (.task k (.bridge agent)) →
        acts[j]? = some (.task k' (.bridge agent')) → k = k' ∨ agent = agent' → ¬ i < j := by
      intro i j k k' agent agent' atI atJ same before
      obtain ⟨inside, here⟩ := List.getElem?_eq_some_iff.mp atI
      have split : acts = acts.take i ++ .task k (.bridge agent) :: acts.drop (i + 1) := by
        rw [← here, List.getElem_cons_drop, List.take_append_drop]
      have again : Act.task k' (.bridge agent') ∈ acts.drop (i + 1) := by
        refine List.mem_of_getElem? (i := j - (i + 1)) ?_
        rw [List.getElem?_drop]
        simpa [show i + 1 + (j - (i + 1)) = j by omega] using atJ
      have apart := bridge_last (split ▸ run) again
      exact same.elim apart.1 apart.2
    intro i j k k' agent agent' atI atJ same
    have notBefore := later i j k k' agent agent' atI atJ same
    have notAfter := later j i k' k agent' agent atJ atI (same.imp Eq.symm Eq.symm)
    omega
  · rintro pre post k sessionId reason rfl agent
    obtain ⟨before, after, first, taken, last⟩ := exec_split run
    exact (returned_silent (exec_snoc first taken) last (step_rule taken).sent_failed).1 _

theorem session_matching_bridged :
    ∃ target sessionId, Asked bridgedSession 1 target sessionId ∧
      Authenticated plainSettings oneDevice bridgedSession 2 .agentSession (some target) ∧
      (readySteps 2 sessionId).Sublist bridgedSession :=
  (session_matching bridgedSession_run).1 1 2 (by decide)

end Matching

end RustSsh.Server
