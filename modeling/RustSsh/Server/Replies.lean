/-
# Server.Replies -- whether a failure can be told

Every `Failed` that `handle_controller` and `handle_agent_session` build has a `Cause`: a
fixed text, and behind it a part that a peer chose (`Cause.reason`).  The cause of the reply
that stands at a connection is followed through the response channels of a run (`run_tells`,
`told_value`, `run_replies`), and `failure_replies` is when `write_frame` accepts the reply.
-/
import RustSsh.Server.Matching
import RustSsh.Protocol.Serde

namespace RustSsh.Server

open RustSsh.Theory RustSsh.Protocol

set_option autoImplicit false

/-! ## Causes -/

/-- Why a request is answered `Failed`. -/
inductive Cause where
  | offline (d : DeviceId)
  | noLongerWaiting
  | tooManyPending
  | noResponse
  /-- `open_tx.send` failed -/
  | disconnected
  /-- the response channel closed -/
  | closed
  /-- `fail_pending` -/
  | controlEnded
  /-- the agent session could not be accepted -/
  | notAccepted (error : String)
  /-- the agent's own `Failed` -/
  | refused (reason : String)
  /-- a frame that does not belong there -/
  | unexpected (m : Message)
  /-- the agent session ended before it was ready -/
  | lost (error : String)
  | notReady

namespace Cause

/-- The text a cause is reported with. -/
def reason (cfg : Settings) : Cause → String
  | .offline d => s!"device is offline: {d}"
  | .noLongerWaiting => "SSH session is no longer waiting"
  | .tooManyPending =>
      s!"device has too many pending SSH sessions (limit: {maxPendingSessionsPerDevice})"
  | .noResponse => s!"agent did not respond within {cfg.openTimeoutSecs} seconds"
  | .disconnected => "device agent disconnected before session started"
  | .closed => "agent closed before accepting session"
  | .controlEnded => "device control connection ended"
  | .notAccepted error => s!"could not accept agent session: {error}"
  | .refused reason => reason
  | .unexpected m => s!"unexpected agent session response: {m.debug cfg.printable}"
  | .lost error => s!"agent session ended before ready: {error}"
  | .notReady => "agent session did not become ready in time"

/-- The bytes of that text in a frame. -/
def size (cfg : Settings) : Cause → Nat
  | .offline d => jsonSize d + 19
  | .noLongerWaiting => 32
  | .tooManyPending => 52
  | .noResponse => jsonSize (toString cfg.openTimeoutSecs) + 37
  | .disconnected => 48
  | .closed => 37
  | .controlEnded => 31
  | .notAccepted error => jsonSize error + 32
  | .refused reason => jsonSize reason
  | .unexpected m => jsonSize (m.debug cfg.printable) + 35
  | .lost error => jsonSize error + 34
  | .notReady => 42

theorem jsonSize_append (s t : String) : jsonSize (s ++ t) = jsonSize s + jsonSize t := by
  rw [jsonSize, String.toList_append, Json.size_append]
  rfl

/-- A part behind a fixed text. -/
theorem jsonSize_behind {text : String} {n : Nat} (fixed : jsonSize text = n) (part : String) :
    jsonSize (text ++ part) = jsonSize part + n := by
  rw [jsonSize_append, fixed, Nat.add_comm]

theorem jsonSize_reason (cfg : Settings) (cause : Cause) :
    jsonSize (cause.reason cfg) = cause.size cfg := by
  cases cause with
  | offline d => exact jsonSize_behind (by decide +kernel) d
  | noLongerWaiting =>
      exact (by decide +kernel : jsonSize "SSH session is no longer waiting" = 32)
  | tooManyPending =>
      exact (by decide +kernel :
        jsonSize "device has too many pending SSH sessions (limit: 32)" = 52)
  | noResponse =>
      have front : jsonSize "agent did not respond within " = 29 := by decide +kernel
      have back : jsonSize " seconds" = 8 := by decide +kernel
      show jsonSize ("agent did not respond within " ++ toString cfg.openTimeoutSecs ++ " seconds") = _
      rw [jsonSize_append, jsonSize_append, front, back, size]
      omega
  | disconnected =>
      exact (by decide +kernel : jsonSize "device agent disconnected before session started" = 48)
  | closed => exact (by decide +kernel : jsonSize "agent closed before accepting session" = 37)
  | controlEnded => exact (by decide +kernel : jsonSize "device control connection ended" = 31)
  | notAccepted error => exact jsonSize_behind (by decide +kernel) error
  | refused reason => rfl
  | unexpected m => exact jsonSize_behind (by decide +kernel) (m.debug cfg.printable)
  | lost error => exact jsonSize_behind (by decide +kernel) error
  | notReady => exact (by decide +kernel : jsonSize "agent session did not become ready in time" = 42)

end Cause

/-! ## Refusals -/

/-- Where the text of a refusal comes from. -/
def Told (acts : List Act) : Cause → Prop
  | .disconnected | .closed | .controlEnded | .notReady => True
  | .notAccepted error => ∃ agent, Act.task agent (.sendError error) ∈ acts
  | .refused reason => ∃ agent sessionId, Act.task agent (.recv (.failed sessionId reason)) ∈ acts
  | .unexpected m => ∃ agent, Act.task agent (.recv m) ∈ acts
  | .lost error => ∃ agent, Act.task agent (.recvError error) ∈ acts
  | _ => False

/-- A reason with a cause that the run shows. -/
def Refusal (cfg : Settings) (acts : List Act) (reason : String) : Prop :=
  ∃ cause, Told acts cause ∧ reason = cause.reason cfg

/-- The reasons a handler is about to pass on. -/
def Tells (cfg : Settings) (acts : List Act) : Phase → Prop
  | .session _ (.respond _ (some reason)) => Refusal cfg acts reason
  | .controller (.cancel _ _ reason) => Refusal cfg acts reason
  | .controller (.refuse _ _ reason) => Refusal cfg acts reason
  | _ => True

section Replies

variable {cfg : Settings} {auth : AuthSnapshot} {acts : List Act} {s s' : Relay} {a : Act}
  {c k : ConnId}

theorem Told.more {cause : Cause} (told : Told acts cause) (more : List Act) :
    Told (acts ++ more) cause := by
  cases cause with
  | notAccepted | unexpected | lost => exact told.imp fun _ => List.mem_append_left more
  | refused => exact told.imp fun _ => Exists.imp fun _ => List.mem_append_left more
  | _ => exact told

theorem Refusal.more {reason : String} (refusal : Refusal cfg acts reason) (more : List Act) :
    Refusal cfg (acts ++ more) reason := by
  obtain ⟨cause, told, rfl⟩ := refusal
  exact ⟨cause, told.more more, rfl⟩

theorem Tells.more {phase : Phase} (tells : Tells cfg acts phase) (more : List Act) :
    Tells cfg (acts ++ more) phase := by
  unfold Tells at tells ⊢
  split <;> first
    | exact Refusal.more tells more
    | trivial

theorem goto_phase {phase next : Phase} (same : some (s.goto c phase) = some (s.goto c next)) :
    phase = next := by
  have phases := congrArg (fun s => (s.task c).phase) (Option.some.inj same)
  simpa using phases

/-- What an agent session answers a frame, an error or the deadline with. -/
theorem ready_refusal {d : DeviceId} {sessionId : SessionId} {k : ConnId} {e : Event}
    {reason : String} (here : (s.task c).phase = .session d (.ready sessionId k))
    (taken : step cfg s (.task c e) = some (s.goto c (.session d (.respond k (some reason))))) :
    Refusal cfg (acts ++ [.task c e]) reason := by
  have last : Act.task c e ∈ acts ++ [.task c e] := by simp
  simp only [step, here] at taken
  cases e with
  | recv m =>
      have unexpected : Refusal cfg (acts ++ [.task c (.recv m)])
          s!"unexpected agent session response: {m.debug cfg.printable}" :=
        ⟨.unexpected m, ⟨c, last⟩, rfl⟩
      cases m with
      | ready id =>
          have next := goto_phase taken
          split at next
          · cases next
          · cases next
            exact unexpected
      | failed id given =>
          have next := goto_phase taken
          split at next
          · cases next
            exact ⟨.refused reason, ⟨c, id, last⟩, rfl⟩
          · cases next
            exact unexpected
      | _ =>
          cases goto_phase taken
          exact unexpected
  | recvError error =>
      cases goto_phase taken
      exact ⟨.lost error, ⟨c, last⟩, rfl⟩
  | timeout =>
      cases goto_phase taken
      exact ⟨.notReady, trivial, rfl⟩
  | _ => cases taken

theorem run_tells (run : Run cfg auth acts s) (c : ConnId) : Tells cfg acts (s.task c).phase := by
  refine run_each_step (P := fun acts _ => Tells cfg acts) (fun _ => trivial)
    (fun _ _ a _ _ tells => tells.more [a]) (fun _ _ _ => trivial) ?_ run c
  intro acts s c e s' before taken tells
  have kept := tells.more [.task c e]
  generalize here : (s.task c).phase = phase at kept
  cases step_rule taken with
  | move moves =>
      rw [here] at moves
      simp only [Relay.goto_task, Function.update_self]
      cases moves with
      | notAccepted d sessionId k error reason =>
          simp only [step, here] at taken
          cases goto_phase taken
          exact ⟨.notAccepted error, ⟨c, by simp⟩, rfl⟩
      | notReady d sessionId k reason incoming => exact ready_refusal here taken
      | _ => trivial
  | enqueueClosed at_ gone =>
      simp only [step, at_, controllerStep, gone, if_true] at taken
      cases goto_phase taken
      simpa [Tells] using ⟨.disconnected, trivial, rfl⟩
  | receiveClosed at_ value gone =>
      simp only [step, at_, controllerStep, Oneshot.poll, value, gone] at taken
      cases goto_phase taken
      simpa [Tells] using ⟨.closed, trivial, rfl⟩
  | cancel at_ found =>
      cases here.symm.trans at_
      simpa [Tells] using kept
  | control =>
      simp only [Relay.goto_task, Function.update_self]
      split <;> trivial
  | register at_ ok =>
      obtain ⟨rfl, -, -⟩ := Relay.registerPending_eq ok
      simp [Tells]
  | _ => simp [Tells]

/-- A refusal in a response channel has a cause. -/
theorem told_value (run : Run cfg auth acts s) {reason : String}
    (value : (s.response k).value = some (.error reason)) : Refusal cfg acts reason := by
  refine exec_induction (P := fun acts s => ∀ k reason,
    (s.response k).value = some (.error reason) → Refusal cfg acts reason) ?_ ?_ acts s run k reason
    value
  · intro k reason value
    simp [Relay.start] at value
  · intro acts s a s' before holds taken k reason value
    cases (step_rule taken).sends value with
    | inl old => exact (holds k reason old).more [a]
    | inr sends =>
        cases sends with
        | @refuse c d _ here | @refuseCancelled c _ _ here =>
            have tells := run_tells before c
            rw [here] at tells
            exact Refusal.more tells _
        | failRequest => exact ⟨.controlEnded, trivial, rfl⟩

/-! ## Replies -/

/-- Session `c` attached to the id. -/
def Attached (acts : List Act) (c : ConnId) (sessionId : SessionId) : Prop :=
  Act.task c (.recv (.sessionAttach sessionId)) ∈ acts

variable (cfg auth) in
/-- The request of `c`, and where the text of its failure comes from. -/
def Shown (acts : List Act) (c : ConnId) (sessionId : SessionId) : Cause → Prop
  | .offline d => Asked acts c d sessionId ∨
      (Attached acts c sessionId ∧ Authenticated cfg auth acts c .agentSession (some d))
  | .noLongerWaiting => Attached acts c sessionId
  | .tooManyPending | .noResponse => ∃ target, Asked acts c target sessionId
  | cause => (∃ target, Asked acts c target sessionId) ∧ Told acts cause

/-- The message a handler is about to answer with. -/
def Phase.reply : Phase → Option Message
  | .session _ (.reply m) => some m
  | .controller (.reply m) => some m
  | _ => none

/-- What a handler that fails a request knows. -/
structure Replies (cfg : Settings) (auth : AuthSnapshot) (acts : List Act) (c : ConnId)
    (phase : Phase) : Prop where
  refuse : ∀ {k sessionId reason}, phase = .controller (.refuse k sessionId reason) →
    ∃ target, Asked acts c target sessionId
  reply : ∀ {sessionId reason}, phase.reply = some (.failed sessionId reason) →
    ∃ cause, Shown cfg auth acts c sessionId cause ∧ reason = cause.reason cfg

theorem Shown.more {sessionId : SessionId} {cause : Cause}
    (shown : Shown cfg auth acts c sessionId cause) (more : List Act) :
    Shown cfg auth (acts ++ more) c sessionId cause := by
  have asked {target : DeviceId} (known : Asked acts c target sessionId) :
      Asked (acts ++ more) c target sessionId := Asked.more known more
  cases cause with
  | offline d =>
      rcases shown with known | ⟨attached, identity⟩
      · exact .inl (asked known)
      · exact .inr ⟨List.mem_append_left more attached,
          authenticated_stable c .agentSession (some d) acts more identity⟩
  | noLongerWaiting => exact List.mem_append_left more shown
  | tooManyPending | noResponse => exact shown.imp fun _ => asked
  | _ => exact ⟨shown.1.imp fun _ => asked, Told.more shown.2 more⟩

/-- A refusal of the request is a cause of its failure. -/
theorem Refusal.shown (auth : AuthSnapshot) {sessionId : SessionId} {reason : String}
    (refusal : Refusal cfg acts reason) {target : DeviceId} (asked : Asked acts c target sessionId) :
    ∃ cause, Shown cfg auth acts c sessionId cause ∧ reason = cause.reason cfg := by
  obtain ⟨cause, told, rfl⟩ := refusal
  refine ⟨cause, ?_, rfl⟩
  cases cause with
  | offline | noLongerWaiting | tooManyPending | noResponse => exact told.elim
  | _ => exact ⟨⟨target, asked⟩, told⟩

theorem Replies.more {phase : Phase} (replies : Replies cfg auth acts c phase) (more : List Act) :
    Replies cfg auth (acts ++ more) c phase where
  refuse here := (replies.refuse here).imp fun _ asked => Asked.more asked more
  reply here := by
    obtain ⟨cause, shown, why⟩ := replies.reply here
    exact ⟨cause, shown.more more, why⟩

/-- A place where no request is being failed. -/
theorem replies_none {phase : Phase}
    (refuse : ∀ k sessionId reason, phase ≠ .controller (.refuse k sessionId reason))
    (reply : ∀ sessionId reason, phase.reply ≠ some (.failed sessionId reason)) :
    Replies cfg auth acts c phase where
  refuse here := absurd here (refuse _ _ _)
  reply here := absurd here (reply _ _)

/-- A handler that starts to reply. -/
theorem replies_with (cause : Cause) {phase : Phase} {sessionId : SessionId}
    (here : phase.reply = some (.failed sessionId (cause.reason cfg)))
    (shown : Shown cfg auth acts c sessionId cause) : Replies cfg auth acts c phase where
  refuse at_ := by
    rw [at_] at here
    cases here
  reply at_ := by
    rw [here] at at_
    cases at_
    exact ⟨cause, shown, rfl⟩

theorem attached_of_steps {sessionId : SessionId}
    (steps : (attachSteps c sessionId).Sublist acts) : Attached acts c sessionId :=
  steps.subset (List.mem_singleton.mpr rfl)

theorem replies_step {e : Event} (run : Run cfg auth acts s)
    (taken : step cfg s (.task c e) = some s')
    (replies : Replies cfg auth acts c (s.task c).phase) :
    Replies cfg auth (acts ++ [.task c e]) c (s'.task c).phase := by
  have sought := run_sought run c
  have serves := run_serves run c
  have standing := run_standing run c
  have tells := run_tells run c
  cases step_rule taken with
  | move moves =>
      simp only [Relay.goto_task, Function.update_self]
      generalize here : (s.task c).phase = phase at moves sought serves standing tells
      cases moves with
      | @sessionOffline d sessionId absent =>
          refine (replies_with (.offline d) rfl ?_).more _
          exact .inr ⟨attached_of_steps serves, standing⟩
      | notWaiting absent =>
          exact (replies_with .noLongerWaiting rfl (attached_of_steps serves)).more _
      | @targetOffline target sessionId absent =>
          exact (replies_with (.offline target) rfl (.inl (sought.asked rfl))).more _
      | tooMany refused =>
          obtain ⟨target, asked, -⟩ := sought.request rfl
          exact (replies_with .tooManyPending rfl ⟨target, asked⟩).more _
      | cancelled absent =>
          obtain ⟨target, asked, -⟩ := sought.request rfl
          obtain ⟨cause, shown, rfl⟩ := Refusal.shown auth tells asked
          exact (replies_with cause rfl shown).more _
      | expired absent =>
          simp only [step, here, controllerStep, absent] at taken
          obtain ⟨target, asked, -⟩ := sought.request rfl
          rw [← goto_phase taken]
          exact (replies_with .noResponse rfl ⟨target, asked⟩).more _
      | list => exact replies_none (by simp) (by simp [Phase.reply, deviceListOf])
      | _ => exact replies_none (by simp) (by simp [Phase.reply])
  | receiveRefusal here value =>
      rw [here] at sought
      obtain ⟨target, asked, -⟩ := sought.request rfl
      obtain ⟨cause, shown, rfl⟩ := (told_value run value).shown auth asked
      simpa using (replies_with cause rfl shown).more _
  | cancel here found =>
      rw [here] at sought
      obtain ⟨target, asked, -⟩ := sought.request rfl
      simp only [Relay.goto_task, Function.update_self]
      refine { refuse := ?_, reply := by simp [Phase.reply] }
      rintro k sessionId reason ⟨⟩
      exact ⟨target, Asked.more asked _⟩
  | refuseCancelled here =>
      rw [here] at tells
      obtain ⟨target, asked⟩ := replies.refuse here
      obtain ⟨cause, shown, rfl⟩ := Refusal.shown auth tells asked
      simpa using (replies_with cause rfl shown).more _
  | cancelExpired here found =>
      rw [here] at sought
      simp only [step, here, controllerStep, found] at taken
      obtain ⟨target, asked, -⟩ := sought.request rfl
      simp only [Relay.goto_task, Function.update_self]
      rw [← goto_phase taken]
      exact (replies_with .noResponse rfl ⟨target, asked⟩).more _
  | control =>
      simp only [Relay.goto_task, Function.update_self]
      split <;> exact replies_none (by simp) (by simp [Phase.reply])
  | register at_ ok =>
      obtain ⟨rfl, -, -⟩ := Relay.registerPending_eq ok
      simp only [Relay.goto_task, Function.update_self]
      exact replies_none (by simp) (by simp [Phase.reply])
  | _ =>
      simp only [Relay.goto_task, Relay.finish_task, Relay.spawnControl_task, Relay.handOver_task,
        Relay.takeHandoff_task, Function.update_self]
      exact replies_none (by simp) (by simp [Phase.reply])

theorem run_replies (run : Run cfg auth acts s) (c : ConnId) :
    Replies cfg auth acts c (s.task c).phase := by
  refine run_each_step (P := Replies cfg auth) ?_ (fun _ _ a _ _ replies => replies.more [a]) ?_ ?_
    run c
  · exact fun _ => replies_none (by simp) (by simp [Phase.reply])
  · exact fun _ _ _ => replies_none (by simp) (by simp [Phase.reply])
  · intro acts s c e s' before taken replies
    exact replies_step before taken replies

/-- **A failure can be told exactly if its texts fit in a frame.**  The reply carries the id of
the connection's own request, and a cause that the run shows. -/
theorem failure_replies {codec : Codec} (prints : codec.Prints) (run : Run cfg auth acts s)
    {c : ConnId} {sessionId : SessionId} {reason : String}
    (replying : (s.task c).phase.reply = some (.failed sessionId reason)) :
    (Attached acts c sessionId ∨ ∃ target, Asked acts c target sessionId) ∧
    ∃ cause, Shown cfg auth acts c sessionId cause ∧ reason = cause.reason cfg ∧
      ((writeFrame codec (.failed sessionId reason)).isSome = true ↔
        jsonSize sessionId + cause.size cfg + 45 ≤ maxFrameSize) := by
  obtain ⟨cause, shown, rfl⟩ := (run_replies run c).reply replying
  refine ⟨?_, cause, shown, rfl, ?_⟩
  · cases cause with
    | offline d => exact shown.elim (fun asked => .inr ⟨d, asked⟩) (fun known => .inl known.1)
    | noLongerWaiting => exact .inl shown
    | tooManyPending | noResponse => exact .inr shown
    | _ => exact .inr shown.1
  · rw [writeFrame_isSome prints, failed_size, Cause.jsonSize_reason]

end Replies

/-! ## A long session id -/

/-- A controller has connected; no device has. -/
def connected : Relay :=
  (exec (step plainSettings) (Relay.start oneDevice) (joins 0 .controller none controllerToken)).get
    (by decide)

theorem connected_run :
    Run plainSettings oneDevice (joins 0 .controller none controllerToken) connected :=
  (Option.some_get _).symm

/-- It asks for a session of `desk`. -/
def asks (sessionId : SessionId) : List Act :=
  joins 0 .controller none controllerToken ++
    [.task 0 (.recv (.openRequest "desk" sessionId)), .task 0 .lookup]

/-- And is about to be told that `desk` is offline. -/
theorem asks_run (sessionId : SessionId) :
    ∃ s, Run plainSettings oneDevice (asks sessionId) s ∧
      (s.task 0).phase.reply = some (offline sessionId "desk") := by
  have here : (connected.task 0).phase = .controller .request := by decide
  have absent : connected.devices.lookup "desk" = none := by decide
  have asking : step plainSettings connected (.task 0 (.recv (.openRequest "desk" sessionId))) =
      some (connected.goto 0 (.controller (.lookup "desk" sessionId))) := by
    simp only [step, here]
    rfl
  have looking : step plainSettings (connected.goto 0 (.controller (.lookup "desk" sessionId)))
      (.task 0 .lookup) = some ((connected.goto 0 (.controller (.lookup "desk" sessionId))).goto 0
        (.controller (.reply (offline sessionId "desk")))) := by
    simp only [step, Relay.goto_task, Function.update_self, controllerStep, Relay.goto_devices, absent]
  have run := exec_snoc (exec_snoc connected_run asking) looking
  rw [List.append_assoc] at run
  exact ⟨_, run, by simp [Phase.reply]⟩

theorem failure_replies_offline :
    ∃ s, Run plainSettings oneDevice (asks "s") s ∧
      (s.task 0).phase.reply = some (.failed "s" "device is offline: desk") ∧
      ∃ cause, Shown plainSettings oneDevice (asks "s") 0 "s" cause ∧
        ((writeFrame serdeJson (.failed "s" "device is offline: desk")).isSome = true ↔
          jsonSize "s" + cause.size plainSettings + 45 ≤ maxFrameSize) := by
  obtain ⟨s, run, replying⟩ := asks_run "s"
  obtain ⟨-, cause, shown, -, fits⟩ := failure_replies serdeJson_prints run replying
  exact ⟨s, run, replying, cause, shown, fits⟩

theorem jsonSize_replicate (n : Nat) : jsonSize (String.ofList (List.replicate n 'a')) = n := by
  have plain : Json.escape 'a' = ['a'] := by decide
  have one : (String.utf8EncodeChar 'a').length = 1 := by decide
  rw [jsonSize, String.toList_ofList, Json.size_replicate plain, one, Nat.mul_one]

/-- An id with which the request fills its frame. -/
def longId : SessionId := String.ofList (List.replicate 65481 'a')

theorem jsonSize_longId : jsonSize longId = 65481 := jsonSize_replicate 65481

/-- The relay reads the request and cannot write the answer. -/
theorem failure_unsendable :
    ∃ s, Run plainSettings oneDevice (asks longId) s ∧
      (writeFrame serdeJson (.openRequest "desk" longId)).isSome = true ∧
      serdeJson.decode (serdeJson.encode (.openRequest "desk" longId)) =
        some (.openRequest "desk" longId) ∧
      (s.task 0).phase.reply = some (offline longId "desk") ∧
      writeFrame serdeJson (offline longId "desk") = none := by
  have desk : jsonSize "desk" = 4 := by decide +kernel
  have text : jsonSize "device is offline: desk" = 23 := by decide +kernel
  obtain ⟨s, run, replying⟩ := asks_run longId
  refine ⟨s, run, ?_, serdeJson_reads _, replying, ?_⟩
  · rw [writeFrame_isSome serdeJson_prints, openRequest_size, desk, jsonSize_longId]
    decide
  · have refused : ¬ (writeFrame serdeJson (.failed longId "device is offline: desk")).isSome = true := by
      rw [writeFrame_isSome serdeJson_prints, failed_size, text, jsonSize_longId]
      decide
    exact Option.not_isSome_iff_eq_none.mp refused

end RustSsh.Server
