/-
# Server.Answers -- what a controller is told was so

Between a controller's request and the relay's answer other connections come and go.  Each answer
is true of a moment in between (`answers_true`): a device list is the registry of that moment, a
device that is called offline was not registered at it, a request that is refused because there are
too many found the map full or its id taken, and a failure that came through the response channel
was sent there by a handler of that device, or is the end of another request under the same id.
-/
import RustSsh.Server.Replies

namespace RustSsh.Server

open RustSsh.Theory RustSsh.Protocol

set_option autoImplicit false

/-! ## Moments of a request -/

/-- The controller has made its request and has no answer yet. -/
def Phase.asking : Phase → Bool
  | .controller .request => false
  | .controller (.bridge _) => false
  | .controller (.bridging _) => false
  | .controller _ => true
  | _ => false

theorem Phase.asking_of_awaits {phase : Phase} (awaits : phase.awaits = true) :
    phase.asking = true := by
  unfold Phase.awaits at awaits
  split at awaits <;> first | rfl | cases awaits

section Answers

variable (cfg : Settings) (auth : AuthSnapshot)

/-- A moment of the run at which `c` was waiting for the answer. -/
def During (acts : List Act) (c : ConnId) (P : Relay → Prop) : Prop :=
  ∃ pre t, pre <+: acts ∧ Run cfg auth pre t ∧ (t.task c).phase.asking = true ∧ P t

/-- The controller asked for the target, and found `g` registered for it. -/
def Found (acts : List Act) (c g : ConnId) (target : DeviceId) (sessionId : SessionId) : Prop :=
  Asked acts c target sessionId ∧ During cfg auth acts c fun t => t.devices.lookup target = some g

/-- Another controller that asked for the same ran out of time, with the sender of `c` under its
id. -/
def TimedOut (acts : List Act) (c : ConnId) : Prop :=
  ∃ other, other ≠ c ∧
    (∃ target sessionId, Asked acts c target sessionId ∧ Asked acts other target sessionId) ∧
    During cfg auth acts c fun t => ∃ g sessionId,
      (t.task other).phase = .controller (.timedOut g sessionId) ∧
        (t.device g).pending.lookup sessionId = some c

/-- Why the request to `g` ended before its deadline. -/
inductive GaveUp (acts : List Act) (c g : ConnId) : String → Prop
  | disconnected (moment : During cfg auth acts c fun t => (t.device g).openReceiver = false) :
      GaveUp acts c g "device agent disconnected before session started"
  | closed (dropped : TimedOut cfg auth acts c) :
      GaveUp acts c g "agent closed before accepting session"

/-- Who failed the request through its response channel. -/
inductive Failed (acts : List Act) (c : ConnId) (target : DeviceId) (sessionId : SessionId) :
    String → Prop
  /-- a control connection of the device, which had left its loop -/
  | ended {g : ConnId} (moment : During cfg auth acts c fun t => ∃ heartbeat responses,
        (t.task g).phase = .agent target heartbeat (.failing responses) ∧ c ∈ responses) :
      Failed acts c target sessionId "device control connection ended"
  /-- a session of the device -/
  | refused {agent : ConnId} {reason : String} (moment : During cfg auth acts c fun t =>
        (t.task agent).phase = .session target (.respond c (some reason))) :
      Failed acts c target sessionId reason
  /-- another controller that asked for the same and gave up -/
  | cancelled {other : ConnId} {reason : String} (apart : other ≠ c)
      (asked : Asked acts other target sessionId) (moment : During cfg auth acts c fun t =>
        (t.task other).phase = .controller (.refuse c sessionId reason)) :
      Failed acts c target sessionId reason

/-- What a controller may be answered, and what was so for that. -/
inductive Answered (acts : List Act) (c : ConnId) : Message → Prop
  | list {devices : HashMap DeviceId ConnId} (asked : Act.task c (.recv .listRequest) ∈ acts)
      (moment : During cfg auth acts c fun t => t.devices = devices) :
      Answered acts c (deviceListOf devices)
  | offline {target : DeviceId} {sessionId : SessionId} (asked : Asked acts c target sessionId)
      (moment : During cfg auth acts c fun t => t.devices.lookup target = none) :
      Answered acts c (offline sessionId target)
  | tooMany {g : ConnId} {target : DeviceId} {sessionId : SessionId}
      (found : Found cfg auth acts c g target sessionId)
      (moment : During cfg auth acts c fun t =>
        maxPendingSessionsPerDevice ≤ (t.device g).pending.entries.length ∨
          sessionId ∈ (t.device g).pending) :
      Answered acts c (tooManyPending sessionId)
  | gaveUp {g : ConnId} {target : DeviceId} {sessionId : SessionId} {reason : String}
      (found : Found cfg auth acts c g target sessionId) (why : GaveUp cfg auth acts c g reason) :
      Answered acts c (.failed sessionId reason)
  | failed {g : ConnId} {target : DeviceId} {sessionId : SessionId} {reason : String}
      (found : Found cfg auth acts c g target sessionId)
      (why : Failed cfg auth acts c target sessionId reason) :
      Answered acts c (.failed sessionId reason)
  | expired {g : ConnId} {target : DeviceId} {sessionId : SessionId}
      (found : Found cfg auth acts c g target sessionId) (late : Act.task c .timeout ∈ acts) :
      Answered acts c (noResponse cfg sessionId)
  | ready {g agent : ConnId} {target : DeviceId} {sessionId : SessionId}
      (found : Found cfg auth acts c g target sessionId)
      (handed : HandedTo cfg auth acts agent c) : Answered acts c (.ready sessionId)

end Answers

section

variable {cfg : Settings} {auth : AuthSnapshot} {acts : List Act} {s s' : Relay} {a : Act}
  {c k : ConnId}

theorem During.now {P : Relay → Prop} (run : Run cfg auth acts s)
    (asking : (s.task c).phase.asking = true) (holds : P s) : During cfg auth acts c P :=
  ⟨acts, s, List.prefix_rfl, run, asking, holds⟩

theorem During.more {P : Relay → Prop} (during : During cfg auth acts c P) (more : List Act) :
    During cfg auth (acts ++ more) c P := by
  obtain ⟨pre, t, inside, run, asking, holds⟩ := during
  exact ⟨pre, t, inside.trans (List.prefix_append acts more), run, asking, holds⟩

theorem Found.more {g : ConnId} {target : DeviceId} {sessionId : SessionId}
    (found : Found cfg auth acts c g target sessionId) (more : List Act) :
    Found cfg auth (acts ++ more) c g target sessionId :=
  ⟨found.1.more more, found.2.more more⟩

theorem TimedOut.more (dropped : TimedOut cfg auth acts c) (more : List Act) :
    TimedOut cfg auth (acts ++ more) c := by
  obtain ⟨other, apart, ⟨target, sessionId, asked, too⟩, moment⟩ := dropped
  exact ⟨other, apart, ⟨target, sessionId, asked.more more, too.more more⟩, moment.more more⟩

theorem GaveUp.more {g : ConnId} {reason : String} (why : GaveUp cfg auth acts c g reason)
    (more : List Act) : GaveUp cfg auth (acts ++ more) c g reason := by
  cases why with
  | disconnected moment => exact .disconnected (moment.more more)
  | closed dropped => exact .closed (dropped.more more)

theorem Failed.more {target : DeviceId} {sessionId : SessionId} {reason : String}
    (why : Failed cfg auth acts c target sessionId reason) (more : List Act) :
    Failed cfg auth (acts ++ more) c target sessionId reason := by
  cases why with
  | ended moment => exact .ended (moment.more more)
  | refused moment => exact .refused (moment.more more)
  | cancelled apart asked moment => exact .cancelled apart (asked.more more) (moment.more more)

theorem Answered.more {m : Message} (answered : Answered cfg auth acts c m) (more : List Act) :
    Answered cfg auth (acts ++ more) c m := by
  cases answered with
  | list asked moment => exact .list (List.mem_append_left more asked) (moment.more more)
  | offline asked moment => exact .offline (asked.more more) (moment.more more)
  | tooMany found moment => exact .tooMany (found.more more) (moment.more more)
  | gaveUp found why => exact .gaveUp (found.more more) (why.more more)
  | failed found why => exact .failed (found.more more) (why.more more)
  | expired found late => exact .expired (found.more more) (List.mem_append_left more late)
  | ready found handed => exact .ready (found.more more) (handed.more more)

/-! ## A controller asks once -/

/-- What a controller has asked for so far. -/
def AskedOnce (acts : List Act) (c : ConnId) : Phase → Prop
  | .controller .request => ∀ target sessionId, ¬ Asked acts c target sessionId
  | .controller _ => ∀ target sessionId target' sessionId', Asked acts c target sessionId →
      Asked acts c target' sessionId' → target = target' ∧ sessionId = sessionId'
  | .agent _ _ _ => True
  | .session _ _ => True
  | .returned => True
  | _ => ∀ target sessionId, ¬ Asked acts c target sessionId

theorem asked_snoc {target : DeviceId} {sessionId : SessionId} :
    Asked (acts ++ [a]) c target sessionId ↔
      Asked acts c target sessionId ∨ a = .task c (.recv (.openRequest target sessionId)) := by
  rw [Asked, List.mem_append, List.mem_singleton, eq_comm (b := a)]
  rfl

theorem AskedOnce.quiet {phase : Phase} (once : AskedOnce acts c phase)
    (other : ∀ m, a ≠ .task c (.recv m)) : AskedOnce (acts ++ [a]) c phase := by
  have same (target : DeviceId) (sessionId : SessionId) :
      Asked (acts ++ [a]) c target sessionId ↔ Asked acts c target sessionId := by
    rw [asked_snoc, or_iff_left (other _)]
  unfold AskedOnce at once ⊢
  simp only [same]
  exact once

theorem askedOnce_move {e : Event} {phase next : Phase} (moves : Moves s c phase e next)
    (once : AskedOnce acts c phase) : AskedOnce (acts ++ [.task c e]) c next := by
  cases moves with
  | openRequest target sessionId =>
      have only (target' : DeviceId) (sessionId' : SessionId)
          (asked : Asked (acts ++ [.task c (.recv (.openRequest target sessionId))]) c target'
            sessionId') : target = target' ∧ sessionId = sessionId' := by
        rcases asked_snoc.mp asked with before | same
        · exact absurd before (once target' sessionId')
        · cases same
          exact ⟨rfl, rfl⟩
      intro target₁ sessionId₁ target₂ sessionId₂ first second
      obtain ⟨rfl, rfl⟩ := only target₁ sessionId₁ first
      exact only target₂ sessionId₂ second
  | hello =>
      intro target sessionId asked
      rcases asked_snoc.mp asked with before | same
      · exact once target sessionId before
      · cases same
  | listRequest =>
      intro target _ _ _ asked
      rcases asked_snoc.mp asked with before | same
      · exact absurd before (once _ _)
      · cases same
  | agent | session | attach | sessionOffline | sessionDevice | notWaiting | accepted
  | notAccepted | ready | notReady => trivial
  | _ => exact AskedOnce.quiet (by exact once) (by simp)

theorem run_askedOnce (run : Run cfg auth acts s) (c : ConnId) :
    AskedOnce acts c (s.task c).phase := by
  refine run_each (P := AskedOnce) (by simp [AskedOnce, Asked]) ?_ (fun _ _ once => once) ?_ run c
  · intro acts c a phase other once
    exact once.quiet fun m => other (.recv m)
  · intro acts s c e s' _ rule once
    cases rule with
    | move moves => simpa using askedOnce_move moves once
    | finish | agentReturn | handOver => simp [AskedOnce]
    | control =>
        simp only [Relay.goto_task, Function.update_self]
        split <;> trivial
    | register here ok =>
        obtain ⟨rfl, -, -⟩ := Relay.registerPending_eq ok
        rw [here] at once
        simp only [Relay.goto_task, Function.update_self]
        exact AskedOnce.quiet (by exact once) (by simp)
    | enqueue here | enqueueClosed here | receive here | receiveRefusal here | receiveClosed here
    | expireEnqueue here | expireAwait here | cancel here | refuseCancelled here
    | cancelExpired here =>
        rw [here] at once
        simp only [Relay.goto_task, Relay.takeHandoff_task, Function.update_self]
        exact AskedOnce.quiet (by exact once) (by simp)
    | _ => simp [AskedOnce]

/-! ## Whose senders a handler holds -/

/-- The requests that a handler is about to answer are for its device, and a controller that gives
up answers one for the same device and id. -/
def Owes (acts : List Act) (c : ConnId) : Phase → Prop
  | .agent d _ (.failing responses) => ∀ k ∈ responses, ∃ sessionId, Asked acts k d sessionId
  | .session d (.respond k _) => ∃ sessionId, Asked acts k d sessionId
  | .controller (.refuse k sessionId _) =>
      ∃ target, Asked acts k target sessionId ∧ Asked acts c target sessionId
  | _ => True

theorem Owes.more {phase : Phase} (owes : Owes acts c phase) (more : List Act) :
    Owes (acts ++ more) c phase := by
  unfold Owes at owes ⊢
  split
  · exact fun k member => (owes k member).imp fun _ asked => asked.more more
  · exact owes.imp fun _ asked => asked.more more
  · exact owes.imp fun _ both => ⟨both.1.more more, both.2.more more⟩
  · trivial

theorem owes_step {e : Event} (run : Run cfg auth acts s) (rule : Rule s (.task c e) s')
    (owes : Owes acts c (s.task c).phase) :
    Owes (acts ++ [.task c e]) c (s'.task c).phase := by
  cases rule with
  | move moves =>
      have serves := run_serves run c
      simp only [Relay.goto_task, Function.update_self]
      apply Owes.more
      generalize (s.task c).phase = phase at moves serves
      cases moves with
      | notAccepted d sessionId k => exact ⟨sessionId, serves.2⟩
      | ready d sessionId k => exact ⟨sessionId, serves.2⟩
      | notReady d sessionId k => exact ⟨sessionId, serves.2⟩
      | _ => trivial
  | @failPending c d heartbeat here =>
      simp only [Relay.goto_task, Function.update_self]
      apply Owes.more
      intro k member
      obtain ⟨sessionId, found⟩ := HashMap.mem_values.mp member
      obtain ⟨target, asked, generation⟩ := entry_asked run found
      have standing := run_standing run c
      rw [here] at standing
      have same := ((generation_authenticated run generation).unique standing).2
      cases same
      exact ⟨sessionId, asked⟩
  | failRequest here member =>
      rw [here] at owes
      simp only [Relay.goto_task, Function.update_self]
      apply Owes.more
      exact fun k inside => owes k (List.mem_of_mem_erase inside)
  | @cancel c g sessionId reason k here found =>
      simp only [Relay.goto_task, Function.update_self]
      apply Owes.more
      obtain ⟨target, asked, generation⟩ := entry_asked run found
      have sought := run_sought run c
      rw [here] at sought
      obtain ⟨target', too, generation'⟩ := sought.request rfl
      cases generation_unique run generation generation'
      exact ⟨target, asked, too⟩
  | control =>
      simp only [Relay.goto_task, Function.update_self]
      split <;> trivial
  | register here ok =>
      obtain ⟨rfl, -, -⟩ := Relay.registerPending_eq ok
      simp [Owes]
  | _ => simp [Owes]

theorem run_owes (run : Run cfg auth acts s) (c : ConnId) : Owes acts c (s.task c).phase := by
  refine run_each (P := Owes) (fun _ => trivial) (fun _ _ a _ _ owes => owes.more [a])
    (fun _ _ _ => trivial) ?_ run c
  intro acts s c e s' before rule owes
  exact owes_step before rule owes

/-! ## The response channel -/

/-- A step that uses the sender of `k` up, and what it leaves. -/
inductive Settles (s : Relay) (k : ConnId) (o : Oneshot SessionHandoff) : Prop
  | ended {g : ConnId} {d : DeviceId} {heartbeat : Bool} {responses : List ConnId}
      (here : (s.task g).phase = .agent d heartbeat (.failing responses)) (member : k ∈ responses)
      (left : o = ((s.response k).send (.error "device control connection ended")).1)
  | refused {c : ConnId} {d : DeviceId} {reason : String}
      (here : (s.task c).phase = .session d (.respond k (some reason)))
      (left : o = ((s.response k).send (.error reason)).1)
  | handed {c : ConnId} (left : o = ((s.response k).send (.ok (c, c))).1)
  | cancelled {c : ConnId} {sessionId : SessionId} {reason : String}
      (here : (s.task c).phase = .controller (.refuse k sessionId reason))
      (left : o = ((s.response k).send (.error reason)).1)
  | dropped {c g : ConnId} {sessionId : SessionId}
      (here : (s.task c).phase = .controller (.timedOut g sessionId))
      (found : (s.device g).pending.lookup sessionId = some k)
      (left : o = (s.response k).dropSender)

theorem Rule.settles (rule : Rule s a s') (unused : (s.response k).sender = true)
    (used : (s'.response k).sender = false) : Settles s k (s'.response k) := by
  have unchanged (same : (s'.response k).sender = (s.response k).sender) :
      Settles s k (s'.response k) := by
    rw [same, unused] at used
    cases used
  cases rule with
  | @failRequest _ _ _ _ k₁ here member =>
      rcases eq_or_ne k k₁ with rfl | other
      · exact .ended here member (by simp)
      · exact unchanged (by simp [other])
  | @refuse _ _ k₁ _ here =>
      rcases eq_or_ne k k₁ with rfl | other
      · exact .refused here (by simp)
      · exact unchanged (by simp [other])
  | @handOver c _ k₁ here =>
      rcases eq_or_ne k k₁ with rfl | other
      · exact .handed (c := c) (by simp)
      · exact unchanged (by simp [other])
  | @refuseCancelled _ k₁ _ _ here =>
      rcases eq_or_ne k k₁ with rfl | other
      · exact .cancelled here (by simp)
      · exact unchanged (by simp [other])
  | @cancelExpired _ _ _ _ k₁ here found =>
      rcases eq_or_ne k k₁ with rfl | other
      · exact .dropped here found (by simp)
      · exact unchanged (by simp [other])
  | @register c _ _ _ here ok =>
      obtain ⟨rfl, -, -⟩ := Relay.registerPending_eq ok
      rcases eq_or_ne k c with rfl | other
      · simp at used
      · exact unchanged (by simp [other])
  | @enqueueClosed c | @receive c | @receiveRefusal c | @receiveClosed c | @expireEnqueue c
  | @expireAwait c =>
      rcases eq_or_ne k c with rfl | other
      · exact unchanged (by simp)
      · exact unchanged (by simp [other])
  | _ => exact unchanged rfl

variable (cfg auth) in
/-- What a controller that waits finds in its channel, and why. -/
inductive Heard (acts : List Act) (k : ConnId) (o : Oneshot SessionHandoff) : Prop
  | waiting (value : o.value = none) (sender : o.sender = true)
  | handed {agent permit : ConnId} (value : o.value = some (.ok (agent, permit)))
  | failed {target : DeviceId} {sessionId : SessionId} {reason : String}
      (value : o.value = some (.error reason)) (asked : Asked acts k target sessionId)
      (why : Failed cfg auth acts k target sessionId reason)
  | dropped (value : o.value = none) (why : TimedOut cfg auth acts k)

theorem Heard.more {o : Oneshot SessionHandoff} (heard : Heard cfg auth acts k o)
    (more : List Act) : Heard cfg auth (acts ++ more) k o := by
  cases heard with
  | waiting value sender => exact .waiting value sender
  | handed value => exact .handed value
  | failed value asked why => exact .failed value (asked.more more) (why.more more)
  | dropped value why => exact .dropped value (why.more more)

/-- Whoever settles a request that is waited for tells the truth. -/
theorem settles_heard (run : Run cfg auth acts s) (awaits : (s.task k).phase.awaits = true)
    (live : (s.response k).value = none) {o : Oneshot SessionHandoff} (settles : Settles s k o) :
    Heard cfg auth acts k o := by
  have receiver : (s.response k).receiver = true := ((run_senders run).2.receiver k).trans awaits
  have asking := Phase.asking_of_awaits awaits
  have now {P : Relay → Prop} (holds : P s) : During cfg auth acts k P := .now run asking holds
  have apart {c : ConnId} (idle : (s.task c).phase.awaits = false) : c ≠ k := by
    rintro rfl
    rw [awaits] at idle
    cases idle
  cases settles with
  | @ended g _ _ _ here member left =>
      have owes := run_owes run g
      rw [here] at owes
      obtain ⟨sessionId, asked⟩ := owes k member
      refine .failed (by rw [left, Oneshot.send_value, if_pos receiver]) asked (.ended (g := g) ?_)
      exact now ⟨_, _, here, member⟩
  | @refused agent _ _ here left =>
      have owes := run_owes run agent
      rw [here] at owes
      obtain ⟨sessionId, asked⟩ := owes
      exact .failed (by rw [left, Oneshot.send_value, if_pos receiver]) asked (.refused (now here))
  | @handed c left => exact .handed (by rw [left, Oneshot.send_value, if_pos receiver])
  | @cancelled other _ _ here left =>
      have owes := run_owes run other
      rw [here] at owes
      obtain ⟨target, asked, too⟩ := owes
      exact .failed (by rw [left, Oneshot.send_value, if_pos receiver]) asked
        (.cancelled (apart (by rw [here]; rfl)) too (now here))
  | @dropped other g sessionId here found left =>
      obtain ⟨target, asked, generation⟩ := entry_asked run found
      have sought := run_sought run other
      rw [here] at sought
      obtain ⟨target', too, generation'⟩ := sought.request rfl
      cases generation_unique run generation generation'
      refine .dropped (by rw [left, Oneshot.dropSender_value, live]) ?_
      exact ⟨other, apart (by rw [here]; rfl), ⟨target, sessionId, asked, too⟩,
        now ⟨g, sessionId, here, found⟩⟩

theorem run_heard (run : Run cfg auth acts s) (awaits : (s.task k).phase.awaits = true) :
    Heard cfg auth acts k (s.response k) := by
  refine exec_induction (P := fun acts s => ∀ k, (s.task k).phase.awaits = true →
    Heard cfg auth acts k (s.response k)) ?_ ?_ acts s run k awaits
  · intro k awaits
    cases awaits
  · intro acts s a s' before holds taken k awaits
    have rule := step_rule taken
    obtain ⟨unborn, senders⟩ := run_senders before
    cases senders.rule_response unborn rule with
    | same responses kept =>
        rw [responses]
        exact (holds k ((kept k).symm.trans awaits)).more [a]
    | answered k₀ held after o used responses kept =>
        have waited : (s.task k).phase.awaits = true := (kept k).symm.trans awaits
        rcases eq_or_ne k k₀ with rfl | other
        · obtain ⟨p, held⟩ := held
          obtain ⟨unused, live⟩ := senders.live held
          have gone : (s'.response k).sender = false := by
            rw [responses, Function.update_self]
            rcases used with ⟨v, rfl⟩ | rfl <;> simp
          exact (settles_heard before waited live (rule.settles unused gone)).more [a]
        · rw [responses, Function.update_of_ne other]
          exact (holds k waited).more [a]
    | dropped k₀ early responses left kept =>
        have other : k ≠ k₀ := by
          rintro rfl
          rw [left] at awaits
          cases awaits
        rw [responses, Function.update_of_ne other]
        exact (holds k ((kept k other).symm.trans awaits)).more [a]
    | made k₀ held early responses entered kept =>
        rcases eq_or_ne k k₀ with rfl | other
        · rw [responses, Function.update_self]
          exact .waiting rfl rfl
        · rw [responses, Function.update_of_ne other]
          exact (holds k ((kept k other).symm.trans awaits)).more [a]

/-! ## The handler of a controller -/

variable (cfg auth) in
/-- What a controller's handler knows at each place. -/
def Busy (acts : List Act) (c : ConnId) : Phase → Prop
  | .controller .list => Act.task c (.recv .listRequest) ∈ acts
  | .controller (.register g sessionId) => ∃ target, Found cfg auth acts c g target sessionId
  | .controller (.enqueue g sessionId) => ∃ target, Found cfg auth acts c g target sessionId
  | .controller (.await g sessionId) => ∃ target, Found cfg auth acts c g target sessionId
  | .controller (.cancel g sessionId reason) =>
      (∃ target, Found cfg auth acts c g target sessionId) ∧ GaveUp cfg auth acts c g reason
  | .controller (.refuse _ sessionId reason) => ∃ g,
      (∃ target, Found cfg auth acts c g target sessionId) ∧ GaveUp cfg auth acts c g reason
  | .controller (.timedOut g sessionId) =>
      (∃ target, Found cfg auth acts c g target sessionId) ∧ Act.task c .timeout ∈ acts
  | .controller (.reply m) => Answered cfg auth acts c m
  | .controller (.ready sessionId _) => Answered cfg auth acts c (.ready sessionId)
  | _ => True

theorem Busy.more (phase : Phase) (busy : Busy cfg auth acts c phase) (more : List Act) :
    Busy cfg auth (acts ++ more) c phase := by
  have found {g : ConnId} {sessionId : SessionId}
      (known : ∃ target, Found cfg auth acts c g target sessionId) :
      ∃ target, Found cfg auth (acts ++ more) c g target sessionId :=
    known.imp fun _ => (Found.more · more)
  unfold Busy at busy ⊢
  split
  · exact List.mem_append_left more busy
  · exact found busy
  · exact found busy
  · exact found busy
  · exact ⟨found busy.1, busy.2.more more⟩
  · exact busy.imp fun _ known => ⟨found known.1, known.2.more more⟩
  · exact ⟨found busy.1, List.mem_append_left more busy.2⟩
  · exact Answered.more busy more
  · exact Answered.more busy more
  · trivial

/-- What is refused had no room, or its id was taken. -/
theorem refused_full {g : ConnId} {sessionId : SessionId}
    (refused : s.registerPending g sessionId c = none) :
    maxPendingSessionsPerDevice ≤ (s.device g).pending.entries.length ∨
      sessionId ∈ (s.device g).pending := by
  unfold Relay.registerPending at refused
  split at refused
  · assumption
  · cases refused

/-- A refusal that a waiting controller takes out of its channel is true. -/
theorem refusal_answered (run : Run cfg auth acts s) {g : ConnId} {sessionId : SessionId}
    {reason : String} (here : (s.task c).phase = .controller (.await g sessionId))
    (value : (s.response c).value = some (.error reason))
    (busy : ∃ target, Found cfg auth acts c g target sessionId) :
    Answered cfg auth acts c (.failed sessionId reason) := by
  have once := run_askedOnce run c
  rw [here] at once
  obtain ⟨target, found⟩ := busy
  cases run_heard run (k := c) (by rw [here]; rfl) with
  | waiting none | dropped none =>
      rw [value] at none
      cases none
  | handed handed =>
      rw [value] at handed
      cases handed
  | failed given asked why =>
      rw [value, Option.some.injEq, Except.error.injEq] at given
      subst given
      obtain ⟨rfl, rfl⟩ := once _ _ _ _ asked found.1
      exact .failed found why

/-- A channel that closed was dropped by another controller. -/
theorem closed_gaveUp (run : Run cfg auth acts s) {g : ConnId} {sessionId : SessionId}
    (here : (s.task c).phase = .controller (.await g sessionId))
    (value : (s.response c).value = none) (gone : (s.response c).sender = false) :
    GaveUp cfg auth acts c g "agent closed before accepting session" := by
  cases run_heard run (k := c) (by rw [here]; rfl) with
  | waiting _ sender =>
      rw [gone] at sender
      cases sender
  | handed given | failed given =>
      rw [value] at given
      cases given
  | dropped _ why => exact .closed why

theorem busy_step {e : Event} (run : Run cfg auth acts s) (taken : step cfg s (.task c e) = some s')
    (busy : Busy cfg auth acts c (s.task c).phase) :
    Busy cfg auth (acts ++ [.task c e]) c (s'.task c).phase := by
  have now {point : ControllerPoint} {P : Relay → Prop}
      (here : (s.task c).phase = .controller point)
      (asking : (Phase.controller point).asking = true) (holds : P s) :
      During cfg auth acts c P :=
    .now run (by rw [here]; exact asking) holds
  cases step_rule taken with
  | move moves =>
      have sought := run_sought run c
      simp only [Relay.goto_task, Function.update_self]
      generalize here : (s.task c).phase = phase at moves busy sought
      cases moves with
      | listRequest => exact List.mem_append_right acts (List.mem_singleton.mpr rfl)
      | list => exact (Answered.list busy (now here rfl rfl)).more _
      | targetOffline absent =>
          exact (Answered.offline (sought.asked rfl) (now here rfl absent)).more _
      | targetDevice found =>
          exact Busy.more (.controller (.register _ _))
            ⟨_, sought.asked rfl, now here rfl found⟩ _
      | tooMany refused =>
          obtain ⟨target, found⟩ := busy
          exact (Answered.tooMany found (now here rfl (refused_full refused))).more _
      | cancelled absent =>
          obtain ⟨⟨target, found⟩, why⟩ := busy
          exact (Answered.gaveUp found why).more _
      | expired absent =>
          simp only [step, here, controllerStep, absent] at taken
          rw [← goto_phase taken]
          obtain ⟨⟨target, found⟩, late⟩ := busy
          exact (Answered.expired found late).more _
      | _ => trivial
  | register here ok =>
      obtain ⟨rfl, -, -⟩ := Relay.registerPending_eq ok
      rw [here] at busy
      simp only [Relay.goto_task, Function.update_self]
      exact Busy.more (.controller (.enqueue _ _)) busy _
  | enqueue here alive room =>
      rw [here] at busy
      simp only [Relay.goto_task, Function.update_self]
      exact Busy.more (.controller (.await _ _)) busy _
  | enqueueClosed here gone =>
      rw [here] at busy
      simp only [step, here, controllerStep, gone, if_true] at taken
      cases goto_phase taken
      simp only [Relay.goto_task, Function.update_self]
      exact Busy.more (.controller (.cancel _ _ _))
        ⟨busy, .disconnected (now here rfl gone)⟩ _
  | receive here value =>
      rw [here] at busy
      obtain ⟨target, found⟩ := busy
      simp only [Relay.takeHandoff_task, Function.update_self]
      exact (Answered.ready found (value_handed run value)).more _
  | receiveRefusal here value =>
      rw [here] at busy
      simp only [Relay.goto_task, Function.update_self]
      exact (refusal_answered run here value busy).more _
  | receiveClosed here value gone =>
      rw [here] at busy
      simp only [step, here, controllerStep, Oneshot.poll, value, gone] at taken
      cases goto_phase taken
      simp only [Relay.goto_task, Function.update_self]
      exact Busy.more (.controller (.cancel _ _ _))
        ⟨busy, closed_gaveUp run here value gone⟩ _
  | expireEnqueue here | expireAwait here =>
      rw [here] at busy
      simp only [Relay.goto_task, Function.update_self]
      have found := Busy.more (.controller (.await _ _)) busy [.task c .timeout]
      exact ⟨found, by simp⟩
  | cancel here found =>
      rw [here] at busy
      simp only [Relay.goto_task, Function.update_self]
      exact Busy.more (.controller (.refuse _ _ _)) ⟨_, busy⟩ _
  | refuseCancelled here =>
      rw [here] at busy
      obtain ⟨g, ⟨target, found⟩, why⟩ := busy
      simp only [Relay.goto_task, Function.update_self]
      exact (Answered.gaveUp found why).more _
  | cancelExpired here found =>
      rw [here] at busy
      simp only [step, here, controllerStep, found] at taken
      simp only [Relay.goto_task, Function.update_self]
      rw [← goto_phase taken]
      obtain ⟨⟨target, found⟩, late⟩ := busy
      exact (Answered.expired found late).more _
  | control =>
      simp only [Relay.goto_task, Function.update_self]
      split <;> trivial
  | _ => simp [Busy]

theorem run_busy (run : Run cfg auth acts s) (c : ConnId) :
    Busy cfg auth acts c (s.task c).phase := by
  refine run_each_step (P := Busy cfg auth) (fun _ => trivial)
    (fun _ _ a phase _ busy => Busy.more phase busy [a]) (fun _ _ _ => trivial) ?_ run c
  intro acts s c e s' before taken busy
  exact busy_step before taken busy

/-- **Every answer is true.**  Whatever a controller's handler sends, in any run of the relay, was
so at a moment between the controller's request and the answer. -/
theorem answers_true (run : Run cfg auth acts s) {point : ControllerPoint}
    (here : (s.task c).phase = .controller point) {m : Message}
    (taken : step cfg s (.task c (.send m)) = some s') : Answered cfg auth acts c m := by
  have busy := run_busy run c
  cases step_rule taken with
  | move moves =>
      rw [here] at moves busy
      cases moves with
      | confirm => exact busy
  | finish finishes =>
      rw [here] at finishes busy
      cases finishes with
      | replied => exact busy
      | request incoming => cases incoming

/-- The controller of `bridgedSession` before it is told that its session is ready. -/
def confirming : Relay :=
  (exec (step plainSettings) (Relay.start oneDevice) bridgedSession.dropLast.dropLast).get
    (by decide)

theorem answers_true_ready :
    Answered plainSettings oneDevice bridgedSession.dropLast.dropLast 1 (.ready "s") := by
  have run : Run plainSettings oneDevice bridgedSession.dropLast.dropLast confirming :=
    (Option.some_get _).symm
  have taken : step plainSettings confirming (.task 1 (.send (.ready "s"))) =
      some ((step plainSettings confirming (.task 1 (.send (.ready "s")))).get (by decide)) :=
    (Option.some_get _).symm
  have here : (confirming.task 1).phase = .controller (.ready "s" 2) := by decide
  exact answers_true run here taken

end

end RustSsh.Server
