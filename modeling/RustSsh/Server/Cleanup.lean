/-
# Server.Cleanup -- what a controller's cleanup removes

When its deadline passes or the device is gone, `handle_controller` takes its entry out of
the pending map again.  `take_pending` finds it by the session id, and the id is the
controller's choice: once an agent session has taken the entry the id is free, another
call may register it, and the cleanup of the first removes the entry of the second.
`cleanup_harmless` is the exact condition under which no step of a run does: no call
reaches its cleanup while the request of another one, under the same id at the same
control connection, is still unclaimed.
-/
import RustSsh.Server.Resolution

namespace RustSsh.Server

open RustSsh.Theory RustSsh.Protocol

set_option autoImplicit false

/-- The handler is about to clean up, or has found an entry and is about to fail it. -/
def Phase.cleaning : Phase → Bool
  | .controller (.cancel _ _ _) => true
  | .controller (.refuse _ _ _) => true
  | .controller (.timedOut _ _) => true
  | _ => false

namespace Relay

/-- The requests of all but `c` are as before: their entries are still there and nothing
was sent to them. -/
def Spares (s s' : Relay) (c : ConnId) : Prop :=
  ∀ k, k ≠ c →
    (∀ g sessionId, (s.device g).pending.lookup sessionId = some k →
      (s'.device g).pending.lookup sessionId = some k) ∧
    s'.response k = s.response k

/-- The request of `k` was neither answered nor taken into anybody's hands. -/
def Unclaimed (s : Relay) (k : ConnId) : Prop :=
  (s.response k).sender = true ∧ ∀ c, k ∉ (s.task c).phase.senders

/-- No other call has an unclaimed request under the id the action cleans up. -/
def Apart (s : Relay) : Act → Prop
  | .task c .cancel =>
      ∀ g sessionId, (s.task c).phase.request = some (g, sessionId) →
        ∀ k, k ≠ c → (s.task k).phase.request = some (g, sessionId) → ¬ s.Unclaimed k
  | _ => True

end Relay

/-- If the action is part of a controller's cleanup, it spares the requests of the others. -/
def CleansOwn (cfg : Settings) (s : Relay) : Act → Prop
  | .task c e =>
      (s.task c).phase.cleaning = true → ∀ s', step cfg s (.task c e) = some s' → s.Spares s' c
  | _ => True

section Cleanup

variable {cfg : Settings} {auth : AuthSnapshot} {acts : List Act} {s s' : Relay} {c g k : ConnId}

/-- An entry's request is unclaimed. -/
theorem entry_unclaimed (run : Run cfg auth acts s) {sessionId : SessionId}
    (entry : (s.device g).pending.lookup sessionId = some k) : s.Unclaimed k := by
  have senders := (run_senders run).2
  have held : s.HoldsSender (.entry g sessionId) k := entry
  refine ⟨(senders.live held).1, ?_⟩
  intro c inside
  have same := senders.exclusive held (show s.HoldsSender (.task c) k from inside)
  cases same

/-- An unclaimed request is an entry, under the id its call waits with. -/
theorem unclaimed_entry (run : Run cfg auth acts s) (unclaimed : s.Unclaimed k)
    {sessionId : SessionId} (request : (s.task k).phase.request = some (g, sessionId)) :
    (s.device g).pending.lookup sessionId = some k := by
  obtain ⟨p, held⟩ := run_placed run unclaimed.1
  cases p with
  | task c => exact absurd held (unclaimed.2 c)
  | entry g' sessionId' =>
      have owner := (entry_owner run held).1
      rw [request] at owner
      cases owner
      exact held

/-- `take_pending` of a cleanup finds the call's own entry or none. -/
theorem own_entry (run : Run cfg auth acts s) (apart : s.Apart (.task c .cancel))
    {sessionId : SessionId} (request : (s.task c).phase.request = some (g, sessionId))
    (found : (s.device g).pending.lookup sessionId = some k) : k = c := by
  by_contra other
  exact apart g sessionId request k other (entry_owner run found).1 (entry_unclaimed run found)

/-- Removing the call's own entry leaves those of the others. -/
theorem erase_others {sessionId : SessionId} (found : (s.device g).pending.lookup sessionId = some c)
    {g' : ConnId} {id : SessionId} (other : k ≠ c)
    (entry : (s.device g').pending.lookup id = some k) :
    ((s.removePending g sessionId).device g').pending.lookup id = some k := by
  rcases eq_or_ne g' g with rfl | elsewhere
  · simp only [Relay.removePending, Relay.setDevice_device, Function.update_self]
    refine HashMap.lookup_erase_iff.mpr ⟨?_, entry⟩
    rintro rfl
    rw [found] at entry
    cases entry
    exact other rfl
  · simpa [elsewhere] using entry

/-- A sender in the hands of a cleanup is the call's own. -/
def OwnRefusals (s : Relay) : Prop :=
  ∀ c k sessionId reason, (s.task c).phase = .controller (.refuse k sessionId reason) → k = c

theorem ownRefusals_step (run : Run cfg auth acts s) {a : Act} (own : OwnRefusals s)
    (apart : s.Apart a) (taken : step cfg s a = some s') : OwnRefusals s' := by
  intro c k sessionId reason after
  have rule := step_rule taken
  cases a with
  | accept =>
      cases rule with
      | full => exact own c k sessionId reason after
      | spawn =>
          rcases eq_or_ne c s.admitted with rfl | other
          · simp at after
          · exact own c k sessionId reason (by simpa [other] using after)
  | reload auth =>
      cases rule
      exact own c k sessionId reason after
  | task c' e =>
      rcases eq_or_ne c c' with rfl | other
      · cases rule with
        | cancel here found =>
            simp only [Relay.goto_task, Function.update_self] at after
            cases after
            exact own_entry run apart (by rw [here]; rfl) found
        | move moves =>
            simp only [Relay.goto_task, Function.update_self] at after
            generalize (s.task c).phase = phase at moves
            cases moves <;> cases after
        | control =>
            simp only [Relay.goto_task, Function.update_self] at after
            split at after <;> cases after
        | _ => simp at after
      · rw [rule.task_other other] at after
        exact own c k sessionId reason after

/-- Only the cleanup itself is left to a handler that reached it. -/
theorem Rule.spares {e : Event} (rule : Rule s (.task c e) s') (run : Run cfg auth acts s)
    (own : OwnRefusals s) (apart : s.Apart (.task c e)) (cleaning : (s.task c).phase.cleaning = true) :
    s.Spares s' c := by
  intro k other
  cases rule with
  | cancel here found =>
      cases own_entry run apart (by rw [here]; rfl) found
      exact ⟨fun g sessionId entry => erase_others found other entry, rfl⟩
  | cancelExpired here found =>
      cases own_entry run apart (by rw [here]; rfl) found
      refine ⟨fun g sessionId entry => erase_others found other entry, ?_⟩
      simp [other]
  | refuseCancelled here =>
      cases own c _ _ _ here
      exact ⟨fun g sessionId entry => entry, by simp [other]⟩
  | move moves =>
      exact ⟨fun g sessionId entry => entry, rfl⟩
  | finish finishes =>
      generalize (s.task c).phase = phase at finishes cleaning
      cases finishes <;> cases cleaning
  | _ here =>
      rw [here] at cleaning
      cases cleaning

/-- A cleanup step takes the entry it finds out of the map. -/
theorem cleanup_removes {sessionId : SessionId} (taken : step cfg s (.task c .cancel) = some s')
    (request : (s.task c).phase.request = some (g, sessionId)) :
    (s.task c).phase.cleaning = true ∧ (s'.device g).pending.lookup sessionId = none := by
  cases step_rule taken with
  | cancel here found | cancelExpired here found =>
      rw [here] at request ⊢
      cases request
      exact ⟨rfl, by simp [AList.lookup_erase]⟩
  | move moves =>
      simp only [Relay.goto_device]
      generalize (s.task c).phase = phase at moves request
      cases moves with
      | cancelled absent | expired absent =>
          cases request
          exact ⟨rfl, absent⟩
      | notReady _ _ _ _ incoming => cases incoming
  | finish finishes =>
      generalize (s.task c).phase = phase at finishes request
      cases finishes <;> cases request

/-- **A cleanup harms no other request exactly when no other call has an unclaimed request
under the same id**: at every step of every run. -/
theorem cleanup_harmless (run : Run cfg auth acts s) :
    Along (step cfg) (CleansOwn cfg) (Relay.start auth) acts ↔
      Along (step cfg) Relay.Apart (Relay.start auth) acts := by
  constructor
  · intro harmless
    refine (along_iff run).mpr ?_
    intro pre a post mid split before
    have cleans := (along_iff run).mp harmless pre a post mid split before
    cases a with
    | accept | reload => trivial
    | task c e =>
        by_cases cancels : e = .cancel
        · subst cancels
          intro g sessionId request k other waiting unclaimed
          subst split
          obtain ⟨mid', after, reach, taken, -⟩ := exec_split run
          cases before.symm.trans reach
          obtain ⟨cleaning, removed⟩ := cleanup_removes taken request
          have entry := unclaimed_entry before unclaimed waiting
          have still := (cleans cleaning after taken k other).1 g sessionId entry
          rw [removed] at still
          cases still
        · cases e <;> trivial
  · intro apart
    refine (along_iff run).mpr ?_
    intro pre a post mid split before
    have here : mid.Apart a := (along_iff run).mp apart pre a post mid split before
    cases a with
    | accept | reload => trivial
    | task c e =>
        intro cleaning s' taken
        subst split
        obtain ⟨mid', -, reach, -, -⟩ := exec_split run
        -- the refusals on the way were of the calls' own senders
        have own : OwnRefusals mid := by
          have kept := Along.preserves (I := fun s => (∃ acts, Run cfg auth acts s) ∧ OwnRefusals s)
            (P := Relay.Apart) ?_ (Along.left apart reach) before ⟨⟨[], rfl⟩, ?_⟩
          · exact kept.2
          · intro s a s' holds allowed taken
            obtain ⟨⟨acts, run⟩, own⟩ := holds
            exact ⟨⟨acts ++ [a], exec_snoc run taken⟩, ownRefusals_step run own allowed taken⟩
          · intro c k sessionId reason impossible
            cases impossible
        exact (step_rule taken).spares before own here cleaning

/-- Controller 1 asks for `s`, session 2 takes the request up, controller 3 asks for `s`
again, and controller 1 gives up. -/
def harmedRun : List Act :=
  registers 0 "desk" deviceToken ++ requests 1 "desk" "s" controllerToken ++
    joins 2 .agentSession (some "desk") deviceToken ++
    [.task 2 (.recv (.sessionAttach "s")), .task 2 .lookup, .task 2 .take] ++
    requests 3 "desk" "s" controllerToken ++ [.task 1 .timeout]

/-- Controller 1 is about to clean up. -/
def harmedBefore : Relay :=
  (exec (step plainSettings) (Relay.start oneDevice) harmedRun).get (by decide)

def harmedAfter : Relay := (step plainSettings harmedBefore (.task 1 .cancel)).get (by decide)

/-- The entry of controller 3 is gone and its sender with it: it will be told that the agent
closed, though no agent saw its request. -/
theorem request_harmed :
    Run plainSettings oneDevice (harmedRun ++ [.task 1 .cancel]) harmedAfter ∧
      (harmedBefore.device 0).pending.lookup "s" = some 3 ∧
      (harmedAfter.device 0).pending.lookup "s" = none ∧
      (harmedAfter.task 3).phase = .controller (.await 0 "s") ∧
      (harmedAfter.response 3).sender = false ∧
      ¬ Along (step plainSettings) (CleansOwn plainSettings) (Relay.start oneDevice)
        (harmedRun ++ [.task 1 .cancel]) := by
  have before : Run plainSettings oneDevice harmedRun harmedBefore := (Option.some_get _).symm
  have taken : step plainSettings harmedBefore (.task 1 .cancel) = some harmedAfter :=
    (Option.some_get _).symm
  have run := exec_snoc before taken
  refine ⟨run, by decide, by decide, by decide, by decide, ?_⟩
  intro harmless
  have cleans := (along_iff run).mp harmless harmedRun _ [] harmedBefore rfl before
  have spares := cleans (by decide) harmedAfter taken 3 (by decide)
  have still := spares.1 0 "s" (by decide)
  have gone : (harmedAfter.device 0).pending.lookup "s" = none := by decide
  rw [gone] at still
  cases still

/-- Controllers 1 and 2 ask for `s` and `t`, and controller 1 gives up. -/
def sparedRun : List Act :=
  registers 0 "desk" deviceToken ++ requests 1 "desk" "s" controllerToken ++
    requests 2 "desk" "t" controllerToken ++ [.task 1 .timeout]

def sparedBefore : Relay :=
  (exec (step plainSettings) (Relay.start oneDevice) sparedRun).get (by decide)

def sparedAfter : Relay := (step plainSettings sparedBefore (.task 1 .cancel)).get (by decide)

/-- Controller 1 takes its own entry out, and controller 2 waits on. -/
theorem cleanup_harmless_spared :
    Run plainSettings oneDevice (sparedRun ++ [.task 1 .cancel]) sparedAfter ∧
      (sparedBefore.device 0).pending.lookup "s" = some 1 ∧
      (sparedAfter.device 0).pending.lookup "s" = none ∧
      (sparedAfter.device 0).pending.lookup "t" = some 2 ∧
      Along (step plainSettings) (CleansOwn plainSettings) (Relay.start oneDevice)
        (sparedRun ++ [.task 1 .cancel]) := by
  have before : Run plainSettings oneDevice sparedRun sparedBefore := (Option.some_get _).symm
  have taken : step plainSettings sparedBefore (.task 1 .cancel) = some sparedAfter :=
    (Option.some_get _).symm
  have run := exec_snoc before taken
  have own : (sparedBefore.device 0).pending.lookup "s" = some 1 := by decide
  refine ⟨run, own, by decide, by decide, (cleanup_harmless run).mpr (Along.snoc ?_ before ?_)⟩
  · refine Along.of_forall (fun a inside s => ?_) _
    cases a with
    | accept | reload => trivial
    | task c e =>
        by_cases cancels : e = .cancel
        · subst cancels
          simp [sparedRun, registers, requests, joins] at inside
        · cases e <;> trivial
  · intro g sessionId request k other waiting unclaimed
    have asked : (sparedBefore.task 1).phase.request = some (0, "s") := by decide
    rw [asked] at request
    cases request
    -- the one entry under the id is the call's own
    have entry := unclaimed_entry before unclaimed waiting
    rw [own] at entry
    exact other (Option.some.inj entry).symm

end Cleanup

end RustSsh.Server
