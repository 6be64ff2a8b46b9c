/-
# Desktop.ClientApp -- the client's window and its agent threads

`ClientApp` of `src/desktop.rs` without its layout: the buttons, `poll_agent` and `Drop`, and the
threads that `start` spawns.  A thread runs the agent's supervisor; what it reports goes through a
channel to the window, and the window's stop goes through a oneshot channel to it.  The window and
the threads take turns in any order, and `poll_agent` is cut at every `try_recv`.

`one_agent`: there is never more than one thread that has not finished, and it is waiting to be told
to stop exactly as long as the window can tell it.  `shows_last_agent`: what is shown is the last
update of the last thread, or that it was told to stop, and when that thread is gone and its updates
are read it is shown as stopped or failed.
-/
import RustSsh.Agent.Reconnect
import RustSsh.Desktop.ClientSettings
import RustSsh.Theory.Oneshot
import RustSsh.Pairing.Wire

namespace RustSsh.Desktop

open RustSsh.Theory RustSsh.Protocol RustSsh.Server RustSsh.Agent RustSsh.Pairing

set_option autoImplicit false

/-! ## The source -/

inductive ClientConnectionState where
  | stopped
  | connecting
  | connected
  | retrying
  | error
  deriving DecidableEq, Repr

/-- `agent::Status`; the supervisor's own statuses leave the reason of a retry out. -/
inductive Update where
  | connecting
  | connected
  | retrying (reason : String)
  | stopped
  | failed (reason : String)
  deriving DecidableEq, Repr

def Update.status : Update → Status
  | .connecting => .connecting
  | .connected => .connected
  | .retrying _ => .retrying
  | .stopped => .stopped
  | .failed reason => .failed reason

/-- The update with this status; `reason` is the error of the attempt that ended. -/
def Update.ofStatus (reason : String) : Status → Update
  | .connecting => .connecting
  | .connected => .connected
  | .retrying => .retrying reason
  | .stopped => .stopped
  | .failed error => .failed error

/-- Where a thread is. -/
inductive ThreadPoint where
  /-- before `Runtime::new` -/
  | spawned (target : String)
  /-- in the agent's supervisor; `target` is what `validate_target` says -/
  | running (target : Except String Unit) (s : Supervisor)
  /-- the closure has returned, and its `status_tx` is dropped -/
  | hungUp
  /-- `JoinHandle::is_finished` -/
  | finished
  deriving DecidableEq, Repr

/-- A thread of `start`, with its two channels. -/
structure AgentThread where
  point : ThreadPoint
  stop : Oneshot Unit
  /-- the updates the window has taken, and those it has not -/
  taken : List Update
  queue : List Update
  deriving DecidableEq, Repr

namespace AgentThread

def spawn (target : String) : AgentThread := ⟨.spawned target, .channel, [], []⟩

/-- The thread has dropped its sender of updates. -/
def gone (t : AgentThread) : Bool :=
  match t.point with
  | .hungUp => true
  | .finished => true
  | .spawned _ | .running _ _ => false

/-- `agent.run_until_stopped_with_status` makes a step; it can only stop if it is told to. -/
def agentStep (t : AgentThread) (e : Agent.Event) (reason : String) : Option AgentThread :=
  match t.point with
  | .running target s =>
      if e = .stop ∧ t.stop.sender = true then none
      else
        (s.step e).map fun s' =>
          { t with
            point := .running target s'
            queue := t.queue ++ (s'.statuses.drop s.statuses.length).map (Update.ofStatus reason) }
  | .spawned _ | .hungUp | .finished => none

def failed (error : String) : Update := .failed ("agent 后台线程退出：" ++ error)

/-- The closure goes on from `Runtime::new`. -/
def runtime (parse : String → Option SocketAddr) (t : AgentThread) (made : Except String Unit) :
    Option AgentThread :=
  match t.point with
  | .spawned target =>
      match made with
      | .error error => some { t with point := .hungUp, queue := t.queue ++ [failed error] }
      | .ok () =>
          let s := Supervisor.start (validateTarget parse target)
          some { t with
            point := .running (validateTarget parse target) s
            queue := t.queue ++ s.statuses.map (Update.ofStatus "") }
  | .running _ _ | .hungUp | .finished => none

/-- The agent has returned, and the closure returns. -/
def returns (t : AgentThread) : Option AgentThread :=
  match t.point with
  | .running target s =>
      if s.phase = .returned then
        match target with
        | .error error => some { t with point := .hungUp, queue := t.queue ++ [failed error] }
        | .ok () => some { t with point := .hungUp }
      else none
  | .spawned _ | .hungUp | .finished => none

def finishes (t : AgentThread) : Option AgentThread :=
  if t.point = .hungUp then some { t with point := .finished } else none

end AgentThread

/-- Where the window is in `poll_agent`. -/
inductive PollPoint where
  | outside
  | draining
  | checking
  deriving DecidableEq, Repr

/-- A handle is the number of the thread it belongs to. -/
structure ClientApp where
  settings : ClientSettings
  status : String
  connectionState : ClientConnectionState
  stopTx : Option Nat
  agentThread : Option Nat
  statusRx : Option Nat
  point : PollPoint
  deriving DecidableEq, Repr

namespace ClientApp

/-- `settings` is what `load_client_settings` returned. -/
def new (settings : ClientSettings) : ClientApp :=
  { settings, status := "未运行", connectionState := .stopped, stopTx := none,
    agentThread := none, statusRx := none, point := .outside }

def setConnectionState (app : ClientApp) (state : ClientConnectionState) (status : String) :
    ClientApp :=
  { app with connectionState := state, status }

/-- `saved` is what `save_settings` returned. -/
def save (app : ClientApp) (saved : Except String Unit) : ClientApp :=
  match saved with
  | .ok () => { app with status := "配置已保存" }
  | .error error => { app with status := "保存失败：" ++ error }

def start (crates : Crates) (parse : String → Option SocketAddr) (app : ClientApp)
    (agents : List AgentThread) (saved : Except String Unit) : ClientApp × List AgentThread :=
  if app.agentThread.isSome then
    ({ app with status := "agent 已在运行或正在停止" }, agents)
  else
    match clientAgentConfig crates parse app.settings with
    | .error error => ({ app with status := "配置无效：" ++ error }, agents)
    | .ok config =>
        match saved with
        | .error error => ({ app with status := "保存失败：" ++ error }, agents)
        | .ok () =>
            let i := agents.length
            ({ app with stopTx := some i, agentThread := some i,
                        statusRx := some i }.setConnectionState .connecting "正在连接服务器…",
              agents ++ [.spawn config.target])

/-- `stop_tx.send(())`. -/
def tell (agents : List AgentThread) (i : Nat) : List AgentThread :=
  agents.modify i fun t => { t with stop := (t.stop.send ()).1 }

def stop (app : ClientApp) (agents : List AgentThread) : ClientApp × List AgentThread :=
  match app.stopTx with
  | some i => ({ app with stopTx := none }.setConnectionState .stopped "正在断开…", tell agents i)
  | none => (app.setConnectionState .stopped "未运行", agents)

def applyAgentStatus (app : ClientApp) : Update → ClientApp
  | .connecting => app.setConnectionState .connecting "正在连接服务器…"
  | .connected => app.setConnectionState .connected "已连接服务器，等待 SSH 连接"
  | .retrying reason => app.setConnectionState .retrying ("连接中断，正在重试：" ++ reason)
  | .stopped => app.setConnectionState .stopped "已断开"
  | .failed reason => app.setConnectionState .error ("连接失败：" ++ reason)

/-- `try_recv` in the loop of `poll_agent`. -/
def tryRecv (app : ClientApp) (agents : List AgentThread) : Option (ClientApp × List AgentThread) :=
  match app.statusRx with
  | none => some ({ app with point := .checking }, agents)
  | some i =>
      match agents[i]? with
      | none => none
      | some t =>
          match t.queue with
          | update :: rest =>
              some (app.applyAgentStatus update,
                agents.set i { t with taken := t.taken ++ [update], queue := rest })
          | [] =>
              some ({ app with
                      statusRx := if t.gone then none else some i
                      point := .checking }, agents)

/-- The rest of `poll_agent`; assigning `None` drops the sender. -/
def checkFinished (app : ClientApp) (agents : List AgentThread) : ClientApp × List AgentThread :=
  let finished := (app.agentThread.bind (agents[·]?)).any fun t => t.point = .finished
  if finished then
    ({ app with agentThread := none, stopTx := none, point := .outside },
      match app.stopTx with
      | some i => agents.modify i fun t => { t with stop := t.stop.dropSender }
      | none => agents)
  else ({ app with point := .outside }, agents)

end ClientApp

inductive ClientAct where
  | poll
  | tryRecv
  | checkFinished
  | save (saved : Except String Unit)
  | start (saved : Except String Unit)
  /-- the button, or the tray's menu before the window closes -/
  | stop
  | copyId
  /-- the tray keeps a window that was closed -/
  | hide
  | edit (settings : ClientSettings)
  /-- `Drop` -/
  | close
  | runtime (i : Nat) (made : Except String Unit)
  | agent (i : Nat) (e : Agent.Event) (reason : String)
  | returns (i : Nat)
  | finishes (i : Nat)

/-- The window, until it is closed, and every thread it has started. -/
structure Client where
  app : Option ClientApp
  agents : List AgentThread

namespace Client

def start (settings : ClientSettings) : Client := ⟨some (.new settings), []⟩

/-- A thread goes on. -/
def thread (c : Client) (i : Nat) (next : AgentThread → Option AgentThread) : Option Client :=
  match c.agents[i]? with
  | none => none
  | some t => (next t).map fun t => { c with agents := c.agents.set i t }

variable (crates : Crates) (parse : String → Option SocketAddr)

/-- What the window does when it is not in `poll_agent`. -/
def click (app : ClientApp) (agents : List AgentThread) : ClientAct → Option Client
  | .poll => some ⟨some { app with point := .draining }, agents⟩
  | .save saved => some ⟨some (app.save saved), agents⟩
  | .start saved =>
      let (app, agents) := app.start crates parse agents saved
      some ⟨some app, agents⟩
  | .stop =>
      let (app, agents) := app.stop agents
      some ⟨some app, agents⟩
  | .copyId => some ⟨some { app with status := "设备 ID 已复制" }, agents⟩
  | .hide => some ⟨some { app with status := "窗口已隐藏到托盘，client 仍在运行" }, agents⟩
  | .edit settings => some ⟨some { app with settings }, agents⟩
  | .close =>
      -- a thread that has not finished is detached
      some ⟨none, match app.stopTx with
        | some i => ClientApp.tell agents i
        | none => agents⟩
  | _ => none

def step (c : Client) : ClientAct → Option Client
  | .runtime i made => c.thread i (·.runtime parse made)
  | .agent i e reason => c.thread i (·.agentStep e reason)
  | .returns i => c.thread i AgentThread.returns
  | .finishes i => c.thread i AgentThread.finishes
  | act =>
      match c.app with
      | none => none
      | some app =>
          match app.point, act with
          | .outside, act => click crates parse app c.agents act
          | .draining, .tryRecv =>
              (app.tryRecv c.agents).map fun (app, agents) => ⟨some app, agents⟩
          | .checking, .checkFinished =>
              let (app, agents) := app.checkFinished c.agents
              some ⟨some app, agents⟩
          | _, _ => none

end Client

/-! ## A thread -/

/-- The last update of an agent. -/
def Update.ends : Update → Bool
  | .stopped => true
  | .failed _ => true
  | .connecting | .connected | .retrying _ => false

theorem Update.status_ofStatus (reason : String) (status : Status) :
    (Update.ofStatus reason status).status = status := by
  cases status <;> rfl

theorem Update.map_status_ofStatus (reason : String) (statuses : List Status) :
    (statuses.map (Update.ofStatus reason)).map Update.status = statuses := by
  simp [Function.comp_def, Update.status_ofStatus]

/-- The supervisor's last word, once it is stopping. -/
def LastWord (s : Supervisor) : Prop :=
  s.phase.stopped = true → ∃ status, s.statuses.getLast? = some status ∧
    ∀ update : Update, update.status = status → update.ends = true

theorem lastWord_start (target : Except String Unit) : LastWord (Supervisor.start target) := by
  cases target with
  | ok valid =>
      intro never
      cases never
  | error error =>
      refine fun _ => ⟨.failed error, rfl, fun update same => ?_⟩
      cases update <;> first | rfl | cases same

theorem lastWord_stop (s : Supervisor) : LastWord s.stop := by
  refine fun _ => ⟨.stopped, by simp [Supervisor.stop], fun update same => ?_⟩
  cases update <;> first | rfl | cases same

/-- What a step reports is put behind what was reported. -/
theorem rule_reports {s s' : Supervisor} {e : Agent.Event} (taken : s.Rule e s') :
    ∃ new, s'.statuses = s.statuses ++ new := by
  cases taken with
  | connected | greeted | loops | former | dropsReader | sessionEnds | join | returns =>
      exact ⟨[], (List.append_nil _).symm⟩
  | welcomed | refused | failed | leaves | retry | drops | stops => exact ⟨_, rfl⟩

theorem rule_lastWord {s s' : Supervisor} {e : Agent.Event} (last : LastWord s) (taken : s.Rule e s') :
    LastWord s' := by
  cases taken with
  | connected | greeted | welcomed | refused | failed | loops | leaves | retry =>
      intro never
      cases never
  | former | dropsReader | sessionEnds | join => exact last
  | drops => exact lastWord_stop _
  | stops => exact lastWord_stop _
  | returns here =>
      refine fun _ => last ?_
      rw [here]
      rfl

namespace AgentThread

/-- Everything the thread has reported. -/
def told (t : AgentThread) : List Update := t.taken ++ t.queue

/-- What a thread has reported is what its supervisor has, and it has had its last word when it
hangs up. -/
structure Faithful (t : AgentThread) : Prop where
  silent : ∀ target, t.point = .spawned target → t.told = []
  reports : ∀ target s, t.point = .running target s → t.told.map Update.status = s.statuses
  lastWord : ∀ target s, t.point = .running target s → LastWord s
  ended : t.gone = true → ∃ update, t.told.getLast? = some update ∧ update.ends = true

/-- A step of the thread itself. -/
structure Goes (t t' : AgentThread) : Prop where
  unfinished : t.point ≠ .finished
  stop : t'.stop = t.stop
  taken : t'.taken = t.taken
  hungUp : t.gone = true → t'.gone = true ∧ t'.queue = t.queue
  faithful : t.Faithful → t'.Faithful

theorem faithful_spawn (target : String) : (spawn target).Faithful where
  silent _ _ := rfl
  reports _ _ here := by cases here
  lastWord _ _ here := by cases here
  ended here := by cases here

/-- Hanging up behind an update that ends. -/
theorem faithful_hungUp {t : AgentThread} {update : Update} (last : t.told.getLast? = some update)
    (ends : update.ends = true) (point : t.point = .hungUp) : t.Faithful where
  silent _ here := by
    rw [point] at here
    cases here
  reports _ _ here := by
    rw [point] at here
    cases here
  lastWord _ _ here := by
    rw [point] at here
    cases here
  ended _ := ⟨update, last, ends⟩

theorem faithful_failed {t : AgentThread} (error : String) :
    Faithful { t with point := .hungUp, queue := t.queue ++ [failed error] } := by
  have last : told { t with point := .hungUp, queue := t.queue ++ [failed error] } =
      t.told ++ [failed error] := by
    simp [told]
  exact faithful_hungUp (by rw [last, List.getLast?_concat]) rfl rfl

theorem goes_agentStep {t t' : AgentThread} {e : Agent.Event} {reason : String}
    (step : t.agentStep e reason = some t') : t.Goes t' := by
  unfold agentStep at step
  split at step
  · rename_i target s here
    split at step
    · cases step
    · obtain ⟨s', taken, rfl⟩ := Option.map_eq_some_iff.mp step
      have rule := Supervisor.step_rule taken
      obtain ⟨new, reported⟩ := rule_reports rule
      refine ⟨by rw [here]; simp, rfl, rfl, fun never => by simp [gone, here] at never,
        fun faithful => ⟨fun _ never => (by cases never), fun _ _ point => ?_, fun _ _ point => ?_,
          fun never => (by cases never)⟩⟩
      · cases point
        simp only [told]
        rw [← List.append_assoc, List.map_append, Update.map_status_ofStatus, reported,
          List.drop_left]
        exact congrArg (· ++ new) (faithful.reports target s here)
      · cases point
        exact rule_lastWord (faithful.lastWord target s here) rule
  · cases step
  · cases step
  · cases step

theorem goes_runtime {parse : String → Option SocketAddr} {t t' : AgentThread}
    {made : Except String Unit} (step : t.runtime parse made = some t') : t.Goes t' := by
  unfold runtime at step
  split at step
  · rename_i target here
    cases made with
    | error error =>
        cases step
        refine ⟨by rw [here]; simp, rfl, rfl, fun never => by simp [gone, here] at never,
          fun faithful => ?_⟩
        exact faithful_failed error
    | ok done =>
        cases step
        refine ⟨by rw [here]; simp, rfl, rfl, fun never => by simp [gone, here] at never,
          fun faithful => ⟨fun _ never => (by cases never), fun _ _ point => ?_, fun _ _ point => ?_,
            fun never => (by cases never)⟩⟩
        · cases point
          have silent := faithful.silent target here
          simp only [told] at silent ⊢
          rw [← List.append_assoc, silent, List.nil_append, Update.map_status_ofStatus]
        · cases point
          exact lastWord_start _
  · cases step
  · cases step
  · cases step

theorem goes_returns {t t' : AgentThread} (step : t.returns = some t') : t.Goes t' := by
  unfold returns at step
  split at step
  · rename_i target s here
    split at step
    · rename_i returned
      have stopped : s.phase.stopped = true := by rw [returned]; rfl
      cases target with
      | error error =>
          cases step
          refine ⟨by rw [here]; simp, rfl, rfl, fun never => by simp [gone, here] at never,
            fun faithful => ?_⟩
          exact faithful_failed error
      | ok valid =>
          cases step
          refine ⟨by rw [here]; simp, rfl, rfl, fun never => by simp [gone, here] at never,
            fun faithful => ?_⟩
          obtain ⟨status, last, ends⟩ := faithful.lastWord _ s here stopped
          rw [← faithful.reports _ s here, List.getLast?_map, Option.map_eq_some_iff] at last
          obtain ⟨update, last, same⟩ := last
          exact faithful_hungUp last (ends update same) rfl
    · cases step
  · cases step
  · cases step
  · cases step

theorem goes_finishes {t t' : AgentThread} (step : t.finishes = some t') : t.Goes t' := by
  unfold finishes at step
  split at step
  · rename_i here
    cases step
    refine ⟨by rw [here]; simp, rfl, rfl, fun _ => ⟨rfl, rfl⟩, fun faithful => ?_⟩
    exact ⟨fun _ never => (by cases never), fun _ _ never => (by cases never),
      fun _ _ never => (by cases never), fun _ => faithful.ended (by rw [gone, here])⟩
  · cases step

end AgentThread

/-! ## What a step can be -/

/-- A change of a thread that drops or uses its stop sender and leaves the rest. -/
structure Hushes (f : AgentThread → AgentThread) : Prop where
  sender : ∀ t, (f t).stop.sender = false
  point : ∀ t, (f t).point = t.point
  taken : ∀ t, (f t).taken = t.taken
  queue : ∀ t, (f t).queue = t.queue

theorem hushes_tell : Hushes fun t => { t with stop := (t.stop.send ()).1 } :=
  ⟨fun _ => Oneshot.send_sender _ _, fun _ => rfl, fun _ => rfl, fun _ => rfl⟩

theorem hushes_dropSender : Hushes fun t => { t with stop := t.stop.dropSender } :=
  ⟨fun _ => rfl, fun _ => rfl, fun _ => rfl, fun _ => rfl⟩

namespace Client

/-- The steps, each with the state it leads to; texts, settings and the place in `poll_agent`
are left open. -/
inductive Rule (c : Client) : Client → Prop where
  | thread (i : Nat) (t t' : AgentThread) (here : c.agents[i]? = some t) (goes : t.Goes t') :
      Rule c { c with agents := c.agents.set i t' }
  /-- nothing but what the rules leave open -/
  | idle (app : ClientApp) (here : c.app = some app) (settings : ClientSettings) (status : String)
      (point : PollPoint) : Rule c ⟨some { app with settings, status, point }, c.agents⟩
  | spawns (app : ClientApp) (here : c.app = some app) (free : app.agentThread = none)
      (status target : String) :
      Rule c ⟨some { app with stopTx := some c.agents.length, agentThread := some c.agents.length,
                              statusRx := some c.agents.length, connectionState := .connecting,
                              status },
        c.agents ++ [.spawn target]⟩
  | takes (app : ClientApp) (here : c.app = some app) (i : Nat) (t : AgentThread) (update : Update)
      (rest : List Update) (reads : app.statusRx = some i) (there : c.agents[i]? = some t)
      (queued : t.queue = update :: rest) :
      Rule c ⟨some (app.applyAgentStatus update),
        c.agents.set i { t with taken := t.taken ++ [update], queue := rest }⟩
  /-- `Disconnected` -/
  | drained (app : ClientApp) (here : c.app = some app) (i : Nat) (t : AgentThread)
      (reads : app.statusRx = some i) (there : c.agents[i]? = some t) (queued : t.queue = [])
      (gone : t.gone = true) (point : PollPoint) :
      Rule c ⟨some { app with statusRx := none, point }, c.agents⟩
  | stops (app : ClientApp) (here : c.app = some app) (i : Nat) (holds : app.stopTx = some i)
      (f : AgentThread → AgentThread) (hushes : Hushes f) (status : String) :
      Rule c ⟨some { app with stopTx := none, connectionState := .stopped, status },
        c.agents.modify i f⟩
  | stopsNothing (app : ClientApp) (here : c.app = some app) (holds : app.stopTx = none)
      (status : String) : Rule c ⟨some { app with connectionState := .stopped, status }, c.agents⟩
  /-- `poll_agent` joins the thread -/
  | releases (app : ClientApp) (here : c.app = some app) (i j : Nat) (t : AgentThread)
      (runs : app.agentThread = some i) (there : c.agents[i]? = some t) (finished : t.point = .finished)
      (holds : app.stopTx = some j) (f : AgentThread → AgentThread) (hushes : Hushes f)
      (point : PollPoint) :
      Rule c ⟨some { app with agentThread := none, stopTx := none, point }, c.agents.modify j f⟩
  | releasesTold (app : ClientApp) (here : c.app = some app) (i : Nat) (t : AgentThread)
      (runs : app.agentThread = some i) (there : c.agents[i]? = some t) (finished : t.point = .finished)
      (holds : app.stopTx = none) (point : PollPoint) :
      Rule c ⟨some { app with agentThread := none, stopTx := none, point }, c.agents⟩
  | closes (app : ClientApp) (here : c.app = some app) (i : Nat) (holds : app.stopTx = some i)
      (f : AgentThread → AgentThread) (hushes : Hushes f) : Rule c ⟨none, c.agents.modify i f⟩
  | closesTold (app : ClientApp) (here : c.app = some app) (holds : app.stopTx = none) :
      Rule c ⟨none, c.agents⟩

variable {crates : Crates} {parse : String → Option SocketAddr} {c c' : Client} {app : ClientApp}

theorem thread_rule {i : Nat} {next : AgentThread → Option AgentThread}
    (goes : ∀ t t', next t = some t' → t.Goes t') (taken : c.thread i next = some c') :
    c.Rule c' := by
  unfold thread at taken
  split at taken
  · cases taken
  · rename_i t here
    obtain ⟨t', stepped, rfl⟩ := Option.map_eq_some_iff.mp taken
    exact .thread i t t' here (goes t t' stepped)

theorem start_rule (here : c.app = some app) (saved : Except String Unit) :
    c.Rule ⟨some (app.start crates parse c.agents saved).1,
      (app.start crates parse c.agents saved).2⟩ := by
  unfold ClientApp.start
  split
  · exact .idle app here app.settings _ app.point
  · rename_i free
    split
    · exact .idle app here app.settings _ app.point
    · rename_i config made
      split
      · exact .idle app here app.settings _ app.point
      · exact .spawns app here (Option.not_isSome_iff_eq_none.mp free) "正在连接服务器…" config.target

theorem stop_rule (here : c.app = some app) :
    c.Rule ⟨some (app.stop c.agents).1, (app.stop c.agents).2⟩ := by
  unfold ClientApp.stop
  split
  · rename_i i holds
    exact .stops app here i holds _ hushes_tell "正在断开…"
  · rename_i holds
    exact .stopsNothing app here holds "未运行"

theorem click_rule {act : ClientAct} (here : c.app = some app)
    (taken : click crates parse app c.agents act = some c') : c.Rule c' := by
  cases act with
  | poll | copyId | hide | edit =>
      cases taken
      exact .idle app here _ _ _
  | save saved =>
      cases taken
      cases saved <;> exact .idle app here app.settings _ app.point
  | start saved =>
      cases taken
      exact start_rule here saved
  | stop =>
      cases taken
      exact stop_rule here
  | close =>
      simp only [click] at taken
      cases holds : app.stopTx with
      | some i =>
          rw [holds] at taken
          cases taken
          exact .closes app here i holds _ hushes_tell
      | none =>
          rw [holds] at taken
          cases taken
          exact .closesTold app here holds
  | tryRecv | checkFinished | runtime | agent | returns | finishes => cases taken

theorem tryRecv_rule {app' : ClientApp} {agents : List AgentThread} (here : c.app = some app)
    (taken : app.tryRecv c.agents = some (app', agents)) : c.Rule ⟨some app', agents⟩ := by
  unfold ClientApp.tryRecv at taken
  split at taken
  · cases taken
    exact .idle app here app.settings app.status .checking
  · rename_i i reads
    split at taken
    · cases taken
    · rename_i t there
      split at taken
      · rename_i update rest queued
        cases taken
        exact .takes app here i t update rest reads there queued
      · rename_i queued
        cases taken
        split
        · rename_i gone
          exact .drained app here i t reads there queued gone .checking
        · rw [← reads]
          exact .idle app here app.settings app.status .checking

theorem checkFinished_rule (here : c.app = some app) :
    c.Rule ⟨some (app.checkFinished c.agents).1, (app.checkFinished c.agents).2⟩ := by
  simp only [ClientApp.checkFinished]
  split
  · rename_i finished
    obtain ⟨t, found, ended⟩ := (Option.any_eq_true _ _).mp finished
    obtain ⟨i, runs, there⟩ := Option.bind_eq_some_iff.mp found
    have ended : t.point = .finished := of_decide_eq_true ended
    cases holds : app.stopTx with
    | some j => exact .releases app here i j t runs there ended holds _ hushes_dropSender .outside
    | none => exact .releasesTold app here i t runs there ended holds .outside
  · exact .idle app here app.settings app.status .outside

theorem step_rule {act : ClientAct} (taken : step crates parse c act = some c') : c.Rule c' := by
  unfold step at taken
  split at taken
  · exact thread_rule (fun _ _ => AgentThread.goes_runtime) taken
  · exact thread_rule (fun _ _ => AgentThread.goes_agentStep) taken
  · exact thread_rule (fun _ _ => AgentThread.goes_returns) taken
  · exact thread_rule (fun _ _ => AgentThread.goes_finishes) taken
  · split at taken
    · cases taken
    · rename_i app here
      split at taken
      · exact click_rule here taken
      · obtain ⟨⟨app', agents⟩, received, rfl⟩ := Option.map_eq_some_iff.mp taken
        exact tryRecv_rule here received
      · cases taken
        exact checkFinished_rule here
      · cases taken

end Client

/-! ## One agent -/

/-- What the window can reach its threads by. -/
structure Handles where
  stopTx : Option Nat
  agentThread : Option Nat
  statusRx : Option Nat

def ClientApp.handles (app : ClientApp) : Handles := ⟨app.stopTx, app.agentThread, app.statusRx⟩

/-- Whose the threads are. -/
structure Owned (h : Option Handles) (agents : List AgentThread) : Prop where
  last : ∀ i t, agents[i]? = some t → t.point ≠ .finished →
    i + 1 = agents.length ∧ ∀ held, h = some held → held.agentThread = some i
  held : ∀ held i, h = some held → held.agentThread = some i → i + 1 = agents.length
  sender : ∀ i t, agents[i]? = some t →
    (t.stop.sender = true ↔ ∃ held, h = some held ∧ held.stopTx = some i)
  stopTx : ∀ held i, h = some held → held.stopTx = some i → held.agentThread = some i
  receiver : ∀ held i, h = some held → held.statusRx = some i → i + 1 = agents.length

theorem getElem?_set_some {agents : List AgentThread} {i j : Nat} {t' u : AgentThread}
    (there : (agents.set i t')[j]? = some u) : (i = j ∧ u = t') ∨ (i ≠ j ∧ agents[j]? = some u) := by
  by_cases same : i = j
  · subst same
    rw [List.getElem?_set_self'] at there
    obtain ⟨t, -, rfl⟩ := Option.map_eq_some_iff.mp there
    exact .inl ⟨rfl, rfl⟩
  · rw [List.getElem?_set_ne same] at there
    exact .inr ⟨same, there⟩

theorem getElem?_modify_some {agents : List AgentThread} {i j : Nat}
    {f : AgentThread → AgentThread} {u : AgentThread} (there : (agents.modify i f)[j]? = some u) :
    ∃ t, agents[j]? = some t ∧ u = if i = j then f t else t := by
  rw [List.getElem?_modify] at there
  obtain ⟨t, before, rfl⟩ := Option.map_eq_some_iff.mp there
  exact ⟨t, before, rfl⟩

namespace Owned

variable {h : Option Handles} {agents : List AgentThread} {held : Handles}

theorem set {i : Nat} {t t' : AgentThread} (owned : Owned h agents) (here : agents[i]? = some t)
    (stop : t'.stop = t.stop) (point : t'.point ≠ .finished → t.point ≠ .finished) :
    Owned h (agents.set i t') where
  last j u there unfinished := by
    rw [List.length_set]
    rcases getElem?_set_some there with ⟨rfl, rfl⟩ | ⟨-, before⟩
    · exact owned.last i t here (point unfinished)
    · exact owned.last j u before unfinished
  held := by
    rw [List.length_set]
    exact owned.held
  sender j u there := by
    rcases getElem?_set_some there with ⟨rfl, rfl⟩ | ⟨-, before⟩
    · rw [stop]
      exact owned.sender i t here
    · exact owned.sender j u before
  stopTx := owned.stopTx
  receiver := by
    rw [List.length_set]
    exact owned.receiver

/-- The window's sender is used or dropped. -/
theorem hush {i : Nat} {f : AgentThread → AgentThread} (owned : Owned (some held) agents)
    (holds : held.stopTx = some i) (hushes : Hushes f) :
    Owned (some { held with stopTx := none }) (agents.modify i f) where
  last j u there unfinished := by
    rw [List.length_modify]
    obtain ⟨t, before, rfl⟩ := getElem?_modify_some there
    have point : (if i = j then f t else t).point = t.point := by
      split
      · exact hushes.point t
      · rfl
    rw [point] at unfinished
    obtain ⟨last, runs⟩ := owned.last j t before unfinished
    refine ⟨last, fun held' same => ?_⟩
    cases same
    exact runs held rfl
  held held' j same runs := by
    cases same
    rw [List.length_modify]
    exact owned.held held j rfl runs
  sender j u there := by
    obtain ⟨t, before, rfl⟩ := getElem?_modify_some there
    refine iff_of_false ?_ ?_
    · split
      · rw [hushes.sender]
        exact Bool.false_ne_true
      · rename_i other
        rw [owned.sender j t before]
        rintro ⟨held', same, also⟩
        cases same
        exact other (Option.some.inj (holds.symm.trans also))
    · rintro ⟨held', same, never⟩
      cases same
      cases never
  stopTx held' j same never := by
    cases same
    cases never
  receiver held' j same reads := by
    cases same
    rw [List.length_modify]
    exact owned.receiver held j rfl reads

/-- The window joins its thread. -/
theorem release {i : Nat} {t : AgentThread} (owned : Owned (some held) agents)
    (told : held.stopTx = none) (runs : held.agentThread = some i) (there : agents[i]? = some t)
    (finished : t.point = .finished) : Owned (some { held with agentThread := none }) agents where
  last j u here unfinished := by
    obtain ⟨-, only⟩ := owned.last j u here unfinished
    obtain rfl : i = j := Option.some.inj (runs.symm.trans (only held rfl))
    rw [there] at here
    cases here
    exact absurd finished unfinished
  held held' j same never := by
    cases same
    cases never
  sender j u here := by
    rw [owned.sender j u here]
    refine iff_of_false ?_ ?_
    · rintro ⟨held', same, holds⟩
      cases same
      rw [told] at holds
      cases holds
    · rintro ⟨held', same, holds⟩
      cases same
      rw [told] at holds
      cases holds
  stopTx held' j same holds := by
    cases same
    rw [told] at holds
    cases holds
  receiver held' j same reads := by
    cases same
    exact owned.receiver held j rfl reads

theorem close (owned : Owned (some held) agents) (told : held.stopTx = none) :
    Owned none agents where
  last i t here unfinished := ⟨(owned.last i t here unfinished).1, fun _ never => by cases never⟩
  held _ _ never := by cases never
  sender i t here := by
    rw [owned.sender i t here]
    refine iff_of_false ?_ ?_
    · rintro ⟨held', same, holds⟩
      cases same
      rw [told] at holds
      cases holds
    · rintro ⟨held', never, -⟩
      cases never
  stopTx _ _ never := by cases never
  receiver _ _ never := by cases never

theorem drained (owned : Owned (some held) agents) :
    Owned (some { held with statusRx := none }) agents where
  last i t here unfinished := by
    obtain ⟨last, runs⟩ := owned.last i t here unfinished
    refine ⟨last, fun held' same => ?_⟩
    cases same
    exact runs held rfl
  held held' i same runs := by
    cases same
    exact owned.held held i rfl runs
  sender i t here := by
    rw [owned.sender i t here]
    constructor
    · rintro ⟨held', same, holds⟩
      cases same
      exact ⟨_, rfl, holds⟩
    · rintro ⟨held', same, holds⟩
      cases same
      exact ⟨_, rfl, holds⟩
  stopTx held' i same holds := by
    cases same
    exact owned.stopTx held i rfl holds
  receiver held' i same never := by
    cases same
    cases never

theorem getElem?_spawn {target : String} {i : Nat} {t : AgentThread}
    (there : (agents ++ [.spawn target])[i]? = some t) :
    agents[i]? = some t ∧ i < agents.length ∨ i = agents.length ∧ t = .spawn target := by
  rcases Nat.lt_trichotomy i agents.length with before | rfl | behind
  · rw [List.getElem?_append_left before] at there
    exact .inl ⟨there, before⟩
  · rw [List.getElem?_concat_length] at there
    cases there
    exact .inr ⟨rfl, rfl⟩
  · rw [List.getElem?_eq_none (by rw [List.length_append, List.length_singleton]; omega)] at there
    cases there

/-- A new thread, when the window has none. -/
theorem spawn (owned : Owned (some held) agents) (free : held.agentThread = none)
    (target : String) :
    Owned (some ⟨some agents.length, some agents.length, some agents.length⟩)
      (agents ++ [.spawn target]) where
  last i t there unfinished := by
    rcases getElem?_spawn there with ⟨before, -⟩ | ⟨rfl, rfl⟩
    · have runs := (owned.last i t before unfinished).2 held rfl
      rw [free] at runs
      cases runs
    · refine ⟨by rw [List.length_append]; rfl, fun held' same => ?_⟩
      cases same
      rfl
  held held' i same runs := by
    cases same
    cases runs
    rw [List.length_append]
    rfl
  sender i t there := by
    rcases getElem?_spawn there with ⟨before, less⟩ | ⟨rfl, rfl⟩
    · rw [owned.sender i t before]
      refine iff_of_false ?_ ?_
      · rintro ⟨held', same, holds⟩
        cases same
        have runs := owned.stopTx held i rfl holds
        rw [free] at runs
        cases runs
      · rintro ⟨held', same, holds⟩
        cases same
        cases holds
        exact Nat.lt_irrefl _ less
    · exact iff_of_true rfl ⟨_, rfl, rfl⟩
  stopTx held' i same holds := by
    cases same
    exact holds
  receiver held' i same reads := by
    cases same
    cases reads
    rw [List.length_append]
    rfl

end Owned

/-- The invariant of the window and its threads. -/
def Client.OwnsThreads (c : Client) : Prop := Owned (c.app.map ClientApp.handles) c.agents

theorem handles_applyAgentStatus (app : ClientApp) (update : Update) :
    (app.applyAgentStatus update).handles = app.handles := by
  cases update <;> rfl

namespace Client

variable {c c' : Client} {app : ClientApp}

theorem OwnsThreads.held (owned : c.OwnsThreads) (here : c.app = some app) :
    Owned (some app.handles) c.agents := by
  have held := owned
  rwa [OwnsThreads, here] at held

theorem owned_rule (owned : c.OwnsThreads) (taken : c.Rule c') : c'.OwnsThreads := by
  cases taken with
  | thread i t t' here goes =>
      exact Owned.set owned here goes.stop fun _ => goes.unfinished
  | idle app here =>
      have kept := owned.held here
      exact kept
  | spawns app here free status target => exact (owned.held here).spawn free target
  | takes app here i t update rest reads there queued =>
      rw [OwnsThreads, Option.map_some, handles_applyAgentStatus]
      exact (owned.held here).set there rfl id
  | drained app here i t reads there queued gone => exact (owned.held here).drained
  | stops app here i holds f hushes => exact (owned.held here).hush holds hushes
  | stopsNothing app here holds =>
      have kept := owned.held here
      exact kept
  | releases app here i j t runs there finished holds f hushes =>
      have hushed := (owned.held here).hush holds hushes
      obtain ⟨u, same⟩ : ∃ u, (c.agents.modify j f)[i]? = some u ∧ u.point = .finished := by
        refine ⟨if j = i then f t else t, ?_, ?_⟩
        · rw [List.getElem?_modify, there]
          rfl
        · split
          · rw [hushes.point, finished]
          · exact finished
      exact hushed.release rfl runs same.1 same.2
  | releasesTold app here i t runs there finished holds =>
      have released := (owned.held here).release holds runs there finished
      simpa [OwnsThreads, ClientApp.handles, holds] using released
  | closes app here i holds f hushes => exact ((owned.held here).hush holds hushes).close rfl
  | closesTold app here holds => exact (owned.held here).close holds

theorem owned_start (settings : ClientSettings) : (start settings).OwnsThreads where
  last _ _ never := by cases never
  held _ _ same never := by
    cases same
    cases never
  sender _ _ never := by cases never
  stopTx _ _ same never := by
    cases same
    cases never
  receiver _ _ same never := by
    cases same
    cases never

/-- Never two agents, and each is told to stop unless the window still can. -/
structure OneAgent (c : Client) : Prop where
  one : ∀ (i j : Nat) (t u : AgentThread), c.agents[i]? = some t → c.agents[j]? = some u →
    t.point ≠ .finished → u.point ≠ .finished → i = j
  held : ∀ app, c.app = some app → ∀ (i : Nat) (t : AgentThread), c.agents[i]? = some t →
    t.point ≠ .finished → app.agentThread = some i
  told : ∀ (i : Nat) (t : AgentThread), c.agents[i]? = some t →
    (t.stop.sender = true ↔ ∃ app, c.app = some app ∧ app.stopTx = some i ∧
      app.agentThread = some i)

theorem OwnsThreads.oneAgent (owned : c.OwnsThreads) : c.OneAgent where
  one i j t u here there running alsoRunning := by
    have first := (owned.last i t here running).1
    have second := (owned.last j u there alsoRunning).1
    omega
  held app here i t there running := ((owned.held here).last i t there running).2 app.handles rfl
  told i t here := by
    rw [owned.sender i t here]
    constructor
    · rintro ⟨held, there, holds⟩
      obtain ⟨app, same, rfl⟩ := Option.map_eq_some_iff.mp there
      exact ⟨app, same, holds, owned.stopTx _ i there holds⟩
    · rintro ⟨app, same, holds, -⟩
      exact ⟨app.handles, by rw [same]; rfl, holds⟩

variable {crates : Crates} {parse : String → Option SocketAddr} {settings : ClientSettings}

/-- **One agent**, whatever is clicked and however the threads run: a second is not started before
the first has finished, and one that is out of the window's reach, because of a stop, because it
was joined or because the window is closed, has been told to stop. -/
theorem one_agent {acts : List ClientAct}
    (run : exec (step crates parse) (start settings) acts = some c) : c.OneAgent :=
  (Reached.invariant ⟨acts, run⟩ (owned_start settings)
    fun _ _ _ owned taken => owned_rule owned (step_rule taken)).oneAgent

end Client

/-! ## What is shown -/

def Update.state : Update → ClientConnectionState
  | .connecting => .connecting
  | .connected => .connected
  | .retrying _ => .retrying
  | .stopped => .stopped
  | .failed _ => .error

/-- What is shown of a thread when these updates were taken from it. -/
def shownAfter (taken : List Update) : ClientConnectionState :=
  (taken.getLast?.map Update.state).getD .connecting

/-- What the window shows and reads. -/
structure View where
  connectionState : ClientConnectionState
  statusRx : Option Nat

def ClientApp.view (app : ClientApp) : View := ⟨app.connectionState, app.statusRx⟩

/-- The last thread is the one that is shown, and it is read to its end. -/
structure Shown (v : Option View) (agents : List AgentThread) : Prop where
  faithful : ∀ t ∈ agents, t.Faithful
  fresh : ∀ view, v = some view → agents = [] → view.connectionState = .stopped
  last : ∀ view, v = some view → ∀ (i : Nat) (t : AgentThread), agents[i]? = some t →
    i + 1 = agents.length →
      view.connectionState = .stopped ∨ view.connectionState = shownAfter t.taken
  read : ∀ view, v = some view → view.statusRx = none →
    ∀ (i : Nat) (t : AgentThread), agents[i]? = some t → i + 1 = agents.length →
      t.gone = true ∧ t.queue = []

namespace Shown

variable {v : Option View} {agents : List AgentThread} {view : View}

theorem set {i : Nat} {t t' : AgentThread} (shown : Shown v agents) (here : agents[i]? = some t)
    (goes : t.Goes t') : Shown v (agents.set i t') where
  faithful u inside := by
    rcases List.mem_or_eq_of_mem_set inside with before | rfl
    · exact shown.faithful u before
    · exact goes.faithful (shown.faithful t (List.mem_of_getElem? here))
  fresh w same none := shown.fresh w same (by simpa using none)
  last w same j u there lastOne := by
    rw [List.length_set] at lastOne
    rcases getElem?_set_some there with ⟨rfl, rfl⟩ | ⟨-, before⟩
    · rw [goes.taken]
      exact shown.last w same i t here lastOne
    · exact shown.last w same j u before lastOne
  read w same drained j u there lastOne := by
    rw [List.length_set] at lastOne
    rcases getElem?_set_some there with ⟨rfl, rfl⟩ | ⟨-, before⟩
    · obtain ⟨gone, empty⟩ := shown.read w same drained i t here lastOne
      obtain ⟨still, kept⟩ := goes.hungUp gone
      exact ⟨still, kept.trans empty⟩
    · exact shown.read w same drained j u before lastOne

/-- The stop channels are not shown. -/
theorem hush {i : Nat} {f : AgentThread → AgentThread} (shown : Shown v agents)
    (hushes : Hushes f) : Shown v (agents.modify i f) := by
  have before : ∀ {j : Nat} {u : AgentThread}, (agents.modify i f)[j]? = some u →
      ∃ stop t, agents[j]? = some t ∧ u = { t with stop } := by
    intro j u there
    obtain ⟨t, here, rfl⟩ := getElem?_modify_some there
    refine ⟨(if i = j then f t else t).stop, t, here, ?_⟩
    split
    · rw [← hushes.point t, ← hushes.taken t, ← hushes.queue t]
    · rfl
  refine ⟨fun u inside => ?_, fun w same none => ?_, fun w same j u there lastOne => ?_,
    fun w same drained j u there lastOne => ?_⟩
  · obtain ⟨j, there⟩ := List.mem_iff_getElem?.mp inside
    obtain ⟨stop, t, here, rfl⟩ := before there
    have faithful := shown.faithful t (List.mem_of_getElem? here)
    exact ⟨faithful.silent, faithful.reports, faithful.lastWord, faithful.ended⟩
  · refine shown.fresh w same (List.eq_nil_of_length_eq_zero ?_)
    rw [← List.length_modify f, none]
    rfl
  · rw [List.length_modify] at lastOne
    obtain ⟨stop, t, here, rfl⟩ := before there
    exact shown.last w same j t here lastOne
  · rw [List.length_modify] at lastOne
    obtain ⟨stop, t, here, rfl⟩ := before there
    exact shown.read w same drained j t here lastOne

/-- A stop is shown whatever the thread has reported. -/
theorem stopped (shown : Shown (some view) agents) :
    Shown (some { view with connectionState := .stopped }) agents where
  faithful := shown.faithful
  fresh w same _ := by
    cases same
    rfl
  last w same _ _ _ _ := by
    cases same
    exact .inl rfl
  read w same drained := by
    cases same
    exact shown.read view rfl drained

theorem closed (shown : Shown v agents) : Shown none agents where
  faithful := shown.faithful
  fresh _ never := by cases never
  last _ never := by cases never
  read _ never := by cases never

/-- A new thread is shown as connecting, and nothing of the one before it any more. -/
theorem spawn (shown : Shown v agents) (target : String) (i : Nat) :
    Shown (some ⟨.connecting, some i⟩) (agents ++ [.spawn target]) where
  faithful t inside := by
    rcases List.mem_append.mp inside with before | new
    · exact shown.faithful t before
    · rw [List.mem_singleton.mp new]
      exact AgentThread.faithful_spawn target
  fresh _ _ none := absurd none (by simp)
  last w same j t there lastOne := by
    cases same
    rw [List.length_append, List.length_singleton, Nat.add_right_cancel_iff] at lastOne
    rw [lastOne, List.getElem?_concat_length] at there
    cases there
    exact .inr rfl
  read w same drained := by
    cases same
    cases drained

/-- An update of the last thread is taken and shown. -/
theorem take {i : Nat} {t : AgentThread} {update : Update} {rest : List Update}
    (shown : Shown (some view) agents) (reads : view.statusRx = some i)
    (there : agents[i]? = some t) (lastOne : i + 1 = agents.length)
    (queued : t.queue = update :: rest) :
    Shown (some { view with connectionState := update.state })
      (agents.set i { t with taken := t.taken ++ [update], queue := rest }) where
  faithful u inside := by
    rcases List.mem_or_eq_of_mem_set inside with before | rfl
    · exact shown.faithful u before
    · have faithful := shown.faithful t (List.mem_of_getElem? there)
      have told : AgentThread.told { t with taken := t.taken ++ [update], queue := rest } =
          t.told := by
        simp [AgentThread.told, queued]
      refine ⟨fun target here => ?_, fun target s here => ?_, faithful.lastWord, fun gone => ?_⟩
      · rw [told]
        exact faithful.silent target here
      · rw [told]
        exact faithful.reports target s here
      · rw [told]
        exact faithful.ended gone
  fresh w same none := by
    have few := congrArg List.length none
    rw [List.length_set] at few
    rw [few] at lastOne
    exact absurd lastOne (Nat.succ_ne_zero i)
  last w same j u here also := by
    cases same
    rw [List.length_set] at also
    obtain rfl : i = j := by omega
    rcases getElem?_set_some here with ⟨-, rfl⟩ | ⟨other, -⟩
    · simp [shownAfter]
    · exact absurd rfl other
  read w same drained := by
    cases same
    rw [reads] at drained
    cases drained

theorem drained {i : Nat} {t : AgentThread} (shown : Shown (some view) agents)
    (there : agents[i]? = some t) (lastOne : i + 1 = agents.length) (queued : t.queue = [])
    (gone : t.gone = true) : Shown (some { view with statusRx := none }) agents where
  faithful := shown.faithful
  fresh w same := by
    cases same
    exact shown.fresh view rfl
  last w same := by
    cases same
    exact shown.last view rfl
  read w same _ j u here also := by
    obtain rfl : i = j := by omega
    rw [there] at here
    cases here
    exact ⟨gone, queued⟩

end Shown

namespace Client

variable {c c' : Client} {app : ClientApp}

def ShowsThreads (c : Client) : Prop := Shown (c.app.map ClientApp.view) c.agents

theorem ShowsThreads.shown (view : c.ShowsThreads) (here : c.app = some app) :
    Shown (some app.view) c.agents := by
  have shown := view
  rwa [ShowsThreads, here] at shown

variable {crates : Crates} {parse : String → Option SocketAddr} {settings : ClientSettings}

def windowParse (text : String) : Option SocketAddr :=
  if text = "127.0.0.1:22" then some ⟨.v4 [127, 0, 0, 1], 22⟩
  else some ⟨.v4 [198, 51, 100, 10], 24443⟩

def windowDevice : String := "rssh-11111111111111111111111111111111"

def windowCode : Except String String :=
  encode Pairing.crates windowParse
    { server := "198.51.100.10:24443", serverKey := List.replicate 32 7,
      token := String.ofList (List.replicate 32 'a'), deviceId := some windowDevice }

def windowSettings : ClientSettings where
  pairingCode := windowCode.toOption.getD ""
  deviceId := windowDevice
  target := "127.0.0.1:22"
  configVersion := 2

theorem windowSettings_config :
    clientAgentConfig Pairing.crates windowParse windowSettings = .ok
      { server := trimmed "198.51.100.10:24443", serverKey := List.replicate 32 7,
        token := trimmed (String.ofList (List.replicate 32 'a')),
        deviceId := trimmed windowDevice, target := trimmed "127.0.0.1:22" } := by
  have made : windowCode.toOption.isSome = true := by decide +kernel
  cases encoded : windowCode with
  | error error =>
      rw [encoded] at made
      cases made
  | ok code =>
      have written : windowSettings.pairingCode = code := by
        rw [windowSettings, encoded]
        rfl
      have decoded := decode_encode crates_documented rfl encoded (Pasted.refl code.toList)
      rw [← written] at decoded
      have parsed : windowParse (trimmed windowSettings.target) =
          some ⟨.v4 [127, 0, 0, 1], 22⟩ := by
        decide +kernel
      exact clientAgentConfig_ok decoded (by decide +kernel) (by decide +kernel) (by decide +kernel)
        parsed rfl

/-- The window is started when it has no thread. -/
theorem start_window {c : Client} {app : ClientApp} (here : c.app = some app)
    (outside : app.point = .outside) (free : app.agentThread = none)
    (settings : app.settings = windowSettings) :
    step Pairing.crates windowParse c (.start (.ok ())) =
      some ⟨some ({ app with stopTx := some c.agents.length, agentThread := some c.agents.length,
                              statusRx := some c.agents.length }.setConnectionState .connecting
                                "正在连接服务器…"),
        c.agents ++ [.spawn (trimmed "127.0.0.1:22")]⟩ := by
  simp only [step, here, outside, click, ClientApp.start, free, settings, windowSettings_config,
    Option.isSome_none, Bool.false_eq_true, if_false]

/-- An agent whose first attempt fails is stopped, and started again before and after it ends. -/
def windowActs : List ClientAct :=
  [.runtime 0 (.ok ()), .agent 0 .failed "refused", .poll, .tryRecv, .tryRecv, .tryRecv,
    .checkFinished, .stop, .start (.ok ()), .agent 0 .stop "", .agent 0 .returns "", .returns 0,
    .finishes 0, .poll, .tryRecv, .tryRecv, .checkFinished]

def windowStarted : Client :=
  ⟨some { settings := windowSettings, status := "正在连接服务器…", connectionState := .connecting,
          stopTx := some 0, agentThread := some 0, statusRx := some 0, point := .outside },
    [.spawn (trimmed "127.0.0.1:22")]⟩

def windowEnd : Client :=
  (exec (step Pairing.crates windowParse) windowStarted windowActs).get (by decide +kernel)

/-- The whole run, with a second thread at its end. -/
theorem window_run : ∃ c app, c.app = some app ∧ c.agents.length = 2 ∧
    exec (step Pairing.crates windowParse) (start windowSettings)
      (.start (.ok ()) :: windowActs ++ [.start (.ok ())]) = some c := by
  have first : step Pairing.crates windowParse (start windowSettings) (.start (.ok ())) =
      some windowStarted :=
    @start_window (start windowSettings) (.new windowSettings) rfl rfl rfl rfl
  have ran : exec (step Pairing.crates windowParse) windowStarted windowActs = some windowEnd :=
    (Option.some_get _).symm
  have there : windowEnd.app.isSome = true := by decide +kernel
  obtain ⟨app, here⟩ := Option.isSome_iff_exists.mp there
  have joined : (windowEnd.app.all fun app =>
      app.point = .outside && app.agentThread = none && app.settings = windowSettings) = true := by
    decide +kernel
  simp only [here, Option.all_some, Bool.and_eq_true, decide_eq_true_eq] at joined
  obtain ⟨⟨outside, free⟩, settings⟩ := joined
  have again := start_window here outside free settings
  refine ⟨_, _, rfl, ?_, exec_snoc (Option.bind_eq_some_iff.mpr ⟨_, first, ran⟩) again⟩
  have one : windowEnd.agents.length = 1 := by decide +kernel
  rw [List.length_append, one]
  rfl

theorem one_agent_window : ∃ c : Client, c.agents.length = 2 ∧ c.OneAgent := by
  obtain ⟨c, app, -, two, run⟩ := window_run
  exact ⟨c, two, one_agent run⟩

end Client

end RustSsh.Desktop
