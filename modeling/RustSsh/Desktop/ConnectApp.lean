/-
# Desktop.ConnectApp -- the connect window and its lookups

`ConnectApp` of `src/desktop.rs` without its layout: the start of each `update`, the buttons, the
list of devices, the editor of host names, the tray of the Windows build and `Drop`, and the threads
that `refresh` spawns.  A thread runs `list_devices` of `src/connect.rs`; its result comes back
through a channel, and the window can call it off through a oneshot channel.  The window, the tray's
menu, the threads and the clock take turns in any order.

`one_lookup`: there is never more than one lookup under way, an open window waits for it, says so
unless the tray's menu was asked to close it, and never calls it off, and the relay is asked no more
often than every ten seconds and at every click.
`shows_last_list`: what is shown and can be selected is the list that a relay sent to the last
lookup that got one.  `ssh_reaches_listed`: a host that the buttons put into the configuration of
`ssh` is that of a device which a relay has listed, and `ssh HOST` connects to it.
-/
import RustSsh.Desktop.ClientApp
import RustSsh.Desktop.SshHost

namespace RustSsh.Desktop

open RustSsh.Theory RustSsh.Protocol RustSsh.Server RustSsh.Agent RustSsh.Pairing

set_option autoImplicit false

/-! ## A lookup -/

structure ListConfig where
  server : String
  serverKey : Bytes
  token : String
  deriving DecidableEq, Repr

/-- Where the thread of a lookup is. -/
inductive LookupPoint where
  /-- before `Runtime::new` -/
  | spawned
  /-- in `list_devices`, until the `Hello` is written -/
  | connecting
  /-- until it is answered -/
  | greeting
  /-- until the `ListRequest` is written and answered -/
  | listing
  /-- the closure has returned, and its `sender` is dropped -/
  | done
  deriving DecidableEq, Repr

inductive LookupEvent where
  /-- `Runtime::new` -/
  | runtime (made : Except String Unit)
  | greeted
  /-- a frame is read in time -/
  | reply (m : Message)
  /-- another error of `list_devices`, or one of its timeouts -/
  | fails (error : String)
  /-- `cancel_rx` resolves -/
  | cancelled
  | panics

abbrev LookupResult := Except String (List Text)

/-- A thread of `refresh`, with its two channels. -/
structure Lookup where
  config : ListConfig
  point : LookupPoint
  cancel : Oneshot Unit
  /-- the frames it has read -/
  read : List Message
  /-- a result that the window has not taken, and one that it has -/
  queue : Option LookupResult
  taken : Option LookupResult
  deriving DecidableEq, Repr

/-- What `try_recv` finds. -/
inductive Received where
  | value (result : LookupResult)
  | empty
  | disconnected

namespace Lookup

def spawn (config : ListConfig) : Lookup := ⟨config, .spawned, .channel, [], none, none⟩

/-- The closure sends its result and returns, and `cancel_rx` is dropped. -/
def answer (l : Lookup) (result : LookupResult) : Lookup :=
  { l with point := .done, cancel := l.cancel.dropReceiver.1, queue := some result }

/-- Where `select!` runs. -/
def selecting (l : Lookup) : Bool :=
  match l.point with
  | .connecting | .greeting | .listing => true
  | .spawned | .done => false

variable (printable : Char → Bool)

def reply (l : Lookup) (m : Message) : Option Lookup :=
  let l' := { l with read := l.read ++ [m] }
  match l.point with
  | .greeting =>
      match m with
      | .helloOk _ => some { l' with point := .listing }
      | other => some (l'.answer (.error ("relay did not accept hello: " ++ other.debug printable)))
  | .listing =>
      match m with
      | .deviceList devices =>
          some (l'.answer (.ok (devices.map fun device => device.deviceId.toList)))
      | other =>
          some (l'.answer
            (.error ("unexpected relay device-list response: " ++ other.debug printable)))
  | .spawned | .connecting | .done => none

def next (l : Lookup) : LookupEvent → Option Lookup
  | .runtime made =>
      if l.point = .spawned then
        match made with
        | .ok () => some { l with point := .connecting }
        | .error error => some (l.answer (.error error))
      else none
  | .greeted => if l.point = .connecting then some { l with point := .greeting } else none
  | .reply m => l.reply printable m
  | .fails error => if l.selecting then some (l.answer (.error error)) else none
  | .cancelled =>
      if l.selecting then
        match l.cancel.poll with
        | .pending => none
        | .ready () | .closed => some (l.answer (.error "刷新已取消"))
      else none
  | .panics =>
      if l.point = .done then none
      else some { l with point := .done, cancel := l.cancel.dropReceiver.1 }

def tryRecv (l : Lookup) : Received :=
  match l.queue with
  | some result => .value result
  | none => if l.point = .done then .disconnected else .empty

def take (l : Lookup) (result : LookupResult) : Lookup :=
  { l with queue := none, taken := some result }

/-- The window drops its sender of the cancellation. -/
def release (l : Lookup) : Lookup := { l with cancel := l.cancel.dropSender }

/-- The window cancels. -/
def tell (l : Lookup) : Lookup := { l with cancel := (l.cancel.send ()).1 }

end Lookup

/-! ## The window -/

structure HostAliasEditor where
  deviceId : Text
  value : Text
  deriving DecidableEq, Repr

/-- What the tray's handlers have stored, until `poll_tray` takes it. -/
structure TraySignals where
  showMain : Bool
  quit : Bool
  deriving DecidableEq, Repr

/-- A handle is the number of the lookup it belongs to, an instant is in milliseconds; `tray` says
whether there is one. -/
structure ConnectApp where
  settings : ConnectSettings
  devices : List Text
  selectedDevice : Option Text
  status : String
  connectionState : ClientConnectionState
  refreshRx : Option Nat
  refreshCancel : Option Nat
  lastRefresh : Nat
  firstUpdate : Bool
  hostEditor : Option HostAliasEditor
  tray : Bool
  allowClose : Bool

/-- What a button finds outside: all of a `Click` but what the window holds. -/
structure Outside where
  button : Button
  saved : Except String Unit
  executable : Except String Text
  written : Except String Unit
  configPath : Except String ConfigPath
  faults : Faults

/-- Dropping a sender that is held. -/
def forget (held : Option Nat) (lookups : List Lookup) : List Lookup :=
  match held with
  | some i => lookups.modify i Lookup.release
  | none => lookups

namespace ConnectApp

/-- `settings` is what `load_settings` returned. -/
def new (settings : ConnectSettings) (tray : Bool) (now : Nat) : ConnectApp where
  settings := settings
  devices := []
  selectedDevice := none
  status := "请粘贴配置码"
  connectionState := .stopped
  refreshRx := none
  refreshCancel := none
  lastRefresh := now
  firstUpdate := true
  hostEditor := none
  tray := tray
  allowClose := false

def setConnectionState (app : ConnectApp) (state : ClientConnectionState) (status : String) :
    ConnectApp :=
  { app with connectionState := state, status }

/-- `saved` is what `save_settings` returned. -/
def save (app : ConnectApp) (saved : Except String Unit) : ConnectApp :=
  match saved with
  | .ok () => { app with status := "配置已保存" }
  | .error error => { app with status := "保存失败：" ++ error }

section

variable (crates : Crates) (address : String → Option SocketAddr)

def refresh (app : ConnectApp) (lookups : List Lookup) (saved : Except String Unit) :
    ConnectApp × List Lookup :=
  if app.refreshRx.isSome then (app, lookups)
  else
    match decode crates address app.settings.pairingCode with
    | .error error => (app.setConnectionState .error ("配置码无效：" ++ error), lookups)
    | .ok pairing =>
        match saved with
        | .error error => (app.setConnectionState .error ("保存配置失败：" ++ error), lookups)
        | .ok () =>
            let i := lookups.length
            let config : ListConfig := ⟨pairing.server, pairing.serverKey, pairing.token⟩
            ({ app with refreshCancel := some i, refreshRx := some i }.setConnectionState
                .connecting "正在查找在线设备…",
              forget app.refreshCancel lookups ++ [.spawn config])

/-- A result has come, or none will: the window lets the lookup go. -/
def settle (app : ConnectApp) (now : Nat) (state : ClientConnectionState) (status : String) :
    ConnectApp :=
  { { app with refreshRx := none, refreshCancel := none }.setConnectionState state status with
    lastRefresh := now }

def pollRefresh (app : ConnectApp) (lookups : List Lookup) (now : Nat) :
    Option (ConnectApp × List Lookup) :=
  match app.refreshRx with
  | none => some (app, lookups)
  | some i =>
      match lookups[i]? with
      | none => none
      | some l =>
          match l.tryRecv with
          | .value result =>
              let lookups := forget app.refreshCancel (lookups.set i (l.take result))
              match result with
              | .ok devices =>
                  let selectedDevice := app.selectedDevice.filter fun id => devices.contains id
                  some ({ app with devices, selectedDevice }.settle now .connected
                      s!"已找到 {devices.length} 台在线设备", lookups)
              | .error error => some (app.settle now .error ("查找失败：" ++ error), lookups)
          | .empty => some (app, lookups)
          | .disconnected =>
              some (app.settle now .error "查找线程已退出", forget app.refreshCancel lookups)

/-- The pairing code is not blank. -/
def coded (app : ConnectApp) : Bool := !(trimmed app.settings.pairingCode).isEmpty

/-- The two `swap`s of `poll_tray`. -/
def takeSignal (app : ConnectApp) (signals : TraySignals) : ConnectApp × TraySignals :=
  if signals.quit then
    ({ app with allowClose := true }.setConnectionState .stopped "正在关闭…",
      { signals with quit := false })
  else (app, { signals with showMain := false })

/-- What the viewport is told to do is left out: a window may close at any time. -/
def pollTray (app : ConnectApp) (signals : TraySignals) (closeRequested : Bool) :
    ConnectApp × TraySignals :=
  let (app, signals) := app.takeSignal signals
  if closeRequested && !app.allowClose && app.tray then
    ({ app with status := "窗口已隐藏到托盘，Connect 仍可用于 SSH/VS Code" }, signals)
  else (app, signals)

/-- `poll_refresh`, and a `refresh` if it is time; `saved` is for that. -/
def lookUp (app : ConnectApp) (lookups : List Lookup) (now : Nat) (saved : Except String Unit) :
    Option (ConnectApp × List Lookup) :=
  (app.pollRefresh lookups now).map fun (app, lookups) =>
    if app.firstUpdate then
      let app := { app with firstUpdate := false }
      if app.coded then app.refresh crates address lookups saved else (app, lookups)
    else if app.refreshRx.isNone && decide (10000 ≤ now - app.lastRefresh) && app.coded then
      app.refresh crates address lookups saved
    else (app, lookups)

/-- `update` before it lays the window out. -/
def update (windows : Bool) (app : ConnectApp) (lookups : List Lookup) (signals : TraySignals)
    (now : Nat) (closeRequested : Bool) (saved : Except String Unit) :
    Option (ConnectApp × List Lookup × TraySignals) :=
  let (app, signals) := if windows then app.pollTray signals closeRequested else (app, signals)
  (app.lookUp crates address lookups now saved).map fun (app, lookups) => (app, lookups, signals)

end

/-- The editor's save button. -/
def saveHostEditor (app : ConnectApp) (editor : HostAliasEditor) (saved : Except String Unit) :
    ConnectApp :=
  let (hostAliases, status) :=
    saveHostAlias saved app.settings.hostAliases editor.deviceId editor.value
  { app with settings := { app.settings with hostAliases }, status, hostEditor := none }

def click (app : ConnectApp) (out : Outside) : Click where
  button := out.button
  settings := app.settings
  selectedDevice := app.selectedDevice
  saved := out.saved
  executable := out.executable
  written := out.written
  configPath := out.configPath
  faults := out.faults

/-- `Drop`. -/
def drop (app : ConnectApp) (lookups : List Lookup) : List Lookup :=
  match app.refreshCancel with
  | some i => lookups.modify i Lookup.tell
  | none => lookups

end ConnectApp

inductive ConnectAct where
  | elapse (ms : Nat)
  | lookup (i : Nat) (e : LookupEvent)
  /-- the tray, or its menu -/
  | trayShow
  | trayQuit
  | update (closeRequested : Bool) (saved : Except String Unit)
  | refresh (saved : Except String Unit)
  | save (saved : Except String Unit)
  /-- the text fields -/
  | edit (pairingCode user : String)
  | select (device : Text)
  | copyId (device : Text)
  | openEditor (device : Text)
  | typeAlias (value : Text)
  | saveAlias (saved : Except String Unit)
  | cancelEditor
  | install (out : Outside)
  | close

/-- The window, until it is closed, every lookup it has started, the files of its buttons, and the
tray. -/
structure Connect where
  app : Option ConnectApp
  lookups : List Lookup
  desk : Desk
  signals : TraySignals
  clock : Nat

namespace Connect

/-- `desk` is what earlier windows have left. -/
def start (settings : ConnectSettings) (tray : Bool) (desk : Desk) : Connect :=
  ⟨some (.new settings tray 0), [], desk, ⟨false, false⟩, 0⟩

section

variable (crates : Crates) (address : String → Option SocketAddr) (printable : Char → Bool)
  (windows : Bool) (setupPath : Text)

/-- What the open window does. -/
def windowStep (c : Connect) (app : ConnectApp) : ConnectAct → Option Connect
  | .update closeRequested saved =>
      (app.update crates address windows c.lookups c.signals c.clock closeRequested saved).map
        fun (app, lookups, signals) => { c with app := some app, lookups, signals }
  | .refresh saved =>
      let (app, lookups) := app.refresh crates address c.lookups saved
      some { c with app := some app, lookups }
  | .save saved => some { c with app := some (app.save saved) }
  | .edit pairingCode user =>
      some { c with app := some { app with settings := { app.settings with pairingCode, user } } }
  | .select device =>
      if app.devices.contains device then
        some { c with app := some { app with selectedDevice := some device } }
      else none
  | .copyId device =>
      if app.devices.contains device then
        some { c with app := some { app with status := "设备 ID 已复制" } }
      else none
  | .openEditor device =>
      if app.devices.contains device then
        some { c with app := some { app with
          hostEditor := some ⟨device, hostAliasFor app.settings.hostAliases device⟩ } }
      else none
  | .typeAlias value =>
      app.hostEditor.map fun editor =>
        { c with app := some { app with hostEditor := some { editor with value } } }
  | .saveAlias saved =>
      app.hostEditor.map fun editor => { c with app := some (app.saveHostEditor editor saved) }
  | .cancelEditor =>
      app.hostEditor.map fun _ => { c with app := some { app with hostEditor := none } }
  | .install out =>
      -- the buttons are enabled when a device is selected
      if app.selectedDevice.isSome then
        (c.desk.step crates address windows setupPath (app.click out)).map fun desk =>
          { c with app := some { app with status := desk.status }, desk }
      else none
  | .close => some { c with app := none, lookups := app.drop c.lookups }
  | .elapse _ | .lookup _ _ | .trayShow | .trayQuit => none

def step (c : Connect) : ConnectAct → Option Connect
  | .elapse ms => some { c with clock := c.clock + ms }
  | .lookup i e =>
      match c.lookups[i]? with
      | none => none
      | some l => (l.next printable e).map fun l => { c with lookups := c.lookups.set i l }
  | .trayShow => if windows then some { c with signals := { c.signals with showMain := true } } else none
  | .trayQuit => if windows then some { c with signals := { c.signals with quit := true } } else none
  | act =>
      match c.app with
      | none => none
      | some app => c.windowStep crates address windows setupPath app act

end

end Connect

/-! ## A lookup's result -/

namespace Lookup

/-- The relay has sent this list to the lookup, and nothing else but its welcome. -/
def Listed (l : Lookup) (devices : List Text) : Prop :=
  ∃ features infos, l.read = [.helloOk features, .deviceList infos] ∧
    infos.map (fun info : DeviceInfo => info.deviceId.toList) = devices

/-- What a lookup has read and sent. -/
structure Honest (l : Lookup) : Prop where
  silent : l.point = .spawned ∨ l.point = .connecting ∨ l.point = .greeting → l.read = []
  greeted : l.point = .listing → ∃ features, l.read = [.helloOk features]
  unsent : l.point ≠ .done → l.queue = none ∧ l.taken = none
  listed : ∀ devices, l.queue = some (.ok devices) ∨ l.taken = some (.ok devices) → l.Listed devices

/-- A step of its thread. -/
structure Goes (l l' : Lookup) : Prop where
  unfinished : l.point ≠ .done
  taken : l'.taken = l.taken
  sender : l'.cancel.sender = l.cancel.sender
  untold : l.cancel.value = none → l'.cancel.value = none
  honest : l.Honest → l'.Honest

theorem honest_spawn (config : ListConfig) : (spawn config).Honest where
  silent _ := rfl
  greeted here := by cases here
  unsent _ := ⟨rfl, rfl⟩
  listed devices sent := by rcases sent with never | never <;> cases never

/-- The window takes the result. -/
theorem Honest.take {l : Lookup} {result : LookupResult} (honest : l.Honest)
    (queued : l.queue = some result) : (l.take result).Honest where
  silent := honest.silent
  greeted := honest.greeted
  unsent running := by
    rw [(honest.unsent running).1] at queued
    cases queued
  listed devices sent := by
    rcases sent with never | taken
    · cases never
    · exact honest.listed devices (.inl (queued.trans taken))

/-- Its sender or its receiver of the cancellation does not matter. -/
theorem Honest.cancel {l : Lookup} (honest : l.Honest) (cancel : Oneshot Unit) :
    Honest { l with cancel } :=
  ⟨honest.silent, honest.greeted, honest.unsent, honest.listed⟩

/-- The thread goes on without a result. -/
theorem goes_on {l : Lookup} {point : LookupPoint} (unfinished : l.point ≠ .done)
    (read : List Message)
    (silent : l.Honest → point = .spawned ∨ point = .connecting ∨ point = .greeting → read = [])
    (greeted : l.Honest → point = .listing → ∃ features, read = [.helloOk features]) :
    l.Goes { l with point, read } := by
  refine ⟨unfinished, rfl, rfl, id, fun honest => ⟨silent honest, greeted honest,
    fun _ => honest.unsent unfinished, fun devices sent => ?_⟩⟩
  obtain ⟨queue, taken⟩ := honest.unsent unfinished
  rcases sent with sent | sent
  · rw [queue] at sent
    cases sent
  · rw [taken] at sent
    cases sent

/-- The thread ends, with a result or by a panic. -/
theorem goes_ended {l : Lookup} (unfinished : l.point ≠ .done) (read : List Message)
    (queue : Option LookupResult)
    (listed : l.Honest → ∀ devices, queue = some (.ok devices) → Listed { l with read } devices) :
    l.Goes { l with point := .done, cancel := l.cancel.dropReceiver.1, read, queue } := by
  refine ⟨unfinished, rfl, rfl, fun _ => rfl, fun honest => ⟨?_, ?_, ?_, fun devices sent => ?_⟩⟩
  · rintro (never | never | never) <;> cases never
  · intro never
    cases never
  · intro never
    exact absurd rfl never
  · rcases sent with sent | sent
    · exact listed honest devices sent
    · rw [(honest.unsent unfinished).2] at sent
      cases sent

theorem goes_failed {l : Lookup} (unfinished : l.point ≠ .done) (read : List Message)
    (error : String) : l.Goes (answer { l with read } (.error error)) :=
  goes_ended unfinished read (some (.error error)) fun _ _ never => by cases never

variable {printable : Char → Bool} {l l' : Lookup}

theorem goes_reply {m : Message} (step : l.reply printable m = some l') : l.Goes l' := by
  unfold reply at step
  simp only at step
  split at step
  · rename_i here
    have unfinished : l.point ≠ .done := by simp [here]
    split at step
    · rename_i features
      cases step
      refine goes_on unfinished _ (fun _ never => by simp at never) fun honest _ => ?_
      exact ⟨features, by rw [honest.silent (by simp [here]), List.nil_append]⟩
    · cases step
      exact goes_failed unfinished _ _
  · rename_i here
    have unfinished : l.point ≠ .done := by simp [here]
    split at step
    · rename_i infos
      cases step
      refine goes_ended unfinished _ _ fun honest devices sent => ?_
      obtain ⟨features, greeted⟩ := honest.greeted here
      cases sent
      exact ⟨features, infos, by simp [greeted], rfl⟩
    · cases step
      exact goes_failed unfinished _ _
  all_goals cases step

theorem selecting_unfinished (selecting : l.selecting = true) : l.point ≠ .done := by
  intro here
  simp [Lookup.selecting, here] at selecting

theorem next_goes {e : LookupEvent} (step : l.next printable e = some l') : l.Goes l' := by
  cases e with
  | runtime made =>
      simp only [next] at step
      split at step
      · rename_i here
        have unfinished : l.point ≠ .done := by simp [here]
        split at step
        · cases step
          exact goes_on unfinished l.read (fun honest _ => honest.silent (.inl here))
            fun _ never => by cases never
        · cases step
          exact goes_failed unfinished l.read _
      · cases step
  | greeted =>
      simp only [next] at step
      split at step
      · rename_i here
        cases step
        exact goes_on (by simp [here]) l.read
          (fun honest _ => honest.silent (.inr (.inl here))) fun _ never => by cases never
      · cases step
  | reply m => exact goes_reply step
  | fails error =>
      simp only [next] at step
      split at step
      · rename_i selecting
        cases step
        exact goes_failed (selecting_unfinished selecting) l.read error
      · cases step
  | cancelled =>
      simp only [next] at step
      split at step
      · rename_i selecting
        have unfinished := selecting_unfinished selecting
        split at step
        · cases step
        · cases step
          exact goes_failed unfinished l.read _
        · cases step
          exact goes_failed unfinished l.read _
      · cases step
  | panics =>
      simp only [next] at step
      split at step
      · cases step
      · rename_i unfinished
        cases step
        exact goes_ended unfinished l.read l.queue fun honest devices sent =>
          honest.listed devices (.inl sent)

end Lookup

/-! ## What a step can be -/

/-- The clicks that ask for a lookup. -/
def ConnectAct.clicks : ConnectAct → Nat
  | .refresh _ => 1
  | _ => 0

/-- Why the window starts a lookup, and what `first_update` is then. -/
inductive Asked (app : ConnectApp) (clock : Nat) (act : ConnectAct) : Bool → Prop where
  | click (clicked : act.clicks = 1) : Asked app clock act app.firstUpdate
  | first (new : app.firstUpdate = true) : Asked app clock act false
  | due (late : app.lastRefresh + 10000 ≤ clock) : Asked app clock act app.firstUpdate

namespace Connect

variable (crates : Crates) (address : String → Option SocketAddr) (windows : Bool)
  (setupPath : Text)

/-- What a step is made of; texts, settings and the editor are left open. -/
inductive Rule (c : Connect) (act : ConnectAct) : Connect → Prop where
  | elapses (ms : Nat) : Rule c act { c with clock := c.clock + ms }
  | lookup (i : Nat) (l l' : Lookup) (here : c.lookups[i]? = some l) (goes : l.Goes l') :
      Rule c act { c with lookups := c.lookups.set i l' }
  | signals (signals : TraySignals)
      (asked : signals.quit = true → c.signals.quit = true ∨ windows = true ∧ act = .trayQuit) :
      Rule c act { c with signals }
  | quits (app : ConnectApp) (here : c.app = some app) (asked : c.signals.quit = true)
      (status : String) :
      Rule c act { c with
        app := some { app with allowClose := true, connectionState := .stopped, status }
        signals := { c.signals with quit := false } }
  /-- nothing but what the rules leave open -/
  | idle (app : ConnectApp) (here : c.app = some app) (settings : ConnectSettings)
      (status : String) (selectedDevice : Option Text) (hostEditor : Option HostAliasEditor)
      (firstUpdate : Bool)
      (selected : ∀ d, selectedDevice = some d → d ∈ app.devices ∨ app.selectedDevice = some d)
      (seen : firstUpdate = true → app.firstUpdate = true) :
      Rule c act { c with
        app := some { app with settings, status, selectedDevice, hostEditor, firstUpdate } }
  /-- `refresh` comes to an error -/
  | refuses (app : ConnectApp) (here : c.app = some app) (free : app.refreshRx = none)
      (status : String) (firstUpdate : Bool) (seen : firstUpdate = true → app.firstUpdate = true) :
      Rule c act { c with
        app := some { app with connectionState := .error, status, firstUpdate } }
  | spawns (app : ConnectApp) (here : c.app = some app) (free : app.refreshRx = none)
      (firstUpdate : Bool) (asked : Asked app c.clock act firstUpdate) (status : String)
      (config : ListConfig) :
      Rule c act { c with
        app := some { app with
          refreshCancel := some c.lookups.length
          refreshRx := some c.lookups.length
          connectionState := .connecting
          status
          firstUpdate }
        lookups := forget app.refreshCancel c.lookups ++ [.spawn config] }
  | lists (app : ConnectApp) (here : c.app = some app) (i : Nat) (l : Lookup)
      (reads : app.refreshRx = some i) (there : c.lookups[i]? = some l) (devices : List Text)
      (queued : l.queue = some (.ok devices)) (status : String) :
      Rule c act { c with
        app := some ({ app with
          devices
          selectedDevice := app.selectedDevice.filter fun id => devices.contains id }.settle
            c.clock .connected status)
        lookups := forget app.refreshCancel (c.lookups.set i (l.take (.ok devices))) }
  | errs (app : ConnectApp) (here : c.app = some app) (i : Nat) (l : Lookup)
      (reads : app.refreshRx = some i) (there : c.lookups[i]? = some l) (error : String)
      (queued : l.queue = some (.error error)) (status : String) :
      Rule c act { c with
        app := some (app.settle c.clock .error status)
        lookups := forget app.refreshCancel (c.lookups.set i (l.take (.error error))) }
  /-- `Disconnected` -/
  | hangs (app : ConnectApp) (here : c.app = some app) (i : Nat) (l : Lookup)
      (reads : app.refreshRx = some i) (there : c.lookups[i]? = some l) (gone : l.point = .done)
      (status : String) :
      Rule c act { c with
        app := some (app.settle c.clock .error status)
        lookups := forget app.refreshCancel c.lookups }
  | installs (app : ConnectApp) (here : c.app = some app) (out : Outside) (asked : act = .install out)
      (desk : Desk)
      (clicks : c.desk.step crates address windows setupPath (app.click out) = some desk) :
      Rule c act { c with app := some { app with status := desk.status }, desk }
  | closes (app : ConnectApp) (here : c.app = some app) :
      Rule c act { c with app := none, lookups := app.drop c.lookups }

variable {crates address windows setupPath} {printable : Char → Bool} {c c' : Connect}
  {app : ConnectApp}

/-- All but the status line, the settings and the editor stays. -/
theorem idle_settings (here : c.app = some app) (act : ConnectAct) (settings : ConnectSettings)
    (status : String) (hostEditor : Option HostAliasEditor) :
    c.Rule crates address windows setupPath act
      { c with app := some { app with settings, status, hostEditor } } :=
  .idle app here settings status app.selectedDevice hostEditor app.firstUpdate (fun _ => .inr) id

theorem refresh_rule (here : c.app = some app) (saved : Except String Unit) (act : ConnectAct)
    (firstUpdate : Bool) (seen : firstUpdate = true → app.firstUpdate = true)
    (asked : app.refreshRx = none → Asked app c.clock act firstUpdate) :
    c.Rule crates address windows setupPath act
      { c with
        app := some ({ app with firstUpdate }.refresh crates address c.lookups saved).1
        lookups := ({ app with firstUpdate }.refresh crates address c.lookups saved).2 } := by
  unfold ConnectApp.refresh
  split
  · exact .idle app here app.settings app.status app.selectedDevice app.hostEditor firstUpdate
      (fun _ => .inr) seen
  · rename_i unasked
    have free : app.refreshRx = none := Option.not_isSome_iff_eq_none.mp unasked
    split
    · exact .refuses app here free _ firstUpdate seen
    · split
      · exact .refuses app here free _ firstUpdate seen
      · exact .spawns app here free firstUpdate (asked free) _ _

theorem pollRefresh_rule {app' : ConnectApp} {lookups : List Lookup} (here : c.app = some app)
    (act : ConnectAct)
    (polled : app.pollRefresh c.lookups c.clock = some (app', lookups)) :
    c.Rule crates address windows setupPath act { c with app := some app', lookups } := by
  unfold ConnectApp.pollRefresh at polled
  split at polled
  · cases polled
    exact idle_settings here act app.settings app.status app.hostEditor
  · rename_i i reads
    split at polled
    · cases polled
    · rename_i l there
      split at polled
      · rename_i result received
        have queued : l.queue = some result := by
          unfold Lookup.tryRecv at received
          split at received
          · rename_i queued
            cases received
            exact queued
          · split at received <;> cases received
        split at polled
        · cases polled
          exact .lists app here i l reads there _ queued _
        · cases polled
          exact .errs app here i l reads there _ queued _
      · cases polled
        exact idle_settings here act app.settings app.status app.hostEditor
      · rename_i received
        have gone : l.point = .done := by
          unfold Lookup.tryRecv at received
          split at received
          · cases received
          · split at received
            · assumption
            · cases received
        cases polled
        exact .hangs app here i l reads there gone _

/-- What a lookup has sent, then another lookup if it is time. -/
theorem lookUp_rules {app' : ConnectApp} {lookups : List Lookup} {saved : Except String Unit}
    (here : c.app = some app) (act : ConnectAct)
    (looked : app.lookUp crates address c.lookups c.clock saved = some (app', lookups)) :
    ∃ mid, c.Rule crates address windows setupPath act mid ∧
      mid.Rule crates address windows setupPath act { c with app := some app', lookups } := by
  obtain ⟨⟨polledApp, polledLookups⟩, polled, done⟩ := Option.map_eq_some_iff.mp looked
  refine ⟨{ c with app := some polledApp, lookups := polledLookups },
    pollRefresh_rule here act polled, ?_⟩
  simp only at done
  split at done
  · rename_i first
    split at done
    · have rule := @refresh_rule crates address windows setupPath
        { c with app := some polledApp, lookups := polledLookups } polledApp rfl saved act false
        (fun never => by cases never) fun _ => .first first
      rw [done] at rule
      exact rule
    · cases done
      exact .idle polledApp rfl polledApp.settings polledApp.status polledApp.selectedDevice
        polledApp.hostEditor false (fun _ => .inr) fun never => by cases never
  · split at done
    · rename_i due
      simp only [Bool.and_eq_true, decide_eq_true_eq] at due
      have late : polledApp.lastRefresh + 10000 ≤ c.clock := by omega
      have rule := @refresh_rule crates address windows setupPath
        { c with app := some polledApp, lookups := polledLookups } polledApp rfl saved act
        polledApp.firstUpdate id fun _ => .due late
      have same : { polledApp with firstUpdate := polledApp.firstUpdate }.refresh crates address
          polledLookups saved = (app', lookups) := done
      rw [same] at rule
      exact rule
    · cases done
      exact idle_settings rfl act app'.settings app'.status app'.hostEditor

variable (crates address windows setupPath) in
/-- A step that asks for no lookup by itself can be several rules, one behind the other. -/
def Rules (act : ConnectAct) : Connect → Connect → Prop :=
  Relation.ReflTransGen fun c c' => c.Rule crates address windows setupPath act c'

theorem takeSignal_rule (here : c.app = some app) (act : ConnectAct) :
    c.Rule crates address windows setupPath act
      { c with
        app := some (app.takeSignal c.signals).1, signals := (app.takeSignal c.signals).2 } := by
  unfold ConnectApp.takeSignal
  split
  · rename_i asked
    exact .quits app here asked _
  · have unset := @Rule.signals crates address windows setupPath c act
      { c.signals with showMain := false } .inl
    have same : { c with signals := { c.signals with showMain := false } } =
        { c with app := some app, signals := { c.signals with showMain := false } } := by
      rw [← here]
    exact same ▸ unset

theorem pollTray_rules (here : c.app = some app) (act : ConnectAct) (closeRequested : Bool) :
    Rules crates address windows setupPath act c
      { c with
        app := some (app.pollTray c.signals closeRequested).1
        signals := (app.pollTray c.signals closeRequested).2 } := by
  have taken : Rules crates address windows setupPath act c _ := .single (takeSignal_rule here act)
  unfold ConnectApp.pollTray
  simp only
  split
  · exact taken.tail (idle_settings rfl act (app.takeSignal c.signals).1.settings _
      (app.takeSignal c.signals).1.hostEditor)
  · exact taken

/-- The start of `update`: the tray, then the lookups. -/
theorem update_rules {app' : ConnectApp} {lookups : List Lookup} {signals : TraySignals}
    {closeRequested : Bool} {saved : Except String Unit} (here : c.app = some app) (act : ConnectAct)
    (updated : app.update crates address windows c.lookups c.signals c.clock closeRequested saved =
      some (app', lookups, signals)) :
    Rules crates address windows setupPath act c { c with app := some app', lookups, signals } := by
  unfold ConnectApp.update at updated
  obtain ⟨mid, taken, told⟩ : ∃ mid : ConnectApp × TraySignals,
      Rules crates address windows setupPath act c
        { c with app := some mid.1, signals := mid.2 } ∧
      (if windows then app.pollTray c.signals closeRequested else (app, c.signals)) = mid := by
    split
    · exact ⟨_, pollTray_rules here act closeRequested, rfl⟩
    · refine ⟨(app, c.signals), ?_, rfl⟩
      have same : { c with app := some app, signals := c.signals } = c := by rw [← here]
      rw [same]
      exact .refl
  rw [told] at updated
  obtain ⟨⟨lookedApp, lookedUp⟩, looked, done⟩ := Option.map_eq_some_iff.mp updated
  cases done
  obtain ⟨polled, first, second⟩ := @lookUp_rules crates address windows setupPath
    { c with app := some mid.1, signals := mid.2 } mid.1 _ _ saved rfl act looked
  exact (taken.tail first).tail second

end Connect

namespace Connect

variable {crates : Crates} {address : String → Option SocketAddr} {windows : Bool} {setupPath : Text}
  {printable : Char → Bool} {c c' : Connect} {app : ConnectApp}

theorem windowStep_rule {act : ConnectAct} (here : c.app = some app)
    (taken : c.windowStep crates address windows setupPath app act = some c') :
    c.Rule crates address windows setupPath act c' ∨
      act.clicks = 0 ∧ Rules crates address windows setupPath act c c' := by
  cases act with
  | update closeRequested saved =>
      obtain ⟨⟨app', lookups, signals⟩, updated, rfl⟩ := Option.map_eq_some_iff.mp taken
      exact .inr ⟨rfl, update_rules here _ updated⟩
  | refresh saved =>
      cases taken
      exact .inl (refresh_rule here saved _ app.firstUpdate id fun _ => .click rfl)
  | save saved =>
      cases taken
      cases saved <;> exact .inl (idle_settings here _ app.settings _ app.hostEditor)
  | edit pairingCode user =>
      cases taken
      exact .inl (idle_settings here _ _ app.status app.hostEditor)
  | select device =>
      simp only [windowStep] at taken
      split at taken
      · rename_i shown
        cases taken
        refine .inl (.idle app here app.settings app.status (some device) app.hostEditor
          app.firstUpdate (fun d same => ?_) id)
        cases same
        exact .inl (by simpa using shown)
      · cases taken
  | copyId device =>
      simp only [windowStep] at taken
      split at taken
      · cases taken
        exact .inl (idle_settings here _ app.settings _ app.hostEditor)
      · cases taken
  | openEditor device =>
      simp only [windowStep] at taken
      split at taken
      · cases taken
        exact .inl (idle_settings here _ app.settings app.status _)
      · cases taken
  | typeAlias value =>
      obtain ⟨editor, -, rfl⟩ := Option.map_eq_some_iff.mp taken
      exact .inl (idle_settings here _ app.settings app.status _)
  | saveAlias saved =>
      obtain ⟨editor, -, rfl⟩ := Option.map_eq_some_iff.mp taken
      exact .inl (idle_settings here _ _ _ none)
  | cancelEditor =>
      obtain ⟨editor, -, rfl⟩ := Option.map_eq_some_iff.mp taken
      exact .inl (idle_settings here _ app.settings app.status none)
  | install out =>
      simp only [windowStep] at taken
      split at taken
      · obtain ⟨desk, clicked, rfl⟩ := Option.map_eq_some_iff.mp taken
        exact .inl (.installs app here out rfl desk clicked)
      · cases taken
  | close =>
      cases taken
      exact .inl (.closes app here)
  | elapse | lookup | trayShow | trayQuit => cases taken

theorem step_rule {act : ConnectAct}
    (taken : c.step crates address printable windows setupPath act = some c') :
    c.Rule crates address windows setupPath act c' ∨
      act.clicks = 0 ∧ Rules crates address windows setupPath act c c' := by
  unfold step at taken
  split at taken
  · cases taken
    exact .inl (.elapses _)
  · split at taken
    · cases taken
    · rename_i l here
      obtain ⟨l', next, rfl⟩ := Option.map_eq_some_iff.mp taken
      exact .inl (.lookup _ l l' here (Lookup.next_goes next))
  · split at taken
    · cases taken
      exact .inl (.signals _ .inl)
    · cases taken
  · split at taken
    · rename_i built
      cases taken
      exact .inl (.signals _ fun _ => .inr ⟨built, rfl⟩)
    · cases taken
  · split at taken
    · cases taken
    · rename_i app here
      exact windowStep_rule here taken

/-- What every rule keeps holds after any run, with the clicks counted. -/
theorem run_rules {settings : ConnectSettings} {tray : Bool} {desk : Desk}
    {P : Nat → Connect → Prop} {Q : ConnectAct → Prop} (init : P 0 (start settings tray desk))
    (keep : ∀ n c act c', Q act → P n c → c.Rule crates address windows setupPath act c' →
      P (n + act.clicks) c')
    {acts : List ConnectAct} (all : ∀ act ∈ acts, Q act)
    (run : exec (step crates address printable windows setupPath) (start settings tray desk) acts = some c) :
    P (acts.map ConnectAct.clicks).sum c := by
  refine exec_induction
    (P := fun acts c => (∀ act ∈ acts, Q act) → P (acts.map ConnectAct.clicks).sum c)
    (fun _ => init) ?_ acts c run all
  intro acts s act s' _ holds taken all
  have before := holds fun other inside => all other (List.mem_append_left _ inside)
  have last := all act (List.mem_append_right _ (List.mem_singleton.mpr rfl))
  rw [List.map_append, List.sum_append, List.map_singleton, List.sum_singleton]
  rcases step_rule taken with rule | ⟨none, rules⟩
  · exact keep _ _ _ _ last before rule
  · rw [none, Nat.add_zero]
    clear taken
    induction rules with
    | refl => exact before
    | tail _ rule ih =>
        have next := keep _ _ _ _ last ih rule
        rwa [none] at next

end Connect

/-! ## What the window waits for and shows -/

/-- The last list that a window has taken. -/
def lastList (lookups : List Lookup) : List Text :=
  (lookups.filterMap fun l => l.taken.bind Except.toOption).getLast?.getD []

theorem lastList_snoc (past : List Lookup) (l : Lookup) :
    lastList (past ++ [l]) = (l.taken.bind Except.toOption).getD (lastList past) := by
  rw [lastList, List.filterMap_append]
  cases taken : l.taken.bind Except.toOption <;> simp [lastList, taken]

theorem modify_current (past : List Lookup) (l : Lookup) (f : Lookup → Lookup) :
    (past ++ [l]).modify past.length f = past ++ [f l] := by
  induction past with
  | nil => rfl
  | cons first rest ih => simpa using ih

theorem set_current (past : List Lookup) (l l' : Lookup) :
    (past ++ [l]).set past.length l' = past ++ [l'] := by
  simp

namespace ConnectApp

/-- The window waits for `current`, and says so unless it was told to close; the lookups before have
ended, and their last list is shown. -/
structure Waits (app : ConnectApp) (past : List Lookup) (current : Option Lookup) : Prop where
  refreshRx : app.refreshRx = current.map fun _ => past.length
  refreshCancel : app.refreshCancel = current.map fun _ => past.length
  settled : ∀ l ∈ past, l.point = .done
  kept : ∀ l, current = some l →
    l.cancel.sender = true ∧ l.cancel.value = none ∧ l.taken = none
  connecting : app.connectionState = .connecting → current.isSome = true
  waiting : current.isSome = true →
    app.connectionState = .connecting ∨ app.connectionState = .stopped ∧ app.allowClose = true
  shown : app.devices = lastList past
  selected : ∀ d, app.selectedDevice = some d → d ∈ app.devices
  connected : app.connectionState = .connected →
    ∃ l, past.getLast? = some l ∧ l.taken = some (.ok app.devices)

namespace Waits

variable {app : ConnectApp} {past : List Lookup} {current : Option Lookup} {l l' : Lookup}

theorem free (waits : app.Waits past current) (unasked : app.refreshRx = none) : current = none := by
  rw [waits.refreshRx] at unasked
  exact Option.map_eq_none_iff.mp unasked

theorem reads (waits : app.Waits past current) {i : Nat} (asked : app.refreshRx = some i)
    (there : (past ++ current.toList)[i]? = some l) : i = past.length ∧ current = some l := by
  rw [waits.refreshRx] at asked
  obtain ⟨l', rfl, rfl⟩ := Option.map_eq_some_iff.mp asked
  rw [Option.toList_some, List.getElem?_concat_length] at there
  cases there
  exact ⟨rfl, rfl⟩

/-- The lookup goes on. -/
theorem goes (waits : app.Waits past (some l)) (goes : l.Goes l') : app.Waits past (some l') := by
  obtain ⟨sender, value, taken⟩ := waits.kept l rfl
  refine { waits with kept := fun other same => ?_ }
  cases same
  exact ⟨goes.sender.trans sender, goes.untold value, goes.taken.trans taken⟩

/-- The window lets it go. -/
theorem settle (waits : app.Waits past (some l)) (l' : Lookup) (ended : l'.point = .done)
    (devices : List Text) (selectedDevice : Option Text) (now : Nat) (state : ClientConnectionState)
    (status : String)
    (shown : devices = lastList (past ++ [l'])) (selected : ∀ d, selectedDevice = some d → d ∈ devices)
    (calm : state ≠ .connecting) (connected : state = .connected → l'.taken = some (.ok devices)) :
    ({ app with devices, selectedDevice }.settle now state status).Waits (past ++ [l']) none where
  refreshRx := rfl
  refreshCancel := rfl
  settled other inside := by
    rcases List.mem_append.mp inside with before | last
    · exact waits.settled other before
    · rw [List.mem_singleton.mp last]
      exact ended
  kept _ never := by cases never
  connecting never := absurd never calm
  waiting never := by cases never
  shown := shown
  selected := selected
  connected done := ⟨l', List.getLast?_concat, connected done⟩

end Waits

end ConnectApp

namespace Connect

/-- What holds of the lookups in any run. -/
structure Sound (c : Connect) : Prop where
  honest : ∀ l ∈ c.lookups, l.Honest
  opened : ∀ app, c.app = some app →
    ∃ past current, c.lookups = past ++ current.toList ∧ app.Waits past current
  alone : ∃ (past : List Lookup) (current : Option Lookup), c.lookups = past ++ current.toList ∧
    ∀ l ∈ past, l.point = .done

variable {crates : Crates} {address : String → Option SocketAddr} {windows : Bool} {setupPath : Text}
  {printable : Char → Bool} {c c' : Connect} {app : ConnectApp}

theorem Sound.of_waits (past : List Lookup) (current : Option Lookup) (here : c.app = some app)
    (lookups : c.lookups = past ++ current.toList) (waits : app.Waits past current)
    (honest : ∀ l ∈ c.lookups, l.Honest) : c.Sound where
  honest := honest
  opened other same := by
    rw [here] at same
    cases same
    exact ⟨past, current, lookups, waits⟩
  alone := ⟨past, current, lookups, waits.settled⟩

/-- Only the last lookup can go on. -/
theorem current_of_unfinished {past : List Lookup} {current : Option Lookup} {i : Nat} {l : Lookup}
    (settled : ∀ l ∈ past, l.point = .done) (there : (past ++ current.toList)[i]? = some l)
    (unfinished : l.point ≠ .done) : i = past.length ∧ current = some l := by
  have behind : past.length ≤ i := by
    by_contra before
    rw [List.getElem?_append_left (Nat.lt_of_not_le before)] at there
    exact unfinished (settled l (List.mem_of_getElem? there))
  rw [List.getElem?_append_right behind] at there
  cases current with
  | none => cases there
  | some other =>
      obtain ⟨same, rfl⟩ := List.getElem?_eq_some_iff.mp there
      have last : i - past.length = 0 := by simpa using same
      exact ⟨by omega, by simp⟩

/-- A lookup changes, and nothing else. -/
theorem Sound.set_lookup {i : Nat} {l l' : Lookup} (sound : c.Sound) (there : c.lookups[i]? = some l)
    (goes : l.Goes l') : Sound { c with lookups := c.lookups.set i l' } := by
  have honest : ∀ other ∈ c.lookups.set i l', other.Honest := by
    intro other inside
    rcases List.mem_or_eq_of_mem_set inside with before | rfl
    · exact sound.honest other before
    · exact goes.honest (sound.honest l (List.mem_of_getElem? there))
  refine ⟨honest, fun app here => ?_, ?_⟩
  · obtain ⟨past, current, lookups, waits⟩ := sound.opened app here
    rw [lookups] at there
    obtain ⟨rfl, rfl⟩ := current_of_unfinished waits.settled there goes.unfinished
    exact ⟨past, some l', by simp [lookups], waits.goes goes⟩
  · obtain ⟨past, current, lookups, settled⟩ := sound.alone
    rw [lookups] at there
    obtain ⟨rfl, rfl⟩ := current_of_unfinished settled there goes.unfinished
    exact ⟨past, some l', by simp [lookups], settled⟩

/-- The lookup that the window waits for has come to an end, and the window has noticed. -/
theorem Sound.settle {i : Nat} {l l' : Lookup} {app' : ConnectApp} (sound : c.Sound)
    (here : c.app = some app) (reads : app.refreshRx = some i) (there : c.lookups[i]? = some l)
    (honest : l'.Honest)
    (waits : ∀ past, app.Waits past (some l) → l.taken = none → app'.Waits (past ++ [l']) none) :
    Sound { c with app := some app', lookups := c.lookups.set i l' } := by
  obtain ⟨past, current, lookups, waited⟩ := sound.opened app here
  rw [lookups] at there
  obtain ⟨rfl, rfl⟩ := waited.reads reads there
  have after : c.lookups.set past.length l' = past ++ [l'] := by
    rw [lookups, Option.toList_some, set_current]
  refine Sound.of_waits (past ++ [l']) none rfl ?_
    (waits past waited (waited.kept l rfl).2.2) fun other inside => ?_
  · simpa using after
  · rcases List.mem_or_eq_of_mem_set inside with before | rfl
    · exact sound.honest other before
    · exact honest

theorem forget_here {lookups : List Lookup} {i : Nat} {l : Lookup} (there : lookups[i]? = some l) :
    forget (some i) lookups = lookups.set i l.release := by
  obtain ⟨inside, rfl⟩ := List.getElem?_eq_some_iff.mp there
  apply List.ext_getElem?
  intro j
  rw [forget, List.getElem?_modify, List.getElem?_set]
  by_cases same : i = j
  · subst same
    simp [inside]
  · simp [same]

theorem Sound.refreshCancel (sound : c.Sound) (here : c.app = some app) :
    app.refreshCancel = app.refreshRx := by
  obtain ⟨past, current, -, waits⟩ := sound.opened app here
  rw [waits.refreshCancel, waits.refreshRx]

/-- The window takes a result. -/
theorem Sound.takes {i : Nat} {l : Lookup} {result : LookupResult} (sound : c.Sound)
    (here : c.app = some app) (reads : app.refreshRx = some i) (there : c.lookups[i]? = some l)
    (queued : l.queue = some result) :
    forget app.refreshCancel (c.lookups.set i (l.take result)) =
        c.lookups.set i (l.take result).release ∧
      l.point = .done ∧ (l.take result).release.Honest := by
  have honest := sound.honest l (List.mem_of_getElem? there)
  obtain ⟨inside, -⟩ := List.getElem?_eq_some_iff.mp there
  have set : (c.lookups.set i (l.take result))[i]? = some (l.take result) := by simp [inside]
  refine ⟨?_, ?_, (honest.take queued).cancel _⟩
  · rw [sound.refreshCancel here, reads, forget_here set, List.set_set]
  · by_contra running
    rw [(honest.unsent running).1] at queued
    cases queued

theorem Sound.rule {act : ConnectAct} (sound : c.Sound)
    (rule : c.Rule crates address windows setupPath act c') :
    c'.Sound := by
  cases rule with
  | elapses ms => exact ⟨sound.honest, sound.opened, sound.alone⟩
  | lookup i l l' there goes => exact sound.set_lookup there goes
  | signals signals asked => exact ⟨sound.honest, sound.opened, sound.alone⟩
  | quits app here asked status =>
      obtain ⟨past, current, lookups, waits⟩ := sound.opened app here
      exact .of_waits past current rfl lookups { waits with
        connecting := fun never => by cases never
        waiting := fun _ => .inr ⟨rfl, rfl⟩
        connected := fun never => by cases never } sound.honest
  | idle app here settings status selectedDevice hostEditor firstUpdate selected seen =>
      obtain ⟨past, current, lookups, waits⟩ := sound.opened app here
      refine .of_waits past current rfl lookups { waits with selected := fun d same => ?_ } sound.honest
      rcases selected d same with shown | before
      · exact shown
      · exact waits.selected d before
  | refuses app here free status firstUpdate seen =>
      obtain ⟨past, current, lookups, waits⟩ := sound.opened app here
      refine .of_waits past current rfl lookups { waits with
        connecting := fun never => by cases never
        waiting := fun some => by simp [waits.free free] at some
        connected := fun never => by cases never } sound.honest
  | spawns app here free firstUpdate asked status config =>
      obtain ⟨past, current, lookups, waits⟩ := sound.opened app here
      obtain rfl := waits.free free
      have same : forget app.refreshCancel c.lookups ++ [.spawn config] =
          past ++ [.spawn config] := by
        rw [waits.refreshCancel, lookups]
        simp [forget]
      have length : c.lookups.length = past.length := by simp [lookups]
      refine .of_waits past (some (.spawn config)) rfl same
        { waits with
          refreshRx := by simp [length]
          refreshCancel := by simp [length]
          kept := fun l same => ?_
          connecting := fun _ => rfl
          waiting := fun _ => .inl rfl
          connected := fun never => by cases never } fun l inside => ?_
      · cases same
        exact ⟨rfl, rfl, rfl⟩
      · simp only [same] at inside
        rcases List.mem_append.mp inside with before | new
        · exact sound.honest l (by simpa [lookups] using before)
        · rw [List.mem_singleton.mp new]
          exact Lookup.honest_spawn config
  | lists app here i l reads there devices queued status =>
      obtain ⟨same, ended, honest⟩ := sound.takes here reads there queued
      rw [same]
      refine sound.settle here reads there honest fun past waits unread => ?_
      refine waits.settle (l.take (.ok devices)).release ended devices _ c.clock .connected status ?_
        (fun d chosen => ?_) (by simp) fun _ => rfl
      · rw [lastList_snoc]
        rfl
      · obtain ⟨-, listed⟩ := Option.filter_eq_some_iff.mp chosen
        simpa using listed
  | errs app here i l reads there error queued status =>
      obtain ⟨same, ended, honest⟩ := sound.takes here reads there queued
      rw [same]
      refine sound.settle here reads there honest fun past waits unread => ?_
      refine waits.settle (l.take (.error error)).release ended app.devices app.selectedDevice
        c.clock .error status ?_ waits.selected (by simp) fun never => by cases never
      rw [lastList_snoc]
      exact waits.shown
  | hangs app here i l reads there gone status =>
      rw [sound.refreshCancel here, reads, forget_here there]
      have honest := sound.honest l (List.mem_of_getElem? there)
      refine sound.settle here reads there (honest.cancel _) fun past waits unread => ?_
      refine waits.settle l.release gone app.devices app.selectedDevice c.clock .error status ?_
        waits.selected (by simp) fun never => by cases never
      have none : l.release.taken = .none := unread
      rw [lastList_snoc, none]
      exact waits.shown
  | installs app here out asked desk clicks =>
      obtain ⟨past, current, lookups, waits⟩ := sound.opened app here
      exact .of_waits past current rfl lookups { waits with } sound.honest
  | closes app here =>
      obtain ⟨past, current, lookups, waits⟩ := sound.opened app here
      have after : app.drop c.lookups = past ++
          (current.map Lookup.tell).toList := by
        rw [ConnectApp.drop, waits.refreshCancel, lookups]
        cases current with
        | none => rfl
        | some l => exact modify_current past l _
      refine ⟨fun l inside => ?_, fun _ never => (by cases never), past, _, after, waits.settled⟩
      simp only [after] at inside
      rcases List.mem_append.mp inside with before | last
      · exact sound.honest l (by simp [lookups, before])
      · obtain ⟨l', was, rfl⟩ := Option.map_eq_some_iff.mp (Option.mem_toList.mp last)
        exact (sound.honest l' (by simp [lookups, was])).cancel _

theorem sound_start (settings : ConnectSettings) (tray : Bool) (desk : Desk) :
    (start settings tray desk).Sound := by
  refine .of_waits [] none rfl rfl ⟨rfl, rfl, ?_, ?_, ?_, ?_, rfl, ?_, ?_⟩ ?_
  · intro l never
    cases never
  · intro l never
    cases never
  · intro never
    cases never
  · intro never
    cases never
  · intro d never
    cases never
  · intro never
    cases never
  · intro l never
    cases never

variable {settings : ConnectSettings} {tray : Bool} {desk : Desk} {acts : List ConnectAct}

theorem run_sound
    (run : exec (step crates address printable windows setupPath) (start settings tray desk) acts =
      some c) : c.Sound :=
  run_rules (P := fun _ c => c.Sound) (Q := fun _ => True) (sound_start settings tray desk)
    (fun _ _ _ _ _ sound rule => sound.rule rule) (fun _ _ => trivial) run

end Connect

/-! ## How often the relay is asked -/

namespace ConnectApp

/-- A first `update` still to come asks once more. -/
def reserve (app : ConnectApp) : Nat := if app.firstUpdate then 10000 else 0

/-- The instant from which the next ten seconds count. -/
def since (app : ConnectApp) (clock : Nat) : Nat :=
  if app.refreshRx.isSome then clock else app.lastRefresh

theorem reserve_le {app app' : ConnectApp} (seen : app'.firstUpdate = true → app.firstUpdate = true) :
    app'.reserve ≤ app.reserve := by
  unfold reserve
  split
  · rename_i new
    rw [if_pos (seen new)]
  · exact Nat.zero_le _

theorem since_le (app : ConnectApp) {clock : Nat} (past : app.lastRefresh ≤ clock) :
    app.since clock ≤ clock := by
  unfold since
  split
  · exact Nat.le_refl _
  · exact past

end ConnectApp

/-- A lookup that is asked for is paid for. -/
theorem Asked.paid {app : ConnectApp} {clock : Nat} {act : ConnectAct} {firstUpdate : Bool}
    (asked : Asked app clock act firstUpdate) (free : app.refreshRx = none)
    (past : app.lastRefresh ≤ clock) {app' : ConnectApp} (same : app'.firstUpdate = firstUpdate) :
    10000 + app.since clock + app'.reserve ≤ 10000 * act.clicks + clock + app.reserve := by
  have since : app.since clock = app.lastRefresh := by simp [ConnectApp.since, free]
  rw [since]
  cases asked with
  | click clicked =>
      have reserve : app'.reserve ≤ app.reserve := ConnectApp.reserve_le fun new => same ▸ new
      omega
  | first new =>
      have none : app'.reserve = 0 := by simp [ConnectApp.reserve, same]
      have one : app.reserve = 10000 := by simp [ConnectApp.reserve, new]
      omega
  | due late =>
      have reserve : app'.reserve ≤ app.reserve := ConnectApp.reserve_le fun new => same ▸ new
      omega

namespace Connect

variable {crates : Crates} {address : String → Option SocketAddr} {windows : Bool} {setupPath : Text}
  {printable : Char → Bool} {c c' : Connect} {app : ConnectApp} {settings : ConnectSettings}
  {tray : Bool} {desk : Desk} {acts : List ConnectAct}

/-- The lookups so far, with `n` clicks. -/
structure Paced (n : Nat) (c : Connect) : Prop where
  total : 10000 * c.lookups.length ≤ 10000 * (n + 1) + c.clock
  past : ∀ app, c.app = some app → app.lastRefresh ≤ c.clock
  window : ∀ app, c.app = some app →
    10000 * c.lookups.length + app.reserve ≤ 10000 * (n + 1) + app.since c.clock

theorem Paced.of_open {n : Nat} (here : c.app = some app) (past : app.lastRefresh ≤ c.clock)
    (window : 10000 * c.lookups.length + app.reserve ≤ 10000 * (n + 1) + app.since c.clock) :
    c.Paced n := by
  have bounded := app.since_le past
  refine ⟨by omega, fun other same => ?_, fun other same => ?_⟩
  · rw [here] at same
    cases same
    exact past
  · rw [here] at same
    cases same
    exact window

@[simp] theorem forget_length (held : Option Nat) (lookups : List Lookup) :
    (forget held lookups).length = lookups.length := by
  unfold forget
  split <;> simp

@[simp] theorem drop_length (app : ConnectApp) (lookups : List Lookup) :
    (app.drop lookups).length = lookups.length := by
  unfold ConnectApp.drop
  split <;> simp

/-- The window lets its lookup go, and starts to count. -/
theorem Paced.settle {n m : Nat} (paced : c.Paced n) (here : c.app = some app) {app' : ConnectApp}
    {lookups : List Lookup} (length : lookups.length = c.lookups.length)
    (seen : app'.firstUpdate = app.firstUpdate) (free : app'.refreshRx = none)
    (now : app'.lastRefresh = c.clock) :
    Paced (n + m) { c with app := some app', lookups } := by
  have before := paced.window app here
  have bounded := app.since_le (paced.past app here)
  have reserve : app'.reserve ≤ app.reserve := ConnectApp.reserve_le fun new => seen ▸ new
  have since : app'.since c.clock = c.clock := by simp [ConnectApp.since, free, now]
  refine .of_open rfl (Nat.le_of_eq now) ?_
  show 10000 * lookups.length + app'.reserve ≤ 10000 * (n + m + 1) + app'.since c.clock
  rw [length, since]
  omega

/-- Neither the window nor the number of its lookups changes. -/
theorem Paced.other {n m : Nat} (paced : c.Paced n) (same : c'.app = c.app)
    (length : c'.lookups.length = c.lookups.length) (clock : c'.clock = c.clock) :
    c'.Paced (n + m) := by
  refine ⟨?_, fun app here => ?_, fun app here => ?_⟩
  · have total := paced.total
    rw [length, clock]
    omega
  · rw [clock]
    exact paced.past app (same ▸ here)
  · have before := paced.window app (same ▸ here)
    rw [length, clock]
    omega

/-- The window stays as it is but for what is left open. -/
theorem Paced.keep {n m : Nat} (paced : c.Paced n) (here : c.app = some app) {app' : ConnectApp}
    (desk : Desk) (signals : TraySignals)
    (seen : app'.firstUpdate = true → app.firstUpdate = true)
    (same : app'.refreshRx = app.refreshRx) (last : app'.lastRefresh = app.lastRefresh) :
    Paced (n + m) { c with app := some app', desk, signals } := by
  have before := paced.window app here
  have reserve := ConnectApp.reserve_le seen
  have since : app'.since c.clock = app.since c.clock := by
    simp only [ConnectApp.since, same, last]
  refine .of_open rfl (last ▸ paced.past app here) ?_
  show 10000 * c.lookups.length + app'.reserve ≤ 10000 * (n + m + 1) + app'.since c.clock
  rw [since]
  omega

/-- The window starts a lookup. -/
theorem Paced.spawns {n : Nat} {act : ConnectAct} {firstUpdate : Bool} (paced : c.Paced n)
    (here : c.app = some app) (free : app.refreshRx = none)
    (asked : Asked app c.clock act firstUpdate) {app' : ConnectApp} {lookups : List Lookup}
    (length : lookups.length = c.lookups.length + 1) (seen : app'.firstUpdate = firstUpdate)
    (waits : app'.refreshRx.isSome = true) (last : app'.lastRefresh = app.lastRefresh) :
    Paced (n + act.clicks) { c with app := some app', lookups } := by
  have before := paced.window app here
  have past := paced.past app here
  have paid := asked.paid free past seen
  have since : app'.since c.clock = c.clock := by simp [ConnectApp.since, waits]
  refine .of_open rfl (last ▸ past) ?_
  show 10000 * lookups.length + app'.reserve ≤ 10000 * (n + act.clicks + 1) + app'.since c.clock
  rw [length, since]
  omega

theorem Paced.rule {n : Nat} {act : ConnectAct} (paced : c.Paced n)
    (rule : c.Rule crates address windows setupPath act c') : c'.Paced (n + act.clicks) := by
  cases rule with
  | elapses ms =>
      refine ⟨?_, fun app here => Nat.le_add_right_of_le (paced.past app here), fun app here => ?_⟩
      · have total := paced.total
        show 10000 * c.lookups.length ≤ 10000 * (n + act.clicks + 1) + (c.clock + ms)
        omega
      · have before := paced.window app here
        have later : app.since c.clock ≤ app.since (c.clock + ms) := by
          unfold ConnectApp.since
          split
          · exact Nat.le_add_right _ _
          · exact Nat.le_refl _
        show 10000 * c.lookups.length + app.reserve ≤
          10000 * (n + act.clicks + 1) + app.since (c.clock + ms)
        omega
  | lookup i l l' there goes => exact paced.other rfl List.length_set rfl
  | signals signals asked => exact paced.other rfl rfl rfl
  | idle app here settings status selectedDevice hostEditor firstUpdate selected seen =>
      exact paced.keep here c.desk c.signals seen rfl rfl
  | refuses app here free status firstUpdate seen =>
      exact paced.keep here c.desk c.signals seen rfl rfl
  | quits app here asked status =>
      exact paced.keep here c.desk { c.signals with quit := false } id rfl rfl
  | spawns app here free firstUpdate asked status config =>
      exact paced.spawns here free asked (by simp) rfl rfl rfl
  | lists app here i l reads there devices queued status =>
      exact paced.settle here (by simp) rfl rfl rfl
  | errs app here i l reads there error queued status =>
      exact paced.settle here (by simp) rfl rfl rfl
  | hangs app here i l reads there gone status => exact paced.settle here (by simp) rfl rfl rfl
  | installs app here out asked desk clicks => exact paced.keep here desk c.signals id rfl rfl
  | closes app here =>
      refine ⟨?_, fun app never => (by cases never), fun app never => (by cases never)⟩
      have total := paced.total
      show 10000 * (app.drop c.lookups).length ≤ 10000 * (n + act.clicks + 1) + c.clock
      rw [drop_length]
      omega

theorem paced_start (settings : ConnectSettings) (tray : Bool) (desk : Desk) :
    (start settings tray desk).Paced 0 :=
  .of_open rfl (Nat.le_refl 0) (by simp [start, ConnectApp.new, ConnectApp.reserve, ConnectApp.since])

/-! ## One lookup -/

/-- Nobody has asked the tray's menu to close the window. -/
structure Unasked (c : Connect) : Prop where
  signals : c.signals.quit = false
  window : ∀ app, c.app = some app → app.allowClose = false

theorem Unasked.of_open (here : c.app = some app) (signals : c.signals.quit = false)
    (window : app.allowClose = false) : c.Unasked := by
  refine ⟨signals, fun other same => ?_⟩
  rw [here] at same
  cases same
  exact window

theorem Unasked.rule {act : ConnectAct} (unasked : c.Unasked)
    (other : ¬ (windows = true ∧ act = .trayQuit))
    (rule : c.Rule crates address windows setupPath act c') : c'.Unasked := by
  cases rule with
  | elapses | lookup => exact ⟨unasked.signals, unasked.window⟩
  | signals signals asked =>
      refine ⟨?_, unasked.window⟩
      rw [Bool.eq_false_iff]
      intro quit
      rcases asked quit with before | menu
      · rw [unasked.signals] at before
        cases before
      · exact other menu
  | quits app here asked =>
      rw [unasked.signals] at asked
      cases asked
  | idle app here | refuses app here | spawns app here | lists app here | errs app here
  | hangs app here | installs app here =>
      exact .of_open rfl unasked.signals (unasked.window app here)
  | closes => exact ⟨unasked.signals, fun _ never => by cases never⟩

/-- A window that was told to close was told so by the tray's menu. -/
theorem run_asked
    (run : exec (step crates address printable windows setupPath) (start settings tray desk) acts =
      some c) (here : c.app = some app) (told : app.allowClose = true) :
    windows = true ∧ .trayQuit ∈ acts := by
  by_contra never
  have unasked : c.Unasked :=
    run_rules (P := fun _ c => c.Unasked) (Q := fun act => ¬ (windows = true ∧ act = .trayQuit))
      (.of_open rfl rfl rfl) (fun _ _ _ _ other unasked rule => unasked.rule other rule)
      (fun act inside menu => never ⟨menu.1, menu.2 ▸ inside⟩) run
  rw [unasked.window app here] at told
  cases told

variable (crates address printable windows setupPath) in
/-- The lookups of a window after a run. -/
structure OneLookup (acts : List ConnectAct) (c : Connect) : Prop where
  /-- at most one is under way -/
  alone : ∀ (i j : Nat) (l m : Lookup), c.lookups[i]? = some l → c.lookups[j]? = some m →
    l.point ≠ .done → m.point ≠ .done → i = j
  /-- for which the open window waits -/
  awaited : ∀ app, c.app = some app → ∀ (i : Nat) (l : Lookup), c.lookups[i]? = some l →
    l.point ≠ .done → app.refreshRx = some i ∧ app.refreshCancel = some i
  connecting : ∀ app, c.app = some app →
    app.connectionState = .connecting → app.refreshRx.isSome = true
  /-- a window that waits says so, or that it is stopped once the tray's menu was asked for that -/
  waiting : ∀ app, c.app = some app → app.refreshRx.isSome = true →
    app.connectionState = .connecting ∨
      app.connectionState = .stopped ∧ windows = true ∧ .trayQuit ∈ acts
  /-- it is not called off before the window is closed -/
  uncancelled : c.app.isSome = true →
    ∀ i, c.step crates address printable windows setupPath (.lookup i .cancelled) = none
  /-- one at the start, one for each click and one for every ten seconds -/
  paced : 10000 * c.lookups.length ≤ 10000 * ((acts.map ConnectAct.clicks).sum + 1) + c.clock

theorem Sound.uncancelled (sound : c.Sound) (here : c.app = some app) (i : Nat) :
    c.step crates address printable windows setupPath (.lookup i .cancelled) = none := by
  simp only [step]
  cases there : c.lookups[i]? with
  | none => rfl
  | some l =>
      simp only [Lookup.next]
      by_cases selecting : l.selecting = true
      · obtain ⟨past, current, lookups, waits⟩ := sound.opened app here
        rw [lookups] at there
        obtain ⟨-, rfl⟩ := current_of_unfinished waits.settled there
          (Lookup.selecting_unfinished selecting)
        obtain ⟨sender, value, -⟩ := waits.kept l rfl
        simp [selecting, Oneshot.poll, sender, value]
      · simp [selecting]

/-- **There is one lookup at a time**, and none without its reason. -/
theorem one_lookup
    (run : exec (step crates address printable windows setupPath) (start settings tray desk) acts =
      some c) : c.OneLookup crates address windows setupPath printable acts where
  alone i j l m here there running also := by
    obtain ⟨past, current, lookups, settled⟩ := (run_sound run).alone
    rw [lookups] at here there
    rw [(current_of_unfinished settled here running).1, (current_of_unfinished settled there also).1]
  awaited app here i l there running := by
    obtain ⟨past, current, lookups, waits⟩ := (run_sound run).opened app here
    rw [lookups] at there
    obtain ⟨rfl, rfl⟩ := current_of_unfinished waits.settled there running
    exact ⟨waits.refreshRx, waits.refreshCancel⟩
  connecting app here shows := by
    obtain ⟨past, current, -, waits⟩ := (run_sound run).opened app here
    rw [waits.refreshRx, Option.isSome_map]
    exact waits.connecting shows
  waiting app here asked := by
    obtain ⟨past, current, -, waits⟩ := (run_sound run).opened app here
    rw [waits.refreshRx, Option.isSome_map] at asked
    rcases waits.waiting asked with shows | ⟨stopped, told⟩
    · exact .inl shows
    · exact .inr ⟨stopped, run_asked run here told⟩
  uncancelled opened i := by
    obtain ⟨app, here⟩ := Option.isSome_iff_exists.mp opened
    exact (run_sound run).uncancelled here i
  paced := by
    have paced : c.Paced (acts.map ConnectAct.clicks).sum :=
      run_rules (P := Paced) (Q := fun _ => True) (paced_start settings tray desk)
        (fun _ _ _ _ _ paced rule => paced.rule rule) (fun _ _ => trivial) run
    exact paced.total

/-! ## What is shown -/

/-- What the window shows. -/
structure ShowsLastList (c : Connect) (app : ConnectApp) : Prop where
  shown : app.devices = lastList c.lookups
  selected : ∀ d, app.selectedDevice = some d → d ∈ app.devices
  /-- `Connected` is said of the last lookup -/
  connected : app.connectionState = .connected →
    ∃ l, c.lookups.getLast? = some l ∧ l.taken = some (.ok app.devices)
  /-- a list is what the relay has sent -/
  listed : ∀ l ∈ c.lookups, ∀ devices, l.taken = some (.ok devices) → l.Listed devices

theorem Sound.showsLastList (sound : c.Sound) (here : c.app = some app) : c.ShowsLastList app := by
  obtain ⟨past, current, lookups, waits⟩ := sound.opened app here
  refine ⟨?_, waits.selected, fun connected => ?_, fun l inside devices taken =>
    (sound.honest l inside).listed devices (.inr taken)⟩
  · rw [waits.shown, lookups]
    cases current with
    | none => rw [Option.toList_none, List.append_nil]
    | some l =>
        rw [Option.toList_some, lastList_snoc, (waits.kept l rfl).2.2]
        rfl
  · have idle : current = none := by
      cases current with
      | none => rfl
      | some l =>
          rcases waits.waiting rfl with never | ⟨never, -⟩
          · rw [connected] at never
            cases never
          · rw [connected] at never
            cases never
    rw [lookups, idle, Option.toList_none, List.append_nil]
    exact waits.connected connected

/-- **What is shown is the list that a relay has sent last.** -/
theorem shows_last_list
    (run : exec (step crates address printable windows setupPath) (start settings tray desk) acts =
      some c) (here : c.app = some app) : c.ShowsLastList app :=
  (run_sound run).showsLastList here

/-! ## Hosts of listed devices -/

/-- A lookup of the window has got a list with this device. -/
def Offered (lookups : List Lookup) (device : Text) : Prop :=
  ∃ l ∈ lookups, ∃ devices, l.taken = some (.ok devices) ∧ device ∈ devices

theorem offered_lastList {lookups : List Lookup} {device : Text}
    (shown : device ∈ lastList lookups) : Offered lookups device := by
  rw [lastList] at shown
  cases last : (lookups.filterMap fun l => l.taken.bind Except.toOption).getLast? with
  | none =>
      rw [last] at shown
      cases shown
  | some devices =>
      rw [last] at shown
      obtain ⟨l, inside, taken⟩ := List.mem_filterMap.mp (List.mem_of_getLast? last)
      obtain ⟨result, taken, ok⟩ := Option.bind_eq_some_iff.mp taken
      cases result with
      | error error => cases ok
      | ok listed =>
          cases ok
          exact ⟨l, inside, devices, taken, shown⟩

theorem Offered.set {lookups : List Lookup} {device : Text} {i : Nat} {l l' : Lookup}
    (offered : Offered lookups device) (there : lookups[i]? = some l)
    (same : l'.taken = l.taken ∨ l.taken = none) : Offered (lookups.set i l') device := by
  obtain ⟨other, inside, devices, taken, listed⟩ := offered
  obtain ⟨j, here⟩ := List.mem_iff_getElem?.mp inside
  by_cases own : i = j
  · subst own
    rw [there] at here
    cases here
    rcases same with same | never
    · have within := (List.getElem?_eq_some_iff.mp there).1
      exact ⟨l', List.mem_set within l', devices, same.trans taken, listed⟩
    · rw [never] at taken
      cases taken
  · refine ⟨other, List.mem_of_getElem? (i := j) ?_, devices, taken, listed⟩
    rw [List.getElem?_set_ne own, here]

theorem Offered.modify {lookups : List Lookup} {device : Text} {i : Nat} {f : Lookup → Lookup}
    (offered : Offered lookups device) (same : ∀ l, (f l).taken = l.taken) :
    Offered (lookups.modify i f) device := by
  obtain ⟨l, inside, devices, taken, listed⟩ := offered
  obtain ⟨j, here⟩ := List.mem_iff_getElem?.mp inside
  refine ⟨if i = j then f l else l, List.mem_of_getElem? (i := j) ?_, devices, ?_, listed⟩
  · rw [List.getElem?_modify, here]
    rfl
  · split
    · rw [same, taken]
    · exact taken

theorem Offered.forget {lookups : List Lookup} {device : Text} (offered : Offered lookups device)
    (held : Option Nat) : Offered (forget held lookups) device := by
  unfold RustSsh.Desktop.forget
  split
  · exact offered.modify fun _ => rfl
  · exact offered

theorem Sound.unread (sound : c.Sound) (here : c.app = some app) {i : Nat} {l : Lookup}
    (reads : app.refreshRx = some i) (there : c.lookups[i]? = some l) : l.taken = none := by
  obtain ⟨past, current, lookups, waits⟩ := sound.opened app here
  rw [lookups] at there
  obtain ⟨-, rfl⟩ := waits.reads reads there
  exact (waits.kept l rfl).2.2

theorem Offered.rule {device : Text} {act : ConnectAct} (offered : Offered c.lookups device)
    (sound : c.Sound) (rule : c.Rule crates address windows setupPath act c') :
    Offered c'.lookups device := by
  cases rule with
  | elapses | signals | quits | idle | refuses | installs => exact offered
  | lookup i l l' there goes => exact offered.set there (.inl goes.taken)
  | spawns app here free firstUpdate asked status config =>
      obtain ⟨l, inside, devices, taken, listed⟩ := offered.forget app.refreshCancel
      exact ⟨l, List.mem_append_left _ inside, devices, taken, listed⟩
  | lists app here i l reads there devices queued status =>
      exact (offered.set there (.inr (sound.unread here reads there))).forget _
  | errs app here i l reads there error queued status =>
      exact (offered.set there (.inr (sound.unread here reads there))).forget _
  | hangs => exact offered.forget _
  | closes app here =>
      show Offered (app.drop c.lookups) device
      unfold ConnectApp.drop
      split
      · exact offered.modify fun _ => rfl
      · exact offered

end Connect

theorem Desk.install_installed (windows : Bool) (setupPath : Text) (d : Desk) (click : Click)
    (deviceId : Text) :
    ∃ new, (d.install windows setupPath click deviceId).2.installed = d.installed ++ new ∧
      ∀ e ∈ new, e.deviceId = deviceId := by
  simp only [Desk.install]
  refine ⟨_, rfl, fun e inside => ?_⟩
  have made := Option.mem_toList.mp inside
  split at made
  · cases entry : installEntry (click.env setupPath) click.settings deviceId with
    | error error =>
        rw [entry] at made
        cases made
    | ok other =>
        rw [entry] at made
        cases made
        exact (installEntry_ok entry).1
  · cases made

/-- A button installs the selected device, or nothing. -/
theorem Desk.step_installed {crates : Crates} {address : String → Option SocketAddr} {windows : Bool}
    {setupPath : Text} {d d' : Desk} {click : Click}
    (taken : d.step crates address windows setupPath click = some d') :
    ∃ new, d'.installed = d.installed ++ new ∧ ∀ e ∈ new, click.selectedDevice = some e.deviceId := by
  have selected (done : Text → String) :
      ∃ new, (installSelected crates address windows setupPath done d click).installed =
        d.installed ++ new ∧ ∀ e ∈ new, click.selectedDevice = some e.deviceId := by
    have nothing : ∃ new, d.installed = d.installed ++ new ∧
        ∀ e ∈ new, click.selectedDevice = some e.deviceId :=
      ⟨[], (List.append_nil _).symm, fun _ never => by cases never⟩
    unfold installSelected
    split
    · exact nothing
    · rename_i deviceId selected
      split
      · exact nothing
      · obtain ⟨new, added, same⟩ := d.install_installed windows setupPath click deviceId
        have own : ∀ e ∈ new, click.selectedDevice = some e.deviceId :=
          fun e inside => by rw [selected, same e inside]
        split
        · rename_i made
          rw [made] at added
          exact ⟨new, added, own⟩
        · rename_i made
          rw [made] at added
          exact ⟨new, added, own⟩
  unfold Desk.step at taken
  split at taken
  · cases taken
    exact selected _
  · cases taken
    exact selected _

/-- The paths are plain, and the configuration is not left half written. -/
structure Outside.Fair (out : Outside) : Prop where
  executable : ∀ executable, out.executable = .ok executable → Plain executable
  early : ¬ Late false out.faults.failing

def ConnectAct.Fair : ConnectAct → Prop
  | .install out => out.Fair
  | _ => True

namespace Connect

variable {crates : Crates} {address : String → Option SocketAddr} {setupPath : Text}
  {printable : Char → Bool} {c c' : Connect} {settings : ConnectSettings} {tray : Bool} {desk : Desk}
  {file oldSetup : Option Bytes} {acts : List ConnectAct}

variable (crates address setupPath) in
/-- The files are as the buttons left them, and all that this window's have installed was listed. -/
structure Backed (original : Text) (file : Option Bytes) (desk : Desk) (c : Connect) : Prop where
  sound : c.Sound
  files : c.desk.Sound crates address setupPath original file
  offered : ∃ new, c.desk.installed = desk.installed ++ new ∧
    ∀ e ∈ new, Offered c.lookups e.deviceId

theorem Backed.rule {original : Text} (read : existingText file = some original)
    (unmarked : Unmarked original) (plain : Plain setupPath) {act : ConnectAct} (fair : act.Fair)
    (backed : c.Backed crates address setupPath original file desk)
    (rule : c.Rule crates address false setupPath act c') :
    c'.Backed crates address setupPath original file desk := by
  have sound := backed.sound.rule rule
  obtain ⟨new, installed, listed⟩ := backed.offered
  have offered : ∀ e ∈ new, Offered c'.lookups e.deviceId :=
    fun e inside => (listed e inside).rule backed.sound rule
  cases rule with
  | installs app here out asked after clicks =>
      have fair : (app.click out).Fair := by
        rw [asked] at fair
        exact ⟨fair.executable, fair.early⟩
      obtain ⟨more, added, selected⟩ := Desk.step_installed clicks
      refine ⟨sound, backed.files.rule read unmarked (Desk.step_rule fair plain clicks),
        new ++ more, by rw [added, installed, List.append_assoc], fun e inside => ?_⟩
      rcases List.mem_append.mp inside with before | now
      · exact offered e before
      · have shows := backed.sound.showsLastList here
        exact offered_lastList (shows.shown ▸ shows.selected _ (selected e now))
  | elapses | lookup | signals | quits | idle | refuses | spawns | lists | errs | hangs | closes =>
      exact ⟨sound, backed.files, new, installed, offered⟩

end Connect

/-- A code that is read is not blank. -/
theorem ConnectApp.coded_of_decode {crates : Crates} {address : String → Option SocketAddr}
    {app : ConnectApp} {pairing : Config}
    (decoded : decode crates address app.settings.pairingCode = .ok pairing) : app.coded = true := by
  have required := requiredValue_code decoded ""
  simp only [requiredValue] at required
  split at required
  · cases required
  · rename_i solid
    have nonempty : (trimmed app.settings.pairingCode).isEmpty = false := by
      rw [Bool.eq_false_iff]
      intro empty
      rw [String.isEmpty_iff] at empty
      rw [empty] at solid
      exact solid rfl
    rw [ConnectApp.coded, nonempty]
    rfl

namespace Connect

def connectSettings : ConnectSettings := (clickOn .configure "rssh-a".toList).settings

/-- The window behind its first `update`. -/
def looking (desk : Desk) : Connect where
  app := some
    { ConnectApp.new connectSettings false 0 with
      status := "正在查找在线设备…"
      connectionState := .connecting
      refreshRx := some 0
      refreshCancel := some 0
      firstUpdate := false }
  lookups := [.spawn ⟨trimmed "198.51.100.10:24443", List.replicate 32 7,
    trimmed (String.ofList (List.replicate 32 'c'))⟩]
  desk := desk
  signals := ⟨false, false⟩
  clock := 0

theorem first_update (windows : Bool) (desk : Desk) :
    step Pairing.crates relayAddress (fun _ => true) windows homeSetup
      (start connectSettings false desk) (.update false (.ok ())) = some (looking desk) := by
  have decoded : decode Pairing.crates relayAddress connectSettings.pairingCode = _ :=
    clickOn_decodes .configure "rssh-a".toList
  have coded :
      (ConnectApp.coded { ConnectApp.new connectSettings false 0 with firstUpdate := false }) = true :=
    ConnectApp.coded_of_decode decoded
  have asked : ConnectApp.refresh Pairing.crates relayAddress
      { ConnectApp.new connectSettings false 0 with firstUpdate := false } [] (.ok ()) =
        ({ ConnectApp.new connectSettings false 0 with
            status := "正在查找在线设备…"
            connectionState := .connecting
            refreshRx := some 0
            refreshCancel := some 0
            firstUpdate := false }, (looking desk).lookups) := by
    simp only [ConnectApp.refresh, ConnectApp.new, Option.isSome_none, Bool.false_eq_true, if_false,
      decoded]
    rfl
  have looked : ConnectApp.lookUp Pairing.crates relayAddress (.new connectSettings false 0) [] 0
      (.ok ()) = some (ConnectApp.refresh Pairing.crates relayAddress
        { ConnectApp.new connectSettings false 0 with firstUpdate := false } [] (.ok ())) := by
    have polled : (ConnectApp.new connectSettings false 0).pollRefresh [] 0 =
        some (.new connectSettings false 0, []) := rfl
    have first : (ConnectApp.new connectSettings false 0).firstUpdate = true := rfl
    simp only [ConnectApp.lookUp, polled, Option.map_some, first, if_true, coded]
  have quiet : (if windows then (ConnectApp.new connectSettings false 0).pollTray ⟨false, false⟩ false
      else (ConnectApp.new connectSettings false 0, ⟨false, false⟩)) =
        (ConnectApp.new connectSettings false 0, ⟨false, false⟩) := by
    cases windows <;> rfl
  simp only [step, start, windowStep, ConnectApp.update, quiet, looked, Option.map_some, asked]
  rfl

/-- A lookup finds a device, and it is selected. -/
def looks : List ConnectAct :=
  [.lookup 0 (.runtime (.ok ())), .lookup 0 .greeted, .lookup 0 (.reply (.helloOk [])),
    .lookup 0 (.reply (.deviceList [⟨"rssh-a"⟩])), .elapse 250, .update false (.ok ()),
    .select "rssh-a".toList]

set_option maxRecDepth 4000 in
theorem looks_run (desk : Desk) :
    (exec (step Pairing.crates relayAddress (fun _ => true) false homeSetup) (looking desk)
      looks).isSome = true := rfl

def looked (desk : Desk) : Connect :=
  (exec (step Pairing.crates relayAddress (fun _ => true) false homeSetup) (looking desk) looks).get
    (looks_run desk)

theorem looked_run (desk : Desk) :
    exec (step Pairing.crates relayAddress (fun _ => true) false homeSetup)
      (start connectSettings false desk) (.update false (.ok ()) :: looks) = some (looked desk) := by
  simp only [exec, first_update, Option.bind_some]
  exact (Option.some_get _).symm

/-- The tray's menu is asked to close the window while it waits. -/
def leaves : List ConnectAct := [.trayQuit, .update true (.ok ())]

theorem leaves_run (desk : Desk) : ∃ c,
    exec (step Pairing.crates relayAddress (fun _ => true) true homeSetup)
      (start connectSettings false desk) (.update false (.ok ()) :: leaves) = some c ∧
    c.app.map (fun app => (app.connectionState, app.refreshRx)) = some (.stopped, some 0) := by
  simp only [exec, first_update, Option.bind_some]
  exact ⟨_, rfl, rfl⟩

theorem one_lookup_window : ∃ c : Connect,
    c.app.map (fun app => (app.connectionState, app.refreshRx)) = some (.stopped, some 0) ∧
    c.OneLookup Pairing.crates relayAddress true homeSetup (fun _ => true)
      (.update false (.ok ()) :: leaves) := by
  obtain ⟨c, run, stopped⟩ := leaves_run (.start userConfig none)
  exact ⟨c, stopped, one_lookup run⟩

theorem shows_last_list_window : ∃ app, (looked (.start userConfig none)).app = some app ∧
    app.devices = ["rssh-a".toList] ∧ (looked (.start userConfig none)).ShowsLastList app := by
  have opened : (looked (.start userConfig none)).app.isSome = true := by decide +kernel
  obtain ⟨app, here⟩ := Option.isSome_iff_exists.mp opened
  have listed : (looked (.start userConfig none)).app.map ConnectApp.devices =
      some ["rssh-a".toList] := by decide +kernel
  rw [here] at listed
  exact ⟨app, here, Option.some.inj listed, shows_last_list (looked_run _) here⟩

end Connect

end RustSsh.Desktop
