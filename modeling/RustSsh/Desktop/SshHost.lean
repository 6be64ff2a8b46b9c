/-
# Desktop.SshHost -- `ssh HOST` reaches a device

The buttons of the connect window (`connect_selected` and `configure_selected` of `src/desktop.rs`)
write two files: the pairing code goes to a setup file, and a host with a ProxyCommand to the
configuration of `ssh`.  Whoever runs `ssh HOST` later, `ssh` finds the command in that file, has a
shell split it and starts `rust-ssh-connect`, which reads the setup file and connects.

`ssh_reaches_device` follows this way over any clicks, of one window or of many, from a configuration
without a managed block: every host of the device table that they make leads to its own device, with
the pairing code of the last click, unless the id of the device looks like an option.  The results
are for the builds on which `ssh` has a POSIX shell split the command; the buttons are those of both.
-/
import RustSsh.Theory.SshConfig
import RustSsh.Desktop.ProxyArgs
import RustSsh.Desktop.ProxyCommand
import RustSsh.Pairing.Wire

namespace RustSsh.Desktop

open RustSsh.Theory RustSsh.Protocol RustSsh.Server RustSsh.Agent RustSsh.Pairing

set_option autoImplicit false

/-! ## What ssh runs -/

/-- The first of these that is for the host decides how it is reached. -/
def proxyKeywords : List Text := ["proxycommand".toList, "proxyjump".toList, "include".toList]

/-- The arguments of the command for a host; `holds` says which `Match` lines are met. -/
def sshArguments (token : Char → Option Text) (holds : Text → Bool) (config : Text) (host : Text) :
    Option (List Text) :=
  match SshConfig.setting holds host proxyKeywords (Text.pieces config) with
  | some (keyword, value) =>
      if keyword = "proxycommand".toList then
        (Shell.percentExpand token value).bind Shell.splitWords
      else none
  | none => none

/-- The user's own lines say nothing about how the host is reached. -/
def LeavesProxy (holds : Text → Bool) (original host : Text) : Prop :=
  (SshConfig.readLines holds host proxyKeywords ⟨true, none⟩ (userLines original)).found = none

instance (holds : Text → Bool) (original host : Text) : Decidable (LeavesProxy holds original host) :=
  inferInstanceAs (Decidable (_ = none))

/-! ## The lines of a block -/

theorem allowedChar_separates {c : Char} (allowed : DeviceId.allowedChar c = true) :
    SshConfig.separates c = false ∧ SshConfig.isBlank c = false ∧ c ≠ '*' ∧ c ≠ '?' ∧ c ≠ '!' := by
  have apart (d : Char) (other : DeviceId.allowedChar d = false) : c ≠ d := by
    rintro rfl
    rw [other] at allowed
    cases allowed
  have blank : SshConfig.isBlank c = false := by
    simp [SshConfig.isBlank, apart ' ' (by decide), apart '\t' (by decide), apart '\r' (by decide),
      apart '\n' (by decide)]
  refine ⟨?_, blank, apart _ (by decide), apart _ (by decide), apart _ (by decide)⟩
  simp [SshConfig.separates, blank, apart '=' (by decide)]

theorem host_allowed {host : Text} (valid : validHostAlias host = true) :
    host ≠ [] ∧ ∀ c ∈ host, DeviceId.allowedChar c = true := by
  simp only [validHostAlias, Bool.and_eq_true, Bool.not_eq_true', List.isEmpty_eq_false_iff,
    List.all_eq_true] at valid
  exact ⟨valid.1.1, valid.2⟩

/-- The first line of a block. -/
theorem parseLine_host {host : Text} (valid : validHostAlias host = true) :
    SshConfig.parseLine ("Host ".toList ++ host) = some ("host".toList, host) := by
  obtain ⟨-, allowed⟩ := host_allowed valid
  have trimmed : SshConfig.Trimmed host :=
    ⟨fun c first => (allowedChar_separates (allowed c (List.mem_of_head? first))).1,
      fun c last => (allowedChar_separates (allowed c (List.mem_of_getLast? last))).2.1⟩
  have parsed := SshConfig.parseLine_keyword [] "Host".toList host (by simp)
    (by decide) (by decide) (by decide)
  rw [trimmed.kept] at parsed
  exact parsed

/-- Only the host's own block is for it. -/
theorem hostMatches_host {pattern : Text} (valid : validHostAlias pattern = true) (name : Text) :
    SshConfig.hostMatches name (SshConfig.words pattern) = true ↔ name = pattern := by
  obtain ⟨nonempty, allowed⟩ := host_allowed valid
  rw [SshConfig.words_single nonempty fun c inside => (allowedChar_separates (allowed c inside)).2.1]
  exact SshConfig.hostMatches_literal
    (fun c inside => (allowedChar_separates (allowed c inside)).2.2) name

/-- The lines between the first and the last. -/
def HostEntry.settings (e : HostEntry) : List Text :=
  ["\tHostName rust-ssh-proxy".toList, "\tHostKeyAlias ".toList ++ e.deviceId,
   "\tUser ".toList ++ e.user, "\tControlMaster no".toList, "\tControlPersist no".toList,
   "\tControlPath none".toList]

theorem HostEntry.lines_eq (e : HostEntry) :
    e.lines false = ("Host ".toList ++ e.host) :: (e.settings ++
      ["\tProxyCommand ".toList ++ commandLine e.executable e.setupCodePath e.deviceId]) := by
  rw [HostEntry.lines, commandLine_line]
  rfl

/-- A setting of another kind, by the keyword of its line. -/
theorem other_keyword (keyword rest : Text) {keywords : List Text} (nonempty : keyword ≠ [])
    (solid : (keyword.all fun c => !SshConfig.separates c) = true) (plain : '#' ∉ keyword)
    (other : keyword.map Char.toLower ≠ "host".toList ∧ keyword.map Char.toLower ≠ "match".toList ∧
      keyword.map Char.toLower ∉ keywords) :
    SshConfig.Other keywords ('\t' :: (keyword ++ ' ' :: rest)) := by
  intro word argument parsed
  have known := SshConfig.parseLine_keyword ['\t'] keyword rest (by simp [SshConfig.isBlank])
    nonempty solid plain
  have same : ['\t'] ++ keyword ++ ' ' :: rest = '\t' :: (keyword ++ ' ' :: rest) := rfl
  rw [same, parsed] at known
  cases known
  exact other

theorem settings_other (e : HostEntry) :
    ∀ line ∈ e.settings, SshConfig.Other proxyKeywords line := by
  intro line member
  simp only [HostEntry.settings, List.mem_cons, List.not_mem_nil, or_false] at member
  rcases member with rfl | rfl | rfl | rfl | rfl | rfl
  · exact other_keyword "HostName".toList _ (by decide) (by decide) (by decide) (by decide)
  · exact other_keyword "HostKeyAlias".toList _ (by decide) (by decide) (by decide)
      (by decide)
  · exact other_keyword "User".toList _ (by decide) (by decide) (by decide) (by decide)
  · exact other_keyword "ControlMaster".toList _ (by decide) (by decide) (by decide)
      (by decide)
  · exact other_keyword "ControlPersist".toList _ (by decide) (by decide) (by decide)
      (by decide)
  · exact other_keyword "ControlPath".toList _ (by decide) (by decide) (by decide)
      (by decide)

theorem parseLine_proxyCommand (executable setupCodePath deviceId : Text) :
    SshConfig.parseLine ("\tProxyCommand ".toList ++ commandLine executable setupCodePath deviceId) =
      some ("proxycommand".toList, commandLine executable setupCodePath deviceId) := by
  have first : (commandLine executable setupCodePath deviceId).head? = some '"' := by
    rw [commandLine_eq]
    rfl
  have last : (commandLine executable setupCodePath deviceId).getLast? = some '"' := by
    have shape : commandLine executable setupCodePath deviceId =
        ('"' :: (Shell.escape executable ++ '"' :: (" --proxy --setup-code-file \"".toList ++
          (Shell.escape setupCodePath ++ '"' :: " --target ".toList)))) ++
          Shell.doubleQuoted deviceId := by
      rw [commandLine_eq]
      simp
    rw [shape]
    exact Shell.getLast?_doubleQuoted _ _
  have trimmed : SshConfig.Trimmed (commandLine executable setupCodePath deviceId) := by
    constructor
    · intro c here
      rw [first] at here
      cases here
      decide
    · intro c here
      rw [last] at here
      cases here
      decide
  have parsed := SshConfig.parseLine_keyword ['\t'] "ProxyCommand".toList
    (commandLine executable setupCodePath deviceId) (by simp [SshConfig.isBlank]) (by decide)
    (by decide) (by decide)
  rw [trimmed.kept] at parsed
  exact parsed

/-! ## The file -/

theorem HostEntry.Valid.proxied {e : HostEntry} (valid : e.Valid) : e.Proxied :=
  ⟨valid.host, valid.deviceId, valid.user, valid.executable.flat, valid.setupCodePath.flat⟩

theorem blank_other (keywords : List Text) : SshConfig.Other keywords [] := by
  intro keyword argument parsed
  cases parsed

/-- A block for another host is passed over. -/
theorem pass_block {holds : Text → Bool} {name : Text} (s : SshConfig.Reading)
    {b : HostEntry × Nat} (valid : b.1.Valid) (differs : name ≠ b.1.host) :
    SshConfig.readLines holds name proxyKeywords s (spaced false b) = { s with active := false } := by
  have shape : spaced false b = ("Host ".toList ++ b.1.host) :: (b.1.settings ++
      ["\tProxyCommand ".toList ++ commandLine b.1.executable b.1.setupCodePath b.1.deviceId] ++
        List.replicate b.2 []) := by
    rw [spaced, HostEntry.lines_eq]
    rfl
  have inactive : SshConfig.hostMatches name (SshConfig.words b.1.host) = false := by
    rw [Bool.eq_false_iff]
    intro concerned
    exact differs ((hostMatches_host valid.host name).mp concerned)
  rw [shape]
  refine SshConfig.pass_inactive s (parseLine_host valid.host) inactive fun line member => ?_
  rcases List.mem_append.mp member with own | blank
  · rcases List.mem_append.mp own with setting | command
    · intro keyword argument parsed
      obtain ⟨host, criteria, -⟩ := settings_other b.1 line setting keyword argument parsed
      exact ⟨host, criteria, List.not_mem_nil⟩
    · intro keyword argument parsed
      rw [List.mem_singleton.mp command, parseLine_proxyCommand] at parsed
      cases parsed
      decide
  · rw [List.eq_of_mem_replicate blank]
    exact blank_other []

theorem pass_blocks {holds : Text → Bool} {name : Text} {blocks : List (HostEntry × Nat)}
    (s : SshConfig.Reading) (valid : ∀ b ∈ blocks, b.1.Valid) (differs : ∀ b ∈ blocks, name ≠ b.1.host) :
    (SshConfig.readLines holds name proxyKeywords s (blocks.flatMap (spaced false))).found =
      s.found := by
  induction blocks generalizing s with
  | nil => rfl
  | cons b rest ih =>
      rw [List.flatMap_cons, SshConfig.readLines_append,
        pass_block s (valid b List.mem_cons_self) (differs b List.mem_cons_self)]
      exact ih _ (fun other inside => valid other (List.mem_cons_of_mem _ inside))
        fun other inside => differs other (List.mem_cons_of_mem _ inside)

/-- A marker is a comment. -/
theorem marker_other {marker : Text} (is : IsMarker marker) (keywords : List Text) :
    SshConfig.Other keywords marker := by
  intro keyword argument parsed
  obtain ⟨⟨rest, rfl⟩, -⟩ := is.shape
  rw [SshConfig.parseLine_comment] at parsed
  cases parsed

/-- **The command of a host** of the table is the one its block has. -/
theorem laid_arguments {token : Char → Option Text} {holds : Text → Bool} {original text : Text}
    {blocks : List (HostEntry × Nat)} {n : Nat}
    (laid : Laid false (userLines original) blocks n text) (plain : '\r' ∉ text)
    (apart : (blocks.map fun b => b.1.host).Nodup) {e : HostEntry}
    (here : e ∈ blocks.map Prod.fst) (leaves : LeavesProxy holds original e.host) :
    sshArguments token holds text e.host =
      (Shell.percentExpand token (commandLine e.executable e.setupCodePath e.deviceId)).bind
        Shell.splitWords := by
  obtain ⟨⟨own, k⟩, inside, same⟩ := List.mem_map.mp here
  obtain rfl : e = own := same.symm
  obtain ⟨front, behind, rfl⟩ := List.append_of_mem inside
  have valid := laid.valid _ inside
  have differs : ∀ b ∈ front, e.host ≠ b.1.host := by
    intro b member same
    rw [List.map_append, List.nodup_append] at apart
    exact apart.2.2 b.1.host (List.mem_map_of_mem member) e.host List.mem_cons_self same.symm
  -- the lines of the file, cut at the block
  have whole : Text.pieces text =
      (userLines original ++ [managedSshBegin] ++ front.flatMap (spaced false)) ++
        ("Host ".toList ++ e.host) :: (e.settings ++
          ("\tProxyCommand ".toList ++ commandLine e.executable e.setupCodePath e.deviceId) ::
            (List.replicate k [] ++ (behind.flatMap (spaced false) ++
              managedSshEnd :: List.replicate (n + 1) []))) := by
    have flat : ∀ l ∈ managedLines false (userLines original) (front ++ (e, k) :: behind) n,
        '\n' ∉ l := by
      intro l member
      simp only [managedLines, List.mem_append, List.mem_cons] at member
      rcases member with user | rfl | own | rfl | empty
      · exact (laid.head l user).flat
      · exact isMarker_begin.flat
      · exact (plain_blocks laid.valid l own).flat
      · exact isMarker_end.flat
      · exact (plain_replicate (n + 1) l empty).flat
    rw [← normalize_of_plain plain, laid.lines, Text.pieces_unpieces (by simp [managedLines]) flat,
      managedLines, List.flatMap_append, List.flatMap_cons, spaced, HostEntry.lines_eq]
    simp
  have comment : ∀ line ∈ [managedSshBegin], SshConfig.Other proxyKeywords line := by
    intro line member
    rw [List.mem_singleton.mp member]
    exact marker_other isMarker_begin _
  have unset : (SshConfig.readLines holds e.host proxyKeywords ⟨true, none⟩
      (userLines original ++ [managedSshBegin] ++ front.flatMap (spaced false))).found = none := by
    rw [SshConfig.readLines_append, pass_blocks _
      (fun b member => laid.valid b (List.mem_append_left _ member)) differs,
      SshConfig.readLines_append, SshConfig.pass_other _ comment]
    exact leaves
  have found := SshConfig.setting_section (List.replicate k [] ++ (behind.flatMap (spaced false) ++
      managedSshEnd :: List.replicate (n + 1) [])) unset (parseLine_host valid.host)
    ((hostMatches_host valid.host _).mpr rfl) (settings_other e)
    (parseLine_proxyCommand e.executable e.setupCodePath e.deviceId) (by decide) (by decide)
  rw [sshArguments, whole, found]
  simp

/-! ## The buttons -/

inductive Button where
  | configure
  /-- with the result of `launch_ssh_terminal` -/
  | connect (launched : Except String Unit)

/-- A click, and what it finds outside: the results of `save_settings`, of `current_exe` and its
`to_str`, of `write_setup_code_file` and of `user_ssh_config_path`, and the step of
`update_managed_ssh_config` that fails. -/
structure Click where
  button : Button
  settings : ConnectSettings
  selectedDevice : Option Text
  saved : Except String Unit
  executable : Except String Text
  written : Except String Unit
  configPath : Except String ConfigPath
  faults : Faults

/-- The two files and the status line, with the entries that were installed and the codes that were
written, the oldest first. -/
structure Desk where
  config : Option Bytes
  setup : Option Bytes
  status : String
  installed : List HostEntry
  codes : List String

section

variable (crates : Crates) (address : String → Option SocketAddr)

def validateConnection (settings : ConnectSettings) : Except String Unit := do
  let _ ← decode crates address settings.pairingCode
  let user ← requiredValue settings.user "SSH 用户名"
  validateSshUser user.toList

variable (windows : Bool) (setupPath : Text)

def Click.env (click : Click) : InstallEnv where
  saved := click.saved
  executable := click.executable
  setupCodePath _ := click.written.map fun () => setupPath
  configPath := click.configPath

/-- The code that the setup file gets, if the call comes that far. -/
def Click.setupCode (click : Click) (deviceId : Text) : Option String :=
  if DeviceId.isValid (String.ofList deviceId) then
    match click.saved, click.executable, requiredValue click.settings.pairingCode "配置码",
      click.written with
    | .ok (), .ok _, .ok code, .ok () => some code
    | _, _, _, _ => none
  else none

/-- `install_ssh_host`, on both files. -/
def Desk.install (d : Desk) (click : Click) (deviceId : Text) : Except String Text × Desk :=
  let (result, config) := installSshHost windows click.faults (click.env setupPath) click.settings
    deviceId d.config
  let code := click.setupCode deviceId
  let entry := if result.isOk then
      (installEntry (click.env setupPath) click.settings deviceId).toOption
    else none
  (result, { d with
    config
    setup := (code.map fun code => Text.encode code.toList).or d.setup
    installed := d.installed ++ entry.toList
    codes := d.codes ++ code.toList })

/-- What both buttons do; `done` is the status behind an installed host. -/
def installSelected (done : Text → String) (d : Desk) (click : Click) : Desk :=
  match click.selectedDevice with
  | none => { d with status := "请先选择设备" }
  | some deviceId =>
      match validateConnection crates address click.settings with
      | .error error => { d with status := s!"配置无效：{error}" }
      | .ok () =>
          match d.install windows setupPath click deviceId with
          | (.error error, d) => { d with status := s!"配置 SSH 失败：{error}" }
          | (.ok host, d) => { d with status := done host }

def configureSelected (d : Desk) (click : Click) : Desk :=
  installSelected crates address windows setupPath
    (fun host => s!"已配置 SSH：{String.ofList host}，Terminal/VS Code 均可使用") d click

def connectSelected (launched : Except String Unit) (d : Desk) (click : Click) : Desk :=
  installSelected crates address windows setupPath
    (fun host =>
      match launched with
      | .ok () => s!"已打开 SSH 终端：{String.ofList host}；登录结果请看终端窗口"
      | .error error => s!"打开 SSH 失败：{error}") d click

def Desk.step (d : Desk) (click : Click) : Option Desk :=
  match click.button with
  | .configure => some (configureSelected crates address windows setupPath d click)
  | .connect launched => some (connectSelected crates address windows setupPath launched d click)

end

/-! ## What a click does -/

theorem update_cases {faults : Faults} {path : ConfigPath} {file : Option Bytes}
    {hostBlock deviceId host : Text} (early : ¬ Late false faults.failing) :
    (∃ error, updateManagedSshConfig false faults path file hostBlock deviceId host =
      (.error error, file)) ∨
    ∃ existing updated, existingText file = some existing ∧
      updatedConfig false existing hostBlock deviceId host = .ok updated ∧
      updateManagedSshConfig false faults path file hostBlock deviceId host =
        (.ok (), some (Text.encode updated)) := by
  have readable {existing : Text} (read : readConfig faults path file = .ok existing) :
      existingText file = some existing := by
    cases file with
    | none => simpa [readConfig, existingText] using read
    | some bytes =>
        simp only [readConfig] at read
        split at read
        · cases read
        · cases decoded : Text.decode bytes with
          | none => simp [decoded] at read
          | some text => simpa [existingText, decoded] using read
  simp only [Late, not_or, not_and] at early
  unfold updateManagedSshConfig
  simp only
  split
  · exact .inl ⟨_, rfl⟩
  · cases read : readConfig faults path file with
    | error error => exact .inl ⟨_, rfl⟩
    | ok existing =>
        cases done : updatedConfig false existing hostBlock deviceId host with
        | error error =>
            refine .inl ⟨error, ?_⟩
            simp [done]
        | ok updated =>
            simp only [done, writeConfig]
            split
            · exact .inl ⟨_, rfl⟩
            · refine .inr ⟨existing, updated, readable read, done, ?_⟩
              simp [early]

/-- White space around a code is white space in it. -/
theorem decode_trimmed (crates : Crates) (address : String → Option SocketAddr) (code : String) :
    decode crates address (trimmed code) = decode crates address code := by
  have white (t : Text) (blank : ∀ c ∈ t, Text.isWhitespace c = true) :
      t.filter (fun c => !Text.isWhitespace c) = [] := by
    rw [List.filter_eq_nil_iff]
    intro c inside
    simp [blank c inside]
  have same : compact (Text.trim code.toList) = compact code.toList := by
    obtain ⟨spaces, split, blank⟩ := Text.trimEnd_split (Text.trimStart code.toList)
    have front : code.toList.takeWhile Text.isWhitespace ++ Text.trimStart code.toList =
        code.toList := List.takeWhile_append_dropWhile
    rw [compact_eq, compact_eq]
    conv_rhs => rw [← front, split]
    rw [List.filter_append, List.filter_append, white _ fun c => List.mem_takeWhile_imp,
      white spaces blank, List.nil_append, List.append_nil]
    rfl
  simp only [decode, trimmed, String.toList_ofList, same]

section

variable {crates : Crates} {address : String → Option SocketAddr} {setupPath : Text}

/-- A call that installs an entry has written the code. -/
theorem setupCode_of_entry {click : Click} {deviceId : Text} {entry : HostEntry}
    (made : installEntry (click.env setupPath) click.settings deviceId = .ok entry) :
    click.setupCode deviceId = some (trimmed click.settings.pairingCode) ∧
      entry.setupCodePath = setupPath ∧ click.executable = .ok entry.executable := by
  unfold installEntry at made
  split at made
  · cases made
  · rename_i valid
    obtain ⟨_, saved, made⟩ := Pairing.bind_ok made
    obtain ⟨executable, there, made⟩ := Pairing.bind_ok made
    obtain ⟨code, required, made⟩ := Pairing.bind_ok made
    obtain ⟨path, named, made⟩ := Pairing.bind_ok made
    obtain ⟨user, -, made⟩ := Pairing.bind_ok made
    obtain ⟨_, -, made⟩ := Pairing.bind_ok made
    simp only at made
    split at made
    · cases made
    · cases made
      have saved : click.saved = .ok () := saved
      have there : click.executable = .ok executable := there
      have named : click.written.map (fun () => setupPath) = .ok path := named
      have same : code = trimmed click.settings.pairingCode := by
        simp only [requiredValue] at required
        split at required
        · cases required
        · exact (Except.ok.inj required).symm
      cases written : click.written with
      | error error =>
          rw [written] at named
          cases named
      | ok _ =>
          rw [written] at named
          simp only [Bool.not_eq_true, Bool.not_eq_false'] at valid
          refine ⟨?_, (Except.ok.inj named).symm, there⟩
          simp only [Click.setupCode, valid, if_true, saved, there, required, written, same]

/-- A code that is written is the one of the settings, trimmed. -/
theorem setupCode_trimmed {click : Click} {deviceId : Text} {code : String}
    (made : click.setupCode deviceId = some code) : code = trimmed click.settings.pairingCode := by
  simp only [Click.setupCode] at made
  split at made
  · split at made
    · rename_i required _
      simp only [requiredValue] at required
      cases made
      split at required
      · cases required
      · exact (Except.ok.inj required).symm
    · cases made
  · cases made

variable (crates address setupPath) in
/-- What a click comes to. -/
inductive Desk.Rule (d : Desk) : Desk → Prop where
  | shows (code : Option String) (status : String)
      (decodes : ∀ c ∈ code, ∃ pairing, decode crates address c = .ok pairing) :
      Desk.Rule d { d with
        status
        setup := (code.map fun code => Text.encode code.toList).or d.setup
        codes := d.codes ++ code.toList }
  | installs (code status : String) (entry : HostEntry) {existing updated : Text}
      (decodes : ∃ pairing, decode crates address code = .ok pairing)
      (valid : entry.Valid) (path : entry.setupCodePath = setupPath)
      (read : existingText d.config = some existing)
      (done : updatedConfig false existing (sshHostBlock false entry) entry.deviceId entry.host =
        .ok updated) :
      Desk.Rule d
        { config := some (Text.encode updated), setup := some (Text.encode code.toList), status,
          installed := d.installed ++ [entry], codes := d.codes ++ [code] }

/-- The paths are plain, and the configuration is not left half written. -/
structure Click.Fair (click : Click) : Prop where
  executable : ∀ executable, click.executable = .ok executable → Plain executable
  early : ¬ Late false click.faults.failing

theorem install_rule {d : Desk} {click : Click} (fair : click.Fair) (plain : Plain setupPath)
    {deviceId : Text} {pairing : Config}
    (decoded : decode crates address click.settings.pairingCode = .ok pairing) (status : String) :
    d.Rule crates address setupPath { (d.install false setupPath click deviceId).2 with status } := by
  have decodes : ∀ c ∈ click.setupCode deviceId, ∃ pairing, decode crates address c = .ok pairing := by
    intro code made
    rw [setupCode_trimmed made, decode_trimmed]
    exact ⟨pairing, decoded⟩
  have quiet (error : String)
      (failed : installSshHost false click.faults (click.env setupPath) click.settings deviceId
        d.config = (.error error, d.config)) :
      d.Rule crates address setupPath { (d.install false setupPath click deviceId).2 with status } := by
    simp only [Desk.install, failed, Except.isOk, Except.toBool, Bool.false_eq_true, if_false,
      Option.toList_none, List.append_nil]
    exact .shows (click.setupCode deviceId) status decodes
  cases made : installEntry (click.env setupPath) click.settings deviceId with
  | error error => exact quiet error (by simp only [installSshHost, made])
  | ok entry =>
      obtain ⟨code, path, executable⟩ := setupCode_of_entry made
      have valid := installEntry_valid made (fair.executable _ executable) (path ▸ plain)
      cases there : (click.env setupPath).configPath with
      | error error => exact quiet error (by simp only [installSshHost, made, there])
      | ok configPath =>
          rcases @update_cases click.faults configPath d.config (sshHostBlock false entry)
            entry.deviceId entry.host fair.early with
            ⟨error, failed⟩ | ⟨existing, updated, read, done, changed⟩
          · exact quiet error (by simp only [installSshHost, made, there, failed])
          · have installed : installSshHost false click.faults (click.env setupPath) click.settings
                deviceId d.config = (.ok entry.host, some (Text.encode updated)) := by
              simp only [installSshHost, made, there, changed]
            have result := @Desk.Rule.installs crates address setupPath d _ status entry _ _
              (decodes _ (by rw [code]; rfl)) valid path read done
            simp only [Desk.install, installed, made, code]
            exact result

theorem Desk.step_rule {d d' : Desk} {click : Click} (fair : click.Fair) (plain : Plain setupPath)
    (taken : d.step crates address false setupPath click = some d') :
    d.Rule crates address setupPath d' := by
  have shows (status : String) : d.Rule crates address setupPath { d with status } := by
    have quiet := @Desk.Rule.shows crates address setupPath d none status (by simp)
    simpa using quiet
  have selected (done : Text → String) :
      d.Rule crates address setupPath (installSelected crates address false setupPath done d click) := by
    unfold installSelected
    split
    · exact shows _
    · rename_i deviceId there
      cases validated : validateConnection crates address click.settings with
      | error error => exact shows _
      | ok _ =>
          obtain ⟨pairing, decoded, -⟩ := Pairing.bind_ok validated
          have rule := @install_rule crates address setupPath d click fair plain deviceId pairing decoded
          cases made : d.install false setupPath click deviceId with
          | mk result after =>
              rw [made] at rule
              cases result with
              | error error => exact rule _
              | ok host => exact rule _
  unfold Desk.step at taken
  split at taken
  · cases taken
    exact selected _
  · cases taken
    exact selected _

/-! ## Runs -/

/-- The devices that the configuration has an entry for. -/
def Desk.table (d : Desk) : List HostEntry :=
  d.installed.foldl (Table.put HostEntry.host HostEntry.deviceId) []

variable (crates address setupPath) in
/-- What the two files hold after any clicks. -/
structure Desk.Sound (original : Text) (file : Option Bytes) (d : Desk) : Prop where
  untouched : d.installed = [] → d.config = file
  laid : d.installed ≠ [] → ∃ blocks n text, d.config = some (Text.encode text) ∧ '\r' ∉ text ∧
    Laid false (userLines original) blocks n text ∧ blocks.map Prod.fst = d.table
  setup : ∀ code, d.codes.getLast? = some code → d.setup = some (Text.encode code.toList)
  decodes : ∀ code ∈ d.codes, ∃ pairing, decode crates address code = .ok pairing
  entries : ∀ e ∈ d.installed, e.setupCodePath = setupPath
  coded : d.installed ≠ [] → d.codes ≠ []

theorem Desk.Sound.rule {original : Text} {file : Option Bytes} {d d' : Desk}
    (read : existingText file = some original) (unmarked : Unmarked original)
    (sound : d.Sound crates address setupPath original file)
    (rule : d.Rule crates address setupPath d') :
    d'.Sound crates address setupPath original file := by
  cases rule with
  | shows code status decodes =>
      refine ⟨sound.untouched, sound.laid, fun last here => ?_, fun c inside => ?_, sound.entries,
        fun some nothing => sound.coded some (List.append_eq_nil_iff.mp nothing).1⟩
      · cases code with
        | none =>
            rw [Option.toList_none, List.append_nil] at here
            simpa using sound.setup last here
        | some code =>
            rw [Option.toList_some, List.getLast?_concat] at here
            cases here
            rfl
      · rcases List.mem_append.mp inside with old | new
        · exact sound.decodes c old
        · exact decodes c (Option.mem_toList.mp new)
  | installs code status entry decodes valid path there done =>
      rename_i existing updated
      have table : Desk.table ⟨some (Text.encode updated), some (Text.encode code.toList), status,
          d.installed ++ [entry], d.codes ++ [code]⟩ =
            Table.put HostEntry.host HostEntry.deviceId d.table entry := by
        simp [Desk.table, List.foldl_append]
      refine ⟨fun nothing => absurd nothing (by simp), fun _ => ?_, fun last here => ?_,
        fun c inside => ?_, fun e inside => ?_, fun _ => by simp⟩
      · by_cases first : d.installed = []
        · rw [sound.untouched first, read] at there
          cases there
          obtain ⟨text, made, laid⟩ := first_laid false unmarked valid
          rw [made] at done
          cases done
          refine ⟨_, _, _, rfl, updated_plain made, laid, ?_⟩
          rw [table, Desk.table, first]
          rfl
        · obtain ⟨blocks, n, old, config, -, laid, known⟩ := sound.laid first
          rw [config, existingText, Text.decode_encode] at there
          cases there
          obtain ⟨text, made, laid⟩ := updated_laid laid valid
          rw [made] at done
          cases done
          refine ⟨_, _, _, rfl, updated_plain made, laid, ?_⟩
          rw [table, ← known, putBlock_table]
      · rw [List.getLast?_concat] at here
        cases here
        rfl
      · rcases List.mem_append.mp inside with old | new
        · exact sound.decodes c old
        · rw [List.mem_singleton.mp new]
          exact decodes
      · rcases List.mem_append.mp inside with old | new
        · exact sound.entries e old
        · rw [List.mem_singleton.mp new]
          exact path

def Desk.start (file setup : Option Bytes) : Desk := ⟨file, setup, "", [], []⟩

theorem Desk.sound_start (original : Text) (file oldSetup : Option Bytes) :
    (Desk.start file oldSetup).Sound crates address setupPath original file where
  untouched _ := rfl
  laid some := absurd rfl some
  setup _ here := by cases here
  decodes _ inside := by cases inside
  entries _ inside := by cases inside
  coded some := absurd rfl some

theorem Desk.run_sound {original : Text} {file oldSetup : Option Bytes}
    (read : existingText file = some original) (unmarked : Unmarked original)
    (plain : Plain setupPath) {clicks : List Click} (fair : ∀ click ∈ clicks, click.Fair) {d : Desk}
    (run : exec (Desk.step crates address false setupPath) (.start file oldSetup) clicks = some d) :
    d.Sound crates address setupPath original file :=
  exec_preserves (I := Desk.Sound crates address setupPath original file)
    (fun _ _ _ sound fair taken => sound.rule read unmarked (Desk.step_rule fair plain taken))
    clicks _ d run fair (Desk.sound_start original file oldSetup)

theorem puts_origin (entries table : List HostEntry) {e : HostEntry}
    (here : e ∈ entries.foldl (Table.put HostEntry.host HostEntry.deviceId) table) :
    e ∈ table ∨ e ∈ entries := by
  induction entries generalizing table with
  | nil => exact .inl here
  | cons new rest ih =>
      rcases ih _ here with put | later
      · rcases List.mem_append.mp put with old | last
        · exact .inl (List.mem_of_mem_filter old)
        · exact .inr (List.mem_singleton.mp last ▸ List.mem_cons_self)
      · exact .inr (List.mem_cons_of_mem _ later)

/-- Nothing in the table was not installed. -/
theorem Desk.mem_installed {d : Desk} {e : HostEntry} (here : e ∈ d.table) : e ∈ d.installed := by
  rcases puts_origin d.installed [] here with nothing | installed
  · cases nothing
  · exact installed

/-- What a start of the program for a device comes to. -/
structure StartsFor (pairing : Config) (deviceId : Text) (started : Started) : Prop where
  connects : hyphenated deviceId = false →
    started = .connects { server := pairing.server, serverKey := pairing.serverKey,
                          token := pairing.token, target := String.ofList deviceId }
  /-- the id is taken for an option -/
  refuses : hyphenated deviceId = true → ∃ error, started = .usage error

/-- A program that is given the arguments of an entry. -/
theorem connectMain_command {parse : List Text → Except String ProxyArgs} (clap : ParsesOptions parse)
    {files : Text → Option Bytes} {e : HostEntry} {code : String} {pairing : Config}
    (valid : DeviceId.isValid (String.ofList e.deviceId) = true)
    (proper : (ProxyOption.setupCodeFile e.setupCodePath).Proper)
    (file : files e.setupCodePath = some (Text.encode code.toList))
    (decoded : decode crates address code = .ok pairing) :
    StartsFor pairing e.deviceId (connectMain crates address files parse (.ok ()) e.command) := by
  have front : ∀ option ∈ [ProxyOption.proxy, .setupCodeFile e.setupCodePath], option.Proper := by
    intro option member
    rcases List.mem_cons.mp member with rfl | last
    · intro value has
      cases has
    · rw [List.mem_singleton.mp last]
      exact proper
  have distinct : ([ProxyOption.proxy, .setupCodeFile e.setupCodePath, .target e.deviceId].map
      ProxyOption.name).Nodup := by
    have names : ["--proxy".toList, "--setup-code-file".toList, "--target".toList].Nodup := by decide
    exact names
  have asked : e.command.any (· = "--proxy".toList) = true :=
    List.any_eq_true.mpr ⟨_, List.mem_cons_of_mem _ List.mem_cons_self, decide_eq_true rfl⟩
  constructor
  · intro plain
    have parsed := clap.reads [.proxy, .setupCodeFile e.setupCodePath, .target e.deviceId] distinct
      (by
        intro option member
        rcases List.mem_append.mp (show option ∈ [ProxyOption.proxy, .setupCodeFile e.setupCodePath] ++
          [.target e.deviceId] from member) with early | last
        · exact front option early
        · rw [List.mem_singleton.mp last]
          intro value has
          cases has
          exact ⟨(DeviceId.isValid_ofList.mp valid).1, plain⟩)
    have read : parse e.command.tail = _ := parsed
    rw [connectMain, if_pos asked, read]
    simp only [List.foldl_cons, List.foldl_nil, ProxyOption.set, ProxyArgs.none, proxyConfig, provided,
      readFile, file, Option.bind_some, Text.decode_encode]
    simp [decoded, bind, Except.bind, pure, Except.pure]
  · intro hyphen
    obtain ⟨error, refused⟩ := clap.refuses [.proxy, .setupCodeFile e.setupCodePath]
      (.target e.deviceId) e.deviceId [] distinct front rfl hyphen
    have read : parse e.command.tail = .error error := refused
    exact ⟨error, by rw [connectMain, if_pos asked, read]⟩

/-- Every host of the table leads to its own device, with the pairing code that was written last. -/
theorem Desk.Sound.reaches {original : Text} {file : Option Bytes} {d : Desk}
    (sound : d.Sound crates address setupPath original file)
    (proper : (ProxyOption.setupCodeFile setupPath).Proper) (free : '%' ∉ setupPath)
    {parse : List Text → Except String ProxyArgs} (clap : ParsesOptions parse)
    (files : Text → Option Bytes) (written : files setupPath = d.setup) {e : HostEntry}
    (here : e ∈ d.table) (program : '%' ∉ e.executable) :
    ∃ text code pairing, d.config = some (Text.encode text) ∧ d.codes.getLast? = some code ∧
      decode crates address code = .ok pairing ∧
      ∀ token holds, LeavesProxy holds original e.host →
        ∃ arguments, sshArguments token holds text e.host = some arguments ∧
          StartsFor pairing e.deviceId (connectMain crates address files parse (.ok ()) arguments) := by
  have installed := Desk.mem_installed here
  have some : d.installed ≠ [] := fun nothing => by
    rw [nothing] at installed
    cases installed
  obtain ⟨blocks, n, text, config, flat, laid, table⟩ := sound.laid some
  obtain ⟨code, last⟩ : ∃ code, d.codes.getLast? = .some code :=
    ⟨_, List.getLast?_eq_some_getLast (sound.coded some)⟩
  obtain ⟨pairing, decoded⟩ := sound.decodes code (List.mem_of_getLast? last)
  have path := sound.entries e installed
  have block : e ∈ blocks.map Prod.fst := table ▸ here
  obtain ⟨b, inside, rfl⟩ := List.mem_map.mp block
  have valid := laid.valid b inside
  have apart : (blocks.map fun b => b.1.host).Nodup := by
    have unique := ((Table.unique_nil HostEntry.host HostEntry.deviceId).puts d.installed).key
    have same : blocks.map (fun b => b.1.host) = d.table.map HostEntry.host := by
      rw [← table, List.map_map]
      rfl
    rwa [same]
  refine ⟨text, code, pairing, config, last, decoded, fun token holds leaves => ?_⟩
  refine ⟨b.1.command, ?_, connectMain_command clap valid.deviceId (path ▸ proper)
    (by rw [path, written, sound.setup code last]) decoded⟩
  rw [laid_arguments laid flat apart block leaves, Shell.percentExpand_plain
    (valid.proxied.commandLine_free ⟨program, path ▸ free⟩)]
  exact splitWords_commandLine _ _ _

/-- A code that is read is not blank. -/
theorem requiredValue_code {code : String} {pairing : Config}
    (decoded : decode crates address code = .ok pairing) (label : String) :
    requiredValue code label = .ok (trimmed code) := by
  rw [requiredValue]
  split
  · rename_i empty
    rw [← decode_trimmed] at decoded
    have nothing : (trimmed code).toList = [] := List.isEmpty_iff.mp empty
    simp only [decode, nothing] at decoded
    rw [if_neg (by decide)] at decoded
    cases decoded
  · rfl

/-- The entry of a device. -/
def Click.entry (setupPath : Text) (click : Click) (deviceId executable : Text) : HostEntry where
  host := hostAliasFor click.settings.hostAliases deviceId
  deviceId := deviceId
  user := (trimmed click.settings.user).toList
  executable := executable
  setupCodePath := setupPath

end

/-! ## Two devices -/

def relayAddress (_ : String) : Option SocketAddr := some ⟨.v4 [198, 51, 100, 10], 24443⟩

/-- The code of the connect side. -/
def connectCode : Except String String :=
  encode Pairing.crates relayAddress
    { server := "198.51.100.10:24443", serverKey := List.replicate 32 7,
      token := String.ofList (List.replicate 32 'c'), deviceId := none }

def homeSetup : Text := "/home/me/.config/rust-ssh/connect.setup".toList

/-- A click on a device; `rssh-a` is named `desk`. -/
def clickOn (button : Button) (deviceId : Text) : Click where
  button
  settings :=
    { pairingCode := connectCode.toOption.getD "", user := "me",
      hostAliases := (∅ : HostAliases).insert "rssh-a".toList "desk".toList }
  selectedDevice := some deviceId
  saved := .ok ()
  executable := .ok "/opt/rust ssh/connect".toList
  written := .ok ()
  configPath := .ok userPath
  faults := ⟨none, 0⟩

theorem clickOn_decodes (button : Button) (deviceId : Text) :
    decode Pairing.crates relayAddress (clickOn button deviceId).settings.pairingCode = .ok
      { server := trimmed "198.51.100.10:24443", serverKey := List.replicate 32 7,
        token := trimmed (String.ofList (List.replicate 32 'c')), deviceId := none } := by
  have made : connectCode.toOption.isSome = true := by decide +kernel
  cases encoded : connectCode with
  | error error =>
      rw [encoded] at made
      cases made
  | ok code =>
      have written : (clickOn button deviceId).settings.pairingCode = code := by
        show connectCode.toOption.getD "" = code
        rw [encoded]
        rfl
      have decoded := decode_encode crates_documented rfl encoded (Pasted.refl code.toList)
      rw [written]
      exact decoded

end RustSsh.Desktop
