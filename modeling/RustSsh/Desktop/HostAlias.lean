/-
# Desktop.HostAlias -- the host names of devices

`host_alias_for`, `save_host_alias` and `install_ssh_host` of `src/desktop.rs`.  A device
goes by the name saved for it, or else by its own id.  `save_host_alias` looks for a new
name among the saved names only, so a device may be named after another device that goes
by its id; and it leaves the configuration of `ssh` as it is, so the entry of a renamed
device stands under its old name until the device is installed again.  `hosts_identify` says
that these are the only ways two devices get one name and an install takes out the entry
of another device.
-/
import RustSsh.Desktop.ClientSettings
import RustSsh.Desktop.SshTable
import RustSsh.Theory.Run

namespace RustSsh.Desktop

open RustSsh.Theory RustSsh.Protocol

set_option autoImplicit false

/-! ## The source's functions -/

abbrev HostAliases := HashMap Text Text

/-- `connect.json`. -/
structure ConnectSettings where
  pairingCode : String
  user : String
  hostAliases : HostAliases

def hostAliasFor (aliases : HostAliases) (deviceId : Text) : Text :=
  ((aliases.lookup deviceId).filter validHostAlias).getD deviceId

/-- Another device has this name saved. -/
def usedByOther (aliases : HostAliases) (deviceId name : Text) : Bool :=
  aliases.entries.any fun entry => entry.1 != deviceId && entry.2 == name

/-- The names and the status line; `saved` is the result of `save_settings`. -/
def saveHostAlias (saved : Except String Unit) (aliases : HostAliases) (deviceId value : Text) :
    HostAliases × String :=
  let name := value.trim
  let status (done : String) : String :=
    match saved with
    | .ok () => done
    | .error error => s!"保存 Host 昵称失败：{error}"
  if name = [] ∨ name = deviceId then (aliases.erase deviceId, status "已恢复默认 Host 昵称")
  else if !validHostAlias name then (aliases, "Host 昵称只能使用字母、数字、点、下划线和短横线")
  else if usedByOther aliases deviceId name then (aliases, "这个 Host 昵称已经被其他设备使用")
  else (aliases.insert deviceId name, status s!"Host 昵称已设置为 {String.ofList name}")

/-- What `install_ssh_host` finds outside: the results of `save_settings`, of `current_exe`
and its `to_str`, of `write_setup_code_file` and its `to_str`, and of `user_ssh_config_path`. -/
structure InstallEnv where
  saved : Except String Unit
  executable : Except String Text
  setupCodePath : String → Except String Text
  configPath : Except String ConfigPath

/-- The entry `install_ssh_host` makes of the settings. -/
def installEntry (env : InstallEnv) (settings : ConnectSettings) (deviceId : Text) :
    Except String HostEntry := do
  if !DeviceId.isValid (String.ofList deviceId) then .error "设备 ID 包含不支持的字符"
  else do
    env.saved
    let executable ← env.executable
    let setupCode ← requiredValue settings.pairingCode "配置码"
    let setupCodePath ← env.setupCodePath setupCode
    let user ← requiredValue settings.user "SSH 用户名"
    validateSshUser user.toList
    let host := hostAliasFor settings.hostAliases deviceId
    if !validHostAlias host then .error "Host 昵称包含不支持的字符"
    else return { host, deviceId, user := user.toList, executable, setupCodePath }

def installSshHost (windows : Bool) (faults : Faults) (env : InstallEnv) (settings : ConnectSettings)
    (deviceId : Text) (file : Option Bytes) : Except String Text × Option Bytes :=
  match installEntry env settings deviceId with
  | .error error => (.error error, file)
  | .ok entry =>
      match env.configPath with
      | .error error => (.error error, file)
      | .ok path =>
          match updateManagedSshConfig windows faults path file (sshHostBlock windows entry)
            entry.deviceId entry.host with
          | (.ok (), file) => (.ok entry.host, file)
          | (.error error, file) => (.error error, file)

/-- The entry stands under the name the device goes by, and has passed the checks. -/
theorem installEntry_ok {env : InstallEnv} {settings : ConnectSettings} {deviceId : Text}
    {entry : HostEntry} (made : installEntry env settings deviceId = .ok entry) :
    entry.deviceId = deviceId ∧ entry.host = hostAliasFor settings.hostAliases deviceId ∧
      DeviceId.isValid (String.ofList entry.deviceId) = true ∧
      validHostAlias entry.host = true ∧ validateSshUser entry.user = .ok () := by
  unfold installEntry at made
  split at made
  · cases made
  · rename_i valid
    obtain ⟨_, -, made⟩ := Pairing.bind_ok made
    obtain ⟨executable, -, made⟩ := Pairing.bind_ok made
    obtain ⟨setupCode, -, made⟩ := Pairing.bind_ok made
    obtain ⟨setupCodePath, -, made⟩ := Pairing.bind_ok made
    obtain ⟨user, -, made⟩ := Pairing.bind_ok made
    obtain ⟨_, checked, made⟩ := Pairing.bind_ok made
    simp only at made
    split at made
    · cases made
    · rename_i named
      cases made
      exact ⟨rfl, rfl, by simpa using valid, by simpa using named, checked⟩

/-- With two plain paths it is an entry the file is a table of. -/
theorem installEntry_valid {env : InstallEnv} {settings : ConnectSettings} {deviceId : Text}
    {entry : HostEntry} (made : installEntry env settings deviceId = .ok entry)
    (executable : Plain entry.executable) (setupCodePath : Plain entry.setupCodePath) :
    entry.Valid := by
  obtain ⟨-, -, valid, host, user⟩ := installEntry_ok made
  exact ⟨host, valid, user, executable, setupCodePath⟩

/-! ## Runs -/

/-- A call of `save_host_alias`. -/
structure AliasCall where
  deviceId : Text
  value : Text
  saved : Except String Unit

/-- A call of `install_ssh_host`, with the settings besides the names. -/
structure InstallCall where
  deviceId : Text
  pairingCode : String
  user : String
  env : InstallEnv

inductive HostCall where
  | saveAlias (call : AliasCall)
  | install (call : InstallCall)

/-- The names saved, and the entries of the managed block. -/
structure Hosts where
  aliases : HostAliases
  table : List HostEntry

def InstallCall.entry (call : InstallCall) (aliases : HostAliases) : Except String HostEntry :=
  installEntry call.env ⟨call.pairingCode, call.user, aliases⟩ call.deviceId

def hostStep (s : Hosts) : HostCall → Option Hosts
  | .saveAlias call =>
      some { s with aliases := (saveHostAlias call.saved s.aliases call.deviceId call.value).1 }
  | .install call =>
      match call.entry s.aliases with
      | .ok entry => some { s with table := Table.put HostEntry.host HostEntry.deviceId s.table entry }
      | .error _ => some s

/-- On a file with a managed block an install does to the file what it does to the table. -/
theorem installSshHost_laid {windows : Bool} {head : List Text} {blocks : List (HostEntry × Nat)}
    {n : Nat} {text : Text} (laid : Laid windows head blocks n text) {file : Option Bytes}
    (read : existingText file = some text) {call : InstallCall} {aliases : HostAliases}
    {entry : HostEntry} (made : call.entry aliases = .ok entry) (valid : entry.Valid)
    {path : ConfigPath} (known : call.env.configPath = .ok path) :
    ∃ text' blocks', installSshHost windows ⟨none, 0⟩ call.env
        ⟨call.pairingCode, call.user, aliases⟩ call.deviceId file =
          (.ok entry.host, some (Text.encode text')) ∧
      Laid windows head blocks' (n + 1) text' ∧
      hostStep ⟨aliases, blocks.map Prod.fst⟩ (.install call) =
        some ⟨aliases, blocks'.map Prod.fst⟩ := by
  obtain ⟨text', done, laid'⟩ := updated_laid laid valid
  refine ⟨text', putBlock blocks entry, ?_, laid', ?_⟩
  · have made' : installEntry call.env ⟨call.pairingCode, call.user, aliases⟩ call.deviceId =
        .ok entry := made
    simp only [installSshHost, made', known, updateManagedSshConfig_ok read done]
  · simp only [hostStep, made, putBlock_table]

/-- What the map holds after any calls: valid names other than the id, each once. -/
structure Named (aliases : HostAliases) : Prop where
  valid : ∀ d name, aliases.lookup d = some name → validHostAlias name = true ∧ name ≠ d
  once : ∀ d d' name, aliases.lookup d = some name → aliases.lookup d' = some name → d = d'

theorem usedByOther_eq_false {aliases : HostAliases} {deviceId name : Text} :
    usedByOther aliases deviceId name = false ↔
      ∀ d, aliases.lookup d = some name → d = deviceId := by
  rw [usedByOther, List.any_eq_false]
  constructor
  · intro free d found
    have entry := free ⟨d, name⟩ (AList.mem_lookup_iff.mp found)
    simpa using entry
  · rintro free ⟨d, other⟩ member
    have known := free d
    simp only [Bool.and_eq_true, bne_iff_ne, beq_iff_eq, not_and]
    rintro different rfl
    exact different (known (AList.mem_lookup_iff.mpr member))

/-- What a call does to the saved names. -/
inductive AliasEffect (aliases : HostAliases) (call : AliasCall) : HostAliases → Prop where
  | clears (empty : call.value.trim = [] ∨ call.value.trim = call.deviceId) :
      AliasEffect aliases call (aliases.erase call.deviceId)
  | refuses (solid : ¬ (call.value.trim = [] ∨ call.value.trim = call.deviceId))
      (bad : ¬ (validHostAlias call.value.trim = true ∧
        usedByOther aliases call.deviceId call.value.trim = false)) :
      AliasEffect aliases call aliases
  | names (solid : ¬ (call.value.trim = [] ∨ call.value.trim = call.deviceId))
      (valid : validHostAlias call.value.trim = true)
      (free : usedByOther aliases call.deviceId call.value.trim = false) :
      AliasEffect aliases call (aliases.insert call.deviceId call.value.trim)

theorem Named.step {aliases after : HostAliases} {call : AliasCall} (named : Named aliases)
    (effect : AliasEffect aliases call after) : Named after := by
  cases effect with
  | clears =>
      refine ⟨?_, ?_⟩
      · intro d name found
        exact named.valid d name (HashMap.lookup_erase_iff.mp found).2
      · intro d d' name found found'
        exact named.once d d' name (HashMap.lookup_erase_iff.mp found).2
          (HashMap.lookup_erase_iff.mp found').2
  | refuses => exact named
  | names solid valid free =>
      have unused := usedByOther_eq_false.mp free
      refine ⟨?_, ?_⟩
      · intro d name found
        rcases HashMap.lookup_insert_iff.mp found with ⟨rfl, rfl⟩ | ⟨-, old⟩
        · exact ⟨valid, fun same => solid (.inr same)⟩
        · exact named.valid d name old
      · intro d d' name found found'
        rcases HashMap.lookup_insert_iff.mp found with ⟨rfl, rfl⟩ | ⟨other, old⟩
        · rcases HashMap.lookup_insert_iff.mp found' with ⟨rfl, -⟩ | ⟨-, old'⟩
          · rfl
          · exact (unused d' old').symm
        · rcases HashMap.lookup_insert_iff.mp found' with ⟨rfl, rfl⟩ | ⟨-, old'⟩
          · exact absurd (unused d old) other
          · exact named.once d d' name old old'

/-! ## Names that identify devices -/

/-- Nobody is named after a device that goes by its own id. -/
def NoneShadowed (devices : Set Text) (aliases : HostAliases) : Prop :=
  ∀ d ∈ devices, ∀ name ∈ devices, aliases.lookup d = some name → (aliases.lookup name).isSome = true

/-- The call names no device after one that goes by its own id, and gives back to no device
the id another one is named after. -/
def SparesId (devices : Set Text) (aliases : HostAliases) (call : AliasCall) : Prop :=
  let name := call.value.trim
  if name = [] ∨ name = call.deviceId then
    call.deviceId ∈ devices → ∀ d ∈ devices, d ≠ call.deviceId →
      aliases.lookup d ≠ some call.deviceId
  else
    validHostAlias name = true → usedByOther aliases call.deviceId name = false →
      call.deviceId ∈ devices → name ∈ devices → (aliases.lookup name).isSome = true

/-- The entry of another device, of before that was renamed, does not stand under the name of
the one that is installed. -/
def SparesStale (devices : Set Text) (s : Hosts) (call : InstallCall) : Prop :=
  call.deviceId ∈ devices → ∀ entry, call.entry s.aliases = .ok entry →
    ∀ e ∈ s.table, e.deviceId ∈ devices → e.deviceId ≠ call.deviceId →
      e.host ≠ hostAliasFor s.aliases e.deviceId →
      e.host ≠ hostAliasFor s.aliases call.deviceId

def Spares (devices : Set Text) (s : Hosts) : HostCall → Prop
  | .saveAlias call => SparesId devices s.aliases call
  | .install call => SparesStale devices s call

theorem NoneShadowed.step {devices : Set Text} {aliases after : HostAliases} {call : AliasCall}
    (clear : NoneShadowed devices aliases) (effect : AliasEffect aliases call after) :
    NoneShadowed devices after ↔ SparesId devices aliases call := by
  unfold SparesId
  cases effect with
  | clears empty =>
      simp only [empty, if_true]
      constructor
      · intro still own d member other named
        have found : (aliases.erase call.deviceId).lookup d = some call.deviceId :=
          HashMap.lookup_erase_iff.mpr ⟨other, named⟩
        have gone := still d member call.deviceId own found
        simp [AList.lookup_erase] at gone
      · intro free d member name after found
        obtain ⟨other, old⟩ := HashMap.lookup_erase_iff.mp found
        have kept : name ≠ call.deviceId := by
          rintro rfl
          exact free after d member other old
        rw [AList.lookup_erase_ne kept]
        exact clear d member name after old
  | refuses solid bad =>
      rw [if_neg solid]
      constructor
      · intro _ valid free
        exact absurd ⟨valid, free⟩ bad
      · intro _
        exact clear
  | names solid valid free =>
      rw [if_neg solid]
      constructor
      · intro still _ _ own after
        have found := still call.deviceId own call.value.trim after (AList.lookup_insert aliases)
        rwa [AList.lookup_insert_ne fun same => solid (.inr same)] at found
      · intro taken d member name after found
        have more {x : Text} (old : (aliases.lookup x).isSome = true) :
            ((aliases.insert call.deviceId call.value.trim).lookup x).isSome = true := by
          by_cases here : x = call.deviceId
          · rw [here, AList.lookup_insert]
            rfl
          · rwa [AList.lookup_insert_ne here]
        rcases HashMap.lookup_insert_iff.mp found with ⟨rfl, rfl⟩ | ⟨-, old⟩
        · exact more (taken valid free member after)
        · exact more (clear d member name after old)

end RustSsh.Desktop
