/-
# Desktop.ClientStore -- the device id across launches

`load_settings` and `load_client_settings` of `src/desktop.rs`, with the file they read and
save.  An id is invented in four places: for a field that is missing (`#[serde(default)]`
takes it from `Default`), for a file that does not read, for another config version and for a
blank id.  Only the last two, and the first launch, save what they invented; the exact
condition is `Keeps` (`device_id_stable`).

What `serde_json` makes of the text is a parameter (`SettingsText`).
-/
import RustSsh.Desktop.ClientSettings
import RustSsh.Pairing.Wire

namespace RustSsh.Desktop

open RustSsh.Theory RustSsh.Protocol RustSsh.Server RustSsh.Agent RustSsh.Pairing

set_option autoImplicit false

/-! ## Generated ids -/

/-- `device_id::generate`; `keypair` is the private key that `generate_keypair` drew. -/
def generateDeviceId (crates : Crates) (keypair : Except String Bytes) : Except String String :=
  match keypair with
  | .error error => .error s!"generating device identity: {error}"
  | .ok key =>
      if key.length < DeviceId.generatedRandomBytes then
        .error "generated device identity has an invalid random source"
      else
        .ok (String.ofList (DeviceId.generatedPrefix ++
          crates.hexEncode (key.take DeviceId.generatedRandomBytes)))

def newDeviceId (crates : Crates) (keypair : Except String Bytes) : String :=
  match generateDeviceId crates keypair with
  | .ok id => id
  | .error _ => "rssh-device-uninitialized"

/-! ## The settings -/

/-- `CLIENT_CONFIG_VERSION`. -/
def clientConfigVersion : UInt8 := 1

/-- `ClientSettings::default`, with the id it generates. -/
def ClientSettings.default (deviceId : String) : ClientSettings where
  pairingCode := ""
  deviceId := deviceId
  target := "127.0.0.1:22"
  configVersion := clientConfigVersion

/-- The fields that a text has. -/
structure SavedSettings where
  pairingCode : Option String
  deviceId : Option String
  target : Option String
  configVersion : Option UInt8
  deriving DecidableEq, Repr

/-- `#[serde(default)]`: what is missing is the default's. -/
def SavedSettings.fill (saved : SavedSettings) (default : ClientSettings) : ClientSettings where
  pairingCode := saved.pairingCode.getD default.pairingCode
  deviceId := saved.deviceId.getD default.deviceId
  target := saved.target.getD default.target
  configVersion := saved.configVersion.getD default.configVersion

def ClientSettings.saved (settings : ClientSettings) : SavedSettings where
  pairingCode := some settings.pairingCode
  deviceId := some settings.deviceId
  target := some settings.target
  configVersion := some settings.configVersion

/-- `serde_json::to_vec_pretty` and `serde_json::from_str` on the settings. -/
structure SettingsText where
  toVecPretty : ClientSettings → Bytes
  fromStr : String → Option SavedSettings

/-- What a file says, if it is a text of settings. -/
def SettingsText.read (text : SettingsText) (bytes : Bytes) : Option SavedSettings :=
  (readString bytes).bind text.fromStr

/-- What was printed is read, all of its fields. -/
def SettingsText.Documented (text : SettingsText) : Prop :=
  ∀ settings : ClientSettings, text.read (text.toVecPretty settings) = some settings.saved

/-! ## Loading -/

/-- `load_settings` behind the migration. -/
def loadSettings {T : Type} (read : Bytes → Option T) (default : T) (file : Option Bytes) : T :=
  (file.bind read).getD default

/-- What the environment has for one launch: the old file that `migrate_legacy_config` copies
where there is no `client.json`, and the keys that its ids are made of. -/
structure Launch where
  legacy : Option Bytes
  missing : Except String Bytes
  fallback : Except String Bytes
  outdated : Except String Bytes
  blank : Except String Bytes

/-- The ids of a launch, whether it takes them or not. -/
def Launch.ids (crates : Crates) (launch : Launch) : List String :=
  [newDeviceId crates launch.missing, newDeviceId crates launch.fallback,
    newDeviceId crates launch.outdated, newDeviceId crates launch.blank]

/-- `load_client_settings`: the settings, and the file it leaves; saving succeeds. -/
def loadClientSettings (crates : Crates) (text : SettingsText) (launch : Launch)
    (file : Option Bytes) : ClientSettings × Option Bytes :=
  let file := file.or launch.legacy
  let missing := ClientSettings.default (newDeviceId crates launch.missing)
  let settings := loadSettings (fun bytes => (text.read bytes).map fun saved => saved.fill missing)
    (ClientSettings.default (newDeviceId crates launch.fallback)) file
  let changed := file.isNone
  let (settings, changed) :=
    if settings.configVersion ≠ clientConfigVersion then
      ({ settings with
          deviceId := newDeviceId crates launch.outdated
          pairingCode := ""
          configVersion := clientConfigVersion }, true)
    else (settings, changed)
  let (settings, changed) :=
    if Text.blank settings.deviceId.toList then
      ({ settings with deviceId := newDeviceId crates launch.blank }, true)
    else (settings, changed)
  (settings, if changed then some (text.toVecPretty settings) else file)

/-- The id in the file is the id of later launches: there is no file yet, or it reads and has
an id, or a config version that is not the current one. -/
def Keeps (text : SettingsText) (file : Option Bytes) : Prop :=
  ∀ bytes, file = some bytes → ∃ saved, text.read bytes = some saved ∧
    (saved.deviceId.isSome = true ∨
      ∃ version, saved.configVersion = some version ∧ version ≠ clientConfigVersion)

/-! ## What a launch does -/

section

variable {crates : Crates} {text : SettingsText}

/-- A generated id starts with a letter. -/
theorem newDeviceId_solid (crates : Crates) (keypair : Except String Bytes) :
    Text.blank (newDeviceId crates keypair).toList = false := by
  have letter (t : Text) : Text.blank ('r' :: t) = false := by
    simp [Text.blank, Text.isWhitespace]
  unfold newDeviceId
  cases generated : generateDeviceId crates keypair with
  | error error =>
      show Text.blank "rssh-device-uninitialized".toList = false
      decide
  | ok id =>
      unfold generateDeviceId at generated
      cases keypair with
      | error error => cases generated
      | ok key =>
          simp only at generated
          split at generated
          · cases generated
          · cases generated
            rw [String.toList_ofList]
            exact letter _

/-- The ways through a launch, from the file behind the migration to the settings and the file
that is left. -/
inductive Loads (crates : Crates) (text : SettingsText) (launch : Launch) :
    Option Bytes → ClientSettings → Option Bytes → Prop where
  | first (settings : ClientSettings)
      (new : settings = .default (newDeviceId crates launch.fallback)) :
      Loads crates text launch none settings (some (text.toVecPretty settings))
  /-- nothing is saved -/
  | unreadable {bytes : Bytes} (bad : text.read bytes = none) :
      Loads crates text launch (some bytes) (.default (newDeviceId crates launch.fallback))
        (some bytes)
  | outdated {bytes : Bytes} {saved : SavedSettings} {version : UInt8} (settings : ClientSettings)
      (parsed : text.read bytes = some saved) (old : saved.configVersion = some version)
      (other : version ≠ clientConfigVersion)
      (new : settings.deviceId = newDeviceId crates launch.outdated)
      (current : settings.configVersion = clientConfigVersion) :
      Loads crates text launch (some bytes) settings (some (text.toVecPretty settings))
  | blank {bytes : Bytes} {saved : SavedSettings} {id : String} (settings : ClientSettings)
      (parsed : text.read bytes = some saved) (named : saved.deviceId = some id)
      (empty : Text.blank id.toList = true)
      (new : settings.deviceId = newDeviceId crates launch.blank)
      (current : settings.configVersion = clientConfigVersion) :
      Loads crates text launch (some bytes) settings (some (text.toVecPretty settings))
  | kept {bytes : Bytes} {saved : SavedSettings} {id : String} (settings : ClientSettings)
      (parsed : text.read bytes = some saved) (named : saved.deviceId = some id)
      (same : settings.deviceId = id) (solid : Text.blank id.toList = false)
      (current : saved.configVersion.getD clientConfigVersion = clientConfigVersion) :
      Loads crates text launch (some bytes) settings (some bytes)
  /-- the id is invented for the missing field, and not saved -/
  | unnamed {bytes : Bytes} {saved : SavedSettings} (settings : ClientSettings)
      (parsed : text.read bytes = some saved) (named : saved.deviceId = none)
      (current : saved.configVersion.getD clientConfigVersion = clientConfigVersion)
      (new : settings.deviceId = newDeviceId crates launch.missing) :
      Loads crates text launch (some bytes) settings (some bytes)

theorem loadClientSettings_loads (launch : Launch) (file : Option Bytes) :
    Loads crates text launch (file.or launch.legacy)
      (loadClientSettings crates text launch file).1
      (loadClientSettings crates text launch file).2 := by
  unfold loadClientSettings
  generalize file.or launch.legacy = file
  have solid := newDeviceId_solid crates
  cases file with
  | none =>
      simp only [loadSettings, Option.bind_none, Option.getD_none, ClientSettings.default, solid,
        ne_eq, not_true_eq_false, if_false, Bool.false_eq_true, Option.isNone_none, if_true]
      exact .first _ rfl
  | some bytes =>
      cases parsed : text.read bytes with
      | none =>
          simp only [loadSettings, Option.bind_some, parsed, Option.map_none, Option.getD_none,
            ClientSettings.default, solid, ne_eq, not_true_eq_false, if_false, Bool.false_eq_true,
            Option.isNone_some]
          exact .unreadable parsed
      | some saved =>
          simp only [loadSettings, Option.bind_some, parsed, Option.map_some, Option.getD_some,
            SavedSettings.fill, ClientSettings.default, Option.isNone_some]
          by_cases current : saved.configVersion.getD clientConfigVersion = clientConfigVersion
          · simp only [current, ne_eq, not_true_eq_false, if_false]
            cases named : saved.deviceId with
            | none =>
                simp only [Option.getD_none, solid, Bool.false_eq_true, if_false]
                exact .unnamed _ parsed named current rfl
            | some id =>
                cases empty : Text.blank id.toList with
                | true =>
                    simp only [Option.getD_some, empty, if_true]
                    exact .blank _ parsed named empty rfl rfl
                | false =>
                    simp only [Option.getD_some, empty, Bool.false_eq_true, if_false]
                    exact .kept _ parsed named rfl empty current
          · obtain ⟨version, old, other⟩ : ∃ version, saved.configVersion = some version ∧
                version ≠ clientConfigVersion := by
              cases old : saved.configVersion with
              | none => simp [old] at current
              | some version => exact ⟨version, rfl, by simpa [old] using current⟩
            simp only [current, ne_eq, not_false_eq_true, if_true, solid, Bool.false_eq_true,
              if_false]
            exact .outdated _ parsed old other rfl rfl

/-- What was saved is loaded as it was. -/
theorem reload (documented : text.Documented) (launch : Launch) {settings : ClientSettings}
    (current : settings.configVersion = clientConfigVersion)
    (solid : Text.blank settings.deviceId.toList = false) :
    loadClientSettings crates text launch (some (text.toVecPretty settings)) =
      (settings, some (text.toVecPretty settings)) := by
  obtain ⟨pairingCode, deviceId, target, configVersion⟩ := settings
  simp only at current solid
  subst current
  simp only [loadClientSettings, loadSettings, Option.some_or, Option.bind_some, documented _,
    Option.map_some, Option.getD_some, SavedSettings.fill, ClientSettings.saved, solid, ne_eq,
    not_true_eq_false, if_false, Bool.false_eq_true, Option.isNone_some]

section Inversion

variable {launch : Launch} {bytes : Bytes} {saved : SavedSettings} {settings : ClientSettings}
  {left : Option Bytes}

theorem Loads.of_unreadable (loads : Loads crates text launch (some bytes) settings left)
    (bad : text.read bytes = none) : settings.deviceId = newDeviceId crates launch.fallback := by
  cases loads with
  | unreadable => rfl
  | outdated _ parsed | blank _ parsed | kept _ parsed | unnamed _ parsed =>
      rw [bad] at parsed
      cases parsed

theorem Loads.of_unnamed (loads : Loads crates text launch (some bytes) settings left)
    (parsed : text.read bytes = some saved) (named : saved.deviceId = none)
    (current : saved.configVersion.getD clientConfigVersion = clientConfigVersion) :
    settings.deviceId = newDeviceId crates launch.missing := by
  cases loads with
  | unreadable bad =>
      rw [bad] at parsed
      cases parsed
  | outdated _ parsed' old other =>
      obtain rfl := Option.some.inj (parsed.symm.trans parsed')
      rw [old] at current
      exact absurd current other
  | blank _ parsed' named' | kept _ parsed' named' =>
      obtain rfl := Option.some.inj (parsed.symm.trans parsed')
      rw [named] at named'
      cases named'
  | unnamed _ parsed' named' current' new => exact new

theorem Loads.of_kept {id : String} (loads : Loads crates text launch (some bytes) settings left)
    (parsed : text.read bytes = some saved) (named : saved.deviceId = some id)
    (solid : Text.blank id.toList = false)
    (current : saved.configVersion.getD clientConfigVersion = clientConfigVersion) :
    settings.deviceId = id ∧ left = some bytes := by
  cases loads with
  | unreadable bad =>
      rw [bad] at parsed
      cases parsed
  | outdated _ parsed' old other =>
      obtain rfl := Option.some.inj (parsed.symm.trans parsed')
      rw [old] at current
      exact absurd current other
  | blank _ parsed' named' empty =>
      obtain rfl := Option.some.inj (parsed.symm.trans parsed')
      obtain rfl := Option.some.inj (named.symm.trans named')
      rw [solid] at empty
      cases empty
  | kept _ parsed' named' same =>
      obtain rfl := Option.some.inj (parsed.symm.trans parsed')
      obtain rfl := Option.some.inj (named.symm.trans named')
      exact ⟨same, rfl⟩
  | unnamed _ parsed' named' =>
      obtain rfl := Option.some.inj (parsed.symm.trans parsed')
      rw [named] at named'
      cases named'

end Inversion

/-- A launch that finds a file. -/
theorem loads_of_file (crates : Crates) (text : SettingsText) (launch : Launch) (bytes : Bytes) :
    Loads crates text launch (some bytes) (loadClientSettings crates text launch (some bytes)).1
      (loadClientSettings crates text launch (some bytes)).2 :=
  loadClientSettings_loads launch (some bytes)

/-- The file gives this id at every launch, and is left as it is. -/
def Fixed (crates : Crates) (text : SettingsText) (file : Option Bytes) (id : String) : Prop :=
  ∀ launch, (loadClientSettings crates text launch file).1.deviceId = id ∧
    (loadClientSettings crates text launch file).2 = file

theorem fixed_saved (documented : text.Documented) {settings : ClientSettings}
    (current : settings.configVersion = clientConfigVersion)
    (solid : Text.blank settings.deviceId.toList = false) :
    Fixed crates text (some (text.toVecPretty settings)) settings.deviceId := by
  intro launch
  rw [reload documented launch current solid]
  exact ⟨rfl, rfl⟩

/-- A launch that keeps its id leaves a file that fixes it. -/
theorem Loads.fixed (documented : text.Documented) {launch : Launch} {file left : Option Bytes}
    {settings : ClientSettings} (loads : Loads crates text launch file settings left)
    (keeps : Keeps text file) : Fixed crates text left settings.deviceId := by
  cases loads with
  | first _ new =>
      subst new
      exact fixed_saved documented rfl (newDeviceId_solid ..)
  | unreadable bad =>
      obtain ⟨saved, parsed, -⟩ := keeps _ rfl
      rw [bad] at parsed
      cases parsed
  | outdated _ _ _ _ new current | blank _ _ _ _ new current =>
      refine fixed_saved documented current ?_
      rw [new]
      exact newDeviceId_solid ..
  | kept _ parsed named same solid current =>
      intro launch
      rw [same]
      exact (loads_of_file crates text launch _).of_kept parsed named solid current
  | unnamed _ parsed named current =>
      obtain ⟨saved, parsed', held⟩ := keeps _ rfl
      obtain rfl := Option.some.inj (parsed.symm.trans parsed')
      rcases held with some_ | ⟨version, old, other⟩
      · rw [named] at some_
        cases some_
      · rw [old] at current
        exact absurd current other

/-- The ids of successive launches. -/
def launchIds (crates : Crates) (text : SettingsText) : Option Bytes → List Launch → List String
  | _, [] => []
  | file, launch :: later =>
      (loadClientSettings crates text launch file).1.deviceId ::
        launchIds crates text (loadClientSettings crates text launch file).2 later

theorem Fixed.launchIds {file : Option Bytes} {id : String} (fixed : Fixed crates text file id) :
    ∀ launches : List Launch, ∀ other ∈ launchIds crates text file launches, other = id
  | [], other, member => by cases member
  | launch :: later, other, member => by
      obtain ⟨here, same⟩ := fixed launch
      cases List.mem_cons.mp member with
      | inl first => rw [first, here]
      | inr rest =>
          rw [same] at rest
          exact fixed.launchIds later other rest

/-- **The device id is stable across launches exactly if its file keeps it.** -/
theorem device_id_stable (documented : text.Documented) (first second : Launch)
    (file : Option Bytes) (fresh : (first.ids crates ++ second.ids crates).Nodup) :
    ((loadClientSettings crates text second
          (loadClientSettings crates text first file).2).1.deviceId =
        (loadClientSettings crates text first file).1.deviceId ↔
      Keeps text (file.or first.legacy)) ∧
    (Keeps text (file.or first.legacy) → ∀ later : List Launch,
      ∀ id ∈ launchIds crates text file (first :: later),
        id = (loadClientSettings crates text first file).1.deviceId) := by
  have loads := @loadClientSettings_loads crates text first file
  have apart {a b : String} (early : a ∈ first.ids crates) (late : b ∈ second.ids crates) :
      b ≠ a :=
    Ne.symm ((List.nodup_append.mp fresh).2.2 a early b late)
  refine ⟨⟨?_, fun keeps => (loads.fixed documented keeps second).1⟩, ?_⟩
  · generalize (loadClientSettings crates text first file).1 = settings at loads ⊢
    generalize (loadClientSettings crates text first file).2 = left at loads ⊢
    generalize file.or first.legacy = found at loads ⊢
    intro same bytes here
    cases loads with
    | first => cases here
    | unreadable bad =>
        rw [(loads_of_file crates text second _).of_unreadable bad] at same
        exact absurd same (apart (by simp [Launch.ids, ClientSettings.default]) (by simp [Launch.ids]))
    | outdated _ parsed old other =>
        cases here
        exact ⟨_, parsed, .inr ⟨_, old, other⟩⟩
    | blank _ parsed named | kept _ parsed named =>
        cases here
        exact ⟨_, parsed, .inl (by rw [named]; rfl)⟩
    | unnamed _ parsed named current new =>
        rw [(loads_of_file crates text second _).of_unnamed parsed named current, new] at same
        exact absurd same (apart (by simp [Launch.ids]) (by simp [Launch.ids]))
  · intro keeps later id member
    cases List.mem_cons.mp member with
    | inl here => exact here
    | inr rest => exact (loads.fixed documented keeps).launchIds later id rest

end

/-! ## Settings without an id -/

/-- A field that may be missing, but not of another type. -/
def savedField {A : Type} (fields : List (Text × Json)) (key : String) (value : Json → Option A) :
    Option (Option A) :=
  match Json.field fields key with
  | none => none
  | some none => some none
  | some (some json) => (value json).map some

def versionValue : Json → Option UInt8
  | .number n => if n < 256 then some (UInt8.ofNat n) else none
  | _ => none

/-- The object of the settings. -/
def SavedSettings.fromJson : Json → Option SavedSettings
  | .object fields => do
      let pairingCode ← savedField fields "pairing_code" Json.asString
      let deviceId ← savedField fields "device_id" Json.asString
      let target ← savedField fields "target" Json.asString
      let configVersion ← savedField fields "config_version" versionValue
      return { pairingCode, deviceId, target, configVersion }
  | _ => none

def ClientSettings.toJson (settings : ClientSettings) : Json :=
  .object
    [("pairing_code".toList, .string settings.pairingCode.toList),
      ("device_id".toList, .string settings.deviceId.toList),
      ("target".toList, .string settings.target.toList),
      ("config_version".toList, .number settings.configVersion.toNat)]

theorem fromJson_toJson (settings : ClientSettings) :
    SavedSettings.fromJson settings.toJson = some settings.saved := by
  have small : settings.configVersion.toNat < 256 := settings.configVersion.toNat_lt
  simp [SavedSettings.fromJson, ClientSettings.toJson, savedField, Json.field, Json.asString,
    versionValue, small, ClientSettings.saved]

/-- The settings as JSON, without the white space of the pretty form. -/
def settingsJson : SettingsText where
  toVecPretty settings := Text.encode settings.toJson.render
  fromStr text := (Json.parse text.toList).bind SavedSettings.fromJson

theorem settingsJson_documented : settingsJson.Documented := by
  intro settings
  simp only [SettingsText.read, settingsJson, readString, Text.decode_encode, Option.map_some,
    Option.bind_some, String.toList_ofList, Json.parse_render, fromJson_toJson]

/-- A launch whose keys are of the bytes `n` to `n + 3`. -/
def launchFrom (n : UInt8) : Launch where
  legacy := none
  missing := .ok (List.replicate 32 n)
  fallback := .ok (List.replicate 32 (n + 1))
  outdated := .ok (List.replicate 32 (n + 2))
  blank := .ok (List.replicate 32 (n + 3))

theorem launches_fresh : ((launchFrom 0).ids crates ++ (launchFrom 4).ids crates).Nodup := by
  decide +kernel

/-- Whether two launches show one id. -/
def sameId (file : String) : Bool :=
  let once := loadClientSettings crates settingsJson (launchFrom 0) (some (utf8 file))
  (loadClientSettings crates settingsJson (launchFrom 4) once.2).1.deviceId == once.1.deviceId

/-- An object without `device_id`, and a text that is not JSON. -/
theorem device_id_changes :
    ((launchFrom 0).ids crates ++ (launchFrom 4).ids crates).Nodup ∧
      sameId "\x7b\x7d" = false ∧ sameId "\x7b" = false := by
  refine ⟨launches_fresh, ?_, ?_⟩
  · decide +kernel
  · decide +kernel

/-- An id without the other fields is kept. -/
theorem device_id_stable_named :
    (loadClientSettings crates settingsJson (launchFrom 4) (loadClientSettings crates settingsJson
          (launchFrom 0) (some (utf8 "\x7b\"device_id\":\"desk\"\x7d"))).2).1.deviceId =
      (loadClientSettings crates settingsJson (launchFrom 0)
        (some (utf8 "\x7b\"device_id\":\"desk\"\x7d"))).1.deviceId := by
  refine (device_id_stable settingsJson_documented _ _ _ launches_fresh).1.mpr ?_
  intro bytes here
  cases here
  exact ⟨⟨none, some "desk", none, none⟩, by decide +kernel, .inl rfl⟩

end RustSsh.Desktop
