/-
# Server.AddDevice -- registering a device

`add_device` of `src/server.rs` and `write_token` of `src/identity.rs`, on a devices
directory whose file-system steps may fail.  The token file is created empty, under its
final name, before the token is written, so a failure from then on leaves a file the loader
reads: `add_device_harmless` is the exact list of the failures that leave nothing behind.
-/
import RustSsh.Pairing.Wire

namespace RustSsh.Server

open RustSsh.Theory RustSsh.Protocol RustSsh.Agent RustSsh.Pairing

set_option autoImplicit false

/-! ## The source's functions -/

/-- A file-system step of the call that can fail; the key file is an argument. -/
inductive AddStep where
  /-- `fs::create_dir_all` of the devices directory -/
  | createDir
  /-- `create_parent` of the token file -/
  | createParent
  /-- `OpenOptions::open` with `create_new` -/
  | create
  | writeToken
  | writeNewline
  | flush
  deriving DecidableEq, Repr

/-- The step that fails, the number of bytes a failing write of the token puts into the
file, and what the operating system reports. -/
structure AddFaults where
  failing : Option AddStep
  cut : Nat
  message : String
  deriving DecidableEq, Repr

/-- `write_token` to a new file of the directory. -/
def writeToken (faults : AddFaults) (directory : String) (d : Directory) (name : Bytes)
    (token : String) : Except String Unit × Directory :=
  if faults.failing = some .createParent then (.error s!"creating parent directory {directory}", d)
  else if new : ¬ d.has name ∧ faults.failing ≠ some .create then
    let text := utf8 (trimmed token)
    if faults.failing = some .writeToken ∧ faults.cut < text.length then
      (.error faults.message, d.add name (text.take faults.cut) new.1)
    else if faults.failing = some .writeNewline then (.error faults.message, d.add name text new.1)
    else if faults.failing = some .flush then
      (.error faults.message, d.add name (text ++ [10]) new.1)
    else (.ok (), d.add name (text ++ [10]) new.1)
  else (.error faults.message, d)

section

variable (crates : Crates) (parse : String → Option SocketAddr)

/-- `generated` is what `generate_token` returns. -/
def addDevice (faults : AddFaults) (generated : Except String String) (directory : String)
    (devices : Option Directory) (deviceId server keyPath : String) (keyFile : Option Bytes) :
    Except String String × Option Directory :=
  if !DeviceId.isGenerated deviceId then
    (.error "invalid device id; use the generated ID shown by the v0.4 client", devices)
  else if faults.failing = some .createDir then
    (.error s!"creating device token directory {directory}", devices)
  else
    let d := devices.getD Directory.empty
    if d.pathExists (tokenFileName deviceId) then
      (.error s!"device is already registered: {deviceId}; remove the old token first if this is intentional",
        some d)
    else
      match loadPublicKey crates keyPath keyFile with
      | .error error => (.error error, some d)
      | .ok serverKey =>
          match generated with
          | .error error => (.error error, some d)
          | .ok token =>
              match encode crates parse { server, serverKey, token, deviceId := some deviceId } with
              | .error error => (.error error, some d)
              | .ok pairingCode =>
                  match writeToken faults directory d (tokenFileName deviceId) token with
                  | (.error _, d) =>
                      (.error s!"writing device token {directory}/{deviceId}.token", some d)
                  | (.ok (), d) => (.ok pairingCode, some d)

/-! ## The ways through the call -/

/-- The call gets to the token file: the id is free, the key can be read, and there is a
token to make a code with. -/
def Ready (generated : Except String String) (d : Directory) (deviceId server keyPath : String)
    (keyFile : Option Bytes) : Prop :=
  ¬ d.has (tokenFileName deviceId) ∧
    ∃ serverKey token code, loadPublicKey crates keyPath keyFile = .ok serverKey ∧
      generated = .ok token ∧
      encode crates parse { server, serverKey, token, deviceId := some deviceId } = .ok code

end

/-- Nothing is written over an existing name. -/
theorem writeToken_taken (faults : AddFaults) (directory token : String) {d : Directory}
    {name : Bytes} (taken : d.has name) :
    ∃ error, writeToken faults directory d name token = (.error error, d) := by
  by_cases parent : faults.failing = some .createParent
  · exact ⟨_, if_pos parent⟩
  · exact ⟨_, by rw [writeToken, if_neg parent, dif_neg (fun new => new.1 taken)]⟩

section

variable {crates : Crates} {parse : String → Option SocketAddr} {generated : Except String String}
  {deviceId server keyPath : String} {keyFile : Option Bytes}

/-- A ready call ends as its `write_token` does. -/
theorem addDevice_ready (faults : AddFaults) (directory : String) (devices : Option Directory)
    (valid : DeviceId.isGenerated deviceId = true)
    (created : faults.failing ≠ some .createDir)
    (ready : Ready crates parse generated (devices.getD Directory.empty) deviceId server keyPath
      keyFile) :
    ∃ serverKey token code, loadPublicKey crates keyPath keyFile = .ok serverKey ∧
      generated = .ok token ∧
      encode crates parse { server, serverKey, token, deviceId := some deviceId } = .ok code ∧
      addDevice crates parse faults generated directory devices deviceId server keyPath keyFile =
        match writeToken faults directory (devices.getD Directory.empty) (tokenFileName deviceId)
          token with
        | (.error _, d) => (.error s!"writing device token {directory}/{deviceId}.token", some d)
        | (.ok (), d) => (.ok code, some d) := by
  obtain ⟨free, serverKey, token, code, key, drawn, made⟩ := ready
  refine ⟨serverKey, token, code, key, drawn, made, ?_⟩
  have unused : ¬ (devices.getD Directory.empty).pathExists (tokenFileName deviceId) = true :=
    fun found => free (Directory.has_of_pathExists found)
  simp [addDevice, valid, created, unused, key, drawn, made]

/-- A call that is not ready ends with an error, with the directory made and nothing in it
changed. -/
theorem addDevice_unready (faults : AddFaults) (directory : String) (devices : Option Directory)
    (valid : DeviceId.isGenerated deviceId = true)
    (created : faults.failing ≠ some .createDir)
    (unready : ¬ Ready crates parse generated (devices.getD Directory.empty) deviceId server keyPath
      keyFile) :
    ∃ error, addDevice crates parse faults generated directory devices deviceId server keyPath
      keyFile = (.error error, some (devices.getD Directory.empty)) := by
  by_cases found : (devices.getD Directory.empty).pathExists (tokenFileName deviceId) = true
  · exact ⟨_, by simp only [addDevice, valid, created, found]; rfl⟩
  · cases key : loadPublicKey crates keyPath keyFile with
    | error error => exact ⟨error, by simp [addDevice, valid, created, found, key]⟩
    | ok serverKey =>
        cases generated with
        | error error => exact ⟨error, by simp [addDevice, valid, created, found, key]⟩
        | ok token =>
            cases made : encode crates parse
                { server, serverKey, token, deviceId := some deviceId } with
            | error error => exact ⟨error, by simp [addDevice, valid, created, found, key, made]⟩
            | ok code =>
                have taken : (devices.getD Directory.empty).has (tokenFileName deviceId) := by
                  by_contra free
                  exact unready ⟨free, serverKey, token, code, key, rfl, made⟩
                obtain ⟨error, refused⟩ := writeToken_taken faults directory token taken
                exact ⟨_, by
                  simp only [addDevice, valid, created, found, key, made, refused]
                  rfl⟩

end

/-! ## What a failed write leaves -/

/-- A failure after the token file was created. -/
def Late (failing : Option AddStep) : Prop :=
  failing = some .writeToken ∨ failing = some .writeNewline ∨ failing = some .flush

section

variable {faults : AddFaults} {directory : String} {d : Directory} {name : Bytes} {token : String}

/-- A failure before the file was created leaves the directory as it was. -/
theorem writeToken_early (early : ¬ Late faults.failing) {error : String} {after : Directory}
    (failed : writeToken faults directory d name token = (.error error, after)) : after = d := by
  simp only [Late, not_or] at early
  simp only [writeToken, early.1, early.2.1, early.2.2, false_and, if_false] at failed
  split at failed
  · cases failed
    rfl
  · split at failed
    · cases failed
    · cases failed
      rfl

/-- A failure after that leaves the file, with whatever was written to it. -/
theorem writeToken_late (directory : String) (free : ¬ d.has name) {failing : Option AddStep}
    (late : Late failing) (nonempty : 0 < (utf8 (trimmed token)).length) :
    ∃ content, writeToken ⟨failing, 0, ""⟩ directory d name token =
      (.error "", d.add name content free) := by
  rcases late with rfl | rfl | rfl
  · exact ⟨[], by simp [writeToken, free, nonempty]⟩
  · exact ⟨utf8 (trimmed token), by simp [writeToken, free]⟩
  · exact ⟨utf8 (trimmed token) ++ [10], by simp [writeToken, free]⟩

/-- The failures in between are failures of the call, with nothing written. -/
theorem writeToken_between (faults : AddFaults) (directory : String) (d : Directory)
    (name : Bytes) (token : String) (between : faults.failing = some .createParent ∨
    faults.failing = some .create) :
    ∃ error, writeToken faults directory d name token = (.error error, d) := by
  rcases between with step | step
  · exact ⟨_, if_pos step⟩
  · have parent : faults.failing ≠ some .createParent := by simp [step]
    exact ⟨_, by rw [writeToken, if_neg parent, dif_neg (fun new => new.2 step)]⟩

theorem writeToken_clean (free : ¬ d.has name) (clean : faults.failing = none) :
    writeToken faults directory d name token =
      (.ok (), d.add name (utf8 (trimmed token) ++ [10]) free) := by
  simp [writeToken, free, clean]

/-- A write that succeeds leaves the token and a newline. -/
theorem writeToken_ok {after : Directory}
    (done : writeToken faults directory d name token = (.ok (), after)) :
    ∃ free : ¬ d.has name, after = d.add name (utf8 (trimmed token) ++ [10]) free := by
  unfold writeToken at done
  split at done
  · cases done
  · split at done
    · rename_i new
      simp only at done
      split at done
      · cases done
      · split at done
        · cases done
        · split at done
          · cases done
          · cases done
            exact ⟨new.1, rfl⟩
    · cases done

end

/-- A call that succeeds has made the code and left the token in the device's file. -/
theorem addDevice_ok {crates : Crates} {parse : String → Option SocketAddr} {faults : AddFaults}
    {generated : Except String String} {directory : String} {devices after : Option Directory}
    {deviceId server keyPath code : String} {keyFile : Option Bytes}
    (done : addDevice crates parse faults generated directory devices deviceId server keyPath
      keyFile = (.ok code, after)) :
    DeviceId.isGenerated deviceId = true ∧
    ∃ serverKey token, loadPublicKey crates keyPath keyFile = .ok serverKey ∧
      encode crates parse { server, serverKey, token, deviceId := some deviceId } = .ok code ∧
      ∃ free : ¬ (devices.getD Directory.empty).has (tokenFileName deviceId),
        after = some ((devices.getD Directory.empty).add (tokenFileName deviceId)
          (utf8 (trimmed token) ++ [10]) free) := by
  by_cases valid : DeviceId.isGenerated deviceId = true
  · by_cases created : faults.failing = some .createDir
    · simp [addDevice, valid, created] at done
    · by_cases ready : Ready crates parse generated (devices.getD Directory.empty) deviceId server
          keyPath keyFile
      · obtain ⟨serverKey, token, made, key, -, encoded, shape⟩ := addDevice_ready faults directory
          devices valid created ready
        rw [shape] at done
        cases written : writeToken faults directory (devices.getD Directory.empty)
            (tokenFileName deviceId) token with
        | mk result left =>
            rw [written] at done
            cases result with
            | error reason => cases done
            | ok finished =>
                cases done
                obtain ⟨free, rfl⟩ := writeToken_ok written
                exact ⟨valid, serverKey, token, key, encoded, free, rfl⟩
      · obtain ⟨error, failed⟩ := addDevice_unready faults directory devices valid created ready
        rw [failed] at done
        cases done
  · simp [addDevice, valid] at done

/-! ## The law -/

/-- A file the loader takes for a token file. -/
def DirEntry.IsToken (entry : DirEntry) : Prop :=
  entry.node.regular.isSome = true ∧ Text.encode tokenSuffix <:+ entry.name

/-- The device token files of a directory that may not exist. -/
def TokenFile (devices : Option Directory) (entry : DirEntry) : Prop :=
  entry.IsToken ∧ ∃ d, devices = some d ∧ entry ∈ d.entries

/-- `load_device_tokens` succeeds, in whatever order the directory is read. -/
def Loads (directory : String) (devices : Option Directory) : Prop :=
  ∃ d, devices = some d ∧ ∀ order, order.Perm d.entries →
    ∃ tokens, loadDeviceTokens directory (some order) = .ok tokens

/-- `add_device` refuses the id as already registered. -/
def Registered (devices : Option Directory) (deviceId : String) : Prop :=
  ∃ d, devices = some d ∧ d.pathExists (tokenFileName deviceId) = true

/-- The call left no trace that the relay or a retry could see. -/
structure Untouched (directory deviceId : String) (before after : Option Directory) : Prop where
  tokens : ∀ entry, TokenFile after entry ↔ TokenFile before entry
  loads : Loads directory after ↔ Loads directory before
  retry : Registered after deviceId ↔ Registered before deviceId

theorem Untouched.refl (directory deviceId : String) (devices : Option Directory) :
    Untouched directory deviceId devices devices :=
  ⟨fun _ => Iff.rfl, Iff.rfl, Iff.rfl⟩

/-- The directory that was made is seen: an empty one loads, none does not. -/
theorem made_not_untouched (directory deviceId : String) :
    ¬ Untouched directory deviceId none (some Directory.empty) := by
  intro untouched
  have loads : Loads directory (some Directory.empty) := by
    refine ⟨_, rfl, fun order perm => ?_⟩
    rw [loadDeviceTokens_ok perm]
    intro entry member
    cases member
  obtain ⟨d, absent, -⟩ := untouched.loads.mp loads
  cases absent

/-- So is a token file with the id's name, whatever it holds. -/
theorem added_not_untouched {directory deviceId : String} (devices : Option Directory)
    {content : Bytes} (free : ¬ (devices.getD Directory.empty).has (tokenFileName deviceId)) :
    ¬ Untouched directory deviceId devices
      (some ((devices.getD Directory.empty).add (tokenFileName deviceId) content free)) := by
  intro untouched
  have there : TokenFile (some ((devices.getD Directory.empty).add (tokenFileName deviceId) content
      free)) ⟨tokenFileName deviceId, .file content⟩ := by
    refine ⟨⟨rfl, ?_⟩, _, rfl, List.mem_append_right _ (List.mem_singleton.mpr rfl)⟩
    rw [tokenFileName, Text.encode_append]
    exact List.suffix_append ..
  obtain ⟨-, before, rfl, member⟩ := (untouched.tokens _).mp there
  exact free (List.mem_map_of_mem member)

section

variable {crates : Crates} {parse : String → Option SocketAddr} {generated : Except String String}
  {directory deviceId server keyPath : String} {keyFile : Option Bytes} {failing : Option AddStep}

/-- A token to make a code with has a byte that can fail to be written. -/
theorem token_nonempty {config : Config} {code : String}
    (made : encode crates parse config = .ok code) : 0 < (utf8 (trimmed config.token)).length := by
  obtain ⟨-, token, -, good, -⟩ := encode_ok made
  obtain ⟨rfl, -⟩ := Pairing.validateToken_ok good
  have long := Pairing.validateToken_length good
  simp only [Pairing.minTokenBytes] at long
  omega

/-- A call that is ready and fails late leaves a token file. -/
theorem addDevice_late (directory : String) (devices : Option Directory)
    (valid : DeviceId.isGenerated deviceId = true)
    (ready : Ready crates parse generated (devices.getD Directory.empty) deviceId server keyPath
      keyFile)
    (late : Late failing) :
    ∃ error content, addDevice crates parse ⟨failing, 0, ""⟩ generated directory devices deviceId
      server keyPath keyFile =
        (.error error, some ((devices.getD Directory.empty).add (tokenFileName deviceId) content
          ready.1)) := by
  have created : failing ≠ some .createDir := by
    rintro rfl
    rcases late with step | step | step <;> cases step
  obtain ⟨serverKey, token, code, -, -, made, shape⟩ := addDevice_ready
    ⟨failing, 0, ""⟩ directory devices valid created ready
  have bytes := token_nonempty made
  obtain ⟨content, failed⟩ := writeToken_late directory ready.1 late bytes
  exact ⟨s!"writing device token {directory}/{deviceId}.token", content, by rw [shape, failed]⟩

/-- A call that is ready, fails and does not fail late leaves the directory as it was made. -/
theorem addDevice_early {cut : Nat} {message : String} (devices : Option Directory)
    (valid : DeviceId.isGenerated deviceId = true) (created : failing ≠ some .createDir)
    (early : ¬ (Ready crates parse generated (devices.getD Directory.empty) deviceId server keyPath
      keyFile ∧ Late failing))
    {error : String} {after : Option Directory}
    (failed : addDevice crates parse ⟨failing, cut, message⟩ generated directory devices deviceId
      server keyPath keyFile = (.error error, after)) :
    after = some (devices.getD Directory.empty) := by
  by_cases ready : Ready crates parse generated (devices.getD Directory.empty) deviceId server
      keyPath keyFile
  · obtain ⟨serverKey, token, code, -, -, -, shape⟩ := addDevice_ready
      ⟨failing, cut, message⟩ directory devices valid created ready
    rw [shape] at failed
    cases written : writeToken ⟨failing, cut, message⟩ directory (devices.getD Directory.empty)
        (tokenFileName deviceId) token with
    | mk result left =>
        rw [written] at failed
        cases result with
        | ok done => cases failed
        | error reason =>
            cases failed
            rw [writeToken_early (fun late => early ⟨ready, late⟩) written]
  · obtain ⟨reason, shape⟩ := addDevice_unready ⟨failing, cut, message⟩ directory devices valid
      created ready
    rw [shape] at failed
    cases failed
    rfl

/-- A call that makes the directory and then fails in any way is seen. -/
theorem absent_harmful (directory : String) (valid : DeviceId.isGenerated deviceId = true)
    (created : failing ≠ some .createDir)
    (fails : Ready crates parse generated Directory.empty deviceId server keyPath keyFile →
      failing ≠ none) :
    ∃ error after, addDevice crates parse ⟨failing, 0, ""⟩ generated directory none deviceId server
      keyPath keyFile = (.error error, after) ∧ ¬ Untouched directory deviceId none after := by
  by_cases ready : Ready crates parse generated Directory.empty deviceId server keyPath keyFile
  · by_cases late : Late failing
    · obtain ⟨error, content, failed⟩ := addDevice_late directory none valid ready late
      exact ⟨error, _, failed, added_not_untouched none ready.1⟩
    · have between : failing = some .createParent ∨ failing = some .create := by
        cases failing with
        | none => exact absurd rfl (fails ready)
        | some step => cases step <;> simp_all [Late]
      obtain ⟨serverKey, token, code, -, -, -, shape⟩ := addDevice_ready
        ⟨failing, 0, ""⟩ directory none valid created ready
      obtain ⟨reason, refused⟩ := writeToken_between ⟨failing, 0, ""⟩ directory
        Directory.empty (tokenFileName deviceId) token between
      exact ⟨s!"writing device token {directory}/{deviceId}.token", _,
        by rw [shape, Option.getD_none, refused], made_not_untouched directory deviceId⟩
  · obtain ⟨error, failed⟩ := addDevice_unready ⟨failing, 0, ""⟩ directory none valid created
      ready
    exact ⟨error, _, failed, made_not_untouched directory deviceId⟩

end

/-- **A failed call leaves no trace** unless it fails after it created the token file; or, where
there was no directory, after it made the directory. -/
theorem add_device_harmless (crates : Crates) (parse : String → Option SocketAddr)
    (failing : Option AddStep) (generated : Except String String) (directory : String)
    (devices : Option Directory) (deviceId server keyPath : String) (keyFile : Option Bytes) :
    (∀ cut message error after,
      addDevice crates parse ⟨failing, cut, message⟩ generated directory devices deviceId server
        keyPath keyFile = (.error error, after) → Untouched directory deviceId devices after) ↔
    (DeviceId.isGenerated deviceId = true → failing ≠ some .createDir →
      match devices with
      | some d => Ready crates parse generated d deviceId server keyPath keyFile → ¬ Late failing
      | none => Ready crates parse generated Directory.empty deviceId server keyPath keyFile ∧
          failing = none) := by
  constructor
  · intro harmless valid created
    cases devices with
    | some d =>
        intro ready late
        obtain ⟨error, content, failed⟩ := addDevice_late directory (some d) valid ready late
        exact added_not_untouched (some d) ready.1 (harmless _ _ _ _ failed)
    | none =>
        by_contra other
        have fails : Ready crates parse generated Directory.empty deviceId server keyPath keyFile →
            failing ≠ none := fun ready done => other ⟨ready, done⟩
        obtain ⟨error, after, failed, seen⟩ := absent_harmful directory valid created fails
        exact seen (harmless _ _ _ _ failed)
  · intro fine cut message error after failed
    by_cases valid : DeviceId.isGenerated deviceId = true
    · by_cases created : failing = some .createDir
      · simp only [addDevice, valid, created, Bool.not_true, Bool.false_eq_true, if_true,
          if_false] at failed
        cases failed
        exact Untouched.refl ..
      · have condition := fine valid created
        cases devices with
        | some d =>
            have same := addDevice_early (some d) valid created
              (fun both => condition both.1 both.2) failed
            rw [same]
            exact Untouched.refl ..
        | none =>
            obtain ⟨ready, rfl⟩ := condition
            obtain ⟨serverKey, token, code, -, -, -, shape⟩ := addDevice_ready
              ⟨none, cut, message⟩ directory none valid created ready
            rw [shape, Option.getD_none, writeToken_clean ready.1 rfl] at failed
            cases failed
    · rw [Bool.not_eq_true] at valid
      simp only [addDevice, valid, Bool.not_false, if_true] at failed
      cases failed
      exact Untouched.refl ..

/-! ## A full disk -/

def firstDeviceId : String := "rssh-00000000000000000000000000000000"
def secondDeviceId : String := "rssh-11111111111111111111111111111111"

/-- `str::parse::<SocketAddr>` on the addresses of these runs. -/
def oneServer (text : String) : Option SocketAddr :=
  if text = "198.51.100.10:24443" then some ⟨.v4 [198, 51, 100, 10], 24443⟩
  else if text = "127.0.0.1:22" then some ⟨.v4 [127, 0, 0, 1], 22⟩
  else none

/-- The directory after the first device was registered, with a token of 64 zeros. -/
def oneRegistered : Directory :=
  Directory.empty.add (tokenFileName firstDeviceId) (List.replicate 64 48 ++ [10])
    (by decide +kernel)

theorem oneRegistered_loads : Loads "devices" (some oneRegistered) := by
  refine ⟨_, rfl, fun order perm => ?_⟩
  rw [loadDeviceTokens_ok perm]
  intro entry member
  rw [List.mem_singleton.mp member]
  refine ⟨some ⟨firstDeviceId, s!"devices/{firstDeviceId}.token",
    String.ofList (List.replicate 64 '0')⟩, ?_⟩
  decide +kernel

/-- The second device, on a disk that is full once its token file was created. -/
def fullDisk : Except String String × Option Directory :=
  addDevice crates oneServer
    ⟨some .writeToken, 0, "No space left on device"⟩ (.ok (String.ofList (List.replicate 64 '1')))
    "devices" (some oneRegistered) secondDeviceId "198.51.100.10:24443" "server.pub"
    (some (List.replicate 64 48))

/-- It leaves an empty token file: the relay can load no device any more, and the id is taken. -/
theorem full_disk_harmful :
    fullDisk.1 = .error s!"writing device token devices/{secondDeviceId}.token" ∧
      Loads "devices" (some oneRegistered) ∧ ¬ Loads "devices" fullDisk.2 ∧
      Registered fullDisk.2 secondDeviceId ∧
      ¬ Untouched "devices" secondDeviceId (some oneRegistered) fullDisk.2 := by
  have before := oneRegistered_loads
  have run : fullDisk = (.error s!"writing device token devices/{secondDeviceId}.token",
      some (oneRegistered.add (tokenFileName secondDeviceId) [] (by decide +kernel))) := by
    decide +kernel
  rw [run]
  have refused : ¬ Loads "devices" (some (oneRegistered.add (tokenFileName secondDeviceId) []
      (by decide +kernel))) := by
    rintro ⟨d, left, loads⟩
    obtain rfl := Option.some.inj left
    obtain ⟨found, read⟩ := (loadDeviceTokens_ok (List.Perm.refl _)).mp (loads _ (List.Perm.refl _))
      ⟨tokenFileName secondDeviceId, .file []⟩ (List.mem_append_right _ List.mem_cons_self)
    have empty : (readEntry "devices" ⟨tokenFileName secondDeviceId, .file []⟩).toOption = none := by
      decide +kernel
    rw [read] at empty
    cases empty
  refine ⟨rfl, before, refused, ?_, fun untouched => refused (untouched.loads.mpr before)⟩
  exact ⟨_, rfl, by decide +kernel⟩

end RustSsh.Server
