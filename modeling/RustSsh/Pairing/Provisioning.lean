/-
# Pairing.Provisioning -- a new device can log in, and only as itself

Four parties handle the token of a new device: `add_device` writes it to a file and into a
pairing code, the relay loads the file and authenticates by it, and the client's GUI reads
the code.  `provisioning_agrees` is that they agree on it.
-/
import RustSsh.Server.AddDevice
import RustSsh.Desktop.ClientSettings

namespace RustSsh.Pairing

open RustSsh.Theory RustSsh.Protocol RustSsh.Server RustSsh.Agent RustSsh.Desktop

set_option autoImplicit false

/-! ## The key -/

theorem loadPublicKey_length {crates : Crates} {path : String} {file : Option Bytes} {key : Bytes}
    (read : loadPublicKey crates path file = .ok key) : key.length = staticKeySize := by
  unfold loadPublicKey at read
  cases text : file.bind Text.decode with
  | none => simp [text] at read
  | some content =>
      cases decoded : decodePublicKey crates content.trim with
      | error error => simp [text, decoded] at read
      | ok bytes =>
          simp only [text, decoded, Except.ok.injEq] at read
          rw [← read]
          exact decodePublicKey_length decoded

/-! ## The file -/

/-- The token file of a code reads as the code's token. -/
theorem tokenFile_read {token out : String} (good : validateToken token = .ok out)
    (directory : String) {deviceId : String} (valid : DeviceId.isValid deviceId = true) :
    ∃ path, readEntry directory
      ⟨tokenFileName deviceId, .file (utf8 (trimmed token) ++ [10])⟩ =
        .ok (some { deviceId, path, token := out }) := by
  obtain ⟨rfl, -⟩ := validateToken_ok good
  obtain ⟨long, short⟩ := validateToken_length good
  have bytes : utf8 (trimmed token) ++ [10] = Text.encode (Text.trim token.toList ++ ['\n']) := by
    rw [trimmed, utf8_ofList, Text.encode, List.flatMap_append]
    rfl
  have content : readString (utf8 (trimmed token) ++ [10]) =
      some (String.ofList (Text.trim token.toList ++ ['\n'])) := by
    rw [bytes, readString, Text.decode_encode]
    rfl
  refine readEntry_token valid content fun label => ?_
  have same : trimmed (String.ofList (Text.trim token.toList ++ ['\n'])) = trimmed token := by
    rw [trimmed, String.toList_ofList, Text.trim_spaces (by simp [Text.isWhitespace]),
      Text.trim_trim, trimmed]
  have notShort : ¬ (utf8 (trimmed token)).length < Server.minTokenBytes := Nat.not_lt.mpr long
  have notLong : ¬ Server.maxTokenBytes < (utf8 (trimmed token)).length := Nat.not_lt.mpr short
  simp only [Server.validateToken, same, notShort, notLong, if_false]

/-! ## The relay -/

/-- After a registration the relay knows one more device, by this token and no other. -/
structure Grants (before after : AuthSnapshot) (deviceId token : String) : Prop where
  stored : after.deviceTokens.lookup deviceId = some token
  others : ∀ other, other ≠ deviceId →
    after.deviceTokens.lookup other = before.deviceTokens.lookup other
  controller : after.controllerToken = before.controllerToken
  accepts : ∀ role, role ≠ .controller → authenticate role (some deviceId) token after = .ok ()
  rejectsDevice : ∀ role other expected, role ≠ .controller →
    after.deviceTokens.lookup other = some expected → expected ≠ token →
    ∃ error, authenticate role (some other) token after = .error error
  rejectsController : after.controllerToken ≠ token → ∀ named,
    ∃ error, authenticate .controller named token after = .error error

theorem rejected {result : Except String Unit} (refused : result ≠ .ok ()) :
    ∃ error, result = .error error := by
  cases result with
  | error error => exact ⟨error, rfl⟩
  | ok done => exact absurd rfl refused

/-- `authenticate` follows what is stored. -/
theorem Grants.of_stored {before after : AuthSnapshot} {deviceId token : String}
    (valid : DeviceId.isValid deviceId = true) (long : validTokenLength token = true)
    (stored : after.deviceTokens.lookup deviceId = some token)
    (others : ∀ other, other ≠ deviceId →
      after.deviceTokens.lookup other = before.deviceTokens.lookup other)
    (controller : after.controllerToken = before.controllerToken) :
    Grants before after deviceId token where
  stored := stored
  others := others
  controller := controller
  accepts role device := (authenticate_device_ok device).mpr ⟨deviceId, rfl, valid, stored, long⟩
  rejectsDevice role other expected device configured different := by
    apply rejected
    intro accepted
    obtain ⟨d, named, -, found, -⟩ := (authenticate_device_ok device).mp accepted
    cases named
    exact different (Option.some.inj (configured.symm.trans found))
  rejectsController different named := by
    apply rejected
    intro accepted
    exact different (authenticate_controller_ok.mp accepted).2.symm

/-! ## The law -/

/-- **Provisioning agrees with authentication.** -/
theorem provisioning_agrees {crates : Crates} (documented : crates.Documented)
    {parse : String → Option SocketAddr} (noAddress : parse "" = none)
    {controllerPath directory : String} {controllerFile : Option Bytes} {d : Directory}
    {order : List DirEntry} (perm : order.Perm d.entries) {auth : AuthSnapshot}
    (loaded : loadAuthSnapshot controllerPath controllerFile directory (some order) = .ok auth)
    {faults : AddFaults} {generated : Except String String}
    {deviceId server keyPath code : String} {keyFile : Option Bytes} {left : Option Directory}
    (added : addDevice crates parse faults generated directory (some d) deviceId server keyPath
      keyFile = (.ok code, left)) :
    ∃ key token after, loadPublicKey crates keyPath keyFile = .ok key ∧ left = some after ∧
      (∀ pasted : String, Pasted code.toList pasted.toList →
        decode crates parse pasted = .ok
          { server := trimmed server, serverKey := key, token, deviceId := some deviceId }) ∧
      (∀ next : List DirEntry, next.Perm after.entries → ∃ reloaded,
        loadAuthSnapshot controllerPath controllerFile directory (some next) = .ok reloaded ∧
          Grants auth reloaded deviceId token) ∧
      ∀ settings : ClientSettings, Pasted code.toList settings.pairingCode.toList →
        trimmed settings.deviceId = trimmed deviceId →
        (∃ address, parse (trimmed settings.target) = some address ∧ address.ip.isLoopback = true) →
        clientAgentConfig crates parse settings = .ok
          { server := trimmed server, serverKey := key, token, deviceId,
            target := trimmed settings.target } := by
  obtain ⟨valid, key, token, read, encoded, free, rfl⟩ := addDevice_ok added
  have wellFormed := DeviceId.isValid_of_isGenerated valid
  obtain ⟨-, good, -, checked, -, -⟩ := encode_ok encoded
  obtain ⟨rfl, again⟩ := validateToken_ok checked
  have decoded (pasted : String) (paste : Pasted code.toList pasted.toList) :=
    decode_encode documented (loadPublicKey_length read) encoded paste
  refine ⟨key, trimmed token, _, read, rfl, decoded, ?_, ?_⟩
  · intro next nextPerm
    obtain ⟨path, file⟩ := tokenFile_read checked directory wellFormed
    obtain ⟨controllerRead, devicesLoaded⟩ := loadAuthSnapshot_ok.mp loaded
    obtain ⟨tokens, reloaded, stored, others⟩ := loadDeviceTokens_add perm devicesLoaded file nextPerm
    refine ⟨{ controllerToken := auth.controllerToken, deviceTokens := tokens }, ?_, ?_⟩
    · exact loadAuthSnapshot_ok.mpr ⟨controllerRead, reloaded⟩
    · obtain ⟨long, short⟩ := validateToken_length checked
      have length : validTokenLength (trimmed token) = true := by
        rw [validTokenLength, Bool.and_eq_true, decide_eq_true_eq, decide_eq_true_eq]
        exact ⟨long, short⟩
      exact Grants.of_stored wellFormed length stored others rfl
  · rintro settings paste same ⟨address, parsed, loopback⟩
    rw [trimmed_id wellFormed] at same
    have named : (trimmed settings.target).toList ≠ [] := by
      intro empty
      rw [String.toList_eq_nil_iff] at empty
      rw [empty, noAddress] at parsed
      cases parsed
    have accepted := clientAgentConfig_ok (decoded _ paste) (by rw [same]; exact valid)
      (by rw [same]) named parsed loopback
    rw [accepted, same]

/-- The second device of a relay. -/
def secondDevice : Except String String × Option Directory :=
  addDevice crates oneServer ⟨none, 0, ""⟩ (.ok (String.ofList (List.replicate 64 '1'))) "devices"
    (some oneRegistered) secondDeviceId "198.51.100.10:24443" "server.pub"
    (some (List.replicate 64 48))

theorem provisioning_agrees_second :
    ∃ code token after before reloaded, secondDevice = (.ok code, some after) ∧
      decode crates oneServer code = .ok
        { server := trimmed "198.51.100.10:24443", serverKey := List.replicate 32 0, token,
          deviceId := some secondDeviceId } ∧
      loadAuthSnapshot "controller.token" (some (List.replicate 32 97)) "devices"
        (some after.entries) = .ok reloaded ∧
      Grants before reloaded secondDeviceId token := by
  obtain ⟨d, here, loads⟩ := oneRegistered_loads
  obtain rfl := Option.some.inj here
  obtain ⟨tokens, devicesLoaded⟩ := loads oneRegistered.entries (List.Perm.refl _)
  have controller : Server.validateToken (String.ofList (List.replicate 32 'a')) "controller token" =
      .ok (String.ofList (List.replicate 32 'a')) := by
    decide +kernel
  have loaded : loadAuthSnapshot "controller.token" (some (List.replicate 32 97)) "devices"
      (some oneRegistered.entries) =
        .ok { controllerToken := String.ofList (List.replicate 32 'a'), deviceTokens := tokens } :=
    loadAuthSnapshot_ok.mpr
      ⟨⟨String.ofList (List.replicate 32 'a'), by decide +kernel, controller⟩, devicesLoaded⟩
  have key : loadPublicKey crates "server.pub" (some (List.replicate 64 48)) =
      .ok (List.replicate 32 0) := by
    decide +kernel
  have succeeds : secondDevice.1.toOption.isSome = true := by decide +kernel
  cases run : secondDevice with
  | mk result left =>
      cases result with
      | error error =>
          rw [run] at succeeds
          cases succeeds
      | ok code =>
          obtain ⟨serverKey, token, after, read, rfl, decoded, reloads, -⟩ := provisioning_agrees
            crates_documented (by decide) (List.Perm.refl _) loaded run
          obtain rfl := Except.ok.inj (key.symm.trans read)
          obtain ⟨reloaded, loadedAgain, grants⟩ := reloads after.entries (List.Perm.refl _)
          exact ⟨code, token, after, _, reloaded, rfl, decoded code (Pasted.refl _), loadedAgain,
            grants⟩

end RustSsh.Pairing
