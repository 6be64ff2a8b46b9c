/-
# Pairing.Codes -- every code round trips

`encode` validates before it writes and `decode` after it has read.  A code that was made
decodes, whatever white space it was pasted with, and what decodes can be encoded again: the
validators of the two sides are the same, and what they return they return again
(`validateServer_ok`, `validateToken_ok`, `validateDeviceIds_ok`).
-/
import RustSsh.Pairing.Wire
import RustSsh.Server.AddDevice

namespace RustSsh.Pairing

open RustSsh.Theory RustSsh.Protocol RustSsh.Server RustSsh.Agent

set_option autoImplicit false

section

variable {crates : Crates} {parse : String → Option SocketAddr}

/-- What a code was decoded from. -/
theorem decode_ok {code : String} {config : Config} (read : decode crates parse code = .ok config) :
    ∃ wire : WireConfig, validateServer parse wire.server = .ok config.server ∧
      decodePublicKey crates wire.serverKey.toList = .ok config.serverKey ∧
      validateToken wire.token = .ok config.token ∧
      validateDeviceIds wire.deviceId = .ok config.deviceId := by
  unfold decode at read
  simp only at read
  split at read
  · cases unpacked : crates.base64Decode ((compact code.toList).drop codePrefix.length) with
    | none => simp [unpacked] at read
    | some payload =>
        cases parsed : crates.fromJson payload with
        | none => simp [unpacked, parsed] at read
        | some wire =>
            simp only [unpacked, parsed] at read
            obtain ⟨server, goodServer, read⟩ := bind_ok read
            obtain ⟨serverKey, goodKey, read⟩ := bind_ok read
            obtain ⟨token, goodToken, read⟩ := bind_ok read
            obtain ⟨deviceId, goodId, read⟩ := bind_ok read
            cases read
            exact ⟨wire, goodServer, goodKey, goodToken, goodId⟩
  · cases read

/-- What passes the validators unchanged can be encoded. -/
theorem encode_valid {config : Config}
    (goodServer : validateServer parse config.server = .ok config.server)
    (goodToken : validateToken config.token = .ok config.token)
    (goodId : validateDeviceIds config.deviceId = .ok config.deviceId) :
    ∃ code, encode crates parse config = .ok code := by
  simp only [encode, goodServer, goodToken, goodId]
  exact ⟨_, rfl⟩

/-- What was decoded is encoded, and is what its own code decodes to. -/
theorem encode_decode (documented : crates.Documented) {text : String} {config : Config}
    (read : decode crates parse text = .ok config) :
    config.serverKey.length = staticKeySize ∧
      ∃ code, encode crates parse config = .ok code ∧ decode crates parse code = .ok config := by
  obtain ⟨wire, server, serverKey, token, deviceId⟩ := decode_ok read
  obtain ⟨trimmedServer, againServer⟩ := validateServer_ok server
  obtain ⟨trimmedToken, againToken⟩ := validateToken_ok token
  obtain ⟨-, againId⟩ := validateDeviceIds_ok deviceId
  have size := decodePublicKey_length serverKey
  obtain ⟨code, made⟩ : ∃ code, encode crates parse config = .ok code :=
    encode_valid againServer againToken againId
  have decoded := decode_encode documented size made (Pasted.refl code.toList)
  have sameServer : trimmed config.server = config.server := by
    rw [trimmedServer, trimmed, trimmed, String.toList_ofList, Text.trim_trim]
  have sameToken : trimmed config.token = config.token := by
    rw [trimmedToken, trimmed, trimmed, String.toList_ofList, Text.trim_trim]
  rw [sameServer, sameToken] at decoded
  exact ⟨size, code, made, decoded⟩

/-- **Pairing codes round trip**, from a configuration and from a code. -/
theorem codes_round_trip (documented : crates.Documented) :
    (∀ config : Config, config.serverKey.length = staticKeySize → ∀ code,
      encode crates parse config = .ok code → ∀ pasted : String, Pasted code.toList pasted.toList →
        decode crates parse pasted = .ok
          { server := trimmed config.server, serverKey := config.serverKey,
            token := trimmed config.token, deviceId := config.deviceId }) ∧
    ∀ (text : String) (config : Config), decode crates parse text = .ok config →
      config.serverKey.length = staticKeySize ∧
        ∃ code, encode crates parse config = .ok code ∧ decode crates parse code = .ok config :=
  ⟨fun _ key _ made _ paste => decode_encode documented key made paste,
    fun _ _ read => encode_decode documented read⟩

end

/-- A token beyond ASCII, in white space. -/
def unicodeConfig : Config where
  server := " 198.51.100.10:24443\n"
  serverKey := List.replicate 32 7
  token := "　配对配对配对配对配对配对配对配对 "
  deviceId := some "WIN-01"

theorem codes_round_trip_unicode :
    ∃ code, encode crates oneServer unicodeConfig = .ok code ∧
      decode crates oneServer (String.ofList ('\n' :: code.toList)) = .ok
        { server := trimmed unicodeConfig.server, serverKey := unicodeConfig.serverKey,
          token := trimmed unicodeConfig.token, deviceId := unicodeConfig.deviceId } := by
  have made : (encode crates oneServer unicodeConfig).toOption.isSome = true := by decide +kernel
  cases run : encode crates oneServer unicodeConfig with
  | error error =>
      rw [run] at made
      cases made
  | ok code =>
      refine ⟨code, rfl, ?_⟩
      refine (codes_round_trip crates_documented).1 unicodeConfig (by decide) code run _ ?_
      rw [String.toList_ofList]
      exact .space '\n' (by decide) (Pasted.refl _)

end RustSsh.Pairing
