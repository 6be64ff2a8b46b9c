/-
# Pairing.Wire -- the crates behind a pairing code

`serde_json` on a `WireConfig`, `URL_SAFE_NO_PAD` and `hex`: `crates` keeps what their documentation
promises (`crates_documented`).  Of JSON it reads the compact objects that are written.
-/
import RustSsh.Pairing.Bootstrap
import RustSsh.Theory.Json

namespace RustSsh.Pairing

open RustSsh.Theory RustSsh.Protocol RustSsh.Agent

set_option autoImplicit false

namespace WireConfig

/-- The fields as `Serialize` names them; no `device_id` is left out. -/
def toJson (wire : WireConfig) : Json :=
  .object ([("server".toList, .string wire.server.toList),
      ("server_key".toList, .string wire.serverKey.toList),
      ("token".toList, .string wire.token.toList)] ++
    wire.deviceId.toList.map fun id => ("device_id".toList, .string id.toList))

def fromJson : Json → Option WireConfig
  | .object fields => do
      let server ← Json.stringField fields "server"
      let serverKey ← Json.stringField fields "server_key"
      let token ← Json.stringField fields "token"
      let deviceId ← Json.optionField fields "device_id"
      return { server, serverKey, token, deviceId }
  | _ => none

theorem fromJson_toJson (wire : WireConfig) : fromJson (toJson wire) = some wire := by
  obtain ⟨server, serverKey, token, deviceId⟩ := wire
  cases deviceId with
  | none => simp [toJson, fromJson, Json.stringField, Json.optionField, Json.field, Json.asString]
  | some id => simp [toJson, fromJson, Json.stringField, Json.optionField, Json.field, Json.asString]

end WireConfig

def crates : Crates where
  base64Encode := base64Encode
  base64Decode := base64Decode
  toJson wire := Text.encode wire.toJson.render
  fromJson bytes := ((Text.decode bytes).bind Json.parse).bind WireConfig.fromJson
  hexEncode := hexEncode
  hexDecode := hexDecode

theorem crates_documented : crates.Documented where
  base64 := base64Decode_encode
  alphabet bytes c inside := base64Alphabet_urlSafe c (base64Encode_alphabet bytes c inside)
  json wire := by
    simp only [crates, Text.decode_encode, Option.bind_some, Json.parse_render,
      WireConfig.fromJson_toJson]
  hex := hexDecode_encode

end RustSsh.Pairing
