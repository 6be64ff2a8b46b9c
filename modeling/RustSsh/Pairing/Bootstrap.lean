/-
# Pairing.Bootstrap -- the pairing code

`encode` and `decode` of `src/bootstrap.rs` with their validators, and the key files of
`src/identity.rs`.  Base64, JSON and hex are other crates', so they are a parameter
(`Crates`), of which only what their documentation says is used (`Crates.Documented`).
A code is what its configuration validates to, under any white space (`decode_encode`).
-/
import RustSsh.Agent.Supervisor
import RustSsh.Server.TokenFiles

namespace RustSsh.Pairing

open RustSsh.Theory RustSsh.Protocol RustSsh.Server RustSsh.Agent

set_option autoImplicit false

/-- `WireConfig`, the JSON object in a code. -/
structure WireConfig where
  server : String
  serverKey : String
  token : String
  deviceId : Option String
  deriving DecidableEq, Repr

/-- `URL_SAFE_NO_PAD`, `serde_json` on a `WireConfig`, and `hex`. -/
structure Crates where
  base64Encode : Bytes → Text
  base64Decode : Text → Option Bytes
  toJson : WireConfig → Bytes
  fromJson : Bytes → Option WireConfig
  hexEncode : Bytes → Text
  hexDecode : Text → Option Bytes

/-- What the crates' documentation promises. -/
structure Crates.Documented (crates : Crates) : Prop where
  base64 : ∀ bytes, crates.base64Decode (crates.base64Encode bytes) = some bytes
  /-- the URL-safe alphabet -/
  alphabet : ∀ bytes, ∀ c ∈ crates.base64Encode bytes, c.isAlphanum ∨ c = '-' ∨ c = '_'
  json : ∀ wire, crates.fromJson (crates.toJson wire) = some wire
  hex : ∀ bytes, crates.hexDecode (crates.hexEncode bytes) = some bytes

/-! ## Keys -/

/-- `STATIC_KEY_SIZE`. -/
def staticKeySize : Nat := 32

def decodePublicKey (crates : Crates) (value : Text) : Except String Bytes :=
  match crates.hexDecode value with
  | none => .error "decoding server public key as hex"
  | some bytes =>
      if bytes.length = staticKeySize then .ok bytes
      else .error s!"server public key must be exactly {staticKeySize} bytes encoded as hex"

theorem decodePublicKey_length {crates : Crates} {value : Text} {key : Bytes}
    (read : decodePublicKey crates value = .ok key) : key.length = staticKeySize := by
  unfold decodePublicKey at read
  cases decoded : crates.hexDecode value with
  | none => simp [decoded] at read
  | some bytes =>
      simp only [decoded] at read
      split at read
      · rename_i size
        cases read
        exact size
      · cases read

/-- `file` is what the key file holds, if it can be read. -/
def loadPublicKey (crates : Crates) (path : String) (file : Option Bytes) : Except String Bytes :=
  match file.bind Text.decode with
  | none => .error s!"reading pinned server public key {path}"
  | some text =>
      match decodePublicKey crates text.trim with
      | .error _ => .error s!"loading pinned server public key {path}"
      | .ok key => .ok key

/-! ## Codes -/

def codePrefix : Text := "rssh1:".toList
def minTokenBytes : Nat := 32
def maxTokenBytes : Nat := 4096

structure Config where
  server : String
  serverKey : Bytes
  token : String
  deviceId : Option String
  deriving DecidableEq, Repr

def validateDeviceId (value : String) : Except String String :=
  if !DeviceId.isValid value then .error "设备 ID 只能包含字母、数字、.、_、-" else .ok value

/-- `IpAddr::is_unspecified`. -/
def isUnspecified : IpAddr → Bool
  | .v4 octets => octets.all (· == 0)
  | .v6 segments => segments.all (· == 0)

/-- `parse` is `str::parse::<SocketAddr>`. -/
def validateServer (parse : String → Option SocketAddr) (server : String) : Except String String :=
  let server := trimmed server
  match parse server with
  | none => .error "服务器地址必须是公网 IP:端口，例如 198.51.100.10:24443"
  | some address =>
      if address.port = 0 ∨ isUnspecified address.ip then .error "服务器地址的 IP 或端口无效"
      else .ok server

def validateToken (token : String) : Except String String :=
  let token := trimmed token
  if (utf8 token).length < minTokenBytes then
    .error s!"配对 token 至少需要 {minTokenBytes} 个非空白字节"
  else if maxTokenBytes < (utf8 token).length then .error s!"配对 token 超过 {maxTokenBytes} 字节"
  else .ok token

/-- `device_id.map(validate).transpose()`. -/
def validateDeviceIds : Option String → Except String (Option String)
  | none => .ok none
  | some value => (validateDeviceId value).map some

def encode (crates : Crates) (parse : String → Option SocketAddr) (config : Config) :
    Except String String := do
  let server ← validateServer parse config.server
  let token ← validateToken config.token
  let deviceId ← validateDeviceIds config.deviceId
  let payload := crates.toJson
    { server, serverKey := String.ofList (crates.hexEncode config.serverKey), token, deviceId }
  return String.ofList (codePrefix ++ crates.base64Encode payload)

/-- `split_whitespace().collect()`. -/
def compact (code : Text) : Text :=
  ((code.splitOnP Text.isWhitespace).filter (· ≠ [])).flatten

def decode (crates : Crates) (parse : String → Option SocketAddr) (code : String) :
    Except String Config :=
  let compact := compact code.toList
  if codePrefix.isPrefixOf compact then
    match crates.base64Decode (compact.drop codePrefix.length) with
    | none => .error "decoding rust-ssh pairing code"
    | some payload =>
        match crates.fromJson payload with
        | none => .error "reading pairing code"
        | some wire => do
            let server ← validateServer parse wire.server
            let serverKey ← decodePublicKey crates wire.serverKey.toList
            let token ← validateToken wire.token
            let deviceId ← validateDeviceIds wire.deviceId
            return { server, serverKey, token, deviceId }
  else .error s!"配对码格式不正确，应以 {String.ofList codePrefix} 开头"

/-! ## White space in a code -/

/-- The code with white space pasted into it. -/
inductive Pasted : Text → Text → Prop where
  | nil : Pasted [] []
  | keep {code pasted : Text} (c : Char) (more : Pasted code pasted) : Pasted (c :: code) (c :: pasted)
  | space {code pasted : Text} (c : Char) (white : Text.isWhitespace c = true)
      (more : Pasted code pasted) : Pasted code (c :: pasted)

theorem compact_eq (t : Text) : compact t = t.filter fun c => !Text.isWhitespace c := by
  have split (t : Text) : ∃ first rest, t.splitOnP Text.isWhitespace = first :: rest :=
    List.exists_cons_of_ne_nil (List.splitOnP_ne_nil _ _)
  have flat (ls : List Text) : (ls.filter (· ≠ [])).flatten = ls.flatten := by
    induction ls with
    | nil => rfl
    | cons l rest ih =>
        by_cases empty : l = []
        · simpa [empty] using ih
        · simpa [empty] using ih
  rw [compact, flat]
  induction t with
  | nil => rfl
  | cons c rest ih =>
      obtain ⟨first, more, cut⟩ := split rest
      rw [List.splitOnP_cons_eq_if_modifyHead, cut]
      rw [cut] at ih
      by_cases white : Text.isWhitespace c = true
      · simpa [white] using ih
      · simpa [white] using ih

theorem Pasted.refl : ∀ code : Text, Pasted code code
  | [] => .nil
  | c :: rest => .keep c (Pasted.refl rest)

theorem Pasted.compact {code pasted : Text} (paste : Pasted code pasted) :
    compact pasted = compact code := by
  rw [compact_eq, compact_eq]
  induction paste with
  | nil => rfl
  | keep c more ih =>
      rw [List.filter_cons, List.filter_cons, ih]
  | space c white more ih =>
      rw [List.filter_cons, white, ih]
      rfl

/-! ## The round trip -/

section

variable {crates : Crates} {parse : String → Option SocketAddr}

/-- A valid server is its trimmed text, which is valid again. -/
theorem validateServer_ok {server out : String} (valid : validateServer parse server = .ok out) :
    out = trimmed server ∧ validateServer parse out = .ok out := by
  unfold validateServer at valid
  simp only at valid
  cases address : parse (trimmed server) with
  | none => simp [address] at valid
  | some socket =>
      simp only [address] at valid
      split at valid
      · cases valid
      · rename_i specified
        cases valid
        simp [validateServer, address, specified]

theorem validateToken_ok {token out : String} (valid : validateToken token = .ok out) :
    out = trimmed token ∧ validateToken out = .ok out := by
  unfold validateToken at valid
  simp only at valid
  split at valid
  · cases valid
  · rename_i long
    split at valid
    · cases valid
    · rename_i short
      cases valid
      simp [validateToken, long, short]

theorem validateToken_length {token out : String} (valid : validateToken token = .ok out) :
    minTokenBytes ≤ (utf8 out).length ∧ (utf8 out).length ≤ maxTokenBytes := by
  unfold validateToken at valid
  simp only at valid
  split at valid
  · cases valid
  · split at valid
    · cases valid
    · cases valid
      exact ⟨by omega, by omega⟩

theorem validateDeviceIds_ok {deviceId out : Option String}
    (valid : validateDeviceIds deviceId = .ok out) :
    out = deviceId ∧ validateDeviceIds out = .ok out := by
  cases deviceId with
  | none =>
      cases valid
      exact ⟨rfl, rfl⟩
  | some value =>
      simp only [validateDeviceIds, validateDeviceId] at valid
      split at valid
      · cases valid
      · rename_i good
        cases valid
        simp [validateDeviceIds, validateDeviceId, good, Except.map]

theorem bind_ok {E A B : Type} {x : Except E A} {f : A → Except E B} {b : B}
    (done : (x >>= f) = .ok b) : ∃ a, x = .ok a ∧ f a = .ok b := by
  cases x with
  | error e => cases done
  | ok a => exact ⟨a, rfl, done⟩

/-- A code that was made is the prefix and the payload of the validated configuration. -/
theorem encode_ok {config : Config} {code : String} (made : encode crates parse config = .ok code) :
    ∃ server token, validateServer parse config.server = .ok server ∧
      validateToken config.token = .ok token ∧
      validateDeviceIds config.deviceId = .ok config.deviceId ∧
      code.toList = codePrefix ++ crates.base64Encode (crates.toJson
        { server, serverKey := String.ofList (crates.hexEncode config.serverKey), token,
          deviceId := config.deviceId }) := by
  obtain ⟨server, goodServer, made⟩ := bind_ok made
  obtain ⟨token, goodToken, made⟩ := bind_ok made
  obtain ⟨deviceId, goodId, made⟩ := bind_ok made
  obtain ⟨same, -⟩ := validateDeviceIds_ok goodId
  subst same
  cases made
  exact ⟨server, token, goodServer, goodToken, goodId, by simp⟩

/-- No character of a code is white space. -/
theorem encode_solid (documented : crates.Documented) (payload : Bytes) :
    ∀ c ∈ codePrefix ++ crates.base64Encode payload, Text.isWhitespace c = false := by
  intro c inside
  cases List.mem_append.mp inside with
  | inl front =>
      have all : codePrefix.all (fun c => !Text.isWhitespace c) = true := by decide
      simpa using List.all_eq_true.mp all c front
  | inr encoded =>
      apply DeviceId.allowedChar_not_whitespace
      rcases documented.alphabet payload c encoded with letter | rfl | rfl
      · simp [DeviceId.allowedChar, letter]
      · decide
      · decide

/-- **A code decodes, under any white space, to what its configuration validates to.** -/
theorem decode_encode (documented : crates.Documented) {config : Config}
    (key : config.serverKey.length = staticKeySize) {code pasted : String}
    (made : encode crates parse config = .ok code) (paste : Pasted code.toList pasted.toList) :
    decode crates parse pasted = .ok
      { server := trimmed config.server, serverKey := config.serverKey,
        token := trimmed config.token, deviceId := config.deviceId } := by
  obtain ⟨server, token, goodServer, goodToken, goodId, shape⟩ := encode_ok made
  obtain ⟨rfl, againServer⟩ := validateServer_ok goodServer
  obtain ⟨rfl, againToken⟩ := validateToken_ok goodToken
  have plain : compact pasted.toList = code.toList := by
    rw [paste.compact, compact_eq, List.filter_eq_self, shape]
    intro c inside
    rw [encode_solid documented _ c inside]
    rfl
  have starts : codePrefix.isPrefixOf code.toList = true := by
    rw [shape, List.isPrefixOf_iff_prefix]
    exact List.prefix_append ..
  have rest := congrArg (List.drop codePrefix.length) shape
  rw [List.drop_left] at rest
  have publicKey : decodePublicKey crates (crates.hexEncode config.serverKey) = .ok config.serverKey := by
    simp [decodePublicKey, documented.hex, key]
  simp only [decode, plain, starts, if_true, rest, documented.base64, documented.json, againServer,
    againToken, goodId, String.toList_ofList, publicKey]
  rfl

end

end RustSsh.Pairing
