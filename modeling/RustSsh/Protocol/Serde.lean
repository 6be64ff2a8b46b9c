/-
# Protocol.Serde -- control frames as JSON

What `#[derive(Serialize)]` makes of a `Message`: an object with the tag `type` in front,
names in snake case, and no `features` where there are none.  `Codec.Prints` is a codec that
writes this value as compact JSON, so the size of a frame is the size of its texts and a
constant (`failed_size`).
-/
import RustSsh.Protocol.Frame
import RustSsh.Theory.Json

namespace RustSsh.Protocol

open RustSsh.Theory

set_option autoImplicit false

def Role.toJson : Role → Json
  | .agent => .string "agent".toList
  | .agentSession => .string "agent_session".toList
  | .controller => .string "controller".toList

def DeviceInfo.toJson (info : DeviceInfo) : Json :=
  .object [("device_id".toList, .string info.deviceId.toList)]

/-- Only the string that is written is read, not the object with a null that serde takes too. -/
def Role.fromJson : Json → Option Role
  | .string t =>
      if t = "agent".toList then some .agent
      else if t = "agent_session".toList then some .agentSession
      else if t = "controller".toList then some .controller
      else none
  | _ => none

/-- Only the object that is written is read, not the array of the fields that serde takes too. -/
def DeviceInfo.fromJson : Json → Option DeviceInfo
  | .object fields => (Json.stringField fields "device_id").map DeviceInfo.mk
  | _ => none

namespace Message

/-- A variant: its tag, then its fields. -/
def tagged (tag : String) (fields : List (Text × Json)) : Json :=
  .object (("type".toList, .string tag.toList) :: fields)

def featureField (features : List String) : List (Text × Json) :=
  if features.isEmpty then []
  else [("features".toList, .array (features.map fun feature => .string feature.toList))]

def deviceField : Option String → Json
  | none => .null
  | some id => .string id.toList

def toJson : Message → Json
  | .hello version role token deviceId features =>
      tagged "hello"
        ([("version".toList, .number version.toNat), ("role".toList, role.toJson),
          ("token".toList, .string token.toList),
          ("device_id".toList, deviceField deviceId)] ++ featureField features)
  | .helloOk features => tagged "hello_ok" (featureField features)
  | .sessionAttach sessionId =>
      tagged "session_attach" [("session_id".toList, .string sessionId.toList)]
  | .sessionAccepted sessionId =>
      tagged "session_accepted" [("session_id".toList, .string sessionId.toList)]
  | .listRequest => tagged "list_request" []
  | .deviceList devices =>
      tagged "device_list" [("devices".toList, .array (devices.map DeviceInfo.toJson))]
  | .openRequest target sessionId =>
      tagged "open_request"
        [("target".toList, .string target.toList), ("session_id".toList, .string sessionId.toList)]
  | .openSession sessionId => tagged "open" [("session_id".toList, .string sessionId.toList)]
  | .ready sessionId => tagged "ready" [("session_id".toList, .string sessionId.toList)]
  | .failed sessionId reason =>
      tagged "failed"
        [("session_id".toList, .string sessionId.toList), ("reason".toList, .string reason.toList)]
  | .ping => tagged "ping" []
  | .pong => tagged "pong" []

def versionField (fields : List (Text × Json)) : Option UInt8 :=
  match Json.field fields "version" with
  | some (some (.number n)) => if n < 256 then some (UInt8.ofNat n) else none
  | _ => none

/-- `#[serde(default)]`. -/
def featuresField (fields : List (Text × Json)) : Option (List String) :=
  match Json.field fields "features" with
  | some none => some []
  | some (some value) => Json.asList Json.asString value
  | none => none

/-- The fields of the variant with this tag; other fields are ignored. -/
def ofTag (tag : String) (fields : List (Text × Json)) : Option Message :=
  if tag = "hello" then do
    let version ← versionField fields
    let role ← (Json.field fields "role").join.bind Role.fromJson
    let token ← Json.stringField fields "token"
    let deviceId ← Json.optionField fields "device_id"
    let features ← featuresField fields
    return .hello version role token deviceId features
  else if tag = "hello_ok" then (featuresField fields).map .helloOk
  else if tag = "session_attach" then (Json.stringField fields "session_id").map .sessionAttach
  else if tag = "session_accepted" then (Json.stringField fields "session_id").map .sessionAccepted
  else if tag = "list_request" then some .listRequest
  else if tag = "device_list" then
    ((Json.field fields "devices").join.bind (Json.asList DeviceInfo.fromJson)).map .deviceList
  else if tag = "open_request" then do
    let target ← Json.stringField fields "target"
    let sessionId ← Json.stringField fields "session_id"
    return .openRequest target sessionId
  else if tag = "open" then (Json.stringField fields "session_id").map .openSession
  else if tag = "ready" then (Json.stringField fields "session_id").map .ready
  else if tag = "failed" then do
    let sessionId ← Json.stringField fields "session_id"
    let reason ← Json.stringField fields "reason"
    return .failed sessionId reason
  else if tag = "ping" then some .ping
  else if tag = "pong" then some .pong
  else none

/-- Of an object, the form that is written; serde takes the array of a tag and its fields too. -/
def fromJson : Json → Option Message
  | .object fields => (Json.stringField fields "type").bind fun tag => ofTag tag fields
  | _ => none

theorem Role.fromJson_toJson (role : Role) : Role.fromJson role.toJson = some role := by
  cases role <;> decide

theorem strings_read (strings : List String) :
    Json.asList Json.asString (.array (strings.map fun s => .string s.toList)) = some strings := by
  apply Json.asList_map
  intro s
  exact congrArg some String.ofList_toList

theorem devices_read (devices : List DeviceInfo) :
    Json.asList DeviceInfo.fromJson (.array (devices.map DeviceInfo.toJson)) = some devices := by
  apply Json.asList_map
  intro info
  have named : Json.stringField [("device_id".toList, .string info.deviceId.toList)] "device_id" =
      some info.deviceId :=
    Json.stringField_of rfl
  rw [DeviceInfo.toJson, DeviceInfo.fromJson, named]
  rfl

/-- The tag selects the variant. -/
theorem fromJson_tagged (tag : String) {fields : List (Text × Json)}
    (fresh : ∀ value, Json.field (("type".toList, value) :: fields) "type" = some (some value)) :
    fromJson (tagged tag fields) = ofTag tag (("type".toList, .string tag.toList) :: fields) := by
  rw [tagged, fromJson, Json.stringField_of (fresh _)]
  rfl

/-- The variants that have a session id and nothing else. -/
theorem session_read {tag : String} {variant : String → Message}
    (branch : ∀ fields, ofTag tag fields = (Json.stringField fields "session_id").map variant)
    (sessionId : String) :
    fromJson (tagged tag [("session_id".toList, .string sessionId.toList)]) =
      some (variant sessionId) := by
  rw [fromJson_tagged tag (fun _ => rfl), branch, Json.stringField_of (s := sessionId) rfl]
  rfl

/-- Left-out features read as none. -/
theorem features_read (front : List (Text × Json)) (features : List String)
    (absent : Json.field front "features" = some none)
    (found : ∀ value, Json.field (front ++ [("features".toList, value)]) "features" =
      some (some value)) :
    featuresField (front ++ featureField features) = some features := by
  cases features with
  | nil => simp [featuresField, featureField, absent]
  | cons feature rest =>
      have shape : featureField (feature :: rest) =
          [("features".toList, .array ((feature :: rest).map fun s => .string s.toList))] := rfl
      rw [shape, featuresField, found]
      exact strings_read (feature :: rest)

/-- The fields of a `Hello`. -/
theorem hello_read (version : UInt8) (role : Role) (token : String) (deviceId : Option String)
    (features : List String) :
    fromJson (toJson (.hello version role token deviceId features)) =
      some (.hello version role token deviceId features) := by
  have fresh : ∀ value, Json.field (("type".toList, value) ::
      ([("version".toList, .number version.toNat), ("role".toList, role.toJson),
        ("token".toList, .string token.toList), ("device_id".toList, deviceField deviceId)] ++
          featureField features)) "type" = some (some value) := by
    intro value
    cases features <;> rfl
  rw [toJson, fromJson_tagged "hello" fresh]
  generalize shape : ("type".toList, Json.string "hello".toList) :: _ = fields
  have versionRead : versionField fields = some version := by
    have found : Json.field fields "version" = some (some (.number version.toNat)) := by
      rw [← shape]
      cases features <;> rfl
    have small : version.toNat < 256 := version.toNat_lt
    rw [versionField, found]
    simp only [small, if_true, UInt8.ofNat_toNat]
  have roleRead : (Json.field fields "role").join.bind Role.fromJson = some role := by
    have found : Json.field fields "role" = some (some role.toJson) := by
      rw [← shape]
      cases features <;> rfl
    rw [found]
    exact Role.fromJson_toJson role
  have tokenRead : Json.stringField fields "token" = some token := by
    apply Json.stringField_of
    rw [← shape]
    cases features <;> rfl
  have deviceRead : Json.optionField fields "device_id" = some deviceId := by
    have found : Json.field fields "device_id" = some (some (deviceField deviceId)) := by
      rw [← shape]
      cases features <;> rfl
    cases deviceId with
    | none => rw [Json.optionField, found]; rfl
    | some id => exact Json.optionField_of found
  have featuresRead : featuresField fields = some features := by
    rw [← shape, ← List.cons_append]
    exact features_read _ features rfl (fun _ => rfl)
  have branch : ofTag "hello" fields = (do
      let version ← versionField fields
      let role ← (Json.field fields "role").join.bind Role.fromJson
      let token ← Json.stringField fields "token"
      let deviceId ← Json.optionField fields "device_id"
      let features ← featuresField fields
      return .hello version role token deviceId features) :=
    rfl
  rw [branch, versionRead, roleRead, tokenRead, deviceRead, featuresRead]
  rfl

/-- **No message is lost in its JSON.** -/
theorem fromJson_toJson (m : Message) : fromJson m.toJson = some m := by
  cases m with
  | hello version role token deviceId features =>
      exact hello_read version role token deviceId features
  | helloOk features =>
      have fresh : ∀ value, Json.field (("type".toList, value) :: featureField features) "type" =
          some (some value) := by
        intro value
        cases features <;> rfl
      rw [toJson, fromJson_tagged "hello_ok" fresh]
      have branch : ∀ fields, ofTag "hello_ok" fields = (featuresField fields).map .helloOk :=
        fun _ => rfl
      have all := features_read [("type".toList, .string "hello_ok".toList)] features rfl
        (fun _ => rfl)
      rw [branch]
      exact congrArg (Option.map Message.helloOk) all
  | sessionAttach sessionId => exact session_read (fun _ => rfl) sessionId
  | sessionAccepted sessionId => exact session_read (fun _ => rfl) sessionId
  | openSession sessionId => exact session_read (fun _ => rfl) sessionId
  | ready sessionId => exact session_read (fun _ => rfl) sessionId
  | listRequest => rfl
  | ping => rfl
  | pong => rfl
  | deviceList devices =>
      have branch : ∀ fields, ofTag "device_list" fields = ((Json.field fields "devices").join.bind
          (Json.asList DeviceInfo.fromJson)).map .deviceList :=
        fun _ => rfl
      rw [toJson, fromJson_tagged "device_list" (fun _ => rfl), branch]
      exact congrArg (Option.map Message.deviceList) (devices_read devices)
  | openRequest target sessionId =>
      have branch : ∀ fields, ofTag "open_request" fields = (do
          let target ← Json.stringField fields "target"
          let sessionId ← Json.stringField fields "session_id"
          return .openRequest target sessionId) :=
        fun _ => rfl
      rw [toJson, fromJson_tagged "open_request" (fun _ => rfl), branch,
        Json.stringField_of (s := target) rfl, Json.stringField_of (s := sessionId) rfl]
      rfl
  | failed sessionId reason =>
      have branch : ∀ fields, ofTag "failed" fields = (do
          let sessionId ← Json.stringField fields "session_id"
          let reason ← Json.stringField fields "reason"
          return .failed sessionId reason) :=
        fun _ => rfl
      rw [toJson, fromJson_tagged "failed" (fun _ => rfl), branch,
        Json.stringField_of (s := sessionId) rfl, Json.stringField_of (s := reason) rfl]
      rfl

end Message

/-- `serde_json::to_vec` is the compact JSON of the message. -/
def Codec.Prints (codec : Codec) : Prop :=
  ∀ m, codec.encode m = Text.encode (Message.toJson m).render

/-- `serde_json` as a writer; as a reader only of compact JSON, the form that is written. -/
def serdeJson : Codec where
  encode m := Text.encode (Message.toJson m).render
  decode bytes := ((Text.decode bytes).bind Json.parse).bind Message.fromJson

theorem serdeJson_prints : serdeJson.Prints := fun _ => rfl

theorem serdeJson_reads (m : Message) : serdeJson.decode (serdeJson.encode m) = some m := by
  simp only [serdeJson, Text.decode_encode, Option.bind_some, Json.parse_render,
    Message.fromJson_toJson]

/-! ## Sizes -/

/-- The bytes of a string in a frame. -/
def jsonSize (s : String) : Nat := Json.size s.toList

/-- A printed frame is written exactly if it fits. -/
theorem writeFrame_isSome {codec : Codec} (prints : codec.Prints) (m : Message) :
    (writeFrame codec m).isSome = true ↔
      (Text.encode (Message.toJson m).render).length ≤ maxFrameSize := by
  have solid : Text.encode (Message.toJson m).render ≠ [] := by
    obtain ⟨c, t, shape, -⟩ := Json.render_head (Message.toJson m)
    intro empty
    have short := Text.length_encode (Message.toJson m).render
    rw [empty, shape] at short
    cases short
  rw [writeFrame, prints m]
  simp [solid]

theorem failed_render (sessionId reason : String) :
    (Message.toJson (.failed sessionId reason)).render =
      "\x7b\"type\":\"failed\",\"session_id\":\"".toList ++ (sessionId.toList.flatMap Json.escape ++
        ("\",\"reason\":\"".toList ++ (reason.toList.flatMap Json.escape ++ "\"\x7d".toList))) := by
  simp [Message.toJson, Message.tagged, Json.render, Json.renderFields, Json.renderString, Json.escape]

/-- The size of a `Failed` frame. -/
theorem failed_size (sessionId reason : String) :
    (Text.encode (Message.toJson (.failed sessionId reason)).render).length =
      jsonSize sessionId + jsonSize reason + 45 := by
  rw [failed_render]
  simp only [Text.encode_append, List.length_append, jsonSize, Json.size]
  have first : (Text.encode "\x7b\"type\":\"failed\",\"session_id\":\"".toList).length = 31 := by decide
  have second : (Text.encode "\",\"reason\":\"".toList).length = 12 := by decide
  have last : (Text.encode "\"\x7d".toList).length = 2 := by decide
  omega

theorem openRequest_render (target sessionId : String) :
    (Message.toJson (.openRequest target sessionId)).render =
      "\x7b\"type\":\"open_request\",\"target\":\"".toList ++ (target.toList.flatMap Json.escape ++
        ("\",\"session_id\":\"".toList ++
          (sessionId.toList.flatMap Json.escape ++ "\"\x7d".toList))) := by
  simp [Message.toJson, Message.tagged, Json.render, Json.renderFields, Json.renderString, Json.escape]

theorem openRequest_size (target sessionId : String) :
    (Text.encode (Message.toJson (.openRequest target sessionId)).render).length =
      jsonSize target + jsonSize sessionId + 51 := by
  rw [openRequest_render]
  simp only [Text.encode_append, List.length_append, jsonSize, Json.size]
  have first : (Text.encode "\x7b\"type\":\"open_request\",\"target\":\"".toList).length = 33 := by
    decide
  have second : (Text.encode "\",\"session_id\":\"".toList).length = 16 := by decide
  have last : (Text.encode "\"\x7d".toList).length = 2 := by decide
  omega

end RustSsh.Protocol
