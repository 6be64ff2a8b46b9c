/-
# Protocol.Message -- the control frames

`src/protocol.rs`: the roles, the twelve messages and the constants both ends
share.  `Message.debug` is the text `{:?}` renders, which the relay puts into the
reason of a `Failed` reply.
-/
import RustSsh.Protocol.DeviceId

namespace RustSsh.Protocol

set_option autoImplicit false

/-- `PROTOCOL_VERSION`. -/
def protocolVersion : UInt8 := 4

/-- `HEARTBEAT_FEATURE`. -/
def heartbeatFeature : String := "heartbeat"

inductive Role where
  | agent
  | agentSession
  | controller
  deriving DecidableEq, Repr

structure DeviceInfo where
  deviceId : String
  deriving DecidableEq, Repr

inductive Message where
  | hello (version : UInt8) (role : Role) (token : String) (deviceId : Option String)
      (features : List String)
  | helloOk (features : List String)
  | sessionAttach (sessionId : String)
  | sessionAccepted (sessionId : String)
  | listRequest
  | deviceList (devices : List DeviceInfo)
  | openRequest (target sessionId : String)
  | openSession (sessionId : String)
  | ready (sessionId : String)
  | failed (sessionId reason : String)
  | ping
  | pong
  deriving DecidableEq, Repr

/-! ## Debug text

The text of `#[derive(Debug)]` on one line.  Which characters above ASCII print as
themselves is a table of the Rust library, so it is a parameter: `printable c` is
false for the characters `escape_debug` turns into a code point escape. -/

section Debug

variable (printable : Char → Bool)

/-- Lower-case hexadecimal without leading zeros. -/
def hex (n : Nat) : String := String.ofList (Nat.toDigits 16 n)

/-- One character of a debug-printed string. -/
def debugChar (c : Char) : String :=
  if c = '\x00' then "\\0"
  else if c = '\t' then "\\t"
  else if c = '\n' then "\\n"
  else if c = '\r' then "\\r"
  else if c = '"' then "\\\""
  else if c = '\\' then "\\\\"
  else if printable c then c.toString
  else "\\u\x7b" ++ hex c.toNat ++ "\x7d"

def debugString (s : String) : String :=
  "\"" ++ String.join (s.toList.map (debugChar printable)) ++ "\""

def debugOption : Option String → String
  | none => "None"
  | some s => "Some(" ++ debugString printable s ++ ")"

def debugList {α : Type} (item : α → String) (items : List α) : String :=
  "[" ++ ", ".intercalate (items.map item) ++ "]"

/-- A struct variant: its name and its fields in order. -/
def debugFields (name : String) (fields : List (String × String)) : String :=
  name ++ " \x7b " ++ ", ".intercalate (fields.map fun field => field.1 ++ ": " ++ field.2)
    ++ " \x7d"

def Role.debug : Role → String
  | .agent => "Agent"
  | .agentSession => "AgentSession"
  | .controller => "Controller"

def DeviceInfo.debug (info : DeviceInfo) : String :=
  debugFields "DeviceInfo" [("device_id", debugString printable info.deviceId)]

def Message.debug : Message → String
  | .hello version role token deviceId features =>
      debugFields "Hello"
        [("version", toString version.toNat), ("role", role.debug),
         ("token", debugString printable token),
         ("device_id", debugOption printable deviceId),
         ("features", debugList (debugString printable) features)]
  | .helloOk features =>
      debugFields "HelloOk" [("features", debugList (debugString printable) features)]
  | .sessionAttach sessionId =>
      debugFields "SessionAttach" [("session_id", debugString printable sessionId)]
  | .sessionAccepted sessionId =>
      debugFields "SessionAccepted" [("session_id", debugString printable sessionId)]
  | .listRequest => "ListRequest"
  | .deviceList devices =>
      debugFields "DeviceList" [("devices", debugList (DeviceInfo.debug printable) devices)]
  | .openRequest target sessionId =>
      debugFields "OpenRequest"
        [("target", debugString printable target),
         ("session_id", debugString printable sessionId)]
  | .openSession sessionId =>
      debugFields "Open" [("session_id", debugString printable sessionId)]
  | .ready sessionId => debugFields "Ready" [("session_id", debugString printable sessionId)]
  | .failed sessionId reason =>
      debugFields "Failed"
        [("session_id", debugString printable sessionId),
         ("reason", debugString printable reason)]
  | .ping => "Ping"
  | .pong => "Pong"

example : (Message.ready "a\"b").debug (fun _ => true) = "Ready \x7b session_id: \"a\\\"b\" \x7d" := by
  decide

end Debug

end RustSsh.Protocol
