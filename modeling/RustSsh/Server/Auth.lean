/-
# Server.Auth -- who a connection is

`AuthSnapshot`, `authenticate` and `constant_time_equal` of `src/server.rs`.  The
comparison folds the length difference and the byte differences of the zero-padded
inputs into one word; `constantTimeEqual_iff` is that this decides equality, so a
successful `authenticate` is possession of exactly the stored token
(`authenticate_ok`).
-/
import RustSsh.Protocol.Message
import RustSsh.Theory.HashMap
import Mathlib.Data.Nat.Bitwise

namespace RustSsh.Server

open RustSsh.Theory RustSsh.Protocol

set_option autoImplicit false

def minTokenBytes : Nat := 32
def maxTokenBytes : Nat := 4096

/-- The tokens the relay accepts, as last loaded from disk. -/
structure AuthSnapshot where
  controllerToken : String
  deviceTokens : HashMap String String
  deriving DecidableEq

def constantTimeEqual (left right : List UInt8) : Bool :=
  let difference := (List.range (max left.length right.length)).foldl
    (fun difference index =>
      difference ||| ((left[index]?.getD 0) ^^^ (right[index]?.getD 0)).toNat)
    (left.length ^^^ right.length)
  difference == 0

def validTokenLength (token : String) : Bool :=
  minTokenBytes ≤ (utf8 token).length && (utf8 token).length ≤ maxTokenBytes

def authenticate (role : Role) (deviceId : Option String) (token : String)
    (auth : AuthSnapshot) : Except String Unit :=
  match role with
  | .agent | .agentSession =>
      match deviceId with
      | none => .error "agent did not provide device id"
      | some deviceId =>
          if !DeviceId.isValid deviceId then .error "invalid device id"
          else
            match auth.deviceTokens.lookup deviceId with
            | none => .error s!"device is not configured: {deviceId}"
            | some expected =>
                if !validTokenLength token || !constantTimeEqual (utf8 token) (utf8 expected) then
                  .error s!"invalid device token for {deviceId}"
                else .ok ()
  | .controller =>
      if !validTokenLength token || !constantTimeEqual (utf8 token) (utf8 auth.controllerToken) then
        .error "invalid controller token"
      else .ok ()

/-! ## The comparison decides equality -/

theorem foldl_or_eq_zero (f : Nat → Nat) (indices : List Nat) (start : Nat) :
    indices.foldl (fun acc i => acc ||| f i) start = 0 ↔ start = 0 ∧ ∀ i ∈ indices, f i = 0 := by
  induction indices generalizing start with
  | nil => simp
  | cons i rest ih =>
      rw [List.foldl_cons, ih, Nat.or_eq_zero_iff]
      simp [and_assoc]

theorem byte_xor_eq_zero (a b : UInt8) : (a ^^^ b).toNat = 0 ↔ a = b := by
  rw [UInt8.toNat_xor, Nat.xor_eq_zero_iff, UInt8.toNat_inj]

theorem constantTimeEqual_iff (left right : List UInt8) :
    constantTimeEqual left right = true ↔ left = right := by
  simp only [constantTimeEqual, beq_iff_eq, foldl_or_eq_zero, Nat.xor_eq_zero_iff,
    List.mem_range, byte_xor_eq_zero]
  constructor
  · rintro ⟨lengths, bytes⟩
    refine List.ext_getElem lengths fun i inLeft inRight => ?_
    have same := bytes i (by omega)
    simpa [List.getElem?_eq_getElem inLeft, List.getElem?_eq_getElem inRight] using same
  · rintro rfl
    exact ⟨rfl, fun _ _ => rfl⟩

/-- The token belongs to this identity: the specification of `authenticate`. -/
def Entitled (auth : AuthSnapshot) (role : Role) (deviceId : Option String) (token : String) :
    Prop :=
  match role with
  | .controller => token = auth.controllerToken
  | .agent | .agentSession => ∃ d, deviceId = some d ∧ auth.deviceTokens.lookup d = some token

/-- The check both roles end with: right length and the same bytes. -/
theorem token_check (token expected error : String) :
    (if !validTokenLength token || !constantTimeEqual (utf8 token) (utf8 expected) then
      (Except.error error : Except String Unit) else .ok ()) = .ok () ↔
      validTokenLength token = true ∧ token = expected := by
  have same := (constantTimeEqual_iff (utf8 token) (utf8 expected)).trans utf8_inj
  cases validTokenLength token <;> cases equal : constantTimeEqual (utf8 token) (utf8 expected) <;>
    simp_all

theorem authenticate_device_ok {role : Role} (device : role ≠ .controller) {deviceId : Option String}
    {token : String} {auth : AuthSnapshot} :
    authenticate role deviceId token auth = .ok () ↔
      ∃ d, deviceId = some d ∧ DeviceId.isValid d = true ∧
        auth.deviceTokens.lookup d = some token ∧ validTokenLength token = true := by
  cases role with
  | controller => exact absurd rfl device
  | agent | agentSession =>
      cases deviceId with
      | none => simp [authenticate]
      | some d =>
          cases valid : DeviceId.isValid d with
          | false => simp [authenticate, valid]
          | true =>
              cases found : auth.deviceTokens.lookup d with
              | none => simp [authenticate, valid, found]
              | some expected =>
                  simp only [authenticate, valid, found, Bool.not_true, Bool.false_eq_true,
                    if_false, token_check, Option.some.injEq, exists_eq_left', true_and]
                  constructor
                  · rintro ⟨long, rfl⟩
                    exact ⟨rfl, long⟩
                  · rintro ⟨rfl, long⟩
                    exact ⟨long, rfl⟩

theorem authenticate_controller_ok {deviceId : Option String} {token : String}
    {auth : AuthSnapshot} :
    authenticate .controller deviceId token auth = .ok () ↔
      validTokenLength token = true ∧ token = auth.controllerToken :=
  token_check token auth.controllerToken "invalid controller token"

/-- **A connection that authenticates presented exactly the token stored for the
identity it claims.** -/
theorem authenticate_entitled {role : Role} {deviceId : Option String} {token : String}
    {auth : AuthSnapshot} (ok : authenticate role deviceId token auth = .ok ()) :
    Entitled auth role deviceId token := by
  cases role with
  | controller => exact (authenticate_controller_ok.mp ok).2
  | agent | agentSession =>
      obtain ⟨d, named, -, stored, -⟩ := (authenticate_device_ok (by decide)).mp ok
      exact ⟨d, named, stored⟩

/-! ## What the outcome depends on -/

/-- The presented bytes are the expected ones, and as many as a token has. -/
def Presents (token expected : String) : Prop :=
  utf8 token = utf8 expected ∧
    minTokenBytes ≤ (utf8 token).length ∧ (utf8 token).length ≤ maxTokenBytes

theorem presents_iff {token expected : String} :
    Presents token expected ↔ validTokenLength token = true ∧ token = expected := by
  rw [Presents, utf8_inj, validTokenLength, Bool.and_eq_true, decide_eq_true_eq, decide_eq_true_eq]
  exact and_comm

theorem authenticate_ok_iff {role : Role} {deviceId : Option String} {token : String}
    {auth : AuthSnapshot} :
    authenticate role deviceId token auth = .ok () ↔
      ((role = .agent ∨ role = .agentSession) ∧ ∃ d expected, deviceId = some d ∧
        DeviceId.isValid d = true ∧ auth.deviceTokens.lookup d = some expected ∧
        Presents token expected) ∨
      role = .controller ∧ Presents token auth.controllerToken := by
  simp only [presents_iff]
  cases role with
  | controller => simp [authenticate_controller_ok]
  | agent | agentSession =>
      rw [authenticate_device_ok (by decide)]
      simp only [reduceCtorEq, or_true, true_and, false_and, or_false]
      constructor
      · rintro ⟨d, named, valid, found, long⟩
        exact ⟨d, token, named, valid, found, long, rfl⟩
      · rintro ⟨d, expected, named, valid, found, long, rfl⟩
        exact ⟨d, named, valid, found, long⟩

/-- A device is answered from its own entry. -/
theorem authenticate_device_local {role : Role} (device : role ≠ .controller) {d token : String}
    {auth other : AuthSnapshot}
    (entry : auth.deviceTokens.lookup d = other.deviceTokens.lookup d) :
    authenticate role (some d) token auth = authenticate role (some d) token other := by
  cases role with
  | controller => exact absurd rfl device
  | agent | agentSession => simp only [authenticate, entry]

/-- **`authenticate` is token equality for each identity**, and each identity's own. -/
theorem authenticate_exact :
    (∀ (role : Role) (deviceId : Option String) (token : String) (auth : AuthSnapshot),
      authenticate role deviceId token auth = .ok () ↔
        ((role = .agent ∨ role = .agentSession) ∧ ∃ d expected, deviceId = some d ∧
          DeviceId.isValid d = true ∧ auth.deviceTokens.lookup d = some expected ∧
          Presents token expected) ∨
        role = .controller ∧ Presents token auth.controllerToken) ∧
    (∀ (role : Role) (d token : String) (auth other : AuthSnapshot), role ≠ .controller →
      auth.deviceTokens.lookup d = other.deviceTokens.lookup d →
        authenticate role (some d) token auth = authenticate role (some d) token other) ∧
    (∀ (deviceId : Option String) (token : String) (auth other : AuthSnapshot),
      auth.controllerToken = other.controllerToken →
        authenticate .controller deviceId token auth =
          authenticate .controller deviceId token other) ∧
    ∀ left right : List UInt8, constantTimeEqual left right = true ↔ left = right := by
  refine ⟨fun _ _ _ _ => authenticate_ok_iff, ?_, ?_, constantTimeEqual_iff⟩
  · intro role d token auth other device entry
    exact authenticate_device_local device entry
  · intro deviceId token auth other controller
    simp only [authenticate, controller]

/-- Zero bytes at the end count. -/
example : constantTimeEqual [1, 2] [1, 2, 0] = false := by decide

end RustSsh.Server
