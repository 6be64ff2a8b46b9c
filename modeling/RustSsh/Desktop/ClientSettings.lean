/-
# Desktop.ClientSettings -- from the saved settings to an agent

`client_agent_config` of `src/desktop.rs`, the GUI's own check of a pairing code against
the device it was saved for, with the validators it uses.
-/
import RustSsh.Pairing.Bootstrap

namespace RustSsh.Desktop

open RustSsh.Theory RustSsh.Protocol RustSsh.Server RustSsh.Agent RustSsh.Pairing

set_option autoImplicit false

/-- `client.json`. -/
structure ClientSettings where
  pairingCode : String
  deviceId : String
  target : String
  configVersion : UInt8
  deriving DecidableEq, Repr

/-- `agent::Config`. -/
structure AgentConfig where
  server : String
  serverKey : Bytes
  token : String
  deviceId : String
  target : String
  deriving DecidableEq, Repr

def requiredValue (value label : String) : Except String String :=
  let value := trimmed value
  if value.toList.isEmpty then .error s!"{label}不能为空" else .ok value

def validateLoopbackTarget (parse : String → Option SocketAddr) (target : String) :
    Except String Unit :=
  match parse target with
  | none => .error "本地 SSH 必须是 loopback IP:端口，例如 127.0.0.1:22"
  | some address =>
      if !address.ip.isLoopback then .error "本地 SSH 只能连接本机 loopback 地址" else .ok ()

def clientAgentConfig (crates : Crates) (parse : String → Option SocketAddr)
    (settings : ClientSettings) : Except String AgentConfig := do
  let pairing ← decode crates parse settings.pairingCode
  let deviceId ← requiredValue settings.deviceId "设备 ID"
  if !DeviceId.isGenerated deviceId then
    .error "设备 ID 不是有效的 rust-ssh 自动生成 ID，请重新注册 client"
  else
    match pairing.deviceId with
    | none => .error "设备配置码没有绑定设备 ID，请使用服务器 device add 生成的配置码"
    | some pairingDeviceId =>
        if pairingDeviceId != deviceId then
          .error "设备配置码属于其他设备，请在服务器使用当前设备 ID 重新生成"
        else do
          let target ← requiredValue settings.target "本地 SSH 目标"
          validateLoopbackTarget parse target
          return { server := pairing.server, serverKey := pairing.serverKey,
                   token := pairing.token, deviceId, target }

/-! ## What is accepted -/

section

variable {crates : Crates} {parse : String → Option SocketAddr} {settings : ClientSettings}

theorem requiredValue_ok {value label out : String} :
    requiredValue value label = .ok out ↔ out = trimmed value ∧ out.toList ≠ [] := by
  simp only [requiredValue, List.isEmpty_iff]
  split
  · rename_i empty
    constructor
    · intro impossible
      cases impossible
    · rintro ⟨rfl, nonempty⟩
      exact absurd empty nonempty
  · rename_i nonempty
    constructor
    · intro same
      cases same
      exact ⟨rfl, nonempty⟩
    · rintro ⟨rfl, -⟩
      rfl

theorem validateLoopbackTarget_ok {target : String} :
    validateLoopbackTarget parse target = .ok () ↔
      ∃ address, parse target = some address ∧ address.ip.isLoopback = true := by
  unfold validateLoopbackTarget
  cases parse target with
  | none => simp
  | some address => cases loopback : address.ip.isLoopback <;> simp [loopback]

/-- A code bound to the settings' generated id, with a loopback target, makes an agent. -/
theorem clientAgentConfig_ok {pairing : Pairing.Config}
    (decoded : decode crates parse settings.pairingCode = .ok pairing)
    (generated : DeviceId.isGenerated (trimmed settings.deviceId) = true)
    (bound : pairing.deviceId = some (trimmed settings.deviceId))
    (named : (trimmed settings.target).toList ≠ [])
    {address : SocketAddr} (parsed : parse (trimmed settings.target) = some address)
    (loopback : address.ip.isLoopback = true) :
    clientAgentConfig crates parse settings = .ok
      { server := pairing.server, serverKey := pairing.serverKey, token := pairing.token,
        deviceId := trimmed settings.deviceId, target := trimmed settings.target } := by
  have solid : (trimmed settings.deviceId).toList ≠ [] := by
    intro empty
    rw [String.toList_eq_nil_iff] at empty
    rw [empty] at generated
    exact absurd generated (by decide)
  have device : requiredValue settings.deviceId "设备 ID" = .ok (trimmed settings.deviceId) :=
    requiredValue_ok.mpr ⟨rfl, solid⟩
  have target : requiredValue settings.target "本地 SSH 目标" = .ok (trimmed settings.target) :=
    requiredValue_ok.mpr ⟨rfl, named⟩
  have checked : validateLoopbackTarget parse (trimmed settings.target) = .ok () :=
    validateLoopbackTarget_ok.mpr ⟨address, parsed, loopback⟩
  simp [clientAgentConfig, decoded, device, target, checked, generated, bound, bind, Except.bind,
    pure, Except.pure]

end

end RustSsh.Desktop
