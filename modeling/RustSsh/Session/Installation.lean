/-
# Session.Installation -- a relay is installed, and a device connects to it

The keys of a relay pass through five functions: `identity::generate` writes them to two files,
`ServerIdentity::load` reads the private one, `add_device` reads the public one and puts it in a
pairing code, the client's `bootstrap::decode` takes it out, and `client_connect` pins it.
`installation_connects` is that the two ends of this path are the two ends of one handshake.
-/
import RustSsh.Noise.Handshake
import RustSsh.Server.Identity
import RustSsh.Pairing.Provisioning

namespace RustSsh.Session

open RustSsh.Theory RustSsh.Protocol RustSsh.Pairing RustSsh.Server RustSsh.Agent RustSsh.Noise

set_option autoImplicit false

section

variable {crates : Crates}

/-- What a key file is read as does not depend on what it is called. -/
theorem loadPublicKey_path {path other : String} {file : Option Bytes} {key : Bytes}
    (read : loadPublicKey crates path file = .ok key) :
    loadPublicKey crates other file = .ok key := by
  unfold loadPublicKey at read ⊢
  cases content : file.bind Text.decode with
  | none => simp [content] at read
  | some text =>
      cases decoded : decodePublicKey crates text.trim with
      | error error => simp [content, decoded] at read
      | ok bytes => simpa [content, decoded] using read

end

section

variable {H S R : Type}

/-- What a client with the pinned key and a relay with the private key do with each other. -/
def Connects (snow : Snow H S R) (cipher : Cipher S R) (pinned serverKey : Bytes) : Prop :=
  ∀ clientKey, clientKey.length = staticKeySize →
    ∃ e : Exchange snow clientKey serverKey pinned,
      cipher.Inverts e.client.1 e.server.2 ∧ cipher.Inverts e.server.1 e.client.2 ∧
        ∀ acts d, exec Dialogue.step (handshakes snow clientKey pinned serverKey) acts = some d →
          Completes e.streams d ∧ moves acts ≤ e.cost

/-- **An installation connects**: the relay loads the private key that `generate` made, and the key
in every pairing code of `add_device`, however it is pasted, is its public half. -/
theorem installation_connects {snow : Snow H S R} {cipher : Cipher S R}
    {publicKeyOf : Bytes → Bytes} (noise : snow.Documented publicKeyOf cipher)
    {crates : Crates} (documented : crates.Documented) (lower : HexLower crates)
    {disk : Disk} {faults : GenerateFaults} {keys : Except String (Keypair publicKeyOf)}
    {privatePath publicPath : FilePath} {tree : KeyTree}
    (generated : generate crates disk faults keys privatePath publicPath = (.ok (), tree))
    {parse : String → Option SocketAddr} {addFaults : AddFaults} {token : Except String String}
    {directory deviceId server keyPath code : String} {devices left : Option Directory}
    (added : addDevice crates parse addFaults token directory devices deviceId server keyPath
      (disk.read tree publicPath) = (.ok code, left)) :
    ∃ keypair, keys = .ok keypair ∧
      loadIdentity privatePath.display (disk.read tree privatePath) = .ok keypair.privateKey ∧
      ∀ pasted : String, Pasted code.toList pasted.toList →
        ∃ config, decode crates parse pasted = .ok config ∧
          config.serverKey = publicKeyOf keypair.privateKey ∧
          Connects snow cipher config.serverKey keypair.privateKey := by
  obtain ⟨keypair, made, loaded, published⟩ := generate_loads documented lower generated
  rw [keypair.pair] at published
  obtain ⟨-, key, token, read, encoded, -, -⟩ := addDevice_ok added
  obtain rfl : key = publicKeyOf keypair.privateKey :=
    Except.ok.inj (read.symm.trans (loadPublicKey_path published))
  refine ⟨keypair, made, loaded, fun pasted paste => ?_⟩
  refine ⟨_, decode_encode documented (loadPublicKey_length read) encoded paste, rfl,
    fun clientKey clientSize => ?_⟩
  obtain ⟨e, there, back⟩ := noise.completes clientKey keypair.privateKey clientSize
    keypair.privateSize
  exact ⟨e, there, back, fun acts d => e.runs (noise.publicKey _ keypair.privateSize)⟩

end

def plainKeypair : Keypair plainPublicKey where
  privateKey := plainServerKey
  publicKey := plainPublicKey plainServerKey
  privateSize := rfl
  publicSize := rfl
  pair := rfl

/-- The keys of a relay, on an empty disk. -/
def plainGenerated : Except String Unit × KeyTree :=
  generate crates bareDisk (fun _ => none) (.ok plainKeypair)
    ⟨false, ["identity.key", "etc"]⟩ ⟨false, ["identity.pub", "etc"]⟩

/-- Its first device. -/
def plainAdded : Except String String × Option Directory :=
  addDevice crates oneServer ⟨none, 0, ""⟩ (.ok (String.ofList (List.replicate 64 '1'))) "devices"
    none secondDeviceId "198.51.100.10:24443" "etc/identity.pub"
    (bareDisk.read plainGenerated.2 ⟨false, ["identity.pub", "etc"]⟩)

theorem installation_connects_plain :
    ∃ code config, plainAdded.1 = .ok code ∧ decode crates oneServer code = .ok config ∧
      config.serverKey = plainPublicKey plainServerKey ∧
      Connects plainSnow counterCipher config.serverKey plainServerKey := by
  have succeeds : plainGenerated.1 = .ok () := by decide +kernel
  have added : plainAdded.1.toOption.isSome = true := by decide +kernel
  cases run : plainAdded with
  | mk result left =>
      cases result with
      | error error =>
          rw [run] at added
          cases added
      | ok code =>
          obtain ⟨keypair, same, -, connects⟩ := installation_connects plainSnow_documented
            crates_documented hexLower_crates (Prod.ext succeeds rfl) run
          cases same
          obtain ⟨config, decoded, pinned, connected⟩ := connects code (Pasted.refl _)
          exact ⟨code, config, rfl, decoded, pinned, connected⟩

end RustSsh.Session
