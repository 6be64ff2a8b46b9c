/-
# Noise.Handshake -- the Noise XX handshake

`client_connect`, `client_handshake` and `server_handshake` of `src/noise.rs`.  The handshake state
of the crate `snow` is a parameter (`Snow`); its messages are frames of their own on the stream,
before the first encrypted frame.

Three results.  Between an honest client and relay every order of the calls, with the bytes in
pieces of any size, ends in two streams that decrypt each other, and nothing behind the handshake
is read by it (`handshake_completes`).  In front of any peer the client has sent only its first
message until it took a message that `snow` attributes to the pinned key, and it connects on no
other (`client_pins`).  A relay that accepts has read the two frames of one exchange and nothing
else (`server_accepts`).
-/
import RustSsh.Theory.Dialogue
import RustSsh.Noise.Link
import RustSsh.Pairing.Bootstrap

namespace RustSsh.Noise

open RustSsh.Theory
open RustSsh.Pairing

set_option autoImplicit false

/-! ## The source -/

/-- `MAX_HANDSHAKE_MESSAGE`. -/
def maxHandshakeMessage : Nat := 65535

/-- The operations of `snow::Builder` and `snow::HandshakeState`, for the pattern of
`noise_params`; both handshakes write empty payloads and drop what they read.  An error is given
by its text. -/
structure Snow (H S R : Type) where
  buildInitiator : Bytes → Except String H
  buildResponder : Bytes → Except String H
  writeMessage : H → Except String (Bytes × H)
  readMessage : H → Bytes → Except String H
  getRemoteStatic : H → Option Bytes
  intoTransportMode : H → Except String (S × R)

section Source

variable {H S R α A : Type}

/-- `map_err` with the text of the error behind `context`, and `?`. -/
def attempt (context : String) (result : Except String A) (next : A → Script UInt8 α) :
    Script UInt8 α :=
  match result with
  | .error error => .done (.error (context ++ ": " ++ error))
  | .ok value => next value

def writeNoiseMessage (message : Bytes) (next : Script UInt8 α) : Script UInt8 α :=
  if message = [] ∨ maxHandshakeMessage < message.length then
    .done (.error "invalid Noise handshake message length")
  else
    .write (bigEndian 4 message.length) "writing Noise handshake frame length"
      (.write message "writing Noise handshake frame"
        (.flush "flushing Noise handshake frame" next))

/-- `read_noise_message` from the completed length on. -/
def readNoiseBody (next : Bytes → Script UInt8 α) (header : Bytes) : Script UInt8 α :=
  let length := ofBigEndian header
  if length = 0 ∨ maxHandshakeMessage < length then
    .done (.error ("invalid Noise handshake frame length: " ++ toString length))
  else
    .read length "reading Noise handshake frame" next

def readNoiseMessage (next : Bytes → Script UInt8 α) : Script UInt8 α :=
  .read 4 "reading Noise handshake frame length" (readNoiseBody next)

/-- `clientKey` is the private key that `generate_keypair` made. -/
def clientHandshake (snow : Snow H S R) (clientKey : Except String Bytes)
    (expectedPublicKey : Bytes) : Script UInt8 (NoiseStream S R) :=
  if expectedPublicKey.length ≠ staticKeySize then
    .done (.error s!"pinned server public key must be exactly {staticKeySize} bytes")
  else
    attempt "generating client Noise session key" clientKey fun key =>
    attempt "creating Noise initiator" (snow.buildInitiator key) fun handshake =>
    attempt "writing Noise handshake message 1" (snow.writeMessage handshake)
      fun (output, handshake) =>
    writeNoiseMessage output <| readNoiseMessage fun input =>
    attempt "reading Noise handshake message 2" (snow.readMessage handshake input)
      fun handshake =>
    match snow.getRemoteStatic handshake with
    | none => .done (.error "relay did not provide a static Noise identity key")
    | some remoteStatic =>
        if remoteStatic ≠ expectedPublicKey then
          .done (.error "relay server Noise public key does not match the pinned key")
        else
          attempt "writing Noise handshake message 3" (snow.writeMessage handshake)
            fun (output, handshake) =>
          writeNoiseMessage output <|
          attempt "entering Noise transport mode" (snow.intoTransportMode handshake)
            fun (sending, receiving) =>
          .done (.ok (NoiseStream.new sending receiving))

def serverHandshake (snow : Snow H S R) (privateKey : Bytes) :
    Script UInt8 (NoiseStream S R) :=
  attempt "creating Noise responder" (snow.buildResponder privateKey) fun handshake =>
  readNoiseMessage fun input =>
  attempt "reading Noise handshake message 1" (snow.readMessage handshake input)
    fun handshake =>
  attempt "writing Noise handshake message 2" (snow.writeMessage handshake)
    fun (output, handshake) =>
  writeNoiseMessage output <| readNoiseMessage fun input =>
  attempt "reading Noise handshake message 3" (snow.readMessage handshake input)
    fun handshake =>
  attempt "entering Noise transport mode" (snow.intoTransportMode handshake)
    fun (sending, receiving) =>
  .done (.ok (NoiseStream.new sending receiving))

/-- `client_connect` is connecting, has no stream, or is in the handshake. -/
inductive ClientConnect (S R : Type) where
  | connecting
  | failed (error : String)
  | handshake (timed : Timed UInt8 (NoiseStream S R))

inductive ConnectAct where
  /-- `TcpStream::connect` and `set_nodelay` succeed -/
  | connected
  | refused
  | nodelayFailed
  | timedOut
  | handshake (m : TimedMove UInt8)
  deriving DecidableEq, Repr

namespace ClientConnect

variable (snow : Snow H S R) (clientKey : Except String Bytes) (endpoint : String)
  (expectedPublicKey : Bytes)

def step : ClientConnect S R → ConnectAct → Option (ClientConnect S R)
  | .connecting, .connected =>
      some (.handshake (Timed.start (clientHandshake snow clientKey expectedPublicKey)))
  | .connecting, .refused => some (.failed s!"connecting to relay {endpoint}")
  | .connecting, .nodelayFailed => some (.failed s!"enabling TCP_NODELAY for relay {endpoint}")
  | .connecting, .timedOut => some (.failed s!"timed out connecting to relay {endpoint}")
  | .handshake timed, .handshake m => (timed.step m).map .handshake
  | _, _ => none

/-- What the call has returned. -/
def result : ClientConnect S R → Option (Except String (NoiseStream S R))
  | .connecting => none
  | .failed error => some (.error error)
  | .handshake timed => timed.result s!"timed out during Noise handshake with relay {endpoint}"

def sent : ClientConnect S R → Bytes
  | .handshake timed => timed.solo.sent
  | .connecting | .failed _ => []

def taken : ClientConnect S R → Bytes
  | .handshake timed => timed.solo.taken
  | .connecting | .failed _ => []

end ClientConnect

end Source

section Messages

variable {α : Type}

/-- What `snow` hands to `write_noise_message` fits a frame of the handshake. -/
structure Sendable (message : Bytes) : Prop where
  nonempty : message ≠ []
  short : message.length ≤ maxHandshakeMessage

theorem Sendable.not_refused {message : Bytes} (sendable : Sendable message) :
    ¬ (message = [] ∨ maxHandshakeMessage < message.length) := by
  rintro (none | long)
  · exact sendable.nonempty none
  · exact absurd sendable.short (Nat.not_le.mpr long)

theorem Sendable.announced {message : Bytes} (sendable : Sendable message) :
    ofBigEndian (bigEndian 4 message.length) = message.length := by
  refine ofBigEndian_bigEndian 4 _ ?_
  have small : maxHandshakeMessage < 256 ^ 4 := by decide
  exact Nat.lt_of_le_of_lt sendable.short small

theorem Sendable.not_invalid {message : Bytes} (sendable : Sendable message) :
    ¬ (message.length = 0 ∨ maxHandshakeMessage < message.length) := by
  rw [List.length_eq_zero_iff]
  exact sendable.not_refused

theorem writeNoiseMessage_sendable {message : Bytes} (sendable : Sendable message)
    (next : Script UInt8 α) :
    writeNoiseMessage message next =
      .write (bigEndian 4 message.length) "writing Noise handshake frame length"
        (.write message "writing Noise handshake frame"
          (.flush "flushing Noise handshake frame" next)) :=
  if_neg sendable.not_refused

theorem readNoiseBody_sendable {message : Bytes} (sendable : Sendable message)
    (next : Bytes → Script UInt8 α) :
    readNoiseBody next (bigEndian 4 message.length) =
      .read message.length "reading Noise handshake frame" next := by
  simp only [readNoiseBody, sendable.announced, if_neg sendable.not_invalid]

/-! ## Two honest parties -/

variable {result : Party → α} {n : Nat} {script : Party → Script UInt8 α}
  {wire later : Party → Bytes}

theorem talk_write {message : Bytes} {next : Script UInt8 α} (p : Party)
    (sendable : Sendable message) (here : script p = writeNoiseMessage message next)
    (rest : Talk result n (Function.update script p next)
      (Function.update wire p (wire p ++ frame message)) later) :
    Talk result (n + message.length + 7) script wire later := by
  rw [writeNoiseMessage_sendable sendable] at here
  have count : n + message.length + 7 =
      n + 1 + message.length + 1 + (bigEndian 4 message.length).length + 1 := by
    rw [length_bigEndian]
    omega
  rw [count]
  refine .write p here (.write p (Function.update_self ..) (.flush p (Function.update_self ..) ?_))
  simpa only [Function.update_idem, Function.update_self, List.append_assoc, frame] using rest

theorem talk_read {message behind : Bytes} {next : Bytes → Script UInt8 α} (p : Party)
    (sendable : Sendable message) (here : script p = readNoiseMessage next)
    (there : wire p.other = frame message ++ behind)
    (rest : Talk result n (Function.update script p (next message))
      (Function.update wire p.other behind) later) :
    Talk result (n + message.length + 6) script wire later := by
  have count : n + message.length + 6 = n + message.length + 1 + 4 + 1 := by omega
  rw [frame, List.append_assoc] at there
  have stream : Function.update wire p.other (message ++ behind) p.other = message ++ behind :=
    Function.update_self ..
  have body : Talk result (n + message.length + 1)
      (Function.update script p (readNoiseBody next (bigEndian 4 message.length)))
      (Function.update wire p.other (message ++ behind)) later := by
    have waits : Function.update script p (readNoiseBody next (bigEndian 4 message.length)) p =
        .read message.length "reading Noise handshake frame" next := by
      rw [Function.update_self, readNoiseBody_sendable sendable]
    refine .read p waits stream rfl ?_
    simpa only [Function.update_idem] using rest
  have whole := Talk.read p here there (length_bigEndian 4 _) body
  rwa [count]

end Messages

section Honest

variable {H S R : Type}

/-- One exchange of the two ends of `snow`: what each call returns.  `remote` is the key that the
client is told the second message comes from. -/
structure Exchange (snow : Snow H S R) (clientKey serverKey remote : Bytes) where
  first : Bytes
  second : Bytes
  third : Bytes
  client : S × R
  server : S × R
  initiator : H
  opened : H
  answered : H
  confirmed : H
  responder : H
  reached : H
  replied : H
  concluded : H
  initiates : snow.buildInitiator clientKey = .ok initiator
  opens : snow.writeMessage initiator = .ok (first, opened)
  responds : snow.buildResponder serverKey = .ok responder
  reaches : snow.readMessage responder first = .ok reached
  replies : snow.writeMessage reached = .ok (second, replied)
  answers : snow.readMessage opened second = .ok answered
  identifies : snow.getRemoteStatic answered = some remote
  confirms : snow.writeMessage answered = .ok (third, confirmed)
  concludes : snow.readMessage replied third = .ok concluded
  clientEnters : snow.intoTransportMode confirmed = .ok client
  serverEnters : snow.intoTransportMode concluded = .ok server
  firstSendable : Sendable first
  secondSendable : Sendable second
  thirdSendable : Sendable third

namespace Exchange

variable {snow : Snow H S R} {clientKey serverKey remote : Bytes}

/-- The streams that the two handshakes return. -/
def streams (e : Exchange snow clientKey serverKey remote) : Party → NoiseStream S R :=
  Party.each (NoiseStream.new e.client.1 e.client.2) (NoiseStream.new e.server.1 e.server.2)

/-- The calls that the exchange takes if every write and read goes a byte at a time. -/
def cost (e : Exchange snow clientKey serverKey remote) : Nat :=
  2 * (e.first.length + e.second.length + e.third.length) + 39

/-- The relay waits for the first message and the client for the second. -/
theorem talk (e : Exchange snow clientKey serverKey remote)
    (size : remote.length = staticKeySize) :
    Talk e.streams e.cost
      (Party.each (clientHandshake snow (.ok clientKey) remote) (serverHandshake snow serverKey))
      (Party.each [] []) (Party.each [] []) := by
  have count : e.cost = 0 + e.third.length + 6 + e.third.length + 7 + e.second.length + 6 +
      e.second.length + 7 + e.first.length + 6 + e.first.length + 7 := by
    rw [cost]
    omega
  have same : ¬ remote.length ≠ staticKeySize := not_not.mpr size
  simp only [clientHandshake, if_neg same, attempt, e.initiates, e.opens]
  simp only [serverHandshake, e.responds, attempt]
  rw [count]
  refine talk_write .left e.firstSendable rfl ?_
  refine talk_read .right e.firstSendable rfl (List.append_nil _).symm ?_
  simp only [e.reaches, e.replies, Party.other, Party.update_left, Party.update_right]
  refine talk_write .right e.secondSendable rfl ?_
  refine talk_read .left e.secondSendable rfl (List.append_nil _).symm ?_
  simp only [e.answers, e.identifies, e.confirms, Party.other, Party.update_left, Party.update_right]
  simp only [ne_eq, not_true_eq_false, if_false, e.clientEnters]
  refine talk_write .left e.thirdSendable rfl ?_
  refine talk_read .right e.thirdSendable rfl (List.append_nil _).symm ?_
  simp only [e.concludes, e.serverEnters, Party.other, Party.update_left, Party.update_right]
  refine .finished _ _ fun p => ?_
  cases p <;> rfl

end Exchange

/-- What the crate's documentation promises of the pattern: with keys of the right size its two
ends complete it, the initiator learns the responder's public key, and the transports they enter
decrypt each other. -/
structure Snow.Documented (snow : Snow H S R) (publicKeyOf : Bytes → Bytes) (cipher : Cipher S R) :
    Prop where
  publicKey : ∀ key, key.length = staticKeySize → (publicKeyOf key).length = staticKeySize
  completes : ∀ clientKey serverKey, clientKey.length = staticKeySize →
    serverKey.length = staticKeySize →
      ∃ e : Exchange snow clientKey serverKey (publicKeyOf serverKey),
        cipher.Inverts e.client.1 e.server.2 ∧ cipher.Inverts e.server.1 e.client.2

abbrev Handshakes (S R : Type) := Dialogue UInt8 (NoiseStream S R)

/-- A client that pins `pinned` and a relay with `serverKey`, before any call. -/
def handshakes (snow : Snow H S R) (clientKey pinned serverKey : Bytes) : Handshakes S R :=
  Dialogue.start
    (Party.each (clientHandshake snow (.ok clientKey) pinned) (serverHandshake snow serverKey))

/-- What holds of two handshakes at any time. -/
structure Completes (streams : Party → NoiseStream S R) (d : Handshakes S R) : Prop where
  /-- nobody has failed, and whoever is over has its stream -/
  succeeds : ∀ p r, d.script p = .done r → r = .ok (streams p)
  /-- nobody waits for the other in vain -/
  goes_on : (∀ p, d.script p = .done (.ok (streams p))) ∨ ∃ p m d', d.step (.move p m) = some d'
  /-- what is sent on the new streams is left to them -/
  left_over : (∀ p, ∃ r, d.script p = .done r) → d.wire = d.behind

/-- Every schedule of an exchange. -/
theorem Exchange.runs {snow : Snow H S R} {clientKey serverKey remote : Bytes}
    (e : Exchange snow clientKey serverKey remote) (size : remote.length = staticKeySize)
    {acts : List (DialogueAct UInt8)} {d : Handshakes S R}
    (run : exec Dialogue.step (handshakes snow clientKey remote serverKey) acts = some d) :
    Completes e.streams d ∧ moves acts ≤ e.cost := by
  have nothing : Party.each [] [] = fun _ => ([] : Bytes) := by
    funext p
    cases p <;> rfl
  have talk := e.talk size
  rw [nothing] at talk
  obtain ⟨k, fewer, talk⟩ := Dialogue.run_talk talk run
  refine ⟨⟨fun p r here => talk.ended here, Dialogue.goes_on talk, talk.left_over⟩, ?_⟩
  omega

/-- **The handshake completes** between a client and the relay it pins, in every order of the
calls and whatever the sizes of the pieces, in a bounded number of calls; the two streams decrypt
each other. -/
theorem handshake_completes {snow : Snow H S R} {publicKeyOf : Bytes → Bytes}
    {cipher : Cipher S R} (documented : snow.Documented publicKeyOf cipher)
    {clientKey serverKey : Bytes} (clientSize : clientKey.length = staticKeySize)
    (serverSize : serverKey.length = staticKeySize) :
    ∃ e : Exchange snow clientKey serverKey (publicKeyOf serverKey),
      cipher.Inverts e.client.1 e.server.2 ∧ cipher.Inverts e.server.1 e.client.2 ∧
        ∀ acts d, exec Dialogue.step
            (handshakes snow clientKey (publicKeyOf serverKey) serverKey) acts = some d →
          Completes e.streams d ∧ moves acts ≤ e.cost := by
  obtain ⟨e, there, back⟩ := documented.completes clientKey serverKey clientSize serverSize
  exact ⟨e, there, back, fun acts d => e.runs (documented.publicKey serverKey serverSize)⟩

end Honest

/-! ## A handshake to run

Every message carries the sender's public key in the open. -/

structure PlainState where
  ownKey : Bytes
  remote : Option Bytes
  messages : Nat

def plainPublicKey (key : Bytes) : Bytes := key.map (255 - ·)

def plainSnow : Snow PlainState Nat Nat where
  buildInitiator key := .ok ⟨key, none, 0⟩
  buildResponder key := .ok ⟨key, none, 0⟩
  writeMessage h :=
    .ok (UInt8.ofNat h.messages :: plainPublicKey h.ownKey, { h with messages := h.messages + 1 })
  readMessage h message :=
    match message with
    | [] => .error "input error"
    | number :: key =>
        if number = UInt8.ofNat h.messages ∧ key.length = staticKeySize then
          .ok { h with remote := some key, messages := h.messages + 1 }
        else .error "decrypt error"
  getRemoteStatic h := h.remote
  intoTransportMode h := if h.messages = 3 then .ok (0, 0) else .error "state error"

theorem length_plainPublicKey (key : Bytes) : (plainPublicKey key).length = key.length := by
  simp [plainPublicKey]

theorem plainSnow_sendable (number : UInt8) {key : Bytes} (size : key.length = staticKeySize) :
    Sendable (number :: plainPublicKey key) := by
  refine ⟨by simp, ?_⟩
  rw [List.length_cons, length_plainPublicKey, size]
  decide

theorem plainSnow_documented : plainSnow.Documented plainPublicKey counterCipher where
  publicKey key size := by rw [length_plainPublicKey, size]
  completes clientKey serverKey clientSize serverSize :=
    ⟨{ first := 0 :: plainPublicKey clientKey
       second := 1 :: plainPublicKey serverKey
       third := 2 :: plainPublicKey clientKey
       client := (0, 0)
       server := (0, 0)
       initiator := ⟨clientKey, none, 0⟩
       opened := ⟨clientKey, none, 1⟩
       answered := ⟨clientKey, some (plainPublicKey serverKey), 2⟩
       confirmed := ⟨clientKey, some (plainPublicKey serverKey), 3⟩
       responder := ⟨serverKey, none, 0⟩
       reached := ⟨serverKey, some (plainPublicKey clientKey), 1⟩
       replied := ⟨serverKey, some (plainPublicKey clientKey), 2⟩
       concluded := ⟨serverKey, some (plainPublicKey clientKey), 3⟩
       initiates := rfl
       opens := rfl
       responds := rfl
       reaches := by simp [plainSnow, length_plainPublicKey, clientSize]
       replies := rfl
       answers := by simp [plainSnow, length_plainPublicKey, serverSize]
       identifies := rfl
       confirms := rfl
       concludes := by simp [plainSnow, length_plainPublicKey, clientSize]
       clientEnters := rfl
       serverEnters := rfl
       firstSendable := plainSnow_sendable 0 clientSize
       secondSendable := plainSnow_sendable 1 serverSize
       thirdSendable := plainSnow_sendable 2 clientSize },
      counterCipher_inverts 0, counterCipher_inverts 0⟩

def plainClientKey : Bytes := List.replicate 32 1

def plainServerKey : Bytes := List.replicate 32 2

theorem handshake_completes_plain :
    ∃ e : Exchange plainSnow plainClientKey plainServerKey (plainPublicKey plainServerKey),
      counterCipher.Inverts e.client.1 e.server.2 ∧ counterCipher.Inverts e.server.1 e.client.2 ∧
        ∀ acts d, exec Dialogue.step (handshakes plainSnow plainClientKey
            (plainPublicKey plainServerKey) plainServerKey) acts = some d →
          Completes e.streams d ∧ moves acts ≤ e.cost :=
  handshake_completes plainSnow_documented rfl rfl

/-! ## In front of any peer -/

section Alone

variable {A α : Type} {Q : Option (Except String α) → Bytes → Bytes → Prop} {sent taken : Bytes}

/-- The call has not returned a value: it is running or has failed. -/
def Unfinished (r : Option (Except String α)) : Prop := ∀ value, r ≠ some (.ok value)

theorem unfinished_none : Unfinished (none : Option (Except String α)) := fun _ => by simp

theorem unfinished_error (error : String) : Unfinished (some (.error error : Except String α)) :=
  fun _ => by simp

/-- A fact about what a script has returned, sent and taken. -/
def Meets (Q : Option (Except String α) → Bytes → Bytes → Prop) (s : Solo UInt8 α) : Prop :=
  Q s.script.result s.sent s.taken

theorem always_attempt {context : String} {result : Except String A}
    {next : A → Script UInt8 α} (failed : ∀ r, Unfinished r → Q r sent taken)
    (later : ∀ value, result = .ok value → Always (Meets Q) ⟨next value, sent, taken⟩) :
    Always (Meets Q) ⟨attempt context result next, sent, taken⟩ := by
  cases result with
  | error error => exact .done (failed _ (unfinished_error _))
  | ok value => exact later value rfl

/-- While a message is written some prefix of its frame has gone out. -/
theorem always_write {message : Bytes} {next : Script UInt8 α}
    (during : ∀ r part, Unfinished r → part <+: frame message → Q r (sent ++ part) taken)
    (later : Sendable message → Always (Meets Q) ⟨next, sent ++ frame message, taken⟩) :
    Always (Meets Q) ⟨writeNoiseMessage message next, sent, taken⟩ := by
  have header : ∀ count, (bigEndian 4 message.length).take count <+: frame message :=
    fun count => (List.take_prefix _ _).trans (List.prefix_append _ _)
  have body : ∀ count, bigEndian 4 message.length ++ message.take count <+: frame message :=
    fun count => (List.prefix_append_right_inj _).mpr (List.take_prefix _ _)
  rw [writeNoiseMessage]
  split
  · have nothing := fun r unfinished => during r [] unfinished List.nil_prefix
    simp only [List.append_nil] at nothing
    exact .done (nothing _ (unfinished_error _))
  · rename_i valid
    have sendable : Sendable message := by
      rw [not_or, Nat.not_lt] at valid
      exact ⟨valid.1, valid.2⟩
    refine .write (fun count => during _ _ unfinished_none (header count))
      (fun count => during _ _ (unfinished_error _) (header count)) ?_
    refine .write (fun count => ?_) (fun count => ?_) ?_
    · rw [List.append_assoc]
      exact during _ _ unfinished_none (body count)
    · rw [List.append_assoc]
      exact during _ _ (unfinished_error _) (body count)
    · rw [List.append_assoc]
      exact .flush (during _ _ unfinished_none (List.prefix_refl _))
        (during _ _ (unfinished_error _) (List.prefix_refl _)) (later sendable)

/-- A message that is accepted is what one frame carries, and nothing behind it is taken. -/
theorem always_read {next : Bytes → Script UInt8 α}
    (during : ∀ r got, Unfinished r → Q r sent (taken ++ got))
    (later : ∀ message, Sendable message →
      Always (Meets Q) ⟨next message, sent, taken ++ frame message⟩) :
    Always (Meets Q) ⟨readNoiseMessage next, sent, taken⟩ := by
  refine .read (fun got _ => during _ got unfinished_none)
    (fun got _ => during _ got (unfinished_error _)) fun header full => ?_
  simp only [readNoiseBody]
  split
  · exact .done (during _ header (unfinished_error _))
  · rename_i valid
    rw [not_or, Nat.not_lt] at valid
    refine .read (fun got _ => ?_) (fun got _ => ?_) fun message announced => ?_
    · rw [List.append_assoc]
      exact during _ _ unfinished_none
    · rw [List.append_assoc]
      exact during _ _ (unfinished_error _)
    · have nonempty : message ≠ [] := by
        rintro rfl
        exact valid.1 announced.symm
      rw [List.append_assoc, frame_of_length full announced.symm]
      exact later message ⟨nonempty, by rw [announced]; exact valid.2⟩

theorem timed_meets {script : Script UInt8 α} {late : String} {moves : List (TimedMove UInt8)}
    {t : Timed UInt8 α} (always : Always (Meets Q) (Solo.start script))
    (drop : ∀ s t, Q none s t → Q (some (.error late)) s t)
    (run : exec Timed.step (Timed.start script) moves = some t) :
    Q (t.result late) t.solo.sent t.solo.taken := by
  have meets : Meets Q t.solo := Timed.run_always always run
  rw [Timed.result]
  split
  · rename_i expired
    rw [Meets, Timed.expired_running run expired] at meets
    exact drop _ _ meets
  · exact meets

end Alone

section Client

variable {H S R : Type} (snow : Snow H S R) (clientKey : Except String Bytes) (pinned : Bytes)

/-- The client's first message, and the state behind it. -/
def Opens (first : Bytes) (opened : H) : Prop :=
  ∃ key initiator, clientKey = .ok key ∧ snow.buildInitiator key = .ok initiator ∧
    snow.writeMessage initiator = .ok (first, opened)

/-- `snow` accepts `second` and says it is from the holder of the pinned key. -/
def Confirms (opened : H) (second third : Bytes) (confirmed : H) : Prop :=
  ∃ answered, snow.readMessage opened second = .ok answered ∧
    snow.getRemoteStatic answered = some pinned ∧
    snow.writeMessage answered = .ok (third, confirmed)

/-- What a client that pins a key has returned, sent and taken. -/
inductive Pinned : Option (Except String (NoiseStream S R)) → Bytes → Bytes → Prop where
  /-- until the relay has proved its key there is no stream, and at most the first message -/
  | unconfirmed {r : Option (Except String (NoiseStream S R))} {sent taken : Bytes}
      (unfinished : Unfinished r)
      (quiet : sent = [] ∨ ∃ first opened, Opens snow clientKey first opened ∧ sent <+: frame first) :
      Pinned r sent taken
  | confirmed {r : Option (Except String (NoiseStream S R))} {first second third part : Bytes}
      {opened confirmed : H} (size : pinned.length = staticKeySize)
      (opens : Opens snow clientKey first opened)
      (confirms : Confirms snow pinned opened second third confirmed)
      (front : part <+: frame third)
      (connects : ∀ stream, r = some (.ok stream) → part = frame third ∧
        ∃ sending receiving, snow.intoTransportMode confirmed = .ok (sending, receiving) ∧
          stream = NoiseStream.new sending receiving) :
      Pinned r (frame first ++ part) (frame second)

theorem Pinned.dropped {snow : Snow H S R} {clientKey : Except String Bytes} {pinned sent taken : Bytes}
    {error : String} (running : Pinned snow clientKey pinned none sent taken) :
    Pinned snow clientKey pinned (some (.error error)) sent taken := by
  cases running with
  | unconfirmed unfinished quiet => exact .unconfirmed (unfinished_error _) quiet
  | confirmed size opens confirms front connects =>
      exact .confirmed size opens confirms front fun stream never =>
        absurd never (unfinished_error _ stream)

theorem clientHandshake_pinned :
    Always (Meets (Pinned snow clientKey pinned))
      (Solo.start (clientHandshake snow clientKey pinned)) := by
  have quiet : ∀ r, Unfinished r → Pinned snow clientKey pinned r [] [] :=
    fun r unfinished => .unconfirmed unfinished (.inl rfl)
  rw [Solo.start, clientHandshake]
  split
  · exact .done (quiet _ (unfinished_error _))
  · rename_i size
    refine always_attempt quiet fun key made => ?_
    refine always_attempt quiet fun initiator built => ?_
    refine always_attempt quiet fun message wrote => ?_
    obtain ⟨first, opened⟩ := message
    have opens : Opens snow clientKey first opened := ⟨key, initiator, made, built, wrote⟩
    have opening : ∀ r part taken, Unfinished r → part <+: frame first →
        Pinned snow clientKey pinned r part taken :=
      fun r part taken unfinished front => .unconfirmed unfinished (.inr ⟨first, opened, opens, front⟩)
    have waiting := fun r taken unfinished => opening r _ taken unfinished (List.prefix_refl _)
    refine always_write (fun r part unfinished front => opening r part _ unfinished front) fun _ => ?_
    refine always_read (fun r got unfinished => waiting r _ unfinished) fun second _ => ?_
    refine always_attempt (fun r unfinished => waiting r _ unfinished) fun answered read => ?_
    split
    · exact .done (waiting _ _ (unfinished_error _))
    · rename_i remoteStatic identified
      split
      · exact .done (waiting _ _ (unfinished_error _))
      · rename_i same
        rw [not_not] at size same
        subst same
        refine always_attempt (fun r unfinished => waiting r _ unfinished) fun message wrote => ?_
        obtain ⟨third, confirmed⟩ := message
        have confirms : Confirms snow remoteStatic opened second third confirmed :=
          ⟨answered, read, identified, wrote⟩
        have confirming : ∀ r part, Unfinished r → part <+: frame third →
            Pinned snow clientKey remoteStatic r (frame first ++ part) (frame second) :=
          fun r part unfinished front => .confirmed size opens confirms front
            fun stream returned => absurd returned (unfinished stream)
        refine always_write confirming fun _ => ?_
        refine always_attempt (fun r unfinished => confirming r _ unfinished (List.prefix_refl _))
          fun keys entered => ?_
        obtain ⟨sending, receiving⟩ := keys
        refine .done (.confirmed size opens confirms (List.prefix_refl _) fun stream returned => ?_)
        obtain rfl : NoiseStream.new sending receiving = stream := by
          simpa [Script.result] using returned
        exact ⟨rfl, sending, receiving, entered, rfl⟩

/-- A call that is in the handshake got there with a stream, and nothing else happened to it. -/
theorem ClientConnect.run_handshake {endpoint : String} {acts : List ConnectAct}
    {timed : Timed UInt8 (NoiseStream S R)}
    (run : exec (ClientConnect.step snow clientKey endpoint pinned) .connecting acts =
      some (.handshake timed)) :
    ∃ moves, exec Timed.step (Timed.start (clientHandshake snow clientKey pinned)) moves =
      some timed := by
  have reached : ∀ acts c, exec (ClientConnect.step snow clientKey endpoint pinned) .connecting acts =
      some c → ∀ timed, c = .handshake timed → ∃ moves,
        exec Timed.step (Timed.start (clientHandshake snow clientKey pinned)) moves = some timed := by
    refine exec_induction (fun _ never => nomatch never) fun acts c a next _ ih taken timed here => ?_
    subst here
    cases c with
    | connecting =>
        cases a <;> cases taken
        exact ⟨[], rfl⟩
    | failed error => cases a <;> cases taken
    | handshake before =>
        cases a with
        | handshake m =>
            obtain ⟨after, moved, same⟩ := Option.map_eq_some_iff.mp taken
            cases same
            obtain ⟨moves, run⟩ := ih before rfl
            exact ⟨moves ++ [m], exec_snoc run moved⟩
        | connected | refused | nodelayFailed | timedOut => cases taken
  exact reached acts _ run timed rfl

/-- **The pinned key is enforced** in front of any network, whenever the deadlines pass: until the
client has taken a message of a relay with the pinned key it has sent nothing but its first
message, and it returns a stream only behind that message and its own third one. -/
theorem client_pins {endpoint : String} {acts : List ConnectAct} {c : ClientConnect S R}
    (run : exec (ClientConnect.step snow clientKey endpoint pinned) .connecting acts = some c) :
    Pinned snow clientKey pinned (c.result endpoint) c.sent c.taken := by
  cases c with
  | connecting => exact .unconfirmed unfinished_none (.inl rfl)
  | failed error => exact .unconfirmed (unfinished_error _) (.inl rfl)
  | handshake timed =>
      obtain ⟨moves, run⟩ := ClientConnect.run_handshake snow clientKey pinned run
      exact timed_meets (clientHandshake_pinned snow clientKey pinned)
        (fun _ _ running => running.dropped) run

/-- A message of 33 bytes goes out, or comes in. -/
def writesPlain : List (TimedMove UInt8) :=
  [.move (.wrote 4), .move .goes, .move (.wrote 33), .move .goes, .move .goes]

def readsPlain (number : UInt8) (key : Bytes) : List (TimedMove UInt8) :=
  [.move (.got [0, 0, 0, 33]), .move .goes, .move (.got (number :: plainPublicKey key)), .move .goes]

def plainConnect : ClientConnect Nat Nat :=
  (exec (ClientConnect.step plainSnow (.ok plainClientKey) "relay:24443"
    (plainPublicKey plainServerKey)) .connecting (.connected ::
      (writesPlain ++ readsPlain 1 plainServerKey ++ writesPlain).map .handshake)).get
    (by decide +kernel)

theorem client_pins_plain :
    (plainConnect.result "relay:24443").isSome = true ∧
      Pinned plainSnow (.ok plainClientKey) (plainPublicKey plainServerKey)
        (plainConnect.result "relay:24443") plainConnect.sent plainConnect.taken :=
  ⟨by decide +kernel, client_pins plainSnow (.ok plainClientKey) (plainPublicKey plainServerKey)
    (Option.some_get _).symm⟩

end Client

section Server

variable {H S R : Type} (snow : Snow H S R) (privateKey : Bytes)

/-- `snow` accepts `first` and answers it with the relay's key. -/
def Replies (first second : Bytes) (replied : H) : Prop :=
  ∃ responder reached, snow.buildResponder privateKey = .ok responder ∧
    snow.readMessage responder first = .ok reached ∧
    snow.writeMessage reached = .ok (second, replied)

/-- What a relay's handshake has returned, sent and taken. -/
inductive Accepted : Option (Except String (NoiseStream S R)) → Bytes → Bytes → Prop where
  | waiting {r : Option (Except String (NoiseStream S R))} {taken : Bytes}
      (unfinished : Unfinished r) : Accepted r [] taken
  | replied {r : Option (Except String (NoiseStream S R))} {first second sent rest : Bytes}
      {replied : H} (replies : Replies snow privateKey first second replied)
      (front : sent <+: frame second)
      (accepts : ∀ stream, r = some (.ok stream) → sent = frame second ∧
        ∃ third concluded sending receiving, rest = frame third ∧
          snow.readMessage replied third = .ok concluded ∧
          snow.intoTransportMode concluded = .ok (sending, receiving) ∧
          stream = NoiseStream.new sending receiving) :
      Accepted r sent (frame first ++ rest)

theorem Accepted.dropped {snow : Snow H S R} {privateKey sent taken : Bytes} {error : String}
    (running : Accepted snow privateKey none sent taken) :
    Accepted snow privateKey (some (.error error)) sent taken := by
  cases running with
  | waiting unfinished => exact .waiting (unfinished_error _)
  | replied replies front accepts =>
      exact .replied replies front fun stream never => absurd never (unfinished_error _ stream)

theorem serverHandshake_accepted :
    Always (Meets (Accepted snow privateKey)) (Solo.start (serverHandshake snow privateKey)) := by
  have waiting : ∀ r taken, Unfinished r → Accepted snow privateKey r [] taken :=
    fun r taken unfinished => .waiting unfinished
  rw [Solo.start, serverHandshake]
  refine always_attempt (fun r => waiting r _) fun responder built => ?_
  refine always_read (fun r _ => waiting r _) fun first _ => ?_
  refine always_attempt (fun r => waiting r _) fun reached read => ?_
  refine always_attempt (fun r => waiting r _) fun message wrote => ?_
  obtain ⟨second, replied⟩ := message
  have replies : Replies snow privateKey first second replied :=
    ⟨responder, reached, built, read, wrote⟩
  have replying : ∀ r sent rest, Unfinished r → sent <+: frame second →
      Accepted snow privateKey r sent (frame first ++ rest) :=
    fun r sent rest unfinished front => .replied replies front
      fun stream returned => absurd returned (unfinished stream)
  have whole := fun r rest unfinished => replying r _ rest unfinished (List.prefix_refl _)
  refine always_write (fun r part unfinished front => ?_) fun _ => ?_
  · rw [List.nil_append, List.nil_append, ← List.append_nil (frame first)]
    exact replying r part [] unfinished front
  · refine always_read (fun r got unfinished => whole r got unfinished) fun third _ => ?_
    refine always_attempt (fun r unfinished => whole r _ unfinished) fun concluded finished => ?_
    refine always_attempt (fun r unfinished => whole r _ unfinished) fun keys entered => ?_
    obtain ⟨sending, receiving⟩ := keys
    refine .done (.replied replies (List.prefix_refl _) fun stream returned => ?_)
    obtain rfl : NoiseStream.new sending receiving = stream := by
      simpa [Script.result] using returned
    exact ⟨rfl, third, concluded, sending, receiving, rfl, finished, entered, rfl⟩

/-- **A relay that accepts** has taken two frames, both accepted by `snow` in one exchange, and
sent the one between them; before the first is accepted it sends nothing. -/
theorem server_accepts {late : String} {moves : List (TimedMove UInt8)}
    {timed : Timed UInt8 (NoiseStream S R)}
    (run : exec Timed.step (Timed.start (serverHandshake snow privateKey)) moves = some timed) :
    Accepted snow privateKey (timed.result late) timed.solo.sent timed.solo.taken :=
  timed_meets (serverHandshake_accepted snow privateKey) (fun _ _ running => running.dropped) run

def plainAccept : Timed UInt8 (NoiseStream Nat Nat) :=
  (exec Timed.step (Timed.start (serverHandshake plainSnow plainServerKey))
    (readsPlain 0 plainClientKey ++ writesPlain ++ readsPlain 2 plainClientKey)).get
    (by decide +kernel)

theorem server_accepts_plain :
    plainAccept.solo.script.succeeded = true ∧
      Accepted plainSnow plainServerKey (plainAccept.result "Noise handshake timed out")
        plainAccept.solo.sent plainAccept.solo.taken :=
  ⟨by decide +kernel, server_accepts plainSnow plainServerKey (Option.some_get _).symm⟩

end Server

end RustSsh.Noise
