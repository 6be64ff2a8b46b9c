/-
# Noise.Attack -- a reader on a hostile wire

The bytes that arrive are an attacker's: every poll is given answers of its choice,
between polls the peer encrypts more, and polling goes on after any error.  That a
ciphertext cannot be forged is a statement about what the peer has produced so far,
so the cipher is given with that history (`Authentic`): it opens nothing but the next
produced message, counted by the receiving nonce.

What is delivered and left over is then always the plaintext of the messages opened
(`Reading.Polled.authentic`), whatever was resumed, reset or refused on the way.
-/
import RustSsh.Noise.Feed

namespace RustSsh.Noise

open RustSsh.Theory

set_option autoImplicit false

variable {S R : Type}

/-- `read_message` succeeds only on the next ciphertext the peer produced that was not
decrypted yet, and changes nothing when it fails.  `nonce` is how many were. -/
structure Authentic (cipher : List Encrypted → Cipher S R) (nonce : R → Nat) : Prop where
  opens : ∀ produced r ciphertext plaintext r',
    (cipher produced).readMessage r ciphertext = (.ok plaintext, r') →
      produced[nonce r]? = some (plaintext, ciphertext) ∧ nonce r' = nonce r + 1
  keeps : ∀ produced r ciphertext error r',
    (cipher produced).readMessage r ciphertext = (.error error, r') → r' = r

structure Attack (R : Type) where
  reader : Reading R
  /-- what the peer has encrypted -/
  produced : List Encrypted
  delivered : Bytes
  deriving DecidableEq, Repr

inductive Attack.Act where
  /-- the peer's `poll_write` encrypts a chunk -/
  | produce (message : Encrypted)
  | poll (size : Nat) (answers : List Arrival)
  deriving DecidableEq, Repr

namespace Attack

def start (r₀ : R) : Attack R :=
  { reader := { receiving := r₀, readHeader := [], readBody := [], bodyLength := 0,
                plaintext := [], plaintextOffset := 0 },
    produced := [], delivered := [] }

def step (cipher : List Encrypted → Cipher S R) (s : Attack R) : Act → Option (Attack R)
  | .produce message => some { s with produced := s.produced ++ [message] }
  | .poll size answers =>
      let ret := pollRead (cipher s.produced) s.reader size answers
      some { s with reader := ret.stream, delivered := s.delivered ++ ret.poll.bytes }

end Attack

section Authenticity

variable {cipher : List Encrypted → Cipher S R} {nonce : R → Nat}

/-- The plaintext of the messages the reader has opened. -/
def openedPlain (nonce : R → Nat) (produced : List Encrypted) (r : Reading R) : Bytes :=
  plain (produced.take (nonce r.receiving))

/-- A poll returns and keeps the plaintext of the messages it opens. -/
theorem Reading.Polled.authentic (authentic : Authentic cipher nonce) {produced : List Encrypted}
    {size : Nat} {r : Reading R} {answers : List Arrival} {ret : ReadReturn R}
    (polled : Reading.Polled (cipher produced) size r answers ret) {earlier : Bytes}
    (served : earlier ++ r.leftover = openedPlain nonce produced r)
    (behind : nonce r.receiving ≤ produced.length) :
    (earlier ++ ret.poll.bytes) ++ ret.stream.leftover = openedPlain nonce produced ret.stream ∧
      nonce ret.stream.receiving ≤ produced.length := by
  induction polled with
  | @returns r answers ret formed turn =>
      cases turn with
      | served some_left =>
          rw [Reading.serve_leftover formed, Reading.serve_receiving, openedPlain,
            Reading.serve_receiving]
          refine ⟨?_, behind⟩
          rw [List.append_assoc, Poll.bytes, List.take_append_drop]
          exact served
      | @stopped got header body length poll rest none_left remains keeps formed' incomplete why =>
          have silent : poll.bytes = [] := by cases why <;> rfl
          rw [none_left] at served
          refine ⟨?_, behind⟩
          rw [silent, List.append_nil]
          exact served
      | refused none_left remains keeps full announced read =>
          rw [none_left] at served
          cases authentic.keeps _ _ _ _ _ read
          refine ⟨?_, behind⟩
          show (earlier ++ []) ++ [] = _
          rw [List.append_nil]
          exact served
  | @again r r' answers rest ret formed turn polled ih =>
      cases turn with
      | @decrypted got header body plaintext receiving _ none_left remains keeps full announced read =>
          obtain ⟨next, counted⟩ := authentic.opens _ _ _ _ _ read
          have inside := (List.getElem?_eq_some_iff.mp next).1
          apply ih
          · show earlier ++ plaintext = plain (produced.take (nonce receiving))
            rw [none_left, List.append_nil] at served
            rw [counted, List.take_add_one, next, plain_append, served]
            simp [openedPlain, plain]
          · show nonce receiving ≤ produced.length
            omega

/-- What holds of every moment of an attack. -/
structure Attack.Sound (nonce : R → Nat) (s : Attack R) : Prop where
  served : s.delivered ++ s.reader.leftover = openedPlain nonce s.produced s.reader
  behind : nonce s.reader.receiving ≤ s.produced.length
  formed : s.reader.WellFormed

theorem Attack.sound_start {r₀ : R} (fresh : nonce r₀ = 0) : Sound nonce (start r₀) := by
  constructor
  · simp [start, openedPlain, fresh, Reading.leftover]
  · simp [start, fresh]
  · constructor <;> simp [start]

theorem Attack.Sound.step (authentic : Authentic cipher nonce) {s s' : Attack R} {act : Act}
    (sound : Sound nonce s) (taken : s.step cipher act = some s') : Sound nonce s' := by
  obtain ⟨served, behind, formed⟩ := sound
  cases act with
  | produce message =>
      cases taken
      refine ⟨?_, ?_, formed⟩
      · show s.delivered ++ s.reader.leftover = _
        rw [served, openedPlain, openedPlain, List.take_append_of_le_length behind]
      · rw [List.length_append]
        show nonce s.reader.receiving ≤ s.produced.length + _
        omega
  | poll size answers =>
      cases taken
      by_cases positive : 0 < size
      · have polled := pollRead_polled (cipher s.produced) formed positive answers
        obtain ⟨served', behind'⟩ := polled.authentic authentic served behind
        exact ⟨served', behind', polled.wellFormed⟩
      · have zero : size = 0 := by omega
        simp only [pollRead, zero, if_true, Poll.bytes, List.append_nil]
        exact ⟨served, behind, formed⟩

/-! ## Bodies are short -/

/-- Both ciphers do the same on ciphertexts a body can hold. -/
def AgreeOnFrames (cipher other : Cipher S R) : Prop :=
  ∀ r ciphertext, ciphertext.length ≤ maxCiphertextFrame →
    other.readMessage r ciphertext = cipher.readMessage r ciphertext

theorem decrypt_congr {cipher other : Cipher S R} (agree : AgreeOnFrames cipher other)
    {r : Reading R} (formed : r.WellFormed) (rest : List Arrival) :
    r.decrypt other rest = r.decrypt cipher rest := by
  have short : r.readBody.length ≤ maxCiphertextFrame := formed.body.trans formed.bounded
  simp only [Reading.decrypt]
  rw [agree _ _ short]

theorem iteration_congr {cipher other : Cipher S R} (agree : AgreeOnFrames cipher other)
    {r : Reading R} (formed : r.WellFormed) (size : Nat) (answers : List Arrival) :
    r.iteration other size answers = r.iteration cipher size answers := by
  by_cases served : r.plaintextOffset < r.plaintext.length
  · simp only [Reading.iteration, served, if_true]
  · simp only [Reading.iteration, served, if_false, Reading.fillHeader]
    cases stopped : (fill (4 - r.readHeader.length) answers).stop with
    | pending => rfl
    | failed error => rfl
    | ended => rfl
    | full =>
        show (r.headed answers).fillBody other _ = (r.headed answers).fillBody cipher _
        have full := Reading.headed_full formed stopped
        unfold Reading.fillBody
        cases allocated : (r.headed answers).allocate with
        | error error => rfl
        | ok r' =>
            obtain ⟨-, formed', -⟩ := Reading.allocate_ok (formed.headed answers) full allocated
            simp only
            cases (fill (r'.bodyLength - r'.readBody.length)
                (fill (4 - r.readHeader.length) answers).rest).stop with
            | pending => rfl
            | failed error => rfl
            | ended => rfl
            | full => exact decrypt_congr agree (formed'.bodied _) _

/-- What the cipher does on more than `maxCiphertextFrame` bytes, a poll never sees. -/
theorem pollRead_congr {cipher other : Cipher S R} (agree : AgreeOnFrames cipher other)
    {r : Reading R} (formed : r.WellFormed) (size : Nat) (answers : List Arrival) :
    pollRead other r size answers = pollRead cipher r size answers := by
  unfold pollRead
  split
  · rfl
  · generalize r.turns answers + 1 = bound
    induction bound generalizing r answers with
    | zero => rfl
    | succ bound ih =>
        have turn := Reading.iteration_turn cipher size formed answers
        simp only [Reading.loop, iteration_congr agree formed]
        cases same : r.iteration cipher size answers with
        | returns ret => rfl
        | again r' rest =>
            rw [same] at turn
            have formed' : r'.WellFormed := by
              cases turn
              exact Reading.wellFormed_opened _ _
            exact ih formed' rest

/-! ## Authenticity -/

/-- What a hostile wire cannot change. -/
structure Genuine (cipher : List Encrypted → Cipher S R) (s : Attack R) : Prop where
  /-- only what the peer wrote is delivered, in order and once -/
  ordered : s.delivered <+: plain s.produced
  /-- the body held between two polls is short -/
  held : s.reader.readBody.length ≤ s.reader.bodyLength ∧ s.reader.bodyLength ≤ maxCiphertextFrame
  /-- and so is every body filled and decrypted within one -/
  decrypted : ∀ other size answers, AgreeOnFrames (cipher s.produced) other →
    pollRead other s.reader size answers = pollRead (cipher s.produced) s.reader size answers
  /-- a read with room for a byte returns none only where the inner stream ended between frames -/
  ended : ∀ size answers, 0 < size →
    (pollRead (cipher s.produced) s.reader size answers).poll = .done [] →
    .ready [] :: (pollRead (cipher s.produced) s.reader size answers).rest <:+ answers ∧
      (pollRead (cipher s.produced) s.reader size answers).stream.held = []

/-- **Delivered plaintext is authentic**, whatever bytes arrive, however they are cut and
however often polling goes on after an error. -/
theorem authentic_delivery (authentic : Authentic cipher nonce) {r₀ : R} (fresh : nonce r₀ = 0)
    {acts : List Attack.Act} {s : Attack R}
    (run : exec (Attack.step cipher) (Attack.start r₀) acts = some s) : Genuine cipher s := by
  have sound : Attack.Sound nonce s :=
    Reached.invariant ⟨acts, run⟩ (Attack.sound_start fresh)
      (fun _ _ _ holds taken => holds.step authentic taken)
  obtain ⟨served, behind, formed⟩ := sound
  constructor
  · refine ⟨s.reader.leftover ++ plain (s.produced.drop (nonce s.reader.receiving)), ?_⟩
    rw [← List.append_assoc, served, openedPlain, ← plain_append, List.take_append_drop]
  · exact ⟨formed.body, formed.bounded⟩
  · intro other size answers agree
    exact pollRead_congr agree formed size answers
  · intro size answers positive ended
    exact (pollRead_polled _ formed positive answers).zero_bytes positive ended

end Authenticity

/-- The receiving side of an unforgeable cipher: a ciphertext opens if it is the next one
the peer produced. -/
def unforgeable (produced : List Encrypted) : Cipher Nat Nat where
  writeMessage nonce plaintext := .ok (plaintext ++ List.replicate noiseTagSize 0, nonce + 1)
  readMessage nonce ciphertext :=
    match produced[nonce]? with
    | some message =>
        if ciphertext = message.2 then (.ok message.1, nonce + 1) else (.error "decrypt error", nonce)
    | none => (.error "decrypt error", nonce)

theorem unforgeable_authentic : Authentic unforgeable id := by
  constructor
  · intro produced r ciphertext plaintext r' read
    simp only [unforgeable] at read
    split at read
    · rename_i message next
      split at read
      · rename_i same
        cases read
        subst same
        exact ⟨next, rfl⟩
      · cases read
    · cases read
  · intro produced r ciphertext error r' read
    simp only [unforgeable] at read
    split at read
    · split at read
      · cases read
      · cases read
        rfl
    · cases read
      rfl

/-- A forged frame, the genuine one in two pieces, the genuine one again, then a length
that is out of range. -/
def hostileActs : List Attack.Act :=
  [.produce ([7, 8], [7, 8, 1]), .poll 4 [.ready [0, 0, 0, 2, 9, 9]],
   .poll 4 [.ready [0, 0, 0, 3, 7]], .poll 1 [.ready [8, 1]], .poll 4 [],
   .poll 4 [.ready [0, 0, 0, 3, 7, 8, 1]], .poll 4 [.ready [0, 1, 0, 0]], .poll 4 [.ready []]]

def hostileEnd : Attack Nat :=
  (exec (Attack.step unforgeable) (Attack.start 0) hostileActs).get (by decide)

theorem authentic_delivery_hostile : Genuine unforgeable hostileEnd ∧ hostileEnd.delivered = [7, 8] :=
  ⟨authentic_delivery unforgeable_authentic rfl (Option.some_get _).symm, by decide⟩

end RustSsh.Noise
