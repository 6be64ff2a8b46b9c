/-
# Noise.Feed -- a reader in front of a peer's frames

What `poll_read` gives when the bytes that arrive are the frames the peer wrote.
`Cipher.Inverts` is what is asked of the cipher: along the messages taken in order
the receiving state inverts the sending state.  `Feeds` is the invariant of a reader:
it has decrypted the first messages, and what it holds and what is coming are the
frames of the rest.  `Reading.Polled.fed` is the step: a poll moves messages from
the second part to the first, and returns or keeps their plaintext.
-/
import RustSsh.Noise.Reader
import RustSsh.Theory.Run

namespace RustSsh.Noise

open RustSsh.Theory

set_option autoImplicit false

variable {S R : Type}

/-! ## The cipher along a stream -/

/-- A chunk and its ciphertext. -/
abbrev Encrypted := Bytes × Bytes

namespace Cipher

def encrypts (cipher : Cipher S R) (s : S) (message : Encrypted) : Option S :=
  match cipher.writeMessage s message.1 with
  | .ok (ciphertext, s') => if ciphertext = message.2 then some s' else none
  | .error _ => none

def decrypts (cipher : Cipher S R) (r : R) (message : Encrypted) : Option R :=
  match cipher.readMessage r message.2 with
  | (.ok plaintext, r') => if plaintext = message.1 then some r' else none
  | (.error _, _) => none

/-- The receiving state `r₀` inverts the sending state `s₀` on messages taken in order,
and a ciphertext is a tag longer than its plaintext. -/
structure Inverts (cipher : Cipher S R) (s₀ : S) (r₀ : R) : Prop where
  opens : ∀ sent s, exec cipher.encrypts s₀ sent = some s →
    ∃ r, exec cipher.decrypts r₀ sent = some r
  tag : ∀ s plaintext ciphertext s', cipher.writeMessage s plaintext = .ok (ciphertext, s') →
    ciphertext.length = plaintext.length + noiseTagSize

/-- The next message in flight decrypts to its chunk. -/
theorem Inverts.next {cipher : Cipher S R} {s₀ s : S} {r₀ r : R} (inverts : cipher.Inverts s₀ r₀)
    {opened flight : List Encrypted} {message : Encrypted}
    (encrypted : exec cipher.encrypts s₀ (opened ++ message :: flight) = some s)
    (decrypted : exec cipher.decrypts r₀ opened = some r) :
    ∃ r', cipher.readMessage r message.2 = (.ok message.1, r') ∧
      exec cipher.decrypts r₀ (opened ++ [message]) = some r' := by
  obtain ⟨last, whole⟩ := inverts.opens _ _ encrypted
  obtain ⟨before, after, first, taken, -⟩ := exec_split whole
  rw [decrypted] at first
  cases first
  refine ⟨after, ?_, exec_snoc decrypted taken⟩
  unfold decrypts at taken
  split at taken
  · rename_i plaintext r' read
    split at taken
    · rename_i same
      cases taken
      rw [read, same]
    · cases taken
  · cases taken

end Cipher

/-- The chunks of the messages. -/
def plain (messages : List Encrypted) : Bytes := messages.flatMap Prod.fst

/-- The frames of the messages. -/
def wireForm (messages : List Encrypted) : Bytes := frames (messages.map Prod.snd)

@[simp] theorem plain_nil : plain [] = [] := rfl

@[simp] theorem plain_append (first second : List Encrypted) :
    plain (first ++ second) = plain first ++ plain second := by
  simp [plain]

@[simp] theorem wireForm_nil : wireForm [] = [] := rfl

@[simp] theorem wireForm_append (first second : List Encrypted) :
    wireForm (first ++ second) = wireForm first ++ wireForm second := by
  simp [wireForm]

/-- The message is a chunk of `poll_write` and its ciphertext. -/
structure IsChunk (message : Encrypted) : Prop where
  nonempty : message.1 ≠ []
  bounded : message.1.length ≤ maxPlaintextChunk
  tagged : message.2.length = message.1.length + noiseTagSize

theorem IsChunk.frame_length {message : Encrypted} (chunk : IsChunk message) :
    message.2.length ≠ 0 ∧ message.2.length ≤ maxCiphertextFrame := by
  have tagged := chunk.tagged
  have bounded := chunk.bounded
  unfold noiseTagSize at tagged
  unfold maxCiphertextFrame noiseTagSize
  omega

theorem IsChunk.fits {message : Encrypted} (chunk : IsChunk message) : Fits message.2 := by
  have bounded := chunk.frame_length.2
  unfold Fits
  simp only [maxCiphertextFrame, maxPlaintextChunk, noiseTagSize] at bounded
  omega

/-- A full header that starts the frames of chunks announces the first of them. -/
theorem wireForm_header {header rest : Bytes} {messages : List Encrypted}
    (stream : header ++ rest = wireForm messages) (full : header.length = 4)
    (chunks : ∀ message ∈ messages, IsChunk message) :
    ∃ message later, messages = message :: later ∧
      ofBigEndian header = message.2.length ∧ rest = message.2 ++ wireForm later := by
  have fits : ∀ payload ∈ messages.map Prod.snd, Fits payload := by
    intro payload member
    obtain ⟨message, inside, rfl⟩ := List.mem_map.mp member
    exact (chunks message inside).fits
  obtain ⟨first, others, split, announced, after⟩ := frames_header stream full fits
  obtain ⟨message, later, rfl, rfl, rfl⟩ := List.map_eq_cons_iff.mp split
  exact ⟨message, later, rfl, announced, after⟩

/-! ## A reader in front of a stream of frames -/

/-- The reader has decrypted `opened`; what it holds and what is coming are the frames
of `flight`. -/
structure Feeds (cipher : Cipher S R) (s₀ : S) (r₀ : R) (s : S) (r : Reading R) (coming : Bytes)
    (opened flight : List Encrypted) : Prop where
  encrypted : exec cipher.encrypts s₀ (opened ++ flight) = some s
  decrypted : exec cipher.decrypts r₀ opened = some r.receiving
  chunks : ∀ message ∈ flight, IsChunk message
  stream : r.held ++ coming = wireForm flight
  formed : r.WellFormed

/-- What a poll of a reader in front of frames gives. -/
structure Fed (cipher : Cipher S R) (s₀ : S) (r₀ : R) (s : S) (r : Reading R)
    (answers : List Arrival) (beyond : Bytes) (opened flight : List Encrypted)
    (ret : ReadReturn R) (newly later : List Encrypted) : Prop where
  messages : flight = newly ++ later
  feeds : Feeds cipher s₀ r₀ s ret.stream (carried ret.rest ++ beyond) (opened ++ newly) later
  bytes : r.leftover ++ plain newly = ret.poll.bytes ++ ret.stream.leftover
  /-- the inner stream gives no reason other than its own failure or an end inside a frame -/
  failed : ∀ error, ret.poll = .failed error → .failed error ∈ answers ∨
    (.ready [] :: ret.rest <:+ answers ∧ ret.stream.held ≠ [])
  /-- a poll that returns nothing when nothing is coming has nothing left -/
  drained : ret.poll.bytes = [] → carried answers = [] → beyond = [] →
    later = [] ∧ ret.stream.leftover = []

section Feeding

variable {cipher : Cipher S R} {s₀ s : S} {r₀ : R} {size : Nat} {r : Reading R}
  {answers : List Arrival} {beyond : Bytes} {opened flight : List Encrypted}

/-- Taking bytes from the inner stream moves them to what is held. -/
theorem Feeds.move (feeds : Feeds cipher s₀ r₀ s r (carried answers ++ beyond) opened flight)
    {got header body : Bytes} {rest : List Arrival} (remains : Remains answers got rest)
    (keeps : header ++ body = r.held ++ got) :
    header ++ (body ++ (carried rest ++ beyond)) = wireForm flight := by
  rw [← feeds.stream, remains.takes, ← List.append_assoc, keeps]
  simp only [List.append_assoc]

/-- A whole frame that was taken is the first in flight, and decrypts. -/
theorem Feeds.open_first (inverts : cipher.Inverts s₀ r₀)
    (feeds : Feeds cipher s₀ r₀ s r (carried answers ++ beyond) opened flight)
    {got header body : Bytes} {rest : List Arrival} (remains : Remains answers got rest)
    (keeps : header ++ body = r.held ++ got) (full : header.length = 4)
    (announced : body.length = ofBigEndian header) :
    ∃ message later receiving, flight = message :: later ∧ body = message.2 ∧
      cipher.readMessage r.receiving body = (.ok message.1, receiving) ∧
      Feeds cipher s₀ r₀ s (Reading.opened receiving message.1) (carried rest ++ beyond)
        (opened ++ [message]) later := by
  obtain ⟨message, later, rfl, length, after⟩ :=
    wireForm_header (feeds.move remains keeps) full feeds.chunks
  obtain ⟨rfl, stream⟩ := List.append_inj after (announced.trans length)
  obtain ⟨receiving, read, decrypted⟩ := inverts.next feeds.encrypted feeds.decrypted
  refine ⟨message, later, receiving, rfl, rfl, read, ?_⟩
  constructor
  · rw [List.append_assoc]
    exact feeds.encrypted
  · exact decrypted
  · intro other member
    exact feeds.chunks other (List.mem_cons_of_mem _ member)
  · exact stream
  · exact Reading.wellFormed_opened _ _

/-- What a reader holds is whole frames only when there are none. -/
theorem held_incomplete (chunks : ∀ message ∈ flight, IsChunk message) {header body : Bytes}
    {length : Nat} (formed : (r.holding header body length).WellFormed)
    (incomplete : length ≠ 0 → body.length < length) (all : header ++ body = wireForm flight) :
    flight = [] := by
  have fresh : length = 0 → body = [] := formed.body_nil
  cases flight with
  | nil => rfl
  | cons message later =>
      have short := formed.header
      have total := congrArg List.length all
      have size : (wireForm (message :: later)).length =
          4 + message.2.length + (wireForm later).length := by simp [wireForm]
      have positive := (chunks message List.mem_cons_self).frame_length.1
      simp only [List.length_append, Reading.holding] at total short
      by_cases begun : length = 0
      · simp only [fresh begun, List.length_nil] at total
        omega
      · obtain ⟨full, announced⟩ := formed.announced begun
        obtain ⟨first, others, same, same_length, -⟩ := wireForm_header all full chunks
        cases same
        have := incomplete begun
        simp only [Reading.holding] at announced
        omega

/-- A poll that serves plaintext that is left. -/
theorem Feeds.served (feeds : Feeds cipher s₀ r₀ s r (carried answers ++ beyond) opened flight)
    (some_left : r.leftover ≠ []) (positive : 0 < size) :
    Fed cipher s₀ r₀ s r answers beyond opened flight
      ⟨.done (r.leftover.take size), (r.serve size).2, answers⟩ [] flight := by
  refine ⟨rfl, ?_, ?_, ?_, ?_⟩
  · rw [List.append_nil]
    refine ⟨feeds.encrypted, ?_, feeds.chunks, ?_, Reading.serve_wellFormed feeds.formed size⟩
    · rw [Reading.serve_receiving]
      exact feeds.decrypted
    · rw [Reading.serve_held]
      exact feeds.stream
  · rw [Reading.serve_leftover feeds.formed]
    simp [Poll.bytes]
  · intro error failed
    cases failed
  · intro nothing
    rcases List.take_eq_nil_iff.mp nothing with zero | empty
    · omega
    · exact absurd empty some_left

/-- A poll that stops with bytes held, for a reason that is not in the frames. -/
theorem Feeds.stopped (feeds : Feeds cipher s₀ r₀ s r (carried answers ++ beyond) opened flight)
    {got header body : Bytes} {length : Nat} {poll : Poll Bytes} {rest : List Arrival}
    (none_left : r.leftover = []) (remains : Remains answers got rest)
    (keeps : header ++ body = r.held ++ got) (formed : (r.holding header body length).WellFormed)
    (incomplete : got = [] → length ≠ 0 → body.length < length)
    (why : Reading.Stops answers (r.holding header body length) rest poll) :
    Fed cipher s₀ r₀ s r answers beyond opened flight ⟨poll, r.holding header body length, rest⟩
      [] flight := by
  have stream := feeds.move remains keeps
  refine ⟨rfl, ?_, ?_, ?_, ?_⟩
  · rw [List.append_nil]
    refine ⟨feeds.encrypted, feeds.decrypted, feeds.chunks, ?_, formed⟩
    rw [Reading.held, List.append_assoc]
    exact stream
  · have silent : poll.bytes = [] := by cases why <;> rfl
    rw [none_left, silent]
    rfl
  · intro error failed
    cases failed
    cases why with
    | inner reported => exact .inl reported
    | cut closed inside kind => exact .inr ⟨closed, inside⟩
    | invalidLength full boundary bad =>
        obtain ⟨message, later, rfl, announced, -⟩ := wireForm_header stream full feeds.chunks
        obtain ⟨positive, bounded⟩ :=
          (feeds.chunks message List.mem_cons_self).frame_length
        simp only [Reading.holding, announced] at bad
        omega
  · intro _ nothing last
    have none_got : got = [] ∧ carried rest = [] := by
      rw [remains.takes] at nothing
      exact List.append_eq_nil_iff.mp nothing
    rw [none_got.2, last] at stream
    simp only [List.append_nil] at stream
    exact ⟨held_incomplete feeds.chunks formed (incomplete none_got.1) stream, rfl⟩

/-- A poll that decrypts the first frame and goes on. -/
theorem Fed.opens {got : Bytes} {rest : List Arrival} {ret : ReadReturn R} {message : Encrypted}
    {receiving : R} {later newly after : List Encrypted} (none_left : r.leftover = [])
    (remains : Remains answers got rest)
    (fed : Fed cipher s₀ r₀ s (Reading.opened receiving message.1) rest beyond
      (opened ++ [message]) later ret newly after) :
    Fed cipher s₀ r₀ s r answers beyond opened (message :: later) ret (message :: newly) after := by
  refine ⟨?_, ?_, ?_, ?_, ?_⟩
  · rw [fed.messages]
    rfl
  · have feeds := fed.feeds
    rwa [List.append_assoc] at feeds
  · rw [none_left, ← fed.bytes]
    rfl
  · intro error failed
    rcases fed.failed error failed with inner | ⟨closed, inside⟩
    · exact .inl (remains.failed error inner)
    · exact .inr ⟨remains.closed _ closed, inside⟩
  · intro silent nothing last
    have none_coming : carried rest = [] := by
      rw [remains.takes] at nothing
      exact (List.append_eq_nil_iff.mp nothing).2
    exact fed.drained silent none_coming last

/-- **A poll of a reader in front of frames** decrypts some of them in order, returns
and keeps exactly their plaintext, and fails only if the inner stream does. -/
theorem Reading.Polled.fed (inverts : cipher.Inverts s₀ r₀) {ret : ReadReturn R}
    (polled : Reading.Polled cipher size r answers ret)
    (feeds : Feeds cipher s₀ r₀ s r (carried answers ++ beyond) opened flight) (positive : 0 < size) :
    ∃ newly later, Fed cipher s₀ r₀ s r answers beyond opened flight ret newly later := by
  induction polled generalizing opened flight with
  | @returns r answers ret formed turn =>
      cases turn with
      | served some_left => exact ⟨[], flight, feeds.served some_left positive⟩
      | stopped none_left remains keeps formed' incomplete why =>
          exact ⟨[], flight, feeds.stopped none_left remains keeps formed' incomplete why⟩
      | @refused got header body error receiving rest none_left remains keeps full announced read =>
          obtain ⟨message, later, receiving', -, -, reads, -⟩ :=
            feeds.open_first inverts remains keeps full announced
          rw [read] at reads
          cases reads
  | @again r r' answers rest ret formed turn polled ih =>
      cases turn with
      | @decrypted got header body plaintext receiving _ none_left remains keeps full announced read =>
          obtain ⟨message, later, receiving', rfl, rfl, reads, feeds'⟩ :=
            feeds.open_first inverts remains keeps full announced
          rw [read] at reads
          cases reads
          obtain ⟨newly, after, fed⟩ := ih feeds'
          exact ⟨message :: newly, after, fed.opens none_left remains⟩

end Feeding

end RustSsh.Noise
