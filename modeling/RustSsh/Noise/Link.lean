/-
# Noise.Link -- one direction between two peers

The writing half of one `NoiseStream`, the reading half of its peer and the bytes
between their inner streams.  A call says what it passes and what the inner stream
does meanwhile: how much of the wire form it takes, how the bytes on the wire are
cut for the reader, where either is not ready.

A run of the link is a list of calls in any order.  `Carries` is the invariant: the
messages encrypted so far are those the reader decrypted, whose plaintext was
delivered or is left over, and those in flight, whose frames are what the reader
holds, the wire carries and the writer has queued.  The bytes reported as written are
accounted for separately (`Accounted`), since this needs the caller's part: the call
that completes a chunk must be one that is told its length.
-/
import RustSsh.Noise.Feed
import RustSsh.Noise.Writer

namespace RustSsh.Noise

open RustSsh.Theory

set_option autoImplicit false

variable {S R : Type}

/-! ## The link -/

structure Link (S R : Type) where
  writer : Writing S
  reader : Reading R
  /-- taken by the writer's inner stream and not yet given to the reader -/
  wire : Bytes
  /-- the bytes `poll_write` reported as written, from the buffers of the reporting calls -/
  reported : Bytes
  /-- the chunk of the write still pending -/
  chunk : Bytes
  /-- the bytes `poll_read` returned -/
  delivered : Bytes
  deriving DecidableEq, Repr

inductive Call where
  | write (buffer : Bytes) (answers : List (Poll Nat))
  | flush (answers : List (Poll Nat)) (innerFlush : Poll Unit)
  | shutdown (answers : List (Poll Nat)) (innerShutdown : Poll Unit)
  | read (size : Nat) (answers : List Arrival)
  deriving DecidableEq, Repr

/-- The bytes of the buffer a write reports. -/
def Poll.written (buffer : Bytes) : Poll Nat → Bytes
  | .done count => buffer.take count
  | _ => []

namespace Link

def start (s₀ : S) (r₀ : R) : Link S R :=
  { writer := (NoiseStream.new s₀ r₀).writing, reader := (NoiseStream.new s₀ r₀).reading,
    wire := [], reported := [], chunk := [], delivered := [] }

/-- A write that leaves a chunk queued either queued it or found it queued. -/
def write (cipher : Cipher S R) (l : Link S R) (buffer : Bytes) (answers : List (Poll Nat)) :
    Link S R :=
  let ret := pollWrite cipher l.writer buffer answers
  { l with
    writer := ret.stream
    wire := l.wire ++ ret.sent
    reported := l.reported ++ ret.poll.written buffer
    chunk :=
      if ret.stream.pendingWrite.isNone then []
      else if l.writer.pendingWrite.isNone then buffer.take maxPlaintextChunk
      else l.chunk }

def finish (l : Link S R) (ret : WriteReturn S Unit) : Link S R :=
  { l with
    writer := ret.stream
    wire := l.wire ++ ret.sent
    chunk := if ret.stream.pendingWrite.isNone then [] else l.chunk }

/-- A read takes from the wire what its answers lost. -/
def read (cipher : Cipher S R) (l : Link S R) (size : Nat) (answers : List Arrival) : Link S R :=
  let ret := pollRead cipher l.reader size answers
  { l with
    reader := ret.stream
    wire := l.wire.drop ((carried answers).length - (carried ret.rest).length)
    delivered := l.delivered ++ ret.poll.bytes }

/-- The reader's inner stream gives the bytes of the wire in order. -/
def step (cipher : Cipher S R) (l : Link S R) : Call → Option (Link S R)
  | .write buffer answers => some (l.write cipher buffer answers)
  | .flush answers innerFlush => some (l.finish (pollFlush l.writer answers innerFlush))
  | .shutdown answers innerShutdown => some (l.finish (pollShutdown l.writer answers innerShutdown))
  | .read size answers =>
      if carried answers <+: l.wire then some (l.read cipher size answers) else none

/-- A caller that saw its write pending calls again with the same chunk. -/
def Retries (l : Link S R) : Call → Prop
  | .write buffer _ => l.chunk <+: buffer
  | _ => True

/-- The inner stream does not take all of a queued chunk during the call. -/
def Unfinished (l : Link S R) (answers : List (Poll Nat)) : Prop :=
  l.writer.pendingWrite.all fun pending => !takesAll pending.left.length answers

/-- No flush or shutdown completes a write that is pending. -/
def KeepsCount (l : Link S R) : Call → Prop
  | .flush answers _ => l.Unfinished answers
  | .shutdown answers _ => l.Unfinished answers
  | _ => True

instance (l : Link S R) (answers : List (Poll Nat)) : Decidable (l.Unfinished answers) :=
  inferInstanceAs (Decidable (_ = true))

instance (l : Link S R) : ∀ call, Decidable (l.Retries call)
  | .write buffer _ => inferInstanceAs (Decidable (l.chunk <+: buffer))
  | .flush .. => isTrue trivial
  | .shutdown .. => isTrue trivial
  | .read .. => isTrue trivial

instance (l : Link S R) : ∀ call, Decidable (l.KeepsCount call)
  | .write .. => isTrue trivial
  | .flush answers _ => inferInstanceAs (Decidable (l.Unfinished answers))
  | .shutdown answers _ => inferInstanceAs (Decidable (l.Unfinished answers))
  | .read .. => isTrue trivial

/-! ## What the link carries -/

/-- The reader has decrypted `opened`, and `flight` is on the way to it. -/
structure Carries (cipher : Cipher S R) (s₀ : S) (r₀ : R) (l : Link S R)
    (opened flight : List Encrypted) : Prop where
  feeds : Feeds cipher s₀ r₀ l.writer.sending l.reader (l.wire ++ l.writer.queued) opened flight
  delivered : l.delivered ++ l.reader.leftover = plain opened
  writer : l.writer.WellFormed

theorem carries_start (cipher : Cipher S R) (s₀ : S) (r₀ : R) :
    Carries cipher s₀ r₀ (start s₀ r₀) [] [] := by
  refine ⟨⟨rfl, rfl, by simp, rfl, Reading.wellFormed_new s₀ r₀⟩, rfl, ?_⟩
  intro pending here
  cases here

variable {cipher : Cipher S R} {s₀ : S} {r₀ : R} {l : Link S R} {opened flight : List Encrypted}

/-- Pushing a queued chunk moves wire bytes and nothing else. -/
theorem Carries.push (carries : Carries cipher s₀ r₀ l opened flight) {pending : PendingWrite}
    {answers : List (Poll Nat)} {ret : WriteReturn S (Option Nat)}
    (queued : l.writer.pendingWrite = some pending)
    (pushed : Pushed l.writer.sending pending answers ret) {l' : Link S R}
    (writer : l'.writer = ret.stream) (wire : l'.wire = l.wire ++ ret.sent)
    (reader : l'.reader = l.reader) (delivered : l'.delivered = l.delivered) :
    Carries cipher s₀ r₀ l' opened flight := by
  obtain ⟨⟨encrypted, decrypted, chunks, stream, formed⟩, served, -⟩ := carries
  rw [Writing.queued_pending queued, pushed.sends, ← List.append_assoc l.wire] at stream
  constructor
  · rw [writer, wire, reader, pushed.sending]
    exact ⟨encrypted, decrypted, chunks, stream, formed⟩
  · rw [delivered, reader]
    exact served
  · rw [writer]
    exact pushed.wellFormed

/-- Encrypting a chunk puts one more message in flight. -/
theorem Carries.encrypt (inverts : cipher.Inverts s₀ r₀)
    (carries : Carries cipher s₀ r₀ l opened flight) (idle : l.writer.pendingWrite = none)
    {chunk ciphertext : Bytes} {sending : S} (plaintextLen : Nat) (nonempty : chunk ≠ [])
    (bounded : chunk.length ≤ maxPlaintextChunk)
    (message : cipher.writeMessage l.writer.sending chunk = .ok (ciphertext, sending)) :
    Carries cipher s₀ r₀
      { l with writer := ⟨sending, some { wire := frame ciphertext, offset := 0, plaintextLen }⟩ }
      opened (flight ++ [(chunk, ciphertext)]) := by
  obtain ⟨⟨encrypted, decrypted, chunks, stream, formed⟩, served, -⟩ := carries
  rw [Writing.queued_idle idle, List.append_nil] at stream
  refine ⟨⟨?_, decrypted, ?_, ?_, formed⟩, served, ?_⟩
  · rw [← List.append_assoc]
    exact exec_snoc encrypted (by simp [Cipher.encrypts, message])
  · intro other member
    rcases List.mem_append.mp member with earlier | last
    · exact chunks other earlier
    · rw [List.mem_singleton.mp last]
      exact ⟨nonempty, bounded, inverts.tag _ _ _ _ message⟩
  · rw [wireForm_append, ← stream]
    simp [Writing.queued, PendingWrite.left, wireForm]
  · intro pending here
    cases here
    exact Nat.zero_le _

/-- What a read leaves on the wire. -/
theorem read_wire (cipher : Cipher S R) {size : Nat} {answers : List Arrival} (formed : l.reader.WellFormed)
    (arrives : carried answers <+: l.wire) (positive : 0 < size) :
    (l.read cipher size answers).wire =
      carried (pollRead cipher l.reader size answers).rest ++
        l.wire.drop (carried answers).length := by
  obtain ⟨got, remains⟩ := (pollRead_polled cipher formed positive answers).remains
  have takes := remains.takes
  obtain ⟨beyond, split⟩ := arrives
  simp only [Link.read]
  generalize (pollRead cipher l.reader size answers).rest = rest at takes ⊢
  rw [← split, takes]
  simp [List.drop_append]

/-- A read decrypts messages in order and delivers their plaintext. -/
theorem Carries.read (inverts : cipher.Inverts s₀ r₀)
    (carries : Carries cipher s₀ r₀ l opened flight) {size : Nat} {answers : List Arrival}
    (arrives : carried answers <+: l.wire) (positive : 0 < size) :
    ∃ newly later, Carries cipher s₀ r₀ (l.read cipher size answers) (opened ++ newly) later ∧
      Fed cipher s₀ r₀ l.writer.sending l.reader answers
        (l.wire.drop (carried answers).length ++ l.writer.queued) opened flight
        (pollRead cipher l.reader size answers) newly later := by
  obtain ⟨feeds, served, writer⟩ := carries
  have split : carried answers ++ (l.wire.drop (carried answers).length ++ l.writer.queued) =
      l.wire ++ l.writer.queued := by
    rw [← List.append_assoc, List.prefix_iff_eq_append.mp arrives]
  have left := read_wire cipher feeds.formed arrives positive
  rw [← split] at feeds
  have polled := pollRead_polled cipher feeds.formed positive answers
  obtain ⟨newly, later, fed⟩ := polled.fed inverts feeds positive
  refine ⟨newly, later, ⟨?_, ?_, writer⟩, fed⟩
  · rw [left, List.append_assoc]
    exact fed.feeds
  · rw [plain_append, ← served]
    simp only [Link.read, List.append_assoc]
    rw [fed.bytes]

/-! ## What the caller is told -/

/-- The bytes reported as written, and the chunk pending, are the chunks encrypted. -/
structure Accounted (l : Link S R) (messages : List Encrypted) : Prop where
  plain : plain messages = l.reported ++ l.chunk
  idle : l.writer.pendingWrite = none → l.chunk = []
  length : ∀ pending, l.writer.pendingWrite = some pending → pending.plaintextLen = l.chunk.length

/-- The invariant of a link whose caller keeps to the contract. -/
def Sound (cipher : Cipher S R) (s₀ : S) (r₀ : R) (l : Link S R) : Prop :=
  ∃ opened flight, Carries cipher s₀ r₀ l opened flight ∧ Accounted l (opened ++ flight)

theorem sound_start (cipher : Cipher S R) (s₀ : S) (r₀ : R) : Sound cipher s₀ r₀ (start s₀ r₀) := by
  refine ⟨[], [], carries_start cipher s₀ r₀, rfl, fun _ => rfl, ?_⟩
  intro pending here
  cases here

/-- A chunk that went out was reported by this call, from a buffer that starts with it. -/
theorem accounted_push {messages : List Encrypted} {pending : PendingWrite} {buffer : Bytes}
    {answers : List (Poll Nat)} {ret : WriteReturn S (Option Nat)} {sending : S}
    (pushed : Pushed sending pending answers ret) {chunk : Bytes} {l' : Link S R}
    (plain : Noise.plain messages = l.reported ++ chunk) (length : pending.plaintextLen = chunk.length)
    (retries : chunk <+: buffer) (writer : l'.writer = ret.stream)
    (reported : l'.reported = l.reported ++ (reportQueued ret.poll).written buffer)
    (remains : l'.chunk = if ret.stream.pendingWrite.isNone then [] else chunk) :
    Accounted l' messages := by
  cases pushed with
  | completed all =>
      have whole : buffer.take pending.plaintextLen = chunk := by
        rw [length]
        exact (List.prefix_iff_eq_take.mp retries).symm
      constructor
      · rw [plain, reported, remains]
        simp [reportQueued, Poll.written, whole]
      · intro _
        rw [remains]
        rfl
      · intro pending here
        rw [writer] at here
        cases here
  | stuck short formed sends unfinished =>
      rename_i poll offset sent
      have silent : (reportQueued poll).written buffer = [] := by
        cases poll with
        | done count => exact absurd rfl (unfinished count)
        | pending => rfl
        | failed error => rfl
      constructor
      · rw [plain, reported, remains]
        simp [silent]
      · intro idle
        rw [writer] at idle
        cases idle
      · intro pending' here
        rw [writer] at here
        cases here
        rw [remains]
        exact length

/-- A write by a caller that retries: what is encrypted is accounted for, and is what was
reported before and the start of this buffer. -/
theorem Carries.write (inverts : cipher.Inverts s₀ r₀)
    (carries : Carries cipher s₀ r₀ l opened flight) (accounted : Accounted l (opened ++ flight))
    {buffer : Bytes} (retries : l.chunk <+: buffer) (answers : List (Poll Nat)) :
    ∃ flight', Carries cipher s₀ r₀ (l.write cipher buffer answers) opened flight' ∧
      Accounted (l.write cipher buffer answers) (opened ++ flight') ∧
      plain (opened ++ flight') <+: l.reported ++ buffer := by
  obtain ⟨plain, idle, length⟩ := accounted
  have known : Noise.plain (opened ++ flight) <+: l.reported ++ buffer := by
    rw [plain]
    exact List.prefix_append_right_inj l.reported |>.mpr retries
  have untouched (none : l.writer.pendingWrite = none) :
      Carries cipher s₀ r₀
        { l with wire := l.wire ++ [], reported := l.reported ++ [], chunk := [] } opened flight ∧
      Accounted { l with wire := l.wire ++ [], reported := l.reported ++ [], chunk := [] }
        (opened ++ flight) := by
    rw [List.append_nil, List.append_nil, ← idle none]
    exact ⟨carries, plain, idle, length⟩
  have wrote := pollWrite_wrote cipher carries.writer buffer answers
  unfold Link.write
  generalize pollWrite cipher l.writer buffer answers = ret at wrote ⊢
  cases wrote with
  | resumed queued pushed =>
      refine ⟨flight, carries.push queued pushed rfl rfl rfl rfl, ?_, known⟩
      exact accounted_push (l := l) pushed plain (length _ queued) retries rfl rfl (by simp [queued])
  | nothing none empty =>
      have silent : Poll.written buffer (.done 0) = [] := rfl
      simp only [none, Option.isNone_none, if_true, silent]
      exact ⟨flight, (untouched none).1, (untouched none).2, known⟩
  | refused none =>
      simp only [none, Option.isNone_none, if_true, Poll.written]
      exact ⟨flight, (untouched none).1, (untouched none).2, known⟩
  | encrypted none nonempty message pushed =>
      rename_i ciphertext sending ret
      have chunk_ne : buffer.take maxPlaintextChunk ≠ [] := by
        simp [nonempty, maxPlaintextChunk]
      have mid := carries.encrypt inverts none (buffer.take maxPlaintextChunk).length
        chunk_ne (List.length_take_le ..) message
      have more : Noise.plain (opened ++ (flight ++ [(buffer.take maxPlaintextChunk, ciphertext)])) =
          l.reported ++ buffer.take maxPlaintextChunk := by
        rw [← List.append_assoc, plain_append, plain, idle none]
        simp [Noise.plain]
      refine ⟨_, mid.push rfl pushed rfl rfl rfl rfl, ?_, ?_⟩
      · exact accounted_push (l := l) pushed more rfl (List.take_prefix ..) rfl rfl (by simp [none])
      · rw [more]
        exact List.prefix_append_right_inj l.reported |>.mpr (List.take_prefix ..)

/-- A flush or shutdown moves wire bytes and encrypts nothing. -/
theorem Carries.finish (carries : Carries cipher s₀ r₀ l opened flight) (answers : List (Poll Nat))
    (inner : Poll Unit) :
    Carries cipher s₀ r₀ (l.finish (afterPendingWrite l.writer answers inner)) opened flight := by
  have finished := afterPendingWrite_finished carries.writer answers inner
  unfold Link.finish
  generalize afterPendingWrite l.writer answers inner = ret at finished ⊢
  cases finished with
  | idle none =>
      simp only [List.append_nil]
      exact ⟨carries.feeds, carries.delivered, carries.writer⟩
  | pushed queued pushed => exact carries.push queued pushed rfl rfl rfl rfl

/-- One that completes nothing changes nothing the caller was told. -/
theorem Accounted.finish {messages : List Encrypted} (accounted : Accounted l messages)
    (formed : l.writer.WellFormed) {answers : List (Poll Nat)} (unfinished : l.Unfinished answers)
    (inner : Poll Unit) : Accounted (l.finish (afterPendingWrite l.writer answers inner)) messages := by
  obtain ⟨plain, idle, length⟩ := accounted
  have finished := afterPendingWrite_finished formed answers inner
  unfold Link.finish
  generalize afterPendingWrite l.writer answers inner = ret at finished ⊢
  cases finished with
  | idle none =>
      simp only [none, Option.isNone_none, if_true]
      rw [← idle none]
      exact ⟨plain, idle, length⟩
  | pushed queued pushed =>
      rename_i pending ret poll
      have short : takesAll pending.left.length answers = false := by
        simpa [Unfinished, queued] using unfinished
      cases pushed with
      | completed all =>
          rw [short] at all
          cases all
      | stuck short formed sends unfinished =>
          refine ⟨plain, ?_, ?_⟩
          · intro none
            cases none
          · intro pending' here
            cases here
            exact length pending queued

/-- A read of any size moves messages from the flight to those opened. -/
theorem Carries.reads (inverts : cipher.Inverts s₀ r₀)
    (carries : Carries cipher s₀ r₀ l opened flight) (size : Nat) {answers : List Arrival}
    (arrives : carried answers <+: l.wire) :
    ∃ newly later, flight = newly ++ later ∧
      Carries cipher s₀ r₀ (l.read cipher size answers) (opened ++ newly) later := by
  by_cases positive : 0 < size
  · obtain ⟨newly, later, carries', fed⟩ := carries.read inverts arrives positive
    exact ⟨newly, later, fed.messages, carries'⟩
  · have nothing : l.read cipher size answers = l := by
      have zero : size = 0 := by omega
      simp [Link.read, pollRead, zero, Poll.bytes]
    rw [nothing]
    exact ⟨[], flight, rfl, by rwa [List.append_nil]⟩

theorem Accounted.read {messages : List Encrypted} (accounted : Accounted l messages) (size : Nat)
    (answers : List Arrival) : Accounted (l.read cipher size answers) messages :=
  ⟨accounted.plain, accounted.idle, accounted.length⟩

theorem Sound.write (inverts : cipher.Inverts s₀ r₀) (sound : Sound cipher s₀ r₀ l) {buffer : Bytes}
    (retries : l.chunk <+: buffer) (answers : List (Poll Nat)) :
    Sound cipher s₀ r₀ (l.write cipher buffer answers) := by
  obtain ⟨opened, flight, carries, accounted⟩ := sound
  obtain ⟨flight', carries', accounted', -⟩ := carries.write inverts accounted retries answers
  exact ⟨opened, flight', carries', accounted'⟩

theorem Sound.finish (sound : Sound cipher s₀ r₀ l) {answers : List (Poll Nat)}
    (unfinished : l.Unfinished answers) (inner : Poll Unit) :
    Sound cipher s₀ r₀ (l.finish (afterPendingWrite l.writer answers inner)) := by
  obtain ⟨opened, flight, carries, accounted⟩ := sound
  exact ⟨opened, flight, carries.finish answers inner,
    accounted.finish carries.writer unfinished inner⟩

theorem Sound.read (inverts : cipher.Inverts s₀ r₀) (sound : Sound cipher s₀ r₀ l) (size : Nat)
    {answers : List Arrival} (arrives : carried answers <+: l.wire) :
    Sound cipher s₀ r₀ (l.read cipher size answers) := by
  obtain ⟨opened, flight, carries, accounted⟩ := sound
  obtain ⟨newly, later, split, carries'⟩ := carries.reads inverts size arrives
  refine ⟨opened ++ newly, later, carries', ?_⟩
  rw [List.append_assoc, ← split]
  exact accounted.read size answers

theorem Sound.step (inverts : cipher.Inverts s₀ r₀) {call : Call} {l' : Link S R}
    (sound : Sound cipher s₀ r₀ l) (retries : l.Retries call) (keeps : l.KeepsCount call)
    (taken : l.step cipher call = some l') : Sound cipher s₀ r₀ l' := by
  cases call with
  | write buffer answers =>
      cases taken
      exact sound.write inverts retries answers
  | flush answers innerFlush =>
      cases taken
      exact sound.finish keeps innerFlush
  | shutdown answers innerShutdown =>
      cases taken
      exact sound.finish keeps innerShutdown
  | read size answers =>
      simp only [Link.step] at taken
      split at taken
      · rename_i arrives
        cases taken
        exact sound.read inverts size arrives
      · cases taken

/-! ## The round trip -/

/-- What the two peers may rely on. -/
structure RoundTrip (cipher : Cipher S R) (l : Link S R) : Prop where
  ordered : l.delivered <+: l.reported ++ l.chunk
  /-- with the wire empty and no write pending, enough reads deliver all there is -/
  complete : l.wire = [] → l.writer.pendingWrite = none →
    ∀ (reads : List (Nat × List Arrival)) l', (∀ read ∈ reads, 0 < read.1) →
      exec (step cipher) l (reads.map fun read => .read read.1 read.2) = some l' →
      l.reported.length ≤ l.delivered.length + reads.length → l'.delivered = l.reported
  /-- a read fails only where the inner stream failed or ended inside a frame -/
  failed : ∀ size answers error, carried answers <+: l.wire →
    (pollRead cipher l.reader size answers).poll = .failed error →
    .failed error ∈ answers ∨
      (.ready [] :: (pollRead cipher l.reader size answers).rest <:+ answers ∧
        (pollRead cipher l.reader size answers).stream.held ≠ [])
  /-- a read with room reports the end only where the inner stream ended between frames -/
  ended : ∀ size answers, 0 < size → (pollRead cipher l.reader size answers).poll = .done [] →
    .ready [] :: (pollRead cipher l.reader size answers).rest <:+ answers ∧
      (pollRead cipher l.reader size answers).stream.held = []

theorem Carries.ordered (carries : Carries cipher s₀ r₀ l opened flight) :
    l.delivered <+: plain (opened ++ flight) := by
  refine ⟨l.reader.leftover ++ plain flight, ?_⟩
  rw [plain_append, ← carries.delivered, List.append_assoc]

/-- With the wire empty and no write pending, a read delivers more or all is delivered. -/
theorem Carries.progress (inverts : cipher.Inverts s₀ r₀)
    (carries : Carries cipher s₀ r₀ l opened flight) (empty : l.wire = [])
    (idle : l.writer.pendingWrite = none) {size : Nat} {answers : List Arrival}
    (positive : 0 < size) (arrives : carried answers <+: l.wire) :
    (l.read cipher size answers).wire = [] ∧
      ((l.read cipher size answers).delivered = plain (opened ++ flight) ∨
        l.delivered.length < (l.read cipher size answers).delivered.length) := by
  obtain ⟨newly, later, carries', fed⟩ := carries.read inverts arrives positive
  have nothing : carried answers = [] := by
    rw [empty] at arrives
    exact List.prefix_nil.mp arrives
  refine ⟨by simp [Link.read, empty], ?_⟩
  by_cases silent : (pollRead cipher l.reader size answers).poll.bytes = []
  · left
    obtain ⟨rfl, served⟩ := fed.drained silent nothing
      (by simp [empty, nothing, Writing.queued_idle idle])
    have all := carries'.delivered
    have left_over : (l.read cipher size answers).reader.leftover = [] := served
    rw [left_over, List.append_nil] at all
    have messages := fed.messages
    rw [List.append_nil] at messages
    rw [all, ← messages]
  · right
    simp only [Link.read, List.length_append]
    have := List.length_pos_iff.mpr silent
    omega

/-- With the wire empty and no write pending, enough reads deliver all there is. -/
theorem Carries.complete (inverts : cipher.Inverts s₀ r₀)
    (carries : Carries cipher s₀ r₀ l opened flight) (empty : l.wire = [])
    (idle : l.writer.pendingWrite = none) {reads : List (Nat × List Arrival)} {l' : Link S R}
    (positive : ∀ read ∈ reads, 0 < read.1)
    (run : exec (Link.step cipher) l (reads.map fun read => .read read.1 read.2) = some l')
    (enough : (plain (opened ++ flight)).length ≤ l.delivered.length + reads.length) :
    l'.delivered = plain (opened ++ flight) := by
  induction reads generalizing l opened flight with
  | nil =>
      cases run
      simp only [List.length_nil, Nat.add_zero] at enough
      have bound := carries.ordered.length_le
      exact carries.ordered.eq_of_length (by omega)
  | cons read rest ih =>
      obtain ⟨next, taken, last⟩ := Option.bind_eq_some_iff.mp run
      simp only [Link.step] at taken
      split at taken
      · rename_i arrives
        cases taken
        obtain ⟨empty', more⟩ :=
          carries.progress inverts empty idle (positive read List.mem_cons_self) arrives
        obtain ⟨newly, later, split, carries'⟩ := carries.reads inverts read.1 arrives
        have same : plain (opened ++ newly ++ later) = plain (opened ++ flight) := by
          rw [List.append_assoc, ← split]
        rw [← same]
        refine ih carries' empty' idle ?_ last ?_
        · intro other inside
          exact positive other (List.mem_cons_of_mem _ inside)
        · rw [same]
          simp only [List.length_cons] at enough
          cases more with
          | inl all =>
              rw [all]
              omega
          | inr longer => omega
      · cases taken

theorem Sound.ordered (sound : Sound cipher s₀ r₀ l) : l.delivered <+: l.reported ++ l.chunk := by
  obtain ⟨opened, flight, carries, accounted⟩ := sound
  rw [← accounted.plain]
  exact carries.ordered

theorem Sound.complete (inverts : cipher.Inverts s₀ r₀) (sound : Sound cipher s₀ r₀ l)
    (empty : l.wire = []) (idle : l.writer.pendingWrite = none)
    {reads : List (Nat × List Arrival)} {l' : Link S R} (positive : ∀ read ∈ reads, 0 < read.1)
    (run : exec (Link.step cipher) l (reads.map fun read => .read read.1 read.2) = some l')
    (enough : l.reported.length ≤ l.delivered.length + reads.length) :
    l'.delivered = l.reported := by
  obtain ⟨opened, flight, carries, accounted⟩ := sound
  have all := accounted.plain
  rw [accounted.idle idle, List.append_nil] at all
  rw [← all] at enough ⊢
  exact carries.complete inverts empty idle positive run enough

/-- **The round trip.**  In every run of a link whose caller retries a pending chunk, and
completes it by a write, the peer reads what was reported as written. -/
theorem round_trip (inverts : cipher.Inverts s₀ r₀) {calls : List Call}
    (run : exec (Link.step cipher) (start s₀ r₀) calls = some l)
    (retries : Along (Link.step cipher) Retries (start s₀ r₀) calls)
    (keeps : Along (Link.step cipher) KeepsCount (start s₀ r₀) calls) : RoundTrip cipher l := by
  have sound : Sound cipher s₀ r₀ l :=
    (retries.and keeps).preserves (fun _ _ _ holds allowed taken =>
      holds.step inverts allowed.1 allowed.2 taken) run (sound_start cipher s₀ r₀)
  constructor
  · exact sound.ordered
  · intro empty idle reads l' positive more enough
    exact sound.complete inverts empty idle positive more enough
  · intro size answers error arrives failed
    obtain ⟨opened, flight, carries, -⟩ := sound
    have positive : 0 < size := by
      by_contra zero
      have none : size = 0 := by omega
      simp [pollRead, none] at failed
    obtain ⟨newly, later, -, fed⟩ := carries.read inverts arrives positive
    exact fed.failed error failed
  · intro size answers positive ended
    obtain ⟨opened, flight, carries, -⟩ := sound
    exact (pollRead_polled cipher carries.feeds.formed positive answers).zero_bytes positive ended

end Link

/-! ## A cipher to run the link with

The nonce counts the messages; it is added to the plaintext and repeated as the tag. -/

def counterTag (nonce : Nat) : Bytes := List.replicate noiseTagSize (UInt8.ofNat nonce)

def counterCipher : Cipher Nat Nat where
  writeMessage nonce plaintext :=
    .ok (plaintext.map (· + UInt8.ofNat nonce) ++ counterTag nonce, nonce + 1)
  readMessage nonce ciphertext :=
    let body := ciphertext.take (ciphertext.length - noiseTagSize)
    if ciphertext = body ++ counterTag nonce then
      (.ok (body.map (· - UInt8.ofNat nonce)), nonce + 1)
    else (.error "decrypt error", nonce)

theorem counterCipher_decrypts {nonce next : Nat} {message : Encrypted}
    (encrypted : counterCipher.encrypts nonce message = some next) :
    counterCipher.decrypts nonce message = some next := by
  obtain ⟨plaintext, ciphertext⟩ := message
  simp only [Cipher.encrypts, counterCipher, Option.ite_none_right_eq_some] at encrypted
  obtain ⟨rfl, same⟩ := encrypted
  have back : (plaintext.map (· + UInt8.ofNat nonce)).map (· - UInt8.ofNat nonce) = plaintext := by
    simp [Function.comp_def]
  have body : ((plaintext.map (· + UInt8.ofNat nonce)) ++ counterTag nonce).take
      (((plaintext.map (· + UInt8.ofNat nonce)) ++ counterTag nonce).length - noiseTagSize) =
      plaintext.map (· + UInt8.ofNat nonce) := by
    simp [counterTag]
  simp only [Cipher.decrypts, counterCipher, body, back, if_true]
  exact same

theorem counterCipher_inverts (nonce : Nat) : counterCipher.Inverts nonce nonce := by
  constructor
  · intro sent s encrypted
    refine ⟨s, ?_⟩
    induction sent generalizing nonce with
    | nil => exact encrypted
    | cons message rest ih =>
        obtain ⟨next, first, last⟩ := Option.bind_eq_some_iff.mp encrypted
        simp only [exec]
        rw [counterCipher_decrypts first]
        exact ih next last
  · intro s plaintext ciphertext s' message
    cases message
    simp [counterTag]

namespace Link

/-- A chunk goes out in two pieces, across a retry; its frame arrives in three. -/
def fragmentedCalls : List Call :=
  [.write [1, 2, 3] [.done 5, .pending], .write [1, 2, 3, 4] [.done 18],
   .read 2 [.ready [0, 0], .pending []], .write [4] [.done 20],
   .read 2 [.ready [0, 19, 1], .ready ([2, 3] ++ counterTag 0)]]

def fragmentedEnd : Link Nat Nat :=
  (exec (step counterCipher) (start 0 0) fragmentedCalls).get (by decide)

theorem round_trip_fragmented : RoundTrip counterCipher fragmentedEnd :=
  round_trip (counterCipher_inverts 0) (Option.some_get _).symm (by decide) (by decide)

/-- A chunk whose write is pending goes out by a flush; the retry sends it again. -/
def twiceCalls : List Call :=
  [.write [1] [], .flush [.done 21] (.done ()), .write [1] [.done 21],
   .read 8 [.ready ([0, 0, 0, 17, 1] ++ counterTag 0)],
   .read 8 [.ready ([0, 0, 0, 17, 2] ++ counterTag 1)]]

def twiceEnd : Link Nat Nat :=
  (exec (step counterCipher) (start 0 0) twiceCalls).get (by decide)

/-- The peer reads the byte twice; it was reported once, and no write is pending. -/
theorem chunk_sent_twice :
    counterCipher.Inverts 0 0 ∧ exec (step counterCipher) (start 0 0) twiceCalls = some twiceEnd ∧
      Along (step counterCipher) Retries (start 0 0) twiceCalls ∧
      twiceEnd.delivered = [1, 1] ∧ twiceEnd.reported = [1] ∧ twiceEnd.chunk = [] ∧
      ¬ RoundTrip counterCipher twiceEnd := by
  refine ⟨counterCipher_inverts 0, (Option.some_get _).symm, by decide, by decide, by decide,
    by decide, ?_⟩
  intro holds
  exact absurd holds.ordered (by decide)

end Link

end RustSsh.Noise
