/-
# Channel.Lane -- one direction of a control connection

`write_frame` at one end and `read_frame` at the other, over a `Noise.Link`.  Both are
suspended in the middle of a frame for any number of polls, and neither is cancellation
safe: a write that is cut leaves the start of a frame behind, a read that is dropped
leaves its bytes consumed.  A lane keeps what a cut or a dropped future would have known
(`writing`, `reader`), so that the rest of the model can say that nobody goes on from there.

`Lane.Sound` is what every poll keeps, however the bytes are cut.  `Intact` holds as long
as the frame in progress has not failed.
-/
import RustSsh.Noise.Link
import RustSsh.Protocol.Frame

namespace RustSsh.Channel

open RustSsh.Theory RustSsh.Protocol RustSsh.Noise

set_option autoImplicit false

variable {S R : Type}

structure Lane (S R : Type) where
  link : Link S R
  /-- the messages whose frames were begun -/
  begun : List Message
  /-- the `write_frame` in progress, or where it was cut -/
  writing : Option FrameWriter
  /-- the `read_frame` in progress, or where it was dropped -/
  reader : FrameReader
  /-- the payloads of the frames read -/
  read : List Bytes
  deriving DecidableEq, Repr

inductive WriteProgress where
  | more
  | written
  | failed
  deriving DecidableEq, Repr

inductive ReadProgress where
  | more
  | message (m : Message)
  | failed
  deriving DecidableEq, Repr

/-- The message a poll completed. -/
def ReadProgress.messages : ReadProgress → List Message
  | .message m => [m]
  | _ => []

namespace Lane

def start (s₀ : S) (r₀ : R) : Lane S R :=
  { link := .start s₀ r₀, begun := [], writing := none, reader := .start, read := [] }

/-- `write_frame` is given its message.  One that is too large fails before its first byte. -/
def beginFrame (codec : Codec) (l : Lane S R) (m : Message) : Lane S R :=
  match writeFrame codec m with
  | some _ => { l with begun := l.begun ++ [m], writing := some (.start (codec.encode m)) }
  | none => l

/-- A `poll_write` inside `write_frame`; one that takes no bytes is `WriteZero`. -/
def pollFrame (cipher : Cipher S R) (l : Lane S R) (w : FrameWriter) (answers : List (Poll Nat)) :
    Lane S R × WriteProgress :=
  let link := l.link.write cipher w.buffer answers
  match (pollWrite cipher l.link.writer w.buffer answers).poll with
  | .done count =>
      if count = 0 then ({ l with link }, .failed)
      else ({ l with link, writing := some (w.took count) }, .more)
  | .pending => ({ l with link }, .more)
  | .failed _ => ({ l with link }, .failed)

/-- The `poll_flush` at the end of `write_frame`. -/
def pollFlush (l : Lane S R) (answers : List (Poll Nat)) (innerFlush : Poll Unit) :
    Lane S R × WriteProgress :=
  let ret := Noise.pollFlush l.link.writer answers innerFlush
  let link := l.link.finish ret
  match ret.poll with
  | .done _ => ({ l with link, writing := none }, .written)
  | .pending => ({ l with link }, .more)
  | .failed _ => ({ l with link }, .failed)

/-- A poll of `write_frame`. -/
def pollWriteFrame (cipher : Cipher S R) (l : Lane S R) (answers : List (Poll Nat))
    (innerFlush : Poll Unit) : Option (Lane S R × WriteProgress) :=
  match l.writing with
  | none => none
  | some w =>
      if w.buffer = [] then some (l.pollFlush answers innerFlush)
      else some (l.pollFrame cipher w answers)

/-- What `read_frame` does with the bytes of a poll; none are the end of the stream. -/
def takeBytes (codec : Codec) (l : Lane S R) (bytes : Bytes) : Lane S R × ReadProgress :=
  if bytes = [] then (l, .failed)
  else
    match l.reader.feed bytes with
    | .more reader => ({ l with reader }, .more)
    | .invalid _ => (l, .failed)
    | .done payload =>
        let l := { l with reader := .start, read := l.read ++ [payload] }
        match codec.decode payload with
        | some m => (l, .message m)
        | none => (l, .failed)

/-- A poll of `read_frame`. -/
def pollReadFrame (cipher : Cipher S R) (codec : Codec) (l : Lane S R) (answers : List Arrival) :
    Option (Lane S R × ReadProgress) :=
  if carried answers <+: l.link.wire then
    let link := l.link.read cipher l.reader.wants answers
    match (pollRead cipher l.link.reader l.reader.wants answers).poll with
    | .pending => some ({ l with link }, .more)
    | .failed _ => some ({ l with link }, .failed)
    | .done bytes => some (takeBytes codec { l with link } bytes)
  else none

/-! ## The invariant -/

/-- The payloads of the frames begun. -/
def payloads (codec : Codec) (l : Lane S R) : List Bytes := l.begun.map codec.encode

/-- The frames begun are what `poll_write` reported and what the frame in progress has
left, and a chunk it did not report is one the next `poll_write` repeats. -/
def Written (codec : Codec) (l : Lane S R) : Prop :=
  match l.writing with
  | some w => l.link.reported ++ w.left = frames (l.payloads codec) ∧ l.link.chunk <+: w.buffer
  | none => l.link.reported = frames (l.payloads codec) ∧ l.link.chunk = []

structure Sound (cipher : Cipher S R) (codec : Codec) (s₀ : S) (r₀ : R) (l : Lane S R) : Prop where
  link : Link.Sound cipher s₀ r₀ l.link
  idle : l.link.chunk = [] → l.link.writer.pendingWrite = none
  written : l.Written codec
  sentFits : ∀ payload ∈ l.payloads codec, Fits payload
  heard : frames l.read <+: l.link.delivered
  readFits : ∀ payload ∈ l.read, Fits payload
  reader : l.reader.WellFormed

/-- The frame being read is all that was consumed behind the frames read. -/
def Intact (l : Lane S R) : Prop := l.link.delivered = frames l.read ++ l.reader.held

variable {cipher : Cipher S R} {codec : Codec} {s₀ : S} {r₀ : R} {l : Lane S R}

theorem sound_start (cipher : Cipher S R) (codec : Codec) (s₀ : S) (r₀ : R) :
    (start s₀ r₀).Sound cipher codec s₀ r₀ := by
  refine ⟨Link.sound_start cipher s₀ r₀, fun _ => rfl, ⟨rfl, rfl⟩, ?_, List.prefix_rfl, ?_,
    FrameReader.wellFormed_start⟩
  · intro payload inside
    cases inside
  · intro payload inside
    cases inside

/-! ### Writing -/

theorem Sound.beginFrame (sound : l.Sound cipher codec s₀ r₀) (ready : l.writing = none)
    (m : Message) : (l.beginFrame codec m).Sound cipher codec s₀ r₀ := by
  unfold Lane.beginFrame
  cases encoded : writeFrame codec m with
  | none => exact sound
  | some bytes =>
      have written := sound.written
      unfold Written at written
      rw [ready] at written
      obtain ⟨reported, none_left⟩ := written
      refine ⟨sound.link, sound.idle, ⟨?_, ?_⟩, ?_, sound.heard, sound.readFits, sound.reader⟩
      · show l.link.reported ++ _ = _
        rw [reported]
        simp [payloads]
      · show l.link.chunk <+: _
        rw [none_left]
        exact List.nil_prefix
      · intro payload inside
        simp only [payloads, List.map_append, List.mem_append, List.map_cons, List.map_nil,
          List.mem_singleton] at inside
        cases inside with
        | inl earlier => exact sound.sentFits payload earlier
        | inr last =>
            rw [last]
            exact fits_of_size (writeFrame_some encoded).2

/-- A `poll_write` leaves no chunk but one the next call repeats, and none once it reports. -/
theorem write_chunk {link : Link S R} (sound : Link.Sound cipher s₀ r₀ link)
    (idle : link.chunk = [] → link.writer.pendingWrite = none) {buffer : Bytes}
    (retries : link.chunk <+: buffer) (answers : List (Poll Nat)) :
    (link.write cipher buffer answers).chunk <+: buffer ∧
      ((link.write cipher buffer answers).chunk = [] →
        (link.write cipher buffer answers).writer.pendingWrite = none) ∧
      ∀ count, (pollWrite cipher link.writer buffer answers).poll = .done count →
        (link.write cipher buffer answers).chunk = [] := by
  obtain ⟨opened, flight, carries, accounted⟩ := sound
  have wrote := pollWrite_wrote cipher carries.writer buffer answers
  unfold Link.write
  generalize pollWrite cipher link.writer buffer answers = ret at wrote ⊢
  cases wrote with
  | resumed queued pushed =>
      cases pushed with
      | completed all => simp
      | stuck short formed sends unfinished =>
          simp only [Option.isNone_some, queued, Bool.false_eq_true, if_false]
          refine ⟨retries, ?_, ?_⟩
          · intro spent
            rw [idle spent] at queued
            cases queued
          · intro count done
            rename_i poll offset sent
            cases poll with
            | done count => exact absurd rfl (unfinished count)
            | pending => cases done
            | failed error => cases done
  | nothing none empty => simp [none]
  | refused none => simp [none]
  | encrypted none nonempty message pushed =>
      cases pushed with
      | completed all => simp
      | stuck short formed sends unfinished =>
          simp only [Option.isNone_some, none, Option.isNone_none, Bool.false_eq_true, if_false,
            if_true]
          refine ⟨List.take_prefix .., ?_, ?_⟩
          · intro spent
            exact absurd spent (by simp [nonempty, maxPlaintextChunk])
          · intro count done
            rename_i poll offset sent
            cases poll with
            | done count => exact absurd rfl (unfinished count)
            | pending => cases done
            | failed error => cases done

/-- A frame is in progress as long as its `write_frame` is; no other is begun. -/
theorem pollWriteFrame_writing {answers : List (Poll Nat)} {innerFlush : Poll Unit}
    {moved : Lane S R × WriteProgress}
    (polled : l.pollWriteFrame cipher answers innerFlush = some moved) :
    l.writing.isSome = true ∧ moved.1.begun = l.begun ∧
      (moved.2 = .written ∧ moved.1.writing = none ∨
        moved.2 ≠ .written ∧ moved.1.writing.isSome = true) := by
  unfold Lane.pollWriteFrame at polled
  cases here : l.writing with
  | none =>
      rw [here] at polled
      cases polled
  | some w =>
      rw [here] at polled
      refine ⟨rfl, ?_⟩
      by_cases spent : w.buffer = []
      · simp only [spent, if_true] at polled
        cases polled
        unfold Lane.pollFlush
        cases poll : (Noise.pollFlush l.link.writer answers innerFlush).poll <;>
          simp [poll, here]
      · simp only [spent, if_false] at polled
        cases polled
        unfold Lane.pollFrame
        cases poll : (pollWrite cipher l.link.writer w.buffer answers).poll with
        | pending => simp [here]
        | failed error => simp [here]
        | done count =>
            by_cases zero : count = 0
            · simp [zero, here]
            · simp [zero]

theorem Sound.pollFrame (inverts : cipher.Inverts s₀ r₀) (sound : l.Sound cipher codec s₀ r₀)
    {w : FrameWriter} (here : l.writing = some w) (answers : List (Poll Nat)) :
    (l.pollFrame cipher w answers).1.Sound cipher codec s₀ r₀ := by
  have written := sound.written
  unfold Written at written
  rw [here] at written
  obtain ⟨reported, retries⟩ := written
  obtain ⟨again, idle, done⟩ := write_chunk sound.link sound.idle retries answers
  have link := sound.link.write inverts retries answers
  have unreported (same : (pollWrite cipher l.link.writer w.buffer answers).poll.written w.buffer = []) :
      ({ l with link := l.link.write cipher w.buffer answers } : Lane S R).Sound cipher codec s₀ r₀ := by
    refine ⟨link, idle, ?_, sound.sentFits, sound.heard, sound.readFits, sound.reader⟩
    unfold Written
    simp only [here]
    refine ⟨?_, again⟩
    show (l.link.reported ++ _) ++ _ = _
    rw [same, List.append_nil]
    exact reported
  unfold Lane.pollFrame
  cases poll : (pollWrite cipher l.link.writer w.buffer answers).poll with
  | pending => exact unreported (by rw [poll]; rfl)
  | failed error => exact unreported (by rw [poll]; rfl)
  | done count =>
      by_cases zero : count = 0
      · simp only [zero, if_true]
        exact unreported (by rw [poll, zero]; rfl)
      · simp only [zero, if_false]
        refine ⟨link, idle, ⟨?_, ?_⟩, sound.sentFits, sound.heard, sound.readFits, sound.reader⟩
        · show (l.link.reported ++ _) ++ _ = _
          rw [poll, List.append_assoc]
          show l.link.reported ++ (w.buffer.take count ++ _) = _
          rw [← w.left_took count]
          exact reported
        · show (l.link.write cipher w.buffer answers).chunk <+: _
          rw [done count poll]
          exact List.nil_prefix

theorem Sound.pollFlush (sound : l.Sound cipher codec s₀ r₀) {w : FrameWriter}
    (here : l.writing = some w) (spent : w.buffer = []) (answers : List (Poll Nat))
    (innerFlush : Poll Unit) : (l.pollFlush answers innerFlush).1.Sound cipher codec s₀ r₀ := by
  have written := sound.written
  unfold Written at written
  rw [here] at written
  obtain ⟨reported, retries⟩ := written
  rw [spent] at retries
  have none_left := List.prefix_nil.mp retries
  have none_pending := sound.idle none_left
  rw [FrameWriter.left_nil spent, List.append_nil] at reported
  -- with nothing queued a flush goes straight to the inner stream
  have same : l.link.finish (Noise.pollFlush l.link.writer answers innerFlush) = l.link := by
    unfold Noise.pollFlush afterPendingWrite
    rw [pollPendingWrite_idle none_pending]
    simp only [Link.finish, none_pending, Option.isNone_none, if_true, List.append_nil]
    rw [← none_left]
  unfold Lane.pollFlush
  simp only [same]
  cases (Noise.pollFlush l.link.writer answers innerFlush).poll with
  | pending => exact sound
  | failed error => exact sound
  | done value =>
      exact ⟨sound.link, sound.idle, ⟨reported, none_left⟩, sound.sentFits, sound.heard,
        sound.readFits, sound.reader⟩

theorem Sound.pollWriteFrame (inverts : cipher.Inverts s₀ r₀) (sound : l.Sound cipher codec s₀ r₀)
    {answers : List (Poll Nat)} {innerFlush : Poll Unit} {moved : Lane S R × WriteProgress}
    (polled : l.pollWriteFrame cipher answers innerFlush = some moved) :
    moved.1.Sound cipher codec s₀ r₀ := by
  unfold Lane.pollWriteFrame at polled
  cases here : l.writing with
  | none =>
      rw [here] at polled
      cases polled
  | some w =>
      rw [here] at polled
      by_cases spent : w.buffer = []
      · simp only [spent, if_true] at polled
        cases polled
        exact sound.pollFlush here spent answers innerFlush
      · simp only [spent, if_false] at polled
        cases polled
        exact sound.pollFrame inverts here answers

/-! ### Reading -/

/-- The messages `read_frame` returned. -/
def received (codec : Codec) (l : Lane S R) : List Message := l.read.filterMap codec.decode

theorem Sound.takeBytes (sound : l.Sound cipher codec s₀ r₀) {bytes : Bytes}
    (consumed : l.link.delivered = frames l.read ++ l.reader.held ++ bytes)
    (fits : bytes.length ≤ l.reader.wants) :
    (l.takeBytes codec bytes).1.Sound cipher codec s₀ r₀ ∧
      ((l.takeBytes codec bytes).2 ≠ .failed → (l.takeBytes codec bytes).1.Intact) := by
  unfold Lane.takeBytes
  by_cases ended : bytes = []
  · rw [if_pos ended]
    exact ⟨sound, fun going => absurd rfl going⟩
  · rw [if_neg ended]
    cases fed : l.reader.feed bytes with
    | more reader =>
        obtain ⟨formed, held⟩ := FrameReader.feed_more sound.reader fits fed
        refine ⟨⟨sound.link, sound.idle, sound.written, sound.sentFits, sound.heard,
          sound.readFits, formed⟩, fun _ => ?_⟩
        show l.link.delivered = frames l.read ++ reader.held
        rw [held, consumed, List.append_assoc]
    | invalid length => exact ⟨sound, fun going => absurd rfl going⟩
    | done payload =>
        obtain ⟨whole, small⟩ := FrameReader.feed_done sound.reader fits fed
        have boundary : l.link.delivered = frames (l.read ++ [payload]) := by
          rw [consumed, List.append_assoc, whole]
          simp
        have next : ({ l with reader := .start, read := l.read ++ [payload] } : Lane S R).Sound
            cipher codec s₀ r₀ := by
          refine ⟨sound.link, sound.idle, sound.written, sound.sentFits, ?_, ?_,
            FrameReader.wellFormed_start⟩
          · show frames (l.read ++ [payload]) <+: l.link.delivered
            rw [boundary]
          · intro other inside
            cases List.mem_append.mp inside with
            | inl earlier => exact sound.readFits other earlier
            | inr last =>
                rw [List.mem_singleton.mp last]
                exact fits_of_size small
        simp only
        cases codec.decode payload with
        | none => exact ⟨next, fun going => absurd rfl going⟩
        | some m =>
            refine ⟨next, fun _ => ?_⟩
            show l.link.delivered = frames (l.read ++ [payload]) ++ []
            rw [boundary, List.append_nil]

theorem Sound.pollReadFrame (inverts : cipher.Inverts s₀ r₀) (sound : l.Sound cipher codec s₀ r₀)
    (intact : l.Intact) {answers : List Arrival} {moved : Lane S R × ReadProgress}
    (polled : l.pollReadFrame cipher codec answers = some moved) :
    moved.1.Sound cipher codec s₀ r₀ ∧ (moved.2 ≠ .failed → moved.1.Intact) := by
  unfold Lane.pollReadFrame at polled
  by_cases arrives : carried answers <+: l.link.wire
  · rw [if_pos arrives] at polled
    have link := sound.link.read inverts l.reader.wants arrives
    have fits : (pollRead cipher l.link.reader l.reader.wants answers).poll.bytes.length ≤
        l.reader.wants := by
      obtain ⟨opened, flight, carries, -⟩ := sound.link
      exact (pollRead_polled cipher carries.feeds.formed
        (FrameReader.wants_pos sound.reader) answers).bytes_length
    have next : ({ l with link := l.link.read cipher l.reader.wants answers } : Lane S R).Sound
        cipher codec s₀ r₀ :=
      ⟨link, sound.idle, sound.written, sound.sentFits, sound.heard.trans (List.prefix_append ..),
        sound.readFits, sound.reader⟩
    have consumed : (l.link.read cipher l.reader.wants answers).delivered =
        frames l.read ++ l.reader.held ++
          (pollRead cipher l.link.reader l.reader.wants answers).poll.bytes := by
      rw [← intact]
      rfl
    cases poll : (pollRead cipher l.link.reader l.reader.wants answers).poll with
    | pending =>
        simp only [poll] at polled consumed
        cases polled
        refine ⟨next, fun _ => ?_⟩
        show (l.link.read cipher l.reader.wants answers).delivered = _
        rw [consumed]
        exact List.append_nil _
    | failed error =>
        simp only [poll] at polled
        cases polled
        exact ⟨next, fun going => absurd rfl going⟩
    | done bytes =>
        simp only [poll] at polled consumed
        rw [poll] at fits
        cases polled
        exact next.takeBytes consumed fits
  · rw [if_neg arrives] at polled
    cases polled

theorem takeBytes_received (l : Lane S R) (bytes : Bytes) :
    (l.takeBytes codec bytes).1.received codec =
      l.received codec ++ (l.takeBytes codec bytes).2.messages := by
  unfold Lane.takeBytes received
  by_cases ended : bytes = []
  · simp [ended, ReadProgress.messages]
  · rw [if_neg ended]
    cases l.reader.feed bytes with
    | more reader => simp [ReadProgress.messages]
    | invalid length => simp [ReadProgress.messages]
    | done payload =>
        simp only
        cases decoded : codec.decode payload with
        | none => simp [ReadProgress.messages, decoded]
        | some m => simp [ReadProgress.messages, decoded]

/-- A message that was read is the next one received, and the reader is at a boundary. -/
theorem takeBytes_message {bytes : Bytes} {m : Message}
    (done : (l.takeBytes codec bytes).2 = .message m) :
    (l.takeBytes codec bytes).1.reader = .start := by
  unfold Lane.takeBytes at done ⊢
  by_cases ended : bytes = []
  · rw [if_pos ended] at done
    cases done
  · rw [if_neg ended] at done ⊢
    cases fed : l.reader.feed bytes with
    | more reader => simp [fed] at done
    | invalid length => simp [fed] at done
    | done payload =>
        simp only
        cases codec.decode payload with
        | none => rfl
        | some m => rfl

theorem pollReadFrame_received {answers : List Arrival} {moved : Lane S R × ReadProgress}
    (polled : l.pollReadFrame cipher codec answers = some moved) :
    moved.1.received codec = l.received codec ++ moved.2.messages := by
  unfold Lane.pollReadFrame at polled
  by_cases arrives : carried answers <+: l.link.wire
  · rw [if_pos arrives] at polled
    cases poll : (pollRead cipher l.link.reader l.reader.wants answers).poll with
    | pending =>
        simp only [poll] at polled
        cases polled
        simp [received, ReadProgress.messages]
    | failed error =>
        simp only [poll] at polled
        cases polled
        simp [received, ReadProgress.messages]
    | done bytes =>
        simp only [poll] at polled
        cases polled
        rw [takeBytes_received]
        rfl
  · rw [if_neg arrives] at polled
    cases polled

theorem pollReadFrame_message {answers : List Arrival} {l' : Lane S R} {m : Message}
    (polled : l.pollReadFrame cipher codec answers = some (l', .message m)) :
    l'.reader = .start := by
  unfold Lane.pollReadFrame at polled
  by_cases arrives : carried answers <+: l.link.wire
  · rw [if_pos arrives] at polled
    cases poll : (pollRead cipher l.link.reader l.reader.wants answers).poll with
    | pending =>
        simp only [poll] at polled
        cases polled
    | failed error =>
        simp only [poll] at polled
        cases polled
    | done bytes =>
        simp only [poll, Option.some.injEq] at polled
        have fresh := takeBytes_message (congrArg Prod.snd polled)
        rw [polled] at fresh
        exact fresh
  · rw [if_neg arrives] at polled
    cases polled

/-! ### What a poll leaves alone -/

/-- Nothing is read between the two: no byte is consumed and no frame decoded. -/
structure Unread (l l' : Lane S R) : Prop where
  reader : l'.reader = l.reader
  read : l'.read = l.read
  delivered : l'.link.delivered = l.link.delivered

/-- Nothing is written between the two: no frame is begun, and no byte is taken by the
link or by its inner stream. -/
structure Unwritten (l l' : Lane S R) : Prop where
  begun : l'.begun = l.begun
  writing : l'.writing = l.writing
  writer : l'.link.writer = l.link.writer
  reported : l'.link.reported = l.link.reported
  wire : l'.link.wire <:+ l.link.wire

theorem Unread.refl (l : Lane S R) : l.Unread l := ⟨rfl, rfl, rfl⟩

theorem Unwritten.refl (l : Lane S R) : l.Unwritten l := ⟨rfl, rfl, rfl, rfl, List.suffix_rfl⟩

theorem Unread.trans {l₁ l₂ l₃ : Lane S R} (first : l₁.Unread l₂) (second : l₂.Unread l₃) :
    l₁.Unread l₃ :=
  ⟨second.reader.trans first.reader, second.read.trans first.read,
    second.delivered.trans first.delivered⟩

theorem Unwritten.trans {l₁ l₂ l₃ : Lane S R} (first : l₁.Unwritten l₂)
    (second : l₂.Unwritten l₃) : l₁.Unwritten l₃ :=
  ⟨second.begun.trans first.begun, second.writing.trans first.writing,
    second.writer.trans first.writer, second.reported.trans first.reported,
    second.wire.trans first.wire⟩

/-- What was read stays intact while nothing is read. -/
theorem Unread.intact {l l' : Lane S R} (unread : l.Unread l') (intact : l.Intact) : l'.Intact := by
  unfold Intact
  rw [unread.delivered, unread.reader, unread.read]
  exact intact

theorem beginFrame_unread (l : Lane S R) (m : Message) : l.Unread (l.beginFrame codec m) := by
  unfold Lane.beginFrame
  cases writeFrame codec m with
  | none => exact .refl l
  | some bytes => exact ⟨rfl, rfl, rfl⟩

theorem pollWriteFrame_unread {answers : List (Poll Nat)} {innerFlush : Poll Unit}
    {moved : Lane S R × WriteProgress}
    (polled : l.pollWriteFrame cipher answers innerFlush = some moved) : l.Unread moved.1 := by
  unfold Lane.pollWriteFrame at polled
  cases here : l.writing with
  | none =>
      rw [here] at polled
      cases polled
  | some w =>
      rw [here] at polled
      by_cases spent : w.buffer = []
      · simp only [spent, if_true] at polled
        cases polled
        unfold Lane.pollFlush
        cases poll : (Noise.pollFlush l.link.writer answers innerFlush).poll <;>
          simp only [poll] <;> exact ⟨rfl, rfl, rfl⟩
      · simp only [spent, if_false] at polled
        cases polled
        unfold Lane.pollFrame
        cases poll : (pollWrite cipher l.link.writer w.buffer answers).poll with
        | pending => exact ⟨rfl, rfl, rfl⟩
        | failed error => exact ⟨rfl, rfl, rfl⟩
        | done count =>
            simp only
            split <;> exact ⟨rfl, rfl, rfl⟩

theorem takeBytes_unwritten (l : Lane S R) (bytes : Bytes) :
    l.Unwritten (l.takeBytes codec bytes).1 := by
  unfold Lane.takeBytes
  by_cases ended : bytes = []
  · rw [if_pos ended]
    exact .refl l
  · rw [if_neg ended]
    cases l.reader.feed bytes with
    | more reader => exact ⟨rfl, rfl, rfl, rfl, List.suffix_rfl⟩
    | invalid length => exact .refl l
    | done payload =>
        simp only
        split <;> exact ⟨rfl, rfl, rfl, rfl, List.suffix_rfl⟩

theorem pollReadFrame_unwritten {answers : List Arrival} {moved : Lane S R × ReadProgress}
    (polled : l.pollReadFrame cipher codec answers = some moved) : l.Unwritten moved.1 := by
  unfold Lane.pollReadFrame at polled
  by_cases arrives : carried answers <+: l.link.wire
  · rw [if_pos arrives] at polled
    have pulled : l.Unwritten { l with link := l.link.read cipher l.reader.wants answers } :=
      ⟨rfl, rfl, rfl, rfl, List.drop_suffix ..⟩
    cases poll : (pollRead cipher l.link.reader l.reader.wants answers).poll with
    | pending =>
        simp only [poll] at polled
        cases polled
        exact pulled
    | failed error =>
        simp only [poll] at polled
        cases polled
        exact pulled
    | done bytes =>
        simp only [poll] at polled
        cases polled
        exact pulled.trans (takeBytes_unwritten _ bytes)
  · rw [if_neg arrives] at polled
    cases polled

/-! ### What the reading end has -/

/-- The bytes of the frames read all went through `poll_write`. -/
theorem Sound.passed (sound : l.Sound cipher codec s₀ r₀) :
    frames l.read <+: l.link.reported ++ l.link.chunk :=
  sound.heard.trans sound.link.ordered

/-- The frames are read as they were begun. -/
theorem Sound.ordered (sound : l.Sound cipher codec s₀ r₀) : l.read <+: l.payloads codec := by
  have passed : l.link.reported ++ l.link.chunk <+: frames (l.payloads codec) := by
    have written := sound.written
    unfold Written at written
    cases here : l.writing with
    | none =>
        rw [here] at written
        rw [written.1, written.2, List.append_nil]
    | some w =>
        rw [here] at written
        rw [← written.1]
        exact List.prefix_append_right_inj _ |>.mpr (written.2.trans w.buffer_prefix)
  have stream : frames l.read ++ [] <+: frames (l.payloads codec) ++ [] := by
    rw [List.append_nil, List.append_nil]
    exact sound.passed.trans passed
  obtain ⟨later, split, -⟩ := frames_prefix stream sound.readFits sound.sentFits (.inr rfl)
  exact ⟨later, split.symm⟩

/-- The messages received are the first messages begun, where the JSON text reads back. -/
theorem Sound.received (sound : l.Sound cipher codec s₀ r₀)
    (reads : ∀ m ∈ l.begun, codec.decode (codec.encode m) = some m) :
    l.received codec <+: l.begun ∧ (l.received codec).map codec.encode = l.read := by
  have back (messages : List Message) (inside : messages <+: l.begun) :
      (messages.map codec.encode).filterMap codec.decode = messages := by
    induction messages using List.reverseRecOn with
    | nil => rfl
    | append_singleton messages m ih =>
        have here : m ∈ l.begun := inside.subset (by simp)
        have earlier := ih ((List.prefix_append ..).trans inside)
        simp only [List.map_append, List.filterMap_append, earlier]
        simp [reads m here]
  have first := List.take_prefix l.read.length l.begun
  have taken : l.read = (l.begun.take l.read.length).map codec.encode := by
    rw [List.map_take]
    exact List.prefix_iff_eq_take.mp sound.ordered
  have same : l.received codec = l.begun.take l.read.length := by
    calc l.received codec
        = ((l.begun.take l.read.length).map codec.encode).filterMap codec.decode :=
          congrArg (List.filterMap codec.decode) taken
      _ = l.begun.take l.read.length := back _ first
  rw [same]
  exact ⟨first, taken.symm⟩

end Lane

end RustSsh.Channel
