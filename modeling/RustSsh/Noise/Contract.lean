/-
# Noise.Contract -- the write contract for any caller

A caller may pass any buffer after a write that was pending, flush in between, or give the
write up.  The bytes of its buffers are bytes of its data, told apart by their places
(`Datum`): a retry, of the whole buffer or of a piece, passes places it has passed before.
`Use` is a link with the data that went out (`out`), which with the chunk still queued is
what the peer reads (`Use.Delivers`), and what of it a flush or shutdown sent while its
write was pending, without telling anybody (`untold`).  A call keeps the `Contract` if what
it reports is the start of its own buffer and is what went out in it, and if it sends
nothing untold again.  `write_contract` says when all calls of a run do.
-/
import RustSsh.Noise.Link

namespace RustSsh.Noise

open RustSsh.Theory

set_option autoImplicit false

variable {S R : Type}

/-- The chunk the call encrypts and queues. -/
def Link.encrypts (cipher : Cipher S R) (l : Link S R) : Call → Option Bytes
  | .write buffer _ =>
      if l.writer.pendingWrite.isSome ∨ buffer = [] then none
      else
        match cipher.writeMessage l.writer.sending (buffer.take maxPlaintextChunk) with
        | .ok _ => some (buffer.take maxPlaintextChunk)
        | .error _ => none
  | _ => none

/-- A byte of what the caller has to send.  Equal bytes at different places are different
data; a retry passes the same data again. -/
structure Datum where
  place : Nat
  byte : UInt8
  deriving DecidableEq, Repr

def bytes (data : List Datum) : Bytes := data.map (·.byte)

@[simp] theorem bytes_nil : bytes [] = [] := rfl

@[simp] theorem bytes_append (xs ys : List Datum) : bytes (xs ++ ys) = bytes xs ++ bytes ys :=
  List.map_append

@[simp] theorem bytes_length (data : List Datum) : (bytes data).length = data.length :=
  List.length_map _

theorem bytes_take (data : List Datum) (count : Nat) :
    bytes (data.take count) = (bytes data).take count :=
  List.map_take

/-- A link and what its caller can go by. -/
structure Use (S R : Type) where
  link : Link S R
  /-- the data of the chunks that went out whole -/
  out : List Datum
  /-- the data of the chunk still queued -/
  chunk : List Datum
  /-- the data that went out by a flush or shutdown while its write was pending -/
  untold : List Datum
  deriving DecidableEq, Repr

namespace Use

/-- A call with the places of its buffer. -/
inductive Act where
  | write (data : List Datum) (answers : List (Poll Nat))
  | flush (answers : List (Poll Nat)) (innerFlush : Poll Unit)
  | shutdown (answers : List (Poll Nat)) (innerShutdown : Poll Unit)
  | read (size : Nat) (answers : List Arrival)
  deriving DecidableEq, Repr

def Act.call : Act → Call
  | .write data answers => .write (bytes data) answers
  | .flush answers innerFlush => .flush answers innerFlush
  | .shutdown answers innerShutdown => .shutdown answers innerShutdown
  | .read size answers => .read size answers

def start (s₀ : S) (r₀ : R) : Use S R := ⟨Link.start s₀ r₀, [], [], []⟩

/-- The data the call encrypts and queues. -/
def encrypts (cipher : Cipher S R) (u : Use S R) : Act → List Datum
  | .write data answers =>
      if (u.link.encrypts cipher (.write (bytes data) answers)).isSome then
        data.take maxPlaintextChunk
      else []
  | _ => []

/-- What of the data that goes out in the call its writer is not told. -/
def Act.hides (sent : List Datum) : Act → List Datum
  | .flush .. => sent
  | .shutdown .. => sent
  | _ => []

/-- The books after a call that leaves `link`: what was queued or is encrypted goes out, or
is queued now. -/
def after (cipher : Cipher S R) (u : Use S R) (act : Act) (link : Link S R) : Use S R :=
  let moved := u.chunk ++ u.encrypts cipher act
  if link.writer.pendingWrite.isSome then { u with link, chunk := moved }
  else { link, out := u.out ++ moved, chunk := [], untold := u.untold ++ act.hides moved }

def step (cipher : Cipher S R) (u : Use S R) (act : Act) : Option (Use S R) :=
  (u.link.step cipher act.call).map (u.after cipher act)

/-- What a write reports is the start of its own buffer and went out in the call; and it
puts nothing untold on its way again. -/
def Contract (cipher : Cipher S R) (u : Use S R) : Act → Prop
  | .write data answers =>
      let u' := u.after cipher (.write data answers) (u.link.write cipher (bytes data) answers)
      (∀ count, (pollWrite cipher u.link.writer (bytes data) answers).poll = .done count →
        count ≤ data.length ∧ bytes u'.out = bytes u.out ++ (bytes data).take count) ∧
      ∀ datum ∈ u.untold,
        (u'.out ++ u'.chunk).count datum = (u.out ++ u.chunk).count datum
  | _ => True

/-- A write that completes an earlier call's chunk has a buffer that starts with it; and a
first chunk with anything untold in it, passed while nothing is queued, is one the cipher
refuses. -/
def Careful (cipher : Cipher S R) (u : Use S R) : Act → Prop
  | .write data answers =>
      (∀ pending, u.link.writer.pendingWrite = some pending →
        takesAll pending.left.length answers = true → bytes u.chunk <+: bytes data) ∧
      (u.link.writer.pendingWrite = none →
        (∃ datum ∈ data.take maxPlaintextChunk, datum ∈ u.untold) →
        ∃ error, cipher.writeMessage u.link.writer.sending ((bytes data).take maxPlaintextChunk) =
          .error error)
  | _ => True

/-- What went out and the chunk still queued are the plaintext the peer has read, has
decrypted and is still to receive. -/
def PeerReads (cipher : Cipher S R) (s₀ : S) (r₀ : R) (u : Use S R) : Prop :=
  ∃ opened flight, Link.Carries cipher s₀ r₀ u.link opened flight ∧
    plain (opened ++ flight) = bytes (u.out ++ u.chunk)

/-- What the peer can rely on: it reads what went out and the chunk on its way, in order, and
with nothing on its way enough reads get it all. -/
structure Delivers (cipher : Cipher S R) (u : Use S R) : Prop where
  ordered : u.link.delivered <+: bytes (u.out ++ u.chunk)
  complete : u.link.wire = [] → u.link.writer.pendingWrite = none →
    ∀ (reads : List (Nat × List Arrival)) l', (∀ read ∈ reads, 0 < read.1) →
      exec (Link.step cipher) u.link (reads.map fun read => .read read.1 read.2) = some l' →
      u.out.length ≤ u.link.delivered.length + reads.length → l'.delivered = bytes u.out

/-- The books agree with the link about the queued chunk. -/
structure Tracked (u : Use S R) : Prop where
  chunk : bytes u.chunk = u.link.chunk
  idle : u.link.writer.pendingWrite = none → u.chunk = []
  length : ∀ pending, u.link.writer.pendingWrite = some pending →
    pending.plaintextLen = u.chunk.length

variable {cipher : Cipher S R} {s₀ : S} {r₀ : R} {u u' : Use S R}

theorem tracked_start (s₀ : S) (r₀ : R) : (start s₀ r₀).Tracked := by
  refine ⟨rfl, fun _ => rfl, ?_⟩
  intro pending here
  cases here

theorem peerReads_start (cipher : Cipher S R) (s₀ : S) (r₀ : R) :
    (start s₀ r₀).PeerReads cipher s₀ r₀ :=
  ⟨[], [], Link.carries_start cipher s₀ r₀, rfl⟩

@[simp] theorem after_link (u : Use S R) (act : Act) (l' : Link S R) :
    (u.after cipher act l').link = l' := by
  unfold after
  split <;> rfl

/-- A call that leaves a chunk queued sends nothing. -/
theorem after_queued {act : Act} {l' : Link S R} (queued : l'.writer.pendingWrite.isSome = true) :
    u.after cipher act l' = { u with link := l', chunk := u.chunk ++ u.encrypts cipher act } := by
  simp [after, queued]

/-- One that leaves none queued sends all there is. -/
theorem after_idle {act : Act} {l' : Link S R} (idle : l'.writer.pendingWrite = none) :
    u.after cipher act l' =
      { link := l', out := u.out ++ (u.chunk ++ u.encrypts cipher act), chunk := [],
        untold := u.untold ++ act.hides (u.chunk ++ u.encrypts cipher act) } := by
  simp [after, idle]

/-- A call adds to what went out or is queued what it encrypts. -/
theorem after_stream (u : Use S R) (act : Act) (l' : Link S R) :
    (u.after cipher act l').out ++ (u.after cipher act l').chunk =
      u.out ++ u.chunk ++ u.encrypts cipher act := by
  unfold after
  split
  · exact (List.append_assoc ..).symm
  · simp

theorem bytes_encrypts (cipher : Cipher S R) (u : Use S R) (act : Act) :
    bytes (u.encrypts cipher act) = (u.link.encrypts cipher act.call).getD [] := by
  cases act with
  | write data answers =>
      cases chunk : u.link.encrypts cipher (.write (bytes data) answers) with
      | none => simp [encrypts, Act.call, chunk]
      | some chunk' =>
          have same : chunk' = (bytes data).take maxPlaintextChunk := by
            simp only [Link.encrypts] at chunk
            split at chunk
            · cases chunk
            · split at chunk
              · exact (Option.some.inj chunk).symm
              · cases chunk
          simp [encrypts, Act.call, chunk, same, bytes_take]
  | flush answers innerFlush => rfl
  | shutdown answers innerShutdown => rfl
  | read size answers => rfl

end Use

/-! ## What a call does to the books -/

namespace Link

variable {cipher : Cipher S R} {l : Link S R}

/-- The five ways of a `poll_write`: the chunk queued behind it, what was encrypted, and
what it reports. -/
inductive Effect (cipher : Cipher S R) (l : Link S R) (buffer : Bytes) (answers : List (Poll Nat)) :
    Option PendingWrite → Bytes → Option Bytes → Poll Nat → Prop where
  /-- an earlier chunk goes out and is reported -/
  | resumed {pending : PendingWrite} (queued : l.writer.pendingWrite = some pending)
      (all : takesAll pending.left.length answers = true) :
      Effect cipher l buffer answers none [] none (.done pending.plaintextLen)
  /-- an earlier chunk stays queued -/
  | waiting {pending : PendingWrite} {offset : Nat} {poll : Poll Nat}
      (queued : l.writer.pendingWrite = some pending)
      (short : takesAll pending.left.length answers = false) (unfinished : ∀ count, poll ≠ .done count) :
      Effect cipher l buffer answers (some { pending with offset }) l.chunk none poll
  /-- nothing to write, or the cipher refused -/
  | nothing {poll : Poll Nat} (idle : l.writer.pendingWrite = none)
      (zero : ∀ count, poll = .done count → count = 0) :
      Effect cipher l buffer answers none [] none poll
  /-- a chunk of this buffer goes out at once -/
  | sent (idle : l.writer.pendingWrite = none) :
      Effect cipher l buffer answers none [] (some (buffer.take maxPlaintextChunk))
        (.done (buffer.take maxPlaintextChunk).length)
  /-- a chunk of this buffer is queued -/
  | queued {pending : PendingWrite} {poll : Poll Nat} (idle : l.writer.pendingWrite = none)
      (length : pending.plaintextLen = (buffer.take maxPlaintextChunk).length)
      (unfinished : ∀ count, poll ≠ .done count) :
      Effect cipher l buffer answers (some pending) (buffer.take maxPlaintextChunk)
        (some (buffer.take maxPlaintextChunk)) poll

theorem reportQueued_unfinished {poll : Poll (Option Nat)} (unfinished : ∀ count, poll ≠ .done count)
    (count : Nat) : reportQueued poll ≠ .done count := by
  cases poll with
  | done other => exact absurd rfl (unfinished other)
  | pending => simp [reportQueued]
  | failed error => simp [reportQueued]

theorem write_effect (formed : l.writer.WellFormed) (buffer : Bytes) (answers : List (Poll Nat)) :
    Effect cipher l buffer answers (l.write cipher buffer answers).writer.pendingWrite
      (l.write cipher buffer answers).chunk (l.encrypts cipher (.write buffer answers))
      (pollWrite cipher l.writer buffer answers).poll := by
  have wrote := pollWrite_wrote cipher formed buffer answers
  unfold Link.write
  generalize pollWrite cipher l.writer buffer answers = ret at wrote ⊢
  cases wrote with
  | resumed queued pushed =>
      have silent : l.encrypts cipher (.write buffer answers) = none := by simp [encrypts, queued]
      rw [silent]
      cases pushed with
      | completed all => exact .resumed queued all
      | stuck short inside sends unfinished =>
          simp only [queued, Option.isNone_some, Bool.false_eq_true, if_false]
          exact .waiting queued short (reportQueued_unfinished unfinished)
  | nothing idle empty =>
      have silent : l.encrypts cipher (.write buffer answers) = none := by simp [encrypts, empty]
      simp only [silent, idle, Option.isNone_none, if_true]
      exact .nothing idle (by simp)
  | refused idle message =>
      have silent : l.encrypts cipher (.write buffer answers) = none := by
        simp [encrypts, message]
      simp only [silent, idle, Option.isNone_none, if_true]
      exact .nothing idle (by simp)
  | encrypted idle nonempty message pushed =>
      have takes : l.encrypts cipher (.write buffer answers) =
          some (buffer.take maxPlaintextChunk) := by
        simp [encrypts, idle, nonempty, message]
      rw [takes]
      cases pushed with
      | completed all => exact .sent idle
      | stuck short inside sends unfinished =>
          simp only [idle, Option.isNone_some, Option.isNone_none, Bool.false_eq_true, if_true, if_false]
          exact .queued idle rfl (reportQueued_unfinished unfinished)

/-- Whatever the buffer, a write puts the chunk it encrypts in flight and moves wire bytes. -/
theorem Carries.writes {s₀ : S} {r₀ : R} {opened flight : List Encrypted}
    (inverts : cipher.Inverts s₀ r₀) (carries : Carries cipher s₀ r₀ l opened flight)
    (buffer : Bytes) (answers : List (Poll Nat)) :
    ∃ flight', Carries cipher s₀ r₀ (l.write cipher buffer answers) opened flight' ∧
      plain flight' = plain flight ++ (l.encrypts cipher (.write buffer answers)).getD [] := by
  have wrote := pollWrite_wrote cipher carries.writer buffer answers
  unfold Link.write
  generalize pollWrite cipher l.writer buffer answers = ret at wrote ⊢
  cases wrote with
  | resumed queued pushed =>
      refine ⟨flight, carries.push queued pushed rfl rfl rfl rfl, ?_⟩
      simp [encrypts, queued]
  | nothing idle empty =>
      refine ⟨flight, ?_, by simp [encrypts, empty]⟩
      simp only [List.append_nil]
      exact ⟨carries.feeds, carries.delivered, carries.writer⟩
  | refused idle message =>
      refine ⟨flight, ?_, by simp [encrypts, message]⟩
      simp only [List.append_nil]
      exact ⟨carries.feeds, carries.delivered, carries.writer⟩
  | encrypted idle nonempty message pushed =>
      have chunk_ne : buffer.take maxPlaintextChunk ≠ [] := by
        simp [nonempty, maxPlaintextChunk]
      have mid := carries.encrypt inverts idle (buffer.take maxPlaintextChunk).length
        chunk_ne (List.length_take_le ..) message
      refine ⟨_, mid.push rfl pushed rfl rfl rfl rfl, ?_⟩
      simp [encrypts, idle, nonempty, message, plain]

/-- A flush or shutdown leaves nothing queued, or what was. -/
theorem finish_effect (formed : l.writer.WellFormed) (answers : List (Poll Nat)) (inner : Poll Unit) :
    ((l.finish (afterPendingWrite l.writer answers inner)).writer.pendingWrite = none ∧
      (l.finish (afterPendingWrite l.writer answers inner)).chunk = []) ∨
    ∃ pending offset, l.writer.pendingWrite = some pending ∧
      (l.finish (afterPendingWrite l.writer answers inner)).writer.pendingWrite =
        some { pending with offset } ∧
      (l.finish (afterPendingWrite l.writer answers inner)).chunk = l.chunk := by
  have finished := afterPendingWrite_finished formed answers inner
  unfold Link.finish
  generalize afterPendingWrite l.writer answers inner = ret at finished ⊢
  cases finished with
  | idle idle => exact .inl ⟨idle, by simp [idle]⟩
  | pushed queued pushed =>
      cases pushed with
      | completed all => exact .inl ⟨rfl, rfl⟩
      | stuck short inside sends unfinished => exact .inr ⟨_, _, queued, rfl, rfl⟩

end Link

namespace Use

variable {cipher : Cipher S R} {s₀ : S} {r₀ : R} {u u' : Use S R}

theorem Tracked.write (tracked : u.Tracked) (formed : u.link.writer.WellFormed) (data : List Datum)
    (answers : List (Poll Nat)) :
    (u.after cipher (.write data answers) (u.link.write cipher (bytes data) answers)).Tracked := by
  obtain ⟨same, idle, length⟩ := tracked
  have effect : Link.Effect cipher .. := Link.write_effect formed (bytes data) answers
  have encrypted := bytes_encrypts cipher u (.write data answers)
  simp only [Act.call] at encrypted
  generalize (pollWrite cipher u.link.writer (bytes data) answers).poll = poll at effect
  generalize u.link.write cipher (bytes data) answers = l' at effect ⊢
  generalize behind : l'.writer.pendingWrite = pendingWrite at effect
  generalize left : l'.chunk = chunk at effect
  generalize u.link.encrypts cipher (.write (bytes data) answers) = taken at effect encrypted
  have emptied (none : pendingWrite = none) (nothing : chunk = []) :
      (u.after cipher (.write data answers) l').Tracked := by
    rw [after_idle (behind.trans none)]
    refine ⟨(left.trans nothing).symm, fun _ => rfl, ?_⟩
    intro pending here
    rw [show l'.writer.pendingWrite = _ from behind, none] at here
    cases here
  have held {pending : PendingWrite} (some : pendingWrite = some pending)
      (stays : bytes (u.chunk ++ u.encrypts cipher (.write data answers)) = chunk)
      (long : pending.plaintextLen = chunk.length) :
      (u.after cipher (.write data answers) l').Tracked := by
    rw [after_queued (by simp [behind, some])]
    refine ⟨stays.trans left.symm, ?_, ?_⟩
    · intro none
      rw [show l'.writer.pendingWrite = _ from behind, some] at none
      cases none
    · intro other here
      rw [show l'.writer.pendingWrite = _ from behind, some] at here
      cases here
      rw [long, ← stays, bytes_length]
  cases effect with
  | resumed pending all => exact emptied rfl rfl
  | @waiting pending offset _ queued short unfinished =>
      apply held rfl
      · simp [encrypted, same]
      · show pending.plaintextLen = _
        rw [length pending queued, ← same, bytes_length]
  | nothing none zero => exact emptied rfl rfl
  | sent none => exact emptied rfl rfl
  | queued none long unfinished =>
      apply held rfl
      · simp [encrypted, idle none]
      · exact long

theorem Tracked.finish (tracked : u.Tracked) (formed : u.link.writer.WellFormed)
    (answers : List (Poll Nat)) (inner : Poll Unit) {act : Act} (silent : u.encrypts cipher act = []) :
    (u.after cipher act (u.link.finish (afterPendingWrite u.link.writer answers inner))).Tracked := by
  obtain ⟨same, idle, length⟩ := tracked
  have effect := Link.finish_effect formed answers inner
  generalize u.link.finish (afterPendingWrite u.link.writer answers inner) = l' at effect ⊢
  cases effect with
  | inl emptied =>
      obtain ⟨none, left⟩ := emptied
      rw [after_idle none]
      refine ⟨left.symm, fun _ => rfl, ?_⟩
      intro pending here
      rw [show l'.writer.pendingWrite = _ from none] at here
      cases here
  | inr stuck =>
      obtain ⟨pending, offset, here, after, left⟩ := stuck
      rw [after_queued (by simp [after]), silent, List.append_nil]
      refine ⟨same.trans left.symm, ?_, ?_⟩
      · intro none
        rw [show l'.writer.pendingWrite = _ from after] at none
        cases none
      · intro other here'
        rw [show l'.writer.pendingWrite = _ from after] at here'
        cases here'
        exact length pending here

theorem Tracked.read (tracked : u.Tracked) (size : Nat) (answers : List Arrival) :
    (u.after cipher (.read size answers) (u.link.read cipher size answers)).Tracked := by
  obtain ⟨same, idle, length⟩ := tracked
  cases behind : u.link.writer.pendingWrite with
  | none =>
      rw [after_idle (show (u.link.read cipher size answers).writer.pendingWrite = none from behind)]
      refine ⟨?_, fun _ => rfl, ?_⟩
      · show bytes [] = u.link.chunk
        rw [← same, idle behind]
      · intro pending here
        rw [show u.link.writer.pendingWrite = _ from here] at behind
        cases behind
  | some pending =>
      have queued : (u.link.read cipher size answers).writer.pendingWrite.isSome = true := by
        show u.link.writer.pendingWrite.isSome = true
        rw [behind]
        rfl
      rw [after_queued queued]
      simp only [encrypts, List.append_nil]
      exact ⟨same, idle, length⟩

theorem Tracked.step (tracked : u.Tracked) (formed : u.link.writer.WellFormed) {act : Act}
    (taken : u.step cipher act = some u') : u'.Tracked := by
  obtain ⟨l', next, rfl⟩ := Option.map_eq_some_iff.mp taken
  cases act with
  | write data answers =>
      cases next
      exact tracked.write formed data answers
  | flush answers innerFlush =>
      cases next
      exact tracked.finish formed answers innerFlush rfl
  | shutdown answers innerShutdown =>
      cases next
      exact tracked.finish formed answers innerShutdown rfl
  | read size answers =>
      simp only [Act.call, Link.step] at next
      split at next <;> cases next
      exact tracked.read size answers

/-! ## What the peer reads -/

/-- A call puts in flight what it encrypts, and the peer's messages are those of the stream. -/
theorem PeerReads.step (inverts : cipher.Inverts s₀ r₀) (reads : u.PeerReads cipher s₀ r₀)
    {act : Act} (taken : u.step cipher act = some u') : u'.PeerReads cipher s₀ r₀ := by
  obtain ⟨l', next, rfl⟩ := Option.map_eq_some_iff.mp taken
  obtain ⟨opened, flight, carries, same⟩ := reads
  have follow {opened' flight' : List Encrypted} (carries' : Link.Carries cipher s₀ r₀ l' opened' flight')
      (more : plain (opened' ++ flight') =
        plain (opened ++ flight) ++ (u.link.encrypts cipher act.call).getD []) :
      (u.after cipher act l').PeerReads cipher s₀ r₀ := by
    refine ⟨opened', flight', ?_, ?_⟩
    · rw [after_link]
      exact carries'
    · rw [after_stream, bytes_append, bytes_encrypts, ← same, more]
  cases act with
  | write data answers =>
      cases next
      obtain ⟨flight', carries', more⟩ := carries.writes inverts (bytes data) answers
      apply follow carries'
      rw [plain_append, more, plain_append, List.append_assoc]
      rfl
  | flush answers innerFlush =>
      cases next
      exact follow (carries.finish answers innerFlush) (List.append_nil _).symm
  | shutdown answers innerShutdown =>
      cases next
      exact follow (carries.finish answers innerShutdown) (List.append_nil _).symm
  | read size answers =>
      simp only [Act.call, Link.step] at next
      split at next
      · rename_i arrives
        cases next
        obtain ⟨newly, later, split, carries'⟩ := carries.reads inverts size arrives
        apply follow carries'
        rw [List.append_assoc, ← split]
        exact (List.append_nil _).symm
      · cases next

/-! ## The contract -/

/-- A whole chunk that goes out is the start of a buffer exactly if the buffer starts with it. -/
theorem prefix_iff_told {chunk buffer out : Bytes} :
    chunk.length ≤ buffer.length ∧ out ++ chunk = out ++ buffer.take chunk.length ↔
      chunk <+: buffer := by
  rw [List.append_cancel_left_eq, ← List.prefix_iff_eq_take]
  exact ⟨And.right, fun starts => ⟨starts.length_le, starts⟩⟩

/-- What a write reports is the start of its buffer, unless it reports an earlier chunk that
is not. -/
theorem told_iff (tracked : u.Tracked) (formed : u.link.writer.WellFormed) {data : List Datum}
    {answers : List (Poll Nat)} :
    (∀ count, (pollWrite cipher u.link.writer (bytes data) answers).poll = .done count →
      count ≤ data.length ∧
        bytes (u.after cipher (.write data answers)
          (u.link.write cipher (bytes data) answers)).out =
            bytes u.out ++ (bytes data).take count) ↔
    ∀ pending, u.link.writer.pendingWrite = some pending →
      takesAll pending.left.length answers = true → bytes u.chunk <+: bytes data := by
  have effect : Link.Effect cipher .. := Link.write_effect formed (bytes data) answers
  have encrypted := bytes_encrypts cipher u (.write data answers)
  simp only [Act.call] at encrypted
  generalize (pollWrite cipher u.link.writer (bytes data) answers).poll = poll at effect ⊢
  generalize u.link.write cipher (bytes data) answers = l' at effect ⊢
  generalize behind : l'.writer.pendingWrite = pendingWrite at effect
  generalize l'.chunk = left at effect
  generalize u.link.encrypts cipher (.write (bytes data) answers) = taken at effect encrypted
  have gains (none : pendingWrite = none) :
      bytes (u.after cipher (.write data answers) l').out =
        bytes u.out ++ (bytes u.chunk ++ taken.getD []) := by
    rw [after_idle (behind.trans none)]
    simp [encrypted]
  have vacuous (idle : u.link.writer.pendingWrite = none) :
      ∀ pending, u.link.writer.pendingWrite = some pending →
        takesAll pending.left.length answers = true → bytes u.chunk <+: bytes data := by
    intro pending here
    rw [idle] at here
    cases here
  cases effect with
  | @resumed pending here all =>
      have told := @prefix_iff_told (bytes u.chunk) (bytes data) (bytes u.out)
      rw [bytes_length, bytes_length, ← tracked.length pending here] at told
      have gained := gains rfl
      rw [Option.getD_none, List.append_nil] at gained
      rw [gained]
      constructor
      · intro truly _ _ _
        exact told.mp (truly _ rfl)
      · intro starts count reported
        cases reported
        exact told.mpr (starts pending here all)
  | @waiting pending offset _ here short unfinished =>
      constructor
      · intro _ other here' all
        rw [here] at here'
        cases here'
        rw [short] at all
        cases all
      · intro _ count reported
        exact absurd reported (unfinished count)
  | nothing idle zero =>
      refine ⟨fun _ => vacuous idle, ?_⟩
      intro _ count reported
      rw [zero count reported, gains rfl, tracked.idle idle]
      simp
  | sent idle =>
      refine ⟨fun _ => vacuous idle, ?_⟩
      intro _ count reported
      cases reported
      refine ⟨?_, ?_⟩
      · rw [← bytes_length data]
        exact List.length_take_le' ..
      · rw [gains rfl, tracked.idle idle]
        simp
  | queued idle length unfinished =>
      refine ⟨fun _ => vacuous idle, ?_⟩
      intro _ count reported
      exact absurd reported (unfinished count)

/-- Nothing untold is on its way again exactly if nothing untold is encrypted. -/
theorem once_iff {act : Act} {l' : Link S R} :
    (∀ datum ∈ u.untold,
      ((u.after cipher act l').out ++ (u.after cipher act l').chunk).count datum =
        (u.out ++ u.chunk).count datum) ↔
    ∀ datum ∈ u.encrypts cipher act, datum ∉ u.untold := by
  rw [after_stream]
  constructor
  · intro same datum sent untold
    have more := same datum untold
    rw [List.count_append, Nat.add_eq_left] at more
    exact List.count_eq_zero.mp more sent
  · intro fresh datum untold
    rw [List.count_append, Nat.add_eq_left]
    apply List.count_eq_zero.mpr
    intro sent
    exact fresh datum sent untold

/-- What a write encrypts is its buffer's first chunk, unless one is queued or the cipher
refuses. -/
theorem fresh_iff {data : List Datum} {answers : List (Poll Nat)} :
    (∀ datum ∈ u.encrypts cipher (.write data answers), datum ∉ u.untold) ↔
    (u.link.writer.pendingWrite = none →
      (∃ datum ∈ data.take maxPlaintextChunk, datum ∈ u.untold) →
      ∃ error, cipher.writeMessage u.link.writer.sending ((bytes data).take maxPlaintextChunk) =
        .error error) := by
  constructor
  · intro fresh idle again
    obtain ⟨datum, inside, untold⟩ := again
    cases message : cipher.writeMessage u.link.writer.sending
        ((bytes data).take maxPlaintextChunk) with
    | error error => exact ⟨error, rfl⟩
    | ok sealed =>
        have nonempty : bytes data ≠ [] := by
          intro empty
          rw [List.map_eq_nil_iff.mp empty] at inside
          cases inside
        refine absurd untold (fresh datum ?_)
        simp only [encrypts, Link.encrypts, idle, message, nonempty]
        simpa using inside
  · intro careful datum sent untold
    cases behind : u.link.writer.pendingWrite with
    | some pending => simp [encrypts, Link.encrypts, behind] at sent
    | none =>
        have inside : datum ∈ data.take maxPlaintextChunk := by
          simp only [encrypts] at sent
          split at sent
          · exact sent
          · cases sent
        obtain ⟨error, refused⟩ := careful behind ⟨datum, inside, untold⟩
        simp [encrypts, Link.encrypts, refused] at sent

/-- A write keeps the contract exactly if the caller is careful. -/
theorem contract_iff (tracked : u.Tracked) (formed : u.link.writer.WellFormed) (act : Act) :
    u.Contract cipher act ↔ u.Careful cipher act := by
  cases act with
  | flush answers innerFlush => exact Iff.rfl
  | shutdown answers innerShutdown => exact Iff.rfl
  | read size answers => exact Iff.rfl
  | write data answers =>
      exact and_congr (told_iff tracked formed) (once_iff.trans fresh_iff)

theorem run_tracked (inverts : cipher.Inverts s₀ r₀) {acts : List Act}
    (run : exec (step cipher) (start s₀ r₀) acts = some u) :
    u.Tracked ∧ u.PeerReads cipher s₀ r₀ := by
  have reached : Reached (step cipher) (start s₀ r₀) u := ⟨acts, run⟩
  apply reached.invariant (I := fun u => u.Tracked ∧ u.PeerReads cipher s₀ r₀)
  · exact ⟨tracked_start s₀ r₀, peerReads_start cipher s₀ r₀⟩
  · intro u act u' holds taken
    obtain ⟨tracked, reads⟩ := holds
    refine ⟨?_, PeerReads.step inverts reads taken⟩
    obtain ⟨opened, flight, carries, same⟩ := reads
    exact tracked.step carries.writer taken

theorem PeerReads.delivers (inverts : cipher.Inverts s₀ r₀) (reads : u.PeerReads cipher s₀ r₀)
    (tracked : u.Tracked) : u.Delivers cipher := by
  obtain ⟨opened, flight, carries, same⟩ := reads
  constructor
  · rw [← same]
    exact carries.ordered
  · intro empty idle reads l' positive run enough
    rw [tracked.idle idle, List.append_nil] at same
    rw [← bytes_length, ← same] at enough
    rw [← same]
    exact carries.complete inverts empty idle positive run enough

/-- **The write contract.**  Whatever a caller writes, flushes and gives up, the peer reads
what went out; and every call of the run keeps the contract if and only if the caller is
careful at every call. -/
theorem write_contract (inverts : cipher.Inverts s₀ r₀) {acts : List Act}
    (run : exec (step cipher) (start s₀ r₀) acts = some u) :
    u.Delivers cipher ∧
      (Along (step cipher) (Contract cipher) (start s₀ r₀) acts ↔
        Along (step cipher) (Careful cipher) (start s₀ r₀) acts) := by
  obtain ⟨tracked, reads⟩ := run_tracked inverts run
  refine ⟨reads.delivers inverts tracked, ?_⟩
  have same : ∀ pre mid, exec (step cipher) (start s₀ r₀) pre = some mid →
      ∀ act, mid.Contract cipher act ↔ mid.Careful cipher act := by
    intro pre mid reach act
    obtain ⟨tracked', _, _, carries, _⟩ := run_tracked inverts reach
    exact contract_iff tracked' carries.writer act
  rw [along_iff run, along_iff run]
  constructor
  · intro keeps pre act post mid split reach
    exact (same pre mid reach act).mp (keeps pre act post mid split reach)
  · intro careful pre act post mid split reach
    exact (same pre mid reach act).mpr (careful pre act post mid split reach)

/-- A write is pending, its chunk goes out by a flush, and the next write is of other data. -/
def flushedActs : List Act :=
  [.write [⟨0, 1⟩, ⟨1, 2⟩] [.done 3], .write [⟨0, 1⟩, ⟨1, 2⟩, ⟨2, 3⟩] [], .flush [.done 30] (.done ()),
   .write [⟨2, 3⟩] [.done 30]]

def flushedEnd : Use Nat Nat :=
  (exec (step counterCipher) (start 0 0) flushedActs).get (by decide)

theorem write_contract_flushed :
    flushedEnd.Delivers counterCipher ∧
      (Along (step counterCipher) (Contract counterCipher) (start 0 0) flushedActs ↔
        Along (step counterCipher) (Careful counterCipher) (start 0 0) flushedActs) :=
  write_contract (counterCipher_inverts 0) (Option.some_get _).symm

/-- A write of two bytes is given up; the write after it has one byte and reports two. -/
def givenUp : List Act := [.write [⟨0, 1⟩, ⟨1, 2⟩] [], .write [⟨2, 9⟩] [.done 22]]

/-- A write is flushed out before its retry. -/
def retried : List Act :=
  [.write [⟨0, 1⟩] [], .flush [.done 21] (.done ()), .write [⟨0, 1⟩] [.done 21]]

/-- The same with a retry in two pieces. -/
def retriedInPieces : List Act :=
  [.write [⟨0, 1⟩, ⟨1, 2⟩] [], .flush [.done 22] (.done ()), .write [⟨0, 1⟩] [.done 21],
   .write [⟨1, 2⟩] [.done 21]]

/-- The first caller is told more than its buffer holds, and the other callers' bytes go
out twice. -/
theorem write_contract_broken :
    (∃ u count, exec (step counterCipher) (start 0 0) (givenUp.take 1) = some u ∧
      (pollWrite counterCipher u.link.writer [9] [.done 22]).poll = .done count ∧ 1 < count) ∧
    (∃ u, exec (step counterCipher) (start 0 0) retried = some u ∧ bytes u.out = [1, 1] ∧
      u.link.reported = [1]) ∧
    (∃ u, exec (step counterCipher) (start 0 0) retriedInPieces = some u ∧
      bytes u.out = [1, 2, 1, 2] ∧ u.link.reported = [1, 2]) ∧
    ¬ (∀ (acts : List Act) (u : Use Nat Nat),
      exec (step counterCipher) (start 0 0) acts = some u →
        Along (step counterCipher) (Contract counterCipher) (start 0 0) acts) := by
  refine ⟨?_, ?_, ?_, ?_⟩
  · exact ⟨(exec (step counterCipher) (start 0 0) (givenUp.take 1)).get (by decide), 2,
      (Option.some_get _).symm, by decide, by decide⟩
  · exact ⟨(exec (step counterCipher) (start 0 0) retried).get (by decide),
      (Option.some_get _).symm, by decide, by decide⟩
  · exact ⟨(exec (step counterCipher) (start 0 0) retriedInPieces).get (by decide),
      (Option.some_get _).symm, by decide, by decide⟩
  · intro keeps
    have all := keeps givenUp _ (Option.some_get (by decide)).symm
    exact absurd (all.2.1.1 2 (by decide)).1 (by decide)

end Use

end RustSsh.Noise
