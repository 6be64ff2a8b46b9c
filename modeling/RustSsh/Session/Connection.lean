/-
# Session.Connection -- two ends of an encrypted stream

The bytes of a data connection cross two `Noise.Link`s, one for each direction, with
every cut and suspension those allow.  Which `poll_write` carries which bytes is left
open: a call is given any number of the bytes the end has for its stream, so a frame may
be cut anywhere and may share a Noise frame with the data behind it.

`Sound.ordered` is the result: one end reads the frames the other sent, and behind them
a prefix of the data the other wrote.  It needs that an end reads as many frames as the
other sends before it bridges.
-/
import RustSsh.Noise.Link
import RustSsh.Session.Program
import Mathlib.Logic.Function.Basic

namespace RustSsh.Session

open RustSsh.Theory RustSsh.Protocol RustSsh.Noise

set_option autoImplicit false

/-! ## The connection -/

/-- The end that connected, and the relay's. -/
inductive Side where
  | peer
  | relay
  deriving DecidableEq, Repr

def Side.other : Side → Side
  | .peer => .relay
  | .relay => .peer

@[simp] theorem Side.other_other (side : Side) : side.other.other = side := by
  cases side <;> rfl

theorem Side.other_ne (side : Side) : side.other ≠ side := by
  cases side <;> decide

structure Connection (S R : Type) where
  ends : Side → End
  /-- the direction this side writes -/
  links : Side → Link S R

inductive Op where
  | send
  | talk
  | await
  /-- `poll_write` with `size` of the bytes not reported yet -/
  | write (size : Nat) (answers : List (Poll Nat))
  | flush (answers : List (Poll Nat)) (innerFlush : Poll Unit)
  | shutdown (answers : List (Poll Nat)) (innerShutdown : Poll Unit)
  /-- a poll inside `read_frame` -/
  | readFrame (answers : List Arrival)
  /-- a poll of the copy loop -/
  | readRaw (size : Nat) (answers : List Arrival)
  /-- the copy loop has bytes to write -/
  | produce (bytes : Bytes)
  deriving DecidableEq, Repr

/-- What a side may do before the stream is handed over. -/
def Op.establishes : Op → Bool
  | .await => false
  | .readRaw .. => false
  | .produce _ => false
  | _ => true

namespace Connection

variable {S R : Type}

def start (s₀ : Side → S) (r₀ : Side → R) (program : Side → Program) : Connection S R :=
  { ends := fun side => .start (program side), links := fun side => .start (s₀ side) (r₀ side) }

def setEnd (c : Connection S R) (side : Side) (e : End) : Connection S R :=
  { c with ends := Function.update c.ends side e }

def setLink (c : Connection S R) (side : Side) (l : Link S R) : Connection S R :=
  { c with links := Function.update c.links side l }

/-- What a read of this side's stream gives. -/
def polled (cipher : Cipher S R) (c : Connection S R) (side : Side) (size : Nat)
    (answers : List Arrival) : Poll Bytes :=
  (pollRead cipher (c.links side.other).reader size answers).poll

def pull (cipher : Cipher S R) (c : Connection S R) (side : Side) (size : Nat)
    (answers : List Arrival) : Connection S R :=
  c.setLink side.other ((c.links side.other).read cipher size answers)

def step (cipher : Cipher S R) (codec : Codec) (c : Connection S R) (side : Side) :
    Op → Option (Connection S R)
  | .send =>
      match (c.ends side).program with
      | .send m next => some (c.setEnd side ((c.ends side).send codec m next))
      | _ => none
  | .talk =>
      match (c.ends side).program with
      | .talk next => some (c.setEnd side { c.ends side with program := next, talking := true })
      | _ => none
  | .await =>
      match (c.ends side).program with
      | .await next => some (c.setEnd side { c.ends side with program := next })
      | _ => none
  | .write size answers =>
      let buffer := ((c.ends side).outgoing.drop (c.links side).reported.length).take size
      -- the caller of a pending write calls again with at least its chunk
      if (c.ends side).closed = false ∧ (c.links side).chunk.length ≤ size then
        some (c.setLink side ((c.links side).write cipher buffer answers))
      else none
  | .flush answers innerFlush =>
      -- `write_frame` and the copy loop flush when no write is pending
      if (c.links side).Unfinished answers then
        some (c.setLink side
          ((c.links side).finish (pollFlush (c.links side).writer answers innerFlush)))
      else none
  | .shutdown answers innerShutdown =>
      some ((c.setLink side
        ((c.links side).finish (pollShutdown (c.links side).writer answers innerShutdown))).setEnd
          side { c.ends side with closed := true })
  | .readFrame answers =>
      match (c.ends side).program with
      | .receive next =>
          if carried answers <+: (c.links side.other).wire then
            let size := (c.ends side).reader.wants
            let c' := c.pull cipher side size answers
            match c.polled cipher side size answers with
            | .pending => some c'
            | .failed _ => some (c'.setEnd side { c.ends side with program := .refuse })
            | .done bytes => some (c'.setEnd side ((c.ends side).receive codec next bytes))
          else none
      | _ => none
  | .readRaw size answers =>
      if (c.ends side).program.isBridge ∧ carried answers <+: (c.links side.other).wire then
        some ((c.pull cipher side size answers).setEnd side
          { c.ends side with
            raw := (c.ends side).raw ++ (c.polled cipher side size answers).bytes })
      else none
  | .produce bytes =>
      if (c.ends side).talking ∨ (c.ends side).program.isBridge then
        some (c.setEnd side { c.ends side with data := (c.ends side).data ++ bytes })
      else none

end Connection

/-! ## The invariant -/

section Invariant

variable {S R : Type} (cipher : Cipher S R)

/-- What this link carries is the start of what its end has for it; until that end shuts
the stream down, what was reported is accounted for. -/
def Wired (s₀ : S) (r₀ : R) (l : Link S R) (e : End) : Prop :=
  ∃ opened flight, Link.Carries cipher s₀ r₀ l opened flight ∧
    plain (opened ++ flight) <+: e.outgoing ∧
    (e.closed = false → Link.Accounted l (opened ++ flight))

/-- What this link delivered are the frames its reading end read and what is behind them. -/
def Heard (l : Link S R) (e : End) : Prop :=
  ∃ tail, l.delivered = frames e.read ++ tail ∧ e.Behind tail

theorem Heard.paused {l : Link S R} {e : End} (heard : Heard l e) (paused : e.program.pauses = true) :
    l.delivered = frames e.read ∧ e.raw = [] ∧ e.reader = .start := by
  obtain ⟨tail, delivered, behind⟩ := heard
  unfold End.Behind at behind
  cases here : e.program with
  | bridge => rw [here] at paused; cases paused
  | refuse => rw [here] at paused; cases paused
  | receive next => rw [here] at paused; cases paused
  | send m next | await next | talk next =>
      rw [here] at behind
      obtain ⟨rfl, raw, reader⟩ := behind
      exact ⟨by simpa using delivered, raw, reader⟩

/-- The frames each side's program sends are those the other's reads. -/
structure Connection.Sound (s₀ : Side → S) (r₀ : Side → R) (sends : Side → Nat)
    (c : Connection S R) : Prop where
  follows : ∀ side, (c.ends side).Follows (sends side) (sends side.other)
  wired : ∀ side, Wired cipher (s₀ side) (r₀ side) (c.links side) (c.ends side)
  heard : ∀ side, Heard (c.links side.other) (c.ends side)

variable {cipher} {s₀ : Side → S} {r₀ : Side → R} {sends : Side → Nat} {c : Connection S R}

/-! ### One link -/

section Wired

variable {s : S} {r : R} {l : Link S R} {e : End}

theorem Wired.read (inverts : cipher.Inverts s r) (wired : Wired cipher s r l e) (size : Nat)
    {answers : List Arrival} (arrives : carried answers <+: l.wire) :
    Wired cipher s r (l.read cipher size answers) e := by
  obtain ⟨opened, flight, carries, start, accounted⟩ := wired
  obtain ⟨newly, later, split, carries'⟩ := carries.reads inverts size arrives
  refine ⟨opened ++ newly, later, carries', ?_, fun closed => ?_⟩
  · rw [List.append_assoc, ← split]
    exact start
  · rw [List.append_assoc, ← split]
    exact (accounted closed).read size answers

/-- A write passes the next bytes the end has for its stream. -/
theorem Wired.write (inverts : cipher.Inverts s r) (wired : Wired cipher s r l e)
    (writable : e.closed = false) {size : Nat} (enough : l.chunk.length ≤ size)
    (answers : List (Poll Nat)) :
    Wired cipher s r
      (l.write cipher ((e.outgoing.drop l.reported.length).take size) answers) e := by
  obtain ⟨opened, flight, carries, start, accounted⟩ := wired
  have account := accounted writable
  rw [account.plain] at start
  obtain ⟨rest, split⟩ := start
  have next : e.outgoing.drop l.reported.length = l.chunk ++ rest := by
    rw [← split, List.append_assoc, List.drop_left]
  have retries : l.chunk <+: (e.outgoing.drop l.reported.length).take size := by
    rw [next]
    exact List.prefix_take_iff.mpr ⟨List.prefix_append .., enough⟩
  obtain ⟨flight', carries', account', known⟩ := carries.write inverts account retries answers
  refine ⟨opened, flight', carries', known.trans ?_, fun _ => account'⟩
  refine (List.prefix_append_right_inj l.reported |>.mpr (List.take_prefix ..)).trans ?_
  rw [next, ← List.append_assoc, split]

theorem Wired.finish (wired : Wired cipher s r l e) {answers : List (Poll Nat)}
    (unfinished : l.Unfinished answers) (inner : Poll Unit) :
    Wired cipher s r (l.finish (afterPendingWrite l.writer answers inner)) e := by
  obtain ⟨opened, flight, carries, start, accounted⟩ := wired
  exact ⟨opened, flight, carries.finish answers inner, start,
    fun writable => (accounted writable).finish carries.writer unfinished inner⟩

/-- A shutdown may complete a write; nobody writes after it. -/
theorem Wired.shutdown (wired : Wired cipher s r l e) (answers : List (Poll Nat))
    (inner : Poll Unit) : Wired cipher s r (l.finish (afterPendingWrite l.writer answers inner))
      { e with closed := true } := by
  obtain ⟨opened, flight, carries, start, -⟩ := wired
  refine ⟨opened, flight, carries.finish answers inner, start, fun writable => ?_⟩
  cases writable

/-- The end has more for its stream. -/
theorem Wired.grow (wired : Wired cipher s r l e) {e' : End} (more : e.outgoing <+: e'.outgoing)
    (same : e'.closed = e.closed) : Wired cipher s r l e' := by
  obtain ⟨opened, flight, carries, start, accounted⟩ := wired
  exact ⟨opened, flight, carries, start.trans more, fun writable => accounted (same ▸ writable)⟩

/-- A poll inside `read_frame` brings at most the bytes it asked for. -/
theorem Wired.bytes_length (wired : Wired cipher s r l e) {size : Nat} (positive : 0 < size)
    (answers : List Arrival) :
    (pollRead cipher l.reader size answers).poll.bytes.length ≤ size := by
  obtain ⟨opened, flight, carries, -, -⟩ := wired
  exact (pollRead_polled cipher carries.feeds.formed positive answers).bytes_length

end Wired

/-! ### The connection -/

namespace Connection

theorem sound_start {program : Side → Program}
    (counts : ∀ side, (program side).Counts (sends side) (sends side.other)) :
    Sound cipher s₀ r₀ sends (start s₀ r₀ program) := by
  constructor
  · intro side
    exact follows_start (counts side)
  · intro side
    refine ⟨[], [], Link.carries_start cipher _ _, List.nil_prefix, fun _ => ⟨rfl, fun _ => rfl, ?_⟩⟩
    intro pending here
    cases here
  · intro side
    exact ⟨[], rfl, behind_boundary rfl rfl⟩

/-- One end changes. -/
theorem Sound.setEnd (sound : Sound cipher s₀ r₀ sends c) {side : Side} {e : End}
    (follows : e.Follows (sends side) (sends side.other))
    (wired : Wired cipher (s₀ side) (r₀ side) (c.links side) e)
    (heard : Heard (c.links side.other) e) : Sound cipher s₀ r₀ sends (c.setEnd side e) := by
  constructor <;> intro other <;> rcases eq_or_ne other side with rfl | apart
  · simpa [Connection.setEnd] using follows
  · simpa [Connection.setEnd, apart] using sound.follows other
  · simpa [Connection.setEnd] using wired
  · simpa [Connection.setEnd, apart] using sound.wired other
  · simpa [Connection.setEnd] using heard
  · simpa [Connection.setEnd, apart] using sound.heard other

/-- One link changes, and delivers nothing. -/
theorem Sound.setLink (sound : Sound cipher s₀ r₀ sends c) {side : Side} {l : Link S R}
    (wired : Wired cipher (s₀ side) (r₀ side) l (c.ends side))
    (delivered : l.delivered = (c.links side).delivered) :
    Sound cipher s₀ r₀ sends (c.setLink side l) := by
  refine ⟨sound.follows, fun other => ?_, fun other => ?_⟩
  · rcases eq_or_ne other side with rfl | apart
    · simpa [Connection.setLink] using wired
    · simpa [Connection.setLink, apart] using sound.wired other
  · have heard := sound.heard other
    rcases eq_or_ne other.other side with rfl | apart
    · unfold Heard at heard ⊢
      rw [← delivered] at heard
      simpa [Connection.setLink] using heard
    · simpa [Connection.setLink, apart] using heard

/-- One end reads from the other's link. -/
theorem Sound.pull (inverts : ∀ side, cipher.Inverts (s₀ side) (r₀ side))
    (sound : Sound cipher s₀ r₀ sends c) {side : Side} {size : Nat} {answers : List Arrival}
    (arrives : carried answers <+: (c.links side.other).wire) {e : End}
    (follows : e.Follows (sends side) (sends side.other))
    (wired : Wired cipher (s₀ side) (r₀ side) (c.links side) e)
    (heard : Heard ((c.links side.other).read cipher size answers) e) :
    Sound cipher s₀ r₀ sends ((c.pull cipher side size answers).setEnd side e) := by
  have apart := side.other_ne
  have wired' := (sound.wired side.other).read (inverts side.other) size arrives
  constructor <;> intro x <;> rcases eq_or_ne x side with rfl | other
  · simpa [Connection.setEnd] using follows
  · simpa [Connection.setEnd, Connection.pull, Connection.setLink, other] using sound.follows x
  · simpa [Connection.setEnd, Connection.pull, Connection.setLink, apart.symm] using wired
  · have same : x = side.other := by cases x <;> cases side <;> simp_all [Side.other]
    subst same
    simpa [Connection.setEnd, Connection.pull, Connection.setLink, apart] using wired'
  · simpa [Connection.setEnd, Connection.pull, Connection.setLink] using heard
  · have same : x = side.other := by cases x <;> cases side <;> simp_all [Side.other]
    subst same
    have heard' := sound.heard side.other
    rw [Side.other_other] at heard'
    simpa [Connection.setEnd, Connection.pull, Connection.setLink, apart, apart.symm] using heard'

/-- A step of the program that neither sends nor reads. -/
theorem Sound.move (sound : Sound cipher s₀ r₀ sends c) {side : Side} {next : Program}
    (talking : Bool) (paused : (c.ends side).program.pauses = true)
    (counts_ok : ∀ n k, (c.ends side).program.Counts n k → next.Counts n k)
    (talks : talking = true → (c.ends side).talking = true ∨
      ∀ n k, (c.ends side).program.Counts n k → n = 0) :
    Sound cipher s₀ r₀ sends
      (c.setEnd side { c.ends side with program := next, talking := talking }) := by
  obtain ⟨delivered, raw, reader⟩ := (sound.heard side).paused paused
  exact sound.setEnd ((sound.follows side).move counts_ok talks)
    ((sound.wired side).grow List.prefix_rfl rfl) ⟨[], by simpa using delivered, behind_boundary reader raw⟩

/-- A poll of `read_frame`. -/
theorem Sound.readFrame (inverts : ∀ side, cipher.Inverts (s₀ side) (r₀ side)) {codec : Codec}
    (sound : Sound cipher s₀ r₀ sends c) {side : Side} {next : Message → Program}
    (here : (c.ends side).program = .receive next) {answers : List Arrival}
    (arrives : carried answers <+: (c.links side.other).wire) {c' : Connection S R}
    (taken : (match c.polled cipher side (c.ends side).reader.wants answers with
      | .pending => some (c.pull cipher side (c.ends side).reader.wants answers)
      | .failed _ => some ((c.pull cipher side (c.ends side).reader.wants answers).setEnd side
          { c.ends side with program := .refuse })
      | .done bytes => some ((c.pull cipher side (c.ends side).reader.wants answers).setEnd side
          ((c.ends side).receive codec next bytes))) = some c') :
    Sound cipher s₀ r₀ sends c' := by
  have follows := sound.follows side
  obtain ⟨tail, delivered, behind⟩ := sound.heard side
  have short := (sound.wired side.other).bytes_length (FrameReader.wants_pos follows.reader) answers
  have grown : ((c.links side.other).read cipher (c.ends side).reader.wants answers).delivered =
      frames (c.ends side).read ++ tail ++
        (c.polled cipher side (c.ends side).reader.wants answers).bytes := by
    rw [← delivered]
    rfl
  change (c.polled cipher side (c.ends side).reader.wants answers).bytes.length ≤ _ at short
  generalize c.polled cipher side (c.ends side).reader.wants answers = poll at taken short grown
  cases poll with
  | pending =>
      cases taken
      have same := sound.pull inverts arrives follows (sound.wired side)
        ⟨tail, by rw [grown]; simp [Poll.bytes], behind⟩
      simpa [Connection.setEnd, Connection.pull, Connection.setLink] using same
  | failed error =>
      cases taken
      refine sound.pull inverts arrives follows.refuse
        ((sound.wired side).grow List.prefix_rfl rfl) ⟨tail, by rw [grown]; simp [Poll.bytes], ?_⟩
      unfold End.Behind at behind
      rw [here] at behind
      exact behind.2
  | done bytes =>
      cases taken
      obtain ⟨tail', split, behind'⟩ :=
        follows.receive_behind codec here behind short
      exact sound.pull inverts arrives (follows.receive here short)
        ((sound.wired side).grow (by rw [End.receive_outgoing]) End.receive_closed)
        ⟨tail', by rw [grown]; exact split, behind'⟩

/-- The next frame joins what the end has to write. -/
theorem Sound.send {codec : Codec} (sound : Sound cipher s₀ r₀ sends c) {side : Side} {m : Message}
    {next : Program} (here : (c.ends side).program = .send m next) :
    Sound cipher s₀ r₀ sends (c.setEnd side ((c.ends side).send codec m next)) := by
  have follows := sound.follows side
  obtain ⟨data, -⟩ := follows.early here
  obtain ⟨delivered, raw, reader⟩ := (sound.heard side).paused (by rw [here]; rfl)
  refine sound.setEnd (follows.send here)
    ((sound.wired side).grow (End.send_outgoing data) End.send_closed)
    ⟨[], ?_, behind_boundary ?_ ?_⟩
  · rw [End.send_read]
    simpa using delivered
  · rw [End.send_reader]
    exact reader
  · rw [End.send_raw]
    exact raw

theorem Sound.shutdown (sound : Sound cipher s₀ r₀ sends c) (side : Side)
    (answers : List (Poll Nat)) (innerShutdown : Poll Unit) :
    Sound cipher s₀ r₀ sends ((c.setLink side
      ((c.links side).finish (pollShutdown (c.links side).writer answers innerShutdown))).setEnd
        side { c.ends side with closed := true }) := by
  have follows := sound.follows side
  have wired := sound.wired side
  have closing : Wired cipher (s₀ side) (r₀ side) (c.links side)
      { c.ends side with closed := true } := by
    obtain ⟨opened, flight, carries, start, -⟩ := wired
    exact ⟨opened, flight, carries, start, by simp⟩
  have closed := sound.setEnd (e := { c.ends side with closed := true })
    ⟨follows.counts, follows.data, follows.sentFits, follows.readFits, follows.reader⟩ closing
    (sound.heard side)
  have shut := wired.shutdown answers innerShutdown
  exact closed.setLink
    (l := (c.links side).finish (pollShutdown (c.links side).writer answers innerShutdown))
    (by simpa [Connection.setEnd, pollShutdown] using shut) rfl

/-- A bridging end passes on what it reads. -/
theorem Sound.readRaw (inverts : ∀ side, cipher.Inverts (s₀ side) (r₀ side))
    (sound : Sound cipher s₀ r₀ sends c) {side : Side} {size : Nat} {answers : List Arrival}
    (here : (c.ends side).program = .bridge)
    (arrives : carried answers <+: (c.links side.other).wire) :
    Sound cipher s₀ r₀ sends ((c.pull cipher side size answers).setEnd side
      { c.ends side with
        raw := (c.ends side).raw ++ (c.polled cipher side size answers).bytes }) := by
  have follows := sound.follows side
  obtain ⟨tail, delivered, behind⟩ := sound.heard side
  refine sound.pull inverts arrives
    ⟨follows.counts, follows.data, follows.sentFits, follows.readFits, follows.reader⟩
    ((sound.wired side).grow List.prefix_rfl rfl)
    ⟨tail ++ (c.polled cipher side size answers).bytes, ?_, ?_⟩
  · rw [← List.append_assoc]
    show (c.links side.other).delivered ++ _ = _
    rw [delivered]
    rfl
  · unfold End.Behind at behind ⊢
    rw [here] at behind
    simp only [here, behind]

/-- An end that talks or bridges has sent all its frames: data goes behind them. -/
theorem Sound.produce (sound : Sound cipher s₀ r₀ sends c) {side : Side} (bytes : Bytes)
    (allowed : (c.ends side).talking ∨ (c.ends side).program.isBridge) :
    Sound cipher s₀ r₀ sends
      (c.setEnd side { c.ends side with data := (c.ends side).data ++ bytes }) := by
  have follows := sound.follows side
  have last : (c.ends side).sent.length = sends side := by
    cases allowed with
    | inl talking => exact follows.data (.inr talking)
    | inr bridging =>
        obtain ⟨n, k, counts, sent, -⟩ := follows.counts
        rw [Program.isBridge_iff.mp bridging] at counts
        cases counts
        simpa using sent
  refine sound.setEnd ⟨follows.counts, fun _ => last, follows.sentFits, follows.readFits,
    follows.reader⟩ ((sound.wired side).grow ?_ rfl) (sound.heard side)
  simp [End.outgoing, ← List.append_assoc]

theorem Sound.step (inverts : ∀ side, cipher.Inverts (s₀ side) (r₀ side)) {codec : Codec}
    (sound : Sound cipher s₀ r₀ sends c) {side : Side} {op : Op} {c' : Connection S R}
    (taken : c.step cipher codec side op = some c') : Sound cipher s₀ r₀ sends c' := by
  have wired := sound.wired side
  cases op with
  | send =>
      simp only [Connection.step] at taken
      split at taken
      · rename_i m next here
        cases taken
        exact sound.send here
      · cases taken
  | talk =>
      simp only [Connection.step] at taken
      split at taken
      · rename_i next here
        cases taken
        refine sound.move true (by rw [here]; rfl) ?_ ?_
        · intro n k counts
          rw [here] at counts
          cases counts with
          | talk later => exact later
        · intro _
          right
          intro n k counts
          rw [here] at counts
          cases counts
          rfl
      · cases taken
  | await =>
      simp only [Connection.step] at taken
      split at taken
      · rename_i next here
        cases taken
        refine sound.move (c.ends side).talking (by rw [here]; rfl) ?_ Or.inl
        intro n k counts
        rw [here] at counts
        cases counts with
        | await later => exact later
      · cases taken
  | write size answers =>
      simp only [Connection.step] at taken
      split at taken
      · rename_i allowed
        cases taken
        exact sound.setLink (wired.write (inverts side) allowed.1 allowed.2 answers) rfl
      · cases taken
  | flush answers innerFlush =>
      simp only [Connection.step] at taken
      split at taken
      · rename_i unfinished
        cases taken
        exact sound.setLink (wired.finish unfinished innerFlush) rfl
      · cases taken
  | shutdown answers innerShutdown =>
      cases taken
      exact sound.shutdown side answers innerShutdown
  | readFrame answers =>
      simp only [Connection.step] at taken
      split at taken
      · rename_i next here
        split at taken
        · rename_i arrives
          exact sound.readFrame inverts here arrives taken
        · cases taken
      · cases taken
  | readRaw size answers =>
      simp only [Connection.step] at taken
      split at taken
      · rename_i allowed
        cases taken
        exact sound.readRaw inverts (Program.isBridge_iff.mp allowed.1) allowed.2
      · cases taken
  | produce bytes =>
      simp only [Connection.step] at taken
      split at taken
      · rename_i allowed
        cases taken
        exact sound.produce bytes allowed
      · cases taken

/-! ### What a step leaves alone -/

/-- A step of one side leaves the other end alone. -/
theorem step_other {codec : Codec} {side : Side} {op : Op} {c' : Connection S R}
    (taken : c.step cipher codec side op = some c') : c'.ends side.other = c.ends side.other := by
  have apart := side.other_ne
  cases op <;> simp only [Connection.step] at taken <;> (repeat' split at taken) <;>
    cases taken <;> simp [setEnd, setLink, pull, apart]

/-- Until its end bridges, a side reads no raw bytes and writes no data. -/
theorem step_establishes {codec : Codec} {side : Side} {op : Op} (establishes : op.establishes = true)
    {c' : Connection S R} (taken : c.step cipher codec side op = some c') :
    (c'.ends side).raw = (c.ends side).raw ∧ (c'.ends side).data = (c.ends side).data := by
  cases op <;> simp only [Op.establishes, Bool.false_eq_true] at establishes <;>
    simp only [Connection.step] at taken <;> (repeat' split at taken) <;> cases taken <;>
    simp [setEnd, setLink, pull, End.send_raw, End.send_data, End.receive_raw, End.receive_data]

theorem step_await {codec : Codec} {side : Side} {c' : Connection S R}
    (taken : c.step cipher codec side .await = some c') :
    (c'.ends side).raw = (c.ends side).raw ∧ (c'.ends side).data = (c.ends side).data := by
  simp only [Connection.step] at taken
  split at taken
  · cases taken
    simp [setEnd]
  · cases taken

/-! ### What an end reads -/

/-- What one direction of a connection guarantees to its reading end. -/
structure Ordered (c : Connection S R) (side : Side) : Prop where
  /-- the frames read are the first frames sent -/
  frames : (c.ends side).read <+: (c.ends side.other).sent
  /-- a bridging end has read them all, and holds no byte of them -/
  all : (c.ends side).program.isBridge = true → (c.ends side).read = (c.ends side.other).sent
  /-- the raw bytes read are the first bytes written behind the frames -/
  raw : (c.ends side).raw <+: (c.ends side.other).data
  /-- of these, `poll_write` has reported or is still pushing all -/
  written : (c.ends side.other).closed = false →
    (c.ends side).raw <+: ((c.links side.other).reported ++ (c.links side.other).chunk).drop
      (Theory.frames (c.ends side.other).sent).length

/-- **An end reads the other's frames and then its data**, and neither runs into the
other. -/
theorem Sound.ordered (sound : Sound cipher s₀ r₀ sends c) (side : Side) : c.Ordered side := by
  have reader := sound.follows side
  have writer := sound.follows side.other
  obtain ⟨tail, delivered, behind⟩ := sound.heard side
  obtain ⟨opened, flight, carries, start, accounted⟩ := sound.wired side.other
  have stream : (c.links side.other).delivered <+: plain (opened ++ flight) := by
    rw [plain_append, ← carries.delivered, List.append_assoc]
    exact List.prefix_append ..
  rw [delivered] at stream
  obtain ⟨n, k, counts, -, read⟩ := reader.counts
  have fewer : (c.ends side).read.length ≤ (c.ends side.other).sent.length ∨
      (c.ends side.other).data = [] := by
    by_cases none : (c.ends side.other).data = []
    · exact .inr none
    · left
      have all := writer.data (.inl none)
      omega
  obtain ⟨later, split, rest⟩ :=
    frames_prefix (stream.trans start) reader.readFits writer.sentFits fewer
  have finished (bridging : (c.ends side).program.isBridge = true) : later = [] := by
    rw [Program.isBridge_iff.mp bridging] at counts
    cases counts
    obtain ⟨n, k, -, sent, -⟩ := writer.counts
    rw [split, List.length_append] at sent
    apply List.eq_nil_of_length_eq_zero
    omega
  have bridged (bridging : (c.ends side).program.isBridge = true) : tail = (c.ends side).raw := by
    unfold End.Behind at behind
    rwa [Program.isBridge_iff.mp bridging] at behind
  constructor
  · exact ⟨later, split.symm⟩
  · intro bridging
    rw [split, finished bridging, List.append_nil]
  · by_cases bridging : (c.ends side).program.isBridge = true
    · rw [finished bridging, bridged bridging] at rest
      exact rest
    · rw [behind.raw_nil bridging]
      exact List.nil_prefix
  · intro writable
    by_cases bridging : (c.ends side).program.isBridge = true
    · rw [(accounted writable).plain, bridged bridging] at stream
      have same : (c.ends side.other).sent = (c.ends side).read := by
        rw [split, finished bridging, List.append_nil]
      obtain ⟨more, rebuilt⟩ := stream
      rw [same, ← rebuilt, List.append_assoc, List.drop_left]
      exact List.prefix_append ..
    · rw [behind.raw_nil bridging]
      exact List.nil_prefix

end Connection

end Invariant

end RustSsh.Session
