/-
# Session.Program -- frames, then raw bytes

A data connection starts with control frames and goes on with raw bytes in both
directions.  What one end does until it bridges is its `Program`: the frames it sends
and the frames it reads, in the order of the source.  An `End` is a program on its way,
with what it has sent and read so far.

`Counts` is how many frames a program sends and reads.  `End.Follows` is what an end keeps
while it works through its program, and `End.Behind` says where the bytes are that it
read behind the last whole frame: in the `read_frame` in progress, or handed on raw.
-/
import RustSsh.Protocol.Frame

namespace RustSsh.Session

open RustSsh.Theory RustSsh.Protocol

set_option autoImplicit false

/-! ## Programs -/

inductive Program where
  /-- copy raw bytes both ways -/
  | bridge
  /-- the task returned without bridging -/
  | refuse
  | send (m : Message) (next : Program)
  | receive (next : Message → Program)
  /-- wait for another task -/
  | await (next : Program)
  /-- from here on data may follow what was sent -/
  | talk (next : Program)

namespace Program

def isBridge : Program → Bool
  | .bridge => true
  | _ => false

theorem isBridge_iff {program : Program} : program.isBridge = true ↔ program = .bridge := by
  cases program <;> simp [isBridge]

/-- Before such a step no frame is begun. -/
def pauses : Program → Bool
  | .send .. => true
  | .await _ => true
  | .talk _ => true
  | _ => false

/-- The program sends and reads this many frames before it bridges, whatever it reads. -/
inductive Counts : Program → Nat → Nat → Prop where
  | bridge : Counts .bridge 0 0
  | refuse (sends receives : Nat) : Counts .refuse sends receives
  | send {m : Message} {next : Program} {sends receives : Nat}
      (later : Counts next sends receives) : Counts (.send m next) (sends + 1) receives
  | receive {next : Message → Program} {sends receives : Nat}
      (later : ∀ m, Counts (next m) sends receives) : Counts (.receive next) sends (receives + 1)
  | await {next : Program} {sends receives : Nat} (later : Counts next sends receives) :
      Counts (.await next) sends receives
  /-- data may follow only the last frame sent -/
  | talk {next : Program} {receives : Nat} (later : Counts next 0 receives) :
      Counts (.talk next) 0 receives

end Program

/-! ## Ends -/

structure End where
  program : Program
  /-- the `read_frame` in progress -/
  reader : FrameReader
  /-- the payloads of the frames sent -/
  sent : List Bytes
  /-- what is written behind them -/
  data : Bytes
  /-- the payloads of the frames read -/
  read : List Bytes
  /-- what was read behind them -/
  raw : Bytes
  talking : Bool
  /-- the end has shut its stream down -/
  closed : Bool

namespace End

def start (program : Program) : End :=
  { program, reader := .start, sent := [], data := [], read := [], raw := [], talking := false,
    closed := false }

/-- Everything this end has for its stream. -/
def outgoing (e : End) : Bytes := frames e.sent ++ e.data

/-- `write_frame` is given its message. -/
def send (codec : Codec) (e : End) (m : Message) (next : Program) : End :=
  match writeFrame codec m with
  | some _ => { e with program := next, sent := e.sent ++ [codec.encode m] }
  | none => { e with program := .refuse }

/-- A poll of `read_frame` brought bytes; none are the end of the stream. -/
def receive (codec : Codec) (e : End) (next : Message → Program) (bytes : Bytes) : End :=
  if bytes = [] then { e with program := .refuse }
  else
    match e.reader.feed bytes with
    | .more reader => { e with reader }
    | .invalid _ => { e with program := .refuse }
    | .done payload =>
        { e with
          reader := .start
          read := e.read ++ [payload]
          program := match codec.decode payload with
            | some m => next m
            | none => .refuse }

end End

/-! ## What an end has sent and read -/

/-- The end's program sends `sends` frames and reads `receives` frames before it bridges. -/
structure End.Follows (e : End) (sends receives : Nat) : Prop where
  counts : ∃ n k, e.program.Counts n k ∧ e.sent.length + n = sends ∧ e.read.length + k = receives
  /-- data comes behind the last frame -/
  data : e.data ≠ [] ∨ e.talking = true → e.sent.length = sends
  sentFits : ∀ payload ∈ e.sent, Fits payload
  readFits : ∀ payload ∈ e.read, Fits payload
  reader : e.reader.WellFormed

/-- Where the bytes behind the frames read are. -/
def End.Behind (e : End) (tail : Bytes) : Prop :=
  match e.program with
  | .bridge => tail = e.raw
  | .refuse => e.raw = []
  | .receive _ => tail = e.reader.held ∧ e.raw = []
  | _ => tail = [] ∧ e.raw = [] ∧ e.reader = .start

section Ends

variable {e : End} {sends receives : Nat} {codec : Codec}

theorem follows_start {program : Program} (counts : program.Counts sends receives) :
    (End.start program).Follows sends receives := by
  refine ⟨⟨sends, receives, counts, ?_, ?_⟩, ?_, ?_, ?_, FrameReader.wellFormed_start⟩
  · simp [End.start]
  · simp [End.start]
  · rintro (data | talking)
    · exact absurd rfl data
    · cases talking
  · intro payload inside
    cases inside
  · intro payload inside
    cases inside

/-- Between two frames nothing is held, whatever comes next. -/
theorem behind_boundary (fresh : e.reader = .start) (none : e.raw = []) : e.Behind [] := by
  unfold End.Behind
  cases e.program with
  | bridge => exact none.symm
  | refuse => exact none
  | receive next => simp [fresh, none, FrameReader.start, FrameReader.held]
  | send m next => exact ⟨rfl, none, fresh⟩
  | await next => exact ⟨rfl, none, fresh⟩
  | talk next => exact ⟨rfl, none, fresh⟩

/-- Raw bytes are read only once the end bridges. -/
theorem End.Behind.raw_nil {tail : Bytes} (behind : e.Behind tail)
    (bridging : ¬ e.program.isBridge = true) : e.raw = [] := by
  unfold End.Behind at behind
  cases here : e.program with
  | bridge => rw [here] at bridging; exact absurd rfl bridging
  | refuse => rw [here] at behind; exact behind
  | receive next => rw [here] at behind; exact behind.2
  | send m next | await next | talk next => rw [here] at behind; exact behind.2.1

/-- A frame is sent only before the data. -/
theorem End.Follows.early (follows : e.Follows sends receives) {m : Message} {next : Program}
    (here : e.program = .send m next) : e.data = [] ∧ e.talking = false := by
  obtain ⟨n, k, counts, sent, -⟩ := follows.counts
  rw [here] at counts
  cases counts with
  | send later =>
      have early : ¬ e.sent.length = sends := by omega
      constructor
      · by_contra data
        exact early (follows.data (.inl data))
      · cases talking : e.talking with
        | false => rfl
        | true => exact absurd (follows.data (.inr talking)) early

/-- A task that returns has no frames left to count. -/
theorem End.Follows.refuse (follows : e.Follows sends receives) :
    End.Follows { e with program := .refuse } sends receives := by
  obtain ⟨n, k, -, sent, read⟩ := follows.counts
  exact ⟨⟨n, k, .refuse n k, sent, read⟩, follows.data, follows.sentFits, follows.readFits,
    follows.reader⟩

theorem End.Follows.send (follows : e.Follows sends receives) {m : Message} {next : Program}
    (here : e.program = .send m next) : (e.send codec m next).Follows sends receives := by
  obtain ⟨data, talking⟩ := follows.early here
  unfold End.send
  cases written : writeFrame codec m with
  | none => exact follows.refuse
  | some bytes =>
      obtain ⟨n, k, counts, sent, read⟩ := follows.counts
      rw [here] at counts
      cases counts with
      | send later =>
          rename_i n
          refine ⟨⟨n, k, later, ?_, read⟩, ?_, ?_, follows.readFits, follows.reader⟩
          · simp only [List.length_append, List.length_singleton]
            omega
          · rintro (some_data | talks)
            · exact absurd data some_data
            · rw [talking] at talks
              cases talks
          · intro payload inside
            rcases List.mem_append.mp inside with earlier | last
            · exact follows.sentFits payload earlier
            · rw [List.mem_singleton.mp last]
              exact fits_of_size (writeFrame_some written).2

/-- A step of the program that sends and reads nothing. -/
theorem End.Follows.move (follows : e.Follows sends receives) {next : Program} {talking : Bool}
    (counts_ok : ∀ n k, e.program.Counts n k → next.Counts n k)
    (talks : talking = true → e.talking = true ∨ ∀ n k, e.program.Counts n k → n = 0) :
    End.Follows { e with program := next, talking := talking } sends receives := by
  obtain ⟨n, k, counts, sent, read⟩ := follows.counts
  refine ⟨⟨n, k, counts_ok n k counts, sent, read⟩, ?_, follows.sentFits, follows.readFits,
    follows.reader⟩
  rintro (data | now)
  · exact follows.data (.inl data)
  · rcases talks now with before | last
    · exact follows.data (.inr before)
    · have zero := last n k counts
      show e.sent.length = sends
      omega

theorem End.Follows.receive (follows : e.Follows sends receives) {next : Message → Program}
    (here : e.program = .receive next) {bytes : Bytes} (fits : bytes.length ≤ e.reader.wants) :
    (e.receive codec next bytes).Follows sends receives := by
  unfold End.receive
  by_cases ended : bytes = []
  · rw [if_pos ended]
    exact follows.refuse
  · rw [if_neg ended]
    cases fed : e.reader.feed bytes with
    | more reader =>
        exact ⟨follows.counts, follows.data, follows.sentFits, follows.readFits,
          (FrameReader.feed_more follows.reader fits fed).1⟩
    | invalid length => exact follows.refuse
    | done payload =>
        have small := (FrameReader.feed_done follows.reader fits fed).2
        obtain ⟨n, k, counts, sent, read⟩ := follows.counts
        rw [here] at counts
        cases counts with
        | receive later =>
            rename_i k
            refine ⟨⟨n, k, ?_, sent, ?_⟩, follows.data, follows.sentFits, ?_,
              FrameReader.wellFormed_start⟩
            · simp only
              cases codec.decode payload with
              | none => exact .refuse n k
              | some m => exact later m
            · simp only [List.length_append, List.length_singleton]
              omega
            · intro other inside
              rcases List.mem_append.mp inside with earlier | last
              · exact follows.readFits other earlier
              · rw [List.mem_singleton.mp last]
                exact fits_of_size small

/-- The bytes a poll brought are behind the frames read, or complete one more. -/
theorem End.Follows.receive_behind (codec : Codec) (follows : e.Follows sends receives)
    {next : Message → Program}
    (here : e.program = .receive next) {tail bytes : Bytes} (behind : e.Behind tail)
    (fits : bytes.length ≤ e.reader.wants) :
    ∃ tail', frames e.read ++ tail ++ bytes = frames (e.receive codec next bytes).read ++ tail' ∧
      (e.receive codec next bytes).Behind tail' := by
  unfold End.Behind at behind
  rw [here] at behind
  obtain ⟨rfl, none⟩ := behind
  unfold End.receive
  by_cases ended : bytes = []
  · rw [if_pos ended]
    exact ⟨e.reader.held, by simp [ended], none⟩
  · rw [if_neg ended]
    cases fed : e.reader.feed bytes with
    | more reader =>
        refine ⟨e.reader.held ++ bytes, by simp, ?_⟩
        unfold End.Behind
        simp only [here]
        exact ⟨(FrameReader.feed_more follows.reader fits fed).2.symm, none⟩
    | invalid length => exact ⟨e.reader.held ++ bytes, by simp, none⟩
    | done payload =>
        refine ⟨[], ?_, behind_boundary rfl none⟩
        have whole := (FrameReader.feed_done follows.reader fits fed).1
        rw [List.append_assoc, whole]
        simp

/-! ### What the other fields do -/

theorem End.send_read {m : Message} {next : Program} : (e.send codec m next).read = e.read := by
  unfold End.send; split <;> rfl

theorem End.send_reader {m : Message} {next : Program} : (e.send codec m next).reader = e.reader := by
  unfold End.send; split <;> rfl

theorem End.send_raw {m : Message} {next : Program} : (e.send codec m next).raw = e.raw := by
  unfold End.send; split <;> rfl

theorem End.send_data {m : Message} {next : Program} : (e.send codec m next).data = e.data := by
  unfold End.send; split <;> rfl

theorem End.send_closed {m : Message} {next : Program} : (e.send codec m next).closed = e.closed := by
  unfold End.send; split <;> rfl

theorem End.send_outgoing {m : Message} {next : Program} (data : e.data = []) :
    e.outgoing <+: (e.send codec m next).outgoing := by
  unfold End.send
  split
  · simp [End.outgoing, data]
  · exact List.prefix_rfl

theorem End.receive_outgoing {next : Message → Program} {bytes : Bytes} :
    (e.receive codec next bytes).outgoing = e.outgoing := by
  unfold End.receive
  split
  · rfl
  · cases e.reader.feed bytes <;> rfl

theorem End.receive_raw {next : Message → Program} {bytes : Bytes} :
    (e.receive codec next bytes).raw = e.raw := by
  unfold End.receive
  split
  · rfl
  · cases e.reader.feed bytes <;> rfl

theorem End.receive_data {next : Message → Program} {bytes : Bytes} :
    (e.receive codec next bytes).data = e.data := by
  unfold End.receive
  split
  · rfl
  · cases e.reader.feed bytes <;> rfl

theorem End.receive_closed {next : Message → Program} {bytes : Bytes} :
    (e.receive codec next bytes).closed = e.closed := by
  unfold End.receive
  split
  · rfl
  · cases e.reader.feed bytes <;> rfl

end Ends

end RustSsh.Session
