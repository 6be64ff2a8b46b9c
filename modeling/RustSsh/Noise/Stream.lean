/-
# Noise.Stream -- the encrypted stream

`NoiseStream` of `src/noise.rs`: `poll_read`, `poll_write`, `poll_flush` and
`poll_shutdown` over an inner byte stream.  Both directions are resumable: a read
may be suspended after any byte of a frame, a write after any byte of its wire
form.  What the inner stream does during one call is an argument of the call, the
list of its answers in order; an inner stream that is asked once more than the
list is long is not ready.

The two directions of a `NoiseStream` share no field.  `snow::TransportState` has
a cipher state for each, so the state is kept in two halves, and a function takes
the half it works on.
-/
import RustSsh.Theory.Framing

namespace RustSsh.Noise

open RustSsh.Theory

set_option autoImplicit false

/-- `NOISE_TAG_SIZE`. -/
def noiseTagSize : Nat := 16

/-- `MAX_PLAINTEXT_CHUNK`. -/
def maxPlaintextChunk : Nat := 32 * 1024

/-- `MAX_CIPHERTEXT_FRAME`. -/
def maxCiphertextFrame : Nat := maxPlaintextChunk + noiseTagSize

inductive ErrorKind where
  | writeZero
  | invalidData
  | unexpectedEof
  /-- any kind the inner stream reports -/
  | other
  deriving DecidableEq, Repr

structure IoError where
  kind : ErrorKind
  message : String
  deriving DecidableEq, Repr

/-- `Poll<io::Result<_>>`. -/
inductive Poll (α : Type) where
  | pending
  | done (value : α)
  | failed (error : IoError)
  deriving DecidableEq, Repr

/-- The two operations of `snow::TransportState`: `S` is the state of the sending
direction, `R` that of the receiving one.  An error is given by its text. -/
structure Cipher (S R : Type) where
  writeMessage : S → Bytes → Except String (Bytes × S)
  readMessage : R → Bytes → Except String Bytes × R

def noiseIoError (error : String) : IoError :=
  ⟨.invalidData, "Noise transport error: " ++ error⟩

/-! ## Writing -/

structure PendingWrite where
  wire : Bytes
  offset : Nat
  plaintextLen : Nat
  deriving DecidableEq, Repr

/-- The fields `poll_write` works on. -/
structure Writing (S : Type) where
  sending : S
  pendingWrite : Option PendingWrite
  deriving DecidableEq, Repr

/-- What a call returns, the half it leaves and the bytes the inner stream took. -/
structure WriteReturn (S α : Type) where
  poll : Poll α
  stream : Writing S
  sent : Bytes
  deriving DecidableEq, Repr

section Writing

variable {S R : Type}

def writeZero : IoError := ⟨.writeZero, "relay stream returned zero bytes while writing"⟩

def invalidWriteLength : IoError :=
  ⟨.invalidData, "relay stream reported an invalid write length"⟩

/-- `poll_pending_write`.  An inner stream that claims more bytes than it was given
has taken none. -/
def pollPendingWrite (w : Writing S) (answers : List (Poll Nat)) : WriteReturn S (Option Nat) :=
  match w.pendingWrite with
  | none => ⟨.done none, w, []⟩
  | some pending =>
      if pending.offset = pending.wire.length then
        ⟨.done (some pending.plaintextLen), { w with pendingWrite := none }, []⟩
      else
        match answers with
        | [] => ⟨.pending, w, []⟩
        | .pending :: _ => ⟨.pending, w, []⟩
        | .failed error :: _ => ⟨.failed error, w, []⟩
        | .done written :: rest =>
            if written = 0 then ⟨.failed writeZero, w, []⟩
            else if pending.wire.length - pending.offset < written then
              ⟨.failed invalidWriteLength, w, []⟩
            else
              let w' := { w with
                pendingWrite := some { pending with offset := pending.offset + written } }
              let later := pollPendingWrite w' rest
              ⟨later.poll, later.stream, (pending.wire.drop pending.offset).take written ++ later.sent⟩
termination_by structural answers

/-- The length of a write that was queued by the same call. -/
def reportQueued : Poll (Option Nat) → Poll Nat
  | .pending => .pending
  | .failed error => .failed error
  -- `none` is `unreachable!`: the chunk has just been queued
  | .done count => .done (count.getD 0)

def pollWrite (cipher : Cipher S R) (w : Writing S) (buffer : Bytes) (answers : List (Poll Nat)) :
    WriteReturn S Nat :=
  let earlier := pollPendingWrite w answers
  match earlier.poll with
  | .pending => ⟨.pending, earlier.stream, earlier.sent⟩
  | .failed error => ⟨.failed error, earlier.stream, earlier.sent⟩
  | .done (some count) => ⟨.done count, earlier.stream, earlier.sent⟩
  | .done none =>
      if buffer = [] then ⟨.done 0, w, []⟩
      else
        let plaintextLen := min buffer.length maxPlaintextChunk
        match cipher.writeMessage w.sending (buffer.take plaintextLen) with
        | .error error => ⟨.failed (noiseIoError error), w, []⟩
        | .ok (ciphertext, sending) =>
            -- `as u32` keeps the low four bytes of the length, as `frame` does
            let queued := pollPendingWrite
              ⟨sending, some { wire := frame ciphertext, offset := 0, plaintextLen }⟩ answers
            ⟨reportQueued queued.poll, queued.stream, queued.sent⟩

/-- Complete the pending write, whose length nobody is told, then ask the inner stream.
Completing it leaves none, so the source's call to itself goes straight there. -/
def afterPendingWrite (w : Writing S) (answers : List (Poll Nat)) (inner : Poll Unit) :
    WriteReturn S Unit :=
  let earlier := pollPendingWrite w answers
  match earlier.poll with
  | .pending => ⟨.pending, earlier.stream, earlier.sent⟩
  | .failed error => ⟨.failed error, earlier.stream, earlier.sent⟩
  | .done _ => ⟨inner, earlier.stream, earlier.sent⟩

def pollFlush (w : Writing S) (answers : List (Poll Nat)) (innerFlush : Poll Unit) :
    WriteReturn S Unit :=
  afterPendingWrite w answers innerFlush

def pollShutdown (w : Writing S) (answers : List (Poll Nat)) (innerShutdown : Poll Unit) :
    WriteReturn S Unit :=
  afterPendingWrite w answers innerShutdown

end Writing

/-! ## Reading -/

/-- One answer of the inner stream's `poll_read`, with the bytes it put in the buffer.
No bytes and `ready` is the end of the stream. -/
inductive Arrival where
  | ready (bytes : Bytes)
  | pending (bytes : Bytes)
  | failed (error : IoError)
  deriving DecidableEq, Repr

def Arrival.bytes : Arrival → Bytes
  | .ready bytes => bytes
  | .pending bytes => bytes
  | .failed _ => []

/-- The bytes the answers carry. -/
def carried (answers : List Arrival) : Bytes := answers.flatMap Arrival.bytes

/-- Bytes that did not fit the buffer are the inner stream's next answer. -/
def surplus (space : Nat) (bytes : Bytes) (rest : List Arrival) : List Arrival :=
  if bytes.length ≤ space then rest else .ready (bytes.drop space) :: rest

/-- Why a loop that fills a buffer stopped. -/
inductive FillStop where
  | full
  | pending
  | ended
  | failed (error : IoError)
  deriving DecidableEq, Repr

structure Filled where
  bytes : Bytes
  stop : FillStop
  rest : List Arrival
  deriving DecidableEq, Repr

/-- The loop that fills `read_header`, and the one that fills `read_body`: poll the inner
stream until `space` more bytes are there. -/
def fill : Nat → List Arrival → Filled
  | 0, answers => ⟨[], .full, answers⟩
  | _ + 1, [] => ⟨[], .pending, []⟩
  | _ + 1, .failed error :: rest => ⟨[], .failed error, rest⟩
  | space + 1, .pending bytes :: rest =>
      ⟨bytes.take (space + 1), .pending, surplus (space + 1) bytes rest⟩
  | space + 1, .ready bytes :: rest =>
      if bytes = [] then ⟨[], .ended, rest⟩
      else if bytes.length ≤ space + 1 then
        let more := fill (space + 1 - bytes.length) rest
        ⟨bytes ++ more.bytes, more.stop, more.rest⟩
      else ⟨bytes.take (space + 1), .full, surplus (space + 1) bytes rest⟩

/-- The fields `poll_read` works on.  A buffer and its count of filled bytes are the
filled bytes; `bodyLength` is `read_body.len()`. -/
structure Reading (R : Type) where
  receiving : R
  readHeader : Bytes
  readBody : Bytes
  bodyLength : Nat
  plaintext : Bytes
  plaintextOffset : Nat
  deriving DecidableEq, Repr

/-- The bytes a poll put in the caller's buffer. -/
def Poll.bytes : Poll Bytes → Bytes
  | .done bytes => bytes
  | _ => []

structure ReadReturn (R : Type) where
  poll : Poll Bytes
  stream : Reading R
  rest : List Arrival
  deriving DecidableEq, Repr

/-- One turn of the loop of `poll_read`. -/
inductive Iteration (R : Type) where
  | returns (ret : ReadReturn R)
  | again (stream : Reading R) (rest : List Arrival)
  deriving DecidableEq, Repr

section Reading

variable {S R : Type}

def headerEof : IoError :=
  ⟨.unexpectedEof, "relay stream ended inside a Noise frame header"⟩

def bodyEof : IoError :=
  ⟨.unexpectedEof, "relay stream ended inside an encrypted frame"⟩

def invalidFrameLength (length : Nat) : IoError :=
  ⟨.invalidData, "invalid encrypted relay frame length: " ++ toString length⟩

namespace Reading

/-- The decrypted bytes no read has returned. -/
def leftover (r : Reading R) : Bytes := r.plaintext.drop r.plaintextOffset

/-- Serve decrypted bytes to a buffer with room for `size`. -/
def serve (r : Reading R) (size : Nat) : Bytes × Reading R :=
  let count := min r.leftover.length size
  let offset := r.plaintextOffset + count
  (r.leftover.take count,
    if offset = r.plaintext.length then { r with plaintext := [], plaintextOffset := 0 }
    else { r with plaintextOffset := offset })

/-- The length check of a completed header; a body that was begun is kept. -/
def allocate (r : Reading R) : Except IoError (Reading R) :=
  if r.bodyLength = 0 then
    let length := ofBigEndian r.readHeader
    if length = 0 ∨ maxCiphertextFrame < length then .error (invalidFrameLength length)
    else .ok { r with bodyLength := length, readBody := [] }
  else .ok r

/-- A full body is decrypted, and the reader is at the boundary after it. -/
def decrypt (cipher : Cipher S R) (r : Reading R) (rest : List Arrival) : Iteration R :=
  let taken := { r with readHeader := [], readBody := [], bodyLength := 0 }
  match cipher.readMessage r.receiving r.readBody with
  | (.error error, receiving) =>
      .returns ⟨.failed (noiseIoError error), { taken with receiving }, rest⟩
  | (.ok plaintext, receiving) => .again { taken with receiving, plaintext } rest

/-- From the completed header on. -/
def fillBody (cipher : Cipher S R) (r : Reading R) (answers : List Arrival) : Iteration R :=
  match r.allocate with
  | .error error => .returns ⟨.failed error, r, answers⟩
  | .ok r =>
      let body := fill (r.bodyLength - r.readBody.length) answers
      let r := { r with readBody := r.readBody ++ body.bytes }
      match body.stop with
      | .pending => .returns ⟨.pending, r, body.rest⟩
      | .failed error => .returns ⟨.failed error, r, body.rest⟩
      | .ended => .returns ⟨.failed bodyEof, r, body.rest⟩
      | .full => r.decrypt cipher body.rest

/-- From the test of the leftover plaintext on. -/
def fillHeader (cipher : Cipher S R) (r : Reading R) (answers : List Arrival) : Iteration R :=
  let header := fill (4 - r.readHeader.length) answers
  let r := { r with plaintext := [], plaintextOffset := 0,
                    readHeader := r.readHeader ++ header.bytes }
  match header.stop with
  | .pending => .returns ⟨.pending, r, header.rest⟩
  | .failed error => .returns ⟨.failed error, r, header.rest⟩
  | .ended =>
      if r.readHeader = [] then .returns ⟨.done [], r, header.rest⟩
      else .returns ⟨.failed headerEof, r, header.rest⟩
  | .full => r.fillBody cipher header.rest

def iteration (cipher : Cipher S R) (size : Nat) (r : Reading R) (answers : List Arrival) :
    Iteration R :=
  if r.plaintextOffset < r.plaintext.length then
    let (bytes, r) := r.serve size
    .returns ⟨.done bytes, r, answers⟩
  else r.fillHeader cipher answers

/-- The loop, with a bound on its turns that it does not reach (`pollRead_loop`). -/
def loop (cipher : Cipher S R) (size : Nat) : Nat → Reading R → List Arrival → ReadReturn R
  | 0, r, answers => ⟨.pending, r, answers⟩
  | turns + 1, r, answers =>
      match r.iteration cipher size answers with
      | .returns ret => ret
      | .again r rest => loop cipher size turns r rest

/-- Each frame takes a header's bytes, held already or still to come. -/
def turns (r : Reading R) (answers : List Arrival) : Nat :=
  r.readHeader.length + (carried answers).length

end Reading

/-- `poll_read` into a buffer with room for `size` bytes. -/
def pollRead (cipher : Cipher S R) (r : Reading R) (size : Nat) (answers : List Arrival) :
    ReadReturn R :=
  if size = 0 then ⟨.done [], r, answers⟩
  else r.loop cipher size (r.turns answers + 1) answers

end Reading

/-- Both halves, as `split` separates them and a handover moves them. -/
structure NoiseStream (S R : Type) where
  reading : Reading R
  writing : Writing S
  deriving DecidableEq, Repr

def NoiseStream.new {S R : Type} (sending : S) (receiving : R) : NoiseStream S R :=
  { reading := { receiving, readHeader := [], readBody := [], bodyLength := 0, plaintext := [],
                 plaintextOffset := 0 },
    writing := { sending, pendingWrite := none } }

end RustSsh.Noise
