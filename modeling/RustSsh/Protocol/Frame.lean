/-
# Protocol.Frame -- control frames on a byte stream

`read_frame` and `write_frame` of `src/protocol.rs`.  `read_frame` awaits `read_u32`
and `read_exact`, which poll with a buffer for exactly the bytes that are missing;
suspended between two polls it is a `FrameReader`.  So it never takes a byte beyond
its frame (`FrameReader.feed_done`): what follows stays in the stream.

The JSON text of a message is the serializer's, so it is a parameter (`Codec`).
-/
import RustSsh.Theory.Framing
import RustSsh.Protocol.Message

namespace RustSsh.Protocol

open RustSsh.Theory

set_option autoImplicit false

/-- `MAX_FRAME_SIZE`. -/
def maxFrameSize : Nat := 64 * 1024

/-- `serde_json::to_vec` and `serde_json::from_slice`. -/
structure Codec where
  encode : Message → Bytes
  decode : Bytes → Option Message

/-- The bytes `write_frame` writes; `none` is "control frame is too large". -/
def writeFrame (codec : Codec) (m : Message) : Option Bytes :=
  let payload := codec.encode m
  if payload = [] ∨ maxFrameSize < payload.length then none else some (frame payload)

/-- `write_frame` between two polls: what `write_u32` has left to write, and `write_all`. -/
structure FrameWriter where
  length : Bytes
  payload : Bytes
  deriving DecidableEq, Repr

namespace FrameWriter

def start (payload : Bytes) : FrameWriter := ⟨bigEndian 4 payload.length, payload⟩

/-- The buffer of the next `poll_write`; once it is empty `write_frame` flushes. -/
def buffer (f : FrameWriter) : Bytes := if f.length = [] then f.payload else f.length

/-- The next `poll_write` took `count` bytes. -/
def took (f : FrameWriter) (count : Nat) : FrameWriter :=
  if f.length = [] then { f with payload := f.payload.drop count }
  else { f with length := f.length.drop count }

/-- The bytes of the frame that are not written. -/
def left (f : FrameWriter) : Bytes := f.length ++ f.payload

@[simp] theorem left_start (payload : Bytes) : (start payload).left = frame payload := rfl

theorem left_took (f : FrameWriter) (count : Nat) :
    f.left = f.buffer.take count ++ (f.took count).left := by
  unfold left took buffer
  by_cases begun : f.length = []
  · simp [begun]
  · simp only [begun, if_false]
    rw [← List.append_assoc, List.take_append_drop]

theorem buffer_prefix (f : FrameWriter) : f.buffer <+: f.left := by
  unfold buffer left
  by_cases begun : f.length = []
  · simp [begun]
  · simp [begun]

theorem left_nil {f : FrameWriter} (spent : f.buffer = []) : f.left = [] := by
  unfold buffer at spent
  by_cases begun : f.length = []
  · rw [if_pos begun] at spent
    simp [left, begun, spent]
  · rw [if_neg begun] at spent
    exact absurd spent begun

end FrameWriter

/-- `read_frame` between two polls: the bytes `read_u32` has, then those of `read_exact`. -/
structure FrameReader where
  length : Bytes
  payload : Bytes
  deriving DecidableEq, Repr

/-- What `read_frame` does with the bytes a poll brought. -/
inductive FrameProgress where
  | more (reader : FrameReader)
  | done (payload : Bytes)
  /-- "invalid control frame length" -/
  | invalid (length : Nat)
  deriving DecidableEq, Repr

namespace FrameReader

def start : FrameReader := ⟨[], []⟩

/-- The size of the buffer of the next poll. -/
def wants (f : FrameReader) : Nat :=
  if f.length.length < 4 then 4 - f.length.length else ofBigEndian f.length - f.payload.length

def feed (f : FrameReader) (bytes : Bytes) : FrameProgress :=
  if f.length.length < 4 then
    let length := f.length ++ bytes
    if length.length < 4 then .more { f with length }
    else if ofBigEndian length = 0 ∨ maxFrameSize < ofBigEndian length then
      .invalid (ofBigEndian length)
    else .more { length, payload := [] }
  else
    let payload := f.payload ++ bytes
    if payload.length < ofBigEndian f.length then .more { f with payload } else .done payload

/-- The bytes taken off the stream. -/
def held (f : FrameReader) : Bytes := f.length ++ f.payload

structure WellFormed (f : FrameReader) : Prop where
  length : f.length.length ≤ 4
  /-- the payload is begun only behind a length that was checked -/
  fresh : f.length.length < 4 → f.payload = []
  short : f.length.length = 4 → f.payload.length < ofBigEndian f.length
  bounded : f.length.length = 4 → ofBigEndian f.length ≤ maxFrameSize

theorem wellFormed_start : WellFormed start := by
  constructor <;> simp [start]

/-- `read_frame` always polls with room for a byte. -/
theorem wants_pos {f : FrameReader} (formed : f.WellFormed) : 0 < f.wants := by
  unfold wants
  split
  · omega
  · have := formed.short (by have := formed.length; omega)
    omega

theorem feed_more {f f' : FrameReader} {bytes : Bytes} (formed : f.WellFormed)
    (fits : bytes.length ≤ f.wants) (more : f.feed bytes = .more f') :
    f'.WellFormed ∧ f'.held = f.held ++ bytes := by
  have room := formed.length
  unfold feed at more
  unfold wants at fits
  by_cases begun : f.length.length < 4
  · have none := formed.fresh begun
    rw [if_pos begun] at more fits
    by_cases part : (f.length ++ bytes).length < 4
    · simp only [part, if_true] at more
      cases more
      refine ⟨⟨by simp only [List.length_append] at part ⊢; omega, fun _ => none, ?_, ?_⟩, ?_⟩
      · intro full
        exact absurd part (by simp only at full; omega)
      · intro full
        exact absurd part (by simp only at full; omega)
      · simp [held, none]
    · simp only [part, if_false] at more
      split at more
      · cases more
      · rename_i good
        push Not at good
        cases more
        have full : (f.length ++ bytes).length = 4 := by
          simp only [List.length_append] at part ⊢
          omega
        refine ⟨⟨full.le, fun short => absurd short part, fun _ => ?_, fun _ => good.2⟩, ?_⟩
        · have positive := good.1
          show 0 < ofBigEndian (f.length ++ bytes)
          omega
        · simp [held, none]
  · rw [if_neg begun] at more
    simp only at more
    split at more
    · rename_i short
      cases more
      exact ⟨⟨room, fun early => absurd early begun, fun _ => short, formed.bounded⟩, by simp [held]⟩
    · cases more

/-- A frame that was read is exactly the bytes taken for it. -/
theorem feed_done {f : FrameReader} {bytes payload : Bytes} (formed : f.WellFormed)
    (fits : bytes.length ≤ f.wants) (done : f.feed bytes = .done payload) :
    f.held ++ bytes = frame payload ∧ payload.length ≤ maxFrameSize := by
  have room := formed.length
  unfold feed at done
  unfold wants at fits
  by_cases begun : f.length.length < 4
  · rw [if_pos begun] at done
    simp only at done
    split at done
    · cases done
    · split at done <;> cases done
  · have full : f.length.length = 4 := by omega
    have short := formed.short full
    have bounded := formed.bounded full
    rw [if_neg begun] at done fits
    simp only at done
    split at done
    · cases done
    · rename_i enough
      cases done
      have size : (f.payload ++ bytes).length = ofBigEndian f.length := by
        simp only [List.length_append] at enough ⊢
        omega
      refine ⟨?_, by omega⟩
      rw [held, List.append_assoc]
      exact frame_of_length full size.symm

end FrameReader

theorem writeFrame_some {codec : Codec} {m : Message} {bytes : Bytes}
    (written : writeFrame codec m = some bytes) :
    bytes = frame (codec.encode m) ∧ (codec.encode m).length ≤ maxFrameSize := by
  unfold writeFrame at written
  simp only at written
  split at written
  · cases written
  · rename_i good
    push Not at good
    cases written
    exact ⟨rfl, good.2⟩

theorem fits_of_size {payload : Bytes} (small : payload.length ≤ maxFrameSize) : Fits payload := by
  unfold maxFrameSize at small
  unfold Fits
  omega

end RustSsh.Protocol
