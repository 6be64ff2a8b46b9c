/-
# Theory.Framing -- length-prefixed frames

A frame is the length of its payload as four bytes, most significant first,
followed by the payload.  A stream of frames is read back without lookahead: the
first four bytes say how many more belong to the frame, so a reader that takes
exactly these is again at a boundary.  `frames_header` is what a resumable reader
needs once a header is full, and `frames_prefix` that a stream is read in one way.
-/
import Mathlib.Algebra.Group.Nat.Defs
import Mathlib.Data.List.Infix

namespace RustSsh.Theory

set_option autoImplicit false

abbrev Bytes := List UInt8

/-! ## Big-endian numbers -/

/-- The low `width` bytes of `n`, most significant first. -/
def bigEndian : Nat → Nat → Bytes
  | 0, _ => []
  | width + 1, n => bigEndian width (n / 256) ++ [UInt8.ofNat n]

def ofBigEndian (bytes : Bytes) : Nat :=
  bytes.foldl (fun n byte => n * 256 + byte.toNat) 0

@[simp] theorem length_bigEndian (width n : Nat) : (bigEndian width n).length = width := by
  induction width generalizing n with
  | zero => rfl
  | succ width ih => simp [bigEndian, ih]

theorem ofBigEndian_snoc (bytes : Bytes) (byte : UInt8) :
    ofBigEndian (bytes ++ [byte]) = ofBigEndian bytes * 256 + byte.toNat := by
  simp [ofBigEndian]

theorem ofBigEndian_bigEndian (width n : Nat) (fits : n < 256 ^ width) :
    ofBigEndian (bigEndian width n) = n := by
  induction width generalizing n with
  | zero =>
      have zero : n = 0 := by simpa using fits
      simp [zero, bigEndian, ofBigEndian]
  | succ width ih =>
      have shorter : n / 256 < 256 ^ width := by
        apply (Nat.div_lt_iff_lt_mul (by decide)).mpr
        simpa [Nat.pow_succ] using fits
      rw [bigEndian, ofBigEndian_snoc, ih (n / 256) shorter, UInt8.toNat_ofNat']
      omega

theorem bigEndian_ofBigEndian (bytes : Bytes) :
    bigEndian bytes.length (ofBigEndian bytes) = bytes := by
  induction bytes using List.reverseRecOn with
  | nil => rfl
  | append_singleton bytes byte ih =>
      have small : byte.toNat < 256 := byte.toNat_lt
      have high : (ofBigEndian bytes * 256 + byte.toNat) / 256 = ofBigEndian bytes := by omega
      have low : UInt8.ofNat (ofBigEndian bytes * 256 + byte.toNat) = byte := by
        apply UInt8.toNat_inj.mp
        rw [UInt8.toNat_ofNat']
        omega
      rw [List.length_append, List.length_singleton, bigEndian, ofBigEndian_snoc, high, low, ih]

/-! ## Frames -/

/-- The four length bytes and the payload. -/
def frame (payload : Bytes) : Bytes :=
  bigEndian 4 payload.length ++ payload

/-- The frames one after the other. -/
def frames (payloads : List Bytes) : Bytes :=
  payloads.flatMap frame

/-- The length of the payload fits in the four bytes of its header. -/
def Fits (payload : Bytes) : Prop := payload.length < 256 ^ 4

@[simp] theorem length_frame (payload : Bytes) : (frame payload).length = 4 + payload.length := by
  simp [frame]

@[simp] theorem frames_nil : frames [] = [] := rfl

@[simp] theorem frames_cons (payload : Bytes) (rest : List Bytes) :
    frames (payload :: rest) = frame payload ++ frames rest := rfl

@[simp] theorem frames_append (first second : List Bytes) :
    frames (first ++ second) = frames first ++ frames second := by
  simp [frames]

/-- A full header announces the first payload, which the rest starts with. -/
theorem frames_header {header rest : Bytes} {payloads : List Bytes}
    (stream : header ++ rest = frames payloads) (full : header.length = 4)
    (fits : ∀ payload ∈ payloads, Fits payload) :
    ∃ first others, payloads = first :: others ∧ ofBigEndian header = first.length ∧
      rest = first ++ frames others := by
  cases payloads with
  | nil =>
      have none : header = [] := (List.append_eq_nil_iff.mp stream).1
      simp [none] at full
  | cons first others =>
      rw [frames_cons, frame, List.append_assoc] at stream
      obtain ⟨same, after⟩ := List.append_inj stream (by simp [full])
      refine ⟨first, others, rfl, ?_, after⟩
      rw [same]
      exact ofBigEndian_bigEndian 4 _ (fits first List.mem_cons_self)

/-- A length and as many bytes are a frame. -/
theorem frame_of_length {header payload : Bytes} (full : header.length = 4)
    (announced : ofBigEndian header = payload.length) : header ++ payload = frame payload := by
  rw [frame, ← announced, ← full, bigEndian_ofBigEndian]

/-- Frames are read off a stream in one way: those at its start, and what follows them. -/
theorem frames_prefix {read sent : List Bytes} {rest more : Bytes}
    (stream : frames read ++ rest <+: frames sent ++ more)
    (fits : ∀ payload ∈ read, Fits payload) (fits' : ∀ payload ∈ sent, Fits payload)
    (fewer : read.length ≤ sent.length ∨ more = []) :
    ∃ later, sent = read ++ later ∧ rest <+: frames later ++ more := by
  induction read generalizing sent with
  | nil => exact ⟨sent, rfl, stream⟩
  | cons first read ih =>
      obtain ⟨beyond, split⟩ := stream
      cases sent with
      | nil =>
          rcases fewer with short | rfl
          · simp at short
          · have sizes := congrArg List.length split
            simp only [frames_cons, frames_nil, List.length_append, length_frame, List.length_nil]
              at sizes
            omega
      | cons first' sent =>
          simp only [frames_cons, frame, List.append_assoc] at split
          obtain ⟨header, body⟩ := List.append_inj split (by simp)
          have same : first.length = first'.length := by
            rw [← ofBigEndian_bigEndian 4 first.length (fits first List.mem_cons_self), header,
              ofBigEndian_bigEndian 4 _ (fits' first' List.mem_cons_self)]
          obtain ⟨rfl, tail⟩ := List.append_inj body same
          have fewer' : read.length ≤ sent.length ∨ more = [] := by
            simpa only [List.length_cons, Nat.add_le_add_iff_right] using fewer
          have stream' : frames read ++ rest <+: frames sent ++ more := ⟨beyond, by rw [← tail]; simp⟩
          obtain ⟨later, rfl, after⟩ := ih stream'
            (fun payload inside => fits payload (List.mem_cons_of_mem _ inside))
            (fun payload inside => fits' payload (List.mem_cons_of_mem _ inside)) fewer'
          exact ⟨later, rfl, after⟩

example : frame [7, 8, 9] = [0, 0, 0, 3, 7, 8, 9] := by decide

end RustSsh.Theory
