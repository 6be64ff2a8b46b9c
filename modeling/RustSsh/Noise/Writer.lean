/-
# Noise.Writer -- what one call of the writer does

A chunk is encrypted and queued by the `poll_write` that takes it, and its wire
form may need any number of later calls to go out.  `Pushed` says what a call does
with the queued chunk: it goes out whole, exactly when the inner stream takes all
that is left (`takesAll`), or stays queued from a later offset on.  `Wrote` and
`Finished` say the same of `poll_write` and of `poll_flush` and `poll_shutdown`.
-/
import RustSsh.Noise.Stream

namespace RustSsh.Noise

open RustSsh.Theory

set_option autoImplicit false

/-- The inner stream takes `left` bytes within these answers. -/
def takesAll : Nat → List (Poll Nat) → Bool
  | 0, _ => true
  | left + 1, .done written :: rest =>
      written ≠ 0 && written ≤ left + 1 && takesAll (left + 1 - written) rest
  | _ + 1, _ => false

namespace PendingWrite

/-- The wire bytes that have not gone out. -/
def left (pending : PendingWrite) : Bytes := pending.wire.drop pending.offset

def WellFormed (pending : PendingWrite) : Prop := pending.offset ≤ pending.wire.length

theorem left_length (pending : PendingWrite) :
    pending.left.length = pending.wire.length - pending.offset := by
  simp [left]

end PendingWrite

variable {S R : Type}

/-- What `poll_pending_write` does with a queued chunk. -/
inductive Pushed (sending : S) (pending : PendingWrite) (answers : List (Poll Nat)) :
    WriteReturn S (Option Nat) → Prop where
  | completed (all : takesAll pending.left.length answers = true) :
      Pushed sending pending answers
        ⟨.done (some pending.plaintextLen), ⟨sending, none⟩, pending.left⟩
  | stuck {poll : Poll (Option Nat)} {offset : Nat} {sent : Bytes}
      (short : takesAll pending.left.length answers = false)
      (formed : offset ≤ pending.wire.length)
      (sends : pending.left = sent ++ pending.wire.drop offset)
      (unfinished : ∀ count, poll ≠ .done count) :
      Pushed sending pending answers
        ⟨poll, ⟨sending, some { pending with offset := offset }⟩, sent⟩

theorem pollPendingWrite_idle {w : Writing S} (idle : w.pendingWrite = none)
    (answers : List (Poll Nat)) : pollPendingWrite w answers = ⟨.done none, w, []⟩ := by
  cases w with
  | mk sending pendingWrite =>
      cases idle
      cases answers <;> rfl

/-- The call stops before the inner stream took anything. -/
theorem Pushed.nothing (sending : S) {pending : PendingWrite} {answers : List (Poll Nat)}
    {poll : Poll (Option Nat)} (formed : pending.WellFormed)
    (short : takesAll pending.left.length answers = false)
    (unfinished : ∀ count, poll ≠ .done count) :
    Pushed sending pending answers ⟨poll, ⟨sending, some pending⟩, []⟩ :=
  .stuck short formed rfl unfinished

/-- The inner stream took a part, and the loop went on. -/
theorem Pushed.advance {sending : S} {pending : PendingWrite} {rest : List (Poll Nat)}
    {written : Nat} {later : WriteReturn S (Option Nat)} (positive : written ≠ 0)
    (fits : written ≤ pending.left.length)
    (pushed : Pushed sending { pending with offset := pending.offset + written } rest later) :
    Pushed sending pending (.done written :: rest)
      ⟨later.poll, later.stream, pending.left.take written ++ later.sent⟩ := by
  have after : ({ pending with offset := pending.offset + written } : PendingWrite).left =
      pending.left.drop written := by simp [PendingWrite.left]
  have parts : pending.left.take written ++ pending.left.drop written = pending.left :=
    List.take_append_drop written pending.left
  have takes : takesAll pending.left.length (.done written :: rest) =
      takesAll (pending.left.length - written) rest := by
    cases same : pending.left.length with
    | zero => omega
    | succ left =>
        have fits' : written ≤ left + 1 := by omega
        simp [takesAll, positive, fits']
  cases pushed with
  | completed all =>
      rw [after, List.length_drop] at all
      rw [after, parts]
      exact .completed (by rw [takes, all])
  | stuck short formed sends unfinished =>
      rw [after, List.length_drop] at short
      rw [after] at sends
      refine .stuck (by rw [takes, short]) formed ?_ unfinished
      rw [List.append_assoc, ← sends, parts]

/-- Nothing is left to push. -/
theorem Pushed.spent (sending : S) {pending : PendingWrite} (answers : List (Poll Nat))
    (all : pending.offset = pending.wire.length) :
    Pushed sending pending answers ⟨.done (some pending.plaintextLen), ⟨sending, none⟩, []⟩ := by
  have left : pending.left = [] := by simp [PendingWrite.left, all]
  have completed : Pushed sending pending answers _ := .completed (by simp [left, takesAll])
  rw [left] at completed
  exact completed

/-- `poll_pending_write` on a queued chunk, by induction on the answers. -/
theorem pollPendingWrite_pushed (sending : S) {pending : PendingWrite} (formed : pending.WellFormed)
    (answers : List (Poll Nat)) :
    Pushed sending pending answers (pollPendingWrite ⟨sending, some pending⟩ answers) := by
  have left := pending.left_length
  have inside : pending.offset ≤ pending.wire.length := formed
  induction answers generalizing pending with
  | nil =>
      unfold pollPendingWrite
      by_cases all : pending.offset = pending.wire.length
      · simp only [all, if_true]
        exact .spent sending [] all
      · simp only [all, if_false]
        obtain ⟨more, positive⟩ : ∃ more, pending.left.length = more + 1 :=
          ⟨pending.left.length - 1, by omega⟩
        exact .nothing sending formed (by rw [positive]; rfl) (by simp)
  | cons answer rest ih =>
      unfold pollPendingWrite
      by_cases all : pending.offset = pending.wire.length
      · simp only [all, if_true]
        exact .spent sending _ all
      · simp only [all, if_false]
        obtain ⟨more, positive⟩ : ∃ more, pending.left.length = more + 1 :=
          ⟨pending.left.length - 1, by omega⟩
        cases answer with
        | pending => exact .nothing sending formed (by rw [positive]; rfl) (by simp)
        | failed error => exact .nothing sending formed (by rw [positive]; rfl) (by simp)
        | done written =>
            by_cases zero : written = 0
            · simp only [zero, if_true]
              exact .nothing sending formed (by rw [positive]; simp [takesAll]) (by simp)
            · by_cases excess : pending.wire.length - pending.offset < written
              · simp only [zero, excess, if_true, if_false]
                refine .nothing sending formed ?_ (by simp)
                have beyond : ¬ written ≤ more + 1 := by omega
                rw [positive]
                simp [takesAll, beyond]
              · simp only [zero, excess, if_false]
                have formed' : pending.offset + written ≤ pending.wire.length := by omega
                apply Pushed.advance zero (by omega)
                exact ih formed' (PendingWrite.left_length _) formed'

/-! ## The calls -/

namespace Writing

def WellFormed (w : Writing S) : Prop := ∀ pending, w.pendingWrite = some pending → pending.WellFormed

/-- The wire bytes that are queued. -/
def queued (w : Writing S) : Bytes :=
  match w.pendingWrite with
  | none => []
  | some pending => pending.left

theorem queued_idle {w : Writing S} (idle : w.pendingWrite = none) : w.queued = [] := by
  rw [queued, idle]

theorem queued_pending {w : Writing S} {pending : PendingWrite}
    (some_pending : w.pendingWrite = some pending) : w.queued = pending.left := by
  rw [queued, some_pending]

end Writing

theorem Pushed.wellFormed {sending : S} {pending : PendingWrite} {answers : List (Poll Nat)}
    {ret : WriteReturn S (Option Nat)} (pushed : Pushed sending pending answers ret) :
    ret.stream.WellFormed := by
  cases pushed with
  | completed all =>
      intro pending here
      cases here
  | stuck short formed sends unfinished =>
      intro pending here
      cases here
      exact formed

/-- What went out and what is queued make up what was queued. -/
theorem Pushed.sends {sending : S} {pending : PendingWrite} {answers : List (Poll Nat)}
    {ret : WriteReturn S (Option Nat)} (pushed : Pushed sending pending answers ret) :
    pending.left = ret.sent ++ ret.stream.queued := by
  cases pushed with
  | completed all => simp [Writing.queued]
  | stuck short formed sends unfinished => exact sends

theorem Pushed.sending {sending : S} {pending : PendingWrite} {answers : List (Poll Nat)}
    {ret : WriteReturn S (Option Nat)} (pushed : Pushed sending pending answers ret) :
    ret.stream.sending = sending := by
  cases pushed <;> rfl

/-- What `poll_write` does. -/
inductive Wrote (cipher : Cipher S R) (w : Writing S) (buffer : Bytes) (answers : List (Poll Nat)) :
    WriteReturn S Nat → Prop where
  /-- the chunk of an earlier call, whatever the buffer -/
  | resumed {pending : PendingWrite} {ret : WriteReturn S (Option Nat)}
      (queued : w.pendingWrite = some pending) (pushed : Pushed w.sending pending answers ret) :
      Wrote cipher w buffer answers ⟨reportQueued ret.poll, ret.stream, ret.sent⟩
  | nothing (idle : w.pendingWrite = none) (empty : buffer = []) :
      Wrote cipher w buffer answers ⟨.done 0, w, []⟩
  | refused {error : String} (idle : w.pendingWrite = none)
      (message : cipher.writeMessage w.sending (buffer.take maxPlaintextChunk) = .error error) :
      Wrote cipher w buffer answers ⟨.failed (noiseIoError error), w, []⟩
  /-- a chunk of this buffer -/
  | encrypted {ciphertext : Bytes} {sending : S} {ret : WriteReturn S (Option Nat)}
      (idle : w.pendingWrite = none) (nonempty : buffer ≠ [])
      (message : cipher.writeMessage w.sending (buffer.take maxPlaintextChunk) =
        .ok (ciphertext, sending))
      (pushed : Pushed sending
        { wire := frame ciphertext, offset := 0,
          plaintextLen := (buffer.take maxPlaintextChunk).length } answers ret) :
      Wrote cipher w buffer answers ⟨reportQueued ret.poll, ret.stream, ret.sent⟩

theorem pollWrite_wrote (cipher : Cipher S R) {w : Writing S} (formed : w.WellFormed)
    (buffer : Bytes) (answers : List (Poll Nat)) :
    Wrote cipher w buffer answers (pollWrite cipher w buffer answers) := by
  obtain ⟨sending, pendingWrite⟩ := w
  cases pendingWrite with
  | some pending =>
      have pushed := pollPendingWrite_pushed sending (formed pending rfl) answers
      have wrote : Wrote cipher ⟨sending, some pending⟩ buffer answers _ := .resumed rfl pushed
      unfold pollWrite
      generalize pollPendingWrite ⟨sending, some pending⟩ answers = ret at pushed wrote ⊢
      cases pushed with
      | completed all => exact wrote
      | stuck short inside sends unfinished =>
          rename_i poll offset sent
          cases poll with
          | done count => exact absurd rfl (unfinished count)
          | pending => exact wrote
          | failed error => exact wrote
  | none =>
      unfold pollWrite
      rw [pollPendingWrite_idle rfl]
      by_cases empty : buffer = []
      · simp only [empty, if_true]
        exact .nothing rfl rfl
      · have short : buffer.take (min buffer.length maxPlaintextChunk) =
            buffer.take maxPlaintextChunk := by
          rw [Nat.min_comm]
          exact (List.take_eq_take_min ..).symm
        have count : min buffer.length maxPlaintextChunk =
            (buffer.take maxPlaintextChunk).length := by simp [Nat.min_comm]
        simp only [empty, if_false, short]
        cases message : cipher.writeMessage sending (buffer.take maxPlaintextChunk) with
        | error error => exact .refused rfl message
        | ok result =>
            obtain ⟨ciphertext, sending'⟩ := result
            rw [count]
            exact .encrypted rfl empty message (pollPendingWrite_pushed sending' (Nat.zero_le _) answers)

/-- What `poll_flush` and `poll_shutdown` do. -/
inductive Finished (w : Writing S) (answers : List (Poll Nat)) (inner : Poll Unit) :
    WriteReturn S Unit → Prop where
  | idle (idle : w.pendingWrite = none) : Finished w answers inner ⟨inner, w, []⟩
  /-- the chunk went out and its length was dropped, or is still queued -/
  | pushed {pending : PendingWrite} {ret : WriteReturn S (Option Nat)} {poll : Poll Unit}
      (queued : w.pendingWrite = some pending) (pushed : Pushed w.sending pending answers ret) :
      Finished w answers inner ⟨poll, ret.stream, ret.sent⟩

theorem afterPendingWrite_finished {w : Writing S} (formed : w.WellFormed)
    (answers : List (Poll Nat)) (inner : Poll Unit) :
    Finished w answers inner (afterPendingWrite w answers inner) := by
  obtain ⟨sending, pendingWrite⟩ := w
  cases pendingWrite with
  | some pending =>
      have pushed := pollPendingWrite_pushed sending (formed pending rfl) answers
      unfold afterPendingWrite
      generalize pollPendingWrite ⟨sending, some pending⟩ answers = ret at pushed ⊢
      cases pushed with
      | completed all => exact .pushed rfl (.completed all)
      | stuck short inside sends unfinished =>
          rename_i poll offset sent
          have stuck : Pushed sending pending answers _ := .stuck short inside sends unfinished
          cases poll with
          | done count => exact absurd rfl (unfinished count)
          | pending => exact .pushed rfl stuck
          | failed error => exact .pushed rfl stuck
  | none =>
      unfold afterPendingWrite
      rw [pollPendingWrite_idle rfl]
      exact .idle rfl

end RustSsh.Noise
