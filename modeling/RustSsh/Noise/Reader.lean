/-
# Noise.Reader -- what one poll of the reader does

`poll_read` is a loop whose turns stop at six places, with different parts of the
resume state reset.  `Turn` says once what a turn can do: how many bytes it takes
from the inner stream, what the stream holds afterwards, and what it returns.
`iteration_turn` proves it of the code, `turns_lt` that every repeated turn uses
up a header, so the loop ends; `pollRead_rule` is the resulting rule for a poll:
what the turns keep, and what follows when one returns, holds of the whole call.
-/
import RustSsh.Noise.Stream

namespace RustSsh.Noise

open RustSsh.Theory

set_option autoImplicit false

/-! ## Filling a buffer -/

theorem surplus_carried (space : Nat) (bytes : Bytes) (rest : List Arrival) :
    bytes ++ carried rest = bytes.take space ++ carried (surplus space bytes rest) := by
  unfold surplus
  split
  · rename_i fits
    rw [List.take_of_length_le fits]
  · simp [carried, Arrival.bytes, ← List.append_assoc, List.take_append_drop]

theorem fill_length (space : Nat) (answers : List Arrival) :
    (fill space answers).bytes.length ≤ space := by
  induction answers generalizing space with
  | nil => cases space <;> simp [fill]
  | cons answer rest ih =>
      cases space with
      | zero => simp [fill]
      | succ space =>
          cases answer with
          | failed error => simp [fill]
          | pending bytes => exact List.length_take_le ..
          | ready bytes =>
              simp only [fill]
              split
              · simp
              · split
                · have more := ih (space + 1 - bytes.length)
                  simp only [List.length_append]
                  omega
                · exact List.length_take_le ..

/-- A loop with nothing to fill does not wait. -/
theorem fill_waits {space : Nat} {answers : List Arrival}
    (waits : (fill space answers).stop ≠ .full) : 0 < space := by
  cases space with
  | zero => cases answers <;> exact absurd rfl waits
  | succ space => omega

theorem fill_full {space : Nat} {answers : List Arrival}
    (full : (fill space answers).stop = .full) : (fill space answers).bytes.length = space := by
  induction answers generalizing space with
  | nil => cases space <;> simp [fill] at full ⊢
  | cons answer rest ih =>
      cases space with
      | zero => rfl
      | succ space =>
          cases answer with
          | failed error => simp [fill] at full
          | pending bytes => simp [fill] at full
          | ready bytes =>
              simp only [fill] at full ⊢
              by_cases none : bytes = []
              · simp [none] at full
              · by_cases fits : bytes.length ≤ space + 1
                · rw [if_neg none, if_pos fits] at full
                  have more := ih full
                  rw [if_neg none, if_pos fits]
                  simp only [List.length_append, more]
                  omega
                · rw [if_neg none, if_neg fits]
                  simp only [List.length_take]
                  omega

/-- What is left of the inner stream's answers once `got` was taken from them. -/
structure Remains (answers : List Arrival) (got : Bytes) (rest : List Arrival) : Prop where
  takes : carried answers = got ++ carried rest
  closed : ∀ after, .ready [] :: after <:+ rest → .ready [] :: after <:+ answers
  failed : ∀ error, .failed error ∈ rest → .failed error ∈ answers

theorem Remains.refl (answers : List Arrival) : Remains answers [] answers :=
  ⟨rfl, fun _ closed => closed, fun _ failed => failed⟩

theorem Remains.trans {answers between rest : List Arrival} {first second : Bytes}
    (before : Remains answers first between) (after : Remains between second rest) :
    Remains answers (first ++ second) rest := by
  constructor
  · rw [before.takes, after.takes, List.append_assoc]
  · intro later closed
    exact before.closed later (after.closed later closed)
  · intro error failed
    exact before.failed error (after.failed error failed)

theorem surplus_remains (answer : Arrival) (space : Nat) (rest : List Arrival) :
    Remains (answer :: rest) (answer.bytes.take space) (surplus space answer.bytes rest) := by
  constructor
  · exact surplus_carried space answer.bytes rest
  · intro after closed
    unfold surplus at closed
    split at closed
    · exact closed.trans (List.suffix_cons answer rest)
    · rename_i more
      rcases List.suffix_cons_iff.mp closed with same | inside
      · have none : answer.bytes.drop space = [] := by simpa using congrArg List.head? same.symm
        exact absurd (List.drop_eq_nil_iff.mp none) more
      · exact inside.trans (List.suffix_cons answer rest)
  · intro error failed
    unfold surplus at failed
    split at failed
    · exact List.mem_cons_of_mem _ failed
    · cases failed with
      | tail _ inside => exact List.mem_cons_of_mem _ inside

/-- What filling takes is the start of what the inner stream carries. -/
theorem fill_remains (space : Nat) (answers : List Arrival) :
    Remains answers (fill space answers).bytes (fill space answers).rest := by
  induction answers generalizing space with
  | nil => cases space <;> exact Remains.refl []
  | cons answer rest ih =>
      cases space with
      | zero => exact Remains.refl _
      | succ space =>
          have one := surplus_remains answer (space + 1) rest
          cases answer with
          | failed error => simpa [fill, Arrival.bytes, surplus] using one
          | pending bytes => exact one
          | ready bytes =>
              simp only [fill]
              by_cases none : bytes = []
              · simpa [none, Arrival.bytes, surplus] using one
              · by_cases fits : bytes.length ≤ space + 1
                · rw [if_neg none, if_pos fits]
                  have whole : Remains (.ready bytes :: rest) bytes rest := by
                    simpa [Arrival.bytes, surplus, fits, List.take_of_length_le fits] using one
                  exact whole.trans (ih (space + 1 - bytes.length))
                · rw [if_neg none, if_neg fits]
                  exact one

theorem fill_ended {space : Nat} {answers : List Arrival}
    (ended : (fill space answers).stop = .ended) : .ready [] :: (fill space answers).rest <:+ answers := by
  induction answers generalizing space with
  | nil => cases space <;> simp [fill] at ended
  | cons answer rest ih =>
      cases space with
      | zero => simp [fill] at ended
      | succ space =>
          cases answer with
          | failed error => simp [fill] at ended
          | pending bytes => simp [fill] at ended
          | ready bytes =>
              simp only [fill] at ended ⊢
              by_cases none : bytes = []
              · simp [none]
              · by_cases fits : bytes.length ≤ space + 1
                · rw [if_neg none, if_pos fits] at ended ⊢
                  exact (ih ended).trans (List.suffix_cons _ rest)
                · simp [none, fits] at ended

theorem fill_failed {space : Nat} {answers : List Arrival} {error : IoError}
    (failed : (fill space answers).stop = .failed error) : .failed error ∈ answers := by
  induction answers generalizing space with
  | nil => cases space <;> simp [fill] at failed
  | cons answer rest ih =>
      cases space with
      | zero => simp [fill] at failed
      | succ space =>
          cases answer with
          | failed error' =>
              simp only [fill, FillStop.failed.injEq] at failed
              simp [failed]
          | pending bytes => simp [fill] at failed
          | ready bytes =>
              simp only [fill] at failed
              by_cases none : bytes = []
              · simp [none] at failed
              · by_cases fits : bytes.length ≤ space + 1
                · rw [if_neg none, if_pos fits] at failed
                  exact List.mem_cons_of_mem _ (ih failed)
                · simp [none, fits] at failed

namespace Reading

variable {S R : Type}

/-! ## The resume state -/

/-- The bytes of a frame that was begun. -/
def held (r : Reading R) : Bytes := r.readHeader ++ r.readBody

structure WellFormed (r : Reading R) : Prop where
  header : r.readHeader.length ≤ 4
  body : r.readBody.length ≤ r.bodyLength
  bounded : r.bodyLength ≤ maxCiphertextFrame
  /-- a body is allocated only for a completed header, at the length it announced -/
  announced : r.bodyLength ≠ 0 → r.readHeader.length = 4 ∧ ofBigEndian r.readHeader = r.bodyLength
  offset : r.plaintextOffset ≤ r.plaintext.length

theorem WellFormed.body_nil {r : Reading R} (formed : r.WellFormed) (none : r.bodyLength = 0) :
    r.readBody = [] := by
  apply List.eq_nil_of_length_eq_zero
  have := formed.body
  omega

theorem wellFormed_new (sending : S) (receiving : R) :
    (NoiseStream.new sending receiving).reading.WellFormed := by
  constructor <;> simp [NoiseStream.new]

/-- The half after a turn that decrypted nothing. -/
def holding (r : Reading R) (header body : Bytes) (length : Nat) : Reading R :=
  { r with plaintext := [], plaintextOffset := 0, readHeader := header, readBody := body,
           bodyLength := length }

/-- The half after a turn that decrypted. -/
def opened (receiving : R) (plaintext : Bytes) : Reading R :=
  { receiving, readHeader := [], readBody := [], bodyLength := 0, plaintext, plaintextOffset := 0 }

theorem wellFormed_opened (receiving : R) (plaintext : Bytes) :
    (opened receiving plaintext).WellFormed := by
  constructor <;> simp [opened]

theorem leftover_ne_nil {r : Reading R} : r.leftover ≠ [] ↔ r.plaintextOffset < r.plaintext.length := by
  rw [leftover, Ne, List.drop_eq_nil_iff, not_le]

/-! ## Serving what was decrypted -/

theorem serve_bytes (r : Reading R) (size : Nat) : (r.serve size).1 = r.leftover.take size := by
  simp only [serve]
  rw [Nat.min_comm]
  exact (List.take_eq_take_min ..).symm

theorem serve_leftover {r : Reading R} (formed : r.WellFormed) (size : Nat) :
    (r.serve size).2.leftover = r.leftover.drop size := by
  have inside := formed.offset
  have length : r.leftover.length = r.plaintext.length - r.plaintextOffset := by simp [leftover]
  simp only [serve]
  split
  · rename_i all
    symm
    apply List.drop_eq_nil_of_le
    omega
  · rename_i more
    have short : min r.leftover.length size = size := by omega
    rw [short, leftover, leftover, List.drop_drop]

theorem serve_held (r : Reading R) (size : Nat) : (r.serve size).2.held = r.held := by
  simp only [serve]
  split <;> rfl

theorem serve_receiving (r : Reading R) (size : Nat) : (r.serve size).2.receiving = r.receiving := by
  simp only [serve]
  split <;> rfl

theorem serve_wellFormed {r : Reading R} (formed : r.WellFormed) (size : Nat) :
    (r.serve size).2.WellFormed := by
  obtain ⟨header, body, bounded, announced, offset⟩ := formed
  simp only [serve]
  split
  · exact ⟨header, body, bounded, announced, by simp⟩
  · refine ⟨header, body, bounded, announced, ?_⟩
    simp only [leftover, List.length_drop]
    omega

/-! ## One turn -/

/-- Why a turn that decrypted nothing returned, from the half it left. -/
inductive Stops (answers : List Arrival) (r : Reading R) (rest : List Arrival) : Poll Bytes → Prop where
  | pending : Stops answers r rest .pending
  | inner {error : IoError} (reported : .failed error ∈ answers) : Stops answers r rest (.failed error)
  /-- the inner stream ended between two frames -/
  | ended (closed : .ready [] :: rest <:+ answers) (boundary : r.held = []) :
      Stops answers r rest (.done [])
  /-- the inner stream ended inside a frame -/
  | cut {error : IoError} (closed : .ready [] :: rest <:+ answers) (inside : r.held ≠ [])
      (kind : error.kind = .unexpectedEof) : Stops answers r rest (.failed error)
  | invalidLength (full : r.readHeader.length = 4) (boundary : r.readBody = [])
      (bad : ofBigEndian r.readHeader = 0 ∨ maxCiphertextFrame < ofBigEndian r.readHeader) :
      Stops answers r rest (.failed (invalidFrameLength (ofBigEndian r.readHeader)))

/-- What one turn of the loop can do. -/
inductive Turn (cipher : Cipher S R) (size : Nat) (r : Reading R) (answers : List Arrival) :
    Iteration R → Prop where
  | served (some_left : r.leftover ≠ []) :
      Turn cipher size r answers
        (.returns ⟨.done (r.leftover.take size), (r.serve size).2, answers⟩)
  | stopped {got header body : Bytes} {length : Nat} {poll : Poll Bytes} {rest : List Arrival}
      (none_left : r.leftover = []) (remains : Remains answers got rest)
      (keeps : header ++ body = r.held ++ got)
      (formed : (r.holding header body length).WellFormed)
      (incomplete : got = [] → length ≠ 0 → body.length < length)
      (why : Stops answers (r.holding header body length) rest poll) :
      Turn cipher size r answers (.returns ⟨poll, r.holding header body length, rest⟩)
  /-- a whole frame was there and did not decrypt -/
  | refused {got header body : Bytes} {error : String} {receiving : R} {rest : List Arrival}
      (none_left : r.leftover = []) (remains : Remains answers got rest)
      (keeps : header ++ body = r.held ++ got) (full : header.length = 4)
      (announced : body.length = ofBigEndian header)
      (read : cipher.readMessage r.receiving body = (.error error, receiving)) :
      Turn cipher size r answers (.returns ⟨.failed (noiseIoError error), opened receiving [], rest⟩)
  | decrypted {got header body plaintext : Bytes} {receiving : R} {rest : List Arrival}
      (none_left : r.leftover = []) (remains : Remains answers got rest)
      (keeps : header ++ body = r.held ++ got) (full : header.length = 4)
      (announced : body.length = ofBigEndian header)
      (read : cipher.readMessage r.receiving body = (.ok plaintext, receiving)) :
      Turn cipher size r answers (.again (opened receiving plaintext) rest)

/-- The length check gives a body of the announced length, begun or empty. -/
theorem allocate_ok {r r' : Reading R} (formed : r.WellFormed) (full : r.readHeader.length = 4)
    (taken : r.allocate = .ok r') :
    r' = { r with bodyLength := ofBigEndian r.readHeader } ∧ r'.WellFormed ∧ r'.bodyLength ≠ 0 := by
  unfold allocate at taken
  by_cases fresh : r.bodyLength = 0
  · rw [if_pos fresh] at taken
    have none := formed.body_nil fresh
    by_cases bad : ofBigEndian r.readHeader = 0 ∨ maxCiphertextFrame < ofBigEndian r.readHeader
    · simp [bad] at taken
    · simp only [bad, if_false, Except.ok.injEq] at taken
      push Not at bad
      subst taken
      refine ⟨by rw [none], ⟨formed.header, ?_, bad.2, fun _ => ⟨full, rfl⟩, formed.offset⟩, bad.1⟩
      simp
  · rw [if_neg fresh] at taken
    cases taken
    obtain ⟨-, same⟩ := formed.announced fresh
    exact ⟨by rw [same], formed, fresh⟩

theorem allocate_error {r : Reading R} {error : IoError} (formed : r.WellFormed)
    (taken : r.allocate = .error error) :
    error = invalidFrameLength (ofBigEndian r.readHeader) ∧ r.readBody = [] ∧
      (ofBigEndian r.readHeader = 0 ∨ maxCiphertextFrame < ofBigEndian r.readHeader) := by
  unfold allocate at taken
  by_cases fresh : r.bodyLength = 0
  · rw [if_pos fresh] at taken
    by_cases bad : ofBigEndian r.readHeader = 0 ∨ maxCiphertextFrame < ofBigEndian r.readHeader
    · simp only [bad, if_true, Except.error.injEq] at taken
      exact ⟨taken.symm, formed.body_nil fresh, bad⟩
    · simp [bad] at taken
  · simp [fresh] at taken

/-- The half once the loop that fills the header has stopped. -/
def headed (r : Reading R) (answers : List Arrival) : Reading R :=
  r.holding (r.readHeader ++ (fill (4 - r.readHeader.length) answers).bytes) r.readBody r.bodyLength

/-- The half once the loop that fills the body has stopped. -/
def bodied (r : Reading R) (answers : List Arrival) : Reading R :=
  { r with readBody := r.readBody ++ (fill (r.bodyLength - r.readBody.length) answers).bytes }

/-- A begun body comes with a full header, which takes nothing more. -/
theorem WellFormed.header_done {r : Reading R} (formed : r.WellFormed) (begun : r.bodyLength ≠ 0)
    (answers : List Arrival) :
    (fill (4 - r.readHeader.length) answers).bytes = [] ∧
      (fill (4 - r.readHeader.length) answers).stop = .full := by
  have full := (formed.announced begun).1
  simp [full, fill]

theorem WellFormed.headed {r : Reading R} (formed : r.WellFormed) (answers : List Arrival) :
    (r.headed answers).WellFormed := by
  have bounded := fill_length (4 - r.readHeader.length) answers
  have room := formed.header
  refine ⟨?_, formed.body, formed.bounded, fun begun => ?_, Nat.zero_le _⟩
  · simp only [Reading.headed, holding, List.length_append]
    omega
  · have none := (formed.header_done begun answers).1
    simpa [Reading.headed, holding, none] using formed.announced begun

theorem WellFormed.bodied {r : Reading R} (formed : r.WellFormed) (answers : List Arrival) :
    (r.bodied answers).WellFormed := by
  have bounded := fill_length (r.bodyLength - r.readBody.length) answers
  have room := formed.body
  refine ⟨formed.header, ?_, formed.bounded, formed.announced, formed.offset⟩
  simp only [Reading.bodied, List.length_append]
  omega

theorem headed_full {r : Reading R} (formed : r.WellFormed) {answers : List Arrival}
    (full : (fill (4 - r.readHeader.length) answers).stop = .full) :
    (r.headed answers).readHeader.length = 4 := by
  have complete := fill_full full
  have room := formed.header
  simp only [headed, holding, List.length_append]
  omega

theorem headed_held {r : Reading R} (formed : r.WellFormed) (answers : List Arrival) :
    (r.headed answers).held = r.held ++ (fill (4 - r.readHeader.length) answers).bytes := by
  by_cases fresh : r.bodyLength = 0
  · simp [held, headed, holding, formed.body_nil fresh]
  · simp [held, headed, holding, (formed.header_done fresh answers).1]

/-- The part of a turn behind a completed header. -/
theorem fillBody_turn (cipher : Cipher S R) (size : Nat) {r : Reading R}
    {answers between : List Arrival} {got header begun : Bytes} {length : Nat}
    (none_left : r.leftover = []) (remains : Remains answers got between)
    (keeps : header ++ begun = r.held ++ got) (full : header.length = 4)
    (formed : (r.holding header begun length).WellFormed) :
    Turn cipher size r answers ((r.holding header begun length).fillBody cipher between) := by
  unfold fillBody
  cases allocated : (r.holding header begun length).allocate with
  | error error =>
      obtain ⟨rfl, none, bad⟩ := allocate_error formed allocated
      have fresh : length = 0 := by
        by_contra begun
        have announced := (formed.announced begun).2
        have bounded := formed.bounded
        simp only [holding] at announced bounded bad
        omega
      exact .stopped none_left remains keeps formed (fun _ begun => absurd fresh begun)
        (.invalidLength full none bad)
  | ok r' =>
      obtain ⟨rfl, formed', positive⟩ := allocate_ok formed full allocated
      have later := remains.trans (fill_remains (ofBigEndian header - begun.length) between)
      have keeps' : header ++ (begun ++ (fill (ofBigEndian header - begun.length) between).bytes) =
          r.held ++ (got ++ (fill (ofBigEndian header - begun.length) between).bytes) := by
        rw [← List.append_assoc, keeps, List.append_assoc]
      have room : begun.length ≤ ofBigEndian header := formed'.body
      have formed'' := formed'.bodied between
      have begun_frame : (r.holding header
          (begun ++ (fill (ofBigEndian header - begun.length) between).bytes)
          (ofBigEndian header)).held ≠ [] := by
        apply List.append_ne_nil_of_left_ne_nil
        apply List.ne_nil_of_length_pos
        show 0 < header.length
        omega
      have incomplete (waits : (fill (ofBigEndian header - begun.length) between).stop ≠ .full)
          (nothing : got ++ (fill (ofBigEndian header - begun.length) between).bytes = []) :
          (begun ++ (fill (ofBigEndian header - begun.length) between).bytes).length <
            ofBigEndian header := by
        have := fill_waits waits
        rw [(List.append_eq_nil_iff.mp nothing).2, List.append_nil]
        omega
      simp only [holding] at *
      cases stopped : (fill (ofBigEndian header - begun.length) between).stop with
      | pending =>
          exact .stopped none_left later keeps' formed''
            (fun nothing _ => incomplete (by simp [stopped]) nothing) .pending
      | failed error =>
          exact .stopped none_left later keeps' formed''
            (fun nothing _ => incomplete (by simp [stopped]) nothing)
            (.inner (remains.failed error (fill_failed stopped)))
      | ended =>
          exact .stopped none_left later keeps' formed''
            (fun nothing _ => incomplete (by simp [stopped]) nothing)
            (.cut (remains.closed _ (fill_ended stopped)) begun_frame rfl)
      | full =>
          have complete := fill_full stopped
          simp only [decrypt]
          cases read : cipher.readMessage r.receiving
              (begun ++ (fill (ofBigEndian header - begun.length) between).bytes) with
          | mk result receiving =>
              cases result with
              | error error =>
                  exact .refused none_left later keeps' full
                    (by rw [List.length_append, complete]; omega) read
              | ok plaintext =>
                  exact .decrypted none_left later keeps' full
                    (by rw [List.length_append, complete]; omega) read

/-- **Every turn of the loop is one of these.** -/
theorem iteration_turn (cipher : Cipher S R) (size : Nat) {r : Reading R} (formed : r.WellFormed)
    (answers : List Arrival) : Turn cipher size r answers (r.iteration cipher size answers) := by
  unfold iteration
  by_cases left : r.leftover = []
  · have served : ¬ r.plaintextOffset < r.plaintext.length := by
      rw [← leftover_ne_nil]
      exact not_not_intro left
    rw [if_neg served]
    have remains := fill_remains (4 - r.readHeader.length) answers
    have keeps := headed_held formed answers
    have formed' := formed.headed answers
    have fresh (waits : (fill (4 - r.readHeader.length) answers).stop ≠ .full) :
        r.bodyLength = 0 := by
      by_contra begun
      exact waits (formed.header_done begun answers).2
    cases stopped : (fill (4 - r.readHeader.length) answers).stop with
    | pending =>
        simp only [fillHeader, stopped]
        exact .stopped left remains keeps formed'
          (fun _ begun => absurd (fresh (by simp [stopped])) begun) .pending
    | failed error =>
        simp only [fillHeader, stopped]
        exact .stopped left remains keeps formed'
          (fun _ begun => absurd (fresh (by simp [stopped])) begun) (.inner (fill_failed stopped))
    | ended =>
        have open_body := fresh (by simp [stopped])
        have no_body := formed.body_nil open_body
        simp only [fillHeader, stopped]
        by_cases none : r.readHeader ++ (fill (4 - r.readHeader.length) answers).bytes = []
        · rw [if_pos none]
          refine .stopped left remains keeps formed' (fun _ begun => absurd open_body begun)
            (.ended (fill_ended stopped) ?_)
          simpa [held, holding, no_body] using none
        · rw [if_neg none]
          refine .stopped left remains keeps formed' (fun _ begun => absurd open_body begun)
            (.cut (fill_ended stopped) ?_ rfl)
          simp only [held, holding, no_body, List.append_nil]
          exact none
    | full =>
        simp only [fillHeader, stopped]
        exact fillBody_turn cipher size left remains keeps (headed_full formed stopped) formed'
  · rw [if_pos (leftover_ne_nil.mp left)]
    have served : Turn cipher size r answers _ := .served left
    rw [← serve_bytes] at served
    exact served

/-! ## The loop -/

/-- A turn that repeats has used up a header. -/
theorem Turn.turns_lt {cipher : Cipher S R} {size : Nat} {r r' : Reading R}
    {answers rest : List Arrival} (formed : r.WellFormed)
    (turn : Turn cipher size r answers (.again r' rest)) : r'.turns rest < r.turns answers := by
  cases turn with
  | decrypted none_left remains keeps full announced read =>
      rename_i got header body plaintext receiving
      have taken := congrArg List.length remains.takes
      have whole := congrArg List.length keeps
      simp only [held, List.length_append] at taken whole
      simp only [turns, opened, List.length_nil]
      by_cases fresh : r.bodyLength = 0
      · have := formed.body_nil fresh
        simp only [this, List.length_nil] at whole
        omega
      · have := (formed.announced fresh).1
        omega

/-- What a poll returned, by the turns it took. -/
inductive Polled (cipher : Cipher S R) (size : Nat) : Reading R → List Arrival → ReadReturn R → Prop where
  | returns {r : Reading R} {answers : List Arrival} {ret : ReadReturn R} (formed : r.WellFormed)
      (turn : Turn cipher size r answers (.returns ret)) : Polled cipher size r answers ret
  | again {r r' : Reading R} {answers rest : List Arrival} {ret : ReadReturn R}
      (formed : r.WellFormed) (turn : Turn cipher size r answers (.again r' rest))
      (later : Polled cipher size r' rest ret) : Polled cipher size r answers ret

theorem loop_polled (cipher : Cipher S R) (size : Nat) {bound : Nat} {r : Reading R}
    {answers : List Arrival} (formed : r.WellFormed) (enough : r.turns answers < bound) :
    Polled cipher size r answers (r.loop cipher size bound answers) := by
  induction bound generalizing r answers with
  | zero => omega
  | succ bound ih =>
      have turn := iteration_turn cipher size formed answers
      simp only [loop]
      cases same : r.iteration cipher size answers with
      | returns ret =>
          rw [same] at turn
          exact .returns formed turn
      | again r' rest =>
          rw [same] at turn
          have fewer := turn.turns_lt formed
          have formed' : r'.WellFormed := by
            cases turn
            exact wellFormed_opened _ _
          exact .again formed turn (ih formed' (by omega))

end Reading

/-- **A poll is turns of the loop until one returns.** -/
theorem pollRead_polled {S R : Type} (cipher : Cipher S R) {r : Reading R} (formed : r.WellFormed)
    {size : Nat} (positive : 0 < size) (answers : List Arrival) :
    Reading.Polled cipher size r answers (pollRead cipher r size answers) := by
  rw [pollRead, if_neg (by omega)]
  exact Reading.loop_polled cipher size formed (Nat.lt_succ_self _)

namespace Reading.Polled

variable {S R : Type} {cipher : Cipher S R} {size : Nat} {r : Reading R} {answers : List Arrival}
  {ret : ReadReturn R}

theorem wellFormed (polled : Polled cipher size r answers ret) : ret.stream.WellFormed := by
  induction polled with
  | returns formed turn =>
      cases turn with
      | served some_left => exact serve_wellFormed formed size
      | stopped none_left remains keeps formed' incomplete why => exact formed'
      | refused none_left remains keeps full announced read => exact wellFormed_opened _ _
  | again formed turn later ih => exact ih

/-- A poll returns at most what the buffer has room for. -/
theorem bytes_length (polled : Polled cipher size r answers ret) : ret.poll.bytes.length ≤ size := by
  induction polled with
  | returns formed turn =>
      cases turn with
      | served some_left => exact List.length_take_le ..
      | stopped none_left remains keeps formed' incomplete why => cases why <;> exact Nat.zero_le _
      | refused none_left remains keeps full announced read => exact Nat.zero_le _
  | again formed turn later ih => exact ih

theorem remains (polled : Polled cipher size r answers ret) : ∃ got, Remains answers got ret.rest := by
  induction polled with
  | returns formed turn =>
      cases turn with
      | served some_left => exact ⟨[], Remains.refl _⟩
      | stopped none_left remains keeps formed' incomplete why => exact ⟨_, remains⟩
      | refused none_left remains keeps full announced read => exact ⟨_, remains⟩
  | again formed turn later ih =>
      obtain ⟨more, after⟩ := ih
      cases turn with
      | decrypted none_left remains keeps full announced read => exact ⟨_, remains.trans after⟩

/-- A poll with room for a byte returns none only where the inner stream ended at a
frame boundary. -/
theorem zero_bytes (polled : Polled cipher size r answers ret) (positive : 0 < size)
    (none : ret.poll = .done []) :
    .ready [] :: ret.rest <:+ answers ∧ ret.stream.held = [] := by
  induction polled with
  | @returns r answers ret formed turn =>
      cases turn with
      | served some_left =>
          have empty : r.leftover.take size = [] := by simpa using none
          rcases List.take_eq_nil_iff.mp empty with zero | nothing
          · omega
          · exact absurd nothing some_left
      | stopped none_left remains keeps formed' incomplete why =>
          cases none
          cases why with
          | ended closed boundary => exact ⟨closed, boundary⟩
      | refused none_left remains keeps full announced read => cases none
  | again formed turn later ih =>
      obtain ⟨closed, boundary⟩ := ih none
      cases turn with
      | decrypted none_left remains keeps full announced read =>
          exact ⟨remains.closed _ closed, boundary⟩

end Reading.Polled

end RustSsh.Noise
