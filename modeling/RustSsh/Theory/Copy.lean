/-
# Theory.Copy -- a task that copies a stream

A copier makes one call on its streams at a time and goes on from the answer (`Copier`).  All
that is known of one is what it promises (`CopiesToEnd`): when it has succeeded, the input has
ended and all of it was written.  Both are said of the calls and answers of its run, in order,
so they do not depend on what happens between two of them.

`copyLoop` is a copier with one buffer, and keeps the promise (`copyLoop_copies`).
-/
import Mathlib.Data.List.Basic

namespace RustSsh.Theory

set_option autoImplicit false

variable {β C : Type}

/-! ## Calls and answers -/

inductive IoCall (β : Type) where
  | read
  | write (bytes : List β)
  | flush
  deriving DecidableEq, Repr

inductive IoAnswer (β : Type) where
  /-- a chunk; an empty one at the end of the input -/
  | got (bytes : List β)
  | wrote (count : Nat)
  | flushed
  | pending
  | failed (error : String)
  deriving DecidableEq, Repr

/-- The answers a call can get. -/
def IoCall.takes : IoCall β → IoAnswer β → Bool
  | _, .pending | _, .failed _ => true
  | .read, .got _ => true
  | .write bytes, .wrote count => count ≤ bytes.length
  | .flush, .flushed => true
  | _, _ => false

abbrev IoEvent (β : Type) := IoCall β × IoAnswer β

/-- The end of the input was read. -/
def Ended (log : List (IoEvent β)) : Prop := (.read, .got []) ∈ log

instance [DecidableEq β] (log : List (IoEvent β)) : Decidable (Ended log) :=
  inferInstanceAs (Decidable (_ ∈ _))

/-- What the input yielded up to its end. -/
def yielded : List (IoEvent β) → List β
  | [] => []
  | (.read, .got []) :: _ => []
  | (.read, .got bytes) :: rest => bytes ++ yielded rest
  | _ :: rest => yielded rest

/-- What the output took. -/
def written : List (IoEvent β) → List β
  | [] => []
  | (.write bytes, .wrote count) :: rest => bytes.take count ++ written rest
  | _ :: rest => written rest

theorem written_append (log more : List (IoEvent β)) :
    written (log ++ more) = written log ++ written more := by
  fun_induction written log with
  | case1 => rfl
  | case2 bytes count rest ih => simp [written, ih]
  | case3 event rest other ih => simp [written, ih]

/-- Nothing counts behind the end. -/
theorem yielded_append_ended {log : List (IoEvent β)} (ended : Ended log)
    (more : List (IoEvent β)) : yielded (log ++ more) = yielded log := by
  fun_induction yielded log with
  | case1 => cases ended
  | case2 rest => rfl
  | case3 bytes rest open_ ih =>
      have later : Ended rest := by
        rcases List.mem_cons.mp ended with here | later
        · simp only [Prod.mk.injEq, IoAnswer.got.injEq, true_and] at here
          exact absurd here.symm open_
        · exact later
      simp [yielded, ih later]
  | case4 event rest notEnd notRead ih =>
      have later : Ended rest := by
        rcases List.mem_cons.mp ended with here | later
        · exact absurd here.symm notEnd
        · exact later
      simp [yielded, ih later]

theorem yielded_append {log : List (IoEvent β)} (open_ : ¬ Ended log)
    (more : List (IoEvent β)) : yielded (log ++ more) = yielded log ++ yielded more := by
  fun_induction yielded log with
  | case1 => rfl
  | case2 rest => exact absurd List.mem_cons_self open_
  | case3 bytes rest notEnd ih =>
      have later : ¬ Ended rest := fun ended => open_ (List.mem_cons_of_mem _ ended)
      simp [yielded, ih later]
  | case4 event rest notEnd notRead ih =>
      have later : ¬ Ended rest := fun ended => open_ (List.mem_cons_of_mem _ ended)
      simp [yielded, ih later]

/-! ## Copiers -/

/-- What a copier does next. -/
inductive CopyWants (β : Type) where
  | call (call : IoCall β)
  /-- the poll ends here -/
  | suspend
  | finished (result : Except String Nat)
  deriving DecidableEq, Repr

structure Copier (β C : Type) where
  start : C
  wants : C → CopyWants β
  answer : C → IoAnswer β → C
  /-- the next poll -/
  resume : C → C

namespace Copier

variable (m : Copier β C)

/-- A copier that has made these calls, with these answers, is in this state. -/
inductive Runs : List (IoEvent β) → C → Prop where
  | start : Runs [] m.start
  | answer {log : List (IoEvent β)} {c : C} {call : IoCall β} {a : IoAnswer β} : Runs log c →
      m.wants c = .call call → call.takes a = true → Runs (log ++ [(call, a)]) (m.answer c a)
  | resume {log : List (IoEvent β)} {c : C} : Runs log c → m.wants c = .suspend →
      Runs log (m.resume c)

/-- **It copies until the end of the input**: when it has succeeded, there was one, and what
came before was written. -/
structure CopiesToEnd : Prop where
  ended : ∀ log c count, m.Runs log c → m.wants c = .finished (.ok count) → Ended log
  complete : ∀ log c count, m.Runs log c → m.wants c = .finished (.ok count) →
    written log = yielded log

end Copier

/-! ## A copier with one buffer -/

inductive LoopPoint where
  | reading
  | writing
  /-- behind the end of the input -/
  | flushing
  /-- a flush while there is nothing to read -/
  | idling
  | waiting
  | finished (result : Except String Nat)
  deriving DecidableEq, Repr

structure CopyLoop (β : Type) where
  /-- what was read and not written -/
  left : List β
  ended : Bool
  /-- something was written since the last flush -/
  unflushed : Bool
  amount : Nat
  point : LoopPoint
  deriving DecidableEq, Repr

namespace CopyLoop

/-- What is left is written; then the end is flushed, or more is read. -/
def next (s : CopyLoop β) : CopyLoop β :=
  if s.left ≠ [] then { s with point := .writing }
  else if s.ended then { s with point := .flushing }
  else { s with point := .reading }

def wants (s : CopyLoop β) : CopyWants β :=
  match s.point with
  | .reading => .call .read
  | .writing => .call (.write s.left)
  | .flushing | .idling => .call .flush
  | .waiting => .suspend
  | .finished result => .finished result

def answer (s : CopyLoop β) (a : IoAnswer β) : CopyLoop β :=
  match s.point, a with
  | .reading, .got bytes =>
      if bytes = [] then { s with ended := true }.next else { s with left := s.left ++ bytes }.next
  | .reading, .pending =>
      if s.left ≠ [] then { s with point := .writing }
      else if s.unflushed then { s with point := .idling }
      else { s with point := .waiting }
  | .writing, .wrote count =>
      if count = 0 then { s with point := .finished (.error "write zero byte into writer") }
      else
        { s with left := s.left.drop count, amount := s.amount + count, unflushed := true }.next
  | .flushing, .flushed => { s with point := .finished (.ok s.amount) }
  | .idling, .flushed => { s with unflushed := false, point := .waiting }
  | _, .pending => { s with point := .waiting }
  | _, .failed error => { s with point := .finished (.error error) }
  | _, _ => s

/-- More is read before the rest is written. -/
def resume (s : CopyLoop β) : CopyLoop β := if s.ended then s.next else { s with point := .reading }

end CopyLoop

def copyLoop (β : Type) : Copier β (CopyLoop β) where
  start := ⟨[], false, false, 0, .reading⟩
  wants := CopyLoop.wants
  answer := CopyLoop.answer
  resume := CopyLoop.resume

namespace CopyLoop

/-- What was read was written or is left. -/
structure Kept (log : List (IoEvent β)) (s : CopyLoop β) : Prop where
  ended : s.ended = true ↔ Ended log
  bytes : written log ++ s.left = yielded log

/-- What the places of the loop know. -/
structure Placed (s : CopyLoop β) : Prop where
  reading : s.point = .reading → s.ended = false
  flushing : s.point = .flushing → s.ended = true ∧ s.left = []
  finished : ∀ count, s.point = .finished (.ok count) → s.ended = true ∧ s.left = []

theorem placed_next (s : CopyLoop β) : s.next.Placed := by
  unfold next
  by_cases rest : s.left = []
  · by_cases ended : s.ended = true
    · rw [if_neg (by simpa using rest), if_pos ended]
      exact ⟨by simp, fun _ => ⟨ended, rest⟩, by simp⟩
    · rw [if_neg (by simpa using rest), if_neg ended]
      exact ⟨fun _ => by simpa using ended, by simp, by simp⟩
  · rw [if_pos rest]
    exact ⟨by simp, by simp, by simp⟩

theorem Kept.next {log : List (IoEvent β)} {s : CopyLoop β} (kept : s.Kept log) :
    s.next.Kept log := by
  obtain ⟨ended, bytes⟩ := kept
  unfold CopyLoop.next
  split
  · exact ⟨ended, bytes⟩
  · split
    · exact ⟨ended, bytes⟩
    · exact ⟨ended, bytes⟩

/-- An event that moves nothing. -/
theorem Kept.idle {log : List (IoEvent β)} {s s' : CopyLoop β} (kept : s.Kept log)
    {event : IoEvent β} (ended : event ≠ (.read, .got [])) (none : written [event] = [])
    (nothing : yielded [event] = []) (same : s'.ended = s.ended ∧ s'.left = s.left) :
    s'.Kept (log ++ [event]) := by
  refine ⟨?_, ?_⟩
  · rw [same.1, kept.ended, Ended, Ended, List.mem_append, List.mem_singleton]
    exact ⟨.inl, fun either => either.resolve_right (Ne.symm ended)⟩
  · rw [written_append, none, List.append_nil, same.2, kept.bytes]
    by_cases already : Ended log
    · rw [yielded_append_ended already]
    · rw [yielded_append already, nothing, List.append_nil]

/-- A chunk that was read, or the end. -/
theorem Kept.read {log : List (IoEvent β)} {s : CopyLoop β} (kept : s.Kept log)
    (placed : s.Placed) (here : s.point = .reading) (bytes : List β) :
    (s.answer (.got bytes)).Kept (log ++ [(.read, .got bytes)]) ∧
      (s.answer (.got bytes)).Placed := by
  have open_ : ¬ Ended log := fun ended => by
    simpa [placed.reading here] using kept.ended.mpr ended
  have none : written [((.read, .got bytes) : IoEvent β)] = [] := by simp [written]
  by_cases empty : bytes = []
  · have shape : s.answer (.got bytes) = { s with ended := true }.next := by
      simp [answer, here, empty]
    rw [shape]
    refine ⟨Kept.next ⟨?_, ?_⟩, placed_next _⟩
    · simp [Ended, empty]
    · rw [written_append, none, List.append_nil, yielded_append open_, ← kept.bytes]
      simp [yielded, empty]
  · have shape : s.answer (.got bytes) = { s with left := s.left ++ bytes }.next := by
      simp [answer, here, empty]
    rw [shape]
    refine ⟨Kept.next ⟨?_, ?_⟩, placed_next _⟩
    · show s.ended = true ↔ _
      rw [kept.ended, Ended, Ended, List.mem_append, List.mem_singleton]
      refine ⟨.inl, fun either => either.resolve_right fun same => ?_⟩
      simp only [Prod.mk.injEq, IoAnswer.got.injEq, true_and] at same
      exact empty same.symm
    · rw [written_append, none, List.append_nil, yielded_append open_, ← List.append_assoc,
        kept.bytes]
      simp [yielded]

/-- A part of what is left that was written. -/
theorem Kept.wrote {log : List (IoEvent β)} {s : CopyLoop β} (kept : s.Kept log)
    (here : s.point = .writing) (count : Nat) :
    (s.answer (.wrote count)).Kept (log ++ [(.write s.left, .wrote count)]) ∧
      (s.answer (.wrote count)).Placed := by
  have ended : Ended (log ++ [(.write s.left, .wrote count)]) ↔ Ended log := by
    simp [Ended]
  have same : yielded (log ++ [(.write s.left, .wrote count)]) = yielded log := by
    by_cases already : Ended log
    · exact yielded_append_ended already _
    · rw [yielded_append already]
      simp [yielded]
  have more : written (log ++ [(.write s.left, .wrote count)]) =
      written log ++ s.left.take count := by
    rw [written_append]
    simp [written]
  by_cases zero : count = 0
  · have shape : s.answer (.wrote count) =
        { s with point := .finished (.error "write zero byte into writer") } := by
      simp [answer, here, zero]
    rw [shape]
    refine ⟨⟨?_, ?_⟩, ⟨by simp, by simp, by simp⟩⟩
    · rw [ended]
      exact kept.ended
    · rw [more, same, zero, List.take_zero, List.append_nil]
      exact kept.bytes
  · have shape : s.answer (.wrote count) =
        { s with left := s.left.drop count, amount := s.amount + count, unflushed := true }.next := by
      simp [answer, here, zero]
    rw [shape]
    refine ⟨Kept.next ⟨?_, ?_⟩, placed_next _⟩
    · rw [ended]
      exact kept.ended
    · rw [more, same, List.append_assoc, List.take_append_drop]
      exact kept.bytes

theorem answer_failed (s : CopyLoop β) (error : String) :
    s.answer (.failed error) = { s with point := .finished (.error error) } := by
  obtain ⟨left, ended, unflushed, amount, point⟩ := s
  cases point <;> rfl

theorem answer_pending (s : CopyLoop β) : ∃ point, s.answer .pending = { s with point } ∧
    (point = .writing ∨ point = .idling ∨ point = .waiting) := by
  obtain ⟨left, ended, unflushed, amount, point⟩ := s
  cases point with
  | reading =>
      by_cases rest : left = []
      · cases unflushed with
        | true => exact ⟨.idling, by simp [answer, rest], by simp⟩
        | false => exact ⟨.waiting, by simp [answer, rest], by simp⟩
      · exact ⟨.writing, by simp [answer, rest], by simp⟩
  | writing | flushing | idling | waiting | finished => exact ⟨.waiting, rfl, by simp⟩

/-- A call that is pending or fails moves nothing. -/
theorem Kept.stopped {log : List (IoEvent β)} {s : CopyLoop β} (kept : s.Kept log)
    (call : IoCall β) {a : IoAnswer β} (stop : a = .pending ∨ ∃ error, a = .failed error) :
    (s.answer a).Kept (log ++ [(call, a)]) ∧ (s.answer a).Placed := by
  rcases stop with rfl | ⟨error, rfl⟩
  · obtain ⟨point, shape, places⟩ := s.answer_pending
    rw [shape]
    refine ⟨kept.idle (by simp) (by simp [written]) (by simp [yielded]) ⟨rfl, rfl⟩, ?_⟩
    rcases places with rfl | rfl | rfl
    · exact ⟨by simp, by simp, by simp⟩
    · exact ⟨by simp, by simp, by simp⟩
    · exact ⟨by simp, by simp, by simp⟩
  · rw [answer_failed]
    exact ⟨kept.idle (by simp) (by simp [written]) (by simp [yielded]) ⟨rfl, rfl⟩,
      ⟨by simp, by simp, by simp⟩⟩

/-- A flush, behind the end or before a wait. -/
theorem Kept.flushed {log : List (IoEvent β)} {s : CopyLoop β} (kept : s.Kept log)
    (placed : s.Placed) (here : s.point = .flushing ∨ s.point = .idling) :
    (s.answer .flushed).Kept (log ++ [(.flush, .flushed)]) ∧ (s.answer .flushed).Placed := by
  have event : ((.flush, .flushed) : IoEvent β) ≠ (.read, .got []) := by simp
  rcases here with here | here
  · have shape : s.answer .flushed = { s with point := .finished (.ok s.amount) } := by
      simp [answer, here]
    rw [shape]
    refine ⟨kept.idle event (by simp [written]) (by simp [yielded]) ⟨rfl, rfl⟩, ⟨by simp, by simp, ?_⟩⟩
    exact fun _ _ => placed.flushing here
  · have shape : s.answer .flushed = { s with unflushed := false, point := .waiting } := by
      simp [answer, here]
    rw [shape]
    exact ⟨kept.idle event (by simp [written]) (by simp [yielded]) ⟨rfl, rfl⟩,
      ⟨by simp, by simp, by simp⟩⟩

/-- The calls of the loop, and where it makes them. -/
theorem wants_cases {s : CopyLoop β} {call : IoCall β} (wants : s.wants = .call call) :
    (s.point = .reading ∧ call = .read) ∨ (s.point = .writing ∧ call = .write s.left) ∨
      ((s.point = .flushing ∨ s.point = .idling) ∧ call = .flush) := by
  cases here : s.point with
  | reading =>
      simp only [CopyLoop.wants, here, CopyWants.call.injEq] at wants
      exact .inl ⟨rfl, wants.symm⟩
  | writing =>
      simp only [CopyLoop.wants, here, CopyWants.call.injEq] at wants
      exact .inr (.inl ⟨rfl, wants.symm⟩)
  | flushing | idling =>
      simp only [CopyLoop.wants, here, CopyWants.call.injEq] at wants
      exact .inr (.inr ⟨by simp, wants.symm⟩)
  | waiting | finished => simp [CopyLoop.wants, here] at wants

theorem kept_answer {log : List (IoEvent β)} {s : CopyLoop β} {call : IoCall β} {a : IoAnswer β}
    (kept : s.Kept log) (placed : s.Placed) (wants : s.wants = .call call)
    (takes : call.takes a = true) :
    (s.answer a).Kept (log ++ [(call, a)]) ∧ (s.answer a).Placed := by
  cases a with
  | pending => exact kept.stopped call (.inl rfl)
  | failed error => exact kept.stopped call (.inr ⟨error, rfl⟩)
  | got bytes =>
      rcases wants_cases wants with ⟨here, rfl⟩ | ⟨here, rfl⟩ | ⟨here, rfl⟩
      · exact kept.read placed here bytes
      · cases takes
      · cases takes
  | wrote count =>
      rcases wants_cases wants with ⟨here, rfl⟩ | ⟨here, rfl⟩ | ⟨here, rfl⟩
      · cases takes
      · exact kept.wrote here count
      · cases takes
  | flushed =>
      rcases wants_cases wants with ⟨here, rfl⟩ | ⟨here, rfl⟩ | ⟨here, rfl⟩
      · cases takes
      · cases takes
      · exact kept.flushed placed here

theorem kept_resume {log : List (IoEvent β)} {s : CopyLoop β} (kept : s.Kept log) :
    s.resume.Kept log ∧ s.resume.Placed := by
  unfold resume
  by_cases ended : s.ended = true
  · rw [if_pos ended]
    exact ⟨kept.next, placed_next s⟩
  · rw [if_neg ended]
    exact ⟨⟨kept.ended, kept.bytes⟩, ⟨fun _ => by simpa using ended, by simp, by simp⟩⟩

theorem kept_run {log : List (IoEvent β)} {s : CopyLoop β} (run : (copyLoop β).Runs log s) :
    s.Kept log ∧ s.Placed := by
  induction run with
  | start => exact ⟨⟨by simp [copyLoop, Ended], rfl⟩, ⟨fun _ => rfl, by simp [copyLoop], by simp [copyLoop]⟩⟩
  | answer _ wants takes ih => exact kept_answer ih.1 ih.2 wants takes
  | resume _ _ ih => exact kept_resume ih.1

end CopyLoop

/-- **The loop copies until the end of the input.** -/
theorem copyLoop_copies : (copyLoop β).CopiesToEnd := by
  have finished (s : CopyLoop β) (count : Nat)
      (done : (copyLoop β).wants s = .finished (.ok count)) : s.point = .finished (.ok count) := by
    cases here : s.point with
    | finished result =>
        simp only [copyLoop, CopyLoop.wants, here, CopyWants.finished.injEq] at done
        rw [done]
    | reading | writing | flushing | idling | waiting => simp [copyLoop, CopyLoop.wants, here] at done
  refine ⟨?_, ?_⟩
  · intro log s count run done
    obtain ⟨kept, placed⟩ := CopyLoop.kept_run run
    exact kept.ended.mp (placed.finished count (finished s count done)).1
  · intro log s count run done
    obtain ⟨kept, placed⟩ := CopyLoop.kept_run run
    have nothing := (placed.finished count (finished s count done)).2
    rw [← kept.bytes, nothing, List.append_nil]

end RustSsh.Theory
