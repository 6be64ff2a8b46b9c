/-
# Server.SessionId -- the ids of sessions

`session_id` of `src/server.rs`, called by any number of threads.  A call takes a number from
the process's counter in one step, and only the order of these steps matters: whatever the
clock and the random source say, the number can be read off the id again
(`formatSessionId_counter`), so no two calls return one id until the counter has gone around
(`session_ids_distinct`).
-/
import RustSsh.Theory.Encoding
import RustSsh.Theory.Run

namespace RustSsh.Server

open RustSsh.Theory

set_option autoImplicit false

/-! ## The source's function -/

/-- `format!("{nanos:x}-{process_id:x}-{counter:x}-{entropy}")`. -/
def formatSessionId (nanos : Nat) (processId : UInt32) (counter : UInt64) (entropy : String) :
    String :=
  String.ofList (hexText nanos ++ '-' :: (hexText processId.toNat ++ '-' ::
    (hexText counter.toNat ++ '-' :: entropy.toList)))

/-- Where a call is, and the values it has. -/
inductive IdCall where
  | counted (counter : UInt64)
  | timed (counter : UInt64) (nanos : Nat)
  | drawn (counter : UInt64) (nanos : Nat) (entropy : String)
  | returned (id : String)
  deriving DecidableEq, Repr

/-- `COUNTER`, and the calls that have taken a number from it. -/
structure IdProcess where
  counter : UInt64
  calls : Nat → Option IdCall

inductive IdAct where
  | fetchAdd (call : Nat)
  /-- the nanoseconds since the epoch; an error if the clock is before it -/
  | readClock (call : Nat) (since : Except String Nat)
  | generateToken (call : Nat) (token : Except String String)
  | format (call : Nat)
  deriving DecidableEq, Repr

namespace IdProcess

def start : IdProcess where
  counter := 0
  calls _ := none

def setCall (s : IdProcess) (call : Nat) (point : IdCall) : IdProcess :=
  { s with calls := Function.update s.calls call (some point) }

/-- One step of one call. -/
def step (processId : UInt32) (s : IdProcess) : IdAct → Option IdProcess
  | .fetchAdd call =>
      match s.calls call with
      | none => some ({ s with counter := s.counter + 1 }.setCall call (.counted s.counter))
      | some _ => none
  | .readClock call since =>
      match s.calls call with
      | some (.counted counter) => some (s.setCall call (.timed counter (since.toOption.getD 0)))
      | _ => none
  | .generateToken call token =>
      match s.calls call with
      | some (.timed counter nanos) =>
          some (s.setCall call (.drawn counter nanos (token.toOption.getD "no-entropy")))
      | _ => none
  | .format call =>
      match s.calls call with
      | some (.drawn counter nanos entropy) =>
          some (s.setCall call (.returned (formatSessionId nanos processId counter entropy)))
      | _ => none

end IdProcess

/-! ## Reading the number off an id -/

/-- **The number of a call is in its id**, whatever else is. -/
theorem formatSessionId_counter {nanos nanos' : Nat} {processId processId' : UInt32}
    {counter counter' : UInt64} {entropy entropy' : String}
    (same : formatSessionId nanos processId counter entropy =
      formatSessionId nanos' processId' counter' entropy') : counter = counter' := by
  have foreign : '-' ∉ "0123456789abcdef".toList := by decide
  have fields := String.ofList_injective same
  obtain ⟨-, fields⟩ := hexText_field foreign fields
  obtain ⟨-, fields⟩ := hexText_field foreign fields
  obtain ⟨number, -⟩ := hexText_field foreign fields
  exact UInt64.toNat.inj number

/-! ## Runs -/

/-- The call has this number, or has returned an id with it. -/
def IdCall.Carries (processId : UInt32) (number : UInt64) : IdCall → Prop
  | .counted counter => counter = number
  | .timed counter _ => counter = number
  | .drawn counter _ _ => counter = number
  | .returned id => ∃ nanos entropy, id = formatSessionId nanos processId number entropy

/-- The calls that have taken a number, in that order. -/
def fetches (acts : List IdAct) : List Nat :=
  acts.filterMap fun
    | .fetchAdd call => some call
    | _ => none

section

variable {processId : UInt32} {s s' : IdProcess} {a : IdAct}

/-- What a step does: a call that is new takes the next number, or one goes on with its own. -/
theorem IdProcess.step_cases (taken : s.step processId a = some s') :
    (∃ call, a = .fetchAdd call ∧ s.calls call = none ∧
      s' = { s with counter := s.counter + 1 }.setCall call (.counted s.counter)) ∨
    ∃ call point next, fetches [a] = [] ∧ s.calls call = some point ∧ s' = s.setCall call next ∧
      ∀ number, point.Carries processId number → next.Carries processId number := by
  cases a with
  | fetchAdd call =>
      cases here : s.calls call with
      | none => exact .inl ⟨call, rfl, here, by simpa [step, here] using taken.symm⟩
      | some point => simp [step, here] at taken
  | readClock call since =>
      simp only [step] at taken
      split at taken
      · rename_i counter here
        cases taken
        exact .inr ⟨call, _, _, rfl, here, rfl, fun _ => id⟩
      · cases taken
  | generateToken call token =>
      simp only [step] at taken
      split at taken
      · rename_i counter nanos here
        cases taken
        exact .inr ⟨call, _, _, rfl, here, rfl, fun _ => id⟩
      · cases taken
  | format call =>
      simp only [step] at taken
      split at taken
      · rename_i counter nanos entropy here
        cases taken
        refine .inr ⟨call, _, _, rfl, here, rfl, ?_⟩
        rintro number rfl
        exact ⟨nanos, entropy, rfl⟩
      · cases taken

end

/-- The counter has counted the calls, and each has the number of its turn. -/
structure Numbered (processId : UInt32) (acts : List IdAct) (s : IdProcess) : Prop where
  counter : s.counter = UInt64.ofNat (fetches acts).length
  once : (fetches acts).Nodup
  begun : ∀ call ∈ fetches acts, s.calls call ≠ none
  carried : ∀ call point, s.calls call = some point →
    ∃ turn, (fetches acts)[turn]? = some call ∧ point.Carries processId (UInt64.ofNat turn)

theorem numbered_start (processId : UInt32) : Numbered processId [] .start where
  counter := rfl
  once := List.nodup_nil
  begun := by simp [fetches]
  carried := by simp [IdProcess.start]

theorem fetches_snoc (acts : List IdAct) (a : IdAct) :
    fetches (acts ++ [a]) = fetches acts ++ fetches [a] := List.filterMap_append

/-- A call that is new takes the number of its turn. -/
theorem Numbered.fetched {processId : UInt32} {acts : List IdAct} {s : IdProcess} {call : Nat}
    (numbered : Numbered processId acts s) (fresh : s.calls call = none) :
    Numbered processId (acts ++ [.fetchAdd call])
      ({ s with counter := s.counter + 1 }.setCall call (.counted s.counter)) := by
  have first : call ∉ fetches acts := fun again => numbered.begun call again fresh
  have order : fetches (acts ++ [.fetchAdd call]) = fetches acts ++ [call] := fetches_snoc ..
  refine ⟨?_, ?_, ?_, ?_⟩
  · rw [order, List.length_append, List.length_singleton, UInt64.ofNat_add, ← numbered.counter]
    rfl
  · rw [order]
    refine List.nodup_append.mpr ⟨numbered.once, by simp, ?_⟩
    rintro k earlier _ last rfl
    rw [List.mem_singleton.mp last] at earlier
    exact first earlier
  · intro k member
    by_cases own : k = call
    · simp [IdProcess.setCall, own]
    · rw [order, List.mem_append, List.mem_singleton] at member
      simpa [IdProcess.setCall, own] using numbered.begun k (member.resolve_right own)
  · intro k point found
    rw [order]
    by_cases own : k = call
    · subst own
      refine ⟨(fetches acts).length, by simp, ?_⟩
      obtain rfl : .counted s.counter = point := by simpa [IdProcess.setCall] using found
      exact numbered.counter
    · have before : s.calls k = some point := by simpa [IdProcess.setCall, own] using found
      obtain ⟨turn, taken, carries⟩ := numbered.carried k point before
      obtain ⟨short, -⟩ := List.getElem?_eq_some_iff.mp taken
      exact ⟨turn, by rw [List.getElem?_append_left short, taken], carries⟩

/-- A call goes on with its number. -/
theorem Numbered.continued {processId : UInt32} {acts : List IdAct} {s : IdProcess} {a : IdAct}
    {call : Nat} {point next : IdCall} (numbered : Numbered processId acts s)
    (other : fetches [a] = []) (here : s.calls call = some point)
    (keeps : ∀ number, point.Carries processId number → next.Carries processId number) :
    Numbered processId (acts ++ [a]) (s.setCall call next) := by
  have order : fetches (acts ++ [a]) = fetches acts := by
    rw [fetches_snoc, other, List.append_nil]
  refine ⟨?_, ?_, ?_, ?_⟩
  · rw [order]
    exact numbered.counter
  · rw [order]
    exact numbered.once
  · intro k member
    rw [order] at member
    by_cases own : k = call
    · simp [IdProcess.setCall, own]
    · simpa [IdProcess.setCall, own] using numbered.begun k member
  · intro k after found
    rw [order]
    by_cases own : k = call
    · subst own
      obtain rfl : next = after := by simpa [IdProcess.setCall] using found
      obtain ⟨turn, taken, carries⟩ := numbered.carried k point here
      exact ⟨turn, taken, keeps _ carries⟩
    · have before : s.calls k = some after := by simpa [IdProcess.setCall, own] using found
      exact numbered.carried k after before

theorem Numbered.step {processId : UInt32} {acts : List IdAct} {s s' : IdProcess} {a : IdAct}
    (numbered : Numbered processId acts s) (taken : s.step processId a = some s') :
    Numbered processId (acts ++ [a]) s' := by
  rcases IdProcess.step_cases taken with ⟨call, rfl, fresh, rfl⟩ | ⟨call, point, next, other, here,
    rfl, keeps⟩
  · exact numbered.fetched fresh
  · exact numbered.continued other here keeps

theorem run_numbered {processId : UInt32} {acts : List IdAct} {s : IdProcess}
    (run : exec (IdProcess.step processId) .start acts = some s) : Numbered processId acts s :=
  exec_induction (numbered_start processId) (fun _ _ _ _ _ numbered taken => numbered.step taken)
    acts s run

/-- Two turns of one lap of the counter have different numbers. -/
theorem number_inj {i j : Nat} (first : i < UInt64.size) (second : j < UInt64.size)
    (same : UInt64.ofNat i = UInt64.ofNat j) : i = j := by
  have values := congrArg UInt64.toNat same
  rwa [UInt64.toNat_ofNat_of_lt' first, UInt64.toNat_ofNat_of_lt' second] at values

/-- **Session ids never repeat** within one lap of the counter. -/
theorem session_ids_distinct {processId : UInt32} {acts : List IdAct} {s : IdProcess}
    (run : exec (IdProcess.step processId) .start acts = some s)
    (few : (fetches acts).length ≤ UInt64.size) {call call' : Nat} {id : String}
    (first : s.calls call = some (.returned id)) (second : s.calls call' = some (.returned id)) :
    call = call' := by
  have numbered := run_numbered run
  obtain ⟨turn, taken, nanos, entropy, shape⟩ := numbered.carried call _ first
  obtain ⟨turn', taken', nanos', entropy', shape'⟩ := numbered.carried call' _ second
  have number := formatSessionId_counter (shape.symm.trans shape')
  obtain ⟨early, -⟩ := List.getElem?_eq_some_iff.mp taken
  obtain ⟨early', -⟩ := List.getElem?_eq_some_iff.mp taken'
  obtain rfl := number_inj (by omega) (by omega) number
  exact Option.some.inj (taken.symm.trans taken')

/-- Two calls at once; the clock fails for one, and the random source for both. -/
def twoCalls : List IdAct :=
  [.fetchAdd 0, .fetchAdd 1, .readClock 1 (.ok 0), .readClock 0 (.error "before the epoch"),
    .generateToken 0 (.error "no randomness"), .generateToken 1 (.error "no randomness"),
    .format 1, .format 0]

theorem session_ids_distinct_twoCalls : ∃ s id id',
    exec (IdProcess.step 7) .start twoCalls = some s ∧ s.calls 0 = some (.returned id) ∧
      s.calls 1 = some (.returned id') ∧ id = "0-7-0-no-entropy" ∧ id ≠ id' := by
  have ran : ((exec (IdProcess.step 7) .start twoCalls).map fun s => (s.calls 0, s.calls 1)) =
      some (some (.returned "0-7-0-no-entropy"), some (.returned "0-7-1-no-entropy")) := by
    decide +kernel
  obtain ⟨s, run, ends⟩ := Option.map_eq_some_iff.mp ran
  obtain ⟨first, second⟩ := Prod.mk.inj ends
  refine ⟨s, _, _, run, first, second, rfl, fun same => ?_⟩
  have few : (fetches twoCalls).length ≤ UInt64.size := by decide
  exact absurd (session_ids_distinct run few first (same ▸ second)) (by decide)

end RustSsh.Server
