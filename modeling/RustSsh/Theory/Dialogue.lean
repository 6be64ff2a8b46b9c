/-
# Theory.Dialogue -- two scripts that talk over streams

A `Script` writes, flushes and reads exact numbers of elements; what it does next depends on what
it read, and the first call that fails ends it.  Two things are said of scripts:

* alone, in front of an environment that may do anything (`Solo`): what holds of every state it
  can be in follows from one rule for each call (`Always.write`, `Always.read`);
* two of them over two reliable streams (`Dialogue`): if one schedule leads both to their ends
  (`Talk`), every schedule does, with the same results and whatever the sizes of the pieces
  (`Talk.move`, `run_talk`), and nothing that is sent behind a script is read by the other.
-/
import RustSsh.Theory.Run

namespace RustSsh.Theory

set_option autoImplicit false

variable {β α : Type}

/-! ## Scripts -/

/-- A function that does I/O on one stream; `context` is the error of a call that fails. -/
inductive Script (β α : Type) where
  | write (bytes : List β) (context : String) (next : Script β α)
  | flush (context : String) (next : Script β α)
  | read (count : Nat) (context : String) (next : List β → Script β α)
  | done (result : Except String α)

/-- What can happen to a script. -/
inductive Move (β : Type) where
  | wrote (count : Nat)
  | got (bytes : List β)
  /-- a flush succeeds, or a call has nothing left to do -/
  | goes
  /-- an error or the end of the stream -/
  | failed
  deriving DecidableEq, Repr

def Move.input : Move β → List β
  | .got bytes => bytes
  | .wrote _ | .goes | .failed => []

namespace Script

/-- One move; a call goes on with the rest of what it writes or reads. -/
def step : Script β α → Move β → Option (Script β α)
  | .write bytes context next, .wrote count =>
      if 0 < count ∧ count ≤ bytes.length then some (.write (bytes.drop count) context next)
      else none
  | .write [] _ next, .goes => some next
  | .write (_ :: _) context _, .failed => some (.done (.error context))
  | .flush _ next, .goes => some next
  | .flush context _, .failed => some (.done (.error context))
  | .read count context next, .got bytes =>
      if 0 < bytes.length ∧ bytes.length ≤ count then
        some (.read (count - bytes.length) context fun more => next (bytes ++ more))
      else none
  | .read 0 _ next, .goes => some (next [])
  | .read (_ + 1) context _, .failed => some (.done (.error context))
  | _, _ => none

/-- What the stream takes in a move. -/
def output : Script β α → Move β → List β
  | .write bytes _ _, .wrote count => bytes.take count
  | _, _ => []

def result : Script β α → Option (Except String α)
  | .done result => some result
  | .write _ _ _ | .flush _ _ | .read _ _ _ => none

end Script

/-! ## A script alone -/

/-- A script, with what it has sent and what it has read. -/
structure Solo (β α : Type) where
  script : Script β α
  sent : List β
  taken : List β

namespace Solo

def start (script : Script β α) : Solo β α := ⟨script, [], []⟩

def step (s : Solo β α) (m : Move β) : Option (Solo β α) :=
  (s.script.step m).map fun script =>
    ⟨script, s.sent ++ s.script.output m, s.taken ++ m.input⟩

end Solo

/-- Whatever its environment does, the script is in a state with `P`. -/
def Always (P : Solo β α → Prop) (s : Solo β α) : Prop :=
  ∀ moves t, exec Solo.step s moves = some t → P t

namespace Always

variable {P : Solo β α → Prop} {sent taken : List β} {context : String}

theorem intro {s : Solo β α} (here : P s)
    (later : ∀ m t, s.step m = some t → Always P t) : Always P s := by
  intro moves t run
  cases moves with
  | nil =>
      cases run
      exact here
  | cons m rest =>
      obtain ⟨next, taken, last⟩ := Option.bind_eq_some_iff.mp run
      exact later m next taken rest t last

theorem here {s : Solo β α} (always : Always P s) : P s := always [] s rfl

theorem later {s t : Solo β α} {m : Move β} (always : Always P s) (step : s.step m = some t) :
    Always P t :=
  fun moves last run => always (m :: moves) last (Option.bind_eq_some_iff.mpr ⟨t, step, run⟩)

theorem done {result : Except String α} (here : P ⟨.done result, sent, taken⟩) :
    Always P ⟨.done result, sent, taken⟩ := by
  refine intro here fun m t step => ?_
  simp [Solo.step, Script.step] at step

theorem flush {next : Script β α} (here : P ⟨.flush context next, sent, taken⟩)
    (failed : P ⟨.done (.error context), sent, taken⟩) (later : Always P ⟨next, sent, taken⟩) :
    Always P ⟨.flush context next, sent, taken⟩ := by
  refine intro here fun m t step => ?_
  cases m with
  | goes =>
      obtain rfl : ⟨next, sent, taken⟩ = t := by
        simpa [Solo.step, Script.step, Script.output, Move.input] using step
      exact later
  | failed =>
      obtain rfl : ⟨.done (.error context), sent, taken⟩ = t := by
        simpa [Solo.step, Script.step, Script.output, Move.input] using step
      exact done failed
  | wrote count => simp [Solo.step, Script.step] at step
  | got bytes => simp [Solo.step, Script.step] at step

/-- A write may stop anywhere; behind it all of it was sent. -/
theorem write {bytes : List β} {next : Script β α}
    (here : ∀ count, P ⟨.write (bytes.drop count) context next, sent ++ bytes.take count, taken⟩)
    (failed : ∀ count, P ⟨.done (.error context), sent ++ bytes.take count, taken⟩)
    (later : Always P ⟨next, sent ++ bytes, taken⟩) :
    Always P ⟨.write bytes context next, sent, taken⟩ := by
  induction size : bytes.length using Nat.strong_induction_on generalizing bytes sent with
  | h size ih =>
      refine intro (by simpa using here 0) fun m t step => ?_
      cases m with
      | wrote count =>
          simp only [Solo.step, Script.step, Option.map_eq_some_iff] at step
          obtain ⟨script, part, rfl⟩ := step
          split at part <;> cases part
          rename_i inside
          simp only [Script.output, Move.input, List.append_nil]
          refine ih (bytes.drop count).length ?_ (fun more => ?_) (fun more => ?_) ?_ rfl
          · rw [List.length_drop]
            omega
          · have there := here (count + more)
            rwa [List.take_add, ← List.append_assoc, ← List.drop_drop] at there
          · have there := failed (count + more)
            rwa [List.take_add, ← List.append_assoc] at there
          · rwa [List.append_assoc, List.take_append_drop]
      | goes =>
          cases bytes with
          | nil =>
              obtain rfl : ⟨next, sent, taken⟩ = t := by
                simpa [Solo.step, Script.step, Script.output, Move.input] using step
              simpa using later
          | cons b rest => simp [Solo.step, Script.step] at step
      | failed =>
          cases bytes with
          | nil => simp [Solo.step, Script.step] at step
          | cons b rest =>
              obtain rfl : ⟨.done (.error context), sent, taken⟩ = t := by
                simpa [Solo.step, Script.step, Script.output, Move.input] using step
              exact done (by simpa using failed 0)
      | got got => cases bytes <;> simp [Solo.step, Script.step] at step

/-- A read may stop anywhere before it is full; behind it exactly the elements wanted are taken. -/
theorem read {count : Nat} {next : List β → Script β α}
    (here : ∀ got, got.length ≤ count → P ⟨.read (count - got.length) context
      (fun more => next (got ++ more)), sent, taken ++ got⟩)
    (failed : ∀ got, got.length ≤ count → P ⟨.done (.error context), sent, taken ++ got⟩)
    (later : ∀ got, got.length = count → Always P ⟨next got, sent, taken ++ got⟩) :
    Always P ⟨.read count context next, sent, taken⟩ := by
  induction count using Nat.strong_induction_on generalizing next taken with
  | h count ih =>
      refine intro (by simpa using here [] (Nat.zero_le _)) fun m t step => ?_
      cases m with
      | got bytes =>
          simp only [Solo.step, Script.step, Option.map_eq_some_iff] at step
          obtain ⟨script, part, rfl⟩ := step
          split at part <;> cases part
          rename_i inside
          simp only [Script.output, Move.input, List.append_nil]
          refine ih (count - bytes.length) (by omega) (fun more less => ?_) (fun more less => ?_)
            (fun more full => ?_)
          · have there := here (bytes ++ more) (by rw [List.length_append]; omega)
            simpa only [List.length_append, List.append_assoc, Nat.sub_add_eq] using there
          · have there := failed (bytes ++ more) (by rw [List.length_append]; omega)
            simpa only [List.append_assoc] using there
          · have there := later (bytes ++ more) (by rw [List.length_append]; omega)
            simpa only [List.append_assoc] using there
      | goes =>
          cases count with
          | zero =>
              obtain rfl : ⟨next [], sent, taken⟩ = t := by
                simpa [Solo.step, Script.step, Script.output, Move.input] using step
              simpa using later [] rfl
          | succ count => simp [Solo.step, Script.step] at step
      | failed =>
          cases count with
          | zero => simp [Solo.step, Script.step] at step
          | succ count =>
              obtain rfl : ⟨.done (.error context), sent, taken⟩ = t := by
                simpa [Solo.step, Script.step, Script.output, Move.input] using step
              exact done (by simpa using failed [] (Nat.zero_le _))
      | wrote written => cases count <;> simp [Solo.step, Script.step] at step

end Always

/-! ## A script under a deadline -/

/-- A script that is dropped if it is not over when `expired`. -/
structure Timed (β α : Type) where
  solo : Solo β α
  expired : Bool

inductive TimedMove (β : Type) where
  | move (m : Move β)
  | deadline
  deriving DecidableEq, Repr

namespace Timed

def start (script : Script β α) : Timed β α := ⟨Solo.start script, false⟩

def step (t : Timed β α) : TimedMove β → Option (Timed β α)
  | .move m => if t.expired then none else (t.solo.step m).map (⟨·, false⟩)
  | .deadline =>
      if t.expired ∨ t.solo.script.result.isSome then none else some { t with expired := true }

def result (late : String) (t : Timed β α) : Option (Except String α) :=
  if t.expired then some (.error late) else t.solo.script.result

/-- Whatever its environment does and whenever the deadline passes. -/
theorem run_always {P : Solo β α → Prop} {t t' : Timed β α} {moves : List (TimedMove β)}
    (always : Always P t.solo) (run : exec step t moves = some t') : P t'.solo := by
  induction moves generalizing t with
  | nil =>
      cases run
      exact always.here
  | cons m rest ih =>
      obtain ⟨mid, taken, last⟩ := Option.bind_eq_some_iff.mp run
      refine ih ?_ last
      cases m with
      | deadline =>
          simp only [step] at taken
          split at taken <;> cases taken
          exact always
      | move m =>
          simp only [step] at taken
          split at taken
          · cases taken
          · obtain ⟨solo, moved, rfl⟩ := Option.map_eq_some_iff.mp taken
            exact always.later moved

/-- The deadline passed while the script was running. -/
theorem expired_running {script : Script β α} {t : Timed β α} {moves : List (TimedMove β)}
    (run : exec step (start script) moves = some t) (expired : t.expired = true) :
    t.solo.script.result = none := by
  refine exec_induction (P := fun _ t => t.expired = true → t.solo.script.result = none)
    (fun never => absurd never Bool.false_ne_true) (fun _ t m next _ _ taken => ?_) moves t run
    expired
  cases m with
  | deadline =>
      simp only [step] at taken
      split at taken <;> cases taken
      rename_i running
      intro _
      exact Option.not_isSome_iff_eq_none.mp (not_or.mp running).2
  | move m =>
      simp only [step] at taken
      split at taken
      · cases taken
      · obtain ⟨solo, -, rfl⟩ := Option.map_eq_some_iff.mp taken
        exact fun never => absurd never Bool.false_ne_true

end Timed

/-! ## Two scripts -/

inductive Party where
  | left
  | right
  deriving DecidableEq, Repr

def Party.other : Party → Party
  | .left => .right
  | .right => .left

@[simp] theorem Party.other_ne (p : Party) : p.other ≠ p := by cases p <;> decide

/-- A value for each party. -/
def Party.each {γ : Type} (left right : γ) : Party → γ
  | .left => left
  | .right => right

@[simp] theorem Party.update_left {γ : Type} (left right new : γ) :
    Function.update (Party.each left right) .left new = Party.each new right := by
  funext p
  cases p <;> rfl

@[simp] theorem Party.update_right {γ : Type} (left right new : γ) :
    Function.update (Party.each left right) .right new = Party.each left new := by
  funext p
  cases p <;> rfl

theorem Party.eq_other {p q : Party} (apart : q ≠ p) : q = p.other := by
  cases p <;> cases q <;> first | rfl | exact absurd rfl apart

@[simp] theorem Party.other_other (p : Party) : p.other.other = p := by cases p <;> rfl

structure Dialogue (β α : Type) where
  script : Party → Script β α
  /-- what a party has sent and the other has not read -/
  wire : Party → List β
  /-- what it has sent since its script was over -/
  behind : Party → List β

inductive DialogueAct (β : Type) where
  | move (p : Party) (m : Move β)
  /-- a party whose script is over sends more -/
  | more (p : Party) (bytes : List β)
  deriving DecidableEq, Repr

def Script.succeeded : Script β α → Bool
  | .done (.ok _) => true
  | _ => false

namespace Dialogue

variable [DecidableEq β]

def start (script : Party → Script β α) : Dialogue β α := ⟨script, fun _ => [], fun _ => []⟩

/-- The streams are reliable: they deliver what was sent, in order, and no call fails. -/
def step (d : Dialogue β α) : DialogueAct β → Option (Dialogue β α)
  | .move p m =>
      if m ≠ .failed ∧ m.input <+: d.wire p.other then
        ((d.script p).step m).map fun script =>
          { d with
            script := Function.update d.script p script
            wire := Function.update
              (Function.update d.wire p.other ((d.wire p.other).drop m.input.length))
              p (d.wire p ++ (d.script p).output m) }
      else none
  | .more p bytes =>
      if (d.script p).succeeded then
        some { d with
          wire := Function.update d.wire p (d.wire p ++ bytes)
          behind := Function.update d.behind p (d.behind p ++ bytes) }
      else none

end Dialogue

/-- The moves of the scripts in a run. -/
def moves (acts : List (DialogueAct β)) : Nat :=
  acts.countP fun
    | .move _ _ => true
    | .more _ _ => false

/-- There is an order of the calls that leads both scripts to their ends, with these results and
these elements left on the streams; the number counts what is to be done. -/
inductive Talk (result : Party → α) :
    Nat → (Party → Script β α) → (Party → List β) → (Party → List β) → Prop where
  | finished (script : Party → Script β α) (wire : Party → List β)
      (ends : ∀ p, script p = .done (.ok (result p))) : Talk result 0 script wire wire
  | write {n : Nat} {script : Party → Script β α} {wire later : Party → List β} (p : Party)
      {bytes : List β} {context : String} {next : Script β α}
      (here : script p = .write bytes context next)
      (rest : Talk result n (Function.update script p next)
        (Function.update wire p (wire p ++ bytes)) later) :
      Talk result (n + bytes.length + 1) script wire later
  | flush {n : Nat} {script : Party → Script β α} {wire later : Party → List β} (p : Party)
      {context : String} {next : Script β α} (here : script p = .flush context next)
      (rest : Talk result n (Function.update script p next) wire later) :
      Talk result (n + 1) script wire later
  | read {n : Nat} {script : Party → Script β α} {wire later : Party → List β} (p : Party)
      {count : Nat} {context : String} {next : List β → Script β α} {bytes behind : List β}
      (here : script p = .read count context next) (there : wire p.other = bytes ++ behind)
      (full : bytes.length = count)
      (rest : Talk result n (Function.update script p (next bytes))
        (Function.update wire p.other behind) later) :
      Talk result (n + count + 1) script wire later

namespace Talk

variable {result : Party → α} {n : Nat} {script : Party → Script β α} {wire later : Party → List β}

/-- No script has failed, and one that is over has its result. -/
theorem ended (talk : Talk result n script wire later) {p : Party} {r : Except String α}
    (here : script p = .done r) : r = .ok (result p) := by
  induction talk with
  | finished script wire ends =>
      rw [ends] at here
      cases here
      rfl
  | write q writes rest ih | flush q writes rest ih =>
      refine ih ?_
      rcases eq_or_ne p q with rfl | apart
      · rw [writes] at here
        cases here
      · rwa [Function.update_of_ne apart]
  | read q reads there full rest ih =>
      refine ih ?_
      rcases eq_or_ne p q with rfl | apart
      · rw [reads] at here
        cases here
      · rwa [Function.update_of_ne apart]

/-- When both are over, what is on the streams stays there. -/
theorem left_over (talk : Talk result n script wire later)
    (ends : ∀ p, ∃ r, script p = .done r) : wire = later := by
  cases talk with
  | finished script wire done => rfl
  | write p here rest | flush p here rest =>
      obtain ⟨r, done⟩ := ends p
      rw [here] at done
      cases done
  | read p here there full rest =>
      obtain ⟨r, done⟩ := ends p
      rw [here] at done
      cases done

/-- What a party sends behind its script is left over. -/
theorem more (talk : Talk result n script wire later) {p : Party} {r : Except String α}
    (here : script p = .done r) (bytes : List β) :
    Talk result n script (Function.update wire p (wire p ++ bytes))
      (Function.update later p (later p ++ bytes)) := by
  induction talk with
  | finished script wire ends => exact .finished script _ ends
  | write q writes rest ih =>
      have apart : q ≠ p := by
        rintro rfl
        rw [writes] at here
        cases here
      have further := ih (by rwa [Function.update_of_ne apart.symm])
      rw [Function.update_of_ne apart.symm, Function.update_comm apart] at further
      refine .write q writes ?_
      rwa [Function.update_of_ne apart]
  | flush q flushes rest ih =>
      have apart : q ≠ p := by
        rintro rfl
        rw [flushes] at here
        cases here
      exact .flush q flushes (ih (by rwa [Function.update_of_ne apart.symm]))
  | @read n script wire later q count context next front behind reads there full rest ih =>
      have apart : q ≠ p := by
        rintro rfl
        rw [reads] at here
        cases here
      obtain rfl := Party.eq_other apart
      have further := ih (by rwa [Function.update_of_ne apart.symm])
      rw [Party.other_other] at there further
      rw [Function.update_self, Function.update_idem] at further
      have there' : Function.update wire p (wire p ++ bytes) p.other.other =
          front ++ (behind ++ bytes) := by
        rw [Party.other_other, Function.update_self, there, List.append_assoc]
      refine .read p.other reads there' full ?_
      rwa [Party.other_other, Function.update_idem]

/-- A move of the party whose call is next in the order. -/
theorem move_write {p : Party} {bytes : List β} {context : String} {follow next : Script β α}
    {m : Move β} {rest : List β} (here : script p = .write bytes context follow)
    (talk : Talk result n (Function.update script p follow)
      (Function.update wire p (wire p ++ bytes)) later)
    (runs : m ≠ .failed) (there : wire p.other = m.input ++ rest)
    (taken : (script p).step m = some next) :
    ∃ k, k < n + bytes.length + 1 ∧ Talk result k (Function.update script p next)
      (Function.update (Function.update wire p.other rest) p (wire p ++ (script p).output m))
      later := by
  rw [here] at taken ⊢
  cases m with
  | failed => exact absurd rfl runs
  | got got => cases bytes <;> simp [Script.step] at taken
  | wrote count =>
      obtain rfl : wire p.other = rest := there
      simp only [Script.step] at taken
      split at taken <;> cases taken
      refine ⟨n + (bytes.drop count).length + 1, by rw [List.length_drop]; omega, ?_⟩
      rw [Function.update_eq_self]
      refine .write p (Function.update_self ..) ?_
      rwa [Function.update_idem, Function.update_idem, Function.update_self, Script.output,
        List.append_assoc, List.take_append_drop]
  | goes =>
      obtain rfl : wire p.other = rest := there
      cases bytes with
      | cons b more => simp [Script.step] at taken
      | nil =>
          obtain rfl : follow = next := by simpa [Script.step] using taken
          refine ⟨n, by simp, ?_⟩
          rwa [Function.update_eq_self]

theorem move_read {p : Party} {count : Nat} {context : String} {follow : List β → Script β α}
    {bytes behind rest : List β} {next : Script β α} {m : Move β}
    (here : script p = .read count context follow) (filled : wire p.other = bytes ++ behind)
    (full : bytes.length = count)
    (talk : Talk result n (Function.update script p (follow bytes))
      (Function.update wire p.other behind) later)
    (runs : m ≠ .failed) (there : wire p.other = m.input ++ rest)
    (taken : (script p).step m = some next) :
    ∃ k, k < n + count + 1 ∧ Talk result k (Function.update script p next)
      (Function.update (Function.update wire p.other rest) p (wire p ++ (script p).output m))
      later := by
  have quiet : (script p).output m = [] := by
    rw [here]
    cases m <;> rfl
  have same : Function.update (Function.update wire p.other rest) p (wire p ++ []) =
      Function.update wire p.other rest := by
    rw [List.append_nil, Function.update_comm p.other_ne, Function.update_eq_self]
  rw [quiet, same]
  rw [here] at taken
  cases m with
  | failed => exact absurd rfl runs
  | wrote written => cases count <;> simp [Script.step] at taken
  | got got =>
      simp only [Script.step] at taken
      split at taken <;> cases taken
      rename_i part
      -- what is read now is the front of what the order reads at once
      obtain ⟨left, rfl, rfl⟩ : ∃ left, bytes = got ++ left ∧ rest = left ++ behind := by
        have stream : got ++ rest = bytes ++ behind := there.symm.trans filled
        rcases List.append_eq_append_iff.mp stream with ⟨left, whole, tail⟩ | ⟨left, whole, tail⟩
        · exact ⟨left, whole, tail⟩
        · have none : left = [] := by
            have sizes := congrArg List.length whole
            rw [List.length_append] at sizes
            exact List.length_eq_zero_iff.mp (by omega)
          refine ⟨[], ?_, ?_⟩
          · simpa [none] using whole.symm
          · simpa [none] using tail.symm
      refine ⟨n + (count - got.length) + 1, by omega, ?_⟩
      have there' : Function.update wire p.other (left ++ behind) p.other = left ++ behind :=
        Function.update_self ..
      refine .read p (Function.update_self ..) there' ?_ ?_
      · rw [← full, List.length_append]
        omega
      · rwa [Function.update_idem, Function.update_idem]
  | goes =>
      cases count with
      | succ count => simp [Script.step] at taken
      | zero =>
          obtain rfl := List.length_eq_zero_iff.mp full
          obtain rfl : follow [] = next := by simpa [Script.step] using taken
          obtain rfl : behind = rest := filled.symm.trans there
          exact ⟨n, by omega, talk⟩

/-- **A move of either party is no detour**: from where it leads both scripts come to the same
ends, with less to do. -/
theorem move (talk : Talk result n script wire later) {p : Party} {m : Move β}
    {next : Script β α} {rest : List β} (runs : m ≠ .failed)
    (there : wire p.other = m.input ++ rest) (taken : (script p).step m = some next) :
    ∃ k, k < n ∧ Talk result k (Function.update script p next)
      (Function.update (Function.update wire p.other rest) p (wire p ++ (script p).output m))
      later := by
  induction talk generalizing rest with
  | finished script wire ends => simp [ends, Script.step] at taken
  | @write n script wire later q bytes context follow here talk ih =>
      rcases eq_or_ne q p with rfl | apart
      · exact move_write here talk runs there taken
      · obtain rfl := Party.eq_other apart
        obtain ⟨k, less, after⟩ := @ih (rest ++ bytes)
          (by rw [Function.update_self, there, List.append_assoc])
          (by rwa [Function.update_of_ne apart.symm])
        refine ⟨k + bytes.length + 1, by omega, ?_⟩
        refine .write p.other (by rwa [Function.update_of_ne apart]) ?_
        rw [Function.update_of_ne apart.symm, Function.update_of_ne apart.symm,
          Function.update_idem] at after
        rw [Function.update_comm apart.symm, Function.update_of_ne apart, Function.update_self,
          Function.update_comm apart.symm, Function.update_idem]
        exact after
  | @flush n script wire later q context follow here talk ih =>
      rcases eq_or_ne q p with rfl | apart
      · rw [here] at taken ⊢
        cases m with
        | failed => exact absurd rfl runs
        | got got => simp [Script.step] at taken
        | wrote count => simp [Script.step] at taken
        | goes =>
            obtain rfl : follow = next := by simpa [Script.step] using taken
            obtain rfl : wire q.other = rest := there
            refine ⟨n, by omega, ?_⟩
            rw [Function.update_eq_self]
            simpa [Script.output] using talk
      · obtain ⟨k, less, after⟩ := ih there (by rwa [Function.update_of_ne apart.symm])
        refine ⟨k + 1, by omega, ?_⟩
        refine .flush q (by rwa [Function.update_of_ne apart]) ?_
        rw [Function.update_of_ne apart.symm] at after
        rwa [Function.update_comm apart.symm]
  | @read n script wire later q count context follow bytes behind here filled full talk ih =>
      rcases eq_or_ne q p with rfl | apart
      · exact move_read here filled full talk runs there taken
      · obtain rfl := Party.eq_other apart
        rw [Party.other_other] at filled talk ih
        obtain ⟨k, less, after⟩ := @ih rest
          (by rwa [Function.update_of_ne apart]) (by rwa [Function.update_of_ne apart.symm])
        refine ⟨k + count + 1, by omega, ?_⟩
        have there' : Function.update (Function.update wire p.other rest) p
            (wire p ++ (script p).output m) p.other.other =
              bytes ++ (behind ++ (script p).output m) := by
          rw [Party.other_other, Function.update_self, filled, List.append_assoc]
        refine .read p.other (by rwa [Function.update_of_ne apart]) there' full ?_
        · rw [Function.update_of_ne apart.symm, Function.update_self,
            Function.update_comm apart.symm, Function.update_idem] at after
          rw [Party.other_other, Function.update_comm apart.symm, Function.update_idem]
          exact after

/-- Until both are over there is a move. -/
theorem goes_on (talk : Talk result n script wire later) :
    (∀ p, script p = .done (.ok (result p))) ∨
      ∃ p m next, m ≠ .failed ∧ m.input <+: wire p.other ∧ (script p).step m = some next := by
  cases talk with
  | finished script wire ends => exact .inl ends
  | @write n script wire later p bytes context next here rest =>
      right
      cases bytes with
      | nil => exact ⟨p, .goes, next, by simp, List.nil_prefix, by rw [here]; rfl⟩
      | cons b more =>
          refine ⟨p, .wrote (more.length + 1), .write [] context next, by simp, List.nil_prefix, ?_⟩
          simp [here, Script.step]
  | @flush n script wire later p context next here rest =>
      exact .inr ⟨p, .goes, next, by simp, List.nil_prefix, by rw [here]; rfl⟩
  | @read n script wire later p count context next bytes behind here there full rest =>
      right
      cases bytes with
      | nil =>
          obtain rfl : 0 = count := full
          exact ⟨p, .goes, next [], by simp, List.nil_prefix, by rw [here]; rfl⟩
      | cons b more =>
          refine ⟨p, .got (b :: more), .read (count - (b :: more).length) context fun further =>
            next (b :: more ++ further), by simp, ?_, ?_⟩
          · rw [there]
            exact List.prefix_append ..
          · rw [here]
            exact if_pos ⟨by simp, by simp [← full]⟩

end Talk

section

variable [DecidableEq β] {result : Party → α} {n : Nat}

theorem Dialogue.step_talk {d d' : Dialogue β α} {a : DialogueAct β}
    (talk : Talk result n d.script d.wire d.behind) (taken : d.step a = some d') :
    ∃ k, k + moves [a] ≤ n ∧ Talk result k d'.script d'.wire d'.behind := by
  cases a with
  | move p m =>
      simp only [Dialogue.step] at taken
      split at taken
      · rename_i allowed
        obtain ⟨next, moved, rfl⟩ := Option.map_eq_some_iff.mp taken
        obtain ⟨rest, there⟩ := allowed.2
        obtain ⟨k, less, talk⟩ := talk.move allowed.1 there.symm moved
        refine ⟨k, less, ?_⟩
        have left : (d.wire p.other).drop m.input.length = rest := by
          rw [← there, List.drop_left]
        rwa [left]
      · cases taken
  | more p bytes =>
      simp only [Dialogue.step] at taken
      split at taken <;> cases taken
      rename_i ends
      refine ⟨n, by simp [moves], ?_⟩
      cases here : d.script p with
      | done r => exact talk.more here bytes
      | write bytes context next => simp [here, Script.succeeded] at ends
      | flush context next => simp [here, Script.succeeded] at ends
      | read count context next => simp [here, Script.succeeded] at ends

/-- **Every schedule**: the scripts can still come to their ends, in as many moves as are left. -/
theorem Dialogue.run_talk {d d' : Dialogue β α} {acts : List (DialogueAct β)}
    (talk : Talk result n d.script d.wire d.behind) (run : exec Dialogue.step d acts = some d') :
    ∃ k, k + moves acts ≤ n ∧ Talk result k d'.script d'.wire d'.behind := by
  induction acts generalizing d n with
  | nil =>
      cases run
      exact ⟨n, Nat.le_refl _, talk⟩
  | cons a rest ih =>
      obtain ⟨mid, taken, last⟩ := Option.bind_eq_some_iff.mp run
      obtain ⟨k, fewer, talk⟩ := Dialogue.step_talk talk taken
      obtain ⟨k', fewer', talk⟩ := ih talk last
      refine ⟨k', ?_, talk⟩
      have count : moves (a :: rest) = moves [a] + moves rest := by
        rw [moves, ← List.singleton_append, List.countP_append]
        rfl
      omega

/-- A dialogue that is not at its end has a move left. -/
theorem Dialogue.goes_on {d : Dialogue β α} (talk : Talk result n d.script d.wire d.behind) :
    (∀ p, d.script p = .done (.ok (result p))) ∨
      ∃ p m d', d.step (.move p m) = some d' := by
  rcases talk.goes_on with ends | ⟨p, m, next, runs, there, taken⟩
  · exact .inl ends
  · right
    exact ⟨p, m, _, by rw [Dialogue.step, if_pos ⟨runs, there⟩, taken]; rfl⟩

end

end RustSsh.Theory
