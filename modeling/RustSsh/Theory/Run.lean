/-
# Theory.Run -- runs of a partial step function

A system is given by a step function `S → A → Option S`: `none` where the action
is not enabled.  A run is the list of the actions taken, so an interleaving of
any number of tasks is one list, and whatever a task said or did earlier is read
off the list itself (`exec_prefix`): no history has to be stored in the state.

* `exec_induction`: what holds at the start, and after every step of a run that
  it held along, holds of every run and its last state;
* `exec_preserves`: what every allowed step keeps is kept by a run of such steps;
* `history`: a value updated beside every step of a run, which no step reads;
* `Stable`: facts about a run that later actions cannot undo.
-/
import Mathlib.Logic.Function.Basic
import Mathlib.Data.List.Infix

namespace RustSsh.Theory

set_option autoImplicit false

section Runs

variable {S A : Type} (step : S → A → Option S)

/-- Take the actions in order; `none` as soon as one is not enabled. -/
def exec : S → List A → Option S
  | s, [] => some s
  | s, a :: rest => (step s a).bind (exec · rest)

variable {step}

@[simp] theorem exec_nil (s : S) : exec step s [] = some s := rfl

theorem exec_append (s : S) (xs ys : List A) :
    exec step s (xs ++ ys) = (exec step s xs).bind (exec step · ys) := by
  induction xs generalizing s with
  | nil => rfl
  | cons a rest ih =>
      simp only [List.cons_append, exec]
      cases step s a with
      | none => rfl
      | some t => exact ih t

theorem exec_prefix {s t : S} {xs ys : List A} (run : exec step s (xs ++ ys) = some t) :
    ∃ mid, exec step s xs = some mid ∧ exec step mid ys = some t := by
  rw [exec_append] at run
  exact Option.bind_eq_some_iff.mp run

theorem exec_snoc {s mid t : S} {xs : List A} {a : A} (run : exec step s xs = some mid)
    (next : step mid a = some t) : exec step s (xs ++ [a]) = some t := by
  simp [exec_append, run, exec, next]

/-- The state in the middle of a run, the step taken there and the rest. -/
theorem exec_split {s t : S} {xs ys : List A} {a : A}
    (run : exec step s (xs ++ a :: ys) = some t) :
    ∃ before after, exec step s xs = some before ∧ step before a = some after ∧
      exec step after ys = some t := by
  obtain ⟨before, first, rest⟩ := exec_prefix run
  obtain ⟨after, taken, last⟩ := Option.bind_eq_some_iff.mp rest
  exact ⟨before, after, first, taken, last⟩

/-- **Induction along runs**, on the last action. -/
theorem exec_induction {s₀ : S} {P : List A → S → Prop} (start : P [] s₀)
    (next : ∀ acts s a s', exec step s₀ acts = some s → P acts s → step s a = some s' →
      P (acts ++ [a]) s') :
    ∀ acts s, exec step s₀ acts = some s → P acts s := by
  intro acts
  induction acts using List.reverseRecOn with
  | nil =>
      intro s run
      cases run
      exact start
  | append_singleton acts a ih =>
      intro s' run
      obtain ⟨s, before, last⟩ := exec_prefix run
      have taken : step s a = some s' := by simpa [exec] using last
      exact next acts s a s' before (ih s before) taken

variable (step) in
/-- Every step of the run is taken in a state where `P` allows it. -/
def Along (P : S → A → Prop) : S → List A → Prop
  | _, [] => True
  | s, a :: rest => P s a ∧ match step s a with | some s' => Along P s' rest | none => True

instance Along.decidable {P : S → A → Prop} [∀ s a, Decidable (P s a)] :
    ∀ s acts, Decidable (Along step P s acts)
  | _, [] => isTrue trivial
  | s, a :: rest =>
      match taken : step s a with
      | some s' =>
          have := Along.decidable (P := P) s' rest
          decidable_of_iff (P s a ∧ Along step P s' rest) (by simp [Along, taken])
      | none => decidable_of_iff (P s a) (by simp [Along, taken])

/-- Along a run every step is allowed in the state the steps before it reach. -/
theorem along_iff {P : S → A → Prop} {acts : List A} {s t : S} (run : exec step s acts = some t) :
    Along step P s acts ↔
      ∀ pre a post mid, acts = pre ++ a :: post → exec step s pre = some mid → P mid a := by
  induction acts generalizing s with
  | nil =>
      constructor
      · intro _ pre a post mid split
        simp at split
      · intro _
        trivial
  | cons b rest ih =>
      obtain ⟨next, taken, last⟩ := Option.bind_eq_some_iff.mp run
      simp only [Along, taken, ih last]
      constructor
      · rintro ⟨first, later⟩ pre a post mid split reach
        cases pre with
        | nil =>
            cases split
            cases reach
            exact first
        | cons c pre =>
            cases split
            obtain ⟨next', taken', reach'⟩ := Option.bind_eq_some_iff.mp reach
            cases taken.symm.trans taken'
            exact later pre a post mid rfl reach'
      · intro all
        refine ⟨all [] b rest s rfl rfl, ?_⟩
        intro pre a post mid split reach
        refine all (b :: pre) a post mid (by rw [split]; rfl) ?_
        simpa [exec, taken] using reach

theorem Along.of_forall {P : S → A → Prop} {acts : List A} (all : ∀ a ∈ acts, ∀ s, P s a) (s : S) :
    Along step P s acts := by
  induction acts generalizing s with
  | nil => trivial
  | cons a rest ih =>
      refine ⟨all a List.mem_cons_self s, ?_⟩
      cases step s a with
      | none => trivial
      | some s' => exact ih (fun b inside => all b (List.mem_cons_of_mem a inside)) s'

theorem Along.snoc {P : S → A → Prop} {acts : List A} {a : A} {s t : S}
    (along : Along step P s acts) (run : exec step s acts = some t) (last : P t a) :
    Along step P s (acts ++ [a]) := by
  induction acts generalizing s with
  | nil =>
      cases run
      refine ⟨last, ?_⟩
      cases step t a <;> trivial
  | cons b rest ih =>
      obtain ⟨next, taken, more⟩ := Option.bind_eq_some_iff.mp run
      obtain ⟨first, later⟩ := along
      simp only [List.cons_append, Along, taken] at later ⊢
      exact ⟨first, ih later more⟩

theorem Along.left {P : S → A → Prop} {xs ys : List A} {s t : S} (along : Along step P s (xs ++ ys))
    (run : exec step s xs = some t) : Along step P s xs := by
  induction xs generalizing s with
  | nil => trivial
  | cons a rest ih =>
      obtain ⟨next, taken, last⟩ := Option.bind_eq_some_iff.mp run
      obtain ⟨first, later⟩ := along
      refine ⟨first, ?_⟩
      simp only [taken] at later ⊢
      exact ih later last

/-- What every allowed step keeps is kept by a run whose steps are all allowed. -/
theorem Along.preserves {I : S → Prop} {P : S → A → Prop}
    (keep : ∀ s a s', I s → P s a → step s a = some s' → I s') {acts : List A} {s s' : S}
    (along : Along step P s acts) (run : exec step s acts = some s') (holds : I s) : I s' := by
  induction acts generalizing s with
  | nil =>
      cases run
      exact holds
  | cons a rest ih =>
      obtain ⟨t, taken, last⟩ := Option.bind_eq_some_iff.mp run
      obtain ⟨allowed, more⟩ := along
      rw [taken] at more
      exact ih more last (keep s a t holds allowed taken)

theorem Along.and {P Q : S → A → Prop} {s : S} {acts : List A} (p : Along step P s acts)
    (q : Along step Q s acts) : Along step (fun s a => P s a ∧ Q s a) s acts := by
  induction acts generalizing s with
  | nil => trivial
  | cons a rest ih =>
      refine ⟨⟨p.1, q.1⟩, ?_⟩
      have restP := p.2
      have restQ := q.2
      cases taken : step s a with
      | none => trivial
      | some s' =>
          rw [taken] at restP restQ
          exact ih restP restQ

/-- A property every allowed step keeps is kept by a run of allowed steps. -/
theorem exec_preserves {I : S → Prop} {P : A → Prop}
    (keep : ∀ s a s', I s → P a → step s a = some s' → I s') :
    ∀ (acts : List A) (s s' : S), exec step s acts = some s' → (∀ a ∈ acts, P a) → I s → I s'
  | [], s, s', run, _, holds => by
      cases run
      exact holds
  | a :: rest, s, s', run, all, holds => by
      obtain ⟨t, taken, last⟩ := Option.bind_eq_some_iff.mp run
      exact exec_preserves keep rest t s' last (fun b member => all b (List.mem_cons_of_mem a member))
        (keep s a t holds (all a List.mem_cons_self) taken)

/-- From a state where `I` holds, what every step keeps related to the state before it is
related to that state after a whole run. -/
theorem exec_related {I : S → Prop} (rel : S → S → Prop) (refl : ∀ s, rel s s)
    (trans : ∀ s t u, rel s t → rel t u → rel s u)
    (keep : ∀ s a s', I s → step s a = some s' → I s' ∧ rel s s') {acts : List A} {s s' : S}
    (run : exec step s acts = some s') (holds : I s) : rel s s' := by
  induction acts generalizing s with
  | nil =>
      cases run
      exact refl _
  | cons a rest ih =>
      obtain ⟨t, taken, last⟩ := Option.bind_eq_some_iff.mp run
      obtain ⟨next, related⟩ := keep _ a t holds taken
      exact trans _ t s' related (ih last next)

variable (step) in
/-- The actions a list of choices makes, each in the state it finds. -/
def drive : S → List (S → A) → List A
  | _, [] => []
  | s, choose :: rest =>
      choose s :: match step s (choose s) with
        | some s' => drive s' rest
        | none => []

variable (step) in
/-- A value updated beside every step, from the state the step is taken in. -/
def history {H : Type} (update : S → A → H → H) : S → H → List A → H
  | _, h, [] => h
  | s, h, a :: rest =>
      match step s a with
      | some s' => history update s' (update s a h) rest
      | none => h

@[simp] theorem history_nil {H : Type} (update : S → A → H → H) (s : S) (h : H) :
    history step update s h [] = h := rfl

theorem history_snoc {H : Type} {update : S → A → H → H} {s t t' : S} {h : H} {acts : List A} {a : A}
    (run : exec step s acts = some t) (taken : step t a = some t') :
    history step update s h (acts ++ [a]) = update t a (history step update s h acts) := by
  induction acts generalizing s h with
  | nil =>
      cases run
      simp [history, taken]
  | cons b rest ih =>
      obtain ⟨next, first, last⟩ := Option.bind_eq_some_iff.mp run
      simp only [List.cons_append, history, first]
      exact ih last

variable (step) in
/-- The states some run from `s₀` ends in. -/
def Reached (s₀ s : S) : Prop := ∃ acts, exec step s₀ acts = some s

/-- An inductive invariant holds in every reached state. -/
theorem Reached.invariant {s₀ s : S} {I : S → Prop} (reached : Reached step s₀ s) (start : I s₀)
    (next : ∀ s a s', I s → step s a = some s' → I s') : I s := by
  obtain ⟨acts, run⟩ := reached
  exact exec_induction (P := fun _ s => I s) start
    (fun _ s a s' _ holds taken => next s a s' holds taken) acts s run

end Runs

/-! ## Facts later actions cannot undo -/

/-- A property of runs that survives every extension of the run. -/
def Stable {A : Type} (P : List A → Prop) : Prop :=
  ∀ acts more, P acts → P (acts ++ more)

end RustSsh.Theory
