/-
# Theory.Ownership -- a value that is in one place at a time

`held p t` says that place `p` (a task's locals, a map entry, a channel) holds
token `t`.  A token that cannot be copied is in at most one place, and every step
of a program either leaves it there, moves it or drops it.  `Exclusive.transfer`
is the one rule for all three: say which tokens now live in `dst`, and show that
every other token is where it was.
-/
import Mathlib.Data.Set.Basic
import Mathlib.Data.Finset.Card
import Mathlib.Logic.Function.Basic

namespace RustSsh.Theory

set_option autoImplicit false

section Exclusive

variable {P T : Type} {held held' : P → T → Prop}

/-- No token is in two places. -/
def Exclusive (held : P → T → Prop) : Prop :=
  ∀ ⦃t p q⦄, held p t → held q t → p = q

/-- Tokens were only dropped. -/
theorem Exclusive.mono (exclusive : Exclusive held) (dropped : ∀ p t, held' p t → held p t) :
    Exclusive held' :=
  fun _ _ _ atP atQ => exclusive (dropped _ _ atP) (dropped _ _ atQ)

/-- The tokens in `moved` are in `dst`; every other token is where it was. -/
theorem Exclusive.transfer (exclusive : Exclusive held) (moved : T → Prop) (dst : P)
    (after : ∀ p t, held' p t → (¬ moved t ∧ held p t) ∨ (moved t ∧ p = dst)) :
    Exclusive held' := by
  intro t p q atP atQ
  rcases after p t atP with ⟨still, wasP⟩ | ⟨gone, rfl⟩
  · rcases after q t atQ with ⟨_, wasQ⟩ | ⟨gone, _⟩
    · exact exclusive wasP wasQ
    · exact absurd gone still
  · rcases after q t atQ with ⟨still, _⟩ | ⟨_, rfl⟩
    · exact absurd gone still
    · rfl

end Exclusive

/-! ## A fixed number of permits

`contents p` are the permits place `p` holds.  In a `Ledger` no permit is held twice,
only `issued` permits are held, and the permits that are held and the `free` ones in
the pool are together the `capacity`.  Permits are acquired, released a place at a
time, and moved from one place to another. -/

section Ledger

variable {P T : Type}

structure Ledger (contents : P → List T) (issued : Set T) (free capacity : Nat) : Prop where
  within : ∀ p, ∀ t ∈ contents p, t ∈ issued
  once : ∀ p, (contents p).Nodup
  exclusive : Exclusive fun p t => t ∈ contents p
  counted : ∃ out : Finset T, (∀ t, t ∈ out ↔ ∃ p, t ∈ contents p) ∧ free + out.card = capacity

theorem ledger_empty (issued : Set T) (capacity : Nat) :
    Ledger (fun _ : P => ([] : List T)) issued capacity capacity where
  within _ := by simp
  once _ := List.nodup_nil
  exclusive := by
    intro t p q held
    cases held
  counted := ⟨∅, by simp, by simp⟩

namespace Ledger

variable {contents : P → List T} {issued : Set T} {free capacity : Nat}

theorem acquire [DecidableEq P] [DecidableEq T] (ledger : Ledger contents issued free capacity) {p : P}
    {t : T} (unused : contents p = []) (new : t ∉ issued) (available : 0 < free) :
    Ledger (Function.update contents p [t]) (insert t issued) (free - 1) capacity where
  within q := by
    rcases eq_or_ne q p with rfl | other
    · simp
    · intro t' held
      rw [Function.update_of_ne other] at held
      exact .inr (ledger.within q t' held)
  once q := by
    rcases eq_or_ne q p with rfl | other
    · simp
    · simpa [other] using ledger.once q
  exclusive := by
    refine ledger.exclusive.transfer (· = t) p ?_
    intro q t' held
    rcases eq_or_ne q p with rfl | other
    · exact .inr ⟨by simpa using held, rfl⟩
    · rw [Function.update_of_ne other] at held
      exact .inl ⟨fun same => new (same ▸ ledger.within q t' held), held⟩
  counted := by
    obtain ⟨out, member, count⟩ := ledger.counted
    have fresh : t ∉ out := fun inside => by
      obtain ⟨q, held⟩ := (member t).mp inside
      exact new (ledger.within q t held)
    refine ⟨insert t out, fun t' => ?_, ?_⟩
    · rw [Finset.mem_insert, member]
      constructor
      · rintro (rfl | ⟨q, held⟩)
        · exact ⟨p, by simp⟩
        · refine ⟨q, ?_⟩
          rcases eq_or_ne q p with rfl | other
          · simp [unused] at held
          · simpa [other] using held
      · rintro ⟨q, held⟩
        rcases eq_or_ne q p with rfl | other
        · exact .inl (by simpa using held)
        · exact .inr ⟨q, by simpa [other] using held⟩
    · rw [Finset.card_insert_of_notMem fresh]
      omega

theorem release [DecidableEq P] [DecidableEq T] (ledger : Ledger contents issued free capacity) (p : P) :
    Ledger (Function.update contents p []) issued (free + (contents p).length) capacity where
  within q := by
    rcases eq_or_ne q p with rfl | other
    · simp
    · simpa [other] using ledger.within q
  once q := by
    rcases eq_or_ne q p with rfl | other
    · simp
    · simpa [other] using ledger.once q
  exclusive := by
    refine ledger.exclusive.mono fun q t held => ?_
    rcases eq_or_ne q p with rfl | other
    · simp at held
    · simpa [other] using held
  counted := by
    obtain ⟨out, member, count⟩ := ledger.counted
    have inside : (contents p).toFinset ⊆ out := fun t held =>
      (member t).mpr ⟨p, List.mem_toFinset.mp held⟩
    refine ⟨out \ (contents p).toFinset, fun t => ?_, ?_⟩
    · rw [Finset.mem_sdiff, member, List.mem_toFinset]
      constructor
      · rintro ⟨⟨q, held⟩, elsewhere⟩
        refine ⟨q, ?_⟩
        rcases eq_or_ne q p with rfl | other
        · exact absurd held elsewhere
        · simpa [other] using held
      · rintro ⟨q, held⟩
        rcases eq_or_ne q p with rfl | other
        · simp at held
        · rw [Function.update_of_ne other] at held
          exact ⟨⟨q, held⟩, fun also => other (ledger.exclusive held also)⟩
    · have size := List.toFinset_card_of_nodup (ledger.once p)
      have bound := Finset.card_le_card inside
      rw [Finset.card_sdiff_of_subset inside]
      omega

theorem move [DecidableEq P] (ledger : Ledger contents issued free capacity) (src dst : P)
    (other : dst ≠ src) :
    Ledger (Function.update (Function.update contents src []) dst (contents src ++ contents dst))
      issued free capacity where
  within q t held := by
    rcases eq_or_ne q dst with rfl | notDst
    · rw [Function.update_self, List.mem_append] at held
      exact held.elim (ledger.within src t) (ledger.within q t)
    · rcases eq_or_ne q src with rfl | notSrc
      · simp [notDst] at held
      · exact ledger.within q t (by simpa [notDst, notSrc] using held)
  once q := by
    rcases eq_or_ne q dst with rfl | notDst
    · have apart : List.Disjoint (contents src) (contents q) := fun t inSrc inDst =>
        other (ledger.exclusive inDst inSrc)
      simpa using (ledger.once src).append (ledger.once q) apart
    · rcases eq_or_ne q src with rfl | notSrc
      · simp [notDst]
      · simpa [notDst, notSrc] using ledger.once q
  exclusive := by
    refine ledger.exclusive.transfer (fun t => t ∈ contents src ∨ t ∈ contents dst) dst ?_
    intro q t held
    rcases eq_or_ne q dst with rfl | notDst
    · exact .inr ⟨by simpa using held, rfl⟩
    · rw [Function.update_of_ne notDst] at held
      rcases eq_or_ne q src with rfl | notSrc
      · simp at held
      · rw [Function.update_of_ne notSrc] at held
        refine .inl ⟨?_, held⟩
        rintro (also | also)
        · exact notSrc (ledger.exclusive held also)
        · exact notDst (ledger.exclusive held also)
  counted := by
    obtain ⟨out, member, count⟩ := ledger.counted
    refine ⟨out, fun t => ?_, count⟩
    rw [member]
    constructor
    · rintro ⟨q, held⟩
      by_cases moved : q = src ∨ q = dst
      · refine ⟨dst, ?_⟩
        rcases moved with rfl | rfl <;> simp [held]
      · obtain ⟨notSrc, notDst⟩ := not_or.mp moved
        exact ⟨q, by simpa [notSrc, notDst] using held⟩
    · rintro ⟨q, held⟩
      rcases eq_or_ne q dst with rfl | notDst
      · rw [Function.update_self, List.mem_append] at held
        rcases held with held | held
        · exact ⟨src, held⟩
        · exact ⟨q, held⟩
      · rcases eq_or_ne q src with rfl | notSrc
        · simp [notDst] at held
        · exact ⟨q, by simpa [notDst, notSrc] using held⟩

/-- Whatever needs a permit of its own is at most `capacity` minus the free permits. -/
theorem live_le (ledger : Ledger contents issued free capacity) {live : Finset T}
    (covered : ∀ t ∈ live, ∃ p, t ∈ contents p) : free + live.card ≤ capacity := by
  obtain ⟨out, member, count⟩ := ledger.counted
  have bound : live.card ≤ out.card :=
    Finset.card_le_card fun t inside => (member t).mpr (covered t inside)
  omega

/-- When no place holds a permit, all of them are free. -/
theorem all_free (ledger : Ledger contents issued free capacity) (none : ∀ p, contents p = []) :
    free = capacity := by
  obtain ⟨out, member, count⟩ := ledger.counted
  have empty : out = ∅ := Finset.eq_empty_of_forall_notMem fun t inside => by
    obtain ⟨p, held⟩ := (member t).mp inside
    simp [none p] at held
  simpa [empty] using count

end Ledger

end Ledger

end RustSsh.Theory
