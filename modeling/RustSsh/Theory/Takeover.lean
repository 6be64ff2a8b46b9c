/-
# Theory.Takeover -- the newest registration of a key wins

Generations register under a key.  A new one takes the key over from the one that
holds it and, as a separate step, signals it to stop; a generation that stops
withdraws, again as a separate step, and only what is still its own.  `Valid` is what
holds between these steps in every order: a registered generation has not withdrawn,
and one that lost its key without being signalled has exactly one successor about to
signal it.
-/
import Mathlib.Logic.Function.Basic
import Mathlib.Data.Prod.Basic

namespace RustSsh.Theory

set_option autoImplicit false

inductive Stage (K G : Type) where
  | fresh
  /-- registered; about to signal the generation it took the key from -/
  | announcing (key : K) (previous : G)
  | serving (key : K)
  /-- stopped, not withdrawn yet -/
  | leaving (key : K)
  | gone
  deriving DecidableEq

namespace Stage

variable {K G : Type}

/-- The key a generation registered under and has not withdrawn from. -/
def key : Stage K G → Option K
  | .announcing k _ => some k
  | .serving k => some k
  | .leaving k => some k
  | _ => none

end Stage

structure Takeover (K G : Type) where
  registry : K → Option G
  stage : G → Stage K G
  signalled : G → Bool

namespace Takeover

variable {K G : Type} [DecidableEq K] [DecidableEq G]

set_option linter.unusedSectionVars false

inductive Step (t : Takeover K G) : Takeover K G → Prop where
  | enter {g : G} (k : K) (here : t.stage g = .fresh) (free : t.registry k = none) :
      Step t
        { registry := Function.update t.registry k (some g)
          stage := Function.update t.stage g (.serving k)
          signalled := Function.update t.signalled g false }
  | replace {g previous : G} {k : K} (here : t.stage g = .fresh)
      (held : t.registry k = some previous) :
      Step t
        { registry := Function.update t.registry k (some g)
          stage := Function.update t.stage g (.announcing k previous)
          signalled := Function.update t.signalled g false }
  | announce {g previous : G} {k : K} (here : t.stage g = .announcing k previous) :
      Step t
        { registry := t.registry
          stage := Function.update t.stage g (.serving k)
          signalled := Function.update t.signalled previous true }
  | leave {g : G} {k : K} (here : t.stage g = .serving k) :
      Step t { t with stage := Function.update t.stage g (.leaving k) }
  | withdraw {g : G} {k : K} (here : t.stage g = .leaving k) :
      Step t
        { registry :=
            if t.registry k = some g then Function.update t.registry k none else t.registry
          stage := Function.update t.stage g .gone
          signalled := t.signalled }
  | abandon {g : G} (here : t.stage g = .fresh) :
      Step t { t with stage := Function.update t.stage g .gone }

structure Valid (t : Takeover K G) : Prop where
  registered : ∀ {k g}, t.registry k = some g → (t.stage g).key = some k
  /-- who lost its key was signalled or will be -/
  notice : ∀ {k g}, (t.stage g).key = some k → t.registry k ≠ some g →
    t.signalled g = true ∨ ∃ h, t.stage h = .announcing k g
  replaced : ∀ {h k g}, t.stage h = .announcing k g →
    t.stage g ≠ .fresh ∧ ∀ k', t.registry k' ≠ some g
  once : ∀ {h h' k k' g}, t.stage h = .announcing k g → t.stage h' = .announcing k' g → h = h'

theorem valid_empty (signalled : G → Bool) :
    Valid ({ registry := fun _ => none, stage := fun _ => .fresh, signalled } : Takeover K G) where
  registered found := by cases found
  notice key := by cases key
  replaced here := by cases here
  once here := by cases here

namespace Valid

variable {t t' : Takeover K G}

/-- What a fresh generation is not: registered, nor waiting for its notice. -/
theorem fresh_apart (valid : Valid t) {g : G} (fresh : t.stage g = .fresh) :
    (∀ k, t.registry k ≠ some g) ∧ ∀ h k, t.stage h ≠ .announcing k g := by
  constructor
  · intro k found
    have key := valid.registered found
    rw [fresh] at key
    cases key
  · intro h k announcing
    exact (valid.replaced announcing).1 fresh

theorem step_registered (valid : Valid t) (taken : Step t t') {k : K} {g : G}
    (found : t'.registry k = some g) : (t'.stage g).key = some k := by
  cases taken with
  | @enter g₁ k₁ here | @replace g₁ _ k₁ here =>
      have apart := (valid.fresh_apart here).1
      rcases eq_or_ne k k₁ with rfl | other
      · simp only [Function.update_self, Option.some.injEq] at found
        subst found
        simp [Stage.key]
      · simp only [Function.update_of_ne other] at found
        have notNew : g ≠ g₁ := fun same => apart k (same ▸ found)
        simpa [notNew] using valid.registered found
  | @announce g₁ _ k₁ here | @leave g₁ k₁ here =>
      have key := valid.registered found
      rcases eq_or_ne g g₁ with rfl | other
      · simpa [here, Stage.key] using key
      · simpa [other] using key
  | @withdraw g₁ k₁ here =>
      have before : t.registry k = some g ∧ g ≠ g₁ := by
        dsimp only at found
        split at found
        · rename_i own
          rcases eq_or_ne k k₁ with rfl | other
          · simp at found
          · rw [Function.update_of_ne other] at found
            refine ⟨found, ?_⟩
            rintro rfl
            have key := valid.registered found
            rw [here] at key
            exact other (Option.some.inj key).symm
        · rename_i lost
          refine ⟨found, ?_⟩
          rintro rfl
          have key := valid.registered found
          rw [here] at key
          cases key
          exact lost found
      simpa [before.2] using valid.registered before.1
  | @abandon g₁ here =>
      have apart := (valid.fresh_apart here).1
      have other : g ≠ g₁ := fun same => apart k (same ▸ found)
      simpa [other] using valid.registered found

/-- A generation the step makes announce took the key from `previous`. -/
theorem step_announcing (taken : Step t t') {h g : G} {k : K}
    (here : t'.stage h = .announcing k g) :
    t.stage h = .announcing k g ∨
      (t.stage h = .fresh ∧ t.registry k = some g ∧ t'.registry = Function.update t.registry k (some h)) := by
  cases taken with
  | @enter g₁ k₁ at_ | @announce g₁ _ k₁ at_ | @leave g₁ k₁ at_ | @withdraw g₁ k₁ at_
  | @abandon g₁ at_ =>
      rcases eq_or_ne h g₁ with rfl | other
      · simp at here
      · exact .inl (by simpa [other] using here)
  | @replace g₁ previous k₁ at_ held =>
      rcases eq_or_ne h g₁ with rfl | other
      · simp only [Function.update_self, Stage.announcing.injEq] at here
        obtain ⟨rfl, rfl⟩ := here
        exact .inr ⟨at_, held, rfl⟩
      · exact .inl (by simpa [other] using here)

theorem step_once (valid : Valid t) (taken : Step t t') {h h' g : G} {k k' : K}
    (here : t'.stage h = .announcing k g) (here' : t'.stage h' = .announcing k' g) : h = h' := by
  rcases step_announcing taken here with old | ⟨-, held, made⟩ <;>
    rcases step_announcing taken here' with old' | ⟨-, held', made'⟩
  · exact valid.once old old'
  · exact absurd held' ((valid.replaced old).2 k')
  · exact absurd held ((valid.replaced old').2 k)
  · have key := valid.registered held
    rw [valid.registered held'] at key
    cases key
    rw [made] at made'
    have same := congrFun made' k
    simpa using same

theorem step_not_fresh (taken : Step t t') {g : G} (known : t.stage g ≠ .fresh) :
    t'.stage g ≠ .fresh := by
  cases taken with
  | @enter g₁ | @replace g₁ | @announce g₁ | @leave g₁ | @withdraw g₁ | @abandon g₁ =>
      rcases eq_or_ne g g₁ with rfl | other
      · simp
      · simpa [other] using known

/-- Only a fresh generation gets registered. -/
theorem step_registers (taken : Step t t') {g : G} {k : K} (found : t'.registry k = some g) :
    t.registry k = some g ∨ t.stage g = .fresh := by
  cases taken with
  | @enter g₁ k₁ here | @replace g₁ _ k₁ here =>
      rcases eq_or_ne k k₁ with rfl | other
      · simp only [Function.update_self, Option.some.injEq] at found
        exact .inr (found ▸ here)
      · exact .inl (by simpa [other] using found)
  | announce | leave | abandon => exact .inl found
  | @withdraw g₁ k₁ here =>
      dsimp only at found
      split at found
      · rcases eq_or_ne k k₁ with rfl | other
        · simp at found
        · exact .inl (by simpa [other] using found)
      · exact .inl found

theorem step_replaced (valid : Valid t) (taken : Step t t') {h g : G} {k : K}
    (here : t'.stage h = .announcing k g) :
    t'.stage g ≠ .fresh ∧ ∀ k', t'.registry k' ≠ some g := by
  rcases step_announcing taken here with old | ⟨fresh, held, made⟩
  · obtain ⟨known, unregistered⟩ := valid.replaced old
    refine ⟨step_not_fresh taken known, fun k' found => ?_⟩
    rcases step_registers taken found with before | fresh
    · exact unregistered k' before
    · exact known fresh
  · have key := valid.registered held
    have known : t.stage g ≠ .fresh := by
      intro fresh
      rw [fresh] at key
      cases key
    refine ⟨step_not_fresh taken known, fun k' found => ?_⟩
    rw [made] at found
    rcases eq_or_ne k' k with rfl | other
    · simp only [Function.update_self, Option.some.injEq] at found
      exact known (found ▸ fresh)
    · rw [Function.update_of_ne other] at found
      rw [valid.registered found] at key
      exact other (Option.some.inj key)

/-- The notice for `g` is still there when the step is not by its announcer. -/
theorem notice_kept {g g₁ : G} {k : K} {stage : Stage K G} (apart : t.stage g₁ ≠ .announcing k g)
    (notice : t.signalled g = true ∨ ∃ h, t.stage h = .announcing k g) :
    t.signalled g = true ∨ ∃ h, Function.update t.stage g₁ stage h = .announcing k g := by
  rcases notice with told | ⟨h, announcing⟩
  · exact .inl told
  · have other : h ≠ g₁ := fun same => apart (same ▸ announcing)
    exact .inr ⟨h, by simpa [other] using announcing⟩

theorem step_notice (valid : Valid t) (taken : Step t t') {g : G} {k : K}
    (key : (t'.stage g).key = some k) (lost : t'.registry k ≠ some g) :
    t'.signalled g = true ∨ ∃ h, t'.stage h = .announcing k g := by
  cases taken with
  | @enter g₁ k₁ here free =>
      have other : g ≠ g₁ := by
        rintro rfl
        simp only [Function.update_self, Stage.key, Option.some.injEq] at key
        simp [key] at lost
      have before : t.registry k ≠ some g := by
        rcases eq_or_ne k k₁ with rfl | apart
        · simp [free]
        · simpa [apart] using lost
      have notice := valid.notice (by simpa [other] using key) before
      simpa [other] using notice_kept (by simp [here]) notice
  | @replace g₁ previous k₁ here held =>
      have other : g ≠ g₁ := by
        rintro rfl
        simp only [Function.update_self, Stage.key, Option.some.injEq] at key
        simp [key] at lost
      by_cases superseded : k = k₁ ∧ g = previous
      · obtain ⟨rfl, rfl⟩ := superseded
        exact .inr ⟨g₁, by simp⟩
      have before : t.registry k ≠ some g := by
        rcases eq_or_ne k k₁ with rfl | apart
        · intro found
          rw [held] at found
          exact superseded ⟨rfl, (Option.some.inj found).symm⟩
        · simpa [apart] using lost
      have notice := valid.notice (by simpa [other] using key) before
      simpa [other] using notice_kept (by simp [here]) notice
  | @announce g₁ previous k₁ here =>
      rcases eq_or_ne g previous with rfl | other
      · exact .inl (by simp)
      have same : (t.stage g).key = some k := by
        rcases eq_or_ne g g₁ with rfl | apart
        · simpa [here, Stage.key] using key
        · simpa [apart] using key
      have notice := valid.notice same lost
      simpa [other] using notice_kept (by simp [here, other.symm]) notice
  | @leave g₁ k₁ here =>
      have same : (t.stage g).key = some k := by
        rcases eq_or_ne g g₁ with rfl | apart
        · simpa [here, Stage.key] using key
        · simpa [apart] using key
      exact notice_kept (by simp [here]) (valid.notice same lost)
  | @withdraw g₁ k₁ here =>
      have other : g ≠ g₁ := by
        rintro rfl
        simp [Stage.key] at key
      have before : t.registry k ≠ some g := by
        intro found
        dsimp only at lost
        split at lost
        · rename_i own
          rcases eq_or_ne k k₁ with rfl | apart
          · rw [own] at found
            exact other (Option.some.inj found).symm
          · exact lost (by simpa [apart] using found)
        · exact lost found
      exact notice_kept (by simp [here]) (valid.notice (by simpa [other] using key) before)
  | @abandon g₁ here =>
      have other : g ≠ g₁ := by
        rintro rfl
        simp [Stage.key] at key
      exact notice_kept (by simp [here]) (valid.notice (by simpa [other] using key) lost)

theorem step (valid : Valid t) (taken : Step t t') : Valid t' where
  registered := valid.step_registered taken
  notice := valid.step_notice taken
  replaced := valid.step_replaced taken
  once := valid.step_once taken

end Valid

end Takeover

end RustSsh.Theory
