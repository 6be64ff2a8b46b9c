/-
# Theory.Volume -- names and the files behind them

A directory links names to files.  A file is known by its number, so that a handle on a file
stays with it when its name is moved, and no two names link to one file.  What an operation does
to the other names is `Spares`: nothing.
-/
import Mathlib.Logic.Function.Basic

namespace RustSsh.Theory

set_option autoImplicit false

structure Volume (ν β : Type) where
  link : ν → Option Nat
  content : Nat → β
  /-- the number of the next file -/
  fresh : Nat
  bound : ∀ name i, link name = some i → i < fresh
  single : ∀ name other i, link name = some i → link other = some i → name = other

namespace Volume

variable {ν β : Type}

/-- The file behind a name. -/
def read (v : Volume ν β) (name : ν) : Option β := (v.link name).map v.content

/-- Change a file through a handle. -/
def put (v : Volume ν β) (i : Nat) (b : β) : Volume ν β :=
  { v with content := Function.update v.content i b }

section

variable [DecidableEq ν]

/-- A new file; the second component is its number. -/
def create (v : Volume ν β) (name : ν) (b : β) : Volume ν β × Nat :=
  ({ link := Function.update v.link name (some v.fresh)
     content := Function.update v.content v.fresh b
     fresh := v.fresh + 1
     bound := by
       intro other i linked
       rw [Function.update_apply] at linked
       split at linked
       · cases linked
         exact Nat.lt_succ_self _
       · exact Nat.lt_succ_of_lt (v.bound other i linked)
     single := by
       intro one other i first second
       rw [Function.update_apply] at first second
       split at first <;> split at second
       · simp_all
       · cases first
         exact absurd (v.bound other _ second) (Nat.lt_irrefl _)
       · cases second
         exact absurd (v.bound one _ first) (Nat.lt_irrefl _)
       · exact v.single one other i first second }, v.fresh)

/-- `rename`: the file behind `name` is behind `target`, and what was there has no name. -/
def move (v : Volume ν β) (name target : ν) : Volume ν β :=
  { v with
    link := Function.update (Function.update v.link name none) target (v.link name)
    bound := by
      intro other i linked
      rw [Function.update_apply, Function.update_apply] at linked
      split at linked
      · exact v.bound name i linked
      · split at linked
        · cases linked
        · exact v.bound other i linked
    single := by
      intro one other i first second
      rw [Function.update_apply, Function.update_apply] at first second
      split at first <;> split at second
      · simp_all
      · split at second
        · cases second
        · rename_i apart
          exact absurd (v.single name other i first second).symm apart
      · split at first
        · cases first
        · rename_i apart
          exact absurd (v.single name one i second first).symm apart
      · split at first
        · cases first
        · split at second
          · cases second
          · exact v.single one other i first second }

def remove (v : Volume ν β) (name : ν) : Volume ν β :=
  { v with
    link := Function.update v.link name none
    bound := by
      intro other i linked
      rw [Function.update_apply] at linked
      split at linked
      · cases linked
      · exact v.bound other i linked
    single := by
      intro one other i first second
      rw [Function.update_apply] at first second
      split at first
      · cases first
      · split at second
        · cases second
        · exact v.single one other i first second }

end

/-! ## What each operation does to the names -/

variable {v : Volume ν β} {name : ν} {i : Nat}

theorem read_of_link (linked : v.link name = some i) : v.read name = some (v.content i) := by
  rw [read, linked]
  rfl

@[simp] theorem put_link (v : Volume ν β) (i : Nat) (b : β) : (v.put i b).link = v.link := rfl

@[simp] theorem put_fresh (v : Volume ν β) (i : Nat) (b : β) : (v.put i b).fresh = v.fresh := rfl

@[simp] theorem put_content_self (v : Volume ν β) (i : Nat) (b : β) :
    (v.put i b).content i = b :=
  Function.update_self ..

theorem put_content_ne (v : Volume ν β) {i j : Nat} (b : β) (apart : j ≠ i) :
    (v.put i b).content j = v.content j :=
  Function.update_of_ne apart ..

/-- From `v` to `v'` only these names and the files behind them were touched. -/
def Spares (v v' : Volume ν β) (touched : ν → Prop) : Prop :=
  ∀ other, ¬ touched other →
    v'.link other = v.link other ∧ ∀ i, v.link other = some i → v'.content i = v.content i

theorem Spares.read {v v' : Volume ν β} {touched : ν → Prop} (spares : Spares v v' touched)
    {other : ν} (spared : ¬ touched other) : v'.read other = v.read other := by
  obtain ⟨link, content⟩ := spares other spared
  rw [Volume.read, Volume.read, link]
  cases there : v.link other with
  | none => rfl
  | some i => rw [Option.map_some, Option.map_some, content i there]

/-- A handle changes what is read under its own name only. -/
theorem spares_put (linked : v.link name = some i) (b : β) :
    Spares v (v.put i b) (· = name) := by
  refine fun other apart => ⟨rfl, fun j there => put_content_ne v b ?_⟩
  rintro rfl
  exact apart (v.single other name j there linked)

section

variable [DecidableEq ν]

@[simp] theorem create_link_self (v : Volume ν β) (name : ν) (b : β) :
    (v.create name b).1.link name = some v.fresh :=
  Function.update_self ..

theorem create_link_ne (v : Volume ν β) (b : β) {other : ν} (apart : other ≠ name) :
    (v.create name b).1.link other = v.link other :=
  Function.update_of_ne apart ..

@[simp] theorem create_number (v : Volume ν β) (name : ν) (b : β) :
    (v.create name b).2 = v.fresh := rfl

@[simp] theorem create_fresh (v : Volume ν β) (name : ν) (b : β) :
    (v.create name b).1.fresh = v.fresh + 1 := rfl

@[simp] theorem create_content_self (v : Volume ν β) (name : ν) (b : β) :
    (v.create name b).1.content v.fresh = b :=
  Function.update_self ..

theorem create_content_ne (v : Volume ν β) (name : ν) (b : β) (old : i ≠ v.fresh) :
    (v.create name b).1.content i = v.content i :=
  Function.update_of_ne old ..

theorem spares_create (v : Volume ν β) (name : ν) (b : β) :
    Spares v (v.create name b).1 (· = name) :=
  fun other apart => ⟨create_link_ne v b apart, fun j there =>
    create_content_ne v name b (Nat.ne_of_lt (v.bound other j there))⟩

@[simp] theorem move_content (v : Volume ν β) (name target : ν) :
    (v.move name target).content = v.content := rfl

@[simp] theorem move_fresh (v : Volume ν β) (name target : ν) :
    (v.move name target).fresh = v.fresh := rfl

theorem move_link (v : Volume ν β) (name target other : ν) :
    (v.move name target).link other =
      if other = target then v.link name else if other = name then none else v.link other := by
  show Function.update (Function.update v.link name none) target (v.link name) other = _
  rw [Function.update_apply, Function.update_apply]

theorem read_move (v : Volume ν β) (name target other : ν) :
    (v.move name target).read other =
      if other = target then v.read name else if other = name then none else v.read other := by
  rw [read, move_link, move_content]
  split
  · rfl
  · split <;> rfl

theorem spares_move (v : Volume ν β) (name target : ν) :
    Spares v (v.move name target) fun other => other = name ∨ other = target := by
  intro other apart
  rw [not_or] at apart
  refine ⟨?_, fun _ _ => rfl⟩
  rw [move_link, if_neg apart.2, if_neg apart.1]

@[simp] theorem remove_content (v : Volume ν β) (name : ν) :
    (v.remove name).content = v.content := rfl

@[simp] theorem remove_fresh (v : Volume ν β) (name : ν) : (v.remove name).fresh = v.fresh := rfl

theorem remove_link (v : Volume ν β) (name other : ν) :
    (v.remove name).link other = if other = name then none else v.link other := by
  show Function.update v.link name none other = _
  rw [Function.update_apply]

theorem spares_remove (v : Volume ν β) (name : ν) : Spares v (v.remove name) (· = name) := by
  refine fun other apart => ⟨?_, fun _ _ => rfl⟩
  rw [remove_link, if_neg apart]

end

end Volume

end RustSsh.Theory
