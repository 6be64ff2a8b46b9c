/-
# Theory.Roster -- everyone who ever joined a set

A set whose members come and go, as a list in the order they came: an entry says whether
its member is still in the set, and one that left stays on the list as it was then.  The
code keeps only the members (`present`), and names one of them by its place among them;
`change` finds the entry behind such a place.
-/
import Mathlib.Data.List.Basic

namespace RustSsh.Theory

set_option autoImplicit false

/-- The members with `true`, those who left with `false`. -/
abbrev Roster (α : Type) := List (α × Bool)

namespace Roster

variable {α : Type}

/-- The members, in the order they came. -/
def present (r : Roster α) : List α := (r.filter Prod.snd).map Prod.fst

def enter (r : Roster α) (new : List α) : Roster α := r ++ new.map (·, true)

/-- Replace the entry of the member at this place. -/
def change (f : α → α × Bool) : Roster α → Nat → Roster α
  | [], _ => []
  | (a, false) :: rest, place => (a, false) :: change f rest place
  | (a, true) :: rest, 0 => f a :: rest
  | (a, true) :: rest, place + 1 => (a, true) :: change f rest place

def update (f : α → α) (r : Roster α) (place : Nat) : Roster α :=
  r.change (fun a => (f a, true)) place

def leave (r : Roster α) (place : Nat) : Roster α := r.change (fun a => (a, false)) place

@[simp] theorem present_nil : present ([] : Roster α) = [] := rfl

@[simp] theorem present_cons_in (a : α) (r : Roster α) :
    present ((a, true) :: r) = a :: present r := rfl

@[simp] theorem present_cons_out (a : α) (r : Roster α) :
    present ((a, false) :: r) = present r := rfl

@[simp] theorem present_enter (r : Roster α) (new : List α) :
    (r.enter new).present = r.present ++ new := by
  simp [present, enter, List.filter_map, Function.comp_def]

theorem present_update {f : α → α} {r : Roster α} {place : Nat} {a : α}
    (here : r.present[place]? = some a) : (r.update f place).present = r.present.set place (f a) := by
  fun_induction change (fun a => (f a, true)) r place with
  | case1 => cases here
  | case2 b rest place ih => exact ih here
  | case3 b rest =>
      cases here
      simp [update, change]
  | case4 b rest place ih => simpa [update, change] using ih here

theorem present_leave (r : Roster α) (place : Nat) :
    (r.leave place).present = r.present.eraseIdx place := by
  fun_induction change (fun a => (a, false)) r place with
  | case1 => rfl
  | case2 b rest place ih => exact ih
  | case3 b rest => simp [leave, change]
  | case4 b rest place ih => simpa [leave, change] using ih

/-- An entry is as it was, or is the changed entry of the member at that place. -/
theorem change_getElem? {f : α → α × Bool} {r : Roster α} {place k : Nat} {a : α} {inside : Bool}
    (here : r[k]? = some (a, inside)) :
    (r.change f place)[k]? = some (a, inside) ∨
      (inside = true ∧ r.present[place]? = some a ∧ (r.change f place)[k]? = some (f a)) := by
  fun_induction change f r place generalizing k with
  | case1 => cases here
  | case2 b rest place ih =>
      cases k with
      | zero => exact .inl here
      | succ k => simpa [change] using ih here
  | case3 b rest =>
      cases k with
      | zero =>
          cases here
          exact .inr ⟨rfl, rfl, rfl⟩
      | succ k => exact .inl here
  | case4 b rest place ih =>
      cases k with
      | zero => exact .inl here
      | succ k => simpa [change] using ih here

/-- An entry after a change is one from before, or the changed entry of a member. -/
theorem mem_change {f : α → α × Bool} {r : Roster α} {place : Nat} {entry : α × Bool}
    (inside : entry ∈ r.change f place) :
    entry ∈ r ∨ ∃ a, r.present[place]? = some a ∧ (a, true) ∈ r ∧ entry = f a := by
  fun_induction change f r place with
  | case1 => cases inside
  | case2 b rest place ih =>
      cases inside with
      | head => exact .inl (List.mem_cons_self)
      | tail _ later =>
          cases ih later with
          | inl old => exact .inl (List.mem_cons_of_mem _ old)
          | inr new =>
              obtain ⟨a, here, member, same⟩ := new
              exact .inr ⟨a, here, List.mem_cons_of_mem _ member, same⟩
  | case3 b rest =>
      cases inside with
      | head => exact .inr ⟨b, rfl, List.mem_cons_self, rfl⟩
      | tail _ later => exact .inl (List.mem_cons_of_mem _ later)
  | case4 b rest place ih =>
      cases inside with
      | head => exact .inl (List.mem_cons_self)
      | tail _ later =>
          cases ih later with
          | inl old => exact .inl (List.mem_cons_of_mem _ old)
          | inr new =>
              obtain ⟨a, here, member, same⟩ := new
              exact .inr ⟨a, here, List.mem_cons_of_mem _ member, same⟩

theorem change_map {β : Type} {f : α → α × Bool} {g : α → β} (keeps : ∀ a, g (f a).1 = g a)
    (r : Roster α) (place : Nat) :
    (r.change f place).map (fun entry => g entry.1) = r.map fun entry => g entry.1 := by
  fun_induction change f r place with
  | case1 => rfl
  | case2 b rest place ih => simpa [change] using ih
  | case3 b rest => simp [keeps]
  | case4 b rest place ih => simpa [change] using ih

end Roster

end RustSsh.Theory
