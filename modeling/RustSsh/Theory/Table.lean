/-
# Theory.Table -- entries with two keys

A table whose entries are told apart by either of two keys: `put` takes out what shares a
key with the new entry and appends it.
-/
import Mathlib.Data.List.Nodup

namespace RustSsh.Theory.Table

set_option autoImplicit false

variable {E K L : Type} (key : E → K) (other : E → L)

/-- No two entries share a key. -/
structure Unique (table : List E) : Prop where
  key : (table.map key).Nodup
  other : (table.map other).Nodup

theorem unique_nil : Unique key other ([] : List E) := ⟨List.nodup_nil, List.nodup_nil⟩

variable [DecidableEq K] [DecidableEq L]

/-- Take out what has a key of the entry, and append it. -/
def put (table : List E) (e : E) : List E :=
  table.filter (fun old => key old ≠ key e ∧ other old ≠ other e) ++ [e]

variable {key other}

theorem Unique.put {table : List E} (unique : Unique key other table) (e : E) :
    Unique key other (put key other table e) := by
  have kept : (table.filter fun old => key old ≠ key e ∧ other old ≠ other e).Sublist table :=
    List.filter_sublist
  constructor
  · rw [Table.put, List.map_append, List.map_singleton, List.nodup_append]
    refine ⟨unique.key.sublist (kept.map key), List.nodup_singleton _, ?_⟩
    intro a member b here
    obtain ⟨old, inside, rfl⟩ := List.mem_map.mp member
    rw [List.mem_singleton.mp here]
    simp only [List.mem_filter, decide_eq_true_eq] at inside
    exact inside.2.1
  · rw [Table.put, List.map_append, List.map_singleton, List.nodup_append]
    refine ⟨unique.other.sublist (kept.map other), List.nodup_singleton _, ?_⟩
    intro a member b here
    obtain ⟨old, inside, rfl⟩ := List.mem_map.mp member
    rw [List.mem_singleton.mp here]
    simp only [List.mem_filter, decide_eq_true_eq] at inside
    exact inside.2.2

theorem Unique.puts {table : List E} (unique : Unique key other table) (entries : List E) :
    Unique key other (entries.foldl (Table.put key other) table) := by
  induction entries generalizing table with
  | nil => exact unique
  | cons e rest ih => exact ih (unique.put e)

end RustSsh.Theory.Table
