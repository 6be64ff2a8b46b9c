/-
# Theory.HashMap -- a map with one value type

`HashMap<K, V>` as an association list without duplicate keys.  Nothing here
depends on the order of the entries: what a map holds is what `lookup` says.
-/
import Mathlib.Data.List.AList
import Mathlib.Logic.Function.Basic

namespace RustSsh.Theory

set_option autoImplicit false

abbrev HashMap (K V : Type) := AList fun _ : K => V

namespace HashMap

variable {K V : Type} [DecidableEq K]

theorem lookup_insert_iff {m : HashMap K V} {k k' : K} {v v' : V} :
    (m.insert k v).lookup k' = some v' ↔ (k' = k ∧ v' = v) ∨ (k' ≠ k ∧ m.lookup k' = some v') := by
  by_cases same : k' = k
  · subst same
    simp [AList.lookup_insert, eq_comm]
  · simp [AList.lookup_insert_ne same, same]

theorem lookup_erase_iff {m : HashMap K V} {k k' : K} {v : V} :
    (m.erase k).lookup k' = some v ↔ k' ≠ k ∧ m.lookup k' = some v := by
  by_cases same : k' = k
  · subst same
    simp [AList.lookup_erase]
  · simp [AList.lookup_erase_ne same, same]

theorem lookup_insert_update (m : HashMap K V) (k : K) (v : V) (k' : K) :
    (m.insert k v).lookup k' = Function.update (fun k => m.lookup k) k (some v) k' := by
  rcases eq_or_ne k' k with rfl | other
  · simp [AList.lookup_insert]
  · simp [AList.lookup_insert_ne other, other]

theorem lookup_erase_update (m : HashMap K V) (k k' : K) :
    (m.erase k).lookup k' = Function.update (fun k => m.lookup k) k none k' := by
  rcases eq_or_ne k' k with rfl | other
  · simp [AList.lookup_erase]
  · simp [AList.lookup_erase_ne other, other]

/-- Entries with distinct keys, inserted one after the other, are all found. -/
theorem lookup_foldl_insert {X : Type} {key : X → K} {value : X → V} {entries : List X}
    (distinct : (entries.map key).Nodup) (m : HashMap K V) (k : K) (v : V) :
    (entries.foldl (fun m x => m.insert (key x) (value x)) m).lookup k = some v ↔
      (∃ x ∈ entries, key x = k ∧ value x = v) ∨
        ((∀ x ∈ entries, key x ≠ k) ∧ m.lookup k = some v) := by
  induction entries generalizing m with
  | nil => simp
  | cons x rest ih =>
      rw [List.map_cons, List.nodup_cons] at distinct
      rw [List.foldl_cons, ih distinct.2, lookup_insert_iff]
      constructor
      · intro found
        rcases found with later | ⟨absent, here | old⟩
        · obtain ⟨y, member, holds⟩ := later
          exact .inl ⟨y, List.mem_cons_of_mem _ member, holds⟩
        · exact .inl ⟨x, List.mem_cons_self, here.1.symm, here.2.symm⟩
        · refine .inr ⟨?_, old.2⟩
          intro y member
          cases List.mem_cons.mp member with
          | inl first =>
              rw [first]
              exact Ne.symm old.1
          | inr later => exact absent y later
      · intro found
        rcases found with ⟨y, member, same, value_eq⟩ | ⟨absent, old⟩
        · cases List.mem_cons.mp member with
          | inl first =>
              rw [first] at same value_eq
              refine .inr ⟨?_, .inl ⟨same.symm, value_eq.symm⟩⟩
              intro z inside equal
              apply distinct.1
              rw [same, ← equal]
              exact List.mem_map_of_mem inside
          | inr later => exact .inl ⟨y, later, same, value_eq⟩
        · refine .inr ⟨fun y member => absent y (List.mem_cons_of_mem _ member), .inr ⟨?_, old⟩⟩
          exact Ne.symm (absent x List.mem_cons_self)

/-- The values, one for each key. -/
def values (m : HashMap K V) : List V := m.entries.map Sigma.snd

theorem mem_values {m : HashMap K V} {v : V} : v ∈ m.values ↔ ∃ k, m.lookup k = some v := by
  constructor
  · intro member
    obtain ⟨⟨k, w⟩, entry, rfl⟩ := List.mem_map.mp member
    exact ⟨k, AList.mem_lookup_iff.mpr entry⟩
  · rintro ⟨k, found⟩
    exact List.mem_map.mpr ⟨⟨k, v⟩, AList.mem_lookup_iff.mp found, rfl⟩

/-- When no value is under two keys, the values are listed without repetition. -/
theorem values_nodup {m : HashMap K V}
    (once : ∀ k k' v, m.lookup k = some v → m.lookup k' = some v → k = k') : m.values.Nodup := by
  refine List.Nodup.map_on ?_ (List.NodupKeys.nodup m.nodupKeys)
  rintro ⟨k, v⟩ entry ⟨k', v'⟩ entry' same
  cases same
  cases once k k' v (AList.mem_lookup_iff.mpr entry) (AList.mem_lookup_iff.mpr entry')
  rfl

end HashMap

end RustSsh.Theory
