import BuilderCore.Collections.AssocList

/-!
This module contains finite maps without an order on their keys: `HashMap`, and the non-empty
`NEMap` that keeps one of its entries apart from the others.
-/

universe u v

namespace Collections

variable {κ : Type u} {ν : Type v} [DecidableEq κ]

/--
A finite map, as the list of its entries in the order in which its iterators visit them.
-/
structure HashMap (κ : Type u) (ν : Type v) where
  entries : List (κ × ν)
  nodup : (entries.map Prod.fst).Nodup

namespace HashMap

def empty : HashMap κ ν := ⟨[], by simp⟩

def get? (m : HashMap κ ν) (k : κ) : Option ν := m.entries.lookup k

def keys (m : HashMap κ ν) : List κ := m.entries.map Prod.fst

def values (m : HashMap κ ν) : List ν := m.entries.map Prod.snd

def len (m : HashMap κ ν) : Nat := m.entries.length

def insert (m : HashMap κ ν) (k : κ) (v : ν) : HashMap κ ν :=
  ⟨upsert k v m.entries, nodup_keys_upsert k v m.nodup⟩

def remove (m : HashMap κ ν) (k : κ) : HashMap κ ν :=
  ⟨m.entries.filter fun e => e.1 ≠ k, nodup_keys_filter _ m.nodup⟩

def retain (m : HashMap κ ν) (p : κ → Bool) : HashMap κ ν :=
  ⟨m.entries.filter fun e => p e.1, nodup_keys_filter _ m.nodup⟩

theorem mem_entries_iff {m : HashMap κ ν} {k : κ} {v : ν} :
    (k, v) ∈ m.entries ↔ m.get? k = some v :=
  mem_iff_lookup m.nodup

theorem mem_keys_iff {m : HashMap κ ν} {k : κ} : k ∈ m.keys ↔ ∃ v, m.get? k = some v := by
  simp [keys, ← mem_entries_iff]

theorem len_eq_zero_iff {m : HashMap κ ν} : m.len = 0 ↔ ∀ k, m.get? k = none := by
  constructor
  . intro h k
    rw [get?, List.eq_nil_of_length_eq_zero h]
    rfl
  . intro h
    rw [len, List.length_eq_zero_iff, List.eq_nil_iff_forall_not_mem]
    rintro ⟨k, v⟩ hmem
    rw [mem_entries_iff, h] at hmem
    contradiction

@[simp]
theorem get?_empty (k : κ) : (empty : HashMap κ ν).get? k = none := rfl

@[simp]
theorem get?_insert (m : HashMap κ ν) (k k' : κ) (v : ν) :
    (m.insert k v).get? k' = if k' = k then some v else m.get? k' :=
  lookup_upsert k k' v m.entries

@[simp]
theorem get?_remove (m : HashMap κ ν) (k k' : κ) :
    (m.remove k).get? k' = if k' = k then none else m.get? k' := by
  have := lookup_filter_key (fun k' => decide (k' ≠ k)) k' m.entries
  simp only [remove, get?]
  rw [this]
  by_cases hk : k' = k <;> simp [hk]

@[simp]
theorem get?_retain (m : HashMap κ ν) (p : κ → Bool) (k : κ) :
    (m.retain p).get? k = if p k then m.get? k else none :=
  lookup_filter_key p k m.entries

end HashMap

/--
A finite map that is never empty: a distinguished entry and the map of the others.
-/
structure NEMap (κ : Type u) (ν : Type v) where
  headKey : κ
  headVal : ν
  tail : HashMap κ ν
  head_not_mem : headKey ∉ tail.keys

namespace NEMap

def entries (m : NEMap κ ν) : List (κ × ν) := (m.headKey, m.headVal) :: m.tail.entries

def values (m : NEMap κ ν) : List ν := m.entries.map Prod.snd

def len (m : NEMap κ ν) : Nat := m.tail.len + 1

def get? (m : NEMap κ ν) (k : κ) : Option ν :=
  if k = m.headKey then some m.headVal else m.tail.get? k

def singleton (k : κ) (v : ν) : NEMap κ ν := ⟨k, v, .empty, by simp [HashMap.keys, HashMap.empty]⟩

def insert (m : NEMap κ ν) (k : κ) (v : ν) : NEMap κ ν :=
  if hk : k = m.headKey then
    ⟨m.headKey, v, m.tail, m.head_not_mem⟩
  else
    ⟨m.headKey, m.headVal, m.tail.insert k v, by
      have := m.head_not_mem
      simp only [HashMap.keys, HashMap.insert, mem_keys_upsert, not_or] at this ⊢
      exact ⟨fun h => hk h.symm, this⟩⟩

omit [DecidableEq κ] in
theorem nodup_entries (m : NEMap κ ν) : (m.entries.map Prod.fst).Nodup := by
  simp only [entries, List.map_cons, List.nodup_cons]
  exact ⟨m.head_not_mem, m.tail.nodup⟩

theorem lookup_entries (m : NEMap κ ν) (k : κ) : m.entries.lookup k = m.get? k :=
  lookup_cons_ite k m.headKey m.headVal m.tail.entries

theorem mem_entries_iff {m : NEMap κ ν} {k : κ} {v : ν} :
    (k, v) ∈ m.entries ↔ m.get? k = some v := by
  rw [mem_iff_lookup m.nodup_entries, lookup_entries]

theorem mem_values_iff {m : NEMap κ ν} {v : ν} : v ∈ m.values ↔ ∃ k, m.get? k = some v := by
  simp [values, ← mem_entries_iff]

theorem get?_headKey (m : NEMap κ ν) : m.get? m.headKey = some m.headVal := by simp [get?]

@[simp]
theorem get?_singleton (k k' : κ) (v : ν) :
    (singleton k v).get? k' = if k' = k then some v else none := rfl

@[simp]
theorem get?_insert (m : NEMap κ ν) (k k' : κ) (v : ν) :
    (m.insert k v).get? k' = if k' = k then some v else m.get? k' := by
  unfold insert
  split
  . next hk =>
    subst hk
    simp only [get?]
    split <;> rfl
  . next hk =>
    simp only [get?, HashMap.get?_insert]
    split
    . next hhead =>
      subst hhead
      have : ¬ m.headKey = k := fun h => hk h.symm
      simp [this]
    . rfl

end NEMap

end Collections
