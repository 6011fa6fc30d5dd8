import Mathlib.Data.Finite.Defs
import Mathlib.Data.Set.Card

/-!
This module contains finite maps as functions, without any representation: what a data structure that
stores entries by their keys stands for.
-/

universe u v

namespace Collections

variable {κ : Type u} {ν : Type v}

@[ext]
structure FlatMap (κ : Type u) (ν : Type v) where
  get? : κ → Option ν
  finite : Set.Finite {k | (get? k).isSome = true}

namespace FlatMap

def keys (m : FlatMap κ ν) : Set κ := {k | (m.get? k).isSome = true}

noncomputable def len (m : FlatMap κ ν) : Nat := m.keys.ncard

def empty : FlatMap κ ν := ⟨fun _ => none, by simp⟩

def insert [DecidableEq κ] (m : FlatMap κ ν) (k : κ) (v : ν) : FlatMap κ ν where
  get? k' := if k' = k then some v else m.get? k'
  finite := by
    apply (m.finite.insert k).subset
    intro k' hk'
    by_cases h : k' = k
    . exact .inl h
    . right
      simpa [h] using hk'

def modify [DecidableEq κ] (m : FlatMap κ ν) (k : κ) (f : ν → ν) : FlatMap κ ν where
  get? k' := if k' = k then (m.get? k).map f else m.get? k'
  finite := by
    apply m.finite.subset
    intro k' hk'
    by_cases h : k' = k
    . subst h
      simpa using hk'
    . simpa [h] using hk'

def filter (m : FlatMap κ ν) (p : κ → Bool) : FlatMap κ ν where
  get? k := if p k then m.get? k else none
  finite := by
    apply m.finite.subset
    intro k hk
    cases h : p k <;> simp_all

/--
The list has every entry of the map, and has it once.
-/
structure Enumerates (entries : List (κ × ν)) (m : FlatMap κ ν) : Prop where
  nodup : (entries.map Prod.fst).Nodup
  mem_iff : ∀ k v, (k, v) ∈ entries ↔ m.get? k = some v

/--
The list has the value of every entry of the map once.
-/
def EnumeratesValues (values : List ν) (m : FlatMap κ ν) : Prop :=
  ∃ entries, Enumerates entries m ∧ entries.map Prod.snd = values

@[simp]
theorem get?_empty (k : κ) : (empty : FlatMap κ ν).get? k = none := rfl

@[simp]
theorem get?_insert [DecidableEq κ] (m : FlatMap κ ν) (k k' : κ) (v : ν) :
    (m.insert k v).get? k' = if k' = k then some v else m.get? k' := rfl

@[simp]
theorem get?_modify [DecidableEq κ] (m : FlatMap κ ν) (k k' : κ) (f : ν → ν) :
    (m.modify k f).get? k' = if k' = k then (m.get? k).map f else m.get? k' := rfl

@[simp]
theorem get?_filter (m : FlatMap κ ν) (p : κ → Bool) (k : κ) :
    (m.filter p).get? k = if p k then m.get? k else none := rfl

theorem mem_keys_iff {m : FlatMap κ ν} {k : κ} : k ∈ m.keys ↔ ∃ v, m.get? k = some v :=
  Option.isSome_iff_exists

theorem eq_empty_iff {m : FlatMap κ ν} : m = empty ↔ ∀ k, m.get? k = none := by
  rw [FlatMap.ext_iff]
  exact funext_iff

theorem Enumerates.keys_eq {entries : List (κ × ν)} {m : FlatMap κ ν} (h : Enumerates entries m) :
    m.keys = {k | k ∈ entries.map Prod.fst} := by
  ext k
  rw [mem_keys_iff]
  simp [h.mem_iff]

theorem Enumerates.length_eq {entries : List (κ × ν)} {m : FlatMap κ ν}
    (h : Enumerates entries m) : entries.length = m.len := by
  classical
  have hkeys : m.keys = ↑(entries.map Prod.fst).toFinset := by
    rw [h.keys_eq]
    ext k
    simp
  rw [len, hkeys, Set.ncard_coe_finset, List.toFinset_card_of_nodup h.nodup, List.length_map]

end FlatMap

end Collections
