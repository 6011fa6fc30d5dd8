import Mathlib.Data.List.Nodup

/-!
This module contains the lemmas about `List.lookup` in lists of entries without a repeated key, and
the insertion that keeps keys distinct. The maps of this library are such lists.
-/

universe u v

namespace Collections

variable {κ : Type u} {ν : Type v} [DecidableEq κ]

def upsert (k : κ) (v : ν) : List (κ × ν) → List (κ × ν)
  | [] => [(k, v)]
  | (k', v') :: l => if k' = k then (k, v) :: l else (k', v') :: upsert k v l

theorem lookup_cons_ite (k k' : κ) (v : ν) (l : List (κ × ν)) :
    ((k', v) :: l).lookup k = if k = k' then some v else l.lookup k := by
  by_cases hk : k = k'
  . subst hk
    simp
  . have : (k == k') = false := by simpa using hk
    simp [List.lookup_cons, this, hk]

theorem lookup_eq_none_iff_not_mem_keys {k : κ} {l : List (κ × ν)} :
    l.lookup k = none ↔ k ∉ l.map Prod.fst := by
  simp only [List.lookup_eq_none_iff, bne_iff_ne, List.mem_map, not_exists, not_and]
  constructor
  . intro h p hp hk
    exact h p hp hk.symm
  . intro h p hp hk
    exact h p hp hk.symm

theorem mem_iff_lookup {k : κ} {v : ν} {l : List (κ × ν)} (hl : (l.map Prod.fst).Nodup) :
    (k, v) ∈ l ↔ l.lookup k = some v := by
  induction l with
  | nil => simp
  | cons e l ih =>
    obtain ⟨k', v'⟩ := e
    simp only [List.map_cons, List.nodup_cons] at hl
    rw [lookup_cons_ite, List.mem_cons, ih hl.2]
    by_cases hk : k = k'
    . subst hk
      have hnone := lookup_eq_none_iff_not_mem_keys.mpr hl.1
      simp [hnone, eq_comm]
    . simp [hk]

theorem lookup_upsert (k k' : κ) (v : ν) (l : List (κ × ν)) :
    (upsert k v l).lookup k' = if k' = k then some v else l.lookup k' := by
  induction l with
  | nil => simp [upsert, lookup_cons_ite]
  | cons e l ih =>
    obtain ⟨k₀, v₀⟩ := e
    simp only [upsert]
    split
    . next hk₀ =>
      subst hk₀
      simp only [lookup_cons_ite]
      split <;> rfl
    . next hk₀ =>
      simp only [lookup_cons_ite, ih]
      split
      . next hk =>
        subst hk
        simp [hk₀]
      . rfl

theorem mem_keys_upsert (k k' : κ) (v : ν) (l : List (κ × ν)) :
    k' ∈ (upsert k v l).map Prod.fst ↔ k' = k ∨ k' ∈ l.map Prod.fst := by
  rw [← not_iff_not, not_or, ← lookup_eq_none_iff_not_mem_keys, lookup_upsert,
    ← lookup_eq_none_iff_not_mem_keys]
  split <;> simp_all

theorem nodup_keys_upsert (k : κ) (v : ν) {l : List (κ × ν)} (hl : (l.map Prod.fst).Nodup) :
    ((upsert k v l).map Prod.fst).Nodup := by
  induction l with
  | nil => simp [upsert]
  | cons e l ih =>
    obtain ⟨k₀, v₀⟩ := e
    simp only [List.map_cons, List.nodup_cons] at hl
    simp only [upsert]
    split
    . next hk₀ =>
      subst hk₀
      simpa using hl
    . next hk₀ =>
      simp only [List.map_cons, List.nodup_cons]
      refine ⟨?_, ih hl.2⟩
      rw [mem_keys_upsert, not_or]
      exact ⟨hk₀, hl.1⟩

omit [DecidableEq κ] in
theorem nodup_keys_filter (p : κ × ν → Bool) {l : List (κ × ν)} (hl : (l.map Prod.fst).Nodup) :
    ((l.filter p).map Prod.fst).Nodup :=
  hl.sublist (List.filter_sublist.map Prod.fst)

theorem lookup_filter_key (p : κ → Bool) (k : κ) (l : List (κ × ν)) :
    (l.filter fun e => p e.1).lookup k = if p k then l.lookup k else none := by
  induction l with
  | nil => simp
  | cons e l ih =>
    obtain ⟨k₀, v₀⟩ := e
    rw [List.filter_cons]
    by_cases hk : k = k₀
    . subst hk
      cases hp : p k <;> simp [hp, ih]
    . cases p k₀ <;> simp [lookup_cons_ite, hk, ih]

end Collections
