import BuilderCore.Collections.AssocList
import Mathlib.Data.Finset.Card

/-!
This module contains bounded maps that evict the entry that was not used for the longest time.
-/

universe u v

namespace Collections

variable {κ : Type u} {ν : Type v} [DecidableEq κ]

/--
At most `cap` entries, the one that was used last first.
-/
structure LruCache (κ : Type u) (ν : Type v) where
  cap : Nat
  entries : List (κ × ν)
  cap_pos : 0 < cap
  nodup : (entries.map Prod.fst).Nodup
  length_le : entries.length ≤ cap

namespace LruCache

def new (cap : Nat) (cap_pos : 0 < cap) : LruCache κ ν :=
  ⟨cap, [], cap_pos, List.nodup_nil, Nat.zero_le cap⟩

def peek (c : LruCache κ ν) (k : κ) : Option ν := c.entries.lookup k

def keys (c : LruCache κ ν) : List κ := c.entries.map Prod.fst

def len (c : LruCache κ ν) : Nat := c.entries.length

def useFirst (k : κ) (v : ν) (l : List (κ × ν)) : List (κ × ν) :=
  (k, v) :: l.filter fun e => e.1 ≠ k

theorem nodup_useFirst (k : κ) (v : ν) {l : List (κ × ν)} (hl : (l.map Prod.fst).Nodup) :
    ((useFirst k v l).map Prod.fst).Nodup := by
  rw [useFirst, List.map_cons, List.nodup_cons]
  refine ⟨?_, nodup_keys_filter _ hl⟩
  simp [List.mem_map]

theorem lookup_useFirst (k k' : κ) (v : ν) (l : List (κ × ν)) :
    (useFirst k v l).lookup k' = if k' = k then some v else l.lookup k' := by
  rw [useFirst, lookup_cons_ite]
  have := lookup_filter_key (fun k' => decide (k' ≠ k)) k' l
  rw [this]
  by_cases hk : k' = k <;> simp [hk]

theorem length_useFirst {k : κ} {l : List (κ × ν)} (v : ν) (hk : k ∈ l.map Prod.fst) :
    (useFirst k v l).length ≤ l.length := by
  obtain ⟨e, he, rfl⟩ := List.mem_map.mp hk
  rw [useFirst, List.length_cons]
  apply List.length_filter_lt_length_iff_exists.mpr
  exact ⟨e, he, by simp⟩

def get (c : LruCache κ ν) (k : κ) : Option ν × LruCache κ ν :=
  match h : c.peek k with
  | none => (none, c)
  | some v =>
    (some v, {
      cap := c.cap
      entries := useFirst k v c.entries
      cap_pos := c.cap_pos
      nodup := nodup_useFirst k v c.nodup
      length_le := by
        have hmem := List.mem_map_of_mem (f := Prod.fst) ((mem_iff_lookup c.nodup).mpr h)
        exact Nat.le_trans (length_useFirst v hmem) c.length_le
    })

def put (c : LruCache κ ν) (k : κ) (v : ν) : LruCache κ ν where
  cap := c.cap
  entries := (useFirst k v c.entries).take c.cap
  cap_pos := c.cap_pos
  nodup := (nodup_useFirst k v c.nodup).sublist ((List.take_sublist _ _).map _)
  length_le := List.length_take_le _ _

/--
There is room for the key: putting it evicts nothing.
-/
def HasRoom (c : LruCache κ ν) (k : κ) : Prop := k ∈ c.keys ∨ c.len < c.cap

instance (c : LruCache κ ν) (k : κ) : Decidable (c.HasRoom k) :=
  inferInstanceAs (Decidable (_ ∨ _))

/--
There is room for all of the keys together.
-/
def HasRoomFor (c : LruCache κ ν) (ks : List κ) : Prop :=
  (c.keys.toFinset ∪ ks.toFinset).card ≤ c.cap

instance (c : LruCache κ ν) (ks : List κ) : Decidable (c.HasRoomFor ks) :=
  inferInstanceAs (Decidable (_ ≤ _))

@[simp]
theorem peek_new (cap : Nat) (cap_pos : 0 < cap) (k : κ) :
    (new cap cap_pos : LruCache κ ν).peek k = none := rfl

theorem mem_keys_iff {c : LruCache κ ν} {k : κ} : k ∈ c.keys ↔ ∃ v, c.peek k = some v := by
  simp [keys, peek, ← mem_iff_lookup c.nodup]

@[simp]
theorem get_fst (c : LruCache κ ν) (k : κ) : (c.get k).1 = c.peek k := by
  unfold get
  split
  . next h => exact h.symm
  . next v h => exact h.symm

@[simp]
theorem peek_get_snd (c : LruCache κ ν) (k k' : κ) : (c.get k).2.peek k' = c.peek k' := by
  unfold get
  split
  . rfl
  . next v h =>
    simp only [peek, lookup_useFirst]
    split
    . next hk =>
      rw [hk]
      exact h.symm
    . rfl

theorem peek_put_self (c : LruCache κ ν) (k : κ) (v : ν) : (c.put k v).peek k = some v := by
  have hpos := c.cap_pos
  simp only [peek, put, useFirst]
  cases hcap : c.cap with
  | zero => omega
  | succ cap => simp

theorem peek_put_of_hasRoom {c : LruCache κ ν} {k : κ} (h : c.HasRoom k) (v : ν) (k' : κ) :
    (c.put k v).peek k' = if k' = k then some v else c.peek k' := by
  have hlen : (useFirst k v c.entries).length ≤ c.cap := by
    rcases h with hmem | hlt
    . exact Nat.le_trans (length_useFirst v hmem) c.length_le
    . have hfilter := List.length_filter_le (fun e => decide (e.1 ≠ k)) c.entries
      have hlt : c.entries.length < c.cap := hlt
      simp only [useFirst, List.length_cons]
      omega
  simp only [peek, put, List.take_of_length_le hlen, lookup_useFirst]

theorem mem_keys_put {c : LruCache κ ν} {k : κ} (h : c.HasRoom k) (v : ν) {k' : κ} :
    k' ∈ (c.put k v).keys ↔ k' = k ∨ k' ∈ c.keys := by
  rw [mem_keys_iff, mem_keys_iff, peek_put_of_hasRoom h]
  by_cases hk : k' = k <;> simp [hk]

theorem mem_keys_get {c : LruCache κ ν} {k k' : κ} : k' ∈ (c.get k).2.keys ↔ k' ∈ c.keys := by
  rw [mem_keys_iff, mem_keys_iff, peek_get_snd]

theorem cap_get (c : LruCache κ ν) (k : κ) : (c.get k).2.cap = c.cap := by
  unfold get
  split <;> rfl

namespace HasRoomFor

variable {c : LruCache κ ν} {ks : List κ}

theorem hasRoom (h : c.HasRoomFor ks) {k : κ} (hk : k ∈ ks) : c.HasRoom k := by
  by_cases hmem : k ∈ c.keys
  . exact .inl hmem
  . right
    have hlen : c.keys.toFinset.card = c.len := by
      rw [keys, List.toFinset_card_of_nodup c.nodup, List.length_map, len]
    have hss : c.keys.toFinset ⊂ c.keys.toFinset ∪ ks.toFinset := by
      apply Finset.ssubset_iff_of_subset Finset.subset_union_left |>.mpr
      exact ⟨k, by simp [hk], by simpa using hmem⟩
    have hlt := Finset.card_lt_card hss
    unfold HasRoomFor at h
    omega

theorem get (h : c.HasRoomFor ks) (k : κ) : (c.get k).2.HasRoomFor ks := by
  have hkeys : (c.get k).2.keys.toFinset = c.keys.toFinset := by
    ext k'
    rw [List.mem_toFinset, List.mem_toFinset, mem_keys_get]
  unfold HasRoomFor
  rwa [hkeys, cap_get]

theorem put (h : c.HasRoomFor ks) {k : κ} (hk : k ∈ ks) (v : ν) : (c.put k v).HasRoomFor ks := by
  have hkeys : (c.put k v).keys.toFinset ∪ ks.toFinset = c.keys.toFinset ∪ ks.toFinset := by
    ext k'
    simp only [Finset.mem_union, List.mem_toFinset, mem_keys_put (h.hasRoom hk)]
    constructor
    . rintro ((rfl | hmem) | hmem)
      . exact .inr hk
      . exact .inl hmem
      . exact .inr hmem
    . rintro (hmem | hmem)
      . exact .inl (.inr hmem)
      . exact .inr hmem
  unfold HasRoomFor
  rwa [hkeys]

end HasRoomFor

theorem peek_of_peek_put {c : LruCache κ ν} {k k' : κ} {v w : ν}
    (h : (c.put k v).peek k' = some w) : (k' = k ∧ w = v) ∨ (k' ≠ k ∧ c.peek k' = some w) := by
  have hmem := (mem_iff_lookup (c.put k v).nodup).mpr h
  have hmem : (k', w) ∈ useFirst k v c.entries := (List.take_sublist _ _).subset hmem
  rw [mem_iff_lookup (nodup_useFirst k v c.nodup), lookup_useFirst] at hmem
  split at hmem
  . next hk =>
    rw [Option.some.injEq] at hmem
    exact .inl ⟨hk, hmem.symm⟩
  . next hk => exact .inr ⟨hk, hmem⟩

end LruCache

end Collections
