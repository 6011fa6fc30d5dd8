import BuilderCore.Collections.AssocList
import Mathlib.Order.Lattice
import Mathlib.Data.List.Basic

/-!
This module contains finite maps with ordered keys, as the list of their entries in increasing order
of the keys.
-/

universe u v

namespace Collections

variable {κ : Type u} {ν : Type v} [LinearOrder κ]

structure BTreeMap (κ : Type u) (ν : Type v) [LinearOrder κ] where
  entries : List (κ × ν)
  sorted : entries.Pairwise fun e e' => e.1 < e'.1

namespace BTreeMap

def empty : BTreeMap κ ν := ⟨[], by simp⟩

def get? (m : BTreeMap κ ν) (k : κ) : Option ν := m.entries.lookup k

def values (m : BTreeMap κ ν) : List ν := m.entries.map Prod.snd

def range (m : BTreeMap κ ν) (p : κ → Bool) : List (κ × ν) := m.entries.filter fun e => p e.1

def firstKeyValue (m : BTreeMap κ ν) : Option (κ × ν) := m.entries.head?

def lastKeyValue (m : BTreeMap κ ν) : Option (κ × ν) := m.entries.getLast?

def insertEntry (k : κ) (v : ν) : List (κ × ν) → List (κ × ν)
  | [] => [(k, v)]
  | (k', v') :: l =>
    if k < k' then
      (k, v) :: (k', v') :: l
    else if k = k' then
      (k, v) :: l
    else
      (k', v') :: insertEntry k v l

theorem mem_insertEntry {k : κ} {v : ν} {l : List (κ × ν)} {e : κ × ν}
    (he : e ∈ insertEntry k v l) : e = (k, v) ∨ e ∈ l := by
  induction l with
  | nil => simpa [insertEntry] using he
  | cons e' l ih =>
    obtain ⟨k', v'⟩ := e'
    simp only [insertEntry] at he
    split at he
    . simpa using he
    . split at he
      . simp only [List.mem_cons] at he ⊢
        tauto
      . simp only [List.mem_cons] at he ⊢
        rcases he with he | he
        . exact .inr (.inl he)
        . have := ih he
          tauto

theorem sorted_insertEntry (k : κ) (v : ν) {l : List (κ × ν)}
    (hl : l.Pairwise fun e e' => e.1 < e'.1) :
    (insertEntry k v l).Pairwise fun e e' => e.1 < e'.1 := by
  induction l with
  | nil => simp [insertEntry]
  | cons e l ih =>
    obtain ⟨k', v'⟩ := e
    have htail := (List.pairwise_cons.mp hl).2
    have hhead := (List.pairwise_cons.mp hl).1
    simp only [insertEntry]
    split
    . next hlt =>
      refine List.pairwise_cons.mpr ⟨?_, hl⟩
      intro e he
      rcases List.mem_cons.mp he with rfl | he
      . exact hlt
      . exact lt_trans hlt (hhead e he)
    . next hlt =>
      split
      . next heq =>
        subst heq
        exact List.pairwise_cons.mpr ⟨hhead, htail⟩
      . next hne =>
        refine List.pairwise_cons.mpr ⟨?_, ih htail⟩
        intro e he
        rcases mem_insertEntry he with rfl | he
        . exact lt_of_le_of_ne (not_lt.mp hlt) (Ne.symm hne)
        . exact hhead e he

theorem lookup_insertEntry (k k' : κ) (v : ν) {l : List (κ × ν)}
    (hl : l.Pairwise fun e e' => e.1 < e'.1) :
    (insertEntry k v l).lookup k' = if k' = k then some v else l.lookup k' := by
  induction l with
  | nil => simp [insertEntry, lookup_cons_ite]
  | cons e l ih =>
    obtain ⟨k₀, v₀⟩ := e
    have htail := (List.pairwise_cons.mp hl).2
    simp only [insertEntry]
    split
    . simp only [lookup_cons_ite]
    . split
      . next heq =>
        subst heq
        simp only [lookup_cons_ite]
        split <;> rfl
      . next hne =>
        simp only [lookup_cons_ite, ih htail]
        split
        . next heq =>
          have : ¬ k' = k := fun h => hne (h.symm.trans heq)
          simp [this]
        . rfl

def insert (m : BTreeMap κ ν) (k : κ) (v : ν) : BTreeMap κ ν :=
  ⟨insertEntry k v m.entries, sorted_insertEntry k v m.sorted⟩

def splitOff (m : BTreeMap κ ν) (k : κ) : BTreeMap κ ν × BTreeMap κ ν :=
  (⟨m.range (· < k), m.sorted.sublist List.filter_sublist⟩,
    ⟨m.range (k ≤ ·), m.sorted.sublist List.filter_sublist⟩)

theorem nodup_keys (m : BTreeMap κ ν) : (m.entries.map Prod.fst).Nodup := by
  rw [List.Nodup, List.pairwise_map]
  exact m.sorted.imp ne_of_lt

theorem mem_entries_iff {m : BTreeMap κ ν} {k : κ} {v : ν} :
    (k, v) ∈ m.entries ↔ m.get? k = some v :=
  mem_iff_lookup m.nodup_keys

theorem mem_values_iff {m : BTreeMap κ ν} {v : ν} : v ∈ m.values ↔ ∃ k, m.get? k = some v := by
  simp [values, ← mem_entries_iff]

@[simp]
theorem get?_empty (k : κ) : (empty : BTreeMap κ ν).get? k = none := rfl

@[simp]
theorem get?_insert (m : BTreeMap κ ν) (k k' : κ) (v : ν) :
    (m.insert k v).get? k' = if k' = k then some v else m.get? k' :=
  lookup_insertEntry k k' v m.sorted

@[simp]
theorem get?_splitOff_fst (m : BTreeMap κ ν) (k k' : κ) :
    (m.splitOff k).1.get? k' = if k' < k then m.get? k' else none := by
  have := lookup_filter_key (fun k' => decide (k' < k)) k' m.entries
  simpa [splitOff, range, get?] using this

@[simp]
theorem get?_splitOff_snd (m : BTreeMap κ ν) (k k' : κ) :
    (m.splitOff k).2.get? k' = if k ≤ k' then m.get? k' else none := by
  have := lookup_filter_key (fun k' => decide (k ≤ k')) k' m.entries
  simpa [splitOff, range, get?] using this

theorem mem_range_iff {m : BTreeMap κ ν} {p : κ → Bool} {k : κ} {v : ν} :
    (k, v) ∈ m.range p ↔ m.get? k = some v ∧ p k = true := by
  simp [range, List.mem_filter, mem_entries_iff]

theorem entries_eq_nil_iff {m : BTreeMap κ ν} : m.entries = [] ↔ ∀ k, m.get? k = none := by
  constructor
  . intro h k
    simp [get?, h]
  . intro h
    rw [List.eq_nil_iff_forall_not_mem]
    rintro ⟨k, v⟩ he
    rw [mem_entries_iff, h k] at he
    contradiction

theorem head?_range_eq_some {m : BTreeMap κ ν} {p : κ → Bool} {k : κ} {v : ν} :
    (m.range p).head? = some (k, v) ↔
      m.get? k = some v ∧ p k = true ∧ ∀ k' v', m.get? k' = some v' → p k' = true → k ≤ k' := by
  have hsorted : (m.range p).Pairwise fun e e' => e.1 < e'.1 :=
    m.sorted.sublist List.filter_sublist
  have hmem := @mem_range_iff κ ν _ m p
  generalize m.range p = l at hsorted hmem
  cases l with
  | nil =>
    simp only [List.head?_nil, reduceCtorEq, false_iff, not_and]
    intro hk hp
    have := hmem.mpr ⟨hk, hp⟩
    simp at this
  | cons e l =>
    obtain ⟨k₀, v₀⟩ := e
    simp only [List.head?_cons, Option.some.injEq]
    have hhead := (List.pairwise_cons.mp hsorted).1
    have h₀ := hmem.mp (List.mem_cons_self ..)
    constructor
    . rintro ⟨rfl, rfl⟩
      refine ⟨h₀.1, h₀.2, ?_⟩
      intro k' v' hk' hp'
      have := hmem.mpr ⟨hk', hp'⟩
      rcases List.mem_cons.mp this with heq | hmem'
      . simp only [Prod.mk.injEq] at heq
        exact le_of_eq heq.1.symm
      . exact le_of_lt (hhead _ hmem')
    . rintro ⟨hk, hp, hleast⟩
      have := hmem.mpr ⟨hk, hp⟩
      rcases List.mem_cons.mp this with heq | hmem'
      . exact heq.symm
      . have hle := hleast k₀ v₀ h₀.1 h₀.2
        exact absurd (hhead _ hmem') (not_lt.mpr hle)

theorem firstKeyValue_eq_some {m : BTreeMap κ ν} {k : κ} {v : ν} :
    m.firstKeyValue = some (k, v) ↔
      m.get? k = some v ∧ ∀ k' v', m.get? k' = some v' → k ≤ k' := by
  have hrange : m.range (fun _ => true) = m.entries := by simp [range]
  have := @head?_range_eq_some κ ν _ m (fun _ => true) k v
  simpa [hrange, firstKeyValue] using this

theorem lastKeyValue_eq_some {m : BTreeMap κ ν} {k : κ} {v : ν} :
    m.lastKeyValue = some (k, v) ↔
      m.get? k = some v ∧ ∀ k' v', m.get? k' = some v' → k' ≤ k := by
  have hsorted := m.sorted
  have hmem := @mem_entries_iff κ ν _ m
  unfold lastKeyValue
  generalize m.entries = l at hsorted hmem
  rcases List.eq_nil_or_concat l with rfl | ⟨l, ⟨k₀, v₀⟩, rfl⟩
  . simp only [List.getLast?_nil, reduceCtorEq, false_iff, not_and]
    intro hk
    have := hmem.mpr hk
    simp at this
  . simp only [List.concat_eq_append] at hsorted hmem ⊢
    have hlast := (List.pairwise_append.mp hsorted).2.2
    have h₀ := hmem.mp (show (k₀, v₀) ∈ l ++ [(k₀, v₀)] by simp)
    simp only [List.getLast?_append, List.getLast?_singleton, Option.some_or, Option.some.injEq]
    constructor
    . rintro ⟨rfl, rfl⟩
      refine ⟨h₀, ?_⟩
      intro k' v' hk'
      have := hmem.mpr hk'
      rcases List.mem_append.mp this with hmem' | heq
      . exact le_of_lt (hlast _ hmem' (k, v) (by simp))
      . simp only [List.mem_singleton, Prod.mk.injEq] at heq
        exact le_of_eq heq.1
    . rintro ⟨hk, hgreatest⟩
      have := hmem.mpr hk
      rcases List.mem_append.mp this with hmem' | heq
      . have hle := hgreatest k₀ v₀ h₀
        exact absurd (hlast _ hmem' (k₀, v₀) (by simp)) (not_lt.mpr hle)
      . exact (List.mem_singleton.mp heq).symm

theorem lastKeyValue_eq_none {m : BTreeMap κ ν} :
    m.lastKeyValue = none ↔ ∀ k, m.get? k = none := by
  rw [← entries_eq_nil_iff]
  simp [lastKeyValue]

theorem firstKeyValue_eq_none {m : BTreeMap κ ν} :
    m.firstKeyValue = none ↔ ∀ k, m.get? k = none := by
  rw [← entries_eq_nil_iff]
  simp [firstKeyValue]

end BTreeMap

end Collections
