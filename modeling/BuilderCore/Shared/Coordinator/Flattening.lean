import BuilderCore.Collections.FlatMap
import BuilderCore.Shared.Coordinator.TieredViewMap
import Mathlib.Order.Bounds.Basic

/-!
This module contains the flat map that a two-tier map stands for, and that every operation on the one
is the operation on the other.
-/

namespace BuilderCore

open Collections

open ViewCompositeKey

variable {K V : Type} [ViewCompositeKey K]

namespace TieredViewMap

def flat (m : TieredViewMap K V) : FlatMap K V where
  get? := m.get
  finite := by
    apply (m.entries.map Prod.fst).finite_toSet.subset
    intro k hk
    obtain ⟨v, hv⟩ := Option.isSome_iff_exists.mp hk
    exact List.mem_map.mpr ⟨(k, v), mem_entries_iff.mpr hv, rfl⟩

@[simp]
theorem get?_flat (m : TieredViewMap K V) (k : K) : m.flat.get? k = m.get k := rfl

theorem enumerates_entries (m : TieredViewMap K V) : FlatMap.Enumerates m.entries m.flat :=
  ⟨m.nodup_entries, fun _ _ => mem_entries_iff⟩

inductive Operation (K V : Type) where
  | insert (k : K) (v : V)
  | prune (cutoffView : Nat)
  | getMut (k : K) (update : V → V)

/--
Through the reference of `get_mut`, a value is replaced by one that is computed from it.
-/
def perform (m : TieredViewMap K V) (operation : Operation K V) : TieredViewMap K V :=
  match operation with
  | .insert k v => m.insert k v
  | .prune cutoffView => (m.prune cutoffView).1
  | .getMut k update =>
    match m.getMut k with
    | none => m
    | some (v, write) => write (update v)

def performFlat [DecidableEq K] (m : FlatMap K V) (operation : Operation K V) : FlatMap K V :=
  match operation with
  | .insert k v => m.insert k v
  | .prune cutoffView => m.filter fun k => cutoffView ≤ view k
  | .getMut k update => m.modify k update

@[simp]
theorem flat_new : (new : TieredViewMap K V).flat = .empty := rfl

theorem flat_prune_snd (m : TieredViewMap K V) (cutoffView : Nat) :
    (m.prune cutoffView).2.flat = m.flat.filter fun k => view k < cutoffView := by
  ext k : 2
  simp

theorem flat_perform [DecidableEq K] (m : TieredViewMap K V) (operation : Operation K V) :
    (m.perform operation).flat = performFlat m.flat operation := by
  ext k : 2
  cases operation with
  | insert k' v => simp [perform, performFlat]
  | prune cutoffView => simp [perform, performFlat]
  | getMut k' update =>
    simp only [perform, performFlat, getMut_eq, FlatMap.get?_modify, get?_flat]
    cases hget : m.get k' with
    | none =>
      simp only [Option.map_none]
      split
      . next hk => rw [hk, hget]
      . rfl
    | some v => simp

theorem flat_foldl_perform [DecidableEq K] (m : TieredViewMap K V)
    (operations : List (Operation K V)) :
    (operations.foldl perform m).flat = operations.foldl performFlat m.flat := by
  symm
  apply List.foldl_hom flat
  intro m operation
  exact (flat_perform m operation).symm

def storedViews (f : FlatMap K V) : Set Nat :=
  {viewNumber | ∃ (k : K) (v : V), f.get? k = some v ∧ view k = viewNumber}

/--
What every observer of the two-tier map sees of the flat map.
-/
structure Represents (m : TieredViewMap K V) (f : FlatMap K V) : Prop where
  get : ∀ k, m.get k = f.get? k
  len : m.len = f.len
  isEmpty : m.isEmpty = true ↔ f = .empty
  values : FlatMap.EnumeratesValues m.values f
  bucket : ∀ viewNumber,
    FlatMap.EnumeratesValues (m.bucket viewNumber) (f.filter fun k => view k = viewNumber)
  range : ∀ p, ∃ views : List Nat, views.Pairwise (· < ·) ∧
    (∀ viewNumber, viewNumber ∈ views ↔ viewNumber ∈ storedViews f ∧ p viewNumber = true) ∧
    m.range p = views.map m.bucket
  lowestView : ∀ viewNumber,
    m.lowestView = some viewNumber ↔ IsLeast (storedViews f) viewNumber
  highestView : ∀ viewNumber,
    m.highestView = some viewNumber ↔ IsGreatest (storedViews f) viewNumber
  highestViewBuilder : (m.highestViewBuilder = none ↔ f = .empty) ∧
    ∀ v, m.highestViewBuilder = some v →
      ∃ k, f.get? k = some v ∧ IsGreatest (storedViews f) (view k)
  bucket_ne_nil : ∀ viewNumber bucket, m.tiers.get? viewNumber = some bucket →
    viewNumber ∈ storedViews f ∧ m.bucket viewNumber ≠ []

theorem mem_storedViews_iff {m : TieredViewMap K V} {viewNumber : Nat} :
    viewNumber ∈ storedViews m.flat ↔ ∃ bucket, m.tiers.get? viewNumber = some bucket := by
  constructor
  . rintro ⟨k, v, hk, rfl⟩
    obtain ⟨bucket, hbucket, -⟩ := get_eq_some.mp hk
    exact ⟨bucket, hbucket⟩
  . rintro ⟨bucket, hbucket⟩
    obtain ⟨k, rfl, hk⟩ := exists_get_of_tier hbucket
    exact ⟨k, _, hk, rfl⟩

theorem bucket_of_tier {m : TieredViewMap K V} {viewNumber : Nat} {bucket : NEMap (Subkey K) V}
    (h : m.tiers.get? viewNumber = some bucket) : m.bucket viewNumber = bucket.values := by
  simp only [TieredViewMap.bucket, h]

theorem isEmpty_iff {m : TieredViewMap K V} : m.isEmpty = true ↔ m.flat = .empty := by
  rw [isEmpty, decide_eq_true_iff, List.length_eq_zero_iff, BTreeMap.entries_eq_nil_iff,
    FlatMap.eq_empty_iff]
  constructor
  . intro h k
    simp [get, h]
  . intro h viewNumber
    cases hbucket : m.tiers.get? viewNumber with
    | none => rfl
    | some bucket =>
      obtain ⟨k, -, hk⟩ := exists_get_of_tier hbucket
      rw [← get?_flat, h k] at hk
      contradiction

theorem enumeratesValues_bucket (m : TieredViewMap K V) (viewNumber : Nat) :
    FlatMap.EnumeratesValues (m.bucket viewNumber)
      (m.flat.filter fun k => view k = viewNumber) := by
  cases hbucket : m.tiers.get? viewNumber with
  | none =>
    refine ⟨[], ⟨List.nodup_nil, ?_⟩, by simp [TieredViewMap.bucket, hbucket]⟩
    intro k v
    simp only [List.not_mem_nil, false_iff, FlatMap.get?_filter, decide_eq_true_eq, get?_flat]
    split
    . next hview => simp [get, hview, hbucket]
    . simp
  | some bucket =>
    refine ⟨tierEntries (viewNumber, bucket), ⟨nodup_tierEntries _, ?_⟩, ?_⟩
    . intro k v
      rw [mem_tierEntries_iff]
      simp only [FlatMap.get?_filter, decide_eq_true_eq, get?_flat, Option.ite_none_right_eq_some]
      constructor
      . rintro ⟨rfl, hget⟩
        exact ⟨rfl, get_eq_some.mpr ⟨bucket, hbucket, hget⟩⟩
      . rintro ⟨rfl, hget⟩
        simp only [get, hbucket] at hget
        exact ⟨rfl, hget⟩
    . rw [map_snd_tierEntries, bucket_of_tier hbucket]

theorem exists_views_of_range (m : TieredViewMap K V) (p : Nat → Bool) :
    ∃ views : List Nat, views.Pairwise (· < ·) ∧
      (∀ viewNumber, viewNumber ∈ views ↔ viewNumber ∈ storedViews m.flat ∧ p viewNumber = true) ∧
      m.range p = views.map m.bucket := by
  refine ⟨(m.tiers.range p).map Prod.fst, ?_, ?_, ?_⟩
  . rw [List.pairwise_map]
    exact m.tiers.sorted.sublist List.filter_sublist
  . intro viewNumber
    simp [mem_storedViews_iff, BTreeMap.mem_range_iff]
  . rw [range, List.map_map]
    apply List.map_congr_left
    rintro ⟨viewNumber, bucket⟩ htier
    exact (bucket_of_tier (BTreeMap.mem_range_iff.mp htier).1).symm

theorem forall_storedViews_iff {f : FlatMap K V} {p : Nat → Prop} :
    (∀ viewNumber ∈ storedViews f, p viewNumber) ↔ ∀ k v, f.get? k = some v → p (view k) := by
  constructor
  . intro h k v hk
    exact h _ ⟨k, v, hk, rfl⟩
  . rintro h _ ⟨k, v, hk, rfl⟩
    exact h k v hk

theorem lowestView_iff_isLeast {m : TieredViewMap K V} {viewNumber : Nat} :
    m.lowestView = some viewNumber ↔ IsLeast (storedViews m.flat) viewNumber := by
  rw [lowestView_eq_some, IsLeast, mem_lowerBounds, forall_storedViews_iff]
  rfl

theorem highestView_iff_isGreatest {m : TieredViewMap K V} {viewNumber : Nat} :
    m.highestView = some viewNumber ↔ IsGreatest (storedViews m.flat) viewNumber := by
  rw [highestView_eq_some, IsGreatest, mem_upperBounds, forall_storedViews_iff]
  rfl

theorem represents_flat (m : TieredViewMap K V) : Represents m m.flat where
  get := fun _ => rfl
  len := by rw [← length_entries, (enumerates_entries m).length_eq]
  isEmpty := isEmpty_iff
  values := ⟨m.entries, enumerates_entries m, map_snd_entries m⟩
  bucket := enumeratesValues_bucket m
  range := exists_views_of_range m
  lowestView := fun _ => lowestView_iff_isLeast
  highestView := fun _ => highestView_iff_isGreatest
  highestViewBuilder := by
    constructor
    . rw [FlatMap.eq_empty_iff]
      constructor
      . exact highestViewBuilder_eq_none
      . intro h
        rw [Option.eq_none_iff_forall_ne_some]
        intro v hv
        obtain ⟨k, hk, -⟩ := get_of_highestViewBuilder hv
        rw [← get?_flat, h k] at hk
        contradiction
    . intro v hv
      obtain ⟨k, hk, hview⟩ := get_of_highestViewBuilder hv
      exact ⟨k, hk, highestView_iff_isGreatest.mp hview⟩
  bucket_ne_nil := by
    intro viewNumber bucket hbucket
    refine ⟨mem_storedViews_iff.mpr ⟨bucket, hbucket⟩, ?_⟩
    rw [bucket_of_tier hbucket]
    simp [NEMap.values, NEMap.entries]

/--
The maps that `prune` returns are seen like the others.
-/
theorem refines_flat_map [DecidableEq K] (operations : List (Operation K V)) :
    Represents (operations.foldl perform new) (operations.foldl performFlat .empty) ∧
      ∀ cutoffView, Represents ((operations.foldl perform new).prune cutoffView).2
        ((operations.foldl performFlat .empty).filter fun k => view k < cutoffView) := by
  have hflat := flat_foldl_perform (new : TieredViewMap K V) operations
  rw [flat_new] at hflat
  constructor
  . rw [← hflat]
    exact represents_flat _
  . intro cutoffView
    rw [← hflat, ← flat_prune_snd]
    exact represents_flat _

end TieredViewMap

end BuilderCore
