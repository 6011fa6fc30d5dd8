import BuilderCore.Collections.BTreeMap
import BuilderCore.Collections.HashMap
import BuilderCore.Shared.Block
import Mathlib.Algebra.GroupWithZero.Nat
import Mathlib.Order.Nat

/-!
This module contains the two-tier map that is keyed by a view and a subkey, and the characterization
of its operations by what `get` returns.
-/

namespace BuilderCore

open Collections

class ViewCompositeKey (K : Type) where
  Subkey : Type
  [decEqSubkey : DecidableEq Subkey]
  view : K → Nat
  subkey : K → Subkey
  key : Nat → Subkey → K
  view_key : ∀ v s, view (key v s) = v
  subkey_key : ∀ v s, subkey (key v s) = s
  key_view_subkey : ∀ k, key (view k) (subkey k) = k

attribute [reducible, instance] ViewCompositeKey.decEqSubkey

open ViewCompositeKey

instance {T : NodeType} : ViewCompositeKey (BuilderStateId T) where
  Subkey := T.VidCommitment
  view := BuilderStateId.parentView
  subkey := BuilderStateId.parentCommitment
  key := BuilderStateId.mk
  view_key _ _ := rfl
  subkey_key _ _ := rfl
  key_view_subkey _ := rfl

variable {K V : Type} [ViewCompositeKey K]

theorem ViewCompositeKey.eq_iff {k k' : K} : k = k' ↔ view k = view k' ∧ subkey k = subkey k' := by
  constructor
  . rintro rfl
    exact ⟨rfl, rfl⟩
  . rintro ⟨hview, hsubkey⟩
    rw [← key_view_subkey k, ← key_view_subkey k', hview, hsubkey]

structure TieredViewMap (K V : Type) [ViewCompositeKey K] where
  tiers : BTreeMap Nat (NEMap (Subkey K) V)

namespace TieredViewMap

def new : TieredViewMap K V := ⟨.empty⟩

def values (m : TieredViewMap K V) : List V := m.tiers.values.flatMap NEMap.values

/--
The values of each view in the range, in increasing order of the views.
-/
def range (m : TieredViewMap K V) (p : Nat → Bool) : List (List V) :=
  (m.tiers.range p).map fun tier => tier.2.values

def bucket (m : TieredViewMap K V) (viewNumber : Nat) : List V :=
  match m.tiers.get? viewNumber with
  | none => []
  | some bucket => bucket.values

def len (m : TieredViewMap K V) : Nat := (m.tiers.values.map NEMap.len).sum

def isEmpty (m : TieredViewMap K V) : Bool := m.tiers.entries.length = 0

def get (m : TieredViewMap K V) (k : K) : Option V := do
  let bucket ← m.tiers.get? (view k)
  bucket.get? (subkey k)

/--
The value behind the reference, and the map after another value is written through it.
-/
def getMut (m : TieredViewMap K V) (k : K) : Option (V × (V → TieredViewMap K V)) := do
  let bucket ← m.tiers.get? (view k)
  let value ← bucket.get? (subkey k)
  return (value, fun v => ⟨m.tiers.insert (view k) (bucket.insert (subkey k) v)⟩)

def highestViewBuilder (m : TieredViewMap K V) : Option V :=
  m.tiers.lastKeyValue.map fun tier => tier.2.headVal

def insert (m : TieredViewMap K V) (k : K) (v : V) : TieredViewMap K V :=
  match m.tiers.get? (view k) with
  | none => ⟨m.tiers.insert (view k) (.singleton (subkey k) v)⟩
  | some bucket => ⟨m.tiers.insert (view k) (bucket.insert (subkey k) v)⟩

def highestView (m : TieredViewMap K V) : Option Nat := m.tiers.lastKeyValue.map Prod.fst

def lowestView (m : TieredViewMap K V) : Option Nat := m.tiers.firstKeyValue.map Prod.fst

/--
What is left in the map, and what was removed from it.
-/
def prune (m : TieredViewMap K V) (cutoffView : Nat) : TieredViewMap K V × TieredViewMap K V :=
  let (low, high) := m.tiers.splitOff cutoffView
  (⟨high⟩, ⟨low⟩)

theorem get_eq_some {m : TieredViewMap K V} {k : K} {v : V} :
    m.get k = some v ↔
      ∃ bucket, m.tiers.get? (view k) = some bucket ∧ bucket.get? (subkey k) = some v := by
  simp [get, Option.bind_eq_some_iff]

@[simp]
theorem get_new (k : K) : (new : TieredViewMap K V).get k = none := rfl

@[simp]
theorem get_insert [DecidableEq K] (m : TieredViewMap K V) (k k' : K) (v : V) :
    (m.insert k v).get k' = if k' = k then some v else m.get k' := by
  have hkey : k' = k ↔ view k' = view k ∧ subkey k' = subkey k := ViewCompositeKey.eq_iff
  unfold insert
  split
  all_goals
    next bucket =>
    simp only [get, BTreeMap.get?_insert]
    by_cases hview : view k' = view k
    . by_cases hsubkey : subkey k' = subkey k <;> simp_all
    . have : k' ≠ k := fun h => hview (hkey.mp h).1
      simp [hview, this]

theorem getMut_eq (m : TieredViewMap K V) (k : K) :
    m.getMut k = (m.get k).map fun v => (v, m.insert k) := by
  unfold getMut get insert
  cases hbucket : m.tiers.get? (view k) with
  | none => rfl
  | some bucket =>
    cases hvalue : bucket.get? (subkey k) with
    | none => simp [hvalue]
    | some v => simp [hvalue]

@[simp]
theorem get_prune_fst (m : TieredViewMap K V) (cutoffView : Nat) (k : K) :
    (m.prune cutoffView).1.get k = if cutoffView ≤ view k then m.get k else none := by
  simp only [prune, get, BTreeMap.get?_splitOff_snd]
  split <;> rfl

@[simp]
theorem get_prune_snd (m : TieredViewMap K V) (cutoffView : Nat) (k : K) :
    (m.prune cutoffView).2.get k = if view k < cutoffView then m.get k else none := by
  simp only [prune, get, BTreeMap.get?_splitOff_fst]
  split <;> rfl

def tierEntries (tier : Nat × NEMap (Subkey K) V) : List (K × V) :=
  tier.2.entries.map fun e => (key tier.1 e.1, e.2)

def entries (m : TieredViewMap K V) : List (K × V) := m.tiers.entries.flatMap tierEntries

theorem map_snd_tierEntries (tier : Nat × NEMap (Subkey K) V) :
    (tierEntries tier : List (K × V)).map Prod.snd = tier.2.values := by
  simp [tierEntries, NEMap.values]

theorem mem_tierEntries_iff {tier : Nat × NEMap (Subkey K) V} {k : K} {v : V} :
    (k, v) ∈ tierEntries tier ↔ view k = tier.1 ∧ tier.2.get? (subkey k) = some v := by
  simp only [tierEntries, List.mem_map, Prod.exists, Prod.mk.injEq]
  constructor
  . rintro ⟨s, _, hmem, rfl, rfl⟩
    rw [view_key, subkey_key]
    exact ⟨rfl, NEMap.mem_entries_iff.mp hmem⟩
  . rintro ⟨hview, hget⟩
    refine ⟨subkey k, v, NEMap.mem_entries_iff.mpr hget, ?_, rfl⟩
    rw [← hview, key_view_subkey]

theorem nodup_tierEntries (tier : Nat × NEMap (Subkey K) V) :
    ((tierEntries tier : List (K × V)).map Prod.fst).Nodup := by
  have hinjective : Function.Injective (key tier.1 : Subkey K → K) := by
    intro s s' heq
    rw [← subkey_key tier.1 s, ← subkey_key tier.1 s', heq]
  have := tier.2.nodup_entries.map hinjective
  simpa [tierEntries, Function.comp_def] using this

theorem mem_entries_iff {m : TieredViewMap K V} {k : K} {v : V} :
    (k, v) ∈ m.entries ↔ m.get k = some v := by
  simp only [entries, List.mem_flatMap, Prod.exists, mem_tierEntries_iff, get_eq_some,
    BTreeMap.mem_entries_iff]
  constructor
  . rintro ⟨_, bucket, hbucket, rfl, hget⟩
    exact ⟨bucket, hbucket, hget⟩
  . rintro ⟨bucket, hbucket, hget⟩
    exact ⟨view k, bucket, hbucket, rfl, hget⟩

theorem nodup_entries (m : TieredViewMap K V) : (m.entries.map Prod.fst).Nodup := by
  rw [entries, List.map_flatMap, List.nodup_flatMap]
  refine ⟨fun tier _ => nodup_tierEntries tier, m.tiers.sorted.imp ?_⟩
  intro tier tier' hlt k hk hk'
  obtain ⟨⟨_, v⟩, hmem, rfl⟩ := List.mem_map.mp hk
  obtain ⟨⟨k', v'⟩, hmem', heq⟩ := List.mem_map.mp hk'
  have hview := (mem_tierEntries_iff.mp hmem).1
  have hview' := (mem_tierEntries_iff.mp hmem').1
  simp only at heq hview hview'
  subst heq
  omega

theorem map_snd_entries (m : TieredViewMap K V) : m.entries.map Prod.snd = m.values := by
  rw [entries, List.map_flatMap, values, BTreeMap.values, List.flatMap_map]
  simp only [map_snd_tierEntries]

theorem length_entries (m : TieredViewMap K V) : m.entries.length = m.len := by
  rw [entries, List.length_flatMap, len, BTreeMap.values, List.map_map]
  simp [tierEntries, NEMap.entries, NEMap.len, HashMap.len, Function.comp_def]

theorem exists_get_of_tier {m : TieredViewMap K V} {viewNumber : Nat} {bucket : NEMap (Subkey K) V}
    (h : m.tiers.get? viewNumber = some bucket) :
    ∃ k : K, view k = viewNumber ∧ m.get k = some bucket.headVal := by
  -- the second tier has no empty maps
  refine ⟨key viewNumber bucket.headKey, view_key _ _, ?_⟩
  rw [get_eq_some, view_key, subkey_key]
  exact ⟨bucket, h, bucket.get?_headKey⟩

theorem mem_tier_iff {m : TieredViewMap K V} {viewNumber : Nat} {bucket : NEMap (Subkey K) V}
    (h : m.tiers.get? viewNumber = some bucket) {v : V} :
    v ∈ bucket.values ↔ ∃ k : K, view k = viewNumber ∧ m.get k = some v := by
  rw [NEMap.mem_values_iff]
  constructor
  . rintro ⟨subkey, hsubkey⟩
    refine ⟨key viewNumber subkey, view_key _ _, ?_⟩
    rw [get_eq_some, view_key, subkey_key]
    exact ⟨bucket, h, hsubkey⟩
  . rintro ⟨k, rfl, hk⟩
    rw [get_eq_some] at hk
    obtain ⟨bucket', hbucket', hk⟩ := hk
    rw [h, Option.some.injEq] at hbucket'
    rw [hbucket']
    exact ⟨subkey k, hk⟩

theorem mem_bucket_iff {m : TieredViewMap K V} {viewNumber : Nat} {v : V} :
    v ∈ m.bucket viewNumber ↔ ∃ k : K, view k = viewNumber ∧ m.get k = some v := by
  unfold bucket
  split
  . next h =>
    simp only [List.not_mem_nil, false_iff, not_exists, not_and]
    rintro k rfl
    simp [get, h]
  . next bucket h => exact mem_tier_iff h

theorem mem_values_iff {m : TieredViewMap K V} {v : V} :
    v ∈ m.values ↔ ∃ k : K, m.get k = some v := by
  simp [← map_snd_entries, mem_entries_iff]

theorem head?_range_eq_some {m : TieredViewMap K V} {p : Nat → Bool} {states : List V}
    (h : (m.range p).head? = some states) :
    ∃ viewNumber, p viewNumber = true ∧ states = m.bucket viewNumber ∧ states ≠ [] ∧
      ∀ (k : K) v, m.get k = some v → p (view k) = true → viewNumber ≤ view k := by
  simp only [range, List.head?_map, Option.map_eq_some_iff, Prod.exists] at h
  obtain ⟨viewNumber, bucket, hfirst, rfl⟩ := h
  obtain ⟨hbucket, hp, hlowest⟩ := BTreeMap.head?_range_eq_some.mp hfirst
  refine ⟨viewNumber, hp, ?_, ?_, ?_⟩
  . simp [TieredViewMap.bucket, hbucket]
  . simp [NEMap.values, NEMap.entries]
  . intro k v hk hpk
    obtain ⟨bucket', hbucket', -⟩ := get_eq_some.mp hk
    exact hlowest _ bucket' hbucket' hpk

theorem head?_range_eq_none {m : TieredViewMap K V} {p : Nat → Bool}
    (h : (m.range p).head? = none) {k : K} {v : V} (hk : m.get k = some v) : p (view k) = false := by
  simp only [range, List.head?_map, Option.map_eq_none_iff, List.head?_eq_none_iff] at h
  obtain ⟨bucket, hbucket, -⟩ := get_eq_some.mp hk
  apply eq_false_of_ne_true
  intro hp
  have := BTreeMap.mem_range_iff.mpr ⟨hbucket, hp⟩
  simp [h] at this

theorem lowestView_eq_some {m : TieredViewMap K V} {viewNumber : Nat} :
    m.lowestView = some viewNumber ↔
      (∃ (k : K) (v : V), m.get k = some v ∧ view k = viewNumber) ∧
        ∀ (k : K) v, m.get k = some v → viewNumber ≤ view k := by
  simp only [lowestView, Option.map_eq_some_iff, Prod.exists]
  constructor
  . rintro ⟨_, bucket, hfirst, rfl⟩
    obtain ⟨hbucket, hlowest⟩ := BTreeMap.firstKeyValue_eq_some.mp hfirst
    obtain ⟨k, hview, hk⟩ := exists_get_of_tier hbucket
    refine ⟨⟨k, _, hk, hview⟩, ?_⟩
    intro k' v hk'
    obtain ⟨bucket', hbucket', -⟩ := get_eq_some.mp hk'
    exact hlowest _ bucket' hbucket'
  . rintro ⟨⟨k, v, hk, rfl⟩, hlowest⟩
    obtain ⟨bucket, hbucket, -⟩ := get_eq_some.mp hk
    refine ⟨_, bucket, BTreeMap.firstKeyValue_eq_some.mpr ⟨hbucket, ?_⟩, rfl⟩
    intro viewNumber bucket' hbucket'
    obtain ⟨k', rfl, hk'⟩ := exists_get_of_tier hbucket'
    exact hlowest k' _ hk'

theorem highestView_eq_some {m : TieredViewMap K V} {viewNumber : Nat} :
    m.highestView = some viewNumber ↔
      (∃ (k : K) (v : V), m.get k = some v ∧ view k = viewNumber) ∧
        ∀ (k : K) v, m.get k = some v → view k ≤ viewNumber := by
  simp only [highestView, Option.map_eq_some_iff, Prod.exists]
  constructor
  . rintro ⟨_, bucket, hlast, rfl⟩
    obtain ⟨hbucket, hhighest⟩ := BTreeMap.lastKeyValue_eq_some.mp hlast
    obtain ⟨k, hview, hk⟩ := exists_get_of_tier hbucket
    refine ⟨⟨k, _, hk, hview⟩, ?_⟩
    intro k' v hk'
    obtain ⟨bucket', hbucket', -⟩ := get_eq_some.mp hk'
    exact hhighest _ bucket' hbucket'
  . rintro ⟨⟨k, v, hk, rfl⟩, hhighest⟩
    obtain ⟨bucket, hbucket, -⟩ := get_eq_some.mp hk
    refine ⟨_, bucket, BTreeMap.lastKeyValue_eq_some.mpr ⟨hbucket, ?_⟩, rfl⟩
    intro viewNumber bucket' hbucket'
    obtain ⟨k', rfl, hk'⟩ := exists_get_of_tier hbucket'
    exact hhighest k' _ hk'

theorem get_eq_none_of_lowestView {m : TieredViewMap K V} (h : m.lowestView = none) (k : K) :
    m.get k = none := by
  rw [lowestView, Option.map_eq_none_iff, BTreeMap.firstKeyValue_eq_none] at h
  simp [get, h]

theorem get_eq_none_of_highestView {m : TieredViewMap K V} (h : m.highestView = none) (k : K) :
    m.get k = none := by
  rw [highestView, Option.map_eq_none_iff, BTreeMap.lastKeyValue_eq_none] at h
  simp [get, h]

theorem get_of_highestViewBuilder {m : TieredViewMap K V} {v : V}
    (h : m.highestViewBuilder = some v) :
    ∃ k : K, m.get k = some v ∧ m.highestView = some (view k) := by
  simp only [highestViewBuilder, Option.map_eq_some_iff, Prod.exists] at h
  obtain ⟨viewNumber, bucket, hlast, rfl⟩ := h
  obtain ⟨k, rfl, hk⟩ := exists_get_of_tier (BTreeMap.lastKeyValue_eq_some.mp hlast).1
  refine ⟨k, hk, ?_⟩
  rw [highestView, hlast]
  rfl

theorem highestViewBuilder_eq_none {m : TieredViewMap K V} (h : m.highestViewBuilder = none)
    (k : K) : m.get k = none := by
  rw [highestViewBuilder, Option.map_eq_none_iff, BTreeMap.lastKeyValue_eq_none] at h
  simp [get, h]

theorem isEmpty_eq_false_of_highestView {m : TieredViewMap K V} {viewNumber : Nat}
    (h : m.highestView = some viewNumber) : m.isEmpty = false := by
  cases hempty : m.isEmpty with
  | false => rfl
  | true =>
    have hentries := List.eq_nil_of_length_eq_zero (of_decide_eq_true hempty)
    simp [highestView, BTreeMap.lastKeyValue, hentries] at h

theorem len_eq_one_iff {m : TieredViewMap K V} :
    m.len = 1 ↔ ∃ (k : K) (v : V), m.get k = some v ∧
      ∀ (k' : K) v', m.get k' = some v' → k' = k := by
  have hnodup := m.nodup_entries
  rw [← length_entries, List.length_eq_one_iff]
  simp only [← mem_entries_iff]
  constructor
  . rintro ⟨⟨k, v⟩, hentries⟩
    refine ⟨k, v, by simp [hentries], ?_⟩
    intro k' v' hmem
    rw [hentries, List.mem_singleton] at hmem
    exact congrArg Prod.fst hmem
  . rintro ⟨k, v, hmem, hkeys⟩
    match hentries : m.entries with
    | [] => simp [hentries] at hmem
    | [entry] => exact ⟨entry, rfl⟩
    | (k₁, v₁) :: (k₂, v₂) :: rest =>
      rw [hentries] at hnodup
      have hk₁ := hkeys k₁ v₁ (by simp [hentries])
      have hk₂ := hkeys k₂ v₂ (by simp [hentries])
      simp [hk₁, hk₂] at hnodup

end TieredViewMap

end BuilderCore
