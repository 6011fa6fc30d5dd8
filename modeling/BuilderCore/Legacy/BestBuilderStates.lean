import BuilderCore.Collections.HashMap
import BuilderCore.Parents
import Mathlib.Data.Finset.Basic
import Mathlib.Data.Nat.Basic

/-!
This module contains the choice of the legacy builder states that extend themselves for a quorum
proposal.
-/

namespace BuilderCore

open Collections

variable {T : NodeType} {α Sender : Type}

/--
`spawned_builder_states` of the legacy `GlobalState`.
-/
abbrev SpawnedBuilderStates (T : NodeType) (Sender : Type) :=
  HashMap (BuilderStateId T) (Option (ParentBlockReferences T) × Sender)

def existingStates (justifyQc : QuorumCertificate T.LeafCommitment)
    (spawned : SpawnedBuilderStates T Sender) : List (BuilderStateId T) :=
  (spawned.entries.filter fun (_, parentBlockReferences, _) =>
    match parentBlockReferences with
    | none => false
    | some refs =>
      refs.leafCommit = justifyQc.leafCommit ∧ refs.viewNumber = justifyQc.viewNumber).map Prod.fst

def bestBuilderStatesToExtend (quorumProposal : T.QuorumProposalWrapper)
    (spawned : SpawnedBuilderStates T Sender) : Finset (BuilderStateId T) :=
  let currentViewNumber := T.viewNumber quorumProposal
  if (spawned.get? (proposedId quorumProposal)).isSome then
    ∅
  else
    let existingStates := existingStates (T.justifyQc quorumProposal) spawned
    if ¬ existingStates.isEmpty then
      existingStates.toFinset
    else
      let smallerViews := (spawned.keys.map (·.parentView)).filter (· < currentViewNumber)
      match smallerViews.max? with
      | some maximum => (spawned.keys.filter fun id => id.parentView = maximum).toFinset
      | none =>
        if spawned.len = 1 then
          spawned.keys.toFinset
        else
          ∅

theorem mem_existingStates_iff {justifyQc : QuorumCertificate T.LeafCommitment}
    {spawned : SpawnedBuilderStates T Sender} {id : BuilderStateId T} :
    id ∈ existingStates justifyQc spawned ↔ ∃ refs sender,
      spawned.get? id = some (some refs, sender) ∧ refs.leafCommit = justifyQc.leafCommit ∧
        refs.viewNumber = justifyQc.viewNumber := by
  simp only [existingStates, List.mem_map, List.mem_filter, Prod.exists, HashMap.mem_entries_iff]
  constructor
  . rintro ⟨_, refs, sender, ⟨hget, hmatch⟩, rfl⟩
    cases refs with
    | none => contradiction
    | some refs => exact ⟨refs, sender, hget, of_decide_eq_true hmatch⟩
  . rintro ⟨refs, sender, hget, hmatch⟩
    exact ⟨id, some refs, sender, ⟨hget, decide_eq_true hmatch⟩, rfl⟩

theorem mem_bestBuilderStatesToExtend {quorumProposal : T.QuorumProposalWrapper}
    {spawned : SpawnedBuilderStates T Sender} {id : BuilderStateId T}
    (h : id ∈ bestBuilderStatesToExtend quorumProposal spawned) :
    spawned.get? (proposedId quorumProposal) = none ∧
      (id ∈ existingStates (T.justifyQc quorumProposal) spawned ∨
        ∀ id' ∈ spawned.keys, id'.parentView < T.viewNumber quorumProposal →
          id'.parentView ≤ id.parentView) := by
  simp only [bestBuilderStatesToExtend] at h
  split at h
  . simp at h
  . next hnew =>
    refine ⟨Option.not_isSome_iff_eq_none.mp hnew, ?_⟩
    split at h
    . exact .inl (List.mem_toFinset.mp h)
    . right
      intro id' hid' hlt'
      have hmem : id'.parentView ∈
          (spawned.keys.map (·.parentView)).filter (· < T.viewNumber quorumProposal) :=
        List.mem_filter.mpr ⟨List.mem_map_of_mem hid', decide_eq_true hlt'⟩
      split at h
      . next maximum hmax =>
        simp only [List.mem_toFinset, List.mem_filter, decide_eq_true_eq] at h
        rw [h.2]
        exact (List.max?_eq_some_iff.mp hmax).2 _ hmem
      . next hnone =>
        rw [List.max?_eq_none_iff.mp hnone] at hmem
        contradiction

theorem mem_existingStates_of_best {quorumProposal : T.QuorumProposalWrapper}
    {spawned : SpawnedBuilderStates T Sender} {id id' : BuilderStateId T}
    (h : id ∈ bestBuilderStatesToExtend quorumProposal spawned)
    (hexisting : id' ∈ existingStates (T.justifyQc quorumProposal) spawned) :
    id ∈ existingStates (T.justifyQc quorumProposal) spawned := by
  have hnonempty : ¬ (existingStates (T.justifyQc quorumProposal) spawned).isEmpty = true := by
    rw [List.isEmpty_iff]
    exact List.ne_nil_of_mem hexisting
  simp only [bestBuilderStatesToExtend, if_pos hnonempty] at h
  split at h
  . simp at h
  . exact List.mem_toFinset.mp h

theorem mem_bestBuilderStatesToExtend_of_existing {quorumProposal : T.QuorumProposalWrapper}
    {spawned : SpawnedBuilderStates T Sender} {id : BuilderStateId T}
    (hnew : spawned.get? (proposedId quorumProposal) = none)
    (h : id ∈ existingStates (T.justifyQc quorumProposal) spawned) :
    id ∈ bestBuilderStatesToExtend quorumProposal spawned := by
  have hnonempty : ¬ (existingStates (T.justifyQc quorumProposal) spawned).isEmpty = true := by
    rw [List.isEmpty_iff]
    exact List.ne_nil_of_mem h
  simp only [bestBuilderStatesToExtend, hnew, Option.isSome_none, Bool.false_eq_true, if_false]
  rw [if_pos hnonempty, List.mem_toFinset]
  exact h

theorem mem_bestBuilderStatesToExtend_of_below {quorumProposal : T.QuorumProposalWrapper}
    {spawned : SpawnedBuilderStates T Sender} {id : BuilderStateId T}
    (hnew : spawned.get? (proposedId quorumProposal) = none)
    (hexisting : existingStates (T.justifyQc quorumProposal) spawned = [])
    (hid : id ∈ spawned.keys) (hlt : id.parentView < T.viewNumber quorumProposal)
    (hmax : ∀ id' ∈ spawned.keys, id'.parentView < T.viewNumber quorumProposal →
      id'.parentView ≤ id.parentView) :
    id ∈ bestBuilderStatesToExtend quorumProposal spawned := by
  have hmaximum : ((spawned.keys.map (·.parentView)).filter
      (· < T.viewNumber quorumProposal)).max? = some id.parentView := by
    rw [List.max?_eq_some_iff]
    simp only [List.mem_filter, List.mem_map, decide_eq_true_eq]
    refine ⟨⟨⟨id, hid, rfl⟩, hlt⟩, ?_⟩
    rintro _ ⟨⟨id', hid', rfl⟩, hlt'⟩
    exact hmax id' hid' hlt'
  simp only [bestBuilderStatesToExtend, hnew, Option.isSome_none, Bool.false_eq_true, if_false,
    hexisting, List.isEmpty_nil, not_true_eq_false, hmaximum]
  simp [hid]

/--
The spawned states are those of a set in which no two states have the same id, and the references of
all of them are known.
-/
structure Represents (refs : α → ParentBlockReferences T) (stored : Set α)
    (spawned : SpawnedBuilderStates T Sender) : Prop where
  known : ∀ id sender, spawned.get? id ≠ some (none, sender)
  mem_iff : ∀ id refs', (∃ sender, spawned.get? id = some (some refs', sender)) ↔
    ∃ s ∈ stored, refs s = refs' ∧ refs'.id = id
  injective : ∀ s ∈ stored, ∀ s' ∈ stored, (refs s).id = (refs s').id → s = s'

section

variable {refs : α → ParentBlockReferences T} {stored : Set α}
  {spawned : SpawnedBuilderStates T Sender}

theorem Represents.mem_keys (h : Represents refs stored spawned) {id : BuilderStateId T} :
    id ∈ spawned.keys ↔ ∃ s ∈ stored, (refs s).id = id := by
  rw [HashMap.mem_keys_iff]
  constructor
  . rintro ⟨⟨refs', sender⟩, hid⟩
    cases refs' with
    | none => exact absurd hid (h.known id sender)
    | some refs' =>
      obtain ⟨s, hs, rfl, hid⟩ := (h.mem_iff id refs').mp ⟨sender, hid⟩
      exact ⟨s, hs, hid⟩
  . rintro ⟨s, hs, hid⟩
    obtain ⟨sender, hsender⟩ := (h.mem_iff id (refs s)).mpr ⟨s, hs, rfl, hid⟩
    exact ⟨_, hsender⟩

theorem Represents.isSome_get?_iff (h : Represents refs stored spawned) {id : BuilderStateId T} :
    (spawned.get? id).isSome = true ↔ ∃ s ∈ stored, (refs s).id = id := by
  rw [← h.mem_keys, HashMap.mem_keys_iff, Option.isSome_iff_exists]

theorem Represents.len_eq_one_iff (h : Represents refs stored spawned) :
    spawned.len = 1 ↔ ∃ s, stored = {s} := by
  have hlen : spawned.len = spawned.keys.length := by simp [HashMap.len, HashMap.keys]
  rw [hlen, List.length_eq_one_iff]
  constructor
  . rintro ⟨id, hkeys⟩
    have hid : id ∈ spawned.keys := by simp [hkeys]
    obtain ⟨s, hs, rfl⟩ := h.mem_keys.mp hid
    refine ⟨s, ?_⟩
    ext s'
    simp only [Set.mem_singleton_iff]
    constructor
    . intro hs'
      have hid' : (refs s').id ∈ spawned.keys := h.mem_keys.mpr ⟨s', hs', rfl⟩
      rw [hkeys, List.mem_singleton] at hid'
      exact h.injective s' hs' s hs hid'
    . rintro rfl
      exact hs
  . rintro ⟨s, rfl⟩
    refine ⟨(refs s).id, ?_⟩
    have hmem : ∀ id, id ∈ spawned.keys ↔ id = (refs s).id := by
      intro id
      rw [h.mem_keys]
      simp [eq_comm]
    have hnodup : spawned.keys.Nodup := spawned.nodup
    generalize spawned.keys = keys at hmem hnodup
    rcases keys with _ | ⟨id, _ | ⟨id', rest⟩⟩
    . simpa using hmem (refs s).id
    . simpa using hmem id
    . have hid := (hmem id).mp (by simp)
      have hid' := (hmem id').mp (by simp)
      simp [hid, hid'] at hnodup

theorem Represents.mem_existingStates (h : Represents refs stored spawned)
    {quorumProposal : T.QuorumProposalWrapper} {id : BuilderStateId T} :
    id ∈ existingStates (T.justifyQc quorumProposal) spawned ↔
      ∃ s ∈ stored, IsIdealParent quorumProposal (refs s) ∧ (refs s).id = id := by
  rw [mem_existingStates_iff]
  constructor
  . rintro ⟨refs', sender, hget, hleaf, hview⟩
    obtain ⟨s, hs, rfl, hid⟩ := (h.mem_iff id refs').mp ⟨sender, hget⟩
    exact ⟨s, hs, ⟨hview, hleaf⟩, hid⟩
  . rintro ⟨s, hs, ⟨hview, hleaf⟩, hid⟩
    obtain ⟨sender, hget⟩ := (h.mem_iff id (refs s)).mpr ⟨s, hs, rfl, hid⟩
    exact ⟨refs s, sender, hget, hleaf, hview⟩

theorem Represents.existingStates_isEmpty (h : Represents refs stored spawned)
    {quorumProposal : T.QuorumProposalWrapper} :
    (existingStates (T.justifyQc quorumProposal) spawned).isEmpty = true ↔
      ¬ ∃ s ∈ stored, IsIdealParent quorumProposal (refs s) := by
  rw [List.isEmpty_iff, List.eq_nil_iff_forall_not_mem]
  simp only [h.mem_existingStates]
  constructor
  . rintro hnone ⟨s, hs, hideal⟩
    exact hnone _ ⟨s, hs, hideal, rfl⟩
  . rintro hnone id ⟨s, hs, hideal, -⟩
    exact hnone ⟨s, hs, hideal⟩

theorem Represents.mem_smallerViews (h : Represents refs stored spawned) {bound viewNumber : Nat} :
    viewNumber ∈ (spawned.keys.map (·.parentView)).filter (· < bound) ↔
      ∃ s ∈ stored, (refs s).viewNumber = viewNumber ∧ viewNumber < bound := by
  simp only [List.mem_filter, List.mem_map, h.mem_keys, decide_eq_true_eq]
  constructor
  . rintro ⟨⟨_, ⟨s, hs, rfl⟩, rfl⟩, hlt⟩
    exact ⟨s, hs, rfl, hlt⟩
  . rintro ⟨s, hs, rfl, hlt⟩
    exact ⟨⟨_, ⟨s, hs, rfl⟩, rfl⟩, hlt⟩

theorem Represents.coe_maximum (h : Represents refs stored spawned) {bound maximum : Nat}
    (hmax : ((spawned.keys.map (·.parentView)).filter (· < bound)).max? = some maximum) :
    ((spawned.keys.filter fun id => id.parentView = maximum).toFinset :
        Set (BuilderStateId T)) =
      (fun s => (refs s).id) '' {s ∈ stored | (refs s).viewNumber < bound ∧
        ∀ s' ∈ stored, (refs s').viewNumber < bound →
          (refs s').viewNumber ≤ (refs s).viewNumber} := by
  rw [List.max?_eq_some_iff] at hmax
  simp only [h.mem_smallerViews] at hmax
  obtain ⟨⟨s₀, hs₀, hview₀, hlt₀⟩, hmax⟩ := hmax
  ext id
  simp only [List.coe_toFinset, Set.mem_ofPred_eq, List.mem_filter, h.mem_keys, decide_eq_true_eq,
    Set.mem_image]
  constructor
  . rintro ⟨⟨s, hs, rfl⟩, hview⟩
    have hview : (refs s).viewNumber = maximum := hview
    refine ⟨s, ⟨hs, by omega, ?_⟩, rfl⟩
    intro s' hs' hlt'
    rw [hview]
    exact hmax _ ⟨s', hs', rfl, hlt'⟩
  . rintro ⟨s, ⟨hs, hlt, hgreatest⟩, rfl⟩
    have hle := hmax _ ⟨s, hs, rfl, hlt⟩
    have hge := hgreatest s₀ hs₀ (by omega)
    exact ⟨⟨s, hs, rfl⟩, show (refs s).viewNumber = maximum by omega⟩

theorem coe_bestBuilderStatesToExtend (h : Represents refs stored spawned)
    (quorumProposal : T.QuorumProposalWrapper) :
    (bestBuilderStatesToExtend quorumProposal spawned : Set (BuilderStateId T)) =
      (fun s => (refs s).id) '' documentedParents refs stored quorumProposal := by
  simp only [bestBuilderStatesToExtend]
  split
  . next hstored =>
    rw [documentedParents_of_stored (h.isSome_get?_iff.mp hstored)]
    simp
  . next hnew =>
    rw [h.isSome_get?_iff] at hnew
    split
    . next hideal =>
      rw [h.existingStates_isEmpty, not_not] at hideal
      rw [documentedParents_of_ideal hnew hideal]
      ext id
      simp only [List.coe_toFinset, Set.mem_ofPred_eq, h.mem_existingStates, Set.mem_image]
      constructor
      . rintro ⟨s, hs, hideal, rfl⟩
        exact ⟨s, ⟨hs, hideal⟩, rfl⟩
      . rintro ⟨s, ⟨hs, hideal⟩, rfl⟩
        exact ⟨s, hs, hideal, rfl⟩
    . next hideal =>
      rw [not_not, h.existingStates_isEmpty] at hideal
      split
      . next maximum hmax =>
        obtain ⟨s, hs, rfl, hlt⟩ := h.mem_smallerViews.mp (List.max?_eq_some_iff.mp hmax).1
        rw [documentedParents_of_below hnew hideal ⟨s, hs, hlt⟩]
        exact h.coe_maximum hmax
      . next hnone =>
        rw [List.max?_eq_none_iff, List.eq_nil_iff_forall_not_mem] at hnone
        simp only [h.mem_smallerViews] at hnone
        have hbelow : ¬ ∃ s ∈ stored, (refs s).viewNumber < T.viewNumber quorumProposal := by
          rintro ⟨s, hs, hlt⟩
          exact hnone _ ⟨s, hs, rfl, hlt⟩
        rw [documentedParents_of_above hnew hideal hbelow]
        split
        . next hlen =>
          obtain ⟨s, rfl⟩ := h.len_eq_one_iff.mp hlen
          ext id
          simp [h.mem_keys]
        . next hlen =>
          rw [h.len_eq_one_iff] at hlen
          ext id
          simp only [Finset.coe_empty, Set.mem_empty_iff_false, Set.mem_image, Set.mem_ofPred_eq,
            false_iff, not_exists, not_and]
          intro s hs
          exact absurd ⟨s, hs⟩ hlen

end

end BuilderCore
