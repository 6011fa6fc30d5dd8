import BuilderCore.Shared.Coordinator.TieredViewMap
import BuilderCore.Shared.State
import BuilderCore.Parents

/-!
This module contains the map in which the coordinator stores the builder states, and how it finds
the states that a proposal extends.
-/

namespace BuilderCore

variable {T : NodeType}

/--
Every builder state is stored under its own id.
-/
structure BuilderStateMap (T : NodeType) where
  states : TieredViewMap (BuilderStateId T) (BuilderState T)
  id_eq : ∀ {id state}, states.get id = some state → state.id = id

namespace BuilderStateMap

def new : BuilderStateMap T := ⟨.new, by simp⟩

def get (m : BuilderStateMap T) (id : BuilderStateId T) : Option (BuilderState T) :=
  m.states.get id

def insert (m : BuilderStateMap T) (state : BuilderState T) : BuilderStateMap T where
  states := m.states.insert state.id state
  id_eq := by
    intro id state' h
    rw [TieredViewMap.get_insert] at h
    split at h
    . next hid =>
      rw [Option.some.injEq] at h
      rw [← h, hid]
    . exact m.id_eq h

def lowestView (m : BuilderStateMap T) : Option Nat := m.states.lowestView

def highestView (m : BuilderStateMap T) : Option Nat := m.states.highestView

def prune (m : BuilderStateMap T) (cutoff : Nat) : BuilderStateMap T where
  states := (m.states.prune cutoff).1
  id_eq := by
    intro id state h
    rw [TieredViewMap.get_prune_fst] at h
    split at h
    . exact m.id_eq h
    . contradiction

def pruned (m : BuilderStateMap T) (cutoff : Nat) : BuilderStateMap T where
  states := (m.states.prune cutoff).2
  id_eq := by
    intro id state h
    rw [TieredViewMap.get_prune_snd] at h
    split at h
    . exact m.id_eq h
    . contradiction

def findBuilderStatesToExtend (m : BuilderStateMap T) (quorumProposal : T.QuorumProposalWrapper) :
    List (BuilderState T) :=
  let currentBuilderStateId := proposedId quorumProposal
  if (m.get currentBuilderStateId).isSome then
    []
  else
    let justifyQc := T.justifyQc quorumProposal
    let existingStates := (m.states.bucket justifyQc.viewNumber).filter fun state =>
      state.parentBlockReferences.leafCommit = justifyQc.leafCommit
    if ¬ existingStates.isEmpty then
      existingStates
    else
      match (m.states.range (· < currentBuilderStateId.parentView)).head? with
      | some states => states
      | none =>
        if m.states.len = 1 then
          m.states.highestViewBuilder.toList
        else
          []

def stored (m : BuilderStateMap T) : Set (BuilderState T) := {state | m.get state.id = some state}

theorem get_eq_some {m : BuilderStateMap T} {id : BuilderStateId T} {state : BuilderState T} :
    m.get id = some state ↔ state ∈ m.stored ∧ state.id = id := by
  constructor
  . intro h
    have hid := m.id_eq h
    subst hid
    exact ⟨h, rfl⟩
  . rintro ⟨h, rfl⟩
    exact h

theorem isSome_get_iff {m : BuilderStateMap T} {id : BuilderStateId T} :
    (m.get id).isSome = true ↔ ∃ state ∈ m.stored, state.id = id := by
  simp only [Option.isSome_iff_exists, get_eq_some]

theorem eq_of_id_eq {m : BuilderStateMap T} {state state' : BuilderState T}
    (h : state ∈ m.stored) (h' : state' ∈ m.stored) (hid : state.id = state'.id) :
    state = state' := by
  have : m.get state.id = some state' := get_eq_some.mpr ⟨h', hid.symm⟩
  rw [get_eq_some.mpr ⟨h, rfl⟩, Option.some.injEq] at this
  exact this

@[simp]
theorem stored_new : (new : BuilderStateMap T).stored = ∅ := by
  ext state
  simp [stored, get, new]

theorem get_insert (m : BuilderStateMap T) (state : BuilderState T) (id : BuilderStateId T) :
    (m.insert state).get id = if id = state.id then some state else m.get id :=
  TieredViewMap.get_insert m.states state.id id state

theorem mem_stored_insert {m : BuilderStateMap T} {state state' : BuilderState T} :
    state' ∈ (m.insert state).stored ↔
      state' = state ∨ state' ∈ m.stored ∧ state'.id ≠ state.id := by
  simp only [stored, Set.mem_ofPred_eq, get_insert]
  split
  . next hid =>
    simp only [Option.some.injEq, hid, ne_eq, not_true_eq_false, and_false, or_false]
    exact eq_comm
  . next hid =>
    have : state' ≠ state := fun h => hid (by rw [h])
    simp [this, hid]

theorem get_prune (m : BuilderStateMap T) (cutoff : Nat) (id : BuilderStateId T) :
    (m.prune cutoff).get id = if cutoff ≤ id.parentView then m.get id else none :=
  TieredViewMap.get_prune_fst m.states cutoff id

theorem get_pruned (m : BuilderStateMap T) (cutoff : Nat) (id : BuilderStateId T) :
    (m.pruned cutoff).get id = if id.parentView < cutoff then m.get id else none :=
  TieredViewMap.get_prune_snd m.states cutoff id

theorem mem_stored_prune {m : BuilderStateMap T} {cutoff : Nat} {state : BuilderState T} :
    state ∈ (m.prune cutoff).stored ↔ state ∈ m.stored ∧ cutoff ≤ state.id.parentView := by
  simp only [stored, Set.mem_ofPred_eq, get_prune]
  split <;> simp_all

theorem mem_bucket_iff {m : BuilderStateMap T} {viewNumber : Nat} {state : BuilderState T} :
    state ∈ m.states.bucket viewNumber ↔ state ∈ m.stored ∧ state.id.parentView = viewNumber := by
  rw [TieredViewMap.mem_bucket_iff]
  constructor
  . rintro ⟨id, rfl, hid⟩
    obtain ⟨hstored, rfl⟩ := get_eq_some.mp hid
    exact ⟨hstored, rfl⟩
  . rintro ⟨hstored, rfl⟩
    exact ⟨state.id, rfl, hstored⟩

theorem lowestView_eq_some {m : BuilderStateMap T} {viewNumber : Nat} :
    m.lowestView = some viewNumber ↔
      (∃ state ∈ m.stored, state.id.parentView = viewNumber) ∧
        ∀ state ∈ m.stored, viewNumber ≤ state.id.parentView := by
  rw [lowestView, TieredViewMap.lowestView_eq_some]
  constructor
  . rintro ⟨⟨id, state, hid, rfl⟩, hlowest⟩
    obtain ⟨hstored, rfl⟩ := get_eq_some.mp hid
    exact ⟨⟨state, hstored, rfl⟩, fun state' hstate' => hlowest _ state' hstate'⟩
  . rintro ⟨⟨state, hstored, rfl⟩, hlowest⟩
    refine ⟨⟨state.id, state, hstored, rfl⟩, ?_⟩
    intro id state' hid
    obtain ⟨hstored', rfl⟩ := get_eq_some.mp hid
    exact hlowest state' hstored'

theorem highestView_eq_some {m : BuilderStateMap T} {viewNumber : Nat} :
    m.highestView = some viewNumber ↔
      (∃ state ∈ m.stored, state.id.parentView = viewNumber) ∧
        ∀ state ∈ m.stored, state.id.parentView ≤ viewNumber := by
  rw [highestView, TieredViewMap.highestView_eq_some]
  constructor
  . rintro ⟨⟨id, state, hid, rfl⟩, hhighest⟩
    obtain ⟨hstored, rfl⟩ := get_eq_some.mp hid
    exact ⟨⟨state, hstored, rfl⟩, fun state' hstate' => hhighest _ state' hstate'⟩
  . rintro ⟨⟨state, hstored, rfl⟩, hhighest⟩
    refine ⟨⟨state.id, state, hstored, rfl⟩, ?_⟩
    intro id state' hid
    obtain ⟨hstored', rfl⟩ := get_eq_some.mp hid
    exact hhighest state' hstored'

theorem exists_lowestView {m : BuilderStateMap T} {state : BuilderState T}
    (h : state ∈ m.stored) : ∃ viewNumber, m.lowestView = some viewNumber := by
  cases hlowest : m.lowestView with
  | none =>
    have hnone := TieredViewMap.get_eq_none_of_lowestView hlowest state.id
    simp only [stored, get, Set.mem_ofPred_eq, hnone, reduceCtorEq] at h
  | some viewNumber => exact ⟨viewNumber, rfl⟩

theorem exists_highestView {m : BuilderStateMap T} {state : BuilderState T}
    (h : state ∈ m.stored) : ∃ viewNumber, m.highestView = some viewNumber := by
  cases hhighest : m.highestView with
  | none =>
    have hnone := TieredViewMap.get_eq_none_of_highestView hhighest state.id
    simp only [stored, get, Set.mem_ofPred_eq, hnone, reduceCtorEq] at h
  | some viewNumber => exact ⟨viewNumber, rfl⟩

theorem len_eq_one_iff {m : BuilderStateMap T} :
    m.states.len = 1 ↔ ∃ state, m.stored = {state} := by
  rw [TieredViewMap.len_eq_one_iff]
  constructor
  . rintro ⟨id, state, hid, hunique⟩
    obtain ⟨hstored, rfl⟩ := get_eq_some.mp hid
    refine ⟨state, ?_⟩
    ext state'
    simp only [Set.mem_singleton_iff]
    constructor
    . intro hstored'
      exact eq_of_id_eq hstored' hstored (hunique _ state' hstored')
    . rintro rfl
      exact hstored
  . rintro ⟨state, hstored⟩
    have hstate : state ∈ m.stored := by simp [hstored]
    refine ⟨state.id, state, hstate, ?_⟩
    intro id state' hid
    obtain ⟨hstored', rfl⟩ := get_eq_some.mp hid
    rw [hstored, Set.mem_singleton_iff] at hstored'
    rw [hstored']

theorem highestViewBuilder_of_stored_eq {m : BuilderStateMap T} {state : BuilderState T}
    (h : m.stored = {state}) : m.states.highestViewBuilder = some state := by
  match hhighest : m.states.highestViewBuilder with
  | none =>
    have hnone := TieredViewMap.highestViewBuilder_eq_none hhighest state.id
    have hstored : state ∈ m.stored := by simp [h]
    simp only [stored, get, Set.mem_ofPred_eq, hnone, reduceCtorEq] at hstored
  | some state' =>
    obtain ⟨id, hid, -⟩ := TieredViewMap.get_of_highestViewBuilder hhighest
    obtain ⟨hstored, -⟩ := get_eq_some.mp hid
    rw [h, Set.mem_singleton_iff] at hstored
    rw [hstored]

end BuilderStateMap

end BuilderCore
