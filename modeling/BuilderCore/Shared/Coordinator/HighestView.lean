import BuilderCore.Shared.Coordinator.Interleaving
import BuilderCore.Shared.Coordinator.Pruning

/-!
This module contains that the coordinator never runs out of builder states, and that it keeps one of
the highest view it has ever stored.
-/

namespace BuilderCore

open Transition

variable {T : NodeType}

namespace Coordinator

theorem exists_stored_new (period now : Nat) :
    ∃ state, state ∈ (new period now : Coordinator T).builderStates.stored :=
  ⟨_, BuilderStateMap.mem_stored_insert.mpr (.inl rfl)⟩

theorem exists_stored_change {self self' : Coordinator T} {action : Action T}
    (h : ∃ state, state ∈ self.builderStates.stored) (hchange : Change self action self') :
    ∃ state, state ∈ self'.builderStates.stored := by
  cases hchange with
  | insertChild child hguard => exact ⟨child, BuilderStateMap.mem_stored_insert.mpr (.inl rfl)⟩
  | decide latest rest =>
    obtain ⟨state, hstored⟩ := h
    exact exists_stored_prune hstored latest.viewNumber
  | _ => exact h

theorem exists_stored {period : Nat} {self : Coordinator T}
    (h : Reachable step (IsNew period) self) : ∃ state, state ∈ self.builderStates.stored := by
  apply reachable_invariant _ _ h
  . rintro _ ⟨now, rfl⟩
    exact exists_stored_new period now
  . intro self action self' hself hstep
    exact exists_stored_change hself (change_of_step hstep)

def HighestViewAtLeast (viewNumber : Nat) (self : Coordinator T) : Prop :=
  ∃ highest, self.builderStates.highestView = some highest ∧ viewNumber ≤ highest

theorem highestViewAtLeast_iff {viewNumber : Nat} {self : Coordinator T} :
    self.HighestViewAtLeast viewNumber ↔
      ∃ state ∈ self.builderStates.stored, viewNumber ≤ state.id.parentView := by
  constructor
  . rintro ⟨highest, hhighest, hle⟩
    obtain ⟨⟨state, hstored, rfl⟩, -⟩ := BuilderStateMap.highestView_eq_some.mp hhighest
    exact ⟨state, hstored, hle⟩
  . rintro ⟨state, hstored, hle⟩
    obtain ⟨highest, hhighest⟩ := BuilderStateMap.exists_highestView hstored
    have hgreatest := (BuilderStateMap.highestView_eq_some.mp hhighest).2 state hstored
    exact ⟨highest, hhighest, Nat.le_trans hle hgreatest⟩

theorem highestViewAtLeast_change {viewNumber : Nat} {self self' : Coordinator T}
    {action : Action T} (h : self.HighestViewAtLeast viewNumber)
    (hchange : Change self action self') : self'.HighestViewAtLeast viewNumber := by
  cases hchange with
  | insertChild child hguard =>
    rw [highestViewAtLeast_iff] at h ⊢
    obtain ⟨state, hstored, hle⟩ := h
    by_cases hid : state.id = child.id
    . refine ⟨child, BuilderStateMap.mem_stored_insert.mpr (.inl rfl), ?_⟩
      rw [← hid]
      exact hle
    . exact ⟨state, BuilderStateMap.mem_stored_insert.mpr (.inr ⟨hstored, hid⟩), hle⟩
  | decide latest rest =>
    -- the cutoff is at most the highest view
    obtain ⟨highest, hhighest, hle⟩ := h
    rw [highestViewAtLeast_iff]
    obtain ⟨⟨state, hstored, rfl⟩, -⟩ := BuilderStateMap.highestView_eq_some.mp hhighest
    refine ⟨state, BuilderStateMap.mem_stored_prune.mpr ⟨hstored, ?_⟩, hle⟩
    rw [cutoff, hhighest]
    exact Nat.min_le_right ..
  | _ => exact h

theorem highestViewAtLeast_run {viewNumber : Nat} {self self' : Coordinator T}
    {actions : List (Action T)} (h : self.HighestViewAtLeast viewNumber)
    (hrun : run step self actions = some self') : self'.HighestViewAtLeast viewNumber := by
  apply run_invariant _ h hrun
  intro self action self' hself hstep
  exact highestViewAtLeast_change hself (change_of_step hstep)

theorem highestViewBuilder_eq_some {self : Coordinator T} {highest : Nat}
    (h : self.builderStates.highestView = some highest) :
    ∃ state ∈ self.builderStates.stored, self.highestViewBuilder = some state ∧
      state.id.parentView = highest := by
  obtain ⟨⟨stored, hstored, -⟩, -⟩ := BuilderStateMap.highestView_eq_some.mp h
  cases hhighest : self.highestViewBuilder with
  | none =>
    have hnone := TieredViewMap.highestViewBuilder_eq_none hhighest stored.id
    have hsome : self.builderStates.states.get stored.id = some stored := hstored
    rw [hnone] at hsome
    contradiction
  | some state =>
    obtain ⟨id, hid, hview⟩ := TieredViewMap.get_of_highestViewBuilder hhighest
    obtain ⟨hstate, rfl⟩ := BuilderStateMap.get_eq_some.mp hid
    have heq : some state.id.parentView = some highest := hview.symm.trans h
    exact ⟨state, hstate, rfl, Option.some.inj heq⟩

theorem handleDecide_eq_some {self : Coordinator T} {highest : Nat}
    (h : self.builderStates.highestView = some highest) (latest : LeafInfo T)
    (rest : List (LeafInfo T)) :
    ∃ self' pruned, self.handleDecide (latest :: rest) = some (self', pruned) ∧
      ∀ id, pruned.get id = (if id.parentView < min latest.viewNumber highest then
          self.builderStates.get id else none) ∧
        self'.builderStates.get id = (if id.parentView < min latest.viewNumber highest then
          none else self.builderStates.get id) := by
  refine ⟨_, _, rfl, ?_⟩
  intro id
  have hcutoff : self.cutoff latest.viewNumber = min latest.viewNumber highest := by
    rw [cutoff, h]
    rfl
  constructor
  . rw [BuilderStateMap.get_pruned, hcutoff]
  . simp only [BuilderStateMap.get_prune, hcutoff, ← Nat.not_lt, ite_not]

/--
There is always a builder state of the highest view stored, the highest view never decreases, and a
decide returns the states below its cutoff and keeps all the others.
-/
theorem never_runs_out {period : Nat} {self : Coordinator T}
    (h : Reachable step (IsNew period) self) :
    self.builderStates.states.isEmpty = false ∧
    ∃ highest, self.builderStates.highestView = some highest ∧
      (∀ state ∈ self.builderStates.stored, state.id.parentView ≤ highest) ∧
      (∃ state ∈ self.builderStates.stored, self.highestViewBuilder = some state ∧
        state.id.parentView = highest) ∧
      (∀ actions self', run step self actions = some self' →
        ∃ highest', self'.builderStates.highestView = some highest' ∧ highest ≤ highest') ∧
      ∀ latest rest, ∃ self' pruned, self.handleDecide (latest :: rest) = some (self', pruned) ∧
        ∀ id, pruned.get id = (if id.parentView < min latest.viewNumber highest then
            self.builderStates.get id else none) ∧
          self'.builderStates.get id = (if id.parentView < min latest.viewNumber highest then
            none else self.builderStates.get id) := by
  obtain ⟨state, hstored⟩ := exists_stored h
  obtain ⟨highest, hhighest⟩ := BuilderStateMap.exists_highestView hstored
  refine ⟨TieredViewMap.isEmpty_eq_false_of_highestView hhighest, highest, hhighest, ?_, ?_, ?_, ?_⟩
  . exact (BuilderStateMap.highestView_eq_some.mp hhighest).2
  . exact highestViewBuilder_eq_some hhighest
  . intro actions self' hrun
    exact highestViewAtLeast_run ⟨highest, hhighest, Nat.le_refl _⟩ hrun
  . intro latest rest
    exact handleDecide_eq_some hhighest latest rest

theorem never_runs_out_deliveredTwice :
    ∃ self : Coordinator TestTypes, run step (new 5 0) deliveredTwice = some self ∧
      ∃ highest, self.builderStates.highestView = some highest ∧
        ∃ state, self.highestViewBuilder = some state ∧ state.id.parentView = highest ∧
        ∃ self' pruned, self.handleDecide [TestTypes.leaf 9] = some (self', pruned) ∧
          ∀ id, pruned.get id =
            if id.parentView < min 9 highest then self.builderStates.get id else none := by
  have hself : ∃ self : Coordinator TestTypes, run step (new 5 0) deliveredTwice = some self :=
    ⟨_, rfl⟩
  obtain ⟨self, hrun⟩ := hself
  obtain ⟨-, highest, hhighest, -, ⟨state, -, hstate, hview⟩, -, hdecide⟩ :=
    never_runs_out ⟨_, _, ⟨0, rfl⟩, hrun⟩
  obtain ⟨self', pruned, hself', hsplit⟩ := hdecide (TestTypes.leaf 9) []
  refine ⟨self, hrun, highest, hhighest, state, hstate, hview, self', pruned, hself', ?_⟩
  intro id
  exact (hsplit id).1

end Coordinator

end BuilderCore
