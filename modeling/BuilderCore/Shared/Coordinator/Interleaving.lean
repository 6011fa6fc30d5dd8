import BuilderCore.Shared.Coordinator.FindParents
import BuilderCore.Shared.Coordinator.Lemmas
import BuilderCore.Transition

/-!
This module contains what holds of the coordinator however its concurrent calls interleave at their
locks: while the guard of `proposals` is held, nobody else stores a builder state.
-/

namespace BuilderCore

open Transition

variable {T : NodeType}

namespace Coordinator

/--
The guard of `proposals` is held by a task that has found no state stored for its proposal.
-/
def GuardInvariant (self : Coordinator T) : Prop :=
  match self.proposalsGuard with
  | .free => True
  | .paired _ _ => True
  | .extending quorumProposal =>
    self.builderStates.get (proposedId quorumProposal) = none ∧
      ∃ newChild, self.forest.calls 0 = some newChild ∧
        newChild.parentBlockReferences.id = proposedId quorumProposal
  | .built child => self.builderStates.get child.id = none

theorem get_eq_none_of_mem_find {m : BuilderStateMap T} {quorumProposal : T.QuorumProposalWrapper}
    {parentState : BuilderState T}
    (h : parentState ∈ m.findBuilderStatesToExtend quorumProposal) :
    m.get (proposedId quorumProposal) = none := by
  rw [← Option.not_isSome_iff_eq_none, BuilderStateMap.isSome_get_iff]
  intro hstored
  rw [BuilderStateMap.find_of_stored hstored] at h
  simp at h

theorem get_prune_eq_none {m : BuilderStateMap T} {id : BuilderStateId T} (h : m.get id = none)
    (cutoff : Nat) : (m.prune cutoff).get id = none := by
  rw [BuilderStateMap.get_prune, h]
  split <;> rfl

theorem calls_of_request {forest forest' : Forest T} {request : Request}
    (h : forest.step request.action = some forest') : forest'.calls = forest.calls := by
  cases request <;> cases Forest.change_of_step h <;> rfl

theorem id_of_cloneReceiver {forest forest' : Forest T} {now : Nat} {newChild : NewChild T}
    (hcall : forest.calls 0 = some newChild)
    (h : forest.step (.cloneReceiver 0 now) = some forest') :
    (forest'.nodes forest.size).state.id = newChild.parentBlockReferences.id := by
  obtain ⟨-, newChild', child, locks, hcall', hreceiver, rfl⟩ :=
    Forest.step_cloneReceiver_eq_some.mp h
  rw [hcall, Option.some.injEq] at hcall'
  subst hcall'
  obtain ⟨-, rfl, -⟩ := NewChild.cloneReceiver_eq_some.mp hreceiver
  rw [Forest.setCall_nodes, Forest.addChild_nodes_self]
  rfl

theorem guardInvariant_new (period now : Nat) : GuardInvariant (new period now : Coordinator T) :=
  trivial

theorem guardInvariant_change {self self' : Coordinator T} {action : Action T}
    (h : self.GuardInvariant) (hchange : Change self action self') : self'.GuardInvariant := by
  cases hchange with
  | duplicate => exact h
  | store => exact h
  | pair => trivial
  | orphan => trivial
  | extend choice checked now quorumProposal daProposal parentState forest hguard hparent hforest =>
    refine ⟨get_eq_none_of_mem_find hparent, ?_⟩
    obtain ⟨-, -, hforest⟩ := Forest.step_newChild_eq_some.mp hforest
    exact ⟨_, by rw [hforest, Forest.setCall_calls, if_pos rfl], newChild_id ..⟩
  | cloneQueue quorumProposal forest hguard hforest =>
    simp only [GuardInvariant, hguard] at h ⊢
    obtain ⟨hnone, newChild, hcall, hid⟩ := h
    obtain ⟨newChild', newChild'', hcall', hqueue, rfl⟩ :=
      Forest.step_cloneQueue_eq_some.mp hforest
    rw [hcall, Option.some.injEq] at hcall'
    subst hcall'
    obtain ⟨-, rfl⟩ := NewChild.cloneQueue_eq_some.mp hqueue
    refine ⟨hnone, _, by rw [Forest.setCall_calls, if_pos rfl], ?_⟩
    exact hid
  | cloneReceiver now quorumProposal forest hguard hforest =>
    simp only [GuardInvariant, hguard] at h
    obtain ⟨hnone, newChild, hcall, hid⟩ := h
    simp only [GuardInvariant, id_of_cloneReceiver hcall hforest, hid, hnone]
  | insertChild => trivial
  | decide latest rest =>
    simp only [GuardInvariant] at h ⊢
    split at h
    . trivial
    . trivial
    . exact ⟨get_prune_eq_none h.1 _, h.2⟩
    . exact get_prune_eq_none h _
  | transaction => exact h
  | request request forest hforest =>
    simp only [GuardInvariant, calls_of_request hforest] at h ⊢
    exact h

theorem guardInvariant {period : Nat} {self : Coordinator T}
    (h : Reachable step (IsNew period) self) : self.GuardInvariant := by
  apply reachable_invariant _ _ h
  . rintro _ ⟨now, rfl⟩
    exact guardInvariant_new period now
  . intro self action self' hself hstep
    exact guardInvariant_change hself (change_of_step hstep)

def Prunes (self : Coordinator T) (id : BuilderStateId T) (action : Action T) : Prop :=
  ∃ latest rest, action = .decide (latest :: rest) ∧ id.parentView < self.cutoff latest.viewNumber

theorem stored_change {self self' : Coordinator T} {action : Action T} {id : BuilderStateId T}
    {state : BuilderState T} (h : self.GuardInvariant) (hchange : Change self action self')
    (hget : self.builderStates.get id = some state) :
    self'.builderStates.get id = some state ∨ self.Prunes id action := by
  cases hchange with
  | insertChild child hguard =>
    simp only [GuardInvariant, hguard] at h
    left
    rw [BuilderStateMap.get_insert, if_neg]
    . exact hget
    . rintro rfl
      rw [h] at hget
      contradiction
  | decide latest rest =>
    rw [BuilderStateMap.get_prune]
    split
    . exact .inl hget
    . next hlt => exact .inr ⟨latest, rest, rfl, Nat.lt_of_not_le hlt⟩
  | _ => exact .inl hget

theorem stored_run {period : Nat} {self self' : Coordinator T} {actions : List (Action T)}
    {id : BuilderStateId T} {state : BuilderState T} (h : Reachable step (IsNew period) self)
    (hrun : run step self actions = some self') (hget : self.builderStates.get id = some state) :
    self'.builderStates.get id = some state ∨
      ∃ before action after between, actions = before ++ action :: after ∧
        run step self before = some between ∧ between.builderStates.get id = some state ∧
        between.Prunes id action := by
  apply run_or_exists_break (P := fun self => self.builderStates.get id = some state)
    (I := GuardInvariant) _ _ (guardInvariant h) hget hrun
  . intro self action self' hself hstep
    exact guardInvariant_change hself (change_of_step hstep)
  . intro self action self' hself hget hstep
    exact stored_change hself (change_of_step hstep) hget

/--
A stored builder state is never replaced: a child that is about to be stored has an id under which
nothing is stored, and what is stored stays until it is pruned.
-/
theorem never_replaced {period : Nat} {self : Coordinator T}
    (h : Reachable step (IsNew period) self) :
    (∀ child, self.proposalsGuard = .built child → self.builderStates.get child.id = none) ∧
    ∀ actions self' id state, run step self actions = some self' →
      self.builderStates.get id = some state →
        self'.builderStates.get id = some state ∨
          ∃ before action after between, actions = before ++ action :: after ∧
            run step self before = some between ∧ between.builderStates.get id = some state ∧
            between.Prunes id action := by
  constructor
  . intro child hguard
    have hinv := guardInvariant h
    simpa only [GuardInvariant, hguard] using hinv
  . intro actions self' id state hrun hget
    exact stored_run h hrun hget

/--
The pair of view 1 is delivered twice, and the second time a decide and a request come in between.
-/
def deliveredTwice : List (Action TestTypes) := [
  .lockProposals (.inl (TestTypes.quorumProposal 1 10 [7] ⟨0, []⟩)),
  .lockProposals (.inr (TestTypes.daProposal 1 [7])),
  .findParent 0 1 1,
  .cloneQueue,
  .request (.tryRecv 0),
  .cloneReceiver 1,
  .insertChild,
  .lockProposals (.inr (TestTypes.daProposal 1 [7])),
  .lockProposals (.inl (TestTypes.quorumProposal 1 10 [7] ⟨0, []⟩)),
  .decide [⟨1, none, (), 1⟩],
  .findParent 0 2 2]

theorem never_replaced_deliveredTwice :
    ∃ self : Coordinator TestTypes, run step (new 5 0) deliveredTwice = some self ∧
      ∃ child, self.builderStates.get ⟨1, (10 : Nat)⟩ = some child ∧
        ∀ actions self', run step self actions = some self' →
          self'.builderStates.get ⟨1, (10 : Nat)⟩ = some child ∨
            ∃ before action after between, actions = before ++ action :: after ∧
              run step self before = some between ∧
              between.builderStates.get ⟨1, (10 : Nat)⟩ = some child ∧
              between.Prunes ⟨1, (10 : Nat)⟩ action := by
  have hself : ∃ self : Coordinator TestTypes, run step (new 5 0) deliveredTwice = some self ∧
      ∃ child, self.builderStates.get ⟨1, (10 : Nat)⟩ = some child :=
    ⟨_, rfl, _, rfl⟩
  obtain ⟨self, hrun, child, hget⟩ := hself
  refine ⟨self, hrun, child, hget, ?_⟩
  intro actions self' hrun'
  exact (never_replaced ⟨_, _, ⟨0, rfl⟩, hrun⟩).2 actions self' _ child hrun' hget

end Coordinator

end BuilderCore
