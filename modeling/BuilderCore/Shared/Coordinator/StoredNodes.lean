import BuilderCore.ProposalChain
import BuilderCore.Shared.Coordinator.Lemmas
import BuilderCore.Shared.Coordinator.Interleaving

/-!
This module contains the connection of the coordinator with the forest: its steps are steps of the
forest, and the states that it stores are nodes of it.
-/

namespace BuilderCore

open Transition

variable {T : NodeType}

/--
The bootstrap state is the only one that was not spawned from a proposal.
-/
def IsKnown (refs : ParentBlockReferences T) : Prop :=
  refs = .bootstrap ∨ ∃ quorumProposal, RefersTo quorumProposal refs

namespace Forest

theorem isKnown_inductive (period : Nat) :
    Inductive (T := T) period (fun _ _ node => IsKnown node.state.parentBlockReferences)
      (fun _ _ _ newChild => IsKnown newChild.parentBlockReferences) where
  bootstrap := fun _ => .inl rfl
  node_mono := fun _ _ h => h
  call_mono := fun _ _ h => h
  node_locks := fun h _ => h
  call_locks := fun _ h _ => h
  newChild := fun quorumProposal _ _ _ _ _ _ => .inr ⟨quorumProposal, rfl, rfl⟩
  cloneQueue := by
    intro _ _ _ _ _ _ h hqueue
    obtain ⟨-, rfl⟩ := NewChild.cloneQueue_eq_some.mp hqueue
    exact h
  cloneReceiver := by
    intro _ _ _ _ _ _ _ _ _ h _ hreceiver _
    obtain ⟨-, rfl, -⟩ := NewChild.cloneReceiver_eq_some.mp hreceiver
    exact h

def IsNode (forest : Forest T) (state : BuilderState T) : Prop :=
  state.addr < forest.size ∧ (forest.nodes state.addr).state = state

theorem isNode_change {forest forest' : Forest T} {action : Action T} {state : BuilderState T}
    (h : forest.IsNode state) (hchange : Change forest action forest') : forest'.IsNode state := by
  obtain ⟨hlt, hstate⟩ := h
  cases hchange with
  | collect _ addr locks => exact ⟨hlt, by rw [setLocks_nodes_state, hstate]⟩
  | popFront addr => exact ⟨hlt, by rw [setLocks_nodes_state, hstate]⟩
  | cloneReceiver call now newChild child locks =>
    refine ⟨Nat.lt_succ_of_lt hlt, ?_⟩
    rw [setCall_nodes, addChild_nodes_of_lt _ _ _ _ _ hlt, hstate]
  | _ => exact ⟨hlt, hstate⟩

theorem isNode_child {forest forest' : Forest T} {call now : Nat}
    (h : forest.step (.cloneReceiver call now) = some forest') :
    forest'.IsNode (forest'.nodes forest.size).state := by
  obtain ⟨-, newChild, child, locks, -, hreceiver, rfl⟩ := step_cloneReceiver_eq_some.mp h
  obtain ⟨-, rfl, -⟩ := NewChild.cloneReceiver_eq_some.mp hreceiver
  rw [setCall_nodes, addChild_nodes_self]
  exact ⟨Nat.lt_succ_self _, by rw [setCall_nodes, addChild_nodes_self]⟩

end Forest

namespace Coordinator

theorem forest_run_of_handleTransaction (self : Coordinator T)
    (transaction : ReceivedTransaction T)
    (maybeEvicted : Except (TrySendError T) (Option (ReceivedTransaction T))) :
    ∃ actions, run Forest.step self.forest actions =
      some (self.handleTransaction transaction maybeEvicted).1.forest := by
  cases maybeEvicted with
  | error err => exact ⟨[], rfl⟩
  | ok evicted => exact ⟨[.broadcast transaction], rfl⟩

theorem forest_run_of_step {self self' : Coordinator T} {action : Action T}
    (h : self.step action = some self') :
    ∃ actions, run Forest.step self.forest actions = some self'.forest := by
  cases change_of_step h with
  | extend _ _ _ _ _ _ _ _ _ hforest => exact ⟨[_], (run_singleton ..).trans hforest⟩
  | cloneQueue _ _ _ hforest => exact ⟨[_], (run_singleton ..).trans hforest⟩
  | cloneReceiver _ _ _ _ hforest => exact ⟨[_], (run_singleton ..).trans hforest⟩
  | request _ _ hforest => exact ⟨[_], (run_singleton ..).trans hforest⟩
  | transaction transaction maybeEvicted =>
    obtain ⟨actions, hrun⟩ := forest_run_of_handleTransaction self transaction maybeEvicted
    exact ⟨actions, hrun.trans (congrArg (fun self => some self.forest) (Option.some.inj h))⟩
  | _ => exact ⟨[], rfl⟩

theorem forest_reachable {period : Nat} {self : Coordinator T}
    (h : Reachable step (IsNew period) self) :
    Reachable Forest.step (Forest.IsNew period) self.forest := by
  apply reachable_invariant _ _ h
  . rintro _ ⟨now, rfl⟩
    exact reachable_of_init ⟨now, rfl⟩
  . intro self action self' hself hstep
    obtain ⟨actions, hrun⟩ := forest_run_of_step hstep
    exact reachable_run hself hrun

/--
Every state that is stored, or is about to be, is a node, and the call that the coordinator makes is
in progress only while its guard says so.
-/
structure StoresNodes (coordinator : Coordinator T) : Prop where
  stored : ∀ state ∈ coordinator.builderStates.stored, coordinator.forest.IsNode state
  built : ∀ child, coordinator.proposalsGuard = .built child → coordinator.forest.IsNode child
  idle : (∀ quorumProposal, coordinator.proposalsGuard ≠ .extending quorumProposal) →
    coordinator.forest.calls 0 = none

theorem storesNodes_new (period now : Nat) : StoresNodes (new period now : Coordinator T) where
  stored := by
    intro state hstored
    rw [new, BuilderStateMap.mem_stored_insert] at hstored
    rcases hstored with rfl | ⟨hstored, -⟩
    . exact ⟨Nat.zero_lt_one, rfl⟩
    . simp at hstored
  built := by simp [new]
  idle := fun _ => rfl

theorem StoresNodes.forest {self : Coordinator T} (h : self.StoresNodes) {forest : Forest T}
    (hnode : ∀ state, self.forest.IsNode state → forest.IsNode state)
    (hcalls : forest.calls = self.forest.calls) : StoresNodes { self with forest } where
  stored := fun state hstored => hnode state (h.stored state hstored)
  built := fun child hguard => hnode child (h.built child hguard)
  idle := fun hguard => by
    rw [hcalls]
    exact h.idle hguard

theorem storesNodes_change {self self' : Coordinator T} {action : Action T}
    (h : self.StoresNodes) (hchange : Change self action self') : self'.StoresNodes := by
  cases hchange with
  | duplicate => exact h
  | store => exact ⟨h.stored, h.built, h.idle⟩
  | pair _ _ _ hguard => exact ⟨h.stored, by simp, fun _ => h.idle (by simp [hguard])⟩
  | orphan _ _ _ _ _ hguard => exact ⟨h.stored, by simp, fun _ => h.idle (by simp [hguard])⟩
  | extend _ _ _ _ _ _ forest hguard _ hforest =>
    refine ⟨fun state hstored => ?_, by simp, fun hidle => absurd rfl (hidle _)⟩
    exact Forest.isNode_change (h.stored state hstored) (Forest.change_of_step hforest)
  | cloneQueue _ forest hguard hforest =>
    refine ⟨fun state hstored => ?_, by simp [hguard], fun hidle => absurd hguard (hidle _)⟩
    exact Forest.isNode_change (h.stored state hstored) (Forest.change_of_step hforest)
  | cloneReceiver now _ forest hguard hforest =>
    refine ⟨fun state hstored => ?_, ?_, fun _ => ?_⟩
    . exact Forest.isNode_change (h.stored state hstored) (Forest.change_of_step hforest)
    . rintro child hbuilt
      rw [← ProposalsGuard.built.inj hbuilt]
      exact Forest.isNode_child hforest
    . obtain ⟨-, newChild, child, locks, -, -, rfl⟩ := Forest.step_cloneReceiver_eq_some.mp hforest
      rw [Forest.setCall_calls, if_pos rfl]
  | insertChild child hguard =>
    refine ⟨?_, by simp, fun _ => h.idle (by simp [hguard])⟩
    intro state hstored
    rcases BuilderStateMap.mem_stored_insert.mp hstored with rfl | ⟨hstored, -⟩
    . exact h.built state hguard
    . exact h.stored state hstored
  | decide latest rest =>
    refine ⟨fun state hstored => ?_, h.built, h.idle⟩
    exact h.stored state (BuilderStateMap.mem_stored_prune.mp hstored).1
  | transaction _ _ sent txStatus =>
    have hsent : StoresNodes { self with forest := { self.forest with sent } } :=
      h.forest (fun _ hnode => hnode) rfl
    exact ⟨hsent.stored, hsent.built, hsent.idle⟩
  | request request forest hforest =>
    apply h.forest _ (calls_of_request hforest)
    intro state hnode
    exact Forest.isNode_change hnode (Forest.change_of_step hforest)

theorem storesNodes {period : Nat} {self : Coordinator T}
    (h : Reachable step (IsNew period) self) : self.StoresNodes := by
  apply reachable_invariant _ _ h
  . rintro _ ⟨now, rfl⟩
    exact storesNodes_new period now
  . intro self action self' hself hstep
    exact storesNodes_change hself (change_of_step hstep)

theorem isKnown_of_stored {period : Nat} {self : Coordinator T}
    (h : Reachable step (IsNew period) self) {state : BuilderState T}
    (hstored : state ∈ self.builderStates.stored) : IsKnown state.parentBlockReferences := by
  obtain ⟨hlt, hstate⟩ := (storesNodes h).stored state hstored
  have hholds := Forest.holds_of_reachable (Forest.isKnown_inductive period) (forest_reachable h)
  have := hholds.node state.addr hlt
  rwa [hstate] at this

/--
Nobody holds the locks that the call needs, and the clock does not run backwards.
-/
structure Ready (coordinator : Coordinator T) (parent : BuilderState T) (schedule : Schedule) :
    Prop where
  guard : coordinator.proposalsGuard = .free
  receiver : (coordinator.forest.locks parent.addr).receiverGuard = none
  checked : coordinator.forest.clock ≤ schedule.checked
  now : schedule.checked ≤ schedule.now
  finished : schedule.now ≤ schedule.finished

theorem lockProposals_of_matching {self : Coordinator T}
    {proposal : T.QuorumProposalWrapper ⊕ DaProposal2 T}
    {quorumProposal : T.QuorumProposalWrapper} {daProposal : DaProposal2 T}
    (hguard : self.proposalsGuard = .free)
    (h : self.matching proposal = some (quorumProposal, daProposal)) :
    self.lockProposals proposal = some { self with
      proposals := self.proposals.remove (.of proposal)
      proposalsGuard := .paired quorumProposal daProposal } := by
  rcases matching_eq_some.mp h with ⟨rfl, hget⟩ | ⟨rfl, hget⟩
  . simp [lockProposals, hguard, hget]
  . simp [lockProposals, hguard, hget]

/--
Also where no state is found to extend, the call returns.
-/
theorem exists_handleProposal {self : Coordinator T} (h : self.StoresNodes)
    {proposal : T.QuorumProposalWrapper ⊕ DaProposal2 T}
    {quorumProposal : T.QuorumProposalWrapper} {daProposal : DaProposal2 T}
    (hguard : self.proposalsGuard = .free)
    (hmatching : self.matching proposal = some (quorumProposal, daProposal)) {schedule : Schedule}
    (hready : ∀ parent ∈ self.builderStates.findBuilderStatesToExtend quorumProposal,
      self.Ready parent schedule) :
    ∃ self', self.handleProposal proposal schedule = some self' := by
  have hview := viewNumber_eq_of_matching hmatching
  cases hpop : popCandidate (self.builderStates.findBuilderStatesToExtend quorumProposal)
      schedule.choice with
  | none =>
    simp [handleProposal, lockProposals_of_matching hguard hmatching, spawnBuilderState, findParent,
      hview, hpop]
  | some parent =>
    have hfound := List.mem_of_getElem? hpop
    have hready := hready parent hfound
    obtain ⟨hlt, hnode⟩ := h.stored parent (BuilderStateMap.stored_of_mem_find hfound)
    have hidle : self.forest.calls 0 = none := h.idle (by simp [hguard])
    obtain ⟨forest₃, hrun⟩ := @Forest.exists_run_newChildSteps T self.forest 0 parent.addr
      quorumProposal daProposal schedule.checked schedule.now schedule.finished hlt
      (congrArg BuilderState.addr hnode) hidle hready.receiver hready.checked hready.now
      hready.finished
    obtain ⟨forest₁, forest₂, hnew, hqueue, hreceiver⟩ := Forest.run_newChildSteps_eq_some.mp hrun
    simp [handleProposal, lockProposals_of_matching hguard hmatching, spawnBuilderState, findParent,
      hview, hpop, hnew, cloneQueue, hqueue, cloneReceiver, hreceiver, insertChild]

end Coordinator

end BuilderCore
