import BuilderCore.Shared.Coordinator.StoredNodes

/-!
This module contains that whoever holds the guard of `proposals` can always go on until it is released:
nobody waits for a lock forever.
-/

namespace BuilderCore

open Transition

variable {T : NodeType}

namespace Coordinator

/--
The assertion of `spawn_builder_state` holds.
-/
def PairedInvariant (self : Coordinator T) : Prop :=
  ∀ quorumProposal daProposal, self.proposalsGuard = .paired quorumProposal daProposal →
    T.viewNumber quorumProposal = daProposal.viewNumber

theorem pairedInvariant_change {self self' : Coordinator T} {action : Action T}
    (h : self.PairedInvariant) (hchange : Change self action self') : self'.PairedInvariant := by
  intro quorumProposal daProposal hguard
  cases hchange with
  | pair proposal quorumProposal' daProposal' _ hmatching =>
    obtain ⟨rfl, rfl⟩ := ProposalsGuard.paired.inj hguard
    exact viewNumber_eq_of_matching hmatching
  | transaction transaction maybeEvicted => exact h _ _ hguard
  | duplicate => exact h _ _ hguard
  | store => exact h _ _ hguard
  | decide => exact h _ _ hguard
  | request => exact h _ _ hguard
  | cloneQueue => exact h _ _ hguard
  | _ => contradiction

/--
What holds of every reachable coordinator, and whatever the statuses of the transactions are.
-/
structure Sound (period : Nat) (coordinator : Coordinator T) : Prop where
  storesNodes : coordinator.StoresNodes
  paired : coordinator.PairedInvariant
  guard : coordinator.GuardInvariant
  forest : Reachable Forest.step (Forest.IsNew period) coordinator.forest

theorem sound_new (period now : Nat) : Sound period (new period now : Coordinator T) where
  storesNodes := storesNodes_new period now
  paired := by
    intro quorumProposal daProposal hguard
    contradiction
  guard := guardInvariant_new period now
  forest := reachable_of_init ⟨now, rfl⟩

theorem sound_step {period : Nat} {self self' : Coordinator T} {action : Action T}
    (h : self.Sound period) (hstep : self.step action = some self') : self'.Sound period where
  storesNodes := storesNodes_change h.storesNodes (change_of_step hstep)
  paired := pairedInvariant_change h.paired (change_of_step hstep)
  guard := guardInvariant_change h.guard (change_of_step hstep)
  forest := by
    obtain ⟨actions, hrun⟩ := forest_run_of_step hstep
    exact reachable_run h.forest hrun

theorem sound_of_reachable {period : Nat} {self : Coordinator T}
    (h : Reachable step (IsNew period) self) : self.Sound period := by
  apply reachable_invariant _ _ h
  . rintro _ ⟨now, rfl⟩
    exact sound_new period now
  . intro self action self' hself hstep
    exact sound_step hself hstep

theorem Sound.txStatus {period : Nat} {self : Coordinator T} (h : self.Sound period)
    (txStatus : TxStatusCache T) : Sound period { self with txStatus } where
  storesNodes := ⟨h.storesNodes.stored, h.storesNodes.built, h.storesNodes.idle⟩
  paired := h.paired
  guard := h.guard
  forest := h.forest

/--
The steps of the task that holds the guard, and the insertion that it may have to wait for.
-/
def Action.Releases (action : Action T) : Prop :=
  match action with
  | .findParent _ _ _ | .cloneQueue | .cloneReceiver _ | .insertChild | .request (.insert _) => True
  | _ => False

/--
How many steps are left until the guard is released, at most.
-/
def stepsLeft (self : Coordinator T) : Nat :=
  match self.proposalsGuard with
  | .free => 0
  | .built _ => 1
  | .extending _ =>
    match self.forest.calls 0 with
    | none => 0
    | some newChild =>
      (if newChild.txnQueue.isNone then 4 else 2) +
        if (self.forest.locks newChild.parent.addr).receiverGuard.isSome then 1 else 0
  | .paired _ _ => 6

section

variable {self : Coordinator T}

theorem stepsLeft_of_extending {quorumProposal : T.QuorumProposalWrapper} {newChild : NewChild T}
    (hguard : self.proposalsGuard = .extending quorumProposal)
    (hcall : self.forest.calls 0 = some newChild) :
    self.stepsLeft = (if newChild.txnQueue.isNone then 4 else 2) +
      if (self.forest.locks newChild.parent.addr).receiverGuard.isSome then 1 else 0 := by
  unfold stepsLeft
  rw [hguard]
  dsimp only
  rw [hcall]

theorem stepsLeft_le_of_extending {quorumProposal : T.QuorumProposalWrapper}
    (h : self.proposalsGuard = .extending quorumProposal) : self.stepsLeft ≤ 5 := by
  cases hcall : self.forest.calls 0 with
  | none => simp [stepsLeft, h, hcall]
  | some newChild =>
    rw [stepsLeft_of_extending h hcall]
    split <;> split <;> omega

theorem exists_findParent (hstores : self.StoresNodes) (hpaired : self.PairedInvariant)
    {quorumProposal : T.QuorumProposalWrapper} {daProposal : DaProposal2 T}
    (hguard : self.proposalsGuard = .paired quorumProposal daProposal) :
    ∃ self', self.step (.findParent 0 self.forest.clock self.forest.clock) = some self' ∧
      self'.stepsLeft < self.stepsLeft := by
  have hleft : self.stepsLeft = 6 := by
    unfold stepsLeft
    rw [hguard]
  have hview := hpaired quorumProposal daProposal hguard
  rw [hleft]
  cases hpop : popCandidate (self.builderStates.findBuilderStatesToExtend quorumProposal) 0 with
  | none =>
    refine ⟨{ self with proposalsGuard := .free }, ?_, Nat.zero_lt_succ 5⟩
    simp [step, findParent, hguard, hview, hpop]
  | some parent =>
    obtain ⟨hlt, -⟩ :=
      hstores.stored parent (BuilderStateMap.stored_of_mem_find (List.mem_of_getElem? hpop))
    have hidle : self.forest.calls 0 = none := hstores.idle (by simp [hguard])
    obtain ⟨forest, hforest⟩ : ∃ forest, self.forest.step (.newChild 0 parent.addr quorumProposal
        daProposal self.forest.clock self.forest.clock) = some forest :=
      ⟨_, Forest.step_newChild_eq_some.mpr
        ⟨⟨hlt, Nat.le_refl _, Nat.le_refl _⟩, hidle, rfl⟩⟩
    refine ⟨{ self with forest, proposalsGuard := .extending quorumProposal }, ?_, ?_⟩
    . simp [step, findParent, hguard, hview, hpop, hforest]
    . exact Nat.lt_succ_of_le (stepsLeft_le_of_extending rfl)

/--
A task that is in the middle of an insertion has to end it before the receiver can be cloned.
-/
theorem exists_insertReceived {quorumProposal : T.QuorumProposalWrapper} {newChild : NewChild T}
    (hguard : self.proposalsGuard = .extending quorumProposal)
    (hcall : self.forest.calls 0 = some newChild) (hlt : newChild.parent.addr < self.forest.size)
    {txn : ReceivedTransaction T}
    (htxn : (self.forest.locks newChild.parent.addr).receiverGuard = some txn) :
    ∃ self', self.step (.request (.insert newChild.parent.addr)) = some self' ∧
      self'.stepsLeft < self.stepsLeft := by
  obtain ⟨locks, hlocks⟩ : ∃ locks,
      (self.forest.locks newChild.parent.addr).insertReceived = some locks := by
    simp [Locks.insertReceived, htxn]
  have hfree : locks.receiverGuard = none := by
    simp only [Locks.insertReceived, htxn, Option.some.injEq] at hlocks
    rw [← hlocks]
  refine ⟨{ self with forest := self.forest.setLocks newChild.parent.addr locks }, ?_, ?_⟩
  . simp [step, handleRequest, Request.action, Forest.step, hlt, hlocks]
  . have hleft := @stepsLeft_of_extending _
      { self with forest := self.forest.setLocks newChild.parent.addr locks } _ _ hguard hcall
    rw [hleft, stepsLeft_of_extending hguard hcall, htxn]
    simp [Forest.locks, Forest.setLocks_nodes_self, hfree]

theorem exists_cloneQueue {quorumProposal : T.QuorumProposalWrapper} {newChild : NewChild T}
    (hguard : self.proposalsGuard = .extending quorumProposal)
    (hcall : self.forest.calls 0 = some newChild) (hqueue : newChild.txnQueue = none) :
    ∃ self', self.step .cloneQueue = some self' ∧ self'.stepsLeft < self.stepsLeft := by
  obtain ⟨newChild', hclone⟩ : ∃ newChild',
      newChild.cloneQueue (self.forest.locks newChild.parent.addr) = some newChild' :=
    ⟨_, NewChild.cloneQueue_eq_some.mpr ⟨hqueue, rfl⟩⟩
  obtain ⟨-, hsome⟩ := NewChild.cloneQueue_eq_some.mp hclone
  have hforest := Forest.step_cloneQueue_eq_some.mpr ⟨newChild, newChild', hcall, hclone, rfl⟩
  refine ⟨{ self with forest := self.forest.setCall 0 newChild' }, ?_, ?_⟩
  . simp [step, cloneQueue, hguard, hforest]
  . have hleft := @stepsLeft_of_extending _
      { self with forest := self.forest.setCall 0 newChild' } _ newChild' hguard
      ((Forest.setCall_calls ..).trans (if_pos rfl))
    rw [hleft, stepsLeft_of_extending hguard hcall, hqueue, hsome]
    have hlt : 2 < 4 := by decide
    exact Nat.add_lt_add_right hlt _

theorem exists_cloneReceiver {quorumProposal : T.QuorumProposalWrapper} {newChild : NewChild T}
    (hguard : self.proposalsGuard = .extending quorumProposal)
    (hcall : self.forest.calls 0 = some newChild) {txnQueue : TransactionQueue T}
    (hqueue : newChild.txnQueue = some txnQueue)
    (hfree : (self.forest.locks newChild.parent.addr).receiverGuard = none) :
    ∃ self', self.step (.cloneReceiver self.forest.clock) = some self' ∧
      self'.stepsLeft < self.stepsLeft := by
  obtain ⟨forest, hforest⟩ : ∃ forest,
      self.forest.step (.cloneReceiver 0 self.forest.clock) = some forest :=
    ⟨_, Forest.step_cloneReceiver_eq_some.mpr ⟨Nat.le_refl _, newChild, _, _, hcall,
      NewChild.cloneReceiver_eq_some.mpr ⟨hfree, rfl, txnQueue, hqueue, rfl⟩, rfl⟩⟩
  refine ⟨{ self with
    forest, proposalsGuard := .built (forest.nodes self.forest.size).state }, ?_, ?_⟩
  . simp [step, cloneReceiver, hguard, hforest]
  . rw [stepsLeft_of_extending hguard hcall, hqueue, hfree]
    exact Nat.lt_succ_self 1

/--
Somebody can go on, and is a step nearer to the release of the guard then.
-/
theorem exists_releases {period : Nat} (h : self.Sound period)
    (hlocked : self.proposalsGuard ≠ .free) :
    ∃ action self', action.Releases ∧ self.step action = some self' ∧
      self'.stepsLeft < self.stepsLeft := by
  cases hguard : self.proposalsGuard with
  | free => exact absurd hguard hlocked
  | paired quorumProposal daProposal =>
    obtain ⟨self', hstep⟩ := exists_findParent h.storesNodes h.paired hguard
    exact ⟨.findParent 0 self.forest.clock self.forest.clock, self', trivial, hstep⟩
  | extending quorumProposal =>
    have hcalls := h.guard
    simp only [GuardInvariant, hguard] at hcalls
    obtain ⟨-, newChild, hcall, -⟩ := hcalls
    obtain ⟨hlt, -⟩ := (Forest.holds_of_reachable (Forest.isKnown_inductive period)
      h.forest).parent 0 newChild hcall
    cases hfree : (self.forest.locks newChild.parent.addr).receiverGuard with
    | some txn =>
      obtain ⟨self', hstep⟩ := exists_insertReceived hguard hcall hlt hfree
      exact ⟨.request (.insert newChild.parent.addr), self', trivial, hstep⟩
    | none =>
      cases hqueue : newChild.txnQueue with
      | none =>
        obtain ⟨self', hstep⟩ := exists_cloneQueue hguard hcall hqueue
        exact ⟨.cloneQueue, self', trivial, hstep⟩
      | some txnQueue =>
        obtain ⟨self', hstep⟩ := exists_cloneReceiver hguard hcall hqueue hfree
        exact ⟨.cloneReceiver self.forest.clock, self', trivial, hstep⟩
  | built child =>
    refine ⟨.insertChild, { self with
      builderStates := self.builderStates.insert child, proposalsGuard := .free }, trivial, ?_, ?_⟩
    . simp [step, insertChild, hguard]
    . simp [stepsLeft, hguard]

end

end Coordinator

end BuilderCore
