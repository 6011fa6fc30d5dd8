import BuilderCore.Shared.Coordinator.Coordinator
import BuilderCore.Shared.ForestLemmas

/-!
This module contains what each step of the coordinator can do, and what a whole call that is not
interrupted can do.
-/

namespace BuilderCore

variable {T : NodeType}

namespace Coordinator

def matching (self : Coordinator T) (proposal : T.QuorumProposalWrapper ⊕ DaProposal2 T) :
    Option (T.QuorumProposalWrapper × DaProposal2 T) :=
  match self.proposals.get? (.of proposal), proposal with
  | some (.inr daProposal), .inl quorumProposal
  | some (.inl quorumProposal), .inr daProposal => some (quorumProposal, daProposal)
  | _, _ => none

theorem matching_eq_some {self : Coordinator T}
    {proposal : T.QuorumProposalWrapper ⊕ DaProposal2 T}
    {quorumProposal : T.QuorumProposalWrapper} {daProposal : DaProposal2 T} :
    self.matching proposal = some (quorumProposal, daProposal) ↔
      (proposal = .inl quorumProposal ∧
        self.proposals.get? (.of proposal) = some (.inr daProposal)) ∨
      (proposal = .inr daProposal ∧
        self.proposals.get? (.of proposal) = some (.inl quorumProposal)) := by
  unfold matching
  split
  . next daProposal' quorumProposal' hget => simp [hget]
  . next quorumProposal' daProposal' hget => simp [hget, and_comm]
  . next hleft hright =>
    simp only [reduceCtorEq, false_iff, not_or, not_and]
    constructor
    . rintro rfl hget
      exact hleft _ _ hget rfl
    . rintro rfl hget
      exact hright _ _ hget rfl

theorem matching_eq_none_of_duplicate {self : Coordinator T}
    {proposal stored : T.QuorumProposalWrapper ⊕ DaProposal2 T}
    (hstored : self.proposals.get? (.of proposal) = some stored)
    (hkind : stored.isLeft = proposal.isLeft) : self.matching proposal = none := by
  unfold matching
  rw [hstored]
  match stored, proposal with
  | .inl _, .inl _ => rfl
  | .inr _, .inr _ => rfl
  | .inl _, .inr _ => simp at hkind
  | .inr _, .inl _ => simp at hkind

theorem matching_eq_none_of_new {self : Coordinator T}
    {proposal : T.QuorumProposalWrapper ⊕ DaProposal2 T}
    (hnone : self.proposals.get? (.of proposal) = none) : self.matching proposal = none := by
  unfold matching
  rw [hnone]

theorem id_eq_of_matching {self : Coordinator T}
    {proposal : T.QuorumProposalWrapper ⊕ DaProposal2 T}
    {quorumProposal : T.QuorumProposalWrapper} {daProposal : DaProposal2 T}
    (h : self.matching proposal = some (quorumProposal, daProposal)) :
    ProposalId.of proposal = .fromQuorumProposal quorumProposal ∧
      ProposalId.of proposal = .fromDaProposal daProposal := by
  rcases matching_eq_some.mp h with ⟨rfl, hget⟩ | ⟨rfl, hget⟩
  . exact ⟨rfl, (self.proposals.id_eq hget).symm⟩
  . exact ⟨(self.proposals.id_eq hget).symm, rfl⟩

theorem viewNumber_eq_of_matching {self : Coordinator T}
    {proposal : T.QuorumProposalWrapper ⊕ DaProposal2 T}
    {quorumProposal : T.QuorumProposalWrapper} {daProposal : DaProposal2 T}
    (h : self.matching proposal = some (quorumProposal, daProposal)) :
    T.viewNumber quorumProposal = daProposal.viewNumber := by
  obtain ⟨hquorum, hda⟩ := id_eq_of_matching h
  have := congrArg ProposalId.viewNumber (hquorum.symm.trans hda)
  exact this

inductive Change (self : Coordinator T) : Action T → Coordinator T → Prop where
  | duplicate (proposal stored : T.QuorumProposalWrapper ⊕ DaProposal2 T)
      (hguard : self.proposalsGuard = .free)
      (hstored : self.proposals.get? (.of proposal) = some stored)
      (hkind : stored.isLeft = proposal.isLeft) : Change self (.lockProposals proposal) self
  | store (proposal : T.QuorumProposalWrapper ⊕ DaProposal2 T)
      (hguard : self.proposalsGuard = .free)
      (hnone : self.proposals.get? (.of proposal) = none) :
      Change self (.lockProposals proposal)
        { self with proposals := self.proposals.insert proposal }
  | pair (proposal : T.QuorumProposalWrapper ⊕ DaProposal2 T)
      (quorumProposal : T.QuorumProposalWrapper) (daProposal : DaProposal2 T)
      (hguard : self.proposalsGuard = .free)
      (hmatching : self.matching proposal = some (quorumProposal, daProposal)) :
      Change self (.lockProposals proposal) { self with
        proposals := self.proposals.remove (.of proposal)
        proposalsGuard := .paired quorumProposal daProposal }
  | orphan (choice checked now : Nat) (quorumProposal : T.QuorumProposalWrapper)
      (daProposal : DaProposal2 T) (hguard : self.proposalsGuard = .paired quorumProposal daProposal)
      (hfind : self.builderStates.findBuilderStatesToExtend quorumProposal = []) :
      Change self (.findParent choice checked now) { self with proposalsGuard := .free }
  | extend (choice checked now : Nat) (quorumProposal : T.QuorumProposalWrapper)
      (daProposal : DaProposal2 T) (parentState : BuilderState T) (forest : Forest T)
      (hguard : self.proposalsGuard = .paired quorumProposal daProposal)
      (hparent : parentState ∈ self.builderStates.findBuilderStatesToExtend quorumProposal)
      (hforest : self.forest.step
        (.newChild 0 parentState.addr quorumProposal daProposal checked now) = some forest) :
      Change self (.findParent choice checked now)
        { self with forest, proposalsGuard := .extending quorumProposal }
  | cloneQueue (quorumProposal : T.QuorumProposalWrapper) (forest : Forest T)
      (hguard : self.proposalsGuard = .extending quorumProposal)
      (hforest : self.forest.step (.cloneQueue 0) = some forest) :
      Change self .cloneQueue { self with forest }
  | cloneReceiver (now : Nat) (quorumProposal : T.QuorumProposalWrapper) (forest : Forest T)
      (hguard : self.proposalsGuard = .extending quorumProposal)
      (hforest : self.forest.step (.cloneReceiver 0 now) = some forest) :
      Change self (.cloneReceiver now) { self with
        forest, proposalsGuard := .built (forest.nodes self.forest.size).state }
  | insertChild (child : BuilderState T) (hguard : self.proposalsGuard = .built child) :
      Change self .insertChild { self with
        builderStates := self.builderStates.insert child, proposalsGuard := .free }
  | decide (latest : LeafInfo T) (rest : List (LeafInfo T)) :
      Change self (.decide (latest :: rest)) { self with
        txStatus := self.txStatus.sequenceLeaves (latest :: rest)
        builderStates := self.builderStates.prune (self.cutoff latest.viewNumber) }
  | transaction (transaction : ReceivedTransaction T)
      (maybeEvicted : Except (TrySendError T) (Option (ReceivedTransaction T)))
      (sent : List (ReceivedTransaction T)) (txStatus : TxStatusCache T) :
      Change self (.transaction transaction maybeEvicted)
        { self with forest := { self.forest with sent }, txStatus }
  | request (request : Request) (forest : Forest T)
      (hforest : self.forest.step request.action = some forest) :
      Change self (.request request) { self with forest }

theorem change_of_lockProposals {self self' : Coordinator T}
    {proposal : T.QuorumProposalWrapper ⊕ DaProposal2 T}
    (h : self.lockProposals proposal = some self') :
    Change self (.lockProposals proposal) self' := by
  unfold lockProposals at h
  split at h
  . next hguard =>
    dsimp only at h
    split at h
    . next daProposal quorumProposal hget =>
      rw [Option.some.injEq] at h
      rw [← h]
      exact .pair _ _ _ hguard (matching_eq_some.mpr (.inl ⟨rfl, hget⟩))
    . next quorumProposal daProposal hget =>
      rw [Option.some.injEq] at h
      rw [← h]
      exact .pair _ _ _ hguard (matching_eq_some.mpr (.inr ⟨rfl, hget⟩))
    . next proposal _ _ stored hleft hright hget =>
      rw [Option.some.injEq] at h
      rw [← h]
      apply Change.duplicate _ stored hguard hget
      match stored, proposal with
      | .inl _, .inl _ => rfl
      | .inr _, .inr _ => rfl
      | .inr _, .inl _ => exact absurd rfl (hleft _ _ rfl)
      | .inl _, .inr _ => exact absurd rfl (hright _ _ rfl)
    . next hget =>
      rw [Option.some.injEq] at h
      rw [← h]
      exact .store _ hguard hget
  . contradiction

theorem popCandidate_eq_none {candidateParents : List (BuilderState T)} {choice : Nat}
    (h : popCandidate candidateParents choice = none) : candidateParents = [] := by
  rw [popCandidate, List.getElem?_eq_none_iff] at h
  apply List.eq_nil_of_length_eq_zero
  by_contra hne
  have := Nat.mod_lt choice (Nat.pos_of_ne_zero hne)
  omega

theorem change_of_findParent {self self' : Coordinator T} {choice checked now : Nat}
    (h : self.findParent choice checked now = some self') :
    Change self (.findParent choice checked now) self' := by
  unfold findParent at h
  split at h
  . next quorumProposal daProposal hguard =>
    simp only [Option.bind_eq_bind, Option.bind_eq_some_iff, Option.guard_eq_some', exists_const]
      at h
    obtain ⟨-, h⟩ := h
    split at h
    . next hpop =>
      simp only [Option.pure_def, Option.some.injEq] at h
      rw [← h]
      exact .orphan _ _ _ _ _ hguard (popCandidate_eq_none hpop)
    . next parentState hpop =>
      simp only [Option.bind_eq_some_iff, Option.pure_def, Option.some.injEq] at h
      obtain ⟨forest, hforest, rfl⟩ := h
      exact .extend _ _ _ _ _ parentState forest hguard (List.mem_of_getElem? hpop) hforest
  . contradiction

theorem change_of_handleTransaction (self : Coordinator T) (transaction : ReceivedTransaction T)
    (maybeEvicted : Except (TrySendError T) (Option (ReceivedTransaction T))) :
    Change self (.transaction transaction maybeEvicted)
      (self.handleTransaction transaction maybeEvicted).1 := by
  unfold handleTransaction
  cases maybeEvicted with
  | error err => exact .transaction _ _ self.forest.sent _
  | ok evicted => exact .transaction _ _ _ _

theorem change_of_cloneQueue {self self' : Coordinator T} (h : self.cloneQueue = some self') :
    Change self .cloneQueue self' := by
  unfold cloneQueue at h
  split at h
  . next quorumProposal hguard =>
    simp only [Option.bind_eq_bind, Option.bind_eq_some_iff, Option.pure_def, Option.some.injEq]
      at h
    obtain ⟨forest, hforest, rfl⟩ := h
    exact .cloneQueue quorumProposal forest hguard hforest
  . contradiction

theorem change_of_cloneReceiver {self self' : Coordinator T} {now : Nat}
    (h : self.cloneReceiver now = some self') : Change self (.cloneReceiver now) self' := by
  unfold cloneReceiver at h
  split at h
  . next quorumProposal hguard =>
    simp only [Option.bind_eq_bind, Option.bind_eq_some_iff, Option.pure_def, Option.some.injEq]
      at h
    obtain ⟨forest, hforest, rfl⟩ := h
    exact .cloneReceiver now quorumProposal forest hguard hforest
  . contradiction

theorem change_of_insertChild {self self' : Coordinator T} (h : self.insertChild = some self') :
    Change self .insertChild self' := by
  unfold insertChild at h
  split at h
  . next child hguard =>
    rw [Option.some.injEq] at h
    rw [← h]
    exact .insertChild child hguard
  . contradiction

theorem change_of_step {self self' : Coordinator T} {action : Action T}
    (h : self.step action = some self') : Change self action self' := by
  cases action with
  | lockProposals proposal => exact change_of_lockProposals h
  | findParent choice checked now => exact change_of_findParent h
  | cloneQueue => exact change_of_cloneQueue h
  | cloneReceiver now => exact change_of_cloneReceiver h
  | insertChild => exact change_of_insertChild h
  | decide leafChain =>
    simp only [step, handleDecide] at h
    split at h
    . contradiction
    . next latest rest =>
      simp only [Option.map_some, Option.some.injEq] at h
      rw [← h]
      exact .decide latest rest
  | transaction transaction maybeEvicted =>
    simp only [step, Option.some.injEq] at h
    rw [← h]
    exact change_of_handleTransaction self transaction maybeEvicted
  | request request =>
    simp only [step, handleRequest, Option.bind_eq_bind, Option.bind_eq_some_iff, Option.pure_def,
      Option.some.injEq] at h
    obtain ⟨forest, hforest, rfl⟩ := h
    exact .request request forest hforest

def withChild (self : Coordinator T) (proposal : T.QuorumProposalWrapper ⊕ DaProposal2 T)
    (forest : Forest T) : Coordinator T :=
  { self with
    builderStates := self.builderStates.insert (forest.nodes self.forest.size).state
    proposals := self.proposals.remove (.of proposal)
    forest }

inductive Handled (self : Coordinator T) (proposal : T.QuorumProposalWrapper ⊕ DaProposal2 T)
    (schedule : Schedule) : Coordinator T → Prop where
  | duplicate (stored : T.QuorumProposalWrapper ⊕ DaProposal2 T)
      (hstored : self.proposals.get? (.of proposal) = some stored)
      (hkind : stored.isLeft = proposal.isLeft) : Handled self proposal schedule self
  | store (hnone : self.proposals.get? (.of proposal) = none) :
      Handled self proposal schedule { self with proposals := self.proposals.insert proposal }
  | orphan (quorumProposal : T.QuorumProposalWrapper) (daProposal : DaProposal2 T)
      (hmatching : self.matching proposal = some (quorumProposal, daProposal))
      (hfind : self.builderStates.findBuilderStatesToExtend quorumProposal = []) :
      Handled self proposal schedule
        { self with proposals := self.proposals.remove (.of proposal) }
  | spawn (quorumProposal : T.QuorumProposalWrapper) (daProposal : DaProposal2 T)
      (parentState : BuilderState T) (forest : Forest T)
      (hmatching : self.matching proposal = some (quorumProposal, daProposal))
      (hparent : parentState ∈ self.builderStates.findBuilderStatesToExtend quorumProposal)
      (hforest : Transition.run Forest.step self.forest
        (Forest.newChildSteps 0 parentState.addr quorumProposal daProposal schedule.checked
          schedule.now schedule.finished) = some forest) :
      Handled self proposal schedule (self.withChild proposal forest)

theorem id_of_child {self : Coordinator T} {forest : Forest T} {addr : Nat}
    {quorumProposal : T.QuorumProposalWrapper} {daProposal : DaProposal2 T}
    {checked now finished : Nat}
    (h : Transition.run Forest.step self.forest
      (Forest.newChildSteps 0 addr quorumProposal daProposal checked now finished) = some forest) :
    (forest.nodes self.forest.size).state.id = proposedId quorumProposal := by
  obtain ⟨-, -, -, hnode⟩ := Forest.run_newChildSteps h
  rw [hnode]
  rfl

theorem handled_of_spawnBuilderState {self self' : Coordinator T}
    {proposal : T.QuorumProposalWrapper ⊕ DaProposal2 T} {schedule : Schedule}
    {quorumProposal : T.QuorumProposalWrapper} {daProposal : DaProposal2 T}
    (hguard : self.proposalsGuard = .free)
    (hmatching : self.matching proposal = some (quorumProposal, daProposal))
    (h : spawnBuilderState { self with
      proposals := self.proposals.remove (.of proposal)
      proposalsGuard := .paired quorumProposal daProposal } schedule = some self') :
    Handled self proposal schedule self' := by
  simp only [spawnBuilderState, Option.bind_eq_bind, Option.bind_eq_some_iff] at h
  obtain ⟨self₁, hfind, h⟩ := h
  cases change_of_findParent hfind with
  | orphan _ _ _ quorumProposal' daProposal' hpaired hfind =>
    simp only [ProposalsGuard.paired.injEq] at hpaired
    obtain ⟨rfl, rfl⟩ := hpaired
    simp only [Option.pure_def, Option.some.injEq] at h
    rw [← h]
    have horphan : Handled self proposal schedule _ :=
      .orphan quorumProposal daProposal hmatching hfind
    rwa [← hguard]
  | extend _ _ _ quorumProposal' daProposal' parentState forest₁ hpaired hparent hforest₁ =>
    simp only [ProposalsGuard.paired.injEq] at hpaired
    obtain ⟨rfl, rfl⟩ := hpaired
    simp only [Option.bind_eq_some_iff] at h
    obtain ⟨self₂, hqueue, self₃, hreceiver, hinsert⟩ := h
    cases change_of_cloneQueue hqueue with
    | cloneQueue _ forest₂ _ hforest₂ =>
      cases change_of_cloneReceiver hreceiver with
      | cloneReceiver _ _ forest₃ _ hforest₃ =>
        cases change_of_insertChild hinsert with
        | insertChild child hbuilt =>
          have hsize : forest₂.size = self.forest.size := by
            obtain ⟨-, -, hforest₁⟩ := Forest.step_newChild_eq_some.mp hforest₁
            obtain ⟨_, _, -, -, hforest₂⟩ := Forest.step_cloneQueue_eq_some.mp hforest₂
            rw [hforest₂, hforest₁]
            rfl
          have hchild : child = (forest₃.nodes self.forest.size).state := by
            rw [← hsize]
            exact (ProposalsGuard.built.inj hbuilt).symm
          have hforest := Forest.run_newChildSteps_eq_some.mpr
            ⟨forest₁, forest₂, hforest₁, hforest₂, hforest₃⟩
          have := Handled.spawn quorumProposal daProposal parentState forest₃ hmatching hparent hforest
          rw [withChild, ← hchild] at this
          rwa [← hguard]

theorem handled_of_handleProposal {self self' : Coordinator T}
    {proposal : T.QuorumProposalWrapper ⊕ DaProposal2 T} {schedule : Schedule}
    (h : self.handleProposal proposal schedule = some self') :
    Handled self proposal schedule self' := by
  simp only [handleProposal, Option.bind_eq_bind, Option.bind_eq_some_iff] at h
  obtain ⟨self₁, hlock, h⟩ := h
  cases change_of_lockProposals hlock with
  | duplicate _ stored hguard hstored hkind =>
    simp only [hguard, Option.pure_def, Option.some.injEq] at h
    rw [← h]
    exact .duplicate stored hstored hkind
  | store _ hguard hnone =>
    simp only [hguard, Option.pure_def, Option.some.injEq] at h
    have hstore : Handled self proposal schedule _ := .store hnone
    rwa [hguard, h] at hstore
  | pair _ quorumProposal daProposal hguard hmatching =>
    exact handled_of_spawnBuilderState hguard hmatching h

def Call.delivery : Call T → Option ((T.QuorumProposalWrapper ⊕ DaProposal2 T) × Schedule)
  | .daProposal proposal schedule => some (.inr proposal, schedule)
  | .quorumProposal proposal schedule => some (.inl proposal, schedule)
  | _ => none

theorem perform_of_delivery {self : Coordinator T} {call : Call T}
    {proposal : T.QuorumProposalWrapper ⊕ DaProposal2 T} {schedule : Schedule}
    (h : call.delivery = some (proposal, schedule)) :
    self.perform call = self.handleProposal proposal schedule := by
  cases call with
  | daProposal => cases h; rfl
  | quorumProposal => cases h; rfl
  | _ => contradiction

inductive Performed (self : Coordinator T) : Call T → Coordinator T → Prop where
  | handle (call : Call T) (proposal : T.QuorumProposalWrapper ⊕ DaProposal2 T)
      (schedule : Schedule) (self' : Coordinator T) (hcall : call.delivery = some (proposal, schedule))
      (hhandled : Handled self proposal schedule self') : Performed self call self'
  | decide (latest : LeafInfo T) (rest : List (LeafInfo T)) :
      Performed self (.decide (latest :: rest)) { self with
        txStatus := self.txStatus.sequenceLeaves (latest :: rest)
        builderStates := self.builderStates.prune (self.cutoff latest.viewNumber) }
  | transaction (transaction : ReceivedTransaction T)
      (maybeEvicted : Except (TrySendError T) (Option (ReceivedTransaction T)))
      (sent : List (ReceivedTransaction T)) (txStatus : TxStatusCache T) :
      Performed self (.transaction transaction maybeEvicted)
        { self with forest := { self.forest with sent }, txStatus }
  | request (request : Request) (forest : Forest T)
      (hforest : self.forest.step request.action = some forest) :
      Performed self (.request request) { self with forest }

theorem performed_of_perform {self self' : Coordinator T} {call : Call T}
    (h : self.perform call = some self') : Performed self call self' := by
  cases call with
  | daProposal daProposal schedule =>
    exact .handle _ _ _ _ rfl (handled_of_handleProposal h)
  | quorumProposal quorumProposal schedule =>
    exact .handle _ _ _ _ rfl (handled_of_handleProposal h)
  | decide leafChain =>
    have hchange : Change self (.decide leafChain) self' := change_of_step h
    cases hchange with
    | decide latest rest => exact .decide latest rest
  | transaction transaction maybeEvicted =>
    have hchange : Change self (.transaction transaction maybeEvicted) self' := change_of_step h
    cases hchange with
    | transaction _ _ sent txStatus => exact .transaction _ _ sent txStatus
  | request request =>
    have hchange : Change self (.request request) self' := change_of_step h
    cases hchange with
    | request _ forest hforest => exact .request request forest hforest

theorem builderStates_of_perform {self self' : Coordinator T} {call : Call T}
    (h : self.perform call = some self') :
    (∃ latest rest, call = .decide (latest :: rest) ∧
      self'.builderStates = self.builderStates.prune (self.cutoff latest.viewNumber)) ∨
    (∀ leafChain, call ≠ .decide leafChain) ∧
      (self'.builderStates = self.builderStates ∨
        ∃ child, self'.builderStates = self.builderStates.insert child) := by
  cases performed_of_perform h with
  | handle _ proposal schedule _ hcall hhandled =>
    right
    constructor
    . rintro leafChain rfl
      contradiction
    . cases hhandled with
      | spawn => exact .inr ⟨_, rfl⟩
      | _ => exact .inl rfl
  | decide latest rest => exact .inl ⟨latest, rest, rfl, rfl⟩
  | transaction => exact .inr ⟨by simp, .inl rfl⟩
  | request => exact .inr ⟨by simp, .inl rfl⟩

def Action.proposal : Action T → Option (T.QuorumProposalWrapper ⊕ DaProposal2 T)
  | .lockProposals proposal => some proposal
  | _ => none

def Call.proposal (call : Call T) : Option (T.QuorumProposalWrapper ⊕ DaProposal2 T) :=
  call.delivery.map Prod.fst

theorem run_of_spawnBuilderState {self self' : Coordinator T} {schedule : Schedule}
    (h : self.spawnBuilderState schedule = some self') :
    ∃ actions, Transition.run step self actions = some self' ∧
      actions.filterMap Action.proposal = [] := by
  simp only [spawnBuilderState, Option.bind_eq_bind, Option.bind_eq_some_iff] at h
  obtain ⟨self₁, hfind, h⟩ := h
  split at h
  . simp only [Option.bind_eq_some_iff] at h
    obtain ⟨self₂, hqueue, self₃, hreceiver, hinsert⟩ := h
    refine ⟨[.findParent schedule.choice schedule.checked schedule.now, .cloneQueue,
      .cloneReceiver schedule.finished, .insertChild], ?_, rfl⟩
    simp [Transition.run_cons, step, hfind, hqueue, hreceiver, hinsert]
  . simp only [Option.pure_def, Option.some.injEq] at h
    refine ⟨[.findParent schedule.choice schedule.checked schedule.now], ?_, rfl⟩
    simp [Transition.run_cons, step, hfind, h]

theorem run_of_handleProposal {self self' : Coordinator T}
    {proposal : T.QuorumProposalWrapper ⊕ DaProposal2 T} {schedule : Schedule}
    (h : self.handleProposal proposal schedule = some self') :
    ∃ actions, Transition.run step self actions = some self' ∧
      actions.filterMap Action.proposal = [proposal] := by
  simp only [handleProposal, Option.bind_eq_bind, Option.bind_eq_some_iff] at h
  obtain ⟨self₁, hlock, h⟩ := h
  split at h
  . obtain ⟨actions, hrun, hproposals⟩ := run_of_spawnBuilderState h
    refine ⟨.lockProposals proposal :: actions, ?_, by simp [Action.proposal, hproposals]⟩
    rw [Transition.run_cons_eq_some]
    exact ⟨self₁, hlock, hrun⟩
  . simp only [Option.pure_def, Option.some.injEq] at h
    refine ⟨[.lockProposals proposal], ?_, rfl⟩
    simp [Transition.run_cons, step, hlock, h]

theorem run_of_perform {self self' : Coordinator T} {call : Call T}
    (h : self.perform call = some self') :
    ∃ actions, Transition.run step self actions = some self' ∧
      actions.filterMap Action.proposal = call.proposal.toList := by
  cases call with
  | daProposal daProposal schedule => exact run_of_handleProposal h
  | quorumProposal quorumProposal schedule => exact run_of_handleProposal h
  | decide leafChain => exact ⟨[.decide leafChain], (Transition.run_singleton ..).trans h, rfl⟩
  | transaction transaction maybeEvicted =>
    exact ⟨[.transaction transaction maybeEvicted], (Transition.run_singleton ..).trans h, rfl⟩
  | request request => exact ⟨[.request request], (Transition.run_singleton ..).trans h, rfl⟩

theorem run_of_performs {self self' : Coordinator T} {calls : List (Call T)}
    (h : Transition.run perform self calls = some self') :
    ∃ actions, Transition.run step self actions = some self' ∧
      actions.filterMap Action.proposal = calls.filterMap Call.proposal := by
  induction calls generalizing self with
  | nil => exact ⟨[], h, rfl⟩
  | cons call calls ih =>
    obtain ⟨self₁, hperform, h⟩ := Transition.run_cons_eq_some.mp h
    obtain ⟨actions, hrun, hproposals⟩ := run_of_perform hperform
    obtain ⟨actions', hrun', hproposals'⟩ := ih h
    refine ⟨actions ++ actions', Transition.run_append_eq_some.mpr ⟨self₁, hrun, hrun'⟩, ?_⟩
    rw [List.filterMap_append, hproposals, hproposals', List.filterMap_cons]
    cases call.proposal <;> rfl

end Coordinator

end BuilderCore
