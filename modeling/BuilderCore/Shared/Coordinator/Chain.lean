import BuilderCore.Shared.Coordinator.Deliveries
import BuilderCore.Shared.Coordinator.FindParents
import BuilderCore.Shared.Coordinator.StoredNodes

/-!
This module contains what the coordinator makes of a chain of blocks whose proposals arrive in any
order within a block, among duplicates and the proposals of other blocks.
-/

namespace BuilderCore

open Transition

variable {T : NodeType}

/--
What is assumed of the commitments of leaves.
-/
structure LeafCommitBinds (T : NodeType) : Prop where
  payloadCommitment_eq : ∀ {quorumProposal quorumProposal' : T.QuorumProposalWrapper},
    T.leafCommit quorumProposal = T.leafCommit quorumProposal' →
      T.payloadCommitment quorumProposal = T.payloadCommitment quorumProposal'
  ne_fakeCommitment : ∀ quorumProposal, T.leafCommit quorumProposal ≠ T.fakeCommitment

namespace ProposalPair

/--
One of the proposals of the chain, or one that shares no id with any of them.
-/
def Admits (chain : List (ProposalPair T))
    (proposal : T.QuorumProposalWrapper ⊕ DaProposal2 T) : Prop :=
  (∃ pair ∈ chain, proposal = .inl pair.quorumProposal ∨ proposal = .inr pair.daProposal) ∨
    ∀ pair ∈ chain, ProposalId.of proposal ≠ pair.id ∧
      ∀ quorumProposal, proposal = .inl quorumProposal → proposedId quorumProposal ≠ pair.stateId

theorem quorumProposal_eq_of_admits {chain : List (ProposalPair T)}
    (hchain : chain.IsChain Extends) {pair : ProposalPair T} (hpair : pair ∈ chain)
    {quorumProposal : T.QuorumProposalWrapper} (h : Admits chain (.inl quorumProposal))
    (hid : proposedId quorumProposal = pair.stateId) : quorumProposal = pair.quorumProposal := by
  rcases h with ⟨pair', hpair', heq | heq⟩ | hforeign
  . rw [Sum.inl.injEq] at heq
    subst heq
    have hview := congrArg BuilderStateId.parentView hid
    rw [eq_of_viewNumber_eq hchain hpair' hpair hview]
  . contradiction
  . exact absurd hid ((hforeign pair hpair).2 quorumProposal rfl)

theorem daProposal_eq_of_admits {chain : List (ProposalPair T)} (hchain : chain.IsChain Extends)
    {pair : ProposalPair T} (hpair : pair ∈ chain) {daProposal : DaProposal2 T}
    (h : Admits chain (.inr daProposal)) (hid : ProposalId.fromDaProposal daProposal = pair.id) :
    daProposal = pair.daProposal := by
  rcases h with ⟨pair', hpair', heq | heq⟩ | hforeign
  . contradiction
  . rw [Sum.inr.injEq] at heq
    subst heq
    rw [← pair'.id_eq] at hid
    have hview := congrArg ProposalId.viewNumber hid
    rw [eq_of_viewNumber_eq hchain hpair' hpair hview]
  . exact absurd hid (hforeign pair hpair).1

end ProposalPair

namespace Coordinator

open ProposalPair

def Completes (self : Coordinator T) (pair : ProposalPair T) (call : Call T) : Prop :=
  ∃ proposal, call.proposal = some proposal ∧
    self.matching proposal = some (pair.quorumProposal, pair.daProposal)

/--
In the run `calls` the pair is completed for the first time by `call`, in the state `between`.
-/
structure FirstCompletes (coordinator : Coordinator T) (calls : List (Call T))
    (pair : ProposalPair T) (before : List (Call T)) (call : Call T) (between : Coordinator T) :
    Prop where
  isPrefixOf : before ++ [call] <+: calls
  run_eq : run perform coordinator before = some between
  completes : between.Completes pair call
  first : Along perform (fun self call => ¬ self.Completes pair call) coordinator before

def PrunesStored (self : Coordinator T) (id : BuilderStateId T) (call : Call T) : Prop :=
  ∃ latest rest, call = .decide (latest :: rest) ∧ (∃ state, self.builderStates.get id = some state) ∧
    id.parentView < self.cutoff latest.viewNumber

/--
The state of the first block is stored, and none of the blocks after it.
-/
structure Starts (coordinator : Coordinator T) (chain : List (ProposalPair T)) : Prop where
  first : ∀ pair, chain[0]? = some pair → ∃ state,
    coordinator.builderStates.get pair.stateId = some state ∧
      RefersTo pair.quorumProposal state.parentBlockReferences
  fresh : ∀ i next, chain[i + 1]? = some next → coordinator.builderStates.get next.stateId = none

/--
The deliveries of a chain: each pair is completed for the first time after that of the block before,
and until then the state of the block before is not pruned.
-/
structure Delivers (coordinator : Coordinator T) (chain : List (ProposalPair T))
    (calls : List (Call T)) : Prop where
  admits : ∀ call ∈ calls, ∀ proposal, call.proposal = some proposal → Admits chain proposal
  completed : ∀ i pair next before call between, chain[i + 1]? = some pair →
    chain[i + 2]? = some next → FirstCompletes coordinator calls next before call between →
      ∃ earlier call' state, FirstCompletes coordinator before pair earlier call' state
  kept : ∀ i pair next before call between, chain[i]? = some pair → chain[i + 1]? = some next →
    FirstCompletes coordinator calls next before call between →
      Along perform (fun self call => ¬ self.PrunesStored pair.stateId call) coordinator before

/--
The call stores for the pair what `new_child` makes of the parent.
-/
def Spawns (self : Coordinator T) (parent : BuilderState T) (pair : ProposalPair T)
    (self' : Coordinator T) : Prop :=
  self.forest.IsNode parent ∧
    (∃ checked now finished, run Forest.step self.forest (Forest.newChildSteps 0 parent.addr
      pair.quorumProposal pair.daProposal checked now finished) = some self'.forest) ∧
    self'.builderStates.get pair.stateId = some (self'.forest.nodes self.forest.size).state

theorem stored_perform {self self' : Coordinator T} {call : Call T} {id : BuilderStateId T}
    {state : BuilderState T} (h : self.perform call = some self')
    (hget : self.builderStates.get id = some state) (hkept : ¬ self.PrunesStored id call) :
    self'.builderStates.get id = some state := by
  cases performed_of_perform h with
  | handle _ proposal schedule _ hcall hhandled =>
    cases hhandled with
    | spawn quorumProposal daProposal parentState forest hmatching hparent hforest =>
      have hnone := get_eq_none_of_mem_find hparent
      rw [withChild, BuilderStateMap.get_insert, id_of_child hforest, if_neg]
      . exact hget
      . rintro rfl
        rw [hnone] at hget
        contradiction
    | _ => exact hget
  | decide latest rest =>
    rw [BuilderStateMap.get_prune, if_pos]
    . exact hget
    . apply Nat.le_of_not_lt
      intro hlt
      exact hkept ⟨latest, rest, rfl, ⟨state, hget⟩, hlt⟩
  | _ => exact hget

theorem run_stored {self self' : Coordinator T} {calls : List (Call T)} {id : BuilderStateId T}
    {state : BuilderState T} (h : run perform self calls = some self')
    (hget : self.builderStates.get id = some state)
    (hkept : Along perform (fun self call => ¬ self.PrunesStored id call) self calls) :
    self'.builderStates.get id = some state := by
  apply run_invariant_along (P := fun self => self.builderStates.get id = some state) _ hget hkept h
  intro self call self' hget hkept hperform
  exact stored_perform hperform hget hkept

section

variable {chain : List (ProposalPair T)}

/--
What still waits for its other half is one of the proposals of the chain, or shares no id with any of
them. Otherwise it would be paired with a proposal of the chain.
-/
def PendingAdmits (self : Coordinator T) (chain : List (ProposalPair T)) : Prop :=
  ∀ id proposal, self.proposals.get? id = some proposal → Admits chain proposal

theorem pendingAdmits_perform {self self' : Coordinator T} {call : Call T}
    (h : self.PendingAdmits chain)
    (hcall : ∀ proposal, call.proposal = some proposal → Admits chain proposal)
    (hperform : self.perform call = some self') : self'.PendingAdmits chain := by
  have hremove : ∀ id, ∀ id' proposal,
      (self.proposals.remove id).get? id' = some proposal → Admits chain proposal := by
    intro id id' proposal hget
    rw [ProposalMap.get?_remove] at hget
    split at hget
    . contradiction
    . exact h id' proposal hget
  cases performed_of_perform hperform with
  | handle _ proposal schedule _ hdelivery hhandled =>
    cases hhandled with
    | duplicate => exact h
    | store hnone =>
      intro id proposal' hget
      rw [ProposalMap.get?_insert] at hget
      split at hget
      . rw [Option.some.injEq] at hget
        rw [← hget]
        exact hcall proposal (by rw [Call.proposal, hdelivery]; rfl)
      . exact h id proposal' hget
    | orphan => exact hremove _
    | spawn => exact hremove _
  | _ => exact h

theorem admits_of_matching {self : Coordinator T}
    {proposal : T.QuorumProposalWrapper ⊕ DaProposal2 T}
    {quorumProposal : T.QuorumProposalWrapper} {daProposal : DaProposal2 T}
    (h : self.PendingAdmits chain) (hproposal : Admits chain proposal)
    (hmatching : self.matching proposal = some (quorumProposal, daProposal)) :
    Admits chain (.inl quorumProposal) ∧ Admits chain (.inr daProposal) := by
  rcases matching_eq_some.mp hmatching with ⟨rfl, hget⟩ | ⟨rfl, hget⟩
  . exact ⟨hproposal, h _ _ hget⟩
  . exact ⟨h _ _ hget, hproposal⟩

theorem matching_eq_pair {self : Coordinator T} {pair : ProposalPair T}
    {proposal : T.QuorumProposalWrapper ⊕ DaProposal2 T}
    {quorumProposal : T.QuorumProposalWrapper} {daProposal : DaProposal2 T}
    (hchain : chain.IsChain Extends) (hpair : pair ∈ chain) (h : self.PendingAdmits chain)
    (hproposal : Admits chain proposal)
    (hmatching : self.matching proposal = some (quorumProposal, daProposal))
    (hid : proposedId quorumProposal = pair.stateId) :
    quorumProposal = pair.quorumProposal ∧ daProposal = pair.daProposal := by
  -- only the pair itself makes the coordinator store a state under the id of a block of the chain
  obtain ⟨hquorum, hda⟩ := admits_of_matching h hproposal hmatching
  have hquorumProposal := quorumProposal_eq_of_admits hchain hpair hquorum hid
  refine ⟨hquorumProposal, ?_⟩
  apply daProposal_eq_of_admits hchain hpair hda
  obtain ⟨hidQuorum, hidDa⟩ := id_eq_of_matching hmatching
  rw [← hidDa, hidQuorum, hquorumProposal]
  rfl

theorem fresh_perform {self self' : Coordinator T} {call : Call T} {pair : ProposalPair T}
    (hchain : chain.IsChain Extends) (hpair : pair ∈ chain) (h : self.PendingAdmits chain)
    (hcall : ∀ proposal, call.proposal = some proposal → Admits chain proposal)
    (hfresh : self.builderStates.get pair.stateId = none) (hnot : ¬ self.Completes pair call)
    (hperform : self.perform call = some self') :
    self'.builderStates.get pair.stateId = none := by
  cases performed_of_perform hperform with
  | handle _ proposal schedule _ hdelivery hhandled =>
    have hproposal : call.proposal = some proposal := by rw [Call.proposal, hdelivery]; rfl
    cases hhandled with
    | spawn quorumProposal daProposal parentState forest hmatching hparent hforest =>
      rw [withChild, BuilderStateMap.get_insert, id_of_child hforest, if_neg]
      . exact hfresh
      . intro hid
        obtain ⟨rfl, rfl⟩ :=
          matching_eq_pair hchain hpair h (hcall proposal hproposal) hmatching hid.symm
        exact hnot ⟨proposal, hproposal, hmatching⟩
    | _ => exact hfresh
  | decide latest rest => exact get_prune_eq_none hfresh _
  | _ => exact hfresh

theorem run_fresh {self self' : Coordinator T} {calls : List (Call T)} {pair : ProposalPair T}
    (hchain : chain.IsChain Extends) (hpair : pair ∈ chain) (h : self.PendingAdmits chain)
    (hcalls : ∀ call ∈ calls, ∀ proposal, call.proposal = some proposal → Admits chain proposal)
    (hfresh : self.builderStates.get pair.stateId = none)
    (hfirst : Along perform (fun self call => ¬ self.Completes pair call) self calls)
    (hrun : run perform self calls = some self') :
    self'.builderStates.get pair.stateId = none := by
  have hboth : self'.PendingAdmits chain ∧ self'.builderStates.get pair.stateId = none := by
    have hadmits : Along perform (fun _ call => ∀ proposal, call.proposal = some proposal →
        Admits chain proposal) self calls := along_of_forall fun call hcall _ => hcalls call hcall
    apply run_invariant_along (P := fun self => self.PendingAdmits chain ∧
      self.builderStates.get pair.stateId = none) _ ⟨h, hfresh⟩ (hadmits.and hfirst) hrun
    rintro self call self' ⟨h, hfresh⟩ ⟨hadmits, hnot⟩ hperform
    exact ⟨pendingAdmits_perform h hadmits hperform,
      fresh_perform hchain hpair h hadmits hfresh hnot hperform⟩
  exact hboth.2

theorem id_eq_of_isIdealParent (hT : LeafCommitBinds T) {pair next : ProposalPair T}
    (hextends : pair.Extends next) {refs : ParentBlockReferences T} (hknown : IsKnown refs)
    (hideal : IsIdealParent next.quorumProposal refs) : refs.id = pair.stateId := by
  obtain ⟨hview, hleaf⟩ := (isIdealParent_iff_of_extends hextends).mp hideal
  rcases hknown with rfl | ⟨quorumProposal, hid, hleafCommit⟩
  . exact absurd hleaf.symm (hT.ne_fakeCommitment _)
  . have hpayload := hT.payloadCommitment_eq (hleafCommit.symm.trans hleaf)
    have hviewNumber : refs.viewNumber = T.viewNumber quorumProposal :=
      congrArg BuilderStateId.parentView hid
    rw [hid, stateId, proposedId, proposedId, hpayload, ← hviewNumber, hview]
    rfl

theorem mem_find_of_extends {period : Nat} {self : Coordinator T} (hT : LeafCommitBinds T)
    (h : Reachable step (IsNew period) self) {pair next : ProposalPair T}
    (hextends : pair.Extends next) {parent : BuilderState T}
    (hparent : self.builderStates.get pair.stateId = some parent)
    (hrefs : RefersTo pair.quorumProposal parent.parentBlockReferences)
    (hfresh : self.builderStates.get next.stateId = none) (state : BuilderState T) :
    state ∈ self.builderStates.findBuilderStatesToExtend next.quorumProposal ↔ state = parent := by
  obtain ⟨hstored, hid⟩ := BuilderStateMap.get_eq_some.mp hparent
  have hideal : IsIdealParent next.quorumProposal parent.parentBlockReferences := by
    rw [isIdealParent_iff_of_extends hextends]
    exact ⟨congrArg BuilderStateId.parentView hrefs.1, hrefs.2⟩
  have hnew : ¬ (self.builderStates.get next.stateId).isSome = true :=
    Option.not_isSome_iff_eq_none.mpr hfresh
  rw [BuilderStateMap.isSome_get_iff] at hnew
  rw [BuilderStateMap.mem_find_of_ideal hnew ⟨parent, hstored, hideal⟩]
  constructor
  . rintro ⟨hstate, hstateIdeal⟩
    apply BuilderStateMap.eq_of_id_eq hstate hstored
    rw [hid]
    exact id_eq_of_isIdealParent hT hextends (isKnown_of_stored h hstate) hstateIdeal
  . rintro rfl
    exact ⟨hstored, hideal⟩

theorem spawns_of_completes {period : Nat} {self self' : Coordinator T} (hT : LeafCommitBinds T)
    (h : Reachable step (IsNew period) self) {pair next : ProposalPair T}
    (hextends : pair.Extends next) {parent : BuilderState T}
    (hparent : self.builderStates.get pair.stateId = some parent)
    (hrefs : RefersTo pair.quorumProposal parent.parentBlockReferences)
    (hfresh : self.builderStates.get next.stateId = none) {call : Call T}
    (hcompletes : self.Completes next call) (hperform : self.perform call = some self') :
    self.Spawns parent next self' := by
  have hfind := mem_find_of_extends hT h hextends hparent hrefs hfresh
  obtain ⟨proposal, hproposal, hmatching⟩ := hcompletes
  cases performed_of_perform hperform with
  | handle _ proposal' schedule _ hdelivery hhandled =>
    simp only [Call.proposal, hdelivery, Option.map_some, Option.some.injEq] at hproposal
    subst hproposal
    cases hhandled with
    | duplicate stored hstored hkind =>
      rw [matching_eq_none_of_duplicate hstored hkind] at hmatching
      contradiction
    | store hnone =>
      rw [matching_eq_none_of_new hnone] at hmatching
      contradiction
    | orphan quorumProposal daProposal hmatching' hnone =>
      rw [hmatching, Option.some.injEq, Prod.mk.injEq] at hmatching'
      obtain ⟨rfl, rfl⟩ := hmatching'
      have := (hfind parent).mpr rfl
      rw [hnone] at this
      contradiction
    | spawn quorumProposal daProposal parentState forest hmatching' hparentState hforest =>
      rw [hmatching, Option.some.injEq, Prod.mk.injEq] at hmatching'
      obtain ⟨rfl, rfl⟩ := hmatching'
      have := (hfind parentState).mp hparentState
      subst this
      refine ⟨?_, ⟨_, _, _, hforest⟩, ?_⟩
      . exact (storesNodes h).stored _ (BuilderStateMap.get_eq_some.mp hparent).1
      . have hid := id_of_child hforest
        rw [withChild, BuilderStateMap.get_insert, if_pos]
        exact hid.symm
  | _ => contradiction

theorem Spawns.refersTo {self self' : Coordinator T} {parent : BuilderState T}
    {pair : ProposalPair T} (h : self.Spawns parent pair self') :
    ∃ state, self'.builderStates.get pair.stateId = some state ∧
      RefersTo pair.quorumProposal state.parentBlockReferences := by
  obtain ⟨-, ⟨checked, now, finished, hrun⟩, hget⟩ := h
  refine ⟨_, hget, id_of_child hrun, ?_⟩
  obtain ⟨-, -, -, hnode⟩ := Forest.run_newChildSteps hrun
  rw [hnode]
  rfl

theorem FirstCompletes.trans {self between state : Coordinator T} {calls before earlier : List (Call T)}
    {pair next : ProposalPair T} {call call' : Call T}
    (hnext : FirstCompletes self calls next before call between)
    (hpair : FirstCompletes self before pair earlier call' state) :
    FirstCompletes self calls pair earlier call' state where
  isPrefixOf := hpair.isPrefixOf.trans ((List.prefix_append _ _).trans hnext.isPrefixOf)
  run_eq := hpair.run_eq
  completes := hpair.completes
  first := hpair.first

theorem Delivers.admits_before {self between : Coordinator T} {calls before : List (Call T)}
    {pair : ProposalPair T} {call : Call T} (h : Delivers self chain calls)
    (hpair : FirstCompletes self calls pair before call between) :
    ∀ call ∈ before, ∀ proposal, call.proposal = some proposal → Admits chain proposal := by
  intro call' hcall'
  apply h.admits call'
  exact hpair.isPrefixOf.subset (List.mem_append_left _ hcall')

theorem fresh_of_firstCompletes {self between : Coordinator T} {calls before : List (Call T)}
    {next : ProposalPair T} {call : Call T} {i : Nat} (hchain : chain.IsChain Extends)
    (hstart : Starts self chain) (hpending : self.PendingAdmits chain)
    (hcalls : Delivers self chain calls) (hnext : chain[i + 1]? = some next)
    (hfirst : FirstCompletes self calls next before call between) :
    between.builderStates.get next.stateId = none :=
  run_fresh hchain (List.mem_of_getElem? hnext) hpending (hcalls.admits_before hfirst)
    (hstart.fresh i next hnext) hfirst.first hfirst.run_eq

theorem stored_of_firstCompletes {period : Nat} {self : Coordinator T} (hT : LeafCommitBinds T)
    (h : Reachable step (IsNew period) self) (hchain : chain.IsChain Extends)
    (hstart : Starts self chain) (hpending : self.PendingAdmits chain) {i : Nat}
    {pair next : ProposalPair T} {calls before : List (Call T)} {call : Call T}
    {between : Coordinator T} (hcalls : Delivers self chain calls) (hpair : chain[i]? = some pair)
    (hnext : chain[i + 1]? = some next)
    (hfirst : FirstCompletes self calls next before call between) :
    ∃ parent, between.builderStates.get pair.stateId = some parent ∧
      RefersTo pair.quorumProposal parent.parentBlockReferences := by
  -- the block before got its state when its own pair was completed, so the induction is on the
  -- index
  induction i generalizing pair next before call between with
  | zero =>
    obtain ⟨parent, hget, hrefs⟩ := hstart.first pair hpair
    exact ⟨parent, run_stored hfirst.run_eq hget (hcalls.kept 0 _ _ _ _ _ hpair hnext hfirst), hrefs⟩
  | succ i ih =>
    have hkept := hcalls.kept (i + 1) _ _ _ _ _ hpair hnext hfirst
    obtain ⟨earlier, call', state, hearlier⟩ :=
      hcalls.completed i _ _ _ _ _ hpair hnext hfirst
    have hpairFirst := hfirst.trans hearlier
    have hlt := (List.getElem?_eq_some_iff.mp hpair).1
    obtain ⟨grandparent, hgrandparent⟩ : ∃ grandparent, chain[i]? = some grandparent :=
      ⟨_, List.getElem?_eq_getElem (by omega)⟩
    obtain ⟨grandparentState, hget, hrefs⟩ := ih hgrandparent hpair hpairFirst
    -- the run goes on after the pair of the block before was completed
    obtain ⟨later, hbefore⟩ := hearlier.isPrefixOf
    have hrun := hfirst.run_eq
    rw [← hbefore, run_append_eq_some] at hrun
    obtain ⟨state', hstate', hrun⟩ := hrun
    have hperform : state.perform call' = some state' := by
      rw [run_concat_eq_some] at hstate'
      obtain ⟨state₁, hstate₁, hperform⟩ := hstate'
      rw [hearlier.run_eq, Option.some.injEq] at hstate₁
      rwa [hstate₁]
    have hreachable : Reachable step (IsNew period) state := by
      obtain ⟨actions, hactions, -⟩ := run_of_performs hearlier.run_eq
      exact reachable_run h hactions
    have hextends := extends_of_getElem? hchain hgrandparent hpair
    have hfresh := fresh_of_firstCompletes hchain hstart hpending hcalls hpair hpairFirst
    have hspawns := spawns_of_completes hT hreachable hextends hget hrefs hfresh hearlier.completes
      hperform
    obtain ⟨parent, hparent, hparentRefs⟩ := hspawns.refersTo
    refine ⟨parent, run_stored hrun hparent ?_, hparentRefs⟩
    rw [← hbefore] at hkept
    exact hkept.of_append hstate'

/--
Whatever the order inside the blocks and whatever else arrives: the first delivery that completes the
pair of a block spawns its state from that of the block before, as long as no proposal of another block
was pending under the id of one of them at the start. And nothing stays pending of an id both of whose
proposals were delivered, each once.
-/
theorem chain_tracked (hT : LeafCommitBinds T) {period now : Nat} {history : List (Action T)}
    {self : Coordinator T} (hself : run step (new period now) history = some self)
    (hchain : chain.IsChain Extends) (hstart : Starts self chain)
    (hpending : self.PendingAdmits chain) {calls : List (Call T)}
    (hcalls : Delivers self chain calls) :
    (∀ i pair next before call between, chain[i]? = some pair → chain[i + 1]? = some next →
      FirstCompletes self calls next before call between →
        ∃ parent, between.builderStates.get pair.stateId = some parent ∧
          (∀ self', between.perform call = some self' → between.Spawns parent next self') ∧
          ∀ proposal schedule, call.delivery = some (proposal, schedule) →
            between.Ready parent schedule → ∃ self', between.perform call = some self') ∧
    ∀ before between id, before <+: calls → run perform self before = some between →
      (∀ isLeft, deliveries (history.filterMap Action.proposal ++ before.filterMap Call.proposal) id
        isLeft = 1) →
      between.proposals.get? id = none := by
  have hreachable : Reachable step (IsNew period) self := ⟨_, history, ⟨now, rfl⟩, hself⟩
  constructor
  . intro i pair next before call between hpair hnext hfirst
    obtain ⟨parent, hget, hrefs⟩ :=
      stored_of_firstCompletes hT hreachable hchain hstart hpending hcalls hpair hnext hfirst
    have hbetween : Reachable step (IsNew period) between := by
      obtain ⟨actions, hactions, -⟩ := run_of_performs hfirst.run_eq
      exact reachable_run hreachable hactions
    have hextends := extends_of_getElem? hchain hpair hnext
    have hfresh := fresh_of_firstCompletes hchain hstart hpending hcalls hnext hfirst
    refine ⟨parent, hget, ?_, ?_⟩
    . intro self' hperform
      exact spawns_of_completes hT hbetween hextends hget hrefs hfresh hfirst.completes hperform
    . intro proposal schedule hdelivery hready
      obtain ⟨proposal', hproposal', hmatching⟩ := hfirst.completes
      simp only [Call.proposal, hdelivery, Option.map_some, Option.some.injEq] at hproposal'
      subst hproposal'
      have hfind := mem_find_of_extends hT hbetween hextends hget hrefs hfresh
      rw [perform_of_delivery hdelivery]
      apply exists_handleProposal (storesNodes hbetween) hready.guard hmatching
      intro state hstate
      rw [(hfind state).mp hstate]
      exact hready
  . intro before between id _ hrun hdeliveries
    obtain ⟨actions, hactions, hproposals⟩ := run_of_performs hrun
    have hall := run_append_eq_some.mpr ⟨self, hself, hactions⟩
    rw [← hproposals, ← List.filterMap_append] at hdeliveries
    have hkind := pendingKind_eq hall id (Nat.le_of_eq (hdeliveries true))
      (Nat.le_of_eq (hdeliveries false))
    rw [hdeliveries, hdeliveries, if_pos rfl] at hkind
    exact Option.map_eq_none_iff.mp hkind

end

theorem leafCommitBinds_testTypes : LeafCommitBinds TestTypes where
  payloadCommitment_eq := by
    intro quorumProposal quorumProposal' h
    exact (List.cons.inj (List.cons.inj h).2).1
  ne_fakeCommitment := fun _ => List.cons_ne_nil _ _

def testHistory : List (Action TestTypes) := [
  .lockProposals (.inl testPair₁.quorumProposal),
  .lockProposals (.inr testPair₁.daProposal),
  .findParent 0 1 1,
  .cloneQueue,
  .cloneReceiver 1,
  .insertChild]

/--
A DA proposal that is early and comes twice.
-/
def testDeliveries : List (Call TestTypes) := [
  .daProposal testPair₃.daProposal ⟨0, 2, 2, 2⟩,
  .quorumProposal testPair₂.quorumProposal ⟨0, 2, 2, 2⟩,
  .daProposal testPair₃.daProposal ⟨0, 2, 2, 2⟩,
  .daProposal testPair₂.daProposal ⟨0, 2, 2, 2⟩,
  .quorumProposal testPair₃.quorumProposal ⟨0, 3, 3, 3⟩]

def testStart : Coordinator TestTypes := (run step (new 5 0) testHistory).get rfl

theorem starts_testStart : Starts testStart [testPair₁, testPair₂, testPair₃] where
  first := by
    intro pair hpair
    simp only [List.getElem?_cons_zero, Option.some.injEq] at hpair
    subst hpair
    exact ⟨_, rfl, rfl, rfl⟩
  fresh := by
    intro i next hnext
    match i with
    | 0 =>
      simp only [List.getElem?_cons_succ, List.getElem?_cons_zero, Option.some.injEq] at hnext
      subst hnext
      rfl
    | 1 =>
      simp only [List.getElem?_cons_succ, List.getElem?_cons_zero, Option.some.injEq] at hnext
      subst hnext
      rfl
    | i + 2 => simp at hnext

theorem pendingAdmits_testStart : testStart.PendingAdmits [testPair₁, testPair₂, testPair₃] := by
  intro id proposal hget
  have hnone : testStart.proposals.get? id = none := rfl
  rw [hnone] at hget
  contradiction

theorem not_completes_of_matching {start between : Coordinator TestTypes}
    {calls : List (Call TestTypes)} {call : Call TestTypes}
    {proposal : TestTypes.QuorumProposalWrapper ⊕ DaProposal2 TestTypes}
    {pair : ProposalPair TestTypes}
    {matched : Option (TestTypes.QuorumProposalWrapper × DaProposal2 TestTypes)}
    (hproposal : call.proposal = some proposal) (hrun : run perform start calls = some between)
    (hmatching : (run perform start calls).map (matching · proposal) = some matched)
    (hne : matched.map (TestTypes.leafCommit ·.1) ≠ some (TestTypes.leafCommit pair.quorumProposal)) :
    ¬ between.Completes pair call := by
  rintro ⟨proposal', hproposal', hmatching'⟩
  rw [hproposal, Option.some.injEq] at hproposal'
  subst hproposal'
  rw [hrun, Option.map_some, hmatching', Option.some.injEq] at hmatching
  subst hmatching
  exact hne rfl

theorem eq_of_firstCompletes_testPair₃ {before : List (Call TestTypes)} {call : Call TestTypes}
    {between : Coordinator TestTypes}
    (h : FirstCompletes testStart testDeliveries testPair₃ before call between) :
    before = testDeliveries.take 4 := by
  obtain ⟨after, hsplit⟩ := h.isPrefixOf
  have hrun := h.run_eq
  have hcompletes := h.completes
  rcases before with _ | ⟨call₀, _ | ⟨call₁, _ | ⟨call₂, _ | ⟨call₃, before⟩⟩⟩⟩ <;>
    simp only [testDeliveries, List.cons_append, List.nil_append, List.cons.injEq] at hsplit
  . obtain ⟨rfl, -⟩ := hsplit
    exact absurd hcompletes (not_completes_of_matching rfl hrun rfl (by decide))
  . obtain ⟨rfl, rfl, -⟩ := hsplit
    exact absurd hcompletes (not_completes_of_matching rfl hrun rfl (by decide))
  . obtain ⟨rfl, rfl, rfl, -⟩ := hsplit
    exact absurd hcompletes (not_completes_of_matching rfl hrun rfl (by decide))
  . obtain ⟨rfl, rfl, rfl, rfl, -⟩ := hsplit
    exact absurd hcompletes (not_completes_of_matching rfl hrun rfl (by decide))
  . obtain ⟨rfl, rfl, rfl, rfl, hsplit⟩ := hsplit
    cases before with
    | nil => rfl
    | cons call before => simp at hsplit

theorem firstCompletes_testPair₂ : ∃ between, FirstCompletes testStart (testDeliveries.take 4)
    testPair₂ (testDeliveries.take 3) testDeliveries[3] between := by
  refine ⟨_, List.prefix_refl _, rfl, ⟨_, rfl, rfl⟩, ?_⟩
  intro self₁ hself₁
  refine ⟨not_completes_of_matching rfl (run_nil _) rfl (by decide), ?_⟩
  intro self₂ hself₂
  have hrun₁ := (run_singleton testStart _).trans hself₁
  refine ⟨not_completes_of_matching rfl hrun₁ rfl (by decide), ?_⟩
  intro self₃ _
  have hrun₂ := run_cons_eq_some.mpr ⟨self₁, hself₁, (run_singleton self₁ _).trans hself₂⟩
  exact ⟨not_completes_of_matching rfl hrun₂ rfl (by decide), trivial⟩

theorem firstCompletes_testPair₃ : ∃ between, FirstCompletes testStart testDeliveries testPair₃
    (testDeliveries.take 4) testDeliveries[4] between := by
  refine ⟨_, List.prefix_refl _, rfl, ⟨_, rfl, rfl⟩, ?_⟩
  intro self₁ hself₁
  refine ⟨not_completes_of_matching rfl (run_nil _) rfl (by decide), ?_⟩
  intro self₂ hself₂
  have hrun₁ := (run_singleton testStart _).trans hself₁
  refine ⟨not_completes_of_matching rfl hrun₁ rfl (by decide), ?_⟩
  intro self₃ hself₃
  have hrun₂ := run_cons_eq_some.mpr ⟨self₁, hself₁, (run_singleton self₁ _).trans hself₂⟩
  refine ⟨not_completes_of_matching rfl hrun₂ rfl (by decide), ?_⟩
  intro self₄ _
  have hrun₃ := run_append_eq_some.mpr ⟨self₂, hrun₂, (run_singleton self₂ _).trans hself₃⟩
  exact ⟨not_completes_of_matching rfl hrun₃ rfl (by decide), trivial⟩

theorem delivers_testDeliveries :
    Delivers testStart [testPair₁, testPair₂, testPair₃] testDeliveries where
  admits := by
    intro call hcall proposal hproposal
    left
    simp only [testDeliveries, List.mem_cons, List.not_mem_nil, or_false] at hcall
    rcases hcall with rfl | rfl | rfl | rfl | rfl
    . exact ⟨testPair₃, by simp, .inr (Option.some.inj hproposal).symm⟩
    . exact ⟨testPair₂, by simp, .inl (Option.some.inj hproposal).symm⟩
    . exact ⟨testPair₃, by simp, .inr (Option.some.inj hproposal).symm⟩
    . exact ⟨testPair₂, by simp, .inr (Option.some.inj hproposal).symm⟩
    . exact ⟨testPair₃, by simp, .inl (Option.some.inj hproposal).symm⟩
  completed := by
    intro i pair next before call between hpair hnext hfirst
    match i with
    | 0 =>
      simp only [List.getElem?_cons_succ, List.getElem?_cons_zero, Option.some.injEq] at hpair hnext
      subst hpair hnext
      rw [eq_of_firstCompletes_testPair₃ hfirst]
      exact ⟨_, _, firstCompletes_testPair₂⟩
    | i + 1 => simp at hnext
  kept := by
    intro i pair next before call between _ _ hfirst
    apply along_of_forall
    rintro call hcall self ⟨latest, rest, rfl, -⟩
    have hmem := hfirst.isPrefixOf.subset (List.mem_append_left _ hcall)
    simp [testDeliveries] at hmem

theorem chain_tracked_testDeliveries :
    ∃ between self' parent, run perform testStart (testDeliveries.take 4) = some between ∧
      between.perform testDeliveries[4] = some self' ∧
      between.builderStates.get testPair₂.stateId = some parent ∧
      between.Spawns parent testPair₃ self' ∧ between.proposals.get? testPair₂.id = none := by
  have hself : run step (new 5 0) testHistory = some testStart := rfl
  have hchain : [testPair₁, testPair₂, testPair₃].IsChain Extends :=
    .cons_cons ⟨by decide, rfl⟩ (.cons_cons ⟨by decide, rfl⟩ (.singleton _))
  obtain ⟨hspawns, hpending⟩ := chain_tracked leafCommitBinds_testTypes hself hchain
    starts_testStart pendingAdmits_testStart delivers_testDeliveries
  obtain ⟨between, hfirst⟩ := firstCompletes_testPair₃
  obtain ⟨parent, hget, hspawn, -⟩ := hspawns 1 _ _ _ _ between rfl rfl hfirst
  have hrun : ∃ self', run perform testStart (testDeliveries.take 4 ++ [testDeliveries[4]]) =
      some self' := ⟨_, rfl⟩
  obtain ⟨self', hrun⟩ := hrun
  obtain ⟨between', hbetween', hperform⟩ := run_concat_eq_some.mp hrun
  rw [hfirst.run_eq, Option.some.injEq] at hbetween'
  subst hbetween'
  refine ⟨between, self', parent, hfirst.run_eq, hperform, hget, hspawn self' hperform, ?_⟩
  apply hpending _ between testPair₂.id (List.take_prefix 4 _) hfirst.run_eq
  intro isLeft
  cases isLeft <;> decide

/--
The block of `testPair₂` on another parent.
-/
def testForeign : TestTypes.QuorumProposalWrapper := TestTypes.quorumProposal 2 2 [2] ⟨0, []⟩

def testForeignHistory : List (Action TestTypes) := testHistory ++ [.lockProposals (.inl testForeign)]

def testForeignStart : Coordinator TestTypes := (run step (new 5 0) testForeignHistory).get rfl

/--
The first delivery is paired with `testForeign`, and the last one comes too late.
-/
def testForeignDeliveries : List (Call TestTypes) := [
  .daProposal testPair₂.daProposal ⟨0, 2, 2, 2⟩,
  .quorumProposal testPair₂.quorumProposal ⟨0, 2, 2, 2⟩,
  .daProposal testPair₂.daProposal ⟨0, 3, 3, 3⟩]

theorem starts_testForeignStart : Starts testForeignStart [testPair₁, testPair₂] where
  first := by
    intro pair hpair
    simp only [List.getElem?_cons_zero, Option.some.injEq] at hpair
    subst hpair
    exact ⟨_, rfl, rfl, rfl⟩
  fresh := by
    intro i next hnext
    match i with
    | 0 =>
      simp only [List.getElem?_cons_succ, List.getElem?_cons_zero, Option.some.injEq] at hnext
      subst hnext
      rfl
    | i + 1 => simp at hnext

theorem delivers_testForeignDeliveries :
    Delivers testForeignStart [testPair₁, testPair₂] testForeignDeliveries where
  admits := by
    intro call hcall proposal hproposal
    left
    simp only [testForeignDeliveries, List.mem_cons, List.not_mem_nil, or_false] at hcall
    rcases hcall with rfl | rfl | rfl
    . exact ⟨testPair₂, by simp, .inr (Option.some.inj hproposal).symm⟩
    . exact ⟨testPair₂, by simp, .inl (Option.some.inj hproposal).symm⟩
    . exact ⟨testPair₂, by simp, .inr (Option.some.inj hproposal).symm⟩
  completed := by
    intro i pair next before call between _ hnext _
    simp at hnext
  kept := by
    intro i pair next before call between _ _ hfirst
    apply along_of_forall
    rintro call hcall self ⟨latest, rest, rfl, -⟩
    have hmem := hfirst.isPrefixOf.subset (List.mem_append_left _ hcall)
    simp [testForeignDeliveries] at hmem

theorem firstCompletes_testForeign : ∃ between, FirstCompletes testForeignStart
    testForeignDeliveries testPair₂ (testForeignDeliveries.take 2) testForeignDeliveries[2] between := by
  refine ⟨_, List.prefix_refl _, rfl, ⟨_, rfl, rfl⟩, ?_⟩
  intro self₁ hself₁
  refine ⟨not_completes_of_matching rfl (run_nil _) rfl (by decide), ?_⟩
  intro self₂ _
  have hrun₁ := (run_singleton testForeignStart _).trans hself₁
  exact ⟨not_completes_of_matching rfl hrun₁ rfl (by decide), trivial⟩

/--
What is stored under the id of `testPair₂` was made of `testForeign`.
-/
theorem not_spawns_of_testForeign {self self' : Coordinator TestTypes}
    {parent : BuilderState TestTypes} {calls : List (Call TestTypes)}
    (hrun : run perform testForeignStart calls = some self')
    (hstored : (run perform testForeignStart calls).map (fun self =>
      (self.builderStates.get testPair₂.stateId).map (·.parentBlockReferences.leafCommit)) =
        some (some (TestTypes.leafCommit testForeign))) :
    ¬ self.Spawns parent testPair₂ self' := by
  intro hspawns
  obtain ⟨state, hget, hrefs⟩ := hspawns.refersTo
  rw [hrun, Option.map_some, hget, Option.map_some, Option.some.injEq, Option.some.injEq, hrefs.2]
    at hstored
  have hne : TestTypes.leafCommit testPair₂.quorumProposal ≠ TestTypes.leafCommit testForeign := by
    decide
  exact hne hstored

/--
With a proposal of another block pending under the id of `testPair₂` none of the deliveries spawns its
state, not the one after which both of its proposals were delivered and not the one that completes it.
-/
theorem not_chain_tracked_testForeign :
    run step (new 5 0) testForeignHistory = some testForeignStart ∧
      LeafCommitBinds TestTypes ∧ [testPair₁, testPair₂].IsChain Extends ∧
      Starts testForeignStart [testPair₁, testPair₂] ∧
      Delivers testForeignStart [testPair₁, testPair₂] testForeignDeliveries ∧
      (∃ before call between self', FirstCompletes testForeignStart testForeignDeliveries testPair₂
        before call between ∧ between.perform call = some self') ∧
      ∀ before call between self' parent, before ++ [call] <+: testForeignDeliveries →
        run perform testForeignStart before = some between → between.perform call = some self' →
          ¬ between.Spawns parent testPair₂ self' := by
  have hchain : [testPair₁, testPair₂].IsChain Extends :=
    .cons_cons ⟨by decide, rfl⟩ (.singleton _)
  refine ⟨rfl, leafCommitBinds_testTypes, hchain, starts_testForeignStart,
    delivers_testForeignDeliveries, ?_, ?_⟩
  . obtain ⟨between, hfirst⟩ := firstCompletes_testForeign
    have hrun : ∃ self', run perform testForeignStart
        (testForeignDeliveries.take 2 ++ [testForeignDeliveries[2]]) = some self' := ⟨_, rfl⟩
    obtain ⟨self', hrun⟩ := hrun
    obtain ⟨between', hbetween', hperform⟩ := run_concat_eq_some.mp hrun
    rw [hfirst.run_eq, Option.some.injEq] at hbetween'
    subst hbetween'
    exact ⟨_, _, between, self', hfirst, hperform⟩
  . rintro before call between self' parent ⟨after, hsplit⟩ hbetween hperform
    have hrun := run_concat_eq_some.mpr ⟨between, hbetween, hperform⟩
    rcases before with _ | ⟨call₀, _ | ⟨call₁, _ | ⟨call₂, before⟩⟩⟩ <;>
      simp only [testForeignDeliveries, List.cons_append, List.nil_append, List.cons.injEq] at hsplit
    . obtain ⟨rfl, -⟩ := hsplit
      exact not_spawns_of_testForeign hrun rfl
    . obtain ⟨rfl, rfl, -⟩ := hsplit
      exact not_spawns_of_testForeign hrun rfl
    . obtain ⟨rfl, rfl, rfl, -⟩ := hsplit
      exact not_spawns_of_testForeign hrun rfl
    . simp at hsplit

end Coordinator

end BuilderCore
