import BuilderCore.Legacy.BuilderState
import BuilderCore.Shared.Coordinator.StoredNodes

/-!
This module contains the comparison of how the two builders pair proposals: the legacy one with a map
for each kind, the other one with a map for both.
-/

namespace BuilderCore

open Collections Transition

variable {T : NodeType}

namespace Legacy.BuilderState

def processProposal (self : BuilderState T) (proposal : T.QuorumProposalWrapper ⊕ DaProposal2 T) :
    BuilderState T × Option (DaProposal2 T × T.QuorumProposalWrapper) :=
  match proposal with
  | .inl quorumProposal => self.processQuorumProposal quorumProposal
  | .inr daProposal => self.processDaProposal daProposal

/--
Process a proposal and note the pair that it was matched to.
-/
def processNoting (self : BuilderState T × List (DaProposal2 T × T.QuorumProposalWrapper))
    (proposal : T.QuorumProposalWrapper ⊕ DaProposal2 T) :
    BuilderState T × List (DaProposal2 T × T.QuorumProposalWrapper) :=
  let (state, pair) := self.1.processProposal proposal
  (state, self.2 ++ pair.toList)

def HasNoProposals (self : BuilderState T) : Prop :=
  ∀ id, self.daProposals.get? id = none ∧ self.quorumProposals.get? id = none

/--
The proposal is matched with one of another view, and both are dropped.
-/
def ExitsForView (self : BuilderState T) (proposal : T.QuorumProposalWrapper ⊕ DaProposal2 T) :
    Prop :=
  match proposal with
  | .inl quorumProposal =>
    ∃ daProposal, (matchMessage self.quorumProposals self.daProposals
      (.fromQuorumProposal quorumProposal) quorumProposal).2.2 = some daProposal ∧
        daProposal.viewNumber ≠ T.viewNumber quorumProposal
  | .inr daProposal =>
    ∃ quorumProposal, (matchMessage self.daProposals self.quorumProposals
      (.fromDaProposal daProposal) daProposal).2.2 = some quorumProposal ∧
        T.viewNumber quorumProposal ≠ daProposal.viewNumber

theorem hasNoProposals_new (parentBlockReferences : ParentBlockReferences T) :
    HasNoProposals (new parentBlockReferences) := fun _ => ⟨rfl, rfl⟩

theorem hasNoProposals_cloneWithReceiver (self : BuilderState T) :
    HasNoProposals self.cloneWithReceiver := fun _ => ⟨rfl, rfl⟩

/--
The one map has the proposals of both maps of the legacy builder, and no others.
-/
structure Waits (legacy : BuilderState T) (proposals : ProposalMap T) : Prop where
  quorumProposals : ∀ id,
    legacy.quorumProposals.get? id = (proposals.get? id).bind Sum.getLeft?
  daProposals : ∀ id, legacy.daProposals.get? id = (proposals.get? id).bind Sum.getRight?

theorem waits_new {self : BuilderState T} (h : self.HasNoProposals) : self.Waits .new where
  quorumProposals id := (h id).2
  daProposals id := (h id).1

theorem Waits.disjoint {self : BuilderState T} {proposals : ProposalMap T}
    (h : self.Waits proposals) (id : ProposalId T) :
    self.daProposals.get? id = none ∨ self.quorumProposals.get? id = none := by
  rw [h.daProposals, h.quorumProposals]
  match proposals.get? id with
  | none => exact .inl rfl
  | some (.inl _) => exact .inl rfl
  | some (.inr _) => exact .inr rfl

theorem Waits.not_exitsForView {self : BuilderState T} {proposals : ProposalMap T}
    (h : self.Waits proposals) (proposal : T.QuorumProposalWrapper ⊕ DaProposal2 T) :
    ¬ self.ExitsForView proposal := by
  cases proposal with
  | inl quorumProposal =>
    rintro ⟨daProposal, hmatch, hview⟩
    simp only [matchMessage, h.quorumProposals, h.daProposals] at hmatch
    cases hget : proposals.get? (.fromQuorumProposal quorumProposal) with
    | none => simp [hget] at hmatch
    | some stored =>
      cases stored with
      | inl stored => simp [hget] at hmatch
      | inr stored =>
        simp [hget] at hmatch
        subst hmatch
        exact hview (congrArg ProposalId.viewNumber (proposals.id_eq hget))
  | inr daProposal =>
    rintro ⟨quorumProposal, hmatch, hview⟩
    simp only [matchMessage, h.quorumProposals, h.daProposals] at hmatch
    cases hget : proposals.get? (.fromDaProposal daProposal) with
    | none => simp [hget] at hmatch
    | some stored =>
      cases stored with
      | inl stored =>
        simp [hget] at hmatch
        subst hmatch
        exact hview (congrArg ProposalId.viewNumber (proposals.id_eq hget))
      | inr stored => simp [hget] at hmatch

theorem Waits.process_duplicate {self : BuilderState T} {proposals : ProposalMap T}
    (h : self.Waits proposals) {proposal stored : T.QuorumProposalWrapper ⊕ DaProposal2 T}
    (hstored : proposals.get? (.of proposal) = some stored)
    (hkind : stored.isLeft = proposal.isLeft) : self.processProposal proposal = (self, none) := by
  match stored, proposal with
  | .inl stored, .inl quorumProposal =>
    have hquorum := h.quorumProposals (.fromQuorumProposal quorumProposal)
    rw [show proposals.get? (.fromQuorumProposal quorumProposal) = _ from hstored] at hquorum
    simp [processProposal, processQuorumProposal, matchMessage, hquorum]
  | .inr stored, .inr daProposal =>
    have hda := h.daProposals (.fromDaProposal daProposal)
    rw [show proposals.get? (.fromDaProposal daProposal) = _ from hstored] at hda
    simp [processProposal, processDaProposal, matchMessage, hda]
  | .inl _, .inr _ => contradiction
  | .inr _, .inl _ => contradiction

theorem Waits.process_new {self : BuilderState T} {proposals : ProposalMap T}
    (h : self.Waits proposals) {proposal : T.QuorumProposalWrapper ⊕ DaProposal2 T}
    (hnone : proposals.get? (.of proposal) = none) :
    (self.processProposal proposal).2 = none ∧
      (self.processProposal proposal).1.Waits (proposals.insert proposal) := by
  have hquorum := h.quorumProposals (.of proposal)
  have hda := h.daProposals (.of proposal)
  rw [hnone] at hquorum hda
  cases proposal with
  | inl quorumProposal =>
    simp only [ProposalId.of, Option.bind_none] at hquorum hda
    simp only [processProposal, processQuorumProposal, matchMessage, hquorum, hda, true_and]
    constructor
    all_goals
      intro id
      by_cases hid : id = .fromQuorumProposal quorumProposal
      . simp [ProposalId.of, hid, hda]
      . simp [ProposalId.of, hid, h.quorumProposals, h.daProposals]
  | inr daProposal =>
    simp only [ProposalId.of, Option.bind_none] at hquorum hda
    simp only [processProposal, processDaProposal, matchMessage, hquorum, hda, true_and]
    constructor
    all_goals
      intro id
      by_cases hid : id = .fromDaProposal daProposal
      . simp [ProposalId.of, hid, hquorum]
      . simp [ProposalId.of, hid, h.quorumProposals, h.daProposals]

theorem Waits.process_matching {self : BuilderState T} {coordinator : Coordinator T}
    (h : self.Waits coordinator.proposals) {proposal : T.QuorumProposalWrapper ⊕ DaProposal2 T}
    {quorumProposal : T.QuorumProposalWrapper} {daProposal : DaProposal2 T}
    (hmatching : coordinator.matching proposal = some (quorumProposal, daProposal)) :
    (self.processProposal proposal).2 = some (daProposal, quorumProposal) ∧
      (self.processProposal proposal).1.Waits (coordinator.proposals.remove (.of proposal)) := by
  have hview := Coordinator.viewNumber_eq_of_matching hmatching
  have hquorum := h.quorumProposals (.of proposal)
  have hda := h.daProposals (.of proposal)
  rcases Coordinator.matching_eq_some.mp hmatching with ⟨rfl, hget⟩ | ⟨rfl, hget⟩
  . rw [hget] at hquorum hda
    simp only [ProposalId.of, Option.bind_some, Sum.getLeft?_inr, Sum.getRight?_inr] at hquorum hda
    simp only [processProposal, processQuorumProposal, matchMessage, hquorum, hda, hview, ne_eq,
      not_true_eq_false, if_false, true_and]
    constructor
    all_goals
      intro id
      by_cases hid : id = .fromQuorumProposal quorumProposal
      . simp [ProposalId.of, hid, hquorum]
      . simp [ProposalId.of, hid, h.quorumProposals, h.daProposals]
  . rw [hget] at hquorum hda
    simp only [ProposalId.of, Option.bind_some, Sum.getLeft?_inl, Sum.getRight?_inl] at hquorum hda
    simp only [processProposal, processDaProposal, matchMessage, hquorum, hda, hview, ne_eq,
      not_true_eq_false, if_false, true_and]
    constructor
    all_goals
      intro id
      by_cases hid : id = .fromDaProposal daProposal
      . simp [ProposalId.of, hid, hda]
      . simp [ProposalId.of, hid, h.quorumProposals, h.daProposals]

end Legacy.BuilderState

namespace Coordinator

def ProposalsGuard.pair (guard : ProposalsGuard T) :
    Option (T.QuorumProposalWrapper × DaProposal2 T) :=
  match guard with
  | .paired quorumProposal daProposal => some (quorumProposal, daProposal)
  | _ => none

/--
The pair with which the call gets to `spawn_builder_state`.
-/
def spawnedPair (self : Coordinator T) (call : Call T) :
    Option (T.QuorumProposalWrapper × DaProposal2 T) := do
  let proposal ← call.proposal
  let locked ← self.lockProposals proposal
  ProposalsGuard.pair locked.proposalsGuard

def performNoting (self : Coordinator T × List (T.QuorumProposalWrapper × DaProposal2 T))
    (call : Call T) :
    Option (Coordinator T × List (T.QuorumProposalWrapper × DaProposal2 T)) := do
  let coordinator ← self.1.perform call
  return (coordinator, self.2 ++ (self.1.spawnedPair call).toList)

theorem spawnedPair_eq {self self' : Coordinator T} {call : Call T}
    {proposal : T.QuorumProposalWrapper ⊕ DaProposal2 T} {schedule : Schedule}
    (hdelivery : call.delivery = some (proposal, schedule))
    (hperform : self.perform call = some self') :
    self.spawnedPair call = self.matching proposal := by
  rw [perform_of_delivery hdelivery] at hperform
  simp only [handleProposal, Option.bind_eq_bind, Option.bind_eq_some_iff] at hperform
  obtain ⟨locked, hlock, -⟩ := hperform
  have hpair : self.spawnedPair call = ProposalsGuard.pair locked.proposalsGuard := by
    simp [spawnedPair, Call.proposal, hdelivery, hlock]
  rw [hpair]
  cases change_of_lockProposals hlock with
  | duplicate _ stored hguard hstored hkind =>
    rw [hguard, matching_eq_none_of_duplicate hstored hkind]
    rfl
  | store _ hguard hnone =>
    rw [hguard, matching_eq_none_of_new hnone]
    rfl
  | pair _ quorumProposal daProposal _ hmatching =>
    rw [hmatching]
    rfl

structure Agrees (legacy : Legacy.BuilderState T × List (DaProposal2 T × T.QuorumProposalWrapper))
    (coordinator : Coordinator T × List (T.QuorumProposalWrapper × DaProposal2 T)) : Prop where
  waits : legacy.1.Waits coordinator.1.proposals
  pairs : legacy.2.map Prod.swap = coordinator.2

theorem proposals_of_perform {self self' : Coordinator T} {call : Call T}
    (hdelivery : call.delivery = none) (hperform : self.perform call = some self') :
    self'.proposals = self.proposals := by
  cases performed_of_perform hperform with
  | handle _ _ _ _ hcall =>
    rw [hdelivery] at hcall
    contradiction
  | _ => rfl

theorem agrees_perform
    {legacy : Legacy.BuilderState T × List (DaProposal2 T × T.QuorumProposalWrapper)}
    {self self' : Coordinator T × List (T.QuorumProposalWrapper × DaProposal2 T)} {call : Call T}
    (h : Agrees legacy self) (hperform : performNoting self call = some self') :
    Agrees (call.proposal.elim legacy (Legacy.BuilderState.processNoting legacy)) self' := by
  simp only [performNoting, Option.bind_eq_bind, Option.bind_eq_some_iff, Option.pure_def,
    Option.some.injEq] at hperform
  obtain ⟨coordinator, hperform, rfl⟩ := hperform
  cases hdelivery : call.delivery with
  | none =>
    have hproposals := proposals_of_perform hdelivery hperform
    simp only [Call.proposal, hdelivery, Option.map_none, Option.elim_none, spawnedPair]
    constructor
    . rw [hproposals]
      exact h.waits
    . simpa using h.pairs
  | some delivery =>
    obtain ⟨proposal, schedule⟩ := delivery
    rw [spawnedPair_eq hdelivery hperform]
    simp only [Call.proposal, hdelivery, Option.map_some, Option.elim_some,
      Legacy.BuilderState.processNoting]
    rw [perform_of_delivery hdelivery] at hperform
    cases handled_of_handleProposal hperform with
    | duplicate stored hstored hkind =>
      rw [h.waits.process_duplicate hstored hkind, matching_eq_none_of_duplicate hstored hkind]
      exact ⟨h.waits, by simpa using h.pairs⟩
    | store hnone =>
      obtain ⟨hpair, hwaits⟩ := h.waits.process_new hnone
      rw [hpair, matching_eq_none_of_new hnone]
      exact ⟨hwaits, by simpa using h.pairs⟩
    | orphan quorumProposal daProposal hmatching =>
      obtain ⟨hpair, hwaits⟩ := h.waits.process_matching hmatching
      rw [hpair, hmatching]
      exact ⟨hwaits, by simp [h.pairs]⟩
    | spawn quorumProposal daProposal _ _ hmatching =>
      obtain ⟨hpair, hwaits⟩ := h.waits.process_matching hmatching
      rw [hpair, hmatching]
      exact ⟨hwaits, by simp [h.pairs]⟩

theorem agrees_run
    {legacy : Legacy.BuilderState T × List (DaProposal2 T × T.QuorumProposalWrapper)}
    {self self' : Coordinator T × List (T.QuorumProposalWrapper × DaProposal2 T)}
    {calls : List (Call T)} (h : Agrees legacy self)
    (hrun : run performNoting self calls = some self') :
    Agrees ((calls.filterMap Call.proposal).foldl Legacy.BuilderState.processNoting legacy)
      self' := by
  rw [List.foldl_filterMap]
  apply run_simulated _ h hrun
  intro legacy self call self' h hperform
  have hagrees := agrees_perform h hperform
  cases hproposal : call.proposal with
  | none => simpa [hproposal] using hagrees
  | some proposal => simpa [hproposal] using hagrees

/--
No call is in progress, and nobody holds a lock.
-/
structure Idle (coordinator : Coordinator T) (now : Nat) : Prop where
  nodes : coordinator.StoresNodes
  guard : coordinator.proposalsGuard = .free
  receivers : ∀ addr < coordinator.forest.size,
    (coordinator.forest.locks addr).receiverGuard = none
  clock : coordinator.forest.clock ≤ now

theorem idle_new (period start : Nat) : Idle (new period start : Coordinator T) start where
  nodes := storesNodes_new period start
  guard := rfl
  receivers := fun _ _ => rfl
  clock := Nat.le_refl start

theorem lockProposals_of_not_matching {self : Coordinator T}
    {proposal : T.QuorumProposalWrapper ⊕ DaProposal2 T} (hguard : self.proposalsGuard = .free)
    (h : self.matching proposal = none) :
    ∃ locked, self.lockProposals proposal = some locked ∧ locked.proposalsGuard = .free := by
  cases hget : self.proposals.get? (.of proposal) with
  | none =>
    refine ⟨{ self with proposals := self.proposals.insert proposal }, ?_, hguard⟩
    simp [lockProposals, hguard, hget]
  | some stored =>
    cases stored with
    | inl _ =>
      cases proposal with
      | inl _ => exact ⟨self, by simp [lockProposals, hguard, hget], hguard⟩
      | inr _ => simp [matching, hget] at h
    | inr _ =>
      cases proposal with
      | inl _ => simp [matching, hget] at h
      | inr _ => exact ⟨self, by simp [lockProposals, hguard, hget], hguard⟩

theorem Idle.exists_handleProposal {self : Coordinator T} {now : Nat} (h : self.Idle now)
    (proposal : T.QuorumProposalWrapper ⊕ DaProposal2 T) {schedule : Schedule}
    (hchecked : now ≤ schedule.checked) (hnow : schedule.checked ≤ schedule.now)
    (hfinished : schedule.now ≤ schedule.finished) :
    ∃ self', self.handleProposal proposal schedule = some self' := by
  cases hmatching : self.matching proposal with
  | none =>
    obtain ⟨locked, hlock, hguard⟩ := lockProposals_of_not_matching h.guard hmatching
    exact ⟨locked, by simp [handleProposal, hlock, hguard]⟩
  | some pair =>
    apply Coordinator.exists_handleProposal h.nodes h.guard hmatching
    intro parent hparent
    have hstored := h.nodes.stored parent (BuilderStateMap.stored_of_mem_find hparent)
    exact ⟨h.guard, h.receivers _ hstored.1, Nat.le_trans h.clock hchecked, hnow, hfinished⟩

theorem Idle.handleProposal {self self' : Coordinator T} {now : Nat} (h : self.Idle now)
    {proposal : T.QuorumProposalWrapper ⊕ DaProposal2 T} {schedule : Schedule}
    (hle : now ≤ schedule.finished)
    (hhandle : self.handleProposal proposal schedule = some self') :
    self'.Idle schedule.finished := by
  have hnodes : self'.StoresNodes := by
    obtain ⟨actions, hrun, -⟩ := run_of_handleProposal hhandle
    apply run_invariant _ h.nodes hrun
    intro self action self' hself hstep
    exact storesNodes_change hself (change_of_step hstep)
  have hclock := Nat.le_trans h.clock hle
  cases handled_of_handleProposal hhandle with
  | duplicate => exact ⟨hnodes, h.guard, h.receivers, hclock⟩
  | store => exact ⟨hnodes, h.guard, h.receivers, hclock⟩
  | orphan => exact ⟨hnodes, h.guard, h.receivers, hclock⟩
  | spawn quorumProposal daProposal parentState forest _ _ hforest =>
    obtain ⟨-, hsize, hnode, hchild⟩ := Forest.run_newChildSteps hforest
    refine ⟨hnodes, h.guard, ?_, ?_⟩
    . intro addr hlt
      simp only [withChild, hsize] at hlt ⊢
      rcases Nat.lt_succ_iff_lt_or_eq.mp hlt with hlt | rfl
      . rw [Forest.locks, hnode addr hlt]
        exact h.receivers addr hlt
      . rw [Forest.locks, hchild]
        rfl
    . rw [withChild, Forest.clock_of_newChildSteps hforest]

def callOf (delivery : (T.QuorumProposalWrapper ⊕ DaProposal2 T) × Schedule) : Call T :=
  match delivery with
  | (.inl quorumProposal, schedule) => .quorumProposal quorumProposal schedule
  | (.inr daProposal, schedule) => .daProposal daProposal schedule

theorem delivery_callOf (delivery : (T.QuorumProposalWrapper ⊕ DaProposal2 T) × Schedule) :
    (callOf delivery).delivery = some delivery := by
  obtain ⟨proposal | proposal, schedule⟩ := delivery <;> rfl

theorem proposals_of_deliveries
    (deliveries : List ((T.QuorumProposalWrapper ⊕ DaProposal2 T) × Schedule)) :
    (deliveries.map callOf).filterMap Call.proposal = deliveries.map Prod.fst := by
  induction deliveries with
  | nil => rfl
  | cons delivery deliveries ih => simp [Call.proposal, delivery_callOf, ih]

/--
The clock does not run backwards.
-/
def InOrder (start : Nat) :
    List ((T.QuorumProposalWrapper ⊕ DaProposal2 T) × Schedule) → Prop
  | [] => True
  | (_, schedule) :: deliveries => start ≤ schedule.checked ∧ schedule.checked ≤ schedule.now ∧
    schedule.now ≤ schedule.finished ∧ InOrder schedule.finished deliveries

theorem Idle.exists_run {self : Coordinator T × List (T.QuorumProposalWrapper × DaProposal2 T)}
    {now : Nat} (h : self.1.Idle now)
    {deliveries : List ((T.QuorumProposalWrapper ⊕ DaProposal2 T) × Schedule)}
    (hclock : InOrder now deliveries) :
    ∃ self', run performNoting self (deliveries.map callOf) = some self' := by
  induction deliveries generalizing self now with
  | nil => exact ⟨self, rfl⟩
  | cons delivery deliveries ih =>
    obtain ⟨hchecked, hnow, hfinished, hclock⟩ := hclock
    obtain ⟨next, hperform, hidle⟩ :
        ∃ next, performNoting self (callOf delivery) = some next ∧
          next.1.Idle delivery.2.finished := by
      obtain ⟨coordinator, hhandle⟩ := h.exists_handleProposal delivery.1 hchecked hnow hfinished
      refine ⟨(coordinator, self.2 ++ (self.1.spawnedPair (callOf delivery)).toList), ?_, ?_⟩
      . simp [performNoting, perform_of_delivery (delivery_callOf delivery), hhandle]
      . exact h.handleProposal (by omega) hhandle
    obtain ⟨self', hrun⟩ := ih hidle hclock
    exact ⟨self', run_cons_eq_some.mpr ⟨next, hperform, hrun⟩⟩

theorem inOrder_at (start : Nat) (proposals : List (T.QuorumProposalWrapper ⊕ DaProposal2 T)) :
    InOrder start (proposals.map fun proposal => (proposal, ⟨0, start, start, start⟩)) := by
  induction proposals with
  | nil => trivial
  | cons proposal proposals ih => exact ⟨Nat.le_refl _, Nat.le_refl _, Nat.le_refl _, ih⟩

/--
Whatever else the coordinator is called for between the proposals: it spawns from the pairs that the
legacy builder spawns from, and the same proposals are left over.
-/
theorem pairing_agrees {legacy : Legacy.BuilderState T} (hlegacy : legacy.HasNoProposals)
    (period start : Nat) (proposals : List (T.QuorumProposalWrapper ⊕ DaProposal2 T)) :
    let processed := proposals.foldl Legacy.BuilderState.processNoting (legacy, [])
    (∀ id, processed.1.daProposals.get? id = none ∨ processed.1.quorumProposals.get? id = none) ∧
    (∀ proposal, ¬ processed.1.ExitsForView proposal) ∧
    (∀ calls coordinator, calls.filterMap Call.proposal = proposals →
      run performNoting (new period start, []) calls = some coordinator →
        Agrees processed coordinator) ∧
    ∀ deliveries, deliveries.map Prod.fst = proposals → InOrder start deliveries →
      ∃ coordinator,
        run performNoting (new period start, []) (deliveries.map callOf) = some coordinator := by
  have hagrees : ∀ calls coordinator, calls.filterMap Call.proposal = proposals →
      run performNoting (new period start, []) calls = some coordinator →
        Agrees (proposals.foldl Legacy.BuilderState.processNoting (legacy, [])) coordinator := by
    rintro calls coordinator rfl hrun
    exact agrees_run ⟨Legacy.BuilderState.waits_new hlegacy, rfl⟩ hrun
  have hreturns : ∀ deliveries : List ((T.QuorumProposalWrapper ⊕ DaProposal2 T) × Schedule),
      InOrder start deliveries → ∃ coordinator,
        run performNoting (new period start, []) (deliveries.map callOf) = some coordinator := by
    intro deliveries hclock
    have hidle := idle_new (T := T) period start
    exact Idle.exists_run hidle hclock
  obtain ⟨coordinator, hrun⟩ := hreturns _ (inOrder_at start proposals)
  have hproposals : ((proposals.map fun proposal =>
      (proposal, (⟨0, start, start, start⟩ : Schedule))).map callOf).filterMap Call.proposal =
        proposals := by
    rw [proposals_of_deliveries, List.map_map]
    exact List.map_id proposals
  have hwaits := (hagrees _ coordinator hproposals hrun).waits
  exact ⟨hwaits.disjoint, hwaits.not_exitsForView, hagrees,
    fun deliveries _ hclock => hreturns deliveries hclock⟩

/--
The second DA proposal of the first view waits again, after the first one was matched.
-/
theorem pairing_agrees_testPairs :
    ∃ coordinator, run performNoting (new 5 0, []) [
        .daProposal testPair₁.daProposal ⟨0, 1, 1, 2⟩,
        .quorumProposal testPair₁.quorumProposal ⟨0, 3, 3, 4⟩,
        .daProposal testPair₁.daProposal ⟨0, 5, 6, 7⟩] = some coordinator ∧
      coordinator.2 = [(testPair₁.quorumProposal, testPair₁.daProposal)] ∧
      (coordinator.1.proposals.get? testPair₁.id).bind Sum.getRight? =
        some testPair₁.daProposal := by
  obtain ⟨-, -, hagrees, hreturns⟩ := pairing_agrees
    (Legacy.BuilderState.hasNoProposals_new .bootstrap) 5 0
    [.inr testPair₁.daProposal, .inl testPair₁.quorumProposal, .inr testPair₁.daProposal]
  obtain ⟨coordinator, hrun⟩ := hreturns [(.inr testPair₁.daProposal, ⟨0, 1, 1, 2⟩),
    (.inl testPair₁.quorumProposal, ⟨0, 3, 3, 4⟩), (.inr testPair₁.daProposal, ⟨0, 5, 6, 7⟩)]
    rfl (by simp [InOrder])
  have hagree := hagrees _ coordinator rfl hrun
  exact ⟨coordinator, hrun, hagree.pairs.symm, (hagree.waits.daProposals testPair₁.id).symm⟩

end Coordinator

end BuilderCore
