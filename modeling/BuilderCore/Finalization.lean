import BuilderCore.Legacy.BuildBlock
import BuilderCore.ProposalChain

/-!
This module contains when the two builders build empty blocks, on the same lineage of blocks and with
no transactions to include.
-/

namespace BuilderCore

variable {T : NodeType}

def ProposalPair.nonempty (pair : ProposalPair T) : Bool :=
  !pair.daProposal.txnCommitments.isEmpty

def mostRecentNonempty (pairs : List (ProposalPair T)) : Option Nat :=
  (pairs.reverse.find? (·.nonempty)).map (·.viewNumber)

/--
Less than the period has passed since the most recent block with transactions.
-/
def InFinalizationWindow (pairs : List (ProposalPair T)) (viewNumber : Nat) : Prop :=
  ∃ nonemptyView ∈ mostRecentNonempty pairs, viewNumber < nonemptyView + allowEmptyBlockPeriod

instance (pairs : List (ProposalPair T)) (viewNumber : Nat) :
    Decidable (InFinalizationWindow pairs viewNumber) :=
  inferInstanceAs (Decidable (∃ _ ∈ _, _))

inductive Lineage [ApiTypes T] :
    List (ProposalPair T) → BuilderState T → Legacy.BlockBuilder T → Prop where
  | bootstrap (state : BuilderState T) (txQueue : List (ReceivedTransaction T)) (baseFee : Nat)
      (validatedState : ApiTypes.ValidatedState T) (instanceState : ApiTypes.InstanceState T)
      (hrefs : state.parentBlockReferences = .bootstrap) :
      Lineage [] state (.new .bootstrap txQueue baseFee validatedState instanceState)
  | collectTxns {pairs : List (ProposalPair T)} {state : BuilderState T}
      {builder : Legacy.BlockBuilder T} (hlineage : Lineage pairs state builder)
      (received : List (ReceivedTransaction T)) :
      Lineage pairs state (builder.collectTxns received)
  | buildBlock {pairs : List (ProposalPair T)} {state : BuilderState T}
      {builder : Legacy.BlockBuilder T} (hlineage : Lineage pairs state builder)
      (stateId : BuilderStateId T) (maxBlockSize numNodes vid : Nat) :
      Lineage pairs state (builder.buildBlock stateId maxBlockSize numNodes vid).1
  | newChild {pairs : List (ProposalPair T)} {state child : BuilderState T}
      {builder : Legacy.BlockBuilder T} (hlineage : Lineage pairs state builder)
      (pair : ProposalPair T) (hview : state.parentBlockReferences.viewNumber < pair.viewNumber)
      (checked now addr : Nat) (queueLocks receiverLocks childLocks : Locks T) (call : NewChild T)
      (hclone : (state.newChild pair.quorumProposal pair.daProposal checked now).cloneQueue
        queueLocks = some call)
      (hchild : call.cloneReceiver receiverLocks addr = some (child, childLocks))
      (collectGarbage : Bool) :
      Lineage (pairs ++ [pair]) child
        ((builder.cloneWithReceiver collectGarbage).spawnClone pair.daProposal pair.quorumProposal)

theorem mostRecentNonempty_concat (pairs : List (ProposalPair T)) (pair : ProposalPair T) :
    mostRecentNonempty (pairs ++ [pair]) =
      if pair.nonempty then some pair.viewNumber else mostRecentNonempty pairs := by
  simp only [mostRecentNonempty, List.reverse_append, List.reverse_singleton,
    List.singleton_append, List.find?_cons]
  cases pair.nonempty <;> rfl

theorem parentBlockReferences_of_newChild {state child : BuilderState T}
    {quorumProposal : T.QuorumProposalWrapper} {daProposal : DaProposal2 T} {checked now addr : Nat}
    {queueLocks receiverLocks childLocks : Locks T} {call : NewChild T}
    (hclone : (state.newChild quorumProposal daProposal checked now).cloneQueue queueLocks =
      some call)
    (hchild : call.cloneReceiver receiverLocks addr = some (child, childLocks)) :
    child.parentBlockReferences =
      (state.newChild quorumProposal daProposal checked now).parentBlockReferences := by
  obtain ⟨-, rfl⟩ := NewChild.cloneQueue_eq_some.mp hclone
  obtain ⟨-, rfl, -⟩ := NewChild.cloneReceiver_eq_some.mp hchild
  rfl

namespace Legacy.BlockBuilder

variable [ApiTypes T]

def SameFinalization (builder builder' : BlockBuilder T) : Prop :=
  builder'.state = builder.state ∧ builder'.allowEmptyBlockUntil = builder.allowEmptyBlockUntil

theorem sameFinalization_collectTxns (self : BlockBuilder T)
    (received : List (ReceivedTransaction T)) :
    self.SameFinalization (self.collectTxns received) := by
  induction received generalizing self with
  | nil => exact ⟨rfl, rfl⟩
  | cons tx received ih =>
    simp only [collectTxns, List.foldl_cons] at ih ⊢
    split
    . exact ih self
    . exact ih _

theorem sameFinalization_buildBlock (self : BlockBuilder T) (stateId : BuilderStateId T)
    (maxBlockSize numNodes vid : Nat) :
    self.SameFinalization (self.buildBlock stateId maxBlockSize numNodes vid).1 := by
  have hdrop : self.SameFinalization self.dropFirst := by
    unfold dropFirst
    split <;> exact ⟨rfl, rfl⟩
  simp only [buildBlock]
  split
  . exact ⟨rfl, rfl⟩
  . split
    . exact ⟨rfl, rfl⟩
    . split
      . exact hdrop
      . exact ⟨rfl, rfl⟩

end Legacy.BlockBuilder

structure Remembers [ApiTypes T] (pairs : List (ProposalPair T)) (state : BuilderState T)
    (builder : Legacy.BlockBuilder T) : Prop where
  view : builder.state.id.parentView = state.parentBlockReferences.viewNumber
  lastNonemptyView : state.parentBlockReferences.lastNonemptyView = mostRecentNonempty pairs
  txCount : state.parentBlockReferences.txCount ≠ 0 ↔
    mostRecentNonempty pairs = some state.parentBlockReferences.viewNumber
  le : ∀ nonemptyView ∈ mostRecentNonempty pairs,
    nonemptyView ≤ state.parentBlockReferences.viewNumber
  allowEmptyBlockUntil : builder.allowEmptyBlockUntil =
    (mostRecentNonempty pairs).map fun nonemptyView =>
      (nonemptyView + Legacy.allowEmptyBlockPeriod) % 2 ^ 64

section

variable [ApiTypes T] {pairs : List (ProposalPair T)} {state child : BuilderState T}
  {builder builder' : Legacy.BlockBuilder T}

theorem Remembers.sameFinalization (h : Remembers pairs state builder)
    (hsame : builder.SameFinalization builder') : Remembers pairs state builder' where
  view := by rw [hsame.1, h.view]
  lastNonemptyView := h.lastNonemptyView
  txCount := h.txCount
  le := h.le
  allowEmptyBlockUntil := by rw [hsame.2, h.allowEmptyBlockUntil]

theorem Remembers.newChild (h : Remembers pairs state builder) {pair : ProposalPair T}
    (hview : state.parentBlockReferences.viewNumber < pair.viewNumber) {checked now : Nat}
    (hrefs : child.parentBlockReferences =
      (state.newChild pair.quorumProposal pair.daProposal checked now).parentBlockReferences)
    (collectGarbage : Bool) :
    Remembers (pairs ++ [pair]) child
      ((builder.cloneWithReceiver collectGarbage).spawnClone pair.daProposal
        pair.quorumProposal) := by
  have hallow : (builder.cloneWithReceiver collectGarbage).allowEmptyBlockUntil =
      builder.allowEmptyBlockUntil := by
    cases collectGarbage <;> rfl
  have hchildView : child.parentBlockReferences.viewNumber = pair.viewNumber := by
    rw [hrefs]
    rfl
  have hda : pair.daProposal.viewNumber = pair.viewNumber :=
    (congrArg ProposalId.viewNumber pair.id_eq).symm
  rw [BuilderState.newChild] at hrefs
  by_cases hempty : pair.daProposal.txnCommitments.isEmpty = true
  . have hrecent : mostRecentNonempty (pairs ++ [pair]) = mostRecentNonempty pairs := by
      simp [mostRecentNonempty_concat, ProposalPair.nonempty, hempty]
    refine ⟨hchildView.symm, ?_, ?_, ?_, ?_⟩
    . simp only [hrefs, hrecent, if_pos hempty, h.lastNonemptyView]
    . rw [hrecent, hchildView]
      have hlen : child.parentBlockReferences.txCount = 0 := by
        simp only [hrefs, List.length_eq_zero_iff]
        exact List.isEmpty_iff.mp hempty
      simp only [hlen, ne_eq, not_true_eq_false, false_iff]
      intro hnonempty
      have hle := h.le _ hnonempty
      omega
    . intro nonemptyView hnonempty
      rw [hrecent] at hnonempty
      have hle := h.le nonemptyView hnonempty
      omega
    . simp only [Legacy.BlockBuilder.spawnClone, if_pos hempty, hallow, h.allowEmptyBlockUntil,
        hrecent]
  . have hrecent : mostRecentNonempty (pairs ++ [pair]) = some pair.viewNumber := by
      simp [mostRecentNonempty_concat, ProposalPair.nonempty, hempty]
    refine ⟨hchildView.symm, ?_, ?_, ?_, ?_⟩
    . simp only [hrefs, hrecent, if_neg hempty]
      rfl
    . rw [hrecent, hchildView]
      have hlen : child.parentBlockReferences.txCount ≠ 0 := by
        simp only [hrefs, ne_eq, List.length_eq_zero_iff]
        exact fun hnil => hempty (List.isEmpty_iff.mpr hnil)
      simp [hlen]
    . intro nonemptyView hnonempty
      rw [hrecent, Option.mem_some_iff] at hnonempty
      omega
    . simp only [Legacy.BlockBuilder.spawnClone, if_neg hempty, hrecent, hda, Option.map_some]

theorem remembers (h : Lineage pairs state builder) : Remembers pairs state builder := by
  induction h with
  | bootstrap state txQueue baseFee validatedState instanceState hrefs =>
    constructor
    . rw [hrefs]
      rfl
    . rw [hrefs]
      rfl
    . simp [hrefs, ParentBlockReferences.bootstrap, mostRecentNonempty]
    . intro nonemptyView hnonempty
      contradiction
    . rfl
  | collectTxns hlineage received ih =>
    exact ih.sameFinalization (Legacy.BlockBuilder.sameFinalization_collectTxns _ _)
  | buildBlock hlineage stateId maxBlockSize numNodes vid ih =>
    exact ih.sameFinalization (Legacy.BlockBuilder.sameFinalization_buildBlock _ _ _ _ _)
  | newChild hlineage pair hview checked now addr queueLocks receiverLocks childLocks call hclone
      hchild collectGarbage ih =>
    exact ih.newChild hview (parentBlockReferences_of_newChild hclone hchild) collectGarbage

/--
The views are subtracted the wrong way round, and the difference is never positive.
-/
theorem Remembers.shouldPrioritizeFinalization_iff (h : Remembers pairs state builder) :
    shouldPrioritizeFinalization state.parentBlockReferences = true ↔
      mostRecentNonempty pairs = some state.parentBlockReferences.viewNumber := by
  simp only [shouldPrioritizeFinalization, decide_eq_true_eq, h.txCount, h.lastNonemptyView]
  constructor
  . rintro ⟨hnonempty, -⟩
    exact hnonempty
  . intro hnonempty
    refine ⟨hnonempty, ?_⟩
    simp [hnonempty, allowEmptyBlockPeriod]

theorem Remembers.shouldPrioritizeFinalization_legacy_iff (h : Remembers pairs state builder) :
    builder.shouldPrioritizeFinalization builder.state.id = true ↔
      ∃ nonemptyView ∈ mostRecentNonempty pairs,
        state.parentBlockReferences.viewNumber <
          (nonemptyView + Legacy.allowEmptyBlockPeriod) % 2 ^ 64 := by
  simp only [Legacy.BlockBuilder.shouldPrioritizeFinalization, h.allowEmptyBlockUntil, h.view,
    Option.map_map]
  cases mostRecentNonempty pairs <;> simp

/--
Both builders agree with the window as long as it is closed, and the block that opens it does too
unless its view is one of the last three.
-/
theorem Remembers.agree_iff (h : Remembers pairs state builder) :
    (shouldPrioritizeFinalization state.parentBlockReferences = true ↔
        InFinalizationWindow pairs state.parentBlockReferences.viewNumber) ∧
      (builder.shouldPrioritizeFinalization builder.state.id = true ↔
        InFinalizationWindow pairs state.parentBlockReferences.viewNumber) ↔
      ¬ InFinalizationWindow pairs state.parentBlockReferences.viewNumber ∨
        mostRecentNonempty pairs = some state.parentBlockReferences.viewNumber ∧
          state.parentBlockReferences.viewNumber + allowEmptyBlockPeriod < 2 ^ 64 := by
  rw [h.shouldPrioritizeFinalization_iff, h.shouldPrioritizeFinalization_legacy_iff]
  have hle := h.le
  generalize state.parentBlockReferences.viewNumber = viewNumber at hle ⊢
  cases hrecent : mostRecentNonempty pairs with
  | none => simp [InFinalizationWindow, hrecent]
  | some nonemptyView =>
    have hle : nonemptyView ≤ viewNumber := hle nonemptyView hrecent
    simp only [InFinalizationWindow, hrecent, Option.mem_some_iff, exists_eq_left',
      Option.some.injEq, allowEmptyBlockPeriod, Legacy.allowEmptyBlockPeriod]
    omega

/--
With no transaction queued, an empty block is built exactly inside of the window.
-/
theorem builds_empty_iff_window (hlineage : Lineage pairs state builder) {config : BuildConfig T}
    {validatedState : ApiTypes.ValidatedState T} {payload payload' : T.BlockPayload × T.Metadata}
    (hempty : ApiTypes.fromTransactions [] validatedState config.instanceState = .ok payload)
    (hqueue : builder.txQueue = [])
    (hempty' : ApiTypes.fromTransactions [] builder.validatedState builder.instanceState =
      .ok payload')
    (maxBlockSize numNodes vid : Nat) :
    ((∃ blockInfo,
        (buildBlock config state.parentBlockReferences validatedState .new).2 =
          .ok (some blockInfo) ∧ blockInfo.blockPayload = payload.1) ↔
        InFinalizationWindow pairs state.parentBlockReferences.viewNumber) ∧
      ((∃ info vidTask,
        (builder.buildBlock builder.state.id maxBlockSize numNodes vid).2 = some (info, vidTask) ∧
          info.blockPayload = payload'.1) ↔
        InFinalizationWindow pairs state.parentBlockReferences.viewNumber) ↔
      ¬ InFinalizationWindow pairs state.parentBlockReferences.viewNumber ∨
        mostRecentNonempty pairs = some state.parentBlockReferences.viewNumber ∧
          state.parentBlockReferences.viewNumber + allowEmptyBlockPeriod < 2 ^ 64 := by
  rw [buildBlock_new hempty, Legacy.BlockBuilder.buildBlock_nil hqueue hempty']
  exact (remembers hlineage).agree_iff

theorem Lineage.extend (hlineage : Lineage pairs state builder) (pair : ProposalPair T)
    (hview : state.parentBlockReferences.viewNumber < pair.viewNumber) :
    ∃ child, Lineage (pairs ++ [pair]) child
        ((builder.cloneWithReceiver false).spawnClone pair.daProposal pair.quorumProposal) ∧
      child.parentBlockReferences =
        (state.newChild pair.quorumProposal pair.daProposal 0 0).parentBlockReferences :=
  ⟨_, .newChild hlineage pair hview 0 0 0 .new .new _ _ rfl rfl false, rfl⟩

end

namespace TestTypes

def buildConfig : BuildConfig TestTypes := ⟨(), 1, 1000, 4⟩

def blockBuilder : Legacy.BlockBuilder TestTypes := .new .bootstrap [] 1 () ()

def emptyPair : ProposalPair TestTypes where
  quorumProposal := quorumProposal 2 2 [] (certify testPair₁.quorumProposal)
  daProposal := daProposal 2 []
  id_eq := rfl

theorem lineage_bootstrap : Lineage [] ⟨.bootstrap, .new 0 0, 0⟩ blockBuilder :=
  .bootstrap _ _ _ _ _ rfl

end TestTypes

open TestTypes in
theorem builds_empty_iff_window_testPair₁ :
    ∃ state builder, Lineage [testPair₁] state builder ∧
      InFinalizationWindow [testPair₁] state.parentBlockReferences.viewNumber ∧
      (∃ blockInfo, (buildBlock buildConfig state.parentBlockReferences () .new).2 =
        .ok (some blockInfo) ∧ blockInfo.blockPayload = ([] : List Nat)) ∧
      ∃ info vidTask, (builder.buildBlock builder.state.id 1000 4 0).2 = some (info, vidTask) ∧
        info.blockPayload = ([] : List Nat) := by
  obtain ⟨state, hlineage, hrefs⟩ := lineage_bootstrap.extend testPair₁ (by decide)
  have hwindow : InFinalizationWindow [testPair₁] state.parentBlockReferences.viewNumber := by
    rw [hrefs]
    decide
  have hempty : ApiTypes.fromTransactions (T := TestTypes) [] () buildConfig.instanceState =
      .ok (([] : List Nat), ()) := rfl
  have hagree := (builds_empty_iff_window hlineage hempty rfl rfl 1000 4 0).mpr
    (by rw [hrefs]; decide)
  exact ⟨state, _, hlineage, hwindow, hagree.1.mpr hwindow, hagree.2.mpr hwindow⟩

open TestTypes in
/--
A block with transactions followed by an empty one.
-/
theorem not_builds_empty_emptyPair :
    ∃ state builder, Lineage [testPair₁, emptyPair] state builder ∧ builder.txQueue = [] ∧
      InFinalizationWindow [testPair₁, emptyPair] state.parentBlockReferences.viewNumber ∧
      (¬ ∃ blockInfo, (buildBlock buildConfig state.parentBlockReferences () .new).2 =
        .ok (some blockInfo)) ∧
      ∃ info vidTask, (builder.buildBlock builder.state.id 1000 4 0).2 = some (info, vidTask) ∧
        info.blockPayload = ([] : List Nat) := by
  obtain ⟨state₁, hlineage₁, hrefs₁⟩ := lineage_bootstrap.extend testPair₁ (by decide)
  obtain ⟨state₂, hlineage₂, hrefs₂⟩ := hlineage₁.extend emptyPair (by rw [hrefs₁]; decide)
  have hview : state₂.parentBlockReferences.viewNumber = 2 :=
    congrArg ParentBlockReferences.viewNumber hrefs₂
  have hcount : state₂.parentBlockReferences.txCount = 0 :=
    congrArg ParentBlockReferences.txCount hrefs₂
  refine ⟨state₂, _, hlineage₂, rfl, ?_, ?_, ?_⟩
  . rw [hview]
    decide
  . simp [buildBlock, shouldPrioritizeFinalization, hcount, TransactionQueue.isEmpty,
      TransactionQueue.new]
  . exact ⟨_, _, rfl, rfl⟩


end BuilderCore
