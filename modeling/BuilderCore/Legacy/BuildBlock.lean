import BuilderCore.Api
import BuilderCore.Legacy.BuilderState
import BuilderCore.Legacy.GlobalState
import BuilderCore.LegacyRefactored.BuildBlock

/-!
This module contains how a task of the legacy builder builds a block, and what it hands to its clone
for that.
-/

namespace BuilderCore

variable {T : NodeType}

namespace Legacy

def allowEmptyBlockPeriod : Nat := 3

variable (T) [ApiTypes T] in
structure BlockBuilder where
  state : BuilderState T
  includedTxns : Finset T.TxnCommitment
  includedTxnsOld : Finset T.TxnCommitment
  includedTxnsExpiring : Finset T.TxnCommitment
  txnsInQueue : Finset T.TxnCommitment
  txQueue : List (ReceivedTransaction T)
  baseFee : Nat
  validatedState : ApiTypes.ValidatedState T
  instanceState : ApiTypes.InstanceState T
  allowEmptyBlockUntil : Option Nat

variable (T) in
/--
The task that computes a VID commitment once it is triggered.
-/
structure VidTask where
  encodedTxns : T.EncodedTransactions
  numNodes : Nat
  triggered : Bool

namespace BlockBuilder

variable [ApiTypes T]

def new (parentBlockReferences : ParentBlockReferences T) (txQueue : List (ReceivedTransaction T))
    (baseFee : Nat) (validatedState : ApiTypes.ValidatedState T)
    (instanceState : ApiTypes.InstanceState T) : BlockBuilder T where
  state := .new parentBlockReferences
  includedTxns := ∅
  includedTxnsOld := ∅
  includedTxnsExpiring := ∅
  txnsInQueue := (txQueue.map (·.commit)).toFinset
  txQueue
  baseFee
  validatedState
  instanceState
  allowEmptyBlockUntil := none

/--
`collectGarbage` is whether `next_txn_garbage_collect_time` has come.
-/
def cloneWithReceiver (self : BlockBuilder T) (collectGarbage : Bool) : BlockBuilder T :=
  let state := self.state.cloneWithReceiver
  if collectGarbage then
    { self with
      state
      includedTxns := ∅
      includedTxnsOld := self.includedTxns
      includedTxnsExpiring := self.includedTxnsOld }
  else
    { self with state }

/--
What `spawn_clone` changes in the clone before it is registered.
-/
def spawnClone (self : BlockBuilder T) (daProposal : DaProposal2 T)
    (quorumProposal : T.QuorumProposalWrapper) : BlockBuilder T :=
  let txnCommitments := daProposal.txnCommitments
  let txnsInQueue := self.txnsInQueue \ txnCommitments.toFinset
  { self with
    state := self.state.replaceParent quorumProposal
    txnsInQueue
    includedTxns := self.includedTxns ∪ txnCommitments.toFinset
    txQueue := self.txQueue.filter fun tx => tx.commit ∈ txnsInQueue
    allowEmptyBlockUntil :=
      if txnCommitments.isEmpty then
        self.allowEmptyBlockUntil
      else
        -- the sum is a `u64`
        some ((daProposal.viewNumber + allowEmptyBlockPeriod) % 2 ^ 64) }

def collectTxns (self : BlockBuilder T) (received : List (ReceivedTransaction T)) :
    BlockBuilder T :=
  received.foldl (fun self tx =>
    if tx.commit ∈ self.includedTxns ∪ self.includedTxnsOld ∪ self.includedTxnsExpiring ∪
        self.txnsInQueue then
      self
    else
      { self with
        txnsInQueue := insert tx.commit self.txnsInQueue
        txQueue := self.txQueue ++ [tx] }) self

def shouldPrioritizeFinalization (self : BlockBuilder T) (stateId : BuilderStateId T) : Bool :=
  (self.allowEmptyBlockUntil.map fun allowUntil => decide (stateId.parentView < allowUntil)).getD
    false

def transactionsToInclude (self : BlockBuilder T) (maxBlockSize : Nat) : List T.Transaction :=
  (BuilderCore.transactionsToInclude.go maxBlockSize 0 self.txQueue).map (·.transaction)

def dropFirst (self : BlockBuilder T) : BlockBuilder T :=
  match self.txQueue with
  | [] => self
  | txn :: txQueue =>
    { self with
      txQueue
      txnsInQueue := self.txnsInQueue.erase txn.commit
      includedTxns := insert txn.commit self.includedTxns }

/--
`build_block` once the transactions are collected. `vid` is the number of the VID task that it spawns.
-/
def buildBlock (self : BlockBuilder T) (stateId : BuilderStateId T)
    (maxBlockSize numNodes vid : Nat) : BlockBuilder T × Option (BuildBlockInfo T × VidTask T) :=
  if self.txQueue.isEmpty ∧ ¬ self.shouldPrioritizeFinalization stateId then
    -- don't build an empty block
    (self, none)
  else
    match ApiTypes.fromTransactions (self.transactionsToInclude maxBlockSize) self.validatedState
        self.instanceState with
    | .error _ => (self, none)
    | .ok (blockPayload, metadata) =>
      let actualTxnCount := ApiTypes.numTransactions blockPayload metadata
      if actualTxnCount = 0 ∧ ¬ self.shouldPrioritizeFinalization stateId then
        (self.dropFirst, none)
      else
        let encodedTxns := ApiTypes.encode blockPayload
        let blockSize := ApiTypes.len encodedTxns
        (self, some (
          {
            id :=
              ⟨T.payloadBuilderCommitment blockPayload metadata, self.state.id.parentView⟩
            blockSize
            -- the product is a `u64`
            offeredFee := self.baseFee * blockSize % 2 ^ 64
            blockPayload
            metadata
            vid
            truncated := actualTxnCount < self.txQueue.length
          },
          ⟨encodedTxns, numNodes, false⟩))

section

variable {self : BlockBuilder T} {stateId : BuilderStateId T} {maxBlockSize numNodes vid : Nat}

theorem built_of_buildBlock {info : BuildBlockInfo T} {vidTask : VidTask T}
    (h : (self.buildBlock stateId maxBlockSize numNodes vid).2 = some (info, vidTask)) :
    ApiTypes.fromTransactions (self.transactionsToInclude maxBlockSize) self.validatedState
        self.instanceState = .ok (info.blockPayload, info.metadata) ∧
      info.vid = vid ∧ vidTask = ⟨ApiTypes.encode info.blockPayload, numNodes, false⟩ ∧
      info.truncated = decide
        (ApiTypes.numTransactions info.blockPayload info.metadata < self.txQueue.length) := by
  simp only [buildBlock] at h
  split at h
  . contradiction
  . split at h
    . contradiction
    . next payload metadata hfrom =>
      split at h
      . contradiction
      . simp only [Option.some.injEq, Prod.mk.injEq] at h
        obtain ⟨rfl, rfl⟩ := h
        exact ⟨hfrom, rfl, rfl, rfl⟩

/--
Without transactions a block is built exactly when finalization has priority.
-/
theorem buildBlock_nil {payload : T.BlockPayload × T.Metadata} (hqueue : self.txQueue = [])
    (hempty : ApiTypes.fromTransactions [] self.validatedState self.instanceState = .ok payload) :
    (∃ info vidTask, (self.buildBlock stateId maxBlockSize numNodes vid).2 = some (info, vidTask) ∧
        info.blockPayload = payload.1) ↔
      self.shouldPrioritizeFinalization stateId = true := by
  have hnone : self.transactionsToInclude maxBlockSize = [] := by
    rw [transactionsToInclude, hqueue]
    rfl
  by_cases hfinalize : self.shouldPrioritizeFinalization stateId = true
  . simp [buildBlock, hnone, hempty, hfinalize]
  . simp [buildBlock, hqueue, hfinalize]

end

end BlockBuilder

end Legacy

end BuilderCore
