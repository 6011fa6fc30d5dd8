import BuilderCore.LegacyRefactored.BlockStore
import BuilderCore.Shared.State

/-!
This module contains how a block is built: when an empty one is, and which transactions are selected.
-/

namespace BuilderCore

variable {T : NodeType}

def allowEmptyBlockPeriod : Nat := 3

def shouldPrioritizeFinalization (refs : ParentBlockReferences T) : Bool :=
  refs.txCount ≠ 0 ∧ (refs.lastNonemptyView.map fun nonemptyView =>
    decide (nonemptyView - refs.viewNumber < allowEmptyBlockPeriod)).getD false

/--
The transactions of the queue that are handed to `BlockPayload::from_transactions`.
-/
def transactionsToInclude (maxBlockSize : Nat) (txnQueue : TransactionQueue T) :
    List T.Transaction :=
  (go 0 txnQueue.transactions).map (·.transaction)
where
  go (totalSize : Nat) (txns : List (ReceivedTransaction T)) : List (ReceivedTransaction T) :=
    match txns with
    | [] => []
    | tx :: txns =>
      let prevSize := totalSize
      -- `total_size` is a `u64`
      let totalSize := (totalSize + tx.minBlockSize) % 2 ^ 64
      if totalSize ≥ maxBlockSize ∧ prevSize ≠ 0 then
        []
      else
        tx :: go totalSize txns

theorem transactionsToInclude.go_isPrefixOf (maxBlockSize totalSize : Nat)
    (txns : List (ReceivedTransaction T)) :
    transactionsToInclude.go maxBlockSize totalSize txns <+: txns := by
  induction txns generalizing totalSize with
  | nil => exact List.prefix_refl _
  | cons tx txns ih =>
    simp only [go]
    split
    . exact List.nil_prefix
    . rw [List.prefix_cons_inj]
      apply ih

theorem transactionsToInclude_isPrefixOf (maxBlockSize : Nat) (txnQueue : TransactionQueue T) :
    transactionsToInclude maxBlockSize txnQueue <+: txnQueue.transactions.map (·.transaction) := by
  unfold transactionsToInclude
  apply List.IsPrefix.map
  apply transactionsToInclude.go_isPrefixOf

/--
The first transaction is selected whatever its size is.
-/
theorem head?_transactionsToInclude (maxBlockSize : Nat) (txnQueue : TransactionQueue T) :
    (transactionsToInclude maxBlockSize txnQueue).head? =
      txnQueue.transactions.head?.map (·.transaction) := by
  unfold transactionsToInclude
  cases txnQueue.transactions with
  | nil => rfl
  | cons tx txns => simp [transactionsToInclude.go]

theorem length_transactionsToInclude_le (maxBlockSize : Nat) (txnQueue : TransactionQueue T) :
    (transactionsToInclude maxBlockSize txnQueue).length ≤ txnQueue.transactions.length := by
  have hle := (transactionsToInclude_isPrefixOf maxBlockSize txnQueue).length_le
  rwa [List.length_map] at hle

variable (T) [ApiTypes T] in
/--
What `build_block` reads of the global state. The limit on the size of a block is read before the
queue is, the number of nodes last of all.
-/
structure BuildConfig where
  instanceState : ApiTypes.InstanceState T
  baseFee : Nat
  maxBlockSize : Nat
  numNodes : Nat

/--
`build_block` once the transactions are collected, with what it leaves in the queue.
-/
def buildBlock [ApiTypes T] (config : BuildConfig T) (refs : ParentBlockReferences T)
    (validatedState : ApiTypes.ValidatedState T) (txnQueue : TransactionQueue T) :
    TransactionQueue T × Except (RequestError T) (Option (BlockInfo T)) :=
  if txnQueue.isEmpty ∧ ¬ shouldPrioritizeFinalization refs then
    -- don't build an empty block
    (txnQueue, .ok none)
  else
    match ApiTypes.fromTransactions (transactionsToInclude config.maxBlockSize txnQueue)
        validatedState config.instanceState with
    | .error error => (txnQueue, .error (.buildBlock error))
    | .ok (blockPayload, metadata) =>
      let truncated := ApiTypes.numTransactions blockPayload metadata = 0
      let txnQueue := if truncated then txnQueue.popFront.1 else txnQueue
      if truncated ∧ ¬ shouldPrioritizeFinalization refs then
        (txnQueue, .ok none)
      else
        let encodedTxns := ApiTypes.encode blockPayload
        let blockSize := ApiTypes.len encodedTxns
        (txnQueue, .ok (some {
          blockPayload
          metadata
          vidData := ⟨encodedTxns, config.numNodes⟩
          blockSize
          -- the product is a `u64`
          offeredFee := config.baseFee * blockSize % 2 ^ 64
          truncated
        }))

section

variable [ApiTypes T] {config : BuildConfig T} {refs : ParentBlockReferences T}
  {validatedState : ApiTypes.ValidatedState T}

theorem built_of_buildBlock {txnQueue : TransactionQueue T} {blockInfo : BlockInfo T}
    (h : (buildBlock config refs validatedState txnQueue).2 = .ok (some blockInfo)) :
    ApiTypes.fromTransactions (transactionsToInclude config.maxBlockSize txnQueue) validatedState
        config.instanceState = .ok (blockInfo.blockPayload, blockInfo.metadata) ∧
      blockInfo.vidData = ⟨ApiTypes.encode blockInfo.blockPayload, config.numNodes⟩ ∧
      blockInfo.truncated =
        decide (ApiTypes.numTransactions blockInfo.blockPayload blockInfo.metadata = 0) := by
  simp only [buildBlock] at h
  split at h
  . simp at h
  . split at h
    . simp at h
    . next payload metadata hfrom =>
      split at h
      . simp at h
      . simp only [Except.ok.injEq, Option.some.injEq] at h
        rw [← h]
        exact ⟨hfrom, rfl, rfl⟩

/--
Without transactions a block is built exactly when finalization has priority.
-/
theorem buildBlock_new {payload : T.BlockPayload × T.Metadata}
    (hempty : ApiTypes.fromTransactions [] validatedState config.instanceState = .ok payload) :
    (∃ blockInfo, (buildBlock config refs validatedState .new).2 = .ok (some blockInfo) ∧
        blockInfo.blockPayload = payload.1) ↔
      shouldPrioritizeFinalization refs = true := by
  have hnone : transactionsToInclude config.maxBlockSize (.new : TransactionQueue T) = [] := rfl
  have hisEmpty : (TransactionQueue.new : TransactionQueue T).isEmpty = true := by
    simp [TransactionQueue.isEmpty, TransactionQueue.new]
  by_cases hfinalize : shouldPrioritizeFinalization refs = true
  . simp [buildBlock, hnone, hempty, hfinalize]
  . simp [buildBlock, hisEmpty, hfinalize]

end

end BuilderCore
