import BuilderCore.Selection

/-!
This module contains what the `truncated` flag of a block tells about the transactions that were left
out of it.
-/

namespace BuilderCore

variable {T : NodeType} [ApiTypes T]

variable (T) in
/--
What is assumed of `BlockPayload::from_transactions`: a block has no more transactions than were
handed over.
-/
def KeepsPrefix : Prop :=
  ∀ txns validatedState instanceState (payload : T.BlockPayload) metadata,
    ApiTypes.fromTransactions (T := T) txns validatedState instanceState =
      .ok (payload, metadata) →
    ApiTypes.numTransactions payload metadata ≤ txns.length

/--
How many of the transactions the sequencer takes into a block.
-/
def numKept (txns : List T.Transaction) (validatedState : ApiTypes.ValidatedState T)
    (instanceState : ApiTypes.InstanceState T) : Nat :=
  match ApiTypes.fromTransactions txns validatedState instanceState with
  | .error _ => 0
  | .ok (payload, metadata) => ApiTypes.numTransactions payload metadata

section

variable {config : BuildConfig T} {refs : ParentBlockReferences T}
  {validatedState : ApiTypes.ValidatedState T} {txnQueue : TransactionQueue T}

/--
The flag tells whether transactions of the queue were left out exactly if there were any, and either
none of them is in the block or they all were selected and all kept.
-/
theorem truncated_iff (hkeeps : KeepsPrefix T) {blockInfo : BlockInfo T}
    (h : (buildBlock config refs validatedState txnQueue).2 = .ok (some blockInfo)) :
    (blockInfo.truncated = true ↔
        ApiTypes.numTransactions blockInfo.blockPayload blockInfo.metadata <
          txnQueue.transactions.length) ↔
      txnQueue.transactions ≠ [] ∧
        (numKept (transactionsToInclude config.maxBlockSize txnQueue) validatedState
            config.instanceState = 0 ∨
          transactionsToInclude config.maxBlockSize txnQueue =
              txnQueue.transactions.map (·.transaction) ∧
            numKept (txnQueue.transactions.map (·.transaction)) validatedState
              config.instanceState = txnQueue.transactions.length) := by
  obtain ⟨hfrom, -, htruncated⟩ := built_of_buildBlock h
  have hkept : numKept (transactionsToInclude config.maxBlockSize txnQueue) validatedState
      config.instanceState =
        ApiTypes.numTransactions blockInfo.blockPayload blockInfo.metadata := by
    simp [numKept, hfrom]
  have hle := hkeeps _ _ _ _ _ hfrom
  have hselected := length_transactionsToInclude_le config.maxBlockSize txnQueue
  rw [htruncated, decide_eq_true_eq, hkept, ne_eq, ← List.length_eq_zero_iff]
  constructor
  . intro hiff
    refine ⟨by omega, ?_⟩
    by_cases hzero : ApiTypes.numTransactions blockInfo.blockPayload blockInfo.metadata = 0
    . exact .inl hzero
    . -- nothing was left out, neither by the limit nor by the sequencer
      have hall : transactionsToInclude config.maxBlockSize txnQueue =
          txnQueue.transactions.map (·.transaction) := by
        apply (transactionsToInclude_isPrefixOf config.maxBlockSize txnQueue).eq_of_length
        rw [List.length_map]
        omega
      refine .inr ⟨hall, ?_⟩
      rw [← hall, hkept]
      omega
  . rintro ⟨hne, hzero | ⟨hall, hkeptAll⟩⟩
    . omega
    . rw [← hall, hkept] at hkeptAll
      omega

theorem truncated_legacy_iff {builder : Legacy.BlockBuilder T} {stateId : BuilderStateId T}
    {maxBlockSize numNodes vid : Nat} {info : Legacy.BuildBlockInfo T} {vidTask : Legacy.VidTask T}
    (h : (builder.buildBlock stateId maxBlockSize numNodes vid).2 = some (info, vidTask)) :
    info.truncated = true ↔
      ApiTypes.numTransactions info.blockPayload info.metadata < builder.txQueue.length := by
  obtain ⟨-, -, -, htruncated⟩ := Legacy.BlockBuilder.built_of_buildBlock h
  rw [htruncated, decide_eq_true_iff]

end

theorem keepsPrefix_testTypes : KeepsPrefix TestTypes := by
  intro txns validatedState instanceState payload metadata h
  obtain ⟨rfl, -⟩ := Prod.mk.inj (Except.ok.inj h)
  exact Nat.le_refl _

def testQueue (transactions : List Nat) : TransactionQueue TestTypes :=
  ⟨transactions.toFinset, transactions.map TestTypes.txn⟩

def truncationConfig : BuildConfig TestTypes := ⟨(), 1, 10, 4⟩

def finalizingRefs : ParentBlockReferences TestTypes :=
  { ParentBlockReferences.bootstrap with txCount := 1, lastNonemptyView := some 0 }

theorem truncated_iff_testQueue :
    ∃ blockInfo, (buildBlock truncationConfig .bootstrap () (testQueue [3, 4])).2 =
        .ok (some blockInfo) ∧
      (blockInfo.truncated = true ↔
        ApiTypes.numTransactions (T := TestTypes) blockInfo.blockPayload blockInfo.metadata < 2) := by
  have hbuild : ∃ blockInfo, (buildBlock truncationConfig .bootstrap () (testQueue [3, 4])).2 =
      .ok (some blockInfo) := ⟨_, rfl⟩
  obtain ⟨blockInfo, hbuild⟩ := hbuild
  refine ⟨blockInfo, hbuild, ?_⟩
  apply (truncated_iff keepsPrefix_testTypes hbuild).mpr
  exact ⟨by decide, .inr ⟨rfl, rfl⟩⟩

/--
The limit of 10 leaves out the second transaction and the flag does not tell. For an empty block that
only finalizes the parent it tells that something was left out.
-/
theorem truncated_wrong :
    (∃ blockInfo, (buildBlock truncationConfig .bootstrap () (testQueue [3, 9])).2 =
        .ok (some blockInfo) ∧ blockInfo.truncated = false ∧
      ApiTypes.numTransactions (T := TestTypes) blockInfo.blockPayload blockInfo.metadata < 2) ∧
    ∃ blockInfo, (buildBlock truncationConfig finalizingRefs () (testQueue [])).2 =
        .ok (some blockInfo) ∧ blockInfo.truncated = true ∧
      ¬ ApiTypes.numTransactions (T := TestTypes) blockInfo.blockPayload blockInfo.metadata < 0 := by
  exact ⟨⟨_, rfl, rfl, by decide⟩, _, rfl, rfl, by decide⟩

end BuilderCore
