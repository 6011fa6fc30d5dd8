import BuilderCore.LegacyRefactored.BuildBlock
import BuilderCore.Shared.ForestLineage
import BuilderCore.Shared.ForestQueue

/-!
This module contains the guarantee that the included set and the queue give together: what a recent
ancestor's block contains is not built into a block or a bundle again.
-/

namespace BuilderCore

variable {T : NodeType}

/--
The transactions of a bundle of the marketplace builder.
-/
def collectTransactions (txnQueue : TransactionQueue T) : List T.Transaction :=
  txnQueue.transactions.map (·.transaction)

theorem commit_mem_commits_of_mem {txnQueue : TransactionQueue T} {txn : T.Transaction}
    (h : txn ∈ collectTransactions txnQueue) :
    ∃ received ∈ txnQueue.transactions, received.commit = T.commit txn := by
  simp only [collectTransactions, List.mem_map] at h
  obtain ⟨received, hreceived, rfl⟩ := h
  exact ⟨received, hreceived, received.commit_eq⟩

namespace Forest

theorem bundle_not_recent {period : Nat} {forest : Forest T}
    (h : Transition.Reachable step (IsNew period) forest) {addr : Nat}
    (haddr : addr < forest.size) {txn : T.Transaction}
    (htxn : txn ∈ collectTransactions (forest.locks addr).txnQueue) {ancestor : Ancestor T}
    (hancestor : (forest.nodes addr).IsRecent period ancestor) : T.commit txn ∉ ancestor.block := by
  intro hblock
  have hincluded := (lineageInvariant h haddr).contains_of_isRecent hancestor hblock
  obtain ⟨received, hreceived, hcommit⟩ := commit_mem_commits_of_mem htxn
  have hnot := (queueInvariant h haddr).notIncluded received
    (Locks.mem_held_of_mem_queue hreceived)
  rw [hcommit, hincluded] at hnot
  contradiction

/--
For every state `addr` of every forest that tasks can reach: the queue and the included set are
disjoint, the included set has the blocks of the recent ancestors, and neither a block nor a bundle
built from the queue has a transaction of theirs.
-/
theorem no_reinclusion {period : Nat} {forest : Forest T}
    (h : Transition.Reachable step (IsNew period) forest) {addr : Nat}
    (haddr : addr < forest.size) :
    (∀ txn ∈ (forest.locks addr).txnQueue.transactions,
      (forest.nodes addr).state.includedTxns.contains txn.commit = false) ∧
    ∀ ancestor, (forest.nodes addr).IsRecent period ancestor →
      (∀ commit ∈ ancestor.block,
        (forest.nodes addr).state.includedTxns.contains commit = true) ∧
      (∀ maxBlockSize, ∀ txn ∈ transactionsToInclude maxBlockSize (forest.locks addr).txnQueue,
        T.commit txn ∉ ancestor.block) ∧
      ∀ txn ∈ collectTransactions (forest.locks addr).txnQueue, T.commit txn ∉ ancestor.block := by
  constructor
  . intro txn htxn
    exact (queueInvariant h haddr).notIncluded txn (Locks.mem_held_of_mem_queue htxn)
  . intro ancestor hancestor
    refine ⟨?_, ?_, ?_⟩
    . intro commit hcommit
      exact (lineageInvariant h haddr).contains_of_isRecent hancestor hcommit
    . intro maxBlockSize txn htxn
      have hqueue := (transactionsToInclude_isPrefixOf maxBlockSize _).subset htxn
      exact bundle_not_recent h haddr hqueue hancestor
    . intro txn htxn
      exact bundle_not_recent h haddr htxn hancestor

def rebroadcast : List (Action TestTypes) := [
  .newChild 0 0 (TestTypes.quorumProposal 1 10 [7] ⟨0, []⟩) (TestTypes.daProposal 1 [7]) 1 1,
  .cloneQueue 0,
  .cloneReceiver 0 1,
  .broadcast (TestTypes.txn 7),
  .broadcast (TestTypes.txn 8),
  .tryRecv 1,
  .tryRecv 1,
  .insert 1]

theorem no_reinclusion_rebroadcast :
    ∃ forest, Transition.run step (new 5 0) rebroadcast = some forest ∧
      (forest.locks 1).txnQueue.transactions = [TestTypes.txn 8] ∧
      (forest.nodes 1).state.includedTxns.contains (TestTypes.txn 8).commit = false ∧
      (forest.nodes 1).state.includedTxns.contains (TestTypes.txn 7).commit = true := by
  have hforest : ∃ forest, Transition.run step (new 5 0) rebroadcast = some forest ∧
      forest.size = 2 ∧
      (forest.locks 1).txnQueue.transactions = [TestTypes.txn 8] ∧
      (forest.nodes 1).lineage = [⟨1, [(TestTypes.txn 7).commit], 1⟩, ⟨0, [], 0⟩] :=
    ⟨_, rfl, rfl, rfl, rfl⟩
  obtain ⟨forest, hrun, hsize, hqueue, hlineage⟩ := hforest
  have haddr : 1 < forest.size := by omega
  obtain ⟨hnot, hrecent⟩ := no_reinclusion ⟨_, _, ⟨0, rfl⟩, hrun⟩ haddr
  refine ⟨forest, hrun, hqueue, hnot _ (by simp [hqueue]), ?_⟩
  apply (hrecent ⟨1, [(TestTypes.txn 7).commit], 1⟩ (.inl (by simp [hlineage]))).1
  simp

end Forest

end BuilderCore
