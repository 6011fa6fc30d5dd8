import BuilderCore.Shared.ForestLemmas
import Mathlib.Data.List.NodupEquivFin

/-!
This module contains what holds of the queue of every builder state: it agrees with its index, none
of its transactions is in the included set, and they stand in the order of the broadcast channel.
-/

namespace BuilderCore

variable {T : NodeType}

def Locks.held (locks : Locks T) : List (ReceivedTransaction T) :=
  locks.txnQueue.transactions ++ locks.receiverGuard.toList

theorem Locks.mem_held_of_mem_queue {locks : Locks T} {txn : ReceivedTransaction T}
    (h : txn ∈ locks.txnQueue.transactions) : txn ∈ locks.held :=
  List.mem_append_left _ h

theorem Locks.queue_sublist_held (locks : Locks T) :
    locks.txnQueue.transactions.Sublist locks.held :=
  List.sublist_append_left ..

namespace Forest

structure QueueInvariant (_clock : Nat) (sent : List (ReceivedTransaction T))
    (node : Node T) : Prop where
  wellFormed : node.locks.txnQueue.WellFormed
  notIncluded : ∀ txn ∈ node.locks.held, node.state.includedTxns.contains txn.commit = false
  received : node.locks.held.Sublist (sent.take node.locks.txnReceiver)

/--
`node` is the parent, which other tasks may have changed since the queue was cloned.
-/
structure ClonedQueueInvariant (_clock : Nat) (sent : List (ReceivedTransaction T))
    (node : Node T) (newChild : NewChild T) : Prop where
  included : ∀ commit, newChild.includedTxns.contains commit = true →
    node.state.includedTxns.contains commit = true
  wellFormed : ∀ queue, newChild.txnQueue = some queue → queue.WellFormed
  notInBlock : ∀ queue, newChild.txnQueue = some queue → ∀ txn ∈ queue.transactions,
    txn.commit ∉ newChild.txnCommitments
  notIncluded : ∀ queue, newChild.txnQueue = some queue → ∀ txn ∈ queue.transactions,
    node.state.includedTxns.contains txn.commit = false
  received : ∀ queue, newChild.txnQueue = some queue →
    queue.transactions.Sublist (sent.take node.locks.txnReceiver)

theorem take_sublist_take_append {α : Type} (l l' : List α) (n : Nat) :
    (l.take n).Sublist ((l ++ l').take n) := by
  rw [List.take_append]
  exact List.sublist_append_left ..

theorem take_sublist_take_succ {α : Type} (l : List α) (n : Nat) :
    (l.take n).Sublist (l.take (n + 1)) :=
  (List.take_prefix_take_left (Nat.le_succ n)).sublist

theorem QueueInvariant.collect {clock : Nat} {sent : List (ReceivedTransaction T)}
    {node : Node T} {locks : Locks T} (h : QueueInvariant clock sent node)
    (hcollect : CollectStep sent node.state.includedTxns node.locks locks) :
    QueueInvariant clock sent { node with locks } := by
  obtain ⟨hwf, hnot, hreceived⟩ := h
  cases hcollect with
  | discard txn hguard hnext hincluded =>
    exact ⟨hwf, hnot, hreceived.trans (take_sublist_take_succ ..)⟩
  | take txn hguard hnext hincluded =>
    simp only [Locks.held, hguard, Option.toList_none, List.append_nil] at hnot hreceived
    refine ⟨hwf, ?_, ?_⟩
    . intro txn' htxn'
      simp only [Locks.held, Option.toList_some, List.mem_append, List.mem_singleton] at htxn'
      rcases htxn' with htxn' | rfl
      . exact hnot txn' htxn'
      . exact hincluded
    . simp only [Locks.held, Option.toList_some]
      rw [List.take_add_one, hnext]
      exact hreceived.append (List.Sublist.refl _)
  | insert txn hguard =>
    have hheld : node.locks.held = node.locks.txnQueue.transactions ++ [txn] := by
      simp [Locks.held, hguard]
    rw [hheld] at hnot hreceived
    have hinsert := TransactionQueue.insert_sublist node.locks.txnQueue txn
    refine ⟨hwf.insert txn, ?_, ?_⟩
    . intro txn' htxn'
      simp only [Locks.held, Option.toList_none, List.append_nil] at htxn'
      exact hnot txn' (hinsert.subset htxn')
    . simp only [Locks.held, Option.toList_none, List.append_nil]
      exact hinsert.trans hreceived

theorem QueueInvariant.popFront {clock : Nat} {sent : List (ReceivedTransaction T)}
    {node : Node T} (h : QueueInvariant clock sent node) :
    QueueInvariant clock sent { node with locks := node.locks.popFront } := by
  have hpop : node.locks.popFront.held.Sublist node.locks.held :=
    (TransactionQueue.popFront_sublist _).append (List.Sublist.refl _)
  exact ⟨h.wellFormed.popFront, fun txn htxn => h.notIncluded txn (hpop.subset htxn),
    hpop.trans h.received⟩

theorem QueueInvariant.locks {clock : Nat} {sent : List (ReceivedTransaction T)}
    {node : Node T} {locks : Locks T} (h : QueueInvariant clock sent node)
    (hlocks : LockStep sent node.state.includedTxns node.locks locks) :
    QueueInvariant clock sent { node with locks } := by
  cases hlocks with
  | collect hcollect => exact h.collect hcollect
  | popFront => exact h.popFront

theorem txnReceiver_le_of_collectStep {sent : List (ReceivedTransaction T)}
    {includedTxns : RotatingSet T.TxnCommitment} {locks locks' : Locks T}
    (h : CollectStep sent includedTxns locks locks') : locks.txnReceiver ≤ locks'.txnReceiver := by
  cases h with
  | discard => exact Nat.le_succ _
  | take => exact Nat.le_succ _
  | insert => exact Nat.le_refl _

theorem txnReceiver_le_of_lockStep {sent : List (ReceivedTransaction T)}
    {includedTxns : RotatingSet T.TxnCommitment} {locks locks' : Locks T}
    (h : LockStep sent includedTxns locks locks') : locks.txnReceiver ≤ locks'.txnReceiver := by
  cases h with
  | collect hcollect => exact txnReceiver_le_of_collectStep hcollect
  | popFront => exact Nat.le_refl _

theorem queueInvariant_inductive (period : Nat) :
    Inductive (T := T) period QueueInvariant ClonedQueueInvariant where
  bootstrap := by
    intro now
    refine ⟨TransactionQueue.wellFormed_new, ?_, ?_⟩
    . simp [Node.bootstrap, Locks.held, Locks.new, TransactionQueue.new]
    . simp [Node.bootstrap, Locks.held, Locks.new, TransactionQueue.new]
  node_mono := by
    intro _ _ sent node txns _ h
    exact ⟨h.wellFormed, h.notIncluded, h.received.trans (take_sublist_take_append ..)⟩
  call_mono := by
    intro _ _ sent node newChild txns _ h
    exact ⟨h.included, h.wellFormed, h.notInBlock, h.notIncluded,
      fun queue hqueue => (h.received queue hqueue).trans (take_sublist_take_append ..)⟩
  node_locks := fun h hlocks => h.locks hlocks
  call_locks := by
    intro _ sent node newChild locks _ h hlocks
    have hle := txnReceiver_le_of_lockStep hlocks
    exact ⟨h.included, h.wellFormed, h.notInBlock, h.notIncluded, fun queue hqueue =>
      (h.received queue hqueue).trans (List.take_prefix_take_left hle).sublist⟩
  newChild := by
    intro _ sent node quorumProposal daProposal checked now _ _ _
    refine ⟨?_, ?_, ?_, ?_, ?_⟩
    . intro commit hcommit
      exact RotatingSet.contains_of_contains_rotate hcommit
    all_goals
      intro queue hqueue
      rw [newChild_txnQueue] at hqueue
      contradiction
  cloneQueue := by
    intro _ sent node newChild newChild' hnode hcall hqueue
    obtain ⟨-, rfl⟩ := NewChild.cloneQueue_eq_some.mp hqueue
    have hmem : ∀ txn, txn ∈ (node.locks.txnQueue.prune newChild.txnCommitments).transactions ↔
        txn ∈ node.locks.txnQueue.transactions ∧ txn.commit ∉ newChild.txnCommitments :=
      fun _ => TransactionQueue.mem_prune hnode.wellFormed
    refine ⟨hcall.included, ?_, ?_, ?_, ?_⟩
    all_goals
      intro queue heq
      simp only [Option.some.injEq] at heq
      rw [← heq]
    . exact hnode.wellFormed.prune _
    . intro txn htxn
      exact ((hmem txn).mp htxn).2
    . intro txn htxn
      exact hnode.notIncluded txn (Locks.mem_held_of_mem_queue ((hmem txn).mp htxn).1)
    . exact (TransactionQueue.prune_sublist _ _).trans
        ((Locks.queue_sublist_held _).trans hnode.received)
  cloneReceiver := by
    intro _ sent node newChild addr now child locks _ hcall _ hreceiver _
    obtain ⟨-, rfl, queue, hqueue, rfl⟩ := NewChild.cloneReceiver_eq_some.mp hreceiver
    refine ⟨hcall.wellFormed queue hqueue, ?_, ?_⟩
    . intro txn htxn
      simp only [Locks.held, Option.toList_none, List.append_nil] at htxn
      have hblock := hcall.notInBlock queue hqueue txn htxn
      have hparent := hcall.notIncluded queue hqueue txn htxn
      apply eq_false_of_ne_true
      rw [RotatingSet.contains_extend, not_or]
      refine ⟨hblock, ?_⟩
      intro hincluded
      simp [hcall.included _ hincluded] at hparent
    . simpa [Locks.held] using hcall.received queue hqueue

theorem queueInvariant {period : Nat} {forest : Forest T}
    (h : Transition.Reachable step (IsNew period) forest) {addr : Nat} (haddr : addr < forest.size) :
    QueueInvariant forest.clock forest.sent (forest.nodes addr) :=
  (holds_of_reachable (queueInvariant_inductive period) h).node addr haddr

/--
The queue is an ordered set: its index is exact, nothing is in it twice, and its transactions were
broadcast in the order of the queue, before everything that the receiver still has to deliver.
-/
theorem queue_faithful {period : Nat} {forest : Forest T}
    (h : Transition.Reachable step (IsNew period) forest) {addr : Nat}
    (haddr : addr < forest.size) :
    let locks := forest.locks addr
    let transactions := locks.txnQueue.transactions
    locks.txnQueue.commits = (transactions.map (·.commit)).toFinset ∧
      (transactions.map (·.commit)).Nodup ∧
      ∃ position : Fin transactions.length → Nat, StrictMono position ∧
        (∀ i, forest.sent[position i]? = some transactions[i]) ∧
        ∀ i, position i < locks.txnReceiver := by
  intro locks transactions
  have hinv := queueInvariant h haddr
  have hsublist : transactions.Sublist (forest.sent.take locks.txnReceiver) :=
    (Locks.queue_sublist_held _).trans hinv.received
  refine ⟨hinv.wellFormed.commits_eq, hinv.wellFormed.nodup, ?_⟩
  rw [List.sublist_iff_exists_fin_orderEmbedding_get_eq] at hsublist
  obtain ⟨position, hposition⟩ := hsublist
  have hlt : ∀ i, (position i : Nat) < locks.txnReceiver ∧ (position i : Nat) < forest.sent.length := by
    intro i
    have := (position i).isLt
    simp only [List.length_take] at this
    omega
  refine ⟨fun i => position i, position.strictMono, ?_, fun i => (hlt i).1⟩
  intro i
  have := hposition i
  simp only [List.get_eq_getElem, List.getElem_take] at this
  rw [List.getElem?_eq_getElem (hlt i).2, ← this]
  rfl

theorem queue_faithful_repeated :
    ∃ forest : Forest TestTypes,
      Transition.run step (new 5 0)
        [.broadcast (TestTypes.txn 8), .broadcast (TestTypes.txn 8), .broadcast (TestTypes.txn 9),
          .tryRecv 0, .insert 0, .tryRecv 0, .insert 0, .tryRecv 0, .insert 0] = some forest ∧
      (forest.locks 0).txnQueue.transactions = [TestTypes.txn 8, TestTypes.txn 9] ∧
      ((forest.locks 0).txnQueue.transactions.map (·.commit)).Nodup := by
  have hforest : ∃ forest : Forest TestTypes,
      Transition.run step (new 5 0)
        [.broadcast (TestTypes.txn 8), .broadcast (TestTypes.txn 8), .broadcast (TestTypes.txn 9),
          .tryRecv 0, .insert 0, .tryRecv 0, .insert 0, .tryRecv 0, .insert 0] = some forest ∧
      forest.size = 1 ∧
      (forest.locks 0).txnQueue.transactions = [TestTypes.txn 8, TestTypes.txn 9] :=
    ⟨_, rfl, rfl, rfl⟩
  obtain ⟨forest, hrun, hsize, hqueue⟩ := hforest
  have haddr : 0 < forest.size := by omega
  exact ⟨forest, hrun, hqueue, (queue_faithful ⟨_, _, ⟨0, rfl⟩, hrun⟩ haddr).2.1⟩

end Forest

end BuilderCore
