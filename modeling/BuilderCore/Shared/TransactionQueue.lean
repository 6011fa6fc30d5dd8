import BuilderCore.Shared.Block
import Mathlib.Data.Finset.Basic

/-!
This module contains the queue of a builder state: the transactions in the order in which they were
received, and the set of their commitments.
-/

namespace BuilderCore

variable {T : NodeType}

structure TransactionQueue (T : NodeType) where
  commits : Finset T.TxnCommitment
  transactions : List (ReceivedTransaction T)

namespace TransactionQueue

def new : TransactionQueue T := ⟨∅, []⟩

def prune (queue : TransactionQueue T) (commits : List T.TxnCommitment) : TransactionQueue T :=
  let left := queue.commits \ commits.toFinset
  ⟨left, queue.transactions.filter fun txn => txn.commit ∈ left⟩

def insert (queue : TransactionQueue T) (transaction : ReceivedTransaction T) :
    TransactionQueue T × Bool :=
  if transaction.commit ∉ queue.commits then
    (⟨Insert.insert transaction.commit queue.commits, queue.transactions ++ [transaction]⟩, true)
  else
    (queue, false)

def popFront (queue : TransactionQueue T) :
    TransactionQueue T × Option (ReceivedTransaction T) :=
  match queue.transactions with
  | [] => (queue, none)
  | txn :: rest => (⟨queue.commits.erase txn.commit, rest⟩, some txn)

def isEmpty (queue : TransactionQueue T) : Bool := queue.commits = ∅

structure WellFormed (queue : TransactionQueue T) : Prop where
  commits_eq : queue.commits = (queue.transactions.map (·.commit)).toFinset
  nodup : (queue.transactions.map (·.commit)).Nodup

theorem WellFormed.mem_commits {queue : TransactionQueue T} (h : queue.WellFormed)
    {commit : T.TxnCommitment} :
    commit ∈ queue.commits ↔ ∃ txn ∈ queue.transactions, txn.commit = commit := by
  simp [h.commits_eq]

theorem wellFormed_new : (new : TransactionQueue T).WellFormed := ⟨by simp [new], by simp [new]⟩

theorem prune_sublist (queue : TransactionQueue T) (commits : List T.TxnCommitment) :
    (queue.prune commits).transactions.Sublist queue.transactions :=
  List.filter_sublist

theorem mem_prune {queue : TransactionQueue T} (h : queue.WellFormed)
    {commits : List T.TxnCommitment} {txn : ReceivedTransaction T} :
    txn ∈ (queue.prune commits).transactions ↔
      txn ∈ queue.transactions ∧ txn.commit ∉ commits := by
  simp only [prune, Finset.mem_sdiff, List.mem_toFinset, List.mem_filter, decide_eq_true_eq,
    and_congr_right_iff]
  intro htxn
  have : txn.commit ∈ queue.commits := h.mem_commits.mpr ⟨txn, htxn, rfl⟩
  simp [this]

theorem WellFormed.prune {queue : TransactionQueue T} (h : queue.WellFormed)
    (commits : List T.TxnCommitment) : (queue.prune commits).WellFormed where
  commits_eq := by
    ext commit
    simp only [List.mem_toFinset, List.mem_map, mem_prune h]
    simp only [TransactionQueue.prune, Finset.mem_sdiff, List.mem_toFinset, h.mem_commits]
    constructor
    . rintro ⟨⟨txn, htxn, rfl⟩, hnot⟩
      exact ⟨txn, ⟨htxn, hnot⟩, rfl⟩
    . rintro ⟨txn, ⟨htxn, hnot⟩, rfl⟩
      exact ⟨⟨txn, htxn, rfl⟩, hnot⟩
  nodup := h.nodup.sublist ((prune_sublist queue commits).map _)

theorem WellFormed.insert {queue : TransactionQueue T} (h : queue.WellFormed)
    (txn : ReceivedTransaction T) : (queue.insert txn).1.WellFormed := by
  unfold TransactionQueue.insert
  split
  . next hnew =>
    constructor
    . ext commit
      simp only [Finset.mem_insert, h.mem_commits, List.mem_toFinset, List.mem_map,
        List.mem_append, List.mem_singleton]
      constructor
      . rintro (rfl | ⟨txn', htxn', rfl⟩)
        . exact ⟨txn, .inr rfl, rfl⟩
        . exact ⟨txn', .inl htxn', rfl⟩
      . rintro ⟨txn', htxn' | rfl, rfl⟩
        . exact .inr ⟨txn', htxn', rfl⟩
        . exact .inl rfl
    . simp only [List.map_append, List.map_cons, List.map_nil]
      rw [List.nodup_append]
      refine ⟨h.nodup, by simp, ?_⟩
      intro commit hcommit commit' hcommit'
      simp only [List.mem_singleton] at hcommit'
      rintro rfl
      apply hnew
      rw [h.commits_eq, ← hcommit']
      simpa using hcommit
  . exact h

theorem WellFormed.popFront {queue : TransactionQueue T} (h : queue.WellFormed) :
    queue.popFront.1.WellFormed := by
  unfold TransactionQueue.popFront
  split
  . exact h
  . next txn rest heq =>
    have hnodup := h.nodup
    simp only [heq, List.map_cons, List.nodup_cons] at hnodup
    constructor
    . simp only [h.commits_eq, heq, List.map_cons, List.toFinset_cons]
      rw [Finset.erase_insert]
      simpa using hnodup.1
    . exact hnodup.2

theorem mem_insert {queue : TransactionQueue T} {txn txn' : ReceivedTransaction T}
    (h : txn' ∈ (queue.insert txn).1.transactions) :
    txn' ∈ queue.transactions ∨ txn' = txn := by
  unfold insert at h
  split at h
  . simpa using h
  . exact .inl h

theorem insert_sublist (queue : TransactionQueue T) (txn : ReceivedTransaction T) :
    (queue.insert txn).1.transactions.Sublist (queue.transactions ++ [txn]) := by
  unfold insert
  split
  . exact List.Sublist.refl _
  . exact List.sublist_append_left ..

theorem mem_commits_insert {queue : TransactionQueue T} {txn : ReceivedTransaction T}
    {commit : T.TxnCommitment} :
    commit ∈ (queue.insert txn).1.commits ↔ commit = txn.commit ∨ commit ∈ queue.commits := by
  unfold insert
  split
  . simp
  . next hold =>
    simp only [not_not] at hold
    constructor
    . exact .inr
    . rintro (rfl | h)
      . exact hold
      . exact h

theorem transactions_popFront (queue : TransactionQueue T) :
    queue.popFront.1.transactions = queue.transactions.tail := by
  unfold popFront
  split
  . next heq => rw [heq, List.tail_nil]
  . next txn rest heq => rw [heq, List.tail_cons]

theorem WellFormed.front_notMem_tail {queue : TransactionQueue T} (h : queue.WellFormed)
    {txn : ReceivedTransaction T} (hfront : queue.transactions.head? = some txn) :
    txn ∉ queue.transactions.tail := by
  obtain ⟨rest, hrest⟩ := List.head?_eq_some_iff.mp hfront
  have hnodup := h.nodup
  rw [hrest, List.map_cons, List.nodup_cons] at hnodup
  rw [hrest, List.tail_cons]
  intro hmem
  exact hnodup.1 (List.mem_map_of_mem hmem)

theorem popFront_sublist (queue : TransactionQueue T) :
    queue.popFront.1.transactions.Sublist queue.transactions := by
  rw [transactions_popFront]
  exact List.tail_sublist _

end TransactionQueue

end BuilderCore
