import BuilderCore.Shared.Block
import Mathlib.Logic.Function.Basic

/-!
This module contains the status that the coordinator keeps for every transaction.
-/

namespace BuilderCore

variable {T : NodeType}

inductive TransactionStatus where
  | pending
  | sequenced (leaf : Nat)
  | rejected (reason : String)
  | unknown
  deriving DecidableEq, Repr

namespace TransactionStatus

def isFinal : TransactionStatus → Bool
  | .rejected _ | .sequenced _ => true
  | _ => false

def isSequenced : TransactionStatus → Bool
  | .sequenced _ => true
  | _ => false

def isRejected : TransactionStatus → Bool
  | .rejected _ => true
  | _ => false

end TransactionStatus

/--
A cache that never evicts an entry.
-/
structure TxStatusCache (T : NodeType) where
  get : T.TxnCommitment → Option TransactionStatus

namespace TxStatusCache

def new : TxStatusCache T := ⟨fun _ => none⟩

def txStatus (cache : TxStatusCache T) (txnHash : T.TxnCommitment) : TransactionStatus :=
  (cache.get txnHash).getD .unknown

def updateTxnStatus (cache : TxStatusCache T) (txnHash : T.TxnCommitment)
    (newStatus : TransactionStatus) : TxStatusCache T :=
  match cache.get txnHash with
  | some (.rejected _) | some (.sequenced _) => cache
  | _ => ⟨Function.update cache.get txnHash (some newStatus)⟩

def sequenceLeaves (cache : TxStatusCache T) (leafChain : List (LeafInfo T)) : TxStatusCache T :=
  leafChain.foldl sequenceLeaf cache
where
  sequenceLeaf (cache : TxStatusCache T) (leafInfo : LeafInfo T) : TxStatusCache T :=
    match leafInfo.blockPayload with
    | none => cache
    | some payload =>
      (T.transactionCommitments payload leafInfo.metadata).foldl
        (fun cache commitment => cache.updateTxnStatus commitment (.sequenced leafInfo.blockNumber))
        cache

theorem txStatus_updateTxnStatus (cache : TxStatusCache T) (txnHash txnHash' : T.TxnCommitment)
    (newStatus : TransactionStatus) :
    (cache.updateTxnStatus txnHash newStatus).txStatus txnHash' =
      if txnHash' = txnHash ∧ (cache.txStatus txnHash).isFinal = false then
        newStatus
      else
        cache.txStatus txnHash' := by
  unfold updateTxnStatus
  by_cases heq : txnHash' = txnHash
  . subst heq
    split
    . next reason hold => simp [txStatus, hold, TransactionStatus.isFinal]
    . next leaf hold => simp [txStatus, hold, TransactionStatus.isFinal]
    . next hrejected hsequenced =>
      have hnot : (cache.txStatus txnHash').isFinal = false := by
        simp only [txStatus]
        match hold : cache.get txnHash' with
        | none => rfl
        | some .pending => rfl
        | some .unknown => rfl
        | some (.rejected reason) => exact absurd hold (hrejected reason)
        | some (.sequenced leaf) => exact absurd hold (hsequenced leaf)
      rw [if_pos ⟨rfl, hnot⟩]
      simp [txStatus]
  . rw [if_neg (fun hand => heq hand.1)]
    split
    . rfl
    . rfl
    . simp [txStatus, heq]

theorem txStatus_updateTxnStatus_of_final {cache : TxStatusCache T} {txnHash' : T.TxnCommitment}
    (h : (cache.txStatus txnHash').isFinal = true) (txnHash : T.TxnCommitment)
    (newStatus : TransactionStatus) :
    (cache.updateTxnStatus txnHash newStatus).txStatus txnHash' = cache.txStatus txnHash' := by
  rw [txStatus_updateTxnStatus, if_neg]
  rintro ⟨rfl, hnot⟩
  simp [h] at hnot

theorem txStatus_foldl_of_final {cache : TxStatusCache T} {txnHash : T.TxnCommitment}
    (h : (cache.txStatus txnHash).isFinal = true) (commitments : List T.TxnCommitment)
    (newStatus : TransactionStatus) :
    (commitments.foldl (fun cache commitment => cache.updateTxnStatus commitment newStatus)
      cache).txStatus txnHash = cache.txStatus txnHash := by
  induction commitments generalizing cache with
  | nil => rfl
  | cons commitment commitments ih =>
    have hhead := txStatus_updateTxnStatus_of_final h commitment newStatus
    rw [List.foldl_cons, ih, hhead]
    rwa [hhead]

theorem txStatus_foldl_of_mem {cache : TxStatusCache T} {txnHash : T.TxnCommitment}
    {commitments : List T.TxnCommitment} (hmem : txnHash ∈ commitments)
    (h : (cache.txStatus txnHash).isFinal = false) {newStatus : TransactionStatus}
    (hnew : newStatus.isFinal = true) :
    (commitments.foldl (fun cache commitment => cache.updateTxnStatus commitment newStatus)
      cache).txStatus txnHash = newStatus := by
  induction commitments generalizing cache with
  | nil => simp at hmem
  | cons commitment commitments ih =>
    rw [List.foldl_cons]
    by_cases heq : txnHash = commitment
    . subst heq
      have hhead : (cache.updateTxnStatus txnHash newStatus).txStatus txnHash = newStatus := by
        rw [txStatus_updateTxnStatus, if_pos ⟨rfl, h⟩]
      rw [txStatus_foldl_of_final, hhead]
      rwa [hhead]
    . apply ih
      . simpa [heq] using hmem
      . rw [txStatus_updateTxnStatus, if_neg (fun hand => heq hand.1)]
        exact h

def Contains (leafInfo : LeafInfo T) (txnHash : T.TxnCommitment) : Prop :=
  ∃ payload, leafInfo.blockPayload = some payload ∧
    txnHash ∈ T.transactionCommitments payload leafInfo.metadata

theorem txStatus_sequenceLeaf_of_final {cache : TxStatusCache T} {txnHash : T.TxnCommitment}
    (h : (cache.txStatus txnHash).isFinal = true) (leafInfo : LeafInfo T) :
    (sequenceLeaves.sequenceLeaf cache leafInfo).txStatus txnHash = cache.txStatus txnHash := by
  unfold sequenceLeaves.sequenceLeaf
  split
  . rfl
  . exact txStatus_foldl_of_final h _ _

theorem txStatus_sequenceLeaves_of_final {cache : TxStatusCache T} {txnHash : T.TxnCommitment}
    (h : (cache.txStatus txnHash).isFinal = true) (leafChain : List (LeafInfo T)) :
    (cache.sequenceLeaves leafChain).txStatus txnHash = cache.txStatus txnHash := by
  unfold sequenceLeaves
  induction leafChain generalizing cache with
  | nil => rfl
  | cons leafInfo leafChain ih =>
    have hhead := txStatus_sequenceLeaf_of_final h leafInfo
    rw [List.foldl_cons, ih, hhead]
    rwa [hhead]

theorem isFinal_of_isSequenced {status : TransactionStatus} (h : status.isSequenced = true) :
    status.isFinal = true := by
  cases status <;> simp_all [TransactionStatus.isSequenced, TransactionStatus.isFinal]

theorem isSequenced_or_not_isFinal {status : TransactionStatus} (h : status.isRejected = false) :
    status.isSequenced = true ∨ status.isFinal = false := by
  cases status <;>
    simp_all [TransactionStatus.isSequenced, TransactionStatus.isFinal, TransactionStatus.isRejected]

theorem isRejected_sequenceLeaf {cache : TxStatusCache T} {txnHash : T.TxnCommitment}
    (h : (cache.txStatus txnHash).isRejected = false) (leafInfo : LeafInfo T) :
    ((sequenceLeaves.sequenceLeaf cache leafInfo).txStatus txnHash).isRejected = false := by
  -- a leaf sets no status but sequenced
  unfold sequenceLeaves.sequenceLeaf
  split
  . exact h
  . generalize T.transactionCommitments _ _ = commitments
    induction commitments generalizing cache with
    | nil => exact h
    | cons commitment commitments ih =>
      apply ih
      rw [txStatus_updateTxnStatus]
      split
      . rfl
      . exact h

theorem isSequenced_sequenceLeaf {cache : TxStatusCache T} {txnHash : T.TxnCommitment}
    (h : (cache.txStatus txnHash).isRejected = false) {leafInfo : LeafInfo T}
    (hcontains : Contains leafInfo txnHash) :
    ((sequenceLeaves.sequenceLeaf cache leafInfo).txStatus txnHash).isSequenced = true := by
  obtain ⟨payload, hpayload, hmem⟩ := hcontains
  rcases isSequenced_or_not_isFinal h with hseq | hnot
  . rwa [txStatus_sequenceLeaf_of_final (isFinal_of_isSequenced hseq)]
  . simp only [sequenceLeaves.sequenceLeaf, hpayload]
    rw [txStatus_foldl_of_mem hmem hnot rfl]
    rfl

theorem isSequenced_sequenceLeaves {cache : TxStatusCache T} {txnHash : T.TxnCommitment}
    (h : (cache.txStatus txnHash).isRejected = false) {leafChain : List (LeafInfo T)}
    (hcontains : ∃ leafInfo ∈ leafChain, Contains leafInfo txnHash) :
    ((cache.sequenceLeaves leafChain).txStatus txnHash).isSequenced = true := by
  unfold sequenceLeaves
  induction leafChain generalizing cache with
  | nil => simp at hcontains
  | cons leafInfo leafChain ih =>
    rw [List.foldl_cons]
    obtain ⟨leafInfo', hmem, hcontains⟩ := hcontains
    rcases List.mem_cons.mp hmem with rfl | hmem
    . have hseq := isSequenced_sequenceLeaf h hcontains
      have hrest := txStatus_sequenceLeaves_of_final (isFinal_of_isSequenced hseq) leafChain
      simp only [sequenceLeaves] at hrest
      rwa [hrest]
    . exact ih (isRejected_sequenceLeaf h leafInfo) ⟨leafInfo', hmem, hcontains⟩

end TxStatusCache

end BuilderCore
