import BuilderCore.Shared.Coordinator.Lemmas

/-!
This module contains how the service hands transactions to its coordinator, and what the status of a
transaction tells in every run.
-/

namespace BuilderCore

open Transition

variable {T : NodeType}

/--
The text of `Error::TxTooBig`.
-/
def txTooBigReason (len maxTxLen : Nat) : String := s!"Transaction too big ({len}/{maxTxLen})"

namespace GlobalState

/--
`maxTxLen` is the limit that `max_block_size` returns at the time of the call.
-/
def handleTransaction (coordinator : Coordinator T) (maxTxLen : Nat) (tx : ReceivedTransaction T)
    (maybeEvicted : Except (TrySendError T) (Option (ReceivedTransaction T))) :
    Coordinator T × Except (Error T) Unit :=
  let len := T.minimumBlockSize tx.transaction
  if len > maxTxLen then
    let rejected := .rejected (txTooBigReason len maxTxLen)
    ({ coordinator with txStatus := coordinator.txStatus.updateTxnStatus tx.commit rejected },
      .error (.txTooBig len maxTxLen))
  else
    coordinator.handleTransaction tx maybeEvicted

inductive Action (T : NodeType) where
  | handleTransaction (maxTxLen : Nat) (tx : ReceivedTransaction T)
      (maybeEvicted : Except (TrySendError T) (Option (ReceivedTransaction T)))
  | coordinator (action : Coordinator.Action T)

def step (coordinator : Coordinator T) (action : Action T) : Option (Coordinator T) :=
  match action with
  | .handleTransaction maxTxLen tx maybeEvicted =>
    some (handleTransaction coordinator maxTxLen tx maybeEvicted).1
  | .coordinator action => coordinator.step action

end GlobalState

namespace Coordinator

def status (self : Coordinator T) (txnHash : T.TxnCommitment) : TransactionStatus :=
  self.txStatus.txStatus txnHash

theorem status_handleTransaction_of_final {self : Coordinator T} {txnHash : T.TxnCommitment}
    (h : (self.status txnHash).isFinal = true) (tx : ReceivedTransaction T)
    (maybeEvicted : Except (TrySendError T) (Option (ReceivedTransaction T))) :
    (self.handleTransaction tx maybeEvicted).1.status txnHash = self.status txnHash := by
  cases maybeEvicted with
  | error err => exact TxStatusCache.txStatus_updateTxnStatus_of_final h _ _
  | ok evicted => exact TxStatusCache.txStatus_updateTxnStatus_of_final h _ _

theorem status_step_of_final {self self' : Coordinator T} {action : Action T}
    {txnHash : T.TxnCommitment} (h : (self.status txnHash).isFinal = true)
    (hstep : self.step action = some self') : self'.status txnHash = self.status txnHash := by
  cases change_of_step hstep with
  | decide latest rest => exact TxStatusCache.txStatus_sequenceLeaves_of_final h _
  | transaction transaction maybeEvicted =>
    rw [← status_handleTransaction_of_final h transaction maybeEvicted]
    exact congrArg (status · txnHash) (Option.some.inj hstep).symm
  | _ => rfl

theorem status_of_accepted {self self' : Coordinator T} {tx : ReceivedTransaction T}
    {maybeEvicted : Except (TrySendError T) (Option (ReceivedTransaction T))}
    (h : self.handleTransaction tx maybeEvicted = (self', .ok ())) :
    self'.status tx.commit = .pending ∨ (self'.status tx.commit).isSequenced = true ↔
      (self.status tx.commit).isRejected = false := by
  cases maybeEvicted with
  | error err => simp [Coordinator.handleTransaction] at h
  | ok evicted =>
    simp only [Coordinator.handleTransaction, Prod.mk.injEq, and_true] at h
    have hstatus : self'.status tx.commit =
        if tx.commit = tx.commit ∧ (self.status tx.commit).isFinal = false then .pending
        else self.status tx.commit := by
      rw [← h]
      exact TxStatusCache.txStatus_updateTxnStatus _ _ _ _
    rw [hstatus]
    cases self.status tx.commit <;>
      simp [TransactionStatus.isFinal, TransactionStatus.isRejected, TransactionStatus.isSequenced]

theorem status_of_decided {self self' : Coordinator T} {leafChain : List (LeafInfo T)}
    {pruned : BuilderStateMap T} (h : self.handleDecide leafChain = some (self', pruned))
    {txnHash : T.TxnCommitment}
    (hcontains : ∃ leafInfo ∈ leafChain, TxStatusCache.Contains leafInfo txnHash) :
    (self'.status txnHash).isSequenced = true ↔ (self.status txnHash).isRejected = false := by
  have htxStatus : self'.txStatus = self.txStatus.sequenceLeaves leafChain := by
    unfold handleDecide at h
    split at h
    . contradiction
    . simp only [Option.some.injEq, Prod.mk.injEq] at h
      rw [← h.1]
  rw [status, htxStatus]
  cases hrejected : (self.status txnHash).isRejected with
  | false =>
    simp only [iff_true]
    exact TxStatusCache.isSequenced_sequenceLeaves hrejected hcontains
  | true =>
    have hfinal : (self.status txnHash).isFinal = true := by
      cases hstatus : self.status txnHash <;>
        simp_all [TransactionStatus.isRejected, TransactionStatus.isFinal]
    rw [TxStatusCache.txStatus_sequenceLeaves_of_final hfinal, ← status]
    cases hstatus : self.status txnHash <;>
      simp_all [TransactionStatus.isRejected, TransactionStatus.isSequenced]

end Coordinator

namespace GlobalState

open Coordinator (status)

theorem status_step_of_final {coordinator coordinator' : Coordinator T} {action : Action T}
    {txnHash : T.TxnCommitment} (h : (coordinator.status txnHash).isFinal = true)
    (hstep : step coordinator action = some coordinator') :
    coordinator'.status txnHash = coordinator.status txnHash := by
  cases action with
  | handleTransaction maxTxLen tx maybeEvicted =>
    simp only [step, Option.some.injEq, handleTransaction] at hstep
    rw [← hstep]
    split
    . exact TxStatusCache.txStatus_updateTxnStatus_of_final h _ _
    . exact Coordinator.status_handleTransaction_of_final h tx maybeEvicted
  | coordinator action => exact Coordinator.status_step_of_final h hstep

theorem status_run_of_final {coordinator coordinator' : Coordinator T} {actions : List (Action T)}
    {txnHash : T.TxnCommitment} (h : (coordinator.status txnHash).isFinal = true)
    (hrun : run step coordinator actions = some coordinator') :
    coordinator'.status txnHash = coordinator.status txnHash := by
  have hstep : ∀ self action self', (self.status txnHash).isFinal = true ∧
      self.status txnHash = coordinator.status txnHash → step self action = some self' →
        (self'.status txnHash).isFinal = true ∧
          self'.status txnHash = coordinator.status txnHash := by
    rintro self action self' ⟨hfinal, hstatus⟩ hstep
    have hkept := status_step_of_final hfinal hstep
    exact ⟨by rwa [hkept], hkept.trans hstatus⟩
  exact (run_invariant hstep ⟨h, rfl⟩ hrun).2

theorem status_of_accepted {coordinator coordinator' : Coordinator T} {maxTxLen : Nat}
    {tx : ReceivedTransaction T}
    {maybeEvicted : Except (TrySendError T) (Option (ReceivedTransaction T))}
    (h : handleTransaction coordinator maxTxLen tx maybeEvicted = (coordinator', .ok ())) :
    coordinator'.status tx.commit = .pending ∨ (coordinator'.status tx.commit).isSequenced = true ↔
      (coordinator.status tx.commit).isRejected = false := by
  unfold handleTransaction at h
  dsimp only at h
  split at h
  . simp at h
  . exact Coordinator.status_of_accepted h

/--
Whatever was rejected once stays rejected, and apart from that the status tells the truth.
-/
theorem status_unless_rejected (coordinator : Coordinator T) :
    (∀ maxTxLen tx maybeEvicted coordinator',
      handleTransaction coordinator maxTxLen tx maybeEvicted = (coordinator', .ok ()) →
        (coordinator'.status tx.commit = .pending ∨
            (coordinator'.status tx.commit).isSequenced = true ↔
          (coordinator.status tx.commit).isRejected = false)) ∧
    (∀ tx maybeEvicted coordinator',
      coordinator.handleTransaction tx maybeEvicted = (coordinator', .ok ()) →
        (coordinator'.status tx.commit = .pending ∨
            (coordinator'.status tx.commit).isSequenced = true ↔
          (coordinator.status tx.commit).isRejected = false)) ∧
    (∀ leafChain coordinator' pruned txnHash,
      coordinator.handleDecide leafChain = some (coordinator', pruned) →
        (∃ leafInfo ∈ leafChain, TxStatusCache.Contains leafInfo txnHash) →
          ((coordinator'.status txnHash).isSequenced = true ↔
            (coordinator.status txnHash).isRejected = false)) ∧
    ∀ actions coordinator' txnHash, run step coordinator actions = some coordinator' →
      ((coordinator.status txnHash).isSequenced = true ∨
        (coordinator.status txnHash).isRejected = true) →
      coordinator'.status txnHash = coordinator.status txnHash := by
  refine ⟨?_, ?_, ?_, ?_⟩
  . intro maxTxLen tx maybeEvicted coordinator' h
    exact status_of_accepted h
  . intro tx maybeEvicted coordinator' h
    exact Coordinator.status_of_accepted h
  . intro leafChain coordinator' pruned txnHash h hcontains
    exact Coordinator.status_of_decided h hcontains
  . intro actions coordinator' txnHash hrun hfinal
    apply status_run_of_final _ hrun
    cases hstatus : coordinator.status txnHash <;>
      simp_all [TransactionStatus.isSequenced, TransactionStatus.isRejected,
        TransactionStatus.isFinal]

def testLeaf : LeafInfo TestTypes := ⟨1, some [7], (), 1⟩

theorem contains_testLeaf :
    ∃ leafInfo ∈ [testLeaf], TxStatusCache.Contains leafInfo (TestTypes.txn 7).commit :=
  ⟨testLeaf, List.mem_singleton_self _, [7], rfl, List.mem_singleton_self _⟩

theorem status_unless_rejected_testLeaf :
    ∃ accepted decided pruned,
      handleTransaction (.new 5 0) 10 (TestTypes.txn 7) (.ok none) = (accepted, .ok ()) ∧
      (accepted.status (TestTypes.txn 7).commit = .pending ∨
        (accepted.status (TestTypes.txn 7).commit).isSequenced = true) ∧
      accepted.handleDecide [testLeaf] = some (decided, pruned) ∧
      (decided.status (TestTypes.txn 7).commit).isSequenced = true ∧
      ∀ actions last, run step decided actions = some last →
        last.status (TestTypes.txn 7).commit = decided.status (TestTypes.txn 7).commit := by
  have hcalls : ∃ accepted decided pruned,
      handleTransaction (.new 5 0) 10 (TestTypes.txn 7) (.ok none) = (accepted, .ok ()) ∧
      (accepted.status (TestTypes.txn 7).commit).isRejected = false ∧
      accepted.handleDecide [testLeaf] = some (decided, pruned) :=
    ⟨_, _, _, rfl, rfl, rfl⟩
  obtain ⟨accepted, decided, pruned, haccepted, hrejected, hdecided⟩ := hcalls
  have hseq := ((status_unless_rejected accepted).2.2.1 _ _ _ _ hdecided contains_testLeaf).mpr
    hrejected
  refine ⟨accepted, decided, pruned, haccepted, ?_, hdecided, hseq, ?_⟩
  . exact ((status_unless_rejected _).1 _ _ _ _ haccepted).mpr rfl
  . intro actions last hrun
    exact (status_unless_rejected decided).2.2.2 actions last _ hrun (.inl hseq)

/--
The channel was full once. The transaction is accepted later, and it is decided.
-/
theorem rejected_stays_rejected :
    ∃ rejected accepted decided pruned,
      run step (.new 5 0)
        [.handleTransaction 10 (TestTypes.txn 7) (.error (.full (TestTypes.txn 7)))] =
          some rejected ∧
      handleTransaction rejected 10 (TestTypes.txn 7) (.ok none) = (accepted, .ok ()) ∧
      ¬ (accepted.status (TestTypes.txn 7).commit = .pending ∨
        (accepted.status (TestTypes.txn 7).commit).isSequenced = true) ∧
      accepted.handleDecide [testLeaf] = some (decided, pruned) ∧
      (∃ leafInfo ∈ [testLeaf], TxStatusCache.Contains leafInfo (TestTypes.txn 7).commit) ∧
      ¬ (decided.status (TestTypes.txn 7).commit).isSequenced = true := by
  refine ⟨_, _, _, _, rfl, rfl, ?_, rfl, contains_testLeaf, ?_⟩
  . rintro (h | h) <;> contradiction
  . intro h
    contradiction

end GlobalState

end BuilderCore
