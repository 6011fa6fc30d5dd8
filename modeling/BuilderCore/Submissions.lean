import BuilderCore.Api
import BuilderCore.Batch
import BuilderCore.LegacyRefactored.GlobalState

/-!
This module contains what becomes of a batch of transactions that is submitted to the refactored legacy
builder or to the marketplace builder, or that an event announces.
-/

namespace BuilderCore

open Batch

variable {T : NodeType}

def Error.toBuildError (error : Error T) : BuildError :=
  match error with
  | .txnSender _ => .error "Transaction channel error"
  | .txTooBig len maxTxLen => .error s!"Transaction too big ({len}/{maxTxLen}"

/--
The channel is full once `capacity` transactions were sent: nobody takes one out while a batch is
handled.
-/
def Coordinator.tryBroadcast (self : Coordinator T) (capacity : Nat) (tx : ReceivedTransaction T) :
    Except (TrySendError T) (Option (ReceivedTransaction T)) :=
  if self.forest.sent.length < capacity then .ok none else .error (.full tx)

/--
The futures of a submission that are run in order.
-/
def submitTxn (handle : Coordinator T → ReceivedTransaction T → Coordinator T × Except (Error T) Unit)
    (coordinator : Coordinator T) (txn : ReceivedTransaction T) :
    Coordinator T × Except BuildError T.TxnCommitment :=
  let commit := txn.commit
  match handle coordinator txn with
  | (coordinator, .error error) => (coordinator, .error error.toBuildError)
  | (coordinator, .ok ()) => (coordinator, .ok commit)

def received (source : TransactionSource) (txns : List T.Transaction) :
    List (ReceivedTransaction T) :=
  txns.map fun txn => .new txn source

namespace GlobalState

def handle (maxTxLen capacity : Nat) (coordinator : Coordinator T) (tx : ReceivedTransaction T) :
    Coordinator T × Except (Error T) Unit :=
  handleTransaction coordinator maxTxLen tx (coordinator.tryBroadcast capacity tx)

/--
`try_collect` drops the futures behind the first one that fails.
-/
def submitTxns (maxTxLen capacity : Nat) (coordinator : Coordinator T)
    (txns : List T.Transaction) : Coordinator T × Except BuildError (List T.TxnCommitment) :=
  tryAll (submitTxn (handle maxTxLen capacity)) coordinator (received .privateMempool txns)

/--
The branch of the event loop for `Transactions`. Nobody looks at the results.
-/
def handleTransactions (maxTxLen capacity : Nat) (coordinator : Coordinator T)
    (txns : List T.Transaction) : Coordinator T × List (Except (Error T) Unit) :=
  runAll (handle maxTxLen capacity) coordinator (received .publicMempool txns)

end GlobalState

namespace Marketplace

def handle (capacity : Nat) (coordinator : Coordinator T) (tx : ReceivedTransaction T) :
    Coordinator T × Except (Error T) Unit :=
  coordinator.handleTransaction tx (coordinator.tryBroadcast capacity tx)

/--
`processTransactions` is the hook.
-/
def submitTxns (processTransactions : List T.Transaction → List T.Transaction) (capacity : Nat)
    (coordinator : Coordinator T) (txns : List T.Transaction) :
    Coordinator T × Except BuildError (List T.TxnCommitment) :=
  tryAll (submitTxn (handle capacity)) coordinator
    (received .privateMempool (processTransactions txns))

end Marketplace

/--
What handling one transaction does to the channel and to the statuses. `fits` is the check of its size.
-/
structure Handles {ε β : Type} (capacity : Nat) (fits : ReceivedTransaction T → Bool)
    (f : Coordinator T → ReceivedTransaction T → Coordinator T × Except ε β) : Prop where
  sent : ∀ coordinator tx, (f coordinator tx).1.forest.sent =
    if fits tx = true ∧ coordinator.forest.sent.length < capacity then
      coordinator.forest.sent ++ [tx]
    else
      coordinator.forest.sent
  isOk_iff : ∀ coordinator tx, (f coordinator tx).2.isOk = true ↔
    fits tx = true ∧ coordinator.forest.sent.length < capacity
  known : ∀ coordinator tx commit, commit = tx.commit ∨ coordinator.status commit ≠ .unknown →
    (f coordinator tx).1.status commit ≠ .unknown

namespace Handles

variable {ε β : Type} {capacity : Nat} {fits : ReceivedTransaction T → Bool}
  {f : Coordinator T → ReceivedTransaction T → Coordinator T × Except ε β}

theorem sent_runAll (h : Handles capacity fits f) (coordinator : Coordinator T)
    (batch : List (ReceivedTransaction T)) :
    (runAll f coordinator batch).1.forest.sent = coordinator.forest.sent ++
      (batch.filter fits).take (capacity - coordinator.forest.sent.length) := by
  have happends := runAll_appends (·.forest.sent) id h.sent coordinator batch
  rwa [List.map_id] at happends

theorem known_runAll (h : Handles capacity fits f) {coordinator : Coordinator T}
    {batch : List (ReceivedTransaction T)} {tx : ReceivedTransaction T} (htx : tx ∈ batch) :
    (runAll f coordinator batch).1.status tx.commit ≠ .unknown := by
  induction batch generalizing coordinator with
  | nil => contradiction
  | cons tx' batch ih =>
    rw [runAll_cons]
    rcases List.mem_cons.mp htx with rfl | htx
    . have hkeeps : ∀ (c : Coordinator T) tx', c.status tx.commit ≠ .unknown →
          (f c tx').1.status tx.commit ≠ .unknown :=
        fun c tx' hknown => h.known c tx' tx.commit (.inr hknown)
      exact runAll_invariant (I := fun c : Coordinator T => c.status tx.commit ≠ .unknown) hkeeps
        (h.known coordinator tx tx.commit (.inl rfl)) batch
    . exact ih htx

theorem succeedsButLast_iff (h : Handles capacity fits f) (coordinator : Coordinator T)
    (batch : List (ReceivedTransaction T)) :
    SucceedsButLast f coordinator batch ↔ (∀ tx ∈ batch.dropLast, fits tx = true) ∧
      batch.length - 1 ≤ capacity - coordinator.forest.sent.length := by
  induction batch generalizing coordinator with
  | nil => simp [SucceedsButLast]
  | cons tx batch ih =>
    rw [SucceedsButLast, h.isOk_iff, ih, h.sent]
    cases batch with
    | nil => simp
    | cons tx' batch =>
      simp only [reduceCtorEq, false_or, List.dropLast_cons_cons, List.forall_mem_cons,
        List.length_cons, Nat.add_sub_cancel]
      constructor
      . rintro ⟨hboth, hrest, hroom⟩
        rw [if_pos hboth, List.length_append, List.length_singleton] at hroom
        exact ⟨⟨hboth.1, hrest⟩, by omega⟩
      . rintro ⟨⟨hfits, hrest⟩, hroom⟩
        have hboth : fits tx = true ∧ coordinator.forest.sent.length < capacity :=
          ⟨hfits, by omega⟩
        rw [if_pos hboth, List.length_append, List.length_singleton]
        exact ⟨hboth, hrest, by omega⟩

end Handles

/--
Every transaction of the batch was handled once and in order, whatever happened to the others.
-/
structure HandlesAll (capacity : Nat) (fits : ReceivedTransaction T → Bool)
    (coordinator coordinator' : Coordinator T) (handled batch : List (ReceivedTransaction T)) :
    Prop where
  handled : handled = batch
  sent : coordinator'.forest.sent = coordinator.forest.sent ++
    (batch.filter fits).take (capacity - coordinator.forest.sent.length)
  known : ∀ tx ∈ batch, coordinator'.status tx.commit ≠ .unknown

namespace Handles

variable {ε β : Type} {capacity : Nat} {fits : ReceivedTransaction T → Bool}
  {f : Coordinator T → ReceivedTransaction T → Coordinator T × Except ε β}

theorem handlesAll_runAll (h : Handles capacity fits f) (coordinator : Coordinator T)
    (batch : List (ReceivedTransaction T)) :
    HandlesAll capacity fits coordinator (runAll f coordinator batch).1
      (handled f coordinator batch) batch :=
  ⟨handled_eq coordinator batch, h.sent_runAll coordinator batch, fun _ htx => h.known_runAll htx⟩

theorem handlesAll_tryAll_iff (h : Handles capacity fits f) (coordinator : Coordinator T)
    (batch : List (ReceivedTransaction T)) :
    HandlesAll capacity fits coordinator (tryAll f coordinator batch).1
        (attempted f coordinator batch) batch ↔
      (∀ tx ∈ batch.dropLast, fits tx = true) ∧
        batch.length - 1 ≤ capacity - coordinator.forest.sent.length := by
  rw [← h.succeedsButLast_iff, ← attempted_eq_iff]
  constructor
  . exact HandlesAll.handled
  . intro hattempted
    have hall := h.handlesAll_runAll coordinator batch
    rw [tryAll_fst, hattempted]
    exact ⟨rfl, hall.sent, hall.known⟩

end Handles

theorem TxStatusCache.txStatus_updateTxnStatus_ne_unknown {cache : TxStatusCache T}
    {txnHash txnHash' : T.TxnCommitment} {newStatus : TransactionStatus} (hnew : newStatus ≠ .unknown)
    (h : txnHash' = txnHash ∨ cache.txStatus txnHash' ≠ .unknown) :
    (cache.updateTxnStatus txnHash newStatus).txStatus txnHash' ≠ .unknown := by
  rw [txStatus_updateTxnStatus]
  split
  . exact hnew
  . next hnot =>
    rcases h with rfl | hknown
    . -- what is not updated is final
      intro hunknown
      exact hnot ⟨rfl, by rw [hunknown]; rfl⟩
    . exact hknown

theorem Coordinator.tryBroadcast_eq_ok {self : Coordinator T} {capacity : Nat}
    (h : self.forest.sent.length < capacity) (tx : ReceivedTransaction T) :
    self.tryBroadcast capacity tx = .ok none :=
  if_pos h

theorem Coordinator.tryBroadcast_eq_error {self : Coordinator T} {capacity : Nat}
    (h : ¬ self.forest.sent.length < capacity) (tx : ReceivedTransaction T) :
    self.tryBroadcast capacity tx = .error (.full tx) :=
  if_neg h

theorem Marketplace.handles (capacity : Nat) :
    Handles capacity (fun _ => true) (handle (T := T) capacity) where
  sent coordinator tx := by
    by_cases hroom : coordinator.forest.sent.length < capacity
    . rw [handle, Coordinator.tryBroadcast_eq_ok hroom, if_pos ⟨rfl, hroom⟩]
      rfl
    . rw [handle, Coordinator.tryBroadcast_eq_error hroom, if_neg (fun hboth => hroom hboth.2)]
      rfl
  isOk_iff coordinator tx := by
    by_cases hroom : coordinator.forest.sent.length < capacity
    . rw [handle, Coordinator.tryBroadcast_eq_ok hroom]
      exact ⟨fun _ => ⟨rfl, hroom⟩, fun _ => rfl⟩
    . rw [handle, Coordinator.tryBroadcast_eq_error hroom]
      constructor
      . intro hok
        contradiction
      . intro hboth
        exact absurd hboth.2 hroom
  known coordinator tx commit h := by
    unfold handle
    cases coordinator.tryBroadcast capacity tx with
    | error err => exact TxStatusCache.txStatus_updateTxnStatus_ne_unknown (by simp) h
    | ok evicted => exact TxStatusCache.txStatus_updateTxnStatus_ne_unknown (by simp) h

namespace GlobalState

def fits (maxTxLen : Nat) (tx : ReceivedTransaction T) : Bool :=
  T.minimumBlockSize tx.transaction ≤ maxTxLen

theorem fits_iff {maxTxLen : Nat} {tx : ReceivedTransaction T} :
    fits maxTxLen tx = true ↔ T.minimumBlockSize tx.transaction ≤ maxTxLen :=
  decide_eq_true_iff

theorem handle_of_fits {maxTxLen : Nat} {tx : ReceivedTransaction T} (h : fits maxTxLen tx = true)
    (capacity : Nat) (coordinator : Coordinator T) :
    handle maxTxLen capacity coordinator tx = Marketplace.handle capacity coordinator tx := by
  rw [fits_iff] at h
  rw [handle, handleTransaction, if_neg (Nat.not_lt.mpr h)]
  rfl

theorem handle_of_not_fits {maxTxLen : Nat} {tx : ReceivedTransaction T}
    (h : ¬ fits maxTxLen tx = true) (capacity : Nat) (coordinator : Coordinator T) :
    handle maxTxLen capacity coordinator tx =
      ({ coordinator with
          txStatus := coordinator.txStatus.updateTxnStatus tx.commit
            (.rejected (txTooBigReason (T.minimumBlockSize tx.transaction) maxTxLen)) },
        .error (.txTooBig (T.minimumBlockSize tx.transaction) maxTxLen)) := by
  rw [fits_iff] at h
  rw [handle, handleTransaction, if_pos (Nat.not_le.mp h)]

theorem handles (maxTxLen capacity : Nat) :
    Handles capacity (fits maxTxLen) (handle (T := T) maxTxLen capacity) where
  sent coordinator tx := by
    by_cases hfits : fits maxTxLen tx = true
    . rw [handle_of_fits hfits, (Marketplace.handles capacity).sent, hfits]
    . rw [handle_of_not_fits hfits, if_neg (fun hboth => hfits hboth.1)]
  isOk_iff coordinator tx := by
    by_cases hfits : fits maxTxLen tx = true
    . rw [handle_of_fits hfits, (Marketplace.handles capacity).isOk_iff, hfits]
    . rw [handle_of_not_fits hfits]
      constructor
      . intro hok
        contradiction
      . intro hboth
        exact absurd hboth.1 hfits
  known coordinator tx commit h := by
    by_cases hfits : fits maxTxLen tx = true
    . rw [handle_of_fits hfits]
      exact (Marketplace.handles capacity).known coordinator tx commit h
    . rw [handle_of_not_fits hfits]
      exact TxStatusCache.txStatus_updateTxnStatus_ne_unknown (by simp) h

end GlobalState

section

variable {handle : Coordinator T → ReceivedTransaction T → Coordinator T × Except (Error T) Unit}

theorem submitTxn_fst (coordinator : Coordinator T) (tx : ReceivedTransaction T) :
    (submitTxn handle coordinator tx).1 = (handle coordinator tx).1 := by
  unfold submitTxn
  dsimp only
  split
  . next heq => rw [heq]
  . next heq => rw [heq]

theorem submitTxn_isOk (coordinator : Coordinator T) (tx : ReceivedTransaction T) :
    (submitTxn handle coordinator tx).2.isOk = (handle coordinator tx).2.isOk := by
  unfold submitTxn
  dsimp only
  split
  . next heq =>
    rw [heq]
    rfl
  . next heq =>
    rw [heq]
    rfl

theorem Handles.submitTxn {capacity : Nat} {fits : ReceivedTransaction T → Bool}
    (h : Handles capacity fits handle) : Handles capacity fits (submitTxn handle) where
  sent coordinator tx := by rw [submitTxn_fst, h.sent]
  isOk_iff coordinator tx := by rw [submitTxn_isOk, h.isOk_iff]
  known coordinator tx commit hcommit := by
    rw [submitTxn_fst]
    exact h.known coordinator tx commit hcommit

end

theorem received_dropLast (source : TransactionSource) (txns : List T.Transaction) :
    (received source txns).dropLast = received source txns.dropLast :=
  (List.map_dropLast ..).symm

theorem length_received (source : TransactionSource) (txns : List T.Transaction) :
    (received source txns).length = txns.length :=
  List.length_map ..

/--
A submission handles the whole batch exactly when no transaction but the last one can fail, while an
event always does.
-/
theorem submitTxns_handlesAll_iff (capacity : Nat) (coordinator : Coordinator T)
    (txns : List T.Transaction) :
    (∀ maxTxLen,
      HandlesAll capacity (GlobalState.fits maxTxLen) coordinator
          (GlobalState.submitTxns maxTxLen capacity coordinator txns).1
          (attempted (submitTxn (GlobalState.handle maxTxLen capacity)) coordinator
            (received .privateMempool txns))
          (received .privateMempool txns) ↔
        (∀ txn ∈ txns.dropLast, T.minimumBlockSize txn ≤ maxTxLen) ∧
          txns.length - 1 ≤ capacity - coordinator.forest.sent.length) ∧
    (∀ processTransactions,
      HandlesAll capacity (fun _ => true) coordinator
          (Marketplace.submitTxns processTransactions capacity coordinator txns).1
          (attempted (submitTxn (Marketplace.handle capacity)) coordinator
            (received .privateMempool (processTransactions txns)))
          (received .privateMempool (processTransactions txns)) ↔
        (processTransactions txns).length - 1 ≤ capacity - coordinator.forest.sent.length) ∧
    ∀ maxTxLen,
      HandlesAll capacity (GlobalState.fits maxTxLen) coordinator
        (GlobalState.handleTransactions maxTxLen capacity coordinator txns).1
        (handled (GlobalState.handle maxTxLen capacity) coordinator (received .publicMempool txns))
        (received .publicMempool txns) := by
  refine ⟨?_, ?_, ?_⟩
  . intro maxTxLen
    have hall := (GlobalState.handles maxTxLen capacity).submitTxn.handlesAll_tryAll_iff coordinator
      (received .privateMempool txns)
    rw [received_dropLast, length_received] at hall
    apply hall.trans
    simp only [received, List.forall_mem_map, GlobalState.fits_iff, ReceivedTransaction.new]
  . intro processTransactions
    have hall := (Marketplace.handles capacity).submitTxn.handlesAll_tryAll_iff coordinator
      (received .privateMempool (processTransactions txns))
    rw [length_received] at hall
    apply hall.trans
    simp
  . intro maxTxLen
    exact (GlobalState.handles maxTxLen capacity).handlesAll_runAll coordinator _

/--
With a limit of 10 the first transaction is too big.
-/
def testBatch : List TestTypes.Transaction := show List Nat from [12, 3]

/--
The second transaction is never attempted. The same happens in the marketplace when the channel is
full.
-/
theorem submitTxns_drops :
    (¬ HandlesAll 5 (GlobalState.fits 10) (.new 5 0)
      (GlobalState.submitTxns 10 5 (.new 5 0) testBatch).1
      (attempted (submitTxn (GlobalState.handle 10 5)) (.new 5 0)
        (received .privateMempool testBatch))
      (received .privateMempool testBatch)) ∧
    (GlobalState.submitTxns 10 5 (.new 5 0) testBatch).1.status (TestTypes.txn 3).commit =
      .unknown ∧
    (GlobalState.handleTransactions 10 5 (.new 5 0) testBatch).1.status (TestTypes.txn 3).commit =
      .pending ∧
    ¬ HandlesAll 0 (fun _ => true) (.new 5 0)
      (Marketplace.submitTxns id 0 (.new 5 0) testBatch).1
      (attempted (submitTxn (Marketplace.handle 0)) (.new 5 0) (received .privateMempool testBatch))
      (received .privateMempool testBatch) := by
  refine ⟨?_, rfl, rfl, ?_⟩
  . intro hall
    exact hall.known _ (.tail _ (.head _)) rfl
  . intro hall
    exact hall.known _ (.tail _ (.head _)) rfl

end BuilderCore
