import BuilderCore.Legacy.TxQueue
import BuilderCore.Polling
import BuilderCore.Shared.State

/-!
This module contains the loops in which the builders wait for transactions before they build: those of
the refactored legacy builder and of the marketplace builder around `collect_txns` of the shared
builder state, and the one of the legacy builder.
-/

namespace BuilderCore

open Polling Transition

variable {T : NodeType}

inductive TryRecvError where
  | empty
  | closed
  | overflowed (lost : Nat)

abbrev Received (T : NodeType) : Type := Except TryRecvError (ReceivedTransaction T)

/--
The local variable of `collect_txns` next to the queue.
-/
structure CollectTxns (T : NodeType) where
  txnQueue : TransactionQueue T
  queueEmpty : Bool

namespace CollectTxns

def prepare (self : CollectTxns T) : CollectTxns T :=
  { self with queueEmpty := self.txnQueue.isEmpty }

def receive (includedTxns : RotatingSet T.TxnCommitment) (self : CollectTxns T)
    (received : Received T) : CollectTxns T × Bool :=
  match received with
  | .ok txn =>
    if includedTxns.contains txn.commit then
      (self, true)
    else
      (⟨(self.txnQueue.insert txn).1, false⟩, true)
  | .error .empty | .error .closed => (self, false)
  | .error (.overflowed _) => (self, true)

/--
`collect_txns` returns `queue_empty`, and its callers take that for `queue_populated`.
-/
def captureLoop (includedTxns : RotatingSet T.TxnCommitment) (timeoutAfter sleepInterval : Nat) :
    Loop (CollectTxns T) (Received T) where
  prepare := prepare
  receive := receive includedTxns
  exits self :=
    let queuePopulated := self.queueEmpty
    queuePopulated
  timeoutAfter
  sleepInterval

end CollectTxns

namespace GlobalState

def retryLoopResolution : Nat := 10

/--
The loop of `build_block`.
-/
def captureLoop (includedTxns : RotatingSet T.TxnCommitment)
    (start maximizeTxnCaptureTimeout : Nat) : Loop (CollectTxns T) (Received T) :=
  CollectTxns.captureLoop includedTxns (start + maximizeTxnCaptureTimeout)
    (maximizeTxnCaptureTimeout / retryLoopResolution)

end GlobalState

namespace Marketplace

/--
The loop of `collect_transactions`.
-/
def captureLoop (includedTxns : RotatingSet T.TxnCommitment) (start txCaptureTimeout : Nat) :
    Loop (CollectTxns T) (Received T) :=
  CollectTxns.captureLoop includedTxns (start + txCaptureTimeout) (txCaptureTimeout / 10)

end Marketplace

namespace Legacy.BlockBuilder

variable [ApiTypes T]

def receive (self : BlockBuilder T) (received : Received T) : BlockBuilder T × Bool :=
  match received with
  | .ok tx => (self.collectTxns [tx], true)
  | .error .empty | .error .closed => (self, false)
  | .error (.overflowed _) => (self, true)

variable (T) in
/--
The loop of the legacy `build_block`.
-/
def captureLoop (start maximizeTxnCaptureTimeout : Nat) : Loop (BlockBuilder T) (Received T) where
  prepare self := self
  receive := receive
  exits self := !self.txQueue.isEmpty
  timeoutAfter := start + maximizeTxnCaptureTimeout
  sleepInterval := maximizeTxnCaptureTimeout / 10

end Legacy.BlockBuilder

namespace CollectTxns

variable {includedTxns : RotatingSet T.TxnCommitment}

def populated (self : CollectTxns T) : Bool := !self.txnQueue.isEmpty

/--
What is returned tells whether the queue is empty, whatever was received.
-/
def Reports (self : CollectTxns T) : Prop := self.queueEmpty = self.txnQueue.isEmpty

theorem isEmpty_insert (txnQueue : TransactionQueue T) (txn : ReceivedTransaction T) :
    (txnQueue.insert txn).1.isEmpty = false := by
  have hmem : txn.commit ∈ (txnQueue.insert txn).1.commits :=
    TransactionQueue.mem_commits_insert.mpr (.inl rfl)
  rw [TransactionQueue.isEmpty, decide_eq_false_iff_not]
  intro hempty
  simp [hempty] at hmem

theorem establishes_reports (timeoutAfter sleepInterval : Nat) :
    Establishes (captureLoop includedTxns timeoutAfter sleepInterval) Reports where
  prepare _ := rfl
  receive self received hself := by
    unfold captureLoop receive
    dsimp only
    split
    . next txn =>
      split
      . exact hself
      . exact (isEmpty_insert self.txnQueue txn).symm
    . exact hself
    . exact hself
    . exact hself

theorem exits_eq_not_populated {timeoutAfter sleepInterval : Nat} {self : CollectTxns T}
    (h : self.Reports) :
    (captureLoop includedTxns timeoutAfter sleepInterval).exits self = !self.populated := by
  rw [populated, Bool.not_not]
  exact h

/--
A transaction that is received is handled as under the locks.
-/
theorem receive_eq_locks {locks : Locks T} {sent : List (ReceivedTransaction T)}
    {txn : ReceivedTransaction T} (hguard : locks.receiverGuard = none)
    (hnext : sent[locks.txnReceiver]? = some txn) (queueEmpty : Bool) :
    ∃ locks', locks.tryRecv sent includedTxns = some locks' ∧
      ((locks'.insertReceived.getD locks').txnQueue =
        (receive includedTxns ⟨locks.txnQueue, queueEmpty⟩ (.ok txn)).1.txnQueue) := by
  unfold Locks.tryRecv receive
  rw [hguard, hnext]
  dsimp only
  split
  . exact ⟨_, rfl, by simp [Locks.insertReceived]⟩
  . exact ⟨_, rfl, by simp [Locks.insertReceived]⟩

end CollectTxns

variable [ApiTypes T]

/--
The loops around `collect_txns` wait for transactions only if there is never time for another try
anyway, while the one of the legacy builder does.
-/
theorem waits_iff_decidesLate (includedTxns : RotatingSet T.TxnCommitment)
    (collectTxns : CollectTxns T) (builder : Legacy.BlockBuilder T) (now timeout : Nat)
    (actions : List (Polling.Action (Received T))) :
    (Along (step (GlobalState.captureLoop includedTxns now timeout))
        (Waits CollectTxns.populated (GlobalState.captureLoop includedTxns now timeout))
        (start collectTxns now) actions ↔
      Along (step (GlobalState.captureLoop includedTxns now timeout))
        (DecidesLate (GlobalState.captureLoop includedTxns now timeout))
        (start collectTxns now) actions) ∧
    (Along (step (Marketplace.captureLoop includedTxns now timeout))
        (Waits CollectTxns.populated (Marketplace.captureLoop includedTxns now timeout))
        (start collectTxns now) actions ↔
      Along (step (Marketplace.captureLoop includedTxns now timeout))
        (DecidesLate (Marketplace.captureLoop includedTxns now timeout))
        (start collectTxns now) actions) ∧
    Along (step (Legacy.BlockBuilder.captureLoop T now timeout))
      (Waits (fun builder => !builder.txQueue.isEmpty)
        (Legacy.BlockBuilder.captureLoop T now timeout))
      (start builder now) actions := by
  refine ⟨?_, ?_, ?_⟩
  . apply waits_along_iff (CollectTxns.establishes_reports _ _) _ (collected_start _ _)
    intro self hself
    exact CollectTxns.exits_eq_not_populated hself
  . apply waits_along_iff (CollectTxns.establishes_reports _ _) _ (collected_start _ _)
    intro self hself
    exact CollectTxns.exits_eq_not_populated hself
  . apply waits_along (I := fun _ => True) _ _ (collected_start _ _)
    . exact ⟨fun _ => trivial, fun _ _ _ => trivial⟩
    . intro builder _
      rfl

/--
The receiver is empty, or it holds a transaction first. There is time for another try both times.
-/
def testCapture (received : List (Received TestTypes)) :
    List (Polling.Action (Received TestTypes)) :=
  .check 0 :: (received.flatMap fun r => [.poll 0, .receive r]) ++ [.decide 0]

/--
The loop gives up on an empty queue at once, and it sleeps although it has a transaction.
-/
theorem not_waits :
    (∃ s, run (step (GlobalState.captureLoop (.new 5 0) 0 100))
        (start (⟨.new, true⟩ : CollectTxns TestTypes) 0) (testCapture [.error .empty]) = some s ∧
      s.phase = .stopped ∧ s.clock = 0 ∧ s.data.populated = false) ∧
    ¬ Along (step (GlobalState.captureLoop (.new 5 0) 0 100))
      (Waits CollectTxns.populated (GlobalState.captureLoop (.new 5 0) 0 100))
      (start (⟨.new, true⟩ : CollectTxns TestTypes) 0) (testCapture [.error .empty]) ∧
    ∃ s, run (step (Marketplace.captureLoop (.new 5 0) 0 100))
        (start (⟨.new, true⟩ : CollectTxns TestTypes) 0)
        (testCapture [.ok (TestTypes.txn 7), .error .empty]) = some s ∧
      s.phase = .checking ∧ s.data.populated = true := by
  refine ⟨⟨_, rfl, rfl, rfl, rfl⟩, ?_, ⟨_, rfl, rfl, rfl⟩⟩
  intro h
  have hdecide := (((h _ rfl).2 _ rfl).2 _ rfl).2 _ rfl
  have hwaits := hdecide.1 _ rfl
  have hcollected := hwaits.stops rfl (by decide)
  contradiction

end BuilderCore
