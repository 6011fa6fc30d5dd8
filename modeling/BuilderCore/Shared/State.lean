import BuilderCore.Shared.RotatingSet
import BuilderCore.Shared.TransactionQueue

/-!
This module contains the builder state and its two operations that concurrent tasks interleave:
`new_child` and `collect_txns`, each cut at the acquisitions of the queue lock and of the receiver
lock.
-/

namespace BuilderCore

variable {T : NodeType}

/--
An `Arc<BuilderState>`: the fields that never change, and the address of the two locks, which all
clones of the `Arc` share.
-/
structure BuilderState (T : NodeType) where
  parentBlockReferences : ParentBlockReferences T
  includedTxns : RotatingSet T.TxnCommitment
  addr : Nat

def BuilderState.id (state : BuilderState T) : BuilderStateId T :=
  state.parentBlockReferences.id

/--
What is behind the locks of a builder state. A receiver is the number of messages of the channel
that are not unread any more. While `collect_txns` holds the receiver lock with a message that it
still has to insert, `receiverGuard` is that message.
-/
structure Locks (T : NodeType) where
  txnQueue : TransactionQueue T
  txnReceiver : Nat
  receiverGuard : Option (ReceivedTransaction T)

namespace Locks

def new : Locks T := ⟨.new, 0, none⟩

def unread (locks : Locks T) (sent : List (ReceivedTransaction T)) :
    List (ReceivedTransaction T) :=
  sent.drop locks.txnReceiver

/--
One turn of the loop of `collect_txns` up to the insertion. `none` while the receiver lock is taken.
-/
def tryRecv (sent : List (ReceivedTransaction T)) (includedTxns : RotatingSet T.TxnCommitment)
    (locks : Locks T) : Option (Locks T) :=
  match locks.receiverGuard with
  | some _ => none
  | none =>
    match sent[locks.txnReceiver]? with
    | none => some locks
    | some txn =>
      if includedTxns.contains txn.commit then
        -- `continue` releases the receiver lock
        some { locks with txnReceiver := locks.txnReceiver + 1 }
      else
        some { locks with txnReceiver := locks.txnReceiver + 1, receiverGuard := some txn }

def insertReceived (locks : Locks T) : Option (Locks T) :=
  -- the receiver lock is released with the guard
  match locks.receiverGuard with
  | none => none
  | some txn => some { locks with txnQueue := (locks.txnQueue.insert txn).1, receiverGuard := none }

def popFront (locks : Locks T) : Locks T := { locks with txnQueue := locks.txnQueue.popFront.1 }

end Locks

structure NewChild (T : NodeType) where
  parent : BuilderState T
  parentBlockReferences : ParentBlockReferences T
  includedTxns : RotatingSet T.TxnCommitment
  txnCommitments : List T.TxnCommitment
  txnQueue : Option (TransactionQueue T)

/--
`new_child` up to the first lock.
-/
def BuilderState.newChild (self : BuilderState T) (quorumProposal : T.QuorumProposalWrapper)
    (daProposal : DaProposal2 T) (checked now : Nat) : NewChild T :=
  let txnCommitments := daProposal.txnCommitments
  let lastNonemptyView :=
    if txnCommitments.isEmpty then
      self.parentBlockReferences.lastNonemptyView
    else
      some (T.viewNumber quorumProposal)
  {
    parent := self
    parentBlockReferences := {
      viewNumber := T.viewNumber quorumProposal
      vidCommitment := T.payloadCommitment quorumProposal
      leafCommit := T.leafCommit quorumProposal
      builderCommitment := T.builderCommitment quorumProposal
      txCount := txnCommitments.length
      lastNonemptyView
    }
    includedTxns := self.includedTxns.rotate checked now
    txnCommitments
    txnQueue := none
  }

namespace NewChild

/--
The queue is cloned under its read lock and the clone is pruned.
-/
def cloneQueue (call : NewChild T) (locks : Locks T) : Option (NewChild T) :=
  match call.txnQueue with
  | some _ => none
  | none => some { call with txnQueue := some (locks.txnQueue.prune call.txnCommitments) }

/--
The child is built around a clone of the receiver, taken under the receiver lock. `none` while that
lock is taken.
-/
def cloneReceiver (call : NewChild T) (locks : Locks T) (addr : Nat) :
    Option (BuilderState T × Locks T) :=
  match call.txnQueue, locks.receiverGuard with
  | some txnQueue, none =>
    some (
      {
        parentBlockReferences := call.parentBlockReferences
        includedTxns := call.includedTxns.extend call.txnCommitments
        addr
      },
      { txnQueue, txnReceiver := locks.txnReceiver, receiverGuard := none })
  | _, _ => none

theorem cloneQueue_eq_some {call call' : NewChild T} {locks : Locks T} :
    call.cloneQueue locks = some call' ↔
      call.txnQueue = none ∧
        call' = { call with txnQueue := some (locks.txnQueue.prune call.txnCommitments) } := by
  unfold cloneQueue
  split <;> simp_all [eq_comm]

theorem cloneReceiver_eq_some {call : NewChild T} {locks childLocks : Locks T} {addr : Nat}
    {child : BuilderState T} :
    call.cloneReceiver locks addr = some (child, childLocks) ↔
      locks.receiverGuard = none ∧
      child = ⟨call.parentBlockReferences, call.includedTxns.extend call.txnCommitments, addr⟩ ∧
      ∃ txnQueue, call.txnQueue = some txnQueue ∧
        childLocks = ⟨txnQueue, locks.txnReceiver, none⟩ := by
  unfold cloneReceiver
  split
  . next txnQueue hqueue hguard =>
    simp only [Option.some.injEq, Prod.mk.injEq, hguard, hqueue, true_and]
    constructor
    . rintro ⟨rfl, rfl⟩
      exact ⟨rfl, txnQueue, rfl, rfl⟩
    . rintro ⟨rfl, _, rfl, rfl⟩
      exact ⟨rfl, rfl⟩
  . next hnot =>
    simp only [reduceCtorEq, false_iff, not_and, not_exists]
    rintro hguard - txnQueue hqueue
    exact absurd hguard (hnot txnQueue hqueue)

end NewChild

@[simp]
theorem newChild_parent (self : BuilderState T) (quorumProposal : T.QuorumProposalWrapper)
    (daProposal : DaProposal2 T) (checked now : Nat) :
    (self.newChild quorumProposal daProposal checked now).parent = self := rfl

@[simp]
theorem newChild_txnQueue (self : BuilderState T) (quorumProposal : T.QuorumProposalWrapper)
    (daProposal : DaProposal2 T) (checked now : Nat) :
    (self.newChild quorumProposal daProposal checked now).txnQueue = none := rfl

@[simp]
theorem newChild_txnCommitments (self : BuilderState T) (quorumProposal : T.QuorumProposalWrapper)
    (daProposal : DaProposal2 T) (checked now : Nat) :
    (self.newChild quorumProposal daProposal checked now).txnCommitments =
      daProposal.txnCommitments := rfl

@[simp]
theorem newChild_includedTxns (self : BuilderState T) (quorumProposal : T.QuorumProposalWrapper)
    (daProposal : DaProposal2 T) (checked now : Nat) :
    (self.newChild quorumProposal daProposal checked now).includedTxns =
      self.includedTxns.rotate checked now := rfl

@[simp]
theorem newChild_id (self : BuilderState T) (quorumProposal : T.QuorumProposalWrapper)
    (daProposal : DaProposal2 T) (checked now : Nat) :
    (self.newChild quorumProposal daProposal checked now).parentBlockReferences.id =
      proposedId quorumProposal := rfl

inductive CollectStep (sent : List (ReceivedTransaction T))
    (includedTxns : RotatingSet T.TxnCommitment) (locks : Locks T) : Locks T → Prop where
  | discard (txn : ReceivedTransaction T) (hguard : locks.receiverGuard = none)
      (hnext : sent[locks.txnReceiver]? = some txn)
      (hincluded : includedTxns.contains txn.commit = true) :
      CollectStep sent includedTxns locks { locks with txnReceiver := locks.txnReceiver + 1 }
  | take (txn : ReceivedTransaction T) (hguard : locks.receiverGuard = none)
      (hnext : sent[locks.txnReceiver]? = some txn)
      (hincluded : includedTxns.contains txn.commit = false) :
      CollectStep sent includedTxns locks
        { locks with txnReceiver := locks.txnReceiver + 1, receiverGuard := some txn }
  | insert (txn : ReceivedTransaction T) (hguard : locks.receiverGuard = some txn) :
      CollectStep sent includedTxns locks
        { locks with txnQueue := (locks.txnQueue.insert txn).1, receiverGuard := none }

inductive LockStep (sent : List (ReceivedTransaction T))
    (includedTxns : RotatingSet T.TxnCommitment) (locks : Locks T) : Locks T → Prop where
  | collect {locks' : Locks T} (hcollect : CollectStep sent includedTxns locks locks') :
      LockStep sent includedTxns locks locks'
  | popFront : LockStep sent includedTxns locks locks.popFront

theorem Locks.collectStep_of_tryRecv {sent : List (ReceivedTransaction T)}
    {includedTxns : RotatingSet T.TxnCommitment} {locks locks' : Locks T}
    (h : locks.tryRecv sent includedTxns = some locks') :
    locks' = locks ∨ CollectStep sent includedTxns locks locks' := by
  unfold tryRecv at h
  split at h
  . contradiction
  . next hguard =>
    split at h
    . simp only [Option.some.injEq] at h
      exact .inl h.symm
    . next txn hnext =>
      split at h
      . next hincluded =>
        simp only [Option.some.injEq] at h
        rw [← h]
        exact .inr (.discard txn hguard hnext hincluded)
      . next hincluded =>
        simp only [Option.some.injEq] at h
        rw [← h]
        exact .inr (.take txn hguard hnext (eq_false_of_ne_true hincluded))

theorem Locks.collectStep_of_insertReceived {sent : List (ReceivedTransaction T)}
    {includedTxns : RotatingSet T.TxnCommitment} {locks locks' : Locks T}
    (h : locks.insertReceived = some locks') : CollectStep sent includedTxns locks locks' := by
  unfold insertReceived at h
  split at h
  . contradiction
  . next txn hguard =>
    simp only [Option.some.injEq] at h
    rw [← h]
    exact .insert txn hguard

end BuilderCore
