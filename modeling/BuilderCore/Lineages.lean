import BuilderCore.CaptureLoop
import BuilderCore.Legacy.TxQueue

/-!
This module contains the two ways in which the builders keep the transactions of a builder state and
hand them on to the states forked from it, side by side: from the same transactions and forks both
come to the same queue.
-/

namespace BuilderCore

open Transition

namespace RotatingSet

variable {α : Type} [DecidableEq α]

/--
Generation by generation the second set has the keys of the first one, and besides those only some of
`extra`.
-/
def UpTo (extra : List α) (s s' : RotatingSet α) : Prop :=
  ∀ n ≤ 2, ∀ key, (key ∈ s.youngest n → key ∈ s'.youngest n) ∧
    (key ∈ s'.youngest n → key ∈ s.youngest n ∨ key ∈ extra)

namespace UpTo

variable {extra : List α} {s s' : RotatingSet α}

theorem contains_iff (h : UpTo extra s s') {key : α} (hkey : key ∉ extra) :
    s'.contains key = true ↔ s.contains key = true := by
  rw [contains_iff_youngest, contains_iff_youngest]
  constructor
  . intro hmem
    exact ((h 2 (Nat.le_refl _) key).2 hmem).resolve_right hkey
  . exact (h 2 (Nat.le_refl _) key).1

theorem forceRotate (h : UpTo extra s s') (now now' : Nat) :
    UpTo extra (s.forceRotate now) (s'.forceRotate now') := by
  intro n hn key
  rw [mem_youngest_forceRotate hn, mem_youngest_forceRotate hn]
  constructor
  . rintro ⟨m, rfl, hmem⟩
    exact ⟨m, rfl, (h m (by omega) key).1 hmem⟩
  . rintro ⟨m, rfl, hmem⟩
    rcases (h m (by omega) key).2 hmem with hmem | hextra
    . exact .inl ⟨m, rfl, hmem⟩
    . exact .inr hextra

theorem extend (h : UpTo extra s s') (values : List α) :
    UpTo extra (s.extend values) (s'.extend values) := by
  intro n hn key
  rw [mem_youngest_extend, mem_youngest_extend]
  constructor
  . rintro (hvalue | hmem)
    . exact .inl hvalue
    . exact .inr ((h n hn key).1 hmem)
  . rintro (hvalue | hmem)
    . exact .inl (.inl hvalue)
    . rcases (h n hn key).2 hmem with hmem | hextra
      . exact .inl (.inr hmem)
      . exact .inr hextra

theorem insert (h : UpTo extra s s') (value : α) :
    UpTo (extra ++ [value]) s (s'.insert value) := by
  intro n hn key
  rw [insert_eq_extend, mem_youngest_extend, List.mem_append]
  constructor
  . intro hmem
    exact .inr ((h n hn key).1 hmem)
  . rintro (hvalue | hmem)
    . exact .inr (.inr hvalue)
    . rcases (h n hn key).2 hmem with hmem | hextra
      . exact .inl hmem
      . exact .inr (.inl hextra)

end UpTo

end RotatingSet

variable {T : NodeType}

/--
A builder state of the shared crate with its queue.
-/
structure QueuedState (T : NodeType) where
  state : BuilderState T
  txnQueue : TransactionQueue T

namespace QueuedState

def bootstrap (period now : Nat) : QueuedState T := ⟨⟨.bootstrap, .new period now, 0⟩, .new⟩

/--
One turn of the loop of `collect_txns`.
-/
def receive (self : QueuedState T) (txn : ReceivedTransaction T) : QueuedState T :=
  let collected : CollectTxns T := ⟨self.txnQueue, self.txnQueue.isEmpty⟩
  { self with
    txnQueue := (CollectTxns.receive self.state.includedTxns collected (.ok txn)).1.txnQueue }

def popFront (self : QueuedState T) : QueuedState T :=
  { self with txnQueue := self.txnQueue.popFront.1 }

/--
A whole `new_child` call. What it does with the receiver is left out.
-/
def newChild (self : QueuedState T) (quorumProposal : T.QuorumProposalWrapper)
    (daProposal : DaProposal2 T) (checked now : Nat) : Option (QueuedState T) := do
  let locks : Locks T := ⟨self.txnQueue, 0, none⟩
  let call := self.state.newChild quorumProposal daProposal checked now
  let call ← call.cloneQueue locks
  let (state, locks) ← call.cloneReceiver locks self.state.addr
  return ⟨state, locks.txnQueue⟩

theorem newChild_eq (self : QueuedState T) (quorumProposal : T.QuorumProposalWrapper)
    (daProposal : DaProposal2 T) (checked now : Nat) :
    ∃ refs, self.newChild quorumProposal daProposal checked now = some ⟨⟨refs,
      (self.state.includedTxns.rotate checked now).extend daProposal.txnCommitments,
      self.state.addr⟩, self.txnQueue.prune daProposal.txnCommitments⟩ :=
  ⟨_, rfl⟩

end QueuedState

variable [ApiTypes T]

namespace Legacy

variable (T) in
/--
A builder state of the legacy crate with the clock of its garbage collection.
-/
structure TimedBuilder where
  builder : BlockBuilder T
  txnGarbageCollectDuration : Nat
  nextTxnGarbageCollectTime : Nat

namespace TimedBuilder

def new (refs : ParentBlockReferences T) (baseFee : Nat)
    (validatedState : ApiTypes.ValidatedState T) (instanceState : ApiTypes.InstanceState T)
    (txnGarbageCollectDuration now : Nat) : TimedBuilder T where
  builder := .new refs [] baseFee validatedState instanceState
  txnGarbageCollectDuration
  nextTxnGarbageCollectTime := now + txnGarbageCollectDuration

def receive (self : TimedBuilder T) (tx : ReceivedTransaction T) : TimedBuilder T :=
  { self with builder := self.builder.collectTxns [tx] }

def dropFirst (self : TimedBuilder T) : TimedBuilder T :=
  { self with builder := self.builder.dropFirst }

/--
`clone_with_receiver` and the part of `spawn_clone` before the clone is registered. The clock is read
twice.
-/
def spawnClone (self : TimedBuilder T) (quorumProposal : T.QuorumProposalWrapper)
    (daProposal : DaProposal2 T) (checked now : Nat) : TimedBuilder T :=
  let collectGarbage := decide (self.nextTxnGarbageCollectTime ≤ checked)
  { self with
    builder := (self.builder.cloneWithReceiver collectGarbage).spawnClone daProposal quorumProposal
    nextTxnGarbageCollectTime :=
      if collectGarbage then
        now + self.txnGarbageCollectDuration
      else
        self.nextTxnGarbageCollectTime }

end TimedBuilder

end Legacy

variable (T) in
/--
One lineage as the two builders keep it.
-/
structure Lineages where
  legacy : Legacy.TimedBuilder T
  shared : QueuedState T

namespace Lineages

def new (refs : ParentBlockReferences T) (baseFee : Nat)
    (validatedState : ApiTypes.ValidatedState T) (instanceState : ApiTypes.InstanceState T)
    (period now : Nat) : Lineages T where
  legacy := .new refs baseFee validatedState instanceState period now
  shared := .bootstrap period now

variable (T) in
omit [ApiTypes T] in
inductive Action where
  | receive (txn : ReceivedTransaction T)
  | dropFirst
  | fork (quorumProposal : T.QuorumProposalWrapper) (daProposal : DaProposal2 T)
      (checked now : Nat)

def step (self : Lineages T) (action : Action T) : Option (Lineages T) :=
  match action with
  | .receive txn => some ⟨self.legacy.receive txn, self.shared.receive txn⟩
  | .dropFirst => some ⟨self.legacy.dropFirst, self.shared.popFront⟩
  | .fork quorumProposal daProposal checked now => do
    let child ← self.shared.newChild quorumProposal daProposal checked now
    return ⟨self.legacy.spawnClone quorumProposal daProposal checked now, child⟩

def dropped (self : Lineages T) (action : Action T) : List T.TxnCommitment :=
  match action with
  | .dropFirst => (self.shared.txnQueue.popFront.2.map (·.commit)).toList
  | _ => []

/--
No transaction is received again after it was dropped, and no fork looks at the clock exactly one
period after the last rotation, where one builder rotates and the other one does not.
-/
def Agreeable (s : Lineages T × List T.TxnCommitment) (action : Action T) : Prop :=
  match action with
  | .receive txn => txn.commit ∉ s.2
  | .dropFirst => True
  | .fork _ _ checked _ =>
    let includedTxns := s.1.shared.state.includedTxns
    checked ≠ includedTxns.lastRotation + includedTxns.period

instance (s : Lineages T × List T.TxnCommitment) (action : Action T) :
    Decidable (Agreeable s action) :=
  match action with
  | .receive txn => inferInstanceAs (Decidable (txn.commit ∉ s.2))
  | .dropFirst => inferInstanceAs (Decidable True)
  | .fork _ _ checked _ => inferInstanceAs (Decidable (checked ≠
      s.1.shared.state.includedTxns.lastRotation + s.1.shared.state.includedTxns.period))

/--
The legacy builder takes what it drops for included. Otherwise both have the same.
-/
structure Agree (lineages : Lineages T) (dropped : List T.TxnCommitment) : Prop where
  queue : lineages.legacy.builder.txnQueue = lineages.shared.txnQueue
  upTo : RotatingSet.UpTo dropped lineages.shared.state.includedTxns
    lineages.legacy.builder.included
  period : lineages.legacy.txnGarbageCollectDuration = lineages.shared.state.includedTxns.period
  next : lineages.legacy.nextTxnGarbageCollectTime =
    lineages.shared.state.includedTxns.lastRotation + lineages.shared.state.includedTxns.period

section

variable {self self' : Lineages T} {dropped : List T.TxnCommitment}

theorem agree_new (refs : ParentBlockReferences T) (baseFee : Nat)
    (validatedState : ApiTypes.ValidatedState T) (instanceState : ApiTypes.InstanceState T)
    (period now : Nat) : (new refs baseFee validatedState instanceState period now).Agree [] where
  queue := rfl
  upTo := by
    intro n hn key
    have hempty : (Legacy.BlockBuilder.new refs [] baseFee validatedState instanceState).included =
        .new 0 0 := rfl
    simp [new, Legacy.TimedBuilder.new, QueuedState.bootstrap, hempty]
  period := rfl
  next := rfl

omit [ApiTypes T] in
theorem txnQueue_receive (self : QueuedState T) (txn : ReceivedTransaction T) :
    (self.receive txn).txnQueue = if self.state.includedTxns.contains txn.commit then
      self.txnQueue
    else
      (self.txnQueue.insert txn).1 := by
  simp only [QueuedState.receive, CollectTxns.receive]
  split <;> rfl

theorem txnQueue_collectTxns (builder : Legacy.BlockBuilder T) (txn : ReceivedTransaction T) :
    (builder.collectTxns [txn]).included = builder.included ∧
      (builder.collectTxns [txn]).txnQueue = if builder.included.contains txn.commit then
        builder.txnQueue
      else
        (builder.txnQueue.insert txn).1 := by
  have hincluded : builder.included.contains txn.commit = true ↔
      txn.commit ∈ builder.includedTxns ∪ builder.includedTxnsOld ∪ builder.includedTxnsExpiring := by
    rw [RotatingSet.contains_iff, Finset.mem_union, Finset.mem_union, or_assoc]
    rfl
  simp only [Legacy.BlockBuilder.collectTxns, List.foldl_cons, List.foldl_nil]
  by_cases hcontains : builder.included.contains txn.commit = true
  . rw [if_pos (Finset.mem_union_left _ (hincluded.mp hcontains)), if_pos hcontains]
    exact ⟨rfl, rfl⟩
  . rw [if_neg hcontains, TransactionQueue.insert]
    rw [hincluded] at hcontains
    by_cases hqueued : txn.commit ∈ builder.txnsInQueue
    . -- the insertion into the queue comes to nothing
      have hqueue : ¬ txn.commit ∉ builder.txnQueue.commits := not_not.mpr hqueued
      rw [if_pos (Finset.mem_union_right _ hqueued), if_neg hqueue]
      exact ⟨rfl, rfl⟩
    . have hqueue : txn.commit ∉ builder.txnQueue.commits := hqueued
      rw [if_neg (Finset.mem_union.not.mpr (not_or.mpr ⟨hcontains, hqueued⟩)), if_pos hqueue]
      exact ⟨rfl, rfl⟩

theorem Agree.receive (h : self.Agree dropped) {txn : ReceivedTransaction T}
    (hnew : txn.commit ∉ dropped) :
    (⟨self.legacy.receive txn, self.shared.receive txn⟩ : Lineages T).Agree dropped := by
  obtain ⟨hincluded, hqueue⟩ := txnQueue_collectTxns self.legacy.builder txn
  have hcontains := Bool.eq_iff_iff.mpr (h.upTo.contains_iff hnew)
  refine ⟨?_, ?_, h.period, h.next⟩
  . exact hqueue.trans (by rw [txnQueue_receive, hcontains, h.queue])
  . have hupTo := h.upTo
    rwa [← hincluded] at hupTo

theorem Agree.dropFirst (h : self.Agree dropped) :
    (⟨self.legacy.dropFirst, self.shared.popFront⟩ : Lineages T).Agree
      (dropped ++ self.dropped .dropFirst) := by
  obtain ⟨hqueue, hincluded⟩ := self.legacy.builder.dropFirst_eq
  rw [h.queue] at hqueue hincluded
  refine ⟨hqueue, ?_, h.period, h.next⟩
  unfold Lineages.dropped
  have hincluded : (self.legacy.dropFirst).builder.included = _ := hincluded
  rw [hincluded]
  cases self.shared.txnQueue.popFront.2 with
  | none =>
    rw [Option.map_none, Option.toList_none, List.append_nil]
    exact h.upTo
  | some txn => exact h.upTo.insert txn.commit

omit [ApiTypes T] in
/--
Both decide alike whether to rotate, unless the clock shows the one instant that they judge differently.
-/
theorem rotates_iff {includedTxns : RotatingSet T.TxnCommitment} {checked : Nat}
    (h : checked ≠ includedTxns.lastRotation + includedTxns.period) :
    includedTxns.rotates checked =
      decide (includedTxns.lastRotation + includedTxns.period ≤ checked) := by
  rw [RotatingSet.rotates, decide_eq_decide]
  omega

theorem Agree.fork (h : self.Agree dropped) (quorumProposal : T.QuorumProposalWrapper)
    (daProposal : DaProposal2 T) {checked now : Nat}
    (hchecked : checked ≠ self.shared.state.includedTxns.lastRotation +
      self.shared.state.includedTxns.period) {child : QueuedState T}
    (hchild : self.shared.newChild quorumProposal daProposal checked now = some child) :
    (⟨self.legacy.spawnClone quorumProposal daProposal checked now, child⟩ : Lineages T).Agree
      dropped := by
  obtain ⟨refs, hnewChild⟩ := self.shared.newChild_eq quorumProposal daProposal checked now
  rw [hnewChild, Option.some.injEq] at hchild
  rw [← hchild]
  have hrotates := rotates_iff hchecked
  rw [← h.next] at hrotates
  refine ⟨?_, ?_, ?_, ?_⟩
  . simp only [Legacy.TimedBuilder.spawnClone, Legacy.BlockBuilder.txnQueue_spawnClone,
      Legacy.BlockBuilder.txnQueue_cloneWithReceiver, h.queue]
  . simp only [Legacy.TimedBuilder.spawnClone, Legacy.BlockBuilder.included_spawnClone,
      Legacy.BlockBuilder.included_cloneWithReceiver, RotatingSet.rotate_eq, ← hrotates]
    apply RotatingSet.UpTo.extend
    split
    . exact h.upTo.forceRotate now 0
    . exact h.upTo
  . exact h.period.trans (RotatingSet.period_rotate ..).symm
  . simp only [Legacy.TimedBuilder.spawnClone, ← hrotates, RotatingSet.rotate_eq,
      RotatingSet.extend]
    split
    . rw [h.period]
      rfl
    . exact h.next

theorem agree_step (h : self.Agree dropped) {action : Action T}
    (hagreeable : Agreeable (self, dropped) action) (hstep : self.step action = some self') :
    self'.Agree (dropped ++ self.dropped action) := by
  cases action with
  | receive txn =>
    rw [← Option.some.inj hstep, Lineages.dropped, List.append_nil]
    . exact h.receive hagreeable
    . simp
  | dropFirst =>
    rw [← Option.some.inj hstep]
    exact h.dropFirst
  | fork quorumProposal daProposal checked now =>
    simp only [step, Option.bind_eq_bind, Option.bind_eq_some_iff, Option.pure_def,
      Option.some.injEq] at hstep
    obtain ⟨child, hchild, rfl⟩ := hstep
    rw [Lineages.dropped, List.append_nil]
    . exact h.fork quorumProposal daProposal hagreeable hchild
    . simp

theorem agree_of_run {refs : ParentBlockReferences T} {baseFee : Nat}
    {validatedState : ApiTypes.ValidatedState T} {instanceState : ApiTypes.InstanceState T}
    {period now : Nat} {actions : List (Action T)}
    (halong : Along (logging step Lineages.dropped) Agreeable
      (new refs baseFee validatedState instanceState period now, []) actions)
    (hrun : run (logging step Lineages.dropped)
      (new refs baseFee validatedState instanceState period now, []) actions = some (self, dropped)) :
    self.Agree dropped := by
  apply run_invariant_along (P := fun s => s.1.Agree s.2) _ _ halong hrun
  . rintro ⟨self, dropped⟩ action ⟨self', dropped'⟩ hself hagreeable hstep
    obtain ⟨hstep, rfl⟩ := logging_eq_some.mp hstep
    exact agree_step hself hagreeable hstep
  . exact agree_new refs baseFee validatedState instanceState period now

end

/--
Along every lineage both builders have the same queue, select the same transactions from it under the
same limit, and take the same transactions for included, apart from what was dropped.
-/
theorem builders_agree (refs : ParentBlockReferences T) (baseFee : Nat)
    (validatedState : ApiTypes.ValidatedState T) (instanceState : ApiTypes.InstanceState T)
    (period now : Nat) {actions : List (Action T)} {self : Lineages T}
    {dropped : List T.TxnCommitment}
    (halong : Along (logging step Lineages.dropped) Agreeable
      (new refs baseFee validatedState instanceState period now, []) actions)
    (hrun : run (logging step Lineages.dropped)
      (new refs baseFee validatedState instanceState period now, []) actions =
        some (self, dropped)) :
    self.legacy.builder.txQueue = self.shared.txnQueue.transactions ∧
    self.legacy.builder.txnsInQueue = self.shared.txnQueue.commits ∧
    (∀ maxBlockSize, self.legacy.builder.transactionsToInclude maxBlockSize =
      transactionsToInclude maxBlockSize self.shared.txnQueue) ∧
    ∀ commit ∉ dropped,
      (commit ∈ self.legacy.builder.includedTxns ∨ commit ∈ self.legacy.builder.includedTxnsOld ∨
        commit ∈ self.legacy.builder.includedTxnsExpiring) ↔
        self.shared.state.includedTxns.contains commit = true := by
  have hagree := agree_of_run halong hrun
  have hqueue : self.legacy.builder.txQueue = self.shared.txnQueue.transactions :=
    congrArg TransactionQueue.transactions hagree.queue
  refine ⟨hqueue, congrArg TransactionQueue.commits hagree.queue, ?_, ?_⟩
  . intro maxBlockSize
    rw [Legacy.BlockBuilder.transactionsToInclude, hqueue]
    rfl
  . intro commit hcommit
    rw [← hagree.upTo.contains_iff hcommit, RotatingSet.contains_iff]
    rfl

/--
Transaction 7 is dropped, 8 gets into a block and is received once more, and the second fork rotates.
-/
def testActions : List (Action TestTypes) := [
  .receive (TestTypes.txn 7),
  .receive (TestTypes.txn 8),
  .dropFirst,
  .fork (TestTypes.quorumProposal 1 10 [8] ⟨0, []⟩) (TestTypes.daProposal 1 [8]) 3 3,
  .receive (TestTypes.txn 8),
  .receive (TestTypes.txn 9),
  .fork (TestTypes.quorumProposal 2 20 [] ⟨0, []⟩) (TestTypes.daProposal 2 []) 6 6]

theorem builders_agree_testActions :
    ∃ self dropped, run (logging step Lineages.dropped) (new .bootstrap 1 () () 5 0, []) testActions =
        some (self, dropped) ∧
      self.legacy.builder.txQueue = self.shared.txnQueue.transactions ∧
      self.shared.txnQueue.transactions = [TestTypes.txn 9] ∧
      self.shared.state.includedTxns.contains (TestTypes.txn 8).commit = true := by
  have hself : ∃ self : Lineages TestTypes, run (logging step Lineages.dropped)
        (new .bootstrap 1 () () 5 0, []) testActions = some (self, [(7 : Nat)]) ∧
      self.shared.txnQueue.transactions = [TestTypes.txn 9] ∧
      self.shared.state.includedTxns.contains (TestTypes.txn 8).commit = true :=
    ⟨_, rfl, rfl, rfl⟩
  obtain ⟨self, hrun, hqueue, hincluded⟩ := hself
  refine ⟨self, _, hrun, (builders_agree .bootstrap 1 () () 5 0 ?_ hrun).1, hqueue, hincluded⟩
  decide

end Lineages

end BuilderCore
