import BuilderCore.Legacy.BuildBlock
import BuilderCore.Shared.RotatingSet
import BuilderCore.Shared.TransactionQueue
import BuilderCore.Transition

/-!
This module contains what the legacy builder keeps of the transactions it received: its five
collections are a transaction queue and a rotating set, and they stay in step over all forks.
-/

namespace BuilderCore

open Transition

variable {T : NodeType}

namespace Legacy

/--
No transaction is queued twice, none that is included, and what the latest three blocks of the lineage
contain is included. The latest block is first.
-/
structure Fresh (queue : TransactionQueue T) (included : RotatingSet T.TxnCommitment)
    (lineage : List (List T.TxnCommitment)) : Prop where
  wellFormed : queue.WellFormed
  notIncluded : ∀ tx ∈ queue.transactions, included.contains tx.commit = false
  recent : ∀ {n : Nat} {block : List T.TxnCommitment}, n ≤ 2 → lineage[n]? = some block →
    ∀ commit ∈ block, commit ∈ included.youngest n

namespace Fresh

variable {queue : TransactionQueue T} {included : RotatingSet T.TxnCommitment}
  {lineage : List (List T.TxnCommitment)}

theorem insert (h : Fresh queue included lineage) {tx : ReceivedTransaction T}
    (hnew : included.contains tx.commit = false) : Fresh (queue.insert tx).1 included lineage where
  wellFormed := h.wellFormed.insert tx
  notIncluded := by
    intro tx' htx'
    rcases TransactionQueue.mem_insert htx' with htx' | rfl
    . exact h.notIncluded tx' htx'
    . exact hnew
  recent := h.recent

theorem drop (h : Fresh queue included lineage) {tx : ReceivedTransaction T}
    (htx : queue.popFront.2 = some tx) :
    Fresh queue.popFront.1 (included.insert tx.commit) lineage where
  wellFormed := h.wellFormed.popFront
  notIncluded := by
    have hnodup := h.wellFormed.nodup
    unfold TransactionQueue.popFront at htx ⊢
    split at htx
    . contradiction
    . next first rest hqueue =>
      rw [Option.some.injEq] at htx
      intro tx' htx'
      rw [hqueue, htx, List.map_cons, List.nodup_cons] at hnodup
      rw [← Bool.not_eq_true, RotatingSet.contains_insert, not_or, Bool.not_eq_true]
      constructor
      . intro hcommit
        apply hnodup.1
        rw [← hcommit]
        exact List.mem_map_of_mem htx'
      . apply h.notIncluded
        rw [hqueue]
        exact List.mem_cons_of_mem first htx'
  recent := by
    intro n block hn hblock commit hcommit
    apply RotatingSet.youngest_insert
    exact h.recent hn hblock commit hcommit

/--
The block is a new one of the lineage, and at most one rotation has been made since the last one.
-/
theorem extend (h : Fresh queue included lineage) (rotate : Bool) (block : List T.TxnCommitment) :
    Fresh (queue.prune block)
      ((if rotate then included.forceRotate 0 else included).extend block) (block :: lineage) where
  wellFormed := h.wellFormed.prune block
  notIncluded := by
    intro tx htx
    rw [TransactionQueue.mem_prune h.wellFormed] at htx
    rw [← Bool.not_eq_true, RotatingSet.contains_extend, not_or]
    refine ⟨htx.2, ?_⟩
    have hnot := h.notIncluded tx htx.1
    split
    . -- a rotation only forgets
      intro hcontains
      rw [RotatingSet.contains_of_contains_forceRotate hcontains] at hnot
      contradiction
    . rw [hnot]
      exact Bool.false_ne_true
  recent := by
    intro n block' hn hblock' commit hcommit
    cases n with
    | zero =>
      rw [List.getElem?_cons_zero, Option.some.injEq] at hblock'
      apply RotatingSet.youngest_extend_self
      rwa [hblock']
    | succ n =>
      rw [List.getElem?_cons_succ] at hblock'
      have hold := h.recent (by omega) hblock' commit hcommit
      apply RotatingSet.youngest_extend
      split
      . exact RotatingSet.youngest_forceRotate (by omega) hold 0
      . exact RotatingSet.youngest_succ (by omega) hold

end Fresh

variable [ApiTypes T]

namespace BlockBuilder

def txnQueue (self : BlockBuilder T) : TransactionQueue T := ⟨self.txnsInQueue, self.txQueue⟩

/--
The clock of the rotation is not part of the builder, which is told when to collect garbage.
-/
def included (self : BlockBuilder T) : RotatingSet T.TxnCommitment where
  fresh := self.includedTxns
  stale := self.includedTxnsOld
  expiring := self.includedTxnsExpiring
  lastRotation := 0
  period := 0

section

variable {self : BlockBuilder T}

theorem txnQueue_collectTxns_cons (tx : ReceivedTransaction T)
    (received : List (ReceivedTransaction T)) :
    ∃ self' : BlockBuilder T, self.collectTxns (tx :: received) = self'.collectTxns received ∧
      self'.included = self.included ∧
      (self'.txnQueue = self.txnQueue ∨
        self.included.contains tx.commit = false ∧
          self'.txnQueue = (self.txnQueue.insert tx).1) := by
  simp only [collectTxns, List.foldl_cons]
  refine ⟨_, rfl, ?_⟩
  split
  . exact ⟨rfl, .inl rfl⟩
  . next hnew =>
    simp only [Finset.mem_union, not_or] at hnew
    obtain ⟨⟨⟨hincluded, hold⟩, hexpiring⟩, hqueue⟩ := hnew
    refine ⟨rfl, .inr ⟨?_, ?_⟩⟩
    . simp [RotatingSet.contains, included, hincluded, hold, hexpiring]
    . have hqueue : tx.commit ∉ self.txnQueue.commits := hqueue
      rw [TransactionQueue.insert, if_pos hqueue]
      rfl

theorem txnQueue_cloneWithReceiver (collectGarbage : Bool) :
    (self.cloneWithReceiver collectGarbage).txnQueue = self.txnQueue := by
  unfold cloneWithReceiver
  dsimp only
  split <;> rfl

theorem included_cloneWithReceiver (collectGarbage : Bool) :
    (self.cloneWithReceiver collectGarbage).included =
      if collectGarbage then self.included.forceRotate 0 else self.included := by
  unfold cloneWithReceiver
  dsimp only
  split <;> rfl

theorem txnQueue_spawnClone (daProposal : DaProposal2 T)
    (quorumProposal : T.QuorumProposalWrapper) :
    (self.spawnClone daProposal quorumProposal).txnQueue =
      self.txnQueue.prune daProposal.txnCommitments := rfl

theorem included_spawnClone (daProposal : DaProposal2 T)
    (quorumProposal : T.QuorumProposalWrapper) :
    (self.spawnClone daProposal quorumProposal).included =
      self.included.extend daProposal.txnCommitments := rfl

theorem dropFirst_eq :
    self.dropFirst.txnQueue = self.txnQueue.popFront.1 ∧
      self.dropFirst.included = match self.txnQueue.popFront.2 with
        | none => self.included
        | some txn => self.included.insert txn.commit := by
  cases hqueue : self.txQueue with
  | nil => simp [dropFirst, TransactionQueue.popFront, txnQueue, hqueue]
  | cons txn txQueue =>
    simp [dropFirst, TransactionQueue.popFront, txnQueue, hqueue, included, RotatingSet.insert]

theorem buildBlock_eq (stateId : BuilderStateId T) (maxBlockSize numNodes vid : Nat) :
    (self.buildBlock stateId maxBlockSize numNodes vid).1 = self ∨
      (self.buildBlock stateId maxBlockSize numNodes vid).1 = self.dropFirst := by
  simp only [buildBlock]
  split
  . exact .inl rfl
  . split
    . exact .inl rfl
    . split
      . exact .inr rfl
      . exact .inl rfl

end

def IsFresh (builder : BlockBuilder T) (lineage : List (List T.TxnCommitment)) : Prop :=
  Fresh builder.txnQueue builder.included lineage

section

variable {self : BlockBuilder T} {lineage : List (List T.TxnCommitment)}

theorem isFresh_new (refs : ParentBlockReferences T) {txQueue : List (ReceivedTransaction T)}
    (baseFee : Nat) (validatedState : ApiTypes.ValidatedState T)
    (instanceState : ApiTypes.InstanceState T) (hnodup : (txQueue.map (·.commit)).Nodup) :
    (new refs txQueue baseFee validatedState instanceState).IsFresh [] where
  wellFormed := ⟨rfl, hnodup⟩
  notIncluded := by
    intro tx _
    simp [included, new, RotatingSet.contains]
  recent := by
    intro n block _ hblock
    contradiction

theorem IsFresh.collectTxns (h : self.IsFresh lineage)
    (received : List (ReceivedTransaction T)) : (self.collectTxns received).IsFresh lineage := by
  induction received generalizing self with
  | nil => exact h
  | cons tx received ih =>
    obtain ⟨self', hcollect, hincluded, hqueue⟩ := self.txnQueue_collectTxns_cons tx received
    rw [hcollect]
    apply ih
    unfold IsFresh
    rw [hincluded]
    rcases hqueue with hqueue | ⟨hnew, hqueue⟩
    . rw [hqueue]
      exact h
    . rw [hqueue]
      exact Fresh.insert h hnew

theorem IsFresh.buildBlock (h : self.IsFresh lineage) (stateId : BuilderStateId T)
    (maxBlockSize numNodes vid : Nat) :
    (self.buildBlock stateId maxBlockSize numNodes vid).1.IsFresh lineage := by
  rcases self.buildBlock_eq stateId maxBlockSize numNodes vid with hbuild | hbuild
  . rw [hbuild]
    exact h
  . obtain ⟨hqueue, hincluded⟩ := self.dropFirst_eq
    rw [hbuild]
    unfold IsFresh
    rw [hqueue, hincluded]
    split
    . next hpop =>
      unfold TransactionQueue.popFront at hpop ⊢
      split at hpop
      . exact h
      . contradiction
    . next txn hpop => exact Fresh.drop h hpop

theorem IsFresh.spawnClone (h : self.IsFresh lineage) (collectGarbage : Bool)
    (daProposal : DaProposal2 T) (quorumProposal : T.QuorumProposalWrapper) :
    ((self.cloneWithReceiver collectGarbage).spawnClone daProposal quorumProposal).IsFresh
      (daProposal.txnCommitments :: lineage) := by
  unfold IsFresh
  rw [txnQueue_spawnClone, included_spawnClone, txnQueue_cloneWithReceiver,
    included_cloneWithReceiver]
  exact Fresh.extend h collectGarbage daProposal.txnCommitments

end

end BlockBuilder

variable (T) in
/--
A builder state with the blocks that it and its ancestors were spawned for, the latest first.
-/
structure Fork where
  builder : BlockBuilder T
  lineage : List (List T.TxnCommitment)

namespace Fork

def IsNew (self : Fork T) : Prop :=
  ∃ refs txQueue baseFee validatedState instanceState,
    (txQueue.map (·.commit)).Nodup ∧
      self = ⟨.new refs txQueue baseFee validatedState instanceState, []⟩

variable (T) in
inductive Action where
  | collectTxns (received : List (ReceivedTransaction T))
  | buildBlock (stateId : BuilderStateId T) (maxBlockSize numNodes vid : Nat)
  | spawnClone (collectGarbage : Bool) (daProposal : DaProposal2 T)
      (quorumProposal : T.QuorumProposalWrapper)

/--
A fork goes on with the clone. That the original goes on too makes another run.
-/
def step (self : Fork T) (action : Action T) : Option (Fork T) :=
  match action with
  | .collectTxns received => some { self with builder := self.builder.collectTxns received }
  | .buildBlock stateId maxBlockSize numNodes vid =>
    some { self with builder := (self.builder.buildBlock stateId maxBlockSize numNodes vid).1 }
  | .spawnClone collectGarbage daProposal quorumProposal =>
    some {
      builder := (self.builder.cloneWithReceiver collectGarbage).spawnClone daProposal quorumProposal
      lineage := daProposal.txnCommitments :: self.lineage
    }

theorem isFresh_step {self self' : Fork T} {action : Action T}
    (h : self.builder.IsFresh self.lineage) (hstep : self.step action = some self') :
    self'.builder.IsFresh self'.lineage := by
  cases action with
  | collectTxns received =>
    rw [← Option.some.inj hstep]
    exact h.collectTxns received
  | buildBlock stateId maxBlockSize numNodes vid =>
    rw [← Option.some.inj hstep]
    exact h.buildBlock stateId maxBlockSize numNodes vid
  | spawnClone collectGarbage daProposal quorumProposal =>
    rw [← Option.some.inj hstep]
    exact h.spawnClone collectGarbage daProposal quorumProposal

theorem isFresh {self : Fork T} (h : Reachable step IsNew self) :
    self.builder.IsFresh self.lineage := by
  apply reachable_invariant _ _ h
  . rintro _ ⟨refs, txQueue, baseFee, validatedState, instanceState, hnodup, rfl⟩
    exact BlockBuilder.isFresh_new refs baseFee validatedState instanceState hnodup
  . intro self action self' hself hstep
    exact isFresh_step hself hstep

/--
The set of queued commitments is that of the queue, nothing is queued twice or while it is included,
and the blocks of the state, of its parent and of its grandparent are included.
-/
theorem txQueue_invariant {self : Fork T} (h : Reachable step IsNew self) :
    self.builder.txnsInQueue = (self.builder.txQueue.map (·.commit)).toFinset ∧
    (self.builder.txQueue.map (·.commit)).Nodup ∧
    (∀ tx ∈ self.builder.txQueue, tx.commit ∉ self.builder.includedTxns ∧
      tx.commit ∉ self.builder.includedTxnsOld ∧ tx.commit ∉ self.builder.includedTxnsExpiring) ∧
    ∀ block ∈ self.lineage.take 3, ∀ commit ∈ block,
      commit ∈ self.builder.includedTxns ∨ commit ∈ self.builder.includedTxnsOld ∨
        commit ∈ self.builder.includedTxnsExpiring := by
  have hfresh := isFresh h
  refine ⟨hfresh.wellFormed.commits_eq, hfresh.wellFormed.nodup, ?_, ?_⟩
  . intro tx htx
    have hnot := hfresh.notIncluded tx htx
    rw [← Bool.not_eq_true, RotatingSet.contains_iff, not_or, not_or] at hnot
    exact hnot
  . intro block hblock commit hcommit
    obtain ⟨n, hn, hget⟩ := List.mem_take_iff_getElem.mp hblock
    have hblock : self.lineage[n]? = some block := by
      rw [← hget]
      apply List.getElem?_eq_getElem
    have hyoungest := hfresh.recent (by omega) hblock commit hcommit
    have hcontains := RotatingSet.contains_of_mem_youngest hyoungest
    exact RotatingSet.contains_iff.mp hcontains

/--
Transaction 5 waits in the queue, 6 comes twice and is included, 7 comes after its block.
-/
def testActions : List (Action TestTypes) := [
  .collectTxns [TestTypes.txn 6, TestTypes.txn 6],
  .spawnClone true (TestTypes.daProposal 1 [6, 7])
    (TestTypes.quorumProposal 1 10 [6, 7] ⟨0, []⟩),
  .collectTxns [TestTypes.txn 7, TestTypes.txn 8],
  .spawnClone true (TestTypes.daProposal 2 []) (TestTypes.quorumProposal 2 20 [] ⟨0, []⟩),
  .buildBlock ⟨2, (20 : Nat)⟩ 10 4 0]

def testFork : Fork TestTypes := ⟨.new .bootstrap [TestTypes.txn 5] 1 () (), []⟩

theorem txQueue_invariant_testActions :
    ∃ self, run step testFork testActions = some self ∧
      self.builder.txQueue.map (·.commit) = [(5 : Nat), (8 : Nat)] ∧
      self.builder.txnsInQueue = {(5 : Nat), (8 : Nat)} ∧
      ∀ commit ∈ [(6 : Nat), (7 : Nat)], commit ∈ self.builder.includedTxns ∨
        commit ∈ self.builder.includedTxnsOld ∨ commit ∈ self.builder.includedTxnsExpiring := by
  have hself : ∃ self, run step testFork testActions = some self ∧
      self.builder.txQueue.map (·.commit) = [(5 : Nat), (8 : Nat)] ∧
      self.lineage = [[], [(6 : Nat), (7 : Nat)]] := ⟨_, rfl, rfl, rfl⟩
  obtain ⟨self, hrun, hqueue, hlineage⟩ := hself
  have hnew : IsNew testFork :=
    ⟨.bootstrap, [TestTypes.txn 5], 1, (), (), List.nodup_singleton _, rfl⟩
  obtain ⟨hcommits, -, -, hincluded⟩ := txQueue_invariant ⟨_, _, hnew, hrun⟩
  refine ⟨self, hrun, hqueue, ?_, ?_⟩
  . rw [hcommits, hqueue]
    rfl
  . apply hincluded
    rw [hlineage]
    exact List.mem_cons_of_mem _ (List.mem_singleton_self _)

end Fork

end Legacy

end BuilderCore
