import BuilderCore.Shared.ForestQueue

/-!
This module contains what becomes of the transactions of a builder state that is forked while other
tasks collect transactions in it. The queue and the receiver are cloned at different moments, so what
`collect_txns` takes out of the receiver in between is in neither of the clones.
-/

namespace BuilderCore

variable {T : NodeType}

/--
The messages below this position are neither unread nor about to be inserted.
-/
def Locks.settled (locks : Locks T) : Nat :=
  locks.txnReceiver - locks.receiverGuard.toList.length

/--
The builder state knows of the transaction: it offers it, will receive it or has it included.
-/
def Node.Keeps (node : Node T) (sent : List (ReceivedTransaction T)) (commit : T.TxnCommitment) :
    Prop :=
  (∃ txn ∈ node.locks.txnQueue.transactions, txn.commit = commit) ∨
    (∃ txn ∈ node.locks.unread sent, txn.commit = commit) ∨
    node.state.includedTxns.contains commit = true

namespace Forest

/--
What the tasks other than the one of the call may do while it runs. No block is built on the state
that is forked.
-/
def Action.Concurrent (addr call : Nat) : Action T → Prop
  | .popFront addr' => addr' ≠ addr
  | .newChild call' .. => call' ≠ call
  | .cloneQueue call' => call' ≠ call
  | .cloneReceiver call' _ => call' ≠ call
  | _ => True

/--
A `new_child` call on the state at `addr`, with the forest before and after each of its steps and
the actions of the other tasks in between.
-/
structure Fork (T : NodeType) where
  addr : Nat
  call : Nat
  quorumProposal : T.QuorumProposalWrapper
  daProposal : DaProposal2 T
  checked : Nat
  now : Nat
  finished : Nat
  beforeQueue : List (Action T)
  beforeReceiver : List (Action T)
  start : Forest T
  started : Forest T
  queueRead : Forest T
  queueCloned : Forest T
  receiverLocked : Forest T
  done : Forest T
  addr_eq : (start.nodes addr).state.addr = addr
  wellFormed : (start.locks addr).txnQueue.WellFormed
  newChild_eq : start.step (.newChild call addr quorumProposal daProposal checked now) = some started
  beforeQueue_eq : Transition.run step started beforeQueue = some queueRead
  cloneQueue_eq : queueRead.step (.cloneQueue call) = some queueCloned
  beforeReceiver_eq : Transition.run step queueCloned beforeReceiver = some receiverLocked
  cloneReceiver_eq : receiverLocked.step (.cloneReceiver call finished) = some done
  concurrent_beforeQueue : ∀ action ∈ beforeQueue, action.Concurrent addr call
  concurrent_beforeReceiver : ∀ action ∈ beforeReceiver, action.Concurrent addr call

namespace Fork

def parent (fork : Fork T) : BuilderState T := (fork.start.nodes fork.addr).state

def child (fork : Fork T) : Node T := fork.done.nodes fork.receiverLocked.size

/--
Nothing that the parent had queued or still had to receive is lost in the child.
-/
def KeepsAll (fork : Fork T) : Prop :=
  ∀ txn, txn ∈ (fork.start.locks fork.addr).txnQueue.transactions ∨
      txn ∈ (fork.start.locks fork.addr).unread fork.start.sent →
    fork.child.Keeps fork.done.sent txn.commit

/--
The message was still to be received at the start, and came out of the receiver before the receiver
was cloned, but not into the queue before the queue was cloned: too late, or because it was
discarded.
-/
structure Missed (fork : Fork T) (position : Nat) (txn : ReceivedTransaction T) : Prop where
  sent : fork.start.sent[position]? = some txn
  unread : (fork.start.locks fork.addr).txnReceiver ≤ position
  taken : position < (fork.receiverLocked.locks fork.addr).txnReceiver
  missed : (fork.queueRead.locks fork.addr).settled ≤ position ∨
    fork.parent.includedTxns.contains txn.commit = true

/--
The child knows of the transaction from elsewhere: from the block, from the rotated included set,
from the queue at the moment of its clone, or from a copy of the message that is still unread.
-/
def Covered (fork : Fork T) (commit : T.TxnCommitment) : Prop :=
  commit ∈ fork.daProposal.txnCommitments ∨
    (fork.parent.includedTxns.rotate fork.checked fork.now).contains commit = true ∨
    commit ∈ (fork.queueRead.locks fork.addr).txnQueue.commits ∨
    ∃ copy ∈ (fork.receiverLocked.locks fork.addr).unread fork.receiverLocked.sent,
      copy.commit = commit

end Fork

structure Collected (sent : List (ReceivedTransaction T))
    (includedTxns : RotatingSet T.TxnCommitment) (locks locks' : Locks T) : Prop where
  wellFormed : locks'.txnQueue.WellFormed
  queued : locks.txnQueue.commits ⊆ locks'.txnQueue.commits
  received : locks.txnReceiver ≤ locks'.txnReceiver
  guard : ∀ txn txn', locks'.receiverGuard = some txn → locks.txnReceiver < locks'.txnReceiver →
    sent[locks'.txnReceiver - 1]? = some txn' → txn' = txn
  settled : ∀ position txn, locks.txnReceiver ≤ position → position < locks'.settled →
    sent[position]? = some txn →
      includedTxns.contains txn.commit = true ∨ txn.commit ∈ locks'.txnQueue.commits

theorem Collected.start (sent : List (ReceivedTransaction T))
    (includedTxns : RotatingSet T.TxnCommitment) {locks : Locks T}
    (h : locks.txnQueue.WellFormed) : Collected sent includedTxns locks locks where
  wellFormed := h
  queued := Finset.Subset.refl _
  received := Nat.le_refl _
  guard := fun _ _ _ hlt => absurd hlt (Nat.lt_irrefl _)
  settled := by
    intro position txn hle hlt
    simp only [Locks.settled] at hlt
    omega

theorem getElem?_eq_of_isPrefixOf {α : Type} {l l' : List α} (h : l <+: l') {i : Nat} {a a' : α}
    (ha : l[i]? = some a) (ha' : l'[i]? = some a') : a = a' := by
  obtain ⟨rest, rfl⟩ := h
  have hlt := (List.getElem?_eq_some_iff.mp ha).1
  rw [List.getElem?_append_left hlt, ha, Option.some.injEq] at ha'
  exact ha'

theorem Collected.step {sent sent' : List (ReceivedTransaction T)}
    {includedTxns : RotatingSet T.TxnCommitment} {locks locks' locks'' : Locks T}
    (hsent : sent <+: sent') (h : Collected sent includedTxns locks locks')
    (hstep : CollectStep sent' includedTxns locks' locks'') :
    Collected sent includedTxns locks locks'' := by
  obtain ⟨hwf, hqueued, hreceived, hguarded, hsettled⟩ := h
  cases hstep with
  | discard txn hguard hnext hincluded =>
    refine ⟨hwf, hqueued, by simp; omega, by simp [hguard], ?_⟩
    intro position txn' hle hlt htxn'
    simp only [Locks.settled, hguard, Option.toList_none, List.length_nil, Nat.sub_zero]
      at hlt hsettled
    rcases Nat.lt_succ_iff_lt_or_eq.mp hlt with hlt | rfl
    . exact hsettled position txn' hle hlt htxn'
    . rw [getElem?_eq_of_isPrefixOf hsent htxn' hnext]
      exact .inl hincluded
  | take txn hguard hnext hincluded =>
    refine ⟨hwf, hqueued, by simp; omega, ?_, ?_⟩
    . intro txn₁ txn₂ htxn₁ _ htxn₂
      simp only [Option.some.injEq] at htxn₁
      rw [← htxn₁]
      exact getElem?_eq_of_isPrefixOf hsent htxn₂ hnext
    . simpa [Locks.settled, hguard] using hsettled
  | insert txn hguard =>
    refine ⟨hwf.insert txn, ?_, hreceived, by simp, ?_⟩
    . intro commit hcommit
      rw [TransactionQueue.mem_commits_insert]
      exact .inr (hqueued hcommit)
    . intro position txn' hle hlt htxn'
      rw [TransactionQueue.mem_commits_insert]
      simp only [Locks.settled, hguard, Option.toList_none, List.length_nil, Nat.sub_zero,
        Option.toList_some, List.length_singleton] at hlt hsettled
      by_cases hlast : position = locks'.txnReceiver - 1
      . subst hlast
        rw [hguarded txn txn' hguard (by omega) htxn']
        exact .inr (.inl rfl)
      . rcases hsettled position txn' hle (by omega) htxn' with hincluded | hcommit
        . exact .inl hincluded
        . exact .inr (.inr hcommit)

structure Forking (addr call : Nat) (state : BuilderState T) (newChild : NewChild T)
    (sent : List (ReceivedTransaction T)) (locks : Locks T) (forest : Forest T) : Prop where
  addr_lt : addr < forest.size
  state_eq : (forest.nodes addr).state = state
  call_eq : forest.calls call = some newChild
  sent_grown : sent <+: forest.sent
  collected : Collected sent state.includedTxns locks (forest.locks addr)

section

variable {addr call : Nat} {state : BuilderState T} {newChild : NewChild T}
  {sent : List (ReceivedTransaction T)} {locks : Locks T}

theorem Forking.setLocks {forest : Forest T} {addr' : Nat} {locks' : Locks T}
    (h : Forking addr call state newChild sent locks forest)
    (hcollected : addr' = addr → Collected sent state.includedTxns locks locks') :
    Forking addr call state newChild sent locks (forest.setLocks addr' locks') := by
  refine ⟨h.addr_lt, ?_, h.call_eq, h.sent_grown, ?_⟩
  . rw [setLocks_nodes_state]
    exact h.state_eq
  . by_cases heq : addr' = addr
    . subst heq
      simp only [Forest.locks, setLocks_nodes_self]
      exact hcollected rfl
    . simp only [Forest.locks, setLocks_nodes_of_ne forest locks' (Ne.symm heq)]
      exact h.collected

theorem Forking.setCall {forest : Forest T} {call' : Nat} {newChild' : Option (NewChild T)}
    (h : Forking addr call state newChild sent locks forest) (hne : call' ≠ call) :
    Forking addr call state newChild sent locks (forest.setCall call' newChild') := by
  refine ⟨h.addr_lt, h.state_eq, ?_, h.sent_grown, h.collected⟩
  rw [setCall_calls]
  simp [Ne.symm hne, h.call_eq]

theorem Forking.change {forest forest' : Forest T} {action : Action T}
    (hconcurrent : action.Concurrent addr call)
    (h : Forking addr call state newChild sent locks forest)
    (hchange : Change forest action forest') :
    Forking addr call state newChild sent locks forest' := by
  cases hchange with
  | idle => exact h
  | broadcast txn =>
    exact ⟨h.addr_lt, h.state_eq, h.call_eq, h.sent_grown.trans (List.prefix_append ..),
      h.collected⟩
  | collect _ addr' locks' haddr' hcollect =>
    apply h.setLocks
    rintro rfl
    rw [h.state_eq] at hcollect
    exact h.collected.step h.sent_grown hcollect
  | popFront addr' haddr' =>
    apply h.setLocks
    intro heq
    exact absurd heq hconcurrent
  | newChild call' addr' quorumProposal daProposal checked now haddr' hcall hchecked hnow =>
    have hclock : Forking addr call state newChild sent locks { forest with clock := now } :=
      ⟨h.addr_lt, h.state_eq, h.call_eq, h.sent_grown, h.collected⟩
    exact hclock.setCall hconcurrent
  | cloneQueue call' newChild₀ newChild' hcall hqueue => exact h.setCall hconcurrent
  | cloneReceiver call' now newChild' child locks' hnow hcall hreceiver =>
    have hchild : Forking addr call state newChild sent locks
        (forest.addChild newChild' child locks' now) := by
      have hnode := addChild_nodes_of_lt forest newChild' child locks' now h.addr_lt
      refine ⟨Nat.lt_succ_of_lt h.addr_lt, ?_, h.call_eq, h.sent_grown, ?_⟩
      . rw [hnode]
        exact h.state_eq
      . simp only [Forest.locks, hnode]
        exact h.collected
    exact hchild.setCall hconcurrent

theorem Forking.run {forest forest' : Forest T} {actions : List (Action T)}
    (hconcurrent : ∀ action ∈ actions, action.Concurrent addr call)
    (h : Forking addr call state newChild sent locks forest)
    (hrun : Transition.run Forest.step forest actions = some forest') :
    Forking addr call state newChild sent locks forest' := by
  have halong : Transition.Along Forest.step (fun _ action => action.Concurrent addr call) forest
      actions := Transition.along_of_forall fun action haction _ => hconcurrent action haction
  apply Transition.run_invariant_along _ h halong hrun
  intro forest action forest' h hconcurrent hstep
  exact h.change hconcurrent (change_of_step hstep)

end

namespace Fork

def newChild (fork : Fork T) : NewChild T :=
  fork.parent.newChild fork.quorumProposal fork.daProposal fork.checked fork.now

def cloned (fork : Fork T) : NewChild T :=
  { fork.newChild with
    txnQueue :=
      some ((fork.queueRead.locks fork.addr).txnQueue.prune fork.daProposal.txnCommitments) }

theorem forking_queueRead (fork : Fork T) :
    Forking fork.addr fork.call fork.parent fork.newChild fork.start.sent
      (fork.start.locks fork.addr) fork.queueRead := by
  apply Forking.run fork.concurrent_beforeQueue _ fork.beforeQueue_eq
  have hstarted := fork.newChild_eq
  rw [step_newChild_eq_some] at hstarted
  obtain ⟨⟨haddr, -, -⟩, -, hstarted⟩ := hstarted
  rw [hstarted]
  refine ⟨haddr, rfl, ?_, List.prefix_refl _, Collected.start _ _ fork.wellFormed⟩
  rw [setCall_calls, if_pos rfl]
  rfl

theorem forking_receiverLocked (fork : Fork T) :
    Forking fork.addr fork.call fork.parent fork.cloned fork.start.sent
      (fork.start.locks fork.addr) fork.receiverLocked := by
  apply Forking.run fork.concurrent_beforeReceiver _ fork.beforeReceiver_eq
  have hread := fork.forking_queueRead
  have hcloned := fork.cloneQueue_eq
  rw [step_cloneQueue_eq_some] at hcloned
  obtain ⟨newChild, newChild', hcall, hqueue, hcloned⟩ := hcloned
  rw [hread.call_eq, Option.some.injEq] at hcall
  rw [NewChild.cloneQueue_eq_some] at hqueue
  obtain ⟨-, rfl⟩ := hqueue
  have haddr : newChild.parent.addr = fork.addr := by
    rw [← hcall]
    exact fork.addr_eq
  rw [hcloned, haddr, ← hcall]
  refine ⟨hread.addr_lt, hread.state_eq, ?_, hread.sent_grown, hread.collected⟩
  rw [setCall_calls, if_pos rfl]
  rfl

theorem child_eq (fork : Fork T) :
    fork.done.sent = fork.receiverLocked.sent ∧
    fork.child.locks = ⟨(fork.queueRead.locks fork.addr).txnQueue.prune
      fork.daProposal.txnCommitments, (fork.receiverLocked.locks fork.addr).txnReceiver, none⟩ ∧
    fork.child.state.includedTxns =
      (fork.parent.includedTxns.rotate fork.checked fork.now).extend
        fork.daProposal.txnCommitments := by
  have hdone := fork.cloneReceiver_eq
  rw [step_cloneReceiver_eq_some] at hdone
  obtain ⟨-, newChild, child, locks, hcall, hreceiver, hdone⟩ := hdone
  rw [fork.forking_receiverLocked.call_eq, Option.some.injEq] at hcall
  rw [NewChild.cloneReceiver_eq_some] at hreceiver
  obtain ⟨-, rfl, queue, hqueue, rfl⟩ := hreceiver
  rw [← hcall] at hqueue hdone
  simp only [cloned, Option.some.injEq] at hqueue
  have haddr : fork.cloned.parent.addr = fork.addr := fork.addr_eq
  simp only [Fork.child, hdone, setCall_nodes, addChild_nodes_self, setCall_sent, addChild_sent,
    ← hqueue, haddr, true_and]
  rfl

theorem keeps_iff_covered (fork : Fork T) (commit : T.TxnCommitment) :
    fork.child.Keeps fork.done.sent commit ↔ fork.Covered commit := by
  have hwf := fork.forking_queueRead.collected.wellFormed
  obtain ⟨hsent, hlocks, hincluded⟩ := fork.child_eq
  have hqueue : (∃ txn ∈ fork.child.locks.txnQueue.transactions, txn.commit = commit) ↔
      commit ∈ (fork.queueRead.locks fork.addr).txnQueue.commits ∧
        commit ∉ fork.daProposal.txnCommitments := by
    rw [hlocks, ← (hwf.prune _).mem_commits]
    simp [TransactionQueue.prune]
  have hunread : fork.child.locks.unread fork.done.sent =
      (fork.receiverLocked.locks fork.addr).unread fork.receiverLocked.sent := by
    rw [hlocks, hsent]
    rfl
  unfold Node.Keeps Covered
  rw [hqueue, hunread, hincluded, RotatingSet.contains_extend]
  by_cases hblock : commit ∈ fork.daProposal.txnCommitments
  . simp [hblock]
  . simp only [hblock, not_false_eq_true, and_true, false_or]
    rw [or_comm, or_assoc, or_rotate]

/--
Exactly when a fork loses nothing: all that the clones missed is covered by something else.
-/
theorem keepsAll_iff (fork : Fork T) :
    fork.KeepsAll ↔ ∀ position txn, fork.Missed position txn → fork.Covered txn.commit := by
  have hread := fork.forking_queueRead.collected
  have hgrown := fork.forking_receiverLocked.sent_grown
  simp only [KeepsAll, keeps_iff_covered]
  constructor
  . intro h position txn hmissed
    apply h txn
    refine .inr (List.mem_of_getElem? (i := position - (fork.start.locks fork.addr).txnReceiver) ?_)
    rw [Locks.unread, List.getElem?_drop, Nat.add_sub_cancel' hmissed.unread]
    exact hmissed.sent
  . rintro h txn (hqueued | hunread)
    . have hcommits := fork.wellFormed.mem_commits.mpr ⟨txn, hqueued, rfl⟩
      exact .inr (.inr (.inl (hread.queued hcommits)))
    . obtain ⟨i, hi⟩ := List.mem_iff_getElem?.mp hunread
      rw [Locks.unread, List.getElem?_drop] at hi
      generalize hposition : (fork.start.locks fork.addr).txnReceiver + i = position at hi
      have hle : (fork.start.locks fork.addr).txnReceiver ≤ position := by omega
      by_cases htaken : position < (fork.receiverLocked.locks fork.addr).txnReceiver
      . by_cases hlate : (fork.queueRead.locks fork.addr).settled ≤ position
        . exact h position txn ⟨hi, hle, htaken, .inl hlate⟩
        . rcases hread.settled position txn hle (by omega) hi with hdiscarded | hcommits
          . exact h position txn ⟨hi, hle, htaken, .inr hdiscarded⟩
          . exact .inr (.inr (.inl hcommits))
      . refine .inr (.inr (.inr ⟨txn, ?_, rfl⟩))
        apply List.mem_of_getElem?
          (i := position - (fork.receiverLocked.locks fork.addr).txnReceiver)
        rw [Locks.unread, List.getElem?_drop, Nat.add_sub_cancel' (by omega)]
        obtain ⟨rest, hrest⟩ := hgrown
        have hlt := (List.getElem?_eq_some_iff.mp hi).1
        rwa [← hrest, List.getElem?_append_left hlt]

/--
The only message of the channel is received while the queue is cloned and the receiver is not.
-/
def lossy : Fork TestTypes where
  addr := 0
  call := 0
  quorumProposal := TestTypes.quorumProposal 1 10 [] ⟨0, []⟩
  daProposal := TestTypes.daProposal 1 []
  checked := 1
  now := 1
  finished := 1
  beforeQueue := []
  beforeReceiver := [.tryRecv 0, .insert 0]
  start := { Forest.new 5 0 with sent := [TestTypes.txn 8] }
  started := _
  queueRead := _
  queueCloned := _
  receiverLocked := _
  done := _
  addr_eq := rfl
  wellFormed := TransactionQueue.wellFormed_new
  newChild_eq := rfl
  beforeQueue_eq := rfl
  cloneQueue_eq := rfl
  beforeReceiver_eq := rfl
  cloneReceiver_eq := rfl
  concurrent_beforeQueue := by simp
  concurrent_beforeReceiver := by simp [Action.Concurrent]

theorem lossy_not_keepsAll : ¬ lossy.KeepsAll := by
  intro h
  have hunread : TestTypes.txn 8 ∈ (lossy.start.locks lossy.addr).unread lossy.start.sent :=
    List.mem_singleton.mpr rfl
  have hqueue : lossy.child.locks.txnQueue.transactions = [] := rfl
  have hreceiver : lossy.child.locks.unread lossy.done.sent = [] := rfl
  have hincluded : lossy.child.state.includedTxns.contains (TestTypes.txn 8).commit = false := rfl
  have hkeeps := h _ (.inr hunread)
  simp only [Node.Keeps, hqueue, hreceiver, hincluded, List.not_mem_nil, false_and, exists_false,
    Bool.false_eq_true, or_self] at hkeeps

end Fork

end Forest

end BuilderCore
