import BuilderCore.Shared.ForestLemmas

/-!
This module contains what becomes of every transaction that was broadcast, in every builder state: no
state loses one unless its parent receives it in the middle of a fork.
-/

namespace BuilderCore

variable {T : NodeType}

/--
A block of the lineage has the transaction, or a state of the lineage dropped it from its queue.
-/
def Node.Settles (node : Node T) (dropped : List (Nat × T.TxnCommitment))
    (commit : T.TxnCommitment) : Prop :=
  ∃ ancestor ∈ node.lineage, commit ∈ ancestor.block ∨ (ancestor.addr, commit) ∈ dropped

/--
The transaction is still to be received, on its way into the queue, in `queued` or settled.
-/
def Node.Accounts (node : Node T) (sent : List (ReceivedTransaction T))
    (dropped : List (Nat × T.TxnCommitment)) (queued : Finset T.TxnCommitment)
    (txn : ReceivedTransaction T) : Prop :=
  txn ∈ node.locks.unread sent ∨ node.locks.receiverGuard = some txn ∨ txn.commit ∈ queued ∨
    node.Settles dropped txn.commit

namespace Forest

/--
What an action takes out of a queue without a block for it, with the address of the state.
-/
def dropped (forest : Forest T) (action : Action T) : List (Nat × T.TxnCommitment) :=
  match action with
  | .popFront addr =>
    ((forest.locks addr).txnQueue.popFront.2.map fun txn => (addr, txn.commit)).toList
  | _ => []

/--
A message is inserted into a queue after a call in progress has cloned it.
-/
def Overtakes (forest : Forest T) (action : Action T) : Prop :=
  ∃ call newChild, forest.calls call = some newChild ∧ newChild.txnQueue ≠ none ∧
    action = .insert newChild.parent.addr

/--
The first ancestor is the state itself, and what is included comes from the blocks of the lineage.
-/
structure Traced (_clock : Nat) (sent : List (ReceivedTransaction T)) (node : Node T) : Prop where
  self : ∃ ancestor ∈ node.lineage, ancestor.addr = node.state.addr
  received : node.locks.txnReceiver ≤ sent.length
  included : ∀ commit, node.state.includedTxns.contains commit = true →
    ∃ ancestor ∈ node.lineage, commit ∈ ancestor.block

theorem txnReceiver_le_length {sent : List (ReceivedTransaction T)}
    {includedTxns : RotatingSet T.TxnCommitment} {locks locks' : Locks T}
    (h : LockStep sent includedTxns locks locks') (hle : locks.txnReceiver ≤ sent.length) :
    locks'.txnReceiver ≤ sent.length := by
  cases h with
  | collect hcollect =>
    cases hcollect with
    | discard txn _ hnext => exact (List.getElem?_eq_some_iff.mp hnext).1
    | take txn _ hnext => exact (List.getElem?_eq_some_iff.mp hnext).1
    | insert => exact hle
  | popFront => exact hle

def TracedCall (_clock : Nat) (_sent : List (ReceivedTransaction T)) (node : Node T)
    (newChild : NewChild T) : Prop :=
  ∀ commit, newChild.includedTxns.contains commit = true →
    ∃ ancestor ∈ node.lineage, commit ∈ ancestor.block

theorem traced_inductive (period : Nat) : Inductive (T := T) period Traced TracedCall where
  bootstrap := by
    intro now
    refine ⟨⟨_, List.mem_singleton_self _, rfl⟩, Nat.le_refl _, ?_⟩
    intro commit hcommit
    simp [Node.bootstrap] at hcommit
  node_mono := by
    intro _ _ sent node txns _ h
    refine ⟨h.self, ?_, h.included⟩
    rw [List.length_append]
    exact Nat.le_trans h.received (Nat.le_add_right _ _)
  call_mono := fun _ _ h => h
  node_locks := fun h hlocks => ⟨h.self, txnReceiver_le_length hlocks h.received, h.included⟩
  call_locks := fun _ h _ => h
  newChild := by
    intro _ _ node _ _ checked now h _ _ commit hcommit
    exact h.included commit (RotatingSet.contains_of_contains_rotate hcommit)
  cloneQueue := by
    intro _ _ _ _ _ _ h hqueue
    obtain ⟨-, rfl⟩ := NewChild.cloneQueue_eq_some.mp hqueue
    exact h
  cloneReceiver := by
    intro _ _ node newChild addr now child locks hnode h _ hreceiver _
    obtain ⟨-, rfl, queue, -, rfl⟩ := NewChild.cloneReceiver_eq_some.mp hreceiver
    refine ⟨⟨_, List.mem_cons_self, rfl⟩, hnode.received, ?_⟩
    intro commit hcommit
    rcases RotatingSet.contains_extend.mp hcommit with hblock | hincluded
    . exact ⟨_, List.mem_cons_self, hblock⟩
    . obtain ⟨ancestor, hancestor, hblock⟩ := h commit hincluded
      exact ⟨ancestor, List.mem_cons_of_mem _ hancestor, hblock⟩

end Forest

section

variable {node : Node T} {sent : List (ReceivedTransaction T)}
  {dropped : List (Nat × T.TxnCommitment)} {queued : Finset T.TxnCommitment}
  {txn : ReceivedTransaction T}

theorem Node.Settles.append {commit : T.TxnCommitment} (h : node.Settles dropped commit)
    (more : List (Nat × T.TxnCommitment)) : node.Settles (dropped ++ more) commit := by
  obtain ⟨ancestor, hancestor, hblock | hdropped⟩ := h
  . exact ⟨ancestor, hancestor, .inl hblock⟩
  . exact ⟨ancestor, hancestor, .inr (List.mem_append_left _ hdropped)⟩

theorem Node.settles_of_included {clock : Nat} (h : Forest.Traced clock sent node)
    {commit : T.TxnCommitment} (hincluded : node.state.includedTxns.contains commit = true) :
    node.Settles dropped commit := by
  obtain ⟨ancestor, hancestor, hblock⟩ := h.included commit hincluded
  exact ⟨ancestor, hancestor, .inl hblock⟩

theorem unread_eq_cons {locks : Locks T} (hnext : sent[locks.txnReceiver]? = some txn) :
    locks.unread sent = txn :: sent.drop (locks.txnReceiver + 1) := by
  obtain ⟨hlt, rfl⟩ := List.getElem?_eq_some_iff.mp hnext
  exact List.drop_eq_getElem_cons hlt

namespace Node.Accounts

theorem append (h : node.Accounts sent dropped queued txn)
    (more : List (Nat × T.TxnCommitment)) : node.Accounts sent (dropped ++ more) queued txn := by
  rcases h with hunread | hguard | hqueued | hsettles
  . exact .inl hunread
  . exact .inr (.inl hguard)
  . exact .inr (.inr (.inl hqueued))
  . exact .inr (.inr (.inr (hsettles.append more)))

theorem broadcast {clock : Nat} (htraced : Forest.Traced clock sent node)
    (h : ∀ txn ∈ sent, node.Accounts sent dropped queued txn) (new : ReceivedTransaction T) :
    ∀ txn ∈ sent ++ [new], node.Accounts (sent ++ [new]) dropped queued txn := by
  have hunread : node.locks.unread (sent ++ [new]) = node.locks.unread sent ++ [new] :=
    List.drop_append_of_le_length htraced.received
  intro txn htxn
  rcases List.mem_append.mp htxn with hold | hnew
  . rcases h txn hold with hunread' | h
    . left
      rw [hunread]
      exact List.mem_append_left _ hunread'
    . exact .inr h
  . left
    rw [hunread]
    exact List.mem_append_right _ hnew

/--
What is received next is on its way into the queue, unless a block of the lineage has it.
-/
theorem receive {clock : Nat} (htraced : Forest.Traced clock sent node)
    (h : node.Accounts sent dropped queued txn) {locks : Locks T}
    (hlocks : node.locks.tryRecv sent node.state.includedTxns = some locks) :
    { node with locks }.Accounts sent dropped queued txn := by
  rcases Locks.collectStep_of_tryRecv hlocks with rfl | hcollect
  . exact h
  . cases hcollect with
    | discard next hguard hnext hincluded =>
      rcases h with hunread | hguarded | h
      . rw [unread_eq_cons hnext, List.mem_cons] at hunread
        rcases hunread with rfl | hunread
        . exact .inr (.inr (.inr (Node.settles_of_included htraced hincluded)))
        . exact .inl hunread
      . exact .inr (.inl hguarded)
      . exact .inr (.inr h)
    | take next hguard hnext hincluded =>
      rcases h with hunread | hguarded | h
      . rw [unread_eq_cons hnext, List.mem_cons] at hunread
        rcases hunread with rfl | hunread
        . exact .inr (.inl rfl)
        . exact .inl hunread
      . rw [hguard] at hguarded
        contradiction
      . exact .inr (.inr h)
    | insert next hguard =>
      -- the receiver was free
      unfold Locks.tryRecv at hlocks
      rw [hguard] at hlocks
      contradiction

theorem insert (h : node.Accounts sent dropped node.locks.txnQueue.commits txn) {locks : Locks T}
    (hlocks : node.locks.insertReceived = some locks) :
    { node with locks }.Accounts sent dropped locks.txnQueue.commits txn := by
  unfold Locks.insertReceived at hlocks
  split at hlocks
  . contradiction
  . next next hguard =>
    rw [← Option.some.inj hlocks]
    rcases h with hunread | hguarded | hqueued | hsettles
    . exact .inl hunread
    . rw [hguard, Option.some.injEq] at hguarded
      rw [hguarded]
      exact .inr (.inr (.inl (TransactionQueue.mem_commits_insert.mpr (.inl rfl))))
    . exact .inr (.inr (.inl (TransactionQueue.mem_commits_insert.mpr (.inr hqueued))))
    . exact .inr (.inr (.inr hsettles))

end Node.Accounts

theorem TransactionQueue.mem_popFront {queue : TransactionQueue T} {commit : T.TxnCommitment}
    (h : commit ∈ queue.commits) :
    commit ∈ queue.popFront.1.commits ∨ ∃ txn, queue.popFront.2 = some txn ∧ txn.commit = commit := by
  unfold popFront
  split
  . exact .inl h
  . next front rest _ =>
    by_cases hfront : commit = front.commit
    . exact .inr ⟨front, rfl, hfront.symm⟩
    . exact .inl (Finset.mem_erase.mpr ⟨hfront, h⟩)

end

namespace Forest

/--
Every state accounts for everything that was sent, and so does what a call in progress has cloned. The
block of the call counts, which the child will have in its lineage.
-/
structure Conserves (forest : Forest T) (dropped : List (Nat × T.TxnCommitment)) : Prop where
  node : ∀ addr < forest.size, ∀ txn ∈ forest.sent,
    (forest.nodes addr).Accounts forest.sent dropped (forest.locks addr).txnQueue.commits txn
  call : ∀ call newChild queue, forest.calls call = some newChild →
    newChild.txnQueue = some queue → ∀ txn ∈ forest.sent,
      (forest.nodes newChild.parent.addr).Accounts forest.sent dropped
        (queue.commits ∪ newChild.txnCommitments.toFinset) txn

section

variable {forest forest' : Forest T} {dropped : List (Nat × T.TxnCommitment)}

theorem not_overtakes {action : Action T} (h : ∀ addr, action ≠ .insert addr) :
    ¬ forest.Overtakes action := by
  rintro ⟨call, newChild, -, -, hinsert⟩
  exact h _ hinsert

theorem conserves_new (period now : Nat) : Conserves (new period now : Forest T) [] where
  node := by simp [new]
  call := by simp [new]

/--
New locks of one state have to account for everything in its queue and in its clones.
-/
theorem Conserves.setLocks (h : Conserves forest dropped) {addr : Nat} {locks : Locks T}
    (hnode : ∀ txn ∈ forest.sent,
      { forest.nodes addr with locks }.Accounts forest.sent dropped locks.txnQueue.commits txn)
    (hcall : ∀ call newChild queue, forest.calls call = some newChild →
      newChild.txnQueue = some queue → newChild.parent.addr = addr → ∀ txn ∈ forest.sent,
        { forest.nodes addr with locks }.Accounts forest.sent dropped
          (queue.commits ∪ newChild.txnCommitments.toFinset) txn) :
    Conserves (forest.setLocks addr locks) dropped where
  node := by
    intro addr' haddr' txn htxn
    by_cases heq : addr' = addr
    . subst heq
      simp only [Forest.locks, setLocks_nodes_self]
      exact hnode txn htxn
    . simp only [Forest.locks, setLocks_nodes_of_ne forest locks heq]
      exact h.node addr' haddr' txn htxn
  call := by
    intro call newChild queue hsome hqueue txn htxn
    by_cases heq : newChild.parent.addr = addr
    . rw [heq, setLocks_nodes_self]
      exact hcall call newChild queue hsome hqueue heq txn htxn
    . rw [setLocks_nodes_of_ne forest locks heq]
      exact h.call call newChild queue hsome hqueue txn htxn

theorem Conserves.broadcast (h : Conserves forest dropped) (htraced : Holds Traced TracedCall forest)
    (txn : ReceivedTransaction T) : Conserves { forest with sent := forest.sent ++ [txn] } dropped where
  node := by
    intro addr haddr
    exact Node.Accounts.broadcast (htraced.node addr haddr) (h.node addr haddr) txn
  call := by
    intro call newChild queue hsome hqueue
    have htraced := htraced.node _ (htraced.parent call newChild hsome).1
    exact Node.Accounts.broadcast htraced (h.call call newChild queue hsome hqueue) txn

theorem Conserves.tryRecv (h : Conserves forest dropped) (htraced : Holds Traced TracedCall forest)
    {addr : Nat} (haddr : addr < forest.size) {locks : Locks T}
    (hlocks : (forest.locks addr).tryRecv forest.sent (forest.nodes addr).state.includedTxns =
      some locks) : Conserves (forest.setLocks addr locks) dropped := by
  have hqueue : locks.txnQueue = (forest.locks addr).txnQueue := by
    rcases Locks.collectStep_of_tryRecv hlocks with rfl | hcollect
    . rfl
    . cases hcollect with
      | discard => rfl
      | take => rfl
      | insert txn hguard =>
        unfold Locks.tryRecv at hlocks
        rw [hguard] at hlocks
        contradiction
  apply h.setLocks
  . intro txn htxn
    rw [hqueue]
    exact (h.node addr haddr txn htxn).receive (htraced.node addr haddr) hlocks
  . rintro call newChild queue hsome hcloned rfl txn htxn
    exact (h.call call newChild queue hsome hcloned txn htxn).receive (htraced.node _ haddr) hlocks

theorem Conserves.insert (h : Conserves forest dropped) {addr : Nat} (haddr : addr < forest.size)
    (hnot : ¬ forest.Overtakes (.insert addr)) {locks : Locks T}
    (hlocks : (forest.locks addr).insertReceived = some locks) :
    Conserves (forest.setLocks addr locks) dropped := by
  apply h.setLocks
  . intro txn htxn
    exact (h.node addr haddr txn htxn).insert hlocks
  . rintro call newChild queue hsome hcloned rfl
    exact absurd ⟨call, newChild, hsome, by simp [hcloned], rfl⟩ hnot

theorem Conserves.append (h : Conserves forest dropped) (more : List (Nat × T.TxnCommitment)) :
    Conserves forest (dropped ++ more) where
  node := fun addr haddr txn htxn => (h.node addr haddr txn htxn).append more
  call := fun call newChild queue hsome hqueue txn htxn =>
    (h.call call newChild queue hsome hqueue txn htxn).append more

theorem Conserves.popFront (h : Conserves forest dropped) (htraced : Holds Traced TracedCall forest)
    {addr : Nat} (haddr : addr < forest.size) :
    Conserves (forest.setLocks addr (forest.locks addr).popFront)
      (dropped ++ forest.dropped (.popFront addr)) := by
  apply (h.append _).setLocks
  . intro txn htxn
    rcases (h.append (forest.dropped (.popFront addr))).node addr haddr txn htxn with
      hunread | hguard | hqueued | hsettles
    . exact .inl hunread
    . exact .inr (.inl hguard)
    . rcases TransactionQueue.mem_popFront hqueued with hleft | ⟨front, hfront, hcommit⟩
      . exact .inr (.inr (.inl hleft))
      . obtain ⟨ancestor, hancestor, hself⟩ := (htraced.node addr haddr).self
        refine .inr (.inr (.inr ⟨ancestor, hancestor, .inr ?_⟩))
        rw [hself, htraced.addr addr haddr, Forest.dropped, hfront, ← hcommit]
        simp
    . exact .inr (.inr (.inr hsettles))
  . rintro call newChild queue hsome hcloned rfl txn htxn
    exact (h.append _).call call newChild queue hsome hcloned txn htxn

theorem Conserves.setCall (h : Conserves forest dropped) {call : Nat}
    {newChild : Option (NewChild T)}
    (hnew : ∀ child queue, newChild = some child → child.txnQueue = some queue →
      ∀ txn ∈ forest.sent, (forest.nodes child.parent.addr).Accounts forest.sent dropped
        (queue.commits ∪ child.txnCommitments.toFinset) txn) :
    Conserves (forest.setCall call newChild) dropped where
  node := h.node
  call := by
    intro call' child queue hsome hqueue
    rw [setCall_calls] at hsome
    split at hsome
    . exact hnew child queue hsome hqueue
    . exact h.call call' child queue hsome hqueue

/--
What the clone of the queue loses is in the block of the call.
-/
theorem Conserves.cloneQueue (h : Conserves forest dropped)
    (htraced : Holds Traced TracedCall forest) {call : Nat} {newChild newChild' : NewChild T}
    (hcall : forest.calls call = some newChild)
    (hqueue : newChild.cloneQueue (forest.locks newChild.parent.addr) = some newChild') :
    Conserves (forest.setCall call newChild') dropped := by
  obtain ⟨-, rfl⟩ := NewChild.cloneQueue_eq_some.mp hqueue
  apply h.setCall
  rintro child queue hchild hcloned txn htxn
  rw [← Option.some.inj hchild] at hcloned ⊢
  rw [← Option.some.inj hcloned]
  have hparent := (htraced.parent call newChild hcall).1
  rcases h.node newChild.parent.addr hparent txn htxn with hunread | hguard | hqueued | hsettles
  . exact .inl hunread
  . exact .inr (.inl hguard)
  . refine .inr (.inr (.inl ?_))
    rw [TransactionQueue.prune, Finset.sdiff_union_self_eq_union]
    exact Finset.mem_union_left _ hqueued
  . exact .inr (.inr (.inr hsettles))

theorem Conserves.cloneReceiver (h : Conserves forest dropped)
    (htraced : Holds Traced TracedCall forest) {call now : Nat} {newChild : NewChild T}
    {child : BuilderState T} {locks : Locks T} (hcall : forest.calls call = some newChild)
    (hreceiver : newChild.cloneReceiver (forest.locks newChild.parent.addr) forest.size =
      some (child, locks)) :
    Conserves ((forest.addChild newChild child locks now).setCall call none) dropped := by
  obtain ⟨hguard, rfl, queue, hqueue, rfl⟩ := NewChild.cloneReceiver_eq_some.mp hreceiver
  have hadded : Conserves (forest.addChild newChild
      ⟨newChild.parentBlockReferences, newChild.includedTxns.extend newChild.txnCommitments,
        forest.size⟩ ⟨queue, (forest.locks newChild.parent.addr).txnReceiver, none⟩ now) dropped := by
    constructor
    . intro addr haddr txn htxn
      rcases Nat.lt_succ_iff_lt_or_eq.mp haddr with hold | rfl
      . simp only [Forest.locks, addChild_nodes_of_lt forest _ _ _ _ hold]
        exact h.node addr hold txn htxn
      . simp only [Forest.locks, addChild_nodes_self]
        rcases h.call call newChild queue hcall hqueue txn htxn with
          hunread | hguarded | hqueued | ⟨ancestor, hancestor, hsettled⟩
        . exact .inl hunread
        . rw [Forest.locks] at hguard
          rw [hguard] at hguarded
          contradiction
        . rcases Finset.mem_union.mp hqueued with hqueued | hblock
          . exact .inr (.inr (.inl hqueued))
          . exact .inr (.inr (.inr ⟨_, List.mem_cons_self, .inl (List.mem_toFinset.mp hblock)⟩))
        . exact .inr (.inr (.inr ⟨ancestor, List.mem_cons_of_mem _ hancestor, hsettled⟩))
    . intro call' newChild' queue' hsome hqueue' txn htxn
      rw [addChild_nodes_of_lt forest _ _ _ _ (htraced.parent call' newChild' hsome).1]
      exact h.call call' newChild' queue' hsome hqueue' txn htxn
  apply hadded.setCall
  intro child queue hchild
  contradiction

theorem Conserves.step (h : Conserves forest dropped) (htraced : Holds Traced TracedCall forest)
    {action : Action T} (hnot : ¬ forest.Overtakes action)
    (hstep : forest.step action = some forest') :
    Conserves forest' (dropped ++ forest.dropped action) := by
  cases action with
  | broadcast txn =>
    rw [← Option.some.inj hstep]
    exact (h.broadcast htraced txn).append []
  | tryRecv addr =>
    simp only [Forest.step, Option.bind_eq_bind, Option.bind_eq_some_iff, Option.guard_eq_some',
      exists_const, Option.pure_def, Option.some.injEq] at hstep
    obtain ⟨haddr, locks, hlocks, rfl⟩ := hstep
    exact (h.tryRecv htraced haddr hlocks).append []
  | insert addr =>
    simp only [Forest.step, Option.bind_eq_bind, Option.bind_eq_some_iff, Option.guard_eq_some',
      exists_const, Option.pure_def, Option.some.injEq] at hstep
    obtain ⟨haddr, locks, hlocks, rfl⟩ := hstep
    exact (h.insert haddr hnot hlocks).append []
  | popFront addr =>
    simp only [Forest.step, Option.bind_eq_bind, Option.bind_eq_some_iff, Option.guard_eq_some',
      exists_const, Option.pure_def, Option.some.injEq] at hstep
    obtain ⟨haddr, rfl⟩ := hstep
    exact h.popFront htraced haddr
  | newChild call addr quorumProposal daProposal checked now =>
    obtain ⟨-, -, rfl⟩ := step_newChild_eq_some.mp hstep
    have hclock : Conserves { forest with clock := now } dropped := ⟨h.node, h.call⟩
    apply (hclock.setCall ?_).append []
    intro child queue hchild hqueue
    rw [← Option.some.inj hchild, newChild_txnQueue] at hqueue
    contradiction
  | cloneQueue call =>
    obtain ⟨newChild, newChild', hcall, hqueue, rfl⟩ := step_cloneQueue_eq_some.mp hstep
    exact (h.cloneQueue htraced hcall hqueue).append []
  | cloneReceiver call now =>
    obtain ⟨-, newChild, child, locks, hcall, hreceiver, rfl⟩ :=
      step_cloneReceiver_eq_some.mp hstep
    exact (h.cloneReceiver htraced hcall hreceiver).append []

/--
The invariant with what it rests on.
-/
structure Conserved (forest : Forest T) (dropped : List (Nat × T.TxnCommitment)) : Prop where
  conserves : Conserves forest dropped
  traced : Holds Traced TracedCall forest

theorem conserved_new (period now : Nat) : Conserved (new period now : Forest T) [] where
  conserves := conserves_new period now
  traced := holds_new (traced_inductive period) now

theorem Conserved.step (h : Conserved forest dropped) {action : Action T}
    (hnot : ¬ forest.Overtakes action) (hstep : forest.step action = some forest') :
    Conserved forest' (dropped ++ forest.dropped action) where
  conserves := h.conserves.step h.traced hnot hstep
  traced := holds_of_change (traced_inductive 0) h.traced (change_of_step hstep)

theorem Conserved.step_of_ne_insert (h : Conserved forest dropped) {action : Action T}
    (hstep : forest.step action = some forest') (hinsert : ∀ addr, action ≠ .insert addr)
    (hdropped : forest.dropped action = []) : Conserved forest' dropped := by
  have hconserved := h.step (not_overtakes hinsert) hstep
  rwa [hdropped, List.append_nil] at hconserved

/--
A whole fork overtakes nothing, and it leaves no call in progress behind.
-/
theorem Conserved.newChildSteps (h : Conserved forest dropped) {call addr : Nat}
    {quorumProposal : T.QuorumProposalWrapper} {daProposal : DaProposal2 T}
    {checked now finished : Nat}
    (hrun : Transition.run Forest.step forest
      (newChildSteps call addr quorumProposal daProposal checked now finished) = some forest') :
    Conserved forest' dropped := by
  obtain ⟨forest₁, forest₂, hnew, hqueue, hreceiver⟩ := run_newChildSteps_eq_some.mp hrun
  have h₁ := h.step_of_ne_insert hnew (by simp) rfl
  have h₂ := h₁.step_of_ne_insert hqueue (by simp) rfl
  exact h₂.step_of_ne_insert hreceiver (by simp) rfl

theorem calls_of_newChildSteps {call addr : Nat} {quorumProposal : T.QuorumProposalWrapper}
    {daProposal : DaProposal2 T} {checked now finished : Nat}
    (hrun : Transition.run Forest.step forest
      (newChildSteps call addr quorumProposal daProposal checked now finished) = some forest') :
    forest'.calls call = none ∧ ∀ call' ≠ call, forest'.calls call' = forest.calls call' := by
  obtain ⟨forest₁, forest₂, hnew, hqueue, hreceiver⟩ := run_newChildSteps_eq_some.mp hrun
  obtain ⟨-, -, rfl⟩ := step_newChild_eq_some.mp hnew
  obtain ⟨_, _, -, -, rfl⟩ := step_cloneQueue_eq_some.mp hqueue
  obtain ⟨-, _, _, _, -, -, rfl⟩ := step_cloneReceiver_eq_some.mp hreceiver
  constructor
  . rw [setCall_calls, if_pos rfl]
  . intro call' hne
    rw [setCall_calls, if_neg hne, addChild_calls, setCall_calls, if_neg hne, setCall_calls,
      if_neg hne]

end

end Forest

end BuilderCore
