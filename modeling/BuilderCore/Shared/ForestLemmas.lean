import BuilderCore.Shared.Forest

/-!
This module contains the induction rule for what holds of every builder state of a forest and of
every `new_child` call in progress, whatever the tasks do.
-/

namespace BuilderCore

variable {T : NodeType}

namespace Forest

@[simp]
theorem setLocks_size (forest : Forest T) (addr : Nat) (locks : Locks T) :
    (forest.setLocks addr locks).size = forest.size := rfl

@[simp]
theorem setLocks_calls (forest : Forest T) (addr : Nat) (locks : Locks T) :
    (forest.setLocks addr locks).calls = forest.calls := rfl

@[simp]
theorem setLocks_sent (forest : Forest T) (addr : Nat) (locks : Locks T) :
    (forest.setLocks addr locks).sent = forest.sent := rfl

@[simp]
theorem setLocks_clock (forest : Forest T) (addr : Nat) (locks : Locks T) :
    (forest.setLocks addr locks).clock = forest.clock := rfl

theorem setLocks_nodes_self (forest : Forest T) (addr : Nat) (locks : Locks T) :
    (forest.setLocks addr locks).nodes addr = { forest.nodes addr with locks } := by
  simp [setLocks]

theorem setLocks_nodes_of_ne (forest : Forest T) {addr addr' : Nat} (locks : Locks T)
    (h : addr' ≠ addr) : (forest.setLocks addr locks).nodes addr' = forest.nodes addr' := by
  simp [setLocks, h]

@[simp]
theorem setLocks_nodes_state (forest : Forest T) (addr addr' : Nat) (locks : Locks T) :
    ((forest.setLocks addr locks).nodes addr').state = (forest.nodes addr').state := by
  by_cases h : addr' = addr
  . subst h
    rw [setLocks_nodes_self]
  . rw [setLocks_nodes_of_ne forest locks h]

@[simp]
theorem setCall_size (forest : Forest T) (call : Nat) (newChild : Option (NewChild T)) :
    (forest.setCall call newChild).size = forest.size := rfl

@[simp]
theorem setCall_nodes (forest : Forest T) (call : Nat) (newChild : Option (NewChild T)) :
    (forest.setCall call newChild).nodes = forest.nodes := rfl

@[simp]
theorem setCall_sent (forest : Forest T) (call : Nat) (newChild : Option (NewChild T)) :
    (forest.setCall call newChild).sent = forest.sent := rfl

@[simp]
theorem setCall_clock (forest : Forest T) (call : Nat) (newChild : Option (NewChild T)) :
    (forest.setCall call newChild).clock = forest.clock := rfl

theorem setCall_calls (forest : Forest T) (call call' : Nat) (newChild : Option (NewChild T)) :
    (forest.setCall call newChild).calls call' =
      if call' = call then newChild else forest.calls call' := by
  simp [setCall, Function.update_apply]

@[simp]
theorem addChild_size (forest : Forest T) (call : NewChild T) (child : BuilderState T)
    (locks : Locks T) (now : Nat) :
    (forest.addChild call child locks now).size = forest.size + 1 := rfl

@[simp]
theorem addChild_calls (forest : Forest T) (call : NewChild T) (child : BuilderState T)
    (locks : Locks T) (now : Nat) :
    (forest.addChild call child locks now).calls = forest.calls := rfl

@[simp]
theorem addChild_sent (forest : Forest T) (call : NewChild T) (child : BuilderState T)
    (locks : Locks T) (now : Nat) :
    (forest.addChild call child locks now).sent = forest.sent := rfl

@[simp]
theorem addChild_clock (forest : Forest T) (call : NewChild T) (child : BuilderState T)
    (locks : Locks T) (now : Nat) :
    (forest.addChild call child locks now).clock = now := rfl

theorem addChild_nodes_self (forest : Forest T) (call : NewChild T) (child : BuilderState T)
    (locks : Locks T) (now : Nat) :
    (forest.addChild call child locks now).nodes forest.size =
      ⟨child, locks, ⟨forest.size, call.txnCommitments, now⟩ ::
        (forest.nodes call.parent.addr).lineage⟩ := by
  simp [addChild]

theorem addChild_nodes_of_lt (forest : Forest T) (call : NewChild T) (child : BuilderState T)
    (locks : Locks T) (now : Nat) {addr : Nat} (h : addr < forest.size) :
    (forest.addChild call child locks now).nodes addr = forest.nodes addr := by
  have : addr ≠ forest.size := by omega
  simp [addChild, this]

/--
`P` for every builder state and `Q` for every call in progress with the node of its parent.
-/
structure Holds (P : Nat → List (ReceivedTransaction T) → Node T → Prop)
    (Q : Nat → List (ReceivedTransaction T) → Node T → NewChild T → Prop)
    (forest : Forest T) : Prop where
  addr : ∀ addr < forest.size, (forest.nodes addr).state.addr = addr
  node : ∀ addr < forest.size, P forest.clock forest.sent (forest.nodes addr)
  parent : ∀ call newChild, forest.calls call = some newChild →
    newChild.parent.addr < forest.size ∧
      (forest.nodes newChild.parent.addr).state = newChild.parent
  call : ∀ call newChild, forest.calls call = some newChild →
    Q forest.clock forest.sent (forest.nodes newChild.parent.addr) newChild

structure Inductive (period : Nat) (P : Nat → List (ReceivedTransaction T) → Node T → Prop)
    (Q : Nat → List (ReceivedTransaction T) → Node T → NewChild T → Prop) : Prop where
  bootstrap : ∀ now, P now [] (.bootstrap period now)
  node_mono : ∀ {clock clock' sent node} txns, clock ≤ clock' → P clock sent node →
    P clock' (sent ++ txns) node
  call_mono : ∀ {clock clock' sent node newChild} txns, clock ≤ clock' →
    Q clock sent node newChild → Q clock' (sent ++ txns) node newChild
  node_locks : ∀ {clock sent node locks}, P clock sent node →
    LockStep sent node.state.includedTxns node.locks locks → P clock sent { node with locks }
  call_locks : ∀ {clock sent node newChild locks}, P clock sent node →
    Q clock sent node newChild → LockStep sent node.state.includedTxns node.locks locks →
      Q clock sent { node with locks } newChild
  newChild : ∀ {clock sent node} quorumProposal daProposal {checked now}, P clock sent node →
    clock ≤ checked → checked ≤ now →
      Q now sent node (node.state.newChild quorumProposal daProposal checked now)
  cloneQueue : ∀ {clock sent node newChild newChild'}, P clock sent node →
    Q clock sent node newChild → newChild.cloneQueue node.locks = some newChild' →
      Q clock sent node newChild'
  cloneReceiver : ∀ {clock sent node newChild addr now child locks}, P clock sent node →
    Q clock sent node newChild → node.state = newChild.parent →
      newChild.cloneReceiver node.locks addr = some (child, locks) → clock ≤ now →
        P now sent ⟨child, locks, ⟨addr, newChild.txnCommitments, now⟩ :: node.lineage⟩

variable {period : Nat} {P : Nat → List (ReceivedTransaction T) → Node T → Prop}
  {Q : Nat → List (ReceivedTransaction T) → Node T → NewChild T → Prop}

theorem Inductive.mono (hPQ : Inductive period P Q) {clock clock' : Nat}
    {sent : List (ReceivedTransaction T)} {node : Node T} (hle : clock ≤ clock')
    (h : P clock sent node) : P clock' sent node := by
  simpa using hPQ.node_mono [] hle h

theorem Inductive.callMono (hPQ : Inductive period P Q) {clock clock' : Nat}
    {sent : List (ReceivedTransaction T)} {node : Node T} {newChild : NewChild T}
    (hle : clock ≤ clock') (h : Q clock sent node newChild) : Q clock' sent node newChild := by
  simpa using hPQ.call_mono [] hle h

theorem holds_new (hPQ : Inductive period P Q) (now : Nat) :
    Holds P Q (new period now : Forest T) where
  addr := by
    intro addr haddr
    simp only [new, Nat.lt_one_iff] at haddr
    rw [haddr]
    rfl
  node := fun _ _ => hPQ.bootstrap now
  parent := by simp [new]
  call := by simp [new]

theorem Holds.broadcast (hPQ : Inductive period P Q) {forest : Forest T} (h : Holds P Q forest)
    (txn : ReceivedTransaction T) :
    Holds P Q { forest with sent := forest.sent ++ [txn] } where
  addr := h.addr
  node := fun addr haddr => hPQ.node_mono [txn] (Nat.le_refl _) (h.node addr haddr)
  parent := h.parent
  call := fun call newChild hcall =>
    hPQ.call_mono [txn] (Nat.le_refl _) (h.call call newChild hcall)

theorem Holds.setLocks (hPQ : Inductive period P Q) {forest : Forest T} (h : Holds P Q forest)
    {addr : Nat} {locks : Locks T} (haddr : addr < forest.size)
    (hlocks :
      LockStep forest.sent (forest.nodes addr).state.includedTxns (forest.locks addr) locks) :
    Holds P Q (forest.setLocks addr locks) where
  addr := by simpa using h.addr
  node := by
    intro addr' haddr'
    by_cases heq : addr' = addr
    . subst heq
      rw [setLocks_nodes_self]
      exact hPQ.node_locks (h.node addr' haddr') hlocks
    . rw [setLocks_nodes_of_ne forest locks heq]
      exact h.node addr' haddr'
  parent := by simpa using h.parent
  call := by
    intro call newChild hcall
    by_cases heq : newChild.parent.addr = addr
    . subst heq
      rw [setLocks_nodes_self]
      exact hPQ.call_locks (h.node _ haddr) (h.call call newChild hcall) hlocks
    . rw [setLocks_nodes_of_ne forest locks heq]
      exact h.call call newChild hcall

theorem Holds.newChild (hPQ : Inductive period P Q) {forest : Forest T} (h : Holds P Q forest)
    {call addr : Nat} (quorumProposal : T.QuorumProposalWrapper) (daProposal : DaProposal2 T)
    {checked now : Nat} (haddr : addr < forest.size) (hchecked : forest.clock ≤ checked)
    (hnow : checked ≤ now) :
    Holds P Q ({ forest with clock := now }.setCall call
      ((forest.nodes addr).state.newChild quorumProposal daProposal checked now)) where
  addr := h.addr
  node := fun addr haddr => hPQ.mono (Nat.le_trans hchecked hnow) (h.node addr haddr)
  parent := by
    intro call' newChild hcall
    rw [setCall_calls] at hcall
    split at hcall
    . simp only [Option.some.injEq] at hcall
      rw [← hcall]
      simp [h.addr addr haddr, haddr]
    . exact h.parent call' newChild hcall
  call := by
    intro call' newChild hcall
    rw [setCall_calls] at hcall
    split at hcall
    . simp only [Option.some.injEq] at hcall
      rw [← hcall]
      simp only [newChild_parent, h.addr addr haddr]
      exact hPQ.newChild quorumProposal daProposal (h.node addr haddr) hchecked hnow
    . exact hPQ.callMono (Nat.le_trans hchecked hnow) (h.call call' newChild hcall)

theorem Holds.cloneQueue (hPQ : Inductive period P Q) {forest : Forest T} (h : Holds P Q forest)
    {call : Nat} {newChild newChild' : NewChild T} (hcall : forest.calls call = some newChild)
    (hqueue : newChild.cloneQueue (forest.locks newChild.parent.addr) = some newChild') :
    Holds P Q (forest.setCall call newChild') where
  addr := h.addr
  node := h.node
  parent := by
    intro call' newChild₀ hcall'
    rw [setCall_calls] at hcall'
    split at hcall'
    . simp only [Option.some.injEq] at hcall'
      obtain ⟨-, rfl⟩ := NewChild.cloneQueue_eq_some.mp hqueue
      rw [← hcall']
      exact h.parent call newChild hcall
    . exact h.parent call' newChild₀ hcall'
  call := by
    intro call' newChild₀ hcall'
    rw [setCall_calls] at hcall'
    split at hcall'
    . simp only [Option.some.injEq] at hcall'
      have hparent := (h.parent call newChild hcall).1
      have hQ := hPQ.cloneQueue (h.node _ hparent) (h.call call newChild hcall) hqueue
      obtain ⟨-, rfl⟩ := NewChild.cloneQueue_eq_some.mp hqueue
      rw [← hcall']
      exact hQ
    . exact h.call call' newChild₀ hcall'

theorem Holds.cloneReceiver (hPQ : Inductive period P Q) {forest : Forest T} (h : Holds P Q forest)
    {call : Nat} {now : Nat} {newChild : NewChild T} {child : BuilderState T}
    {locks : Locks T} (hnow : forest.clock ≤ now) (hcall : forest.calls call = some newChild)
    (hreceiver : newChild.cloneReceiver (forest.locks newChild.parent.addr) forest.size =
      some (child, locks)) :
    Holds P Q ((forest.addChild newChild child locks now).setCall call none) := by
  obtain ⟨hlt, hparent⟩ := h.parent call newChild hcall
  have hchild := hPQ.cloneReceiver (h.node _ hlt) (h.call call newChild hcall) hparent hreceiver hnow
  obtain ⟨-, hchildState, -⟩ := NewChild.cloneReceiver_eq_some.mp hreceiver
  have hcalls : ∀ call' newChild',
      ((forest.addChild newChild child locks now).setCall call none).calls call' = some newChild' →
        forest.calls call' = some newChild' := by
    intro call' newChild' hcall'
    rw [setCall_calls] at hcall'
    split at hcall'
    . contradiction
    . exact hcall'
  constructor
  . intro addr haddr
    simp only [setCall_size, addChild_size] at haddr
    rcases Nat.lt_succ_iff_lt_or_eq.mp haddr with hold | rfl
    . rw [setCall_nodes, addChild_nodes_of_lt forest _ _ _ _ hold]
      exact h.addr addr hold
    . rw [setCall_nodes, addChild_nodes_self, hchildState]
  . intro addr haddr
    simp only [setCall_size, addChild_size] at haddr
    rcases Nat.lt_succ_iff_lt_or_eq.mp haddr with hold | rfl
    . rw [setCall_nodes, addChild_nodes_of_lt forest _ _ _ _ hold]
      exact hPQ.mono hnow (h.node addr hold)
    . rw [setCall_nodes, addChild_nodes_self]
      exact hchild
  . intro call' newChild' hcall'
    obtain ⟨hlt', hparent'⟩ := h.parent call' newChild' (hcalls call' newChild' hcall')
    rw [setCall_nodes, addChild_nodes_of_lt forest _ _ _ _ hlt']
    exact ⟨Nat.lt_succ_of_lt hlt', hparent'⟩
  . intro call' newChild' hcall'
    have hlt' := (h.parent call' newChild' (hcalls call' newChild' hcall')).1
    rw [setCall_nodes, addChild_nodes_of_lt forest _ _ _ _ hlt']
    exact hPQ.callMono hnow (h.call call' newChild' (hcalls call' newChild' hcall'))

theorem holds_of_change (hPQ : Inductive period P Q) {forest forest' : Forest T}
    {action : Action T} (h : Holds P Q forest) (hchange : Change forest action forest') :
    Holds P Q forest' := by
  cases hchange with
  | idle => exact h
  | broadcast txn => exact h.broadcast hPQ txn
  | collect _ addr locks haddr hcollect => exact h.setLocks hPQ haddr (.collect hcollect)
  | popFront addr haddr => exact h.setLocks hPQ haddr .popFront
  | newChild call addr quorumProposal daProposal checked now haddr hcall hchecked hnow =>
    exact h.newChild hPQ quorumProposal daProposal haddr hchecked hnow
  | cloneQueue call newChild newChild' hcall hqueue => exact h.cloneQueue hPQ hcall hqueue
  | cloneReceiver call now newChild child locks hnow hcall hreceiver =>
    exact h.cloneReceiver hPQ hnow hcall hreceiver

theorem holds_of_reachable (hPQ : Inductive period P Q) {forest : Forest T}
    (h : Transition.Reachable step (IsNew period) forest) : Holds P Q forest := by
  apply Transition.reachable_invariant _ _ h
  . rintro _ ⟨now, rfl⟩
    exact holds_new hPQ now
  . intro forest action forest' hforest hstep
    exact holds_of_change hPQ hforest (change_of_step hstep)

def newChildSteps (call addr : Nat) (quorumProposal : T.QuorumProposalWrapper)
    (daProposal : DaProposal2 T) (checked now finished : Nat) : List (Action T) :=
  [.newChild call addr quorumProposal daProposal checked now, .cloneQueue call,
    .cloneReceiver call finished]

theorem run_newChildSteps_eq_some {forest forest' : Forest T} {call addr : Nat}
    {quorumProposal : T.QuorumProposalWrapper} {daProposal : DaProposal2 T}
    {checked now finished : Nat} :
    Transition.run step forest
        (newChildSteps call addr quorumProposal daProposal checked now finished) = some forest' ↔
      ∃ forest₁ forest₂,
        forest.step (.newChild call addr quorumProposal daProposal checked now) = some forest₁ ∧
        forest₁.step (.cloneQueue call) = some forest₂ ∧
        forest₂.step (.cloneReceiver call finished) = some forest' := by
  simp only [newChildSteps, Transition.run_cons_eq_some, Transition.run_nil, Option.some.injEq,
    exists_eq_right, exists_and_left]

theorem exists_run_newChildSteps {forest : Forest T} {call addr : Nat}
    {quorumProposal : T.QuorumProposalWrapper} {daProposal : DaProposal2 T}
    {checked now finished : Nat} (haddr : addr < forest.size)
    (hstate : (forest.nodes addr).state.addr = addr) (hcall : forest.calls call = none)
    (hreceiver : (forest.locks addr).receiverGuard = none) (hchecked : forest.clock ≤ checked)
    (hnow : checked ≤ now) (hfinished : now ≤ finished) :
    ∃ forest', Transition.run step forest
      (newChildSteps call addr quorumProposal daProposal checked now finished) = some forest' := by
  simp only [run_newChildSteps_eq_some]
  let newChild := (forest.nodes addr).state.newChild quorumProposal daProposal checked now
  let forest₁ := { forest with clock := now }.setCall call newChild
  let newChild' := { newChild with
    txnQueue := some ((forest.locks addr).txnQueue.prune newChild.txnCommitments) }
  let forest₂ := forest₁.setCall call newChild'
  have hparent : forest₁.locks newChild.parent.addr = forest.locks addr := by
    rw [newChild_parent, hstate]
    rfl
  have hcloned : ∃ child locks, newChild'.cloneReceiver (forest₂.locks newChild'.parent.addr)
      forest₂.size = some (child, locks) := by
    refine ⟨_, _, NewChild.cloneReceiver_eq_some.mpr ⟨?_, rfl, _, rfl, rfl⟩⟩
    exact (congrArg Locks.receiverGuard hparent).trans hreceiver
  obtain ⟨child, locks, hcloned⟩ := hcloned
  refine ⟨(forest₂.addChild newChild' child locks finished).setCall call none, forest₁, forest₂,
    ?_, ?_, ?_⟩
  . exact step_newChild_eq_some.mpr ⟨⟨haddr, hchecked, hnow⟩, hcall, rfl⟩
  . refine step_cloneQueue_eq_some.mpr ⟨newChild, newChild', ?_, ?_, rfl⟩
    . rw [setCall_calls, if_pos rfl]
    . rw [hparent, NewChild.cloneQueue_eq_some]
      exact ⟨rfl, rfl⟩
  . refine step_cloneReceiver_eq_some.mpr ⟨hfinished, newChild', child, locks, ?_, hcloned, rfl⟩
    rw [setCall_calls, if_pos rfl]

def childNode (forest : Forest T) (addr : Nat) (quorumProposal : T.QuorumProposalWrapper)
    (daProposal : DaProposal2 T) (checked now finished : Nat) : Node T :=
  let parent := (forest.nodes addr).state
  {
    state := {
      parentBlockReferences :=
        (parent.newChild quorumProposal daProposal checked now).parentBlockReferences
      includedTxns := (parent.includedTxns.rotate checked now).extend daProposal.txnCommitments
      addr := forest.size
    }
    locks := {
      txnQueue := (forest.locks parent.addr).txnQueue.prune daProposal.txnCommitments
      txnReceiver := (forest.locks parent.addr).txnReceiver
      receiverGuard := none
    }
    lineage :=
      ⟨forest.size, daProposal.txnCommitments, finished⟩ :: (forest.nodes parent.addr).lineage
  }

theorem run_newChildSteps {forest forest' : Forest T} {call addr : Nat}
    {quorumProposal : T.QuorumProposalWrapper} {daProposal : DaProposal2 T}
    {checked now finished : Nat} (h : Transition.run step forest
      (newChildSteps call addr quorumProposal daProposal checked now finished) = some forest') :
    addr < forest.size ∧ forest'.size = forest.size + 1 ∧
      (∀ addr' < forest.size, forest'.nodes addr' = forest.nodes addr') ∧
      forest'.nodes forest.size =
        forest.childNode addr quorumProposal daProposal checked now finished := by
  rw [run_newChildSteps_eq_some] at h
  obtain ⟨forest₁, forest₂, hnew, hqueue, hreceiver⟩ := h
  obtain ⟨⟨hlt, -, -⟩, -, rfl⟩ := step_newChild_eq_some.mp hnew
  obtain ⟨newChild, newChild', hcall, hcloned, rfl⟩ := step_cloneQueue_eq_some.mp hqueue
  obtain ⟨-, newChild'', child, locks, hcall', hcloned', rfl⟩ :=
    step_cloneReceiver_eq_some.mp hreceiver
  rw [setCall_calls, if_pos rfl, Option.some.injEq] at hcall hcall'
  subst hcall hcall'
  obtain ⟨-, rfl⟩ := NewChild.cloneQueue_eq_some.mp hcloned
  obtain ⟨-, rfl, queue, hsome, rfl⟩ := NewChild.cloneReceiver_eq_some.mp hcloned'
  rw [Option.some.injEq] at hsome
  subst hsome
  refine ⟨hlt, rfl, ?_, ?_⟩
  . intro addr' hlt'
    exact addChild_nodes_of_lt _ _ _ _ _ hlt'
  . rw [setCall_nodes]
    exact addChild_nodes_self _ _ _ _ _

theorem clock_of_newChildSteps {forest forest' : Forest T} {call addr : Nat}
    {quorumProposal : T.QuorumProposalWrapper} {daProposal : DaProposal2 T}
    {checked now finished : Nat} (h : Transition.run step forest
      (newChildSteps call addr quorumProposal daProposal checked now finished) = some forest') :
    forest'.clock = finished := by
  obtain ⟨forest₁, forest₂, -, -, hreceiver⟩ := run_newChildSteps_eq_some.mp h
  obtain ⟨-, newChild, child, locks, -, -, rfl⟩ := step_cloneReceiver_eq_some.mp hreceiver
  rfl

end Forest

end BuilderCore
