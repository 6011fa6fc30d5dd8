import BuilderCore.Shared.State
import BuilderCore.Transition
import Mathlib.Data.Option.Basic
import Mathlib.Logic.Function.Basic

/-!
This module contains all builder states that `new_child` calls make out of the bootstrap state,
together with the broadcast channel they read from and the calls that are in progress, and the steps
that any number of tasks interleave on them.
-/

namespace BuilderCore

variable {T : NodeType}

/--
What is remembered of a builder state in the history of its descendants: the transactions of the
block from whose proposals it was spawned, and when it was created.
-/
structure Ancestor (T : NodeType) where
  addr : Nat
  block : List T.TxnCommitment
  created : Nat

/--
A builder state, and as history the state itself, its parent, its grandparent and so on.
-/
structure Node (T : NodeType) where
  state : BuilderState T
  locks : Locks T
  lineage : List (Ancestor T)

def Node.bootstrap (period : Nat) (now : Nat) : Node T where
  state := ⟨.bootstrap, .new period now, 0⟩
  locks := .new
  lineage := [⟨0, [], now⟩]

structure Forest (T : NodeType) where
  clock : Nat
  sent : List (ReceivedTransaction T)
  nodes : Nat → Node T
  size : Nat
  calls : Nat → Option (NewChild T)

namespace Forest

def new (period : Nat) (now : Nat) : Forest T where
  clock := now
  sent := []
  nodes := fun _ => .bootstrap period now
  size := 1
  calls := fun _ => none

def IsNew (period : Nat) (forest : Forest T) : Prop := ∃ now, forest = new period now

inductive Action (T : NodeType) where
  | broadcast (txn : ReceivedTransaction T)
  | tryRecv (addr : Nat)
  | insert (addr : Nat)
  | popFront (addr : Nat)
  | newChild (call addr : Nat) (quorumProposal : T.QuorumProposalWrapper)
      (daProposal : DaProposal2 T) (checked now : Nat)
  | cloneQueue (call : Nat)
  | cloneReceiver (call : Nat) (now : Nat)

def locks (forest : Forest T) (addr : Nat) : Locks T := (forest.nodes addr).locks

def setLocks (forest : Forest T) (addr : Nat) (locks : Locks T) : Forest T :=
  { forest with nodes := Function.update forest.nodes addr { forest.nodes addr with locks } }

def setCall (forest : Forest T) (call : Nat) (newChild : Option (NewChild T)) : Forest T :=
  { forest with calls := Function.update forest.calls call newChild }

def addChild (forest : Forest T) (call : NewChild T) (child : BuilderState T) (locks : Locks T)
    (now : Nat) : Forest T :=
  let lineage :=
    ⟨forest.size, call.txnCommitments, now⟩ :: (forest.nodes call.parent.addr).lineage
  { forest with
    clock := now
    nodes := Function.update forest.nodes forest.size { state := child, locks, lineage }
    size := forest.size + 1 }

def step (forest : Forest T) (action : Action T) : Option (Forest T) :=
  match action with
  | .broadcast txn => some { forest with sent := forest.sent ++ [txn] }
  | .tryRecv addr => do
    guard (addr < forest.size)
    let includedTxns := (forest.nodes addr).state.includedTxns
    let locks ← (forest.locks addr).tryRecv forest.sent includedTxns
    return forest.setLocks addr locks
  | .insert addr => do
    guard (addr < forest.size)
    let locks ← (forest.locks addr).insertReceived
    return forest.setLocks addr locks
  | .popFront addr => do
    guard (addr < forest.size)
    return forest.setLocks addr (forest.locks addr).popFront
  | .newChild call addr quorumProposal daProposal checked now => do
    guard (addr < forest.size ∧ forest.clock ≤ checked ∧ checked ≤ now)
    guard (forest.calls call).isNone
    let newChild := (forest.nodes addr).state.newChild quorumProposal daProposal checked now
    return { forest with clock := now }.setCall call newChild
  | .cloneQueue call => do
    let newChild ← forest.calls call
    let newChild ← newChild.cloneQueue (forest.locks newChild.parent.addr)
    return forest.setCall call newChild
  | .cloneReceiver call now => do
    guard (forest.clock ≤ now)
    let newChild ← forest.calls call
    let (child, locks) ← newChild.cloneReceiver (forest.locks newChild.parent.addr) forest.size
    return (forest.addChild newChild child locks now).setCall call none

inductive Change (forest : Forest T) : Action T → Forest T → Prop where
  | idle (action : Action T) : Change forest action forest
  | broadcast (txn : ReceivedTransaction T) :
      Change forest (.broadcast txn) { forest with sent := forest.sent ++ [txn] }
  | collect (action : Action T) (addr : Nat) (locks : Locks T) (haddr : addr < forest.size)
      (hcollect :
        CollectStep forest.sent (forest.nodes addr).state.includedTxns (forest.locks addr) locks) :
      Change forest action (forest.setLocks addr locks)
  | popFront (addr : Nat) (haddr : addr < forest.size) :
      Change forest (.popFront addr) (forest.setLocks addr (forest.locks addr).popFront)
  | newChild (call addr : Nat) (quorumProposal : T.QuorumProposalWrapper)
      (daProposal : DaProposal2 T) (checked now : Nat) (haddr : addr < forest.size)
      (hcall : forest.calls call = none) (hchecked : forest.clock ≤ checked)
      (hnow : checked ≤ now) :
      Change forest (.newChild call addr quorumProposal daProposal checked now)
        ({ forest with clock := now }.setCall call
          ((forest.nodes addr).state.newChild quorumProposal daProposal checked now))
  | cloneQueue (call : Nat) (newChild newChild' : NewChild T)
      (hcall : forest.calls call = some newChild)
      (hqueue : newChild.cloneQueue (forest.locks newChild.parent.addr) = some newChild') :
      Change forest (.cloneQueue call) (forest.setCall call newChild')
  | cloneReceiver (call : Nat) (now : Nat) (newChild : NewChild T) (child : BuilderState T)
      (locks : Locks T) (hnow : forest.clock ≤ now) (hcall : forest.calls call = some newChild)
      (hreceiver : newChild.cloneReceiver (forest.locks newChild.parent.addr) forest.size =
        some (child, locks)) :
      Change forest (.cloneReceiver call now)
        ((forest.addChild newChild child locks now).setCall call none)

theorem step_newChild_eq_some {forest forest' : Forest T} {call addr : Nat}
    {quorumProposal : T.QuorumProposalWrapper} {daProposal : DaProposal2 T}
    {checked now : Nat} :
    forest.step (.newChild call addr quorumProposal daProposal checked now) = some forest' ↔
      (addr < forest.size ∧ forest.clock ≤ checked ∧ checked ≤ now) ∧
      forest.calls call = none ∧
      forest' = { forest with clock := now }.setCall call
        ((forest.nodes addr).state.newChild quorumProposal daProposal checked now) := by
  simp only [step, Option.bind_eq_bind, Option.bind_eq_some_iff, Option.guard_eq_some',
    exists_const, Option.isNone_iff_eq_none, Option.pure_def, Option.some.injEq,
    @eq_comm _ _ forest']

theorem step_cloneQueue_eq_some {forest forest' : Forest T} {call : Nat} :
    forest.step (.cloneQueue call) = some forest' ↔
      ∃ newChild newChild', forest.calls call = some newChild ∧
        newChild.cloneQueue (forest.locks newChild.parent.addr) = some newChild' ∧
        forest' = forest.setCall call newChild' := by
  simp only [step, Option.bind_eq_bind, Option.bind_eq_some_iff, Option.pure_def,
    Option.some.injEq, @eq_comm _ _ forest', exists_and_left]

theorem step_cloneReceiver_eq_some {forest forest' : Forest T} {call : Nat} {now : Nat} :
    forest.step (.cloneReceiver call now) = some forest' ↔
      forest.clock ≤ now ∧ ∃ newChild child locks, forest.calls call = some newChild ∧
        newChild.cloneReceiver (forest.locks newChild.parent.addr) forest.size =
          some (child, locks) ∧
        forest' = (forest.addChild newChild child locks now).setCall call none := by
  simp only [step, Option.bind_eq_bind, Option.bind_eq_some_iff, Option.guard_eq_some',
    exists_const, Option.pure_def, Option.some.injEq, Prod.exists, @eq_comm _ _ forest',
    exists_and_left]

theorem change_of_step {forest forest' : Forest T} {action : Action T}
    (h : forest.step action = some forest') : Change forest action forest' := by
  cases action with
  | broadcast txn =>
    simp only [step, Option.some.injEq] at h
    rw [← h]
    exact .broadcast txn
  | tryRecv addr =>
    simp only [step, Option.bind_eq_bind, Option.bind_eq_some_iff, Option.guard_eq_some',
      exists_const, Option.pure_def, Option.some.injEq] at h
    obtain ⟨haddr, locks, hlocks, rfl⟩ := h
    rcases Locks.collectStep_of_tryRecv hlocks with rfl | hcollect
    . simp only [setLocks, Forest.locks, Function.update_eq_self]
      exact .idle _
    . exact .collect _ addr locks haddr hcollect
  | insert addr =>
    simp only [step, Option.bind_eq_bind, Option.bind_eq_some_iff, Option.guard_eq_some',
      exists_const, Option.pure_def, Option.some.injEq] at h
    obtain ⟨haddr, locks, hlocks, rfl⟩ := h
    exact .collect _ addr locks haddr (Locks.collectStep_of_insertReceived hlocks)
  | popFront addr =>
    simp only [step, Option.bind_eq_bind, Option.bind_eq_some_iff, Option.guard_eq_some',
      exists_const, Option.pure_def, Option.some.injEq] at h
    obtain ⟨haddr, rfl⟩ := h
    exact .popFront addr haddr
  | newChild call addr quorumProposal daProposal checked now =>
    rw [step_newChild_eq_some] at h
    obtain ⟨⟨haddr, hchecked, hnow⟩, hcall, rfl⟩ := h
    exact .newChild call addr quorumProposal daProposal checked now haddr hcall hchecked hnow
  | cloneQueue call =>
    rw [step_cloneQueue_eq_some] at h
    obtain ⟨newChild, newChild', hcall, hqueue, rfl⟩ := h
    exact .cloneQueue call newChild newChild' hcall hqueue
  | cloneReceiver call now =>
    rw [step_cloneReceiver_eq_some] at h
    obtain ⟨hnow, newChild, child, locks, hcall, hreceiver, rfl⟩ := h
    exact .cloneReceiver call now newChild child locks hnow hcall hreceiver

end Forest

end BuilderCore
