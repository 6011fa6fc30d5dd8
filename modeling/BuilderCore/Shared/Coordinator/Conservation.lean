import BuilderCore.Shared.Coordinator.StoredNodes
import BuilderCore.Shared.ForestConservation
import BuilderCore.Shared.ForestQueue

/-!
This module contains what becomes of every transaction that the coordinator accepts: each builder state
that it stores still has it, unless a block of the state's lineage has it or a build dropped it.
-/

namespace BuilderCore

open Transition

variable {T : NodeType}

namespace Coordinator

def dropped (self : Coordinator T) (action : Action T) : List (Nat × T.TxnCommitment) :=
  match action with
  | .request request => self.forest.dropped request.action
  | _ => []

def Overtakes (self : Coordinator T) (action : Action T) : Prop :=
  match action with
  | .request request => self.forest.Overtakes request.action
  | _ => False

def droppedByCall (self : Coordinator T) (call : Call T) : List (Nat × T.TxnCommitment) :=
  match call with
  | .request request => self.forest.dropped request.action
  | _ => []

section

variable {self self' : Coordinator T} {dropped : List (Nat × T.TxnCommitment)}

theorem conserved_handleTransaction (h : self.forest.Conserved dropped)
    (transaction : ReceivedTransaction T)
    (maybeEvicted : Except (TrySendError T) (Option (ReceivedTransaction T))) :
    (self.handleTransaction transaction maybeEvicted).1.forest.Conserved dropped := by
  cases maybeEvicted with
  | error err => exact h
  | ok evicted =>
    have hbroadcast : self.forest.step (.broadcast transaction) = some _ := rfl
    exact h.step_of_ne_insert hbroadcast (by simp) rfl

theorem conserved_step (h : self.forest.Conserved dropped) {action : Action T}
    (hnot : ¬ self.Overtakes action) (hstep : self.step action = some self') :
    self'.forest.Conserved (dropped ++ self.dropped action) := by
  cases change_of_step hstep with
  | request request forest hforest => exact h.step hnot hforest
  | extend _ _ _ _ _ _ _ _ _ hforest =>
    simpa [Coordinator.dropped] using h.step_of_ne_insert hforest (by simp) rfl
  | cloneQueue _ _ _ hforest =>
    simpa [Coordinator.dropped] using h.step_of_ne_insert hforest (by simp) rfl
  | cloneReceiver _ _ _ _ hforest =>
    simpa [Coordinator.dropped] using h.step_of_ne_insert hforest (by simp) rfl
  | transaction transaction maybeEvicted =>
    rw [← Option.some.inj hstep]
    simpa [Coordinator.dropped] using conserved_handleTransaction h transaction maybeEvicted
  | _ => simpa [Coordinator.dropped] using h

theorem conserved_of_run {period : Nat} {start : Coordinator T} {actions : List (Action T)}
    (hstart : IsNew period start)
    (halong : Along step (fun self action => ¬ self.Overtakes action) start actions)
    (hrun : run (logging step Coordinator.dropped) (start, []) actions = some (self, dropped)) :
    self.forest.Conserved dropped := by
  obtain ⟨now, rfl⟩ := hstart
  have halong := (@along_logging_iff _ _ step _ _ Coordinator.dropped (new period now, []) _).mpr halong
  apply run_invariant_along (P := fun s => s.1.forest.Conserved s.2) _ _ halong hrun
  . rintro ⟨self, dropped⟩ action ⟨self', dropped'⟩ hself hnot hstep
    obtain ⟨hstep, rfl⟩ := logging_eq_some.mp hstep
    exact conserved_step hself hnot hstep
  . exact Forest.conserved_new period now

/--
No call is in progress between two calls that do not overlap, so nothing can overtake one.
-/
theorem conserved_perform (h : self.forest.Conserved dropped)
    (hidle : ∀ call, self.forest.calls call = none) {call : Call T}
    (hperform : self.perform call = some self') :
    self'.forest.Conserved (dropped ++ self.droppedByCall call) ∧
      ∀ call, self'.forest.calls call = none := by
  cases performed_of_perform hperform with
  | handle _ proposal schedule _ hcall hhandled =>
    have hnothing : self.droppedByCall call = [] := by
      cases call with
      | request => contradiction
      | _ => rfl
    rw [hnothing, List.append_nil]
    cases hhandled with
    | spawn quorumProposal daProposal parentState forest _ _ hforest =>
      refine ⟨h.newChildSteps hforest, ?_⟩
      intro call'
      obtain ⟨hnone, hother⟩ := Forest.calls_of_newChildSteps hforest
      by_cases hzero : call' = 0
      . exact (congrArg forest.calls hzero).trans hnone
      . exact (hother call' hzero).trans (hidle call')
    | _ => exact ⟨h, hidle⟩
  | decide latest rest => exact ⟨by simpa [droppedByCall] using h, hidle⟩
  | transaction transaction maybeEvicted =>
    rw [← Option.some.inj hperform]
    refine ⟨by simpa [droppedByCall] using conserved_handleTransaction h _ _, ?_⟩
    intro call
    cases maybeEvicted with
    | error err => exact hidle call
    | ok evicted => exact hidle call
  | request request forest hforest =>
    refine ⟨h.step ?_ hforest, ?_⟩
    . rintro ⟨call, newChild, hcall, -, -⟩
      rw [hidle] at hcall
      contradiction
    . intro call
      rw [calls_of_request hforest]
      exact hidle call

theorem conserved_of_performs {period : Nat} {start : Coordinator T} {calls : List (Call T)}
    (hstart : IsNew period start)
    (hrun : run (logging perform droppedByCall) (start, []) calls = some (self, dropped)) :
    self.forest.Conserved dropped := by
  obtain ⟨now, rfl⟩ := hstart
  have hboth := run_invariant (P := fun s : Coordinator T × List (Nat × T.TxnCommitment) =>
    s.1.forest.Conserved s.2 ∧ ∀ call, s.1.forest.calls call = none) ?_
    ⟨Forest.conserved_new period now, fun _ => rfl⟩ hrun
  . exact hboth.1
  . rintro ⟨self, dropped⟩ call ⟨self', dropped'⟩ ⟨hself, hidle⟩ hstep
    obtain ⟨hperform, rfl⟩ := logging_eq_some.mp hstep
    exact conserved_perform hself hidle hperform

end

/--
Every stored state has every accepted transaction in its queue or receiver, or some state of its
lineage was spawned for a block with it or dropped it.
-/
def AccountsForAll (self : Coordinator T) (dropped : List (Nat × T.TxnCommitment)) : Prop :=
  ∀ state ∈ self.builderStates.stored, ∀ txn ∈ self.forest.sent,
    txn ∈ (self.forest.locks state.addr).unread self.forest.sent ∨
    (self.forest.locks state.addr).receiverGuard = some txn ∨
    (∃ queued ∈ (self.forest.locks state.addr).txnQueue.transactions, queued.commit = txn.commit) ∨
    ∃ ancestor ∈ (self.forest.nodes state.addr).lineage,
      txn.commit ∈ ancestor.block ∨ (ancestor.addr, txn.commit) ∈ dropped

theorem accountsForAll_of_conserved {period : Nat} {self : Coordinator T}
    {dropped : List (Nat × T.TxnCommitment)} (hreachable : Reachable step (IsNew period) self)
    (h : self.forest.Conserved dropped) : self.AccountsForAll dropped := by
  intro state hstored txn htxn
  obtain ⟨haddr, -⟩ := (storesNodes hreachable).stored state hstored
  have hqueue := Forest.queueInvariant (forest_reachable hreachable) haddr
  rcases h.conserves.node state.addr haddr txn htxn with hunread | hguard | hqueued | hsettles
  . exact .inl hunread
  . exact .inr (.inl hguard)
  . exact .inr (.inr (.inl (hqueue.wellFormed.mem_commits.mp hqueued)))
  . exact .inr (.inr (.inr hsettles))

/--
No accepted transaction is lost in a run in which no queue takes in a message after a fork in progress
has cloned it, and so in every run of calls that do not overlap. Every call is taken to its end here: the
message that `collect_txns` has received and not inserted yet is lost when its caller is cancelled, which
is no run of this model.
-/
theorem accounts_for_accepted (period : Nat) {start : Coordinator T} (hstart : IsNew period start) :
    (∀ actions self dropped, Along step (fun self action => ¬ self.Overtakes action) start actions →
      run (logging step Coordinator.dropped) (start, []) actions = some (self, dropped) →
        self.AccountsForAll dropped) ∧
    ∀ calls self dropped,
      run (logging perform droppedByCall) (start, []) calls = some (self, dropped) →
        self.AccountsForAll dropped := by
  constructor
  . intro actions self dropped halong hrun
    refine accountsForAll_of_conserved ⟨start, actions, hstart, run_of_run_logging hrun⟩ ?_
    exact conserved_of_run hstart halong hrun
  . intro calls self dropped hrun
    obtain ⟨actions, hactions, -⟩ := run_of_performs (run_of_run_logging hrun)
    refine accountsForAll_of_conserved ⟨start, actions, hstart, hactions⟩ ?_
    exact conserved_of_performs hstart hrun

/--
Transaction 7 is dropped before the fork, 8 is in the block of the fork, and 9 is never received.
-/
def testCalls : List (Call TestTypes) := [
  .transaction (TestTypes.txn 7) (.ok none),
  .transaction (TestTypes.txn 8) (.ok none),
  .request (.tryRecv 0),
  .request (.insert 0),
  .request (.popFront 0),
  .quorumProposal (TestTypes.quorumProposal 1 10 [8] ⟨0, []⟩) ⟨0, 1, 1, 1⟩,
  .transaction (TestTypes.txn 9) (.ok none),
  .daProposal (TestTypes.daProposal 1 [8]) ⟨0, 1, 1, 1⟩]

theorem accounts_for_accepted_testCalls :
    ∃ self : Coordinator TestTypes,
      run (logging perform droppedByCall) (new 5 0, []) testCalls = some (self, [(0, (7 : Nat))]) ∧
      self.forest.sent = [TestTypes.txn 7, TestTypes.txn 8, TestTypes.txn 9] ∧
      (self.builderStates.get ⟨1, (10 : Nat)⟩).isSome = true ∧
      self.AccountsForAll [(0, (7 : Nat))] := by
  have hself : ∃ self : Coordinator TestTypes,
      run (logging perform droppedByCall) (new 5 0, []) testCalls = some (self, [(0, (7 : Nat))]) ∧
      self.forest.sent = [TestTypes.txn 7, TestTypes.txn 8, TestTypes.txn 9] ∧
      (self.builderStates.get ⟨1, (10 : Nat)⟩).isSome = true := ⟨_, rfl, rfl, rfl⟩
  obtain ⟨self, hrun, hsent, hstored⟩ := hself
  exact ⟨self, hrun, hsent, hstored, (accounts_for_accepted 5 ⟨0, rfl⟩).2 _ _ _ hrun⟩

end Coordinator

end BuilderCore
