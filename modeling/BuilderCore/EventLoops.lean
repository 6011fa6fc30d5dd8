import BuilderCore.Shared.Coordinator.Progress
import BuilderCore.Spawning
import BuilderCore.Submissions

/-!
This module contains the events of HotShot, the tasks that a coordinator runs for them, and the event
loop of the marketplace builder: what becomes of every event, and that no task is stuck.
-/

namespace BuilderCore

open Transition

variable {T : NodeType}

/--
The events that the builders distinguish. `other` is any that they ignore.
-/
inductive EventType (T : NodeType) where
  | error
  | transactions (transactions : List T.Transaction)
  | decide (leafChain : List (LeafInfo T))
  | daProposal (daProposal : DaProposal2 T)
  | quorumProposal (quorumProposal : T.QuorumProposalWrapper)
  | other

/--
The calls that events are there for.
-/
inductive EventCall (T : NodeType) where
  | handleTransaction (tx : ReceivedTransaction T)
  | handleDecide (latest : LeafInfo T) (rest : List (LeafInfo T))
  | handleProposal (proposal : T.QuorumProposalWrapper ⊕ DaProposal2 T)
  | prune (cutoff : Nat)

/--
The tasks of the loops. `spawnBuilderState` holds the guard of `proposals`.
-/
inductive EventTask (T : NodeType) where
  | handleTransactions (txns : List (ReceivedTransaction T))
  | handleDecide (latest : LeafInfo T) (rest : List (LeafInfo T))
  | handleProposal (proposal : T.QuorumProposalWrapper ⊕ DaProposal2 T)
  | spawnBuilderState

/--
What a task does not decide itself: which future of a `FuturesUnordered` comes next, the outcome of
`try_broadcast`, the candidate that is popped and the readings of the clock.
-/
inductive TaskChoice (T : NodeType) where
  | run
  | broadcast (i : Nat) (maybeEvicted : Except (TrySendError T) (Option (ReceivedTransaction T)))
  | findParent (choice checked now : Nat)
  | cloneQueue
  | cloneReceiver (now : Nat)
  | insertChild

namespace EventTask

def owes (self : EventTask T) : List (EventCall T) :=
  match self with
  | .handleTransactions txns => txns.map .handleTransaction
  | .handleDecide latest rest => [.handleDecide latest rest]
  | .handleProposal proposal => [.handleProposal proposal]
  | .spawnBuilderState => []

/--
The next step of a task that only uses the coordinator.
-/
def coordinate (self : EventTask T) (choice : TaskChoice T) : Option (Coordinator.Action T) :=
  match self, choice with
  | .handleDecide latest rest, .run => some (.decide (latest :: rest))
  | .handleProposal proposal, .run => some (.lockProposals proposal)
  | .spawnBuilderState, .findParent choice checked now => some (.findParent choice checked now)
  | .spawnBuilderState, .cloneQueue => some .cloneQueue
  | .spawnBuilderState, .cloneReceiver now => some (.cloneReceiver now)
  | .spawnBuilderState, .insertChild => some .insertChild
  | _, _ => none

/--
What is left of a task after its step. Whoever has taken the guard goes on until it is free again.
-/
def after (self : EventTask T) (choice : TaskChoice T) (coordinator : Coordinator T) :
    List (EventTask T) :=
  match self, choice with
  | .handleTransactions txns, .broadcast i _ => [.handleTransactions (txns.eraseIdx i)]
  | .handleTransactions txns, _ => [.handleTransactions txns]
  | .handleDecide _ _, _ => []
  | .handleProposal _, _ | .spawnBuilderState, _ =>
    match coordinator.proposalsGuard with
    | .free => []
    | _ => [.spawnBuilderState]

end EventTask

namespace Coordinator

def Action.started (action : Action T) : List (EventCall T) :=
  match action with
  | .transaction tx _ => [.handleTransaction tx]
  | .decide (latest :: rest) => [.handleDecide latest rest]
  | .lockProposals proposal => [.handleProposal proposal]
  | _ => []

/--
What requests do with the coordinator.
-/
def Action.isRequest (action : Action T) : Bool :=
  match action with
  | .transaction _ _ | .request _ => true
  | _ => false

/--
A request that has received a message inserts it into the queue, and releases the receiver with that.
-/
def Action.CompletesInsertion (action : Action T) : Prop :=
  ∃ addr, action = .request (.insert addr)

end Coordinator

namespace Marketplace

/--
What an event leads to, after the hook for events was called with it. `processTransactions` is the
other hook.
-/
def spawnTasks (processTransactions : List T.Transaction → List T.Transaction)
    (event : EventType T) : List (EventTask T) :=
  match event with
  | .error | .other => []
  | .transactions transactions =>
    [.handleTransactions (received .publicMempool (processTransactions transactions))]
  -- the task panics at `leaf_chain[0]`
  | .decide [] => []
  | .decide (latest :: rest) => [.handleDecide latest rest]
  | .daProposal daProposal => [.handleProposal (.inr daProposal)]
  | .quorumProposal quorumProposal => [.handleProposal (.inl quorumProposal)]

def resume (task : EventTask T) (choice : TaskChoice T) : Option (Coordinator.Action T) :=
  match task, choice with
  | .handleTransactions txns, .broadcast i maybeEvicted =>
    (txns[i]?).map fun tx => .transaction tx maybeEvicted
  | task, choice => task.coordinate choice

def eventLoop (processTransactions : List T.Transaction → List T.Transaction) :
    Spawning.Loop (Coordinator T) (Coordinator.Action T) (EventType T) (EventTask T)
      (TaskChoice T) where
  step := Coordinator.step
  spawn event := some (spawnTasks processTransactions event)
  resume _ := resume
  after := EventTask.after
  isOutside := Coordinator.Action.isRequest

end Marketplace

namespace EventTask

def holdsGuard (self : EventTask T) : Bool :=
  match self with
  | .spawnBuilderState => true
  | _ => false

end EventTask

namespace Coordinator

def isLocked (self : Coordinator T) : Bool :=
  match self.proposalsGuard with
  | .free => false
  | _ => true

section

variable {self self' : Coordinator T} {action : Action T}

theorem proposalsGuard_handleTransaction (transaction : ReceivedTransaction T)
    (maybeEvicted : Except (TrySendError T) (Option (ReceivedTransaction T))) :
    (self.handleTransaction transaction maybeEvicted).1.proposalsGuard = self.proposalsGuard := by
  cases maybeEvicted <;> rfl

theorem isLocked_of_isRequest (hrequest : action.isRequest = true)
    (hstep : self.step action = some self') : self'.isLocked = self.isLocked := by
  cases change_of_step hstep with
  | transaction transaction maybeEvicted =>
    rw [← Option.some.inj hstep]
    simp only [isLocked, proposalsGuard_handleTransaction]
  | request => rfl
  | _ => contradiction

theorem countP_after (self : Coordinator T) {task : EventTask T} (choice : TaskChoice T)
    (htask : (∃ proposal, task = .handleProposal proposal) ∨ task = .spawnBuilderState) :
    (task.after choice self).countP EventTask.holdsGuard = self.isLocked.toNat := by
  rcases htask with ⟨proposal, rfl⟩ | rfl
  all_goals
    unfold EventTask.after isLocked
    cases self.proposalsGuard <;> rfl

/--
What is neither the start of a call nor a request is done with the guard.
-/
theorem isLocked_of_started_eq_nil (hstarted : action.started = [])
    (hrequest : action.isRequest = false) (hstep : self.step action = some self') :
    self.isLocked = true := by
  cases change_of_step hstep with
  | orphan _ _ _ _ _ hguard => simp [isLocked, hguard]
  | extend _ _ _ _ _ _ _ hguard => simp [isLocked, hguard]
  | cloneQueue _ _ hguard => simp [isLocked, hguard]
  | cloneReceiver _ _ _ hguard => simp [isLocked, hguard]
  | insertChild _ hguard => simp [isLocked, hguard]
  | _ => contradiction

theorem coordinate_cases {task : EventTask T} {choice : TaskChoice T}
    (h : task.coordinate choice = some action) :
    (∃ latest rest, task = .handleDecide latest rest ∧ action = .decide (latest :: rest)) ∨
    (∃ proposal, task = .handleProposal proposal ∧ action = .lockProposals proposal) ∨
    task = .spawnBuilderState ∧ action.started = [] ∧ action.isRequest = false := by
  unfold EventTask.coordinate at h
  split at h
  . next latest rest => exact .inl ⟨latest, rest, rfl, (Option.some.inj h).symm⟩
  . next proposal => exact .inr (.inl ⟨proposal, rfl, (Option.some.inj h).symm⟩)
  . exact .inr (.inr ⟨rfl, by rw [← Option.some.inj h]; exact ⟨rfl, rfl⟩⟩)
  . exact .inr (.inr ⟨rfl, by rw [← Option.some.inj h]; exact ⟨rfl, rfl⟩⟩)
  . exact .inr (.inr ⟨rfl, by rw [← Option.some.inj h]; exact ⟨rfl, rfl⟩⟩)
  . exact .inr (.inr ⟨rfl, by rw [← Option.some.inj h]; exact ⟨rfl, rfl⟩⟩)
  . contradiction

/--
A task takes the guard only when it is free, and goes on with it only while it has it.
-/
theorem locking_coordinate {task : EventTask T} {choice : TaskChoice T}
    (hresume : task.coordinate choice = some action) (hstep : self.step action = some self') :
    self'.isLocked.toNat + task.holdsGuard.toNat =
      self.isLocked.toNat + (task.after choice self').countP EventTask.holdsGuard := by
  rcases coordinate_cases hresume with ⟨latest, rest, rfl, rfl⟩ | ⟨proposal, rfl, rfl⟩ |
    ⟨rfl, hstarted, hrequest⟩
  . -- a decide does not touch the guard
    cases change_of_step hstep
    simp [isLocked, EventTask.holdsGuard, EventTask.after]
  . have hfree : self.isLocked = false := by
      cases change_of_step hstep with
      | duplicate _ _ hguard => simp [isLocked, hguard]
      | store _ hguard => simp [isLocked, hguard]
      | pair _ _ _ hguard => simp [isLocked, hguard]
    rw [countP_after self' choice (.inl ⟨proposal, rfl⟩), hfree]
    simp [EventTask.holdsGuard]
  . rw [countP_after self' choice (.inr rfl), isLocked_of_started_eq_nil hstarted hrequest hstep]
    exact Nat.add_comm _ _

theorem flatMap_owes_after (self : Coordinator T) {task : EventTask T} (choice : TaskChoice T)
    (htask : (∃ proposal, task = .handleProposal proposal) ∨ task = .spawnBuilderState) :
    (task.after choice self).flatMap EventTask.owes = [] := by
  rcases htask with ⟨proposal, rfl⟩ | rfl
  all_goals
    unfold EventTask.after
    cases self.proposalsGuard <;> rfl

theorem owes_coordinate {task : EventTask T} {choice : TaskChoice T}
    (hresume : task.coordinate choice = some action) (self' : Coordinator T) :
    task.owes = action.started ++ (task.after choice self').flatMap EventTask.owes := by
  rcases coordinate_cases hresume with ⟨latest, rest, rfl, rfl⟩ | ⟨proposal, rfl, rfl⟩ |
    ⟨rfl, hstarted, -⟩
  . rfl
  . rw [flatMap_owes_after self' choice (.inl ⟨proposal, rfl⟩)]
    rfl
  . rw [flatMap_owes_after self' choice (.inr rfl), hstarted]
    rfl

theorem isLocked_eq_false : self.isLocked = false ↔ self.proposalsGuard = .free := by
  unfold isLocked
  cases self.proposalsGuard <;> simp

/--
The next step towards the release of the guard, by whoever holds it or by a request that holds the
receiver that it needs.
-/
theorem exists_release {period : Nat} (h : self.Sound period)
    (hlocked : self.isLocked = true) :
    ∃ action self', self.step action = some self' ∧ self'.stepsLeft < self.stepsLeft ∧
      (action.CompletesInsertion ∨ ∀ task : EventTask T, task.holdsGuard = true →
        ∃ choice, task.coordinate choice = some action ∧
          (task.after choice self').flatMap EventTask.owes = task.owes) := by
  have hguard : self.proposalsGuard ≠ .free := by
    rw [ne_eq, ← isLocked_eq_false, hlocked]
    exact Bool.true_eq_false_eq_False
  obtain ⟨action, self', hreleases, hstep, hlt⟩ := exists_releases h hguard
  refine ⟨action, self', hstep, hlt, ?_⟩
  have hchoice : ∀ choice : TaskChoice T, EventTask.spawnBuilderState.coordinate choice =
      some action → ∀ task : EventTask T, task.holdsGuard = true →
        ∃ choice, task.coordinate choice = some action ∧
          (task.after choice self').flatMap EventTask.owes = task.owes := by
    intro choice hcoordinate task hholds
    cases task with
    | spawnBuilderState =>
      exact ⟨choice, hcoordinate, flatMap_owes_after self' choice (.inr rfl)⟩
    | _ => contradiction
  cases action with
  | findParent choice checked now => exact .inr (hchoice (.findParent choice checked now) rfl)
  | cloneQueue => exact .inr (hchoice .cloneQueue rfl)
  | cloneReceiver now => exact .inr (hchoice (.cloneReceiver now) rfl)
  | insertChild => exact .inr (hchoice .insertChild rfl)
  | request request =>
    cases request with
    | insert addr => exact .inl ⟨addr, rfl⟩
    | _ => contradiction
  | _ => contradiction

theorem exists_lockProposals (hfree : self.isLocked = false)
    (proposal : T.QuorumProposalWrapper ⊕ DaProposal2 T) :
    ∃ self', self.step (.lockProposals proposal) = some self' := by
  rw [isLocked_eq_false] at hfree
  unfold step lockProposals
  rw [hfree]
  dsimp only
  split <;> exact ⟨_, rfl⟩

/--
Tasks wait for nothing but the guard.
-/
theorem exists_coordinate (hfree : self.isLocked = false) {task : EventTask T}
    (howes : task.owes ≠ []) :
    (∃ tx txns, task = .handleTransactions (tx :: txns)) ∨
    ∃ choice action self', task.coordinate choice = some action ∧ self.step action = some self' ∧
      (task.after choice self').flatMap EventTask.owes = [] := by
  cases task with
  | handleTransactions txns =>
    cases txns with
    | nil => contradiction
    | cons tx txns => exact .inl ⟨tx, txns, rfl⟩
  | handleDecide latest rest => exact .inr ⟨.run, _, _, rfl, rfl, rfl⟩
  | handleProposal proposal =>
    obtain ⟨self', hstep⟩ := exists_lockProposals hfree proposal
    exact .inr ⟨.run, _, self', rfl, hstep, flatMap_owes_after self' .run (.inl ⟨proposal, rfl⟩)⟩
  | spawnBuilderState => contradiction

end

end Coordinator

theorem EventTask.owes_eraseIdx {txns : List (ReceivedTransaction T)} {i : Nat}
    {tx : ReceivedTransaction T} (htx : txns[i]? = some tx)
    (maybeEvicted : Except (TrySendError T) (Option (ReceivedTransaction T)))
    (coordinator : Coordinator T) :
    (EventTask.handleTransactions txns).owes.Perm (.handleTransaction tx ::
      ((EventTask.handleTransactions txns).after (.broadcast i maybeEvicted) coordinator).flatMap
        EventTask.owes) := by
  obtain ⟨hlt, rfl⟩ := List.getElem?_eq_some_iff.mp htx
  simp only [EventTask.after, EventTask.owes, List.flatMap_singleton, ← List.map_cons]
  exact ((List.getElem_cons_eraseIdx_perm hlt).map _).symm

namespace Marketplace

variable {processTransactions : List T.Transaction → List T.Transaction}

/--
The calls that an event is there for.
-/
def eventCalls (processTransactions : List T.Transaction → List T.Transaction)
    (event : EventType T) : List (EventCall T) :=
  match event with
  | .transactions transactions =>
    (received .publicMempool (processTransactions transactions)).map .handleTransaction
  | .decide (latest :: rest) => [.handleDecide latest rest]
  | .daProposal daProposal => [.handleProposal (.inr daProposal)]
  | .quorumProposal quorumProposal => [.handleProposal (.inl quorumProposal)]
  | .error | .decide [] | .other => []

theorem owed_eq : Spawning.owed (eventLoop processTransactions) EventTask.owes =
    eventCalls processTransactions := by
  funext event
  cases event with
  | transactions transactions => exact List.append_nil _
  | decide leafChain => cases leafChain <;> rfl
  | _ => rfl

theorem resume_cases {task : EventTask T} {choice : TaskChoice T} {action : Coordinator.Action T}
    (h : resume task choice = some action) :
    (∃ txns i maybeEvicted tx, task = .handleTransactions txns ∧
      choice = .broadcast i maybeEvicted ∧ txns[i]? = some tx ∧
      action = .transaction tx maybeEvicted) ∨ task.coordinate choice = some action := by
  unfold resume at h
  split at h
  . next txns i maybeEvicted =>
    obtain ⟨tx, htx, rfl⟩ := Option.map_eq_some_iff.mp h
    exact .inl ⟨txns, i, maybeEvicted, tx, rfl, rfl, htx, rfl⟩
  . exact .inr h

theorem accounts : Spawning.Accounts (eventLoop processTransactions) EventTask.owes
    Coordinator.Action.started := by
  intro task choice action self self' hresume hstep
  rcases resume_cases hresume with ⟨txns, i, maybeEvicted, tx, rfl, rfl, htx, rfl⟩ | hcoordinate
  . exact EventTask.owes_eraseIdx htx maybeEvicted self'
  . exact .of_eq (Coordinator.owes_coordinate hcoordinate self')

theorem locking : Spawning.Locking (eventLoop processTransactions) Coordinator.isLocked
    EventTask.holdsGuard where
  spawn := by
    intro event tasks hspawn
    rw [← Option.some.inj hspawn]
    unfold spawnTasks
    split <;> rfl
  resume := by
    intro task choice action self self' hresume hstep
    rcases resume_cases hresume with ⟨txns, i, maybeEvicted, tx, rfl, rfl, -, rfl⟩ | hcoordinate
    . have hstep : self.step (.transaction tx maybeEvicted) = some self' := hstep
      rw [Coordinator.isLocked_of_isRequest rfl hstep]
      rfl
    . exact Coordinator.locking_coordinate hcoordinate hstep
  outside := fun _ _ _ houtside hstep => Coordinator.isLocked_of_isRequest houtside hstep

theorem resume_of_coordinate {task : EventTask T} {choice : TaskChoice T}
    {action : Coordinator.Action T} (h : task.coordinate choice = some action) :
    resume task choice = some action := by
  unfold resume
  split
  . contradiction
  . exact h

theorem progressing (period : Nat) : Spawning.Progressing (eventLoop processTransactions)
    (Coordinator.Sound period) Coordinator.isLocked EventTask.holdsGuard EventTask.owes
    Coordinator.stepsLeft Coordinator.Action.CompletesInsertion where
  invariant := fun _ _ _ hs hstep => Coordinator.sound_step hs hstep
  release := by
    intro self hself hlocked
    obtain ⟨action, self', hstep, hlt, ⟨addr, rfl⟩ | hholds⟩ :=
      Coordinator.exists_release hself hlocked
    . exact ⟨.request (.insert addr), self', hstep, hlt, .inl ⟨rfl, addr, rfl⟩⟩
    . refine ⟨action, self', hstep, hlt, .inr ?_⟩
      intro task htask
      obtain ⟨choice, hcoordinate, howes⟩ := hholds task htask
      exact ⟨choice, resume_of_coordinate hcoordinate, howes⟩
  start := by
    intro self task hself hfree howes
    rcases Coordinator.exists_coordinate hfree howes with
      ⟨tx, txns, rfl⟩ | ⟨choice, action, self', hcoordinate, hstep, hnil⟩
    . refine ⟨.broadcast 0 (.ok none), _, _, rfl, rfl, ?_⟩
      simp [eventLoop, EventTask.after, EventTask.owes]
    . refine ⟨choice, action, self', resume_of_coordinate hcoordinate, hstep, ?_⟩
      rw [show (eventLoop processTransactions).after = EventTask.after from rfl, hnil]
      exact List.length_pos_of_ne_nil howes

/--
The steps of the loop, its tasks and the requests, with a log of the calls that tasks have started.
-/
def logStep (processTransactions : List T.Transaction → List T.Transaction) :=
  logging (Spawning.step (eventLoop processTransactions))
    (Spawning.started (eventLoop processTransactions) Coordinator.Action.started)

section

variable {period now : Nat}
  {actions : List (Spawning.Action (Coordinator.Action T) (EventType T) (TaskChoice T))}
  {s : Spawning.State (Coordinator T) (EventType T) (EventTask T)} {log : List (EventCall T)}

/--
However the loop, its tasks and the requests interleave: every transaction, decide and proposal of an
event is handled by one task, which has started its call or still has to, and the guard of `proposals`
is held by one task at most.
-/
theorem events_accounted
    (hrun : run (logStep processTransactions) (Spawning.start (.new period now), []) actions =
      some (s, log)) :
    Reachable Coordinator.step (Coordinator.IsNew period) s.base ∧
      (log ++ s.tasks.flatMap EventTask.owes).Perm
        ((actions.filterMap Spawning.Action.event).flatMap (eventCalls processTransactions)) ∧
      s.tasks.countP EventTask.holdsGuard = s.base.isLocked.toNat ∧
      (s.running = true ↔ .next none ∉ actions) := by
  have hsteps := run_of_run_logging hrun
  obtain ⟨steps, hbase⟩ := Spawning.exists_run_base hsteps
  refine ⟨⟨_, steps, ⟨now, rfl⟩, hbase⟩, ?_, Spawning.countP_holds locking rfl hsteps, ?_⟩
  . rw [← owed_eq]
    exact Spawning.perm_of_run accounts hrun
  . rw [Spawning.running_of_run hsteps]
    simp [Spawning.start, eventLoop]

/--
No task is stuck: whatever state the loop was left in, the tasks can go on without another event until
every call of every event was started, each once, and the guard is free. All that they may have to wait
for is that requests complete the insertions that they have begun.
-/
theorem events_settle
    (hrun : run (logStep processTransactions) (Spawning.start (.new period now), []) actions =
      some (s, log)) :
    ∃ more t log', run (logStep processTransactions) (s, log) more = some (t, log') ∧
      (∀ action ∈ more, action.Settles Coordinator.Action.CompletesInsertion) ∧
      t.base.proposalsGuard = .free ∧
      log'.Perm
        ((actions.filterMap Spawning.Action.event).flatMap (eventCalls processTransactions)) := by
  obtain ⟨more, t, log', hmore, hsettles, hfree, hperm⟩ := Spawning.exists_run_perm accounts locking
    (progressing period) (Coordinator.sound_new period now) rfl hrun
  rw [owed_eq] at hperm
  exact ⟨more, t, log', hmore, hsettles, Coordinator.isLocked_eq_false.mp hfree, hperm⟩

end

/--
The task of the quorum proposal waits for the receiver of the bootstrap state, which a request holds.
-/
def testActions :
    List (Spawning.Action (Coordinator.Action TestTypes) (EventType TestTypes)
      (TaskChoice TestTypes)) := [
  .next (some (.quorumProposal testPair₁.quorumProposal)),
  .next (some (.transactions [(5 : Nat), (6 : Nat)])),
  .next (some (.daProposal testPair₁.daProposal)),
  .resume 2 .run,
  .resume 0 .run,
  .resume 1 (.broadcast 1 (.ok none)),
  .next (some (.decide [GlobalState.testLeaf])),
  .resume 0 (.findParent 0 1 1),
  .outside (.request (.tryRecv 0))]

theorem events_accounted_testActions : ∃ s log,
    run (logStep id) (Spawning.start (.new 10 0), []) testActions = some (s, log) ∧
      Reachable Coordinator.step (Coordinator.IsNew 10) s.base ∧
      (log ++ s.tasks.flatMap EventTask.owes).Perm
        ((testActions.filterMap Spawning.Action.event).flatMap (eventCalls id)) ∧
      s.tasks.countP EventTask.holdsGuard = s.base.isLocked.toNat ∧ s.base.isLocked = true :=
  have hrun := rfl
  have ⟨hreachable, hperm, hcount, _⟩ := events_accounted hrun
  ⟨_, _, hrun, hreachable, hperm, hcount, rfl⟩

theorem events_settle_testActions : ∃ s log more t log',
    run (logStep id) (Spawning.start (.new 10 0), []) testActions = some (s, log) ∧
      run (logStep id) (s, log) more = some (t, log') ∧
      (∀ action ∈ more, action.Settles Coordinator.Action.CompletesInsertion) ∧
      t.base.proposalsGuard = .free ∧
      log'.Perm ((testActions.filterMap Spawning.Action.event).flatMap (eventCalls id)) :=
  have hrun := rfl
  have ⟨more, t, log', hmore, hsettled⟩ := events_settle hrun
  ⟨_, _, more, t, log', hrun, hmore, hsettled⟩

end Marketplace

end BuilderCore
