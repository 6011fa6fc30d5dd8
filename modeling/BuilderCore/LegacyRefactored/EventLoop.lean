import BuilderCore.EventLoops
import BuilderCore.LegacyRefactored.Service

/-!
This module contains the event loop of the refactored legacy builder. Its tasks also prune the block
store, and they run among the calls that the service answers.
-/

namespace BuilderCore

open Transition

/--
`prune` is the second task for a decide.
-/
inductive ServiceTask (T : NodeType) where
  | run (task : EventTask T)
  | prune (cutoff : Nat)

namespace ServiceTask

variable {T : NodeType}

def owes (self : ServiceTask T) : List (EventCall T) :=
  match self with
  | .run task => task.owes
  | .prune cutoff => [.prune cutoff]

def holdsGuard (self : ServiceTask T) : Bool :=
  match self with
  | .run task => task.holdsGuard
  | .prune _ => false

theorem owes_map_run (tasks : List (EventTask T)) :
    (tasks.map run).flatMap owes = tasks.flatMap EventTask.owes := by
  rw [List.flatMap_map]
  rfl

theorem countP_map_run (tasks : List (EventTask T)) :
    (tasks.map run).countP holdsGuard =
      tasks.countP EventTask.holdsGuard := by
  rw [List.countP_map]
  rfl

end ServiceTask

variable {T : NodeType} [ApiTypes T]

namespace Service

def Action.started (action : Action T) : List (EventCall T) :=
  match action with
  | .coordinate (.handleTransaction _ tx _) => [.handleTransaction tx]
  | .coordinate (.coordinator action) => action.started
  | .prune cutoff => [.prune cutoff]
  | _ => []

/--
What the calls of the API do.
-/
def Action.isApi (action : Action T) : Bool :=
  match action with
  | .coordinate (.handleTransaction _ _ _) | .coordinate (.coordinator (.request _)) => true
  | .coordinate (.coordinator _) | .prune _ => false
  | _ => true

def Action.CompletesInsertion (action : Action T) : Prop :=
  ∃ coordinatorAction : Coordinator.Action T, action = .coordinate (.coordinator coordinatorAction) ∧
    coordinatorAction.CompletesInsertion

/--
`none` where `leaf_chain[0]` panics, in the loop itself.
-/
def spawnTasks (event : EventType T) : Option (List (ServiceTask T)) :=
  match event with
  | .error | .other => some []
  | .transactions transactions =>
    some [.run (.handleTransactions (received .publicMempool transactions))]
  | .decide [] => none
  | .decide (latest :: rest) => some [.run (.handleDecide latest rest), .prune latest.viewNumber]
  | .daProposal daProposal => some [.run (.handleProposal (.inr daProposal))]
  | .quorumProposal quorumProposal => some [.run (.handleProposal (.inl quorumProposal))]

def resume (self : Service T) (task : ServiceTask T) (choice : TaskChoice T) : Option (Action T) :=
  match task, choice with
  | .run (.handleTransactions txns), .broadcast i maybeEvicted =>
    let maxTxLen := self.globalState.blockSizeLimits.maxBlockSize
    (txns[i]?).map fun tx => .coordinate (.handleTransaction maxTxLen tx maybeEvicted)
  | .run task, choice => (task.coordinate choice).map fun action => .coordinate (.coordinator action)
  | .prune cutoff, .run => some (.prune cutoff)
  | .prune _, _ => none

def after (task : ServiceTask T) (choice : TaskChoice T) (self : Service T) :
    List (ServiceTask T) :=
  match task with
  | .run task => (task.after choice self.globalState.coordinator).map .run
  | .prune _ => []

variable (T) in
def eventLoop :
    Spawning.Loop (Service T) (Action T) (EventType T) (ServiceTask T) (TaskChoice T) where
  step := Service.step
  spawn := spawnTasks
  resume := resume
  after := after
  isOutside := Action.isApi

def isLocked (self : Service T) : Bool := self.globalState.coordinator.isLocked

def stepsLeft (self : Service T) : Nat := self.globalState.coordinator.stepsLeft

/--
The calls that an event is there for.
-/
def eventCalls (event : EventType T) : List (EventCall T) :=
  match event with
  | .transactions transactions => (received .publicMempool transactions).map .handleTransaction
  | .decide (latest :: rest) => [.handleDecide latest rest, .prune latest.viewNumber]
  | .daProposal daProposal => [.handleProposal (.inr daProposal)]
  | .quorumProposal quorumProposal => [.handleProposal (.inl quorumProposal)]
  | .error | .decide [] | .other => []

theorem owed_eq : Spawning.owed (eventLoop T) ServiceTask.owes = eventCalls := by
  funext event
  cases event with
  | transactions transactions => exact List.append_nil _
  | decide leafChain => cases leafChain <;> rfl
  | _ => rfl

section

variable {self self' : Service T} {task : ServiceTask T} {choice : TaskChoice T}
  {action : Action T}

inductive Resumes (self : Service T) : ServiceTask T → TaskChoice T → Action T → Prop where
  | broadcast (txns : List (ReceivedTransaction T)) (i : Nat) (tx : ReceivedTransaction T)
      (maybeEvicted : Except (TrySendError T) (Option (ReceivedTransaction T)))
      (htx : txns[i]? = some tx) :
      Resumes self (.run (.handleTransactions txns)) (.broadcast i maybeEvicted)
        (.coordinate (.handleTransaction self.globalState.blockSizeLimits.maxBlockSize tx
          maybeEvicted))
  | coordinate (task : EventTask T) (choice : TaskChoice T) (action : Coordinator.Action T)
      (hcoordinate : task.coordinate choice = some action) :
      Resumes self (.run task) choice (.coordinate (.coordinator action))
  | prune (cutoff : Nat) : Resumes self (.prune cutoff) .run (.prune cutoff)

theorem resumes_of_resume (h : self.resume task choice = some action) :
    self.Resumes task choice action := by
  unfold resume at h
  split at h
  . obtain ⟨tx, htx, rfl⟩ := Option.map_eq_some_iff.mp h
    exact .broadcast _ _ tx _ htx
  . obtain ⟨action, hcoordinate, rfl⟩ := Option.map_eq_some_iff.mp h
    exact .coordinate _ _ action hcoordinate
  . rw [← Option.some.inj h]
    exact .prune _
  . contradiction

theorem resume_of_coordinate {task : EventTask T} {action : Coordinator.Action T}
    (h : task.coordinate choice = some action) :
    self.resume (.run task) choice = some (.coordinate (.coordinator action)) := by
  cases task with
  | handleTransactions txns => cases choice <;> contradiction
  | _ => simp [resume, h]

theorem step_coordinate_eq_some {action : GlobalState.Action T}
    (hstep : self.step (.coordinate action) = some self') :
    GlobalState.step self.globalState.coordinator action = some self'.globalState.coordinator := by
  simp only [step, Option.bind_eq_bind, Option.bind_eq_some_iff, Option.pure_def,
    Option.some.injEq] at hstep
  obtain ⟨coordinator, hcoordinator, rfl⟩ := hstep
  exact hcoordinator

theorem step_of_coordinator {action : Coordinator.Action T} {coordinator : Coordinator T}
    (hstep : self.globalState.coordinator.step action = some coordinator) :
    self.step (.coordinate (.coordinator action)) =
      some { self with globalState := { self.globalState with coordinator } } := by
  simp [step, GlobalState.step, hstep]

theorem coordinator_answerAvailableBlocks (globalState : GlobalState T)
    (stateId : BuilderStateId T)
    (result : Except (RequestError T) (Option (BlockInfo T))) :
    (globalState.answerAvailableBlocks stateId result).1.coordinator = globalState.coordinator := by
  unfold GlobalState.answerAvailableBlocks
  split
  . split <;> rfl
  . rfl
  . split
    . rfl
    . split <;> rfl

theorem coordinator_answerHeaderInput (globalState : GlobalState T) (blockInfo : BlockInfo T)
    (margin : Bool) (now : Nat) :
    (globalState.answerHeaderInput blockInfo margin now).1.coordinator =
      globalState.coordinator := by
  unfold GlobalState.answerHeaderInput
  split <;> rfl

theorem coordinator_of_timeOut {globalState : GlobalState T} {progress : Progress T}
    {result : GlobalState T × Progress T} (h : globalState.timeOut progress = some result) :
    result.1.coordinator = globalState.coordinator := by
  unfold GlobalState.timeOut at h
  split at h
  . contradiction
  all_goals
    rw [← Option.some.inj h]

theorem coordinator_of_advance {globalState : GlobalState T} {progress : Progress T}
    {result : GlobalState T × Progress T} (h : advance globalState action progress = some result) :
    result.1.coordinator = globalState.coordinator := by
  unfold advance at h
  split at h
  . obtain ⟨progress, -, rfl⟩ := Option.map_eq_some_iff.mp h
    rfl
  . rw [← Option.some.inj h]
  . rw [← Option.some.inj h]
  . rw [← Option.some.inj h]
    exact coordinator_answerAvailableBlocks ..
  . rw [← Option.some.inj h]
  . rw [← Option.some.inj h]
  . rw [← Option.some.inj h]
    exact coordinator_answerHeaderInput ..
  . exact coordinator_of_timeOut h
  . contradiction

theorem coordinator_of_stepCall {i : Nat} (h : self.stepCall action i = some self') :
    self'.globalState.coordinator = self.globalState.coordinator := by
  simp only [stepCall, Option.bind_eq_bind, Option.bind_eq_some_iff, Option.pure_def,
    Option.some.injEq, Prod.exists] at h
  obtain ⟨call, -, globalState, progress, hadvance, rfl⟩ := h
  exact coordinator_of_advance hadvance

theorem isLocked_of_isApi (hapi : action.isApi = true) (hstep : self.step action = some self') :
    self'.isLocked = self.isLocked := by
  unfold isLocked
  cases action with
  | receive request =>
    rw [← Option.some.inj hstep]
    change (self.globalState.receive request).1.coordinator.isLocked = _
    rw [GlobalState.receive_eq]
  | prune cutoff => contradiction
  | coordinate action =>
    have hcoordinator := step_coordinate_eq_some hstep
    cases action with
    | handleTransaction maxTxLen tx maybeEvicted =>
      simp only [GlobalState.step, Option.some.injEq] at hcoordinator
      rw [← hcoordinator]
      unfold GlobalState.handleTransaction
      dsimp only
      split
      . rfl
      . simp only [Coordinator.isLocked, Coordinator.proposalsGuard_handleTransaction]
    | coordinator action =>
      cases action with
      | request request =>
        have hrequest : (Coordinator.Action.request request : Coordinator.Action T).isRequest = true :=
          rfl
        exact Coordinator.isLocked_of_isRequest hrequest hcoordinator
      | _ => contradiction
  | _ => rw [coordinator_of_stepCall hstep]

theorem accounts : Spawning.Accounts (eventLoop T) ServiceTask.owes Action.started := by
  intro task choice action self self' hresume hstep
  cases resumes_of_resume hresume with
  | broadcast txns i tx maybeEvicted htx =>
    exact EventTask.owes_eraseIdx htx maybeEvicted self'.globalState.coordinator
  | coordinate task choice action hcoordinate =>
    have howes := Coordinator.owes_coordinate hcoordinate self'.globalState.coordinator
    refine .of_eq (howes.trans ?_)
    exact congrArg (action.started ++ ·) (ServiceTask.owes_map_run _).symm
  | prune cutoff => exact .refl _

theorem locking : Spawning.Locking (eventLoop T) isLocked ServiceTask.holdsGuard where
  spawn := by
    intro event tasks hspawn
    change spawnTasks event = some tasks at hspawn
    unfold spawnTasks at hspawn
    split at hspawn
    any_goals
      rw [← Option.some.inj hspawn]
      rfl
    contradiction
  resume := by
    intro task choice action self self' hresume hstep
    cases resumes_of_resume hresume with
    | broadcast txns i tx maybeEvicted htx =>
      have hstep : self.step (.coordinate (.handleTransaction
        self.globalState.blockSizeLimits.maxBlockSize tx maybeEvicted)) = some self' := hstep
      rw [isLocked_of_isApi rfl hstep]
      rfl
    | coordinate task choice action hcoordinate =>
      have hlock := Coordinator.locking_coordinate hcoordinate (step_coordinate_eq_some hstep)
      refine hlock.trans ?_
      exact congrArg (self.isLocked.toNat + ·) (ServiceTask.countP_map_run _).symm
    | prune cutoff =>
      rw [← Option.some.inj hstep]
      rfl
  outside := fun _ _ _ houtside hstep => isLocked_of_isApi houtside hstep

theorem sound_step {period : Nat} (h : self.globalState.coordinator.Sound period)
    (hstep : self.step action = some self') : self'.globalState.coordinator.Sound period := by
  cases action with
  | receive request =>
    rw [← Option.some.inj hstep]
    change (self.globalState.receive request).1.coordinator.Sound period
    rw [GlobalState.receive_eq]
    exact h
  | prune cutoff =>
    rw [← Option.some.inj hstep]
    exact h
  | coordinate action =>
    have hcoordinator := step_coordinate_eq_some hstep
    cases action with
    | handleTransaction maxTxLen tx maybeEvicted =>
      simp only [GlobalState.step, Option.some.injEq] at hcoordinator
      rw [← hcoordinator]
      unfold GlobalState.handleTransaction
      dsimp only
      split
      . exact h.txStatus _
      . have hstep : self.globalState.coordinator.step (.transaction tx maybeEvicted) = some _ := rfl
        exact Coordinator.sound_step h hstep
    | coordinator action => exact Coordinator.sound_step h hcoordinator
  | _ =>
    rw [coordinator_of_stepCall hstep]
    exact h

theorem progressing (period : Nat) : Spawning.Progressing (eventLoop T)
    (fun self => self.globalState.coordinator.Sound period) isLocked ServiceTask.holdsGuard
    ServiceTask.owes stepsLeft Action.CompletesInsertion where
  invariant := fun _ _ _ hs hstep => sound_step hs hstep
  release := by
    intro self hself hlocked
    obtain ⟨action, coordinator, hstep, hlt, hwho⟩ := Coordinator.exists_release hself hlocked
    refine ⟨.coordinate (.coordinator action), { self with
      globalState := { self.globalState with coordinator } }, step_of_coordinator hstep, hlt, ?_⟩
    rcases hwho with ⟨addr, rfl⟩ | hholds
    . exact .inl ⟨rfl, _, rfl, addr, rfl⟩
    . right
      intro task htask
      cases task with
      | run task =>
        obtain ⟨choice, hcoordinate, howes⟩ := hholds task htask
        exact ⟨choice, resume_of_coordinate hcoordinate, (ServiceTask.owes_map_run _).trans howes⟩
      | prune cutoff => contradiction
  start := by
    intro self task hself hfree howes
    cases task with
    | run task =>
      rcases Coordinator.exists_coordinate hfree howes with
        ⟨tx, txns, rfl⟩ | ⟨choice, action, coordinator, hcoordinate, hstep, hnil⟩
      . refine ⟨.broadcast 0 (.ok none), _, _, rfl, rfl, ?_⟩
        simp [eventLoop, after, EventTask.after, ServiceTask.owes, EventTask.owes]
      . refine ⟨choice, .coordinate (.coordinator action), { self with
          globalState := { self.globalState with coordinator } }, resume_of_coordinate hcoordinate,
          step_of_coordinator hstep, ?_⟩
        have hmap := (ServiceTask.owes_map_run (task.after choice coordinator)).trans hnil
        have hpos : 0 < task.owes.length := List.length_pos_of_ne_nil howes
        exact (congrArg List.length hmap).trans_lt hpos
    | prune cutoff => exact ⟨.run, .prune cutoff, _, rfl, rfl, Nat.zero_lt_one⟩

end

variable (T) in
/--
The steps of the loop, its tasks and the calls of the API, with a log of the calls that tasks have
started.
-/
def logStep :=
  logging (Spawning.step (eventLoop T)) (Spawning.started (eventLoop T) Action.started)

section

variable {config : BuilderConfig T} {now : Nat}
  {actions : List (Spawning.Action (Action T) (EventType T) (TaskChoice T))}
  {s : Spawning.State (Service T) (EventType T) (ServiceTask T)} {log : List (EventCall T)}

/--
No task is stuck: whatever state the loop was left in, the tasks can go on without another event until
every call of every event was started, each once, and the guard is free. All that they may have to wait
for is that builds complete the insertions that they have begun.
-/
theorem service_settles
    (hrun : run (logStep T) (Spawning.start (.new config now), []) actions = some (s, log)) :
    ∃ more t log', run (logStep T) (s, log) more = some (t, log') ∧
      (∀ action ∈ more, action.Settles Action.CompletesInsertion) ∧
      t.base.globalState.coordinator.proposalsGuard = .free ∧
      log'.Perm ((actions.filterMap Spawning.Action.event).flatMap eventCalls) := by
  obtain ⟨more, t, log', hmore, hsettles, hfree, hperm⟩ := Spawning.exists_run_perm accounts locking
    (progressing config.txnGarbageCollectDuration) (Coordinator.sound_new _ now) rfl hrun
  rw [owed_eq] at hperm
  exact ⟨more, t, log', hmore, hsettles, Coordinator.isLocked_eq_false.mp hfree, hperm⟩

end

/--
The pair of block 1 is being extended while a request is answered. The block store was pruned before
the decide reached the coordinator.
-/
def testEvents :
    List (Spawning.Action (Action TestTypes) (EventType TestTypes) (TaskChoice TestTypes)) := [
  .next (some (.quorumProposal testPair₁.quorumProposal)),
  .next (some (.transactions [(5 : Nat), (6 : Nat)])),
  .resume 0 .run,
  .next (some (.decide [GlobalState.testLeaf])),
  .next (some (.daProposal testPair₁.daProposal)),
  .resume 3 .run,
  .resume 2 .run,
  .outside (.receive (.availableBlocks (0 : Nat) 0 ⟨(1 : Nat), ((1 : Nat), [0])⟩)),
  .resume 0 (.broadcast 1 (.ok none)),
  .resume 2 (.findParent 0 1 1),
  .next (some (.decide []))]

theorem service_settles_testEvents : ∃ s log more t log',
    run (logStep TestTypes) (Spawning.start (.new testConfig 0), []) testEvents = some (s, log) ∧
      run (logStep TestTypes) (s, log) more = some (t, log') ∧
      (∀ action ∈ more, action.Settles Action.CompletesInsertion) ∧
      t.base.globalState.coordinator.proposalsGuard = .free ∧
      log'.Perm ((testEvents.filterMap Spawning.Action.event).flatMap eventCalls) :=
  have hrun := rfl
  have ⟨more, t, log', hmore, hsettled⟩ := service_settles hrun
  ⟨_, _, more, t, log', hrun, hmore, hsettled⟩

end Service

end BuilderCore
