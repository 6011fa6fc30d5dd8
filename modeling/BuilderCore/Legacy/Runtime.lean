import BuilderCore.Legacy.Lifecycle
import BuilderCore.Legacy.Tasks

/-!
This module contains the legacy builder with everything that its tasks interleave: the proposals they
fork for, the decides they exit on, and the requests they answer.
-/

namespace BuilderCore

open Collections Transition

variable {T : NodeType}

namespace Legacy

namespace BuilderState

theorem processDaProposal_refs (self : BuilderState T) (daProposal : DaProposal2 T) :
    (self.processDaProposal daProposal).1.parentBlockReferences = self.parentBlockReferences := by
  simp only [processDaProposal]
  split
  . rfl
  . split <;> rfl

theorem processQuorumProposal_refs (self : BuilderState T)
    (quorumProposal : T.QuorumProposalWrapper) :
    (self.processQuorumProposal quorumProposal).1.parentBlockReferences =
      self.parentBlockReferences := by
  simp only [processQuorumProposal]
  split
  . rfl
  . split <;> rfl

end BuilderState

structure RuntimeTask (T : NodeType) where
  task : Task T
  decideReceiver : Nat
  running : Bool

/--
What decides and requests see of a task.
-/
def RuntimeTask.life (self : RuntimeTask T) : TaskLife T where
  parentBlockReferences := self.task.state.parentBlockReferences
  decideReceiver := self.decideReceiver
  running := self.running

structure Runtime (T : NodeType) where
  daProposals : List (DaProposal2 T)
  quorumProposals : List T.QuorumProposalWrapper
  decides : List Nat
  tasks : List (RuntimeTask T)
  globalState : GlobalState T Nat

namespace Runtime

def new (parentBlockReferences : ParentBlockReferences T) (config : Config T Nat) : Runtime T where
  daProposals := []
  quorumProposals := []
  decides := []
  tasks := [⟨⟨.new parentBlockReferences, .eventLoop⟩, 0, true⟩]
  globalState := .new config

def IsNew (self : Runtime T) : Prop :=
  ∃ refs config, config.bootstrapId = refs.id ∧ config.bootstrapSender = 0 ∧ self = new refs config

inductive Action (T : NodeType) where
  | proposals (action : System.Action T)
  | broadcastDecide (latestDecideViewNumber : Nat)
  | nextDecide (task : Nat)
  | answerRequest (task : Nat) (stateId : BuilderStateId T) (buildBlockInfo : BuildBlockInfo T)
      (responseMsg : ResponseMessage T)

/--
What the handling of proposals sees.
-/
def system (self : Runtime T) : System T where
  daProposals := self.daProposals
  quorumProposals := self.quorumProposals
  tasks := self.tasks.map (·.task)
  spawnedBuilderStates := self.globalState.spawnedBuilderStates

def lifecycle (self : Runtime T) : Lifecycle T where
  decides := self.decides
  tasks := self.tasks.map (·.life)
  globalState := self.globalState

/--
A step in which a running task changes nothing but itself.
-/
def stepTask (self : Runtime T) (action : System.Action T) (i : Nat) : Option (Runtime T) := do
  let task ← self.tasks[i]?
  guard task.running
  let system ← self.system.step action
  let stepped ← system.tasks[i]?
  return { self with tasks := self.tasks.set i { task with task := stepped } }

def registered (self : Runtime T) (i : Nat) (state clone : BuilderState T) (decideReceiver : Nat) :
    Runtime T where
  __ := self
  -- the event loop of the clone starts, and that of its parent goes on
  tasks := self.tasks.set i ⟨⟨state, .eventLoop⟩, decideReceiver, true⟩ ++
    [⟨⟨clone, .eventLoop⟩, decideReceiver, true⟩]
  globalState := self.globalState.registerBuilderState clone.id clone.parentBlockReferences
    self.tasks.length

def registerBuilderState (self : Runtime T) (i : Nat) : Option (Runtime T) :=
  match self.tasks[i]? with
  | some ⟨⟨state, .absent clone⟩, decideReceiver, true⟩ =>
    some (self.registered i state clone decideReceiver)
  | _ => none

def nextDecide (self : Runtime T) (i : Nat) : Option (Runtime T) :=
  match self.tasks[i]? with
  | some ⟨⟨state, .eventLoop⟩, decideReceiver, true⟩ => do
    let decideViewNumber ← self.decides[decideReceiver]?
    let (globalState, status) :=
      processDecideEvent self.globalState state.parentBlockReferences decideViewNumber
    let running := status = .shouldContinue
    return { self with
      tasks := self.tasks.set i ⟨⟨state, .eventLoop⟩, decideReceiver + 1, running⟩, globalState }
  | _ => none

/--
`process_block_request` after a block was built.
-/
def answerRequest (self : Runtime T) (i : Nat) (stateId : BuilderStateId T)
    (buildBlockInfo : BuildBlockInfo T) (responseMsg : ResponseMessage T) : Option (Runtime T) :=
  match self.tasks[i]? with
  | some ⟨⟨_, .eventLoop⟩, _, true⟩ =>
    some { self with
      globalState := self.globalState.updateGlobalState stateId buildBlockInfo responseMsg }
  | _ => none

def stepProposals (self : Runtime T) (action : System.Action T) : Option (Runtime T) :=
  match action with
  | .broadcastDaProposal daProposal =>
    some { self with daProposals := self.daProposals ++ [daProposal] }
  | .broadcastQuorumProposal quorumProposal =>
    some { self with quorumProposals := self.quorumProposals ++ [quorumProposal] }
  | .nextDaProposal i | .nextQuorumProposal i | .spawnCloneThatExtendsSelf i | .spawnClone i =>
    self.stepTask action i
  | .registerBuilderState i => self.registerBuilderState i

def step (self : Runtime T) (action : Action T) : Option (Runtime T) :=
  match action with
  | .proposals action => self.stepProposals action
  | .broadcastDecide latestDecideViewNumber =>
    some { self with decides := self.decides ++ [latestDecideViewNumber] }
  | .nextDecide i => self.nextDecide i
  | .answerRequest i stateId buildBlockInfo responseMsg =>
    self.answerRequest i stateId buildBlockInfo responseMsg

inductive Change (self : Runtime T) : Action T → Runtime T → Prop where
  | broadcast (action : System.Action T) (daProposals : List (DaProposal2 T))
      (quorumProposals : List T.QuorumProposalWrapper) :
      Change self (.proposals action) { self with daProposals, quorumProposals }
  | handle (action : System.Action T) (i : Nat) (task : RuntimeTask T) (task' : Task T)
      (htask : self.tasks[i]? = some task) (hrunning : task.running = true)
      (hrefs : task'.state.parentBlockReferences = task.task.state.parentBlockReferences)
      (hphase : ∀ clone, task'.phase ≠ .absent clone) :
      Change self (.proposals action)
        { self with tasks := self.tasks.set i { task with task := task' } }
  | proceed (i : Nat) (state clone : BuilderState T) (decideReceiver : Nat)
      (htask : self.tasks[i]? = some ⟨⟨state, .cloned clone⟩, decideReceiver, true⟩)
      (hnone : self.globalState.spawnedBuilderStates.get? clone.id = none) :
      Change self (.proposals (.spawnClone i))
        { self with tasks := self.tasks.set i ⟨⟨state, .absent clone⟩, decideReceiver, true⟩ }
  | register (i : Nat) (state clone : BuilderState T) (decideReceiver : Nat)
      (htask : self.tasks[i]? = some ⟨⟨state, .absent clone⟩, decideReceiver, true⟩) :
      Change self (.proposals (.registerBuilderState i))
        (self.registered i state clone decideReceiver)
  | broadcastDecide (latestDecideViewNumber : Nat) :
      Change self (.broadcastDecide latestDecideViewNumber)
        { self with decides := self.decides ++ [latestDecideViewNumber] }
  | nextDecide (i : Nat) (state : BuilderState T) (decideReceiver decideViewNumber : Nat)
      (htask : self.tasks[i]? = some ⟨⟨state, .eventLoop⟩, decideReceiver, true⟩)
      (hnext : self.decides[decideReceiver]? = some decideViewNumber) :
      Change self (.nextDecide i) { self with
        tasks := self.tasks.set i ⟨⟨state, .eventLoop⟩, decideReceiver + 1,
          self.globalState.cutoff decideViewNumber ≤ state.parentBlockReferences.viewNumber⟩
        globalState := (self.globalState.removeHandles decideViewNumber).1 }
  | answerRequest (i : Nat) (stateId : BuilderStateId T) (buildBlockInfo : BuildBlockInfo T)
      (responseMsg : ResponseMessage T) :
      Change self (.answerRequest i stateId buildBlockInfo responseMsg) { self with
        globalState := self.globalState.updateGlobalState stateId buildBlockInfo responseMsg }

section

variable {self self' : Runtime T}

theorem getElem?_system {i : Nat} {task : Task T} :
    self.system.tasks[i]? = some task ↔
      ∃ runtimeTask, self.tasks[i]? = some runtimeTask ∧ runtimeTask.task = task := by
  simp [system]

theorem getElem?_setTask {system : System T} {i : Nat} {state state' : BuilderState T}
    {phase phase' : Phase T} (htask : system.tasks[i]? = some ⟨state, phase⟩) :
    (system.setTask i state' phase').tasks[i]? = some ⟨state', phase'⟩ := by
  have hlt := (List.getElem?_eq_some_iff.mp htask).1
  simp [System.setTask, hlt]

theorem stepTask_eq_some {action : System.Action T} {i : Nat} :
    self.stepTask action i = some self' ↔
      ∃ task system' task', self.tasks[i]? = some task ∧ task.running = true ∧
        self.system.step action = some system' ∧ system'.tasks[i]? = some task' ∧
        self' = { self with tasks := self.tasks.set i { task with task := task' } } := by
  simp only [stepTask, Option.bind_eq_bind, Option.bind_eq_some_iff, Option.guard_eq_some',
    exists_const, Option.pure_def, Option.some.injEq]
  constructor
  . rintro ⟨task, htask, hrunning, system', hstep, task', htask', rfl⟩
    exact ⟨task, system', task', htask, hrunning, hstep, htask', rfl⟩
  . rintro ⟨task, system', task', htask, hrunning, hstep, htask', rfl⟩
    exact ⟨task, htask, hrunning, system', hstep, task', htask', rfl⟩

theorem change_of_stepTask {action : System.Action T} {i : Nat} {task : RuntimeTask T}
    {system' : System T} {task' : Task T} (htask : self.tasks[i]? = some task)
    (hrunning : task.running = true) (htask' : system'.tasks[i]? = some task')
    {state' : BuilderState T} {phase' : Phase T} {state : BuilderState T} {phase : Phase T}
    (hsystem : self.system.tasks[i]? = some ⟨state, phase⟩)
    (hset : system' = self.system.setTask i state' phase')
    (hrefs : state'.parentBlockReferences = state.parentBlockReferences)
    (hphase : ∀ clone, phase' ≠ .absent clone) :
    Change self (.proposals action)
      { self with tasks := self.tasks.set i { task with task := task' } } := by
  obtain ⟨runtimeTask, hget, hruntime⟩ := getElem?_system.mp hsystem
  rw [htask, Option.some.injEq] at hget
  subst hget
  rw [hset, getElem?_setTask hsystem, Option.some.injEq] at htask'
  rw [← htask']
  refine .handle action i task _ htask hrunning ?_ hphase
  rw [hruntime]
  exact hrefs

theorem change_of_stepProposals {action : System.Action T}
    (h : self.stepProposals action = some self') : Change self (.proposals action) self' := by
  cases action with
  | broadcastDaProposal daProposal =>
    rw [← Option.some.inj h]
    exact .broadcast _ _ _
  | broadcastQuorumProposal quorumProposal =>
    rw [← Option.some.inj h]
    exact .broadcast _ _ _
  | nextDaProposal i =>
    obtain ⟨task, system', task', htask, hrunning, hstep, htask', rfl⟩ := stepTask_eq_some.mp h
    cases System.change_of_step hstep with
    | nextDaProposal _ state daProposal hsystem hnext state' pair hprocess =>
      apply change_of_stepTask htask hrunning htask' hsystem rfl
      . have hrefs := BuilderState.processDaProposal_refs
          { state with daProposalReceiver := state.daProposalReceiver + 1 } daProposal
        rwa [hprocess] at hrefs
      . cases pair <;> simp [Phase.ofPair]
  | nextQuorumProposal i =>
    obtain ⟨task, system', task', htask, hrunning, hstep, htask', rfl⟩ := stepTask_eq_some.mp h
    cases System.change_of_step hstep with
    | nextQuorumProposal _ state quorumProposal hsystem hnext state' pair hprocess =>
      apply change_of_stepTask htask hrunning htask' hsystem rfl
      . have hrefs := BuilderState.processQuorumProposal_refs
          { state with quorumProposalReceiver := state.quorumProposalReceiver + 1 } quorumProposal
        rwa [hprocess] at hrefs
      . cases pair <;> simp [Phase.ofPair]
  | spawnCloneThatExtendsSelf i =>
    obtain ⟨task, system', task', htask, hrunning, hstep, htask', rfl⟩ := stepTask_eq_some.mp h
    cases System.change_of_step hstep with
    | fork _ state daProposal quorumProposal hsystem hbest =>
      exact change_of_stepTask htask hrunning htask' hsystem rfl rfl (by simp)
    | leave _ state daProposal quorumProposal hsystem hbest =>
      exact change_of_stepTask htask hrunning htask' hsystem rfl rfl (by simp)
  | spawnClone i =>
    obtain ⟨task, system', task', htask, hrunning, hstep, htask', rfl⟩ := stepTask_eq_some.mp h
    cases System.change_of_step hstep with
    | abort _ state clone hsystem hexists =>
      exact change_of_stepTask htask hrunning htask' hsystem rfl rfl (by simp)
    | proceed _ state clone hsystem hnone =>
      obtain ⟨runtimeTask, hget, hruntime⟩ := getElem?_system.mp hsystem
      rw [htask, Option.some.injEq] at hget
      subst hget
      rw [getElem?_setTask hsystem, Option.some.injEq] at htask'
      obtain ⟨_, decideReceiver, _⟩ := task
      dsimp only at hruntime hrunning
      subst hruntime hrunning htask'
      exact .proceed i state clone decideReceiver htask hnone
  | registerBuilderState i =>
    simp only [stepProposals, registerBuilderState] at h
    split at h
    . next state clone decideReceiver htask =>
      rw [← Option.some.inj h]
      exact .register i state clone decideReceiver htask
    . contradiction

theorem change_of_step {action : Action T} (h : self.step action = some self') :
    Change self action self' := by
  cases action with
  | proposals action => exact change_of_stepProposals h
  | broadcastDecide latestDecideViewNumber =>
    rw [← Option.some.inj h]
    exact .broadcastDecide latestDecideViewNumber
  | nextDecide i =>
    simp only [step, nextDecide] at h
    split at h
    . next state decideReceiver htask =>
      simp only [Option.bind_eq_bind, Option.bind_eq_some_iff, Option.pure_def, Option.some.injEq]
        at h
      obtain ⟨decideViewNumber, hnext, rfl⟩ := h
      simp only [processDecideEvent_fst, processDecideEvent_snd]
      exact .nextDecide i state decideReceiver decideViewNumber htask hnext
    . contradiction
  | answerRequest i stateId buildBlockInfo responseMsg =>
    simp only [step, answerRequest] at h
    split at h
    . rw [← Option.some.inj h]
      exact .answerRequest i stateId buildBlockInfo responseMsg
    . contradiction

theorem map_life_set {i : Nat} {task : RuntimeTask T} (htask : self.tasks[i]? = some task)
    (task' : RuntimeTask T) (hlife : task'.life = task.life) :
    (self.tasks.set i task').map (·.life) = self.tasks.map (·.life) := by
  obtain ⟨hlt, rfl⟩ := List.getElem?_eq_some_iff.mp htask
  have hlt' : i < (self.tasks.map (·.life)).length := by simpa using hlt
  have hget : self.tasks[i].life = (self.tasks.map (·.life))[i] := by simp
  rw [List.map_set, hlife, hget, List.set_getElem_self hlt']

theorem lifecycle_of_change {action : Action T} (hchange : Change self action self') :
    ∃ actions, run Lifecycle.step self.lifecycle actions = some self'.lifecycle := by
  cases hchange with
  | broadcast action daProposals quorumProposals => exact ⟨[], rfl⟩
  | handle action i task task' htask hrunning hrefs hphase =>
    refine ⟨[], ?_⟩
    have hlife : RuntimeTask.life { task with task := task' } = task.life := by
      simp only [RuntimeTask.life, hrefs]
    simp only [lifecycle, map_life_set htask _ hlife]
    rfl
  | proceed i state clone decideReceiver htask hnone =>
    refine ⟨[], ?_⟩
    simp only [lifecycle, map_life_set htask ⟨⟨state, .absent clone⟩, _, _⟩ rfl]
    rfl
  | register i state clone decideReceiver htask =>
    refine ⟨[.registerBuilderState i clone.parentBlockReferences], ?_⟩
    simp only [run_singleton, Lifecycle.step, Lifecycle.registerBuilderState, lifecycle, registered,
      List.getElem?_map, htask, List.map_append, List.length_map,
      map_life_set htask ⟨⟨state, .eventLoop⟩, _, _⟩ rfl]
    rfl
  | broadcastDecide latestDecideViewNumber => exact ⟨[.broadcastDecide latestDecideViewNumber], rfl⟩
  | nextDecide i state decideReceiver decideViewNumber htask hnext =>
    refine ⟨[.processDecideEvent i], ?_⟩
    simp only [run_singleton, Lifecycle.step, Lifecycle.processDecideEvent, lifecycle,
      List.getElem?_map, htask, Option.map_some, Option.bind_eq_bind, Option.bind_some,
      RuntimeTask.life, hnext, processDecideEvent_fst, processDecideEvent_snd, List.map_set]
    rfl
  | answerRequest i stateId buildBlockInfo responseMsg =>
    exact ⟨[.updateGlobalState stateId buildBlockInfo responseMsg], rfl⟩

theorem reachable_lifecycle (h : Reachable step IsNew self) :
    Reachable Lifecycle.step Lifecycle.IsNew self.lifecycle := by
  apply reachable_invariant (P := fun self : Runtime T =>
    Reachable Lifecycle.step Lifecycle.IsNew self.lifecycle) _ _ h
  . rintro _ ⟨refs, config, hid, hsender, rfl⟩
    exact reachable_of_init ⟨refs, config, hid, hsender, rfl⟩
  . intro self₁ action self₂ hreachable hstep
    obtain ⟨actions, hrun⟩ := lifecycle_of_change (change_of_step hstep)
    exact reachable_run hreachable hrun

end

end Runtime

end Legacy

end BuilderCore
