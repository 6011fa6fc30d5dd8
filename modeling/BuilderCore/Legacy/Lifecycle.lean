import BuilderCore.Legacy.Fallback

/-!
This module contains the life of the builder tasks: how they are registered, how each of them
processes the decides on its own schedule, and when they exit.
-/

namespace BuilderCore

open Collections Transition

variable {T : NodeType}

namespace Legacy

inductive Status where
  | shouldExit
  | shouldContinue
  deriving DecidableEq, Repr

def processDecideEvent (globalState : GlobalState T Nat)
    (parentBlockReferences : ParentBlockReferences T) (decideViewNumber : Nat) :
    GlobalState T Nat × Status :=
  let (globalState, retainedViewCutoff) := globalState.removeHandles decideViewNumber
  if parentBlockReferences.viewNumber < retainedViewCutoff then
    (globalState, .shouldExit)
  else
    (globalState, .shouldContinue)

@[simp]
theorem processDecideEvent_fst (globalState : GlobalState T Nat) (refs : ParentBlockReferences T)
    (decideViewNumber : Nat) :
    (processDecideEvent globalState refs decideViewNumber).1 =
      (globalState.removeHandles decideViewNumber).1 := by
  by_cases hlt : refs.viewNumber < globalState.cutoff decideViewNumber <;>
    simp [processDecideEvent, hlt]

@[simp]
theorem processDecideEvent_snd (globalState : GlobalState T Nat) (refs : ParentBlockReferences T)
    (decideViewNumber : Nat) :
    (processDecideEvent globalState refs decideViewNumber).2 = .shouldContinue ↔
      globalState.cutoff decideViewNumber ≤ refs.viewNumber := by
  by_cases hlt : refs.viewNumber < globalState.cutoff decideViewNumber
  . simp [processDecideEvent, hlt]
  . simp [processDecideEvent, hlt, Nat.not_lt.mp hlt]

/--
What decides and requests see of a task. A receiver is the number of messages it has taken.
-/
structure TaskLife (T : NodeType) where
  parentBlockReferences : ParentBlockReferences T
  decideReceiver : Nat
  running : Bool

namespace TaskLife

def id (task : TaskLife T) : BuilderStateId T := task.parentBlockReferences.id

def view (task : TaskLife T) : Nat := task.parentBlockReferences.viewNumber

@[simp]
theorem id_parentView (task : TaskLife T) : task.id.parentView = task.view := rfl

end TaskLife

/--
The sender of a registered builder state is the number of its task.
-/
structure Lifecycle (T : NodeType) where
  decides : List Nat
  tasks : List (TaskLife T)
  globalState : GlobalState T Nat

namespace Lifecycle

def new (parentBlockReferences : ParentBlockReferences T) (config : Config T Nat) :
    Lifecycle T where
  decides := []
  tasks := [⟨parentBlockReferences, 0, true⟩]
  globalState := .new config

/--
The bootstrap task has the id that the global state is created with.
-/
def IsNew (self : Lifecycle T) : Prop :=
  ∃ refs config, config.bootstrapId = refs.id ∧ config.bootstrapSender = 0 ∧ self = new refs config

inductive Action (T : NodeType) where
  | broadcastDecide (latestDecideViewNumber : Nat)
  | processDecideEvent (task : Nat)
  | registerBuilderState (task : Nat) (parentBlockReferences : ParentBlockReferences T)
  | updateGlobalState (stateId : BuilderStateId T) (buildBlockInfo : BuildBlockInfo T)
      (responseMsg : ResponseMessage T)

def processDecideEvent (self : Lifecycle T) (i : Nat) : Option (Lifecycle T) := do
  let task ← self.tasks[i]?
  guard task.running
  let decideViewNumber ← self.decides[task.decideReceiver]?
  let (globalState, status) :=
    Legacy.processDecideEvent self.globalState task.parentBlockReferences decideViewNumber
  let running := status = .shouldContinue
  let task := { task with decideReceiver := task.decideReceiver + 1, running }
  return { self with tasks := self.tasks.set i task, globalState }

/--
The clone of a task starts where its parent is in the channel of the decides.
-/
def registerBuilderState (self : Lifecycle T) (i : Nat) (refs : ParentBlockReferences T) :
    Option (Lifecycle T) := do
  let task ← self.tasks[i]?
  guard task.running
  return { self with
    tasks := self.tasks ++ [⟨refs, task.decideReceiver, true⟩]
    globalState := self.globalState.registerBuilderState refs.id refs self.tasks.length }

def step (self : Lifecycle T) (action : Action T) : Option (Lifecycle T) :=
  match action with
  | .broadcastDecide latestDecideViewNumber =>
    some { self with decides := self.decides ++ [latestDecideViewNumber] }
  | .processDecideEvent i => self.processDecideEvent i
  | .registerBuilderState i refs => self.registerBuilderState i refs
  | .updateGlobalState stateId buildBlockInfo responseMsg =>
    some { self with
      globalState := self.globalState.updateGlobalState stateId buildBlockInfo responseMsg }

def processed (self : Lifecycle T) (i : Nat) (task : TaskLife T) (decideViewNumber : Nat) :
    Lifecycle T :=
  let cutoff := self.globalState.cutoff decideViewNumber
  { self with
    tasks := self.tasks.set i
      { task with decideReceiver := task.decideReceiver + 1, running := cutoff ≤ task.view }
    globalState := (self.globalState.removeHandles decideViewNumber).1 }

inductive Change (self : Lifecycle T) : Action T → Lifecycle T → Prop where
  | broadcastDecide (latestDecideViewNumber : Nat) :
      Change self (.broadcastDecide latestDecideViewNumber)
        { self with decides := self.decides ++ [latestDecideViewNumber] }
  | processDecideEvent (i : Nat) (task : TaskLife T) (decideViewNumber : Nat)
      (htask : self.tasks[i]? = some task) (hrunning : task.running = true)
      (hnext : self.decides[task.decideReceiver]? = some decideViewNumber) :
      Change self (.processDecideEvent i) (self.processed i task decideViewNumber)
  | registerBuilderState (i : Nat) (task : TaskLife T) (refs : ParentBlockReferences T)
      (htask : self.tasks[i]? = some task) (hrunning : task.running = true) :
      Change self (.registerBuilderState i refs) { self with
        tasks := self.tasks ++ [⟨refs, task.decideReceiver, true⟩]
        globalState := self.globalState.registerBuilderState refs.id refs self.tasks.length }
  | updateGlobalState (stateId : BuilderStateId T) (buildBlockInfo : BuildBlockInfo T)
      (responseMsg : ResponseMessage T) :
      Change self (.updateGlobalState stateId buildBlockInfo responseMsg) { self with
        globalState := self.globalState.updateGlobalState stateId buildBlockInfo responseMsg }

section

variable {self self' : Lifecycle T}

theorem IsNew.spawned (h : IsNew self) {id : BuilderStateId T}
    {refs : Option (ParentBlockReferences T)} {i : Nat}
    (hget : self.globalState.spawnedBuilderStates.get? id = some (refs, i)) :
    ∃ task, self.tasks[i]? = some task ∧ task.running = true ∧ task.id = id := by
  obtain ⟨refs', config, hid, hsender, rfl⟩ := h
  simp only [new, GlobalState.new, HashMap.get?_insert, HashMap.get?_empty] at hget
  split at hget
  . next hid' =>
    simp only [Option.some.injEq, Prod.mk.injEq] at hget
    rw [← hget.2, hsender, hid', hid]
    exact ⟨_, rfl, rfl, rfl⟩
  . contradiction

theorem change_of_step {action : Action T} (h : self.step action = some self') :
    Change self action self' := by
  cases action with
  | broadcastDecide latestDecideViewNumber =>
    rw [← Option.some.inj h]
    exact .broadcastDecide latestDecideViewNumber
  | processDecideEvent i =>
    simp only [step, processDecideEvent, Option.bind_eq_bind, Option.bind_eq_some_iff,
      Option.guard_eq_some', exists_const, Option.pure_def, Option.some.injEq] at h
    obtain ⟨task, htask, hrunning, decideViewNumber, hnext, rfl⟩ := h
    simp only [processDecideEvent_fst, processDecideEvent_snd]
    exact .processDecideEvent i task decideViewNumber htask hrunning hnext
  | registerBuilderState i refs =>
    simp only [step, registerBuilderState, Option.bind_eq_bind, Option.bind_eq_some_iff,
      Option.guard_eq_some', exists_const, Option.pure_def, Option.some.injEq] at h
    obtain ⟨task, htask, hrunning, rfl⟩ := h
    exact .registerBuilderState i task refs htask hrunning
  | updateGlobalState stateId buildBlockInfo responseMsg =>
    rw [← Option.some.inj h]
    exact .updateGlobalState stateId buildBlockInfo responseMsg

theorem getElem?_processed {i j : Nat} {task : TaskLife T} (htask : self.tasks[i]? = some task)
    (decideViewNumber : Nat) :
    (self.processed i task decideViewNumber).tasks[j]? =
      if j = i then
        some { task with
          decideReceiver := task.decideReceiver + 1
          running := self.globalState.cutoff decideViewNumber ≤ task.view }
      else
        self.tasks[j]? := by
  have hlt := (List.getElem?_eq_some_iff.mp htask).1
  simp only [processed, List.getElem?_set, hlt, if_true, @eq_comm _ i j]

theorem refs_of_change {action : Action T} (hchange : Change self action self') {i : Nat}
    {task : TaskLife T} (htask : self.tasks[i]? = some task) :
    ∃ task', self'.tasks[i]? = some task' ∧
      task'.parentBlockReferences = task.parentBlockReferences := by
  cases hchange with
  | broadcastDecide decideViewNumber => exact ⟨task, htask, rfl⟩
  | processDecideEvent j task' decideViewNumber htask' hrunning hnext =>
    rw [getElem?_processed htask']
    by_cases hij : i = j
    . subst hij
      rw [htask, Option.some.injEq] at htask'
      rw [if_pos rfl, htask']
      exact ⟨_, rfl, rfl⟩
    . rw [if_neg hij]
      exact ⟨task, htask, rfl⟩
  | registerBuilderState j task' refs htask' hrunning =>
    have hlt := (List.getElem?_eq_some_iff.mp htask).1
    refine ⟨task, ?_, rfl⟩
    rw [List.getElem?_append_left hlt]
    exact htask
  | updateGlobalState stateId buildBlockInfo responseMsg => exact ⟨task, htask, rfl⟩

theorem refs_of_run {actions : List (Action T)} (hrun : run step self actions = some self')
    {i : Nat} {task : TaskLife T} (htask : self.tasks[i]? = some task) :
    ∃ task', self'.tasks[i]? = some task' ∧
      task'.parentBlockReferences = task.parentBlockReferences := by
  apply run_invariant (P := fun self' : Lifecycle T => ∃ task', self'.tasks[i]? = some task' ∧
    task'.parentBlockReferences = task.parentBlockReferences) _ ⟨task, htask, rfl⟩ hrun
  rintro self₁ action self₂ ⟨task₁, htask₁, hrefs₁⟩ hstep
  obtain ⟨task₂, htask₂, hrefs₂⟩ := refs_of_change (change_of_step hstep) htask₁
  exact ⟨task₂, htask₂, hrefs₂.trans hrefs₁⟩

theorem highest_le_change {action : Action T} (hchange : Change self action self') :
    self.globalState.highestViewNumBuilderId.parentView ≤
      self'.globalState.highestViewNumBuilderId.parentView := by
  cases hchange with
  | registerBuilderState i task refs htask hrunning =>
    exact (GlobalState.highest_le_registerBuilderState _ _ _ _).1
  | _ => exact Nat.le_refl _

theorem highest_le_run {actions : List (Action T)} (hrun : run step self actions = some self') :
    self.globalState.highestViewNumBuilderId.parentView ≤
      self'.globalState.highestViewNumBuilderId.parentView := by
  apply run_invariant (P := fun self' : Lifecycle T =>
    self.globalState.highestViewNumBuilderId.parentView ≤
      self'.globalState.highestViewNumBuilderId.parentView) _ (Nat.le_refl _) hrun
  intro self₁ action self₂ hle hstep
  exact Nat.le_trans hle (highest_le_change (change_of_step hstep))

end

def testRefs (viewNumber vidCommitment : Nat) : ParentBlockReferences TestTypes :=
  { ParentBlockReferences.bootstrap with
    viewNumber, vidCommitment := (vidCommitment : TestTypes.VidCommitment) }

def testStart : Lifecycle TestTypes := new .bootstrap GlobalState.testConfig

theorem isNew_testStart : IsNew testStart := ⟨_, _, rfl, rfl, rfl⟩

end Lifecycle

end Legacy

end BuilderCore
