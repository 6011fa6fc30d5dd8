import BuilderCore.Legacy.Lifecycle

/-!
This module contains when the running tasks and the registered handles of the legacy builder are the
same again after every task has processed every decide.
-/

namespace BuilderCore

open Collections Transition

variable {T : NodeType}

namespace Legacy

namespace Lifecycle

def runningIds (self : Lifecycle T) : List (BuilderStateId T) :=
  (self.tasks.filter (·.running)).map (·.id)

def DistinctIds (self : Lifecycle T) (action : Action T) : Prop :=
  match action with
  | .registerBuilderState _ refs => ∀ task ∈ self.tasks, task.running = true → task.id ≠ refs.id
  | _ => True

/--
A decide of a higher view is still ahead of the task.
-/
def WillStop (self : Lifecycle T) (task : TaskLife T) : Prop :=
  ∃ decideViewNumber ∈ self.decides.drop task.decideReceiver, task.view < decideViewNumber

/--
When a decide is processed, every running task whose handle is removed is going to stop itself.
-/
def StopsRemoved (self : Lifecycle T) (action : Action T) : Prop :=
  match action with
  | .processDecideEvent i => ∀ task ∈ self.tasks[i]?,
    ∀ decideViewNumber ∈ self.decides[task.decideReceiver]?,
      ∀ task' ∈ self.tasks, task'.running = true →
        task'.view < self.globalState.cutoff decideViewNumber → self.WillStop task'
  | _ => True

def Drained (self : Lifecycle T) : Prop :=
  ∀ task ∈ self.tasks, task.running = true → task.decideReceiver = self.decides.length

/--
The ids of the running tasks are the registered ones, and each is registered for its own task.
-/
structure Agrees (lifecycle : Lifecycle T) : Prop where
  ids : ∀ id, id ∈ lifecycle.runningIds ↔ id ∈ lifecycle.globalState.spawnedBuilderStates.keys
  handled : ∀ {i task}, lifecycle.tasks[i]? = some task → task.running = true →
    ∃ refs, lifecycle.globalState.spawnedBuilderStates.get? task.id = some (refs, i)
  alive : ∀ {id refs i}, lifecycle.globalState.spawnedBuilderStates.get? id = some (refs, i) →
    ∃ task, lifecycle.tasks[i]? = some task ∧ task.running = true ∧ task.id = id

instance (self : Lifecycle T) (action : Action T) : Decidable (self.DistinctIds action) :=
  match action with
  | .registerBuilderState _ _ => inferInstanceAs (Decidable (∀ _ ∈ _, _ → _))
  | .broadcastDecide _ | .processDecideEvent _ | .updateGlobalState _ _ _ => isTrue trivial

instance (self : Lifecycle T) (task : TaskLife T) : Decidable (self.WillStop task) :=
  inferInstanceAs (Decidable (∃ _ ∈ _, _))

instance (self : Lifecycle T) (action : Action T) : Decidable (self.StopsRemoved action) :=
  match action with
  | .processDecideEvent _ =>
    inferInstanceAs (Decidable (∀ _ ∈ _, ∀ _ ∈ _, ∀ _ ∈ _, _ → _ → _))
  | .broadcastDecide _ | .registerBuilderState _ _ | .updateGlobalState _ _ _ => isTrue trivial

instance (self : Lifecycle T) : Decidable self.Drained :=
  inferInstanceAs (Decidable (∀ _ ∈ _, _ → _))

structure Collected (lifecycle : Lifecycle T) : Prop where
  alive : ∀ {id refs i}, lifecycle.globalState.spawnedBuilderStates.get? id = some (refs, i) →
    ∃ task, lifecycle.tasks[i]? = some task ∧ task.running = true ∧ task.id = id
  covered : ∀ {i task}, lifecycle.tasks[i]? = some task → task.running = true →
    (∃ refs, lifecycle.globalState.spawnedBuilderStates.get? task.id = some (refs, i)) ∨
      lifecycle.WillStop task ∧
        task.view < lifecycle.globalState.highestViewNumBuilderId.parentView

section

variable {self self' : Lifecycle T}

theorem mem_runningIds {id : BuilderStateId T} :
    id ∈ self.runningIds ↔ ∃ task ∈ self.tasks, task.running = true ∧ task.id = id := by
  simp [runningIds, and_assoc]

theorem collected_new (h : IsNew self) : self.Collected := by
  constructor
  . exact h.spawned
  . intro i task htask hrunning
    obtain ⟨refs, config, hid, hsender, rfl⟩ := h
    obtain ⟨hlt, rfl⟩ := List.getElem?_eq_some_iff.mp htask
    have hi : i = 0 := Nat.lt_one_iff.mp hlt
    subst hi
    left
    refine ⟨none, ?_⟩
    simp only [new, GlobalState.new, HashMap.get?_insert, hid, hsender, List.getElem_cons_zero]
    exact if_pos rfl

theorem willStop_next {task : TaskLife T} {decideViewNumber : Nat} (h : self.WillStop task)
    (hnext : self.decides[task.decideReceiver]? = some decideViewNumber) {running : Bool} :
    task.view < decideViewNumber ∨
      self.WillStop { task with decideReceiver := task.decideReceiver + 1, running } := by
  obtain ⟨decideViewNumber', hmem, hlt⟩ := h
  obtain ⟨hlength, hget⟩ := List.getElem?_eq_some_iff.mp hnext
  rw [List.drop_eq_getElem_cons hlength, List.mem_cons, hget] at hmem
  rcases hmem with rfl | hmem
  . exact .inl hlt
  . exact .inr ⟨decideViewNumber', hmem, hlt⟩

theorem willStop_of_next {task : TaskLife T} {decideViewNumber : Nat}
    (hnext : self.decides[task.decideReceiver]? = some decideViewNumber)
    (hlt : task.view < decideViewNumber) : self.WillStop task := by
  obtain ⟨hlength, hget⟩ := List.getElem?_eq_some_iff.mp hnext
  refine ⟨decideViewNumber, ?_, hlt⟩
  rw [List.drop_eq_getElem_cons hlength, hget]
  exact List.mem_cons_self ..

theorem Collected.alive_processed (h : self.Collected) {i : Nat} {task : TaskLife T}
    (htask : self.tasks[i]? = some task) (decideViewNumber : Nat) {id : BuilderStateId T}
    {refs : Option (ParentBlockReferences T)} {j : Nat}
    (hget : (self.processed i task decideViewNumber).globalState.spawnedBuilderStates.get? id =
      some (refs, j)) :
    ∃ task', (self.processed i task decideViewNumber).tasks[j]? = some task' ∧
      task'.running = true ∧ task'.id = id := by
  simp only [processed, GlobalState.get?_removeHandles] at hget
  split at hget
  . next hcutoff =>
    obtain ⟨task', htask', hrunning', rfl⟩ := h.alive hget
    rw [getElem?_processed htask]
    split
    . next hij =>
      -- a task whose handle is kept does not exit
      rw [hij, htask, Option.some.injEq] at htask'
      rw [← htask'] at hcutoff ⊢
      exact ⟨_, rfl, decide_eq_true hcutoff, rfl⟩
    . exact ⟨task', htask', hrunning', rfl⟩
  . contradiction

theorem Collected.covered_processed (h : self.Collected) {i : Nat} {task : TaskLife T}
    {decideViewNumber : Nat} (htask : self.tasks[i]? = some task) (hrunning : task.running = true)
    (hnext : self.decides[task.decideReceiver]? = some decideViewNumber)
    (hstops : self.StopsRemoved (.processDecideEvent i)) {j : Nat} {task' : TaskLife T}
    (htask' : (self.processed i task decideViewNumber).tasks[j]? = some task')
    (hrunning' : task'.running = true) :
    (∃ refs, (self.processed i task decideViewNumber).globalState.spawnedBuilderStates.get? task'.id =
        some (refs, j)) ∨
      (self.processed i task decideViewNumber).WillStop task' ∧
        task'.view < self.globalState.highestViewNumBuilderId.parentView := by
  rw [getElem?_processed htask] at htask'
  simp only [processed, GlobalState.get?_removeHandles, TaskLife.id_parentView]
  split at htask'
  . next hij =>
    -- it stays, so its view is not below the cutoff
    rw [Option.some.injEq] at htask'
    subst htask'
    have hcutoff : self.globalState.cutoff decideViewNumber ≤ task.view :=
      of_decide_eq_true hrunning'
    rcases h.covered htask hrunning with ⟨refs, hget⟩ | ⟨hwillStop, hlt⟩
    . left
      refine ⟨refs, ?_⟩
      rw [hij]
      exact (if_pos hcutoff).trans hget
    . right
      refine ⟨?_, hlt⟩
      rcases willStop_next hwillStop hnext with hlt' | hwillStop
      . exact absurd hcutoff (Nat.not_le.mpr (Nat.lt_min.mpr ⟨hlt, hlt'⟩))
      . exact hwillStop
  . by_cases hcutoff : self.globalState.cutoff decideViewNumber ≤ task'.view
    . rcases h.covered htask' hrunning' with ⟨refs, hget⟩ | hwillStop
      . exact .inl ⟨refs, (if_pos hcutoff).trans hget⟩
      . exact .inr hwillStop
    . right
      rw [Nat.not_le] at hcutoff
      refine ⟨?_, Nat.lt_of_lt_of_le hcutoff (Nat.min_le_left ..)⟩
      exact hstops task htask decideViewNumber hnext task' (List.mem_of_getElem? htask') hrunning'
        hcutoff

theorem Collected.registerBuilderState (h : self.Collected) {i : Nat} {task : TaskLife T}
    {refs : ParentBlockReferences T} (hdistinct : self.DistinctIds (.registerBuilderState i refs)) :
    Collected { self with
      tasks := self.tasks ++ [⟨refs, task.decideReceiver, true⟩]
      globalState := self.globalState.registerBuilderState refs.id refs self.tasks.length } where
  alive := by
    intro id refs' j hget
    rcases GlobalState.eq_or_get?_of_registerBuilderState hget with ⟨rfl, hentry⟩ | hget
    . rw [(Prod.mk.inj hentry).2]
      exact ⟨_, List.getElem?_concat_length, rfl, rfl⟩
    . obtain ⟨task', htask', hrunning', hid'⟩ := h.alive hget
      have hlt := (List.getElem?_eq_some_iff.mp htask').1
      refine ⟨task', ?_, hrunning', hid'⟩
      rw [List.getElem?_append_left hlt]
      exact htask'
  covered := by
    intro j task' htask' hrunning'
    simp only [GlobalState.registerBuilderState_spawned, HashMap.get?_insert]
    by_cases hlt : j < self.tasks.length
    . rw [List.getElem?_append_left hlt] at htask'
      have hid := hdistinct task' (List.mem_of_getElem? htask') hrunning'
      rw [if_neg hid]
      rcases h.covered htask' hrunning' with hget | ⟨hwillStop, hview⟩
      . exact .inl hget
      . have hle := self.globalState.highest_le_registerBuilderState refs.id refs
          self.tasks.length
        exact .inr ⟨hwillStop, Nat.lt_of_lt_of_le hview hle.1⟩
    . rw [List.getElem?_append_right (Nat.not_lt.mp hlt), List.getElem?_singleton] at htask'
      split at htask'
      . next hj =>
        have hj : self.tasks.length = j := by omega
        rw [Option.some.injEq] at htask'
        rw [← htask', hj]
        exact .inl ⟨some refs, if_pos rfl⟩
      . contradiction

theorem Collected.change {action : Action T} (h : self.Collected)
    (hdistinct : self.DistinctIds action) (hstops : self.StopsRemoved action)
    (hchange : Change self action self') : self'.Collected := by
  cases hchange with
  | broadcastDecide decideViewNumber =>
    refine ⟨h.alive, ?_⟩
    intro i task htask hrunning
    rcases h.covered htask hrunning with hget | ⟨⟨decideViewNumber', hmem, hlt⟩, hview⟩
    . exact .inl hget
    . refine .inr ⟨⟨decideViewNumber', ?_, hlt⟩, hview⟩
      rw [List.drop_append]
      exact List.mem_append_left _ hmem
  | processDecideEvent i task decideViewNumber htask hrunning hnext =>
    exact ⟨h.alive_processed htask decideViewNumber,
      h.covered_processed htask hrunning hnext hstops⟩
  | registerBuilderState i task refs htask hrunning => exact h.registerBuilderState hdistinct
  | updateGlobalState stateId buildBlockInfo responseMsg => exact ⟨h.alive, h.covered⟩

theorem Collected.run {actions : List (Action T)} (h : self.Collected)
    (hdistinct : Along step DistinctIds self actions)
    (hstops : Along step StopsRemoved self actions)
    (hrun : run step self actions = some self') : self'.Collected := by
  apply run_invariant_along _ h (hdistinct.and hstops) hrun
  rintro self action self' hself ⟨hdistinct, hstops⟩ hstep
  exact hself.change hdistinct hstops (change_of_step hstep)

theorem Collected.agrees (h : self.Collected) (hdrained : self.Drained) : self.Agrees := by
  have hhandled : ∀ {i task}, self.tasks[i]? = some task → task.running = true →
      ∃ refs, self.globalState.spawnedBuilderStates.get? task.id = some (refs, i) := by
    intro i task htask hrunning
    rcases h.covered htask hrunning with hget | ⟨⟨decideViewNumber, hmem, -⟩, -⟩
    . exact hget
    . -- nothing is ahead of a drained task
      rw [hdrained task (List.mem_of_getElem? htask) hrunning, List.drop_length] at hmem
      contradiction
  refine ⟨?_, hhandled, h.alive⟩
  intro id
  rw [mem_runningIds, HashMap.mem_keys_iff]
  constructor
  . rintro ⟨task, hmem, hrunning, rfl⟩
    obtain ⟨i, htask⟩ := List.mem_iff_getElem?.mp hmem
    obtain ⟨refs, hget⟩ := hhandled htask hrunning
    exact ⟨_, hget⟩
  . rintro ⟨⟨refs, i⟩, hget⟩
    obtain ⟨task, htask, hrunning, hid⟩ := h.alive hget
    exact ⟨task, List.mem_of_getElem? htask, hrunning, hid⟩

/--
The task runs without a handle, and nothing that was broadcast will stop it.
-/
def Strays (self : Lifecycle T) (i : Nat) : Prop :=
  ∃ task, self.tasks[i]? = some task ∧ task.running = true ∧ ¬ self.WillStop task ∧
    self.globalState.spawnedBuilderStates.get? task.id = none

theorem Strays.change {action : Action T} {i : Nat} (h : self.Strays i)
    (hdistinct : self.DistinctIds action) (haction : ∀ d, action ≠ .broadcastDecide d)
    (hchange : Change self action self') : self'.Strays i := by
  obtain ⟨task, htask, hrunning, hwillStop, hget⟩ := h
  cases hchange with
  | broadcastDecide decideViewNumber => exact absurd rfl (haction decideViewNumber)
  | processDecideEvent j task' decideViewNumber htask' hrunning' hnext =>
    have hget' : (self.processed j task'
        decideViewNumber).globalState.spawnedBuilderStates.get? task.id = none := by
      simp only [processed, GlobalState.get?_removeHandles, hget, ite_self]
    rw [Strays, getElem?_processed htask']
    by_cases hij : i = j
    . subst hij
      rw [htask, Option.some.injEq] at htask'
      subst htask'
      have hle : decideViewNumber ≤ task.view :=
        Nat.not_lt.mp fun hlt => hwillStop (willStop_of_next hnext hlt)
      rw [if_pos rfl]
      refine ⟨_, rfl, decide_eq_true (Nat.le_trans (Nat.min_le_right ..) hle), ?_, hget'⟩
      rintro ⟨decideViewNumber', hmem, hlt⟩
      rw [← List.drop_drop] at hmem
      exact hwillStop ⟨decideViewNumber', List.mem_of_mem_drop hmem, hlt⟩
    . rw [if_neg hij]
      exact ⟨task, htask, hrunning, hwillStop, hget'⟩
  | registerBuilderState j task' refs htask' hrunning' =>
    have hlt := (List.getElem?_eq_some_iff.mp htask).1
    refine ⟨task, ?_, hrunning, hwillStop, ?_⟩
    . rw [List.getElem?_append_left hlt]
      exact htask
    . rw [GlobalState.registerBuilderState_spawned, HashMap.get?_insert,
        if_neg (hdistinct task (List.mem_of_getElem? htask) hrunning)]
      exact hget
  | updateGlobalState stateId buildBlockInfo responseMsg =>
    exact ⟨task, htask, hrunning, hwillStop, hget⟩

theorem Strays.run {actions : List (Action T)} {i : Nat} (h : self.Strays i)
    (hdistinct : Along step DistinctIds self actions)
    (hactions : ∀ d, .broadcastDecide d ∉ actions) (hrun : run step self actions = some self') :
    self'.Strays i := by
  have halong : Along step (fun _ action => ∀ d, action ≠ .broadcastDecide d) self actions := by
    apply along_of_forall
    rintro action hmem _ d rfl
    exact hactions d hmem
  apply run_invariant_along (P := fun self => self.Strays i) _ h (hdistinct.and halong) hrun
  rintro self action self' hself ⟨hdistinct, haction⟩ hstep
  exact hself.change hdistinct haction (change_of_step hstep)

theorem exists_strays {action : Action T} (hstep : self.step action = some self')
    (h : ¬ self.StopsRemoved action) : ∃ i, self'.Strays i := by
  cases change_of_step hstep with
  | processDecideEvent i task decideViewNumber htask hrunning hnext =>
    simp only [StopsRemoved, Option.mem_def, htask, Option.some.injEq, forall_eq', hnext,
      not_forall] at h
    obtain ⟨task', hmem, hrunning', hlt, hwillStop⟩ := h
    obtain ⟨j, htask'⟩ := List.mem_iff_getElem?.mp hmem
    have hij : j ≠ i := by
      -- the decide itself stops the task that processes it
      rintro rfl
      rw [htask, Option.some.injEq] at htask'
      subst htask'
      exact hwillStop (willStop_of_next hnext (Nat.lt_of_lt_of_le hlt (Nat.min_le_right ..)))
    refine ⟨j, task', ?_, hrunning', hwillStop, ?_⟩
    . rw [getElem?_processed htask, if_neg hij]
      exact htask'
    . simp only [processed, GlobalState.get?_removeHandles]
      exact if_neg (Nat.not_le.mpr hlt)
  | _ => exact absurd trivial h

theorem Strays.not_ids {i : Nat} (h : self.Strays i) :
    ¬ ∀ id, id ∈ self.runningIds ↔ id ∈ self.globalState.spawnedBuilderStates.keys := by
  obtain ⟨task, htask, hrunning, -, hget⟩ := h
  intro hids
  have hmem := mem_runningIds.mpr ⟨task, List.mem_of_getElem? htask, hrunning, rfl⟩
  rw [hids, HashMap.mem_keys_iff, hget] at hmem
  obtain ⟨entry, hentry⟩ := hmem
  contradiction

/--
If every task whose handle is removed by a decide is going to stop itself, then tasks and handles
agree in every drained state. Otherwise one of the tasks is left without a handle: nothing helps but
another decide.
-/
theorem agrees_of_drained {start : Lifecycle T} (h : IsNew start) :
    (∀ actions drained, run step start actions = some drained →
      Along step DistinctIds start actions → Along step StopsRemoved start actions →
        drained.Drained → drained.Agrees) ∧
    ∀ before action after self drained,
      run step start before = some self → run step self (action :: after) = some drained →
        Along step DistinctIds start (before ++ action :: after) →
          (∀ d, .broadcastDecide d ∉ after) → ¬ self.StopsRemoved action →
            ¬ ∀ id, id ∈ drained.runningIds ↔
              id ∈ drained.globalState.spawnedBuilderStates.keys := by
  constructor
  . intro actions drained hrun hdistinct hstops hdrained
    exact ((collected_new h).run hdistinct hstops hrun).agrees hdrained
  . intro before action after self drained hbefore hafter hdistinct hactions hstops
    rw [run_cons_eq_some] at hafter
    obtain ⟨self', hstep, hafter⟩ := hafter
    obtain ⟨i, hstrays⟩ := exists_strays hstep hstops
    have hdistinct' := (hdistinct.of_append hbefore self' hstep).2
    exact (hstrays.run hdistinct' hactions hafter).not_ids

end

def testCollected : List (Action TestTypes) := [
  .registerBuilderState 0 (testRefs 1 10),
  .broadcastDecide 1,
  .processDecideEvent 1,
  .processDecideEvent 0]

theorem agrees_of_drained_testCollected :
    ∃ drained, run step testStart testCollected = some drained ∧ drained.Agrees ∧
      ∀ id, id ∈ drained.globalState.spawnedBuilderStates.keys ↔ id = ⟨1, (10 : Nat)⟩ := by
  have hdrained : ∃ drained, run step testStart testCollected = some drained ∧ drained.Drained ∧
      drained.globalState.spawnedBuilderStates.keys = [⟨1, (10 : Nat)⟩] :=
    ⟨_, rfl, by decide, rfl⟩
  obtain ⟨drained, hrun, hdrained, hkeys⟩ := hdrained
  refine ⟨drained, hrun, ?_, ?_⟩
  . exact (agrees_of_drained isNew_testStart).1 _ _ hrun (by decide) (by decide) hdrained
  . intro id
    rw [hkeys, List.mem_singleton]

/--
The task of view 4 is of the highest view when it processes the decide of view 5. It registers a
builder state of view 5, and then the tasks of lower views process the decide.
-/
def overtaken : List (Action TestTypes) := [
  .registerBuilderState 0 (testRefs 3 30),
  .registerBuilderState 0 (testRefs 4 40),
  .broadcastDecide 5,
  .processDecideEvent 2,
  .registerBuilderState 2 (testRefs 5 50),
  .processDecideEvent 1,
  .processDecideEvent 0]

theorem not_agrees_overtaken :
    ∃ drained, run step testStart overtaken = some drained ∧
      Along step DistinctIds testStart overtaken ∧ drained.Drained ∧
      ¬ ∀ id, id ∈ drained.runningIds ↔
        id ∈ drained.globalState.spawnedBuilderStates.keys := by
  refine ⟨_, rfl, by decide, by decide, ?_⟩
  intro hids
  have hmem := (hids ⟨4, (40 : Nat)⟩).mp (List.mem_cons_self ..)
  revert hmem
  decide

end Lifecycle

end Legacy

end BuilderCore
