import BuilderCore.Legacy.Runtime

/-!
This module contains when the legacy builder registers a builder state under an id that is still
registered: `spawn_clone` looks the id up and registers it under two different locks.
-/

namespace BuilderCore

open Collections Transition

variable {T : NodeType}

namespace Legacy

/--
The clone that is about to be checked by `spawn_clone`.
-/
def RuntimeTask.cloned (self : RuntimeTask T) : Option (BuilderState T) :=
  match self with
  | ⟨⟨_, .cloned clone⟩, _, true⟩ => some clone
  | _ => none

/--
The clone that has passed the check and is not registered yet.
-/
def RuntimeTask.checked (self : RuntimeTask T) : Option (BuilderState T) :=
  match self with
  | ⟨⟨_, .absent clone⟩, _, true⟩ => some clone
  | _ => none

namespace Runtime

def clonedId (self : Runtime T) (i : Nat) : Option (BuilderStateId T) :=
  (self.tasks[i]?.bind (·.cloned)).map (·.id)

def checkedId (self : Runtime T) (i : Nat) : Option (BuilderStateId T) :=
  (self.tasks[i]?.bind (·.checked)).map (·.id)

/--
No builder state is registered under an id that is registered.
-/
def RegistersNew (self : Runtime T) (action : Action T) : Prop :=
  match action with
  | .proposals (.registerBuilderState i) =>
    ∀ id ∈ self.checkedId i, self.globalState.spawnedBuilderStates.get? id = none
  | _ => True

/--
No clone passes the check while another one with its id has passed it and is still to be registered.
-/
def ChecksAlone (self : Runtime T) (action : Action T) : Prop :=
  match action with
  | .proposals (.spawnClone i) =>
    ∀ id ∈ self.clonedId i, self.globalState.spawnedBuilderStates.get? id = none →
      ∀ j < self.tasks.length, self.checkedId j ≠ some id
  | _ => True

instance (self : Runtime T) (action : Action T) : Decidable (self.RegistersNew action) :=
  match action with
  | .proposals (.registerBuilderState _) => inferInstanceAs (Decidable (∀ _ ∈ _, _ = none))
  | .proposals (.broadcastDaProposal _) | .proposals (.broadcastQuorumProposal _)
  | .proposals (.nextDaProposal _) | .proposals (.nextQuorumProposal _)
  | .proposals (.spawnCloneThatExtendsSelf _) | .proposals (.spawnClone _)
  | .broadcastDecide _ | .nextDecide _ | .answerRequest _ _ _ _ => isTrue trivial

instance (self : Runtime T) (action : Action T) : Decidable (self.ChecksAlone action) :=
  match action with
  | .proposals (.spawnClone _) =>
    inferInstanceAs (Decidable (∀ _ ∈ _, _ = none → ∀ _ < _, _ ≠ _))
  | .proposals (.broadcastDaProposal _) | .proposals (.broadcastQuorumProposal _)
  | .proposals (.nextDaProposal _) | .proposals (.nextQuorumProposal _)
  | .proposals (.spawnCloneThatExtendsSelf _) | .proposals (.registerBuilderState _)
  | .broadcastDecide _ | .nextDecide _ | .answerRequest _ _ _ _ => isTrue trivial

structure Checked (runtime : Runtime T) : Prop where
  absent : ∀ {i id}, runtime.checkedId i = some id →
    runtime.globalState.spawnedBuilderStates.get? id = none
  distinct : ∀ {i j id}, runtime.checkedId i = some id → runtime.checkedId j = some id → i = j

section

variable {self self' : Runtime T}

theorem lt_length_of_checkedId {i : Nat} {id : BuilderStateId T} (h : self.checkedId i = some id) :
    i < self.tasks.length := by
  by_contra hle
  rw [checkedId, List.getElem?_eq_none (Nat.not_lt.mp hle)] at h
  contradiction

theorem checkedId_set {i : Nat} {task : RuntimeTask T} (htask : self.tasks[i]? = some task)
    (task' : RuntimeTask T) (j : Nat) :
    ({ self with tasks := self.tasks.set i task' } : Runtime T).checkedId j =
      if j = i then task'.checked.map (·.id) else self.checkedId j := by
  have hlt := (List.getElem?_eq_some_iff.mp htask).1
  by_cases hij : j = i
  . subst hij
    simp [checkedId, hlt]
  . simp [checkedId, hij, Ne.symm hij]

theorem checked_of_phase {task : RuntimeTask T} (h : ∀ clone, task.task.phase ≠ .absent clone) :
    task.checked = none := by
  obtain ⟨⟨state, phase⟩, decideReceiver, running⟩ := task
  cases phase with
  | absent clone => exact absurd rfl (h clone)
  | _ => rfl

theorem Checked.of_checkedId (h : self.Checked)
    (hids : ∀ {i id}, self'.checkedId i = some id → self.checkedId i = some id ∧
      (self.globalState.spawnedBuilderStates.get? id = none →
        self'.globalState.spawnedBuilderStates.get? id = none)) : self'.Checked where
  absent hi := (hids hi).2 (h.absent (hids hi).1)
  distinct hi hj := h.distinct (hids hi).1 (hids hj).1

theorem checked_new (h : IsNew self) : self.Checked := by
  obtain ⟨refs, config, hid, hsender, rfl⟩ := h
  have hnone : ∀ i, (new refs config).checkedId i = none := by
    intro i
    cases i <;> rfl
  constructor
  . intro i id hi
    rw [hnone] at hi
    contradiction
  . intro i j id hi
    rw [hnone] at hi
    contradiction

/--
A task that leaves its checked clone behind takes no part in the invariant any more.
-/
theorem checkedId_of_set {i j : Nat} {task task' : RuntimeTask T}
    (htask : self.tasks[i]? = some task) (hnone : task'.checked = none) {id : BuilderStateId T}
    (h : ({ self with tasks := self.tasks.set i task' } : Runtime T).checkedId j = some id) :
    self.checkedId j = some id ∧ j ≠ i := by
  rw [checkedId_set htask, hnone] at h
  split at h
  . contradiction
  . next hij => exact ⟨h, hij⟩

theorem checkedId_of_append {tasks : List (RuntimeTask T)} {task : RuntimeTask T}
    (hnone : task.checked = none) {globalState : GlobalState T Nat} {j : Nat}
    {id : BuilderStateId T}
    (h : ({ self with tasks := tasks ++ [task], globalState } : Runtime T).checkedId j =
      some id) : ({ self with tasks } : Runtime T).checkedId j = some id := by
  simp only [checkedId, List.getElem?_append] at h
  split at h
  . exact h
  . next hle =>
    by_cases hj : j - tasks.length = 0
    . simp [hj, hnone] at h
    . rw [List.getElem?_eq_none (by simp; omega)] at h
      contradiction

theorem Checked.proceed (h : self.Checked) {i : Nat} {state clone : BuilderState T}
    {decideReceiver : Nat}
    (htask : self.tasks[i]? = some ⟨⟨state, .cloned clone⟩, decideReceiver, true⟩)
    (hnone : self.globalState.spawnedBuilderStates.get? clone.id = none)
    (halone : self.ChecksAlone (.proposals (.spawnClone i))) :
    ({ self with tasks := self.tasks.set i ⟨⟨state, .absent clone⟩, decideReceiver, true⟩ } :
      Runtime T).Checked := by
  have hcloned : self.clonedId i = some clone.id := by
    rw [clonedId, htask]
    rfl
  have hother : ∀ j, self.checkedId j ≠ some clone.id := by
    intro j hj
    exact halone clone.id hcloned hnone j (lt_length_of_checkedId hj) hj
  constructor
  . intro j id hj
    rw [checkedId_set htask] at hj
    split at hj
    . rw [← Option.some.inj hj]
      exact hnone
    . exact h.absent hj
  . intro j k id hj hk
    rw [checkedId_set htask] at hj hk
    split at hj <;> split at hk
    . next hji hki => rw [hji, hki]
    . rw [← Option.some.inj hj] at hk
      exact absurd hk (hother k)
    . rw [← Option.some.inj hk] at hj
      exact absurd hj (hother j)
    . exact h.distinct hj hk

theorem Checked.register (h : self.Checked) {i : Nat} {state clone : BuilderState T}
    {decideReceiver : Nat}
    (htask : self.tasks[i]? = some ⟨⟨state, .absent clone⟩, decideReceiver, true⟩) :
    (self.registered i state clone decideReceiver).Checked := by
  have hi : self.checkedId i = some clone.id := by
    rw [checkedId, htask]
    rfl
  apply h.of_checkedId
  intro j id hj
  obtain ⟨hj, hji⟩ := checkedId_of_set htask rfl (checkedId_of_append rfl hj)
  refine ⟨hj, ?_⟩
  intro hnone
  have hid : id ≠ clone.id := by
    intro hid
    rw [hid] at hj
    exact hji (h.distinct hj hi)
  simp only [registered, GlobalState.registerBuilderState_spawned, HashMap.get?_insert, if_neg hid]
  exact hnone

theorem Checked.change (h : self.Checked) {action : Action T}
    (halone : self.ChecksAlone action) (hchange : Change self action self') : self'.Checked := by
  cases hchange with
  | broadcast action daProposals quorumProposals => exact ⟨h.absent, h.distinct⟩
  | handle action i task task' htask hrunning hrefs hphase =>
    apply h.of_checkedId
    intro j id hj
    exact ⟨(checkedId_of_set htask (checked_of_phase hphase) hj).1, fun hnone => hnone⟩
  | proceed i state clone decideReceiver htask hnone => exact h.proceed htask hnone halone
  | register i state clone decideReceiver htask => exact h.register htask
  | broadcastDecide latestDecideViewNumber => exact ⟨h.absent, h.distinct⟩
  | nextDecide i state decideReceiver decideViewNumber htask hnext =>
    apply h.of_checkedId
    intro j id hj
    refine ⟨(checkedId_of_set htask (checked_of_phase (by simp)) hj).1, ?_⟩
    intro hnone
    rw [GlobalState.get?_removeHandles, hnone, ite_self]
  | answerRequest i stateId buildBlockInfo responseMsg => exact ⟨h.absent, h.distinct⟩

theorem Checked.registersNew (h : self.Checked) (action : Action T) : self.RegistersNew action := by
  rcases action with action | _ | _ | _
  . cases action with
    | registerBuilderState i =>
      intro id hid
      exact h.absent hid
    | _ => trivial
  all_goals trivial

theorem along_registersNew (h : self.Checked) {actions : List (Action T)}
    (halone : Along step ChecksAlone self actions) : Along step RegistersNew self actions := by
  apply halone.imp (I := Checked) _ _ h
  . intro self action self' h haction hstep
    exact h.change haction (change_of_step hstep)
  . intro self action self' h _ _
    exact h.registersNew action

theorem checkedId_eq_some_iff {i : Nat} {id : BuilderStateId T} :
    self.checkedId i = some id ↔ ∃ state clone decideReceiver,
      self.tasks[i]? = some ⟨⟨state, .absent clone⟩, decideReceiver, true⟩ ∧ clone.id = id := by
  constructor
  . intro h
    simp only [checkedId, Option.map_eq_some_iff, Option.bind_eq_some_iff] at h
    obtain ⟨clone, ⟨task, htask, hchecked⟩, hid⟩ := h
    simp only [RuntimeTask.checked] at hchecked
    split at hchecked
    . rw [← Option.some.inj hchecked] at hid
      exact ⟨_, _, _, htask, hid⟩
    . contradiction
  . rintro ⟨state, clone, decideReceiver, htask, rfl⟩
    rw [checkedId, htask]
    rfl

theorem clonedId_eq_some_iff {i : Nat} {id : BuilderStateId T} :
    self.clonedId i = some id ↔ ∃ state clone decideReceiver,
      self.tasks[i]? = some ⟨⟨state, .cloned clone⟩, decideReceiver, true⟩ ∧ clone.id = id := by
  constructor
  . intro h
    simp only [clonedId, Option.map_eq_some_iff, Option.bind_eq_some_iff] at h
    obtain ⟨clone, ⟨task, htask, hcloned⟩, hid⟩ := h
    simp only [RuntimeTask.cloned] at hcloned
    split at hcloned
    . rw [← Option.some.inj hcloned] at hid
      exact ⟨_, _, _, htask, hid⟩
    . contradiction
  . rintro ⟨state, clone, decideReceiver, htask, rfl⟩
    rw [clonedId, htask]
    rfl

theorem step_spawnClone {i : Nat} {id : BuilderStateId T} (h : self.clonedId i = some id)
    (hnone : self.globalState.spawnedBuilderStates.get? id = none) :
    ∃ self', self.step (.proposals (.spawnClone i)) = some self' ∧
      self'.checkedId i = some id ∧ ∀ j ≠ i, self'.checkedId j = self.checkedId j := by
  obtain ⟨state, clone, decideReceiver, htask, rfl⟩ := clonedId_eq_some_iff.mp h
  have hsystem : self.system.tasks[i]? = some ⟨state, .cloned clone⟩ :=
    getElem?_system.mpr ⟨_, htask, rfl⟩
  have hstep : self.system.step (.spawnClone i) =
      some (self.system.setTask i state (.absent clone)) := by
    have hspawned : self.system.spawnedBuilderStates.get? clone.id = none := hnone
    simp [System.step, System.spawnClone, hsystem, hspawned]
  refine ⟨{ self with tasks := self.tasks.set i ⟨⟨state, .absent clone⟩, decideReceiver, true⟩ },
    ?_, ?_, ?_⟩
  . exact stepTask_eq_some.mpr ⟨_, _, _, htask, rfl, hstep, getElem?_setTask hsystem, rfl⟩
  . rw [checkedId_set htask, if_pos rfl]
    rfl
  . intro j hji
    rw [checkedId_set htask, if_neg hji]

theorem step_registerBuilderState {i : Nat} {id : BuilderStateId T}
    (h : self.checkedId i = some id) :
    ∃ self', self.step (.proposals (.registerBuilderState i)) = some self' ∧
      (self'.globalState.spawnedBuilderStates.get? id).isSome = true ∧
      ∀ j ≠ i, self.checkedId j = some id → self'.checkedId j = some id := by
  obtain ⟨state, clone, decideReceiver, htask, rfl⟩ := checkedId_eq_some_iff.mp h
  refine ⟨self.registered i state clone decideReceiver, ?_, ?_, ?_⟩
  . simp only [step, stepProposals, registerBuilderState, htask]
  . simp [registered, HashMap.get?_insert]
  . intro j hji hj
    have hlt := lt_length_of_checkedId hj
    simp only [checkedId, registered, List.getElem?_append, List.length_set, hlt, if_true,
      List.getElem?_set, if_neg (Ne.symm hji)] at hj ⊢
    exact hj

theorem overwrites_of_not_checksAlone {action : Action T} (h : ¬ self.ChecksAlone action) :
    ∃ actions, (run step self (action :: actions)).isSome = true ∧
      ¬ Along step RegistersNew self (action :: actions) := by
  have haction : ∃ i, action = .proposals (.spawnClone i) := by
    rcases action with action | _ | _ | _
    . cases action with
      | spawnClone i => exact ⟨i, rfl⟩
      | _ => exact absurd trivial h
    all_goals exact absurd trivial h
  obtain ⟨i, rfl⟩ := haction
  simp only [ChecksAlone, not_forall, Classical.not_not] at h
  obtain ⟨id, hcloned, hnone, j, hlt, hj⟩ := h
  have hji : j ≠ i := by
    rintro rfl
    obtain ⟨_, _, _, htask, -⟩ := clonedId_eq_some_iff.mp hcloned
    obtain ⟨_, _, _, htask', -⟩ := checkedId_eq_some_iff.mp hj
    rw [htask] at htask'
    simp at htask'
  obtain ⟨self₁, hstep₁, hi₁, hother₁⟩ := step_spawnClone hcloned hnone
  rw [← hother₁ j hji] at hj
  obtain ⟨self₂, hstep₂, hspawned, hother₂⟩ := step_registerBuilderState hj
  have hi₂ := hother₂ i hji.symm hi₁
  obtain ⟨self₃, hstep₃, -, -⟩ := step_registerBuilderState hi₂
  refine ⟨[.proposals (.registerBuilderState j), .proposals (.registerBuilderState i)], ?_, ?_⟩
  . simp [run, hstep₁, hstep₂, hstep₃]
  . intro halong
    have hnew := (((halong self₁ hstep₁).2 self₂ hstep₂).2 self₃ hstep₃).1 id hi₂
    rw [hnew] at hspawned
    contradiction

theorem registersNew_of_checksAlone (hnew : IsNew self) (actions : List (Action T)) :
    (Along step ChecksAlone self actions → Along step RegistersNew self actions) ∧
    ∀ self' action, run step self actions = some self' → ¬ self'.ChecksAlone action →
      ∃ actions', (run step self' (action :: actions')).isSome = true ∧
        ¬ Along step RegistersNew self' (action :: actions') := by
  constructor
  . exact along_registersNew (checked_new hnew)
  . intro self' action _ hchecks
    exact overwrites_of_not_checksAlone hchecks

end

def testStart : Runtime TestTypes := new .bootstrap GlobalState.testConfig

def propose (viewNumber payloadCommitment : Nat) (block : List Nat)
    (justifyQc : QuorumCertificate (List Nat)) : List (Action TestTypes) := [
  .proposals (.broadcastDaProposal (TestTypes.daProposal viewNumber block)),
  .proposals (.broadcastQuorumProposal
    (TestTypes.quorumProposal viewNumber payloadCommitment block justifyQc))]

def handleNext (i : Nat) : List (Action TestTypes) := [
  .proposals (.nextDaProposal i),
  .proposals (.nextQuorumProposal i),
  .proposals (.spawnCloneThatExtendsSelf i)]

def spawn (i : Nat) : List (Action TestTypes) := [
  .proposals (.spawnClone i),
  .proposals (.registerBuilderState i)]

/--
The bootstrap task forks for two blocks of one view. Both of the new tasks are best fits for a block
of the next view, the parent of which is not known.
-/
def twoForks : List (Action TestTypes) :=
  propose 1 1 [7] ⟨0, []⟩ ++ propose 1 2 [8] ⟨0, []⟩ ++ propose 2 3 [9] ⟨1, []⟩ ++
  handleNext 0 ++ spawn 0 ++ handleNext 0 ++ spawn 0 ++
  handleNext 1 ++ handleNext 1 ++ handleNext 2

def checkedByTask₁ : Runtime TestTypes :=
  (run step testStart (twoForks ++ [.proposals (.spawnClone 1)])).get rfl

theorem registersNew_of_checksAlone_twoForks :
    Along step RegistersNew testStart (twoForks ++ spawn 1 ++ [.proposals (.spawnClone 2)]) ∧
      ∃ actions', (run step checkedByTask₁ (.proposals (.spawnClone 2) :: actions')).isSome = true ∧
        ¬ Along step RegistersNew checkedByTask₁ (.proposals (.spawnClone 2) :: actions') := by
  have hnew : IsNew testStart := ⟨_, _, rfl, rfl, rfl⟩
  constructor
  . exact (registersNew_of_checksAlone hnew _).1 (by decide)
  . exact (registersNew_of_checksAlone hnew (twoForks ++ [.proposals (.spawnClone 1)])).2
      checkedByTask₁ _ rfl (by decide)

theorem not_registersNew_twoForks :
    IsNew testStart ∧
      (run step testStart (twoForks ++ [.proposals (.spawnClone 1)] ++ spawn 2 ++
        [.proposals (.registerBuilderState 1)])).isSome = true ∧
      ¬ Along step RegistersNew testStart (twoForks ++ [.proposals (.spawnClone 1)] ++ spawn 2 ++
        [.proposals (.registerBuilderState 1)]) := by
  refine ⟨⟨_, _, rfl, rfl, rfl⟩, ?_, ?_⟩
  . decide
  . decide

end Runtime

end Legacy

end BuilderCore
