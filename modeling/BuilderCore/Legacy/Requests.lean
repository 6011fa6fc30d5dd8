import BuilderCore.Legacy.Lifecycle

/-!
This module contains where the legacy builder sends a request for blocks, and whether the task that
receives it serves it.
-/

namespace BuilderCore

open Collections Transition

variable {T : NodeType}

namespace Legacy

/--
`available_blocks_implementation` refuses a request for a view that was garbage collected.
-/
def GlobalState.alreadyDecided (self : GlobalState T Nat) (viewNum : Nat) : Bool :=
  viewNum < self.lastGarbageCollectedViewNum ∧
    self.highestViewNumBuilderId.parentView ≠ self.lastGarbageCollectedViewNum

/--
`process_block_request` up to the call of `build_block`.
-/
def acceptsBlockRequest (globalState : GlobalState T Nat)
    (parentBlockReferences : ParentBlockReferences T) (stateId : BuilderStateId T) : Bool :=
  if stateId.parentCommitment ≠ parentBlockReferences.vidCommitment ∨
      stateId.parentView ≠ parentBlockReferences.viewNumber then
    false
  else if globalState.highestViewNumBuilderId.parentView ≠ parentBlockReferences.viewNumber then
    false
  else
    true

theorem acceptsBlockRequest_iff {globalState : GlobalState T Nat} {refs : ParentBlockReferences T}
    {stateId : BuilderStateId T} :
    acceptsBlockRequest globalState refs stateId = true ↔
      stateId = refs.id ∧ globalState.highestViewNumBuilderId.parentView = stateId.parentView := by
  have hid : stateId = refs.id ↔
      stateId.parentCommitment = refs.vidCommitment ∧ stateId.parentView = refs.viewNumber := by
    cases stateId
    simp [ParentBlockReferences.id, and_comm]
  rw [hid]
  unfold acceptsBlockRequest
  split
  . next hne =>
    simp only [Bool.false_eq_true, false_iff]
    rintro ⟨⟨hcommitment, hview⟩, -⟩
    exact hne.elim (absurd hcommitment) (absurd hview)
  . next heq =>
    simp only [not_or, not_not] at heq
    split
    . next hne => simp [heq, hne]
    . next hhighest => simp [heq, not_not.mp hhighest]

namespace Lifecycle

/--
A request that is not refused when it comes in, and for which the task `i` is found some time later.
-/
structure Routed (start routed : Lifecycle T) (stateId : BuilderStateId T) (i : Nat) : Prop where
  admitted : start.globalState.alreadyDecided stateId.parentView = false
  waits : ∃ actions, run step start actions = some routed
  channel : routed.globalState.getChannelForMatchingBuilderOrHighestViewBuilder stateId = .ok i

/--
The task gets to the request, and does not drop it.
-/
def Serves (lifecycle : Lifecycle T) (i : Nat) (stateId : BuilderStateId T) : Prop :=
  ∃ task, lifecycle.tasks[i]? = some task ∧ task.running = true ∧
    acceptsBlockRequest lifecycle.globalState task.parentBlockReferences stateId = true

structure Sound (lifecycle : Lifecycle T) : Prop where
  fallback : lifecycle.globalState.Fallback
  handle : ∀ {id refs i}, lifecycle.globalState.spawnedBuilderStates.get? id = some (refs, i) →
    ∃ task, lifecycle.tasks[i]? = some task ∧ task.id = id
  exited : ∀ {task}, task ∈ lifecycle.tasks → task.running = false →
    task.view < lifecycle.globalState.highestViewNumBuilderId.parentView

section

variable {self self' : Lifecycle T}

theorem sound_new (h : IsNew self) : self.Sound := by
  constructor
  . obtain ⟨refs, config, hid, hsender, rfl⟩ := h
    exact GlobalState.fallback_new config
  . intro id refs i hget
    obtain ⟨task, htask, -, hid⟩ := h.spawned hget
    exact ⟨task, htask, hid⟩
  . intro task htask hexited
    obtain ⟨refs, config, hid, hsender, rfl⟩ := h
    rw [List.mem_singleton.mp htask] at hexited
    contradiction

theorem Sound.fallback_change {action : Action T} (h : self.Sound)
    (hchange : Change self action self') : self'.globalState.Fallback := by
  cases hchange with
  | broadcastDecide decideViewNumber => exact h.fallback
  | processDecideEvent i task decideViewNumber htask hrunning hnext =>
    exact h.fallback.removeHandles decideViewNumber
  | registerBuilderState i task refs htask hrunning =>
    exact h.fallback.registerBuilderState refs.id refs _
  | updateGlobalState stateId buildBlockInfo responseMsg =>
    exact ⟨h.fallback.registered, h.fallback.greatest⟩

theorem Sound.handle_change {action : Action T} (h : self.Sound)
    (hchange : Change self action self') {id : BuilderStateId T}
    {refs : Option (ParentBlockReferences T)} {i : Nat}
    (hget : self'.globalState.spawnedBuilderStates.get? id = some (refs, i)) :
    ∃ task, self'.tasks[i]? = some task ∧ task.id = id := by
  have hkept : self.globalState.spawnedBuilderStates.get? id = some (refs, i) →
      ∃ task, self'.tasks[i]? = some task ∧ task.id = id := by
    intro hget
    obtain ⟨task, htask, hid⟩ := h.handle hget
    obtain ⟨task', htask', hrefs⟩ := refs_of_change hchange htask
    refine ⟨task', htask', ?_⟩
    rw [TaskLife.id, hrefs]
    exact hid
  cases hchange with
  | broadcastDecide decideViewNumber => exact hkept hget
  | processDecideEvent j task decideViewNumber htask hrunning hnext =>
    simp only [processed, GlobalState.get?_removeHandles] at hget
    split at hget
    . exact hkept hget
    . contradiction
  | registerBuilderState j task refs' htask hrunning =>
    rcases GlobalState.eq_or_get?_of_registerBuilderState hget with ⟨rfl, hentry⟩ | hget
    . rw [(Prod.mk.inj hentry).2]
      exact ⟨_, List.getElem?_concat_length, rfl⟩
    . exact hkept hget
  | updateGlobalState stateId buildBlockInfo responseMsg => exact hkept hget

theorem Sound.exited_change {action : Action T} (h : self.Sound)
    (hchange : Change self action self') {task : TaskLife T} (htask : task ∈ self'.tasks)
    (hexited : task.running = false) :
    task.view < self'.globalState.highestViewNumBuilderId.parentView := by
  have hle := highest_le_change hchange
  have hkept : task ∈ self.tasks →
      task.view < self'.globalState.highestViewNumBuilderId.parentView := by
    intro htask
    exact Nat.lt_of_lt_of_le (h.exited htask hexited) hle
  cases hchange with
  | broadcastDecide decideViewNumber => exact hkept htask
  | processDecideEvent i task' decideViewNumber htask' hrunning hnext =>
    rcases List.mem_or_eq_of_mem_set htask with htask | rfl
    . exact hkept htask
    . -- it exits below the cutoff
      have hlt := Nat.not_le.mp (of_decide_eq_false hexited)
      exact Nat.lt_of_lt_of_le hlt (Nat.min_le_left ..)
  | registerBuilderState i task' refs htask' hrunning =>
    rw [List.mem_append, List.mem_singleton] at htask
    rcases htask with htask | rfl
    . exact hkept htask
    . contradiction
  | updateGlobalState stateId buildBlockInfo responseMsg => exact hkept htask

theorem Sound.change {action : Action T} (h : self.Sound) (hchange : Change self action self') :
    self'.Sound :=
  ⟨h.fallback_change hchange, h.handle_change hchange, h.exited_change hchange⟩

theorem sound (h : Reachable step IsNew self) : self.Sound := by
  apply reachable_invariant _ _ h
  . intro self hself
    exact sound_new hself
  . intro self action self' hself hstep
    exact hself.change (change_of_step hstep)

theorem Sound.id_of_channel (h : self.Sound) {stateId : BuilderStateId T} {i : Nat}
    (hchannel : self.globalState.getChannelForMatchingBuilderOrHighestViewBuilder stateId = .ok i) :
    ∃ task, self.tasks[i]? = some task ∧
      (task.id = stateId ↔ stateId ∈ self.globalState.spawnedBuilderStates.keys) := by
  unfold GlobalState.getChannelForMatchingBuilderOrHighestViewBuilder at hchannel
  split at hchannel
  . next refs sender hget =>
    rw [Except.ok.injEq] at hchannel
    rw [hchannel] at hget
    obtain ⟨task, htask, hid⟩ := h.handle hget
    exact ⟨task, htask, fun _ => HashMap.mem_keys_iff.mpr ⟨_, hget⟩, fun _ => hid⟩
  . next hnone =>
    -- the highest builder is registered and the requested one is not
    split at hchannel
    . next refs sender hget =>
      rw [Except.ok.injEq] at hchannel
      rw [hchannel] at hget
      obtain ⟨task, htask, hid⟩ := h.handle hget
      refine ⟨task, htask, ?_⟩
      rw [hid, HashMap.mem_keys_iff, hnone]
      constructor
      . intro hstateId
        rw [hstateId, hnone] at hget
        contradiction
      . rintro ⟨entry, hentry⟩
        contradiction
    . contradiction

/--
The task that a request is sent to serves it exactly if the requested builder state was registered
then and is of the highest view when the task gets to the request.
-/
theorem serves_iff {start routed served : Lifecycle T} {stateId : BuilderStateId T} {i : Nat}
    {actions : List (Action T)} (h : Reachable step IsNew start)
    (hrouted : Routed start routed stateId i) (hrun : run step routed actions = some served) :
    served.Serves i stateId ↔
      stateId ∈ routed.globalState.spawnedBuilderStates.keys ∧
        served.globalState.highestViewNumBuilderId.parentView = stateId.parentView := by
  obtain ⟨waiting, hwaiting⟩ := hrouted.waits
  have hreach := reachable_run h hwaiting
  obtain ⟨task, htask, hid⟩ := (sound hreach).id_of_channel hrouted.channel
  obtain ⟨task', htask', hrefs⟩ := refs_of_run hrun htask
  have hsound' := sound (reachable_run hreach hrun)
  simp only [Serves, htask', Option.some.injEq, exists_eq_left', acceptsBlockRequest_iff, hrefs]
  constructor
  . rintro ⟨-, hstateId, hhighest⟩
    exact ⟨hid.mp hstateId.symm, hhighest⟩
  . rintro ⟨hregistered, hhighest⟩
    have hstateId := hid.mpr hregistered
    refine ⟨?_, hstateId.symm, hhighest⟩
    -- an exited task is below the highest view
    rw [← Bool.not_eq_false]
    intro hexited
    have hlt := hsound'.exited (List.mem_of_getElem? htask') hexited
    rw [hhighest, ← hstateId, TaskLife.view, hrefs] at hlt
    exact Nat.lt_irrefl _ hlt

end

/--
The builder state of view 1 is requested, the builder state of view 0 is decided, and the request is
taken.
-/
theorem serves_iff_highest :
    ∃ routed served : Lifecycle TestTypes,
      run step testStart [.registerBuilderState 0 (testRefs 1 10)] = some routed ∧
      Routed testStart routed ⟨1, (10 : Nat)⟩ 1 ∧
      run step routed [.broadcastDecide 1, .processDecideEvent 0, .processDecideEvent 1] =
        some served ∧
      served.Serves 1 ⟨1, (10 : Nat)⟩ := by
  have hruns : ∃ routed served : Lifecycle TestTypes,
      run step testStart [.registerBuilderState 0 (testRefs 1 10)] = some routed ∧
      routed.globalState.getChannelForMatchingBuilderOrHighestViewBuilder ⟨1, (10 : Nat)⟩ = .ok 1 ∧
      ⟨1, (10 : Nat)⟩ ∈ routed.globalState.spawnedBuilderStates.keys ∧
      run step routed [.broadcastDecide 1, .processDecideEvent 0, .processDecideEvent 1] =
        some served ∧
      served.globalState.highestViewNumBuilderId.parentView = 1 :=
    ⟨_, _, rfl, rfl, List.mem_cons_of_mem _ (List.mem_singleton_self _), rfl, rfl⟩
  obtain ⟨routed, served, hrouted, hchannel, hregistered, hserved, hhighest⟩ := hruns
  have h : Routed testStart routed ⟨1, (10 : Nat)⟩ 1 := ⟨rfl, ⟨_, hrouted⟩, hchannel⟩
  refine ⟨routed, served, hrouted, h, hserved, ?_⟩
  exact (serves_iff (reachable_of_init isNew_testStart) h hserved).mpr ⟨hregistered, hhighest⟩

/--
Nobody serves a builder state that is not spawned yet, and nobody one that is registered but not of
the highest view.
-/
theorem not_serves :
    ∃ start : Lifecycle TestTypes, Reachable step IsNew start ∧
      Routed start start ⟨3, (30 : Nat)⟩ 1 ∧ ¬ start.Serves 1 ⟨3, (30 : Nat)⟩ ∧
      Routed start start ⟨0, (0 : Nat)⟩ 0 ∧ ¬ start.Serves 0 ⟨0, (0 : Nat)⟩ := by
  have hrun : ∃ start, run step testStart [.registerBuilderState 0 (testRefs 1 10)] = some start ∧
      Routed start start ⟨3, (30 : Nat)⟩ 1 ∧ ¬ start.Serves 1 ⟨3, (30 : Nat)⟩ ∧
      Routed start start ⟨0, (0 : Nat)⟩ 0 ∧ ¬ start.Serves 0 ⟨0, (0 : Nat)⟩ := by
    refine ⟨_, rfl, ⟨rfl, ⟨[], rfl⟩, rfl⟩, ?_, ⟨rfl, ⟨[], rfl⟩, rfl⟩, ?_⟩
    . rintro ⟨task, htask, -, haccepts⟩
      rw [← Option.some.inj htask] at haccepts
      contradiction
    . rintro ⟨task, htask, -, haccepts⟩
      rw [← Option.some.inj htask] at haccepts
      contradiction
  obtain ⟨start, hrun, h⟩ := hrun
  exact ⟨start, ⟨_, _, isNew_testStart, hrun⟩, h⟩

end Lifecycle

end Legacy

end BuilderCore
