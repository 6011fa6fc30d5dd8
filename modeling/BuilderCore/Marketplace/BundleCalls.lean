import BuilderCore.Collections.Slots
import BuilderCore.Marketplace.Bundle

/-!
This module contains what a call of `bundle` answers, whatever the coordinator and the other calls do
in the meantime.
-/

namespace BuilderCore

open Collections Transition

variable {T : NodeType}

namespace Coordinator

/--
A state that is looked up is a node of the forest, under the id that was asked for.
-/
theorem isNode_of_found {period : Nat} {self : Coordinator T}
    (h : Reachable step (IsNew period) self)
    {id : BuilderStateId T} {state : BuilderState T}
    (hfound : self.lookupBuilderState id = .found state) :
    self.forest.IsNode state ∧ state.id = id := by
  unfold lookupBuilderState at hfound
  split at hfound
  . next entry hget =>
    rw [← BuilderStateLookup.found.inj hfound]
    obtain ⟨hstored, hid⟩ := BuilderStateMap.get_eq_some.mp hget
    exact ⟨(storesNodes h).stored entry hstored, hid⟩
  . split at hfound <;> contradiction

theorem isNode_of_step {self self' : Coordinator T} {action : Action T}
    (h : self.step action = some self') {state : BuilderState T}
    (hnode : self.forest.IsNode state) : self'.forest.IsNode state := by
  obtain ⟨actions, hrun⟩ := forest_run_of_step h
  apply run_invariant (P := fun forest => forest.IsNode state) _ hnode hrun
  intro forest action forest' hnode hstep
  exact Forest.isNode_change hnode (Forest.change_of_step hstep)

end Coordinator

variable [ApiTypes T]

namespace Marketplace

/--
Collecting only receives from the channel and inserts into the queue.
-/
theorem coordinator_of_collect {self : GlobalState T} {state : BuilderState T}
    {timeoutAfter now wake : Nat} {phase phase' : CollectPhase} {coordinator : Coordinator T}
    (h : self.collect state timeoutAfter now phase = some (coordinator, wake, phase')) :
    coordinator = self.coordinator ∨
      ∃ request, self.coordinator.handleRequest request = some coordinator := by
  unfold GlobalState.collect at h
  split at h
  . split at h <;> exact .inl (Prod.mk.inj (Option.some.inj h)).1.symm
  . exact .inl (Prod.mk.inj (Option.some.inj h)).1.symm
  . split at h <;> exact .inl (Prod.mk.inj (Option.some.inj h)).1.symm
  . simp only [Option.bind_eq_bind, Option.bind_eq_some_iff] at h
    obtain ⟨coordinator', hrequest, h⟩ := h
    right
    split at h
    . exact ⟨_, (Prod.mk.inj (Option.some.inj h)).1 ▸ hrequest⟩
    . split at h <;> exact ⟨_, (Prod.mk.inj (Option.some.inj h)).1 ▸ hrequest⟩
  . simp only [Option.bind_eq_bind, Option.bind_eq_some_iff] at h
    obtain ⟨coordinator', hrequest, h⟩ := h
    exact .inr ⟨_, (Prod.mk.inj (Option.some.inj h)).1 ▸ hrequest⟩
  . dsimp only at h
    split at h <;> exact .inl (Prod.mk.inj (Option.some.inj h)).1.symm
  . contradiction

namespace Service

/--
What a call collects from is a node, whose id is the one that was asked for.
-/
structure Valid (config : BuilderConfig T) (service : Service T) : Prop where
  apiTimeout : service.globalState.apiTimeout = config.apiTimeout
  reachable : Reachable Coordinator.step (Coordinator.IsNew config.txnGarbageCollectDuration)
    service.globalState.coordinator
  calls : ∀ call ∈ service.calls, ∀ state timeoutAfter phase,
    call.phase = .collecting state timeoutAfter phase →
      service.globalState.coordinator.forest.IsNode state ∧ state.id = call.request.stateId

variable {config : BuilderConfig T}

theorem Valid.coordinator {self : Service T} (h : Valid config self) {coordinator : Coordinator T}
    (hcoordinator : coordinator = self.globalState.coordinator ∨
      ∃ action, self.globalState.coordinator.step action = some coordinator) :
    Valid config { self with globalState := { self.globalState with coordinator } } := by
  rcases hcoordinator with rfl | ⟨action, hstep⟩
  . exact h
  . refine ⟨h.apiTimeout, reachable_step h.reachable hstep, ?_⟩
    intro call hcall state timeoutAfter phase hphase
    obtain ⟨hnode, hid⟩ := h.calls call hcall state timeoutAfter phase hphase
    exact ⟨Coordinator.isNode_of_step hstep hnode, hid⟩

theorem valid_new (config : BuilderConfig T) (now : Nat) : Valid config (new config now) where
  apiTimeout := rfl
  reachable := reachable_of_init ⟨now, rfl⟩
  calls := by simp [new]

/--
The transactions are those in the queue of `state` now, and `state` is one of the block that `request`
wants to build on. Its receiver counts from the first broadcast on.
-/
structure Bundles (period : Nat) (service : Service T) (request : BundleRequest T)
    (state : BuilderState T) (transactions : List T.Transaction) : Prop where
  isNode : service.globalState.coordinator.forest.IsNode state
  id_eq : state.id = request.stateId
  collected : transactions = collectTransactions (service.globalState.locks state).txnQueue
  distinct : (transactions.map T.commit).Nodup
  received : transactions.Sublist ((service.globalState.coordinator.forest.sent.take
    (service.globalState.locks state).txnReceiver).map (·.transaction))
  notIncluded : ∀ ancestor,
    (service.globalState.coordinator.forest.nodes state.addr).IsRecent period ancestor →
      ∀ txn ∈ transactions, T.commit txn ∉ ancestor.block

theorem bundles_of_isNode {self : Service T} (h : Valid config self) {state : BuilderState T}
    (hnode : self.globalState.coordinator.forest.IsNode state) {request : BundleRequest T}
    (hid : state.id = request.stateId) :
    Bundles config.txnGarbageCollectDuration self request state
      (collectTransactions (self.globalState.locks state).txnQueue) := by
  have hforest := Coordinator.forest_reachable h.reachable
  have hqueue := Forest.queueInvariant hforest hnode.1
  refine ⟨hnode, hid, rfl, ?_, ?_, ?_⟩
  . have hcommits : (collectTransactions (self.globalState.locks state).txnQueue).map T.commit =
        (self.globalState.locks state).txnQueue.transactions.map (·.commit) := by
      rw [collectTransactions, List.map_map]
      apply List.map_congr_left
      intro txn _
      exact txn.commit_eq.symm
    rw [hcommits]
    exact hqueue.wellFormed.nodup
  . have hsublist := (Locks.queue_sublist_held _).trans hqueue.received
    exact hsublist.map _
  . intro ancestor hancestor txn htxn
    exact Forest.bundle_not_recent hforest hnode.1 htxn hancestor

end Service

variable [BundleTypes T]

inductive Advances (self : GlobalState T) (call : BundleCall T) (now : Nat) :
    Coordinator T → BundleCall T → Prop where
  | refuse (hphase : call.phase = .checking) (hlate : self.apiTimeout < now - call.start) :
      Advances self call now self.coordinator { call with phase := .done (.error .notFound) }
  | check (hphase : call.phase = .checking) (hearly : now - call.start ≤ self.apiTimeout) :
      Advances self call now self.coordinator { call with phase := .lookingUp }
  | find (state : BuilderState T) (hphase : call.phase = .lookingUp)
      (hfound : self.coordinator.lookupBuilderState call.request.stateId = .found state) :
      Advances self call now self.coordinator
        { call with phase := .collecting state (now + self.txCaptureTimeout) .capturing }
  | sleep (hphase : call.phase = .lookingUp) :
      Advances self call now self.coordinator
        { call with wake := now + self.apiTimeout / 10, phase := .checking }
  | decided (hphase : call.phase = .lookingUp)
      (hdecided : self.coordinator.lookupBuilderState call.request.stateId = .decided) :
      Advances self call now self.coordinator
        { call with phase := .done (.error (.error decidedMessage)) }
  | read (state : BuilderState T) (timeoutAfter : Nat)
      (hphase : call.phase = .collecting state timeoutAfter .reading) :
      Advances self call now self.coordinator { call with
        phase := .done (self.assembleBundle (collectTransactions (self.locks state).txnQueue)
          call.request.viewNumber) }
  | collect (state : BuilderState T) (timeoutAfter wake : Nat) (phase phase' : CollectPhase)
      (coordinator : Coordinator T) (hphase : call.phase = .collecting state timeoutAfter phase)
      (hcollect : self.collect state timeoutAfter now phase = some (coordinator, wake, phase')) :
      Advances self call now coordinator
        { call with wake, phase := .collecting state timeoutAfter phase' }

theorem advances_of_advance {self : GlobalState T} {call call' : BundleCall T} {now : Nat}
    {coordinator : Coordinator T} (h : self.advance call now = some (coordinator, call')) :
    Advances self call now coordinator call' := by
  unfold GlobalState.advance at h
  split at h
  . next hphase =>
    split at h
    . next hlate =>
      obtain ⟨rfl, rfl⟩ := Prod.mk.inj (Option.some.inj h)
      exact .refuse hphase hlate
    . next hearly =>
      obtain ⟨rfl, rfl⟩ := Prod.mk.inj (Option.some.inj h)
      exact .check hphase (Nat.not_lt.mp hearly)
  . next hphase =>
    split at h
    . next state hfound =>
      obtain ⟨rfl, rfl⟩ := Prod.mk.inj (Option.some.inj h)
      exact .find state hphase hfound
    . obtain ⟨rfl, rfl⟩ := Prod.mk.inj (Option.some.inj h)
      exact .sleep hphase
    . next hdecided =>
      obtain ⟨rfl, rfl⟩ := Prod.mk.inj (Option.some.inj h)
      exact .decided hphase hdecided
  . next state timeoutAfter hphase =>
    obtain ⟨rfl, rfl⟩ := Prod.mk.inj (Option.some.inj h)
    exact .read state timeoutAfter hphase
  . next state timeoutAfter phase _ hphase =>
    simp only [Option.bind_eq_bind, Option.bind_eq_some_iff, Prod.exists] at h
    obtain ⟨coordinator', wake, phase', hcollect, h⟩ := h
    obtain ⟨rfl, rfl⟩ := Prod.mk.inj (Option.some.inj h)
    exact .collect state timeoutAfter wake phase phase' coordinator' hphase hcollect
  . contradiction

theorem coordinator_of_advances {self : GlobalState T} {call call' : BundleCall T} {now : Nat}
    {coordinator : Coordinator T} (h : Advances self call now coordinator call') :
    coordinator = self.coordinator ∨
      ∃ request, self.coordinator.handleRequest request = some coordinator := by
  cases h with
  | collect state timeoutAfter wake phase phase' coordinator hphase hcollect =>
    exact coordinator_of_collect hcollect
  | _ => exact .inl rfl

namespace Service

inductive Change (self : Service T) : Action T → Service T → Prop where
  | bundle (request : BundleRequest T) (now : Nat) (hclock : self.clock ≤ now) :
      Change self (.bundle request now)
        { self with clock := now, calls := self.calls ++ [⟨request, now, now, .checking⟩] }
  | advance (i now : Nat) (call call' : BundleCall T) (coordinator : Coordinator T)
      (hcall : self.calls[i]? = some call) (hclock : self.clock ≤ now) (hwake : call.wake ≤ now)
      (hadvances : Advances self.globalState call now coordinator call') :
      Change self (.advance i now)
        ⟨{ self.globalState with coordinator }, now, self.calls.set i call'⟩
  | coordinate (action : Coordinator.Action T) (coordinator : Coordinator T)
      (hrequest : ∀ request, action ≠ .request request)
      (hstep : self.globalState.coordinator.step action = some coordinator) :
      Change self (.coordinate action)
        { self with globalState := { self.globalState with coordinator } }

theorem change_of_step {self self' : Service T} {action : Action T}
    (h : self.step action = some self') : Change self action self' := by
  unfold step at h
  split at h
  . next request now =>
    simp only [Option.ite_none_right_eq_some, Option.some.injEq] at h
    rw [← h.2]
    exact .bundle request now h.1
  . next i now =>
    simp only [Option.bind_eq_bind, Option.bind_eq_some_iff, Option.guard_eq_some', exists_const,
      Option.pure_def, Option.some.injEq, Prod.exists] at h
    obtain ⟨call, hcall, ⟨hclock, hwake⟩, coordinator, call', hadvance, rfl⟩ := h
    exact .advance i now call call' coordinator hcall hclock hwake (advances_of_advance hadvance)
  . contradiction
  . next action hrequest =>
    simp only [Option.bind_eq_bind, Option.bind_eq_some_iff, Option.pure_def,
      Option.some.injEq] at h
    obtain ⟨coordinator, hstep, rfl⟩ := h
    exact .coordinate action coordinator (fun request heq => hrequest request (by rw [heq])) hstep

variable {config : BuilderConfig T}

theorem valid_step {self self' : Service T} {action : Action T} (h : Valid config self)
    (hstep : self.step action = some self') : Valid config self' := by
  cases change_of_step hstep with
  | bundle request now hclock =>
    refine ⟨h.apiTimeout, h.reachable, ?_⟩
    intro call hcall state timeoutAfter phase hphase
    rcases List.mem_append.mp hcall with hcall | hcall
    . exact h.calls call hcall state timeoutAfter phase hphase
    . rw [List.mem_singleton.mp hcall] at hphase
      contradiction
  | advance i now call call' coordinator hcall hclock hwake hadvances =>
    have hcoordinator : Valid config
        { self with globalState := { self.globalState with coordinator } } := by
      apply h.coordinator
      rcases coordinator_of_advances hadvances with hsame | ⟨request, hrequest⟩
      . exact .inl hsame
      . exact .inr ⟨.request request, hrequest⟩
    refine ⟨h.apiTimeout, hcoordinator.reachable, ?_⟩
    intro call'' hcall'' state timeoutAfter phase hphase
    rcases List.mem_or_eq_of_mem_set hcall'' with hmem | rfl
    . exact hcoordinator.calls call'' hmem state timeoutAfter phase hphase
    . have hmem : call ∈ self.calls := List.mem_of_getElem? hcall
      cases hadvances with
      | find state' _ hfound =>
        obtain ⟨rfl, -, -⟩ := Phase.collecting.inj hphase
        exact Coordinator.isNode_of_found h.reachable hfound
      | collect state' timeoutAfter' wake phase₁ phase₂ coordinator hphase' hcollect =>
        obtain ⟨rfl, -, -⟩ := Phase.collecting.inj hphase
        exact hcoordinator.calls call hmem _ _ _ hphase'
      | _ => contradiction
  | coordinate action coordinator hrequest hcoordinate =>
    exact h.coordinator (.inr ⟨action, hcoordinate⟩)

/--
The answers that the call `call` can get at the time `now`.
-/
inductive Answers (config : BuilderConfig T) (self : Service T) (call : BundleCall T) (now : Nat) :
    Except BuildError (Bundle T) → Prop where
  | timedOut (hlate : call.start + config.apiTimeout < now) :
      Answers config self call now (.error .notFound)
  | decided (hdecided : self.globalState.coordinator.lookupBuilderState call.request.stateId =
        .decided) :
      Answers config self call now (.error (.error decidedMessage))
  | bundle (state : BuilderState T) (timeoutAfter : Nat) (transactions : List T.Transaction)
      (hphase : call.phase = .collecting state timeoutAfter .reading)
      (hbundles : Bundles config.txnGarbageCollectDuration self call.request state transactions) :
      Answers config self call now
        (self.globalState.assembleBundle transactions call.request.viewNumber)

theorem answers_of_advances {self : Service T} (h : Valid config self) {call call' : BundleCall T}
    (hmem : call ∈ self.calls) {now : Nat} {coordinator : Coordinator T}
    (hadvances : Advances self.globalState call now coordinator call')
    {result : Except BuildError (Bundle T)} (hdone : call'.phase = .done result) :
    Answers config self call now result := by
  cases hadvances with
  | refuse hphase hlate =>
    rw [← Phase.done.inj hdone]
    rw [h.apiTimeout] at hlate
    exact .timedOut (by omega)
  | decided hphase hdecided =>
    rw [← Phase.done.inj hdone]
    exact .decided hdecided
  | read state timeoutAfter hphase =>
    rw [← Phase.done.inj hdone]
    obtain ⟨hnode, hid⟩ := h.calls call hmem _ _ _ hphase
    exact .bundle state timeoutAfter _ hphase (bundles_of_isNode h hnode hid)
  | _ => contradiction

/--
A turn of the call `i` that makes `Q` hold of it.
-/
def Turned (Q : BundleCall T → Prop) (i : Nat) (self : Service T) (action : Action T) : Prop :=
  ∃ now call call' coordinator, action = .advance i now ∧ self.calls[i]? = some call ∧
    Advances self.globalState call now coordinator call' ∧ ¬ Q call ∧ Q call'

theorem turned_of_step {Q : BundleCall T → Prop}
    (hnew : ∀ request now, ¬ Q ⟨request, now, now, .checking⟩) {self self' : Service T}
    {action : Action T} (hstep : self.step action = some self') {i : Nat}
    (hbefore : ¬ ∃ call, self.calls[i]? = some call ∧ Q call)
    (hafter : ∃ call, self'.calls[i]? = some call ∧ Q call) : Turned Q i self action := by
  obtain ⟨call', hcall', hQ⟩ := hafter
  cases change_of_step hstep with
  | bundle request now hclock =>
    rw [List.getElem?_append] at hcall'
    split at hcall'
    . exact absurd ⟨call', hcall', hQ⟩ hbefore
    . rw [List.mem_singleton.mp (List.mem_of_getElem? hcall')] at hQ
      exact absurd hQ (hnew request now)
  | advance j now call call'' coordinator hcall hclock hwake hadvances =>
    rcases of_getElem?_set hcall hcall' with ⟨rfl, rfl⟩ | hsame
    . exact ⟨now, call, call', coordinator, rfl, hcall, hadvances,
        fun hQ => hbefore ⟨call, hcall, hQ⟩, hQ⟩
    . exact absurd ⟨call', hsame, hQ⟩ hbefore
  | coordinate action coordinator hrequest hcoordinate => exact absurd ⟨call', hcall', hQ⟩ hbefore

theorem turned_of_run {Q : BundleCall T → Prop}
    (hnew : ∀ request now, ¬ Q ⟨request, now, now, .checking⟩) {now : Nat}
    {actions : List (Action T)} {self : Service T}
    (hrun : run step (new config now) actions = some self) {i : Nat} {call : BundleCall T}
    (hcall : self.calls[i]? = some call) (hQ : Q call) :
    ∃ before action after between, actions = before ++ action :: after ∧
      run step (new config now) before = some between ∧ Valid config between ∧
      Turned Q i between action := by
  have hempty : ¬ ∃ call, (new config now).calls[i]? = some call ∧ Q call := by simp [new]
  have hturn : ∀ self action self', Valid config self →
      (¬ ∃ call, self.calls[i]? = some call ∧ Q call) → self.step action = some self' →
        (¬ ∃ call, self'.calls[i]? = some call ∧ Q call) ∨
          Valid config self ∧ Turned Q i self action := by
    intro self action self' hvalid hbefore hstep
    by_cases hafter : ∃ call, self'.calls[i]? = some call ∧ Q call
    . exact .inr ⟨hvalid, turned_of_step hnew hstep hbefore hafter⟩
    . exact .inl hafter
  rcases run_or_exists_break (fun _ _ _ => valid_step) hturn (valid_new config now) hempty hrun with
    hnot | ⟨before, action, after, between, hactions, hbefore, -, hvalid, hturned⟩
  . exact absurd ⟨call, hcall, hQ⟩ hnot
  . exact ⟨before, action, after, between, hactions, hbefore, hvalid, hturned⟩

/--
The call `i` has looked for its builder state in the run, and found `state` in the coordinator.
-/
def Finds (config : BuilderConfig T) (now : Nat) (actions : List (Action T)) (i : Nat)
    (state : BuilderState T) : Prop :=
  ∃ before now' after between call, actions = before ++ .advance i now' :: after ∧
    run step (new config now) before = some between ∧ between.calls[i]? = some call ∧
    call.phase = .lookingUp ∧
    between.globalState.coordinator.lookupBuilderState state.id = .found state

/--
A call collects only from the state that it has found.
-/
theorem finds_of_run {now : Nat} {actions : List (Action T)} {self : Service T}
    (hrun : run step (new config now) actions = some self) {i : Nat} {call : BundleCall T}
    (hcall : self.calls[i]? = some call) {state : BuilderState T} {timeoutAfter : Nat}
    {phase : CollectPhase} (hphase : call.phase = .collecting state timeoutAfter phase) :
    Finds config now actions i state := by
  obtain ⟨before, action, after, between, rfl, hbefore, hvalid, now', call₁, call₂, coordinator, rfl,
    hcall₁, hadvances, hnot, timeoutAfter', phase', hphase'⟩ := turned_of_run (Q := fun call =>
      ∃ timeoutAfter phase, call.phase = .collecting state timeoutAfter phase) (by simp) hrun hcall
      ⟨timeoutAfter, phase, hphase⟩
  cases hadvances with
  | find state' hlookingUp hfound =>
    obtain ⟨rfl, -, -⟩ := Phase.collecting.inj hphase'
    have hid := (Coordinator.isNode_of_found hvalid.reachable hfound).2
    exact ⟨before, now', after, between, call₁, rfl, hbefore, hcall₁, hlookingUp, hid ▸ hfound⟩
  | collect state' timeoutAfter₁ wake phase₁ phase₂ coordinator hcollecting hcollect =>
    obtain ⟨rfl, -, -⟩ := Phase.collecting.inj hphase'
    exact absurd ⟨_, _, hcollecting⟩ hnot
  | _ => contradiction

/--
Whatever the coordinator and the other calls do in the meantime: a call is answered with `NotFound` only
when its time is over, as decided only when its state is, and else with a bundle of what is in the queue
of the state that it has found. These transactions are in none of the recent blocks below the state,
each is there once, and the receiver of the state has passed them all, in this order.
-/
theorem bundle_answered {now : Nat} {actions : List (Action T)} {self : Service T}
    (hrun : run step (new config now) actions = some self) {i : Nat} {call : BundleCall T}
    (hcall : self.calls[i]? = some call) {result : Except BuildError (Bundle T)}
    (hdone : call.phase = .done result) :
    ∃ before now' after between call', actions = before ++ .advance i now' :: after ∧
      run step (new config now) before = some between ∧ between.calls[i]? = some call' ∧
      Answers config between call' now' result ∧
      ∀ state timeoutAfter phase, call'.phase = .collecting state timeoutAfter phase →
        Finds config now before i state := by
  obtain ⟨before, action, after, between, rfl, hbefore, hvalid, now', call₁, call₂, coordinator, rfl,
    hcall₁, hadvances, -, hdone'⟩ := turned_of_run (Q := fun call => call.phase = .done result)
      (by simp) hrun hcall hdone
  exact ⟨before, now', after, between, call₁, rfl, hbefore, hcall₁,
    answers_of_advances hvalid (List.mem_of_getElem? hcall₁) hadvances hdone',
    fun _ _ _ hphase => finds_of_run hbefore hcall₁ hphase⟩

def testConfig : BuilderConfig TestTypes where
  builderKeys := ⟨(7 : Nat), (7 : Nat)⟩
  apiTimeout := 100
  txCaptureTimeout := 10
  txnGarbageCollectDuration := 10
  baseFee := 3

/--
The call 0 receives the transactions 5 and 6 for the bootstrap state. The state for the call 1 is never
created.
-/
def testCalls : List (Action TestTypes) := [
  .bundle ⟨0, (0 : Nat), 1⟩ 0,
  .bundle ⟨1, (10 : Nat), 2⟩ 0,
  .coordinate (.transaction (TestTypes.txn 5) (.ok none)),
  .advance 0 0, .advance 0 1, .advance 0 1, .advance 0 1, .advance 0 2,
  .advance 1 2, .advance 1 3,
  .coordinate (.transaction (TestTypes.txn 6) (.ok none)),
  .advance 0 3, .advance 0 3, .advance 0 4, .advance 0 4, .advance 0 4, .advance 0 5, .advance 0 5,
  .advance 0 11,
  .advance 1 13, .advance 1 14,
  .advance 0 15,
  .advance 1 101]

theorem bundle_answered_testCalls : ∃ self call result,
    run step (new testConfig 0) testCalls = some self ∧ self.calls[0]? = some call ∧
      call.phase = .done result ∧
      (result.toOption.map (·.transactions)) = some [(5 : Nat), (6 : Nat)] ∧
      ∃ before now' after between call', testCalls = before ++ .advance 0 now' :: after ∧
        run step (new testConfig 0) before = some between ∧ between.calls[0]? = some call' ∧
        Answers testConfig between call' now' result ∧
        ∀ state timeoutAfter phase, call'.phase = .collecting state timeoutAfter phase →
          Finds testConfig 0 before 0 state :=
  have hrun : run step (new testConfig 0) testCalls = some _ := rfl
  ⟨_, _, _, hrun, rfl, rfl, rfl, bundle_answered hrun rfl rfl⟩

end Service

end Marketplace

end BuilderCore
