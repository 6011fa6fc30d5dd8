import BuilderCore.Collections.Slots
import BuilderCore.Marketplace.BundleCalls
import BuilderCore.Shared.Coordinator.Progress

/-!
This module contains who holds the receivers of the builder states, and that neither a call of `bundle`
nor the task that spawns a builder state waits for one forever.
-/

namespace BuilderCore

open Collections Transition

variable {T : NodeType}

namespace Coordinator

/--
Only requests take messages out of a receiver. That of a new state is free.
-/
theorem receiverGuard_of_step {self self' : Coordinator T} {action : Action T}
    (hrequest : ∀ request, action ≠ .request request) (hstep : self.step action = some self')
    {addr : Nat} (hlt : addr < self'.forest.size) :
    (self'.forest.locks addr).receiverGuard =
      if addr < self.forest.size then (self.forest.locks addr).receiverGuard else none := by
  cases change_of_step hstep with
  | extend _ _ _ _ _ _ forest _ _ hforest =>
    obtain ⟨-, -, rfl⟩ := Forest.step_newChild_eq_some.mp hforest
    exact (if_pos hlt).symm
  | cloneQueue _ forest _ hforest =>
    obtain ⟨_, _, -, -, rfl⟩ := Forest.step_cloneQueue_eq_some.mp hforest
    exact (if_pos hlt).symm
  | cloneReceiver now _ forest _ hforest =>
    obtain ⟨-, newChild, child, locks, -, hreceiver, rfl⟩ :=
      Forest.step_cloneReceiver_eq_some.mp hforest
    obtain ⟨-, -, _, -, rfl⟩ := NewChild.cloneReceiver_eq_some.mp hreceiver
    rw [Forest.locks, Forest.setCall_nodes]
    split
    . next hold => rw [Forest.addChild_nodes_of_lt _ _ _ _ _ hold, Forest.locks]
    . next hnew =>
      have hchild : addr = self.forest.size :=
        Nat.eq_of_lt_succ_of_not_lt hlt hnew
      rw [hchild, Forest.addChild_nodes_self]
  | request request => exact absurd rfl (hrequest request)
  | _ => exact (if_pos hlt).symm

theorem handleRequest_eq_some {self self' : Coordinator T} {request : Request} :
    self.handleRequest request = some self' ↔
      ∃ forest, self.forest.step request.action = some forest ∧ self' = { self with forest } := by
  simp only [handleRequest, Option.bind_eq_bind, Option.bind_eq_some_iff, Option.pure_def,
    Option.some.injEq, @eq_comm _ _ self']

theorem stepsLeft_le (self : Coordinator T) : self.stepsLeft ≤ 6 := by
  cases hguard : self.proposalsGuard with
  | extending quorumProposal => exact Nat.le_succ_of_le (stepsLeft_le_of_extending hguard)
  | _ => simp [stepsLeft, hguard]

end Coordinator

namespace Forest

theorem step_tryRecv_eq_some {forest forest' : Forest T} {addr : Nat} :
    forest.step (.tryRecv addr) = some forest' ↔ addr < forest.size ∧ ∃ locks,
      (forest.locks addr).tryRecv forest.sent (forest.nodes addr).state.includedTxns = some locks ∧
        forest' = forest.setLocks addr locks := by
  simp only [step, Option.bind_eq_bind, Option.bind_eq_some_iff, Option.guard_eq_some',
    exists_const, Option.pure_def, Option.some.injEq, @eq_comm _ _ forest']

theorem step_insert_eq_some {forest forest' : Forest T} {addr : Nat} :
    forest.step (.insert addr) = some forest' ↔ addr < forest.size ∧ ∃ locks,
      (forest.locks addr).insertReceived = some locks ∧
        forest' = forest.setLocks addr locks := by
  simp only [step, Option.bind_eq_bind, Option.bind_eq_some_iff, Option.guard_eq_some',
    exists_const, Option.pure_def, Option.some.injEq, @eq_comm _ _ forest']

theorem locks_setLocks (forest : Forest T) (addr addr' : Nat) (locks : Locks T) :
    (forest.setLocks addr locks).locks addr' = if addr' = addr then locks else forest.locks addr' := by
  split
  . next h => rw [h, Forest.locks, setLocks_nodes_self]
  . next h => rw [Forest.locks, setLocks_nodes_of_ne forest locks h, Forest.locks]

end Forest

namespace Locks

theorem exists_tryRecv {locks : Locks T} (hfree : locks.receiverGuard = none)
    (sent : List (ReceivedTransaction T)) (includedTxns : RotatingSet T.TxnCommitment) :
    ∃ locks', locks.tryRecv sent includedTxns = some locks' := by
  unfold tryRecv
  rw [hfree]
  dsimp only
  split
  . exact ⟨_, rfl⟩
  . split <;> exact ⟨_, rfl⟩

/--
The receiver stays locked exactly when there is a message to insert.
-/
theorem receiverGuard_of_tryRecv {locks locks' : Locks T} {sent : List (ReceivedTransaction T)}
    {includedTxns : RotatingSet T.TxnCommitment}
    (h : locks.tryRecv sent includedTxns = some locks') :
    locks.receiverGuard = none ∧ locks'.receiverGuard =
      (locks.unread sent).head?.filter fun txn => !includedTxns.contains txn.commit := by
  unfold tryRecv at h
  rw [unread, List.head?_drop]
  split at h
  . contradiction
  . next hfree =>
    refine ⟨hfree, ?_⟩
    split at h
    . next hnext =>
      rw [← Option.some.inj h, hnext, hfree]
      rfl
    . next txn hnext =>
      rw [hnext]
      split at h
      . next hincluded =>
        rw [← Option.some.inj h, Option.filter_some_neg (by simp [hincluded])]
        exact hfree
      . next hincluded =>
        rw [← Option.some.inj h, Option.filter_some_pos (by simp [hincluded])]

theorem insertReceived_eq_some {locks locks' : Locks T} (h : locks.insertReceived = some locks') :
    locks.receiverGuard.isSome = true ∧ locks'.receiverGuard = none := by
  unfold insertReceived at h
  split at h
  . contradiction
  . next txn htxn =>
    rw [← Option.some.inj h, htxn]
    exact ⟨rfl, rfl⟩

end Locks

namespace Marketplace

def CollectPhase.inserts (self : CollectPhase) : Bool :=
  match self with
  | .inserting => true
  | _ => false

def held (forest : Forest T) (addr : Nat) : Nat :=
  (forest.locks addr).receiverGuard.isSome.toNat

/--
What a call takes and gives back is the receiver of the one state that it collects from.
-/
structure Moves (state : BuilderState T) (forest forest' : Forest T) (phase phase' : CollectPhase) :
    Prop where
  size : forest'.size = forest.size
  other : ∀ addr, addr ≠ state.addr → held forest' addr = held forest addr
  self : held forest' state.addr + phase.inserts.toNat =
    held forest state.addr + phase'.inserts.toNat

theorem moves_setLocks {state : BuilderState T} {phase phase' : CollectPhase} {forest : Forest T}
    {locks : Locks T}
    (hself : locks.receiverGuard.isSome.toNat + phase.inserts.toNat =
      held forest state.addr + phase'.inserts.toNat) :
    Moves state forest (forest.setLocks state.addr locks) phase phase' where
  size := rfl
  other := by
    intro addr hne
    rw [held, Forest.locks_setLocks, if_neg hne, held]
  self := by
    rw [held, Forest.locks_setLocks, if_pos rfl]
    exact hself

variable [ApiTypes T]

/--
The call holds the receiver of the builder state.
-/
def Phase.insertsAt (addr : Nat) (self : Phase T) : Bool :=
  match self with
  | .collecting state _ phase => state.addr = addr ∧ phase.inserts
  | .checking | .lookingUp | .done _ => false

theorem insertsAt_collecting {state : BuilderState T} {timeoutAfter : Nat} {phase : CollectPhase}
    {addr : Nat} : (Phase.collecting state timeoutAfter phase).insertsAt addr =
      (decide (state.addr = addr) && phase.inserts) := by
  simp [Phase.insertsAt]

section

variable {self : GlobalState T} {state : BuilderState T} {timeoutAfter now wake : Nat}
  {phase phase' : CollectPhase} {coordinator : Coordinator T}

theorem moves_of_receiving {queueEmpty : Bool} (hnode : self.coordinator.forest.IsNode state)
    (h : self.collect state timeoutAfter now (.receiving queueEmpty) =
      some (coordinator, wake, phase')) :
    Moves state self.coordinator.forest coordinator.forest (.receiving queueEmpty) phase' := by
  simp only [GlobalState.collect, Option.bind_eq_bind, Option.bind_eq_some_iff] at h
  obtain ⟨coordinator', hrequest, h⟩ := h
  obtain ⟨forest, hforest, rfl⟩ := Coordinator.handleRequest_eq_some.mp hrequest
  obtain ⟨-, locks, hlocks, rfl⟩ := Forest.step_tryRecv_eq_some.mp hforest
  obtain ⟨hfree, hguard⟩ := Locks.receiverGuard_of_tryRecv hlocks
  rw [hnode.2] at hguard
  have hheld : held self.coordinator.forest state.addr = 0 := by simp [held, hfree]
  have hunread : (self.coordinator.forest.locks state.addr).unread self.coordinator.forest.sent =
      (self.locks state).unread self.coordinator.forest.sent := rfl
  rw [hunread] at hguard
  split at h
  . next hnil =>
    obtain ⟨rfl, -, rfl⟩ : _ = coordinator ∧ _ = wake ∧ _ = phase' := by simpa using h
    apply moves_setLocks
    rw [hheld, hguard, hnil]
    rfl
  . next txn rest hcons =>
    rw [hcons, List.head?_cons] at hguard
    split at h
    . next hincluded =>
      obtain ⟨rfl, -, rfl⟩ : _ = coordinator ∧ _ = wake ∧ _ = phase' := by simpa using h
      apply moves_setLocks
      rw [hheld, hguard]
      simp [hincluded, CollectPhase.inserts]
    . next hincluded =>
      obtain ⟨rfl, -, rfl⟩ : _ = coordinator ∧ _ = wake ∧ _ = phase' := by simpa using h
      apply moves_setLocks
      rw [hheld, hguard]
      simp [hincluded, CollectPhase.inserts]

theorem moves_of_inserting
    (h : self.collect state timeoutAfter now .inserting = some (coordinator, wake, phase')) :
    Moves state self.coordinator.forest coordinator.forest .inserting phase' := by
  simp only [GlobalState.collect, Option.bind_eq_bind, Option.bind_eq_some_iff] at h
  obtain ⟨coordinator', hrequest, h⟩ := h
  obtain ⟨forest, hforest, rfl⟩ := Coordinator.handleRequest_eq_some.mp hrequest
  obtain ⟨-, locks, hlocks, rfl⟩ := Forest.step_insert_eq_some.mp hforest
  obtain ⟨hsome, hnone⟩ := Locks.insertReceived_eq_some hlocks
  obtain ⟨rfl, -, rfl⟩ : _ = coordinator ∧ _ = wake ∧ _ = phase' := by simpa using h
  apply moves_setLocks
  simp [held, hsome, hnone, CollectPhase.inserts]

theorem moves_of_collect (hnode : self.coordinator.forest.IsNode state)
    (h : self.collect state timeoutAfter now phase = some (coordinator, wake, phase')) :
    Moves state self.coordinator.forest coordinator.forest phase phase' := by
  have hidle : coordinator = self.coordinator → phase.inserts = false → phase'.inserts = false →
      Moves state self.coordinator.forest coordinator.forest phase phase' := by
    rintro rfl hphase hphase'
    exact ⟨rfl, fun _ _ => rfl, by rw [hphase, hphase']⟩
  cases phase with
  | receiving queueEmpty => exact moves_of_receiving hnode h
  | inserting => exact moves_of_inserting h
  | reading => contradiction
  | measuring =>
    obtain ⟨rfl, -, rfl⟩ : _ = coordinator ∧ _ = wake ∧ _ = phase' := by
      simpa [GlobalState.collect] using h
    exact hidle rfl rfl rfl
  | _ =>
    simp only [GlobalState.collect] at h
    split at h
    all_goals
      obtain ⟨rfl, -, rfl⟩ : _ = coordinator ∧ _ = wake ∧ _ = phase' := by simpa using h
      exact hidle rfl rfl rfl

end

theorem insertsAt_eq_false {phase : Phase T} {addr : Nat}
    (h : ∀ state timeoutAfter, phase ≠ .collecting state timeoutAfter .inserting) :
    phase.insertsAt addr = false := by
  cases phase with
  | collecting state timeoutAfter phase =>
    cases phase with
    | inserting => exact absurd rfl (h state timeoutAfter)
    | _ => simp [insertsAt_collecting, CollectPhase.inserts]
  | _ => rfl

theorem Moves.held_add {state : BuilderState T} {forest forest' : Forest T}
    {phase phase' : CollectPhase} (h : Moves state forest forest' phase phase')
    (timeoutAfter addr : Nat) :
    held forest' addr + ((Phase.collecting state timeoutAfter phase).insertsAt addr).toNat =
      held forest addr + ((Phase.collecting state timeoutAfter phase').insertsAt addr).toNat := by
  rw [insertsAt_collecting, insertsAt_collecting]
  by_cases haddr : state.addr = addr
  . subst haddr
    simpa using h.self
  . have hother := h.other addr (Ne.symm haddr)
    simpa [haddr] using hother

/--
How many steps a call still takes at most, once its time is over.
-/
def CollectPhase.stepsLeft (self : CollectPhase) : Nat :=
  match self with
  | .reading => 1
  | .capturing | .deciding _ => 2
  | .polling _ => 3
  | .measuring | .inserting => 4
  | .receiving _ => 5

def Phase.stepsLeft (self : Phase T) : Nat :=
  match self with
  | .done _ => 0
  | .checking => 1
  | .collecting _ _ phase => phase.stepsLeft
  | .lookingUp => 6

theorem exists_collect {self : GlobalState T} {state : BuilderState T} {timeoutAfter now : Nat}
    {phase : CollectPhase} (hnode : self.coordinator.forest.IsNode state)
    (hlate : timeoutAfter < now) (hreading : phase ≠ .reading)
    (hreceiving : ∀ queueEmpty, phase = .receiving queueEmpty →
      (self.locks state).receiverGuard = none)
    (hinserting : phase = .inserting → (self.locks state).receiverGuard.isSome = true) :
    ∃ coordinator wake phase', self.collect state timeoutAfter now phase =
      some (coordinator, wake, phase') ∧ phase'.stepsLeft < phase.stepsLeft := by
  have hnot : ¬ now ≤ timeoutAfter := Nat.not_le.mpr hlate
  cases phase with
  | capturing => exact ⟨_, _, .reading, if_neg hnot, by decide⟩
  | measuring => exact ⟨_, _, _, rfl, Nat.lt_succ_self 3⟩
  | polling queueEmpty => exact ⟨_, _, .deciding queueEmpty, if_neg hnot, Nat.lt_succ_self 2⟩
  | receiving queueEmpty =>
    obtain ⟨locks, hlocks⟩ := Locks.exists_tryRecv (hreceiving queueEmpty rfl)
      self.coordinator.forest.sent (self.coordinator.forest.nodes state.addr).state.includedTxns
    have hrequest : self.coordinator.handleRequest (.tryRecv state.addr) = some _ :=
      Coordinator.handleRequest_eq_some.mpr
        ⟨_, Forest.step_tryRecv_eq_some.mpr ⟨hnode.1, locks, hlocks, rfl⟩, rfl⟩
    simp only [GlobalState.collect, hrequest, Option.bind_eq_bind, Option.bind_some]
    split
    . exact ⟨_, _, .deciding queueEmpty, rfl, by simp [CollectPhase.stepsLeft]⟩
    . split
      . exact ⟨_, _, .polling queueEmpty, rfl, by simp [CollectPhase.stepsLeft]⟩
      . exact ⟨_, _, .inserting, rfl, by simp [CollectPhase.stepsLeft]⟩
  | inserting =>
    obtain ⟨txn, htxn⟩ := Option.isSome_iff_exists.mp (hinserting rfl)
    obtain ⟨locks, hlocks⟩ : ∃ locks, (self.coordinator.forest.locks state.addr).insertReceived =
        some locks := by
      have htxn : (self.coordinator.forest.locks state.addr).receiverGuard = some txn := htxn
      simp [Locks.insertReceived, htxn]
    have hrequest : self.coordinator.handleRequest (.insert state.addr) = some _ :=
      Coordinator.handleRequest_eq_some.mpr
        ⟨_, Forest.step_insert_eq_some.mpr ⟨hnode.1, locks, hlocks, rfl⟩, rfl⟩
    simp only [GlobalState.collect, hrequest, Option.bind_eq_bind, Option.bind_some]
    exact ⟨_, _, .polling false, rfl, by simp [CollectPhase.stepsLeft]⟩
  | deciding queueEmpty =>
    refine ⟨_, _, .reading, if_pos (.inr ?_), Nat.lt_succ_self 1⟩
    omega
  | reading => exact absurd rfl hreading

namespace Service

/--
A receiver is held by the one call that inserts its message, or by nobody.
-/
def Owned (service : Service T) : Prop :=
  ∀ addr < service.globalState.coordinator.forest.size,
    service.calls.countP (fun call => call.phase.insertsAt addr) =
      held service.globalState.coordinator.forest addr

variable {config : BuilderConfig T} {self self' : Service T}

theorem countP_eq_zero (hvalid : Valid config self) {addr : Nat}
    (hge : self.globalState.coordinator.forest.size ≤ addr) :
    self.calls.countP (fun call => call.phase.insertsAt addr) = 0 := by
  rw [List.countP_eq_zero]
  intro call hcall hinserts
  cases hphase : call.phase with
  | collecting state timeoutAfter phase =>
    obtain ⟨⟨hlt, -⟩, -⟩ := hvalid.calls call hcall _ _ _ hphase
    rw [hphase, insertsAt_collecting, Bool.and_eq_true, decide_eq_true_eq] at hinserts
    omega
  | _ => simp [hphase, Phase.insertsAt] at hinserts

theorem owned_new (config : BuilderConfig T) (now : Nat) : (new config now).Owned := by
  intro addr hlt
  have haddr : addr = 0 := Nat.lt_one_iff.mp hlt
  rw [haddr]
  rfl

def Finished (service : Service T) : Prop :=
  ∀ call ∈ service.calls, ∃ result, call.phase = .done result

/--
The call is done, waits for nobody, or has the receiver that it needs.
-/
def CanGo (service : Service T) (call : BundleCall T) : Prop :=
  ∀ state timeoutAfter phase, call.phase = .collecting state timeoutAfter phase →
    (∀ queueEmpty, phase = .receiving queueEmpty →
      (service.globalState.locks state).receiverGuard = none) ∧
    (phase = .inserting → (service.globalState.locks state).receiverGuard.isSome = true)

/--
Whoever holds a receiver can go on, and if nobody does, everybody can.
-/
theorem exists_canGo (hvalid : Valid config self) (howned : self.Owned)
    (hunfinished : ¬ self.Finished) :
    ∃ call ∈ self.calls, (∀ result, call.phase ≠ .done result) ∧ self.CanGo call := by
  by_cases hinserting : ∃ call ∈ self.calls, ∃ addr, call.phase.insertsAt addr = true
  . obtain ⟨call, hcall, addr, hinserts⟩ := hinserting
    refine ⟨call, hcall, ?_, ?_⟩
    . intro result hdone
      simp [hdone, Phase.insertsAt] at hinserts
    . intro state timeoutAfter phase hphase
      obtain ⟨⟨hlt, -⟩, -⟩ := hvalid.calls call hcall _ _ _ hphase
      have hcount : 0 < self.calls.countP (fun call => call.phase.insertsAt addr) :=
        List.countP_pos_iff.mpr ⟨call, hcall, hinserts⟩
      rw [hphase, insertsAt_collecting, Bool.and_eq_true, decide_eq_true_eq] at hinserts
      obtain ⟨rfl, hphase'⟩ := hinserts
      rw [howned _ hlt, held] at hcount
      refine ⟨?_, fun _ => ?_⟩
      . rintro queueEmpty rfl
        contradiction
      . by_contra hfree
        have hfree : (self.globalState.coordinator.forest.locks state.addr).receiverGuard.isSome =
            false := Bool.eq_false_iff.mpr hfree
        simp [hfree] at hcount
  . obtain ⟨call, hcall, hnotDone⟩ : ∃ call ∈ self.calls, ∀ result, call.phase ≠ .done result := by
      simpa [Finished] using hunfinished
    refine ⟨call, hcall, hnotDone, ?_⟩
    intro state timeoutAfter phase hphase
    obtain ⟨⟨hlt, -⟩, -⟩ := hvalid.calls call hcall _ _ _ hphase
    have hcount : self.calls.countP (fun call => call.phase.insertsAt state.addr) = 0 := by
      rw [List.countP_eq_zero]
      intro call' hcall' hinserts
      exact hinserting ⟨call', hcall', state.addr, hinserts⟩
    rw [howned _ hlt, held] at hcount
    refine ⟨fun _ _ => ?_, ?_⟩
    . cases hguard : (self.globalState.coordinator.forest.locks state.addr).receiverGuard with
      | none => exact hguard
      | some txn => simp [hguard] at hcount
    . rintro rfl
      refine absurd ⟨call, hcall, state.addr, ?_⟩ hinserting
      simp [hphase, insertsAt_collecting, CollectPhase.inserts]

/--
When every call is done, the release of the guard needs no request.
-/
theorem ne_request_of_finished (howned : self.Owned) (hfinished : self.Finished)
    {action : Coordinator.Action T} (hreleases : action.Releases) {coordinator : Coordinator T}
    (hstep : self.globalState.coordinator.step action = some coordinator)
    (request : Coordinator.Request) : action ≠ .request request := by
  rintro rfl
  cases request with
  | insert addr =>
    obtain ⟨forest, hforest, -⟩ := Coordinator.handleRequest_eq_some.mp hstep
    obtain ⟨hlt, locks, hlocks, -⟩ := Forest.step_insert_eq_some.mp hforest
    have hcount : 0 < self.calls.countP (fun call => call.phase.insertsAt addr) := by
      rw [howned addr hlt, held, (Locks.insertReceived_eq_some hlocks).1]
      exact Nat.zero_lt_one
    obtain ⟨call, hcall, hinserts⟩ := List.countP_pos_iff.mp hcount
    obtain ⟨result, hdone⟩ := hfinished call hcall
    simp [hdone, Phase.insertsAt] at hinserts
  | _ => contradiction

variable [BundleTypes T]

theorem held_of_advances (hvalid : Valid config self) {call call' : BundleCall T}
    (hmem : call ∈ self.calls) {now : Nat} {coordinator : Coordinator T}
    (h : Advances self.globalState call now coordinator call') :
    coordinator.forest.size = self.globalState.coordinator.forest.size ∧
      ∀ addr, held coordinator.forest addr + (call.phase.insertsAt addr).toNat =
        held self.globalState.coordinator.forest addr + (call'.phase.insertsAt addr).toNat := by
  have hidle : (∀ state timeoutAfter, call.phase ≠ .collecting state timeoutAfter .inserting) →
      (∀ state timeoutAfter, call'.phase ≠ .collecting state timeoutAfter .inserting) →
      ∀ addr, held self.globalState.coordinator.forest addr + (call.phase.insertsAt addr).toNat =
        held self.globalState.coordinator.forest addr + (call'.phase.insertsAt addr).toNat := by
    intro hphase hphase' addr
    rw [insertsAt_eq_false hphase, insertsAt_eq_false hphase']
  cases h with
  | collect state timeoutAfter wake phase phase' coordinator hphase hcollect =>
    obtain ⟨hnode, -⟩ := hvalid.calls call hmem _ _ _ hphase
    have hmoves := moves_of_collect hnode hcollect
    refine ⟨hmoves.size, ?_⟩
    intro addr
    rw [hphase]
    exact hmoves.held_add timeoutAfter addr
  | refuse hphase => exact ⟨rfl, hidle (by simp [hphase]) (by simp)⟩
  | check hphase => exact ⟨rfl, hidle (by simp [hphase]) (by simp)⟩
  | find _ hphase => exact ⟨rfl, hidle (by simp [hphase]) (by simp)⟩
  | sleep hphase => exact ⟨rfl, hidle (by simp [hphase]) (by simp)⟩
  | decided hphase => exact ⟨rfl, hidle (by simp [hphase]) (by simp)⟩
  | read _ _ hphase => exact ⟨rfl, hidle (by simp [hphase]) (by simp)⟩

theorem owned_step (hvalid : Valid config self) (h : self.Owned) {action : Action T}
    (hstep : self.step action = some self') : self'.Owned := by
  intro addr hlt
  cases change_of_step hstep with
  | bundle request now hclock =>
    rw [List.countP_append, h addr hlt]
    rfl
  | advance i now call call' coordinator hcall hclock hwake hadvances =>
    obtain ⟨hsize, hheld⟩ := held_of_advances hvalid (List.mem_of_getElem? hcall) hadvances
    have hcount := countP_set_add (p := fun call => call.phase.insertsAt addr) hcall call'
    have howned := h addr (hsize ▸ hlt)
    have hheld := hheld addr
    dsimp only at hcount ⊢
    omega
  | coordinate action coordinator hrequest hcoordinate =>
    have hguard := Coordinator.receiverGuard_of_step hrequest hcoordinate hlt
    dsimp only at hlt ⊢
    rw [held, hguard]
    split
    . next hold => exact h addr hold
    . next hnew => exact countP_eq_zero hvalid (Nat.not_lt.mp hnew)

theorem exists_advance (hvalid : Valid config self) {call : BundleCall T}
    (hcall : call ∈ self.calls) (hnotDone : ∀ result, call.phase ≠ .done result)
    (hcanGo : self.CanGo call) :
    ∃ now coordinator call', self.clock ≤ now ∧ call.wake ≤ now ∧
      self.globalState.advance call now = some (coordinator, call') ∧
      call'.phase.stepsLeft < call.phase.stepsLeft := by
  cases hphase : call.phase with
  | checking =>
    refine ⟨self.clock + call.wake + (call.start + self.globalState.apiTimeout + 1),
      self.globalState.coordinator, { call with phase := .done (.error .notFound) }, by omega,
      by omega, ?_, Nat.zero_lt_one⟩
    rw [GlobalState.advance, hphase]
    exact if_pos (by omega)
  | lookingUp =>
    refine ⟨self.clock + call.wake, self.globalState.coordinator, ?_⟩
    simp only [GlobalState.advance, hphase]
    cases hlookup : self.globalState.coordinator.lookupBuilderState call.request.stateId with
    | found state =>
      exact ⟨_, by omega, by omega, rfl, by simp [Phase.stepsLeft, CollectPhase.stepsLeft]⟩
    | notFound => exact ⟨_, by omega, by omega, rfl, by simp [Phase.stepsLeft]⟩
    | decided => exact ⟨_, by omega, by omega, rfl, by simp [Phase.stepsLeft]⟩
  | collecting state timeoutAfter phase =>
    obtain ⟨hnode, -⟩ := hvalid.calls call hcall _ _ _ hphase
    obtain ⟨hreceiving, hinserting⟩ := hcanGo _ _ _ hphase
    by_cases hreading : phase = .reading
    . subst hreading
      refine ⟨self.clock + call.wake, self.globalState.coordinator, ?_⟩
      simp only [GlobalState.advance, hphase]
      exact ⟨_, by omega, by omega, rfl, Nat.zero_lt_one⟩
    . have hlate : timeoutAfter < self.clock + call.wake + (timeoutAfter + 1) := by omega
      obtain ⟨coordinator, wake, phase', hcollect, hlt⟩ :=
        exists_collect hnode hlate hreading hreceiving hinserting
      refine ⟨self.clock + call.wake + (timeoutAfter + 1), coordinator,
        { call with wake, phase := .collecting state timeoutAfter phase' }, by omega, by omega, ?_,
        hlt⟩
      simp only [GlobalState.advance, hphase]
      simp [hcollect]
  | done result => exact absurd hphase (hnotDone result)

def stepsLeft (service : Service T) : Nat :=
  (service.calls.map fun call => call.phase.stepsLeft).sum * 7 +
    service.globalState.coordinator.stepsLeft

/--
Nobody asks for another bundle, and of the tasks only the one that holds the guard goes on.
-/
def Action.Settles (action : Action T) : Prop :=
  match action with
  | .bundle _ _ => False
  | .advance _ _ => True
  | .coordinate action => action.Releases

theorem step_coordinate {action : Coordinator.Action T}
    (hrequest : ∀ request, action ≠ .request request) {coordinator : Coordinator T}
    (hstep : self.globalState.coordinator.step action = some coordinator) :
    self.step (.coordinate action) =
      some { self with globalState := { self.globalState with coordinator } } := by
  cases action with
  | request request => exact absurd rfl (hrequest request)
  | _ => simp [step, hstep]

theorem exists_step (hvalid : Valid config self) (howned : self.Owned)
    (hunsettled : ¬ (self.Finished ∧ self.globalState.coordinator.proposalsGuard = .free)) :
    ∃ action self', self.step action = some self' ∧ action.Settles ∧
      self'.stepsLeft < self.stepsLeft := by
  by_cases hfinished : self.Finished
  . have hguard : self.globalState.coordinator.proposalsGuard ≠ .free :=
      fun hfree => hunsettled ⟨hfinished, hfree⟩
    obtain ⟨action, coordinator, hreleases, hstep, hlt⟩ :=
      Coordinator.exists_releases (Coordinator.sound_of_reachable hvalid.reachable) hguard
    have hrequest := ne_request_of_finished howned hfinished hreleases hstep
    exact ⟨.coordinate action, { self with globalState := { self.globalState with coordinator } },
      step_coordinate hrequest hstep, hreleases, Nat.add_lt_add_left hlt _⟩
  . obtain ⟨call, hcall, hnotDone, hcanGo⟩ := exists_canGo hvalid howned hfinished
    obtain ⟨i, hi⟩ := List.getElem?_of_mem hcall
    obtain ⟨now, coordinator, call', hclock, hwake, hadvance, hlt⟩ :=
      exists_advance hvalid hcall hnotDone hcanGo
    refine ⟨.advance i now, ⟨{ self.globalState with coordinator }, now, self.calls.set i call'⟩,
      ?_, trivial, ?_⟩
    . simp [step, hi, hclock, hwake, hadvance]
    . have hsum := sum_map_set_lt (f := fun call => call.phase.stepsLeft) hi hlt
      have hle := coordinator.stepsLeft_le
      unfold stepsLeft
      dsimp only
      omega

/--
By induction on what is left to do.
-/
theorem exists_run_settled (hvalid : Valid config self) (howned : self.Owned) :
    ∃ more t, run step self more = some t ∧ (∀ action ∈ more, action.Settles) ∧ t.Finished ∧
      t.globalState.coordinator.proposalsGuard = .free := by
  induction hn : self.stepsLeft using Nat.strongRecOn generalizing self with
  | ind n ih =>
    by_cases hsettled : self.Finished ∧ self.globalState.coordinator.proposalsGuard = .free
    . exact ⟨[], self, rfl, by simp, hsettled⟩
    . obtain ⟨action, self', hstep, hsettles, hlt⟩ := exists_step hvalid howned hsettled
      obtain ⟨more, t, hrun, hmore, ht⟩ :=
        ih _ (hn ▸ hlt) (valid_step hvalid hstep) (owned_step hvalid howned hstep) rfl
      refine ⟨action :: more, t, run_cons_eq_some.mpr ⟨self', hstep, hrun⟩, ?_, ht⟩
      rw [List.forall_mem_cons]
      exact ⟨hsettles, hmore⟩

/--
Nobody is stuck: whatever calls and tasks are under way, they can go on until every call is answered and
the guard of `proposals` is free, without another request or event.
-/
theorem calls_settle {now : Nat} {actions : List (Action T)}
    (hrun : run step (new config now) actions = some self) :
    ∃ more t, run step self more = some t ∧ (∀ action ∈ more, action.Settles) ∧
      (∀ call ∈ t.calls, ∃ result, call.phase = .done result) ∧
      t.globalState.coordinator.proposalsGuard = .free := by
  have hboth : Valid config self ∧ self.Owned := by
    apply run_invariant (P := fun self => Valid config self ∧ self.Owned) _
      ⟨valid_new config now, owned_new config now⟩ hrun
    rintro self action self' ⟨hvalid, howned⟩ hstep
    exact ⟨valid_step hvalid hstep, owned_step hvalid howned hstep⟩
  exact exists_run_settled hboth.1 hboth.2

/--
The call holds the receiver of the bootstrap state, which the task with the guard waits for.
-/
def testWaiting : List (Action TestTypes) := [
  .coordinate (.lockProposals (.inl testPair₁.quorumProposal)),
  .coordinate (.lockProposals (.inr testPair₁.daProposal)),
  .coordinate (.transaction (TestTypes.txn 5) (.ok none)),
  .coordinate (.findParent 0 1 1),
  .coordinate .cloneQueue,
  .bundle ⟨0, (0 : Nat), 1⟩ 0,
  .advance 0 0, .advance 0 1, .advance 0 1, .advance 0 1, .advance 0 2, .advance 0 2]

theorem calls_settle_testWaiting : ∃ self,
    run step (new testConfig 0) testWaiting = some self ∧
      step self (.coordinate (.cloneReceiver 2)) = none ∧
      ∃ more t, run step self more = some t ∧ (∀ action ∈ more, action.Settles) ∧
        (∀ call ∈ t.calls, ∃ result, call.phase = .done result) ∧
        t.globalState.coordinator.proposalsGuard = .free :=
  have hrun : run step (new testConfig 0) testWaiting = some _ := rfl
  ⟨_, hrun, rfl, calls_settle hrun⟩

end Service

end Marketplace

end BuilderCore
