import BuilderCore.LegacyRefactored.BuildBlock
import BuilderCore.Transition

/-!
This module contains the calls of `build_block` on one builder state, cut at the acquisitions of the
locks, in any interleaving with each other and with `collect_txns`.
-/

namespace BuilderCore

open Transition

variable {T : NodeType} [ApiTypes T]

/--
A payload without transactions, with the queue as it was when the transactions for it were read.
-/
structure EmptyPayload (validatedState : ApiTypes.ValidatedState T) where
  config : BuildConfig T
  read : TransactionQueue T
  blockPayload : T.BlockPayload
  metadata : T.Metadata
  fromTransactions_eq : ApiTypes.fromTransactions (transactionsToInclude config.maxBlockSize read)
    validatedState config.instanceState = .ok (blockPayload, metadata)
  numTransactions_eq : ApiTypes.numTransactions blockPayload metadata = 0

inductive BuildCall (validatedState : ApiTypes.ValidatedState T) where
  | collecting (config : BuildConfig T)
  | passing (config : BuildConfig T) (read : TransactionQueue T)
  | popping (payload : EmptyPayload validatedState)
  | done (result : Except (RequestError T) (Option (BlockInfo T)))

structure Builds (validatedState : ApiTypes.ValidatedState T) where
  sent : List (ReceivedTransaction T)
  locks : Locks T
  calls : List (BuildCall validatedState)

def EmptyPayload.passed {validatedState : ApiTypes.ValidatedState T}
    (payload : EmptyPayload validatedState) : List T.Transaction :=
  transactionsToInclude payload.config.maxBlockSize payload.read

def BuildConfig.blockInfo (config : BuildConfig T) (blockPayload : T.BlockPayload)
    (metadata : T.Metadata) (truncated : Bool) : BlockInfo T :=
  let encodedTxns := ApiTypes.encode blockPayload
  let blockSize := ApiTypes.len encodedTxns
  {
    blockPayload
    metadata
    vidData := ⟨encodedTxns, config.numNodes⟩
    blockSize
    offeredFee := config.baseFee * blockSize % 2 ^ 64
    truncated
  }

namespace Builds

variable (builder : BuilderState T) {validatedState : ApiTypes.ValidatedState T}

inductive Action (T : NodeType) [ApiTypes T] where
  | broadcast (txn : ReceivedTransaction T)
  | tryRecv
  | insertReceived
  | buildBlock (config : BuildConfig T)
  | readQueue (call : Nat)
  | fromTransactions (call : Nat)
  | popFront (call : Nat)

def readQueue (self : Builds validatedState) (call : Nat) : Option (Builds validatedState) :=
  match self.calls[call]? with
  | some (.collecting config) =>
    let txnQueue := self.locks.txnQueue
    if txnQueue.isEmpty ∧ ¬ shouldPrioritizeFinalization builder.parentBlockReferences then
      some { self with calls := self.calls.set call (.done (.ok none)) }
    else
      some { self with calls := self.calls.set call (.passing config txnQueue) }
  | _ => none

/--
No lock is held meanwhile.
-/
def fromTransactions (self : Builds validatedState) (call : Nat) : Option (Builds validatedState) :=
  match self.calls[call]? with
  | some (.passing config read) =>
    match heq : ApiTypes.fromTransactions (transactionsToInclude config.maxBlockSize read)
        validatedState config.instanceState with
    | .error error =>
      some { self with calls := self.calls.set call (.done (.error (.buildBlock error))) }
    | .ok (blockPayload, metadata) =>
      if hnum : ApiTypes.numTransactions blockPayload metadata = 0 then
        let payload := ⟨config, read, blockPayload, metadata, heq, hnum⟩
        some { self with calls := self.calls.set call (.popping payload) }
      else
        let blockInfo := config.blockInfo blockPayload metadata false
        some { self with calls := self.calls.set call (.done (.ok (some blockInfo))) }
  | _ => none

def popFront (self : Builds validatedState) (call : Nat) : Option (Builds validatedState) :=
  match self.calls[call]? with
  | some (.popping payload) =>
    let result :=
      if shouldPrioritizeFinalization builder.parentBlockReferences then
        some (payload.config.blockInfo payload.blockPayload payload.metadata true)
      else
        none
    some { self with
      locks := self.locks.popFront
      calls := self.calls.set call (.done (.ok result)) }
  | _ => none

/--
`collect_txns` is called from `build_block` only, but its steps can be anybody's.
-/
def step (self : Builds validatedState) (action : Action T) : Option (Builds validatedState) :=
  match action with
  | .broadcast txn => some { self with sent := self.sent ++ [txn] }
  | .tryRecv => do
    let locks ← self.locks.tryRecv self.sent builder.includedTxns
    return { self with locks }
  | .insertReceived => do
    let locks ← self.locks.insertReceived
    return { self with locks }
  | .buildBlock config => some { self with calls := self.calls ++ [.collecting config] }
  | .readQueue call => self.readQueue builder call
  | .fromTransactions call => self.fromTransactions call
  | .popFront call => self.popFront builder call

inductive Change (self : Builds validatedState) : Action T → Builds validatedState → Prop where
  | broadcast (txn : ReceivedTransaction T) :
      Change self (.broadcast txn) { self with sent := self.sent ++ [txn] }
  | tryRecv (locks : Locks T) (hqueue : locks.txnQueue = self.locks.txnQueue) :
      Change self .tryRecv { self with locks }
  | insertReceived (txn : ReceivedTransaction T) (locks : Locks T)
      (hqueue : locks.txnQueue = (self.locks.txnQueue.insert txn).1) :
      Change self .insertReceived { self with locks }
  | buildBlock (config : BuildConfig T) :
      Change self (.buildBlock config) { self with calls := self.calls ++ [.collecting config] }
  | readQueue (call : Nat) (config : BuildConfig T) (next : BuildCall validatedState)
      (hcall : self.calls[call]? = some (.collecting config))
      (hnext : next = .done (.ok none) ∨ next = .passing config self.locks.txnQueue) :
      Change self (.readQueue call) { self with calls := self.calls.set call next }
  | fromTransactions (call : Nat) (config : BuildConfig T) (read : TransactionQueue T)
      (next : BuildCall validatedState) (hcall : self.calls[call]? = some (.passing config read))
      (hnext : (∃ result, next = .done result) ∨
        ∃ payload, payload.read = read ∧ next = .popping payload) :
      Change self (.fromTransactions call) { self with calls := self.calls.set call next }
  | popFront (call : Nat) (payload : EmptyPayload validatedState)
      (result : Except (RequestError T) (Option (BlockInfo T)))
      (hcall : self.calls[call]? = some (.popping payload)) :
      Change self (.popFront call)
        { self with locks := self.locks.popFront, calls := self.calls.set call (.done result) }

variable {builder : BuilderState T} {self self' : Builds validatedState} {action : Action T}

theorem change_of_step (h : self.step builder action = some self') : self.Change action self' := by
  cases action with
  | broadcast txn =>
    rw [← Option.some.inj h]
    exact .broadcast txn
  | tryRecv =>
    simp only [step, Option.bind_eq_bind, Option.bind_eq_some_iff] at h
    obtain ⟨locks, hlocks, h⟩ := h
    rw [← Option.some.inj h]
    apply Change.tryRecv
    unfold Locks.tryRecv at hlocks
    grind
  | insertReceived =>
    simp only [step, Option.bind_eq_bind, Option.bind_eq_some_iff] at h
    obtain ⟨locks, hlocks, h⟩ := h
    rw [← Option.some.inj h]
    unfold Locks.insertReceived at hlocks
    split at hlocks
    . contradiction
    . next txn hguard =>
      apply Change.insertReceived txn
      rw [← Option.some.inj hlocks]
  | buildBlock config =>
    rw [← Option.some.inj h]
    exact .buildBlock config
  | readQueue call =>
    simp only [step, readQueue] at h
    split at h
    . next config hcall =>
      split at h
      . rw [← Option.some.inj h]
        exact .readQueue call config _ hcall (.inl rfl)
      . rw [← Option.some.inj h]
        exact .readQueue call config _ hcall (.inr rfl)
    . contradiction
  | fromTransactions call =>
    simp only [step, fromTransactions] at h
    split at h
    . next config read hcall =>
      split at h
      . rw [← Option.some.inj h]
        exact .fromTransactions call config read _ hcall (.inl ⟨_, rfl⟩)
      . split at h
        . rw [← Option.some.inj h]
          exact .fromTransactions call config read _ hcall (.inr ⟨_, rfl, rfl⟩)
        . rw [← Option.some.inj h]
          exact .fromTransactions call config read _ hcall (.inl ⟨_, rfl⟩)
    . contradiction
  | popFront call =>
    simp only [step, popFront] at h
    split at h
    . next payload hcall =>
      rw [← Option.some.inj h]
      exact .popFront call payload _ hcall
    . contradiction

theorem wellFormed_step (hself : self.locks.txnQueue.WellFormed)
    (h : self.step builder action = some self') : self'.locks.txnQueue.WellFormed := by
  cases change_of_step h with
  | tryRecv locks hqueue =>
    rw [hqueue]
    exact hself
  | insertReceived txn locks hqueue =>
    rw [hqueue]
    exact hself.insert txn
  | popFront call payload result hcall => exact hself.popFront
  | _ => exact hself

variable (builder) in
/--
What leaves the queue is popped by a call that had passed it first, and had got a payload without
transactions.
-/
def LeavesAsPassed (self : Builds validatedState) (action : Action T) : Prop :=
  ∀ self', self.step builder action = some self' → ∀ txn ∈ self.locks.txnQueue.transactions,
    txn ∉ self'.locks.txnQueue.transactions →
      ∃ call payload, action = .popFront call ∧ self.calls[call]? = some (.popping payload) ∧
        payload.passed.head? = some txn.transaction

/--
A call pops from an empty queue, or from one with the same front as the one it had read.
-/
def FrontKept (self : Builds validatedState) (action : Action T) : Prop :=
  match action with
  | .popFront call => ∀ payload, self.calls[call]? = some (.popping payload) →
    ∀ front, self.locks.txnQueue.transactions.head? = some front →
      ∃ front', payload.read.transactions.head? = some front' ∧
        front'.transaction = front.transaction
  | _ => True

theorem mem_transactions_of_step (h : self.step builder action = some self')
    (hpop : ∀ call, action ≠ .popFront call) {txn : ReceivedTransaction T}
    (htxn : txn ∈ self.locks.txnQueue.transactions) : txn ∈ self'.locks.txnQueue.transactions := by
  cases change_of_step h with
  | tryRecv locks hqueue => rwa [hqueue]
  | insertReceived txn' locks hqueue =>
    rw [hqueue]
    unfold TransactionQueue.insert
    split
    . exact List.mem_append_left _ htxn
    . exact htxn
  | popFront call payload result hcall => exact absurd rfl (hpop call)
  | _ => exact htxn

theorem head?_passed (payload : EmptyPayload validatedState) :
    payload.passed.head? = payload.read.transactions.head?.map (·.transaction) :=
  head?_transactionsToInclude ..

theorem exists_popping_of_step {call : Nat} (h : self.step builder (.popFront call) = some self') :
    ∃ payload, self.calls[call]? = some (.popping payload) ∧
      self'.locks.txnQueue.transactions = self.locks.txnQueue.transactions.tail := by
  cases change_of_step h with
  | popFront _ payload result hcall =>
    exact ⟨payload, hcall, TransactionQueue.transactions_popFront _⟩

theorem leavesAsPassed_popFront_iff (hself : self.locks.txnQueue.WellFormed) {call : Nat}
    (h : self.step builder (.popFront call) = some self') :
    LeavesAsPassed builder self (.popFront call) ↔ FrontKept self (.popFront call) := by
  obtain ⟨payload, hpayload, hqueue⟩ := exists_popping_of_step h
  constructor
  . intro hleaves payload' hpayload' front hfront
    have hleft : front ∉ self'.locks.txnQueue.transactions := by
      rw [hqueue]
      exact hself.front_notMem_tail hfront
    obtain ⟨_, passing, ⟨rfl⟩, hpassing, hhead⟩ :=
      hleaves self' h front (List.mem_of_head? hfront) hleft
    obtain rfl : passing = payload' := by simpa [hpassing] using hpayload'
    rw [head?_passed, Option.map_eq_some_iff] at hhead
    exact hhead
  . intro hkept self'' h' txn htxn hleft
    obtain rfl : self'' = self' := Option.some.inj (h'.symm.trans h)
    rw [hqueue] at hleft
    have hfront : self.locks.txnQueue.transactions.head? = some txn := by
      cases htxns : self.locks.txnQueue.transactions with
      | nil => simp [htxns] at htxn
      | cons front rest =>
        -- the rest stays
        rw [htxns] at htxn hleft
        rcases List.mem_cons.mp htxn with rfl | hrest
        . rfl
        . exact absurd hrest hleft
    refine ⟨call, payload, rfl, hpayload, ?_⟩
    rw [head?_passed, Option.map_eq_some_iff]
    exact hkept payload hpayload txn hfront

theorem frontKept_of_ne (h : ∀ call, action ≠ .popFront call) : FrontKept self action := by
  unfold FrontKept
  split
  . next call => exact absurd rfl (h call)
  . trivial

theorem leavesAsPassed_iff (hself : self.locks.txnQueue.WellFormed)
    (h : self.step builder action = some self') :
    LeavesAsPassed builder self action ↔ FrontKept self action := by
  by_cases hpop : ∃ call, action = .popFront call
  . obtain ⟨call, rfl⟩ := hpop
    exact leavesAsPassed_popFront_iff hself h
  . have hnot : ∀ call, action ≠ .popFront call := fun call heq => hpop ⟨call, heq⟩
    have hleaves : LeavesAsPassed builder self action := by
      intro self'' h' txn htxn hleft
      exact absurd (mem_transactions_of_step h' hnot htxn) hleft
    exact ⟨fun _ => frontKept_of_ne hnot, fun _ => hleaves⟩

/--
In every interleaving, only transactions that the popping call had passed leave the queue, exactly
when no call pops a front that is not the one it had read.
-/
theorem leavesAsPassed_along_iff (hself : self.locks.txnQueue.WellFormed)
    (actions : List (Action T)) :
    Along (step builder) (LeavesAsPassed builder) self actions ↔
      Along (step builder) FrontKept self actions := by
  apply along_iff_along (I := fun b : Builds validatedState => b.locks.txnQueue.WellFormed) _ _ hself
  . intro s a s' hs h
    exact wellFormed_step hs h
  . intro s a s' hs h
    exact leavesAsPassed_iff hs h

/--
The parent block has transactions, so an empty block is built.
-/
def testBuilder : BuilderState TestTypes where
  parentBlockReferences := {
    ParentBlockReferences.bootstrap with
    txCount := 1
    lastNonemptyView := some 0 }
  includedTxns := .new 5 0
  addr := 0

def testConfig : BuildConfig TestTypes := ⟨(), 1, 10, 4⟩

def testStart : Builds (T := TestTypes) () := ⟨[], .new, []⟩

def testBuild : List (Action TestTypes) :=
  [.buildBlock testConfig, .readQueue 0, .fromTransactions 0]

def testArrival : List (Action TestTypes) :=
  [.broadcast (TestTypes.txn 7), .tryRecv, .insertReceived]

theorem leavesAsPassed_along_iff_testBuild :
    Along (step testBuilder) (LeavesAsPassed testBuilder) testStart
      (testBuild ++ .popFront 0 :: testArrival) := by
  apply (leavesAsPassed_along_iff TransactionQueue.wellFormed_new _).mpr
  apply Along.append
  . apply along_of_forall
    intro action haction _
    apply frontKept_of_ne
    rintro call rfl
    simp [testBuild] at haction
  . intro self hrun
    have hempty : ∃ self, run (step testBuilder) testStart testBuild = some self ∧
        self.locks.txnQueue.transactions = [] := ⟨_, rfl, rfl⟩
    obtain ⟨_, hself, hqueue⟩ := hempty
    obtain rfl := Option.some.inj (hrun.symm.trans hself)
    intro self' _
    refine ⟨?_, along_of_forall ?_⟩
    . intro payload _ front hfront
      simp [hqueue] at hfront
    . intro action haction _
      apply frontKept_of_ne
      rintro call rfl
      simp [testArrival] at haction

/--
The block is empty by intention, but the transaction that arrives meanwhile is dropped for it.
-/
theorem not_leavesAsPassed :
    (∃ self, run (step testBuilder) testStart (testBuild ++ testArrival) = some self ∧
      self.locks.txnQueue.transactions = [TestTypes.txn 7]) ∧
    ¬ Along (step testBuilder) (LeavesAsPassed testBuilder) testStart
      ((testBuild ++ testArrival) ++ [.popFront 0]) := by
  have hrun : ∃ self, run (step testBuilder) testStart (testBuild ++ testArrival) = some self ∧
      self.locks.txnQueue.transactions = [TestTypes.txn 7] ∧
      (∃ payload, self.calls[0]? = some (.popping payload) ∧ payload.passed = []) ∧
      ∃ self', self.step testBuilder (.popFront 0) = some self' ∧
        self'.locks.txnQueue.transactions = [] :=
    ⟨_, rfl, rfl, ⟨_, rfl, rfl⟩, _, rfl, rfl⟩
  obtain ⟨self, hself, hqueue, ⟨payload, hcall, hpassed⟩, self', hstep, hempty⟩ := hrun
  refine ⟨⟨self, hself, hqueue⟩, ?_⟩
  intro h
  have hleaves := ((h.of_append hself) self' hstep).1
  obtain ⟨_, payload', ⟨rfl⟩, hcall', hhead⟩ :=
    hleaves self' hstep (TestTypes.txn 7) (by simp [hqueue]) (by simp [hempty])
  obtain rfl : payload' = payload := by simpa [hcall'] using hcall
  simp [hpassed] at hhead

/--
What a call had read of the queue when it has not popped yet.
-/
def readOf (call : BuildCall validatedState) : Option (TransactionQueue T) :=
  match call with
  | .collecting _ | .done _ => none
  | .passing _ read => some read
  | .popping payload => some payload.read

/--
No call pops while another one has read the queue, and nothing is inserted while a call has read an
empty queue.
-/
def Exclusive (self : Builds validatedState) (action : Action T) : Prop :=
  match action with
  | .popFront call => ∀ other c, self.calls[other]? = some c → other ≠ call → readOf c = none
  | .insertReceived => ∀ c ∈ self.calls, ∀ read, readOf c = some read → read.transactions ≠ []
  | _ => True

def FrontsAgree (self : Builds validatedState) : Prop :=
  ∀ c ∈ self.calls, ∀ read, readOf c = some read →
    read.transactions.head? = self.locks.txnQueue.transactions.head?

theorem FrontsAgree.set (h : FrontsAgree self) {call : Nat} {next : BuildCall validatedState}
    (hnext : ∀ read, readOf next = some read →
      read.transactions.head? = self.locks.txnQueue.transactions.head?) :
    FrontsAgree { self with calls := self.calls.set call next } := by
  intro c hc
  rcases List.mem_or_eq_of_mem_set hc with hold | rfl
  . exact h c hold
  . exact hnext

theorem frontsAgree_step (hself : FrontsAgree self) (hexclusive : Exclusive self action)
    (h : self.step builder action = some self') : FrontsAgree self' := by
  cases change_of_step h with
  | broadcast txn => exact hself
  | tryRecv locks hqueue =>
    intro c hc read hread
    rw [hqueue]
    exact hself c hc read hread
  | insertReceived txn locks hqueue =>
    intro c hc read hread
    -- what was read is not empty, so the front does not change
    obtain ⟨front, hfront⟩ := Option.ne_none_iff_exists'.mp
      (fun hnone => hexclusive c hc read hread (List.head?_eq_none_iff.mp hnone))
    have hagree := hself c hc read hread
    rw [hfront] at hagree
    rw [hqueue, hfront]
    unfold TransactionQueue.insert
    split
    . rw [List.head?_append, ← hagree, Option.some_or]
    . exact hagree
  | buildBlock config =>
    intro c hc
    rcases List.mem_append.mp hc with hold | hnew
    . exact hself c hold
    . rw [List.mem_singleton.mp hnew]
      intro read hread
      contradiction
  | readQueue call config next hcall hnext =>
    apply hself.set
    intro read hread
    rcases hnext with rfl | rfl
    . contradiction
    . rw [← Option.some.inj hread]
  | fromTransactions call config read next hcall hnext =>
    apply hself.set
    intro read' hread
    have hpassing := hself _ (List.mem_of_getElem? hcall) read rfl
    rcases hnext with ⟨result, rfl⟩ | ⟨payload, rfl, rfl⟩
    . contradiction
    . rwa [← Option.some.inj hread]
  | popFront call payload result hcall =>
    intro c hc read hread
    obtain ⟨other, hother⟩ := List.mem_iff_getElem?.mp hc
    rw [List.getElem?_set] at hother
    split at hother
    . split at hother
      . rw [← Option.some.inj hother] at hread
        contradiction
      . contradiction
    . next hne =>
      have hnone := hexclusive other c hother (Ne.symm hne)
      rw [hnone] at hread
      contradiction

theorem frontKept_of_frontsAgree (hself : FrontsAgree self) : FrontKept self action := by
  unfold FrontKept
  split
  . intro payload hcall front hfront
    have hagree := hself _ (List.mem_of_getElem? hcall) payload.read rfl
    exact ⟨front, hagree.trans hfront, rfl⟩
  . trivial

/--
While the calls have the queue to themselves, nothing else leaves it.
-/
theorem leavesAsPassed_of_exclusive (hself : self.locks.txnQueue.WellFormed)
    (hcalls : self.calls = []) {actions : List (Action T)}
    (h : Along (step builder) Exclusive self actions) :
    Along (step builder) (LeavesAsPassed builder) self actions := by
  rw [leavesAsPassed_along_iff hself]
  apply h.imp (I := FrontsAgree)
  . intro s a s' hs hexclusive hstep
    exact frontsAgree_step hs hexclusive hstep
  . intro s a s' hs _ _
    exact frontKept_of_frontsAgree hs
  . intro c hc
    rw [hcalls] at hc
    contradiction

variable (builder) in
def Returns (self : Builds validatedState) (call : Nat)
    (outcome : TransactionQueue T × Except (RequestError T) (Option (BlockInfo T))) : Prop :=
  ∃ actions self', run (step builder) self actions = some self' ∧
    self'.calls[call]? = some (.done outcome.2) ∧ self'.locks.txnQueue = outcome.1

section

variable {call : Nat} {config : BuildConfig T} {read : TransactionQueue T}

theorem returns_of_done {result : Except (RequestError T) (Option (BlockInfo T))}
    (h : self.calls[call]? = some (.done result)) :
    Returns builder self call (self.locks.txnQueue, result) :=
  ⟨[], self, rfl, h, rfl⟩

theorem Returns.cons {outcome : TransactionQueue T × Except (RequestError T) (Option (BlockInfo T))}
    (h : self.step builder action = some self') (hreturns : Returns builder self' call outcome) :
    Returns builder self call outcome := by
  obtain ⟨actions, last, hrun, hlast⟩ := hreturns
  refine ⟨action :: actions, last, ?_, hlast⟩
  rw [run_cons_eq_some]
  exact ⟨self', h, hrun⟩

theorem returns_of_popping {payload : EmptyPayload validatedState}
    (h : self.calls[call]? = some (.popping payload)) :
    Returns builder self call (self.locks.txnQueue.popFront.1,
      .ok (if shouldPrioritizeFinalization builder.parentBlockReferences then
        some (payload.config.blockInfo payload.blockPayload payload.metadata true)
      else
        none)) := by
  have hlt := (List.getElem?_eq_some_iff.mp h).1
  have hstep : self.step builder (.popFront call) = some { self with
      locks := self.locks.popFront
      calls := self.calls.set call (.done (.ok
        (if shouldPrioritizeFinalization builder.parentBlockReferences then
          some (payload.config.blockInfo payload.blockPayload payload.metadata true)
        else
          none))) } := by
    simp only [step, popFront, h]
  exact .cons hstep (returns_of_done (List.getElem?_set_self hlt))

theorem returns_of_passing (h : self.calls[call]? = some (.passing config self.locks.txnQueue))
    (hread : ¬ (self.locks.txnQueue.isEmpty ∧
      ¬ shouldPrioritizeFinalization builder.parentBlockReferences)) :
    Returns builder self call
      (buildBlock config builder.parentBlockReferences validatedState self.locks.txnQueue) := by
  have hlt := (List.getElem?_eq_some_iff.mp h).1
  have hstep : self.step builder (.fromTransactions call) = self.fromTransactions call := rfl
  unfold fromTransactions at hstep
  rw [h] at hstep
  dsimp only at hstep
  rw [buildBlock, if_neg hread]
  split at hstep
  . next error heq =>
    rw [heq]
    exact .cons hstep (returns_of_done (List.getElem?_set_self hlt))
  . next blockPayload metadata heq =>
    rw [heq]
    split at hstep
    . next hnum =>
      let payload : EmptyPayload validatedState :=
        ⟨config, self.locks.txnQueue, blockPayload, metadata, heq, hnum⟩
      have hpopping : Returns builder
          { self with calls := self.calls.set call (.popping payload) } call _ :=
        returns_of_popping (List.getElem?_set_self hlt)
      apply Returns.cons hstep
      by_cases hfinalize : shouldPrioritizeFinalization builder.parentBlockReferences = true
      . simpa [hnum, hfinalize, payload, BuildConfig.blockInfo] using hpopping
      . simpa [hnum, hfinalize, payload, BuildConfig.blockInfo] using hpopping
    . next hnum =>
      let blockInfo := config.blockInfo blockPayload metadata false
      have hdone : Returns builder
          { self with calls := self.calls.set call (.done (.ok (some blockInfo))) } call _ :=
        returns_of_done (List.getElem?_set_self hlt)
      apply Returns.cons hstep
      simpa [hnum, blockInfo, BuildConfig.blockInfo] using hdone

end

/--
A call that nobody interferes with leaves in the queue and returns what `buildBlock` says.
-/
theorem returns_buildBlock {call : Nat} {config : BuildConfig T}
    (h : self.calls[call]? = some (.collecting config)) :
    Returns builder self call
      (buildBlock config builder.parentBlockReferences validatedState self.locks.txnQueue) := by
  have hlt := (List.getElem?_eq_some_iff.mp h).1
  have hstep : self.step builder (.readQueue call) = self.readQueue builder call := rfl
  unfold readQueue at hstep
  rw [h] at hstep
  dsimp only at hstep
  split at hstep
  . next hread =>
    rw [buildBlock, if_pos hread]
    exact .cons hstep (returns_of_done (List.getElem?_set_self hlt))
  . next hread =>
    exact .cons hstep (returns_of_passing (List.getElem?_set_self hlt) hread)

end Builds

end BuilderCore
