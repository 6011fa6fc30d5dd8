import BuilderCore.Api
import BuilderCore.Reinclusion
import BuilderCore.Shared.Coordinator.StoredNodes

/-!
This module contains the bundles of the marketplace builder and the call that serves them, cut where it
looks at the clock or waits for a lock.
-/

namespace BuilderCore

/--
What only the marketplace needs of the keys and of the commitments.
-/
class BundleTypes (T : NodeType) [ApiTypes T] where
  signSequencingFeeMarketplace : ApiTypes.BuilderPrivateKey T → Nat → Nat →
    Except (ApiTypes.SignError T) (ApiTypes.BuilderSignature T)
  -- `to_string`
  displaySignError : ApiTypes.SignError T → String
  commitBytes : T.TxnCommitment → Vector UInt8 32

instance : BundleTypes TestTypes where
  signSequencingFeeMarketplace (key : Nat) offeredFee viewNumber :=
    .ok (key, [offeredFee.toUInt8, viewNumber.toUInt8])
  displaySignError error := nomatch error
  commitBytes (commit : Nat) := .replicate 32 commit.toUInt8

variable (T : NodeType) [ApiTypes T]

structure BuilderFee where
  feeAmount : Nat
  feeAccount : ApiTypes.BuilderSignatureKey T
  feeSignature : ApiTypes.BuilderSignature T

structure Bundle where
  sequencingFee : BuilderFee T
  transactions : List T.Transaction
  signature : ApiTypes.BuilderSignature T

namespace Marketplace

structure BundleRequest where
  parentView : Nat
  parentHash : T.VidCommitment
  viewNumber : Nat

/--
How far `collect_transactions` and its call of `collect_txns` have come.
-/
inductive CollectPhase where
  | capturing
  | measuring
  | polling (queueEmpty : Bool)
  | receiving (queueEmpty : Bool)
  | inserting
  | deciding (queueEmpty : Bool)
  | reading

/--
How far a call of `bundle` has come. It collects until `timeoutAfter`.
-/
inductive Phase where
  | checking
  | lookingUp
  | collecting (state : BuilderState T) (timeoutAfter : Nat) (phase : CollectPhase)
  | done (result : Except BuildError (Bundle T))

/--
A call sleeps until `wake`.
-/
structure BundleCall where
  request : BundleRequest T
  start : Nat
  wake : Nat
  phase : Phase T

structure GlobalState where
  coordinator : Coordinator T
  builderKeys : BuilderKeys T
  apiTimeout : Nat
  txCaptureTimeout : Nat
  baseFee : Nat

structure BuilderConfig where
  builderKeys : BuilderKeys T
  apiTimeout : Nat
  txCaptureTimeout : Nat
  txnGarbageCollectDuration : Nat
  baseFee : Nat

variable {T}

def BundleRequest.stateId (self : BundleRequest T) : BuilderStateId T where
  parentView := self.parentView
  parentCommitment := self.parentHash

def decidedMessage : String :=
  "Request for a bundle for a view that has already been decided."

/--
The sum and the product are `u64`.
-/
def offeredFee (baseFee : Nat) (transactions : List T.Transaction) : Nat :=
  let bundleSize := (transactions.map T.minimumBlockSize).sum % 2 ^ 64
  baseFee * bundleSize % 2 ^ 64

namespace GlobalState

def new (config : BuilderConfig T) (now : Nat) : GlobalState T where
  coordinator := .new config.txnGarbageCollectDuration now
  builderKeys := config.builderKeys
  apiTimeout := config.apiTimeout
  txCaptureTimeout := config.txCaptureTimeout
  baseFee := config.baseFee

def sleepInterval (self : GlobalState T) : Nat := self.txCaptureTimeout / 10

def locks (self : GlobalState T) (state : BuilderState T) : Locks T :=
  self.coordinator.forest.locks state.addr

/--
The next step of `collect_transactions` at the time `now`, with the time until which it sleeps then.
`none` while a lock is taken.
-/
def collect (self : GlobalState T) (state : BuilderState T) (timeoutAfter now : Nat)
    (phase : CollectPhase) : Option (Coordinator T × Nat × CollectPhase) :=
  match phase with
  | .capturing =>
    if now ≤ timeoutAfter then
      some (self.coordinator, now, .measuring)
    else
      some (self.coordinator, now, .reading)
  | .measuring =>
    some (self.coordinator, now, .polling (self.locks state).txnQueue.isEmpty)
  | .polling queueEmpty =>
    if now ≤ timeoutAfter then
      some (self.coordinator, now, .receiving queueEmpty)
    else
      some (self.coordinator, now, .deciding queueEmpty)
  | .receiving queueEmpty => do
    let coordinator ← self.coordinator.handleRequest (.tryRecv state.addr)
    match (self.locks state).unread self.coordinator.forest.sent with
    | [] => return (coordinator, now, .deciding queueEmpty)
    | txn :: _ =>
      if state.includedTxns.contains txn.commit then
        return (coordinator, now, .polling queueEmpty)
      else
        return (coordinator, now, .inserting)
  | .inserting => do
    let coordinator ← self.coordinator.handleRequest (.insert state.addr)
    return (coordinator, now, .polling false)
  | .deciding queueEmpty =>
    let queuePopulated := queueEmpty
    if queuePopulated ∨ now + self.sleepInterval > timeoutAfter then
      -- we don't have time for another iteration
      some (self.coordinator, now, .reading)
    else
      some (self.coordinator, now + self.sleepInterval, .capturing)
  | .reading => none

variable [BundleTypes T]

def assembleBundle (self : GlobalState T) (transactions : List T.Transaction) (viewNumber : Nat) :
    Except BuildError (Bundle T) :=
  let offeredFee := offeredFee self.baseFee transactions
  match BundleTypes.signSequencingFeeMarketplace self.builderKeys.privateKey offeredFee
      viewNumber with
  | .error error => .error (.error (BundleTypes.displaySignError error))
  | .ok feeSignature =>
    let sequencingFee := {
      feeAmount := offeredFee
      feeAccount := self.builderKeys.publicKey
      feeSignature
    }
    let commitments := transactions.flatMap fun txn =>
      (BundleTypes.commitBytes (T.commit txn)).toList
    match ApiTypes.signBuilderMessage self.builderKeys.privateKey commitments with
    | .error error => .error (.error (BundleTypes.displaySignError error))
    | .ok signature => .ok { sequencingFee, transactions, signature }

/--
What the call does next, at the time `now`, and what it does to the coordinator.
-/
def advance (self : GlobalState T) (call : BundleCall T) (now : Nat) :
    Option (Coordinator T × BundleCall T) :=
  match call.phase with
  | .checking =>
    -- couldn't serve a bundle in time
    if now - call.start > self.apiTimeout then
      some (self.coordinator, { call with phase := .done (.error .notFound) })
    else
      some (self.coordinator, { call with phase := .lookingUp })
  | .lookingUp =>
    match self.coordinator.lookupBuilderState call.request.stateId with
    | .found state =>
      let timeoutAfter := now + self.txCaptureTimeout
      some (self.coordinator, { call with phase := .collecting state timeoutAfter .capturing })
    -- it has perhaps not been created yet
    | .notFound =>
      some (self.coordinator, { call with wake := now + self.apiTimeout / 10, phase := .checking })
    | .decided =>
      some (self.coordinator, { call with phase := .done (.error (.error decidedMessage)) })
  | .collecting state _ .reading =>
    let transactions := collectTransactions (self.locks state).txnQueue
    let result := self.assembleBundle transactions call.request.viewNumber
    some (self.coordinator, { call with phase := .done result })
  | .collecting state timeoutAfter phase => do
    let (coordinator, wake, phase) ← self.collect state timeoutAfter now phase
    return (coordinator, { call with wake, phase := .collecting state timeoutAfter phase })
  | .done _ => none

end GlobalState

variable (T) in
structure Service where
  globalState : GlobalState T
  clock : Nat
  calls : List (BundleCall T)

namespace Service

def new (config : BuilderConfig T) (now : Nat) : Service T where
  globalState := .new config now
  clock := now
  calls := []

variable (T) in
def IsNew (period : Nat) (self : Service T) : Prop :=
  ∃ config now, self = new config now ∧ config.txnGarbageCollectDuration = period

variable (T) in
/--
`coordinate` is what the tasks of the event loop and the submissions do.
-/
inductive Action where
  | bundle (request : BundleRequest T) (now : Nat)
  | advance (call now : Nat)
  | coordinate (action : Coordinator.Action T)

variable [BundleTypes T]

def step (self : Service T) (action : Action T) : Option (Service T) :=
  match action with
  | .bundle request now =>
    if self.clock ≤ now then
      some { self with clock := now, calls := self.calls ++ [⟨request, now, now, .checking⟩] }
    else
      none
  | .advance i now => do
    let call ← self.calls[i]?
    guard (self.clock ≤ now ∧ call.wake ≤ now)
    let (coordinator, call) ← self.globalState.advance call now
    return {
      globalState := { self.globalState with coordinator }
      clock := now
      calls := self.calls.set i call
    }
  -- only the calls collect transactions, and nobody pops any
  | .coordinate (.request _) => none
  | .coordinate action => do
    let coordinator ← self.globalState.coordinator.step action
    return { self with globalState := { self.globalState with coordinator } }

end Service

end Marketplace

end BuilderCore
