import BuilderCore.BlockSizeLimits
import BuilderCore.LegacyRefactored.BuildBlock
import BuilderCore.LegacyRefactored.GlobalState

/-!
This module contains the service of the refactored legacy builder: its state, and the calls that it
answers, cut where they wait.
-/

namespace BuilderCore

open Transition

variable {T : NodeType} [ApiTypes T]

variable (T) in
structure GlobalState where
  coordinator : Coordinator T
  builderKeys : BuilderKeys T
  blockStore : BlockStore T
  blockSizeLimits : BlockSizeLimits
  numNodes : Nat
  instanceState : ApiTypes.InstanceState T
  baseFee : Nat

variable (T) in
structure BuilderConfig where
  builderKeys : BuilderKeys T
  instanceState : ApiTypes.InstanceState T
  baseFee : Nat
  protocolMaxBlockSize : Nat
  maxBlockSizeIncrementPeriod : Nat
  txnGarbageCollectDuration : Nat
  numNodes : Nat

variable (T) in
inductive Progress where
  | availableBlocks (stateId : BuilderStateId T)
  | building (stateId : BuilderStateId T) (builderState : BuilderState T)
  | built (stateId : BuilderStateId T) (result : Except (RequestError T) (Option (BlockInfo T)))
  | claimBlock (blockId : BlockId T)
  | claimBlockHeaderInput (blockId : BlockId T)
  | resolving (blockInfo : BlockInfo T)
  | done (result : Except BuildError (Response T))

def Progress.failed (error : RequestError T) : Progress T := .done (.error error.toBuildError)

namespace GlobalState

def new (config : BuilderConfig T) (now : Nat) : GlobalState T where
  coordinator := .new config.txnGarbageCollectDuration now
  builderKeys := config.builderKeys
  blockStore := .new
  blockSizeLimits := .new config.protocolMaxBlockSize config.maxBlockSizeIncrementPeriod now
  numNodes := config.numNodes
  instanceState := config.instanceState
  baseFee := config.baseFee

def availableBlocks (self : GlobalState T) (parentBlock : T.VidCommitment) (parentView : Nat)
    (authentication : Authentication T) : GlobalState T × Progress T :=
  if ¬ authentication.validate (ApiTypes.vidCommitmentAsRef parentBlock) then
    (self, .failed .signatureValidation)
  else
    (self, .availableBlocks ⟨parentView, parentBlock⟩)

def claimBlock (self : GlobalState T) (blockHash : T.BuilderCommitment) (viewNumber : Nat)
    (authentication : Authentication T) : GlobalState T × Progress T :=
  if ¬ authentication.validate (ApiTypes.builderCommitmentAsRef blockHash) then
    (self, .failed .signatureValidation)
  else
    (self, .claimBlock ⟨blockHash, viewNumber⟩)

def claimBlockWithNumNodes (self : GlobalState T) (blockHash : T.BuilderCommitment)
    (viewNumber : Nat) (authentication : Authentication T) (numNodes : Nat) :
    GlobalState T × Progress T :=
  { self with numNodes }.claimBlock blockHash viewNumber authentication

def claimBlockHeaderInput (self : GlobalState T) (blockHash : T.BuilderCommitment)
    (viewNumber : Nat) (authentication : Authentication T) : GlobalState T × Progress T :=
  if ¬ authentication.validate (ApiTypes.builderCommitmentAsRef blockHash) then
    (self, .failed .signatureValidation)
  else
    (self, .claimBlockHeaderInput ⟨blockHash, viewNumber⟩)

/--
A call up to where it waits for the first time.
-/
def receive (self : GlobalState T) (request : Request T) : GlobalState T × Progress T :=
  match request with
  | .availableBlocks parentBlock parentView authentication =>
    self.availableBlocks parentBlock parentView authentication
  | .claimBlock blockHash viewNumber authentication =>
    self.claimBlock blockHash viewNumber authentication
  | .claimBlockWithNumNodes blockHash viewNumber authentication numNodes =>
    self.claimBlockWithNumNodes blockHash viewNumber authentication numNodes
  | .claimBlockHeaderInput blockHash viewNumber authentication =>
    self.claimBlockHeaderInput blockHash viewNumber authentication

/--
What an authenticated request waits for first.
-/
def started (request : Request T) : Progress T :=
  match request with
  | .availableBlocks parentBlock parentView _ => .availableBlocks ⟨parentView, parentBlock⟩
  | .claimBlock blockHash viewNumber _ | .claimBlockWithNumNodes blockHash viewNumber _ _ =>
    .claimBlock ⟨blockHash, viewNumber⟩
  | .claimBlockHeaderInput blockHash viewNumber _ =>
    .claimBlockHeaderInput ⟨blockHash, viewNumber⟩

theorem receive_eq (self : GlobalState T) (request : Request T) :
    self.receive request = ({ self with numNodes := request.numNodes.getD self.numNodes },
      if request.isAuthenticated then started request else .failed .signatureValidation) := by
  cases request with
  | availableBlocks parentBlock parentView authentication =>
    cases h : authentication.validate (ApiTypes.vidCommitmentAsRef parentBlock) <;>
      simp [receive, availableBlocks, started, Request.isAuthenticated, Request.numNodes, h]
  | claimBlock blockHash viewNumber authentication =>
    cases h : authentication.validate (ApiTypes.builderCommitmentAsRef blockHash) <;>
      simp [receive, claimBlock, started, Request.isAuthenticated, Request.numNodes, h]
  | claimBlockWithNumNodes blockHash viewNumber authentication numNodes =>
    cases h : authentication.validate (ApiTypes.builderCommitmentAsRef blockHash) <;>
      simp [receive, claimBlockWithNumNodes, claimBlock, started, Request.isAuthenticated,
        Request.numNodes, h]
  | claimBlockHeaderInput blockHash viewNumber authentication =>
    cases h : authentication.validate (ApiTypes.builderCommitmentAsRef blockHash) <;>
      simp [receive, claimBlockHeaderInput, started, Request.isAuthenticated, Request.numNodes, h]

/--
One turn of `wait_for_builder_state`, or the end of the time for it.
-/
def findBuilder (self : GlobalState T) (stateId : BuilderStateId T) (timedOut : Bool) :
    Option (Progress T) :=
  if timedOut then
    match self.coordinator.highestViewBuilder with
    | some builder => some (.building stateId builder)
    -- answered with a cached block or this error
    | none => some (.built stateId (.error .notFound))
  else
    match self.coordinator.lookupBuilderState stateId with
    | .found builder => some (.building stateId builder)
    | .decided => some (.failed .alreadyDecided)
    | .notFound => none

/--
`maxBlockSize` is the limit at the time the queue is read.
-/
def buildConfig (self : GlobalState T) (maxBlockSize : Nat) : BuildConfig T where
  instanceState := self.instanceState
  baseFee := self.baseFee
  maxBlockSize
  numNodes := self.numNodes

def answerAvailableBlocks (self : GlobalState T) (stateId : BuilderStateId T)
    (result : Except (RequestError T) (Option (BlockInfo T))) : GlobalState T × Progress T :=
  match result with
  | .ok (some info) =>
    match info.signedResponse self.builderKeys with
    | .error error => (self, .failed error)
    | .ok response =>
      let blockId := ⟨info.builderCommitment, stateId.parentView⟩
      ({ self with blockStore := self.blockStore.update stateId blockId info },
        .done (.ok (.availableBlocks [response])))
  | .ok none => (self, .done (.ok (.availableBlocks [])))
  | .error error =>
    match self.blockStore.getCached stateId with
    | none => (self, .failed error)
    | some cachedBlock =>
      match cachedBlock.signedResponse self.builderKeys with
      | .error error => (self, .failed error)
      | .ok response => (self, .done (.ok (.availableBlocks [response])))

def claimBlockImplementation (self : GlobalState T) (blockId : BlockId T) :
    Except (RequestError T) (AvailableBlockData T) :=
  match self.blockStore.getBlock blockId with
  | none => .error .notFound
  | some blockInfo =>
    match ApiTypes.signBuilderMessage self.builderKeys.privateKey
        (ApiTypes.builderCommitmentAsRef blockInfo.builderCommitment) with
    | .error error => .error (.signing error)
    | .ok signature => .ok {
        blockPayload := blockInfo.blockPayload
        metadata := blockInfo.metadata
        signature
        sender := self.builderKeys.publicKey
      }

def answerClaimBlock (self : GlobalState T) (blockId : BlockId T) : Progress T :=
  match self.claimBlockImplementation blockId with
  | .error error => .failed error
  | .ok block => .done (.ok (.claimBlock block))

/--
The first half of `claim_block_header_input_implementation`.
-/
def lookUpHeaderInput (self : GlobalState T) (blockId : BlockId T) : Progress T :=
  match self.blockStore.getBlock blockId with
  | none => .failed .notFound
  | some blockInfo => .resolving blockInfo

/--
Its second half, once the VID commitment is there.
-/
def headerInput (self : GlobalState T) (blockInfo : BlockInfo T) :
    Except (RequestError T) (AvailableBlockHeaderInput T) :=
  let vidCommitment := blockInfo.vidData.resolve
  match ApiTypes.signBuilderMessage self.builderKeys.privateKey
      (ApiTypes.vidCommitmentAsRef vidCommitment) with
  | .error error => .error (.signing error)
  | .ok messageSignature =>
    match ApiTypes.signFee self.builderKeys.privateKey blockInfo.offeredFee blockInfo.metadata
        vidCommitment with
    | .error error => .error (.signing error)
    | .ok feeSignature => .ok {
        vidCommitment
        feeSignature
        messageSignature
        sender := self.builderKeys.publicKey
      }

/--
`margin` is whether the answer is there with time to spare.
-/
def answerHeaderInput (self : GlobalState T) (blockInfo : BlockInfo T) (margin : Bool)
    (now : Nat) : GlobalState T × Progress T :=
  match self.headerInput blockInfo with
  | .error error => (self, .failed error)
  | .ok info =>
    let blockSizeLimits :=
      if margin then
        self.blockSizeLimits.tryIncrementBlockSize blockInfo.truncated now
      else
        self.blockSizeLimits
    ({ self with blockSizeLimits }, .done (.ok (.claimBlockHeaderInput info)))

/--
A call that takes longer than `max_api_waiting_time`.
-/
def timeOut (self : GlobalState T) (progress : Progress T) : Option (GlobalState T × Progress T) :=
  match progress with
  | .done _ => none
  | .claimBlockHeaderInput _ | .resolving _ =>
    -- we can't keep up with this block size, reduce max block size
    some ({ self with blockSizeLimits := self.blockSizeLimits.decrementBlockSize },
      .failed .apiTimeout)
  | .availableBlocks _ | .building _ _ | .built _ _ | .claimBlock _ =>
    some (self, .failed .apiTimeout)

end GlobalState

variable (T) in
structure Call where
  request : Request T
  progress : Progress T

variable (T) in
structure Service where
  globalState : GlobalState T
  calls : List (Call T)

namespace Service

def new (config : BuilderConfig T) (now : Nat) : Service T where
  globalState := .new config now
  calls := []

def IsNew (self : Service T) : Prop := ∃ config now, self = new config now

variable (T) in
inductive Action where
  | receive (request : Request T)
  | findBuilder (call : Nat) (timedOut : Bool)
  | buildBlock (call : Nat) (validatedState : ApiTypes.ValidatedState T) (maxBlockSize : Nat)
      (txnQueue : TransactionQueue T)
  | buildTimeOut (call : Nat)
  | answerAvailableBlocks (call : Nat)
  | answerClaimBlock (call : Nat)
  | lookUpHeaderInput (call : Nat)
  | answerHeaderInput (call : Nat) (margin : Bool) (now : Nat)
  | timeOut (call : Nat)
  | prune (cutoff : Nat)
  | coordinate (action : GlobalState.Action T)

def advance (globalState : GlobalState T) (action : Action T) (progress : Progress T) :
    Option (GlobalState T × Progress T) :=
  match action, progress with
  | .findBuilder _ timedOut, .availableBlocks stateId =>
    (globalState.findBuilder stateId timedOut).map fun progress => (globalState, progress)
  | .buildBlock _ validatedState maxBlockSize txnQueue, .building stateId builderState =>
    let result := (BuilderCore.buildBlock (globalState.buildConfig maxBlockSize)
      builderState.parentBlockReferences validatedState txnQueue).2
    some (globalState, .built stateId result)
  | .buildTimeOut _, .building stateId _ =>
    some (globalState, .built stateId (.error .apiTimeout))
  | .answerAvailableBlocks _, .built stateId result =>
    some (globalState.answerAvailableBlocks stateId result)
  | .answerClaimBlock _, .claimBlock blockId =>
    some (globalState, globalState.answerClaimBlock blockId)
  | .lookUpHeaderInput _, .claimBlockHeaderInput blockId =>
    some (globalState, globalState.lookUpHeaderInput blockId)
  | .answerHeaderInput _ margin now, .resolving blockInfo =>
    some (globalState.answerHeaderInput blockInfo margin now)
  | .timeOut _, progress => globalState.timeOut progress
  | _, _ => none

def stepCall (self : Service T) (action : Action T) (i : Nat) : Option (Service T) := do
  let call ← self.calls[i]?
  let (globalState, progress) ← advance self.globalState action call.progress
  return ⟨globalState, self.calls.set i { call with progress }⟩

def step (self : Service T) (action : Action T) : Option (Service T) :=
  match action with
  | .receive request =>
    let (globalState, progress) := self.globalState.receive request
    some ⟨globalState, self.calls ++ [⟨request, progress⟩]⟩
  | .findBuilder i _ | .buildBlock i _ _ _ | .buildTimeOut i | .answerAvailableBlocks i
  | .answerClaimBlock i | .lookUpHeaderInput i | .answerHeaderInput i _ _ | .timeOut i =>
    self.stepCall action i
  | .prune cutoff =>
    some { self with globalState := { self.globalState with
      blockStore := self.globalState.blockStore.prune cutoff } }
  | .coordinate action => do
    let coordinator ← GlobalState.step self.globalState.coordinator action
    return { self with globalState := { self.globalState with coordinator } }

def testConfig : BuilderConfig TestTypes where
  builderKeys := ⟨(7 : Nat), (7 : Nat)⟩
  instanceState := ()
  baseFee := 1
  protocolMaxBlockSize := 1000
  maxBlockSizeIncrementPeriod := 10
  txnGarbageCollectDuration := 10
  numNodes := 4

/--
The bootstrap state is asked for a block, and builds one with the transaction 5.
-/
def testBuild : List (Action TestTypes) := [
  .receive (.availableBlocks (0 : Nat) 0 ⟨(1 : Nat), ((1 : Nat), [0])⟩),
  .findBuilder 0 false,
  .buildBlock 0 () 1000 (TransactionQueue.new.insert (TestTypes.txn 5)).1]

def testBuilt : Service TestTypes := (run step (new testConfig 0) testBuild).get rfl

theorem reachable_testBuilt : Reachable step IsNew testBuilt := ⟨_, testBuild, ⟨_, _, rfl⟩, rfl⟩

end Service

end BuilderCore
