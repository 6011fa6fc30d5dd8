import BuilderCore.Legacy.BuildBlock
import BuilderCore.Legacy.Fallback

/-!
This module contains the service of the legacy builder: the calls that it answers, the blocks that are
built for them, and the tasks that compute the VID commitments of these blocks, cut where they wait.
-/

namespace BuilderCore

open Collections Transition

variable {T : NodeType} [ApiTypes T]

namespace Legacy

variable (T) in
inductive AvailableBlocksError where
  | signatureValidationFailed
  | requestForAvailableViewThatHasAlreadyBeenDecided
  | signingBlockFailed (error : ApiTypes.SignError T)
  | getChannelForMatchingBuilderError (error : GlobalState.GetChannelForMatchingBuilderError)
  | noBlocksAvailable
  | channelUnexpectedlyClosed

def AvailableBlocksError.toBuildError (error : AvailableBlocksError T) : BuildError :=
  match error with
  | .signatureValidationFailed => .error "Signature validation failed in get_available_blocks"
  | .requestForAvailableViewThatHasAlreadyBeenDecided =>
    .error "Request for available blocks for a view that has already been decided."
  | .signingBlockFailed e =>
    .error s!"Signing over block info failed: {ApiTypes.debugSignError e}"
  | .getChannelForMatchingBuilderError .noBuilderStateFound => .error "No builder state found"
  | .noBlocksAvailable => .error "No blocks available"
  | .channelUnexpectedlyClosed => .error "Channel unexpectedly closed"

variable (T) in
inductive ClaimBlockError where
  | signatureValidationFailed
  | signingCommitmentFailed (error : ApiTypes.SignError T)
  | blockDataNotFound

def ClaimBlockError.toBuildError (error : ClaimBlockError T) : BuildError :=
  match error with
  | .signatureValidationFailed => .error "Signature validation failed in claim block"
  | .signingCommitmentFailed e =>
    .error s!"Signing over builder commitment failed: {ApiTypes.debugSignError e}"
  | .blockDataNotFound => .error "Block data not found"

variable (T) in
inductive ClaimBlockHeaderInputError where
  | signatureValidationFailed
  | blockHeaderNotFound
  | couldNotGetVidInTime
  | failedToResolvedVidCommitmentFromChannel
  | failedToSignVidCommitment (error : ApiTypes.SignError T)
  | failedToSignFeeInfo (error : ApiTypes.SignError T)

def ClaimBlockHeaderInputError.toBuildError (error : ClaimBlockHeaderInputError T) : BuildError :=
  match error with
  | .signatureValidationFailed =>
    .error "Signature validation failed in claim block header input"
  | .blockHeaderNotFound => .error "Block header not found"
  | .couldNotGetVidInTime => .error "Couldn't get vid in time"
  | .failedToResolvedVidCommitmentFromChannel =>
    .error "failed to resolve VidCommitment from channel"
  | .failedToSignVidCommitment e =>
    .error s!"Failed to sign VID commitment: {ApiTypes.debugSignError e}"
  | .failedToSignFeeInfo e => .error s!"Failed to sign fee info: {ApiTypes.debugSignError e}"

variable (T) in
inductive Progress where
  | availableBlocks (stateId : BuilderStateId T)
  | routing (stateId : BuilderStateId T)
  | waiting (stateId : BuilderStateId T) (sender : Nat)
  | claimBlock (blockId : BlockId T)
  | claiming (blockId : BlockId T) (blockInfo : BlockInfo T)
  | claimBlockHeaderInput (blockId : BlockId T)
  | gettingVid (blockId : BlockId T) (blockInfo : BlockInfo T)
  | done (result : Except BuildError (Response T))

namespace Progress

def failAvailableBlocks (error : AvailableBlocksError T) : Progress T :=
  .done (.error error.toBuildError)

def failClaimBlock (error : ClaimBlockError T) : Progress T := .done (.error error.toBuildError)

def failHeaderInput (error : ClaimBlockHeaderInputError T) : Progress T :=
  .done (.error error.toBuildError)

end Progress

variable (T) in
structure ProxyGlobalState where
  globalState : GlobalState T Nat
  builderKeys : BuilderKeys T

namespace ProxyGlobalState

def availableBlocks (self : ProxyGlobalState T) (forParent : T.VidCommitment) (viewNumber : Nat)
    (authentication : Authentication T) : ProxyGlobalState T × Progress T :=
  if ¬ authentication.validate (ApiTypes.vidCommitmentAsRef forParent) then
    (self, .failAvailableBlocks .signatureValidationFailed)
  else
    (self, .availableBlocks ⟨viewNumber, forParent⟩)

def claimBlock (self : ProxyGlobalState T) (blockHash : T.BuilderCommitment) (viewNumber : Nat)
    (authentication : Authentication T) : ProxyGlobalState T × Progress T :=
  if ¬ authentication.validate (ApiTypes.builderCommitmentAsRef blockHash) then
    (self, .failClaimBlock .signatureValidationFailed)
  else
    (self, .claimBlock ⟨blockHash, viewNumber⟩)

def claimBlockWithNumNodes (self : ProxyGlobalState T) (blockHash : T.BuilderCommitment)
    (viewNumber : Nat) (authentication : Authentication T) (numNodes : Nat) :
    ProxyGlobalState T × Progress T :=
  { self with globalState := { self.globalState with numNodes } }.claimBlock blockHash viewNumber
    authentication

def claimBlockHeaderInput (self : ProxyGlobalState T) (blockHash : T.BuilderCommitment)
    (viewNumber : Nat) (authentication : Authentication T) : ProxyGlobalState T × Progress T :=
  if ¬ authentication.validate (ApiTypes.builderCommitmentAsRef blockHash) then
    (self, .failHeaderInput .signatureValidationFailed)
  else
    (self, .claimBlockHeaderInput ⟨blockHash, viewNumber⟩)

/--
A call up to where it takes the lock of the global state to find a builder or a block.
-/
def receive (self : ProxyGlobalState T) (request : Request T) :
    ProxyGlobalState T × Progress T :=
  match request with
  | .availableBlocks forParent viewNumber authentication =>
    self.availableBlocks forParent viewNumber authentication
  | .claimBlock blockHash viewNumber authentication =>
    self.claimBlock blockHash viewNumber authentication
  | .claimBlockWithNumNodes blockHash viewNumber authentication numNodes =>
    self.claimBlockWithNumNodes blockHash viewNumber authentication numNodes
  | .claimBlockHeaderInput blockHash viewNumber authentication =>
    self.claimBlockHeaderInput blockHash viewNumber authentication

/--
What an authenticated request does next.
-/
def started (request : Request T) : Progress T :=
  match request with
  | .availableBlocks forParent viewNumber _ => .availableBlocks ⟨viewNumber, forParent⟩
  | .claimBlock blockHash viewNumber _ | .claimBlockWithNumNodes blockHash viewNumber _ _ =>
    .claimBlock ⟨blockHash, viewNumber⟩
  | .claimBlockHeaderInput blockHash viewNumber _ =>
    .claimBlockHeaderInput ⟨blockHash, viewNumber⟩

def signatureError (request : Request T) : Progress T :=
  match request with
  | .availableBlocks _ _ _ => .failAvailableBlocks .signatureValidationFailed
  | .claimBlock _ _ _ | .claimBlockWithNumNodes _ _ _ _ =>
    .failClaimBlock .signatureValidationFailed
  | .claimBlockHeaderInput _ _ _ => .failHeaderInput .signatureValidationFailed

theorem receive_eq (self : ProxyGlobalState T) (request : Request T) :
    self.receive request = ({ self with globalState := { self.globalState with
        numNodes := request.numNodes.getD self.globalState.numNodes } },
      if request.isAuthenticated then started request else signatureError request) := by
  cases request with
  | availableBlocks forParent viewNumber authentication =>
    cases h : authentication.validate (ApiTypes.vidCommitmentAsRef forParent) <;>
      simp [receive, availableBlocks, started, signatureError, Request.isAuthenticated,
        Request.numNodes, h]
  | claimBlock blockHash viewNumber authentication =>
    cases h : authentication.validate (ApiTypes.builderCommitmentAsRef blockHash) <;>
      simp [receive, claimBlock, started, signatureError, Request.isAuthenticated,
        Request.numNodes, h]
  | claimBlockWithNumNodes blockHash viewNumber authentication numNodes =>
    cases h : authentication.validate (ApiTypes.builderCommitmentAsRef blockHash) <;>
      simp [receive, claimBlockWithNumNodes, claimBlock, started, signatureError,
        Request.isAuthenticated, Request.numNodes, h]
  | claimBlockHeaderInput blockHash viewNumber authentication =>
    cases h : authentication.validate (ApiTypes.builderCommitmentAsRef blockHash) <;>
      simp [receive, claimBlockHeaderInput, started, signatureError, Request.isAuthenticated,
        Request.numNodes, h]

theorem exists_error_signatureError (request : Request T) :
    ∃ error, signatureError request = .done (.error error) := by
  cases request <;> exact ⟨_, rfl⟩

def checkDecided (self : ProxyGlobalState T) (stateId : BuilderStateId T) : Progress T :=
  if stateId.parentView < self.globalState.lastGarbageCollectedViewNum ∧
      self.globalState.highestViewNumBuilderId.parentView ≠
        self.globalState.lastGarbageCollectedViewNum then
    .failAvailableBlocks .requestForAvailableViewThatHasAlreadyBeenDecided
  else
    .routing stateId

/--
One try to find the matching builder, or the end of the time for it.
-/
def route (self : ProxyGlobalState T) (stateId : BuilderStateId T) (timedOut : Bool) :
    Option (Progress T) :=
  if timedOut then
    match self.globalState.getChannelForMatchingBuilderOrHighestViewBuilder stateId with
    | .error error => some (.failAvailableBlocks (.getChannelForMatchingBuilderError error))
    | .ok sender => some (.waiting stateId sender)
  else
    match self.globalState.spawnedBuilderStates.get? stateId with
    | some (_, sender) => some (.waiting stateId sender)
    | none => none

def answerAvailableBlocks (self : ProxyGlobalState T) (response : ResponseMessage T) :
    Progress T :=
  match ApiTypes.signBlockInfo self.builderKeys.privateKey response.blockSize response.offeredFee
      response.builderHash with
  | .error error => .failAvailableBlocks (.signingBlockFailed error)
  | .ok signature => .done (.ok (.availableBlocks [{
      blockHash := response.builderHash
      blockSize := response.blockSize
      offeredFee := response.offeredFee
      signature
      sender := self.builderKeys.publicKey
    }]))

def answerLastBuiltBlock (self : ProxyGlobalState T) (stateId : BuilderStateId T) : Progress T :=
  match self.globalState.builderStateToLastBuiltBlock.get? stateId with
  | some lastBuiltBlock => self.answerAvailableBlocks lastBuiltBlock
  | none => .failAvailableBlocks .noBlocksAvailable

/--
The look-up counts as a use of the block.
-/
def lookUpBlock (self : ProxyGlobalState T) (blockId : BlockId T) :
    ProxyGlobalState T × Option (BlockInfo T) :=
  let (blockInfo, blocks) := self.globalState.blocks.get blockId
  ({ self with globalState := { self.globalState with blocks } }, blockInfo)

def answerClaimBlock (self : ProxyGlobalState T) (blockInfo : BlockInfo T) : Progress T :=
  match ApiTypes.signBuilderMessage self.builderKeys.privateKey (ApiTypes.builderCommitmentAsRef
      (T.payloadBuilderCommitment blockInfo.blockPayload blockInfo.metadata)) with
  | .error error => .failClaimBlock (.signingCommitmentFailed error)
  | .ok signature => .done (.ok (.claimBlock {
      blockPayload := blockInfo.blockPayload
      metadata := blockInfo.metadata
      signature
      sender := self.builderKeys.publicKey
    }))

def answerHeaderInput (self : ProxyGlobalState T) (blockInfo : BlockInfo T)
    (vidCommitment : T.VidCommitment) : Progress T :=
  match ApiTypes.signBuilderMessage self.builderKeys.privateKey
      (ApiTypes.vidCommitmentAsRef vidCommitment) with
  | .error error => .failHeaderInput (.failedToSignVidCommitment error)
  | .ok messageSignature =>
    match ApiTypes.signFee self.builderKeys.privateKey blockInfo.offeredFee blockInfo.metadata
        vidCommitment with
    | .error error => .failHeaderInput (.failedToSignFeeInfo error)
    | .ok feeSignature => .done (.ok (.claimBlockHeaderInput {
        vidCommitment
        feeSignature
        messageSignature
        sender := self.builderKeys.publicKey
      }))

/--
`margin` is whether there was time to spare.
-/
def adjustBlockSize (self : ProxyGlobalState T) (blockInfo : BlockInfo T) (margin : Bool)
    (now : Nat) : ProxyGlobalState T :=
  if margin then
    let blockSizeLimits :=
      self.globalState.blockSizeLimits.tryIncrementBlockSize blockInfo.truncated now
    { self with globalState := { self.globalState with blockSizeLimits } }
  else
    self

def timeOutVid (self : ProxyGlobalState T) : ProxyGlobalState T × Progress T :=
  -- we can't keep up with this block size, reduce max block size
  let blockSizeLimits := self.globalState.blockSizeLimits.decrementBlockSize
  ({ self with globalState := { self.globalState with blockSizeLimits } },
    .failHeaderInput .couldNotGetVidInTime)

end ProxyGlobalState

variable (T) in
structure Call where
  request : Request T
  progress : Progress T

variable (T) in
/--
A block that was built, with the task that computes its VID commitment, and whether it is in the
global state yet. The number of the build is that of the task.
-/
structure Build where
  stateId : BuilderStateId T
  info : BuildBlockInfo T
  vidTask : VidTask T
  stored : Bool

def Build.responseMsg (self : Build T) : ResponseMessage T where
  builderHash := self.info.id.hash
  blockSize := self.info.blockSize
  offeredFee := self.info.offeredFee

variable (T) in
structure Service where
  proxy : ProxyGlobalState T
  calls : List (Call T)
  builds : List (Build T)

namespace Service

def new (config : Config T Nat) (builderKeys : BuilderKeys T) : Service T where
  proxy := ⟨.new config, builderKeys⟩
  calls := []
  builds := []

def IsNew (self : Service T) : Prop := ∃ config builderKeys, self = new config builderKeys

variable (T) in
inductive Action where
  | receive (request : Request T)
  | checkDecided (call : Nat)
  | route (call : Nat) (timedOut : Bool)
  | respond (call : Nat) (build : Nat)
  | closeChannel (call : Nat)
  | timeOutResponse (call : Nat)
  | lookUpBlock (call : Nat)
  | triggerVid (call : Nat)
  | lookUpHeaderInput (call : Nat)
  | getVid (call : Nat) (margin : Bool) (now : Nat)
  | closeVid (call : Nat) (margin : Bool) (now : Nat)
  | timeOutVid (call : Nat)
  | buildBlock (builder : BlockBuilder T) (maxBlockSize : Nat)
  | updateGlobalState (build : Nat)
  | handle (call : GlobalState.HandleCall T Nat)

/--
What a step makes of the call that it is about, apart from the VID task that it may trigger.
-/
def advance (self : Service T) (action : Action T) (progress : Progress T) :
    Option (ProxyGlobalState T × Progress T) :=
  match action, progress with
  | .checkDecided _, .availableBlocks stateId => some (self.proxy, self.proxy.checkDecided stateId)
  | .route _ timedOut, .routing stateId =>
    (self.proxy.route stateId timedOut).map fun progress => (self.proxy, progress)
  | .respond _ j, .waiting stateId _ => do
    let build ← self.builds[j]?
    -- the response is sent after the global state is updated
    guard (build.stored ∧ build.stateId = stateId)
    return (self.proxy, self.proxy.answerAvailableBlocks build.responseMsg)
  | .closeChannel _, .waiting _ _ =>
    some (self.proxy, .failAvailableBlocks .channelUnexpectedlyClosed)
  | .timeOutResponse _, .waiting stateId _ =>
    some (self.proxy, self.proxy.answerLastBuiltBlock stateId)
  | .lookUpBlock _, .claimBlock blockId =>
    match self.proxy.lookUpBlock blockId with
    | (proxy, none) => some (proxy, .failClaimBlock .blockDataNotFound)
    | (proxy, some blockInfo) => some (proxy, .claiming blockId blockInfo)
  | .triggerVid _, .claiming _ blockInfo => some (self.proxy, self.proxy.answerClaimBlock blockInfo)
  | .lookUpHeaderInput _, .claimBlockHeaderInput blockId =>
    match self.proxy.lookUpBlock blockId with
    | (proxy, none) => some (proxy, .failHeaderInput .blockHeaderNotFound)
    | (proxy, some blockInfo) => some (proxy, .gettingVid blockId blockInfo)
  | .getVid _ margin now, .gettingVid _ blockInfo => do
    let build ← self.builds[blockInfo.vid]?
    guard build.vidTask.triggered
    let vidCommitment :=
      ApiTypes.vidCommitment build.vidTask.encodedTxns build.vidTask.numNodes
    return (self.proxy.adjustBlockSize blockInfo margin now,
      self.proxy.answerHeaderInput blockInfo vidCommitment)
  | .closeVid _ margin now, .gettingVid blockId blockInfo => do
    let build ← self.builds[blockInfo.vid]?
    -- the trigger was dropped with the block that it was kept in
    guard (¬ build.vidTask.triggered ∧
      ∀ current ∈ self.proxy.globalState.blocks.peek blockId, current.vid ≠ blockInfo.vid)
    return (self.proxy.adjustBlockSize blockInfo margin now,
      .failHeaderInput .failedToResolvedVidCommitmentFromChannel)
  | .timeOutVid _, .gettingVid _ _ => some self.proxy.timeOutVid
  | _, _ => none

/--
The VID tasks after the step: a claim sends its trigger before it answers.
-/
def trigger (builds : List (Build T)) (progress : Progress T) : List (Build T) :=
  match progress with
  | .claiming _ blockInfo => builds.modify blockInfo.vid fun build =>
    { build with vidTask := { build.vidTask with triggered := true } }
  | _ => builds

def stepCall (self : Service T) (action : Action T) (i : Nat) : Option (Service T) := do
  let call ← self.calls[i]?
  let (proxy, progress) ← self.advance action call.progress
  return {
    proxy
    calls := self.calls.set i { call with progress }
    builds := trigger self.builds call.progress
  }

/--
A task only builds for its own id. `maxBlockSize` is the limit at the time the queue is read.
-/
def buildBlock (self : Service T) (builder : BlockBuilder T) (maxBlockSize : Nat) :
    Option (Service T) := do
  let stateId := builder.state.id
  let (info, vidTask) ← (builder.buildBlock stateId maxBlockSize self.proxy.globalState.numNodes
    self.builds.length).2
  return { self with builds := self.builds ++ [⟨stateId, info, vidTask, false⟩] }

def updateGlobalState (self : Service T) (j : Nat) : Option (Service T) := do
  let build ← self.builds[j]?
  guard (¬ build.stored)
  let globalState :=
    self.proxy.globalState.updateGlobalState build.stateId build.info build.responseMsg
  return { self with
    proxy := { self.proxy with globalState }
    builds := self.builds.set j { build with stored := true } }

def step (self : Service T) (action : Action T) : Option (Service T) :=
  match action with
  | .receive request =>
    let (proxy, progress) := self.proxy.receive request
    some { self with proxy, calls := self.calls ++ [⟨request, progress⟩] }
  | .checkDecided i | .route i _ | .respond i _ | .closeChannel i | .timeOutResponse i
  | .lookUpBlock i | .triggerVid i | .lookUpHeaderInput i | .getVid i _ _ | .closeVid i _ _
  | .timeOutVid i => self.stepCall action i
  | .buildBlock builder maxBlockSize => self.buildBlock builder maxBlockSize
  | .updateGlobalState j => self.updateGlobalState j
  | .handle call => do
    let globalState ← self.proxy.globalState.handle call
    return { self with proxy := { self.proxy with globalState } }

def testStart : Service TestTypes := new GlobalState.testConfig ⟨(7 : Nat), (7 : Nat)⟩

def testBuilder : BlockBuilder TestTypes := .new .bootstrap [TestTypes.txn 5] 1 () ()

end Service

end Legacy

end BuilderCore
