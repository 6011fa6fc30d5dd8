import BuilderCore.BlockSizeLimits
import BuilderCore.Collections.LruCache
import BuilderCore.Legacy.BestBuilderStates
import BuilderCore.Shared.Coordinator.TxStatus
import BuilderCore.Transition

/-!
This module contains the global state of the legacy builder, and that the builder of its highest view
is always registered.
-/

namespace BuilderCore

open Collections Transition

variable {T : NodeType} {Sender : Type}

namespace Legacy

/--
`vid` is the number of the task that computes the VID commitment. It stands for the two ends of the
channels to that task, which every build makes anew.
-/
structure BlockInfo (T : NodeType) where
  blockPayload : T.BlockPayload
  metadata : T.Metadata
  vid : Nat
  offeredFee : Nat
  truncated : Bool

structure BuildBlockInfo (T : NodeType) where
  id : BlockId T
  blockSize : Nat
  offeredFee : Nat
  blockPayload : T.BlockPayload
  metadata : T.Metadata
  vid : Nat
  truncated : Bool

structure ResponseMessage (T : NodeType) where
  builderHash : T.BuilderCommitment
  blockSize : Nat
  offeredFee : Nat

structure GlobalState (T : NodeType) (Sender : Type) where
  blocks : LruCache (BlockId T) (BlockInfo T)
  spawnedBuilderStates : SpawnedBuilderStates T Sender
  builderStateToLastBuiltBlock : HashMap (BuilderStateId T) (ResponseMessage T)
  lastGarbageCollectedViewNum : Nat
  highestViewNumBuilderId : BuilderStateId T
  blockSizeLimits : BlockSizeLimits
  txStatus : LruCache T.TxnCommitment TransactionStatus
  numNodes : Nat

/--
The arguments of `GlobalState::new`. `max_txn_num` is a `NonZeroUsize` there in the end.
-/
structure Config (T : NodeType) (Sender : Type) where
  bootstrapSender : Sender
  bootstrapId : BuilderStateId T
  lastGarbageCollectedViewNum : Nat
  maxBlockSizeIncrementPeriod : Nat
  protocolMaxBlockSize : Nat
  numNodes : Nat
  maxTxnNum : Nat
  maxTxnNum_pos : 0 < maxTxnNum
  now : Nat

namespace GlobalState

def new (config : Config T Sender) : GlobalState T Sender where
  blocks := .new 256 (by decide)
  -- the references of the bootstrap state are not known
  spawnedBuilderStates := HashMap.empty.insert config.bootstrapId (none, config.bootstrapSender)
  builderStateToLastBuiltBlock := .empty
  lastGarbageCollectedViewNum := config.lastGarbageCollectedViewNum
  highestViewNumBuilderId := config.bootstrapId
  blockSizeLimits :=
    .new config.protocolMaxBlockSize config.maxBlockSizeIncrementPeriod config.now
  txStatus := .new config.maxTxnNum config.maxTxnNum_pos
  numNodes := config.numNodes

def IsNew (self : GlobalState T Sender) : Prop := ∃ config, self = new config

def registerBuilderState (self : GlobalState T Sender) (parentId : BuilderStateId T)
    (builtFromProposedBlock : ParentBlockReferences T) (requestSender : Sender) :
    GlobalState T Sender where
  __ := self
  -- whatever was registered under the id is lost
  spawnedBuilderStates :=
    self.spawnedBuilderStates.insert parentId (some builtFromProposedBlock, requestSender)
  highestViewNumBuilderId :=
    if parentId.parentView > self.highestViewNumBuilderId.parentView then
      parentId
    else
      self.highestViewNumBuilderId

def updateGlobalState (self : GlobalState T Sender) (stateId : BuilderStateId T)
    (buildBlockInfo : BuildBlockInfo T) (responseMsg : ResponseMessage T) :
    GlobalState T Sender where
  __ := self
  blocks := self.blocks.put buildBlockInfo.id {
    blockPayload := buildBlockInfo.blockPayload
    metadata := buildBlockInfo.metadata
    vid := buildBlockInfo.vid
    offeredFee := buildBlockInfo.offeredFee
    truncated := buildBlockInfo.truncated
  }
  builderStateToLastBuiltBlock := self.builderStateToLastBuiltBlock.insert stateId responseMsg

def cutoff (self : GlobalState T Sender) (onDecideView : Nat) : Nat :=
  min self.highestViewNumBuilderId.parentView onDecideView

def removeHandles (self : GlobalState T Sender) (onDecideView : Nat) :
    GlobalState T Sender × Nat :=
  let cutoff := self.cutoff onDecideView
  let spawnedBuilderStates := self.spawnedBuilderStates.retain fun id => cutoff ≤ id.parentView
  let gcView := if cutoff > 0 then cutoff - 1 else 0
  ({ self with spawnedBuilderStates, lastGarbageCollectedViewNum := gcView }, cutoff)

inductive GetChannelForMatchingBuilderError where
  | noBuilderStateFound
  deriving DecidableEq, Repr

def getChannelForMatchingBuilderOrHighestViewBuilder (self : GlobalState T Sender)
    (key : BuilderStateId T) : Except GetChannelForMatchingBuilderError Sender :=
  match self.spawnedBuilderStates.get? key with
  | some (_, sender) => .ok sender
  | none =>
    match self.spawnedBuilderStates.get? self.highestViewNumBuilderId with
    | some (_, sender) => .ok sender
    | none => .error .noBuilderStateFound

section

variable {self : GlobalState T Sender}

@[simp]
theorem registerBuilderState_spawned (parentId : BuilderStateId T)
    (refs : ParentBlockReferences T) (sender : Sender) :
    (self.registerBuilderState parentId refs sender).spawnedBuilderStates =
      self.spawnedBuilderStates.insert parentId (some refs, sender) := rfl

theorem eq_or_get?_of_registerBuilderState {parentId id : BuilderStateId T}
    {refs : ParentBlockReferences T} {sender : Sender}
    {entry : Option (ParentBlockReferences T) × Sender} (hget : (self.registerBuilderState
      parentId refs sender).spawnedBuilderStates.get? id = some entry) :
    id = parentId ∧ entry = (some refs, sender) ∨
      self.spawnedBuilderStates.get? id = some entry := by
  rw [registerBuilderState_spawned, HashMap.get?_insert] at hget
  split at hget
  . next hid => exact .inl ⟨hid, (Option.some.inj hget).symm⟩
  . exact .inr hget

@[simp]
theorem removeHandles_snd (onDecideView : Nat) :
    (self.removeHandles onDecideView).2 = self.cutoff onDecideView := rfl

@[simp]
theorem removeHandles_highest (onDecideView : Nat) :
    (self.removeHandles onDecideView).1.highestViewNumBuilderId = self.highestViewNumBuilderId :=
  rfl

@[simp]
theorem get?_removeHandles (onDecideView : Nat) (id : BuilderStateId T) :
    (self.removeHandles onDecideView).1.spawnedBuilderStates.get? id =
      if self.cutoff onDecideView ≤ id.parentView then
        self.spawnedBuilderStates.get? id
      else
        none := by
  simp [removeHandles]

theorem highest_le_registerBuilderState (self : GlobalState T Sender)
    (parentId : BuilderStateId T) (refs : ParentBlockReferences T) (sender : Sender) :
    self.highestViewNumBuilderId.parentView ≤
      (self.registerBuilderState parentId refs sender).highestViewNumBuilderId.parentView ∧
    parentId.parentView ≤
      (self.registerBuilderState parentId refs sender).highestViewNumBuilderId.parentView := by
  simp only [registerBuilderState]
  split <;> omega

end

end GlobalState

end Legacy

end BuilderCore
