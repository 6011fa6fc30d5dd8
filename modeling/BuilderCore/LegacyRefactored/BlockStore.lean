import BuilderCore.Api
import BuilderCore.Shared.Coordinator.TieredViewMap

/-!
This module contains the store of the blocks that were built, and that what it caches for a builder
state is always a block of the view of that state.
-/

namespace BuilderCore

variable {T : NodeType}

instance : ViewCompositeKey (BlockId T) where
  Subkey := T.BuilderCommitment
  view := BlockId.view
  subkey := BlockId.hash
  key viewNumber hash := ⟨hash, viewNumber⟩
  view_key _ _ := rfl
  subkey_key _ _ := rfl
  key_view_subkey _ := rfl

variable (T) [ApiTypes T] in
/--
The errors of `Error` that a signed request can end with.
-/
inductive RequestError where
  | signatureValidation
  | signing (error : ApiTypes.SignError T)
  | apiTimeout
  | notFound
  | alreadyDecided
  | buildBlock (error : ApiTypes.BlockPayloadError T)

def RequestError.toBuildError [ApiTypes T] (error : RequestError T) : BuildError :=
  match error with
  | .signatureValidation => .error "Signature validation failed"
  | .signing _ => .error "Failed to sign response"
  | .apiTimeout => .error "Timeout"
  | .notFound => .notFound
  | .alreadyDecided => .error "Request for an already decided view"
  | .buildBlock _ => .error "Failed to build block"

variable (T) in
/--
The computation of the VID commitment of a block, with what it has captured. It gives the same result
however often and whenever it is resolved.
-/
structure VidData where
  encodedTxns : T.EncodedTransactions
  numNodes : Nat

def VidData.resolve [ApiTypes T] (self : VidData T) : T.VidCommitment :=
  ApiTypes.vidCommitment self.encodedTxns self.numNodes

variable (T) in
structure BlockInfo where
  blockPayload : T.BlockPayload
  metadata : T.Metadata
  vidData : VidData T
  blockSize : Nat
  offeredFee : Nat
  truncated : Bool

namespace BlockInfo

def builderCommitment (self : BlockInfo T) : T.BuilderCommitment :=
  T.payloadBuilderCommitment self.blockPayload self.metadata

def signedResponse [ApiTypes T] (self : BlockInfo T) (keys : BuilderKeys T) :
    Except (RequestError T) (AvailableBlockInfo T) :=
  match ApiTypes.signBlockInfo keys.privateKey self.blockSize self.offeredFee
      self.builderCommitment with
  | .error error => .error (.signing error)
  | .ok signature => .ok {
      blockHash := self.builderCommitment
      blockSize := self.blockSize
      offeredFee := self.offeredFee
      signature
      sender := keys.publicKey
    }

theorem blockHash_of_signedResponse [ApiTypes T] {self : BlockInfo T} {keys : BuilderKeys T}
    {response : AvailableBlockInfo T} (h : self.signedResponse keys = .ok response) :
    response.blockHash = self.builderCommitment := by
  unfold signedResponse at h
  split at h
  . contradiction
  . rw [← Except.ok.inj h]

end BlockInfo

variable (T) in
structure BlockStore where
  blocks : TieredViewMap (BlockId T) (BlockInfo T)
  blockCache : TieredViewMap (BuilderStateId T) (BlockId T)

namespace BlockStore

def new : BlockStore T where
  blocks := .new
  blockCache := .new

def update (self : BlockStore T) (builtBy : BuilderStateId T) (blockId : BlockId T)
    (blockInfo : BlockInfo T) : BlockStore T where
  blocks := self.blocks.insert blockId blockInfo
  blockCache := self.blockCache.insert builtBy blockId

def getCached (self : BlockStore T) (builderId : BuilderStateId T) : Option (BlockInfo T) := do
  let blockId ← self.blockCache.get builderId
  self.blocks.get blockId

def getBlock (self : BlockStore T) (blockId : BlockId T) : Option (BlockInfo T) :=
  self.blocks.get blockId

def prune (self : BlockStore T) (cutoff : Nat) : BlockStore T where
  blocks := (self.blocks.prune cutoff).1
  blockCache := (self.blockCache.prune cutoff).1

@[simp]
theorem getBlock_update (self : BlockStore T) (builtBy : BuilderStateId T)
    (blockId blockId' : BlockId T) (blockInfo : BlockInfo T) :
    (self.update builtBy blockId blockInfo).getBlock blockId' =
      if blockId' = blockId then some blockInfo else self.getBlock blockId' := by
  simp [getBlock, update]

@[simp]
theorem getBlock_prune (self : BlockStore T) (cutoff : Nat) (blockId : BlockId T) :
    (self.prune cutoff).getBlock blockId =
      if cutoff ≤ blockId.view then self.getBlock blockId else none := by
  simp only [getBlock, prune, TieredViewMap.get_prune_fst]
  rfl

@[simp]
theorem blockCache_update (self : BlockStore T) (builtBy builtBy' : BuilderStateId T)
    (blockId : BlockId T) (blockInfo : BlockInfo T) :
    (self.update builtBy blockId blockInfo).blockCache.get builtBy' =
      if builtBy' = builtBy then some blockId else self.blockCache.get builtBy' := by
  simp [update]

@[simp]
theorem blockCache_prune (self : BlockStore T) (cutoff : Nat) (builtBy : BuilderStateId T) :
    (self.prune cutoff).blockCache.get builtBy =
      if cutoff ≤ builtBy.parentView then self.blockCache.get builtBy else none := by
  simp only [prune, TieredViewMap.get_prune_fst]
  rfl

/--
Blocks are stored under their own hash, and what is cached for a builder state is one of them, of the
view of that state.
-/
structure Consistent (blockStore : BlockStore T) : Prop where
  hash : ∀ {blockId blockInfo}, blockStore.getBlock blockId = some blockInfo →
    blockInfo.builderCommitment = blockId.hash
  view : ∀ {builtBy blockId}, blockStore.blockCache.get builtBy = some blockId →
    blockId.view = builtBy.parentView
  stored : ∀ {builtBy blockId}, blockStore.blockCache.get builtBy = some blockId →
    (blockStore.getBlock blockId).isSome = true

section

variable {self : BlockStore T}

theorem consistent_new : (new : BlockStore T).Consistent where
  hash h := by
    simp only [getBlock, new, TieredViewMap.get_new] at h
    contradiction
  view h := by
    simp only [new, TieredViewMap.get_new] at h
    contradiction
  stored h := by
    simp only [new, TieredViewMap.get_new] at h
    contradiction

theorem Consistent.update (h : self.Consistent) (builtBy : BuilderStateId T)
    (blockInfo : BlockInfo T) :
    (self.update builtBy ⟨blockInfo.builderCommitment, builtBy.parentView⟩
      blockInfo).Consistent := by
  constructor
  . intro blockId blockInfo' hget
    rw [getBlock_update] at hget
    split at hget
    . next hid =>
      rw [← Option.some.inj hget, hid]
    . exact h.hash hget
  . intro builtBy' blockId hget
    rw [blockCache_update] at hget
    split at hget
    . next hid =>
      rw [← Option.some.inj hget, hid]
    . exact h.view hget
  . intro builtBy' blockId hget
    rw [blockCache_update] at hget
    rw [getBlock_update]
    split
    . rfl
    . next hid =>
      split at hget
      . exact absurd (Option.some.inj hget).symm hid
      . exact h.stored hget

theorem Consistent.prune (h : self.Consistent) (cutoff : Nat) : (self.prune cutoff).Consistent := by
  constructor
  . intro blockId blockInfo hget
    rw [getBlock_prune] at hget
    split at hget
    . exact h.hash hget
    . contradiction
  . intro builtBy blockId hget
    rw [blockCache_prune] at hget
    split at hget
    . exact h.view hget
    . contradiction
  . intro builtBy blockId hget
    rw [blockCache_prune] at hget
    split at hget
    . next hcutoff =>
      rw [getBlock_prune, h.view hget, if_pos hcutoff]
      exact h.stored hget
    . contradiction

theorem Consistent.getCached (h : self.Consistent) {builtBy : BuilderStateId T}
    {blockInfo : BlockInfo T} (hcached : self.getCached builtBy = some blockInfo) :
    self.getBlock ⟨blockInfo.builderCommitment, builtBy.parentView⟩ = some blockInfo := by
  simp only [BlockStore.getCached, Option.bind_eq_bind, Option.bind_eq_some_iff] at hcached
  obtain ⟨blockId, hid, hget⟩ := hcached
  have hgetBlock : self.getBlock blockId = some blockInfo := hget
  rw [h.hash hgetBlock, ← h.view hid]
  exact hgetBlock

end

end BlockStore

end BuilderCore
