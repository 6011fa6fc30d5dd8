import BuilderCore.Shared.Block
import Mathlib.Algebra.Ring.Nat

/-!
This module contains the API that both legacy builders serve, with what they call to build blocks and
to answer requests.
-/

namespace BuilderCore

/--
The keys, the block payloads and the VID scheme that the builder is generic over.
-/
class ApiTypes (T : NodeType) where
  SignatureKey : Type
  -- `SignatureKey::PureAssembledSignatureType`
  Signature : Type
  BuilderSignatureKey : Type
  BuilderPrivateKey : Type
  BuilderSignature : Type
  SignError : Type
  ValidatedState : Type
  InstanceState : Type
  -- `BlockPayload::Error`
  BlockPayloadError : Type
  validate : SignatureKey → Signature → List UInt8 → Bool
  vidCommitmentAsRef : T.VidCommitment → List UInt8
  builderCommitmentAsRef : T.BuilderCommitment → List UInt8
  signBuilderMessage : BuilderPrivateKey → List UInt8 → Except SignError BuilderSignature
  signBlockInfo : BuilderPrivateKey → Nat → Nat → T.BuilderCommitment →
    Except SignError BuilderSignature
  signFee : BuilderPrivateKey → Nat → T.Metadata → T.VidCommitment →
    Except SignError BuilderSignature
  -- `{:?}`
  debugSignError : SignError → String
  fromTransactions : List T.Transaction → ValidatedState → InstanceState →
    Except BlockPayloadError (T.BlockPayload × T.Metadata)
  numTransactions : T.BlockPayload → T.Metadata → Nat
  encode : T.BlockPayload → T.EncodedTransactions
  len : T.EncodedTransactions → Nat
  vidCommitment : T.EncodedTransactions → Nat → T.VidCommitment

variable (T : NodeType) [ApiTypes T]

structure BuilderKeys where
  publicKey : ApiTypes.BuilderSignatureKey T
  privateKey : ApiTypes.BuilderPrivateKey T

structure AvailableBlockInfo where
  blockHash : T.BuilderCommitment
  blockSize : Nat
  offeredFee : Nat
  signature : ApiTypes.BuilderSignature T
  sender : ApiTypes.BuilderSignatureKey T

structure AvailableBlockData where
  blockPayload : T.BlockPayload
  metadata : T.Metadata
  signature : ApiTypes.BuilderSignature T
  sender : ApiTypes.BuilderSignatureKey T

structure AvailableBlockHeaderInput where
  vidCommitment : T.VidCommitment
  feeSignature : ApiTypes.BuilderSignature T
  messageSignature : ApiTypes.BuilderSignature T
  sender : ApiTypes.BuilderSignatureKey T

inductive BuildError where
  | notFound
  | error (message : String)
  deriving DecidableEq, Repr

structure Authentication where
  sender : ApiTypes.SignatureKey T
  signature : ApiTypes.Signature T

def Authentication.validate {T : NodeType} [ApiTypes T] (self : Authentication T)
    (data : List UInt8) : Bool :=
  ApiTypes.validate self.sender self.signature data

/--
The requests that are signed. The signature of a claim is over the hash of the block, that of the
first request over the commitment of the parent.
-/
inductive Request where
  | availableBlocks (parentBlock : T.VidCommitment) (parentView : Nat)
      (authentication : Authentication T)
  | claimBlock (blockHash : T.BuilderCommitment) (viewNumber : Nat)
      (authentication : Authentication T)
  | claimBlockWithNumNodes (blockHash : T.BuilderCommitment) (viewNumber : Nat)
      (authentication : Authentication T) (numNodes : Nat)
  | claimBlockHeaderInput (blockHash : T.BuilderCommitment) (viewNumber : Nat)
      (authentication : Authentication T)

inductive Response where
  | availableBlocks (blocks : List (AvailableBlockInfo T))
  | claimBlock (block : AvailableBlockData T)
  | claimBlockHeaderInput (info : AvailableBlockHeaderInput T)

variable {T}

namespace Request

def isAuthenticated (self : Request T) : Bool :=
  match self with
  | .availableBlocks parentBlock _ authentication =>
    authentication.validate (ApiTypes.vidCommitmentAsRef parentBlock)
  | .claimBlock blockHash _ authentication
  | .claimBlockWithNumNodes blockHash _ authentication _
  | .claimBlockHeaderInput blockHash _ authentication =>
    authentication.validate (ApiTypes.builderCommitmentAsRef blockHash)

def claimedId (self : Request T) : Option (BlockId T) :=
  match self with
  | .claimBlock blockHash viewNumber _ | .claimBlockWithNumNodes blockHash viewNumber _ _ =>
    some ⟨blockHash, viewNumber⟩
  | .availableBlocks _ _ _ | .claimBlockHeaderInput _ _ _ => none

def numNodes (self : Request T) : Option Nat :=
  match self with
  | .claimBlockWithNumNodes _ _ _ numNodes => some numNodes
  | .availableBlocks _ _ _ | .claimBlock _ _ _ | .claimBlockHeaderInput _ _ _ => none

end Request

/--
A signature is the signed bytes under the number of the key. The VID commitment tells the node counts
apart.
-/
instance : ApiTypes TestTypes where
  SignatureKey := Nat
  Signature := Nat × List UInt8
  BuilderSignatureKey := Nat
  BuilderPrivateKey := Nat
  BuilderSignature := Nat × List UInt8
  SignError := Empty
  ValidatedState := Unit
  InstanceState := Unit
  BlockPayloadError := Empty
  validate key signature data := signature = (key, data)
  vidCommitmentAsRef (commitment : Nat) := [commitment.toUInt8]
  builderCommitmentAsRef (commitment : List Nat) := commitment.map Nat.toUInt8
  signBuilderMessage key data := .ok (key, data)
  signBlockInfo key blockSize offeredFee (hash : List Nat) :=
    .ok (key, blockSize.toUInt8 :: offeredFee.toUInt8 :: hash.map Nat.toUInt8)
  signFee key offeredFee _ (commitment : Nat) :=
    .ok (key, [offeredFee.toUInt8, commitment.toUInt8])
  debugSignError error := nomatch error
  fromTransactions txns _ _ := .ok (txns, ())
  numTransactions (txns : List Nat) _ := txns.length
  encode txns := txns
  len (txns : List Nat) := txns.length
  vidCommitment (txns : List Nat) numNodes := (txns.sum + 1) * numNodes

end BuilderCore
