import Mathlib.Data.List.Basic

/-!
This module contains the types that identify blocks, proposals and builder states. The types and
functions of HotShot that the builder is generic over are the fields of `NodeType`.
-/

namespace BuilderCore

/--
Views, instants and durations are numbers.
-/
def View.genesis : Nat := 0

structure QuorumCertificate (LeafCommitment : Type) where
  viewNumber : Nat
  leafCommit : LeafCommitment

structure NodeType where
  Transaction : Type
  TxnCommitment : Type
  VidCommitment : Type
  BuilderCommitment : Type
  LeafCommitment : Type
  BlockPayload : Type
  EncodedTransactions : Type
  Metadata : Type
  QuorumProposalWrapper : Type
  [decEqTxnCommitment : DecidableEq TxnCommitment]
  [decEqVidCommitment : DecidableEq VidCommitment]
  [decEqBuilderCommitment : DecidableEq BuilderCommitment]
  [decEqLeafCommitment : DecidableEq LeafCommitment]
  commit : Transaction → TxnCommitment
  minimumBlockSize : Transaction → Nat
  fromBytes : EncodedTransactions → Metadata → BlockPayload
  transactionCommitments : BlockPayload → Metadata → List TxnCommitment
  payloadBuilderCommitment : BlockPayload → Metadata → BuilderCommitment
  viewNumber : QuorumProposalWrapper → Nat
  -- `block_header().payload_commitment()`
  payloadCommitment : QuorumProposalWrapper → VidCommitment
  -- `block_header().builder_commitment()`
  builderCommitment : QuorumProposalWrapper → BuilderCommitment
  justifyQc : QuorumProposalWrapper → QuorumCertificate LeafCommitment
  -- `Leaf2::from_quorum_proposal(..).commit()`
  leafCommit : QuorumProposalWrapper → LeafCommitment
  fakeCommitment : LeafCommitment
  defaultVidCommitment : VidCommitment
  emptyBuilderCommitment : BuilderCommitment

attribute [instance] NodeType.decEqTxnCommitment NodeType.decEqVidCommitment
  NodeType.decEqBuilderCommitment NodeType.decEqLeafCommitment

variable {T : NodeType}

structure DaProposal2 (T : NodeType) where
  viewNumber : Nat
  encodedTransactions : T.EncodedTransactions
  metadata : T.Metadata

namespace DaProposal2

def blockPayload (daProposal : DaProposal2 T) : T.BlockPayload :=
  T.fromBytes daProposal.encodedTransactions daProposal.metadata

def txnCommitments (daProposal : DaProposal2 T) : List T.TxnCommitment :=
  T.transactionCommitments daProposal.blockPayload daProposal.metadata

end DaProposal2

inductive TransactionSource where
  | privateMempool
  | publicMempool
  deriving DecidableEq, Repr

structure ReceivedTransaction (T : NodeType) where
  transaction : T.Transaction
  commit : T.TxnCommitment
  minBlockSize : Nat
  source : TransactionSource
  commit_eq : commit = T.commit transaction
  minBlockSize_eq : minBlockSize = T.minimumBlockSize transaction

def ReceivedTransaction.new (transaction : T.Transaction) (source : TransactionSource) :
    ReceivedTransaction T where
  transaction
  commit := T.commit transaction
  minBlockSize := T.minimumBlockSize transaction
  source
  commit_eq := rfl
  minBlockSize_eq := rfl

structure BuilderStateId (T : NodeType) where
  parentView : Nat
  parentCommitment : T.VidCommitment
  deriving DecidableEq

structure BlockId (T : NodeType) where
  hash : T.BuilderCommitment
  view : Nat
  deriving DecidableEq

structure ParentBlockReferences (T : NodeType) where
  viewNumber : Nat
  vidCommitment : T.VidCommitment
  leafCommit : T.LeafCommitment
  builderCommitment : T.BuilderCommitment
  txCount : Nat
  lastNonemptyView : Option Nat
  deriving DecidableEq

def ParentBlockReferences.bootstrap : ParentBlockReferences T where
  viewNumber := View.genesis
  vidCommitment := T.defaultVidCommitment
  leafCommit := T.fakeCommitment
  builderCommitment := T.emptyBuilderCommitment
  txCount := 0
  lastNonemptyView := none

def ParentBlockReferences.id (refs : ParentBlockReferences T) : BuilderStateId T where
  parentView := refs.viewNumber
  parentCommitment := refs.vidCommitment

structure ProposalId (T : NodeType) where
  viewNumber : Nat
  builderCommitment : T.BuilderCommitment
  deriving DecidableEq

namespace ProposalId

def fromQuorumProposal (proposal : T.QuorumProposalWrapper) : ProposalId T where
  builderCommitment := T.builderCommitment proposal
  viewNumber := T.viewNumber proposal

def fromDaProposal (proposal : DaProposal2 T) : ProposalId T where
  builderCommitment := T.payloadBuilderCommitment proposal.blockPayload proposal.metadata
  viewNumber := proposal.viewNumber

end ProposalId

/--
The id of the builder state that a quorum proposal asks for.
-/
def proposedId (quorumProposal : T.QuorumProposalWrapper) : BuilderStateId T where
  parentView := T.viewNumber quorumProposal
  parentCommitment := T.payloadCommitment quorumProposal

/--
The part of a decided leaf that the builder looks at.
-/
structure LeafInfo (T : NodeType) where
  viewNumber : Nat
  blockPayload : Option T.BlockPayload
  metadata : T.Metadata
  blockNumber : Nat

structure TestProposal where
  viewNumber : Nat
  payloadCommitment : Nat
  builderCommitment : List Nat
  justifyQc : QuorumCertificate (List Nat)

/--
Types to evaluate the model with. Every commitment is the committed data itself.
-/
def TestTypes : NodeType where
  Transaction := Nat
  TxnCommitment := Nat
  VidCommitment := Nat
  BuilderCommitment := List Nat
  LeafCommitment := List Nat
  BlockPayload := List Nat
  EncodedTransactions := List Nat
  Metadata := Unit
  QuorumProposalWrapper := TestProposal
  commit := id
  minimumBlockSize := id
  fromBytes txns _ := txns
  transactionCommitments txns _ := txns
  payloadBuilderCommitment txns _ := txns
  viewNumber := TestProposal.viewNumber
  payloadCommitment := TestProposal.payloadCommitment
  builderCommitment := TestProposal.builderCommitment
  justifyQc := TestProposal.justifyQc
  leafCommit proposal :=
    proposal.viewNumber :: proposal.payloadCommitment :: proposal.justifyQc.viewNumber ::
      (proposal.builderCommitment ++ proposal.justifyQc.leafCommit)
  fakeCommitment := []
  defaultVidCommitment := 0
  emptyBuilderCommitment := []

namespace TestTypes

def txn (transaction : Nat) : ReceivedTransaction TestTypes :=
  .new (T := TestTypes) transaction .publicMempool

def quorumProposal (viewNumber payloadCommitment : Nat) (block : List Nat)
    (justifyQc : QuorumCertificate (List Nat)) : TestTypes.QuorumProposalWrapper :=
  show TestProposal from ⟨viewNumber, payloadCommitment, block, justifyQc⟩

def daProposal (viewNumber : Nat) (block : List Nat) : DaProposal2 TestTypes :=
  ⟨viewNumber, block, ()⟩

def leaf (viewNumber : Nat) : LeafInfo TestTypes := ⟨viewNumber, none, (), viewNumber⟩

def certify (proposal : TestTypes.QuorumProposalWrapper) : QuorumCertificate (List Nat) :=
  ⟨TestTypes.viewNumber proposal, TestTypes.leafCommit proposal⟩

end TestTypes

end BuilderCore
