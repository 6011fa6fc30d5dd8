import BuilderCore.Parents
import Mathlib.Data.List.Chain
import Mathlib.Order.Nat

/-!
This module contains the chains of blocks that both builders are meant to follow, each block given by
its two proposals.
-/

namespace BuilderCore

variable {T : NodeType}

/--
The references of the block that a quorum proposal proposes.
-/
def RefersTo (quorumProposal : T.QuorumProposalWrapper) (refs : ParentBlockReferences T) : Prop :=
  refs.id = proposedId quorumProposal ∧ refs.leafCommit = T.leafCommit quorumProposal

structure ProposalPair (T : NodeType) where
  quorumProposal : T.QuorumProposalWrapper
  daProposal : DaProposal2 T
  id_eq : ProposalId.fromQuorumProposal quorumProposal = ProposalId.fromDaProposal daProposal

namespace ProposalPair

def id (pair : ProposalPair T) : ProposalId T := .fromQuorumProposal pair.quorumProposal

def stateId (pair : ProposalPair T) : BuilderStateId T := proposedId pair.quorumProposal

def viewNumber (pair : ProposalPair T) : Nat := T.viewNumber pair.quorumProposal

structure Extends (pair next : ProposalPair T) : Prop where
  viewNumber_lt : pair.viewNumber < next.viewNumber
  justifyQc_eq : T.justifyQc next.quorumProposal =
    ⟨pair.viewNumber, T.leafCommit pair.quorumProposal⟩

theorem viewNumber_eq_of_id_eq {pair pair' : ProposalPair T} (h : pair.id = pair'.id) :
    pair.viewNumber = pair'.viewNumber :=
  congrArg ProposalId.viewNumber h

theorem viewNumber_eq_of_stateId_eq {pair pair' : ProposalPair T}
    (h : pair.stateId = pair'.stateId) : pair.viewNumber = pair'.viewNumber :=
  congrArg BuilderStateId.parentView h

theorem isIdealParent_iff_of_extends {pair next : ProposalPair T} (hextends : pair.Extends next)
    {refs : ParentBlockReferences T} :
    IsIdealParent next.quorumProposal refs ↔
      refs.viewNumber = pair.viewNumber ∧ refs.leafCommit = T.leafCommit pair.quorumProposal := by
  rw [IsIdealParent, hextends.justifyQc_eq]

section

variable {chain : List (ProposalPair T)}

theorem extends_of_getElem? (hchain : chain.IsChain Extends) {i : Nat} {pair next : ProposalPair T}
    (hpair : chain[i]? = some pair) (hnext : chain[i + 1]? = some next) : pair.Extends next := by
  obtain ⟨_, rfl⟩ := List.getElem?_eq_some_iff.mp hpair
  obtain ⟨_, rfl⟩ := List.getElem?_eq_some_iff.mp hnext
  exact hchain.getElem _ _

theorem viewNumber_lt_of_lt (hchain : chain.IsChain Extends) {i j : Nat}
    {pair pair' : ProposalPair T} (hpair : chain[i]? = some pair) (hpair' : chain[j]? = some pair')
    (hlt : i < j) : pair.viewNumber < pair'.viewNumber := by
  have hviews : (chain.map viewNumber).IsChain (· < ·) :=
    (List.isChain_map _).mpr (hchain.imp fun _ _ hextends => hextends.viewNumber_lt)
  have hpairwise := List.pairwise_map.mp (List.isChain_iff_pairwise.mp hviews)
  obtain ⟨hi, rfl⟩ := List.getElem?_eq_some_iff.mp hpair
  obtain ⟨hj, rfl⟩ := List.getElem?_eq_some_iff.mp hpair'
  exact List.pairwise_iff_getElem.mp hpairwise i j hi hj hlt

theorem index_eq_of_viewNumber_eq (hchain : chain.IsChain Extends) {i j : Nat}
    {pair pair' : ProposalPair T} (hpair : chain[i]? = some pair) (hpair' : chain[j]? = some pair')
    (h : pair.viewNumber = pair'.viewNumber) : i = j := by
  rcases Nat.lt_trichotomy i j with hlt | heq | hgt
  . exact absurd h (Nat.ne_of_lt (viewNumber_lt_of_lt hchain hpair hpair' hlt))
  . exact heq
  . exact absurd h.symm (Nat.ne_of_lt (viewNumber_lt_of_lt hchain hpair' hpair hgt))

theorem eq_of_viewNumber_eq (hchain : chain.IsChain Extends) {pair pair' : ProposalPair T}
    (hpair : pair ∈ chain) (hpair' : pair' ∈ chain) (h : pair.viewNumber = pair'.viewNumber) :
    pair = pair' := by
  obtain ⟨i, hi⟩ := List.getElem?_of_mem hpair
  obtain ⟨j, hj⟩ := List.getElem?_of_mem hpair'
  have := index_eq_of_viewNumber_eq hchain hi hj h
  subst this
  exact Option.some.inj (hi.symm.trans hj)

end

end ProposalPair

def testPair (viewNumber : Nat) (justifyQc : QuorumCertificate (List Nat)) :
    ProposalPair TestTypes where
  quorumProposal := TestTypes.quorumProposal viewNumber viewNumber [viewNumber] justifyQc
  daProposal := TestTypes.daProposal viewNumber [viewNumber]
  id_eq := rfl

def testPair₁ : ProposalPair TestTypes := testPair 1 ⟨0, []⟩

def testPair₂ : ProposalPair TestTypes := testPair 2 (TestTypes.certify testPair₁.quorumProposal)

def testPair₃ : ProposalPair TestTypes := testPair 3 (TestTypes.certify testPair₂.quorumProposal)

end BuilderCore
