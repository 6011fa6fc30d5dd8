import BuilderCore.Shared.Block
import Mathlib.Data.Set.Function

/-!
This module contains the documented choice of the builder states that a quorum proposal extends, for
any set of states.
-/

namespace BuilderCore

variable {T : NodeType} {α : Type}

def IsIdealParent (quorumProposal : T.QuorumProposalWrapper) (refs : ParentBlockReferences T) :
    Prop :=
  refs.viewNumber = (T.justifyQc quorumProposal).viewNumber ∧
    refs.leafCommit = (T.justifyQc quorumProposal).leafCommit

instance (quorumProposal : T.QuorumProposalWrapper) (refs : ParentBlockReferences T) :
    Decidable (IsIdealParent quorumProposal refs) :=
  inferInstanceAs (Decidable (_ ∧ _))

open Classical in
/--
No state if there is one for the proposal, else the states that the proposal certifies, else those
of the maximum view below the proposal's, else the only state there is.
-/
noncomputable def documentedParents (refs : α → ParentBlockReferences T) (stored : Set α)
    (quorumProposal : T.QuorumProposalWrapper) : Set α :=
  if ∃ s ∈ stored, (refs s).id = proposedId quorumProposal then
    ∅
  else if ∃ s ∈ stored, IsIdealParent quorumProposal (refs s) then
    {s ∈ stored | IsIdealParent quorumProposal (refs s)}
  else if ∃ s ∈ stored, (refs s).viewNumber < T.viewNumber quorumProposal then
    {s ∈ stored | (refs s).viewNumber < T.viewNumber quorumProposal ∧
      ∀ s' ∈ stored, (refs s').viewNumber < T.viewNumber quorumProposal →
        (refs s').viewNumber ≤ (refs s).viewNumber}
  else if ∃ s, stored = {s} then
    stored
  else
    ∅

section

variable {refs : α → ParentBlockReferences T} {stored : Set α}
  {quorumProposal : T.QuorumProposalWrapper}

theorem documentedParents_of_stored
    (h : ∃ s ∈ stored, (refs s).id = proposedId quorumProposal) :
    documentedParents refs stored quorumProposal = ∅ := by
  rw [documentedParents, if_pos h]

theorem documentedParents_of_ideal
    (hnew : ¬ ∃ s ∈ stored, (refs s).id = proposedId quorumProposal)
    (h : ∃ s ∈ stored, IsIdealParent quorumProposal (refs s)) :
    documentedParents refs stored quorumProposal =
      {s ∈ stored | IsIdealParent quorumProposal (refs s)} := by
  rw [documentedParents, if_neg hnew, if_pos h]

theorem documentedParents_of_below
    (hnew : ¬ ∃ s ∈ stored, (refs s).id = proposedId quorumProposal)
    (hideal : ¬ ∃ s ∈ stored, IsIdealParent quorumProposal (refs s))
    (h : ∃ s ∈ stored, (refs s).viewNumber < T.viewNumber quorumProposal) :
    documentedParents refs stored quorumProposal =
      {s ∈ stored | (refs s).viewNumber < T.viewNumber quorumProposal ∧
        ∀ s' ∈ stored, (refs s').viewNumber < T.viewNumber quorumProposal →
          (refs s').viewNumber ≤ (refs s).viewNumber} := by
  rw [documentedParents, if_neg hnew, if_neg hideal, if_pos h]

theorem documentedParents_of_above
    (hnew : ¬ ∃ s ∈ stored, (refs s).id = proposedId quorumProposal)
    (hideal : ¬ ∃ s ∈ stored, IsIdealParent quorumProposal (refs s))
    (hbelow : ¬ ∃ s ∈ stored, (refs s).viewNumber < T.viewNumber quorumProposal) :
    documentedParents refs stored quorumProposal = {s | stored = {s}} := by
  rw [documentedParents, if_neg hnew, if_neg hideal, if_neg hbelow]
  ext s
  split
  . next h =>
    obtain ⟨s', rfl⟩ := h
    simp
  . next h =>
    simp only [Set.mem_empty_iff_false, Set.mem_ofPred_eq, false_iff]
    intro hs
    exact h ⟨s, hs⟩

end

end BuilderCore
