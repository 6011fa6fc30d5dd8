import BuilderCore.Shared.Coordinator.Lemmas
import Mathlib.Data.List.Induction

/-!
This module contains what is pending after the deliveries of a run.
-/

namespace BuilderCore

open Transition

variable {T : NodeType}

namespace Coordinator

/--
How often a proposal of the id was delivered, a quorum proposal or a DA proposal.
-/
def deliveries (proposals : List (T.QuorumProposalWrapper ⊕ DaProposal2 T)) (id : ProposalId T)
    (isLeft : Bool) : Nat :=
  proposals.countP fun proposal => ProposalId.of proposal = id ∧ proposal.isLeft = isLeft

theorem deliveries_append (proposals proposals' : List (T.QuorumProposalWrapper ⊕ DaProposal2 T))
    (id : ProposalId T) (isLeft : Bool) :
    deliveries (proposals ++ proposals') id isLeft =
      deliveries proposals id isLeft + deliveries proposals' id isLeft :=
  List.countP_append

theorem deliveries_singleton (proposal : T.QuorumProposalWrapper ⊕ DaProposal2 T)
    (id : ProposalId T) (isLeft : Bool) :
    deliveries [proposal] id isLeft =
      if ProposalId.of proposal = id ∧ proposal.isLeft = isLeft then 1 else 0 := by
  simp [deliveries, List.countP_cons]

def pendingKind (self : Coordinator T) (id : ProposalId T) : Option Bool :=
  (self.proposals.get? id).map Sum.isLeft

theorem pendingKind_of_ne {self self' : Coordinator T} {action : Action T} {id : ProposalId T}
    (hchange : Change self action self')
    (hid : ∀ proposal, action.proposal = some proposal → ProposalId.of proposal ≠ id) :
    self'.pendingKind id = self.pendingKind id := by
  cases hchange with
  | store proposal => simp [pendingKind, Ne.symm (hid proposal rfl)]
  | pair proposal => simp [pendingKind, Ne.symm (hid proposal rfl)]
  | _ => rfl

theorem pendingKind_lockProposals {self self' : Coordinator T}
    {proposal : T.QuorumProposalWrapper ⊕ DaProposal2 T}
    (hchange : Change self (.lockProposals proposal) self') :
    self.pendingKind (.of proposal) = none ∧
        self'.pendingKind (.of proposal) = some proposal.isLeft ∨
      self.pendingKind (.of proposal) = some proposal.isLeft ∧
        self'.pendingKind (.of proposal) = some proposal.isLeft ∨
      self.pendingKind (.of proposal) = some (!proposal.isLeft) ∧
        self'.pendingKind (.of proposal) = none := by
  cases hchange with
  | duplicate _ stored _ hstored hkind =>
    right
    left
    simp [pendingKind, hstored, hkind]
  | store _ _ hnone =>
    left
    simp [pendingKind, hnone]
  | pair _ quorumProposal daProposal _ hmatching =>
    right
    right
    rcases matching_eq_some.mp hmatching with ⟨rfl, hget⟩ | ⟨rfl, hget⟩
    . simp [pendingKind, hget]
    . simp [pendingKind, hget]

/--
As long as no proposal of the id comes twice: what is pending is what came without the other.
-/
theorem pendingKind_eq {period now : Nat} {history : List (Action T)} {self : Coordinator T}
    (hrun : run step (new period now) history = some self) (id : ProposalId T)
    (hquorum : deliveries (history.filterMap Action.proposal) id true ≤ 1)
    (hda : deliveries (history.filterMap Action.proposal) id false ≤ 1) :
    self.pendingKind id =
      if deliveries (history.filterMap Action.proposal) id true =
        deliveries (history.filterMap Action.proposal) id false then none
      else some (decide (deliveries (history.filterMap Action.proposal) id false <
        deliveries (history.filterMap Action.proposal) id true)) := by
  induction history using List.reverseRecOn generalizing self with
  | nil =>
    simp only [run_nil, Option.some.injEq] at hrun
    rw [← hrun]
    rfl
  | append_singleton history action ih =>
    obtain ⟨self₁, hrun, hstep⟩ := run_concat_eq_some.mp hrun
    have hchange := change_of_step hstep
    cases hproposal : action.proposal with
    | none =>
      simp only [List.filterMap_append, List.filterMap_cons, hproposal, List.filterMap_nil,
        List.append_nil] at hquorum hda ⊢
      rw [pendingKind_of_ne hchange (by simp [hproposal])]
      exact ih hrun hquorum hda
    | some proposal =>
      simp only [List.filterMap_append, List.filterMap_cons, hproposal, List.filterMap_nil,
        deliveries_append, deliveries_singleton] at hquorum hda ⊢
      have hbefore := ih hrun (by omega) (by omega)
      by_cases hid : ProposalId.of proposal = id
      . cases action with
        | lockProposals proposal' =>
          simp only [Action.proposal, Option.some.injEq] at hproposal
          subst hproposal hid
          have hlock := pendingKind_lockProposals hchange
          rw [hbefore] at hlock
          simp only [true_and] at hquorum hda ⊢
          generalize deliveries (history.filterMap Action.proposal) (.of proposal') true = l at *
          generalize deliveries (history.filterMap Action.proposal) (.of proposal') false = r at *
          cases hkind : proposal'.isLeft with
          | true =>
            simp_all
            grind
          | false =>
            simp_all
            grind
        | _ => contradiction
      . simp only [hid, false_and, if_false, Nat.add_zero]
        rw [pendingKind_of_ne hchange, hbefore]
        rintro proposal' hproposal'
        rw [hproposal, Option.some.injEq] at hproposal'
        rwa [← hproposal']

end Coordinator

end BuilderCore
