import BuilderCore.Shared.Coordinator.FindParents
import BuilderCore.Shared.Coordinator.Lemmas

/-!
This module contains what becomes of the views that a decide has pruned: exactly which later
proposals bring one of them back.
-/

namespace BuilderCore

open Transition

variable {T : NodeType}

namespace Coordinator

theorem lowestView_le {self : Coordinator T} {state : BuilderState T}
    (h : state ∈ self.builderStates.stored) : self.lowestView ≤ state.id.parentView := by
  unfold lowestView
  cases hlowest : self.builderStates.lowestView with
  | none => exact Nat.zero_le _
  | some viewNumber => exact (BuilderStateMap.lowestView_eq_some.mp hlowest).2 state h

theorem exists_stored_of_lowestView {self : Coordinator T} (h : 0 < self.lowestView) :
    ∃ state ∈ self.builderStates.stored, state.id.parentView = self.lowestView := by
  unfold lowestView at h ⊢
  cases hlowest : self.builderStates.lowestView with
  | none => simp [hlowest, View.genesis] at h
  | some viewNumber => exact (BuilderStateMap.lowestView_eq_some.mp hlowest).1

theorem le_lowestView_iff {self : Coordinator T} {cutoff : Nat}
    (h : ∃ state, state ∈ self.builderStates.stored) :
    cutoff ≤ self.lowestView ↔
      ∀ state ∈ self.builderStates.stored, cutoff ≤ state.id.parentView := by
  obtain ⟨state₀, hstored₀⟩ := h
  constructor
  . intro hle state hstored
    exact Nat.le_trans hle (lowestView_le hstored)
  . intro hle
    obtain ⟨viewNumber, hlowest⟩ := BuilderStateMap.exists_lowestView hstored₀
    obtain ⟨⟨state, hstored, rfl⟩, -⟩ := BuilderStateMap.lowestView_eq_some.mp hlowest
    rw [lowestView, hlowest]
    exact hle state hstored

/--
There is nothing left below the cutoff, and whoever asks is told so.
-/
def PrunedBelow (cutoff : Nat) (self : Coordinator T) : Prop :=
  (∀ state ∈ self.builderStates.stored, cutoff ≤ state.id.parentView) ∧
    ∀ id : BuilderStateId T, id.parentView < cutoff → self.lookupBuilderState id = .decided

theorem lookupBuilderState_eq_decided {self : Coordinator T} {id : BuilderStateId T} :
    self.lookupBuilderState id = .decided ↔
      self.builderStates.get id = none ∧ id.parentView < self.lowestView := by
  unfold lookupBuilderState
  split
  . next entry hget => simp [hget]
  . next hget =>
    simp only [hget, true_and]
    split
    . next hlt => simpa using hlt
    . next hnot => simpa using hnot

theorem get_eq_none_of_lt_lowestView {self : Coordinator T} {id : BuilderStateId T}
    (h : id.parentView < self.lowestView) : self.builderStates.get id = none := by
  cases hget : self.builderStates.get id with
  | none => rfl
  | some state =>
    obtain ⟨hstored, rfl⟩ := BuilderStateMap.get_eq_some.mp hget
    exact absurd (lowestView_le hstored) (Nat.not_le.mpr h)

theorem prunedBelow_iff {cutoff : Nat} {self : Coordinator T} :
    self.PrunedBelow cutoff ↔ cutoff ≤ self.lowestView := by
  constructor
  . rintro ⟨-, hlookup⟩
    cases cutoff with
    | zero => exact Nat.zero_le _
    | succ cutoff =>
      have := hlookup ⟨cutoff, T.defaultVidCommitment⟩ (Nat.lt_succ_self _)
      exact (lookupBuilderState_eq_decided.mp this).2
  . intro h
    constructor
    . intro state hstored
      exact Nat.le_trans h (lowestView_le hstored)
    . intro id hid
      have hlt : id.parentView < self.lowestView := Nat.lt_of_lt_of_le hid h
      exact lookupBuilderState_eq_decided.mpr ⟨get_eq_none_of_lt_lowestView hlt, hlt⟩

/--
The call completes a pair from below the cutoff that finds a state to extend although nothing is
stored below its view: the state it certifies, or the only state there is.
-/
def Revives (self : Coordinator T) (cutoff : Nat) (call : Call T) : Prop :=
  ∃ proposal schedule quorumProposal daProposal, call.delivery = some (proposal, schedule) ∧
    self.matching proposal = some (quorumProposal, daProposal) ∧
    T.viewNumber quorumProposal < cutoff ∧
    ((∃ state ∈ self.builderStates.stored,
        IsIdealParent quorumProposal state.parentBlockReferences) ∨
      ∃ state, self.builderStates.stored = {state})

theorem mem_find_below_iff {m : BuilderStateMap T} {quorumProposal : T.QuorumProposalWrapper}
    (h : ∀ state ∈ m.stored, T.viewNumber quorumProposal < state.id.parentView) :
    (∃ state, state ∈ m.findBuilderStatesToExtend quorumProposal) ↔
      (∃ state ∈ m.stored, IsIdealParent quorumProposal state.parentBlockReferences) ∨
        ∃ state, m.stored = {state} := by
  -- nothing is stored below the view, so the fall-back to a lower view is not available
  have hnew : ¬ ∃ state ∈ m.stored,
      (BuilderStateMap.refs state).id = proposedId quorumProposal := by
    rintro ⟨state, hstored, hid⟩
    have hlt := h state hstored
    have hview : state.id.parentView = T.viewNumber quorumProposal :=
      congrArg BuilderStateId.parentView hid
    omega
  have hbelow : ¬ ∃ state ∈ m.stored,
      (BuilderStateMap.refs state).viewNumber < T.viewNumber quorumProposal := by
    rintro ⟨state, hstored, hlt⟩
    exact absurd (h state hstored) (Nat.lt_asymm hlt)
  by_cases hideal : ∃ state ∈ m.stored,
      IsIdealParent quorumProposal (BuilderStateMap.refs state)
  . simp only [BuilderStateMap.mem_find_of_ideal hnew hideal, hideal, true_or]
  . simp only [BuilderStateMap.mem_find_of_above hnew hideal hbelow, hideal, false_or]

theorem le_lowestView_insert {self self' : Coordinator T} {child : BuilderState T} {cutoff : Nat}
    (h : cutoff ≤ self.lowestView) (hself' : self'.builderStates = self.builderStates.insert child) :
    cutoff ≤ self'.lowestView ↔ cutoff ≤ child.id.parentView := by
  have hchild : child ∈ self'.builderStates.stored := by
    rw [hself', BuilderStateMap.mem_stored_insert]
    exact .inl rfl
  rw [le_lowestView_iff ⟨child, hchild⟩]
  constructor
  . intro hle
    exact hle child hchild
  . intro hle state hstored
    rw [hself', BuilderStateMap.mem_stored_insert] at hstored
    rcases hstored with rfl | ⟨hstored, -⟩
    . exact hle
    . exact Nat.le_trans h (lowestView_le hstored)

theorem exists_stored_prune {self : Coordinator T} {state : BuilderState T}
    (h : state ∈ self.builderStates.stored) (latest : Nat) :
    ∃ state, state ∈ (self.builderStates.prune (self.cutoff latest)).stored := by
  -- the highest view is never pruned
  obtain ⟨viewNumber, hhighest⟩ := BuilderStateMap.exists_highestView h
  obtain ⟨⟨highest, hstored, rfl⟩, -⟩ := BuilderStateMap.highestView_eq_some.mp hhighest
  refine ⟨highest, BuilderStateMap.mem_stored_prune.mpr ⟨hstored, ?_⟩⟩
  rw [cutoff, hhighest]
  exact Nat.min_le_right ..

theorem le_lowestView_decide {self self' : Coordinator T} {latest cutoff : Nat}
    (h : cutoff ≤ self.lowestView)
    (hself' : self'.builderStates = self.builderStates.prune (self.cutoff latest)) :
    cutoff ≤ self'.lowestView := by
  cases cutoff with
  | zero => exact Nat.zero_le _
  | succ cutoff =>
    obtain ⟨state, hstored, -⟩ := @exists_stored_of_lowestView _ self (by omega)
    have hleft := exists_stored_prune hstored latest
    rw [← hself'] at hleft
    rw [le_lowestView_iff hleft]
    intro state' hstored'
    rw [hself', BuilderStateMap.mem_stored_prune] at hstored'
    exact Nat.le_trans h (lowestView_le hstored'.1)

theorem cutoff_le_lowestView {self self' : Coordinator T} {latest : Nat}
    (hself' : self'.builderStates = self.builderStates.prune (self.cutoff latest)) :
    self.cutoff latest ≤ self'.lowestView := by
  by_cases hstored : ∃ state, state ∈ self.builderStates.stored
  . obtain ⟨state, hstored⟩ := hstored
    have hleft := exists_stored_prune hstored latest
    rw [← hself'] at hleft
    rw [le_lowestView_iff hleft]
    intro state' hstored'
    rw [hself', BuilderStateMap.mem_stored_prune] at hstored'
    exact hstored'.2
  . have hhighest : self.builderStates.highestView = none := by
      by_contra hne
      obtain ⟨viewNumber, hhighest⟩ := Option.ne_none_iff_exists'.mp hne
      obtain ⟨⟨state, hstate, -⟩, -⟩ := BuilderStateMap.highestView_eq_some.mp hhighest
      exact hstored ⟨state, hstate⟩
    rw [cutoff, hhighest]
    exact Nat.le_trans (Nat.min_le_right ..) (Nat.zero_le _)

theorem not_revives_of_delivery {self : Coordinator T} {cutoff : Nat} {call : Call T}
    (h : call.delivery = none) : ¬ self.Revives cutoff call := by
  rintro ⟨proposal, schedule, _, _, hcall, -⟩
  rw [h] at hcall
  contradiction

theorem not_revives_of_matching {self : Coordinator T} {cutoff : Nat} {call : Call T}
    {proposal : T.QuorumProposalWrapper ⊕ DaProposal2 T} {schedule : Schedule}
    (hcall : call.delivery = some (proposal, schedule)) (h : self.matching proposal = none) :
    ¬ self.Revives cutoff call := by
  rintro ⟨proposal', schedule', quorumProposal, daProposal, hcall', hmatching, -⟩
  rw [hcall, Option.some.injEq, Prod.mk.injEq] at hcall'
  rw [← hcall'.1, h] at hmatching
  contradiction

theorem not_revives_of_le {self : Coordinator T} {cutoff : Nat} {call : Call T}
    {proposal : T.QuorumProposalWrapper ⊕ DaProposal2 T} {schedule : Schedule}
    (hcall : call.delivery = some (proposal, schedule))
    (h : cutoff ≤ (ProposalId.of proposal).viewNumber) : ¬ self.Revives cutoff call := by
  rintro ⟨proposal', schedule', quorumProposal, daProposal, hcall', hmatching, hlt, -⟩
  rw [hcall, Option.some.injEq, Prod.mk.injEq] at hcall'
  rw [hcall'.1, (id_eq_of_matching hmatching).1] at h
  exact absurd hlt (Nat.not_lt.mpr h)

theorem revives_iff {self : Coordinator T} {cutoff : Nat} {call : Call T}
    {proposal : T.QuorumProposalWrapper ⊕ DaProposal2 T} {schedule : Schedule}
    {quorumProposal : T.QuorumProposalWrapper} {daProposal : DaProposal2 T}
    (h : cutoff ≤ self.lowestView) (hcall : call.delivery = some (proposal, schedule))
    (hmatching : self.matching proposal = some (quorumProposal, daProposal)) :
    self.Revives cutoff call ↔ T.viewNumber quorumProposal < cutoff ∧
      ∃ state, state ∈ self.builderStates.findBuilderStatesToExtend quorumProposal := by
  constructor
  . rintro ⟨proposal', schedule', quorumProposal', daProposal', hcall', hmatching', hlt, hfind⟩
    rw [hcall, Option.some.injEq, Prod.mk.injEq] at hcall'
    rw [← hcall'.1, hmatching, Option.some.injEq, Prod.mk.injEq] at hmatching'
    rw [← hmatching'.1] at hlt hfind
    refine ⟨hlt, (mem_find_below_iff ?_).mpr hfind⟩
    intro state hstored
    exact Nat.lt_of_lt_of_le hlt (Nat.le_trans h (lowestView_le hstored))
  . rintro ⟨hlt, hfind⟩
    refine ⟨proposal, schedule, quorumProposal, daProposal, hcall, hmatching, hlt, ?_⟩
    apply (mem_find_below_iff _).mp hfind
    intro state hstored
    exact Nat.lt_of_lt_of_le hlt (Nat.le_trans h (lowestView_le hstored))

theorem prunedBelow_perform_iff {self self' : Coordinator T} {cutoff : Nat} {call : Call T}
    (h : self.PrunedBelow cutoff) (hperform : self.perform call = some self') :
    self'.PrunedBelow cutoff ↔ ¬ self.Revives cutoff call := by
  rw [prunedBelow_iff] at h ⊢
  cases performed_of_perform hperform with
  | handle _ proposal schedule _ hcall hhandled =>
    cases hhandled with
    | duplicate stored hstored hkind =>
      have hnone := matching_eq_none_of_duplicate hstored hkind
      exact ⟨fun _ => not_revives_of_matching hcall hnone, fun _ => h⟩
    | store hnone =>
      have hnone := matching_eq_none_of_new hnone
      exact ⟨fun _ => not_revives_of_matching hcall hnone, fun _ => h⟩
    | orphan quorumProposal daProposal hmatching hfind =>
      refine ⟨fun _ => ?_, fun _ => h⟩
      rw [revives_iff h hcall hmatching, hfind]
      simp
    | spawn quorumProposal daProposal parentState forest hmatching hparent hforest =>
      rw [revives_iff h hcall hmatching, le_lowestView_insert h rfl, id_of_child hforest]
      have hfind : ∃ state, state ∈ self.builderStates.findBuilderStatesToExtend quorumProposal :=
        ⟨parentState, hparent⟩
      simp only [proposedId, hfind, and_true, Nat.not_lt]
  | decide latest rest =>
    exact ⟨fun _ => not_revives_of_delivery rfl, fun _ => le_lowestView_decide h rfl⟩
  | transaction => exact ⟨fun _ => not_revives_of_delivery rfl, fun _ => h⟩
  | request => exact ⟨fun _ => not_revives_of_delivery rfl, fun _ => h⟩

/--
After a decide, in every run of calls that do not overlap: the pruned views stay away exactly as long as
no call revives one. A spawn that is under way while the decide prunes, and stores its child afterwards,
is not such a call.
-/
theorem prunedBelow_always_iff {self self' : Coordinator T} {latest : LeafInfo T}
    {rest : List (LeafInfo T)} (h : self.perform (.decide (latest :: rest)) = some self')
    (calls : List (Call T)) :
    Always perform (PrunedBelow (self.cutoff latest.viewNumber)) self' calls ↔
      Along perform (fun self₁ call => ¬ self₁.Revives (self.cutoff latest.viewNumber) call) self'
        calls := by
  have hself' : self'.builderStates = self.builderStates.prune (self.cutoff latest.viewNumber) := by
    cases performed_of_perform h with
    | handle _ _ _ _ hcall => contradiction
    | decide => rfl
  apply always_iff_along (I := fun _ => True)
  . intros
    trivial
  . intro self₁ call self₂ _ hself₁ hperform
    exact prunedBelow_perform_iff hself₁ hperform
  . trivial
  . rw [prunedBelow_iff]
    exact cutoff_le_lowestView hself'

def deliver (viewNumber now : Nat) : List (Call TestTypes) := [
  .quorumProposal (TestTypes.quorumProposal viewNumber viewNumber [] ⟨viewNumber - 1, [viewNumber]⟩)
    ⟨0, now, now, now⟩,
  .daProposal (TestTypes.daProposal viewNumber []) ⟨0, now, now, now⟩]

theorem prunedBelow_always_deliver :
    ∃ self self', run perform (new 5 0) (deliver 5 1) = some self ∧
      self.perform (.decide [TestTypes.leaf 5]) = some self' ∧ self.cutoff 5 = 5 ∧
      Always perform (PrunedBelow (self.cutoff 5)) self' (deliver 6 2) := by
  have hruns : ∃ self self', run perform (new 5 0) (deliver 5 1) = some self ∧
      self.perform (.decide [TestTypes.leaf 5]) = some self' ∧ self.cutoff 5 = 5 :=
    ⟨_, _, rfl, rfl, rfl⟩
  obtain ⟨self, self', hself, hself', hcutoff⟩ := hruns
  refine ⟨self, self', hself, hself', hcutoff, ?_⟩
  have hcutoff' : self.cutoff (TestTypes.leaf 5).viewNumber = 5 := hcutoff
  apply (prunedBelow_always_iff hself' (deliver 6 2)).mpr
  rw [hcutoff']
  intro self₁ _
  refine ⟨not_revives_of_le rfl (by decide), ?_⟩
  intro self₂ _
  exact ⟨not_revives_of_le rfl (by decide), trivial⟩

theorem not_prunedBelow_always :
    ∃ self self', run perform (new 5 0) (deliver 5 1) = some self ∧
      self.perform (.decide [TestTypes.leaf 5]) = some self' ∧ self.cutoff 5 = 5 ∧
      ¬ Always perform (PrunedBelow (self.cutoff 5)) self' (deliver 3 2) := by
  have hruns : ∃ self self' last child, run perform (new 5 0) (deliver 5 1) = some self ∧
      self.perform (.decide [TestTypes.leaf 5]) = some self' ∧ self.cutoff 5 = 5 ∧
      run perform self' (deliver 3 2) = some last ∧
      last.builderStates.get ⟨3, (3 : Nat)⟩ = some child :=
    ⟨_, _, _, _, rfl, rfl, rfl, rfl, rfl⟩
  obtain ⟨self, self', last, child, hself, hself', hcutoff, hlast, hchild⟩ := hruns
  refine ⟨self, self', hself, hself', hcutoff, ?_⟩
  intro halways
  obtain ⟨hstored, hid⟩ := BuilderStateMap.get_eq_some.mp hchild
  have hpruned := always_iff_isPrefixOf.mp halways (deliver 3 2) [] last (by simp) hlast
  have hle := hpruned.1 child hstored
  rw [hcutoff, hid] at hle
  exact absurd hle (by decide)

end Coordinator

end BuilderCore
