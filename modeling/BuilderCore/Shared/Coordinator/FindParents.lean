import BuilderCore.Legacy.BestBuilderStates
import BuilderCore.Shared.Coordinator.BuilderStateMap

/-!
This module compares the states that the coordinator finds for a proposal to extend with the
documented ones and with those that the legacy builder chooses.
-/

namespace BuilderCore

variable {T : NodeType}

namespace BuilderStateMap

abbrev refs (state : BuilderState T) : ParentBlockReferences T := state.parentBlockReferences

theorem mem_existingStates {m : BuilderStateMap T} {quorumProposal : T.QuorumProposalWrapper}
    {state : BuilderState T} :
    state ∈ (m.states.bucket (T.justifyQc quorumProposal).viewNumber).filter (fun state =>
        state.parentBlockReferences.leafCommit = (T.justifyQc quorumProposal).leafCommit) ↔
      state ∈ m.stored ∧ IsIdealParent quorumProposal (refs state) := by
  rw [List.mem_filter, mem_bucket_iff, decide_eq_true_eq, and_assoc]
  rfl

theorem existingStates_isEmpty {m : BuilderStateMap T} {quorumProposal : T.QuorumProposalWrapper} :
    ((m.states.bucket (T.justifyQc quorumProposal).viewNumber).filter fun state =>
        state.parentBlockReferences.leafCommit = (T.justifyQc quorumProposal).leafCommit).isEmpty
      = true ↔ ¬ ∃ state ∈ m.stored, IsIdealParent quorumProposal (refs state) := by
  rw [List.isEmpty_iff, List.eq_nil_iff_forall_not_mem]
  simp only [mem_existingStates, not_exists]

section

variable {m : BuilderStateMap T} {quorumProposal : T.QuorumProposalWrapper}

theorem find_of_stored (h : ∃ state ∈ m.stored, (refs state).id = proposedId quorumProposal) :
    m.findBuilderStatesToExtend quorumProposal = [] := by
  rw [findBuilderStatesToExtend, if_pos (isSome_get_iff.mpr h)]

theorem mem_find_of_ideal
    (hnew : ¬ ∃ state ∈ m.stored, (refs state).id = proposedId quorumProposal)
    (h : ∃ state ∈ m.stored, IsIdealParent quorumProposal (refs state)) {state : BuilderState T} :
    state ∈ m.findBuilderStatesToExtend quorumProposal ↔
      state ∈ m.stored ∧ IsIdealParent quorumProposal (refs state) := by
  have hget : ¬ (m.get (proposedId quorumProposal)).isSome = true := by rwa [isSome_get_iff]
  have hexisting := not_not.mpr h
  rw [← existingStates_isEmpty] at hexisting
  simp only [findBuilderStatesToExtend, if_neg hget, if_pos hexisting]
  exact mem_existingStates

theorem mem_find_of_below
    (hnew : ¬ ∃ state ∈ m.stored, (refs state).id = proposedId quorumProposal)
    (hideal : ¬ ∃ state ∈ m.stored, IsIdealParent quorumProposal (refs state))
    (h : ∃ state ∈ m.stored, (refs state).viewNumber < T.viewNumber quorumProposal)
    {state : BuilderState T} :
    state ∈ m.findBuilderStatesToExtend quorumProposal ↔
      state ∈ m.stored ∧ (refs state).viewNumber < T.viewNumber quorumProposal ∧
        ∀ state' ∈ m.stored, (refs state').viewNumber < T.viewNumber quorumProposal →
          (refs state).viewNumber ≤ (refs state').viewNumber := by
  have hget : ¬ (m.get (proposedId quorumProposal)).isSome = true := by rwa [isSome_get_iff]
  have hexisting := hideal
  rw [← existingStates_isEmpty, ← not_not (a := _ = true)] at hexisting
  simp only [findBuilderStatesToExtend, if_neg hget, if_neg hexisting]
  split
  -- the range is read from its lower end
  . next states hstates =>
    obtain ⟨viewNumber, hlt, rfl, hnonempty, hlowest⟩ :=
      TieredViewMap.head?_range_eq_some hstates
    obtain ⟨low, hlow⟩ := List.exists_mem_of_ne_nil _ hnonempty
    obtain ⟨hstoredLow, hviewLow⟩ := mem_bucket_iff.mp hlow
    have hviewLow : (refs low).viewNumber = viewNumber := hviewLow
    have hlt : viewNumber < T.viewNumber quorumProposal := of_decide_eq_true hlt
    have hleast : ∀ state' ∈ m.stored, (refs state').viewNumber < T.viewNumber quorumProposal →
        viewNumber ≤ (refs state').viewNumber :=
      fun _ hstored' hlt' => hlowest _ _ hstored' (decide_eq_true hlt')
    rw [mem_bucket_iff]
    constructor
    . rintro ⟨hstored, hview⟩
      have hview : (refs state).viewNumber = viewNumber := hview
      rw [hview]
      exact ⟨hstored, hlt, hleast⟩
    . rintro ⟨hstored, hltState, hleastState⟩
      refine ⟨hstored, show (refs state).viewNumber = viewNumber from ?_⟩
      have hle := hleast state hstored hltState
      have hge := hleastState low hstoredLow (by omega)
      omega
  . next hnone =>
    obtain ⟨state', hstored', hlt'⟩ := h
    have := TieredViewMap.head?_range_eq_none hnone hstored'
    exact absurd hlt' (of_decide_eq_false this)

theorem mem_find_of_above
    (hnew : ¬ ∃ state ∈ m.stored, (refs state).id = proposedId quorumProposal)
    (hideal : ¬ ∃ state ∈ m.stored, IsIdealParent quorumProposal (refs state))
    (h : ¬ ∃ state ∈ m.stored, (refs state).viewNumber < T.viewNumber quorumProposal)
    {state : BuilderState T} :
    state ∈ m.findBuilderStatesToExtend quorumProposal ↔ m.stored = {state} := by
  have hget : ¬ (m.get (proposedId quorumProposal)).isSome = true := by rwa [isSome_get_iff]
  have hexisting := hideal
  rw [← existingStates_isEmpty, ← not_not (a := _ = true)] at hexisting
  simp only [findBuilderStatesToExtend, if_neg hget, if_neg hexisting]
  split
  . next states hstates =>
    obtain ⟨viewNumber, hlt, rfl, hnonempty, -⟩ := TieredViewMap.head?_range_eq_some hstates
    obtain ⟨low, hlow⟩ := List.exists_mem_of_ne_nil _ hnonempty
    obtain ⟨hstored, rfl⟩ := mem_bucket_iff.mp hlow
    exact absurd ⟨low, hstored, of_decide_eq_true hlt⟩ h
  . split
    . next hlen =>
      obtain ⟨only, hstored⟩ := len_eq_one_iff.mp hlen
      rw [highestViewBuilder_of_stored_eq hstored, hstored]
      simp [eq_comm]
    . next hlen =>
      rw [len_eq_one_iff] at hlen
      simp only [List.not_mem_nil, false_iff]
      exact fun hstored => hlen ⟨state, hstored⟩

theorem stored_of_mem_find {state : BuilderState T}
    (h : state ∈ m.findBuilderStatesToExtend quorumProposal) : state ∈ m.stored := by
  by_cases hstored : ∃ state ∈ m.stored, (refs state).id = proposedId quorumProposal
  . rw [find_of_stored hstored] at h
    contradiction
  . by_cases hideal : ∃ state ∈ m.stored, IsIdealParent quorumProposal (refs state)
    . exact ((mem_find_of_ideal hstored hideal).mp h).1
    . by_cases hbelow : ∃ state ∈ m.stored, (refs state).viewNumber < T.viewNumber quorumProposal
      . exact ((mem_find_of_below hstored hideal hbelow).mp h).1
      . rw [(mem_find_of_above hstored hideal hbelow).mp h]
        rfl

theorem exists_least_below
    (h : ∃ state ∈ m.stored, (refs state).viewNumber < T.viewNumber quorumProposal) :
    ∃ least ∈ m.stored, (refs least).viewNumber < T.viewNumber quorumProposal ∧
      ∀ state ∈ m.stored, (refs state).viewNumber < T.viewNumber quorumProposal →
        (refs least).viewNumber ≤ (refs state).viewNumber := by
  obtain ⟨state₀, hstored₀, hlt₀⟩ := h
  have hwf := WellFounded.has_min (measure fun state : BuilderState T => (refs state).viewNumber).wf
    {state ∈ m.stored | (refs state).viewNumber < T.viewNumber quorumProposal}
    ⟨state₀, hstored₀, hlt₀⟩
  obtain ⟨least, ⟨hstored, hlt⟩, hleast⟩ := hwf
  refine ⟨least, hstored, hlt, ?_⟩
  intro state hstate hltState
  exact Nat.le_of_not_lt (hleast state ⟨hstate, hltState⟩)

/--
All states below the proposal's view are stored at one view.
-/
def HasOneViewBelow (m : BuilderStateMap T) (quorumProposal : T.QuorumProposalWrapper) : Prop :=
  ∀ state ∈ m.stored, ∀ state' ∈ m.stored,
    (refs state).viewNumber < T.viewNumber quorumProposal →
      (refs state').viewNumber < T.viewNumber quorumProposal →
        (refs state).viewNumber = (refs state').viewNumber

theorem find_eq_documented_iff_of_below
    (hnew : ¬ ∃ state ∈ m.stored, (refs state).id = proposedId quorumProposal)
    (hideal : ¬ ∃ state ∈ m.stored, IsIdealParent quorumProposal (refs state))
    (h : ∃ state ∈ m.stored, (refs state).viewNumber < T.viewNumber quorumProposal) :
    {state | state ∈ m.findBuilderStatesToExtend quorumProposal} =
      documentedParents refs m.stored quorumProposal ↔ m.HasOneViewBelow quorumProposal := by
  rw [documentedParents_of_below hnew hideal h]
  simp only [mem_find_of_below hnew hideal h]
  constructor
  . intro heq
    obtain ⟨least, hleast⟩ := exists_least_below h
    have hgreatest := (Set.ext_iff.mp heq least).mp hleast
    obtain ⟨hstored, hlt, hleast⟩ := hleast
    obtain ⟨-, -, hgreatest⟩ := hgreatest
    intro state hstate state' hstate' hltState hltState'
    have := hleast state hstate hltState
    have := hleast state' hstate' hltState'
    have := hgreatest state hstate hltState
    have := hgreatest state' hstate' hltState'
    omega
  . intro hone
    ext state
    constructor
    . rintro ⟨hstored, hlt, -⟩
      refine ⟨hstored, hlt, ?_⟩
      intro state' hstored' hlt'
      exact Nat.le_of_eq (hone state' hstored' state hstored hlt' hlt)
    . rintro ⟨hstored, hlt, -⟩
      refine ⟨hstored, hlt, ?_⟩
      intro state' hstored' hlt'
      exact Nat.le_of_eq (hone state hstored state' hstored' hlt hlt')

theorem find_eq_documented_iff :
    {state | state ∈ m.findBuilderStatesToExtend quorumProposal} =
        documentedParents refs m.stored quorumProposal ↔
      (∃ state ∈ m.stored, (refs state).id = proposedId quorumProposal) ∨
        (∃ state ∈ m.stored, IsIdealParent quorumProposal (refs state)) ∨
          m.HasOneViewBelow quorumProposal := by
  by_cases hnew : ∃ state ∈ m.stored, (refs state).id = proposedId quorumProposal
  . rw [documentedParents_of_stored hnew, find_of_stored hnew]
    simp [hnew]
  by_cases hideal : ∃ state ∈ m.stored, IsIdealParent quorumProposal (refs state)
  . rw [documentedParents_of_ideal hnew hideal]
    simp only [mem_find_of_ideal hnew hideal, hideal, true_or, or_true]
  by_cases hbelow : ∃ state ∈ m.stored, (refs state).viewNumber < T.viewNumber quorumProposal
  -- the lowest view below the proposal's is found, the highest is documented
  . rw [find_eq_documented_iff_of_below hnew hideal hbelow]
    simp [hnew, hideal]
  . rw [documentedParents_of_above hnew hideal hbelow]
    simp only [mem_find_of_above hnew hideal hbelow, true_iff]
    refine .inr (.inr ?_)
    intro state hstored _ _ hlt
    exact absurd ⟨state, hstored, hlt⟩ hbelow

/--
The documented parents are found, and their ids are those that the legacy builder chooses from the
same states.
-/
def FindsDocumentedParents (m : BuilderStateMap T) (quorumProposal : T.QuorumProposalWrapper) :
    Prop :=
  {state | state ∈ m.findBuilderStatesToExtend quorumProposal} =
      documentedParents refs m.stored quorumProposal ∧
    ∀ (Sender : Type) (spawned : SpawnedBuilderStates T Sender), Represents refs m.stored spawned →
      (bestBuilderStatesToExtend quorumProposal spawned : Set (BuilderStateId T)) =
        BuilderState.id '' {state | state ∈ m.findBuilderStatesToExtend quorumProposal}

theorem findsDocumentedParents_iff (m : BuilderStateMap T)
    (quorumProposal : T.QuorumProposalWrapper) :
    m.FindsDocumentedParents quorumProposal ↔
      (∃ state ∈ m.stored, (refs state).id = proposedId quorumProposal) ∨
        (∃ state ∈ m.stored, IsIdealParent quorumProposal (refs state)) ∨
          m.HasOneViewBelow quorumProposal := by
  rw [← find_eq_documented_iff, FindsDocumentedParents]
  constructor
  . exact And.left
  . intro heq
    refine ⟨heq, ?_⟩
    intro Sender spawned hspawned
    rw [heq]
    exact coe_bestBuilderStatesToExtend hspawned quorumProposal

end

def testState (viewNumber : Nat) : BuilderState TestTypes :=
  ⟨⟨viewNumber, viewNumber, [viewNumber], [], 0, none⟩, .new 5 0, viewNumber⟩

def twoViews : BuilderStateMap TestTypes := (new.insert (testState 1)).insert (testState 2)

/--
The certificate names the block of a view that the builder missed.
-/
def skippingProposal : TestTypes.QuorumProposalWrapper :=
  TestTypes.quorumProposal 4 4 [] ⟨3, [3]⟩

example : (twoViews.findBuilderStatesToExtend skippingProposal).map (·.id.parentView) = [1] := rfl

theorem twoViews_not_findsDocumentedParents :
    ¬ twoViews.FindsDocumentedParents skippingProposal := by
  intro h
  have hstored : ∀ state, state ∈ twoViews.stored ↔ state = testState 2 ∨ state = testState 1 := by
    intro state
    simp only [twoViews, mem_stored_insert, stored_new, Set.mem_empty_iff_false, false_and, or_false]
    constructor
    . rintro (rfl | ⟨rfl, -⟩)
      . exact .inl rfl
      . exact .inr rfl
    . rintro (rfl | rfl)
      . exact .inl rfl
      . exact .inr ⟨rfl, by decide⟩
  rcases find_eq_documented_iff.mp h.1 with hnew | hideal | hone
  . simp only [hstored] at hnew
    obtain ⟨_, rfl | rfl, hid⟩ := hnew
    . exact absurd hid (by decide)
    . exact absurd hid (by decide)
  . simp only [hstored] at hideal
    obtain ⟨_, rfl | rfl, hid⟩ := hideal
    . exact absurd hid.1 (by decide)
    . exact absurd hid.1 (by decide)
  . have hviews := hone (testState 1) ((hstored _).mpr (.inr rfl)) (testState 2)
      ((hstored _).mpr (.inl rfl)) (by decide) (by decide)
    exact absurd hviews (by decide)

end BuilderStateMap

end BuilderCore
