import BuilderCore.Shared.Coordinator.Pruning

/-!
This module compares what `lookup_builder_state` reports as decided with what was decided.
-/

namespace BuilderCore

open Transition

variable {T : NodeType}

namespace Coordinator

def latestDecides (calls : List (Call T)) : List Nat :=
  calls.filterMap fun call =>
    match call with
    | .decide (latest :: _) => some latest.viewNumber
    | _ => none

def maxDecided (calls : List (Call T)) : Nat := (latestDecides calls).foldr max 0

theorem le_maxDecided_iff {calls : List (Call T)} {viewNumber : Nat} (h : 0 < viewNumber) :
    viewNumber ≤ maxDecided calls ↔ ∃ latest ∈ latestDecides calls, viewNumber ≤ latest := by
  unfold maxDecided
  generalize latestDecides calls = views
  induction views with
  | nil =>
    simp only [List.foldr_nil, List.not_mem_nil, false_and, exists_false, iff_false]
    omega
  | cons view views ih => simp [ih]

theorem maxDecided_append (calls calls' : List (Call T)) :
    maxDecided (calls ++ calls') = max (maxDecided calls) (maxDecided calls') := by
  simp only [maxDecided, latestDecides, List.filterMap_append, List.foldr_append]
  generalize List.filterMap _ calls = views
  generalize List.foldr max 0 _ = bound
  induction views with
  | nil => simp
  | cons view views ih => simp [ih, Nat.max_assoc]

/--
Whatever is reported as decided is below the latest view of some decide among the calls so far.
-/
def DecidedIsTrue (s : Coordinator T × List (Call T)) : Prop :=
  ∀ id, s.1.lookupBuilderState id = .decided → ∃ latest ∈ latestDecides s.2, id.parentView < latest

theorem decidedIsTrue_iff {s : Coordinator T × List (Call T)} :
    DecidedIsTrue s ↔ s.1.lowestView ≤ maxDecided s.2 := by
  simp only [DecidedIsTrue, lookupBuilderState_eq_decided]
  constructor
  . intro h
    cases hlowest : s.1.lowestView with
    | zero => exact Nat.zero_le _
    | succ viewNumber =>
      rw [le_maxDecided_iff (Nat.succ_pos _)]
      have hlt : viewNumber < s.1.lowestView := by omega
      exact h ⟨viewNumber, T.defaultVidCommitment⟩ ⟨get_eq_none_of_lt_lowestView hlt, hlt⟩
  . rintro h id ⟨-, hlt⟩
    have hle : id.parentView + 1 ≤ maxDecided s.2 := Nat.le_trans hlt h
    exact (le_maxDecided_iff (Nat.succ_pos _)).mp hle

theorem lowestView_le_iff {self : Coordinator T} {bound : Nat}
    (h : ∃ state, state ∈ self.builderStates.stored) :
    self.lowestView ≤ bound ↔ ∃ state ∈ self.builderStates.stored, state.id.parentView ≤ bound := by
  rw [← not_iff_not, Nat.not_le, ← Nat.succ_le_iff, le_lowestView_iff h]
  simp only [not_exists, not_and, Nat.not_le, Nat.succ_le_iff]

theorem exists_stored_insert (m : BuilderStateMap T) (child : BuilderState T) :
    ∃ state, state ∈ (m.insert child).stored :=
  ⟨child, BuilderStateMap.mem_stored_insert.mpr (.inl rfl)⟩

theorem exists_stored_perform {self self' : Coordinator T} {call : Call T}
    (h : ∃ state, state ∈ self.builderStates.stored) (hperform : self.perform call = some self') :
    ∃ state, state ∈ self'.builderStates.stored := by
  rcases builderStates_of_perform hperform with ⟨latest, rest, -, hself'⟩ | ⟨-, hself' | ⟨child, hself'⟩⟩
  . obtain ⟨state, hstored⟩ := h
    rw [hself']
    exact exists_stored_prune hstored latest.viewNumber
  . rwa [hself']
  . rw [hself']
    exact exists_stored_insert _ _

theorem lowestView_insert_le {self self' : Coordinator T} {child : BuilderState T}
    (hself' : self'.builderStates = self.builderStates.insert child)
    (h : ∃ state, state ∈ self.builderStates.stored) : self'.lowestView ≤ self.lowestView := by
  obtain ⟨state, hstored, hview⟩ := (lowestView_le_iff h).mp (Nat.le_refl _)
  by_cases hid : state.id = child.id
  . have hchild : child ∈ self'.builderStates.stored := by
      rw [hself', BuilderStateMap.mem_stored_insert]
      exact .inl rfl
    rw [hid] at hview
    exact Nat.le_trans (lowestView_le hchild) hview
  . have hstate : state ∈ self'.builderStates.stored := by
      rw [hself', BuilderStateMap.mem_stored_insert]
      exact .inr ⟨hstored, hid⟩
    exact Nat.le_trans (lowestView_le hstate) hview

/--
A decide leaves a state at a view that is not above all decided ones.
-/
def LeavesDecided (s : Coordinator T × List (Call T)) (call : Call T) : Prop :=
  ∀ latest rest, call = .decide (latest :: rest) →
    ∃ state ∈ s.1.builderStates.stored, s.1.cutoff latest.viewNumber ≤ state.id.parentView ∧
      state.id.parentView ≤ max (maxDecided s.2) latest.viewNumber

theorem lowestView_le_of_decide_iff {self self' : Coordinator T} {latest bound : Nat}
    (hstored : ∃ state, state ∈ self.builderStates.stored)
    (hself' : self'.builderStates = self.builderStates.prune (self.cutoff latest)) :
    self'.lowestView ≤ bound ↔ ∃ state ∈ self.builderStates.stored,
      self.cutoff latest ≤ state.id.parentView ∧ state.id.parentView ≤ bound := by
  obtain ⟨state, hstored⟩ := hstored
  have hleft := exists_stored_prune hstored latest
  rw [← hself'] at hleft
  rw [lowestView_le_iff hleft, hself']
  simp only [BuilderStateMap.mem_stored_prune, and_assoc]

theorem decidedIsTrue_step_iff {s s' : Coordinator T × List (Call T)} {call : Call T}
    (hstored : ∃ state, state ∈ s.1.builderStates.stored) (h : DecidedIsTrue s)
    (hstep : recording perform s call = some s') : DecidedIsTrue s' ↔ LeavesDecided s call := by
  rw [decidedIsTrue_iff] at h ⊢
  obtain ⟨hperform, hcalls⟩ := recording_eq_some.mp hstep
  rw [hcalls, maxDecided_append]
  rcases builderStates_of_perform hperform with ⟨latest, rest, rfl, hself'⟩ | ⟨hnot, hself'⟩
  . have hmax : maxDecided [Call.decide (latest :: rest)] = latest.viewNumber := by
      simp [maxDecided, latestDecides]
    rw [hmax, lowestView_le_of_decide_iff hstored hself']
    constructor
    . rintro hleaves latest' rest' heq
      simp only [Call.decide.injEq, List.cons.injEq] at heq
      obtain ⟨rfl, rfl⟩ := heq
      exact hleaves
    . intro hleaves
      exact hleaves latest rest rfl
  . have hle : s'.1.lowestView ≤ s.1.lowestView := by
      rcases hself' with hself' | ⟨child, hself'⟩
      . rw [lowestView, hself']
        exact Nat.le_refl _
      . exact lowestView_insert_le hself' hstored
    constructor
    . rintro - latest rest rfl
      exact absurd rfl (hnot _)
    . intro _
      exact Nat.le_trans hle (Nat.le_trans h (Nat.le_max_left ..))

/--
In every run from the start: what is reported as decided was decided, exactly as long as every decide
leaves a state at a view that is not above all decided ones.
-/
theorem decidedIsTrue_always_iff (period now : Nat) (calls : List (Call T)) :
    Always (recording perform) DecidedIsTrue (new period now, []) calls ↔
      Along (recording perform) LeavesDecided (new period now, []) calls := by
  apply always_iff_along (I := fun s => ∃ state, state ∈ s.1.builderStates.stored)
  . intro s call s' hstored hstep
    exact exists_stored_perform hstored (recording_eq_some.mp hstep).1
  . intro s call s' hstored h hstep
    exact decidedIsTrue_step_iff hstored h hstep
  . exact exists_stored_insert _ _
  . rw [decidedIsTrue_iff]
    have hstored : (Node.bootstrap period now : Node T).state ∈
        (new period now : Coordinator T).builderStates.stored :=
      BuilderStateMap.mem_stored_insert.mpr (.inl rfl)
    exact lowestView_le hstored

/--
View 5 is decided while states are stored at the views 0 and 10 only.
-/
theorem not_decidedIsTrue_always :
    ¬ Always (recording perform) DecidedIsTrue ((new 5 0 : Coordinator TestTypes), [])
      (deliver 10 1 ++ [.decide [TestTypes.leaf 5]]) := by
  intro halways
  have hlast : ∃ last, run perform (new 5 0) (deliver 10 1 ++ [.decide [TestTypes.leaf 5]]) = some last ∧
      last.lookupBuilderState ⟨7, (0 : Nat)⟩ = .decided :=
    ⟨_, rfl, rfl⟩
  obtain ⟨last, hrun, hlookup⟩ := hlast
  have hrun := run_recording_eq_some.mpr ⟨hrun, (List.nil_append _).symm⟩
  have htrue := always_iff_isPrefixOf.mp halways _ [] _ (List.append_nil _).symm hrun
  obtain ⟨latest, hlatest, hlt⟩ := htrue _ hlookup
  have hlatest : latest ∈ [5] := hlatest
  simp only [List.mem_singleton] at hlatest
  rw [hlatest] at hlt
  exact absurd hlt (by decide)

end Coordinator

end BuilderCore
