import BuilderCore.Legacy.Service

/-!
This module contains which requests for blocks the legacy builder refuses as decided, depending on the
cutoffs that its garbage collections returned.
-/

namespace BuilderCore

open Collections Transition

variable {T : NodeType}

namespace Legacy

namespace GlobalState

variable {Sender : Type}

/--
What the calls of `remove_handles` in a run return.
-/
def cutoffs (self : GlobalState T Sender) (calls : List (HandleCall T Sender)) : List Nat :=
  match calls with
  | [] => []
  | .registerBuilderState parentId refs sender :: calls =>
    (self.registerBuilderState parentId refs sender).cutoffs calls
  | .removeHandles onDecideView :: calls =>
    (self.removeHandles onDecideView).2 :: (self.removeHandles onDecideView).1.cutoffs calls

/--
The garbage collection is recorded one view below its cutoff.
-/
structure CollectedUpTo (globalState : GlobalState T Sender) (cutoff : Nat) : Prop where
  last : globalState.lastGarbageCollectedViewNum = cutoff - 1
  le : cutoff ≤ globalState.highestViewNumBuilderId.parentView

section

variable {self self' : GlobalState T Sender}

theorem collectedUpTo_removeHandles (self : GlobalState T Sender) (onDecideView : Nat) :
    (self.removeHandles onDecideView).1.CollectedUpTo (self.removeHandles onDecideView).2 where
  last := by
    simp only [removeHandles]
    split <;> omega
  le := Nat.min_le_left ..

/--
The last cutoff, or else one of before the run.
-/
theorem collectedUpTo_run {earlier : Option Nat}
    (h : ∀ cutoff, earlier = some cutoff → self.CollectedUpTo cutoff)
    {calls : List (HandleCall T Sender)} (hrun : run handle self calls = some self')
    {cutoff : Nat} (hlast : (self.cutoffs calls).getLast?.or earlier = some cutoff) :
    self'.CollectedUpTo cutoff := by
  induction calls generalizing self earlier with
  | nil =>
    rw [run_nil, Option.some.injEq] at hrun
    rw [← hrun]
    exact h cutoff hlast
  | cons call calls ih =>
    rw [run_cons_eq_some] at hrun
    obtain ⟨self₁, hstep, hrun⟩ := hrun
    cases call with
    | registerBuilderState parentId refs sender =>
      obtain rfl := Option.some.inj hstep
      have hle := (highest_le_registerBuilderState self parentId refs sender).1
      refine ih ?_ hrun hlast
      intro cutoff hearlier
      exact ⟨(h cutoff hearlier).last, Nat.le_trans (h cutoff hearlier).le hle⟩
    | removeHandles onDecideView =>
      obtain rfl := Option.some.inj hstep
      apply @ih _ (some (self.removeHandles onDecideView).2) _ hrun
      . rw [← hlast, cutoffs, List.getLast?_cons]
        cases (cutoffs _ calls).getLast? <;> rfl
      . intro cutoff hcutoff
        rw [← Option.some.inj hcutoff]
        exact collectedUpTo_removeHandles self onDecideView

theorem collectedUpTo_of_run {calls : List (HandleCall T Sender)}
    (hrun : Transition.run handle self calls = some self') {cutoff : Nat}
    (hlast : (self.cutoffs calls).getLast? = some cutoff) : self'.CollectedUpTo cutoff := by
  apply @collectedUpTo_run _ _ _ _ none _ _ hrun
  . rw [hlast, Option.some_or]
  . intro cutoff hnone
    contradiction

end

end GlobalState

namespace ProxyGlobalState

variable [ApiTypes T]

/--
The request is answered before it waits for anything.
-/
def RefusesAsDecided (self : ProxyGlobalState T) (forParent : T.VidCommitment) (viewNumber : Nat)
    (authentication : Authentication T) : Prop :=
  ∃ stateId, (self.availableBlocks forParent viewNumber authentication).2 =
      .availableBlocks stateId ∧
    self.checkDecided stateId =
      .failAvailableBlocks .requestForAvailableViewThatHasAlreadyBeenDecided

theorem refusesAsDecided_iff {self : ProxyGlobalState T} {forParent : T.VidCommitment}
    {viewNumber : Nat} {authentication : Authentication T}
    (hvalid : authentication.validate (ApiTypes.vidCommitmentAsRef forParent) = true) :
    self.RefusesAsDecided forParent viewNumber authentication ↔
      viewNumber < self.globalState.lastGarbageCollectedViewNum ∧
        self.globalState.highestViewNumBuilderId.parentView ≠
          self.globalState.lastGarbageCollectedViewNum := by
  simp only [RefusesAsDecided, availableBlocks, hvalid, not_true_eq_false, if_false,
    Progress.availableBlocks.injEq, exists_eq_left', checkDecided]
  split
  . next hdecided => simp [hdecided]
  . next hnot => simp [hnot, Progress.failAvailableBlocks]

/--
For a view below the greatest cutoff that was ever returned, the request is refused exactly if the
view is two or more below the one that was returned last.
-/
theorem refuses_decided_iff {config : Config T Nat}
    {calls : List (GlobalState.HandleCall T Nat)} {self : ProxyGlobalState T}
    (hrun : run GlobalState.handle (.new config) calls = some self.globalState)
    {forParent : T.VidCommitment} {viewNumber : Nat} {authentication : Authentication T}
    (hvalid : authentication.validate (ApiTypes.vidCommitmentAsRef forParent) = true)
    (hview : ∃ cutoff ∈ (GlobalState.new config).cutoffs calls, viewNumber < cutoff) :
    self.RefusesAsDecided forParent viewNumber authentication ↔
      ∃ cutoff ∈ ((GlobalState.new config).cutoffs calls).getLast?, viewNumber + 1 < cutoff := by
  obtain ⟨cutoff, hcutoff, -⟩ := hview
  obtain ⟨last, hlast⟩ := List.getLast?_isSome.mpr (List.ne_nil_of_mem hcutoff) |>
    Option.isSome_iff_exists.mp
  have hcollected := GlobalState.collectedUpTo_of_run hrun hlast
  have hle := hcollected.le
  rw [refusesAsDecided_iff hvalid, hcollected.last, hlast]
  simp only [Option.mem_some_iff, exists_eq_left']
  -- from the first collection on, the recorded view is below the highest one
  constructor
  . rintro ⟨hlt, -⟩
    omega
  . intro hlt
    constructor <;> omega

def testProxy (globalState : GlobalState TestTypes Nat) : ProxyGlobalState TestTypes :=
  ⟨globalState, ⟨(7 : Nat), (7 : Nat)⟩⟩

def testRequestKey (parent : Nat) : Authentication TestTypes := ⟨(1 : Nat), (1, [parent.toUInt8])⟩

theorem validate_testRequestKey (parent : Nat) :
    (testRequestKey parent).validate (ApiTypes.vidCommitmentAsRef (T := TestTypes) parent) = true :=
  decide_eq_true rfl

theorem refuses_decided_testProxy :
    ∃ globalState, run GlobalState.handle (.new GlobalState.testConfig)
        [.registerBuilderState ⟨6, (60 : Nat)⟩ .bootstrap 1, .removeHandles 5] = some globalState ∧
      (testProxy globalState).RefusesAsDecided (30 : Nat) 3 (testRequestKey 30) := by
  have hrun : ∃ globalState, run GlobalState.handle (.new GlobalState.testConfig)
      [.registerBuilderState ⟨6, (60 : Nat)⟩ .bootstrap 1, .removeHandles 5] = some globalState :=
    ⟨_, rfl⟩
  obtain ⟨globalState, hrun⟩ := hrun
  have hproxy : (testProxy globalState).globalState = globalState := rfl
  rw [← hproxy] at hrun
  refine ⟨globalState, hrun, ?_⟩
  apply (refuses_decided_iff hrun (validate_testRequestKey 30) _).mpr
  . exact ⟨5, rfl, by decide⟩
  . exact ⟨5, List.mem_singleton_self _, by decide⟩

/--
The view right below the cutoff is not refused, and neither is one that only an older decide, which
comes late, does not reach.
-/
theorem not_refuses_decided :
    (∃ globalState, run GlobalState.handle (.new GlobalState.testConfig)
        [.registerBuilderState ⟨6, (60 : Nat)⟩ .bootstrap 1, .removeHandles 5] = some globalState ∧
      ⟨4, (40 : Nat)⟩ ∉ globalState.spawnedBuilderStates.keys ∧
      ¬ (testProxy globalState).RefusesAsDecided (40 : Nat) 4 (testRequestKey 40)) ∧
    ∃ globalState, run GlobalState.handle (.new GlobalState.testConfig)
        [.registerBuilderState ⟨9, (90 : Nat)⟩ .bootstrap 1, .removeHandles 8, .removeHandles 3] =
          some globalState ∧
      ⟨5, (50 : Nat)⟩ ∉ globalState.spawnedBuilderStates.keys ∧
      ¬ (testProxy globalState).RefusesAsDecided (50 : Nat) 5 (testRequestKey 50) := by
  constructor
  . refine ⟨_, rfl, by decide, ?_⟩
    intro h
    have hlt := ((refusesAsDecided_iff (validate_testRequestKey 40)).mp h).1
    contradiction
  . refine ⟨_, rfl, by decide, ?_⟩
    intro h
    have hlt := ((refusesAsDecided_iff (validate_testRequestKey 50)).mp h).1
    contradiction

end ProxyGlobalState

end Legacy

end BuilderCore
