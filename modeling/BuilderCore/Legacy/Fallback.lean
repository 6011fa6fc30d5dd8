import BuilderCore.Legacy.GlobalState

/-!
This module contains that the builder that requests fall back to always exists, whatever is
registered and whatever is decided in between.
-/

namespace BuilderCore

open Collections Transition

variable {T : NodeType} {Sender : Type}

namespace Legacy

namespace GlobalState

inductive HandleCall (T : NodeType) (Sender : Type) where
  | registerBuilderState (parentId : BuilderStateId T)
      (builtFromProposedBlock : ParentBlockReferences T) (requestSender : Sender)
  | removeHandles (onDecideView : Nat)

def handle (self : GlobalState T Sender) (call : HandleCall T Sender) :
    Option (GlobalState T Sender) :=
  match call with
  | .registerBuilderState parentId builtFromProposedBlock requestSender =>
    some (self.registerBuilderState parentId builtFromProposedBlock requestSender)
  | .removeHandles onDecideView => some (self.removeHandles onDecideView).1

theorem blocks_handle {self self' : GlobalState T Sender} {call : HandleCall T Sender}
    (h : self.handle call = some self') : self'.blocks = self.blocks := by
  cases call with
  | registerBuilderState parentId refs sender =>
    rw [← Option.some.inj h]
    rfl
  | removeHandles onDecideView =>
    rw [← Option.some.inj h]
    rfl

structure Fallback (globalState : GlobalState T Sender) : Prop where
  registered :
    ∃ entry, globalState.spawnedBuilderStates.get? globalState.highestViewNumBuilderId = some entry
  greatest : ∀ id ∈ globalState.spawnedBuilderStates.keys,
    id.parentView ≤ globalState.highestViewNumBuilderId.parentView

section

variable {self self' : GlobalState T Sender}

theorem fallback_new (config : Config T Sender) : Fallback (new config) where
  registered := by simp [new]
  greatest := by
    intro id hid
    rw [HashMap.mem_keys_iff] at hid
    obtain ⟨entry, hentry⟩ := hid
    simp only [new, HashMap.get?_insert, HashMap.get?_empty] at hentry ⊢
    split at hentry
    . next hid => rw [hid]
    . contradiction

theorem Fallback.registerBuilderState (h : Fallback self) (parentId : BuilderStateId T)
    (refs : ParentBlockReferences T) (sender : Sender) :
    Fallback (self.registerBuilderState parentId refs sender) where
  registered := by
    obtain ⟨entry, hentry⟩ := h.registered
    simp only [GlobalState.registerBuilderState, HashMap.get?_insert]
    split
    . exact ⟨_, if_pos rfl⟩
    . split
      . exact ⟨_, rfl⟩
      . exact ⟨entry, hentry⟩
  greatest := by
    have hle := self.highest_le_registerBuilderState parentId refs sender
    intro id hid
    rw [HashMap.mem_keys_iff] at hid
    obtain ⟨entry, hentry⟩ := hid
    rcases eq_or_get?_of_registerBuilderState hentry with ⟨rfl, -⟩ | hentry
    . exact hle.2
    . exact Nat.le_trans (h.greatest id (HashMap.mem_keys_iff.mpr ⟨entry, hentry⟩)) hle.1

theorem Fallback.removeHandles (h : Fallback self) (onDecideView : Nat) :
    Fallback (self.removeHandles onDecideView).1 where
  registered := by
    obtain ⟨entry, hentry⟩ := h.registered
    -- the highest view is never removed
    have hcutoff : self.cutoff onDecideView ≤ self.highestViewNumBuilderId.parentView :=
      Nat.min_le_left ..
    refine ⟨entry, ?_⟩
    rw [removeHandles_highest, get?_removeHandles, if_pos hcutoff]
    exact hentry
  greatest := by
    intro id hid
    rw [HashMap.mem_keys_iff] at hid
    obtain ⟨entry, hentry⟩ := hid
    rw [get?_removeHandles] at hentry
    split at hentry
    . exact h.greatest id (HashMap.mem_keys_iff.mpr ⟨entry, hentry⟩)
    . contradiction

theorem Fallback.handle {call : HandleCall T Sender} (h : Fallback self)
    (hstep : self.handle call = some self') : Fallback self' := by
  cases call with
  | registerBuilderState parentId refs sender =>
    rw [← Option.some.inj hstep]
    exact h.registerBuilderState parentId refs sender
  | removeHandles onDecideView =>
    rw [← Option.some.inj hstep]
    exact h.removeHandles onDecideView

theorem fallback (h : Reachable handle IsNew self) : Fallback self := by
  apply reachable_invariant _ _ h
  . rintro _ ⟨config, rfl⟩
    exact fallback_new config
  . intro self call self' hself hstep
    exact hself.handle hstep

theorem highest_le_handle {call : HandleCall T Sender} (hstep : self.handle call = some self') :
    self.highestViewNumBuilderId.parentView ≤ self'.highestViewNumBuilderId.parentView := by
  cases call with
  | registerBuilderState parentId refs sender =>
    rw [← Option.some.inj hstep]
    exact (highest_le_registerBuilderState _ parentId refs sender).1
  | removeHandles onDecideView =>
    rw [← Option.some.inj hstep]
    exact Nat.le_refl _

theorem highest_le_run {calls : List (HandleCall T Sender)}
    (hrun : run handle self calls = some self') :
    self.highestViewNumBuilderId.parentView ≤ self'.highestViewNumBuilderId.parentView := by
  apply run_invariant (P := fun self' => self.highestViewNumBuilderId.parentView ≤
    self'.highestViewNumBuilderId.parentView) _ (Nat.le_refl _) hrun
  intro self₁ call self₂ hle hstep
  exact Nat.le_trans hle (highest_le_handle hstep)

theorem registered_le_run {calls : List (HandleCall T Sender)} {parentId : BuilderStateId T}
    {refs : ParentBlockReferences T} {sender : Sender}
    (hcall : .registerBuilderState parentId refs sender ∈ calls)
    (hrun : run handle self calls = some self') :
    parentId.parentView ≤ self'.highestViewNumBuilderId.parentView := by
  obtain ⟨before, after, rfl⟩ := List.append_of_mem hcall
  rw [run_append_eq_some] at hrun
  obtain ⟨self₁, -, hrun⟩ := hrun
  rw [run_cons_eq_some] at hrun
  obtain ⟨self₂, hstep, hrun⟩ := hrun
  have hle : parentId.parentView ≤ self₂.highestViewNumBuilderId.parentView := by
    rw [← Option.some.inj hstep]
    exact (highest_le_registerBuilderState _ parentId refs sender).2
  exact Nat.le_trans hle (highest_le_run hrun)

theorem Fallback.getChannel (h : Fallback self) (key : BuilderStateId T) :
    ∃ sender, self.getChannelForMatchingBuilderOrHighestViewBuilder key = .ok sender := by
  obtain ⟨⟨refs, sender⟩, hentry⟩ := h.registered
  unfold getChannelForMatchingBuilderOrHighestViewBuilder
  split
  . next sender' _ => exact ⟨sender', rfl⟩
  . rw [hentry]
    exact ⟨sender, rfl⟩

end

/--
The highest id is registered, its view is the maximum of the registered views and of all that ever
were, it never decreases, and a channel is found for every key.
-/
theorem fallback_exists {self : GlobalState T Sender} (h : Reachable handle IsNew self) :
    (∃ entry, self.spawnedBuilderStates.get? self.highestViewNumBuilderId = some entry) ∧
    (∀ id ∈ self.spawnedBuilderStates.keys,
      id.parentView ≤ self.highestViewNumBuilderId.parentView) ∧
    (∀ calls self', run handle self calls = some self' →
      self.highestViewNumBuilderId.parentView ≤ self'.highestViewNumBuilderId.parentView ∧
      ∀ parentId refs sender, .registerBuilderState parentId refs sender ∈ calls →
        parentId.parentView ≤ self'.highestViewNumBuilderId.parentView) ∧
    ∀ key, ∃ sender, self.getChannelForMatchingBuilderOrHighestViewBuilder key = .ok sender := by
  have hfallback := fallback h
  refine ⟨hfallback.registered, hfallback.greatest, ?_, hfallback.getChannel⟩
  intro calls self' hrun
  refine ⟨highest_le_run hrun, ?_⟩
  intro parentId refs sender hcall
  exact registered_le_run hcall hrun

def testConfig : Config TestTypes Nat where
  bootstrapSender := 0
  bootstrapId := ⟨0, (0 : Nat)⟩
  lastGarbageCollectedViewNum := 0
  maxBlockSizeIncrementPeriod := 10
  protocolMaxBlockSize := 1000
  numNodes := 4
  maxTxnNum := 100
  maxTxnNum_pos := by decide
  now := 0

/--
The decide of view 9 is ahead of everything, and the builder of view 1 is registered late.
-/
def lateCalls : List (HandleCall TestTypes Nat) := [
  .registerBuilderState ⟨2, (20 : Nat)⟩ .bootstrap 1,
  .removeHandles 9,
  .registerBuilderState ⟨1, (10 : Nat)⟩ .bootstrap 2]

theorem fallback_exists_lateCalls :
    ∃ self, run handle (new testConfig) lateCalls = some self ∧
      self.highestViewNumBuilderId = ⟨2, (20 : Nat)⟩ ∧
      (∀ id ∈ self.spawnedBuilderStates.keys, id.parentView ≤ 2) ∧
      ∀ key, ∃ sender, self.getChannelForMatchingBuilderOrHighestViewBuilder key = .ok sender := by
  have hself : ∃ self, run handle (new testConfig) lateCalls = some self ∧
      self.highestViewNumBuilderId = ⟨2, (20 : Nat)⟩ := ⟨_, rfl, rfl⟩
  obtain ⟨self, hrun, hhighest⟩ := hself
  obtain ⟨-, hgreatest, -, hchannel⟩ := fallback_exists ⟨_, _, ⟨testConfig, rfl⟩, hrun⟩
  refine ⟨self, hrun, hhighest, ?_, hchannel⟩
  intro id hid
  have hle := hgreatest id hid
  rw [hhighest] at hle
  exact hle

end GlobalState

end Legacy

end BuilderCore
