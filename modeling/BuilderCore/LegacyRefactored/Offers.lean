import BuilderCore.LegacyRefactored.Service

/-!
This module contains that a block stays claimable from the moment it is offered until its view is
pruned.
-/

namespace BuilderCore

open Transition

variable {T : NodeType} [ApiTypes T]

namespace Service

/--
What a step does to the block store: only a block that a call has built is added.
-/
inductive StoreChange (self : Service T) : Action T → BlockStore T → Prop where
  | keep (action : Action T) : StoreChange self action self.globalState.blockStore
  | update (action : Action T) (i : Nat) (call : Call T) (stateId : BuilderStateId T)
      (blockInfo : BlockInfo T) (hcall : self.calls[i]? = some call)
      (hbuilt : call.progress = .built stateId (.ok (some blockInfo))) :
      StoreChange self action (self.globalState.blockStore.update stateId
        ⟨blockInfo.builderCommitment, stateId.parentView⟩ blockInfo)
  | prune (cutoff : Nat) :
      StoreChange self (.prune cutoff) (self.globalState.blockStore.prune cutoff)

section

variable {self self' : Service T}

theorem stepCall_eq_some {action : Action T} {i : Nat} :
    self.stepCall action i = some self' ↔
      ∃ call globalState progress, self.calls[i]? = some call ∧
        advance self.globalState action call.progress = some (globalState, progress) ∧
        self' = ⟨globalState, self.calls.set i { call with progress }⟩ := by
  simp only [stepCall, Option.bind_eq_bind, Option.bind_eq_some_iff, Option.pure_def,
    Option.some.injEq, Prod.exists]
  constructor
  . rintro ⟨call, hcall, globalState, progress, hadvance, rfl⟩
    exact ⟨call, globalState, progress, hcall, hadvance, rfl⟩
  . rintro ⟨call, globalState, progress, hcall, hadvance, rfl⟩
    exact ⟨call, hcall, globalState, progress, hadvance, rfl⟩

theorem answerAvailableBlocks_eq_done (globalState : GlobalState T) (stateId : BuilderStateId T)
    (result : Except (RequestError T) (Option (BlockInfo T))) :
    ∃ answer, (globalState.answerAvailableBlocks stateId result).2 = .done answer ∧
      ((globalState.answerAvailableBlocks stateId result).1 = globalState ∨
        ∃ blockInfo, result = .ok (some blockInfo) ∧
          (globalState.answerAvailableBlocks stateId result).1 = { globalState with
            blockStore := globalState.blockStore.update stateId
              ⟨blockInfo.builderCommitment, stateId.parentView⟩ blockInfo }) := by
  unfold GlobalState.answerAvailableBlocks
  split
  . next blockInfo =>
    split
    . exact ⟨_, rfl, .inl rfl⟩
    . exact ⟨_, rfl, .inr ⟨blockInfo, rfl, rfl⟩⟩
  . exact ⟨_, rfl, .inl rfl⟩
  . split
    . exact ⟨_, rfl, .inl rfl⟩
    . split <;> exact ⟨_, rfl, .inl rfl⟩

theorem blockStore_of_advance {globalState globalState' : GlobalState T} {action : Action T}
    {progress progress' : Progress T}
    (h : advance globalState action progress = some (globalState', progress')) :
    globalState'.blockStore = globalState.blockStore ∨
      ∃ stateId blockInfo, progress = .built stateId (.ok (some blockInfo)) ∧
        globalState'.blockStore = globalState.blockStore.update stateId
          ⟨blockInfo.builderCommitment, stateId.parentView⟩ blockInfo := by
  unfold advance at h
  split at h
  . simp only [Option.map_eq_some_iff, Prod.mk.injEq] at h
    obtain ⟨_, -, rfl, -⟩ := h
    exact .inl rfl
  . simp only [Option.some.injEq, Prod.mk.injEq] at h
    rw [← h.1]
    exact .inl rfl
  . simp only [Option.some.injEq, Prod.mk.injEq] at h
    rw [← h.1]
    exact .inl rfl
  . next stateId result =>
    obtain ⟨answer, -, hstore⟩ := answerAvailableBlocks_eq_done globalState stateId result
    rw [Option.some.inj h] at hstore
    rcases hstore with hkeep | ⟨blockInfo, rfl, hupdate⟩
    . exact .inl (congrArg GlobalState.blockStore hkeep)
    . exact .inr ⟨stateId, blockInfo, rfl, congrArg GlobalState.blockStore hupdate⟩
  . simp only [Option.some.injEq, Prod.mk.injEq] at h
    rw [← h.1]
    exact .inl rfl
  . simp only [Option.some.injEq, Prod.mk.injEq] at h
    rw [← h.1]
    exact .inl rfl
  . simp only [GlobalState.answerHeaderInput, Option.some.injEq] at h
    split at h
    all_goals
      rw [Prod.mk.injEq] at h
      rw [← h.1]
      exact .inl rfl
  . unfold GlobalState.timeOut at h
    split at h
    . contradiction
    all_goals
      simp only [Option.some.injEq, Prod.mk.injEq] at h
      rw [← h.1]
      exact .inl rfl
  . contradiction

theorem storeChange_of_step {action : Action T} (h : self.step action = some self') :
    StoreChange self action self'.globalState.blockStore := by
  have hstepCall : ∀ {i}, self.stepCall action i = some self' →
      StoreChange self action self'.globalState.blockStore := by
    intro i hi
    obtain ⟨call, globalState, progress, hcall, hadvance, rfl⟩ := stepCall_eq_some.mp hi
    rcases blockStore_of_advance hadvance with hkeep | ⟨stateId, blockInfo, hbuilt, hupdate⟩
    . show StoreChange _ _ globalState.blockStore
      rw [hkeep]
      exact .keep _
    . show StoreChange _ _ globalState.blockStore
      rw [hupdate]
      exact .update _ i call stateId blockInfo hcall hbuilt
  cases action with
  | receive request =>
    rw [← Option.some.inj h]
    show StoreChange _ _ (self.globalState.receive request).1.blockStore
    rw [GlobalState.receive_eq]
    exact .keep _
  | prune cutoff =>
    rw [← Option.some.inj h]
    exact .prune cutoff
  | coordinate action =>
    simp only [step, Option.bind_eq_bind, Option.bind_eq_some_iff, Option.pure_def,
      Option.some.injEq] at h
    obtain ⟨coordinator, -, rfl⟩ := h
    exact .keep _
  | _ => exact hstepCall h

theorem consistent (h : Reachable step IsNew self) : self.globalState.blockStore.Consistent := by
  apply reachable_invariant (P := fun self : Service T =>
    self.globalState.blockStore.Consistent) _ _ h
  . rintro _ ⟨config, now, rfl⟩
    exact BlockStore.consistent_new
  . intro self₁ action self₂ hconsistent hstep
    have hchange := storeChange_of_step hstep
    generalize self₂.globalState.blockStore = blockStore at hchange
    cases hchange with
    | keep => exact hconsistent
    | update _ i call stateId blockInfo => exact hconsistent.update stateId blockInfo
    | prune cutoff => exact hconsistent.prune cutoff

/--
The block of an answer is in the store when the answer is made.
-/
theorem getBlock_of_answer {globalState globalState' : GlobalState T}
    (hconsistent : globalState.blockStore.Consistent) {stateId : BuilderStateId T}
    {result : Except (RequestError T) (Option (BlockInfo T))}
    {blocks : List (AvailableBlockInfo T)}
    (h : globalState.answerAvailableBlocks stateId result =
      (globalState', .done (.ok (.availableBlocks blocks)))) {block : AvailableBlockInfo T}
    (hblock : block ∈ blocks) :
    ∃ blockInfo, globalState'.blockStore.getBlock ⟨block.blockHash, stateId.parentView⟩ =
      some blockInfo := by
  simp only [GlobalState.answerAvailableBlocks] at h
  split at h
  . next info =>
    split at h
    . simp [Progress.failed] at h
    . next response hresponse =>
      simp only [Prod.mk.injEq, Progress.done.injEq, Except.ok.injEq,
        Response.availableBlocks.injEq] at h
      obtain ⟨rfl, rfl⟩ := h
      rw [List.mem_singleton] at hblock
      rw [hblock, BlockInfo.blockHash_of_signedResponse hresponse]
      exact ⟨info, by simp⟩
  . simp only [Prod.mk.injEq, Progress.done.injEq, Except.ok.injEq,
      Response.availableBlocks.injEq] at h
    rw [← h.2] at hblock
    contradiction
  . split at h
    . simp [Progress.failed] at h
    . next cachedBlock hcached =>
      split at h
      . simp [Progress.failed] at h
      . next response hresponse =>
        simp only [Prod.mk.injEq, Progress.done.injEq, Except.ok.injEq,
          Response.availableBlocks.injEq] at h
        obtain ⟨rfl, rfl⟩ := h
        rw [List.mem_singleton] at hblock
        rw [hblock, BlockInfo.blockHash_of_signedResponse hresponse]
        exact ⟨cachedBlock, hconsistent.getCached hcached⟩

theorem getBlock_of_step {action : Action T} (hstep : self.step action = some self')
    {blockId : BlockId T} (hprune : ∀ cutoff, action = .prune cutoff → cutoff ≤ blockId.view)
    (hget : ∃ blockInfo, self.globalState.blockStore.getBlock blockId = some blockInfo) :
    ∃ blockInfo, self'.globalState.blockStore.getBlock blockId = some blockInfo := by
  have hchange := storeChange_of_step hstep
  generalize self'.globalState.blockStore = blockStore at hchange
  cases hchange with
  | keep => exact hget
  | update _ i call stateId info =>
    rw [BlockStore.getBlock_update]
    split
    . exact ⟨info, rfl⟩
    . exact hget
  | prune cutoff =>
    rw [BlockStore.getBlock_prune, if_pos (hprune cutoff rfl)]
    exact hget

theorem getBlock_of_run {actions : List (Action T)} (hrun : run step self actions = some self')
    {blockId : BlockId T} (hprune : ∀ cutoff, .prune cutoff ∈ actions → cutoff ≤ blockId.view)
    (hget : ∃ blockInfo, self.globalState.blockStore.getBlock blockId = some blockInfo) :
    ∃ blockInfo, self'.globalState.blockStore.getBlock blockId = some blockInfo := by
  apply run_invariant_along
    (P := fun self : Service T =>
      ∃ blockInfo, self.globalState.blockStore.getBlock blockId = some blockInfo)
    (C := fun _ action => ∀ cutoff, action = .prune cutoff → cutoff ≤ blockId.view) _ hget _ hrun
  . intro self₁ action self₂ hget hkept hstep
    exact getBlock_of_step hstep hkept hget
  . apply along_of_forall
    rintro action haction _ cutoff rfl
    exact hprune cutoff haction

theorem step_answerAvailableBlocks {i : Nat} {call : Call T} {stateId : BuilderStateId T}
    {result : Except (RequestError T) (Option (BlockInfo T))} (hcall : self.calls[i]? = some call)
    (hbuilt : call.progress = .built stateId result)
    (hstep : self.step (.answerAvailableBlocks i) = some self') :
    ∃ progress, self'.calls[i]? = some { call with progress } ∧
      self.globalState.answerAvailableBlocks stateId result = (self'.globalState, progress) := by
  obtain ⟨call', globalState, progress, hcall', hadvance, rfl⟩ := stepCall_eq_some.mp hstep
  rw [hcall, Option.some.injEq] at hcall'
  subst hcall'
  rw [hbuilt] at hadvance
  have hlt := (List.getElem?_eq_some_iff.mp hcall).1
  exact ⟨progress, by simp [hlt], Option.some.inj hadvance⟩

/--
A block that was offered is claimable until its view is pruned, and what is cached is in the store.
-/
theorem offered_stays_claimable (hreachable : Reachable step IsNew self) :
    (∀ stateId blockId, self.globalState.blockStore.blockCache.get stateId = some blockId →
      blockId.view = stateId.parentView ∧
        (self.globalState.blockStore.getBlock blockId).isSome = true) ∧
    ∀ i call stateId result self' request blocks block actions self'',
      self.calls[i]? = some call → call.progress = .built stateId result →
      self.step (.answerAvailableBlocks i) = some self' →
      self'.calls[i]? = some ⟨request, .done (.ok (.availableBlocks blocks))⟩ → block ∈ blocks →
      run step self' actions = some self'' →
      (∀ cutoff, .prune cutoff ∈ actions → cutoff ≤ stateId.parentView) →
      ∃ blockInfo,
        self''.globalState.blockStore.getBlock ⟨block.blockHash, stateId.parentView⟩ =
          some blockInfo ∧
        blockInfo.builderCommitment = block.blockHash ∧
        self''.globalState.answerClaimBlock ⟨block.blockHash, stateId.parentView⟩ ≠
          .failed .notFound ∧
        self''.globalState.lookUpHeaderInput ⟨block.blockHash, stateId.parentView⟩ =
          .resolving blockInfo := by
  have hconsistent := consistent hreachable
  refine ⟨fun stateId blockId hcached =>
    ⟨hconsistent.view hcached, hconsistent.stored hcached⟩, ?_⟩
  intro i call stateId result self' request blocks block actions self'' hcall hbuilt hstep hanswer
    hblock hrun hprune
  obtain ⟨progress, hprogress, hanswered⟩ := step_answerAvailableBlocks hcall hbuilt hstep
  rw [hanswer, Option.some.injEq, Call.mk.injEq] at hprogress
  rw [← hprogress.2] at hanswered
  have hget := getBlock_of_answer hconsistent hanswered hblock
  obtain ⟨blockInfo, hget⟩ := getBlock_of_run hrun hprune hget
  have hreachable' := reachable_run (reachable_step hreachable hstep) hrun
  refine ⟨blockInfo, hget, (consistent hreachable').hash hget, ?_, ?_⟩
  . simp only [GlobalState.answerClaimBlock, GlobalState.claimBlockImplementation, hget]
    cases ApiTypes.signBuilderMessage self''.globalState.builderKeys.privateKey
      (ApiTypes.builderCommitmentAsRef blockInfo.builderCommitment) <;>
      simp [Progress.failed, RequestError.toBuildError]
  . simp only [GlobalState.lookUpHeaderInput, hget]

end

theorem offered_stays_claimable_testBuilt :
    ∃ self' self'', testBuilt.step (.answerAvailableBlocks 0) = some self' ∧
      run step self' [.prune 0] = some self'' ∧
      ∃ blockInfo, self''.globalState.blockStore.getBlock ⟨([5] : List Nat), 0⟩ = some blockInfo ∧
        self''.globalState.lookUpHeaderInput ⟨([5] : List Nat), 0⟩ = .resolving blockInfo := by
  have hself : ∃ self', testBuilt.step (.answerAvailableBlocks 0) = some self' ∧
      ∃ self'', run step self' [.prune 0] = some self'' := ⟨_, rfl, _, rfl⟩
  obtain ⟨self', hstep, self'', hrun⟩ := hself
  have hanswer : ∃ request block, self'.calls[0]? =
      some ⟨request, .done (.ok (.availableBlocks [block]))⟩ ∧ block.blockHash = ([5] : List Nat) := by
    rw [← Option.some.inj hstep]
    exact ⟨_, _, rfl, rfl⟩
  obtain ⟨request, block, hanswer, hhash⟩ := hanswer
  obtain ⟨blockInfo, hget, -, -, hheader⟩ :=
    (offered_stays_claimable reachable_testBuilt).2 0 _ ⟨0, (0 : Nat)⟩ _ self' request [block] block
      [.prune 0] self'' rfl rfl hstep hanswer (List.mem_singleton_self _) hrun (by simp)
  rw [hhash] at hget hheader
  exact ⟨self', self'', hstep, hrun, blockInfo, hget, hheader⟩

end Service

end BuilderCore
