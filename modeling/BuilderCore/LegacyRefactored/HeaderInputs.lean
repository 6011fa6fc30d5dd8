import BuilderCore.Collections.Slots
import BuilderCore.LegacyRefactored.Offers

/-!
This module contains which VID commitment the refactored legacy builder answers a request for a header
input with: that of the stored block, for the node count that the block was built with.
-/

namespace BuilderCore

open Collections Transition

variable {T : NodeType} [ApiTypes T]

def BlockInfo.IsEncoded (self : BlockInfo T) : Prop :=
  self.vidData.encodedTxns = ApiTypes.encode self.blockPayload

namespace Progress

def IsHeaderInput (id : BlockId T) (self : Progress T) : Prop :=
  self = .claimBlockHeaderInput id ∨ (∃ blockInfo, self = .resolving blockInfo) ∨
    ∃ result, self = .done result

/--
The only VID commitment that the call can be answered with is that of the block.
-/
def Resolves (blockInfo : BlockInfo T) (self : Progress T) : Prop :=
  self = .resolving blockInfo ∨ ∃ result, self = .done result ∧
    ∀ input, result = .ok (.claimBlockHeaderInput input) →
      input.vidCommitment = blockInfo.vidData.resolve

end Progress

namespace Service

/--
Every block that was built has its VID commitment computed from its own payload.
-/
structure Encoded (service : Service T) : Prop where
  stored : ∀ {id blockInfo}, service.globalState.blockStore.getBlock id = some blockInfo →
    blockInfo.IsEncoded
  built : ∀ {i : Nat} {call : Call T}, service.calls[i]? = some call → ∀ {stateId blockInfo},
    call.progress = .built stateId (.ok (some blockInfo)) → blockInfo.IsEncoded

section

variable {self self' : Service T} {globalState globalState' : GlobalState T}
  {progress progress' : Progress T}

theorem calls_of_step {action : Action T} (hstep : self.step action = some self') :
    SlotChange (fun call => ∃ request, call = ⟨request, (self.globalState.receive request).2⟩)
      (fun call call' => ∃ globalState,
        advance self.globalState action call.progress = some (globalState, call'.progress))
      self.calls self'.calls := by
  cases action with
  | receive request =>
    rw [← Option.some.inj hstep]
    exact .push _ ⟨request, rfl⟩
  | prune cutoff =>
    rw [← Option.some.inj hstep]
    exact .keep
  | coordinate action =>
    simp only [step, Option.bind_eq_bind, Option.bind_eq_some_iff, Option.pure_def,
      Option.some.injEq] at hstep
    obtain ⟨coordinator, -, rfl⟩ := hstep
    exact .keep
  | _ =>
    obtain ⟨call, globalState, progress, hcall, hadvance, rfl⟩ := stepCall_eq_some.mp hstep
    exact .set _ call _ hcall ⟨globalState, hadvance⟩

theorem call_of_run {P : Progress T → Prop}
    (hP : ∀ {globalState action progress globalState' progress'},
      advance globalState action progress = some (globalState', progress') → P progress →
        P progress') {actions : List (Action T)} (hrun : run step self actions = some self')
    {k : Nat} {call : Call T} (hcall : self.calls[k]? = some call) (h : P call.progress) :
    ∃ call', self'.calls[k]? = some call' ∧ P call'.progress := by
  apply slot_of_run (I := fun _ => True) (P := fun call : Call T => P call.progress)
    (fun _ _ _ hstep => calls_of_step hstep) (fun _ _ _ _ _ => trivial) _ hrun trivial hcall h
  rintro self₁ action call₁ call₂ - ⟨globalState, hadvance⟩
  exact hP hadvance

theorem advance_done {action : Action T} {result : Except BuildError (Response T)} :
    advance globalState action (.done result) = none := by
  cases action <;> rfl

/--
An answer is final.
-/
theorem done_of_run {actions : List (Action T)} (hrun : run step self actions = some self') {k : Nat}
    {call : Call T} (hcall : self.calls[k]? = some call)
    {result : Except BuildError (Response T)} (hdone : call.progress = .done result) :
    ∃ call', self'.calls[k]? = some call' ∧ call'.progress = .done result := by
  apply call_of_run (P := fun progress => progress = .done result) _ hrun hcall hdone
  intro globalState action progress globalState' progress' hadvance hdone
  rw [hdone, advance_done] at hadvance
  contradiction

theorem advance_claimBlockHeaderInput {action : Action T} {id : BlockId T}
    (h : advance globalState action (.claimBlockHeaderInput id) = some (globalState', progress')) :
    (∃ error, progress' = .done (.error error)) ∨
      ∃ blockInfo, globalState.blockStore.getBlock id = some blockInfo ∧
        progress' = .resolving blockInfo := by
  cases action with
  | lookUpHeaderInput k =>
    simp only [advance, Option.some.injEq, Prod.mk.injEq] at h
    rw [← h.2, GlobalState.lookUpHeaderInput]
    cases hget : globalState.blockStore.getBlock id with
    | none => exact .inl ⟨_, rfl⟩
    | some blockInfo => exact .inr ⟨blockInfo, rfl, rfl⟩
  | timeOut k =>
    simp only [advance, GlobalState.timeOut, Option.some.injEq, Prod.mk.injEq] at h
    rw [← h.2]
    exact .inl ⟨_, rfl⟩
  | _ => contradiction

theorem advance_resolving {action : Action T} {blockInfo : BlockInfo T}
    (h : advance globalState action (.resolving blockInfo) = some (globalState', progress')) :
    ∃ result, progress' = .done result ∧ ∀ input, result = .ok (.claimBlockHeaderInput input) →
      input.vidCommitment = blockInfo.vidData.resolve := by
  cases action with
  | answerHeaderInput k margin now =>
    simp only [advance, GlobalState.answerHeaderInput, GlobalState.headerInput,
      Option.some.injEq] at h
    split at h
    . rw [Prod.mk.injEq] at h
      exact ⟨_, h.2.symm, by simp⟩
    . next input hinput =>
      rw [Prod.mk.injEq] at h
      refine ⟨_, h.2.symm, ?_⟩
      rintro _ ⟨⟩
      split at hinput
      . contradiction
      . split at hinput
        . contradiction
        . rw [← Except.ok.inj hinput]
  | timeOut k =>
    simp only [advance, GlobalState.timeOut, Option.some.injEq, Prod.mk.injEq] at h
    exact ⟨_, h.2.symm, by simp⟩
  | _ => contradiction

theorem isHeaderInput_advance {action : Action T} {id : BlockId T}
    (h : advance globalState action progress = some (globalState', progress'))
    (hprogress : progress.IsHeaderInput id) : progress'.IsHeaderInput id := by
  rcases hprogress with rfl | ⟨blockInfo, rfl⟩ | ⟨result, rfl⟩
  . rcases advance_claimBlockHeaderInput h with ⟨error, hdone⟩ | ⟨blockInfo, -, hresolving⟩
    . exact .inr (.inr ⟨_, hdone⟩)
    . exact .inr (.inl ⟨blockInfo, hresolving⟩)
  . obtain ⟨result, hdone, -⟩ := advance_resolving h
    exact .inr (.inr ⟨result, hdone⟩)
  . rw [advance_done] at h
    contradiction

theorem resolves_advance {action : Action T} {blockInfo : BlockInfo T}
    (h : advance globalState action progress = some (globalState', progress'))
    (hprogress : progress.Resolves blockInfo) : progress'.Resolves blockInfo := by
  rcases hprogress with rfl | ⟨result, rfl, -⟩
  . exact .inr (advance_resolving h)
  . rw [advance_done] at h
    contradiction

theorem isHeaderInput_receive (globalState : GlobalState T) (blockHash : T.BuilderCommitment)
    (viewNumber : Nat) (authentication : Authentication T) :
    (globalState.receive
      (.claimBlockHeaderInput blockHash viewNumber authentication)).2.IsHeaderInput
        ⟨blockHash, viewNumber⟩ := by
  rw [GlobalState.receive_eq]
  dsimp only
  split
  . exact .inl rfl
  . exact .inr (.inr ⟨_, rfl⟩)

theorem isHeaderInput_of_run {blockHash : T.BuilderCommitment} {viewNumber : Nat}
    {authentication : Authentication T} {actions : List (Action T)}
    (hrun : run step self (.receive (.claimBlockHeaderInput blockHash viewNumber authentication) ::
      actions) = some self') :
    ∃ call, self'.calls[self.calls.length]? = some call ∧
      call.progress.IsHeaderInput ⟨blockHash, viewNumber⟩ := by
  rw [run_cons_eq_some] at hrun
  obtain ⟨self₁, hreceive, hrun⟩ := hrun
  have hcall : ∃ call, self₁.calls[self.calls.length]? = some call ∧
      call.progress.IsHeaderInput ⟨blockHash, viewNumber⟩ := by
    rw [← Option.some.inj hreceive]
    exact ⟨_, List.getElem?_concat_length, isHeaderInput_receive _ _ _ _⟩
  obtain ⟨call, hcall, hprogress⟩ := hcall
  exact call_of_run isHeaderInput_advance hrun hcall hprogress

/--
The VID commitment of an answer is that of the block that was found.
-/
theorem vidCommitment_of_run {k : Nat} {call call' : Call T} {id : BlockId T}
    (hcall : self.calls[k]? = some call) (hprogress : call.progress.IsHeaderInput id)
    {actions : List (Action T)}
    (hrun : run step self (.lookUpHeaderInput k :: actions) = some self')
    (hcall' : self'.calls[k]? = some call') {input : AvailableBlockHeaderInput T}
    (hinput : call'.progress = .done (.ok (.claimBlockHeaderInput input))) :
    ∃ blockInfo, self.globalState.blockStore.getBlock id = some blockInfo ∧
      input.vidCommitment = blockInfo.vidData.resolve := by
  rw [run_cons_eq_some] at hrun
  obtain ⟨self₁, hlookUp, hrun⟩ := hrun
  obtain ⟨call₀, globalState, progress, hcall₀, hadvance, rfl⟩ := stepCall_eq_some.mp hlookUp
  have hlt := (List.getElem?_eq_some_iff.mp hcall).1
  rw [hcall, Option.some.injEq] at hcall₀
  subst hcall₀
  have hcall₁ : (self.calls.set k { call with progress })[k]? = some { call with progress } := by
    simp [hlt]
  rcases hprogress with hid | ⟨blockInfo, hid⟩ | ⟨result, hid⟩
  . rw [hid] at hadvance
    rcases advance_claimBlockHeaderInput hadvance with ⟨error, rfl⟩ | ⟨blockInfo, hget, rfl⟩
    . obtain ⟨call₂, hcall₂, hprogress⟩ := done_of_run hrun hcall₁ rfl
      rw [hcall', Option.some.injEq] at hcall₂
      rw [hcall₂, hprogress] at hinput
      cases hinput
    . obtain ⟨call₂, hcall₂, hprogress⟩ := call_of_run resolves_advance hrun hcall₁
        (.inl rfl : (Progress.resolving blockInfo).Resolves blockInfo)
      rw [hcall', Option.some.injEq] at hcall₂
      refine ⟨blockInfo, hget, ?_⟩
      rcases hprogress with hresolving | ⟨result, hdone, hresult⟩
      . rw [← hcall₂, hinput] at hresolving
        contradiction
      . rw [← hcall₂, hinput] at hdone
        exact hresult input (Progress.done.inj hdone).symm
  . rw [hid] at hadvance
    contradiction
  . rw [hid, advance_done] at hadvance
    contradiction

theorem not_built_receive (globalState : GlobalState T) (request : Request T)
    (stateId : BuilderStateId T) (result : Except (RequestError T) (Option (BlockInfo T))) :
    (globalState.receive request).2 ≠ .built stateId result := by
  rw [GlobalState.receive_eq]
  dsimp only
  split
  . cases request <;> simp [GlobalState.started]
  . simp [Progress.failed]

theorem isEncoded_of_advance {action : Action T} {stateId : BuilderStateId T}
    {blockInfo : BlockInfo T} (h : advance globalState action progress =
      some (globalState', .built stateId (.ok (some blockInfo)))) : blockInfo.IsEncoded := by
  cases progress with
  | building stateId' builderState =>
    cases action with
    | buildBlock k validatedState maxBlockSize txnQueue =>
      simp only [advance, Option.some.injEq, Prod.mk.injEq, Progress.built.injEq] at h
      rw [BlockInfo.IsEncoded, (built_of_buildBlock h.2.2).2.1]
    | buildTimeOut k => simp [advance] at h
    | timeOut k => simp [advance, GlobalState.timeOut, Progress.failed] at h
    | _ => contradiction
  | availableBlocks stateId' =>
    cases action with
    | findBuilder k timedOut =>
      simp only [advance, GlobalState.findBuilder, Option.map_eq_some_iff, Prod.mk.injEq] at h
      obtain ⟨progress, hfind, -, rfl⟩ := h
      split at hfind
      . split at hfind <;> simp at hfind
      . split at hfind <;> simp [Progress.failed] at hfind
    | timeOut k => simp [advance, GlobalState.timeOut, Progress.failed] at h
    | _ => contradiction
  | built stateId' result =>
    cases action with
    | answerAvailableBlocks k =>
      obtain ⟨answer, hdone, -⟩ := answerAvailableBlocks_eq_done globalState stateId' result
      rw [Option.some.inj h] at hdone
      contradiction
    | timeOut k => simp [advance, GlobalState.timeOut, Progress.failed] at h
    | _ => contradiction
  | claimBlock id =>
    cases action with
    | answerClaimBlock k =>
      simp only [advance, GlobalState.answerClaimBlock, Option.some.injEq, Prod.mk.injEq] at h
      split at h <;> simp [Progress.failed] at h
    | timeOut k => simp [advance, GlobalState.timeOut, Progress.failed] at h
    | _ => contradiction
  | claimBlockHeaderInput id =>
    rcases advance_claimBlockHeaderInput h with ⟨error, hdone⟩ | ⟨blockInfo, -, hresolving⟩ <;>
      contradiction
  | resolving blockInfo' =>
    obtain ⟨result, hdone, -⟩ := advance_resolving h
    contradiction
  | done result =>
    rw [advance_done] at h
    contradiction

theorem encoded_new (h : IsNew self) : self.Encoded := by
  obtain ⟨config, now, rfl⟩ := h
  constructor
  . intro id blockInfo hget
    simp only [new, GlobalState.new, BlockStore.new, BlockStore.getBlock,
      TieredViewMap.get_new] at hget
    contradiction
  . intro i call hcall
    simp [new] at hcall

theorem Encoded.step (h : self.Encoded) {action : Action T} (hstep : self.step action = some self') :
    self'.Encoded := by
  constructor
  . intro id blockInfo hget
    have hchange := storeChange_of_step hstep
    generalize self'.globalState.blockStore = blockStore at hchange hget
    cases hchange with
    | keep => exact h.stored hget
    | update _ i call stateId blockInfo' hcall hbuilt =>
      rw [BlockStore.getBlock_update] at hget
      split at hget
      . rw [← Option.some.inj hget]
        exact h.built hcall hbuilt
      . exact h.stored hget
    | prune cutoff =>
      rw [BlockStore.getBlock_prune] at hget
      split at hget
      . exact h.stored hget
      . contradiction
  . intro i call hcall stateId blockInfo hbuilt
    have hadvance := (calls_of_step hstep).mem (List.mem_of_getElem? hcall)
    rcases hadvance with hold | ⟨request, rfl⟩ | ⟨call', hold, globalState, hadvance⟩
    . obtain ⟨j, hj⟩ := List.mem_iff_getElem?.mp hold
      exact h.built hj hbuilt
    . exact absurd hbuilt (not_built_receive _ _ _ _)
    . rw [hbuilt] at hadvance
      exact isEncoded_of_advance hadvance

theorem encoded (h : Reachable step IsNew self) : self.Encoded := by
  apply reachable_invariant _ _ h
  . intro self hself
    exact encoded_new hself
  . intro self action self' hself hstep
    exact hself.step hstep

end

end Service

end BuilderCore
