import BuilderCore.Legacy.Service

/-!
This module contains what a step of the legacy service can do: what it makes of the call that it is
about, of the blocks that were built, and of the blocks in the global state.
-/

namespace BuilderCore

open Collections Transition

variable {T : NodeType} [ApiTypes T]

namespace Legacy

namespace Progress

/--
Nothing that was looked up is waited for or answered with, and no block is going to be claimed.
-/
def isQuiet (self : Progress T) : Bool :=
  match self with
  | .claimBlock _ | .claiming _ _ | .gettingVid _ _ | .done (.ok (.claimBlock _))
  | .done (.ok (.claimBlockHeaderInput _)) => false
  | .availableBlocks _ | .routing _ | .waiting _ _ | .claimBlockHeaderInput _
  | .done (.error _) | .done (.ok (.availableBlocks _)) => true

def triggers (self : Progress T) (vid : Nat) : Bool :=
  match self with
  | .claiming _ blockInfo => blockInfo.vid = vid
  | _ => false

theorem triggers_eq_true_iff {progress : Progress T} {vid : Nat} :
    progress.triggers vid = true ↔
      ∃ id blockInfo, progress = .claiming id blockInfo ∧ blockInfo.vid = vid := by
  cases progress <;> simp [triggers]

end Progress

namespace Service

inductive CallChange (self : Service T) : Progress T → Progress T → Prop where
  | lookUpBlock (id : BlockId T) (blockInfo : BlockInfo T)
      (hget : (self.proxy.lookUpBlock id).2 = some blockInfo) :
      CallChange self (.claimBlock id) (.claiming id blockInfo)
  | triggerVid (id : BlockId T) (blockInfo : BlockInfo T) :
      CallChange self (.claiming id blockInfo) (self.proxy.answerClaimBlock blockInfo)
  | lookUpHeaderInput (id : BlockId T) (blockInfo : BlockInfo T)
      (hget : (self.proxy.lookUpBlock id).2 = some blockInfo) :
      CallChange self (.claimBlockHeaderInput id) (.gettingVid id blockInfo)
  | getVid (id : BlockId T) (blockInfo : BlockInfo T) (build : Build T)
      (hbuild : self.builds[blockInfo.vid]? = some build) :
      CallChange self (.gettingVid id blockInfo) (self.proxy.answerHeaderInput blockInfo
        (ApiTypes.vidCommitment build.vidTask.encodedTxns build.vidTask.numNodes))
  | other (progress progress' : Progress T)
      (hclaiming : ∀ id blockInfo, progress ≠ .claiming id blockInfo)
      (hdone : ∀ result, progress ≠ .done result) (hquiet : progress'.isQuiet = true) :
      CallChange self progress progress'

/--
What a step can do: receive a call, advance one, build a block, store it, or touch the handles.
-/
inductive Change (self : Service T) : Action T → Service T → Prop where
  | receive (request : Request T) :
      Change self (.receive request) { self with
        proxy := (self.proxy.receive request).1
        calls := self.calls ++ [⟨request, (self.proxy.receive request).2⟩] }
  | advance (action : Action T) (i : Nat) (call : Call T) (proxy : ProxyGlobalState T)
      (progress : Progress T) (htrigger : ∀ k, action = .triggerVid k → k = i)
      (hupdate : ∀ j, action ≠ .updateGlobalState j)
      (hcall : self.calls[i]? = some call)
      (hadvance : self.advance action call.progress = some (proxy, progress)) :
      Change self action
        ⟨proxy, self.calls.set i { call with progress }, trigger self.builds call.progress⟩
  | buildBlock (builder : BlockBuilder T) (maxBlockSize : Nat) (build : Build T)
      (hvid : build.info.vid = self.builds.length) (hstored : build.stored = false)
      (hvidTask : build.vidTask =
        ⟨ApiTypes.encode build.info.blockPayload, self.proxy.globalState.numNodes, false⟩) :
      Change self (.buildBlock builder maxBlockSize)
        { self with builds := self.builds ++ [build] }
  | updateGlobalState (j : Nat) (build : Build T) (hbuild : self.builds[j]? = some build)
      (hstored : build.stored = false) :
      Change self (.updateGlobalState j) { self with
        proxy := { self.proxy with globalState :=
          self.proxy.globalState.updateGlobalState build.stateId build.info build.responseMsg }
        builds := self.builds.set j { build with stored := true } }
  | handle (call : GlobalState.HandleCall T Nat) (globalState : GlobalState T Nat)
      (hblocks : globalState.blocks = self.proxy.globalState.blocks) :
      Change self (.handle call) { self with proxy := { self.proxy with globalState } }

/--
The block is one that was built and stored.
-/
def HasBuild (self : Service T) (blockInfo : BlockInfo T) : Prop :=
  ∃ build, self.builds[blockInfo.vid]? = some build ∧ build.stored = true ∧
    build.info.blockPayload = blockInfo.blockPayload

/--
Every block that is found is one that was built, and only such a one is claimed.
-/
structure Numbered (service : Service T) : Prop where
  vid : ∀ {j : Nat} {build : Build T}, service.builds[j]? = some build → build.info.vid = j
  encoded : ∀ {j : Nat} {build : Build T}, service.builds[j]? = some build →
    build.vidTask.encodedTxns = ApiTypes.encode build.info.blockPayload
  fresh : ∀ {j : Nat} {build : Build T}, service.builds[j]? = some build → build.stored = false →
    build.vidTask.triggered = false
  cached : ∀ {id blockInfo}, (service.proxy.lookUpBlock id).2 = some blockInfo →
    service.HasBuild blockInfo
  claimBlock : ∀ call ∈ service.calls, ∀ id, call.progress = .claimBlock id →
    call.request.claimedId = some id
  claiming : ∀ call ∈ service.calls, ∀ id blockInfo, call.progress = .claiming id blockInfo →
    call.request.claimedId = some id ∧ service.HasBuild blockInfo

section

variable {self self' : Service T} {progress : Progress T}

@[simp]
theorem lookUpBlock_snd (proxy : ProxyGlobalState T) (id : BlockId T) :
    (proxy.lookUpBlock id).2 = proxy.globalState.blocks.peek id := by
  simp [ProxyGlobalState.lookUpBlock]

theorem peek_lookUpBlock (proxy : ProxyGlobalState T) (id id' : BlockId T) :
    (proxy.lookUpBlock id).1.globalState.blocks.peek id' = proxy.globalState.blocks.peek id' := by
  simp [ProxyGlobalState.lookUpBlock]

theorem stepCall_eq_some {action : Action T} {i : Nat} :
    self.stepCall action i = some self' ↔
      ∃ call proxy progress, self.calls[i]? = some call ∧
        self.advance action call.progress = some (proxy, progress) ∧
        self' = ⟨proxy, self.calls.set i { call with progress }, trigger self.builds call.progress⟩ := by
  simp only [stepCall, Option.bind_eq_bind, Option.bind_eq_some_iff, Option.pure_def,
    Option.some.injEq, Prod.exists]
  constructor
  . rintro ⟨call, hcall, proxy, progress, hadvance, rfl⟩
    exact ⟨call, proxy, progress, hcall, hadvance, rfl⟩
  . rintro ⟨call, proxy, progress, hcall, hadvance, rfl⟩
    exact ⟨call, hcall, proxy, progress, hadvance, rfl⟩

theorem isQuiet_answerAvailableBlocks (proxy : ProxyGlobalState T) (response : ResponseMessage T) :
    (proxy.answerAvailableBlocks response).isQuiet = true := by
  unfold ProxyGlobalState.answerAvailableBlocks
  split <;> rfl

theorem answerHeaderInput_eq_done (proxy : ProxyGlobalState T) (blockInfo : BlockInfo T)
    (vidCommitment : T.VidCommitment) :
    ∃ result, proxy.answerHeaderInput blockInfo vidCommitment = .done result ∧
      ∀ response, result = .ok response →
        ∃ input, response = .claimBlockHeaderInput input ∧ input.vidCommitment = vidCommitment := by
  unfold ProxyGlobalState.answerHeaderInput
  split
  . exact ⟨_, rfl, by simp⟩
  . split
    . exact ⟨_, rfl, by simp⟩
    . refine ⟨_, rfl, ?_⟩
      rintro _ ⟨⟩
      exact ⟨_, rfl, rfl⟩

theorem isQuiet_route {proxy : ProxyGlobalState T} {stateId : BuilderStateId T} {timedOut : Bool}
    {progress : Progress T} (h : proxy.route stateId timedOut = some progress) :
    progress.isQuiet = true := by
  unfold ProxyGlobalState.route at h
  split at h
  . split at h <;>
    . rw [← Option.some.inj h]
      rfl
  . split at h
    . rw [← Option.some.inj h]
      rfl
    . contradiction

theorem blocks_adjustBlockSize (proxy : ProxyGlobalState T) (blockInfo : BlockInfo T)
    (margin : Bool) (now : Nat) :
    (proxy.adjustBlockSize blockInfo margin now).globalState.blocks = proxy.globalState.blocks := by
  unfold ProxyGlobalState.adjustBlockSize
  split <;> rfl

theorem exists_done_answerClaimBlock (proxy : ProxyGlobalState T) (blockInfo : BlockInfo T) :
    ∃ result, proxy.answerClaimBlock blockInfo = .done result := by
  unfold ProxyGlobalState.answerClaimBlock
  split <;> exact ⟨_, rfl⟩

theorem callChange_of_advance {action : Action T} {progress progress' : Progress T}
    {proxy : ProxyGlobalState T} (h : self.advance action progress = some (proxy, progress')) :
    CallChange self progress progress' ∧
      ∀ id, proxy.globalState.blocks.peek id = self.proxy.globalState.blocks.peek id := by
  unfold advance at h
  split at h
  . simp only [Option.some.injEq, Prod.mk.injEq] at h
    obtain ⟨rfl, rfl⟩ := h
    refine ⟨.other _ _ (by simp) (by simp) ?_, fun _ => rfl⟩
    unfold ProxyGlobalState.checkDecided
    split <;> rfl
  . simp only [Option.map_eq_some_iff, Prod.mk.injEq] at h
    obtain ⟨_, hroute, rfl, rfl⟩ := h
    exact ⟨.other _ _ (by simp) (by simp) (isQuiet_route hroute), fun _ => rfl⟩
  . simp only [Option.bind_eq_bind, Option.bind_eq_some_iff, Option.guard_eq_some', exists_const,
      Option.pure_def, Option.some.injEq, Prod.mk.injEq] at h
    obtain ⟨build, -, -, rfl, rfl⟩ := h
    exact ⟨.other _ _ (by simp) (by simp) (isQuiet_answerAvailableBlocks _ _), fun _ => rfl⟩
  . simp only [Option.some.injEq, Prod.mk.injEq] at h
    obtain ⟨rfl, rfl⟩ := h
    exact ⟨.other _ _ (by simp) (by simp) rfl, fun _ => rfl⟩
  . simp only [Option.some.injEq, Prod.mk.injEq] at h
    obtain ⟨rfl, rfl⟩ := h
    refine ⟨.other _ _ (by simp) (by simp) ?_, fun _ => rfl⟩
    unfold ProxyGlobalState.answerLastBuiltBlock
    split
    . exact isQuiet_answerAvailableBlocks _ _
    . rfl
  . next blockId =>
    have hpeek := peek_lookUpBlock self.proxy blockId
    split at h
    . next hlookUp =>
      simp only [Option.some.injEq, Prod.mk.injEq] at h
      obtain ⟨rfl, rfl⟩ := h
      rw [hlookUp] at hpeek
      exact ⟨.other _ _ (by simp) (by simp) rfl, hpeek⟩
    . next hlookUp =>
      simp only [Option.some.injEq, Prod.mk.injEq] at h
      obtain ⟨rfl, rfl⟩ := h
      rw [hlookUp] at hpeek
      exact ⟨.lookUpBlock _ _ (by rw [hlookUp]), hpeek⟩
  . simp only [Option.some.injEq, Prod.mk.injEq] at h
    obtain ⟨rfl, rfl⟩ := h
    exact ⟨.triggerVid _ _, fun _ => rfl⟩
  . next blockId =>
    have hpeek := peek_lookUpBlock self.proxy blockId
    split at h
    . next hlookUp =>
      simp only [Option.some.injEq, Prod.mk.injEq] at h
      obtain ⟨rfl, rfl⟩ := h
      rw [hlookUp] at hpeek
      exact ⟨.other _ _ (by simp) (by simp) rfl, hpeek⟩
    . next hlookUp =>
      simp only [Option.some.injEq, Prod.mk.injEq] at h
      obtain ⟨rfl, rfl⟩ := h
      rw [hlookUp] at hpeek
      exact ⟨.lookUpHeaderInput _ _ (by rw [hlookUp]), hpeek⟩
  . simp only [Option.bind_eq_bind, Option.bind_eq_some_iff, Option.guard_eq_some', exists_const,
      Option.pure_def, Option.some.injEq, Prod.mk.injEq] at h
    obtain ⟨build, hbuild, -, rfl, rfl⟩ := h
    refine ⟨.getVid _ _ build hbuild, fun id => ?_⟩
    rw [blocks_adjustBlockSize]
  . simp only [Option.bind_eq_bind, Option.bind_eq_some_iff, Option.guard_eq_some', exists_const,
      Option.pure_def, Option.some.injEq, Prod.mk.injEq] at h
    obtain ⟨build, -, -, rfl, rfl⟩ := h
    refine ⟨.other _ _ (by simp) (by simp) rfl, fun id => ?_⟩
    rw [blocks_adjustBlockSize]
  . simp only [Option.some.injEq, ProxyGlobalState.timeOutVid, Prod.mk.injEq] at h
    obtain ⟨rfl, rfl⟩ := h
    exact ⟨.other _ _ (by simp) (by simp) rfl, fun _ => rfl⟩
  . contradiction

theorem CallChange.of_claiming {progress' : Progress T}
    (h : self.CallChange progress progress') :
    (∀ id, progress' ≠ .claimBlock id) ∧
      ∀ id blockInfo, progress' = .claiming id blockInfo →
        progress = .claimBlock id ∧ (self.proxy.lookUpBlock id).2 = some blockInfo := by
  cases h with
  | lookUpBlock id blockInfo hget =>
    refine ⟨by simp, ?_⟩
    rintro _ _ ⟨⟩
    exact ⟨rfl, hget⟩
  | triggerVid id blockInfo =>
    obtain ⟨result, hdone⟩ := exists_done_answerClaimBlock self.proxy blockInfo
    simp [hdone]
  | lookUpHeaderInput id blockInfo hget => simp
  | getVid id blockInfo build hbuild =>
    obtain ⟨result, hdone, -⟩ := answerHeaderInput_eq_done self.proxy blockInfo
      (ApiTypes.vidCommitment build.vidTask.encodedTxns build.vidTask.numNodes)
    simp [hdone]
  | other _ _ hclaiming hdone hquiet =>
    constructor
    . rintro id rfl
      contradiction
    . rintro id blockInfo rfl
      contradiction

theorem receive_claims (proxy : ProxyGlobalState T) (request : Request T) :
    (proxy.receive request).1.globalState.blocks = proxy.globalState.blocks ∧
      ((proxy.receive request).2.isQuiet = true ∨
        ∃ id, (proxy.receive request).2 = .claimBlock id ∧ request.claimedId = some id) := by
  rw [ProxyGlobalState.receive_eq]
  refine ⟨rfl, ?_⟩
  dsimp only
  split
  . cases request with
    | claimBlock | claimBlockWithNumNodes => exact .inr ⟨_, rfl, rfl⟩
    | availableBlocks | claimBlockHeaderInput => exact .inl rfl
  . obtain ⟨error, herror⟩ := ProxyGlobalState.exists_error_signatureError request
    rw [herror]
    exact .inl rfl

theorem advance_claiming {action : Action T} {id : BlockId T} {blockInfo : BlockInfo T}
    {result : ProxyGlobalState T × Progress T}
    (h : self.advance action (.claiming id blockInfo) = some result) :
    ∃ i, action = .triggerVid i := by
  cases action with
  | triggerVid i => exact ⟨i, rfl⟩
  | _ => contradiction

theorem getElem?_trigger (builds : List (Build T)) (progress : Progress T) (j : Nat) :
    (trigger builds progress)[j]? = builds[j]?.map fun build =>
      { build with vidTask := { build.vidTask with
        triggered := build.vidTask.triggered || progress.triggers j } } := by
  unfold trigger Progress.triggers
  split
  . next id blockInfo =>
    by_cases hj : blockInfo.vid = j <;> simp [hj]
  . simp

theorem buildBlock_eq_some {builder : BlockBuilder T} {maxBlockSize : Nat}
    (h : self.buildBlock builder maxBlockSize = some self') :
    ∃ build, self' = { self with builds := self.builds ++ [build] } ∧
      build.info.vid = self.builds.length ∧ build.stored = false ∧
      build.vidTask =
        ⟨ApiTypes.encode build.info.blockPayload, self.proxy.globalState.numNodes, false⟩ := by
  simp only [buildBlock, Option.bind_eq_bind, Option.bind_eq_some_iff, Option.pure_def,
    Option.some.injEq, Prod.exists] at h
  obtain ⟨info, vidTask, hbuild, rfl⟩ := h
  obtain ⟨-, hvid, hvidTask, -⟩ := BlockBuilder.built_of_buildBlock hbuild
  exact ⟨_, rfl, hvid, rfl, hvidTask⟩

theorem updateGlobalState_eq_some {j : Nat} (h : self.updateGlobalState j = some self') :
    ∃ build, self.builds[j]? = some build ∧ build.stored = false ∧
      self' = { self with
        proxy := { self.proxy with globalState :=
          self.proxy.globalState.updateGlobalState build.stateId build.info build.responseMsg }
        builds := self.builds.set j { build with stored := true } } := by
  simp only [updateGlobalState, Option.bind_eq_bind, Option.bind_eq_some_iff,
    Option.guard_eq_some', exists_const, Bool.not_eq_true, Option.pure_def,
    Option.some.injEq] at h
  obtain ⟨build, hbuild, hstored, rfl⟩ := h
  exact ⟨build, hbuild, hstored, rfl⟩

theorem getElem?_store {j : Nat} {build : Build T} (hbuild : self.builds[j]? = some build)
    (k : Nat) : (self.builds.set j { build with stored := true })[k]? =
      if j = k then some { build with stored := true } else self.builds[k]? := by
  have hlt := (List.getElem?_eq_some_iff.mp hbuild).1
  rw [List.getElem?_set, if_pos hlt]

theorem HasBuild.trigger {blockInfo : BlockInfo T} (h : self.HasBuild blockInfo)
    (hbuilds : self'.builds = trigger self.builds progress) : self'.HasBuild blockInfo := by
  obtain ⟨build, hbuild, hstored, hpayload⟩ := h
  rw [HasBuild, hbuilds, getElem?_trigger, hbuild]
  exact ⟨_, rfl, hstored, hpayload⟩

theorem HasBuild.append {blockInfo : BlockInfo T} (h : self.HasBuild blockInfo) {build : Build T}
    (hbuilds : self'.builds = self.builds ++ [build]) : self'.HasBuild blockInfo := by
  obtain ⟨build', hbuild', hbuild⟩ := h
  have hlt := (List.getElem?_eq_some_iff.mp hbuild').1
  refine ⟨build', ?_, hbuild⟩
  rw [hbuilds, List.getElem?_append_left hlt]
  exact hbuild'

theorem HasBuild.store {blockInfo : BlockInfo T} (h : self.HasBuild blockInfo) {j : Nat}
    {build : Build T} (hbuild : self.builds[j]? = some build)
    (hbuilds : self'.builds = self.builds.set j { build with stored := true }) :
    self'.HasBuild blockInfo := by
  obtain ⟨build', hbuild', hstored, hpayload⟩ := h
  rw [HasBuild, hbuilds, getElem?_store hbuild]
  split
  . next hj =>
    rw [← hj, hbuild, Option.some.injEq] at hbuild'
    rw [← hbuild'] at hpayload
    exact ⟨_, rfl, rfl, hpayload⟩
  . exact ⟨build', hbuild', hstored, hpayload⟩

theorem numbered_new (h : IsNew self) : self.Numbered := by
  obtain ⟨config, builderKeys, rfl⟩ := h
  constructor
  . intro j build hbuild
    simp [new] at hbuild
  . intro j build hbuild
    simp [new] at hbuild
  . intro j build hbuild
    simp [new] at hbuild
  . intro id blockInfo hcached
    simp [new, GlobalState.new] at hcached
  . intro call hcall
    simp [new] at hcall
  . intro call hcall
    simp [new] at hcall

theorem Numbered.receive (h : self.Numbered) (request : Request T) :
    Numbered { self with
      proxy := (self.proxy.receive request).1
      calls := self.calls ++ [⟨request, (self.proxy.receive request).2⟩] } := by
  obtain ⟨hblocks, hprogress⟩ := receive_claims self.proxy request
  refine ⟨h.vid, h.encoded, h.fresh, ?_, ?_, ?_⟩
  . intro id blockInfo hcached
    simp only [lookUpBlock_snd, hblocks] at hcached
    exact h.cached (by simpa using hcached)
  . intro call hcall id hid
    rw [List.mem_append, List.mem_singleton] at hcall
    rcases hcall with hcall | rfl
    . exact h.claimBlock call hcall id hid
    . dsimp only at hid ⊢
      rcases hprogress with hquiet | ⟨id', hprogress, hclaimed⟩
      . rw [hid] at hquiet
        contradiction
      . rw [hid] at hprogress
        rw [hclaimed, Progress.claimBlock.inj hprogress]
  . intro call hcall id blockInfo hid
    rw [List.mem_append, List.mem_singleton] at hcall
    rcases hcall with hcall | rfl
    . exact h.claiming call hcall id blockInfo hid
    . dsimp only at hid
      rcases hprogress with hquiet | ⟨id', hprogress, -⟩
      . rw [hid] at hquiet
        contradiction
      . rw [hid] at hprogress
        contradiction

theorem Numbered.stepCall (h : self.Numbered) {call : Call T} (hcall : call ∈ self.calls) {i : Nat}
    {progress : Progress T} (hchange : self.CallChange call.progress progress)
    {proxy : ProxyGlobalState T}
    (hpeek : ∀ id, proxy.globalState.blocks.peek id = self.proxy.globalState.blocks.peek id) :
    Numbered ⟨proxy, self.calls.set i { call with progress }, trigger self.builds call.progress⟩ := by
  constructor
  . intro j build' hbuild'
    rw [getElem?_trigger, Option.map_eq_some_iff] at hbuild'
    obtain ⟨build, hbuild, rfl⟩ := hbuild'
    have hvid := h.vid hbuild
    exact hvid
  . intro j build' hbuild'
    rw [getElem?_trigger, Option.map_eq_some_iff] at hbuild'
    obtain ⟨build, hbuild, rfl⟩ := hbuild'
    have hencoded := h.encoded hbuild
    exact hencoded
  . intro j build' hbuild' hfresh
    rw [getElem?_trigger, Option.map_eq_some_iff] at hbuild'
    obtain ⟨build, hbuild, rfl⟩ := hbuild'
    have htriggers : ¬ call.progress.triggers j = true := by
      rw [Progress.triggers_eq_true_iff]
      rintro ⟨id, blockInfo, hprogress, rfl⟩
      -- what is claimed is stored already
      obtain ⟨-, build', hbuild', hstored, -⟩ := h.claiming call hcall id blockInfo hprogress
      rw [hbuild, Option.some.injEq] at hbuild'
      rw [← hbuild', hfresh] at hstored
      contradiction
    simp [h.fresh hbuild hfresh, htriggers]
  . intro id blockInfo hget
    rw [lookUpBlock_snd, hpeek, ← lookUpBlock_snd] at hget
    exact (h.cached hget).trigger rfl
  . intro call' hcall' id hid
    rcases List.mem_or_eq_of_mem_set hcall' with hcall' | rfl
    . exact h.claimBlock call' hcall' id hid
    . exact absurd hid (hchange.of_claiming.1 id)
  . intro call' hcall' id blockInfo hid
    rcases List.mem_or_eq_of_mem_set hcall' with hcall' | rfl
    . obtain ⟨hclaimed, hbuild⟩ := h.claiming call' hcall' id blockInfo hid
      exact ⟨hclaimed, hbuild.trigger rfl⟩
    . obtain ⟨hprogress, hget⟩ := hchange.of_claiming.2 id blockInfo hid
      exact ⟨h.claimBlock call hcall id hprogress, (h.cached hget).trigger rfl⟩

theorem Numbered.buildBlock (h : self.Numbered) {build : Build T}
    (hvid : build.info.vid = self.builds.length) (hstored : build.stored = false) {numNodes : Nat}
    (hvidTask : build.vidTask = ⟨ApiTypes.encode build.info.blockPayload, numNodes, false⟩) :
    Numbered { self with builds := self.builds ++ [build] } := by
  have hcases : ∀ {j : Nat} {build' : Build T}, (self.builds ++ [build])[j]? = some build' →
      self.builds[j]? = some build' ∨ j = self.builds.length ∧ build' = build := by
    intro j build' hbuild'
    rw [List.getElem?_append] at hbuild'
    split at hbuild'
    . exact .inl hbuild'
    . obtain ⟨hlt, rfl⟩ := List.getElem?_eq_some_iff.mp hbuild'
      simp only [List.length_singleton] at hlt
      exact .inr ⟨by omega, by simp⟩
  constructor
  . intro j build' hbuild'
    rcases hcases hbuild' with hold | ⟨rfl, rfl⟩
    . exact h.vid hold
    . exact hvid
  . intro j build' hbuild'
    rcases hcases hbuild' with hold | ⟨rfl, rfl⟩
    . exact h.encoded hold
    . rw [hvidTask]
  . intro j build' hbuild' hfresh'
    rcases hcases hbuild' with hold | ⟨rfl, rfl⟩
    . exact h.fresh hold hfresh'
    . rw [hvidTask]
  . intro id blockInfo hget
    exact (h.cached hget).append rfl
  . exact h.claimBlock
  . intro call hcall id blockInfo hid
    obtain ⟨hclaimed, hbuild⟩ := h.claiming call hcall id blockInfo hid
    exact ⟨hclaimed, hbuild.append rfl⟩

theorem Numbered.updateGlobalState (h : self.Numbered) {j : Nat} {build : Build T}
    (hbuild : self.builds[j]? = some build) :
    Numbered { self with
      proxy := { self.proxy with globalState :=
        self.proxy.globalState.updateGlobalState build.stateId build.info build.responseMsg }
      builds := self.builds.set j { build with stored := true } } := by
  have hvid := h.vid hbuild
  constructor
  . intro k build' hbuild'
    rw [getElem?_store hbuild] at hbuild'
    split at hbuild'
    . next hjk =>
      rw [← Option.some.inj hbuild', ← hjk]
      exact hvid
    . exact h.vid hbuild'
  . intro k build' hbuild'
    rw [getElem?_store hbuild] at hbuild'
    split at hbuild'
    . have hencoded := h.encoded hbuild
      rw [← Option.some.inj hbuild']
      exact hencoded
    . exact h.encoded hbuild'
  . intro k build' hbuild' hfresh
    rw [getElem?_store hbuild] at hbuild'
    split at hbuild'
    . rw [← Option.some.inj hbuild'] at hfresh
      contradiction
    . exact h.fresh hbuild' hfresh
  . intro id blockInfo hget
    rw [lookUpBlock_snd] at hget
    rcases LruCache.peek_of_peek_put hget with ⟨rfl, rfl⟩ | ⟨-, hget⟩
    . refine ⟨{ build with stored := true }, ?_, rfl, rfl⟩
      rw [getElem?_store hbuild, if_pos hvid.symm]
    . rw [← lookUpBlock_snd] at hget
      exact (h.cached hget).store hbuild rfl
  . exact h.claimBlock
  . intro call hcall id blockInfo hid
    obtain ⟨hclaimed, hblockInfo⟩ := h.claiming call hcall id blockInfo hid
    exact ⟨hclaimed, hblockInfo.store hbuild rfl⟩

theorem Numbered.handle (h : self.Numbered) {globalState : GlobalState T Nat}
    (hblocks : globalState.blocks = self.proxy.globalState.blocks) :
    Numbered { self with proxy := { self.proxy with globalState } } := by
  refine ⟨h.vid, h.encoded, h.fresh, ?_, h.claimBlock, h.claiming⟩
  intro id blockInfo hget
  rw [lookUpBlock_snd, hblocks, ← lookUpBlock_snd] at hget
  exact h.cached hget

theorem change_of_step {action : Action T} (h : self.step action = some self') :
    Change self action self' := by
  have hstepCall : ∀ {i}, self.stepCall action i = some self' →
      (∀ k, action = .triggerVid k → k = i) → (∀ j, action ≠ .updateGlobalState j) →
      Change self action self' := by
    intro i hi htrigger hupdate
    obtain ⟨call, proxy, progress, hcall, hadvance, rfl⟩ := stepCall_eq_some.mp hi
    exact .advance action i call proxy progress htrigger hupdate hcall hadvance
  cases action with
  | receive request =>
    rw [← Option.some.inj h]
    exact .receive request
  | buildBlock builder maxBlockSize =>
    obtain ⟨build, rfl, hvid, hstored, hvidTask⟩ := buildBlock_eq_some h
    exact .buildBlock builder maxBlockSize build hvid hstored hvidTask
  | updateGlobalState j =>
    obtain ⟨build, hbuild, hstored, rfl⟩ := updateGlobalState_eq_some h
    exact .updateGlobalState j build hbuild hstored
  | handle call =>
    simp only [step, Option.bind_eq_bind, Option.bind_eq_some_iff, Option.pure_def,
      Option.some.injEq] at h
    obtain ⟨globalState, hhandle, rfl⟩ := h
    exact .handle call globalState (GlobalState.blocks_handle hhandle)
  | triggerVid i => exact hstepCall h (by simp) (by simp)
  | _ => exact hstepCall h (by simp) (by simp)

theorem Numbered.change (h : self.Numbered) {action : Action T}
    (hchange : Change self action self') : self'.Numbered := by
  cases hchange with
  | receive request => exact h.receive request
  | advance _ i call proxy progress htrigger hupdate hcall hadvance =>
    obtain ⟨hcallChange, hpeek⟩ := callChange_of_advance hadvance
    exact h.stepCall (List.mem_of_getElem? hcall) hcallChange hpeek
  | buildBlock builder maxBlockSize build hvid hstored hvidTask =>
    exact h.buildBlock hvid hstored hvidTask
  | updateGlobalState j build hbuild hstored => exact h.updateGlobalState hbuild
  | handle call globalState hblocks => exact h.handle hblocks

theorem numbered (h : Reachable step IsNew self) : self.Numbered := by
  apply reachable_invariant _ _ h
  . intro self hself
    exact numbered_new hself
  . intro self action self' hself hstep
    exact hself.change (change_of_step hstep)

end

end Service

end Legacy

end BuilderCore
