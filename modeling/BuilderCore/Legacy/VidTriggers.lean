import BuilderCore.Legacy.ServiceSteps

/-!
This module contains when the VID computation of every claimed block of the legacy builder has been
triggered: each rebuild of a block replaces its computation by one that has not.
-/

namespace BuilderCore

open Collections Transition

variable {T : NodeType} [ApiTypes T]

namespace Legacy

namespace Progress

def IsClaimed (self : Progress T) : Prop := ∃ block, self = .done (.ok (.claimBlock block))

theorem not_isClaimed_of_isQuiet {progress : Progress T} (h : progress.isQuiet = true) :
    ¬ progress.IsClaimed := by
  rintro ⟨block, rfl⟩
  contradiction

end Progress

namespace Service

/--
A claim of the block has returned `Ok`.
-/
def Claimed (self : Service T) (id : BlockId T) : Prop :=
  ∃ call ∈ self.calls, call.request.claimedId = some id ∧ call.progress.IsClaimed

def IsTriggered (self : Service T) (vid : Nat) : Prop :=
  ∃ build, self.builds[vid]? = some build ∧ build.vidTask.triggered = true

/--
A request for the header input of a claimed block finds a computation that was triggered.
-/
def ClaimedIsTriggered (self : Service T) : Prop :=
  ∀ id, self.Claimed id →
    ∃ blockInfo, (self.proxy.lookUpBlock id).2 = some blockInfo ∧ self.IsTriggered blockInfo.vid

def EvictsNothing (self : Service T) (action : Action T) : Prop :=
  match action with
  | .updateGlobalState j =>
    ∀ build ∈ self.builds[j]?, self.proxy.globalState.blocks.HasRoom build.info.id
  | _ => True

instance (self : Service T) (action : Action T) : Decidable (self.EvictsNothing action) :=
  match action with
  | .updateGlobalState j =>
    inferInstanceAs (Decidable (∀ build ∈ self.builds[j]?,
      self.proxy.globalState.blocks.HasRoom build.info.id))
  | .receive _ | .checkDecided _ | .route _ _ | .respond _ _ | .closeChannel _
  | .timeOutResponse _ | .lookUpBlock _ | .triggerVid _ | .lookUpHeaderInput _ | .getVid _ _ _
  | .closeVid _ _ _ | .timeOutVid _ | .buildBlock _ _ | .handle _ => isTrue trivial

/--
No block is stored again that was claimed, and a claim that returns `Ok` has looked up what is still
stored, or something whose computation has been triggered is.
-/
def KeepsClaimed (self : Service T) (action : Action T) : Prop :=
  match action with
  | .updateGlobalState j => ∀ build ∈ self.builds[j]?, ¬ self.Claimed build.info.id
  | .triggerVid i => ∀ call ∈ self.calls[i]?, ∀ id blockInfo,
    call.progress = .claiming id blockInfo → (self.proxy.answerClaimBlock blockInfo).IsClaimed →
      ∃ current, (self.proxy.lookUpBlock id).2 = some current ∧
        (current.vid = blockInfo.vid ∨ self.IsTriggered current.vid)
  | _ => True

section

variable {self self' : Service T} {progress : Progress T}

theorem isTriggered_trigger (hbuilds : self'.builds = trigger self.builds progress) {vid : Nat}
    {build : Build T} (hbuild : self.builds[vid]? = some build) :
    self'.IsTriggered vid ↔ self.IsTriggered vid ∨ progress.triggers vid = true := by
  simp [IsTriggered, hbuilds, getElem?_trigger, hbuild]

theorem not_isClaimed_answerHeaderInput (proxy : ProxyGlobalState T) (blockInfo : BlockInfo T)
    (vidCommitment : T.VidCommitment) :
    ¬ (proxy.answerHeaderInput blockInfo vidCommitment).IsClaimed := by
  obtain ⟨result, hdone, hinput⟩ := answerHeaderInput_eq_done proxy blockInfo vidCommitment
  rw [hdone]
  rintro ⟨block, hblock⟩
  obtain ⟨input, hinput, -⟩ := hinput _ (Progress.done.inj hblock)
  contradiction

theorem CallChange.not_isClaimed_left {progress' : Progress T}
    (h : self.CallChange progress progress') : ¬ progress.IsClaimed := by
  rintro ⟨block, rfl⟩
  cases h with
  | other _ _ hclaiming hdone hquiet => exact hdone _ rfl

theorem claimed_set {i : Nat} {call : Call T} (hcall : self.calls[i]? = some call)
    {progress : Progress T} (hold : ¬ call.progress.IsClaimed)
    (hcalls : self'.calls = self.calls.set i { call with progress }) (id : BlockId T) :
    self'.Claimed id ↔
      self.Claimed id ∨ call.request.claimedId = some id ∧ progress.IsClaimed := by
  obtain ⟨hlt, rfl⟩ := List.getElem?_eq_some_iff.mp hcall
  simp only [Claimed, hcalls, List.mem_iff_getElem?]
  constructor
  . rintro ⟨call', ⟨j, hj⟩, hid, hclaimed⟩
    rw [List.getElem?_set, if_pos hlt] at hj
    split at hj
    . rw [Option.some.injEq] at hj
      rw [← hj] at hid hclaimed
      exact .inr ⟨hid, hclaimed⟩
    . exact .inl ⟨call', ⟨j, hj⟩, hid, hclaimed⟩
  . rintro (⟨call', ⟨j, hj⟩, hid, hclaimed⟩ | ⟨hid, hclaimed⟩)
    . refine ⟨call', ⟨j, ?_⟩, hid, hclaimed⟩
      rw [List.getElem?_set, if_neg]
      . exact hj
      . rintro rfl
        rw [hcall, Option.some.injEq] at hj
        exact hold (hj ▸ hclaimed)
    . refine ⟨{ self.calls[i] with progress }, ⟨i, ?_⟩, hid, hclaimed⟩
      rw [List.getElem?_set, if_pos rfl, if_pos hlt]

theorem claimed_append {call : Call T} (hnew : ¬ call.progress.IsClaimed)
    (hcalls : self'.calls = self.calls ++ [call]) (id : BlockId T) :
    self'.Claimed id ↔ self.Claimed id := by
  simp only [Claimed, hcalls, List.mem_append, List.mem_singleton, or_and_right, exists_or,
    exists_eq_left, hnew, and_false, or_false]

theorem claimedIsTriggered_congr (hclaimed : ∀ id, self'.Claimed id ↔ self.Claimed id)
    (hpeek : ∀ id, (self'.proxy.lookUpBlock id).2 = (self.proxy.lookUpBlock id).2)
    (htriggered : ∀ id blockInfo, (self.proxy.lookUpBlock id).2 = some blockInfo →
      (self'.IsTriggered blockInfo.vid ↔ self.IsTriggered blockInfo.vid)) :
    self'.ClaimedIsTriggered ↔ self.ClaimedIsTriggered := by
  apply forall_congr'
  intro id
  rw [hclaimed]
  apply imp_congr_right
  intro _
  apply exists_congr
  intro blockInfo
  rw [hpeek]
  apply and_congr_right
  intro hget
  exact htriggered id blockInfo hget

theorem claimedIsTriggered_stepCall (hnumbered : self.Numbered) (h : self.ClaimedIsTriggered)
    {i : Nat} {call : Call T} (hcall : self.calls[i]? = some call) {progress : Progress T}
    (hchange : self.CallChange call.progress progress)
    (hpeek : ∀ id, self'.proxy.globalState.blocks.peek id =
      self.proxy.globalState.blocks.peek id)
    (hcalls : self'.calls = self.calls.set i { call with progress })
    (hbuilds : self'.builds = trigger self.builds call.progress) :
    self'.ClaimedIsTriggered ↔ ∀ id blockInfo, call.progress = .claiming id blockInfo →
      (self.proxy.answerClaimBlock blockInfo).IsClaimed →
        ∃ current, (self.proxy.lookUpBlock id).2 = some current ∧
          (current.vid = blockInfo.vid ∨ self.IsTriggered current.vid) := by
  have hlookUp : ∀ id, (self'.proxy.lookUpBlock id).2 = (self.proxy.lookUpBlock id).2 := by
    intro id
    rw [lookUpBlock_snd, lookUpBlock_snd, hpeek]
  have htriggered : ∀ {id blockInfo}, (self.proxy.lookUpBlock id).2 = some blockInfo →
      (self'.IsTriggered blockInfo.vid ↔ self.IsTriggered blockInfo.vid ∨
        call.progress.triggers blockInfo.vid = true) := by
    intro id blockInfo hget
    obtain ⟨build, hbuild, -⟩ := hnumbered.cached hget
    exact isTriggered_trigger hbuilds hbuild
  have hclaiming := hnumbered.claiming call (List.mem_of_getElem? hcall)
  have hclaimed := claimed_set hcall (hchange.not_isClaimed_left) hcalls
  -- all but a claim that is answered leave what is claimed and what is triggered as it is
  have hquiet : (∀ vid, call.progress.triggers vid = false) → ¬ progress.IsClaimed →
      self'.ClaimedIsTriggered := by
    intro htriggers hprogress
    apply (claimedIsTriggered_congr _ hlookUp _).mpr h
    . intro id
      simp [hclaimed, hprogress]
    . intro id blockInfo hget
      simp [htriggered hget, htriggers]
  generalize call.progress = old at hchange htriggered hclaiming hquiet
  cases hchange with
  | lookUpBlock id blockInfo hget =>
    simp [hquiet (fun _ => rfl) (by simp [Progress.IsClaimed])]
  | lookUpHeaderInput id blockInfo hget =>
    simp [hquiet (fun _ => rfl) (by simp [Progress.IsClaimed])]
  | getVid id blockInfo build hbuild =>
    simp [hquiet (fun _ => rfl) (not_isClaimed_answerHeaderInput _ _ _)]
  | other _ _ hnot hdone hprogress =>
    have htriggers : ∀ vid, old.triggers vid = false := by
      intro vid
      rw [Bool.eq_false_iff, ne_eq, Progress.triggers_eq_true_iff]
      rintro ⟨id, blockInfo, hold, -⟩
      exact hnot id blockInfo hold
    simp [hquiet htriggers (Progress.not_isClaimed_of_isQuiet hprogress), hnot]
  | triggerVid id blockInfo =>
    obtain ⟨hid, -⟩ := hclaiming id blockInfo rfl
    constructor
    . rintro htriggered' _ _ hprogress hanswer
      obtain ⟨rfl, rfl⟩ := Progress.claiming.inj hprogress
      obtain ⟨current, hget, hcurrent⟩ := htriggered' id ((hclaimed id).mpr (.inr ⟨hid, hanswer⟩))
      rw [hlookUp] at hget
      rw [htriggered hget, Progress.triggers, decide_eq_true_eq] at hcurrent
      exact ⟨current, hget, hcurrent.symm.imp_left Eq.symm⟩
    . intro hcurrent id' hclaimed'
      rcases (hclaimed id').mp hclaimed' with hclaimed' | ⟨hid', hanswer⟩
      . obtain ⟨current, hget, hcurrent⟩ := h id' hclaimed'
        exact ⟨current, (hlookUp id').trans hget, (htriggered hget).mpr (.inl hcurrent)⟩
      . rw [hid, Option.some.injEq] at hid'
        subst hid'
        obtain ⟨current, hget, hcurrent⟩ := hcurrent id blockInfo rfl hanswer
        refine ⟨current, (hlookUp id).trans hget, ?_⟩
        rw [htriggered hget, Progress.triggers, decide_eq_true_eq]
        exact hcurrent.symm.imp_right Eq.symm

theorem claimedIsTriggered_updateGlobalState (hnumbered : self.Numbered)
    (h : self.ClaimedIsTriggered) {j : Nat} {build : Build T}
    (hbuild : self.builds[j]? = some build) (hstored : build.stored = false)
    (hroom : self.proxy.globalState.blocks.HasRoom build.info.id)
    (hself : self' = { self with
      proxy := { self.proxy with globalState :=
        self.proxy.globalState.updateGlobalState build.stateId build.info build.responseMsg }
      builds := self.builds.set j { build with stored := true } }) :
    self'.ClaimedIsTriggered ↔ ¬ self.Claimed build.info.id := by
  have hclaimed : ∀ id, self'.Claimed id ↔ self.Claimed id := by
    intro id
    rw [hself]
    rfl
  have hbuilds : ∀ k, self'.builds[k]? =
      if j = k then some { build with stored := true } else self.builds[k]? := by
    rw [hself]
    exact getElem?_store hbuild
  have htriggered : ∀ vid, self'.IsTriggered vid ↔ self.IsTriggered vid := by
    intro vid
    simp only [IsTriggered, hbuilds]
    split
    . next hj => simp [← hj, hbuild]
    . rfl
  have hlookUp : ∀ id, id ≠ build.info.id →
      (self'.proxy.lookUpBlock id).2 = (self.proxy.lookUpBlock id).2 := by
    intro id hid
    rw [lookUpBlock_snd, lookUpBlock_snd, hself]
    exact (LruCache.peek_put_of_hasRoom hroom _ _).trans (if_neg hid)
  constructor
  . intro htriggered' hrebuilt
    obtain ⟨blockInfo, hget, hvid⟩ := htriggered' build.info.id ((hclaimed _).mpr hrebuilt)
    have hput : (self'.proxy.lookUpBlock build.info.id).2 =
        some ⟨build.info.blockPayload, build.info.metadata, build.info.vid,
          build.info.offeredFee, build.info.truncated⟩ := by
      rw [lookUpBlock_snd, hself]
      exact LruCache.peek_put_self _ _ _
    rw [hput, Option.some.injEq] at hget
    rw [← hget, htriggered, hnumbered.vid hbuild] at hvid
    obtain ⟨build', hbuild', hvid⟩ := hvid
    rw [hbuild, Option.some.injEq] at hbuild'
    rw [← hbuild', hnumbered.fresh hbuild hstored] at hvid
    contradiction
  . intro hrebuilt id hid
    rw [hclaimed] at hid
    have hne : id ≠ build.info.id := by
      rintro rfl
      exact hrebuilt hid
    obtain ⟨blockInfo, hget, hvid⟩ := h id hid
    exact ⟨blockInfo, (hlookUp id hne).trans hget, (htriggered _).mpr hvid⟩

theorem claimedIsTriggered_change (hnumbered : self.Numbered) (h : self.ClaimedIsTriggered)
    {action : Action T} (hroom : self.EvictsNothing action) (hchange : Change self action self') :
    self'.ClaimedIsTriggered ↔ self.KeepsClaimed action := by
  cases hchange with
  | receive request =>
    obtain ⟨hblocks, hprogress⟩ := receive_claims self.proxy request
    have hnew : ¬ (self.proxy.receive request).2.IsClaimed := by
      rcases hprogress with hquiet | ⟨id, hprogress, -⟩
      . exact Progress.not_isClaimed_of_isQuiet hquiet
      . rw [hprogress]
        simp [Progress.IsClaimed]
    refine iff_of_true ((claimedIsTriggered_congr (claimed_append hnew rfl) ?_ ?_).mpr h) trivial
    . intro id
      simp only [lookUpBlock_snd, hblocks]
    . exact fun _ _ _ => Iff.rfl
  | advance _ i call proxy progress htrigger hupdate hcall hadvance =>
    obtain ⟨hcallChange, hpeek⟩ := callChange_of_advance hadvance
    rw [claimedIsTriggered_stepCall hnumbered h hcall hcallChange hpeek rfl rfl]
    by_cases haction : ∃ k, action = .triggerVid k
    . obtain ⟨k, rfl⟩ := haction
      rw [htrigger k rfl]
      simp only [KeepsClaimed, hcall, Option.mem_some_iff, forall_eq']
    . have hkeeps : self.KeepsClaimed action := by
        unfold KeepsClaimed
        split
        . next j => exact absurd rfl (hupdate j)
        . next k => exact absurd ⟨k, rfl⟩ haction
        . trivial
      refine iff_of_true ?_ hkeeps
      intro id blockInfo hprogress
      rw [hprogress] at hadvance
      exact absurd (advance_claiming hadvance) haction
  | buildBlock builder maxBlockSize build hvid hstored hvidTask =>
    refine iff_of_true ((claimedIsTriggered_congr ?_ ?_ ?_).mpr h) trivial
    . exact fun _ => Iff.rfl
    . exact fun _ => rfl
    . intro id blockInfo hget
      obtain ⟨build', hbuild', -⟩ := hnumbered.cached hget
      have hlt := (List.getElem?_eq_some_iff.mp hbuild').1
      simp only [IsTriggered, List.getElem?_append_left hlt]
  | updateGlobalState j build hbuild hstored =>
    rw [claimedIsTriggered_updateGlobalState hnumbered h hbuild hstored (hroom build hbuild) rfl]
    simp only [KeepsClaimed, hbuild, Option.mem_some_iff, forall_eq']
  | handle call globalState hblocks =>
    refine iff_of_true ((claimedIsTriggered_congr ?_ ?_ ?_).mpr h) trivial
    . exact fun _ => Iff.rfl
    . intro id
      simp only [lookUpBlock_snd, hblocks]
    . exact fun _ _ _ => Iff.rfl

/--
In a run without evictions, every header input of a claimed block waits for a computation that was
triggered exactly when no claimed block is stored anew, before or after its claim returns.
-/
theorem claimed_always_triggered_iff (hnew : IsNew self) {actions : List (Action T)}
    (hroom : Along step EvictsNothing self actions) :
    Always step ClaimedIsTriggered self actions ↔ Along step KeepsClaimed self actions := by
  apply always_iff_along_of_along (I := fun self : Service T => self.Numbered) _ _
    (numbered_new hnew) _ hroom
  . intro self₁ action self₂ hnumbered _ hstep
    exact hnumbered.change (change_of_step hstep)
  . intro self₁ action self₂ hnumbered h hroom hstep
    exact claimedIsTriggered_change hnumbered h hroom (change_of_step hstep)
  . intro id hclaimed
    obtain ⟨config, builderKeys, rfl⟩ := hnew
    obtain ⟨call, hcall, -⟩ := hclaimed
    contradiction

end

def testClaim : List (Action TestTypes) := [
  .buildBlock testBuilder 1000,
  .updateGlobalState 0,
  .receive (.claimBlock ([5] : List Nat) 0 ⟨(1 : Nat), ((1 : Nat), [5])⟩),
  .lookUpBlock 0,
  .triggerVid 0]

theorem claimed_always_triggered_iff_testClaim :
    Always step ClaimedIsTriggered testStart testClaim := by
  have hroom : Along step EvictsNothing testStart testClaim := by decide
  have hnew : IsNew testStart := ⟨_, _, rfl⟩
  rw [claimed_always_triggered_iff hnew hroom]
  intro s₁ h₁
  refine ⟨trivial, fun s₂ h₂ => ⟨?_, fun s₃ h₃ => ⟨trivial, fun s₄ h₄ => ⟨trivial, fun s₅ h₅ => ?_⟩⟩⟩⟩
  . rw [← Option.some.inj h₁]
    rintro build - ⟨call, hcall, -⟩
    contradiction
  . have hrun : run step testStart (testClaim.take 4) = some s₄ := by
      simp [testClaim, h₁, h₂, h₃, h₄]
    rw [← Option.some.inj hrun]
    refine ⟨?_, trivial⟩
    rintro call ⟨⟩ id blockInfo hprogress -
    obtain ⟨rfl, rfl⟩ := Progress.claiming.inj hprogress
    exact ⟨_, rfl, .inl rfl⟩

/--
The claimed block is built once more and stored, and its header input is asked for.
-/
def testRebuild : List (Action TestTypes) := [
  .buildBlock testBuilder 1000,
  .updateGlobalState 1,
  .receive (.claimBlockHeaderInput ([5] : List Nat) 0 ⟨(1 : Nat), ((1 : Nat), [5])⟩),
  .lookUpHeaderInput 1]

theorem not_claimed_always_triggered_testRebuild :
    Along step EvictsNothing testStart (testClaim ++ testRebuild) ∧
      ∃ self self', run step testStart testClaim = some self ∧ self.Claimed ⟨([5] : List Nat), 0⟩ ∧
        run step self testRebuild = some self' ∧ ∃ call blockInfo, self'.calls[1]? = some call ∧
          call.progress = .gettingVid ⟨([5] : List Nat), 0⟩ blockInfo ∧
          ¬ self'.IsTriggered blockInfo.vid := by
  refine ⟨by decide, _, _, rfl, ⟨_, List.mem_singleton_self _, rfl, _, rfl⟩, rfl, _, _, rfl, rfl, ?_⟩
  rintro ⟨build, hbuild, htriggered⟩
  rw [← Option.some.inj hbuild] at htriggered
  contradiction

end Service

end Legacy

end BuilderCore
