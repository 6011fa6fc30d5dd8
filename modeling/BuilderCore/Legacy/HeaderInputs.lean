import BuilderCore.Collections.Slots
import BuilderCore.Legacy.ServiceSteps

/-!
This module contains which VID commitment the legacy builder answers a request for a header input
with: that of the stored block, for the node count that the block was built with.
-/

namespace BuilderCore

open Collections Transition

variable {T : NodeType} [ApiTypes T]

namespace Legacy

namespace Progress

def IsHeaderInput (id : BlockId T) (self : Progress T) : Prop :=
  self = .claimBlockHeaderInput id ∨ (∃ blockInfo, self = .gettingVid id blockInfo) ∨
    ∃ result, self = .done result

/--
The only VID commitment that the call can be answered with.
-/
def Resolves (id : BlockId T) (blockInfo : BlockInfo T) (vidCommitment : T.VidCommitment)
    (self : Progress T) : Prop :=
  self = .gettingVid id blockInfo ∨ ∃ result, self = .done result ∧
    ∀ input, result = .ok (.claimBlockHeaderInput input) → input.vidCommitment = vidCommitment

end Progress

namespace Service

def vidInput (self : Service T) (vid : Nat) : Option (T.EncodedTransactions × Nat) :=
  self.builds[vid]?.map fun build => (build.vidTask.encodedTxns, build.vidTask.numNodes)

section

variable {self self' : Service T} {proxy : ProxyGlobalState T} {progress progress' : Progress T}

theorem vidInput_change {action : Action T} (hchange : Change self action self') {vid : Nat}
    {input : T.EncodedTransactions × Nat} (h : self.vidInput vid = some input) :
    self'.vidInput vid = some input := by
  cases hchange with
  | receive request => exact h
  | advance _ i call proxy progress htrigger hupdate hcall hadvance =>
    rw [vidInput, getElem?_trigger, Option.map_map]
    exact h
  | buildBlock builder maxBlockSize build hvid hstored hvidTask =>
    obtain ⟨build', hbuild', hinput⟩ := Option.map_eq_some_iff.mp h
    have hlt := (List.getElem?_eq_some_iff.mp hbuild').1
    rw [vidInput, List.getElem?_append_left hlt]
    exact h
  | updateGlobalState j build hbuild hstored =>
    rw [vidInput, getElem?_store hbuild]
    split
    . next hj =>
      rw [vidInput, ← hj, hbuild] at h
      exact h
    . exact h
  | handle call globalState hblocks => exact h

theorem calls_of_step {action : Action T} (hstep : self.step action = some self') :
    SlotChange (fun call => ∃ request, call = ⟨request, (self.proxy.receive request).2⟩)
      (fun call call' => ∃ proxy,
        self.advance action call.progress = some (proxy, call'.progress))
      self.calls self'.calls := by
  cases change_of_step hstep with
  | receive request => exact .push _ ⟨request, rfl⟩
  | advance _ i call proxy progress htrigger hupdate hcall hadvance =>
    exact .set i call _ hcall ⟨proxy, hadvance⟩
  | buildBlock | updateGlobalState | handle => exact .keep

theorem call_of_run {I : Service T → Prop}
    (hI : ∀ self action self', I self → self.step action = some self' → I self')
    {P : Progress T → Prop} (hP : ∀ {self action progress proxy progress'}, I self →
      self.advance action progress = some (proxy, progress') → P progress → P progress')
    {actions : List (Action T)} (hrun : run step self actions = some self') (hself : I self)
    {k : Nat} {call : Call T} (hcall : self.calls[k]? = some call) (h : P call.progress) :
    ∃ call', self'.calls[k]? = some call' ∧ P call'.progress := by
  apply slot_of_run (I := I) (P := fun call : Call T => P call.progress)
    (fun _ _ _ hstep => calls_of_step hstep) hI _ hrun hself hcall h
  rintro self₁ action call₁ call₂ hself₁ ⟨proxy, hadvance⟩
  exact hP hself₁ hadvance

theorem advance_done {action : Action T} {result : Except BuildError (Response T)} :
    self.advance action (.done result) = none := by
  cases action <;> rfl

/--
An answer is final.
-/
theorem done_of_run {actions : List (Action T)} (hrun : run step self actions = some self') {k : Nat}
    {call : Call T} (hcall : self.calls[k]? = some call)
    {result : Except BuildError (Response T)} (hdone : call.progress = .done result) :
    ∃ call', self'.calls[k]? = some call' ∧ call'.progress = .done result := by
  apply call_of_run (I := fun _ => True) (P := fun progress => progress = .done result) _ _ hrun
    trivial hcall hdone
  . exact fun _ _ _ _ _ => trivial
  . intro self action progress proxy progress' _ hadvance hdone
    rw [hdone, advance_done] at hadvance
    contradiction

theorem advance_claimBlockHeaderInput {action : Action T} {id : BlockId T}
    (h : self.advance action (.claimBlockHeaderInput id) = some (proxy, progress')) :
    (∃ error, progress' = .done (.error error)) ∨
      ∃ blockInfo, (self.proxy.lookUpBlock id).2 = some blockInfo ∧
        progress' = .gettingVid id blockInfo := by
  cases action with
  | lookUpHeaderInput k =>
    simp only [advance] at h
    split at h
    . rw [Option.some.injEq, Prod.mk.injEq] at h
      rw [← h.2]
      exact .inl ⟨_, rfl⟩
    . next blockInfo hlookUp =>
      rw [Option.some.injEq, Prod.mk.injEq] at h
      rw [hlookUp, ← h.2]
      exact .inr ⟨blockInfo, rfl, rfl⟩
  | _ => contradiction

theorem advance_gettingVid {action : Action T} {id : BlockId T} {blockInfo : BlockInfo T}
    (h : self.advance action (.gettingVid id blockInfo) = some (proxy, progress')) :
    ∃ result, progress' = .done result ∧ ∀ input, result = .ok (.claimBlockHeaderInput input) →
      ∃ encodedTxns numNodes, self.vidInput blockInfo.vid = some (encodedTxns, numNodes) ∧
        input.vidCommitment = ApiTypes.vidCommitment encodedTxns numNodes := by
  cases action with
  | getVid k margin now =>
    simp only [advance, Option.bind_eq_bind, Option.bind_eq_some_iff, Option.guard_eq_some',
      exists_const, Option.pure_def, Option.some.injEq, Prod.mk.injEq] at h
    obtain ⟨build, hbuild, -, -, rfl⟩ := h
    obtain ⟨result, hdone, hresult⟩ := answerHeaderInput_eq_done self.proxy blockInfo
      (ApiTypes.vidCommitment build.vidTask.encodedTxns build.vidTask.numNodes)
    refine ⟨result, hdone, ?_⟩
    intro input hok
    obtain ⟨input', hinput, hcommitment⟩ := hresult _ hok
    obtain rfl := Response.claimBlockHeaderInput.inj hinput
    exact ⟨_, _, by rw [vidInput, hbuild, Option.map_some], hcommitment⟩
  | closeVid k margin now =>
    simp only [advance, Option.bind_eq_bind, Option.bind_eq_some_iff, Option.guard_eq_some',
      exists_const, Option.pure_def, Option.some.injEq, Prod.mk.injEq] at h
    obtain ⟨build, -, -, -, rfl⟩ := h
    exact ⟨_, rfl, by simp⟩
  | timeOutVid k =>
    simp only [advance, ProxyGlobalState.timeOutVid, Option.some.injEq, Prod.mk.injEq] at h
    exact ⟨_, h.2.symm, by simp⟩
  | _ => contradiction

theorem isHeaderInput_advance {action : Action T} {id : BlockId T}
    (h : self.advance action progress = some (proxy, progress'))
    (hprogress : progress.IsHeaderInput id) : progress'.IsHeaderInput id := by
  rcases hprogress with rfl | ⟨blockInfo, rfl⟩ | ⟨result, rfl⟩
  . rcases advance_claimBlockHeaderInput h with ⟨error, hdone⟩ | ⟨blockInfo, -, hgetting⟩
    . exact .inr (.inr ⟨_, hdone⟩)
    . exact .inr (.inl ⟨blockInfo, hgetting⟩)
  . obtain ⟨result, hdone, -⟩ := advance_gettingVid h
    exact .inr (.inr ⟨result, hdone⟩)
  . rw [advance_done] at h
    contradiction

theorem resolves_advance {action : Action T} {id : BlockId T} {blockInfo : BlockInfo T}
    {encodedTxns : T.EncodedTransactions} {numNodes : Nat}
    (hinput : self.vidInput blockInfo.vid = some (encodedTxns, numNodes))
    (h : self.advance action progress = some (proxy, progress'))
    (hprogress : progress.Resolves id blockInfo (ApiTypes.vidCommitment encodedTxns numNodes)) :
    progress'.Resolves id blockInfo (ApiTypes.vidCommitment encodedTxns numNodes) := by
  rcases hprogress with rfl | ⟨result, rfl, -⟩
  . obtain ⟨result, hdone, hresult⟩ := advance_gettingVid h
    refine .inr ⟨result, hdone, ?_⟩
    intro input hok
    obtain ⟨encodedTxns', numNodes', hinput', hcommitment⟩ := hresult input hok
    rw [hinput, Option.some.injEq, Prod.mk.injEq] at hinput'
    rw [hcommitment, hinput'.1, hinput'.2]
  . rw [advance_done] at h
    contradiction

theorem isHeaderInput_receive (proxy : ProxyGlobalState T) (blockHash : T.BuilderCommitment)
    (viewNumber : Nat) (authentication : Authentication T) :
    (proxy.receive
      (.claimBlockHeaderInput blockHash viewNumber authentication)).2.IsHeaderInput
        ⟨blockHash, viewNumber⟩ := by
  rw [ProxyGlobalState.receive_eq]
  dsimp only
  split
  . exact .inl rfl
  . exact .inr (.inr ⟨_, rfl⟩)

theorem isHeaderInput_of_run {blockHash : T.BuilderCommitment} {viewNumber : Nat}
    {authentication : Authentication T} {actions : List (Action T)}
    (hrun : run step self (.receive (.claimBlockHeaderInput blockHash viewNumber authentication) ::
      actions) = some self') :
    ∃ call, self'.calls[self.calls.length]? = some call ∧
      call.progress.IsHeaderInput ⟨blockHash, viewNumber⟩ := by
  rw [run_cons_eq_some] at hrun
  obtain ⟨self₁, hreceive, hrun⟩ := hrun
  have hcall : ∃ call, self₁.calls[self.calls.length]? = some call ∧
      call.progress.IsHeaderInput ⟨blockHash, viewNumber⟩ := by
    rw [← Option.some.inj hreceive]
    exact ⟨_, List.getElem?_concat_length, isHeaderInput_receive _ _ _ _⟩
  obtain ⟨call, hcall, hprogress⟩ := hcall
  exact call_of_run (I := fun _ => True) (fun _ _ _ _ _ => trivial)
    (fun _ hadvance => isHeaderInput_advance hadvance) hrun trivial hcall hprogress

/--
The VID commitment of an answer is that of the block that was found.
-/
theorem vidCommitment_of_run {k : Nat} {call call' : Call T} {id : BlockId T}
    (hcall : self.calls[k]? = some call) (hprogress : call.progress.IsHeaderInput id)
    (hnumbered : self.Numbered) {actions : List (Action T)}
    (hrun : run step self (.lookUpHeaderInput k :: actions) = some self')
    (hcall' : self'.calls[k]? = some call') {input : AvailableBlockHeaderInput T}
    (hinput : call'.progress = .done (.ok (.claimBlockHeaderInput input))) :
    ∃ blockInfo numNodes, (self.proxy.lookUpBlock id).2 = some blockInfo ∧
      self.vidInput blockInfo.vid = some (ApiTypes.encode blockInfo.blockPayload, numNodes) ∧
      input.vidCommitment =
        ApiTypes.vidCommitment (ApiTypes.encode blockInfo.blockPayload) numNodes := by
  rw [run_cons_eq_some] at hrun
  obtain ⟨self₁, hlookUp, hrun⟩ := hrun
  obtain ⟨call₀, proxy, progress, hcall₀, hadvance, hself₁⟩ := stepCall_eq_some.mp hlookUp
  have hlt := (List.getElem?_eq_some_iff.mp hcall).1
  rw [hcall, Option.some.injEq] at hcall₀
  subst hcall₀
  have hcall₁ : self₁.calls[k]? = some { call with progress } := by
    simp [hself₁, hlt]
  rcases hprogress with hid | ⟨blockInfo, hid⟩ | ⟨result, hid⟩
  . rw [hid] at hadvance
    rcases advance_claimBlockHeaderInput hadvance with ⟨error, rfl⟩ | ⟨blockInfo, hget, rfl⟩
    . obtain ⟨call₂, hcall₂, hprogress⟩ := done_of_run hrun hcall₁ rfl
      rw [hcall', Option.some.injEq] at hcall₂
      rw [hcall₂, hprogress] at hinput
      cases hinput
    . obtain ⟨build, hbuild, -, hpayload⟩ := hnumbered.cached hget
      have hencoded := hnumbered.encoded hbuild
      rw [hpayload] at hencoded
      have hvidInput : self.vidInput blockInfo.vid =
          some (ApiTypes.encode blockInfo.blockPayload, build.vidTask.numNodes) := by
        rw [vidInput, hbuild, Option.map_some, hencoded]
      refine ⟨blockInfo, build.vidTask.numNodes, hget, hvidInput, ?_⟩
      have hvidInput₁ := vidInput_change (change_of_step hlookUp) hvidInput
      obtain ⟨call₂, hcall₂, hprogress⟩ := call_of_run
        (fun _ _ _ hself hstep => vidInput_change (change_of_step hstep) hself)
        resolves_advance hrun hvidInput₁ hcall₁
        (.inl rfl : (Progress.gettingVid id blockInfo).Resolves id blockInfo _)
      rw [hcall', Option.some.injEq] at hcall₂
      rcases hprogress with hgetting | ⟨result, hdone, hresult⟩
      . rw [← hcall₂, hinput] at hgetting
        contradiction
      . rw [← hcall₂, hinput] at hdone
        exact hresult input (Progress.done.inj hdone).symm
  . rw [hid] at hadvance
    contradiction
  . rw [hid, advance_done] at hadvance
    contradiction

end

end Service

end Legacy

end BuilderCore
