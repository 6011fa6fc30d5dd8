import BuilderCore.LegacyRefactored.HeaderInputs

/-!
This module contains that the answers of the refactored legacy builder are about the block that was
asked for, and signed over what the block is offered for.
-/

namespace BuilderCore

open Transition

variable {T : NodeType} [ApiTypes T]

/--
The size and the fee of a block that was built follow from its payload.
-/
structure BlockInfo.IsPriced (baseFee : Nat) (info : BlockInfo T) : Prop where
  encodedTxns : info.vidData.encodedTxns = ApiTypes.encode info.blockPayload
  blockSize : info.blockSize = ApiTypes.len (ApiTypes.encode info.blockPayload)
  offeredFee : info.offeredFee = baseFee * info.blockSize % 2 ^ 64

theorem BlockInfo.signedResponse_eq_ok {self : BlockInfo T} {keys : BuilderKeys T}
    {response : AvailableBlockInfo T} (h : self.signedResponse keys = .ok response) :
    response.blockHash = self.builderCommitment ∧ response.blockSize = self.blockSize ∧
      response.offeredFee = self.offeredFee := by
  unfold signedResponse at h
  split at h
  . contradiction
  . rw [← Except.ok.inj h]
    exact ⟨rfl, rfl, rfl⟩

theorem isPriced_of_buildBlock {config : BuildConfig T} {refs : ParentBlockReferences T}
    {validatedState : ApiTypes.ValidatedState T} {txnQueue : TransactionQueue T}
    {blockInfo : BlockInfo T}
    (h : (buildBlock config refs validatedState txnQueue).2 = .ok (some blockInfo)) :
    blockInfo.IsPriced config.baseFee := by
  simp only [buildBlock] at h
  split at h
  . simp at h
  . split at h
    . simp at h
    . split at h
      . simp at h
      . simp only [Except.ok.injEq, Option.some.injEq] at h
        rw [← h]
        exact ⟨rfl, rfl, rfl⟩

/--
Every request is answered with its own kind of response, for a block with the hash that it names.
-/
inductive Genuine (config : BuilderConfig T) : Request T → Response T → Prop where
  | availableBlocks (parentBlock : T.VidCommitment) (parentView : Nat)
      (authentication : Authentication T) (blocks : List (AvailableBlockInfo T))
      (hblocks : ∀ block ∈ blocks, ∃ blockInfo : BlockInfo T,
        blockInfo.IsPriced config.baseFee ∧
          blockInfo.signedResponse config.builderKeys = .ok block) :
      Genuine config (.availableBlocks parentBlock parentView authentication)
        (.availableBlocks blocks)
  | claimBlock (request : Request T) (id : BlockId T) (block : AvailableBlockData T)
      (hid : request.claimedId = some id)
      (hhash : T.payloadBuilderCommitment block.blockPayload block.metadata = id.hash)
      (hsignature : ApiTypes.signBuilderMessage config.builderKeys.privateKey
        (ApiTypes.builderCommitmentAsRef id.hash) = .ok block.signature)
      (hsender : block.sender = config.builderKeys.publicKey) :
      Genuine config request (.claimBlock block)
  | claimBlockHeaderInput (blockHash : T.BuilderCommitment) (viewNumber : Nat)
      (authentication : Authentication T) (input : AvailableBlockHeaderInput T)
      (blockInfo : BlockInfo T) (hpriced : blockInfo.IsPriced config.baseFee)
      (hhash : blockInfo.builderCommitment = blockHash)
      (hvid : input.vidCommitment = blockInfo.vidData.resolve)
      (hmessage : ApiTypes.signBuilderMessage config.builderKeys.privateKey
        (ApiTypes.vidCommitmentAsRef input.vidCommitment) = .ok input.messageSignature)
      (hfee : ApiTypes.signFee config.builderKeys.privateKey blockInfo.offeredFee
        blockInfo.metadata input.vidCommitment = .ok input.feeSignature)
      (hsender : input.sender = config.builderKeys.publicKey) :
      Genuine config (.claimBlockHeaderInput blockHash viewNumber authentication)
        (.claimBlockHeaderInput input)

/--
What the call knows of the block while it is under way.
-/
inductive Tracks (config : BuilderConfig T) (request : Request T) : Progress T → Prop where
  | availableBlocks (stateId : BuilderStateId T) (parentBlock : T.VidCommitment) (parentView : Nat)
      (authentication : Authentication T)
      (hrequest : request = .availableBlocks parentBlock parentView authentication) :
      Tracks config request (.availableBlocks stateId)
  | building (stateId : BuilderStateId T) (builderState : BuilderState T)
      (parentBlock : T.VidCommitment) (parentView : Nat) (authentication : Authentication T)
      (hrequest : request = .availableBlocks parentBlock parentView authentication) :
      Tracks config request (.building stateId builderState)
  | built (stateId : BuilderStateId T) (result : Except (RequestError T) (Option (BlockInfo T)))
      (parentBlock : T.VidCommitment) (parentView : Nat) (authentication : Authentication T)
      (hrequest : request = .availableBlocks parentBlock parentView authentication)
      (hpriced : ∀ blockInfo, result = .ok (some blockInfo) →
        blockInfo.IsPriced config.baseFee) :
      Tracks config request (.built stateId result)
  | claimBlock (id : BlockId T) (hid : request.claimedId = some id) :
      Tracks config request (.claimBlock id)
  | claimBlockHeaderInput (blockHash : T.BuilderCommitment) (viewNumber : Nat)
      (authentication : Authentication T)
      (hrequest : request = .claimBlockHeaderInput blockHash viewNumber authentication) :
      Tracks config request (.claimBlockHeaderInput ⟨blockHash, viewNumber⟩)
  | resolving (blockInfo : BlockInfo T) (viewNumber : Nat) (authentication : Authentication T)
      (hrequest : request =
        .claimBlockHeaderInput blockInfo.builderCommitment viewNumber authentication)
      (hpriced : blockInfo.IsPriced config.baseFee) : Tracks config request (.resolving blockInfo)
  | failed (error : BuildError) : Tracks config request (.done (.error error))
  | answered (response : Response T) (hgenuine : Genuine config request response) :
      Tracks config request (.done (.ok response))

namespace Service

/--
The configuration stays as it is, and what is stored was built with it, under its own hash.
-/
structure IsReady (config : BuilderConfig T) (globalState : GlobalState T) : Prop where
  builderKeys : globalState.builderKeys = config.builderKeys
  baseFee : globalState.baseFee = config.baseFee
  consistent : globalState.blockStore.Consistent
  stored : ∀ {id blockInfo}, globalState.blockStore.getBlock id = some blockInfo →
    blockInfo.IsPriced config.baseFee

/--
Only authenticated requests get on.
-/
structure IsGenuine (config : BuilderConfig T) (service : Service T) : Prop where
  ready : IsReady config service.globalState
  tracks : ∀ call ∈ service.calls, Tracks config call.request call.progress
  authenticated : ∀ call ∈ service.calls,
    call.request.isAuthenticated = true ∨ ∃ error, call.progress = .done (.error error)

section

variable {config : BuilderConfig T} {self self' : Service T} {globalState globalState' : GlobalState T}
  {progress progress' : Progress T} {request : Request T}

theorem tracks_receive (globalState : GlobalState T) (request : Request T) :
    Tracks config request (globalState.receive request).2 ∧
      (request.isAuthenticated = true ∨
        ∃ error, (globalState.receive request).2 = .done (.error error)) := by
  rw [GlobalState.receive_eq]
  dsimp only
  split
  . next hauthenticated =>
    refine ⟨?_, .inl hauthenticated⟩
    cases request with
    | availableBlocks parentBlock parentView authentication =>
      exact .availableBlocks _ parentBlock parentView authentication rfl
    | claimBlock blockHash viewNumber authentication => exact .claimBlock _ rfl
    | claimBlockWithNumNodes blockHash viewNumber authentication numNodes =>
      exact .claimBlock _ rfl
    | claimBlockHeaderInput blockHash viewNumber authentication =>
      exact .claimBlockHeaderInput blockHash viewNumber authentication rfl
  . exact ⟨.failed _, .inr ⟨_, rfl⟩⟩

theorem timeOut_eq_some
    (h : globalState.timeOut progress = some (globalState', progress')) :
    globalState'.builderKeys = globalState.builderKeys ∧
      globalState'.baseFee = globalState.baseFee ∧ ∃ error, progress' = .done (.error error) := by
  unfold GlobalState.timeOut at h
  split at h
  . contradiction
  all_goals
    simp only [Option.some.injEq, Prod.mk.injEq] at h
    obtain ⟨rfl, rfl⟩ := h
    exact ⟨rfl, rfl, _, rfl⟩

theorem genuine_offer {parentBlock : T.VidCommitment} {parentView : Nat}
    {authentication : Authentication T} {blockInfo : BlockInfo T}
    (hpriced : blockInfo.IsPriced config.baseFee) {response : AvailableBlockInfo T}
    (hresponse : blockInfo.signedResponse config.builderKeys = .ok response) :
    Genuine config (.availableBlocks parentBlock parentView authentication)
      (.availableBlocks [response]) := by
  apply Genuine.availableBlocks
  intro block hblock
  rw [List.mem_singleton.mp hblock]
  exact ⟨blockInfo, hpriced, hresponse⟩

theorem tracks_answerAvailableBlocks (hready : IsReady config globalState)
    (stateId : BuilderStateId T) (parentBlock : T.VidCommitment) (parentView : Nat)
    (authentication : Authentication T)
    {result : Except (RequestError T) (Option (BlockInfo T))}
    (hpriced : ∀ blockInfo, result = .ok (some blockInfo) → blockInfo.IsPriced config.baseFee) :
    Tracks config (.availableBlocks parentBlock parentView authentication)
      (globalState.answerAvailableBlocks stateId result).2 := by
  unfold GlobalState.answerAvailableBlocks
  rw [hready.builderKeys]
  split
  . next blockInfo =>
    split
    . exact .failed _
    . next response hresponse =>
      exact .answered _ (genuine_offer (hpriced blockInfo rfl) hresponse)
  . exact .answered _ (.availableBlocks _ _ _ _ (by simp))
  . split
    . exact .failed _
    . next cachedBlock hcached =>
      split
      . exact .failed _
      . next response hresponse =>
        obtain ⟨id, -, hget⟩ := Option.bind_eq_some_iff.mp hcached
        exact .answered _ (genuine_offer (hready.stored hget) hresponse)

theorem tracks_answerClaimBlock (hready : IsReady config globalState) {id : BlockId T}
    (hid : request.claimedId = some id) : Tracks config request (globalState.answerClaimBlock id) := by
  unfold GlobalState.answerClaimBlock GlobalState.claimBlockImplementation
  rw [hready.builderKeys]
  cases hget : globalState.blockStore.getBlock id with
  | none => exact .failed _
  | some blockInfo =>
    have hhash := hready.consistent.hash hget
    dsimp only
    rw [hhash]
    cases hsign : ApiTypes.signBuilderMessage config.builderKeys.privateKey
        (ApiTypes.builderCommitmentAsRef id.hash) with
    | error error => exact .failed _
    | ok signature => exact .answered _ (.claimBlock request id _ hid hhash hsign rfl)

theorem tracks_answerHeaderInput (hready : IsReady config globalState) {blockInfo : BlockInfo T}
    (viewNumber : Nat) (authentication : Authentication T)
    (hpriced : blockInfo.IsPriced config.baseFee) (margin : Bool) (now : Nat) :
    (globalState.answerHeaderInput blockInfo margin now).1.builderKeys = globalState.builderKeys ∧
      (globalState.answerHeaderInput blockInfo margin now).1.baseFee = globalState.baseFee ∧
      Tracks config
        (.claimBlockHeaderInput blockInfo.builderCommitment viewNumber authentication)
        (globalState.answerHeaderInput blockInfo margin now).2 := by
  unfold GlobalState.answerHeaderInput
  split
  . exact ⟨rfl, rfl, .failed _⟩
  . next input hinput =>
    refine ⟨rfl, rfl, .answered _ ?_⟩
    unfold GlobalState.headerInput at hinput
    rw [hready.builderKeys] at hinput
    dsimp only at hinput
    split at hinput
    . contradiction
    . next messageSignature hmessage =>
      split at hinput
      . contradiction
      . next feeSignature hfee =>
        rw [← Except.ok.inj hinput]
        exact .claimBlockHeaderInput _ viewNumber authentication _ blockInfo hpriced rfl rfl
          hmessage hfee rfl

theorem tracks_of_advance (hready : IsReady config globalState)
    (htracks : Tracks config request progress) {action : Action T}
    (h : advance globalState action progress = some (globalState', progress')) :
    globalState'.builderKeys = globalState.builderKeys ∧
      globalState'.baseFee = globalState.baseFee ∧ Tracks config request progress' := by
  by_cases htimeOut : ∃ i, action = .timeOut i
  . obtain ⟨i, rfl⟩ := htimeOut
    obtain ⟨hkeys, hfee, error, rfl⟩ := timeOut_eq_some h
    exact ⟨hkeys, hfee, .failed error⟩
  cases htracks with
  | availableBlocks stateId parentBlock parentView authentication hrequest =>
    cases action with
    | findBuilder i timedOut =>
      simp only [advance, Option.map_eq_some_iff, Prod.mk.injEq] at h
      obtain ⟨progress, hfind, rfl, rfl⟩ := h
      refine ⟨rfl, rfl, ?_⟩
      unfold GlobalState.findBuilder at hfind
      split at hfind
      . split at hfind
        . rw [← Option.some.inj hfind]
          exact .building _ _ parentBlock parentView authentication hrequest
        . rw [← Option.some.inj hfind]
          exact .built _ _ parentBlock parentView authentication hrequest (by simp)
      . split at hfind
        . rw [← Option.some.inj hfind]
          exact .building _ _ parentBlock parentView authentication hrequest
        . rw [← Option.some.inj hfind]
          exact .failed _
        . contradiction
    | timeOut i => exact absurd ⟨i, rfl⟩ htimeOut
    | _ => contradiction
  | building stateId builderState parentBlock parentView authentication hrequest =>
    cases action with
    | buildBlock i validatedState maxBlockSize txnQueue =>
      simp only [advance, Option.some.injEq, Prod.mk.injEq] at h
      obtain ⟨rfl, rfl⟩ := h
      refine ⟨rfl, rfl, .built _ _ parentBlock parentView authentication hrequest ?_⟩
      intro blockInfo hbuilt
      have hpriced := isPriced_of_buildBlock hbuilt
      rwa [← hready.baseFee]
    | buildTimeOut i =>
      simp only [advance, Option.some.injEq, Prod.mk.injEq] at h
      obtain ⟨rfl, rfl⟩ := h
      exact ⟨rfl, rfl, .built _ _ parentBlock parentView authentication hrequest (by simp)⟩
    | timeOut i => exact absurd ⟨i, rfl⟩ htimeOut
    | _ => contradiction
  | built stateId result parentBlock parentView authentication hrequest hpriced =>
    cases action with
    | answerAvailableBlocks i =>
      have h := Option.some.inj h
      have htracks := tracks_answerAvailableBlocks hready stateId parentBlock parentView
        authentication hpriced
      obtain ⟨answer, -, hstore⟩ := answerAvailableBlocks_eq_done globalState stateId result
      rw [h] at hstore htracks
      rw [hrequest]
      rcases hstore with rfl | ⟨blockInfo, -, rfl⟩
      . exact ⟨rfl, rfl, htracks⟩
      . exact ⟨rfl, rfl, htracks⟩
    | timeOut i => exact absurd ⟨i, rfl⟩ htimeOut
    | _ => contradiction
  | claimBlock id hid =>
    cases action with
    | answerClaimBlock i =>
      simp only [advance, Option.some.injEq, Prod.mk.injEq] at h
      obtain ⟨rfl, rfl⟩ := h
      exact ⟨rfl, rfl, tracks_answerClaimBlock hready hid⟩
    | timeOut i => exact absurd ⟨i, rfl⟩ htimeOut
    | _ => contradiction
  | claimBlockHeaderInput blockHash viewNumber authentication hrequest =>
    cases action with
    | lookUpHeaderInput i =>
      simp only [advance, Option.some.injEq, Prod.mk.injEq] at h
      obtain ⟨rfl, rfl⟩ := h
      refine ⟨rfl, rfl, ?_⟩
      unfold GlobalState.lookUpHeaderInput
      split
      . exact .failed _
      . next blockInfo hget =>
        have hhash : blockInfo.builderCommitment = blockHash := hready.consistent.hash hget
        exact .resolving blockInfo viewNumber authentication (by rw [hrequest, hhash])
          (hready.stored hget)
    | timeOut i => exact absurd ⟨i, rfl⟩ htimeOut
    | _ => contradiction
  | resolving blockInfo viewNumber authentication hrequest hpriced =>
    cases action with
    | answerHeaderInput i margin now =>
      have h := Option.some.inj h
      have htracks := tracks_answerHeaderInput hready viewNumber authentication hpriced margin now
      rw [h] at htracks
      rw [hrequest]
      exact htracks
    | timeOut i => exact absurd ⟨i, rfl⟩ htimeOut
    | _ => contradiction
  | failed error =>
    rw [advance_done] at h
    contradiction
  | answered response hgenuine =>
    rw [advance_done] at h
    contradiction

theorem isGenuine_new (config : BuilderConfig T) (now : Nat) : IsGenuine config (new config now) where
  ready := by
    refine ⟨rfl, rfl, BlockStore.consistent_new, ?_⟩
    intro id blockInfo hget
    simp only [new, GlobalState.new, BlockStore.new, BlockStore.getBlock,
      TieredViewMap.get_new] at hget
    contradiction
  tracks := by simp [new]
  authenticated := by simp [new]

theorem isPriced_of_built (h : IsGenuine config self) {i : Nat} {call : Call T}
    (hcall : self.calls[i]? = some call) {stateId : BuilderStateId T} {blockInfo : BlockInfo T}
    (hbuilt : call.progress = .built stateId (.ok (some blockInfo))) :
    blockInfo.IsPriced config.baseFee := by
  have htracks := h.tracks call (List.mem_of_getElem? hcall)
  rw [hbuilt] at htracks
  cases htracks with
  | built _ _ _ _ _ _ hpriced => exact hpriced blockInfo rfl

theorem store_of_step (h : IsGenuine config self) {action : Action T}
    (hstep : self.step action = some self') :
    self'.globalState.blockStore.Consistent ∧
      ∀ id blockInfo, self'.globalState.blockStore.getBlock id = some blockInfo →
        blockInfo.IsPriced config.baseFee := by
  have hchange := storeChange_of_step hstep
  generalize self'.globalState.blockStore = blockStore at hchange
  cases hchange with
  | keep => exact ⟨h.ready.consistent, fun _ _ hget => h.ready.stored hget⟩
  | update _ i call stateId blockInfo hcall hbuilt =>
    refine ⟨h.ready.consistent.update stateId blockInfo, ?_⟩
    intro id blockInfo' hget
    rw [BlockStore.getBlock_update] at hget
    split at hget
    . rw [← Option.some.inj hget]
      exact isPriced_of_built h hcall hbuilt
    . exact h.ready.stored hget
  | prune cutoff =>
    refine ⟨h.ready.consistent.prune cutoff, ?_⟩
    intro id blockInfo hget
    rw [BlockStore.getBlock_prune] at hget
    split at hget
    . exact h.ready.stored hget
    . contradiction

theorem isGenuine_stepCall (h : IsGenuine config self) {action : Action T} {i : Nat}
    (hstep : self.stepCall action i = some self') :
    self'.globalState.builderKeys = config.builderKeys ∧
      self'.globalState.baseFee = config.baseFee ∧
      ∀ call ∈ self'.calls, Tracks config call.request call.progress ∧
        (call.request.isAuthenticated = true ∨ ∃ error, call.progress = .done (.error error)) := by
  obtain ⟨call, globalState, progress, hcall, hadvance, rfl⟩ := stepCall_eq_some.mp hstep
  have hmem := List.mem_of_getElem? hcall
  obtain ⟨hkeys, hfee, htracks⟩ := tracks_of_advance h.ready (h.tracks call hmem) hadvance
  refine ⟨hkeys.trans h.ready.builderKeys, hfee.trans h.ready.baseFee, ?_⟩
  intro call' hcall'
  rcases List.mem_or_eq_of_mem_set hcall' with hold | rfl
  . exact ⟨h.tracks call' hold, h.authenticated call' hold⟩
  . refine ⟨htracks, ?_⟩
    rcases h.authenticated call hmem with hauthenticated | ⟨error, hdone⟩
    . exact .inl hauthenticated
    . rw [hdone, advance_done] at hadvance
      contradiction

theorem isGenuine_step (h : IsGenuine config self) {action : Action T}
    (hstep : self.step action = some self') : IsGenuine config self' := by
  obtain ⟨hconsistent, hstored⟩ := store_of_step h hstep
  have hrest : self'.globalState.builderKeys = config.builderKeys ∧
      self'.globalState.baseFee = config.baseFee ∧
      ∀ call ∈ self'.calls, Tracks config call.request call.progress ∧
        (call.request.isAuthenticated = true ∨ ∃ error, call.progress = .done (.error error)) := by
    cases action with
    | receive request =>
      rw [← Option.some.inj hstep]
      have hkeys : (self.globalState.receive request).1.builderKeys = self.globalState.builderKeys ∧
          (self.globalState.receive request).1.baseFee = self.globalState.baseFee := by
        rw [GlobalState.receive_eq]
        exact ⟨rfl, rfl⟩
      refine ⟨hkeys.1.trans h.ready.builderKeys, hkeys.2.trans h.ready.baseFee, ?_⟩
      intro call hcall
      rcases List.mem_append.mp hcall with hold | hnew
      . exact ⟨h.tracks call hold, h.authenticated call hold⟩
      . rw [List.mem_singleton.mp hnew]
        exact tracks_receive self.globalState request
    | prune cutoff =>
      rw [← Option.some.inj hstep]
      exact ⟨h.ready.builderKeys, h.ready.baseFee,
        fun call hcall => ⟨h.tracks call hcall, h.authenticated call hcall⟩⟩
    | coordinate action =>
      simp only [step, Option.bind_eq_bind, Option.bind_eq_some_iff, Option.pure_def,
        Option.some.injEq] at hstep
      obtain ⟨coordinator, -, rfl⟩ := hstep
      exact ⟨h.ready.builderKeys, h.ready.baseFee,
        fun call hcall => ⟨h.tracks call hcall, h.authenticated call hcall⟩⟩
    | _ => exact isGenuine_stepCall h hstep
  obtain ⟨hkeys, hfee, hcalls⟩ := hrest
  exact ⟨⟨hkeys, hfee, hconsistent, hstored _ _⟩, fun call hcall => (hcalls call hcall).1,
    fun call hcall => (hcalls call hcall).2⟩

theorem isGenuine_of_run {now : Nat} {actions : List (Action T)}
    (hrun : run step (new config now) actions = some self) : IsGenuine config self := by
  apply run_invariant (P := IsGenuine config) _ (isGenuine_new config now) hrun
  intro self action self' hself hstep
  exact isGenuine_step hself hstep

theorem genuine_of_run {now : Nat} {actions : List (Action T)}
    (hrun : run step (new config now) actions = some self) {call : Call T} (hcall : call ∈ self.calls)
    {response : Response T} (hdone : call.progress = .done (.ok response)) :
    Genuine config call.request response := by
  have htracks := (isGenuine_of_run hrun).tracks call hcall
  rw [hdone] at htracks
  cases htracks with
  | answered _ hgenuine => exact hgenuine

/--
Whatever the calls, the event loop and the builds do in the meantime: only an authenticated request gets
an answer, and the answer is about a block with the hash that was asked for, with the size and the fee
that follow from its payload, and signed by the builder over just these.
-/
theorem answers_genuine {now : Nat} {actions : List (Action T)}
    (hrun : run step (new config now) actions = some self) {call : Call T} (hcall : call ∈ self.calls)
    {response : Response T} (hdone : call.progress = .done (.ok response)) :
    call.request.isAuthenticated = true ∧ Genuine config call.request response := by
  refine ⟨?_, genuine_of_run hrun hcall hdone⟩
  rcases (isGenuine_of_run hrun).authenticated call hcall with hauthenticated | ⟨error, herror⟩
  . exact hauthenticated
  . rw [hdone] at herror
    have hresult := Progress.done.inj herror
    contradiction

/--
An offer, a claim and a header input for the same hash are about the same payload if no two payloads
have the same hash, and the fee that is signed is the one that was offered.
-/
theorem answers_agree
    (hinjective : ∀ payload metadata payload' metadata',
      T.payloadBuilderCommitment payload metadata = T.payloadBuilderCommitment payload' metadata' →
        payload = payload' ∧ metadata = metadata')
    {now : Nat} {actions : List (Action T)} (hrun : run step (new config now) actions = some self)
    {offer claim header : Call T} (hoffer : offer ∈ self.calls) (hclaim : claim ∈ self.calls)
    (hheader : header ∈ self.calls) {blocks : List (AvailableBlockInfo T)}
    {block : AvailableBlockInfo T} {data : AvailableBlockData T} {input : AvailableBlockHeaderInput T}
    {claimedView viewNumber : Nat} {authentication : Authentication T}
    (hblocks : offer.progress = .done (.ok (.availableBlocks blocks))) (hblock : block ∈ blocks)
    (hid : claim.request.claimedId = some ⟨block.blockHash, claimedView⟩)
    (hdata : claim.progress = .done (.ok (.claimBlock data)))
    (hrequest : header.request =
      .claimBlockHeaderInput block.blockHash viewNumber authentication)
    (hinput : header.progress = .done (.ok (.claimBlockHeaderInput input))) :
    block.blockSize = ApiTypes.len (ApiTypes.encode data.blockPayload) ∧
      block.offeredFee = config.baseFee * block.blockSize % 2 ^ 64 ∧
      (∃ numNodes, input.vidCommitment =
        ApiTypes.vidCommitment (ApiTypes.encode data.blockPayload) numNodes) ∧
      ApiTypes.signFee config.builderKeys.privateKey block.offeredFee data.metadata
        input.vidCommitment = .ok input.feeSignature := by
  have hoffered := genuine_of_run hrun hoffer hblocks
  have hclaimed := genuine_of_run hrun hclaim hdata
  have hanswered := genuine_of_run hrun hheader hinput
  generalize offer.request = offered at hoffered
  generalize claim.request = claimed at hclaimed hid
  rw [hrequest] at hanswered
  cases hoffered with
  | availableBlocks _ _ _ _ hgenuine =>
    obtain ⟨info, hpriced, hresponse⟩ := hgenuine block hblock
    obtain ⟨hhash, hsize, hfee⟩ := BlockInfo.signedResponse_eq_ok hresponse
    cases hclaimed with
    | claimBlock _ id _ hid' hdataHash =>
      rw [hid, Option.some.injEq] at hid'
      rw [← hid'] at hdataHash
      cases hanswered with
      | claimBlockHeaderInput _ _ _ _ info' hpriced' hhash' hvid _ hfee' =>
        obtain ⟨hpayload, -⟩ := hinjective _ _ _ _ (hhash.symm.trans hdataHash.symm)
        obtain ⟨hpayload', hmetadata'⟩ := hinjective _ _ _ _ (hhash'.trans hdataHash.symm)
        have hsize' : info'.blockSize = info.blockSize := by
          rw [hpriced'.blockSize, hpriced.blockSize, hpayload', hpayload]
        refine ⟨?_, ?_, ⟨info'.vidData.numNodes, ?_⟩, ?_⟩
        . rw [hsize, hpriced.blockSize, hpayload]
        . rw [hfee, hpriced.offeredFee, hsize]
        . rw [hvid, VidData.resolve, hpriced'.encodedTxns, hpayload']
        . rw [hfee, hpriced.offeredFee, ← hsize', ← hpriced'.offeredFee, ← hmetadata']
          exact hfee'

end

/--
The bootstrap state is asked for a block, and the block is claimed with its header input.
-/
def testAnswers : List (Action TestTypes) := testBuild ++ [
  .answerAvailableBlocks 0,
  .receive (.claimBlock ([5] : List Nat) 0 ⟨(1 : Nat), ((1 : Nat), [5])⟩),
  .answerClaimBlock 1,
  .receive (.claimBlockHeaderInput ([5] : List Nat) 0 ⟨(1 : Nat), ((1 : Nat), [5])⟩),
  .lookUpHeaderInput 2,
  .answerHeaderInput 2 true 5]

def testAnswered : Service TestTypes := (run step (new testConfig 0) testAnswers).get rfl

theorem run_testAnswers : run step (new testConfig 0) testAnswers = some testAnswered := rfl

theorem answers_genuine_testAnswers : ∃ call ∈ testAnswered.calls, ∃ response,
    call.progress = .done (.ok response) ∧ call.request.isAuthenticated = true ∧
      Genuine testConfig call.request response := by
  have hcall : ∃ call, testAnswered.calls[1]? = some call ∧
      ∃ response, call.progress = .done (.ok response) := ⟨_, rfl, _, rfl⟩
  obtain ⟨call, hcall, response, hdone⟩ := hcall
  have hmem := List.mem_of_getElem? hcall
  exact ⟨call, hmem, response, hdone, answers_genuine run_testAnswers hmem hdone⟩

theorem answers_agree_testAnswers : ∃ (block : AvailableBlockInfo TestTypes)
    (data : AvailableBlockData TestTypes) (input : AvailableBlockHeaderInput TestTypes),
    data.blockPayload = ([5] : List Nat) ∧
      block.blockSize = ApiTypes.len (T := TestTypes) (ApiTypes.encode data.blockPayload) ∧
      ApiTypes.signFee (T := TestTypes) (7 : Nat) block.offeredFee data.metadata
        input.vidCommitment = .ok input.feeSignature := by
  have hinjective : ∀ payload metadata payload' metadata',
      TestTypes.payloadBuilderCommitment payload metadata =
        TestTypes.payloadBuilderCommitment payload' metadata' →
          payload = payload' ∧ metadata = metadata' := fun _ _ _ _ h => ⟨h, rfl⟩
  have hoffer : ∃ call, testAnswered.calls[0]? = some call ∧
      ∃ block, call.progress = .done (.ok (.availableBlocks [block])) ∧
        block.blockHash = ([5] : List Nat) := ⟨_, rfl, _, rfl, rfl⟩
  have hclaim : ∃ call, testAnswered.calls[1]? = some call ∧
      call.request.claimedId = some ⟨([5] : List Nat), 0⟩ ∧
      ∃ data, call.progress = .done (.ok (.claimBlock data)) ∧
        data.blockPayload = ([5] : List Nat) := ⟨_, rfl, rfl, _, rfl, rfl⟩
  have hheader : ∃ call, testAnswered.calls[2]? = some call ∧
      (∃ authentication, call.request =
        .claimBlockHeaderInput ([5] : List Nat) 0 authentication) ∧
      ∃ input, call.progress = .done (.ok (.claimBlockHeaderInput input)) :=
    ⟨_, rfl, ⟨_, rfl⟩, _, rfl⟩
  obtain ⟨offer, hoffer, block, hblocks, hhash⟩ := hoffer
  obtain ⟨claim, hclaim, hid, data, hdata, hpayload⟩ := hclaim
  obtain ⟨header, hheader, ⟨authentication, hrequest⟩, input, hinput⟩ := hheader
  rw [← hhash] at hid hrequest
  obtain ⟨hsize, -, -, hfee⟩ := answers_agree hinjective run_testAnswers
    (List.mem_of_getElem? hoffer) (List.mem_of_getElem? hclaim) (List.mem_of_getElem? hheader)
    hblocks (.head _) hid hdata hrequest hinput
  exact ⟨block, data, input, hpayload, hsize, hfee⟩

end Service

end BuilderCore
