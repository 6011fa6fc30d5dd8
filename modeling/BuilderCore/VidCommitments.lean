import BuilderCore.Legacy.HeaderInputs
import BuilderCore.LegacyRefactored.HeaderInputs

/-!
This module contains when the VID commitment that is answered for a claimed block is the one for the
node count of the claim, in both legacy builders.
-/

namespace BuilderCore

open Transition

variable (T : NodeType) [ApiTypes T]

/--
What the services of the two builders have in common. `stored` is the payload of the block under an
id, with the node count that the block was built with.
-/
structure ApiService where
  State : Type
  Action : Type
  step : State → Action → Option State
  IsNew : State → Prop
  receive : Request T → Action
  lookUpHeaderInput : Nat → Action
  numCalls : State → Nat
  answer : State → Nat → Option (Except BuildError (Response T))
  stored : State → BlockId T → Option (T.BlockPayload × Nat)

def Progress.answer {T : NodeType} [ApiTypes T] (self : Progress T) :
    Option (Except BuildError (Response T)) :=
  match self with
  | .done result => some result
  | _ => none

def Legacy.Progress.answer {T : NodeType} [ApiTypes T] (self : Legacy.Progress T) :
    Option (Except BuildError (Response T)) :=
  match self with
  | .done result => some result
  | _ => none

abbrev apiService : ApiService T where
  State := Service T
  Action := Service.Action T
  step := Service.step
  IsNew := Service.IsNew
  receive := .receive
  lookUpHeaderInput := .lookUpHeaderInput
  numCalls service := service.calls.length
  answer service k := service.calls[k]?.bind (·.progress.answer)
  stored service id := do
    let blockInfo ← service.globalState.blockStore.getBlock id
    return (blockInfo.blockPayload, blockInfo.vidData.numNodes)

abbrev Legacy.apiService : ApiService T where
  State := Legacy.Service T
  Action := Legacy.Service.Action T
  step := Legacy.Service.step
  IsNew := Legacy.Service.IsNew
  receive := .receive
  lookUpHeaderInput := .lookUpHeaderInput
  numCalls service := service.calls.length
  answer service k := service.calls[k]?.bind (·.progress.answer)
  stored service id := do
    let blockInfo ← (service.proxy.lookUpBlock id).2
    let build ← service.builds[blockInfo.vid]?
    return (blockInfo.blockPayload, build.vidTask.numNodes)

variable {T}

/--
A claim with a node count that succeeds, and a header input of the same block that is asked for and
answered later, with no other node count in between.
-/
structure ClaimedRun (service : ApiService T) where
  blockHash : T.BuilderCommitment
  viewNumber : Nat
  numNodes : Nat
  start : service.State
  reachable : Reachable service.step service.IsNew start
  claimAuthentication : Authentication T
  untilClaimed : List service.Action
  claimed : service.State
  run_claimed : run service.step start (service.receive (.claimBlockWithNumNodes blockHash
    viewNumber claimAuthentication numNodes) :: untilClaimed) = some claimed
  block : AvailableBlockData T
  answer_claimed : service.answer claimed (service.numCalls start) = some (.ok (.claimBlock block))
  headerAuthentication : Authentication T
  untilLookUp : List service.Action
  lookUp : service.State
  run_lookUp : run service.step claimed (service.receive (.claimBlockHeaderInput blockHash
    viewNumber headerAuthentication) :: untilLookUp) = some lookUp
  untilAnswered : List service.Action
  answered : service.State
  run_answered : run service.step lookUp
    (service.lookUpHeaderInput (service.numCalls claimed) :: untilAnswered) = some answered
  input : AvailableBlockHeaderInput T
  answer_answered : service.answer answered (service.numCalls claimed) =
    some (.ok (.claimBlockHeaderInput input))
  numNodes_eq_none : ∀ request,
    service.receive request ∈ untilClaimed ++ untilLookUp ++ untilAnswered → request.numNodes = none

namespace ClaimedRun

variable {service : ApiService T}

/--
The header input is for the payload of the block and the node count of the claim.
-/
def Matches (self : ClaimedRun service) : Prop :=
  ∃ payload numNodes,
    service.stored self.lookUp ⟨self.blockHash, self.viewNumber⟩ = some (payload, numNodes) ∧
      self.input.vidCommitment =
        ApiTypes.vidCommitment (ApiTypes.encode payload) self.numNodes

/--
The block that is looked up was built with the node count of the claim, or with one that gives its
payload the same VID commitment.
-/
def BuiltAlike (self : ClaimedRun service) : Prop :=
  ∃ payload numNodes,
    service.stored self.lookUp ⟨self.blockHash, self.viewNumber⟩ = some (payload, numNodes) ∧
      (ApiTypes.vidCommitment (ApiTypes.encode payload) numNodes : T.VidCommitment) =
        ApiTypes.vidCommitment (ApiTypes.encode payload) self.numNodes

theorem matches_iff {self : ClaimedRun service} (h : ∃ payload numNodes,
    service.stored self.lookUp ⟨self.blockHash, self.viewNumber⟩ = some (payload, numNodes) ∧
      self.input.vidCommitment = ApiTypes.vidCommitment (ApiTypes.encode payload) numNodes) :
    self.Matches ↔ self.BuiltAlike := by
  obtain ⟨payload, numNodes, hstored, hinput⟩ := h
  simp [Matches, BuiltAlike, hstored, hinput]

end ClaimedRun

theorem call_of_answer {calls : List (Call T)} {k : Nat} {result : Except BuildError (Response T)}
    (h : (calls[k]?.bind fun call => call.progress.answer) = some result) :
    ∃ call, calls[k]? = some call ∧ call.progress = .done result := by
  obtain ⟨call, hcall, hanswer⟩ := Option.bind_eq_some_iff.mp h
  unfold Progress.answer at hanswer
  split at hanswer
  . next hdone =>
    rw [Option.some.inj hanswer] at hdone
    exact ⟨call, hcall, hdone⟩
  . contradiction

theorem Legacy.call_of_answer {calls : List (Legacy.Call T)} {k : Nat}
    {result : Except BuildError (Response T)}
    (h : (calls[k]?.bind fun call => call.progress.answer) = some result) :
    ∃ call, calls[k]? = some call ∧ call.progress = .done result := by
  obtain ⟨call, hcall, hanswer⟩ := Option.bind_eq_some_iff.mp h
  unfold Legacy.Progress.answer at hanswer
  split at hanswer
  . next hdone =>
    rw [Option.some.inj hanswer] at hdone
    exact ⟨call, hcall, hdone⟩
  . contradiction

theorem vidCommitment_of_claimedRun (self : ClaimedRun (apiService T)) :
    ∃ payload numNodes, (apiService T).stored self.lookUp ⟨self.blockHash, self.viewNumber⟩ =
        some (payload, numNodes) ∧
      self.input.vidCommitment = ApiTypes.vidCommitment (ApiTypes.encode payload) numNodes := by
  obtain ⟨call, hcall, hprogress⟩ := Service.isHeaderInput_of_run self.run_lookUp
  obtain ⟨call', hcall', hinput⟩ := call_of_answer self.answer_answered
  obtain ⟨blockInfo, hget, hcommitment⟩ :=
    Service.vidCommitment_of_run hcall hprogress self.run_answered hcall' hinput
  have hreachable := reachable_run (reachable_run self.reachable self.run_claimed) self.run_lookUp
  have hencoded := (Service.encoded hreachable).stored hget
  refine ⟨blockInfo.blockPayload, blockInfo.vidData.numNodes, ?_, ?_⟩
  . show (self.lookUp.globalState.blockStore.getBlock _).bind _ = _
    rw [hget]
    rfl
  . rw [hcommitment, VidData.resolve, hencoded]

theorem Legacy.vidCommitment_of_claimedRun (self : ClaimedRun (Legacy.apiService T)) :
    ∃ payload numNodes, (Legacy.apiService T).stored self.lookUp
        ⟨self.blockHash, self.viewNumber⟩ = some (payload, numNodes) ∧
      self.input.vidCommitment = ApiTypes.vidCommitment (ApiTypes.encode payload) numNodes := by
  obtain ⟨call, hcall, hprogress⟩ := Legacy.Service.isHeaderInput_of_run self.run_lookUp
  obtain ⟨call', hcall', hinput⟩ := Legacy.call_of_answer self.answer_answered
  have hreachable := reachable_run (reachable_run self.reachable self.run_claimed) self.run_lookUp
  have hnumbered := Legacy.Service.numbered hreachable
  obtain ⟨blockInfo, numNodes, hget, hvidInput, hcommitment⟩ :=
    Legacy.Service.vidCommitment_of_run hcall hprogress hnumbered self.run_answered hcall' hinput
  refine ⟨blockInfo.blockPayload, numNodes, ?_, hcommitment⟩
  obtain ⟨build, hbuild, hinputs⟩ := Option.map_eq_some_iff.mp hvidInput
  show ((self.lookUp.proxy.lookUpBlock _).2.bind fun blockInfo =>
    self.lookUp.builds[blockInfo.vid]?.bind fun build =>
      some (blockInfo.blockPayload, build.vidTask.numNodes)) = _
  rw [hget, Option.bind_some, hbuild, Option.bind_some, (Prod.mk.inj hinputs).2]

/--
The node count of a claim is only used for what is built after it.
-/
theorem header_input_matches_iff :
    (∀ self : ClaimedRun (apiService T), self.Matches ↔ self.BuiltAlike) ∧
      ∀ self : ClaimedRun (Legacy.apiService T), self.Matches ↔ self.BuiltAlike :=
  ⟨fun self => ClaimedRun.matches_iff (vidCommitment_of_claimedRun self),
    fun self => ClaimedRun.matches_iff (Legacy.vidCommitment_of_claimedRun self)⟩

namespace TestTypes

def builderCommitment : TestTypes.BuilderCommitment := ([5] : List Nat)

def authentication : Authentication TestTypes := ⟨(1 : Nat), ((1 : Nat), [5])⟩

def claim : Request TestTypes := .claimBlockWithNumNodes builderCommitment 0 authentication 5

def askForHeaderInput : Request TestTypes :=
  .claimBlockHeaderInput builderCommitment 0 authentication

def claimedBlock : AvailableBlockData TestTypes :=
  ⟨([5] : List Nat), (), ((7 : Nat), [5]), (7 : Nat)⟩

/--
The VID commitment is the one for four nodes.
-/
def headerInput : AvailableBlockHeaderInput TestTypes :=
  ⟨(24 : Nat), ((7 : Nat), [1, 24]), ((7 : Nat), [24]), (7 : Nat)⟩

end TestTypes

open TestTypes

/--
The block of the transaction 5 is built with four nodes and claimed with five.
-/
def testClaimedRun : ClaimedRun (apiService TestTypes) where
  blockHash := builderCommitment
  viewNumber := 0
  numNodes := 5
  start := (run Service.step Service.testBuilt [.answerAvailableBlocks 0]).get rfl
  reachable := ⟨_, Service.testBuild ++ [.answerAvailableBlocks 0], ⟨_, _, rfl⟩, rfl⟩
  claimAuthentication := authentication
  untilClaimed := [.answerClaimBlock 1]
  claimed := (run Service.step Service.testBuilt
    [.answerAvailableBlocks 0, .receive claim, .answerClaimBlock 1]).get rfl
  run_claimed := rfl
  block := claimedBlock
  answer_claimed := rfl
  headerAuthentication := authentication
  untilLookUp := []
  lookUp := (run Service.step Service.testBuilt
    [.answerAvailableBlocks 0, .receive claim, .answerClaimBlock 1,
      .receive askForHeaderInput]).get rfl
  run_lookUp := rfl
  untilAnswered := [.answerHeaderInput 2 false 0]
  answered := (run Service.step Service.testBuilt
    [.answerAvailableBlocks 0, .receive claim, .answerClaimBlock 1,
      .receive askForHeaderInput, .lookUpHeaderInput 2, .answerHeaderInput 2 false 0]).get rfl
  run_answered := rfl
  input := headerInput
  answer_answered := rfl
  numNodes_eq_none := by simp

def Legacy.testClaimedRun : ClaimedRun (Legacy.apiService TestTypes) where
  blockHash := builderCommitment
  viewNumber := 0
  numNodes := 5
  start := (run Service.step Service.testStart
    [.buildBlock Service.testBuilder 1000, .updateGlobalState 0]).get rfl
  reachable := ⟨_, [.buildBlock Service.testBuilder 1000, .updateGlobalState 0],
    ⟨_, _, rfl⟩, rfl⟩
  claimAuthentication := authentication
  untilClaimed := [.lookUpBlock 0, .triggerVid 0]
  claimed := (run Service.step Service.testStart
    [.buildBlock Service.testBuilder 1000, .updateGlobalState 0, .receive claim, .lookUpBlock 0,
      .triggerVid 0]).get rfl
  run_claimed := rfl
  block := claimedBlock
  answer_claimed := rfl
  headerAuthentication := authentication
  untilLookUp := []
  lookUp := (run Service.step Service.testStart
    [.buildBlock Service.testBuilder 1000, .updateGlobalState 0, .receive claim, .lookUpBlock 0,
      .triggerVid 0, .receive askForHeaderInput]).get rfl
  run_lookUp := rfl
  untilAnswered := [.getVid 1 false 0]
  answered := (run Service.step Service.testStart
    [.buildBlock Service.testBuilder 1000, .updateGlobalState 0, .receive claim, .lookUpBlock 0,
      .triggerVid 0, .receive askForHeaderInput, .lookUpHeaderInput 1, .getVid 1 false 0]).get rfl
  run_answered := rfl
  input := headerInput
  answer_answered := rfl
  numNodes_eq_none := by simp

theorem not_header_input_matches_testClaimedRun :
    ¬ testClaimedRun.Matches ∧ ¬ Legacy.testClaimedRun.Matches := by
  constructor
  . rintro ⟨payload, numNodes, hstored, hinput⟩
    cases hstored
    contradiction
  . rintro ⟨payload, numNodes, hstored, hinput⟩
    cases hstored
    contradiction

end BuilderCore
