import BuilderCore.Legacy.Service
import BuilderCore.LegacyRefactored.Service

/-!
This module contains what a request with an invalid signature changes in the two builders.
-/

namespace BuilderCore

variable {T : NodeType} [ApiTypes T]

namespace GlobalState

theorem receive_of_not_isAuthenticated (self : GlobalState T) {request : Request T}
    (h : request.isAuthenticated = false) :
    self.receive request =
      ({ self with numNodes := request.numNodes.getD self.numNodes },
        .failed .signatureValidation) := by
  rw [receive_eq, h, if_neg Bool.false_ne_true]

theorem receive_unchanged_iff (self : GlobalState T) {request : Request T}
    (h : request.isAuthenticated = false) :
    (∃ error, (self.receive request).2 = .done (.error error)) ∧
        (self.receive request).1 = self ↔
      ∀ numNodes ∈ request.numNodes, numNodes = self.numNodes := by
  rw [self.receive_of_not_isAuthenticated h]
  constructor
  . rintro ⟨-, hself⟩ numNodes hnumNodes
    have hself := congrArg GlobalState.numNodes hself
    rwa [Option.mem_def.mp hnumNodes] at hself
  . intro hsame
    refine ⟨⟨_, rfl⟩, ?_⟩
    cases hnumNodes : request.numNodes with
    | none => rfl
    | some numNodes =>
      rw [hsame numNodes hnumNodes]
      rfl

end GlobalState

namespace Legacy.ProxyGlobalState

theorem receive_of_not_isAuthenticated (self : ProxyGlobalState T) {request : Request T}
    (h : request.isAuthenticated = false) :
    self.receive request =
      ({ self with globalState := { self.globalState with
        numNodes := request.numNodes.getD self.globalState.numNodes } },
        signatureError request) := by
  rw [receive_eq, h, if_neg Bool.false_ne_true]

theorem receive_unchanged_iff (self : ProxyGlobalState T) {request : Request T}
    (h : request.isAuthenticated = false) :
    (∃ error, (self.receive request).2 = .done (.error error)) ∧
        (self.receive request).1 = self ↔
      ∀ numNodes ∈ request.numNodes, numNodes = self.globalState.numNodes := by
  rw [self.receive_of_not_isAuthenticated h]
  constructor
  . rintro ⟨-, hself⟩ numNodes hnumNodes
    have hself := congrArg (·.globalState.numNodes) hself
    rwa [Option.mem_def.mp hnumNodes] at hself
  . intro hsame
    refine ⟨exists_error_signatureError request, ?_⟩
    cases hnumNodes : request.numNodes with
    | none => rfl
    | some numNodes =>
      rw [hsame numNodes hnumNodes]
      rfl

end Legacy.ProxyGlobalState

/--
The node count of a claim is stored before the signature is looked at.
-/
theorem unauthenticated_changes_nothing_iff {request : Request T}
    (h : request.isAuthenticated = false) :
    (∀ self : GlobalState T,
      ((∃ error, (self.receive request).2 = .done (.error error)) ∧
          (self.receive request).1 = self ↔
        ∀ numNodes ∈ request.numNodes, numNodes = self.numNodes)) ∧
    ∀ self : Legacy.ProxyGlobalState T,
      ((∃ error, (self.receive request).2 = .done (.error error)) ∧
          (self.receive request).1 = self ↔
        ∀ numNodes ∈ request.numNodes, numNodes = self.globalState.numNodes) :=
  ⟨fun self => self.receive_unchanged_iff h, fun self => self.receive_unchanged_iff h⟩

def forgedClaim : Request TestTypes :=
  .claimBlockWithNumNodes ([5] : List Nat) 0 ⟨(1 : Nat), ((1 : Nat), [])⟩ 9

def legacyStart : Legacy.ProxyGlobalState TestTypes :=
  ⟨.new Legacy.GlobalState.testConfig, ⟨(7 : Nat), (7 : Nat)⟩⟩

theorem unauthenticated_changes_nothing_iff_forgedClaim :
    ((∃ error, (legacyStart.receive forgedClaim).2 = .done (.error error)) ∧
        (legacyStart.receive forgedClaim).1 = legacyStart ↔
      ∀ numNodes ∈ forgedClaim.numNodes, numNodes = legacyStart.globalState.numNodes) := by
  have hforged : forgedClaim.isAuthenticated = false := by decide
  exact (unauthenticated_changes_nothing_iff hforged).2 legacyStart

theorem unauthenticated_changes_forgedClaim :
    forgedClaim.isAuthenticated = false ∧
      (Service.testBuilt.globalState.receive forgedClaim).1 ≠ Service.testBuilt.globalState ∧
      (legacyStart.receive forgedClaim).1 ≠ legacyStart := by
  refine ⟨by decide, ?_, ?_⟩
  . intro hself
    have hnumNodes := congrArg GlobalState.numNodes hself
    contradiction
  . intro hself
    have hnumNodes := congrArg (·.globalState.numNodes) hself
    contradiction

end BuilderCore
