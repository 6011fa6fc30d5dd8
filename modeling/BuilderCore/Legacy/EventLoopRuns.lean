import BuilderCore.Collections.Slots
import BuilderCore.Legacy.EventLoop

/-!
This module contains what every run of the event loop of the legacy builder keeps: when it ends, where
the transactions in its channel come from, how the submissions are answered, and what the builder
states are sent.
-/

namespace BuilderCore

namespace Legacy

open Collections Transition

variable {T : NodeType} {Sender : Type}

namespace LoopPhase

def txns (self : LoopPhase T) : List T.Transaction :=
  match self with
  | .handling batch => batch.txns
  | .waiting | .ended _ => []

def accepted (self : LoopPhase T) : List (ReceivedTransaction T) :=
  match self with
  | .handling batch => batch.accepted
  | .waiting | .ended _ => []

end LoopPhase

namespace EventService

variable [ApiTypes T]

namespace Action

def decideForwarded (action : Action T Sender) : List Nat :=
  match action with
  | .next (some event) sends => EventService.decideForwarded event sends
  | _ => []

end Action

/--
Why the loop has ended.
-/
structure Ends (actions : List (Action T Sender)) (service : EventService T Sender) : Prop where
  failed : ∀ error, service.loop ≠ .ended (.failed error)
  streamEnded : service.loop = .ended .streamEnded ↔ ∃ sends, .next none sends ∈ actions
  panicked : service.loop = .ended .panicked ↔ ∃ sends, .next (some (.decide [])) sends ∈ actions

variable [ProposalTypes T]

namespace Action

def daForwarded (action : Action T Sender) : List (DaProposalMessage T) :=
  match action with
  | .next (some event) sends => EventService.daForwarded event sends
  | _ => []

def quorumForwarded (action : Action T Sender) : List (QuorumProposalMessage T) :=
  match action with
  | .next (some event) sends => EventService.quorumForwarded event sends
  | _ => []

end Action

section

variable {texts : Texts T} {self self' : EventService T Sender} {action : Action T Sender}

theorem ends_step {actions : List (Action T Sender)} (h : Ends actions self)
    (hchange : Change texts self action self') : Ends (actions ++ [action]) self' := by
  obtain ⟨hfailed, hstreamEnded, hpanicked⟩ := h
  cases hchange with
  | streamEnd sends hwaiting =>
    rw [hwaiting] at hstreamEnded hpanicked
    refine ⟨by simp, by simp, ?_⟩
    simpa using hpanicked
  | next event sends hwaiting =>
    rw [handleEvent_eq hwaiting]
    rw [hwaiting] at hstreamEnded hpanicked
    refine ⟨?_, ?_, ?_⟩
    . intro error
      dsimp only
      unfold phaseAfter
      split <;> simp
    . have hnot : phaseAfter event ≠ .ended .streamEnded := by
        unfold phaseAfter
        split <;> simp
      simpa [hnot] using hstreamEnded
    . have hiff : phaseAfter event = .ended .panicked ↔ event = .decide [] := by
        unfold phaseAfter
        split <;> simp_all
      simp only [reduceCtorEq, false_iff] at hpanicked
      simp only [hiff, List.mem_append, List.mem_singleton, Action.next.injEq, exists_or, hpanicked,
        false_or]
      simp [eq_comm]
  | handle maybeEvicted batch batch' taken hloop hextends =>
    rw [hloop] at hstreamEnded hpanicked
    refine ⟨by simp, ?_, ?_⟩
    . simpa using hstreamEnded
    . simpa using hpanicked
  | finish maybeEvicted batch globalState hloop hnever =>
    rw [hloop] at hstreamEnded hpanicked
    refine ⟨by simp, ?_, ?_⟩
    . simpa using hstreamEnded
    . simpa using hpanicked
  | _ => exact ⟨hfailed, by simpa using hstreamEnded, by simpa using hpanicked⟩

variable {config : Config T Sender} {actions : List (Action T Sender)}

/--
Whatever the submissions do in the meantime: the loop never fails, and it goes on until the stream ends
or a decide comes without a leaf.
-/
theorem loop_ends_iff (hrun : run (step texts) (new config) actions = some self) :
    (∀ error, self.loop ≠ .ended (.failed error)) ∧
      (self.loop = .ended .streamEnded ↔ ∃ sends, .next none sends ∈ actions) ∧
      (self.loop = .ended .panicked ↔ ∃ sends, .next (some (.decide [])) sends ∈ actions) := by
  have hnew : Ends [] (new config) := ⟨by simp [new], by simp [new], by simp [new]⟩
  obtain ⟨-, hends⟩ := invariant_of_run (P := Ends) hnew
    (fun _ _ _ _ _ hends hchange => ends_step hends hchange) hrun
  exact ⟨hends.failed, hends.streamEnded, hends.panicked⟩

/--
The builder states are sent the proposals with the signature of their sender and the latest decided
views, in the order of the stream and each once, and nothing else.
-/
theorem forwards (hrun : run (step texts) (new config) actions = some self) :
    self.daSent = actions.flatMap Action.daForwarded ∧
      self.quorumSent = actions.flatMap Action.quorumForwarded ∧
      self.decideSent = actions.flatMap Action.decideForwarded := by
  have hboth := invariant_of_run (P := fun actions self =>
    self.daSent = actions.flatMap Action.daForwarded ∧
      self.quorumSent = actions.flatMap Action.quorumForwarded ∧
      self.decideSent = actions.flatMap Action.decideForwarded) ⟨rfl, rfl, rfl⟩ ?_ hrun
  . exact hboth.2
  . rintro actions self action self' - ⟨hda, hquorum, hdecide⟩ hchange
    simp only [List.flatMap_append, List.flatMap_singleton, ← hda, ← hquorum, ← hdecide]
    cases hchange with
    | next event sends hwaiting =>
      rw [handleEvent_eq hwaiting]
      exact ⟨rfl, rfl, rfl⟩
    | _ => simp [Action.daForwarded, Action.quorumForwarded, Action.decideForwarded]

end

/--
The first submission and the announced batch take turns. The channel has no room for the last transaction
of the second submission. The second proposal is not signed by its sender.
-/
def testActions : List (Action TestTypes Nat) := [
  .submitTxns [(1 : Nat), (2 : Nat)],
  .next (some (.transactions [(3 : Nat)])) true,
  .resume 0 (.ok none), .handle (.ok none), .resume 0 (.ok none), .handle (.ok none),
  .txnStatus (TestTypes.txn 1).commit,
  .resume 0 (.ok none), .handle (.ok none), .resume 0 (.ok none), .resume 0 (.ok none),
  .handle (.ok none),
  .submitTxns [(4 : Nat), (5 : Nat)],
  .resume 1 (.ok none), .resume 1 (.ok none), .resume 1 (.error (.full (TestTypes.txn 5))),
  .resume 1 (.ok none), .resume 1 (.ok none),
  .next (some (.daProposal ⟨TestTypes.daProposal 1 [3], ((7 : Nat), [(3 : UInt8)])⟩ (7 : Nat))) true,
  .next (some (.daProposal ⟨TestTypes.daProposal 2 [4], ((7 : Nat), [(3 : UInt8)])⟩ (7 : Nat))) true,
  .next (some (.decide [TestTypes.leaf 1])) true,
  .next none true]

theorem loop_ends_iff_testActions : ∃ self,
    run (step GlobalState.testTexts) (new GlobalState.testConfig) testActions = some self ∧
      (∀ error, self.loop ≠ .ended (.failed error)) ∧ self.loop = .ended .streamEnded := by
  have hsome : (run (step GlobalState.testTexts) (new GlobalState.testConfig) testActions).isSome =
      true := rfl
  obtain ⟨self, hrun⟩ := Option.isSome_iff_exists.mp hsome
  obtain ⟨hfailed, hstreamEnded, -⟩ := loop_ends_iff hrun
  exact ⟨self, hrun, hfailed, hstreamEnded.mpr ⟨true, by simp [testActions]⟩⟩

theorem forwards_testActions : ∃ self,
    run (step GlobalState.testTexts) (new GlobalState.testConfig) testActions = some self ∧
      self.daSent.map (·.proposal.data.viewNumber) = [1] ∧ self.decideSent = [1] := by
  have hsome : (run (step GlobalState.testTexts) (new GlobalState.testConfig) testActions).isSome =
      true := rfl
  obtain ⟨self, hrun⟩ := Option.isSome_iff_exists.mp hsome
  obtain ⟨hda, -, hdecide⟩ := forwards hrun
  refine ⟨self, hrun, ?_, ?_⟩
  . rw [hda]
    rfl
  . rw [hdecide]
    rfl

end EventService

end Legacy

end BuilderCore
