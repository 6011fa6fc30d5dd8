import BuilderCore.Legacy.ReceivedBatch
import BuilderCore.Transition

/-!
This module contains the event loop of the legacy builder, which hands the events of HotShot on to the
builder states, next to the submissions of the private mempool.
-/

namespace BuilderCore

/--
What proposals are signed over. The first one is `Sha256::digest`.
-/
class ProposalTypes (T : NodeType) where
  digest : T.EncodedTransactions → List UInt8
  leafCommitAsRef : T.LeafCommitment → List UInt8

instance : ProposalTypes TestTypes where
  digest (txns : List Nat) := txns.map Nat.toUInt8
  leafCommitAsRef (commitment : List Nat) := commitment.map Nat.toUInt8

namespace Legacy

open Transition

section

variable (T : NodeType) [ApiTypes T]

structure Proposal (α : Type) where
  data : α
  signature : ApiTypes.Signature T

structure DaProposalMessage where
  proposal : Proposal T (DaProposal2 T)
  sender : ApiTypes.SignatureKey T

structure QuorumProposalMessage where
  proposal : Proposal T T.QuorumProposalWrapper
  sender : ApiTypes.SignatureKey T

inductive Event where
  | error
  | transactions (transactions : List T.Transaction)
  | decide (leafChain : List (LeafInfo T))
  | daProposal (proposal : Proposal T (DaProposal2 T)) (sender : ApiTypes.SignatureKey T)
  | quorumProposal (proposal : Proposal T T.QuorumProposalWrapper)
      (sender : ApiTypes.SignatureKey T)
  | other

end

variable (T : NodeType)

inductive HandleEventError where
  | signatureValidationFailed
  | broadcastFailed

/--
Why the loop ended: the stream did, `set_txn_status` failed, or `leaf_chain[0]` panicked.
-/
inductive LoopEnd where
  | streamEnded
  | failed (error : BuildError)
  | panicked

inductive LoopPhase where
  | waiting
  | handling (batch : ReceivedBatch T)
  | ended (reason : LoopEnd)

/--
A call of `submit_txns`, with the answer that it returned.
-/
structure Submission where
  batch : ReceivedBatch T
  result : Option (Except BuildError (List T.TxnCommitment))

/--
The channels hold what was ever sent into them.
-/
structure EventService [ApiTypes T] (Sender : Type) where
  globalState : GlobalState T Sender
  txSent : List (ReceivedTransaction T)
  daSent : List (DaProposalMessage T)
  quorumSent : List (QuorumProposalMessage T)
  decideSent : List Nat
  loop : LoopPhase T
  submissions : List (Submission T)

variable {T} {Sender : Type}

namespace EventService

variable [ApiTypes T]

def new (config : Config T Sender) : EventService T Sender where
  globalState := .new config
  txSent := []
  daSent := []
  quorumSent := []
  decideSent := []
  loop := .waiting
  submissions := []

def handleDecideEvent (self : EventService T Sender) (latestDecideViewNumber : Nat) (sends : Bool) :
    EventService T Sender :=
  if sends then
    { self with decideSent := self.decideSent ++ [latestDecideViewNumber] }
  else
    self

variable (T Sender) in
/--
`other` is anything else that is done to the global state: it leaves the statuses alone.
-/
inductive Action where
  | next (event : Option (Event T)) (sends : Bool)
  | handle (maybeEvicted : Except (TrySendError T) (Option (ReceivedTransaction T)))
  | submitTxns (txns : List T.Transaction)
  | resume (submission : Nat)
      (maybeEvicted : Except (TrySendError T) (Option (ReceivedTransaction T)))
  | txnStatus (txnHash : T.TxnCommitment)
  | other (f : GlobalState T Sender → GlobalState T Sender)

/--
What the loop does after an event.
-/
def phaseAfter (event : Event T) : LoopPhase T :=
  match event with
  | .transactions transactions => .handling ⟨transactions, .publicMempool, .reading⟩
  | .decide [] => .ended .panicked
  | _ => .waiting

/--
The batches of the loop are from the public mempool, those of the submissions from the private one.
-/
structure Sound (texts : Texts T) (service : EventService T Sender) : Prop where
  never : NeverSequenced service.globalState
  handling : ∀ batch, service.loop = .handling batch →
    batch.Sound texts (fun _ => True) ∧ batch.source = .publicMempool
  running : ∀ submission ∈ service.submissions,
    submission.batch.Sound texts (fun _ => True) ∧ submission.batch.source = .privateMempool
  done : ∀ submission ∈ service.submissions, ∀ result, submission.result = some result →
    ∃ response, submission.batch.phase = .setting response ∧ result = response.mapM id

theorem sound_new (texts : Texts T) (config : Config T Sender) : Sound texts (new config) where
  never := neverSequenced_new config
  handling := by
    intro batch hloop
    contradiction
  running := by simp [new]
  done := by simp [new]

def decideForwarded (event : Event T) (sends : Bool) : List Nat :=
  match event with
  | .decide (latest :: _) => if sends then [latest.viewNumber] else []
  | _ => []

variable [ProposalTypes T]

/--
`sends` is whether the channel takes the message.
-/
def handleDaEvent (self : EventService T Sender) (daProposal : Proposal T (DaProposal2 T))
    (sender : ApiTypes.SignatureKey T) (sends : Bool) :
    EventService T Sender × Except HandleEventError Unit :=
  let encodedTxnsHash := ProposalTypes.digest daProposal.data.encodedTransactions
  if ¬ ApiTypes.validate sender daProposal.signature encodedTxnsHash then
    (self, .error .signatureValidationFailed)
  else if sends then
    ({ self with daSent := self.daSent ++ [⟨daProposal, sender⟩] }, .ok ())
  else
    (self, .error .broadcastFailed)

def handleQuorumEvent (self : EventService T Sender)
    (quorumProposal : Proposal T T.QuorumProposalWrapper) (sender : ApiTypes.SignatureKey T)
    (sends : Bool) : EventService T Sender × Except HandleEventError Unit :=
  let leafCommit := ProposalTypes.leafCommitAsRef (T.leafCommit quorumProposal.data)
  if ¬ ApiTypes.validate sender quorumProposal.signature leafCommit then
    (self, .error .signatureValidationFailed)
  else if sends then
    ({ self with quorumSent := self.quorumSent ++ [⟨quorumProposal, sender⟩] }, .ok ())
  else
    (self, .error .broadcastFailed)

def handleEvent (self : EventService T Sender) (event : Event T) (sends : Bool) :
    EventService T Sender :=
  match event with
  | .error | .other => self
  | .transactions transactions =>
    { self with loop := .handling ⟨transactions, .publicMempool, .reading⟩ }
  | .decide [] => { self with loop := .ended .panicked }
  | .decide (latest :: _) => self.handleDecideEvent latest.viewNumber sends
  | .daProposal proposal sender => (self.handleDaEvent proposal sender sends).1
  | .quorumProposal proposal sender => (self.handleQuorumEvent proposal sender sends).1

/--
The locks only rule out some of the orders of the steps.
-/
def step (texts : Texts T) (self : EventService T Sender) (action : Action T Sender) :
    Option (EventService T Sender) :=
  match action with
  | .next event sends =>
    match self.loop, event with
    | .waiting, none => some { self with loop := .ended .streamEnded }
    | .waiting, some event => some (self.handleEvent event sends)
    | _, _ => none
  | .handle maybeEvicted =>
    match self.loop with
    | .handling batch =>
      match batch.step texts maybeEvicted self.globalState self.txSent with
      | ((globalState, txSent), .inl batch) =>
        some { self with globalState, txSent, loop := .handling batch }
      | ((globalState, txSent), .inr (.ok _)) =>
        some { self with globalState, txSent, loop := .waiting }
      | ((globalState, txSent), .inr (.error error)) =>
        some { self with globalState, txSent, loop := .ended (.failed error) }
    | _ => none
  | .submitTxns txns =>
    let submission := ⟨⟨txns, .privateMempool, .reading⟩, none⟩
    some { self with submissions := self.submissions ++ [submission] }
  | .resume i maybeEvicted =>
    match self.submissions[i]? with
    | some ⟨batch, none⟩ =>
      match batch.step texts maybeEvicted self.globalState self.txSent with
      | ((globalState, txSent), .inl batch) =>
        some { self with
          globalState, txSent, submissions := self.submissions.set i ⟨batch, none⟩ }
      | ((globalState, txSent), .inr result) =>
        let result := result.bind fun response => response.mapM id
        some { self with
          globalState, txSent, submissions := self.submissions.set i ⟨batch, some result⟩ }
    | _ => none
  | .txnStatus txnHash => some { self with globalState := (self.globalState.txnStatus txnHash).1 }
  | .other f =>
    let txStatus := self.globalState.txStatus
    some { self with globalState := { f self.globalState with txStatus } }

/--
What an event has the loop send to the builder states. A proposal is only sent with the signature of
its sender.
-/
def daForwarded (event : Event T) (sends : Bool) : List (DaProposalMessage T) :=
  match event with
  | .daProposal proposal sender =>
    let encodedTxnsHash := ProposalTypes.digest proposal.data.encodedTransactions
    if ApiTypes.validate sender proposal.signature encodedTxnsHash && sends then
      [⟨proposal, sender⟩]
    else
      []
  | _ => []

def quorumForwarded (event : Event T) (sends : Bool) : List (QuorumProposalMessage T) :=
  match event with
  | .quorumProposal proposal sender =>
    let leafCommit := ProposalTypes.leafCommitAsRef (T.leafCommit proposal.data)
    if ApiTypes.validate sender proposal.signature leafCommit && sends then
      [⟨proposal, sender⟩]
    else
      []
  | _ => []

inductive Change (texts : Texts T) (self : EventService T Sender) :
    Action T Sender → EventService T Sender → Prop where
  | streamEnd (sends : Bool) (hwaiting : self.loop = .waiting) :
    Change texts self (.next none sends) { self with loop := .ended .streamEnded }
  | next (event : Event T) (sends : Bool) (hwaiting : self.loop = .waiting) :
    Change texts self (.next (some event) sends) (self.handleEvent event sends)
  | handle (maybeEvicted : Except (TrySendError T) (Option (ReceivedTransaction T)))
      (batch batch' : ReceivedBatch T) (taken : List (ReceivedTransaction T))
      (hloop : self.loop = .handling batch) (hextends : batch.Extends texts maybeEvicted batch' taken) :
    Change texts self (.handle maybeEvicted)
      { self with txSent := self.txSent ++ taken, loop := .handling batch' }
  | finish (maybeEvicted : Except (TrySendError T) (Option (ReceivedTransaction T)))
      (batch : ReceivedBatch T) (globalState : GlobalState T Sender)
      (hloop : self.loop = .handling batch) (hnever : NeverSequenced globalState) :
    Change texts self (.handle maybeEvicted) { self with globalState, loop := .waiting }
  | submitTxns (txns : List T.Transaction) :
    Change texts self (.submitTxns txns) { self with
      submissions := self.submissions ++ [⟨⟨txns, .privateMempool, .reading⟩, none⟩] }
  | resume (i : Nat) (maybeEvicted : Except (TrySendError T) (Option (ReceivedTransaction T)))
      (batch batch' : ReceivedBatch T) (taken : List (ReceivedTransaction T))
      (hi : self.submissions[i]? = some ⟨batch, none⟩)
      (hextends : batch.Extends texts maybeEvicted batch' taken) :
    Change texts self (.resume i maybeEvicted) { self with
      txSent := self.txSent ++ taken, submissions := self.submissions.set i ⟨batch', none⟩ }
  | answer (i : Nat) (maybeEvicted : Except (TrySendError T) (Option (ReceivedTransaction T)))
      (batch : ReceivedBatch T) (globalState : GlobalState T Sender)
      (response : List (Except BuildError T.TxnCommitment))
      (hi : self.submissions[i]? = some ⟨batch, none⟩) (hphase : batch.phase = .setting response)
      (hnever : NeverSequenced globalState) :
    Change texts self (.resume i maybeEvicted) { self with
      globalState, submissions := self.submissions.set i ⟨batch, some (response.mapM id)⟩ }
  | txnStatus (txnHash : T.TxnCommitment) (globalState : GlobalState T Sender)
      (hnever : NeverSequenced globalState) :
    Change texts self (.txnStatus txnHash) { self with globalState }
  | other (f : GlobalState T Sender → GlobalState T Sender) (globalState : GlobalState T Sender)
      (hnever : NeverSequenced globalState) :
    Change texts self (.other f) { self with globalState }

section

variable {texts : Texts T} {self self' : EventService T Sender} {action : Action T Sender}

theorem change_of_step (h : Sound texts self) (hstep : self.step texts action = some self') :
    Change texts self action self' := by
  unfold step at hstep
  split at hstep
  . next event sends =>
    split at hstep
    . next hwaiting =>
      rw [← Option.some.inj hstep]
      exact .streamEnd sends hwaiting
    . next event hwaiting =>
      rw [← Option.some.inj hstep]
      exact .next event sends hwaiting
    . contradiction
  . next maybeEvicted =>
    split at hstep
    . next batch hloop =>
      split at hstep
      . next globalState txSent batch' hbatch =>
        obtain ⟨rfl, taken, rfl, hextends⟩ :=
          ReceivedBatch.extends_of_step (h.handling batch hloop).1 hbatch
        rw [← Option.some.inj hstep]
        exact .handle maybeEvicted batch batch' taken hloop hextends
      . next globalState txSent response hbatch =>
        obtain ⟨hnever, rfl, -⟩ := ReceivedBatch.answered_of_step h.never hbatch
        rw [← Option.some.inj hstep]
        exact .finish maybeEvicted batch globalState hloop hnever
      . next globalState txSent error hbatch =>
        obtain ⟨-, -, response, -, hresult⟩ := ReceivedBatch.answered_of_step h.never hbatch
        contradiction
    . contradiction
  . next txns =>
    rw [← Option.some.inj hstep]
    exact .submitTxns txns
  . next i maybeEvicted =>
    split at hstep
    . next batch hi =>
      split at hstep
      . next globalState txSent batch' hbatch =>
        obtain ⟨rfl, taken, rfl, hextends⟩ :=
          ReceivedBatch.extends_of_step (h.running _ (List.mem_of_getElem? hi)).1 hbatch
        rw [← Option.some.inj hstep]
        exact .resume i maybeEvicted batch batch' taken hi hextends
      . next globalState txSent result hbatch =>
        obtain ⟨hnever, rfl, response, hphase, rfl⟩ :=
          ReceivedBatch.answered_of_step h.never hbatch
        rw [← Option.some.inj hstep]
        exact .answer i maybeEvicted batch globalState response hi hphase hnever
    . contradiction
  . next txnHash =>
    rw [← Option.some.inj hstep]
    exact .txnStatus txnHash _ (neverSequenced_txnStatus h.never txnHash)
  . next f =>
    rw [← Option.some.inj hstep]
    exact .other f _ h.never

theorem handleEvent_eq (hwaiting : self.loop = .waiting) (event : Event T) (sends : Bool) :
    self.handleEvent event sends = { self with
      daSent := self.daSent ++ daForwarded event sends
      quorumSent := self.quorumSent ++ quorumForwarded event sends
      decideSent := self.decideSent ++ decideForwarded event sends
      loop := phaseAfter event } := by
  have hidle : self = { self with
      daSent := self.daSent ++ []
      quorumSent := self.quorumSent ++ []
      decideSent := self.decideSent ++ []
      loop := .waiting } := by
    simp only [List.append_nil, ← hwaiting]
  unfold handleEvent
  split
  . exact hidle
  . exact hidle
  . simp only [daForwarded, quorumForwarded, decideForwarded, phaseAfter, List.append_nil]
  . simp only [daForwarded, quorumForwarded, decideForwarded, phaseAfter, List.append_nil]
  . next latest rest =>
    unfold handleDecideEvent
    cases sends with
    | true => simp [daForwarded, quorumForwarded, decideForwarded, phaseAfter, ← hwaiting]
    | false => exact hidle
  . next proposal sender =>
    simp only [handleDaEvent, daForwarded, quorumForwarded, decideForwarded, phaseAfter,
      List.append_nil, ← hwaiting]
    cases ApiTypes.validate sender proposal.signature
        (ProposalTypes.digest proposal.data.encodedTransactions) <;> cases sends <;> simp
  . next proposal sender =>
    simp only [handleQuorumEvent, daForwarded, quorumForwarded, decideForwarded, phaseAfter,
      List.append_nil, ← hwaiting]
    cases ApiTypes.validate sender proposal.signature
        (ProposalTypes.leafCommitAsRef (T.leafCommit proposal.data)) <;> cases sends <;> simp

theorem sound_step (h : Sound texts self) (hstep : self.step texts action = some self') :
    Sound texts self' := by
  cases change_of_step h hstep with
  | streamEnd sends hwaiting => exact ⟨h.never, by simp, h.running, h.done⟩
  | next event sends hwaiting =>
    rw [handleEvent_eq hwaiting]
    refine ⟨h.never, ?_, h.running, h.done⟩
    intro batch hloop
    dsimp only at hloop
    unfold phaseAfter at hloop
    split at hloop
    . rw [← LoopPhase.handling.inj hloop]
      exact ⟨ReceivedBatch.sound_reading .., rfl⟩
    . contradiction
    . contradiction
  | handle maybeEvicted batch batch' taken hloop hextends =>
    refine ⟨h.never, ?_, h.running, h.done⟩
    intro batch₁ hloop₁
    obtain ⟨hbatch, hsource⟩ := h.handling batch hloop
    rw [← LoopPhase.handling.inj hloop₁]
    exact ⟨hextends.sound _ (fun _ _ => trivial) hbatch, hextends.source.trans hsource⟩
  | finish maybeEvicted batch globalState hloop hnever => exact ⟨hnever, by simp, h.running, h.done⟩
  | submitTxns txns =>
    refine ⟨h.never, h.handling, ?_, ?_⟩
    . intro submission hmem
      rcases List.mem_append.mp hmem with hold | hnew
      . exact h.running submission hold
      . rw [List.mem_singleton.mp hnew]
        exact ⟨ReceivedBatch.sound_reading .., rfl⟩
    . intro submission hmem result hresult
      rcases List.mem_append.mp hmem with hold | hnew
      . exact h.done submission hold result hresult
      . rw [List.mem_singleton.mp hnew] at hresult
        contradiction
  | resume i maybeEvicted batch batch' taken hi hextends =>
    obtain ⟨hbatch, hsource⟩ := h.running _ (List.mem_of_getElem? hi)
    refine ⟨h.never, h.handling, ?_, ?_⟩
    . intro submission hmem
      rcases List.mem_or_eq_of_mem_set hmem with hold | rfl
      . exact h.running submission hold
      . exact ⟨hextends.sound _ (fun _ _ => trivial) hbatch, hextends.source.trans hsource⟩
    . intro submission hmem result hresult
      rcases List.mem_or_eq_of_mem_set hmem with hold | rfl
      . exact h.done submission hold result hresult
      . contradiction
  | answer i maybeEvicted batch globalState response hi hphase hnever =>
    refine ⟨hnever, h.handling, ?_, ?_⟩
    . intro submission hmem
      rcases List.mem_or_eq_of_mem_set hmem with hold | rfl
      . exact h.running submission hold
      . have hbatch := h.running _ (List.mem_of_getElem? hi)
        exact hbatch
    . intro submission hmem result hresult
      rcases List.mem_or_eq_of_mem_set hmem with hold | rfl
      . exact h.done submission hold result hresult
      . exact ⟨response, hphase, (Option.some.inj hresult).symm⟩
  | txnStatus txnHash globalState hnever => exact ⟨hnever, h.handling, h.running, h.done⟩
  | other f globalState hnever => exact ⟨hnever, h.handling, h.running, h.done⟩

/--
An invariant that may speak of the actions so far.
-/
theorem invariant_of_run {P : List (Action T Sender) → EventService T Sender → Prop}
    {config : Config T Sender} {actions : List (Action T Sender)} (hnew : P [] (new config))
    (hstep : ∀ actions self action self', Sound texts self → P actions self →
      Change texts self action self' → P (actions ++ [action]) self')
    (hrun : run (step texts) (new config) actions = some self) : Sound texts self ∧ P actions self := by
  have hrecording := run_recording_eq_some.mpr ⟨hrun, (List.nil_append actions).symm⟩
  apply run_invariant (P := fun s => Sound texts s.1 ∧ P s.2 s.1) _ ⟨sound_new texts config, hnew⟩ hrecording
  rintro ⟨self, actions⟩ action ⟨self', actions'⟩ ⟨hsound, hP⟩ hrecorded
  obtain ⟨hself', rfl⟩ := recording_eq_some.mp hrecorded
  exact ⟨sound_step hsound hself', hstep _ _ _ _ hsound hP (change_of_step hsound hself')⟩

end

end EventService

end Legacy

end BuilderCore
