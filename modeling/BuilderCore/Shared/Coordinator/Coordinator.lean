import BuilderCore.Shared.Coordinator.BuilderStateMap
import BuilderCore.Shared.Coordinator.TxStatus
import BuilderCore.Shared.Forest

/-!
This module contains the coordinator. Its calls are cut at the acquisitions of its locks, and put
together again for the runs in which calls do not overlap.
-/

namespace BuilderCore

open Collections

variable {T : NodeType}

def ProposalId.of (proposal : T.QuorumProposalWrapper ⊕ DaProposal2 T) : ProposalId T :=
  match proposal with
  | .inl quorumProposal => .fromQuorumProposal quorumProposal
  | .inr daProposal => .fromDaProposal daProposal

structure ProposalMap (T : NodeType) where
  proposals : HashMap (ProposalId T) (T.QuorumProposalWrapper ⊕ DaProposal2 T)
  id_eq : ∀ {id proposal}, proposals.get? id = some proposal → ProposalId.of proposal = id

namespace ProposalMap

def new : ProposalMap T := ⟨.empty, by simp⟩

def get? (m : ProposalMap T) (id : ProposalId T) :
    Option (T.QuorumProposalWrapper ⊕ DaProposal2 T) :=
  m.proposals.get? id

def insert (m : ProposalMap T) (proposal : T.QuorumProposalWrapper ⊕ DaProposal2 T) :
    ProposalMap T where
  proposals := m.proposals.insert (.of proposal) proposal
  id_eq := by
    intro id proposal' h
    rw [HashMap.get?_insert] at h
    split at h
    . next hid =>
      rw [Option.some.injEq] at h
      rw [← h, hid]
    . exact m.id_eq h

def remove (m : ProposalMap T) (id : ProposalId T) : ProposalMap T where
  proposals := m.proposals.remove id
  id_eq := by
    intro id' proposal h
    rw [HashMap.get?_remove] at h
    split at h
    . contradiction
    . exact m.id_eq h

@[simp]
theorem get?_insert (m : ProposalMap T) (proposal : T.QuorumProposalWrapper ⊕ DaProposal2 T)
    (id : ProposalId T) :
    (m.insert proposal).get? id = if id = .of proposal then some proposal else m.get? id :=
  HashMap.get?_insert ..

@[simp]
theorem get?_remove (m : ProposalMap T) (id id' : ProposalId T) :
    (m.remove id).get? id' = if id' = id then none else m.get? id' :=
  HashMap.get?_remove ..

end ProposalMap

inductive BuilderStateLookup (T : NodeType) where
  | notFound
  | decided
  | found (state : BuilderState T)

inductive TrySendError (T : NodeType) where
  | full (transaction : ReceivedTransaction T)
  | closed (transaction : ReceivedTransaction T)
  | inactive (transaction : ReceivedTransaction T)

inductive Error (T : NodeType) where
  | txnSender (err : TrySendError T)
  | txTooBig (len maxTxLen : Nat)

/--
How far the task that holds the guard of `proposals` has come. `new_child` runs as the call 0.
-/
inductive ProposalsGuard (T : NodeType) where
  | free
  | paired (quorumProposal : T.QuorumProposalWrapper) (daProposal : DaProposal2 T)
  | extending (quorumProposal : T.QuorumProposalWrapper)
  | built (child : BuilderState T)

/--
The channel of `transaction_sender` and the builder states are in the forest.
-/
structure Coordinator (T : NodeType) where
  builderStates : BuilderStateMap T
  txStatus : TxStatusCache T
  proposals : ProposalMap T
  proposalsGuard : ProposalsGuard T
  forest : Forest T

namespace Coordinator

def new (txnGarbageCollectDuration : Nat) (now : Nat) : Coordinator T where
  builderStates := BuilderStateMap.new.insert (Node.bootstrap txnGarbageCollectDuration now).state
  txStatus := .new
  proposals := .new
  proposalsGuard := .free
  forest := .new txnGarbageCollectDuration now

def IsNew (period : Nat) (self : Coordinator T) : Prop := ∃ now, self = new period now

/--
`handle_proposal` up to the point where it has a pair or is done. `none` while the guard is taken.
-/
def lockProposals (self : Coordinator T) (proposal : T.QuorumProposalWrapper ⊕ DaProposal2 T) :
    Option (Coordinator T) :=
  match self.proposalsGuard with
  | .free =>
    let proposalId := ProposalId.of proposal
    match self.proposals.get? proposalId, proposal with
    | some (.inr daProposal), .inl quorumProposal
    | some (.inl quorumProposal), .inr daProposal =>
      some { self with
        proposals := self.proposals.remove proposalId
        proposalsGuard := .paired quorumProposal daProposal }
    -- a duplicate is ignored
    | some _, _ => some self
    | none, _ => some { self with proposals := self.proposals.insert proposal }
  | _ => none

/--
`candidate_parents.pop()`. The buckets are visited in any order, so any candidate can be the last.
-/
def popCandidate (candidateParents : List (BuilderState T)) (choice : Nat) :
    Option (BuilderState T) :=
  candidateParents[choice % candidateParents.length]?

/--
`spawn_builder_state` up to the first lock of `new_child`. `none` also if the assertion fails.
-/
def findParent (self : Coordinator T) (choice checked now : Nat) : Option (Coordinator T) :=
  match self.proposalsGuard with
  | .paired quorumProposal daProposal => do
    -- `assert_eq!`
    guard (T.viewNumber quorumProposal = daProposal.viewNumber)
    let candidateParents := self.builderStates.findBuilderStatesToExtend quorumProposal
    match popCandidate candidateParents choice with
    | none => return { self with proposalsGuard := .free }
    | some parentState =>
      let forest ← self.forest.step
        (.newChild 0 parentState.addr quorumProposal daProposal checked now)
      return { self with forest, proposalsGuard := .extending quorumProposal }
  | _ => none

def cloneQueue (self : Coordinator T) : Option (Coordinator T) :=
  match self.proposalsGuard with
  | .extending _ => do
    let forest ← self.forest.step (.cloneQueue 0)
    return { self with forest }
  | _ => none

def cloneReceiver (self : Coordinator T) (now : Nat) : Option (Coordinator T) :=
  match self.proposalsGuard with
  | .extending _ => do
    let forest ← self.forest.step (.cloneReceiver 0 now)
    let child := (forest.nodes self.forest.size).state
    return { self with forest, proposalsGuard := .built child }
  | _ => none

def insertChild (self : Coordinator T) : Option (Coordinator T) :=
  match self.proposalsGuard with
  | .built child => some { self with
      builderStates := self.builderStates.insert child
      proposalsGuard := .free }
  | _ => none

def cutoff (self : Coordinator T) (latestDecideViewNum : Nat) : Nat :=
  min latestDecideViewNum (self.builderStates.highestView.getD View.genesis)

def handleDecide (self : Coordinator T) (leafChain : List (LeafInfo T)) :
    Option (Coordinator T × BuilderStateMap T) :=
  match leafChain with
  -- `leaf_chain[0]` panics
  | [] => none
  | latest :: _ =>
    let cutoff := self.cutoff latest.viewNumber
    some ({ self with
      txStatus := self.txStatus.sequenceLeaves leafChain
      builderStates := self.builderStates.prune cutoff }, self.builderStates.pruned cutoff)

/--
`maybeEvicted` is the outcome of `try_broadcast`.
-/
def handleTransaction (self : Coordinator T) (transaction : ReceivedTransaction T)
    (maybeEvicted : Except (TrySendError T) (Option (ReceivedTransaction T))) :
    Coordinator T × Except (Error T) Unit :=
  let commit := transaction.commit
  match maybeEvicted with
  | .error err =>
    let rejected := .rejected "Failed to broadcast transaction"
    ({ self with txStatus := self.txStatus.updateTxnStatus commit rejected },
      .error (.txnSender err))
  | .ok _ =>
    let forest := { self.forest with sent := self.forest.sent ++ [transaction] }
    ({ self with forest, txStatus := self.txStatus.updateTxnStatus commit .pending }, .ok ())

def lowestView (self : Coordinator T) : Nat := self.builderStates.lowestView.getD View.genesis

def highestViewBuilder (self : Coordinator T) : Option (BuilderState T) :=
  self.builderStates.states.highestViewBuilder

def lookupBuilderState (self : Coordinator T) (id : BuilderStateId T) : BuilderStateLookup T :=
  match self.builderStates.get id with
  | some entry => .found entry
  | none =>
    if self.lowestView > id.parentView then
      .decided
    else
      .notFound

inductive Request where
  | tryRecv (addr : Nat)
  | insert (addr : Nat)
  | popFront (addr : Nat)

def Request.action : Request → Forest.Action T
  | .tryRecv addr => .tryRecv addr
  | .insert addr => .insert addr
  | .popFront addr => .popFront addr

def handleRequest (self : Coordinator T) (request : Request) : Option (Coordinator T) := do
  let forest ← self.forest.step request.action
  return { self with forest }

inductive Action (T : NodeType) where
  | lockProposals (proposal : T.QuorumProposalWrapper ⊕ DaProposal2 T)
  | findParent (choice checked now : Nat)
  | cloneQueue
  | cloneReceiver (now : Nat)
  | insertChild
  | decide (leafChain : List (LeafInfo T))
  | transaction (transaction : ReceivedTransaction T)
      (maybeEvicted : Except (TrySendError T) (Option (ReceivedTransaction T)))
  | request (request : Request)

def step (self : Coordinator T) (action : Action T) : Option (Coordinator T) :=
  match action with
  | .lockProposals proposal => self.lockProposals proposal
  | .findParent choice checked now => self.findParent choice checked now
  | .cloneQueue => self.cloneQueue
  | .cloneReceiver now => self.cloneReceiver now
  | .insertChild => self.insertChild
  | .decide leafChain => (self.handleDecide leafChain).map Prod.fst
  | .transaction transaction maybeEvicted =>
    some (self.handleTransaction transaction maybeEvicted).1
  | .request request => self.handleRequest request

/--
The clock readings of a `new_child` call, and the candidate that it is called on.
-/
structure Schedule where
  choice : Nat
  checked : Nat
  now : Nat
  finished : Nat

def spawnBuilderState (self : Coordinator T) (schedule : Schedule) : Option (Coordinator T) := do
  let self ← self.findParent schedule.choice schedule.checked schedule.now
  match self.proposalsGuard with
  | .extending _ =>
    let self ← self.cloneQueue
    let self ← self.cloneReceiver schedule.finished
    self.insertChild
  | _ => return self

def handleProposal (self : Coordinator T) (proposal : T.QuorumProposalWrapper ⊕ DaProposal2 T)
    (schedule : Schedule) : Option (Coordinator T) := do
  let self ← self.lockProposals proposal
  match self.proposalsGuard with
  | .paired _ _ => self.spawnBuilderState schedule
  | _ => return self

def handleDaProposal (self : Coordinator T) (daProposal : DaProposal2 T) (schedule : Schedule) :
    Option (Coordinator T) :=
  self.handleProposal (.inr daProposal) schedule

def handleQuorumProposal (self : Coordinator T) (quorumProposal : T.QuorumProposalWrapper)
    (schedule : Schedule) : Option (Coordinator T) :=
  self.handleProposal (.inl quorumProposal) schedule

/--
The calls of a run in which one call ends before the next one begins.
-/
inductive Call (T : NodeType) where
  | daProposal (daProposal : DaProposal2 T) (schedule : Schedule)
  | quorumProposal (quorumProposal : T.QuorumProposalWrapper) (schedule : Schedule)
  | decide (leafChain : List (LeafInfo T))
  | transaction (transaction : ReceivedTransaction T)
      (maybeEvicted : Except (TrySendError T) (Option (ReceivedTransaction T)))
  | request (request : Request)

def perform (self : Coordinator T) (call : Call T) : Option (Coordinator T) :=
  match call with
  | .daProposal daProposal schedule => self.handleDaProposal daProposal schedule
  | .quorumProposal quorumProposal schedule => self.handleQuorumProposal quorumProposal schedule
  | .decide leafChain => (self.handleDecide leafChain).map Prod.fst
  | .transaction transaction maybeEvicted =>
    some (self.handleTransaction transaction maybeEvicted).1
  | .request request => self.handleRequest request

end Coordinator

end BuilderCore
