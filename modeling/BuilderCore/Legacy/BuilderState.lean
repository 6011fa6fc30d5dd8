import BuilderCore.Legacy.BestBuilderStates
import BuilderCore.Legacy.Matching

/-!
This module contains the builder states of the legacy builder, each run by a task of its own that
reads the proposals from two channels and forks for the pairs it is the best fit for. The tasks are
cut where they read from a channel and where they take the lock of the global state.
-/

namespace BuilderCore

open Collections

variable {T : NodeType}

namespace Legacy

/--
What a task keeps to handle proposals. A receiver is the number of messages it has taken.
-/
structure BuilderState (T : NodeType) where
  parentBlockReferences : ParentBlockReferences T
  daProposalReceiver : Nat
  quorumProposalReceiver : Nat
  -- `da_proposal_payload_commit_to_da_proposal`
  daProposals : HashMap (ProposalId T) (DaProposal2 T)
  -- `quorum_proposal_payload_commit_to_quorum_proposal`
  quorumProposals : HashMap (ProposalId T) T.QuorumProposalWrapper

namespace BuilderState

def new (parentBlockReferences : ParentBlockReferences T) : BuilderState T where
  parentBlockReferences
  daProposalReceiver := 0
  quorumProposalReceiver := 0
  daProposals := .empty
  quorumProposals := .empty

def id (self : BuilderState T) : BuilderStateId T := self.parentBlockReferences.id

/--
`process_da_proposal` up to the point where it has a pair or is done.
-/
def processDaProposal (self : BuilderState T) (daProposal : DaProposal2 T) :
    BuilderState T × Option (DaProposal2 T × T.QuorumProposalWrapper) :=
  let (daProposals, quorumProposals, matching) :=
    matchMessage self.daProposals self.quorumProposals (.fromDaProposal daProposal) daProposal
  let self := { self with daProposals, quorumProposals }
  match matching with
  | none => (self, none)
  | some quorumProposal =>
    if T.viewNumber quorumProposal ≠ daProposal.viewNumber then
      (self, none)
    else
      (self, some (daProposal, quorumProposal))

def processQuorumProposal (self : BuilderState T) (quorumProposal : T.QuorumProposalWrapper) :
    BuilderState T × Option (DaProposal2 T × T.QuorumProposalWrapper) :=
  let (quorumProposals, daProposals, matching) :=
    matchMessage self.quorumProposals self.daProposals (.fromQuorumProposal quorumProposal)
      quorumProposal
  let self := { self with daProposals, quorumProposals }
  match matching with
  | none => (self, none)
  | some daProposal =>
    if daProposal.viewNumber ≠ T.viewNumber quorumProposal then
      (self, none)
    else
      (self, some (daProposal, quorumProposal))

def cloneWithReceiver (self : BuilderState T) : BuilderState T :=
  -- the receivers are cloned where they are, the proposals that wait are not
  { self with daProposals := .empty, quorumProposals := .empty }

/--
The first lines of `spawn_clone`.
-/
def replaceParent (self : BuilderState T) (quorumProposal : T.QuorumProposalWrapper) :
    BuilderState T where
  __ := self
  parentBlockReferences := {
    viewNumber := T.viewNumber quorumProposal
    vidCommitment := T.payloadCommitment quorumProposal
    leafCommit := T.leafCommit quorumProposal
    builderCommitment := T.builderCommitment quorumProposal
    txCount := 0
    lastNonemptyView := none
  }

end BuilderState

/--
How far a task has come with the message that it took last.
-/
inductive Phase (T : NodeType) where
  | eventLoop
  | paired (daProposal : DaProposal2 T) (quorumProposal : T.QuorumProposalWrapper)
  | cloned (clone : BuilderState T)
  | absent (clone : BuilderState T)

def Phase.ofPair (pair : Option (DaProposal2 T × T.QuorumProposalWrapper)) : Phase T :=
  match pair with
  | none => .eventLoop
  | some (daProposal, quorumProposal) => .paired daProposal quorumProposal

structure Task (T : NodeType) where
  state : BuilderState T
  phase : Phase T

/--
The channels with everything that was broadcast on them, the tasks, and the spawned builder states of
the global state. The sender of a spawned state is the number of its task.
-/
structure System (T : NodeType) where
  daProposals : List (DaProposal2 T)
  quorumProposals : List T.QuorumProposalWrapper
  tasks : List (Task T)
  spawnedBuilderStates : SpawnedBuilderStates T Nat

namespace System

def new (parentBlockReferences : ParentBlockReferences T) : System T where
  daProposals := []
  quorumProposals := []
  tasks := [⟨.new parentBlockReferences, .eventLoop⟩]
  -- the references of the bootstrap state are not known
  spawnedBuilderStates := HashMap.empty.insert parentBlockReferences.id (none, 0)

inductive Action (T : NodeType) where
  | broadcastDaProposal (daProposal : DaProposal2 T)
  | broadcastQuorumProposal (quorumProposal : T.QuorumProposalWrapper)
  | nextDaProposal (task : Nat)
  | nextQuorumProposal (task : Nat)
  | spawnCloneThatExtendsSelf (task : Nat)
  | spawnClone (task : Nat)
  | registerBuilderState (task : Nat)

def setTask (self : System T) (i : Nat) (state : BuilderState T) (phase : Phase T) : System T :=
  { self with tasks := self.tasks.set i ⟨state, phase⟩ }

def nextDaProposal (self : System T) (i : Nat) : Option (System T) :=
  match self.tasks[i]? with
  | some ⟨state, .eventLoop⟩ => do
    let daProposal ← self.daProposals[state.daProposalReceiver]?
    let state := { state with daProposalReceiver := state.daProposalReceiver + 1 }
    let (state, pair) := state.processDaProposal daProposal
    return self.setTask i state (Phase.ofPair pair)
  | _ => none

def nextQuorumProposal (self : System T) (i : Nat) : Option (System T) :=
  match self.tasks[i]? with
  | some ⟨state, .eventLoop⟩ => do
    let quorumProposal ← self.quorumProposals[state.quorumProposalReceiver]?
    let state := { state with quorumProposalReceiver := state.quorumProposalReceiver + 1 }
    let (state, pair) := state.processQuorumProposal quorumProposal
    return self.setTask i state (Phase.ofPair pair)
  | _ => none

def amITheBestBuilderStateToExtend (self : System T) (state : BuilderState T)
    (quorumProposal : T.QuorumProposalWrapper) : Bool :=
  state.id ∈ bestBuilderStatesToExtend quorumProposal self.spawnedBuilderStates

def spawnCloneThatExtendsSelf (self : System T) (i : Nat) : Option (System T) :=
  match self.tasks[i]? with
  | some ⟨state, .paired _ quorumProposal⟩ =>
    if self.amITheBestBuilderStateToExtend state quorumProposal then
      let clone := state.cloneWithReceiver.replaceParent quorumProposal
      some (self.setTask i state (.cloned clone))
    else
      -- left to another task
      some (self.setTask i state .eventLoop)
  | _ => none

def spawnClone (self : System T) (i : Nat) : Option (System T) :=
  match self.tasks[i]? with
  | some ⟨state, .cloned clone⟩ =>
    if (self.spawnedBuilderStates.get? clone.id).isSome then
      -- the clone is dropped
      some (self.setTask i state .eventLoop)
    else
      some (self.setTask i state (.absent clone))
  | _ => none

def registerBuilderState (self : System T) (i : Nat) : Option (System T) :=
  match self.tasks[i]? with
  | some ⟨state, .absent clone⟩ =>
    some { self with
      -- the event loop of the clone starts, and that of its parent goes on
      tasks := self.tasks.set i ⟨state, .eventLoop⟩ ++ [⟨clone, .eventLoop⟩]
      spawnedBuilderStates := self.spawnedBuilderStates.insert clone.id
        (some clone.parentBlockReferences, self.tasks.length) }
  | _ => none

def step (self : System T) (action : Action T) : Option (System T) :=
  match action with
  | .broadcastDaProposal daProposal =>
    some { self with daProposals := self.daProposals ++ [daProposal] }
  | .broadcastQuorumProposal quorumProposal =>
    some { self with quorumProposals := self.quorumProposals ++ [quorumProposal] }
  | .nextDaProposal i => self.nextDaProposal i
  | .nextQuorumProposal i => self.nextQuorumProposal i
  | .spawnCloneThatExtendsSelf i => self.spawnCloneThatExtendsSelf i
  | .spawnClone i => self.spawnClone i
  | .registerBuilderState i => self.registerBuilderState i

/--
Every task has taken everything and is back in its event loop.
-/
def IsDrained (self : System T) : Prop :=
  ∀ task ∈ self.tasks, (∃ state, task = ⟨state, .eventLoop⟩) ∧
    task.state.daProposalReceiver = self.daProposals.length ∧
    task.state.quorumProposalReceiver = self.quorumProposals.length

instance (task : Task T) : Decidable (∃ state, task = ⟨state, .eventLoop⟩) :=
  match task with
  | ⟨state, .eventLoop⟩ => isTrue ⟨state, rfl⟩
  | ⟨_, .paired _ _⟩ => isFalse (by simp)
  | ⟨_, .cloned _⟩ => isFalse (by simp)
  | ⟨_, .absent _⟩ => isFalse (by simp)

instance (self : System T) : Decidable self.IsDrained :=
  inferInstanceAs (Decidable (∀ task ∈ self.tasks, _ ∧ _))

end System

end Legacy

end BuilderCore
