import BuilderCore.Legacy.BuilderState
import BuilderCore.ProposalChain
import BuilderCore.Transition

/-!
This module contains what each step of the legacy tasks can do, and what the proposals of a chain
that a task has taken tell about the proposals that wait in it.
-/

namespace BuilderCore

open Collections Transition

variable {T : NodeType}

namespace Legacy

/--
The clone that is not registered yet.
-/
def Phase.pending : Phase T → Option (BuilderState T)
  | .eventLoop | .paired _ _ => none
  | .cloned clone | .absent clone => some clone

theorem Phase.pending_ofPair (pair : Option (DaProposal2 T × T.QuorumProposalWrapper)) :
    (Phase.ofPair pair).pending = none := by
  cases pair <;> rfl

namespace System

inductive Change (self : System T) : Action T → System T → Prop where
  | broadcastDaProposal (daProposal : DaProposal2 T) :
      Change self (.broadcastDaProposal daProposal)
        { self with daProposals := self.daProposals ++ [daProposal] }
  | broadcastQuorumProposal (quorumProposal : T.QuorumProposalWrapper) :
      Change self (.broadcastQuorumProposal quorumProposal)
        { self with quorumProposals := self.quorumProposals ++ [quorumProposal] }
  | nextDaProposal (i : Nat) (state : BuilderState T) (daProposal : DaProposal2 T)
      (htask : self.tasks[i]? = some ⟨state, .eventLoop⟩)
      (hnext : self.daProposals[state.daProposalReceiver]? = some daProposal)
      (state' : BuilderState T) (pair : Option (DaProposal2 T × T.QuorumProposalWrapper))
      (hprocess : BuilderState.processDaProposal
        { state with daProposalReceiver := state.daProposalReceiver + 1 } daProposal =
          (state', pair)) :
      Change self (.nextDaProposal i) (self.setTask i state' (.ofPair pair))
  | nextQuorumProposal (i : Nat) (state : BuilderState T)
      (quorumProposal : T.QuorumProposalWrapper)
      (htask : self.tasks[i]? = some ⟨state, .eventLoop⟩)
      (hnext : self.quorumProposals[state.quorumProposalReceiver]? = some quorumProposal)
      (state' : BuilderState T) (pair : Option (DaProposal2 T × T.QuorumProposalWrapper))
      (hprocess : BuilderState.processQuorumProposal
        { state with quorumProposalReceiver := state.quorumProposalReceiver + 1 } quorumProposal =
          (state', pair)) :
      Change self (.nextQuorumProposal i) (self.setTask i state' (.ofPair pair))
  | fork (i : Nat) (state : BuilderState T) (daProposal : DaProposal2 T)
      (quorumProposal : T.QuorumProposalWrapper)
      (htask : self.tasks[i]? = some ⟨state, .paired daProposal quorumProposal⟩)
      (hbest : self.amITheBestBuilderStateToExtend state quorumProposal = true) :
      Change self (.spawnCloneThatExtendsSelf i)
        (self.setTask i state (.cloned (state.cloneWithReceiver.replaceParent quorumProposal)))
  | leave (i : Nat) (state : BuilderState T) (daProposal : DaProposal2 T)
      (quorumProposal : T.QuorumProposalWrapper)
      (htask : self.tasks[i]? = some ⟨state, .paired daProposal quorumProposal⟩)
      (hbest : self.amITheBestBuilderStateToExtend state quorumProposal = false) :
      Change self (.spawnCloneThatExtendsSelf i) (self.setTask i state .eventLoop)
  | abort (i : Nat) (state clone : BuilderState T)
      (htask : self.tasks[i]? = some ⟨state, .cloned clone⟩)
      (hexists : (self.spawnedBuilderStates.get? clone.id).isSome = true) :
      Change self (.spawnClone i) (self.setTask i state .eventLoop)
  | proceed (i : Nat) (state clone : BuilderState T)
      (htask : self.tasks[i]? = some ⟨state, .cloned clone⟩)
      (hnone : self.spawnedBuilderStates.get? clone.id = none) :
      Change self (.spawnClone i) (self.setTask i state (.absent clone))
  | register (i : Nat) (state clone : BuilderState T)
      (htask : self.tasks[i]? = some ⟨state, .absent clone⟩) :
      Change self (.registerBuilderState i) { self with
        tasks := self.tasks.set i ⟨state, .eventLoop⟩ ++ [⟨clone, .eventLoop⟩]
        spawnedBuilderStates := self.spawnedBuilderStates.insert clone.id
          (some clone.parentBlockReferences, self.tasks.length) }

theorem change_of_step {self self' : System T} {action : Action T}
    (h : self.step action = some self') : Change self action self' := by
  cases action with
  | broadcastDaProposal daProposal =>
    simp only [step, Option.some.injEq] at h
    rw [← h]
    exact .broadcastDaProposal daProposal
  | broadcastQuorumProposal quorumProposal =>
    simp only [step, Option.some.injEq] at h
    rw [← h]
    exact .broadcastQuorumProposal quorumProposal
  | nextDaProposal i =>
    simp only [step, nextDaProposal] at h
    split at h
    . next state htask =>
      simp only [Option.bind_eq_bind, Option.bind_eq_some_iff, Option.pure_def, Option.some.injEq]
        at h
      obtain ⟨daProposal, hnext, rfl⟩ := h
      exact .nextDaProposal i state daProposal htask hnext _ _ rfl
    . contradiction
  | nextQuorumProposal i =>
    simp only [step, nextQuorumProposal] at h
    split at h
    . next state htask =>
      simp only [Option.bind_eq_bind, Option.bind_eq_some_iff, Option.pure_def, Option.some.injEq]
        at h
      obtain ⟨quorumProposal, hnext, rfl⟩ := h
      exact .nextQuorumProposal i state quorumProposal htask hnext _ _ rfl
    . contradiction
  | spawnCloneThatExtendsSelf i =>
    simp only [step, spawnCloneThatExtendsSelf] at h
    split at h
    . next state daProposal quorumProposal htask =>
      split at h
      . next hbest =>
        rw [Option.some.injEq] at h
        rw [← h]
        exact .fork i state daProposal quorumProposal htask hbest
      . next hbest =>
        rw [Option.some.injEq] at h
        rw [← h]
        exact .leave i state daProposal quorumProposal htask (eq_false_of_ne_true hbest)
    . contradiction
  | spawnClone i =>
    simp only [step, spawnClone] at h
    split at h
    . next state clone htask =>
      split at h
      . next hexists =>
        rw [Option.some.injEq] at h
        rw [← h]
        exact .abort i state clone htask hexists
      . next hexists =>
        rw [Option.some.injEq] at h
        rw [← h]
        exact .proceed i state clone htask (Option.not_isSome_iff_eq_none.mp hexists)
    . contradiction
  | registerBuilderState i =>
    simp only [step, registerBuilderState] at h
    split at h
    . next state clone htask =>
      rw [Option.some.injEq] at h
      rw [← h]
      exact .register i state clone htask
    . contradiction

def ClonesItself (task : Task T) : Prop :=
  ∀ clone, task.phase.pending = some clone →
    ∃ quorumProposal, clone = task.state.cloneWithReceiver.replaceParent quorumProposal

theorem clonesItself_of_pending {task : Task T} (h : task.phase.pending = none) :
    ClonesItself task := by
  intro clone hclone
  rw [h] at hclone
  contradiction

theorem clonesItself_of_change {self self' : System T} {action : Action T}
    (h : ∀ task ∈ self.tasks, ClonesItself task) (hchange : Change self action self') :
    ∀ task ∈ self'.tasks, ClonesItself task := by
  have hset : ∀ (i : Nat) (task : Task T), ClonesItself task →
      ∀ task' ∈ self.tasks.set i task, ClonesItself task' := by
    intro i task htask task' hmem
    rcases List.mem_or_eq_of_mem_set hmem with hmem | rfl
    . exact h task' hmem
    . exact htask
  cases hchange with
  | broadcastDaProposal daProposal => exact h
  | broadcastQuorumProposal quorumProposal => exact h
  | nextDaProposal i state daProposal htask hnext state' pair hprocess =>
    exact hset i _ (clonesItself_of_pending (Phase.pending_ofPair pair))
  | nextQuorumProposal i state quorumProposal htask hnext state' pair hprocess =>
    exact hset i _ (clonesItself_of_pending (Phase.pending_ofPair pair))
  | fork i state daProposal quorumProposal htask hbest =>
    apply hset
    intro clone hclone
    exact ⟨quorumProposal, (Option.some.inj hclone).symm⟩
  | leave i state daProposal quorumProposal htask hbest =>
    exact hset i _ (clonesItself_of_pending rfl)
  | abort i state clone htask hexists =>
    exact hset i _ (clonesItself_of_pending rfl)
  | proceed i state clone htask hnone =>
    have hclones : ClonesItself ⟨state, .cloned clone⟩ := h _ (List.mem_of_getElem? htask)
    exact hset i _ hclones
  | register i state clone htask =>
    intro task hmem
    rw [List.mem_append, List.mem_singleton] at hmem
    rcases hmem with hmem | rfl
    . exact hset i _ (clonesItself_of_pending rfl) task hmem
    . exact clonesItself_of_pending rfl

/--
A clone starts with no proposals waiting, where its parent is when it is registered.
-/
def RegistersFresh (self : System T) (action : Action T) : Prop :=
  ∀ i state clone, action = .registerBuilderState i →
    self.tasks[i]? = some ⟨state, .absent clone⟩ →
      clone.daProposals = .empty ∧ clone.quorumProposals = .empty ∧
        clone.daProposalReceiver = state.daProposalReceiver ∧
        clone.quorumProposalReceiver = state.quorumProposalReceiver

theorem along_registersFresh (root : ParentBlockReferences T) (actions : List (Action T)) :
    Along step RegistersFresh (.new root) actions := by
  apply along_of_invariant (I := fun self => ∀ task ∈ self.tasks, ClonesItself task)
  . intro self action self' h hstep
    exact clonesItself_of_change h (change_of_step hstep)
  . intro self action h i state clone _ htask
    obtain ⟨quorumProposal, hclone⟩ := h _ (List.mem_of_getElem? htask) clone rfl
    rw [hclone]
    exact ⟨rfl, rfl, rfl, rfl⟩
  . intro task hmem
    rw [List.mem_singleton.mp hmem]
    exact clonesItself_of_pending rfl

end System

theorem keysDiffer_of_isChain {chain : List (ProposalPair T)}
    (hchain : chain.IsChain ProposalPair.Extends) : KeysDiffer chain ProposalPair.id := by
  intro i j pair pair' hpair hpair' hid
  exact ProposalPair.index_eq_of_viewNumber_eq hchain hpair hpair'
    (ProposalPair.viewNumber_eq_of_id_eq hid)

/--
The task has read the proposals of a chain from its start on.
-/
structure Reads (chain : List (ProposalPair T)) (state : BuilderState T)
    (daStart quorumStart : Nat) : Prop where
  daStart_le : daStart ≤ state.daProposalReceiver
  quorumStart_le : quorumStart ≤ state.quorumProposalReceiver
  da_le : state.daProposalReceiver ≤ chain.length
  quorum_le : state.quorumProposalReceiver ≤ chain.length
  daProposals : Waiting chain ProposalPair.id ProposalPair.daProposal
    (unmatched daStart state.daProposalReceiver quorumStart state.quorumProposalReceiver)
    state.daProposals
  quorumProposals : Waiting chain ProposalPair.id ProposalPair.quorumProposal
    (unmatched quorumStart state.quorumProposalReceiver daStart state.daProposalReceiver)
    state.quorumProposals

section

variable {chain : List (ProposalPair T)} {state state' : BuilderState T} {daStart quorumStart : Nat}
  {pair : ProposalPair T} {matching : Option (DaProposal2 T × T.QuorumProposalWrapper)}

theorem reads_new (chain : List (ProposalPair T)) (refs : ParentBlockReferences T) :
    Reads chain (.new refs) 0 0 where
  daStart_le := Nat.le_refl _
  quorumStart_le := Nat.le_refl _
  da_le := Nat.zero_le _
  quorum_le := Nat.zero_le _
  daProposals := waiting_empty.congr fun j => by simp [mem_unmatched, BuilderState.new]
  quorumProposals := waiting_empty.congr fun j => by simp [mem_unmatched, BuilderState.new]

theorem Reads.clone (h : Reads chain state daStart quorumStart)
    (quorumProposal : T.QuorumProposalWrapper) :
    Reads chain (state.cloneWithReceiver.replaceParent quorumProposal) state.daProposalReceiver
      state.quorumProposalReceiver where
  daStart_le := Nat.le_refl _
  quorumStart_le := Nat.le_refl _
  da_le := h.da_le
  quorum_le := h.quorum_le
  daProposals := waiting_empty.congr fun j => by
    simp only [mem_unmatched, BuilderState.replaceParent, BuilderState.cloneWithReceiver,
      Set.mem_empty_iff_false, false_iff]
    omega
  quorumProposals := waiting_empty.congr fun j => by
    simp only [mem_unmatched, BuilderState.replaceParent, BuilderState.cloneWithReceiver,
      Set.mem_empty_iff_false, false_iff]
    omega

/--
A task that has started at one place of both channels is at one place of both again when no proposal
waits in it.
-/
theorem Reads.receivers_eq_iff {level : Nat} (h : Reads chain state level level) :
    state.daProposalReceiver = state.quorumProposalReceiver ↔
      state.daProposals.len = 0 ∧ state.quorumProposals.len = 0 := by
  have hdaStart := h.daStart_le
  have hquorumStart := h.quorumStart_le
  have hdaLe := h.da_le
  have hquorumLe := h.quorum_le
  rw [HashMap.len_eq_zero_iff, HashMap.len_eq_zero_iff]
  constructor
  . intro heq
    have hempty : ∀ j, j ∉ unmatched level state.quorumProposalReceiver level
        state.quorumProposalReceiver := by
      intro j
      rw [mem_unmatched]
      omega
    have hda := h.daProposals
    have hquorum := h.quorumProposals
    rw [heq] at hda hquorum
    exact ⟨hda.get?_eq_none hempty, hquorum.get?_eq_none hempty⟩
  . rintro ⟨hda, hquorum⟩
    rcases Nat.lt_trichotomy state.daProposalReceiver state.quorumProposalReceiver with
      hlt | heq | hgt
    . have hpair := List.getElem?_eq_getElem (l := chain) (i := state.daProposalReceiver) (by omega)
      have hmem : state.daProposalReceiver ∈ unmatched level state.quorumProposalReceiver level
          state.daProposalReceiver := by
        rw [mem_unmatched]
        omega
      have hget := h.quorumProposals.get?_of_mem hmem hpair
      rw [hquorum] at hget
      contradiction
    . exact heq
    . have hpair := List.getElem?_eq_getElem (l := chain) (i := state.quorumProposalReceiver)
        (by omega)
      have hmem : state.quorumProposalReceiver ∈ unmatched level state.daProposalReceiver level
          state.quorumProposalReceiver := by
        rw [mem_unmatched]
        omega
      have hget := h.daProposals.get?_of_mem hmem hpair
      rw [hda] at hget
      contradiction

theorem Reads.processDaProposal (h : Reads chain state daStart quorumStart)
    (hchain : chain.IsChain ProposalPair.Extends)
    (hpair : chain[state.daProposalReceiver]? = some pair)
    (hprocess : BuilderState.processDaProposal
      { state with daProposalReceiver := state.daProposalReceiver + 1 } pair.daProposal =
        (state', matching)) :
    Reads chain state' daStart quorumStart ∧
      state'.parentBlockReferences = state.parentBlockReferences ∧
      state'.daProposalReceiver = state.daProposalReceiver + 1 ∧
      state'.quorumProposalReceiver = state.quorumProposalReceiver ∧
      matching =
        if quorumStart ≤ state.daProposalReceiver ∧
            state.daProposalReceiver < state.quorumProposalReceiver then
          some (pair.daProposal, pair.quorumProposal)
        else
          none := by
  have hlt := (List.getElem?_eq_some_iff.mp hpair).1
  have hview : ¬ T.viewNumber pair.quorumProposal ≠ pair.daProposal.viewNumber :=
    not_not.mpr (congrArg ProposalId.viewNumber pair.id_eq)
  rcases hmatch : matchMessage state.daProposals state.quorumProposals pair.id pair.daProposal with
    ⟨daProposals, quorumProposals, quorumProposal⟩
  simp only [BuilderState.processDaProposal, ← pair.id_eq] at hprocess
  rw [← ProposalPair.id, hmatch] at hprocess
  obtain ⟨hda, hquorum, rfl⟩ := waiting_matchMessage (keysDiffer_of_isChain hchain) h.daProposals
    h.quorumProposals hpair h.daStart_le hmatch
  have hreads : Reads chain
      { state with
        daProposalReceiver := state.daProposalReceiver + 1, daProposals, quorumProposals }
      daStart quorumStart :=
    ⟨Nat.le_succ_of_le h.daStart_le, h.quorumStart_le, hlt, h.quorum_le, hda, hquorum⟩
  by_cases hread : quorumStart ≤ state.daProposalReceiver ∧
      state.daProposalReceiver < state.quorumProposalReceiver
  . simp only [if_pos hread, if_neg hview, Prod.mk.injEq] at hprocess
    obtain ⟨rfl, rfl⟩ := hprocess
    exact ⟨hreads, rfl, rfl, rfl, (if_pos hread).symm⟩
  . simp only [if_neg hread, Prod.mk.injEq] at hprocess
    obtain ⟨rfl, rfl⟩ := hprocess
    exact ⟨hreads, rfl, rfl, rfl, (if_neg hread).symm⟩

theorem Reads.processQuorumProposal (h : Reads chain state daStart quorumStart)
    (hchain : chain.IsChain ProposalPair.Extends)
    (hpair : chain[state.quorumProposalReceiver]? = some pair)
    (hprocess : BuilderState.processQuorumProposal
      { state with quorumProposalReceiver := state.quorumProposalReceiver + 1 }
        pair.quorumProposal = (state', matching)) :
    Reads chain state' daStart quorumStart ∧
      state'.parentBlockReferences = state.parentBlockReferences ∧
      state'.daProposalReceiver = state.daProposalReceiver ∧
      state'.quorumProposalReceiver = state.quorumProposalReceiver + 1 ∧
      matching =
        if daStart ≤ state.quorumProposalReceiver ∧
            state.quorumProposalReceiver < state.daProposalReceiver then
          some (pair.daProposal, pair.quorumProposal)
        else
          none := by
  have hlt := (List.getElem?_eq_some_iff.mp hpair).1
  have hview : ¬ pair.daProposal.viewNumber ≠ T.viewNumber pair.quorumProposal :=
    not_not.mpr (congrArg ProposalId.viewNumber pair.id_eq).symm
  rcases hmatch : matchMessage state.quorumProposals state.daProposals pair.id
    pair.quorumProposal with ⟨quorumProposals, daProposals, daProposal⟩
  simp only [BuilderState.processQuorumProposal] at hprocess
  rw [← ProposalPair.id, hmatch] at hprocess
  obtain ⟨hquorum, hda, rfl⟩ := waiting_matchMessage (keysDiffer_of_isChain hchain)
    h.quorumProposals h.daProposals hpair h.quorumStart_le hmatch
  have hreads : Reads chain
      { state with
        quorumProposalReceiver := state.quorumProposalReceiver + 1, daProposals, quorumProposals }
      daStart quorumStart :=
    ⟨h.daStart_le, Nat.le_succ_of_le h.quorumStart_le, h.da_le, hlt, hda, hquorum⟩
  by_cases hread : daStart ≤ state.quorumProposalReceiver ∧
      state.quorumProposalReceiver < state.daProposalReceiver
  . simp only [if_pos hread, if_neg hview, Prod.mk.injEq] at hprocess
    obtain ⟨rfl, rfl⟩ := hprocess
    exact ⟨hreads, rfl, rfl, rfl, (if_pos hread).symm⟩
  . simp only [if_neg hread, Prod.mk.injEq] at hprocess
    obtain ⟨rfl, rfl⟩ := hprocess
    exact ⟨hreads, rfl, rfl, rfl, (if_neg hread).symm⟩

end

end Legacy

end BuilderCore
