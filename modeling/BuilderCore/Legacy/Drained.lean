import BuilderCore.Legacy.Forking

/-!
This module contains that the legacy tasks have spawned a builder state for every block of a chain
once they have taken all of its proposals, provided that no task forks while a proposal waits in it.
-/

namespace BuilderCore

open Collections Transition ProposalPair

variable {T : NodeType}

namespace Legacy

section

variable {root : ParentBlockReferences T} {chain : List (ProposalPair T)}

/--
A run that broadcasts the proposals of the chain in its order and ends when every task is done with
all of them.
-/
structure Drains (root : ParentBlockReferences T) (chain : List (ProposalPair T))
    (actions : List (System.Action T)) (system : System T) : Prop where
  run_eq : run System.step (.new root) actions = some system
  daProposals_eq : system.daProposals = chain.map daProposal
  quorumProposals_eq : system.quorumProposals = chain.map quorumProposal
  isDrained : system.IsDrained

def SpawnsAll (chain : List (ProposalPair T)) (system : System T) : Prop :=
  ∀ pair ∈ chain, (system.spawnedBuilderStates.get? pair.stateId).isSome = true

theorem Broadcasts.of_run {system system' : System T} {actions : List (System.Action T)}
    (h : Broadcasts chain system') (hrun : run System.step system actions = some system') :
    Broadcasts chain system := by
  -- the channels only grow
  induction actions generalizing system with
  | nil =>
    simp only [run_nil, Option.some.injEq] at hrun
    rwa [hrun]
  | cons action actions ih =>
    rw [run_cons_eq_some] at hrun
    obtain ⟨between, hstep, hrun⟩ := hrun
    exact (ih hrun).of_change (System.change_of_step hstep)

theorem Loses.of_run (hchain : IsChainOn root chain) {system system' : System T}
    {actions : List (System.Action T)} (h : Loses root chain system)
    (hbroadcasts : Broadcasts chain system')
    (hrun : run System.step system actions = some system') : Loses root chain system' := by
  refine run_invariant (P := fun system => Broadcasts chain system → Loses root chain system)
    ?_ (fun _ => h) hrun hbroadcasts
  intro system action system' hloses hstep hbroadcasts
  have hchange := System.change_of_step hstep
  have hbefore := hbroadcasts.of_change hchange
  exact (hloses hbefore).of_change hchain hbefore hchange

/--
The first task that forks while a proposal waits in it decides about the whole run.
-/
theorem Even.along_or_loses (hchain : IsChainOn root chain) {system system' : System T}
    {actions : List (System.Action T)} (h : Even root chain system) (hpending : PendingEven system)
    (hbroadcasts : Broadcasts chain system')
    (hrun : run System.step system actions = some system') :
    Along System.step ForksEvenly system actions ∧ Even root chain system' ∨
      ¬ Along System.step ForksEvenly system actions ∧ Loses root chain system' := by
  induction actions generalizing system with
  | nil =>
    simp only [run_nil, Option.some.injEq] at hrun
    exact .inl ⟨trivial, hrun ▸ h⟩
  | cons action actions ih =>
    rw [run_cons_eq_some] at hrun
    obtain ⟨between, hstep, hrun⟩ := hrun
    have hchange := System.change_of_step hstep
    have hbefore := (hbroadcasts.of_run hrun).of_change hchange
    by_cases hforks : ForksEvenly system action
    . have hbetween : Even root chain between := by
        apply h.of_change hchain hbefore _ hchange
        intro i state clone _ htask
        exact hpending _ (List.mem_of_getElem? htask) clone rfl
      rcases ih hbetween (hpending.of_change h hforks hchange) hrun with
        ⟨halong, heven⟩ | ⟨hnot, hloses⟩
      . left
        refine ⟨?_, heven⟩
        intro between' hbetween'
        rw [hstep, Option.some.injEq] at hbetween'
        rw [← hbetween']
        exact ⟨hforks, halong⟩
      . right
        refine ⟨?_, hloses⟩
        intro halong
        exact hnot (halong between hstep).2
    . right
      refine ⟨?_, (h.loses_of_not_forksEvenly hchain hbefore hforks hchange).of_run hchain
        hbroadcasts hrun⟩
      intro halong
      exact hforks (halong between hstep).1

theorem Even.registered (hchain : IsChainOn root chain) {system : System T}
    (h : Even root chain system) (hda : system.daProposals = chain.map daProposal)
    (hquorum : system.quorumProposals = chain.map quorumProposal) (hdrained : system.IsDrained)
    {level : Nat} (hle : level ≤ chain.length) : Registered chain system level := by
  -- the task of every block has taken the pair of the block above it
  induction level with
  | zero => trivial
  | succ level ih =>
    obtain ⟨task, hmem, hat⟩ := h.running level (ih (by omega))
    obtain ⟨⟨state, rfl⟩, hdaReceiver, hquorumReceiver⟩ := hdrained task hmem
    obtain ⟨level', htask⟩ := h.tasks _ hmem
    obtain rfl := htask.isAt.unique hchain hat
    rw [hda, List.length_map] at hdaReceiver
    rw [hquorum, List.length_map] at hquorumReceiver
    dsimp only at hdaReceiver hquorumReceiver
    apply htask.phase
    . dsimp only
      omega
    . dsimp only
      omega

theorem Even.spawnsAll (hchain : IsChainOn root chain) {system : System T}
    (h : Even root chain system) (hda : system.daProposals = chain.map daProposal)
    (hquorum : system.quorumProposals = chain.map quorumProposal) (hdrained : system.IsDrained) :
    SpawnsAll chain system := by
  intro pair hmem
  obtain ⟨i, hpair⟩ := List.getElem?_of_mem hmem
  have hlt := (List.getElem?_eq_some_iff.mp hpair).1
  exact getElem?_of_registered (h.registered hchain hda hquorum hdrained hlt) hpair

theorem Loses.not_all {system : System T} (h : Loses root chain system)
    (hdrained : system.IsDrained) : ¬ SpawnsAll chain system := by
  intro hspawns
  rcases h with ⟨-, i, task, clone, htask, hclone, -⟩ | ⟨level, hlost⟩
  . obtain ⟨⟨state, rfl⟩, -⟩ := hdrained task (List.mem_of_getElem? htask)
    contradiction
  . have hpair := List.getElem?_eq_getElem hlost.lt_length
    exact hlost.not_registered ⟨_, hpair, hspawns _ (List.mem_of_getElem? hpair)⟩

/--
No block of the chain is left without a state exactly as long as no task forks while a proposal waits
in it.
-/
theorem spawnsAll_iff_forksEvenly (hchain : IsChainOn root chain)
    {actions : List (System.Action T)} {system : System T}
    (h : Drains root chain actions system) :
    SpawnsAll chain system ∧ Along System.step System.RegistersFresh (.new root) actions ↔
      Along System.step ForksEvenly (.new root) actions := by
  have hbroadcasts : Broadcasts chain system :=
    ⟨h.daProposals_eq ▸ List.prefix_refl _, h.quorumProposals_eq ▸ List.prefix_refl _⟩
  have hpending : PendingEven (System.new root) := by
    intro task hmem clone hclone
    rw [List.mem_singleton.mp hmem] at hclone
    contradiction
  have hfresh := System.along_registersFresh root actions
  rcases (even_new hchain).along_or_loses hchain hpending hbroadcasts h.run_eq with
    ⟨halong, heven⟩ | ⟨hnot, hloses⟩
  . have hspawns := heven.spawnsAll hchain h.daProposals_eq h.quorumProposals_eq h.isDrained
    exact ⟨fun _ => halong, fun _ => ⟨hspawns, hfresh⟩⟩
  . have hlost := hloses.not_all h.isDrained
    exact ⟨fun h => absurd h.1 hlost, fun h => absurd h hnot⟩

end

def evenActions : List (System.Action TestTypes) := [
  .broadcastDaProposal testPair₁.daProposal, .broadcastQuorumProposal testPair₁.quorumProposal,
  .broadcastDaProposal testPair₂.daProposal, .broadcastQuorumProposal testPair₂.quorumProposal,
  .nextQuorumProposal 0, .nextDaProposal 0, .spawnCloneThatExtendsSelf 0, .spawnClone 0,
  .registerBuilderState 0,
  .nextDaProposal 0, .nextQuorumProposal 0, .spawnCloneThatExtendsSelf 0,
  .nextDaProposal 1, .nextQuorumProposal 1, .spawnCloneThatExtendsSelf 1, .spawnClone 1,
  .registerBuilderState 1]

/--
The bootstrap task takes both DA proposals before it forks for the first block.
-/
def unevenActions : List (System.Action TestTypes) := [
  .broadcastDaProposal testPair₁.daProposal, .broadcastQuorumProposal testPair₁.quorumProposal,
  .broadcastDaProposal testPair₂.daProposal, .broadcastQuorumProposal testPair₂.quorumProposal,
  .nextDaProposal 0, .nextDaProposal 0, .nextQuorumProposal 0, .spawnCloneThatExtendsSelf 0,
  .spawnClone 0, .registerBuilderState 0,
  .nextQuorumProposal 0, .spawnCloneThatExtendsSelf 0, .nextQuorumProposal 1]

theorem isChainOn_testPairs : IsChainOn .bootstrap [testPair₁, testPair₂] where
  isChain := .cons_cons ⟨by decide, rfl⟩ (.singleton _)
  root_lt := by
    intro pair hpair
    rw [← Option.some.inj hpair]
    decide

def evenSystem : System TestTypes := (run System.step (.new .bootstrap) evenActions).get rfl

def unevenSystem : System TestTypes := (run System.step (.new .bootstrap) unevenActions).get rfl

theorem spawnsAll_iff_forksEvenly_evenActions : SpawnsAll [testPair₁, testPair₂] evenSystem :=
  have hdrains : Drains .bootstrap [testPair₁, testPair₂] evenActions evenSystem :=
    ⟨rfl, rfl, rfl, by decide⟩
  ((spawnsAll_iff_forksEvenly isChainOn_testPairs hdrains).mpr (by decide)).1

theorem not_spawnsAll : ¬ ∀ (root : ParentBlockReferences TestTypes) chain actions system,
    IsChainOn root chain → Drains root chain actions system → SpawnsAll chain system := by
  intro h
  have hdrains : Drains .bootstrap [testPair₁, testPair₂] unevenActions unevenSystem :=
    ⟨rfl, rfl, rfl, by decide⟩
  have hspawned := h _ _ _ _ isChainOn_testPairs hdrains testPair₂ (by simp)
  exact absurd hspawned (by decide)

end Legacy

end BuilderCore
