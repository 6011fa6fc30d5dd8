import BuilderCore.Legacy.Tasks

/-!
This module contains which blocks of a chain the legacy tasks spawn a builder state for.
-/

namespace BuilderCore

open Collections Transition ProposalPair

variable {T : NodeType}

namespace Legacy

section

variable {root : ParentBlockReferences T} {chain : List (ProposalPair T)}

/--
The references are those of the first `level` blocks of the chain on top of the root.
-/
def IsAt (root : ParentBlockReferences T) (chain : List (ProposalPair T)) :
    Nat → ParentBlockReferences T → Prop
  | 0, refs => refs = root
  | level + 1, refs => ∃ pair, chain[level]? = some pair ∧ RefersTo pair.quorumProposal refs

structure IsChainOn (root : ParentBlockReferences T) (chain : List (ProposalPair T)) : Prop where
  isChain : chain.IsChain Extends
  root_lt : ∀ pair, chain[0]? = some pair → root.viewNumber < pair.viewNumber

theorem viewNumber_eq_of_refersTo {pair : ProposalPair T} {refs : ParentBlockReferences T}
    (h : RefersTo pair.quorumProposal refs) : refs.viewNumber = pair.viewNumber :=
  congrArg BuilderStateId.parentView h.1

theorem IsChainOn.root_lt_of_getElem? (h : IsChainOn root chain) {i : Nat} {pair : ProposalPair T}
    (hpair : chain[i]? = some pair) : root.viewNumber < pair.viewNumber := by
  cases i with
  | zero => exact h.root_lt pair hpair
  | succ i =>
    have hlt := (List.getElem?_eq_some_iff.mp hpair).1
    have hfirst : chain[0]? = some chain[0] := List.getElem?_eq_getElem (by omega)
    have := h.root_lt _ hfirst
    have := viewNumber_lt_of_lt h.isChain hfirst hpair (Nat.succ_pos i)
    omega

theorem IsChainOn.stateId_ne (h : IsChainOn root chain) {i : Nat} {pair : ProposalPair T}
    (hpair : chain[i]? = some pair) : pair.stateId ≠ root.id := by
  intro hid
  have hview : pair.viewNumber = root.viewNumber := congrArg BuilderStateId.parentView hid
  exact absurd hview.symm (Nat.ne_of_lt (h.root_lt_of_getElem? hpair))

theorem IsAt.viewNumber_lt (hchain : IsChainOn root chain) {level i : Nat}
    {refs : ParentBlockReferences T} (h : IsAt root chain level refs) {pair : ProposalPair T}
    (hpair : chain[i]? = some pair) (hle : level ≤ i) : refs.viewNumber < pair.viewNumber := by
  cases level with
  | zero =>
    rw [show refs = root from h]
    exact hchain.root_lt_of_getElem? hpair
  | succ level =>
    obtain ⟨own, hown, hrefs⟩ := h
    rw [viewNumber_eq_of_refersTo hrefs]
    exact viewNumber_lt_of_lt hchain.isChain hown hpair hle

theorem IsAt.eq_succ (hchain : IsChainOn root chain) {level i : Nat}
    {refs : ParentBlockReferences T} (h : IsAt root chain level refs) {pair : ProposalPair T}
    (hpair : chain[i]? = some pair) (hview : refs.viewNumber = pair.viewNumber) : level = i + 1 := by
  cases level with
  | zero =>
    rw [show refs = root from h] at hview
    exact absurd hview (Nat.ne_of_lt (hchain.root_lt_of_getElem? hpair))
  | succ level =>
    obtain ⟨own, hown, hrefs⟩ := h
    rw [viewNumber_eq_of_refersTo hrefs] at hview
    rw [index_eq_of_viewNumber_eq hchain.isChain hown hpair hview]

theorem IsAt.id_eq {level : Nat} {refs refs' : ParentBlockReferences T}
    (h : IsAt root chain level refs) (h' : IsAt root chain level refs') : refs.id = refs'.id := by
  cases level with
  | zero =>
    rw [show refs = root from h, show refs' = root from h']
  | succ level =>
    obtain ⟨pair, hpair, hrefs⟩ := h
    obtain ⟨pair', hpair', hrefs'⟩ := h'
    rw [hrefs.1, hrefs'.1, Option.some.inj (hpair.symm.trans hpair')]

theorem IsAt.unique (hchain : IsChainOn root chain) {level level' : Nat}
    {refs : ParentBlockReferences T} (h : IsAt root chain level refs)
    (h' : IsAt root chain level' refs) : level = level' := by
  cases level' with
  | zero =>
    cases level with
    | zero => rfl
    | succ level =>
      obtain ⟨pair, hpair, hrefs⟩ := h
      exact (IsAt.eq_succ hchain h' hpair (viewNumber_eq_of_refersTo hrefs)).symm
  | succ level' =>
    obtain ⟨pair, hpair, hrefs⟩ := h'
    exact IsAt.eq_succ hchain h hpair (viewNumber_eq_of_refersTo hrefs)

def Registered (chain : List (ProposalPair T)) (system : System T) (level : Nat) : Prop :=
  match level with
  | 0 => True
  | level + 1 => ∃ pair, chain[level]? = some pair ∧
      (system.spawnedBuilderStates.get? pair.stateId).isSome = true

structure SpawnsChain (root : ParentBlockReferences T) (chain : List (ProposalPair T))
    (system : System T) : Prop where
  root_spawned : ∃ sender, system.spawnedBuilderStates.get? root.id = some (none, sender)
  known : ∀ id refs sender, system.spawnedBuilderStates.get? id = some (refs, sender) →
    id = root.id ∧ refs = none ∨ ∃ (i : Nat) (pair : ProposalPair T) (refs' : _),
      chain[i]? = some pair ∧ id = pair.stateId ∧ refs = some refs' ∧
        RefersTo pair.quorumProposal refs'

theorem getElem?_of_registered {system : System T} {level : Nat}
    (h : Registered chain system (level + 1)) {pair : ProposalPair T}
    (hpair : chain[level]? = some pair) :
    (system.spawnedBuilderStates.get? pair.stateId).isSome = true := by
  obtain ⟨pair', hpair', hsome⟩ := h
  rwa [Option.some.inj (hpair.symm.trans hpair')]

theorem not_registered_iff {system : System T} {level : Nat} {pair : ProposalPair T}
    (hpair : chain[level]? = some pair) :
    ¬ Registered chain system (level + 1) ↔
      system.spawnedBuilderStates.get? pair.stateId = none := by
  rw [← Option.not_isSome_iff_eq_none]
  constructor
  . intro h hsome
    exact h ⟨pair, hpair, hsome⟩
  . intro h hregistered
    exact h (getElem?_of_registered hregistered hpair)

theorem SpawnsChain.refersTo (hchain : IsChainOn root chain) {system : System T}
    (h : SpawnsChain root chain system) {i : Nat} {pair : ProposalPair T}
    (hpair : chain[i]? = some pair) {refs : Option (ParentBlockReferences T)} {sender : Nat}
    (hget : system.spawnedBuilderStates.get? pair.stateId = some (refs, sender)) :
    ∃ refs', refs = some refs' ∧ RefersTo pair.quorumProposal refs' := by
  rcases h.known _ _ _ hget with ⟨hid, -⟩ | ⟨j, pair', refs', hpair', hid, hrefs, hrefersTo⟩
  . exact absurd hid (hchain.stateId_ne hpair)
  . have := index_eq_of_viewNumber_eq hchain.isChain hpair hpair'
      (viewNumber_eq_of_stateId_eq hid)
    subst this
    rw [Option.some.inj (hpair.symm.trans hpair')]
    exact ⟨refs', hrefs, hrefersTo⟩

theorem SpawnsChain.eq_of_existing (hchain : IsChainOn root chain) {system : System T}
    (h : SpawnsChain root chain system) {i : Nat} {pair next : ProposalPair T}
    (hpair : chain[i]? = some pair) (hnext : chain[i + 1]? = some next) {id : BuilderStateId T}
    (hexisting :
      id ∈ existingStates (T.justifyQc next.quorumProposal) system.spawnedBuilderStates) :
    id = pair.stateId := by
  -- the views tell the blocks apart, and the root has no references
  obtain ⟨refs, sender, hget, -, hview⟩ := mem_existingStates_iff.mp hexisting
  rw [(extends_of_getElem? hchain.isChain hpair hnext).justifyQc_eq] at hview
  rcases h.known _ _ _ hget with ⟨-, hnone⟩ | ⟨j, pair', refs', hpair', rfl, hrefs, hrefersTo⟩
  . contradiction
  . rw [Option.some.injEq] at hrefs
    subst hrefs
    rw [viewNumber_eq_of_refersTo hrefersTo] at hview
    have := index_eq_of_viewNumber_eq hchain.isChain hpair' hpair hview
    subst this
    rw [Option.some.inj (hpair.symm.trans hpair')]

theorem SpawnsChain.existing_of_registered (hchain : IsChainOn root chain) {system : System T}
    (h : SpawnsChain root chain system) {i : Nat} {pair next : ProposalPair T}
    (hpair : chain[i]? = some pair) (hnext : chain[i + 1]? = some next)
    (hregistered : Registered chain system (i + 1)) :
    pair.stateId ∈
      existingStates (T.justifyQc next.quorumProposal) system.spawnedBuilderStates := by
  obtain ⟨⟨refs, sender⟩, hget⟩ :=
    Option.isSome_iff_exists.mp (getElem?_of_registered hregistered hpair)
  obtain ⟨refs', rfl, hrefersTo⟩ := h.refersTo hchain hpair hget
  rw [mem_existingStates_iff, (extends_of_getElem? hchain.isChain hpair hnext).justifyQc_eq]
  exact ⟨refs', sender, hget, hrefersTo.2, viewNumber_eq_of_refersTo hrefersTo⟩

theorem SpawnsChain.eq_of_best (hchain : IsChainOn root chain) {system : System T}
    (h : SpawnsChain root chain system) {level i : Nat} {state : BuilderState T}
    (hat : IsAt root chain level state.parentBlockReferences) {pair : ProposalPair T}
    (hpair : chain[i]? = some pair) (hle : level ≤ i)
    (hregistered : level < i → Registered chain system (level + 1))
    (hbest : system.amITheBestBuilderStateToExtend state pair.quorumProposal = true) :
    level = i ∧ system.spawnedBuilderStates.get? pair.stateId = none := by
  obtain ⟨hnew, hrest⟩ := mem_bestBuilderStatesToExtend (of_decide_eq_true hbest)
  refine ⟨?_, hnew⟩
  rcases Nat.lt_or_eq_of_le hle with hlt | heq
  -- for a block further up the state right below it or the one of `level + 1` is a better fit
  . rcases hrest with hexisting | hmax
    . obtain ⟨i, rfl⟩ : ∃ i', i = i' + 1 := ⟨i - 1, by omega⟩
      have hlength := (List.getElem?_eq_some_iff.mp hpair).1
      have hbefore : chain[i]? = some chain[i] := List.getElem?_eq_getElem (by omega)
      have hid := h.eq_of_existing hchain hbefore hpair hexisting
      exact hat.eq_succ hchain hbefore (congrArg BuilderStateId.parentView hid)
    . obtain ⟨own, hown, hsome⟩ := hregistered hlt
      have hkey : own.stateId ∈ system.spawnedBuilderStates.keys :=
        HashMap.mem_keys_iff.mpr (Option.isSome_iff_exists.mp hsome)
      have hbelow : own.viewNumber < pair.viewNumber :=
        viewNumber_lt_of_lt hchain.isChain hown hpair hlt
      have hle : own.viewNumber ≤ state.parentBlockReferences.viewNumber :=
        hmax own.stateId hkey hbelow
      have := hat.viewNumber_lt hchain hown (Nat.le_refl level)
      omega
  . exact heq

theorem SpawnsChain.best_of_registered (hchain : IsChainOn root chain) {system : System T}
    (h : SpawnsChain root chain system)
    (hclosed : ∀ level, Registered chain system (level + 1) → Registered chain system level)
    {level : Nat} {state : BuilderState T}
    (hat : IsAt root chain level state.parentBlockReferences) {pair : ProposalPair T}
    (hpair : chain[level]? = some pair) (hregistered : Registered chain system level)
    (hnew : ¬ Registered chain system (level + 1)) :
    system.amITheBestBuilderStateToExtend state pair.quorumProposal = true := by
  apply decide_eq_true
  have hnone := (not_registered_iff hpair).mp hnew
  cases level with
  | zero =>
    have hnothing : ∀ i, ¬ Registered chain system (i + 1) := by
      intro i
      induction i with
      | zero => exact hnew
      | succ i ih => exact fun h => ih (hclosed _ h)
    have hroot : ∀ id refs sender, system.spawnedBuilderStates.get? id = some (refs, sender) →
        id = root.id ∧ refs = none := by
      intro id refs sender hget
      rcases h.known _ _ _ hget with hroot | ⟨i, pair', refs', hpair', rfl, -⟩
      . exact hroot
      . exact absurd ⟨pair', hpair', by rw [hget]; rfl⟩ (hnothing i)
    have hid : state.id = root.id := congrArg ParentBlockReferences.id hat
    rw [hid]
    apply mem_bestBuilderStatesToExtend_of_below hnone
    . rw [List.eq_nil_iff_forall_not_mem]
      intro id hexisting
      obtain ⟨refs, sender, hget, -⟩ := mem_existingStates_iff.mp hexisting
      have := (hroot _ _ _ hget).2
      contradiction
    . obtain ⟨sender, hget⟩ := h.root_spawned
      exact HashMap.mem_keys_iff.mpr ⟨_, hget⟩
    . exact hchain.root_lt_of_getElem? hpair
    . intro id hid _
      obtain ⟨⟨refs, sender⟩, hget⟩ := HashMap.mem_keys_iff.mp hid
      rw [(hroot _ _ _ hget).1]
  | succ level =>
    obtain ⟨own, hown, hrefs⟩ := hat
    apply mem_bestBuilderStatesToExtend_of_existing hnone
    rw [show state.id = own.stateId from hrefs.1]
    exact h.existing_of_registered hchain hown hpair hregistered

/--
A task at `level` has forked, if at all, for the block right above its own, and has left to others
only blocks further up.
-/
def EvenPhase (chain : List (ProposalPair T)) (system : System T) (state : BuilderState T)
    (level : Nat) : Phase T → Prop
  | .eventLoop => level < state.daProposalReceiver → level < state.quorumProposalReceiver →
      Registered chain system (level + 1)
  | .paired _ quorumProposal => ∃ (i : Nat) (pair : ProposalPair T), chain[i]? = some pair ∧
      quorumProposal = pair.quorumProposal ∧ level ≤ i ∧
      i + 1 = min state.daProposalReceiver state.quorumProposalReceiver ∧
      (level < i → Registered chain system (level + 1))
  | .cloned clone | .absent clone =>
      level + 1 = min state.daProposalReceiver state.quorumProposalReceiver ∧
        ∃ pair : ProposalPair T, chain[level]? = some pair ∧
          clone = state.cloneWithReceiver.replaceParent pair.quorumProposal

structure EvenTask (root : ParentBlockReferences T) (chain : List (ProposalPair T))
    (system : System T) (task : Task T) (level : Nat) : Prop where
  isAt : IsAt root chain level task.state.parentBlockReferences
  reads : Reads chain task.state level level
  registered : Registered chain system level
  phase : EvenPhase chain system task.state level task.phase

/--
What holds as long as every clone has started evenly. The spawned states are those of the first blocks
of the chain, each has its task, and no clone that is on its way has a state already.
-/
structure Even (root : ParentBlockReferences T) (chain : List (ProposalPair T))
    (system : System T) : Prop where
  spawns : SpawnsChain root chain system
  closed : ∀ level, Registered chain system (level + 1) → Registered chain system level
  tasks : ∀ task ∈ system.tasks, ∃ level, EvenTask root chain system task level
  running : ∀ level, Registered chain system level → ∃ task ∈ system.tasks,
    IsAt root chain level task.state.parentBlockReferences
  nodup : (system.tasks.map fun task => task.state.id).Nodup
  pending : ∀ task ∈ system.tasks, ∀ clone, task.phase.pending = some clone →
    system.spawnedBuilderStates.get? clone.id = none

theorem EvenPhase.mono {system system' : System T} {state : BuilderState T} {level : Nat}
    {phase : Phase T} (h : EvenPhase chain system state level phase)
    (hregistered : ∀ level, Registered chain system level → Registered chain system' level) :
    EvenPhase chain system' state level phase := by
  cases phase with
  | eventLoop => exact fun hda hquorum => hregistered _ (h hda hquorum)
  | paired daProposal quorumProposal =>
    obtain ⟨i, pair, hpair, hquorum, hle, hmin, hlt⟩ := h
    exact ⟨i, pair, hpair, hquorum, hle, hmin, fun h => hregistered _ (hlt h)⟩
  | cloned clone => exact h
  | absent clone => exact h

theorem EvenTask.mono {system system' : System T} {task : Task T} {level : Nat}
    (h : EvenTask root chain system task level)
    (hregistered : ∀ level, Registered chain system level → Registered chain system' level) :
    EvenTask root chain system' task level where
  isAt := h.isAt
  reads := h.reads
  registered := hregistered _ h.registered
  phase := h.phase.mono hregistered

theorem even_new (hchain : IsChainOn root chain) : Even root chain (.new root) where
  spawns := by
    constructor
    . exact ⟨0, by simp [System.new]⟩
    . intro id refs sender hget
      simp only [System.new, HashMap.get?_insert] at hget
      split at hget
      . next hid =>
        simp only [Option.some.injEq, Prod.mk.injEq] at hget
        exact .inl ⟨hid, hget.1.symm⟩
      . simp at hget
  closed := by
    rintro level ⟨pair, hpair, hsome⟩
    simp only [System.new, HashMap.get?_insert] at hsome
    split at hsome
    . next hid => exact absurd hid (hchain.stateId_ne hpair)
    . simp at hsome
  tasks := by
    intro task htask
    rw [List.mem_singleton.mp htask]
    refine ⟨0, rfl, reads_new chain root, trivial, ?_⟩
    intro hda
    exact absurd hda (Nat.lt_irrefl 0)
  running := by
    rintro level hregistered
    cases level with
    | zero => exact ⟨_, List.mem_singleton_self _, rfl⟩
    | succ level =>
      obtain ⟨pair, hpair, hsome⟩ := hregistered
      simp only [System.new, HashMap.get?_insert] at hsome
      split at hsome
      . next hid => exact absurd hid (hchain.stateId_ne hpair)
      . simp at hsome
  nodup := List.nodup_singleton _
  pending := by
    intro task htask clone hclone
    rw [List.mem_singleton.mp htask] at hclone
    contradiction

theorem exists_mem_set {tasks : List (Task T)} {i : Nat} {state state' : BuilderState T}
    {phase phase' : Phase T} {task : Task T} (htask : tasks[i]? = some ⟨state, phase⟩)
    (hrefs : state'.parentBlockReferences = state.parentBlockReferences) (hmem : task ∈ tasks) :
    ∃ task' ∈ tasks.set i ⟨state', phase'⟩,
      task'.state.parentBlockReferences = task.state.parentBlockReferences := by
  obtain ⟨j, hj⟩ := List.getElem?_of_mem hmem
  by_cases hi : i = j
  . subst hi
    rw [htask, Option.some.injEq] at hj
    subst hj
    exact ⟨_, List.mem_set (List.getElem?_eq_some_iff.mp htask).1 _, hrefs⟩
  . refine ⟨task, ?_, rfl⟩
    apply List.mem_of_getElem? (i := j)
    rwa [List.getElem?_set_ne hi]

theorem map_id_set {tasks : List (Task T)} {i : Nat} {state state' : BuilderState T}
    {phase phase' : Phase T} (htask : tasks[i]? = some ⟨state, phase⟩)
    (hrefs : state'.parentBlockReferences = state.parentBlockReferences) :
    (tasks.set i ⟨state', phase'⟩).map (fun task => task.state.id) =
      tasks.map fun task => task.state.id := by
  have hid : state'.id = state.id := congrArg ParentBlockReferences.id hrefs
  obtain ⟨hlt, hget⟩ := List.getElem?_eq_some_iff.mp htask
  have hlt : i < (tasks.map fun task => task.state.id).length := by rwa [List.length_map]
  have hself : state.id = (tasks.map fun task => task.state.id)[i] := by
    rw [List.getElem_map, hget]
  rw [List.map_set, hid, hself, List.set_getElem_self]

theorem Even.setTask {system : System T} (h : Even root chain system) {i : Nat}
    {state state' : BuilderState T} {phase phase' : Phase T}
    (htask : system.tasks[i]? = some ⟨state, phase⟩)
    (hrefs : state'.parentBlockReferences = state.parentBlockReferences)
    (hnew : ∀ level, EvenTask root chain system ⟨state, phase⟩ level →
      EvenTask root chain system ⟨state', phase'⟩ level)
    (hpending : ∀ clone, phase'.pending = some clone →
      system.spawnedBuilderStates.get? clone.id = none) :
    Even root chain (system.setTask i state' phase') where
  spawns := ⟨h.spawns.root_spawned, h.spawns.known⟩
  closed := h.closed
  tasks := by
    intro task hmem
    rcases List.mem_or_eq_of_mem_set hmem with hmem | rfl
    . obtain ⟨level, hlevel⟩ := h.tasks task hmem
      exact ⟨level, hlevel.mono fun _ h => h⟩
    . obtain ⟨level, hlevel⟩ := h.tasks _ (List.mem_of_getElem? htask)
      exact ⟨level, (hnew level hlevel).mono fun _ h => h⟩
  running := by
    intro level hregistered
    obtain ⟨task, hmem, hat⟩ := h.running level hregistered
    obtain ⟨task', hmem', hrefs'⟩ := exists_mem_set htask hrefs hmem
    exact ⟨task', hmem', hrefs' ▸ hat⟩
  nodup := by
    rw [System.setTask, map_id_set htask hrefs]
    exact h.nodup
  pending := by
    intro task hmem clone hclone
    rcases List.mem_or_eq_of_mem_set hmem with hmem | rfl
    . exact h.pending task hmem clone hclone
    . exact hpending clone hclone

structure Broadcasts (chain : List (ProposalPair T)) (system : System T) : Prop where
  da : system.daProposals <+: chain.map daProposal
  quorum : system.quorumProposals <+: chain.map quorumProposal

theorem getElem?_of_isPrefixOf {α : Type} {f : ProposalPair T → α} {messages : List α}
    (h : messages <+: chain.map f) {i : Nat} {message : α} (hget : messages[i]? = some message) :
    ∃ pair : ProposalPair T, chain[i]? = some pair ∧ f pair = message := by
  obtain ⟨rest, hrest⟩ := h
  have hlt := (List.getElem?_eq_some_iff.mp hget).1
  rw [← List.getElem?_append_left hlt, hrest, List.getElem?_map, Option.map_eq_some_iff] at hget
  exact hget

def System.forks (system : System T) (action : System.Action T) : Option (BuilderState T) :=
  match action with
  | .spawnCloneThatExtendsSelf i =>
    match system.tasks[i]? with
    | some ⟨state, .paired _ quorumProposal⟩ =>
      if system.amITheBestBuilderStateToExtend state quorumProposal then some state else none
    | _ => none
  | _ => none

/--
No proposal waits in a task that forks.
-/
def ForksEvenly (system : System T) (action : System.Action T) : Prop :=
  ∀ state ∈ system.forks action, state.daProposals.len = 0 ∧ state.quorumProposals.len = 0

instance (system : System T) (action : System.Action T) :
    Decidable (ForksEvenly system action) :=
  inferInstanceAs (Decidable (∀ state ∈ system.forks action, _))

theorem EvenTask.nextDaProposal (hchain : IsChainOn root chain) {system : System T}
    {state state' : BuilderState T} {level : Nat}
    {matching : Option (DaProposal2 T × T.QuorumProposalWrapper)}
    (h : EvenTask root chain system ⟨state, .eventLoop⟩ level) {pair : ProposalPair T}
    (hpair : chain[state.daProposalReceiver]? = some pair)
    (hprocess : BuilderState.processDaProposal
      { state with daProposalReceiver := state.daProposalReceiver + 1 } pair.daProposal =
        (state', matching)) :
    EvenTask root chain system ⟨state', .ofPair matching⟩ level := by
  have hphase : level < state.daProposalReceiver → level < state.quorumProposalReceiver →
      Registered chain system (level + 1) := h.phase
  have hstart : level ≤ state.daProposalReceiver := h.reads.daStart_le
  obtain ⟨hreads, hrefs, hda, hquorum, rfl⟩ :=
    h.reads.processDaProposal hchain.isChain hpair hprocess
  dsimp only at hda hquorum
  refine ⟨?_, hreads, h.registered, ?_⟩
  . exact hrefs ▸ h.isAt
  . split
    . next hread =>
      dsimp only at hread
      refine ⟨state.daProposalReceiver, pair, hpair, rfl, hstart, ?_, ?_⟩
      . dsimp only
        omega
      . intro hlt
        exact hphase hlt (by omega)
    . next hread =>
      dsimp only at hread
      simp only [Phase.ofPair, EvenPhase]
      intro _ hlt
      exact hphase (by omega) (by omega)

theorem EvenTask.nextQuorumProposal (hchain : IsChainOn root chain) {system : System T}
    {state state' : BuilderState T} {level : Nat}
    {matching : Option (DaProposal2 T × T.QuorumProposalWrapper)}
    (h : EvenTask root chain system ⟨state, .eventLoop⟩ level) {pair : ProposalPair T}
    (hpair : chain[state.quorumProposalReceiver]? = some pair)
    (hprocess : BuilderState.processQuorumProposal
      { state with quorumProposalReceiver := state.quorumProposalReceiver + 1 }
        pair.quorumProposal = (state', matching)) :
    EvenTask root chain system ⟨state', .ofPair matching⟩ level := by
  have hphase : level < state.daProposalReceiver → level < state.quorumProposalReceiver →
      Registered chain system (level + 1) := h.phase
  have hstart : level ≤ state.quorumProposalReceiver := h.reads.quorumStart_le
  obtain ⟨hreads, hrefs, hda, hquorum, rfl⟩ :=
    h.reads.processQuorumProposal hchain.isChain hpair hprocess
  dsimp only at hda hquorum
  refine ⟨?_, hreads, h.registered, ?_⟩
  . exact hrefs ▸ h.isAt
  . split
    . next hread =>
      dsimp only at hread
      refine ⟨state.quorumProposalReceiver, pair, hpair, rfl, hstart, ?_, ?_⟩
      . dsimp only
        omega
      . intro hlt
        exact hphase (by omega) hlt
    . next hread =>
      dsimp only at hread
      simp only [Phase.ofPair, EvenPhase]
      intro hlt _
      exact hphase (by omega) (by omega)

theorem Even.fork (hchain : IsChainOn root chain) {system : System T}
    (h : Even root chain system) {state : BuilderState T} {level : Nat} {daProposal : DaProposal2 T}
    {quorumProposal : T.QuorumProposalWrapper}
    (htask : EvenTask root chain system ⟨state, .paired daProposal quorumProposal⟩ level)
    (hbest : system.amITheBestBuilderStateToExtend state quorumProposal = true) :
    EvenTask root chain system
      ⟨state, .cloned (state.cloneWithReceiver.replaceParent quorumProposal)⟩ level := by
  obtain ⟨i, pair, hpair, rfl, hle, hmin, hregistered⟩ := htask.phase
  obtain ⟨rfl, -⟩ := h.spawns.eq_of_best hchain htask.isAt hpair hle hregistered hbest
  exact ⟨htask.isAt, htask.reads, htask.registered, hmin, pair, hpair, rfl⟩

theorem Even.leave (hchain : IsChainOn root chain) {system : System T}
    (h : Even root chain system) {state : BuilderState T} {level : Nat} {daProposal : DaProposal2 T}
    {quorumProposal : T.QuorumProposalWrapper}
    (htask : EvenTask root chain system ⟨state, .paired daProposal quorumProposal⟩ level)
    (hbest : system.amITheBestBuilderStateToExtend state quorumProposal = false) :
    EvenTask root chain system ⟨state, .eventLoop⟩ level := by
  obtain ⟨i, pair, hpair, rfl, hle, hmin, hregistered⟩ := htask.phase
  refine ⟨htask.isAt, htask.reads, htask.registered, ?_⟩
  intro _ _
  rcases Nat.lt_or_eq_of_le hle with hlt | rfl
  . exact hregistered hlt
  -- the block right above is left to another task only if it has a state
  . by_contra hnew
    have := h.spawns.best_of_registered hchain h.closed htask.isAt hpair htask.registered hnew
    rw [hbest] at this
    contradiction

theorem registered_insert_iff (hchain : IsChainOn root chain) {system system' : System T}
    {spawned : Option (ParentBlockReferences T) × Nat} {level level' : Nat} {pair : ProposalPair T}
    (hpair : chain[level]? = some pair) (hspawned : system'.spawnedBuilderStates =
      system.spawnedBuilderStates.insert pair.stateId spawned) :
    Registered chain system' level' ↔ level' = level + 1 ∨ Registered chain system level' := by
  cases level' with
  | zero => simp [Registered]
  | succ level' =>
    simp only [Registered, hspawned, HashMap.get?_insert]
    constructor
    . rintro ⟨pair', hpair', hsome⟩
      split at hsome
      . next hid =>
        left
        rw [index_eq_of_viewNumber_eq hchain.isChain hpair' hpair (viewNumber_eq_of_stateId_eq hid)]
      . exact .inr ⟨pair', hpair', hsome⟩
    . rintro (heq | ⟨pair', hpair', hsome⟩)
      . obtain rfl := Nat.succ.inj heq
        refine ⟨pair, hpair, ?_⟩
        rw [if_pos rfl]
        rfl
      . refine ⟨pair', hpair', ?_⟩
        split
        . rfl
        . exact hsome

theorem SpawnsChain.insert (hchain : IsChainOn root chain) {system system' : System T}
    (h : SpawnsChain root chain system) {refs : ParentBlockReferences T} {sender level : Nat}
    {pair : ProposalPair T} (hpair : chain[level]? = some pair)
    (hrefs : RefersTo pair.quorumProposal refs) (hspawned : system'.spawnedBuilderStates =
      system.spawnedBuilderStates.insert pair.stateId (some refs, sender)) :
    SpawnsChain root chain system' := by
  constructor
  . obtain ⟨rootSender, hget⟩ := h.root_spawned
    refine ⟨rootSender, ?_⟩
    rw [hspawned, HashMap.get?_insert, if_neg (hchain.stateId_ne hpair).symm, hget]
  . intro id refs' sender' hget
    rw [hspawned, HashMap.get?_insert] at hget
    split at hget
    . next hid =>
      rw [Option.some.injEq, Prod.mk.injEq] at hget
      exact .inr ⟨level, pair, refs, hpair, hid, hget.1.symm, hrefs⟩
    . exact h.known id refs' sender' hget

theorem EvenTask.clone {system : System T} {task : Task T} {clone : BuilderState T} {level : Nat}
    (h : EvenTask root chain system task level) (hclone : task.phase.pending = some clone) :
    level + 1 = min task.state.daProposalReceiver task.state.quorumProposalReceiver ∧
      ∃ pair : ProposalPair T, chain[level]? = some pair ∧ clone.id = pair.stateId ∧
        RefersTo pair.quorumProposal clone.parentBlockReferences ∧
        Reads chain clone task.state.daProposalReceiver task.state.quorumProposalReceiver ∧
        clone.daProposalReceiver = task.state.daProposalReceiver := by
  have hphase := h.phase
  rcases task with ⟨state, phase⟩
  cases phase with
  | eventLoop => contradiction
  | paired daProposal quorumProposal => contradiction
  | cloned clone' | absent clone' =>
    obtain ⟨hmin, pair, hpair, hclone'⟩ := hphase
    rw [← Option.some.inj hclone, hclone']
    exact ⟨hmin, pair, hpair, rfl, ⟨rfl, rfl⟩, h.reads.clone pair.quorumProposal, rfl⟩

/--
The task that registers its clone is the only one at its level.
-/
theorem Even.level_ne {system : System T} (h : Even root chain system) {i : Nat}
    {state clone clone' : BuilderState T} (htask : system.tasks[i]? = some ⟨state, .absent clone⟩)
    {task : Task T} (hmem : task ∈ system.tasks.set i ⟨state, .eventLoop⟩)
    (hclone : task.phase.pending = some clone') {level level' : Nat}
    (hat : IsAt root chain level state.parentBlockReferences)
    (hat' : IsAt root chain level' task.state.parentBlockReferences) : level' ≠ level := by
  rintro rfl
  have hnodup : ((system.tasks.set i ⟨state, .eventLoop⟩).map fun task => task.state.id).Nodup := by
    rw [map_id_set htask rfl]
    exact h.nodup
  have hself : ⟨state, .eventLoop⟩ ∈ system.tasks.set i ⟨state, .eventLoop⟩ :=
    List.mem_set (List.getElem?_eq_some_iff.mp htask).1 _
  have heq := List.inj_on_of_nodup_map hnodup hmem hself (hat'.id_eq hat)
  rw [heq] at hclone
  contradiction

/--
The task `i` has registered its clone, which runs from now on.
-/
structure Registers (system : System T) (i : Nat) (state clone : BuilderState T)
    (system' : System T) : Prop where
  task : system.tasks[i]? = some ⟨state, .absent clone⟩
  tasks : system'.tasks = system.tasks.set i ⟨state, .eventLoop⟩ ++ [⟨clone, .eventLoop⟩]
  spawned : system'.spawnedBuilderStates = system.spawnedBuilderStates.insert clone.id
    (some clone.parentBlockReferences, system.tasks.length)

theorem Registers.forall_tasks {system system' : System T} {i : Nat} {state clone : BuilderState T}
    (h : Registers system i state clone system') {P : Task T → Prop}
    (hold : ∀ task ∈ system.tasks, task ∈ system.tasks.set i ⟨state, .eventLoop⟩ → P task)
    (hstate : P ⟨state, .eventLoop⟩) (hclone : P ⟨clone, .eventLoop⟩) :
    ∀ task ∈ system'.tasks, P task := by
  intro task hmem
  rw [h.tasks, List.mem_append, List.mem_singleton] at hmem
  rcases hmem with hmem | rfl
  . rcases List.mem_or_eq_of_mem_set hmem with hold' | rfl
    . exact hold task hold' hmem
    . exact hstate
  . exact hclone

theorem Registers.exists_running {system system' : System T} {i : Nat}
    {state clone : BuilderState T} (h : Registers system i state clone system') {task : Task T}
    (hmem : task ∈ system.tasks) : ∃ task' ∈ system'.tasks,
      task'.state.parentBlockReferences = task.state.parentBlockReferences := by
  obtain ⟨task', hmem', hrefs⟩ : ∃ task' ∈ system.tasks.set i ⟨state, .eventLoop⟩,
      task'.state.parentBlockReferences = task.state.parentBlockReferences :=
    exists_mem_set h.task rfl hmem
  refine ⟨task', ?_, hrefs⟩
  rw [h.tasks]
  exact List.mem_append_left _ hmem'

/--
The clone is for the block right above the one of its task, and for that block there was no state.
-/
theorem Even.registers (hchain : IsChainOn root chain) {system system' : System T}
    (h : Even root chain system) {i : Nat} {state clone : BuilderState T}
    (hregisters : Registers system i state clone system') :
    ∃ level pair, EvenTask root chain system ⟨state, .absent clone⟩ level ∧
      chain[level]? = some pair ∧ RefersTo pair.quorumProposal clone.parentBlockReferences ∧
      ¬ Registered chain system (level + 1) ∧ SpawnsChain root chain system' ∧
      ∀ level', Registered chain system' level' ↔
        level' = level + 1 ∨ Registered chain system level' := by
  obtain ⟨level, hparent⟩ := h.tasks _ (List.mem_of_getElem? hregisters.task)
  obtain ⟨-, pair, hpair, hid, hrefs, -⟩ := hparent.clone rfl
  have hnew := h.pending _ (List.mem_of_getElem? hregisters.task) clone rfl
  have hspawned := hregisters.spawned
  rw [hid] at hnew hspawned
  exact ⟨level, pair, hparent, hpair, hrefs, (not_registered_iff hpair).mpr hnew,
    h.spawns.insert hchain hpair hrefs hspawned,
    fun level' => registered_insert_iff hchain hpair hspawned⟩

theorem Even.id_ne (hchain : IsChainOn root chain) {system : System T}
    (h : Even root chain system) {level : Nat} {pair : ProposalPair T}
    (hpair : chain[level]? = some pair) (hnew : ¬ Registered chain system (level + 1))
    {task : Task T} (hmem : task ∈ system.tasks) : task.state.id ≠ pair.stateId := by
  intro hid
  obtain ⟨level', hlevel'⟩ := h.tasks task hmem
  obtain rfl := hlevel'.isAt.eq_succ hchain hpair (congrArg BuilderStateId.parentView hid)
  exact hnew hlevel'.registered

theorem Even.register (hchain : IsChainOn root chain) {system system' : System T}
    (h : Even root chain system) {i : Nat} {state clone : BuilderState T}
    (hregisters : Registers system i state clone system')
    (heven : state.daProposalReceiver = state.quorumProposalReceiver) :
    Even root chain system' := by
  obtain ⟨level, pair, hparent, hpair, hrefs, hnew, hspawns, hregistered⟩ :=
    h.registers hchain hregisters
  have hself := (hregistered (level + 1)).mpr (.inl rfl)
  constructor
  . exact hspawns
  . intro level' h'
    rw [hregistered] at h' ⊢
    rcases h' with heq | h'
    . obtain rfl := Nat.succ.inj heq
      exact .inr hparent.registered
    . exact .inr (h.closed level' h')
  . refine hregisters.forall_tasks ?_ ?_ ?_
    . intro task hmem _
      obtain ⟨level', hlevel'⟩ := h.tasks task hmem
      exact ⟨level', hlevel'.mono fun level' h' => (hregistered level').mpr (.inr h')⟩
    . refine ⟨level, hparent.isAt, hparent.reads, ?_, fun _ _ => hself⟩
      exact (hregistered level).mpr (.inr hparent.registered)
    -- the clone starts right behind the proposals of its own block
    . obtain ⟨hmin, _, _, _, _, hreads, hreceiver⟩ := hparent.clone rfl
      dsimp only at hmin hreads hreceiver
      have hda : state.daProposalReceiver = level + 1 := by omega
      rw [← heven, hda] at hreads
      rw [hda] at hreceiver
      refine ⟨level + 1, ⟨pair, hpair, hrefs⟩, hreads, hself, ?_⟩
      intro hlt _
      exact absurd hlt (by simp [hreceiver])
  . intro level' h'
    rw [hregistered] at h'
    rcases h' with rfl | h'
    . refine ⟨⟨clone, .eventLoop⟩, ?_, pair, hpair, hrefs⟩
      simp [hregisters.tasks]
    . obtain ⟨task, hmem, hat⟩ := h.running level' h'
      obtain ⟨task', hmem', hrefs'⟩ := hregisters.exists_running hmem
      exact ⟨task', hmem', hrefs' ▸ hat⟩
  . rw [hregisters.tasks, List.map_append, map_id_set hregisters.task rfl, List.nodup_append]
    refine ⟨h.nodup, List.nodup_singleton _, ?_⟩
    rintro _ hmem _ hclone rfl
    rw [List.map_singleton, List.mem_singleton] at hclone
    obtain ⟨task, hmem, hid⟩ := List.mem_map.mp hmem
    exact h.id_ne hchain hpair hnew hmem (hid.trans (hclone.trans hrefs.1))
  . refine hregisters.forall_tasks ?_ ?_ ?_
    . intro task hmem hkept clone' hclone'
      obtain ⟨level', hlevel'⟩ := h.tasks task hmem
      obtain ⟨-, pair', hpair', hid', -⟩ := hlevel'.clone hclone'
      rw [hregisters.spawned, HashMap.get?_insert, if_neg]
      . exact h.pending task hmem clone' hclone'
      . rw [hid', show clone.id = pair.stateId from hrefs.1]
        intro heq
        exact h.level_ne hregisters.task hkept hclone' hparent.isAt hlevel'.isAt
          (index_eq_of_viewNumber_eq hchain.isChain hpair' hpair (viewNumber_eq_of_stateId_eq heq))
    . intro _ hclone'
      contradiction
    . intro _ hclone'
      contradiction

end

end Legacy

end BuilderCore
