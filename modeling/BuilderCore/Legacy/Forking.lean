import BuilderCore.Legacy.Spawning

/-!
This module contains what the steps of the legacy tasks preserve while all clones start evenly, and
what they preserve after one did not.
-/

namespace BuilderCore

open Collections Transition ProposalPair

variable {T : NodeType}

namespace Legacy

section

variable {root : ParentBlockReferences T} {chain : List (ProposalPair T)}

theorem Even.broadcast {system : System T} (h : Even root chain system)
    (daProposals : List (DaProposal2 T)) (quorumProposals : List T.QuorumProposalWrapper) :
    Even root chain { system with daProposals, quorumProposals } where
  spawns := ⟨h.spawns.root_spawned, h.spawns.known⟩
  closed := h.closed
  tasks := by
    intro task hmem
    obtain ⟨level, hlevel⟩ := h.tasks task hmem
    exact ⟨level, hlevel.mono fun _ h => h⟩
  running := h.running
  nodup := h.nodup
  pending := h.pending

/--
Every clone that is not registered yet starts at one place of both channels.
-/
def PendingEven (system : System T) : Prop :=
  ∀ task ∈ system.tasks, ∀ clone, task.phase.pending = some clone →
    task.state.daProposalReceiver = task.state.quorumProposalReceiver

theorem Even.of_change (hchain : IsChainOn root chain) {system system' : System T}
    {action : System.Action T} (h : Even root chain system) (hbroadcasts : Broadcasts chain system)
    (hregister : ∀ i state clone, action = .registerBuilderState i →
      system.tasks[i]? = some ⟨state, .absent clone⟩ →
        state.daProposalReceiver = state.quorumProposalReceiver)
    (hchange : System.Change system action system') : Even root chain system' := by
  cases hchange with
  | broadcastDaProposal daProposal => exact h.broadcast _ _
  | broadcastQuorumProposal quorumProposal => exact h.broadcast _ _
  | nextDaProposal i state daProposal htask hnext state' matching hprocess =>
    obtain ⟨pair, hpair, rfl⟩ := getElem?_of_isPrefixOf hbroadcasts.da hnext
    apply h.setTask htask
    . obtain ⟨level, hlevel⟩ := h.tasks _ (List.mem_of_getElem? htask)
      exact (hlevel.reads.processDaProposal hchain.isChain hpair hprocess).2.1
    . intro level hlevel
      exact hlevel.nextDaProposal hchain hpair hprocess
    . simp [Phase.pending_ofPair]
  | nextQuorumProposal i state quorumProposal htask hnext state' matching hprocess =>
    obtain ⟨pair, hpair, rfl⟩ := getElem?_of_isPrefixOf hbroadcasts.quorum hnext
    apply h.setTask htask
    . obtain ⟨level, hlevel⟩ := h.tasks _ (List.mem_of_getElem? htask)
      exact (hlevel.reads.processQuorumProposal hchain.isChain hpair hprocess).2.1
    . intro level hlevel
      exact hlevel.nextQuorumProposal hchain hpair hprocess
    . simp [Phase.pending_ofPair]
  | fork i state daProposal quorumProposal htask hbest =>
    apply h.setTask htask rfl
    . intro level hlevel
      exact h.fork hchain hlevel hbest
    . intro clone hclone
      rw [← Option.some.inj hclone]
      exact (mem_bestBuilderStatesToExtend (of_decide_eq_true hbest)).1
  | leave i state daProposal quorumProposal htask hbest =>
    apply h.setTask htask rfl
    . intro level hlevel
      exact h.leave hchain hlevel hbest
    . intro clone hclone
      contradiction
  | abort i state clone htask hexists =>
    -- nobody else registers a state for the block
    have hnone := h.pending _ (List.mem_of_getElem? htask) clone rfl
    rw [hnone] at hexists
    contradiction
  | proceed i state clone htask hnone =>
    apply h.setTask htask rfl
    . intro level hlevel
      exact ⟨hlevel.isAt, hlevel.reads, hlevel.registered, hlevel.phase⟩
    . intro clone' hclone'
      exact h.pending _ (List.mem_of_getElem? htask) clone' hclone'
  | register i state clone htask =>
    exact h.register hchain ⟨htask, rfl, rfl⟩ (hregister i state clone rfl htask)

theorem Broadcasts.of_change {system system' : System T} {action : System.Action T}
    (h : Broadcasts chain system') (hchange : System.Change system action system') :
    Broadcasts chain system := by
  cases hchange with
  | broadcastDaProposal daProposal => exact ⟨(List.prefix_append _ _).trans h.da, h.quorum⟩
  | broadcastQuorumProposal quorumProposal =>
    exact ⟨h.da, (List.prefix_append _ _).trans h.quorum⟩
  | _ => exact ⟨h.da, h.quorum⟩

theorem PendingEven.set {system : System T} (h : PendingEven system) (i : Nat) {task : Task T}
    (htask : ∀ clone, task.phase.pending = some clone →
      task.state.daProposalReceiver = task.state.quorumProposalReceiver) :
    ∀ task' ∈ system.tasks.set i task, ∀ clone, task'.phase.pending = some clone →
      task'.state.daProposalReceiver = task'.state.quorumProposalReceiver := by
  intro task' hmem
  rcases List.mem_or_eq_of_mem_set hmem with hmem | rfl
  . exact h task' hmem
  . exact htask

theorem PendingEven.of_change {system system' : System T} {action : System.Action T}
    (h : PendingEven system) (heven : Even root chain system)
    (hforks : ForksEvenly system action) (hchange : System.Change system action system') :
    PendingEven system' := by
  cases hchange with
  | broadcastDaProposal daProposal => exact h
  | broadcastQuorumProposal quorumProposal => exact h
  | nextDaProposal i state daProposal htask hnext state' matching hprocess =>
    exact h.set i (by simp [Phase.pending_ofPair])
  | nextQuorumProposal i state quorumProposal htask hnext state' matching hprocess =>
    exact h.set i (by simp [Phase.pending_ofPair])
  | fork i state daProposal quorumProposal htask hbest =>
    obtain ⟨level, hlevel⟩ := heven.tasks _ (List.mem_of_getElem? htask)
    apply h.set i
    intro _ _
    exact hlevel.reads.receivers_eq_iff.mpr (hforks state (by simp [System.forks, htask, hbest]))
  | leave i state daProposal quorumProposal htask hbest => exact h.set i (by simp [Phase.pending])
  | abort i state clone htask hexists => exact h.set i (by simp [Phase.pending])
  | proceed i state clone htask hnone =>
    apply h.set i
    intro _ _
    exact h ⟨state, .cloned clone⟩ (List.mem_of_getElem? htask) clone rfl
  | register i state clone htask =>
    intro task hmem
    rw [List.mem_append, List.mem_singleton] at hmem
    rcases hmem with hmem | rfl
    . exact h.set i (by simp [Phase.pending]) task hmem
    . simp [Phase.pending]

/--
A clone that is not registered yet starts at different places of the two channels.
-/
def PendingUneven (system : System T) : Prop :=
  ∃ (i : Nat) (task : Task T) (clone : BuilderState T), system.tasks[i]? = some task ∧
    task.phase.pending = some clone ∧
      task.state.daProposalReceiver ≠ task.state.quorumProposalReceiver

theorem PendingUneven.setTask {system : System T} (h : PendingUneven system) {i : Nat}
    {state state' : BuilderState T} {phase phase' : Phase T}
    (htask : system.tasks[i]? = some ⟨state, phase⟩)
    (hphase : ∀ clone, phase.pending = some clone → phase'.pending = some clone ∧ state' = state) :
    PendingUneven (system.setTask i state' phase') := by
  obtain ⟨j, task, clone, hj, hclone, hne⟩ := h
  by_cases hij : i = j
  . subst hij
    rw [htask, Option.some.injEq] at hj
    subst hj
    obtain ⟨hclone', rfl⟩ := hphase clone hclone
    have hlt := (List.getElem?_eq_some_iff.mp htask).1
    exact ⟨i, ⟨state', phase'⟩, clone, by simp [System.setTask, hlt], hclone', hne⟩
  . refine ⟨j, task, clone, ?_, hclone, hne⟩
    rw [System.setTask, List.getElem?_set_ne hij]
    exact hj

/--
A clone has started at `level + 1` with a message of the next block behind it. It never completes the
pair of that block, and all others leave it to the clone.
-/
structure LostTask (root : ParentBlockReferences T) (chain : List (ProposalPair T)) (level : Nat)
    (task : Task T) (level' : Nat) : Prop where
  isAt : IsAt root chain level' task.state.parentBlockReferences
  reads : ∃ daStart quorumStart, Reads chain task.state daStart quorumStart ∧
    (level' = level + 1 → level + 2 ≤ max daStart quorumStart)
  paired : ∀ daProposal quorumProposal, task.phase = .paired daProposal quorumProposal →
    ∃ (i : Nat) (pair : ProposalPair T), chain[i]? = some pair ∧
      quorumProposal = pair.quorumProposal ∧ (level' = level + 1 → i ≠ level + 1)
  clones : ∀ clone, task.phase.pending = some clone →
    ∃ (i : Nat) (pair : ProposalPair T), chain[i]? = some pair ∧
      clone = task.state.cloneWithReceiver.replaceParent pair.quorumProposal ∧
      i ≠ level ∧ i ≠ level + 1

structure Lost (root : ParentBlockReferences T) (chain : List (ProposalPair T)) (level : Nat)
    (system : System T) : Prop where
  lt_length : level + 1 < chain.length
  spawns : SpawnsChain root chain system
  registered : Registered chain system (level + 1)
  not_registered : ¬ Registered chain system (level + 2)
  tasks : ∀ task ∈ system.tasks, ∃ level', LostTask root chain level task level'

theorem Lost.setTask {level : Nat} {system : System T} (h : Lost root chain level system) {i : Nat}
    {state state' : BuilderState T} {phase phase' : Phase T}
    (htask : system.tasks[i]? = some ⟨state, phase⟩)
    (hnew : ∀ level', LostTask root chain level ⟨state, phase⟩ level' →
      LostTask root chain level ⟨state', phase'⟩ level') :
    Lost root chain level (system.setTask i state' phase') where
  lt_length := h.lt_length
  spawns := ⟨h.spawns.root_spawned, h.spawns.known⟩
  registered := h.registered
  not_registered := h.not_registered
  tasks := by
    intro task hmem
    rcases List.mem_or_eq_of_mem_set hmem with hmem | rfl
    . exact h.tasks task hmem
    . obtain ⟨level', hlevel'⟩ := h.tasks _ (List.mem_of_getElem? htask)
      exact ⟨level', hnew level' hlevel'⟩

theorem LostTask.eventLoop {level level' : Nat} {state : BuilderState T} {phase : Phase T}
    (h : LostTask root chain level ⟨state, phase⟩ level') :
    LostTask root chain level ⟨state, .eventLoop⟩ level' where
  isAt := h.isAt
  reads := h.reads
  paired := by simp
  clones := by simp [Phase.pending]

theorem LostTask.ofPair {level level' i : Nat} {state : BuilderState T} {pair : ProposalPair T}
    {matching : Option (DaProposal2 T × T.QuorumProposalWrapper)} {completes : Prop}
    [Decidable completes] (hat : IsAt root chain level' state.parentBlockReferences)
    (hreads : ∃ daStart quorumStart, Reads chain state daStart quorumStart ∧
      (level' = level + 1 → level + 2 ≤ max daStart quorumStart))
    (hmatching : matching =
      if completes then some (pair.daProposal, pair.quorumProposal) else none)
    (hpair : chain[i]? = some pair) (hne : completes → level' = level + 1 → i ≠ level + 1) :
    LostTask root chain level ⟨state, .ofPair matching⟩ level' where
  isAt := hat
  reads := hreads
  paired := by
    intro daProposal quorumProposal hphase
    split at hmatching
    . next hcompletes =>
      simp only [hmatching, Phase.ofPair, Phase.paired.injEq] at hphase
      exact ⟨i, pair, hpair, hphase.2.symm, hne hcompletes⟩
    . simp [hmatching, Phase.ofPair] at hphase
  clones := by simp [Phase.pending_ofPair]

theorem LostTask.nextDaProposal (hchain : IsChainOn root chain) {level level' : Nat}
    {state state' : BuilderState T}
    {matching : Option (DaProposal2 T × T.QuorumProposalWrapper)}
    (h : LostTask root chain level ⟨state, .eventLoop⟩ level') {pair : ProposalPair T}
    (hpair : chain[state.daProposalReceiver]? = some pair)
    (hprocess : BuilderState.processDaProposal
      { state with daProposalReceiver := state.daProposalReceiver + 1 } pair.daProposal =
        (state', matching)) :
    LostTask root chain level ⟨state', .ofPair matching⟩ level' := by
  obtain ⟨daStart, quorumStart, hreads, hmax⟩ := h.reads
  obtain ⟨hreads', hrefs, -, -, hmatching⟩ :=
    hreads.processDaProposal hchain.isChain hpair hprocess
  refine .ofPair (hrefs ▸ h.isAt) ⟨daStart, quorumStart, hreads', hmax⟩ hmatching hpair ?_
  rintro ⟨hstart, -⟩ hlevel
  have := hreads.daStart_le
  have := hmax hlevel
  dsimp only at *
  omega

theorem LostTask.nextQuorumProposal (hchain : IsChainOn root chain) {level level' : Nat}
    {state state' : BuilderState T}
    {matching : Option (DaProposal2 T × T.QuorumProposalWrapper)}
    (h : LostTask root chain level ⟨state, .eventLoop⟩ level') {pair : ProposalPair T}
    (hpair : chain[state.quorumProposalReceiver]? = some pair)
    (hprocess : BuilderState.processQuorumProposal
      { state with quorumProposalReceiver := state.quorumProposalReceiver + 1 }
        pair.quorumProposal = (state', matching)) :
    LostTask root chain level ⟨state', .ofPair matching⟩ level' := by
  obtain ⟨daStart, quorumStart, hreads, hmax⟩ := h.reads
  obtain ⟨hreads', hrefs, -, -, hmatching⟩ :=
    hreads.processQuorumProposal hchain.isChain hpair hprocess
  refine .ofPair (hrefs ▸ h.isAt) ⟨daStart, quorumStart, hreads', hmax⟩ hmatching hpair ?_
  rintro ⟨hstart, -⟩ hlevel
  have := hreads.quorumStart_le
  have := hmax hlevel
  dsimp only at *
  omega

theorem Lost.fork (hchain : IsChainOn root chain) {level level' : Nat} {system : System T}
    (h : Lost root chain level system) {state : BuilderState T} {daProposal : DaProposal2 T}
    {quorumProposal : T.QuorumProposalWrapper}
    (htask : LostTask root chain level ⟨state, .paired daProposal quorumProposal⟩ level')
    (hbest : system.amITheBestBuilderStateToExtend state quorumProposal = true) :
    LostTask root chain level
      ⟨state, .cloned (state.cloneWithReceiver.replaceParent quorumProposal)⟩ level' := by
  obtain ⟨i, pair, hpair, rfl, hi⟩ := htask.paired daProposal quorumProposal rfl
  have hbest := of_decide_eq_true hbest
  refine ⟨htask.isAt, htask.reads, by simp, ?_⟩
  intro clone hclone
  refine ⟨i, pair, hpair, (Option.some.inj hclone).symm, ?_, ?_⟩
  . rintro rfl
    have hnone := (mem_bestBuilderStatesToExtend hbest).1
    exact (not_registered_iff hpair).mpr hnone h.registered
  -- only the state of the block before is a fit for the lost block
  . rintro rfl
    obtain ⟨own, hown, -⟩ := h.registered
    have hexisting := h.spawns.existing_of_registered hchain hown hpair h.registered
    have hid := h.spawns.eq_of_existing hchain hown hpair
      (mem_existingStates_of_best hbest hexisting)
    exact hi (htask.isAt.eq_succ hchain hown (congrArg BuilderStateId.parentView hid)) rfl

theorem Lost.register (hchain : IsChainOn root chain) {level : Nat} {system system' : System T}
    (h : Lost root chain level system) {i : Nat} {state clone : BuilderState T}
    (hregisters : Registers system i state clone system') : Lost root chain level system' := by
  obtain ⟨level', hparent⟩ := h.tasks _ (List.mem_of_getElem? hregisters.task)
  obtain ⟨j, pair, hpair, hclone, hne, hne'⟩ := hparent.clones clone rfl
  dsimp only at hclone
  subst hclone
  have hrefs : RefersTo pair.quorumProposal
      (state.cloneWithReceiver.replaceParent pair.quorumProposal).parentBlockReferences := ⟨rfl, rfl⟩
  have hspawned : system'.spawnedBuilderStates =
      system.spawnedBuilderStates.insert pair.stateId _ := hregisters.spawned
  have hregistered : ∀ level', Registered chain system' level' ↔
      level' = j + 1 ∨ Registered chain system level' :=
    fun level' => registered_insert_iff hchain hpair hspawned
  constructor
  . exact h.lt_length
  . exact h.spawns.insert hchain hpair hrefs hspawned
  . exact (hregistered _).mpr (.inr h.registered)
  . rw [hregistered]
    rintro (heq | h')
    . omega
    . exact h.not_registered h'
  . refine hregisters.forall_tasks ?_ ?_ ?_
    . intro task hmem _
      exact h.tasks task hmem
    . exact ⟨level', hparent.eventLoop⟩
    . obtain ⟨daStart, quorumStart, hreads, -⟩ := hparent.reads
      refine ⟨j + 1, ⟨pair, hpair, hrefs⟩, ⟨_, _, hreads.clone pair.quorumProposal, ?_⟩, ?_, ?_⟩
      . omega
      . simp
      . simp [Phase.pending]

theorem Lost.of_change (hchain : IsChainOn root chain) {level : Nat} {system system' : System T}
    {action : System.Action T} (h : Lost root chain level system)
    (hbroadcasts : Broadcasts chain system) (hchange : System.Change system action system') :
    Lost root chain level system' := by
  cases hchange with
  | broadcastDaProposal daProposal =>
    exact ⟨h.lt_length, ⟨h.spawns.root_spawned, h.spawns.known⟩, h.registered, h.not_registered,
      h.tasks⟩
  | broadcastQuorumProposal quorumProposal =>
    exact ⟨h.lt_length, ⟨h.spawns.root_spawned, h.spawns.known⟩, h.registered, h.not_registered,
      h.tasks⟩
  | nextDaProposal i state daProposal htask hnext state' matching hprocess =>
    obtain ⟨pair, hpair, rfl⟩ := getElem?_of_isPrefixOf hbroadcasts.da hnext
    apply h.setTask htask
    intro level' hlevel'
    exact hlevel'.nextDaProposal hchain hpair hprocess
  | nextQuorumProposal i state quorumProposal htask hnext state' matching hprocess =>
    obtain ⟨pair, hpair, rfl⟩ := getElem?_of_isPrefixOf hbroadcasts.quorum hnext
    apply h.setTask htask
    intro level' hlevel'
    exact hlevel'.nextQuorumProposal hchain hpair hprocess
  | fork i state daProposal quorumProposal htask hbest =>
    apply h.setTask htask
    intro level' hlevel'
    exact h.fork hchain hlevel' hbest
  | leave i state daProposal quorumProposal htask hbest =>
    apply h.setTask htask
    intro level' hlevel'
    exact hlevel'.eventLoop
  | abort i state clone htask hexists =>
    apply h.setTask htask
    intro level' hlevel'
    exact hlevel'.eventLoop
  | proceed i state clone htask hnone =>
    apply h.setTask htask
    intro level' hlevel'
    exact ⟨hlevel'.isAt, hlevel'.reads, by simp, hlevel'.clones⟩
  | register i state clone htask => exact h.register hchain ⟨htask, rfl, rfl⟩

theorem EvenTask.lostTask {system : System T} {task : Task T} {level level' : Nat}
    (h : EvenTask root chain system task level') (hne : level' ≠ level + 1)
    (hclones : ∀ clone, task.phase.pending = some clone → level' ≠ level) :
    LostTask root chain level task level' where
  isAt := h.isAt
  reads := ⟨level', level', h.reads, fun heq => absurd heq hne⟩
  paired := by
    intro daProposal quorumProposal hphase
    have hpaired := h.phase
    rw [hphase] at hpaired
    obtain ⟨i, pair, hpair, hquorum, -⟩ := hpaired
    exact ⟨i, pair, hpair, hquorum, fun heq => absurd heq hne⟩
  clones := by
    intro clone hclone
    have hphase := h.phase
    rcases task with ⟨state, phase⟩
    cases phase with
    | eventLoop => contradiction
    | paired daProposal quorumProposal => contradiction
    | cloned clone' | absent clone' =>
      obtain ⟨-, pair, hpair, hclone'⟩ := hphase
      rw [← Option.some.inj hclone]
      exact ⟨level', pair, hpair, hclone', hclones clone hclone, hne⟩

theorem Even.lost (hchain : IsChainOn root chain) {system system' : System T}
    (h : Even root chain system) {i : Nat} {state clone : BuilderState T}
    (hregisters : Registers system i state clone system')
    (huneven : state.daProposalReceiver ≠ state.quorumProposalReceiver) :
    ∃ level, Lost root chain level system' := by
  obtain ⟨level, pair, hparent, hpair, hrefs, hnew, hspawns, hregistered⟩ :=
    h.registers hchain hregisters
  obtain ⟨hmin, _, _, _, _, hreads, -⟩ := hparent.clone rfl
  dsimp only at hmin hreads
  refine ⟨level, ?_, hspawns, ?_, ?_, ?_⟩
  . have := hparent.reads.da_le
    have := hparent.reads.quorum_le
    dsimp only at *
    omega
  . exact (hregistered _).mpr (.inl rfl)
  . rw [hregistered]
    rintro (heq | h')
    . omega
    . exact hnew (h.closed _ h')
  . refine hregisters.forall_tasks ?_ ?_ ?_
    . intro task hmem hkept
      obtain ⟨level', hlevel'⟩ := h.tasks task hmem
      refine ⟨level', hlevel'.lostTask ?_ ?_⟩
      . rintro rfl
        exact hnew hlevel'.registered
      . intro clone' hclone'
        exact h.level_ne hregisters.task hkept hclone' hparent.isAt hlevel'.isAt
    . refine ⟨level, hparent.isAt, ⟨level, level, hparent.reads, ?_⟩, by simp, ?_⟩
      . omega
      . simp [Phase.pending]
    . refine ⟨level + 1, ⟨pair, hpair, hrefs⟩, ⟨_, _, hreads, ?_⟩, by simp, ?_⟩
      . omega
      . simp [Phase.pending]

/--
A pair is lost, or it will be with the next registration of a clone that starts unevenly.
-/
def Loses (root : ParentBlockReferences T) (chain : List (ProposalPair T)) (system : System T) :
    Prop :=
  Even root chain system ∧ PendingUneven system ∨ ∃ level, Lost root chain level system

theorem Even.loses_of_register (hchain : IsChainOn root chain) {system system' : System T}
    (h : Even root chain system) (huneven : PendingUneven system) {i : Nat}
    {state clone : BuilderState T} (hregisters : Registers system i state clone system') :
    Loses root chain system' := by
  by_cases heven : state.daProposalReceiver = state.quorumProposalReceiver
  . left
    refine ⟨h.register hchain hregisters heven, ?_⟩
    obtain ⟨j, task, clone', hj, hclone', hne⟩ := huneven
    refine ⟨j, task, clone', ?_, hclone', hne⟩
    have hij : i ≠ j := by
      rintro rfl
      rw [hregisters.task, Option.some.injEq] at hj
      subst hj
      exact hne heven
    have hlt := (List.getElem?_eq_some_iff.mp hj).1
    rw [hregisters.tasks, List.getElem?_append_left (by simpa using hlt), List.getElem?_set_ne hij]
    exact hj
  . exact .inr (h.lost hchain hregisters heven)

theorem Loses.of_change (hchain : IsChainOn root chain) {system system' : System T}
    {action : System.Action T} (h : Loses root chain system)
    (hbroadcasts : Broadcasts chain system) (hchange : System.Change system action system') :
    Loses root chain system' := by
  rcases h with ⟨heven, huneven⟩ | ⟨level, hlost⟩
  . by_cases hregister : ∃ i state clone, action = .registerBuilderState i ∧
        system.tasks[i]? = some ⟨state, .absent clone⟩
    . obtain ⟨i, state, clone, rfl, htask⟩ := hregister
      cases hchange with
      | register _ state clone htask =>
        exact heven.loses_of_register hchain huneven ⟨htask, rfl, rfl⟩
    . left
      refine ⟨heven.of_change hchain hbroadcasts ?_ hchange, ?_⟩
      . intro i state clone haction htask
        exact absurd ⟨i, state, clone, haction, htask⟩ hregister
      . cases hchange with
        | broadcastDaProposal daProposal => exact huneven
        | broadcastQuorumProposal quorumProposal => exact huneven
        | nextDaProposal i state daProposal htask hnext state' matching hprocess =>
          exact huneven.setTask htask (by simp [Phase.pending])
        | nextQuorumProposal i state quorumProposal htask hnext state' matching hprocess =>
          exact huneven.setTask htask (by simp [Phase.pending])
        | fork i state daProposal quorumProposal htask hbest =>
          exact huneven.setTask htask (by simp [Phase.pending])
        | leave i state daProposal quorumProposal htask hbest =>
          exact huneven.setTask htask (by simp [Phase.pending])
        | abort i state clone htask hexists =>
          have hnone := heven.pending _ (List.mem_of_getElem? htask) clone rfl
          rw [hnone] at hexists
          contradiction
        | proceed i state clone htask hnone =>
          exact huneven.setTask htask (by simp [Phase.pending])
        | register i state clone htask => exact absurd ⟨i, state, clone, rfl, htask⟩ hregister
  . exact .inr ⟨level, hlost.of_change hchain hbroadcasts hchange⟩

/--
A task that forks while a proposal waits in it makes the system lose a pair.
-/
theorem Even.loses_of_not_forksEvenly (hchain : IsChainOn root chain) {system system' : System T}
    {action : System.Action T} (h : Even root chain system) (hbroadcasts : Broadcasts chain system)
    (hforks : ¬ ForksEvenly system action) (hchange : System.Change system action system') :
    Loses root chain system' := by
  have heven : ∀ i state clone, action = .registerBuilderState i →
      system.tasks[i]? = some ⟨state, .absent clone⟩ →
        state.daProposalReceiver = state.quorumProposalReceiver := by
    rintro i state clone rfl
    exact absurd (by simp [ForksEvenly, System.forks]) hforks
  refine .inl ⟨h.of_change hchain hbroadcasts heven hchange, ?_⟩
  cases hchange with
  | fork i state daProposal quorumProposal htask hbest =>
    obtain ⟨level, hlevel⟩ := h.tasks _ (List.mem_of_getElem? htask)
    have hlt := (List.getElem?_eq_some_iff.mp htask).1
    refine ⟨i, ⟨state, .cloned (state.cloneWithReceiver.replaceParent quorumProposal)⟩,
      state.cloneWithReceiver.replaceParent quorumProposal, ?_, rfl, ?_⟩
    . simp [System.setTask, hlt]
    intro heq
    apply hforks
    intro state' hstate'
    simp only [System.forks, htask, hbest, if_true, Option.mem_some_iff] at hstate'
    rw [← hstate']
    exact hlevel.reads.receivers_eq_iff.mp heq
  | leave i state daProposal quorumProposal htask hbest =>
    exact absurd (by simp [ForksEvenly, System.forks, htask, hbest]) hforks
  | _ => exact absurd (by simp [ForksEvenly, System.forks]) hforks

end

end Legacy

end BuilderCore
