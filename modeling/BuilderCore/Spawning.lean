import BuilderCore.Transition

/-!
This module contains loops that take events from a stream and spawn tasks for them, which run on a
shared state in any order, and the account of what the tasks have started and still have to start.
-/

universe u

namespace Spawning

open Transition

open scoped List

/--
`resume` is what a task does next, given a choice of its environment, and `after` is what is left of
the task then. An event without tasks to spawn makes the loop panic.
-/
structure Loop (σ α ε τ χ : Type u) where
  step : σ → α → Option σ
  spawn : ε → Option (List τ)
  resume : σ → τ → χ → Option α
  after : τ → χ → σ → List τ
  -- what others may do to the shared state
  isOutside : α → Bool

structure State (σ ε τ : Type u) where
  base : σ
  tasks : List τ
  taken : List ε
  running : Bool

inductive Action (α ε χ : Type u) where
  -- `none` is the end of the stream
  | next (event : Option ε)
  | resume (task : Nat) (choice : χ)
  | outside (action : α)

variable {σ α ε τ χ κ : Type u}

def Action.event (action : Action α ε χ) : Option ε :=
  match action with
  | .next event => event
  | .resume _ _ | .outside _ => none

def start (base : σ) : State σ ε τ := ⟨base, [], [], true⟩

def take (loop : Loop σ α ε τ χ) (s : State σ ε τ) (event : ε) : State σ ε τ :=
  match loop.spawn event with
  | none => { s with taken := s.taken ++ [event], running := false }
  | some tasks => { s with taken := s.taken ++ [event], tasks := s.tasks ++ tasks }

def step (loop : Loop σ α ε τ χ) (s : State σ ε τ) (action : Action α ε χ) :
    Option (State σ ε τ) :=
  match action with
  | .next none => if s.running then some { s with running := false } else none
  | .next (some event) => if s.running then some (take loop s event) else none
  | .resume i choice => do
    let task ← s.tasks[i]?
    let action ← loop.resume s.base task choice
    let base ← loop.step s.base action
    return { s with
      base, tasks := s.tasks.take i ++ loop.after task choice base ++ s.tasks.drop (i + 1) }
  | .outside action =>
    if loop.isOutside action then
      (loop.step s.base action).map fun base => { s with base }
    else
      none

inductive Change (loop : Loop σ α ε τ χ) (s : State σ ε τ) :
    Action α ε χ → State σ ε τ → Prop where
  | ended (hrunning : s.running = true) : Change loop s (.next none) { s with running := false }
  | take (event : ε) (hrunning : s.running = true) :
      Change loop s (.next (some event)) (take loop s event)
  | resume (before after : List τ) (task : τ) (choice : χ) (action : α) (base : σ)
      (htasks : s.tasks = before ++ task :: after) (hresume : loop.resume s.base task choice = some action)
      (hbase : loop.step s.base action = some base) :
      Change loop s (.resume before.length choice)
        { s with base, tasks := before ++ loop.after task choice base ++ after }
  | outside (action : α) (base : σ) (houtside : loop.isOutside action = true)
      (hbase : loop.step s.base action = some base) :
      Change loop s (.outside action) { s with base }

section

variable {loop : Loop σ α ε τ χ} {s s' : State σ ε τ} {action : Action α ε χ}

theorem change_of_step (h : step loop s action = some s') : Change loop s action s' := by
  cases action with
  | next event =>
    cases event with
    | none =>
      simp only [step, Option.ite_none_right_eq_some, Option.some.injEq] at h
      rw [← h.2]
      exact .ended h.1
    | some event =>
      simp only [step, Option.ite_none_right_eq_some, Option.some.injEq] at h
      rw [← h.2]
      exact .take event h.1
  | resume i choice =>
    simp only [step, Option.bind_eq_bind, Option.bind_eq_some_iff, Option.pure_def,
      Option.some.injEq] at h
    obtain ⟨task, htask, action, hresume, base, hbase, rfl⟩ := h
    obtain ⟨hlt, rfl⟩ := List.getElem?_eq_some_iff.mp htask
    have hlength : (s.tasks.take i).length = i := List.length_take_of_le (Nat.le_of_lt hlt)
    have htasks : s.tasks = s.tasks.take i ++ s.tasks[i] :: s.tasks.drop (i + 1) := by
      rw [← List.drop_eq_getElem_cons hlt, List.take_append_drop]
    have hchange := Change.resume _ _ _ choice action base htasks hresume hbase
    rwa [hlength] at hchange
  | outside action =>
    simp only [step, Option.ite_none_right_eq_some, Option.map_eq_some_iff] at h
    obtain ⟨houtside, base, hbase, rfl⟩ := h
    exact .outside action base houtside hbase

@[simp]
theorem base_take (event : ε) : (take loop s event).base = s.base := by
  unfold take
  split <;> rfl

/--
The shared state of a run is that of a run without the loop.
-/
theorem exists_run_base {as : List (Action α ε χ)} (hrun : run (step loop) s as = some s') :
    ∃ bs, run loop.step s.base bs = some s'.base := by
  apply run_invariant (P := fun t : State σ ε τ => ∃ bs, run loop.step s.base bs = some t.base) _
    ⟨[], rfl⟩ hrun
  rintro t action t' ⟨bs, hbs⟩ hstep
  cases change_of_step hstep with
  | ended => exact ⟨bs, hbs⟩
  | take event => exact ⟨bs, by rw [base_take, hbs]⟩
  | resume _ _ _ _ action base _ _ hbase =>
    exact ⟨bs ++ [action], run_concat_eq_some.mpr ⟨t.base, hbs, hbase⟩⟩
  | outside action base _ hbase =>
    exact ⟨bs ++ [action], run_concat_eq_some.mpr ⟨t.base, hbs, hbase⟩⟩

@[simp]
theorem taken_take (event : ε) : (take loop s event).taken = s.taken ++ [event] := by
  unfold take
  split <;> rfl

theorem taken_of_run {as : List (Action α ε χ)} (hrun : run (step loop) s as = some s') :
    s'.taken = s.taken ++ as.filterMap Action.event := by
  induction as generalizing s with
  | nil =>
    simp only [run_nil, Option.some.injEq] at hrun
    simp [hrun]
  | cons action as ih =>
    obtain ⟨s₁, hstep, hrun⟩ := run_cons_eq_some.mp hrun
    rw [ih hrun]
    cases change_of_step hstep with
    | take event => simp [Action.event]
    | _ => rfl

theorem running_take {event : ε} :
    (take loop s event).running = true ↔ s.running = true ∧ (loop.spawn event).isSome = true := by
  unfold take
  cases loop.spawn event <;> simp

/--
The loop goes on until the stream ends or an event makes it panic.
-/
theorem running_of_run {as : List (Action α ε χ)} (hrun : run (step loop) s as = some s') :
    s'.running = true ↔ s.running = true ∧ .next none ∉ as ∧
      ∀ event ∈ as.filterMap Action.event, (loop.spawn event).isSome = true := by
  induction as generalizing s with
  | nil =>
    simp only [run_nil, Option.some.injEq] at hrun
    simp [hrun]
  | cons action as ih =>
    obtain ⟨s₁, hstep, hrun⟩ := run_cons_eq_some.mp hrun
    rw [ih hrun]
    cases change_of_step hstep with
    | ended => simp
    | take event => simp [running_take, Action.event]; tauto
    | resume => simp [Action.event]
    | outside => simp [Action.event]

end

/--
What a task starts with a step, it owes no longer afterwards.
-/
def Accounts (loop : Loop σ α ε τ χ) (owes : τ → List κ) (starts : α → List κ) : Prop :=
  ∀ task choice action s s', loop.resume s task choice = some action →
    loop.step s action = some s' →
      (owes task).Perm (starts action ++ (loop.after task choice s').flatMap owes)

/--
What the tasks of an event owe when they are spawned.
-/
def owed (loop : Loop σ α ε τ χ) (owes : τ → List κ) (event : ε) : List κ :=
  ((loop.spawn event).getD []).flatMap owes

/--
What a task starts with an action of the run. What others start does not count.
-/
def started (loop : Loop σ α ε τ χ) (starts : α → List κ) (s : State σ ε τ)
    (action : Action α ε χ) : List κ :=
  match action with
  | .resume i choice =>
    (((s.tasks[i]?).bind fun task => loop.resume s.base task choice).map starts).getD []
  | .next _ | .outside _ => []

section

variable {loop : Loop σ α ε τ χ} {owes : τ → List κ} {starts : α → List κ} {s s' : State σ ε τ}
  {action : Action α ε χ}

theorem owes_take (event : ε) :
    (take loop s event).tasks.flatMap owes = s.tasks.flatMap owes ++ owed loop owes event := by
  unfold take owed
  cases loop.spawn event with
  | none => simp
  | some tasks => simp

/--
Nothing is lost and nothing is started twice: what was started and what is still owed is what the
events taken from the stream were worth, up to the order.
-/
def Balanced (loop : Loop σ α ε τ χ) (owes : τ → List κ) (s : State σ ε τ × List κ) : Prop :=
  (s.2 ++ s.1.tasks.flatMap owes).Perm (s.1.taken.flatMap (owed loop owes))

theorem balanced_step (haccounts : Accounts loop owes starts) {log : List κ}
    (h : Balanced loop owes (s, log)) (hstep : step loop s action = some s') :
    Balanced loop owes (s', log ++ started loop starts s action) := by
  unfold Balanced at h ⊢
  cases change_of_step hstep with
  | ended =>
    rw [started, List.append_nil]
    exact h
  | take event =>
    rw [started, List.append_nil, owes_take, taken_take, List.flatMap_append,
      List.flatMap_singleton, ← List.append_assoc]
    exact h.append_right _
  | resume before after task choice action base htasks hresume hbase =>
    have hstarted : started loop starts s (.resume before.length choice) = starts action := by
      simp [started, htasks, hresume]
    have howes := haccounts task choice action s.base base hresume hbase
    rw [hstarted]
    refine List.Perm.trans ?_ h
    simp only [htasks, List.flatMap_append, List.flatMap_cons]
    rw [List.append_assoc, List.perm_append_left_iff]
    -- what is started moves in front of what the tasks before it owe
    calc starts action ++ ((before.flatMap owes ++ (loop.after task choice base).flatMap owes) ++
          after.flatMap owes)
      _ = (starts action ++ before.flatMap owes) ++ ((loop.after task choice base).flatMap owes ++
          after.flatMap owes) := by simp only [List.append_assoc]
      _ ~ (before.flatMap owes ++ starts action) ++ ((loop.after task choice base).flatMap owes ++
          after.flatMap owes) := List.perm_append_comm.append_right _
      _ = before.flatMap owes ++ ((starts action ++ (loop.after task choice base).flatMap owes) ++
          after.flatMap owes) := by simp only [List.append_assoc]
      _ ~ before.flatMap owes ++ (owes task ++ after.flatMap owes) :=
        (howes.symm.append_right _).append_left _
  | outside action =>
    rw [started, List.append_nil]
    exact h

theorem perm_of_run (haccounts : Accounts loop owes starts) {base : σ} {log : List κ}
    {as : List (Action α ε χ)}
    (hrun : run (logging (step loop) (started loop starts)) (start base, []) as = some (s, log)) :
    (log ++ s.tasks.flatMap owes).Perm
      ((as.filterMap Action.event).flatMap (owed loop owes)) := by
  have hbalanced : Balanced loop owes (s, log) := by
    apply run_invariant (P := Balanced loop owes) _ _ hrun
    . rintro ⟨s, log⟩ action ⟨s', log'⟩ hs hstep
      obtain ⟨hstep, rfl⟩ := logging_eq_some.mp hstep
      exact balanced_step haccounts hs hstep
    . exact List.Perm.refl []
  have htaken : s.taken = [] ++ as.filterMap Action.event :=
    taken_of_run (run_of_run_logging hrun)
  rwa [Balanced, htaken] at hbalanced

end

/--
A lock of the shared state that tasks take and release. A step of a task changes who holds it together
with whether it is held, and nobody else touches it.
-/
structure Locking (loop : Loop σ α ε τ χ) (held : σ → Bool) (holds : τ → Bool) : Prop where
  spawn : ∀ event tasks, loop.spawn event = some tasks → tasks.countP holds = 0
  resume : ∀ task choice action s s', loop.resume s task choice = some action →
    loop.step s action = some s' →
      (held s').toNat + (holds task).toNat =
        (held s).toNat + (loop.after task choice s').countP holds
  outside : ∀ action s s', loop.isOutside action = true → loop.step s action = some s' →
    held s' = held s

section

variable {loop : Loop σ α ε τ χ} {held : σ → Bool} {holds : τ → Bool} {s s' : State σ ε τ}

theorem countP_holds_step (hlocking : Locking loop held holds) {action : Action α ε χ}
    (hs : s.tasks.countP holds = (held s.base).toNat) (hstep : step loop s action = some s') :
    s'.tasks.countP holds = (held s'.base).toNat := by
  cases change_of_step hstep with
  | ended => exact hs
  | take event =>
    rw [base_take, ← hs]
    unfold take
    cases hspawn : loop.spawn event with
    | none => rfl
    | some tasks => simp [hlocking.spawn event tasks hspawn]
  | resume before after task choice action base htasks hresume hbase =>
    have hlock := hlocking.resume task choice action s.base base hresume hbase
    have htask : [task].countP holds = (holds task).toNat := by
      cases hholds : holds task <;> simp [hholds]
    rw [htasks, List.append_cons, List.countP_append, List.countP_append, htask] at hs
    simp only [List.countP_append]
    omega
  | outside action base houtside hbase =>
    rw [hs, hlocking.outside _ _ _ houtside hbase]

/--
Whenever the lock is held, exactly one task holds it.
-/
theorem countP_holds (hlocking : Locking loop held holds) {base : σ} (hbase : held base = false)
    {as : List (Action α ε χ)} (hrun : run (step loop) (start base) as = some s) :
    s.tasks.countP holds = (held s.base).toNat := by
  apply run_invariant (P := fun s : State σ ε τ => s.tasks.countP holds = (held s.base).toNat) _ _
    hrun
  . intro s action s' hs hstep
    exact countP_holds_step hlocking hs hstep
  . simp [start, hbase]

end

/--
The tasks go on without another event, and others only do what helps them.
-/
def Action.Settles (helps : α → Prop) (action : Action α ε χ) : Prop :=
  match action with
  | .next _ => False
  | .resume _ _ => True
  | .outside action => helps action

theorem events_of_settles {helps : α → Prop} {as : List (Action α ε χ)}
    (h : ∀ action ∈ as, action.Settles helps) : as.filterMap Action.event = [] := by
  rw [List.filterMap_eq_nil_iff]
  intro action haction
  have hsettles := h action haction
  cases action with
  | next event => exact False.elim hsettles
  | _ => rfl

/--
Whoever holds the lock can go on until it is free, at most with the help of others, and whoever owes
something can go on when it is free.
-/
structure Progressing (loop : Loop σ α ε τ χ) (I : σ → Prop) (held : σ → Bool) (holds : τ → Bool)
    (owes : τ → List κ) (left : σ → Nat) (helps : α → Prop) : Prop where
  invariant : ∀ s action s', I s → loop.step s action = some s' → I s'
  release : ∀ s, I s → held s = true → ∃ action s', loop.step s action = some s' ∧
    left s' < left s ∧ (loop.isOutside action = true ∧ helps action ∨ ∀ task, holds task = true →
      ∃ choice, loop.resume s task choice = some action ∧
        (loop.after task choice s').flatMap owes = owes task)
  start : ∀ s task, I s → held s = false → owes task ≠ [] →
    ∃ choice action s', loop.resume s task choice = some action ∧ loop.step s action = some s' ∧
      ((loop.after task choice s').flatMap owes).length < (owes task).length

section

variable {loop : Loop σ α ε τ χ} {I : σ → Prop} {held : σ → Bool} {holds : τ → Bool}
  {owes : τ → List κ} {left : σ → Nat} {helps : α → Prop}

theorem step_resume {s : State σ ε τ} {before after : List τ} {task : τ} {choice : χ} {action : α}
    {base : σ} (htasks : s.tasks = before ++ task :: after)
    (hresume : loop.resume s.base task choice = some action)
    (hbase : loop.step s.base action = some base) :
    step loop s (.resume before.length choice) = some
      { s with base, tasks := before ++ loop.after task choice base ++ after } := by
  simp [step, htasks, hresume, hbase]

theorem exists_step_release (hprogressing : Progressing loop I held holds owes left helps)
    {s : State σ ε τ} (hs : I s.base) (hheld : held s.base = true)
    (hcount : s.tasks.countP holds = (held s.base).toNat) :
    ∃ action s', step loop s action = some s' ∧ action.Settles helps ∧
      left s'.base < left s.base ∧ s'.tasks.flatMap owes = s.tasks.flatMap owes := by
  obtain ⟨action, base, hbase, hleft, ⟨houtside, hhelps⟩ | hresume⟩ :=
    hprogressing.release s.base hs hheld
  . refine ⟨.outside action, { s with base }, ?_, hhelps, hleft, rfl⟩
    simp [step, houtside, hbase]
  . have hpos : 0 < s.tasks.countP holds := by simp [hcount, hheld]
    obtain ⟨task, htask, hholds⟩ := List.countP_pos_iff.mp hpos
    obtain ⟨before, after, htasks⟩ := List.append_of_mem htask
    obtain ⟨choice, hresume, howes⟩ := hresume task hholds
    refine ⟨_, _, step_resume htasks hresume hbase, trivial, hleft, ?_⟩
    simp [htasks, howes]

/--
By induction on what is left to do before the lock is free.
-/
theorem exists_run_release (hlocking : Locking loop held holds)
    (hprogressing : Progressing loop I held holds owes left helps) {s : State σ ε τ} (hs : I s.base)
    (hcount : s.tasks.countP holds = (held s.base).toNat) :
    ∃ as t, run (step loop) s as = some t ∧ (∀ action ∈ as, action.Settles helps) ∧ I t.base ∧
      t.tasks.countP holds = (held t.base).toNat ∧ held t.base = false ∧
      t.tasks.flatMap owes = s.tasks.flatMap owes := by
  induction hn : left s.base using Nat.strongRecOn generalizing s with
  | ind n ih =>
    cases hheld : held s.base with
    | false => exact ⟨[], s, rfl, by simp, hs, hcount, hheld, rfl⟩
    | true =>
      obtain ⟨action, s', hstep, hsettles, hleft, howes⟩ :=
        exists_step_release hprogressing hs hheld hcount
      have hs' : I s'.base :=
        run_invariant hprogressing.invariant hs (exists_run_base ((run_singleton ..).trans hstep)).choose_spec
      obtain ⟨as, t, hrun, has, ht⟩ :=
        ih _ (hn ▸ hleft) hs' (countP_holds_step hlocking hcount hstep) rfl
      refine ⟨action :: as, t, run_cons_eq_some.mpr ⟨s', hstep, hrun⟩, ?_, howes ▸ ht⟩
      rw [List.forall_mem_cons]
      exact ⟨hsettles, has⟩

/--
No deadlock: without another event, everything that is owed can be started and the lock be released.
By induction on what is owed.
-/
theorem exists_run_settled (hlocking : Locking loop held holds)
    (hprogressing : Progressing loop I held holds owes left helps) {s : State σ ε τ} (hs : I s.base)
    (hcount : s.tasks.countP holds = (held s.base).toNat) :
    ∃ as t, run (step loop) s as = some t ∧ (∀ action ∈ as, action.Settles helps) ∧
      held t.base = false ∧ t.tasks.flatMap owes = [] := by
  induction hn : (s.tasks.flatMap owes).length using Nat.strongRecOn generalizing s with
  | ind n ih =>
    obtain ⟨as, s₁, hrun, has, hs₁, hcount₁, hfree, howes⟩ :=
      exists_run_release hlocking hprogressing hs hcount
    by_cases hnil : s₁.tasks.flatMap owes = []
    . exact ⟨as, s₁, hrun, has, hfree, hnil⟩
    . obtain ⟨task, htask, hnonempty⟩ : ∃ task ∈ s₁.tasks, owes task ≠ [] := by
        simpa [List.flatMap_eq_nil_iff] using hnil
      obtain ⟨before, after, htasks⟩ := List.append_of_mem htask
      obtain ⟨choice, action, base, hresume, hbase, hlength⟩ :=
        hprogressing.start s₁.base task hs₁ hfree hnonempty
      have hstep := step_resume htasks hresume hbase
      have hlt : ((before ++ loop.after task choice base ++ after).flatMap owes).length < n := by
        rw [← hn, ← howes, htasks]
        simp only [List.flatMap_append, List.flatMap_cons, List.length_append]
        omega
      obtain ⟨bs, t, hrun', hbs, ht⟩ :=
        ih _ hlt (hprogressing.invariant _ _ _ hs₁ hbase) (countP_holds_step hlocking hcount₁ hstep)
          rfl
      refine ⟨as ++ .resume before.length choice :: bs, t, ?_, ?_, ht⟩
      . exact run_append_eq_some.mpr ⟨s₁, hrun, run_cons_eq_some.mpr ⟨_, hstep, hrun'⟩⟩
      . rw [List.forall_mem_append, List.forall_mem_cons]
        exact ⟨has, trivial, hbs⟩

/--
Whatever state the loop was left in: everything that its events are worth can still be started, once.
-/
theorem exists_run_perm {starts : α → List κ} (haccounts : Accounts loop owes starts)
    (hlocking : Locking loop held holds) (hprogressing : Progressing loop I held holds owes left helps)
    {base : σ} (hbase : I base) (hfree : held base = false) {as : List (Action α ε χ)}
    {s : State σ ε τ} {log : List κ}
    (hrun : run (logging (step loop) (started loop starts)) (start base, []) as = some (s, log)) :
    ∃ more t log', run (logging (step loop) (started loop starts)) (s, log) more = some (t, log') ∧
      (∀ action ∈ more, action.Settles helps) ∧ held t.base = false ∧
      log'.Perm ((as.filterMap Action.event).flatMap (owed loop owes)) := by
  have hsteps := run_of_run_logging hrun
  obtain ⟨bs, hbs⟩ := exists_run_base hsteps
  obtain ⟨more, t, hmore, hsettles, hreleased, hnil⟩ := exists_run_settled hlocking hprogressing
    (run_invariant hprogressing.invariant hbase hbs) (countP_holds hlocking hfree hsteps)
  obtain ⟨log', hlog'⟩ := exists_run_logging hmore log
  refine ⟨more, t, log', hlog', hsettles, hreleased, ?_⟩
  have hperm := perm_of_run haccounts (run_append_eq_some.mpr ⟨(s, log), hrun, hlog'⟩)
  rwa [hnil, List.append_nil, List.filterMap_append, events_of_settles hsettles, List.append_nil] at hperm

end

end Spawning
