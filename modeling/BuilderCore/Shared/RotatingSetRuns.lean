import BuilderCore.Shared.RotatingSet

/-!
This module contains the runs of a set with garbage collection: for how many rotations, and for how
long, it keeps a key.
-/

namespace BuilderCore

namespace RotatingSet

/--
The calls that change a set, with their readings of the clock. An insertion does not read the clock,
`now` is when it is made.
-/
inductive Action (α : Type) where
  | insert (value : α) (now : Nat)
  | extend (values : List α) (now : Nat)
  | rotate (checked now : Nat)
  | forceRotate (now : Nat)
  deriving DecidableEq, Repr

namespace Action

variable {α : Type}

def now : Action α → Nat
  | .insert _ now => now
  | .extend _ now => now
  | .rotate _ now => now
  | .forceRotate now => now

def readings : Action α → List Nat
  | .insert _ now => [now]
  | .extend _ now => [now]
  | .rotate checked now => [checked, now]
  | .forceRotate now => [now]

def inserted : Action α → List α
  | .insert value _ => [value]
  | .extend values _ => values
  | .rotate _ _ => []
  | .forceRotate _ => []

def isForced : Action α → Bool
  | .forceRotate _ => true
  | _ => false

end Action

/--
The clock does not run backwards.
-/
def InOrder {α : Type} (start : Nat) (actions : List (Action α)) : Prop :=
  (start :: actions.flatMap Action.readings).Pairwise (· ≤ ·)

instance {α : Type} (start : Nat) (actions : List (Action α)) : Decidable (InOrder start actions) :=
  inferInstanceAs (Decidable (List.Pairwise ..))

variable {α : Type} [DecidableEq α]

def perform (s : RotatingSet α) (action : Action α) : RotatingSet α :=
  match action with
  | .insert value _ => s.insert value
  | .extend values _ => s.extend values
  | .rotate checked now => s.rotate checked now
  | .forceRotate now => s.forceRotate now

def performs (s : RotatingSet α) (actions : List (Action α)) : RotatingSet α :=
  actions.foldl perform s

/--
Whether the action is an effective rotation.
-/
def shifts (s : RotatingSet α) (action : Action α) : Bool :=
  match action with
  | .rotate checked _ => s.rotates checked
  | .forceRotate _ => true
  | _ => false

def rotations (s : RotatingSet α) : List (Action α) → Nat
  | [] => 0
  | action :: actions => (s.shifts action).toNat + (s.perform action).rotations actions

/--
There are `since` effective rotations after the last action that inserted the key.
-/
def InsertedLast (s : RotatingSet α) (actions : List (Action α)) (key : α) (since : Nat) : Prop :=
  ∃ before action after, actions = before ++ action :: after ∧ key ∈ action.inserted ∧
    (∀ later ∈ after, key ∉ later.inserted) ∧
    (s.performs (before ++ [action])).rotations after = since

@[simp]
theorem performs_concat (s : RotatingSet α) (actions : List (Action α)) (action : Action α) :
    s.performs (actions ++ [action]) = (s.performs actions).perform action := by
  simp [performs]

theorem performs_append (s : RotatingSet α) (actions actions' : List (Action α)) :
    s.performs (actions ++ actions') = (s.performs actions).performs actions' := by
  simp [performs]

theorem rotations_concat (s : RotatingSet α) (actions : List (Action α)) (action : Action α) :
    s.rotations (actions ++ [action]) =
      s.rotations actions + ((s.performs actions).shifts action).toNat := by
  induction actions generalizing s with
  | nil => simp [rotations, performs]
  | cons first actions ih =>
    simp only [List.cons_append, rotations, ih]
    exact (Nat.add_assoc ..).symm

theorem not_insertedLast_nil (s : RotatingSet α) (key : α) (since : Nat) :
    ¬ s.InsertedLast [] key since := by
  rintro ⟨before, action, after, hsplit, -⟩
  simp at hsplit

theorem insertedLast_concat {s : RotatingSet α} {actions : List (Action α)} {action : Action α}
    {key : α} {since : Nat} :
    s.InsertedLast (actions ++ [action]) key since ↔
      (key ∈ action.inserted ∧ since = 0) ∨
      (key ∉ action.inserted ∧ ∃ earlier, s.InsertedLast actions key earlier ∧
        since = earlier + ((s.performs actions).shifts action).toNat) := by
  constructor
  . rintro ⟨before, insertion, after, hsplit, hinserted, hlater, hsince⟩
    rcases List.eq_nil_or_concat after with rfl | ⟨after, last, rfl⟩
    . obtain ⟨rfl, heq⟩ := List.append_inj' hsplit rfl
      rw [List.cons.injEq] at heq
      rw [heq.1]
      exact .inl ⟨hinserted, hsince.symm⟩
    . rw [List.concat_eq_append, ← List.cons_append, ← List.append_assoc] at hsplit
      obtain ⟨rfl, heq⟩ := List.append_inj' hsplit rfl
      rw [List.cons.injEq] at heq
      rw [List.concat_eq_append] at hlater hsince
      right
      refine ⟨?_, _, ⟨before, insertion, after, rfl, hinserted, ?_, rfl⟩, ?_⟩
      . rw [heq.1]
        exact hlater last (by simp)
      . intro later hmem
        exact hlater later (by simp [hmem])
      . rw [← hsince, rotations_concat, ← performs_append, heq.1]
        simp
  . rintro (⟨hinserted, rfl⟩ | ⟨hnot, _, ⟨before, insertion, after, rfl, hinserted, hlater, rfl⟩, rfl⟩)
    . exact ⟨actions, action, [], rfl, hinserted, by simp, rfl⟩
    . refine ⟨before, insertion, after ++ [action], by simp, hinserted, ?_, ?_⟩
      . intro later hmem
        rcases List.mem_append.mp hmem with hmem | hmem
        . exact hlater later hmem
        . rw [List.mem_singleton.mp hmem]
          exact hnot
      . rw [rotations_concat, ← performs_append]
        simp

theorem mem_youngest_perform {s : RotatingSet α} {action : Action α} {n : Nat} {key : α}
    (hn : n ≤ 2) :
    key ∈ (s.perform action).youngest n ↔ key ∈ action.inserted ∨
      ∃ m, n = m + (s.shifts action).toNat ∧ key ∈ s.youngest m := by
  have hshift : ∀ now, key ∈ (s.forceRotate now).youngest n ↔
      ∃ m, n = m + 1 ∧ key ∈ s.youngest m :=
    fun now => mem_youngest_forceRotate hn
  cases action with
  | insert value now => simp [perform, insert_eq_extend, mem_youngest_extend, Action.inserted, shifts]
  | extend values now => simp [perform, mem_youngest_extend, Action.inserted, shifts]
  | rotate checked now =>
    simp only [perform, rotate_eq, Action.inserted, List.not_mem_nil, shifts, false_or]
    cases s.rotates checked with
    | true => simp [hshift]
    | false => simp
  | forceRotate now => simp [perform, hshift, Action.inserted, shifts]

/--
The keys of the youngest generations are those that were inserted as many rotations ago.
-/
theorem mem_youngest_performs {period start : Nat} {actions : List (Action α)} {n : Nat} {key : α}
    (hn : n ≤ 2) :
    key ∈ ((new period start).performs actions).youngest n ↔
      ∃ since, (new period start).InsertedLast actions key since ∧ since ≤ n := by
  induction actions using List.reverseRecOn generalizing n with
  | nil => simp [performs, not_insertedLast_nil]
  | append_singleton actions action ih =>
    rw [performs_concat, mem_youngest_perform hn]
    simp only [insertedLast_concat]
    constructor
    . rintro (hinserted | ⟨m, rfl, hyoungest⟩)
      . exact ⟨0, .inl ⟨hinserted, rfl⟩, Nat.zero_le n⟩
      . by_cases hinserted : key ∈ action.inserted
        . exact ⟨0, .inl ⟨hinserted, rfl⟩, Nat.zero_le _⟩
        . obtain ⟨since, hlast, hle⟩ := (ih (by omega)).mp hyoungest
          exact ⟨_, .inr ⟨hinserted, since, hlast, rfl⟩, by omega⟩
    . rintro ⟨since, ⟨hinserted, rfl⟩ | ⟨hnot, earlier, hlast, rfl⟩, hle⟩
      . exact .inl hinserted
      . refine .inr ⟨n - ((new period start).performs actions |>.shifts action).toNat, by omega, ?_⟩
        exact (ih (by omega)).mpr ⟨earlier, hlast, by omega⟩

omit [DecidableEq α] in
theorem Action.now_mem_readings (action : Action α) : action.now ∈ action.readings := by
  cases action <;> simp [now, readings]

omit [DecidableEq α] in
theorem InOrder.of_append {start : Nat} {before after : List (Action α)} {action : Action α}
    (h : InOrder start (before ++ action :: after)) :
    (∀ reading ∈ action.readings, start ≤ reading) ∧ action.readings.Pairwise (· ≤ ·) ∧
      InOrder action.now after := by
  simp only [InOrder, List.flatMap_append, List.flatMap_cons] at h
  have hstart := (List.pairwise_cons.mp h).1
  have hlater := (List.pairwise_append.mp (List.pairwise_cons.mp h).2).2.1
  obtain ⟨hreadings, hafter, hle⟩ := List.pairwise_append.mp hlater
  refine ⟨?_, hreadings, List.pairwise_cons.mpr ⟨?_, hafter⟩⟩
  . intro reading hreading
    exact hstart reading (by simp [hreading])
  . intro reading hreading
    exact hle _ action.now_mem_readings _ hreading

@[simp]
theorem period_perform (s : RotatingSet α) (action : Action α) :
    (s.perform action).period = s.period := by
  cases action with
  | rotate checked now => exact period_rotate s checked now
  | _ => rfl

@[simp]
theorem period_performs (s : RotatingSet α) (actions : List (Action α)) :
    (s.performs actions).period = s.period := by
  induction actions using List.reverseRecOn with
  | nil => rfl
  | append_singleton actions action ih => simp [ih]

theorem lastRotation_perform_le {s : RotatingSet α} {action : Action α} {now : Nat}
    (h : s.lastRotation ≤ now) (hnow : action.now ≤ now) :
    (s.perform action).lastRotation ≤ now := by
  cases action with
  | insert value _ => exact h
  | extend values _ => exact h
  | rotate checked _ =>
    simp only [perform, rotate]
    split
    . exact hnow
    . exact h
  | forceRotate _ => exact hnow

theorem lastRotation_performs_le {s : RotatingSet α} {actions : List (Action α)} {now : Nat}
    (h : s.lastRotation ≤ now) (hnow : ∀ action ∈ actions, action.now ≤ now) :
    (s.performs actions).lastRotation ≤ now := by
  induction actions using List.reverseRecOn with
  | nil => exact h
  | append_singleton actions action ih =>
    rw [performs_concat]
    apply lastRotation_perform_le
    . exact ih fun action hmem => hnow action (by simp [hmem])
    . exact hnow action (by simp)

theorem aged_perform {s : RotatingSet α} {t : Nat} {key : α} {action : Action α}
    (h : s.Aged t key) (hforced : action.isForced = false)
    (ht : ∀ reading ∈ action.readings, t ≤ reading) (hclock : action.readings.Pairwise (· ≤ ·)) :
    (s.perform action).Aged t key := by
  cases action with
  | insert value now =>
    rw [perform, insert_eq_extend]
    exact aged_extend h
  | extend values now => exact aged_extend h
  | rotate checked now =>
    apply aged_rotate h
    . exact ht checked (by simp [Action.readings])
    . exact (List.pairwise_cons.mp hclock).1 now (by simp)
  | forceRotate now => contradiction

theorem aged_performs {s : RotatingSet α} {t clock : Nat} {key : α} {actions : List (Action α)}
    (h : s.Aged t key) (ht : t ≤ clock) (hforced : ∀ action ∈ actions, action.isForced = false)
    (hclock : InOrder clock actions) : (s.performs actions).Aged t key := by
  induction actions generalizing s clock with
  | nil => exact h
  | cons action actions ih =>
    have hsplit : InOrder clock ([] ++ action :: actions) := hclock
    obtain ⟨hreadings, hsorted, hlater⟩ := hsplit.of_append
    have hle : ∀ reading ∈ action.readings, t ≤ reading := fun reading hreading =>
      Nat.le_trans ht (hreadings reading hreading)
    apply ih (aged_perform h (hforced action (by simp)) hle hsorted)
    . exact hle _ action.now_mem_readings
    . intro action hmem
      exact hforced action (List.mem_cons_of_mem _ hmem)
    . exact hlater

theorem aged_perform_self (s : RotatingSet α) {action : Action α} {key : α}
    (hinserted : key ∈ action.inserted) : (s.perform action).Aged action.now key := by
  cases action with
  | insert value now =>
    rw [perform, insert_eq_extend]
    exact aged_extend_self now hinserted
  | extend values now => exact aged_extend_self now hinserted
  | rotate checked now => contradiction
  | forceRotate now => contradiction

theorem contains_of_inserted {period start : Nat} {actions : List (Action α)}
    (hclock : InOrder start actions) (hforced : ∀ action ∈ actions, action.isForced = false)
    {action : Action α} (hmem : action ∈ actions) {key : α} (hinserted : key ∈ action.inserted)
    {now : Nat} (hnow : ∀ action ∈ actions, action.now ≤ now)
    (hle : now ≤ action.now + 2 * period) :
    ((new period start).performs actions).contains key = true := by
  obtain ⟨before, after, rfl⟩ := List.append_of_mem hmem
  obtain ⟨hstart, -, hlater⟩ := hclock.of_append
  have haged : ((new period start).performs (before ++ action :: after)).Aged action.now key := by
    rw [← List.singleton_append, ← List.append_assoc, performs_append, performs_concat]
    apply aged_performs (aged_perform_self _ hinserted) (Nat.le_refl _) _ hlater
    intro action hmem
    exact hforced action (by simp [hmem])
  apply contains_of_aged haged
  . apply lastRotation_performs_le _ hnow
    exact Nat.le_trans (hstart _ action.now_mem_readings) (hnow action (by simp))
  . rw [period_performs]
    exact hle

/--
The set keeps a key for two rotations and loses it with the third. Unless a rotation is forced, that is
not before two periods have passed.
-/
theorem three_generations {period start : Nat} {actions : List (Action α)}
    (hclock : InOrder start actions) (key : α) :
    (((new period start).performs actions).contains key = true ↔
      ∃ since, (new period start).InsertedLast actions key since ∧ since < 3) ∧
    ((∀ action ∈ actions, action.isForced = false) →
      ∀ action ∈ actions, key ∈ action.inserted →
        ∀ now, (∀ action ∈ actions, action.now ≤ now) → now ≤ action.now + 2 * period →
          ((new period start).performs actions).contains key = true) := by
  constructor
  . rw [contains_iff_youngest, mem_youngest_performs (Nat.le_refl 2)]
    simp only [Nat.lt_succ_iff]
  . intro hforced action hmem hinserted now hnow hle
    exact contains_of_inserted hclock hforced hmem hinserted hnow hle

def testActions : List (Action Nat) := [.insert 1 3, .rotate 12 12, .rotate 20 20, .rotate 23 23]

theorem three_generations_testActions :
    (∃ since, (new 10 0).InsertedLast testActions 1 since ∧ since < 3) ∧
      ((new 10 0).performs testActions).contains 1 = true := by
  have hclock : InOrder 0 testActions := by decide
  have hcontains := (@three_generations Nat _ 10 0 _ hclock 1).2 (by decide) (.insert 1 3)
    (by decide) (by decide) 23 (by decide) (by decide)
  exact ⟨(three_generations hclock 1).1.mp hcontains, hcontains⟩

-- one more rotation after the third period, and the key is gone
example : ((new 10 0).performs (testActions ++ [.rotate 34 34])).contains 1 = false := by decide

end RotatingSet

end BuilderCore
