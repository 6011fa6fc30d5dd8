import BuilderCore.Transition

/-!
This module contains loops that collect what arrives until a test succeeds, or until there is no time
to sleep before another try. Every look at the clock is a step of its own.
-/

universe u v

namespace Polling

open Transition

/--
`receive` handles one outcome of the receiver, and tells whether to look for another one.
-/
structure Loop (σ : Type u) (ο : Type v) where
  prepare : σ → σ
  receive : σ → ο → σ × Bool
  exits : σ → Bool
  timeoutAfter : Nat
  sleepInterval : Nat

inductive Phase where
  | checking
  | collecting
  | receiving
  | deciding
  | stopped
  deriving DecidableEq, Repr

structure State (σ : Type u) where
  data : σ
  phase : Phase
  clock : Nat

inductive Action (ο : Type v) where
  | check (now : Nat)
  | poll (now : Nat)
  | receive (outcome : ο)
  | decide (now : Nat)

variable {σ : Type u} {ο : Type v}

def start (data : σ) (now : Nat) : State σ := ⟨data, .checking, now⟩

/--
The clock never goes back. Whoever sleeps is back after the interval at the earliest.
-/
def step (loop : Loop σ ο) (s : State σ) (action : Action ο) : Option (State σ) :=
  match s.phase, action with
  | .checking, .check now =>
    if now < s.clock then
      none
    else if now ≤ loop.timeoutAfter then
      some ⟨loop.prepare s.data, .collecting, now⟩
    else
      some ⟨s.data, .stopped, now⟩
  | .collecting, .poll now =>
    if now < s.clock then
      none
    else if now ≤ loop.timeoutAfter then
      some ⟨s.data, .receiving, now⟩
    else
      some ⟨s.data, .deciding, now⟩
  | .receiving, .receive outcome =>
    let (data, again) := loop.receive s.data outcome
    some ⟨data, if again then .collecting else .deciding, s.clock⟩
  | .deciding, .decide now =>
    if now < s.clock then
      none
    else if loop.exits s.data ∨ now + loop.sleepInterval > loop.timeoutAfter then
      some ⟨s.data, .stopped, now⟩
    else
      some ⟨s.data, .checking, now + loop.sleepInterval⟩
  | _, _ => none

/--
The loop does not stop with time for another try unless something was collected, and it does not sleep
then.
-/
structure WaitsFor (collected : σ → Bool) (loop : Loop σ ο) (s s' : State σ) : Prop where
  stops : s'.phase = .stopped → s'.clock + loop.sleepInterval ≤ loop.timeoutAfter →
    collected s'.data = true
  sleeps : s.phase = .deciding → s'.phase = .checking → collected s'.data = false

def Waits (collected : σ → Bool) (loop : Loop σ ο) (s : State σ) (action : Action ο) : Prop :=
  ∀ s', step loop s action = some s' → WaitsFor collected loop s s'

/--
There is no time left for another try when the loop decides.
-/
def DecidesLate (loop : Loop σ ο) (_ : State σ) (action : Action ο) : Prop :=
  match action with
  | .decide now => loop.timeoutAfter < now + loop.sleepInterval
  | _ => True

/--
Every collection establishes the property.
-/
structure Establishes (loop : Loop σ ο) (I : σ → Prop) : Prop where
  prepare : ∀ data, I (loop.prepare data)
  receive : ∀ data outcome, I data → I (loop.receive data outcome).1

def Collected (I : σ → Prop) (s : State σ) : Prop :=
  match s.phase with
  | .checking | .stopped => True
  | .collecting | .receiving | .deciding => I s.data

inductive StepsTo (loop : Loop σ ο) (s : State σ) : Action ο → State σ → Prop where
  | check (now : Nat) (hphase : s.phase = .checking) :
      StepsTo loop s (.check now) ⟨loop.prepare s.data, .collecting, now⟩
  | checkLate (now : Nat) (hphase : s.phase = .checking) (hlate : loop.timeoutAfter < now) :
      StepsTo loop s (.check now) ⟨s.data, .stopped, now⟩
  | poll (now : Nat) (hphase : s.phase = .collecting) :
      StepsTo loop s (.poll now) ⟨s.data, .receiving, now⟩
  | pollLate (now : Nat) (hphase : s.phase = .collecting) :
      StepsTo loop s (.poll now) ⟨s.data, .deciding, now⟩
  | receive (outcome : ο) (hphase : s.phase = .receiving) (phase : Phase)
      (hnext : phase = .collecting ∨ phase = .deciding) :
      StepsTo loop s (.receive outcome) ⟨(loop.receive s.data outcome).1, phase, s.clock⟩
  | stop (now : Nat) (hphase : s.phase = .deciding)
      (hstop : loop.exits s.data = true ∨ loop.timeoutAfter < now + loop.sleepInterval) :
      StepsTo loop s (.decide now) ⟨s.data, .stopped, now⟩
  | sleep (now : Nat) (hphase : s.phase = .deciding) (hexits : loop.exits s.data = false)
      (hearly : ¬ loop.timeoutAfter < now + loop.sleepInterval) :
      StepsTo loop s (.decide now) ⟨s.data, .checking, now + loop.sleepInterval⟩

section

variable {loop : Loop σ ο} {collected : σ → Bool} {I : σ → Prop} {s s' : State σ}
  {action : Action ο}

theorem stepsTo_of_step (h : step loop s action = some s') : StepsTo loop s action s' := by
  unfold step at h
  split at h
  . next now hphase =>
    split at h
    . contradiction
    . split at h
      . rw [← Option.some.inj h]
        exact .check now hphase
      . next hlate =>
        rw [← Option.some.inj h]
        exact .checkLate now hphase (Nat.not_le.mp hlate)
  . next now hphase =>
    split at h
    . contradiction
    . split at h
      . rw [← Option.some.inj h]
        exact .poll now hphase
      . rw [← Option.some.inj h]
        exact .pollLate now hphase
  . next outcome hphase =>
    rw [← Option.some.inj h]
    apply StepsTo.receive outcome hphase
    split
    . exact .inl rfl
    . exact .inr rfl
  . next now hphase =>
    split at h
    . contradiction
    . split at h
      . next hstop =>
        rw [← Option.some.inj h]
        exact .stop now hphase hstop
      . next hsleep =>
        rw [not_or, Bool.not_eq_true] at hsleep
        rw [← Option.some.inj h]
        exact .sleep now hphase hsleep.1 hsleep.2
  . contradiction

theorem collected_step (hI : Establishes loop I) (hs : Collected I s)
    (h : step loop s action = some s') : Collected I s' := by
  unfold Collected at hs
  cases stepsTo_of_step h with
  | check now hphase => exact hI.prepare s.data
  | checkLate now hphase hlate => trivial
  | poll now hphase =>
    rw [hphase] at hs
    exact hs
  | pollLate now hphase =>
    rw [hphase] at hs
    exact hs
  | receive outcome hphase phase hnext =>
    rw [hphase] at hs
    have hreceived := hI.receive s.data outcome hs
    rcases hnext with rfl | rfl
    . exact hreceived
    . exact hreceived
  | stop now hphase hstop => trivial
  | sleep now hphase hexits hearly => trivial

theorem phase_of_decide {now : Nat} (h : step loop s (.decide now) = some s') :
    s.phase = .deciding := by
  cases stepsTo_of_step h with
  | stop _ hphase _ => exact hphase
  | sleep _ hphase _ _ => exact hphase

theorem waitsFor_of_phase (hphase : s.phase ≠ .deciding)
    (hlate : s'.phase = .stopped → loop.timeoutAfter < s'.clock) : WaitsFor collected loop s s' where
  stops hstopped hearly := by
    have hlate := hlate hstopped
    omega
  sleeps hdeciding := absurd hdeciding hphase

/--
Only a decision can be wrong.
-/
theorem waitsFor_iff (h : step loop s action = some s') :
    WaitsFor collected loop s s' ↔ ∀ now, action = .decide now →
      loop.timeoutAfter < now + loop.sleepInterval ∨ loop.exits s.data = collected s.data := by
  cases stepsTo_of_step h with
  | check now hphase =>
    exact iff_of_true (waitsFor_of_phase (by simp [hphase]) (by simp)) (by simp)
  | checkLate now hphase hlate =>
    exact iff_of_true (waitsFor_of_phase (by simp [hphase]) (fun _ => hlate)) (by simp)
  | poll now hphase =>
    exact iff_of_true (waitsFor_of_phase (by simp [hphase]) (by simp)) (by simp)
  | pollLate now hphase =>
    exact iff_of_true (waitsFor_of_phase (by simp [hphase]) (by simp)) (by simp)
  | receive outcome hphase phase hnext =>
    apply iff_of_true (waitsFor_of_phase (by simp [hphase]) _) (by simp)
    rcases hnext with rfl | rfl
    . simp
    . simp
  | stop now hphase hstop =>
    simp only [Action.decide.injEq, forall_eq']
    constructor
    . intro hwaitsFor
      rcases hstop with hexits | hlate
      . by_cases hlate : loop.timeoutAfter < now + loop.sleepInterval
        . exact .inl hlate
        . exact .inr (hexits.trans (hwaitsFor.stops rfl (Nat.not_lt.mp hlate)).symm)
      . exact .inl hlate
    . intro hor
      constructor
      . intro _ hearly
        have hlate := Nat.not_lt.mpr hearly
        exact (hor.resolve_left hlate).symm.trans (hstop.resolve_right hlate)
      . intro _ hchecking
        contradiction
  | sleep now hphase hexits hearly =>
    simp only [Action.decide.injEq, forall_eq']
    constructor
    . intro hwaitsFor
      exact .inr (hexits.trans (hwaitsFor.sleeps hphase rfl).symm)
    . intro hor
      constructor
      . intro hstopped
        contradiction
      . intro _ _
        exact (hor.resolve_left hearly).symm.trans hexits

theorem waits_iff (h : step loop s action = some s') :
    Waits collected loop s action ↔ ∀ now, action = .decide now →
      loop.timeoutAfter < now + loop.sleepInterval ∨ loop.exits s.data = collected s.data := by
  rw [← waitsFor_iff h]
  constructor
  . intro hwaits
    exact hwaits s' h
  . intro hwaitsFor s'' h'
    rwa [← Option.some.inj (h.symm.trans h')]

theorem waits_along (hI : Establishes loop I)
    (hexits : ∀ data, I data → loop.exits data = collected data) (hs : Collected I s)
    (actions : List (Action ο)) : Along (step loop) (Waits collected loop) s actions := by
  have htrue : Along (step loop) (fun _ _ => True) s actions := along_of_forall fun _ _ _ => trivial
  apply htrue.imp (I := Collected I) _ _ hs
  . intro s a s' hs _ h
    exact collected_step hI hs h
  . intro s a s' hs _ h
    rw [waits_iff h]
    rintro now rfl
    rw [Collected, phase_of_decide h] at hs
    exact .inr (hexits s.data hs)

/--
With the test the wrong way around, the loop waits only if there is never time for another try.
-/
theorem waits_along_iff (hI : Establishes loop I)
    (hexits : ∀ data, I data → loop.exits data = !collected data) (hs : Collected I s)
    (actions : List (Action ο)) :
    Along (step loop) (Waits collected loop) s actions ↔
      Along (step loop) (DecidesLate loop) s actions := by
  apply along_iff_along (I := Collected I) _ _ hs
  . intro s a s' hs h
    exact collected_step hI hs h
  . intro s a s' hs h
    rw [waits_iff h]
    cases a with
    | decide now =>
      rw [Collected, phase_of_decide h] at hs
      simp [DecidesLate, hexits s.data hs]
    | _ => simp [DecidesLate]

theorem collected_start (data : σ) (now : Nat) : Collected I (start data now) := trivial

end

end Polling
