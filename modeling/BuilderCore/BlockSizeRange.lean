import BuilderCore.BlockSizeLimits
import BuilderCore.Transition

/-!
This module contains between which bounds the limit on the size of a block moves, and for which limits
of the protocol.
-/

namespace BuilderCore

open Transition

namespace BlockSizeLimits

inductive Action where
  | tryIncrementBlockSize (force : Bool) (now : Nat)
  | decrementBlockSize
  deriving DecidableEq, Repr

def step (self : BlockSizeLimits) (action : Action) : Option BlockSizeLimits :=
  match action with
  | .tryIncrementBlockSize force now => some (self.tryIncrementBlockSize force now)
  | .decrementBlockSize => some self.decrementBlockSize

def InRange (self : BlockSizeLimits) : Prop :=
  min maxBlockSizeFloor self.protocolMaxBlockSize ≤ self.maxBlockSize ∧
    self.maxBlockSize ≤ self.protocolMaxBlockSize

def Increments (self : BlockSizeLimits) (force : Bool) (now : Nat) : Prop :=
  force ∨ now - self.lastBlockSizeIncrement ≥ self.incrementPeriod

/--
The sums and differences that the call computes are `u64`s. The refactored builder subtracts with
saturation, the other one does not.
-/
def NoOverflow (self : BlockSizeLimits) (action : Action) : Prop :=
  match action with
  | .tryIncrementBlockSize force now =>
    self.Increments force now → self.maxBlockSize + self.change < 2 ^ 64
  | .decrementBlockSize => self.change ≤ self.maxBlockSize

/--
The greatest limit that can be incremented.
-/
def maxIncrementable : Nat := (2 ^ 64 - 1) * 10 / 11

def Admissible (self : BlockSizeLimits) (action : Action) : Prop :=
  match action with
  | .tryIncrementBlockSize force now =>
    self.Increments force now → self.maxBlockSize ≤ maxIncrementable
  | .decrementBlockSize => maxBlockSizeFloor ≤ self.protocolMaxBlockSize

instance (self : BlockSizeLimits) : Decidable self.InRange :=
  inferInstanceAs (Decidable (_ ∧ _))

theorem change_eq (self : BlockSizeLimits) : self.change = (self.maxBlockSize + 9) / 10 := rfl

theorem increment_fits_iff (self : BlockSizeLimits) :
    self.maxBlockSize + self.change < 2 ^ 64 ↔ self.maxBlockSize ≤ maxIncrementable := by
  rw [change_eq]
  unfold maxIncrementable
  omega

theorem change_le (self : BlockSizeLimits) : self.change ≤ self.maxBlockSize := by
  rw [change_eq]
  omega

theorem inRange_new (protocolMaxBlockSize incrementPeriod now : Nat) :
    (new protocolMaxBlockSize incrementPeriod now).InRange :=
  ⟨Nat.min_le_right .., Nat.le_refl _⟩

theorem InRange.tryIncrement {self : BlockSizeLimits} (h : self.InRange) {force : Bool} {now : Nat}
    (hfits : self.Increments force now → self.maxBlockSize + self.change < 2 ^ 64) :
    (self.tryIncrementBlockSize force now).InRange := by
  unfold tryIncrementBlockSize
  split
  . next hincrements =>
    have hmod := Nat.mod_eq_of_lt (hfits hincrements)
    unfold InRange at h ⊢
    dsimp only
    rw [hmod]
    omega
  . exact h

theorem inRange_decrement_iff {self : BlockSizeLimits} (h : self.InRange) :
    self.decrementBlockSize.InRange ↔ maxBlockSizeFloor ≤ self.protocolMaxBlockSize := by
  unfold InRange at h ⊢
  simp only [decrementBlockSize]
  omega

theorem admissible_iff {self self' : BlockSizeLimits} {action : Action} (h : self.InRange)
    (hstep : self.step action = some self') :
    self'.InRange ∧ self.NoOverflow action ↔ self.Admissible action := by
  cases action with
  | tryIncrementBlockSize force now =>
    rw [← Option.some.inj hstep]
    simp only [NoOverflow, Admissible, increment_fits_iff]
    constructor
    . exact And.right
    . intro hadmissible
      refine ⟨h.tryIncrement ?_, hadmissible⟩
      rwa [increment_fits_iff]
  | decrementBlockSize =>
    rw [← Option.some.inj hstep, inRange_decrement_iff h]
    simp only [NoOverflow, Admissible, self.change_le, and_true]

theorem InRange.admissible {self : BlockSizeLimits} (h : self.InRange)
    (hfloor : maxBlockSizeFloor ≤ self.protocolMaxBlockSize)
    (hmax : self.protocolMaxBlockSize ≤ maxIncrementable) (action : Action) :
    self.Admissible action := by
  cases action with
  | tryIncrementBlockSize force now =>
    intro _
    exact Nat.le_trans h.2 hmax
  | decrementBlockSize => exact hfloor

@[simp]
theorem protocolMaxBlockSize_tryIncrement (self : BlockSizeLimits) (force : Bool) (now : Nat) :
    (self.tryIncrementBlockSize force now).protocolMaxBlockSize = self.protocolMaxBlockSize := by
  unfold tryIncrementBlockSize
  split <;> rfl

@[simp]
theorem protocolMaxBlockSize_decrement (self : BlockSizeLimits) :
    self.decrementBlockSize.protocolMaxBlockSize = self.protocolMaxBlockSize := rfl

theorem protocolMaxBlockSize_step {self self' : BlockSizeLimits} {action : Action}
    (hstep : self.step action = some self') :
    self'.protocolMaxBlockSize = self.protocolMaxBlockSize := by
  cases action with
  | tryIncrementBlockSize force now =>
    rw [← Option.some.inj hstep, protocolMaxBlockSize_tryIncrement]
  | decrementBlockSize => rw [← Option.some.inj hstep, protocolMaxBlockSize_decrement]

/--
All is well in a run exactly as long as no limit is decremented that the protocol keeps below the
floor, and none is incremented that is too big for it. For all runs, that makes the limits of the
protocol between the floor and the greatest limit that can be incremented.
-/
theorem inRange_iff (protocolMaxBlockSize : Nat) :
    (∀ incrementPeriod now actions,
      Always step InRange (new protocolMaxBlockSize incrementPeriod now) actions ∧
          Along step NoOverflow (new protocolMaxBlockSize incrementPeriod now) actions ↔
        Along step Admissible (new protocolMaxBlockSize incrementPeriod now) actions) ∧
    ((∀ incrementPeriod now actions,
        Always step InRange (new protocolMaxBlockSize incrementPeriod now) actions ∧
          Along step NoOverflow (new protocolMaxBlockSize incrementPeriod now) actions) ↔
      maxBlockSizeFloor ≤ protocolMaxBlockSize ∧ protocolMaxBlockSize ≤ maxIncrementable) := by
  have hrun : ∀ incrementPeriod now actions,
      Always step InRange (new protocolMaxBlockSize incrementPeriod now) actions ∧
          Along step NoOverflow (new protocolMaxBlockSize incrementPeriod now) actions ↔
        Along step Admissible (new protocolMaxBlockSize incrementPeriod now) actions := by
    intro incrementPeriod now actions
    apply always_and_along_iff
    . intro self action self' hself hstep
      exact admissible_iff hself hstep
    . exact inRange_new protocolMaxBlockSize incrementPeriod now
  refine ⟨hrun, ?_⟩
  simp only [hrun]
  constructor
  . intro hall
    constructor
    . exact (hall 0 0 [.decrementBlockSize] _ rfl).1
    . exact (hall 0 0 [.tryIncrementBlockSize true 0] _ rfl).1 (.inl rfl)
  . rintro ⟨hfloor, hmax⟩ incrementPeriod now actions
    apply along_of_invariant (I := fun self =>
      self.InRange ∧ self.protocolMaxBlockSize = protocolMaxBlockSize)
    . rintro self action self' ⟨hself, rfl⟩ hstep
      have hadmissible := hself.admissible hfloor hmax action
      exact ⟨((admissible_iff hself hstep).mpr hadmissible).1, protocolMaxBlockSize_step hstep⟩
    . rintro self action ⟨hself, rfl⟩
      exact hself.admissible hfloor hmax action
    . exact ⟨inRange_new _ _ _, rfl⟩

/--
A protocol limit below the floor is exceeded after one decrement, and one near the end of the `u64`s
wraps around with the first increment.
-/
theorem not_inRange :
    ¬ Always step InRange (new 5000 10 0) [.decrementBlockSize] ∧
    (new 5000 10 0).decrementBlockSize.maxBlockSize = 10000 ∧
    ¬ Along step NoOverflow (new (2 ^ 64 - 1) 10 0) [.tryIncrementBlockSize true 1] ∧
    ((new (2 ^ 64 - 1) 10 0).tryIncrementBlockSize true 1).maxBlockSize < 2 ^ 61 := by
  refine ⟨?_, rfl, ?_, by decide⟩
  . intro h
    have hrange := (h.2 _ rfl).2
    contradiction
  . intro h
    have hfits := (h _ rfl).1 (.inl rfl)
    contradiction

end BlockSizeLimits

end BuilderCore
