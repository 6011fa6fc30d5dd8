import BuilderCore.BlockSizeRange
import Mathlib.Tactic.Ring

/-!
This module contains how the limit on the size of a block recovers: how many forced increments take it
back to the limit of the protocol, and how many undo a decrement.
-/

namespace BuilderCore

namespace BlockSizeLimits

def forceIncrements (self : BlockSizeLimits) (times : List Nat) : BlockSizeLimits :=
  times.foldl (fun self now => self.tryIncrementBlockSize true now) self

@[simp]
theorem forceIncrements_nil (self : BlockSizeLimits) : self.forceIncrements [] = self := rfl

@[simp]
theorem forceIncrements_cons (self : BlockSizeLimits) (now : Nat) (times : List Nat) :
    self.forceIncrements (now :: times) =
      (self.tryIncrementBlockSize true now).forceIncrements times := rfl

@[simp]
theorem forceIncrements_concat (self : BlockSizeLimits) (times : List Nat) (now : Nat) :
    self.forceIncrements (times ++ [now]) =
      (self.forceIncrements times).tryIncrementBlockSize true now := by
  simp [forceIncrements]

/--
The current limit is between the floor and the limit of the protocol, and the latter can be
incremented without an overflow.
-/
structure Recoverable (limits : BlockSizeLimits) : Prop where
  floor : maxBlockSizeFloor ≤ limits.maxBlockSize
  ceiling : limits.maxBlockSize ≤ limits.protocolMaxBlockSize
  fits : limits.protocolMaxBlockSize + (limits.protocolMaxBlockSize + 9) / 10 < 2 ^ 64

theorem Recoverable.maxBlockSize_increment {self : BlockSizeLimits} (h : self.Recoverable)
    (now : Nat) :
    (self.tryIncrementBlockSize true now).maxBlockSize =
      min (self.maxBlockSize + (self.maxBlockSize + 9) / 10) self.protocolMaxBlockSize := by
  have hfits : self.maxBlockSize + (self.maxBlockSize + 9) / 10 < 2 ^ 64 := by
    have := h.ceiling
    have := h.fits
    omega
  unfold tryIncrementBlockSize
  rw [if_pos (.inl rfl)]
  dsimp only
  rw [change_eq, Nat.mod_eq_of_lt hfits]

theorem Recoverable.increment {self : BlockSizeLimits} (h : self.Recoverable) (now : Nat) :
    (self.tryIncrementBlockSize true now).Recoverable := by
  have hvalue := h.maxBlockSize_increment now
  obtain ⟨hfloor, hceiling, hfits⟩ := h
  constructor
  . omega
  . rw [protocolMaxBlockSize_tryIncrement]
    omega
  . rwa [protocolMaxBlockSize_tryIncrement]

theorem Recoverable.increments {self : BlockSizeLimits} (h : self.Recoverable) (times : List Nat) :
    (self.forceIncrements times).Recoverable := by
  induction times generalizing self with
  | nil => exact h
  | cons now times ih => exact ih (h.increment now)

@[simp]
theorem protocolMaxBlockSize_increments (self : BlockSizeLimits) (times : List Nat) :
    (self.forceIncrements times).protocolMaxBlockSize = self.protocolMaxBlockSize := by
  induction times generalizing self with
  | nil => rfl
  | cons now times ih => simp [ih]

theorem Recoverable.decrement {self : BlockSizeLimits} (h : self.Recoverable) :
    self.decrementBlockSize.Recoverable := by
  obtain ⟨hfloor, hceiling, hfits⟩ := h
  refine ⟨Nat.le_max_right .., ?_, hfits⟩
  simp only [decrementBlockSize]
  omega

theorem Recoverable.lt_increment {self : BlockSizeLimits} (h : self.Recoverable)
    (hlt : self.maxBlockSize < self.protocolMaxBlockSize) (now : Nat) :
    self.maxBlockSize < (self.tryIncrementBlockSize true now).maxBlockSize := by
  rw [h.maxBlockSize_increment]
  have hfloor := h.floor
  unfold maxBlockSizeFloor at hfloor
  omega

theorem Recoverable.increment_eq {self : BlockSizeLimits} (h : self.Recoverable)
    (heq : self.maxBlockSize = self.protocolMaxBlockSize) (now : Nat) :
    (self.tryIncrementBlockSize true now).maxBlockSize = self.protocolMaxBlockSize := by
  rw [h.maxBlockSize_increment]
  omega

/--
The division rounds up, so an increment adds at least a tenth.
-/
theorem Recoverable.grows {self : BlockSizeLimits} (h : self.Recoverable) (now : Nat) :
    (self.tryIncrementBlockSize true now).maxBlockSize = self.protocolMaxBlockSize ∨
      11 * self.maxBlockSize ≤ 10 * (self.tryIncrementBlockSize true now).maxBlockSize := by
  rw [h.maxBlockSize_increment]
  omega

theorem Recoverable.increments_eq {self : BlockSizeLimits} (h : self.Recoverable) {times : List Nat}
    (hn : 10 ^ times.length * self.protocolMaxBlockSize ≤ 11 ^ times.length * self.maxBlockSize) :
    (self.forceIncrements times).maxBlockSize = self.protocolMaxBlockSize := by
  induction times generalizing self with
  | nil =>
    simp only [List.length_nil, Nat.pow_zero, Nat.one_mul] at hn
    exact Nat.le_antisymm h.ceiling hn
  | cons now times ih =>
    rw [forceIncrements_cons, ← protocolMaxBlockSize_tryIncrement self true now]
    apply ih (h.increment now)
    rw [protocolMaxBlockSize_tryIncrement]
    generalize hvalue : (self.tryIncrementBlockSize true now).maxBlockSize = value
    rcases h.grows now with heq | hgrows
    . rw [hvalue] at heq
      rw [heq]
      exact Nat.mul_le_mul_right _ (Nat.pow_le_pow_left (by omega) _)
    . rw [hvalue] at hgrows
      rw [List.length_cons, Nat.pow_succ, Nat.pow_succ] at hn
      have hgrown := Nat.mul_le_mul_left (11 ^ times.length) hgrows
      apply Nat.le_of_mul_le_mul_left _ (show 0 < 10 by omega)
      calc 10 * (10 ^ times.length * self.protocolMaxBlockSize)
        _ = 10 ^ times.length * 10 * self.protocolMaxBlockSize := by ring
        _ ≤ 11 ^ times.length * 11 * self.maxBlockSize := hn
        _ = 11 ^ times.length * (11 * self.maxBlockSize) := by ring
        _ ≤ 11 ^ times.length * (10 * value) := hgrown
        _ = 10 * (11 ^ times.length * value) := by ring

/--
A decrement takes off a tenth and less than one more, and two increments add a fifth.
-/
theorem Recoverable.le_decrement_increments {self : BlockSizeLimits} (h : self.Recoverable)
    (now now' : Nat) :
    self.maxBlockSize ≤ (self.decrementBlockSize.forceIncrements [now, now']).maxBlockSize := by
  have hfloor := h.floor
  have hceiling := h.ceiling
  unfold maxBlockSizeFloor at hfloor
  have hdecremented : 9 * self.maxBlockSize ≤ 10 * self.decrementBlockSize.maxBlockSize + 9 := by
    simp only [decrementBlockSize, change_eq]
    omega
  simp only [forceIncrements_cons, forceIncrements_nil]
  rw [(h.decrement.increment now).maxBlockSize_increment, h.decrement.maxBlockSize_increment]
  simp only [protocolMaxBlockSize_tryIncrement, protocolMaxBlockSize_decrement]
  omega

-- one increment does not undo every decrement
example : (BlockSizeLimits.decrementBlockSize ⟨20000, 20000, 10, 0⟩).maxBlockSize = 18000 ∧
    ((BlockSizeLimits.decrementBlockSize ⟨20000, 20000, 10, 0⟩).forceIncrements [1]).maxBlockSize =
      19800 := by
  decide

theorem recovers {self : BlockSizeLimits} (h : self.Recoverable) :
    (∀ times now,
      ((self.forceIncrements times).maxBlockSize < self.protocolMaxBlockSize ∧
        (self.forceIncrements times).maxBlockSize <
          (self.forceIncrements (times ++ [now])).maxBlockSize) ∨
      ((self.forceIncrements times).maxBlockSize = self.protocolMaxBlockSize ∧
        (self.forceIncrements (times ++ [now])).maxBlockSize = self.protocolMaxBlockSize)) ∧
    (∀ times : List Nat,
      11 ^ times.length * self.maxBlockSize ≥ 10 ^ times.length * self.protocolMaxBlockSize →
        (self.forceIncrements times).maxBlockSize = self.protocolMaxBlockSize) ∧
    ∀ now now',
      (self.decrementBlockSize.forceIncrements [now, now']).maxBlockSize ≥ self.maxBlockSize := by
  refine ⟨?_, fun times hn => h.increments_eq hn, h.le_decrement_increments⟩
  intro times now
  have hincrements := h.increments times
  rw [← protocolMaxBlockSize_increments self times, forceIncrements_concat]
  rcases Nat.lt_or_eq_of_le hincrements.ceiling with hlt | heq
  . exact .inl ⟨hlt, hincrements.lt_increment hlt now⟩
  . exact .inr ⟨heq, hincrements.increment_eq heq now⟩

theorem recovers_from_floor :
    ((⟨20000, 10000, 10, 0⟩ : BlockSizeLimits).forceIncrements [1, 2, 3, 4, 5, 6, 7, 8]).maxBlockSize =
      20000 :=
  (recovers ⟨by decide, by decide, by decide⟩).2.1 [1, 2, 3, 4, 5, 6, 7, 8] (by decide)

end BlockSizeLimits

end BuilderCore
