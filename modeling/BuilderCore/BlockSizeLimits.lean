import Mathlib.Algebra.Ring.Nat

/-!
This module contains the limits on the size of a block. Both legacy builders adjust them in the same
way.
-/

namespace BuilderCore

/--
`maxBlockSize` is the size that can be built in time, as estimated.
-/
structure BlockSizeLimits where
  protocolMaxBlockSize : Nat
  maxBlockSize : Nat
  incrementPeriod : Nat
  lastBlockSizeIncrement : Nat
  deriving DecidableEq, Repr

namespace BlockSizeLimits

def maxBlockSizeFloor : Nat := 10000

def maxBlockSizeChangeDivisor : Nat := 10

def new (protocolMaxBlockSize incrementPeriod now : Nat) : BlockSizeLimits where
  protocolMaxBlockSize
  maxBlockSize := protocolMaxBlockSize
  incrementPeriod
  lastBlockSizeIncrement := now

/--
`div_ceil` of the limit and `MAX_BLOCK_SIZE_CHANGE_DIVISOR`.
-/
def change (self : BlockSizeLimits) : Nat :=
  (self.maxBlockSize + (maxBlockSizeChangeDivisor - 1)) / maxBlockSizeChangeDivisor

def tryIncrementBlockSize (self : BlockSizeLimits) (force : Bool) (now : Nat) : BlockSizeLimits :=
  if force ∨ now - self.lastBlockSizeIncrement ≥ self.incrementPeriod then
    { self with
      -- the sum is a `u64`
      maxBlockSize := min ((self.maxBlockSize + self.change) % 2 ^ 64) self.protocolMaxBlockSize
      lastBlockSizeIncrement := now }
  else
    self

def decrementBlockSize (self : BlockSizeLimits) : BlockSizeLimits :=
  { self with maxBlockSize := max (self.maxBlockSize - self.change) maxBlockSizeFloor }

end BlockSizeLimits

end BuilderCore
