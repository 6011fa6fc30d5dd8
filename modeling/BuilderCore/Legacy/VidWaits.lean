import BuilderCore.BlockSizeRange
import BuilderCore.Legacy.Service

/-!
This module contains how a request for a header input waits for the VID commitment, and what it makes
of the limit on the size of a block when it does not get it.
-/

namespace BuilderCore

variable {T : NodeType} [ApiTypes T]

namespace Legacy

def vidResponseTargetMarginDivisor : Nat := 10

variable (T) in
/--
What one turn of the loop sees of the receiver. When nothing came in time, it reads the clock.
-/
inductive VidPoll where
  | elapsed (now : Nat)
  | received (vidCommitment : T.VidCommitment)
  | closed

/--
The loop that waits, `none` as long as it does.
-/
def waitForVid (timeoutAfter : Nat) (polls : List (VidPoll T)) :
    Option (Except (ClaimBlockHeaderInputError T) T.VidCommitment) :=
  match polls with
  | [] => none
  | .elapsed now :: polls =>
    if now ≥ timeoutAfter then
      some (.error .couldNotGetVidInTime)
    else
      waitForVid timeoutAfter polls
  | .received vidCommitment :: _ => some (.ok vidCommitment)
  | .closed :: _ => some (.error .failedToResolvedVidCommitmentFromChannel)

def hasMargin (maxApiWaitingTime timeoutAfter now : Nat) : Bool :=
  timeoutAfter - now > maxApiWaitingTime / vidResponseTargetMarginDivisor

namespace ProxyGlobalState

/--
`claim_block_header_input_implementation` for a block that was found. After the loop the clock is read
at `checked`, and for the increment once more.
-/
def headerInput (self : ProxyGlobalState T) (blockInfo : BlockInfo T)
    (maxApiWaitingTime start : Nat) (polls : List (VidPoll T)) (checked now : Nat) :
    Option (ProxyGlobalState T × Progress T) := do
  let timeoutAfter := start + maxApiWaitingTime
  let responseReceived ← waitForVid timeoutAfter polls
  let self :=
    match responseReceived with
    | .error .couldNotGetVidInTime => self.timeOutVid.1
    | _ => self
  -- whatever the response is
  let self := self.adjustBlockSize blockInfo (hasMargin maxApiWaitingTime timeoutAfter checked) now
  return (self,
    match responseReceived with
    | .ok vidCommitment => self.answerHeaderInput blockInfo vidCommitment
    | .error error => .failHeaderInput error)

def limits (self : ProxyGlobalState T) : BlockSizeLimits := self.globalState.blockSizeLimits

end ProxyGlobalState

section

variable {self self' : ProxyGlobalState T} {blockInfo : BlockInfo T} {progress : Progress T}
  {maxApiWaitingTime start checked now : Nat} {polls : List (VidPoll T)}

theorem exists_elapsed_of_timedOut {timeoutAfter : Nat}
    (h : waitForVid timeoutAfter polls = some (.error .couldNotGetVidInTime)) :
    ∃ now, .elapsed now ∈ polls ∧ timeoutAfter ≤ now := by
  induction polls with
  | nil => contradiction
  | cons poll polls ih =>
    cases poll with
    | elapsed now =>
      rw [waitForVid] at h
      split at h
      . next hnow => exact ⟨now, List.mem_cons_self, hnow⟩
      . obtain ⟨now', hmem, hnow'⟩ := ih h
        exact ⟨now', List.mem_cons_of_mem _ hmem, hnow'⟩
    | received vidCommitment => simp [waitForVid] at h
    | closed => simp [waitForVid] at h

theorem headerInput_of_closed
    (hclosed : waitForVid (start + maxApiWaitingTime) polls =
      some (.error .failedToResolvedVidCommitmentFromChannel)) :
    self.headerInput blockInfo maxApiWaitingTime start polls checked now =
      some (self.adjustBlockSize blockInfo
          (hasMargin maxApiWaitingTime (start + maxApiWaitingTime) checked) now,
        .failHeaderInput .failedToResolvedVidCommitmentFromChannel) := by
  rw [ProxyGlobalState.headerInput, hclosed]
  rfl

/--
After a timeout there is no margin.
-/
theorem headerInput_of_timedOut (hclock : ∀ now, .elapsed now ∈ polls → now ≤ checked)
    (htimedOut : waitForVid (start + maxApiWaitingTime) polls =
      some (.error .couldNotGetVidInTime)) :
    self.headerInput blockInfo maxApiWaitingTime start polls checked now =
      some self.timeOutVid := by
  obtain ⟨elapsed, hmem, hle⟩ := exists_elapsed_of_timedOut htimedOut
  have hchecked := hclock elapsed hmem
  have hzero : start + maxApiWaitingTime - checked = 0 := by omega
  have hmargin : hasMargin maxApiWaitingTime (start + maxApiWaitingTime) checked = false := by
    simp [hasMargin, hzero]
  simp only [ProxyGlobalState.headerInput, htimedOut, hmargin]
  rfl

theorem limits_adjustBlockSize (margin : Bool) :
    (self.adjustBlockSize blockInfo margin now).limits =
      if margin then self.limits.tryIncrementBlockSize blockInfo.truncated now else self.limits := by
  unfold ProxyGlobalState.adjustBlockSize
  split <;> rfl

theorem tryIncrementBlockSize_eq_self_iff {limits : BlockSizeLimits} {force : Bool} :
    limits.tryIncrementBlockSize force now = limits ↔
      ¬ limits.Increments force now ∨ now = limits.lastBlockSizeIncrement ∧
        min ((limits.maxBlockSize + limits.change) % 2 ^ 64) limits.protocolMaxBlockSize =
          limits.maxBlockSize := by
  unfold BlockSizeLimits.tryIncrementBlockSize
  split
  . next hincrements =>
    have hincrements : limits.Increments force now := hincrements
    rw [BlockSizeLimits.mk.injEq]
    tauto
  . next hnot =>
    have hnot : ¬ limits.Increments force now := hnot
    simp [hnot]

theorem decrementBlockSize_le_iff {limits : BlockSizeLimits} :
    limits.decrementBlockSize.maxBlockSize ≤ limits.maxBlockSize ↔
      BlockSizeLimits.maxBlockSizeFloor ≤ limits.maxBlockSize := by
  simp only [BlockSizeLimits.decrementBlockSize]
  omega

/--
A closed channel changes nothing exactly if no margin is left or no increment is due. If the clock
still shows the time of the last increment, there may be nothing to increment either. A timeout
increases nothing exactly if the limit is not below the floor.
-/
theorem keeps_limits_iff (hclock : ∀ now, .elapsed now ∈ polls → now ≤ checked)
    (hresult : self.headerInput blockInfo maxApiWaitingTime start polls checked now =
      some (self', progress)) :
    (waitForVid (start + maxApiWaitingTime) polls =
        some (.error .failedToResolvedVidCommitmentFromChannel) →
      (self'.limits = self.limits ↔
        hasMargin maxApiWaitingTime (start + maxApiWaitingTime) checked = false ∨
          ¬ self.limits.Increments blockInfo.truncated now ∨
          now = self.limits.lastBlockSizeIncrement ∧
            min ((self.limits.maxBlockSize + self.limits.change) % 2 ^ 64)
              self.limits.protocolMaxBlockSize = self.limits.maxBlockSize)) ∧
    (waitForVid (start + maxApiWaitingTime) polls = some (.error .couldNotGetVidInTime) →
      (self'.limits.maxBlockSize ≤ self.limits.maxBlockSize ∧
          self'.limits.lastBlockSizeIncrement ≤ self.limits.lastBlockSizeIncrement ↔
        BlockSizeLimits.maxBlockSizeFloor ≤ self.limits.maxBlockSize)) := by
  constructor
  . intro hclosed
    rw [headerInput_of_closed hclosed, Option.some.injEq, Prod.mk.injEq] at hresult
    rw [← hresult.1, limits_adjustBlockSize]
    split
    . next hmargin =>
      rw [tryIncrementBlockSize_eq_self_iff]
      simp [hmargin]
    . next hmargin => simp [hmargin]
  . intro htimedOut
    rw [headerInput_of_timedOut hclock htimedOut, ProxyGlobalState.timeOutVid, Option.some.injEq,
      Prod.mk.injEq] at hresult
    have hlimits : self'.limits = self.limits.decrementBlockSize := by
      rw [← hresult.1]
      rfl
    rw [hlimits, decrementBlockSize_le_iff]
    exact and_iff_left (Nat.le_refl _)

end

def waitingProxy (maxBlockSize : Nat) : ProxyGlobalState TestTypes where
  globalState := { GlobalState.new GlobalState.testConfig with
    blockSizeLimits := ⟨20000, maxBlockSize, 10, 0⟩ }
  builderKeys := ⟨(7 : Nat), (7 : Nat)⟩

def truncatedBlock : BlockInfo TestTypes := ⟨[5], (), 0, 1, true⟩

/--
The timeout reduces the limit, the channel that is closed at the last moment leaves it.
-/
theorem keeps_limits_waitingProxy :
    (∃ proxy progress, (waitingProxy 15000).headerInput truncatedBlock 100 0
        [.elapsed 50, .elapsed 100] 100 100 = some (proxy, progress) ∧
      proxy.limits.maxBlockSize ≤ 15000) ∧
    ∃ proxy progress, (waitingProxy 15000).headerInput truncatedBlock 100 0
        [.elapsed 50, .closed] 95 95 = some (proxy, progress) ∧
      proxy.limits = (waitingProxy 15000).limits := by
  have hresult : ∃ proxy progress, (waitingProxy 15000).headerInput truncatedBlock 100 0
      [.elapsed 50, .elapsed 100] 100 100 = some (proxy, progress) := ⟨_, _, rfl⟩
  have hresult' : ∃ proxy progress, (waitingProxy 15000).headerInput truncatedBlock 100 0
      [.elapsed 50, .closed] 95 95 = some (proxy, progress) := ⟨_, _, rfl⟩
  constructor
  . obtain ⟨proxy, progress, hresult⟩ := hresult
    refine ⟨proxy, progress, hresult, ?_⟩
    exact (((keeps_limits_iff (by simp) hresult).2 rfl).mpr (by decide)).1
  . obtain ⟨proxy, progress, hresult⟩ := hresult'
    refine ⟨proxy, progress, hresult, ?_⟩
    exact ((keeps_limits_iff (by simp) hresult).1 rfl).mpr (.inl rfl)

/--
The trigger is dropped at once: the limit goes up. It also goes up to the floor with a timeout.
-/
theorem not_keeps_limits :
    (∃ proxy progress, (waitingProxy 15000).headerInput truncatedBlock 100 0 [.closed] 1 1 =
        some (proxy, progress) ∧
      proxy.limits.maxBlockSize = 16500 ∧ proxy.limits.lastBlockSizeIncrement = 1) ∧
    ∃ proxy progress, (waitingProxy 5000).headerInput truncatedBlock 100 0 [.elapsed 100] 100 100 =
        some (proxy, progress) ∧
      proxy.limits.maxBlockSize = 10000 := by
  exact ⟨⟨_, _, rfl, rfl, rfl⟩, _, _, rfl, rfl⟩

end Legacy

end BuilderCore
