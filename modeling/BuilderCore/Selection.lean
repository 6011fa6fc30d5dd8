import BuilderCore.Legacy.BuildBlock
import BuilderCore.LegacyRefactored.BuildBlock

/-!
This module contains which transactions of a queue a block is built from: in both legacy builders the
longest prefix that stays below the limit, except that one transaction may be too big on its own.
-/

namespace BuilderCore

variable {T : NodeType}

/--
A scan that starts with `total` takes the first `k` transactions of a queue with these sizes. The sums
it computes are those up to the transaction that it stops at.
-/
structure Selects (maxBlockSize total : Nat) (sizes : List Nat) (k : Nat) : Prop where
  le : k ≤ sizes.length
  below : total + (sizes.take k).sum < maxBlockSize ∨ total + (sizes.take (k - 1)).sum = 0 ∨ k = 0
  maximal : k < sizes.length →
    total + (sizes.take k).sum ≠ 0 ∧ maxBlockSize ≤ total + (sizes.take (k + 1)).sum
  noOverflow : ∀ j ≤ k + 1, total + (sizes.take j).sum < 2 ^ 64

namespace Selects

variable {maxBlockSize total size : Nat} {sizes : List Nat} {k : Nat}

theorem nil (htotal : total < 2 ^ 64) : Selects maxBlockSize total [] 0 where
  le := Nat.le_refl 0
  below := .inr (.inr rfl)
  maximal := by simp
  noOverflow := by
    intro j _
    rwa [List.take_nil, List.sum_nil, Nat.add_zero]

theorem stop (hlimit : maxBlockSize ≤ total + size) (htotal : total ≠ 0)
    (hsum : total + size < 2 ^ 64) : Selects maxBlockSize total (size :: sizes) 0 where
  le := Nat.zero_le _
  below := .inr (.inr rfl)
  maximal := by
    intro _
    constructor
    . simpa using htotal
    . simpa using hlimit
  noOverflow := by
    intro j hj
    cases j with
    | zero =>
      rw [List.take_zero, List.sum_nil]
      omega
    | succ j =>
      obtain rfl : j = 0 := by omega
      simpa using hsum

theorem cons (h : Selects maxBlockSize (total + size) sizes k)
    (hfits : total + size < maxBlockSize ∨ total = 0) :
    Selects maxBlockSize total (size :: sizes) (k + 1) where
  le := by
    rw [List.length_cons]
    exact Nat.succ_le_succ h.le
  below := by
    rw [Nat.add_sub_cancel]
    cases k with
    | zero =>
      rcases hfits with hfits | hfits
      . left
        simpa using hfits
      . right
        left
        simpa using hfits
    | succ k =>
      rw [List.take_succ_cons, List.take_succ_cons, List.sum_cons, List.sum_cons]
      rcases h.below with hbelow | hzero | hk
      . left
        omega
      . right
        left
        rw [Nat.add_sub_cancel] at hzero
        omega
      . contradiction
  maximal := by
    intro hlt
    rw [List.length_cons] at hlt
    obtain ⟨hne, hle⟩ := h.maximal (by omega)
    rw [List.take_succ_cons, List.take_succ_cons, List.sum_cons, List.sum_cons]
    omega
  noOverflow := by
    intro j hj
    cases j with
    | zero =>
      have hsum := h.noOverflow 0 (by omega)
      rw [List.take_zero, List.sum_nil] at hsum ⊢
      omega
    | succ j =>
      have hsum := h.noOverflow j (by omega)
      rw [List.take_succ_cons, List.sum_cons]
      omega

theorem pos (h : Selects maxBlockSize 0 sizes k) (hne : sizes ≠ []) : 1 ≤ k := by
  have hlength := List.length_pos_of_ne_nil hne
  by_contra hk
  obtain rfl : k = 0 := by omega
  -- the scan never stops while the total is zero
  obtain ⟨hzero, -⟩ := h.maximal hlength
  simp at hzero

end Selects

theorem transactionsToInclude.go_selects {protocolMaxBlockSize maxBlockSize : Nat}
    (hprotocol : protocolMaxBlockSize < 2 ^ 63) (hlimit : maxBlockSize ≤ protocolMaxBlockSize)
    {txns : List (ReceivedTransaction T)}
    (hsizes : ∀ tx ∈ txns, tx.minBlockSize ≤ protocolMaxBlockSize) {total : Nat}
    (htotal : total ≤ protocolMaxBlockSize) :
    ∃ k, transactionsToInclude.go maxBlockSize total txns = txns.take k ∧
      Selects maxBlockSize total (txns.map (·.minBlockSize)) k := by
  induction txns generalizing total with
  | nil => exact ⟨0, rfl, .nil (by omega)⟩
  | cons tx txns ih =>
    have hsize := hsizes tx List.mem_cons_self
    have hmod : (total + tx.minBlockSize) % 2 ^ 64 = total + tx.minBlockSize :=
      Nat.mod_eq_of_lt (by omega)
    simp only [go, hmod, List.map_cons]
    split
    . next hstop => exact ⟨0, rfl, .stop hstop.1 hstop.2 (by omega)⟩
    . next hfits =>
      -- the total stays below the protocol limit, or it is the size of one transaction
      have hnext : total + tx.minBlockSize ≤ protocolMaxBlockSize := by omega
      have hrest : ∀ tx ∈ txns, tx.minBlockSize ≤ protocolMaxBlockSize := by
        intro tx' htx'
        exact hsizes tx' (List.mem_cons_of_mem tx htx')
      obtain ⟨k, hgo, hselects⟩ := ih hrest hnext
      refine ⟨k + 1, ?_, hselects.cons (by omega)⟩
      rw [hgo, List.take_succ_cons]

section

variable [ApiTypes T]

/--
The length `k` of the prefix depends on the limit and on the sizes only.
-/
theorem selection_maximal {protocolMaxBlockSize maxBlockSize : Nat}
    (hprotocol : protocolMaxBlockSize < 2 ^ 63) (hlimit : maxBlockSize ≤ protocolMaxBlockSize)
    (txns : List (ReceivedTransaction T))
    (hsizes : ∀ tx ∈ txns, tx.minBlockSize ≤ protocolMaxBlockSize) :
    ∃ k, (∀ txnQueue : TransactionQueue T, txnQueue.transactions = txns →
        transactionsToInclude maxBlockSize txnQueue = (txns.take k).map (·.transaction)) ∧
      (∀ builder : Legacy.BlockBuilder T, builder.txQueue = txns →
        builder.transactionsToInclude maxBlockSize = (txns.take k).map (·.transaction)) ∧
      k ≤ txns.length ∧ (1 ≤ txns.length → 1 ≤ k) ∧
      (((txns.map (·.minBlockSize)).take k).sum < maxBlockSize ∨
        ((txns.map (·.minBlockSize)).take (k - 1)).sum = 0) ∧
      (k < txns.length → ((txns.map (·.minBlockSize)).take k).sum ≠ 0 ∧
        maxBlockSize ≤ ((txns.map (·.minBlockSize)).take (k + 1)).sum) ∧
      ∀ j ≤ k + 1, ((txns.map (·.minBlockSize)).take j).sum < 2 ^ 64 := by
  obtain ⟨k, hgo, hselects⟩ := transactionsToInclude.go_selects hprotocol hlimit hsizes
    (Nat.zero_le protocolMaxBlockSize)
  have hle := hselects.le
  have hbelow := hselects.below
  have hmaximal := hselects.maximal
  have hnoOverflow := hselects.noOverflow
  simp only [List.length_map, Nat.zero_add] at hle hbelow hmaximal hnoOverflow
  refine ⟨k, ?_, ?_, hle, ?_, ?_, hmaximal, hnoOverflow⟩
  . rintro txnQueue rfl
    rw [transactionsToInclude, hgo]
  . rintro builder rfl
    rw [Legacy.BlockBuilder.transactionsToInclude, hgo]
  . intro hpos
    apply hselects.pos
    rw [← List.length_pos_iff, List.length_map]
    exact hpos
  . rcases hbelow with hbelow | hzero | hk
    . exact .inl hbelow
    . exact .inr hzero
    . right
      rw [hk]
      rfl

/--
With a limit of 10: an oversize transaction goes alone, after one of size zero, and what reaches the
limit exactly is left out.
-/
theorem selection_maximal_ten :
    transactionsToInclude 10 (T := TestTypes)
        ⟨{(0 : Nat), (12 : Nat), (3 : Nat)}, [0, 12, 3].map TestTypes.txn⟩ =
      [(0 : Nat), (12 : Nat)] ∧
    ∃ k, transactionsToInclude 10 (T := TestTypes)
        ⟨{(4 : Nat), (6 : Nat)}, [4, 6].map TestTypes.txn⟩ =
      (([4, 6].map TestTypes.txn).take k).map (·.transaction) ∧ k ≤ 2 ∧ 1 ≤ k := by
  refine ⟨rfl, ?_⟩
  have hprotocol : 10 < 2 ^ 63 := by decide
  obtain ⟨k, hqueue, -, hle, hpos, -⟩ := selection_maximal hprotocol (Nat.le_refl 10)
    ([4, 6].map TestTypes.txn) (by decide)
  exact ⟨k, hqueue _ rfl, hle, hpos (by decide)⟩

end

end BuilderCore
