import BuilderCore.Shared.ForestLemmas

/-!
This module contains what the included set of a builder state remembers of the blocks of the state's
ancestors, for every schedule of the rotations on the way.
-/

namespace BuilderCore

variable {T : NodeType}

namespace Forest

structure LineageInvariant (period : Nat) (clock : Nat) (_sent : List (ReceivedTransaction T))
    (node : Node T) : Prop where
  period_eq : node.state.includedTxns.period = period
  created : ∀ ancestor ∈ node.lineage, ancestor.created ≤ clock
  rotated : ∃ self rest, node.lineage = self :: rest ∧
    node.state.includedTxns.lastRotation ≤ self.created
  aged : ∀ ancestor ∈ node.lineage, ∀ commit ∈ ancestor.block,
    node.state.includedTxns.Aged ancestor.created commit
  youngest : ∀ n ≤ 2, ∀ ancestor, node.lineage[n]? = some ancestor → ∀ commit ∈ ancestor.block,
    commit ∈ node.state.includedTxns.youngest n

structure RotatedInvariant (period : Nat) (clock : Nat) (_sent : List (ReceivedTransaction T))
    (node : Node T) (newChild : NewChild T) : Prop where
  period_eq : newChild.includedTxns.period = period
  rotated : newChild.includedTxns.lastRotation ≤ clock
  aged : ∀ ancestor ∈ node.lineage, ∀ commit ∈ ancestor.block,
    newChild.includedTxns.Aged ancestor.created commit
  youngest : ∀ n ≤ 1, ∀ ancestor, node.lineage[n]? = some ancestor → ∀ commit ∈ ancestor.block,
    commit ∈ newChild.includedTxns.youngest (n + 1)

theorem lastRotation_rotate_le {α : Type} [DecidableEq α] {s : RotatingSet α}
    {checked now : Nat} (h : s.lastRotation ≤ now) :
    (s.rotate checked now).lastRotation ≤ now := by
  unfold RotatingSet.rotate
  split
  . exact Nat.le_refl _
  . exact h

theorem LineageInvariant.newChild {period clock checked now : Nat}
    {sent : List (ReceivedTransaction T)} {node : Node T} (h : LineageInvariant period clock sent node)
    (quorumProposal : T.QuorumProposalWrapper) (daProposal : DaProposal2 T)
    (hchecked : clock ≤ checked) (hnow : checked ≤ now) :
    RotatedInvariant period now sent node
      (node.state.newChild quorumProposal daProposal checked now) where
  period_eq := by simp [h.period_eq]
  rotated := by
    obtain ⟨self, rest, hlineage, hself⟩ := h.rotated
    have := h.created self (by simp [hlineage])
    apply lastRotation_rotate_le
    omega
  aged := by
    intro ancestor hancestor commit hcommit
    have := h.created ancestor hancestor
    apply RotatingSet.aged_rotate
    . exact h.aged ancestor hancestor commit hcommit
    . omega
    . exact hnow
  youngest := by
    intro n hn ancestor hancestor commit hcommit
    apply RotatingSet.youngest_rotate hn
    exact h.youngest n (by omega) ancestor hancestor commit hcommit

theorem RotatedInvariant.child {period clock now : Nat} {sent : List (ReceivedTransaction T)}
    {node : Node T} {newChild : NewChild T} {addr : Nat} {child : BuilderState T}
    {locks : Locks T} (hnode : LineageInvariant period clock sent node)
    (h : RotatedInvariant period clock sent node newChild)
    (hreceiver : newChild.cloneReceiver node.locks addr = some (child, locks))
    (hnow : clock ≤ now) :
    LineageInvariant period now sent
      ⟨child, locks, ⟨addr, newChild.txnCommitments, now⟩ :: node.lineage⟩ := by
  -- the block is inserted into the set after the set was rotated
  obtain ⟨-, rfl, -⟩ := NewChild.cloneReceiver_eq_some.mp hreceiver
  constructor
  . exact h.period_eq
  . intro ancestor hancestor
    rcases List.mem_cons.mp hancestor with rfl | hancestor
    . exact Nat.le_refl _
    . exact Nat.le_trans (hnode.created ancestor hancestor) hnow
  . exact ⟨_, _, rfl, Nat.le_trans h.rotated hnow⟩
  . intro ancestor hancestor commit hcommit
    rcases List.mem_cons.mp hancestor with rfl | hancestor
    . exact RotatingSet.aged_extend_self _ hcommit
    . exact RotatingSet.aged_extend (h.aged ancestor hancestor commit hcommit)
  . intro n hn ancestor hancestor commit hcommit
    cases n with
    | zero =>
      simp only [List.getElem?_cons_zero, Option.some.injEq] at hancestor
      subst hancestor
      exact RotatingSet.youngest_extend_self hcommit
    | succ n =>
      simp only [List.getElem?_cons_succ] at hancestor
      exact RotatingSet.youngest_extend (h.youngest n (by omega) ancestor hancestor commit hcommit)

theorem lineageInvariant_inductive (period : Nat) :
    Inductive (T := T) period (LineageInvariant period) (RotatedInvariant period) where
  bootstrap := by
    intro now
    refine ⟨rfl, by simp [Node.bootstrap], ⟨_, _, rfl, Nat.le_refl _⟩, by simp [Node.bootstrap], ?_⟩
    intro n hn ancestor hancestor commit hcommit
    have : ancestor ∈ (Node.bootstrap period now : Node T).lineage :=
      List.mem_of_getElem? hancestor
    simp only [Node.bootstrap, List.mem_singleton] at this
    simp [this] at hcommit
  node_mono := by
    intro _ _ _ _ _ hle h
    exact ⟨h.period_eq, fun ancestor hancestor => Nat.le_trans (h.created ancestor hancestor) hle,
      h.rotated, h.aged, h.youngest⟩
  call_mono := by
    intro _ _ _ _ _ _ hle h
    exact ⟨h.period_eq, Nat.le_trans h.rotated hle, h.aged, h.youngest⟩
  node_locks := by
    intro _ _ _ _ h _
    exact ⟨h.period_eq, h.created, h.rotated, h.aged, h.youngest⟩
  call_locks := by
    intro _ _ _ _ _ _ h _
    exact ⟨h.period_eq, h.rotated, h.aged, h.youngest⟩
  newChild := by
    intro _ _ _ quorumProposal daProposal _ _ h hchecked hnow
    exact h.newChild quorumProposal daProposal hchecked hnow
  cloneQueue := by
    intro _ _ _ _ _ _ h hqueue
    obtain ⟨-, rfl⟩ := NewChild.cloneQueue_eq_some.mp hqueue
    exact ⟨h.period_eq, h.rotated, h.aged, h.youngest⟩
  cloneReceiver := fun hnode h _ hreceiver hnow => h.child hnode hreceiver hnow

theorem lineageInvariant {period : Nat} {forest : Forest T}
    (h : Transition.Reachable step (IsNew period) forest) {addr : Nat}
    (haddr : addr < forest.size) :
    LineageInvariant period forest.clock forest.sent (forest.nodes addr) :=
  (holds_of_reachable (lineageInvariant_inductive period) h).node addr haddr

end Forest

def Node.created (node : Node T) : Option Nat := node.lineage.head?.map (·.created)

/--
An ancestor among the last three, the state itself included, or created at most two periods before.
-/
def Node.IsRecent (period : Nat) (node : Node T) (ancestor : Ancestor T) : Prop :=
  ancestor ∈ node.lineage.take 3 ∨ ancestor ∈ node.lineage ∧
    ∃ created, node.created = some created ∧ created ≤ ancestor.created + 2 * period

namespace Forest

theorem LineageInvariant.contains_of_isRecent {period clock : Nat}
    {sent : List (ReceivedTransaction T)} {node : Node T}
    (h : LineageInvariant period clock sent node) {ancestor : Ancestor T}
    (hancestor : node.IsRecent period ancestor) {commit : T.TxnCommitment}
    (hcommit : commit ∈ ancestor.block) :
    node.state.includedTxns.contains commit = true := by
  rcases hancestor with hancestor | ⟨hancestor, created, hcreated, hrecent⟩
  . obtain ⟨n, hn, heq⟩ := List.mem_take_iff_getElem.mp hancestor
    apply RotatingSet.contains_of_mem_youngest (n := n)
    apply h.youngest n (by omega) ancestor _ commit hcommit
    rw [← heq, List.getElem?_eq_getElem]
  . obtain ⟨self, rest, hlineage, hrotated⟩ := h.rotated
    simp only [Node.created, hlineage, List.head?_cons, Option.map_some, Option.some.injEq]
      at hcreated
    have haged := h.aged ancestor hancestor commit hcommit
    apply RotatingSet.contains_of_aged haged hrotated
    rwa [h.period_eq, hcreated]

end Forest

end BuilderCore
