import BuilderCore.Collections.HashMap
import Mathlib.Data.Set.Insert

/-!
This module contains how two streams of messages are matched by their keys, and which messages are
left over when both streams bring the messages of one sequence in its order.
-/

namespace BuilderCore

open Collections

variable {κ α β γ : Type} [DecidableEq κ]

/--
A message is matched with the waiting one of the other stream that has its key, else it waits itself.
-/
def matchMessage (own : HashMap κ α) (other : HashMap κ β) (key : κ) (message : α) :
    HashMap κ α × HashMap κ β × Option β :=
  match own.get? key with
  | some _ => (own, other, none)
  | none =>
    match other.get? key with
    | some matching => (own, other.remove key, some matching)
    | none => (own.insert key message, other, none)

/--
The messages of the given places of the sequence are waiting.
-/
def Waiting (sequence : List γ) (key : γ → κ) (message : γ → α) (places : Set Nat)
    (m : HashMap κ α) : Prop :=
  ∀ k v, m.get? k = some v ↔
    ∃ j ∈ places, ∃ c, sequence[j]? = some c ∧ key c = k ∧ message c = v

def KeysDiffer (sequence : List γ) (key : γ → κ) : Prop :=
  ∀ (i j : Nat) (c c' : γ), sequence[i]? = some c → sequence[j]? = some c' → key c = key c' →
    i = j

section

variable {sequence : List γ} {key : γ → κ} {message : γ → α} {places : Set Nat}
  {m : HashMap κ α} {j : Nat} {c : γ}

theorem waiting_empty : Waiting sequence key message ∅ .empty := by
  intro k v
  simp

theorem Waiting.congr {places' : Set Nat} (h : Waiting sequence key message places m)
    (hplaces : ∀ j, j ∈ places ↔ j ∈ places') : Waiting sequence key message places' m := by
  rwa [← Set.ext hplaces]

theorem Waiting.get?_eq_none (h : Waiting sequence key message places m)
    (hplaces : ∀ j, j ∉ places) (k : κ) : m.get? k = none := by
  cases hget : m.get? k with
  | none => rfl
  | some v =>
    obtain ⟨j, hj, -⟩ := (h k v).mp hget
    exact absurd hj (hplaces j)

theorem Waiting.get?_of_mem (h : Waiting sequence key message places m) (hj : j ∈ places)
    (hc : sequence[j]? = some c) : m.get? (key c) = some (message c) :=
  (h _ _).mpr ⟨j, hj, c, hc, rfl, rfl⟩

theorem Waiting.get?_of_not_mem (h : Waiting sequence key message places m)
    (hkeys : KeysDiffer sequence key) (hj : j ∉ places) (hc : sequence[j]? = some c) :
    m.get? (key c) = none := by
  cases hget : m.get? (key c) with
  | none => rfl
  | some v =>
    obtain ⟨j', hj', c', hc', hkey, -⟩ := (h _ _).mp hget
    have := hkeys j' j c' c hc' hc hkey
    subst this
    exact absurd hj' hj

theorem Waiting.insert (h : Waiting sequence key message places m)
    (hkeys : KeysDiffer sequence key) (hc : sequence[j]? = some c) :
    Waiting sequence key message (insert j places) (m.insert (key c) (message c)) := by
  intro k v
  rw [HashMap.get?_insert]
  split
  . next hk =>
    constructor
    . intro hv
      exact ⟨j, Set.mem_insert j places, c, hc, hk.symm, Option.some.inj hv⟩
    . rintro ⟨j', -, c', hc', rfl, rfl⟩
      have := hkeys j' j c' c hc' hc hk
      subst this
      rw [Option.some.inj (hc'.symm.trans hc)]
  . next hk =>
    rw [h k v]
    constructor
    . rintro ⟨j', hj', hrest⟩
      exact ⟨j', Set.mem_insert_of_mem j hj', hrest⟩
    . rintro ⟨j', hj' | hj', c', hc', rfl, rfl⟩
      . subst hj'
        rw [Option.some.inj (hc'.symm.trans hc)] at hk
        contradiction
      . exact ⟨j', hj', c', hc', rfl, rfl⟩

theorem Waiting.remove (h : Waiting sequence key message places m)
    (hkeys : KeysDiffer sequence key) (hc : sequence[j]? = some c) :
    Waiting sequence key message (places \ {j}) (m.remove (key c)) := by
  intro k v
  rw [HashMap.get?_remove]
  split
  . next hk =>
    simp only [reduceCtorEq, false_iff]
    rintro ⟨j', hj', c', hc', rfl, -⟩
    exact hj'.2 (hkeys j' j c' c hc' hc hk)
  . next hk =>
    rw [h k v]
    constructor
    . rintro ⟨j', hj', c', hc', rfl, rfl⟩
      refine ⟨j', ⟨hj', ?_⟩, c', hc', rfl, rfl⟩
      rintro rfl
      rw [Option.some.inj (hc'.symm.trans hc)] at hk
      contradiction
    . rintro ⟨j', hj', hrest⟩
      exact ⟨j', hj'.1, hrest⟩

end

section

variable {sequence : List γ} {key : γ → κ} {message : γ → α} {message' : γ → β}
  {places places' : Set Nat} {own : HashMap κ α} {other : HashMap κ β} {j : Nat} {c : γ}

theorem matchMessage_of_mem (hkeys : KeysDiffer sequence key)
    (hown : Waiting sequence key message places own)
    (hother : Waiting sequence key message' places' other) (hc : sequence[j]? = some c)
    (hj : j ∉ places) (hj' : j ∈ places') :
    matchMessage own other (key c) (message c) =
      (own, other.remove (key c), some (message' c)) := by
  simp only [matchMessage, hown.get?_of_not_mem hkeys hj hc, hother.get?_of_mem hj' hc]

theorem matchMessage_of_not_mem (hkeys : KeysDiffer sequence key)
    (hown : Waiting sequence key message places own)
    (hother : Waiting sequence key message' places' other) (hc : sequence[j]? = some c)
    (hj : j ∉ places) (hj' : j ∉ places') :
    matchMessage own other (key c) (message c) = (own.insert (key c) (message c), other, none) := by
  simp only [matchMessage, hown.get?_of_not_mem hkeys hj hc, hother.get?_of_not_mem hkeys hj' hc]

end

/--
The places that a reader has read from `start` on, but for those that it has read on the other stream
as well.
-/
def unmatched (start receiver otherStart otherReceiver : Nat) : Set Nat :=
  {j | (start ≤ j ∧ j < receiver) ∧ ¬ (otherStart ≤ j ∧ j < otherReceiver)}

theorem mem_unmatched {start receiver otherStart otherReceiver j : Nat} :
    j ∈ unmatched start receiver otherStart otherReceiver ↔
      (start ≤ j ∧ j < receiver) ∧ ¬ (otherStart ≤ j ∧ j < otherReceiver) :=
  Iff.rfl

theorem waiting_matchMessage {sequence : List γ} {key : γ → κ} {message : γ → α} {message' : γ → β}
    {own own' : HashMap κ α} {other other' : HashMap κ β} {matching : Option β} {c : γ}
    {start receiver otherStart otherReceiver : Nat} (hkeys : KeysDiffer sequence key)
    (hown : Waiting sequence key message (unmatched start receiver otherStart otherReceiver) own)
    (hother :
      Waiting sequence key message' (unmatched otherStart otherReceiver start receiver) other)
    (hc : sequence[receiver]? = some c) (hstart : start ≤ receiver)
    (h : matchMessage own other (key c) (message c) = (own', other', matching)) :
    Waiting sequence key message (unmatched start (receiver + 1) otherStart otherReceiver) own' ∧
      Waiting sequence key message' (unmatched otherStart otherReceiver start (receiver + 1))
        other' ∧
      matching =
        if otherStart ≤ receiver ∧ receiver < otherReceiver then some (message' c) else none := by
  have hnot : receiver ∉ unmatched start receiver otherStart otherReceiver := by
    rw [mem_unmatched]
    omega
  by_cases hread : otherStart ≤ receiver ∧ receiver < otherReceiver
  . have hmem : receiver ∈ unmatched otherStart otherReceiver start receiver := by
      rw [mem_unmatched]
      omega
    rw [matchMessage_of_mem hkeys hown hother hc hnot hmem, Prod.mk.injEq, Prod.mk.injEq] at h
    obtain ⟨rfl, rfl, rfl⟩ := h
    refine ⟨?_, ?_, (if_pos hread).symm⟩
    . apply hown.congr
      intro j
      simp only [mem_unmatched]
      omega
    . apply (hother.remove hkeys hc).congr
      intro j
      simp only [Set.mem_sdiff, Set.mem_singleton_iff, mem_unmatched]
      omega
  . have hmem : receiver ∉ unmatched otherStart otherReceiver start receiver := by
      rw [mem_unmatched]
      omega
    rw [matchMessage_of_not_mem hkeys hown hother hc hnot hmem, Prod.mk.injEq, Prod.mk.injEq] at h
    obtain ⟨rfl, rfl, rfl⟩ := h
    refine ⟨?_, ?_, (if_neg hread).symm⟩
    . apply (hown.insert hkeys hc).congr
      intro j
      simp only [Set.mem_insert_iff, mem_unmatched]
      omega
    . apply hother.congr
      intro j
      simp only [mem_unmatched]
      omega

end BuilderCore
