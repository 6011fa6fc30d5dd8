import BuilderCore.Shared.Block
import Mathlib.Data.Finset.Basic
import Mathlib.Tactic.IntervalCases

/-!
This module contains the set with time-based garbage collection: three sets that are shifted when
the set is rotated.
-/

namespace BuilderCore

structure RotatingSet (α : Type) where
  fresh : Finset α
  stale : Finset α
  expiring : Finset α
  lastRotation : Nat
  period : Nat

namespace RotatingSet

variable {α : Type} [DecidableEq α]

def new (period : Nat) (now : Nat) : RotatingSet α where
  fresh := ∅
  stale := ∅
  expiring := ∅
  lastRotation := now
  period

def contains (s : RotatingSet α) (key : α) : Bool :=
  key ∈ s.fresh || key ∈ s.stale || key ∈ s.expiring

def insert (s : RotatingSet α) (value : α) : RotatingSet α :=
  { s with fresh := Insert.insert value s.fresh }

def extend (s : RotatingSet α) (values : List α) : RotatingSet α :=
  { s with fresh := s.fresh ∪ values.toFinset }

def forceRotate (s : RotatingSet α) (now : Nat) : RotatingSet α :=
  { s with fresh := ∅, stale := s.fresh, expiring := s.stale, lastRotation := now }

/--
The clock is read twice: `checked` decides on the rotation and `now` is when it is made.
-/
def rotate (s : RotatingSet α) (checked now : Nat) : RotatingSet α :=
  if checked - s.lastRotation > s.period then
    s.forceRotate now
  else
    s

/--
What `rotate` returns.
-/
def rotates (s : RotatingSet α) (checked : Nat) : Bool := checked - s.lastRotation > s.period

omit [DecidableEq α] in
theorem rotate_eq (s : RotatingSet α) (checked now : Nat) :
    s.rotate checked now = if s.rotates checked then s.forceRotate now else s := by
  simp [rotate, rotates]

theorem insert_eq_extend (s : RotatingSet α) (value : α) : s.insert value = s.extend [value] := by
  have hunion : Insert.insert value s.fresh = s.fresh ∪ [value].toFinset := by
    ext key
    simp only [Finset.mem_insert, Finset.mem_union, List.mem_toFinset, List.mem_singleton]
    exact or_comm
  simp only [insert, extend, hunion]

theorem contains_iff {s : RotatingSet α} {key : α} :
    s.contains key = true ↔ key ∈ s.fresh ∨ key ∈ s.stale ∨ key ∈ s.expiring := by
  simp [contains, or_assoc]

@[simp]
theorem contains_new (period : Nat) (now : Nat) (key : α) :
    (new period now).contains key = false := by
  simp [new, contains]

theorem contains_extend {s : RotatingSet α} {values : List α} {key : α} :
    (s.extend values).contains key = true ↔ key ∈ values ∨ s.contains key = true := by
  simp only [extend, contains_iff, Finset.mem_union, List.mem_toFinset]
  tauto

theorem contains_insert {s : RotatingSet α} {value key : α} :
    (s.insert value).contains key = true ↔ key = value ∨ s.contains key = true := by
  rw [insert_eq_extend, contains_extend, List.mem_singleton]

omit [DecidableEq α] in
@[simp]
theorem period_rotate (s : RotatingSet α) (checked now : Nat) :
    (s.rotate checked now).period = s.period := by
  unfold rotate
  split <;> rfl

@[simp]
theorem period_extend (s : RotatingSet α) (values : List α) :
    (s.extend values).period = s.period := rfl

theorem contains_of_contains_forceRotate {s : RotatingSet α} {now : Nat} {key : α}
    (h : (s.forceRotate now).contains key = true) : s.contains key = true := by
  simp only [forceRotate, contains_iff, Finset.notMem_empty, false_or] at h
  rw [contains_iff]
  tauto

theorem contains_of_contains_rotate {s : RotatingSet α} {checked now : Nat} {key : α}
    (h : (s.rotate checked now).contains key = true) : s.contains key = true := by
  unfold rotate at h
  split at h
  . exact contains_of_contains_forceRotate h
  . exact h

def youngest (s : RotatingSet α) (n : Nat) : Finset α :=
  match n with
  | 0 => s.fresh
  | 1 => s.fresh ∪ s.stale
  | _ => s.fresh ∪ s.stale ∪ s.expiring

theorem contains_iff_youngest {s : RotatingSet α} {key : α} :
    s.contains key = true ↔ key ∈ s.youngest 2 := by
  simp [contains_iff, youngest]

theorem contains_of_mem_youngest {s : RotatingSet α} {n : Nat} {key : α}
    (h : key ∈ s.youngest n) : s.contains key = true := by
  rw [contains_iff]
  unfold youngest at h
  split at h
  . exact .inl h
  all_goals
    simp only [Finset.mem_union] at h
    tauto

@[simp]
theorem youngest_new (period now n : Nat) : (new period now : RotatingSet α).youngest n = ∅ := by
  unfold youngest
  split <;> simp [new]

theorem mem_youngest_forceRotate {s : RotatingSet α} {n now : Nat} {key : α} (hn : n ≤ 2) :
    key ∈ (s.forceRotate now).youngest n ↔ ∃ m, n = m + 1 ∧ key ∈ s.youngest m := by
  interval_cases n
  all_goals simp [youngest, forceRotate]

theorem youngest_forceRotate {s : RotatingSet α} {n : Nat} {key : α} (hn : n ≤ 1)
    (h : key ∈ s.youngest n) (now : Nat) : key ∈ (s.forceRotate now).youngest (n + 1) := by
  rw [mem_youngest_forceRotate (by omega)]
  exact ⟨n, rfl, h⟩

theorem youngest_succ {s : RotatingSet α} {n : Nat} {key : α} (hn : n ≤ 1)
    (h : key ∈ s.youngest n) : key ∈ s.youngest (n + 1) := by
  interval_cases n
  all_goals
    simp only [youngest, Finset.mem_union] at h ⊢
    tauto

theorem youngest_rotate {s : RotatingSet α} {n : Nat} {checked now : Nat} {key : α}
    (hn : n ≤ 1) (h : key ∈ s.youngest n) : key ∈ (s.rotate checked now).youngest (n + 1) := by
  unfold rotate
  split
  . exact youngest_forceRotate hn h now
  . exact youngest_succ hn h

theorem mem_youngest_extend {s : RotatingSet α} {n : Nat} {values : List α} {key : α} :
    key ∈ (s.extend values).youngest n ↔ key ∈ values ∨ key ∈ s.youngest n := by
  unfold youngest
  split
  all_goals
    simp only [extend, Finset.mem_union, List.mem_toFinset]
    tauto

theorem youngest_insert {s : RotatingSet α} {n : Nat} {value key : α} (h : key ∈ s.youngest n) :
    key ∈ (s.insert value).youngest n := by
  rw [insert_eq_extend, mem_youngest_extend]
  exact .inr h

theorem youngest_extend {s : RotatingSet α} {n : Nat} {values : List α} {key : α}
    (h : key ∈ s.youngest n) : key ∈ (s.extend values).youngest n :=
  mem_youngest_extend.mpr (.inr h)

theorem youngest_extend_self {s : RotatingSet α} {values : List α} {key : α}
    (h : key ∈ values) : key ∈ (s.extend values).youngest 0 :=
  mem_youngest_extend.mpr (.inl h)

/--
A key that was inserted at `t` is in the set, in a generation that tells how long ago the last
rotation may at most have been, or more than two periods have passed.
-/
def Aged (s : RotatingSet α) (t : Nat) (key : α) : Prop :=
  key ∈ s.fresh ∨ (key ∈ s.stale ∧ t ≤ s.lastRotation) ∨
    (key ∈ s.expiring ∧ t + s.period < s.lastRotation) ∨ t + 2 * s.period < s.lastRotation

omit [DecidableEq α] in
theorem aged_rotate {s : RotatingSet α} {t checked now : Nat} {key : α} (h : s.Aged t key)
    (ht : t ≤ checked) (hnow : checked ≤ now) : (s.rotate checked now).Aged t key := by
  unfold rotate
  split
  . next helapsed =>
    simp only [Aged, forceRotate] at h ⊢
    rcases h with h | ⟨h, hle⟩ | ⟨h, hlt⟩ | hlt
    . exact .inr (.inl ⟨h, by omega⟩)
    . exact .inr (.inr (.inl ⟨h, by omega⟩))
    . exact .inr (.inr (.inr (by omega)))
    . exact .inr (.inr (.inr (by omega)))
  . exact h

theorem aged_extend {s : RotatingSet α} {t : Nat} {values : List α} {key : α}
    (h : s.Aged t key) : (s.extend values).Aged t key := by
  simp only [Aged, extend, Finset.mem_union] at h ⊢
  tauto

theorem aged_extend_self {s : RotatingSet α} {values : List α} {key : α} (t : Nat)
    (h : key ∈ values) : (s.extend values).Aged t key := by
  simp [Aged, extend, h]

/--
The guarantee of the collection: two periods after its insertion a key is still there.
-/
theorem contains_of_aged {s : RotatingSet α} {t now : Nat} {key : α} (h : s.Aged t key)
    (hrotation : s.lastRotation ≤ now) (hnow : now ≤ t + 2 * s.period) :
    s.contains key = true := by
  rw [contains_iff]
  rcases h with h | ⟨h, -⟩ | ⟨h, -⟩ | hlt
  . exact .inl h
  . exact .inr (.inl h)
  . exact .inr (.inr h)
  . omega

end RotatingSet

end BuilderCore
