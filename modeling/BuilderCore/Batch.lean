import Mathlib.Data.List.Basic

/-!
This module contains the two ways of handing a batch to a handler that can fail: item by item to the
end, or up to the first item that fails.
-/

universe u v w x

namespace Batch

variable {σ : Type u} {α : Type v} {ε : Type w} {β : Type x}

def runAll (f : σ → α → σ × Except ε β) (s : σ) (as : List α) : σ × List (Except ε β) :=
  match as with
  | [] => (s, [])
  | a :: as =>
    let (s, result) := f s a
    let (s, results) := runAll f s as
    (s, result :: results)

def tryAll (f : σ → α → σ × Except ε β) (s : σ) (as : List α) : σ × Except ε (List β) :=
  match as with
  | [] => (s, .ok [])
  | a :: as =>
    match f s a with
    | (s, .error error) => (s, .error error)
    | (s, .ok b) =>
      let (s, bs) := tryAll f s as
      (s, bs.map (b :: ·))

/--
Keep a log of what the handler is called with.
-/
def logged (f : σ → α → σ × Except ε β) (s : σ × List α) (a : α) : (σ × List α) × Except ε β :=
  let (t, result) := f s.1 a
  ((t, s.2 ++ [a]), result)

/--
The items that `runAll` calls the handler with.
-/
def handled (f : σ → α → σ × Except ε β) (s : σ) (as : List α) : List α :=
  (runAll (logged f) (s, []) as).1.2

/--
The items that `tryAll` calls the handler with.
-/
def attempted (f : σ → α → σ × Except ε β) (s : σ) (as : List α) : List α :=
  (tryAll (logged f) (s, []) as).1.2

/--
The handler fails on no item when its turn comes.
-/
def Succeeds (f : σ → α → σ × Except ε β) (s : σ) (as : List α) : Prop :=
  match as with
  | [] => True
  | a :: as => (f s a).2.isOk = true ∧ Succeeds f (f s a).1 as

def SucceedsButLast (f : σ → α → σ × Except ε β) (s : σ) (as : List α) : Prop :=
  match as with
  | [] => True
  | a :: as => as = [] ∨ (f s a).2.isOk = true ∧ SucceedsButLast f (f s a).1 as

section

variable {f : σ → α → σ × Except ε β}

@[simp]
theorem runAll_nil (s : σ) : runAll f s [] = (s, []) := rfl

theorem runAll_cons (s : σ) (a : α) (as : List α) :
    runAll f s (a :: as) =
      ((runAll f (f s a).1 as).1, (f s a).2 :: (runAll f (f s a).1 as).2) := rfl

theorem runAll_invariant {I : σ → Prop} (hf : ∀ s a, I s → I (f s a).1) {s : σ} (hs : I s)
    (as : List α) : I (runAll f s as).1 := by
  induction as generalizing s with
  | nil => exact hs
  | cons a as ih =>
    rw [runAll_cons]
    exact ih (hf s a hs)

/--
A handler that appends to a list of bounded length what fits appends as many of the items that fit as
there is room for.
-/
theorem runAll_appends {γ : Type*} (sent : σ → List γ) (item : α → γ) {fits : α → Bool}
    {capacity : Nat}
    (hf : ∀ s a, sent (f s a).1 =
      if fits a = true ∧ (sent s).length < capacity then sent s ++ [item a] else sent s)
    (s : σ) (as : List α) :
    sent (runAll f s as).1 =
      sent s ++ ((as.filter fits).map item).take (capacity - (sent s).length) := by
  induction as generalizing s with
  | nil => simp
  | cons a as ih =>
    rw [runAll_cons, ih, hf, List.filter_cons]
    split
    . next hboth =>
      obtain ⟨m, hm⟩ : ∃ m, capacity - (sent s).length = m + 1 :=
        ⟨capacity - (sent s).length - 1, by omega⟩
      have hrest : capacity - (sent s ++ [item a]).length = m := by
        rw [List.length_append, List.length_singleton]
        omega
      rw [if_pos hboth.1, hm, hrest, List.map_cons, List.take_succ_cons, List.append_assoc]
      rfl
    . next hnot =>
      split
      . next hfits =>
        -- there is no room
        have hzero : capacity - (sent s).length = 0 := by
          have hle := Nat.not_lt.mp (fun hlt => hnot ⟨hfits, hlt⟩)
          omega
        rw [hzero, List.take_zero, List.take_zero]
      . rfl

theorem length_runAll (s : σ) (as : List α) : (runAll f s as).2.length = as.length := by
  induction as generalizing s with
  | nil => rfl
  | cons a as ih => rw [runAll_cons, List.length_cons, List.length_cons, ih]

theorem runAll_logged (s : σ) (log as : List α) :
    (runAll (logged f) (s, log) as).1 = ((runAll f s as).1, log ++ as) := by
  induction as generalizing s log with
  | nil => rw [runAll_nil, runAll_nil, List.append_nil]
  | cons a as ih =>
    have hlog : (logged f (s, log) a).1 = ((f s a).1, log ++ [a]) := rfl
    rw [runAll_cons, runAll_cons, hlog, ih, List.append_assoc, List.singleton_append]

theorem handled_eq (s : σ) (as : List α) : handled f s as = as := by
  rw [handled, runAll_logged]
  exact List.nil_append as

theorem tryAll_cons_error {s : σ} {a : α} (as : List α) {error : ε}
    (h : (f s a).2 = .error error) : tryAll f s (a :: as) = ((f s a).1, .error error) := by
  rw [tryAll]
  split
  . next t error' heq =>
    simp only [heq, Except.error.injEq] at h
    rw [heq, h]
  . next t b heq =>
    rw [heq] at h
    contradiction

theorem tryAll_cons_ok {s : σ} {a : α} (as : List α) {b : β} (h : (f s a).2 = .ok b) :
    tryAll f s (a :: as) =
      ((tryAll f (f s a).1 as).1, (tryAll f (f s a).1 as).2.map (b :: ·)) := by
  rw [tryAll]
  split
  . next t error heq =>
    rw [heq] at h
    contradiction
  . next t b' heq =>
    simp only [heq, Except.ok.injEq] at h
    rw [heq, h]

theorem exists_of_tryAll_error {s : σ} {as : List α} {error : ε}
    (h : (tryAll f s as).2 = .error error) : ∃ s', ∃ a ∈ as, (f s' a).2 = .error error := by
  induction as generalizing s with
  | nil => contradiction
  | cons a as ih =>
    cases ha : (f s a).2 with
    | error error' =>
      rw [tryAll_cons_error as ha] at h
      rw [Except.error.inj h] at ha
      exact ⟨s, a, .head _, ha⟩
    | ok b =>
      rw [tryAll_cons_ok as ha] at h
      cases hrest : (tryAll f (f s a).1 as).2 with
      | error error' =>
        rw [hrest] at h
        obtain ⟨s', a', hmem, ha'⟩ := ih (hrest.trans (congrArg _ (Except.error.inj h)))
        exact ⟨s', a', .tail _ hmem, ha'⟩
      | ok bs =>
        rw [hrest] at h
        contradiction

theorem tryAll_logged (s : σ) (log as : List α) :
    (tryAll (logged f) (s, log) as).1 = ((tryAll f s as).1, log ++ attempted f s as) := by
  induction as generalizing s log with
  | nil => simp [tryAll, attempted]
  | cons a as ih =>
    cases h : (f s a).2 with
    | error error =>
      have hlogged : ∀ log, (logged f (s, log) a).2 = .error error := fun _ => h
      rw [attempted, tryAll_cons_error as (hlogged log), tryAll_cons_error as (hlogged []),
        tryAll_cons_error as h]
      simp [logged]
    | ok b =>
      have hlogged : ∀ log, (logged f (s, log) a).2 = .ok b := fun _ => h
      have hlog : ∀ log, (logged f (s, log) a).1 = ((f s a).1, log ++ [a]) := fun _ => rfl
      rw [attempted, tryAll_cons_ok as (hlogged log), tryAll_cons_ok as (hlogged []),
        tryAll_cons_ok as h]
      simp only [hlog, ih, List.nil_append, List.append_assoc]

theorem attempted_cons_error {s : σ} {a : α} (as : List α) {error : ε}
    (h : (f s a).2 = .error error) : attempted f s (a :: as) = [a] := by
  have hlogged : (logged f (s, []) a).2 = .error error := h
  rw [attempted, tryAll_cons_error as hlogged]
  rfl

theorem attempted_cons_ok {s : σ} {a : α} (as : List α) {b : β} (h : (f s a).2 = .ok b) :
    attempted f s (a :: as) = a :: attempted f (f s a).1 as := by
  have hlogged : (logged f (s, []) a).2 = .ok b := h
  have hlog : (logged f (s, []) a).1 = ((f s a).1, [a]) := rfl
  rw [attempted, tryAll_cons_ok as hlogged, hlog, tryAll_logged]
  rfl

/--
Stopping early makes no difference but for the items that are not attempted.
-/
theorem tryAll_fst (s : σ) (as : List α) :
    (tryAll f s as).1 = (runAll f s (attempted f s as)).1 := by
  induction as generalizing s with
  | nil => rfl
  | cons a as ih =>
    cases h : (f s a).2 with
    | error error =>
      rw [tryAll_cons_error as h, attempted_cons_error as h]
      rfl
    | ok b =>
      rw [tryAll_cons_ok as h, attempted_cons_ok as h, runAll_cons]
      exact ih _

theorem attempted_eq_iff (s : σ) (as : List α) :
    attempted f s as = as ↔ SucceedsButLast f s as := by
  induction as generalizing s with
  | nil => simp [attempted, tryAll, SucceedsButLast]
  | cons a as ih =>
    cases h : (f s a).2 with
    | error error => simp [attempted_cons_error as h, SucceedsButLast, h, Except.isOk, Except.toBool]
    | ok b =>
      rw [attempted_cons_ok as h, List.cons.injEq, ih]
      simp only [true_and, SucceedsButLast, h, Except.isOk, Except.toBool]
      constructor
      . exact .inr
      . rintro (rfl | hrest)
        . trivial
        . exact hrest

theorem Succeeds.butLast {s : σ} {as : List α} (h : Succeeds f s as) : SucceedsButLast f s as := by
  induction as generalizing s with
  | nil => trivial
  | cons a as ih => exact .inr ⟨h.1, ih h.2⟩

theorem succeeds_of_invariant {I : σ → Prop} (hok : ∀ s a, I s → (f s a).2.isOk = true)
    (hf : ∀ s a, I s → I (f s a).1) {s : σ} (hs : I s) (as : List α) : Succeeds f s as := by
  induction as generalizing s with
  | nil => trivial
  | cons a as ih => exact ⟨hok s a hs, ih (hf s a hs)⟩

theorem tryAll_isOk_iff (s : σ) (as : List α) :
    (tryAll f s as).2.isOk = true ↔ Succeeds f s as := by
  induction as generalizing s with
  | nil => simp [tryAll, Succeeds, Except.isOk, Except.toBool]
  | cons a as ih =>
    cases h : (f s a).2 with
    | error error => simp [tryAll_cons_error as h, Succeeds, h, Except.isOk, Except.toBool]
    | ok b =>
      rw [tryAll_cons_ok as h, Succeeds, ← ih, h]
      cases (tryAll f (f s a).1 as).2 <;> simp [Except.map, Except.isOk, Except.toBool]

end

end Batch
