import Mathlib.Data.List.Basic

/-!
This module contains the runs of a partial step function, what a step has to preserve for a run to
preserve it, and what the steps of a run have to satisfy for a property to hold all along the run.
-/

universe u v w

namespace Transition

variable {σ : Type u} {α : Type v}

/--
Perform actions one after the other, `none` if one of them is not enabled when its turn comes.
-/
def run (step : σ → α → Option σ) (s : σ) (as : List α) : Option σ :=
  as.foldlM step s

/--
`P` holds at the start and after every action of a run.
-/
def Always (step : σ → α → Option σ) (P : σ → Prop) : σ → List α → Prop
  | s, [] => P s
  | s, a :: as => P s ∧ ∀ s', step s a = some s' → Always step P s' as

/--
Every action of a run satisfies `C` in the state it is performed in.
-/
def Along (step : σ → α → Option σ) (C : σ → α → Prop) : σ → List α → Prop
  | _, [] => True
  | s, a :: as => ∀ s', step s a = some s' → C s a ∧ Along step C s' as

def Reachable (step : σ → α → Option σ) (init : σ → Prop) (s : σ) : Prop :=
  ∃ s₀ as, init s₀ ∧ run step s₀ as = some s

def recording (step : σ → α → Option σ) (s : σ × List α) (a : α) : Option (σ × List α) :=
  (step s.1 a).map fun s' => (s', s.2 ++ [a])

/--
A log is kept of what `log` says about every action.
-/
def logging {β : Type w} (step : σ → α → Option σ) (log : σ → α → List β) (s : σ × List β)
    (a : α) : Option (σ × List β) :=
  (step s.1 a).map fun s' => (s', s.2 ++ log s.1 a)

variable {step : σ → α → Option σ} {P : σ → Prop} {C : σ → α → Prop}

@[simp]
theorem run_nil (s : σ) : run step s [] = some s := rfl

@[simp]
theorem run_cons (s : σ) (a : α) (as : List α) :
    run step s (a :: as) = (step s a).bind fun s' => run step s' as := rfl

theorem run_singleton (s : σ) (a : α) : run step s [a] = step s a := by simp

theorem run_cons_eq_some {s t : σ} {a : α} {as : List α} :
    run step s (a :: as) = some t ↔ ∃ s', step s a = some s' ∧ run step s' as = some t := by
  simp [Option.bind_eq_some_iff]

theorem run_append (s : σ) (as bs : List α) :
    run step s (as ++ bs) = (run step s as).bind fun s' => run step s' bs := by
  simp only [run, List.foldlM_append]
  rfl

theorem run_append_eq_some {s t : σ} {as bs : List α} :
    run step s (as ++ bs) = some t ↔ ∃ s', run step s as = some s' ∧ run step s' bs = some t := by
  simp [run_append, Option.bind_eq_some_iff]

theorem run_concat_eq_some {s t : σ} {as : List α} {a : α} :
    run step s (as ++ [a]) = some t ↔ ∃ s', run step s as = some s' ∧ step s' a = some t := by
  simp [run_append_eq_some]

theorem run_invariant (hstep : ∀ s a s', P s → step s a = some s' → P s') {s t : σ}
    {as : List α} (hs : P s) (hrun : run step s as = some t) : P t := by
  induction as generalizing s with
  | nil =>
    simp only [run_nil, Option.some.injEq] at hrun
    rwa [← hrun]
  | cons a as ih =>
    rw [run_cons_eq_some] at hrun
    obtain ⟨s', hs', hrun⟩ := hrun
    exact ih (hstep s a s' hs hs') hrun

/--
A function that is applied at every step simulates the run.
-/
theorem run_simulated {τ : Type w} {R : τ → σ → Prop} {f : τ → α → τ}
    (hstep : ∀ t s a s', R t s → step s a = some s' → R (f t a) s') {t : τ} {s s' : σ}
    {as : List α} (h : R t s) (hrun : run step s as = some s') : R (as.foldl f t) s' := by
  induction as generalizing t s with
  | nil =>
    simp only [run_nil, Option.some.injEq] at hrun
    rwa [← hrun]
  | cons a as ih =>
    rw [run_cons_eq_some] at hrun
    obtain ⟨s₁, hs₁, hrun⟩ := hrun
    exact ih (hstep t s a s₁ h hs₁) hrun

theorem run_invariant_along (hstep : ∀ s a s', P s → C s a → step s a = some s' → P s') {s t : σ}
    {as : List α} (hs : P s) (hC : Along step C s as) (hrun : run step s as = some t) : P t := by
  induction as generalizing s with
  | nil =>
    simp only [run_nil, Option.some.injEq] at hrun
    rwa [← hrun]
  | cons a as ih =>
    rw [run_cons_eq_some] at hrun
    obtain ⟨s', hs', hrun⟩ := hrun
    obtain ⟨hCa, hC⟩ := hC s' hs'
    exact ih (hstep s a s' hs hCa hs') hC hrun

/--
`P` holds until an action breaks it.
-/
theorem run_or_exists_break {I : σ → Prop} {B : σ → α → Prop}
    (hI : ∀ s a s', I s → step s a = some s' → I s')
    (hstep : ∀ s a s', I s → P s → step s a = some s' → P s' ∨ B s a) {s t : σ} {as : List α}
    (hs : I s) (hP : P s) (hrun : run step s as = some t) :
    P t ∨ ∃ before a after between, as = before ++ a :: after ∧
      run step s before = some between ∧ P between ∧ B between a := by
  induction as generalizing s with
  | nil =>
    simp only [run_nil, Option.some.injEq] at hrun
    rw [← hrun]
    exact .inl hP
  | cons a as ih =>
    rw [run_cons_eq_some] at hrun
    obtain ⟨s₁, hs₁, hrun⟩ := hrun
    rcases hstep s a s₁ hs hP hs₁ with hP₁ | hB
    . rcases ih (hI s a s₁ hs hs₁) hP₁ hrun with hP' | hbreak
      . exact .inl hP'
      . obtain ⟨before, a', after, between, rfl, hbefore, hPbetween, hB⟩ := hbreak
        refine .inr ⟨a :: before, a', after, between, rfl, ?_, hPbetween, hB⟩
        rw [run_cons_eq_some]
        exact ⟨s₁, hs₁, hbefore⟩
    . exact .inr ⟨[], a, as, s, rfl, rfl, hP, hB⟩

theorem reachable_invariant {init : σ → Prop} (hinit : ∀ s, init s → P s)
    (hstep : ∀ s a s', P s → step s a = some s' → P s') {s : σ}
    (h : Reachable step init s) : P s := by
  obtain ⟨s₀, as, hs₀, hrun⟩ := h
  exact run_invariant hstep (hinit s₀ hs₀) hrun

theorem reachable_of_init {init : σ → Prop} {s : σ} (h : init s) : Reachable step init s :=
  ⟨s, [], h, rfl⟩

theorem reachable_run {init : σ → Prop} {s t : σ} {as : List α} (h : Reachable step init s)
    (hrun : run step s as = some t) : Reachable step init t := by
  obtain ⟨s₀, bs, hs₀, hbs⟩ := h
  refine ⟨s₀, bs ++ as, hs₀, ?_⟩
  rw [run_append_eq_some]
  exact ⟨s, hbs, hrun⟩

theorem reachable_step {init : σ → Prop} {s t : σ} {a : α} (h : Reachable step init s)
    (hstep : step s a = some t) : Reachable step init t := by
  exact reachable_run h ((run_singleton s a).trans hstep)

instance Along.decidable [∀ s a, Decidable (C s a)] (s : σ) (as : List α) :
    Decidable (Along step C s as) :=
  match as with
  | [] => isTrue trivial
  | a :: as =>
    match h : step s a with
    | none => isTrue fun s' hs' => by simp [h] at hs'
    | some s' =>
      have : Decidable (Along step C s' as) := Along.decidable s' as
      decidable_of_iff (C s a ∧ Along step C s' as) (by simp [Along, h])

theorem along_of_forall {s : σ} {as : List α} (h : ∀ a ∈ as, ∀ s, C s a) : Along step C s as := by
  induction as generalizing s with
  | nil => trivial
  | cons a as ih =>
    intro s' _
    refine ⟨h a (by simp) s, ih ?_⟩
    intro a' ha'
    exact h a' (List.mem_cons_of_mem a ha')

theorem along_of_invariant {I : σ → Prop} (hstep : ∀ s a s', I s → step s a = some s' → I s')
    (hC : ∀ s a, I s → C s a) {s : σ} {as : List α} (hs : I s) : Along step C s as := by
  induction as generalizing s with
  | nil => trivial
  | cons a as ih =>
    intro s' hs'
    exact ⟨hC s a hs, ih (hstep s a s' hs hs')⟩

theorem along_iff_along {I : σ → Prop} {D : σ → α → Prop}
    (hI : ∀ s a s', I s → step s a = some s' → I s')
    (hstep : ∀ s a s', I s → step s a = some s' → (C s a ↔ D s a)) {s : σ} (hs : I s)
    (as : List α) : Along step C s as ↔ Along step D s as := by
  induction as generalizing s with
  | nil => rfl
  | cons a as ih =>
    constructor
    . intro h s' hs'
      exact ⟨(hstep s a s' hs hs').mp (h s' hs').1, (ih (hI s a s' hs hs')).mp (h s' hs').2⟩
    . intro h s' hs'
      exact ⟨(hstep s a s' hs hs').mpr (h s' hs').1, (ih (hI s a s' hs hs')).mpr (h s' hs').2⟩

theorem Along.imp {I : σ → Prop} {D : σ → α → Prop}
    (hI : ∀ s a s', I s → C s a → step s a = some s' → I s')
    (hD : ∀ s a s', I s → C s a → step s a = some s' → D s a) {s : σ} {as : List α}
    (h : Along step C s as) (hs : I s) : Along step D s as := by
  induction as generalizing s with
  | nil => trivial
  | cons a as ih =>
    intro s' hs'
    obtain ⟨hCa, hC⟩ := h s' hs'
    exact ⟨hD s a s' hs hCa hs', ih hC (hI s a s' hs hCa hs')⟩

theorem Along.and {D : σ → α → Prop} {s : σ} {as : List α} (hC : Along step C s as)
    (hD : Along step D s as) : Along step (fun s a => C s a ∧ D s a) s as := by
  induction as generalizing s with
  | nil => trivial
  | cons a as ih =>
    intro s' hs'
    obtain ⟨hCa, hC⟩ := hC s' hs'
    obtain ⟨hDa, hD⟩ := hD s' hs'
    exact ⟨⟨hCa, hDa⟩, ih hC hD⟩

theorem Along.append {s : σ} {as bs : List α} (h : Along step C s as)
    (hbs : ∀ t, run step s as = some t → Along step C t bs) : Along step C s (as ++ bs) := by
  induction as generalizing s with
  | nil => exact hbs s rfl
  | cons a as ih =>
    intro s' hs'
    refine ⟨(h s' hs').1, ih (h s' hs').2 ?_⟩
    intro t hrun
    apply hbs
    rw [run_cons_eq_some]
    exact ⟨s', hs', hrun⟩

theorem Along.of_append {s t : σ} {as bs : List α} (h : Along step C s (as ++ bs))
    (hrun : run step s as = some t) : Along step C t bs := by
  induction as generalizing s with
  | nil =>
    simp only [run_nil, Option.some.injEq] at hrun
    rwa [← hrun]
  | cons a as ih =>
    rw [run_cons_eq_some] at hrun
    obtain ⟨s', hs', hrun⟩ := hrun
    exact ih (h s' hs').2 hrun

theorem Always.head {s : σ} {as : List α} (h : Always step P s as) : P s := by
  cases as with
  | nil => exact h
  | cons a as => exact h.1

theorem always_iff_isPrefixOf {s : σ} {as : List α} :
    Always step P s as ↔ ∀ bs cs t, as = bs ++ cs → run step s bs = some t → P t := by
  induction as generalizing s with
  | nil =>
    constructor
    . intro h bs cs t hsplit hrun
      obtain ⟨rfl, rfl⟩ := List.append_eq_nil_iff.mp hsplit.symm
      simp only [run_nil, Option.some.injEq] at hrun
      rwa [← hrun]
    . intro h
      exact h [] [] s rfl rfl
  | cons a as ih =>
    constructor
    . intro h bs cs t hsplit hrun
      cases bs with
      | nil =>
        simp only [run_nil, Option.some.injEq] at hrun
        rw [← hrun]
        exact h.1
      | cons b bs =>
        simp only [List.cons_append, List.cons.injEq] at hsplit
        obtain ⟨rfl, hsplit⟩ := hsplit
        rw [run_cons_eq_some] at hrun
        obtain ⟨s', hs', hrun⟩ := hrun
        exact ih.mp (h.2 s' hs') bs cs t hsplit hrun
    . intro h
      refine ⟨h [] (a :: as) s rfl rfl, ?_⟩
      intro s' hs'
      rw [ih]
      intro bs cs t hsplit hrun
      apply h (a :: bs) cs t
      . rw [hsplit]
        rfl
      . rw [run_cons_eq_some]
        exact ⟨s', hs', hrun⟩

/--
If, in states with the invariant `I`, an admissible step from a state with `P` leads to one with `P`
exactly when its action satisfies `C`, then `P` holds all along an admissible run exactly when all of
its actions satisfy `C`.
-/
theorem always_iff_along_of_along {I : σ → Prop} {D : σ → α → Prop}
    (hI : ∀ s a s', I s → D s a → step s a = some s' → I s')
    (hstep : ∀ s a s', I s → P s → D s a → step s a = some s' → (P s' ↔ C s a)) {s : σ} (hs : I s)
    (hP : P s) {as : List α} (hD : Along step D s as) :
    Always step P s as ↔ Along step C s as := by
  induction as generalizing s with
  | nil => simpa [Always, Along] using hP
  | cons a as ih =>
    simp only [Always, Along, hP, true_and]
    constructor
    . intro h s' hs'
      obtain ⟨hDa, hD⟩ := hD s' hs'
      have hP' := (h s' hs').head
      exact ⟨(hstep s a s' hs hP hDa hs').mp hP',
        (ih (hI s a s' hs hDa hs') hP' hD).mp (h s' hs')⟩
    . intro h s' hs'
      obtain ⟨hDa, hD⟩ := hD s' hs'
      obtain ⟨hC, h⟩ := h s' hs'
      exact (ih (hI s a s' hs hDa hs') ((hstep s a s' hs hP hDa hs').mpr hC) hD).mpr h

theorem always_iff_along {I : σ → Prop} (hI : ∀ s a s', I s → step s a = some s' → I s')
    (hstep : ∀ s a s', I s → P s → step s a = some s' → (P s' ↔ C s a)) {s : σ} (hs : I s)
    (hP : P s) (as : List α) : Always step P s as ↔ Along step C s as := by
  apply always_iff_along_of_along (D := fun _ _ => True) _ _ hs hP
  . exact along_of_forall fun _ _ _ => trivial
  . intro s a s' hs _
    exact hI s a s' hs
  . intro s a s' hs hP _
    exact hstep s a s' hs hP

theorem always_and_along_iff {N : σ → α → Prop}
    (hstep : ∀ s a s', P s → step s a = some s' → (P s' ∧ N s a ↔ C s a)) {s : σ} (hP : P s)
    (as : List α) : Always step P s as ∧ Along step N s as ↔ Along step C s as := by
  induction as generalizing s with
  | nil => simpa [Always, Along] using hP
  | cons a as ih =>
    simp only [Always, Along, hP, true_and]
    constructor
    . rintro ⟨hall, halong⟩ s' hs'
      obtain ⟨hNa, hN⟩ := halong s' hs'
      have hP' := (hall s' hs').head
      exact ⟨(hstep s a s' hP hs').mp ⟨hP', hNa⟩, (ih hP').mp ⟨hall s' hs', hN⟩⟩
    . intro h
      have hboth : ∀ s', step s a = some s' →
          N s a ∧ Always step P s' as ∧ Along step N s' as := by
        intro s' hs'
        obtain ⟨hCa, hC⟩ := h s' hs'
        obtain ⟨hP', hNa⟩ := (hstep s a s' hP hs').mpr hCa
        exact ⟨hNa, (ih hP').mpr hC⟩
      constructor
      . intro s' hs'
        exact (hboth s' hs').2.1
      . intro s' hs'
        exact ⟨(hboth s' hs').1, (hboth s' hs').2.2⟩

theorem recording_eq_some {s t : σ × List α} {a : α} :
    recording step s a = some t ↔ step s.1 a = some t.1 ∧ t.2 = s.2 ++ [a] := by
  simp only [recording, Option.map_eq_some_iff]
  constructor
  . rintro ⟨s', hs', rfl⟩
    exact ⟨hs', rfl⟩
  . rintro ⟨hs', ht⟩
    exact ⟨t.1, hs', by rw [← ht]⟩

theorem run_recording_eq_some {s t : σ} {as bs cs : List α} :
    run (recording step) (s, bs) as = some (t, cs) ↔ run step s as = some t ∧ cs = bs ++ as := by
  induction as generalizing s bs with
  | nil => simp [eq_comm]
  | cons a as ih =>
    simp only [run_cons_eq_some]
    constructor
    . rintro ⟨⟨s', ds⟩, hstep, hrun⟩
      rw [recording_eq_some] at hstep
      obtain ⟨hstep, rfl⟩ := hstep
      rw [ih] at hrun
      exact ⟨⟨s', hstep, hrun.1⟩, by simp [hrun.2]⟩
    . rintro ⟨⟨s', hstep, hrun⟩, rfl⟩
      refine ⟨(s', bs ++ [a]), ?_, ?_⟩
      . rw [recording_eq_some]
        exact ⟨hstep, rfl⟩
      . rw [ih]
        exact ⟨hrun, by simp⟩

section

variable {β : Type w} {log : σ → α → List β}

theorem logging_eq_some {s t : σ × List β} {a : α} :
    logging step log s a = some t ↔ step s.1 a = some t.1 ∧ t.2 = s.2 ++ log s.1 a := by
  simp only [logging, Option.map_eq_some_iff]
  constructor
  . rintro ⟨s', hs', rfl⟩
    exact ⟨hs', rfl⟩
  . rintro ⟨hs', ht⟩
    exact ⟨t.1, hs', by rw [← ht]⟩

theorem run_of_run_logging {s t : σ × List β} {as : List α}
    (h : run (logging step log) s as = some t) : run step s.1 as = some t.1 := by
  induction as generalizing s with
  | nil =>
    simp only [run_nil, Option.some.injEq] at h
    rw [h]
    rfl
  | cons a as ih =>
    rw [run_cons_eq_some] at h
    obtain ⟨s', hs', h⟩ := h
    rw [run_cons_eq_some]
    exact ⟨s'.1, (logging_eq_some.mp hs').1, ih h⟩

theorem exists_run_logging {s t : σ} {as : List α} (h : run step s as = some t) (l : List β) :
    ∃ l', run (logging step log) (s, l) as = some (t, l') := by
  induction as generalizing s l with
  | nil =>
    simp only [run_nil, Option.some.injEq] at h
    exact ⟨l, by rw [h]; rfl⟩
  | cons a as ih =>
    rw [run_cons_eq_some] at h
    obtain ⟨s', hs', h⟩ := h
    obtain ⟨l', hl'⟩ := ih h (l ++ log s a)
    refine ⟨l', ?_⟩
    rw [run_cons_eq_some]
    exact ⟨(s', l ++ log s a), logging_eq_some.mpr ⟨hs', rfl⟩, hl'⟩

/--
What the run shows of the states is what the run without the log shows.
-/
theorem along_logging_iff {s : σ × List β} {as : List α} :
    Along (logging step log) (fun s a => C s.1 a) s as ↔ Along step C s.1 as := by
  induction as generalizing s with
  | nil => rfl
  | cons a as ih =>
    constructor
    . intro h s' hs'
      have hs : logging step log s a = some (s', s.2 ++ log s.1 a) :=
        logging_eq_some.mpr ⟨hs', rfl⟩
      exact ⟨(h _ hs).1, ih.mp (h _ hs).2⟩
    . intro h s' hs'
      obtain ⟨hstep, -⟩ := logging_eq_some.mp hs'
      exact ⟨(h s'.1 hstep).1, ih.mpr (h s'.1 hstep).2⟩

end

end Transition
