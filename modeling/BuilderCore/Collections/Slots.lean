import BuilderCore.Transition
import Mathlib.Algebra.Ring.Nat

/-!
This module contains lists that only grow and whose entries are replaced one at a time, and what a
run keeps of an entry.
-/

universe u v w

namespace Collections

open Transition

variable {σ : Type u} {α : Type v} {γ : Type w}

/--
Nothing changes, an entry with `New` is added, or one is replaced by another that it is related to.
-/
inductive SlotChange (New : γ → Prop) (R : γ → γ → Prop) (l : List γ) : List γ → Prop where
  | keep : SlotChange New R l l
  | push (c : γ) (hnew : New c) : SlotChange New R l (l ++ [c])
  | set (i : Nat) (c c' : γ) (hc : l[i]? = some c) (hrel : R c c') :
      SlotChange New R l (l.set i c')

namespace SlotChange

variable {New : γ → Prop} {R : γ → γ → Prop} {l l' : List γ}

theorem getElem? (h : SlotChange New R l l') {k : Nat} {c : γ} (hc : l[k]? = some c) :
    ∃ c', l'[k]? = some c' ∧ (c' = c ∨ R c c') := by
  have hlt := (List.getElem?_eq_some_iff.mp hc).1
  cases h with
  | keep => exact ⟨c, hc, .inl rfl⟩
  | push c' hnew => exact ⟨c, by rw [List.getElem?_append_left hlt, hc], .inl rfl⟩
  | set i c₀ c' hc₀ hrel =>
    by_cases hik : i = k
    . subst hik
      rw [hc, Option.some.injEq] at hc₀
      subst hc₀
      exact ⟨c', by simp [hlt], .inr hrel⟩
    . exact ⟨c, by simp [hik, hc], .inl rfl⟩

theorem mem (h : SlotChange New R l l') {c' : γ} (hc' : c' ∈ l') :
    c' ∈ l ∨ New c' ∨ ∃ c ∈ l, R c c' := by
  cases h with
  | keep => exact .inl hc'
  | push c hnew =>
    rw [List.mem_append, List.mem_singleton] at hc'
    rcases hc' with hold | rfl
    . exact .inl hold
    . exact .inr (.inl hnew)
  | set i c c₁ hc hrel =>
    rcases List.mem_or_eq_of_mem_set hc' with hold | rfl
    . exact .inl hold
    . exact .inr (.inr ⟨c, List.mem_of_getElem? hc, hrel⟩)

end SlotChange

/--
A run keeps a property of an entry that every replacement keeps, in states with an invariant.
-/
theorem slot_of_run {step : σ → α → Option σ} {slots : σ → List γ} {New : σ → γ → Prop}
    {R : σ → α → γ → γ → Prop}
    (hslots : ∀ s a s', step s a = some s' → SlotChange (New s) (R s a) (slots s) (slots s'))
    {I : σ → Prop} (hI : ∀ s a s', I s → step s a = some s' → I s') {P : γ → Prop}
    (hP : ∀ s a c c', I s → R s a c c' → P c → P c') {s t : σ} {as : List α}
    (hrun : run step s as = some t) (hs : I s) {k : Nat} {c : γ} (hc : (slots s)[k]? = some c)
    (h : P c) : ∃ c', (slots t)[k]? = some c' ∧ P c' := by
  have hslot := run_invariant (P := fun s => I s ∧ ∃ c, (slots s)[k]? = some c ∧ P c) ?_
    ⟨hs, c, hc, h⟩ hrun
  . exact hslot.2
  . rintro s₁ a s₂ ⟨hs₁, c₁, hc₁, h₁⟩ hstep
    obtain ⟨c₂, hc₂, hchange⟩ := (hslots s₁ a s₂ hstep).getElem? hc₁
    refine ⟨hI s₁ a s₂ hs₁ hstep, c₂, hc₂, ?_⟩
    rcases hchange with rfl | hrel
    . exact h₁
    . exact hP s₁ a c₁ c₂ hs₁ hrel h₁

section

variable {l : List γ} {i : Nat} {c c' : γ}

theorem of_getElem?_set {k : Nat} {c'' : γ} (hc : l[i]? = some c)
    (h : (l.set i c')[k]? = some c'') : i = k ∧ c'' = c' ∨ l[k]? = some c'' := by
  by_cases hik : i = k
  . subst hik
    rw [List.getElem?_set_self (List.getElem?_eq_some_iff.mp hc).1] at h
    exact .inl ⟨rfl, (Option.some.inj h).symm⟩
  . rw [List.getElem?_set_ne hik] at h
    exact .inr h

theorem countP_set_add {p : γ → Bool} (hc : l[i]? = some c) (c' : γ) :
    (l.set i c').countP p + (p c).toNat = l.countP p + (p c').toNat := by
  obtain ⟨hlt, rfl⟩ := List.getElem?_eq_some_iff.mp hc
  have hpos : p l[i] = true → 0 < l.countP p :=
    fun hp => List.countP_pos_iff.mpr ⟨_, List.getElem_mem hlt, hp⟩
  rw [List.countP_set hlt]
  cases hp : p l[i] with
  | false => cases p c' <;> simp
  | true =>
    have hpos := hpos hp
    cases p c' <;> simp <;> omega

theorem sum_map_set_lt {f : γ → Nat} (hc : l[i]? = some c) (hlt : f c' < f c) :
    ((l.set i c').map f).sum < (l.map f).sum := by
  induction l generalizing i with
  | nil => simp at hc
  | cons head tail ih =>
    cases i with
    | zero =>
      rw [List.getElem?_cons_zero, Option.some.injEq] at hc
      simpa [hc] using hlt
    | succ i =>
      rw [List.getElem?_cons_succ] at hc
      simpa using ih hc

end

end Collections
