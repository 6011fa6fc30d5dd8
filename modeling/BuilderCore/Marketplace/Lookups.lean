import BuilderCore.Marketplace.BundleCalls

/-!
This module contains when a call of `bundle` looks for its builder state, and how often.
-/

namespace BuilderCore

open Transition

namespace Marketplace

/--
What a call does until its state is found: it looks at the clock and goes on, or it looks for the state.
-/
inductive Turn where
  | check (now : Nat)
  | lookup (now : Nat)

namespace Turn

def now (self : Turn) : Nat :=
  match self with
  | .check now | .lookup now => now

def isLookup (self : Turn) : Bool :=
  match self with
  | .check _ => false
  | .lookup _ => true

/--
A lookup comes after a check, and the next check a tenth of `api_timeout` after the lookup.
-/
def Precedes (apiTimeout : Nat) (turn next : Turn) : Prop :=
  match turn, next with
  | .check now, .lookup now' => now ≤ now'
  | .lookup now, .check now' => now + apiTimeout / 10 ≤ now'
  | _, _ => False

theorem lookups_le {apiTimeout limit : Nat} {turn : Turn} {log : List Turn}
    (hchain : (turn :: log).IsChain (Precedes apiTimeout))
    (hlimit : ∀ now, .check now ∈ turn :: log → now ≤ limit) :
    (turn :: log).countP isLookup ≤ 1 ∨
      turn.now + ((turn :: log).countP isLookup - 1) * (apiTimeout / 10) ≤ limit := by
  induction log generalizing turn with
  | nil => exact .inl List.countP_le_length
  | cons next log ih =>
    obtain ⟨hprecedes, hchain⟩ := List.isChain_cons_cons.mp hchain
    have hrest := ih hchain fun now hmem => hlimit now (List.mem_cons_of_mem _ hmem)
    cases turn with
    | check t =>
      cases next with
      | check t' => contradiction
      | lookup t' =>
        have hle : t ≤ t' := hprecedes
        have hcount : (Turn.check t :: .lookup t' :: log).countP isLookup =
            (Turn.lookup t' :: log).countP isLookup := List.countP_cons_of_neg (by simp [isLookup])
        rw [hcount]
        simp only [Turn.now] at hrest ⊢
        omega
    | lookup t =>
      cases next with
      | lookup t' => contradiction
      | check t' =>
        have hle : t + apiTimeout / 10 ≤ t' := hprecedes
        have ht' : t' ≤ limit := hlimit t' (by simp)
        have hcount : (Turn.lookup t :: .check t' :: log).countP isLookup =
            (Turn.check t' :: log).countP isLookup + 1 := List.countP_cons_of_pos rfl
        rw [hcount]
        simp only [Turn.now] at hrest ⊢
        -- with one lookup left it is the check that is in time, with more the lookups before it are
        cases hn : (Turn.check t' :: log).countP isLookup with
        | zero => exact .inl (Nat.le_refl 1)
        | succ n =>
          right
          rw [hn] at hrest
          simp only [Nat.add_sub_cancel] at hrest ⊢
          rw [Nat.succ_mul]
          rcases hrest with hone | hmany
          . have hzero : n = 0 := by omega
            rw [hzero, Nat.zero_mul]
            omega
          . omega

end Turn

variable {T : NodeType} [ApiTypes T]

def BundleCall.turn (self : BundleCall T) (apiTimeout now : Nat) : List Turn :=
  match self.phase with
  | .checking => if now - self.start > apiTimeout then [] else [.check now]
  | .lookingUp => [.lookup now]
  | .collecting _ _ _ | .done _ => []

/--
The turns of a call follow each other as they should, all its checks find that there is time left, and
its phase says which turn was the last one.
-/
structure Paced (apiTimeout clock : Nat) (call : BundleCall T) (log : List Turn) : Prop where
  chain : log.IsChain (Turn.Precedes apiTimeout)
  checked : ∀ turn ∈ log.head?, turn.isLookup = false
  early : ∀ now, .check now ∈ log → call.start ≤ now ∧ now ≤ call.start + apiTimeout
  started : call.start ≤ clock
  past : ∀ turn ∈ log.getLast?, turn.now ≤ clock
  waits : call.phase = .checking →
    ∀ turn ∈ log.getLast?, ∃ now, turn = .lookup now ∧ now + apiTimeout / 10 ≤ call.wake
  looks : call.phase = .lookingUp → ∃ now, log.getLast? = some (.check now)

theorem Paced.later {apiTimeout clock clock' : Nat} {call : BundleCall T} {log : List Turn}
    (h : Paced apiTimeout clock call log) (hclock : clock ≤ clock') :
    Paced apiTimeout clock' call log where
  chain := h.chain
  checked := h.checked
  early := h.early
  started := h.started.trans hclock
  past := fun turn hturn => (h.past turn hturn).trans hclock
  waits := h.waits
  looks := h.looks

theorem Paced.leave {apiTimeout clock : Nat} {call call' : BundleCall T} {log : List Turn}
    (h : Paced apiTimeout clock call log) (hstart : call'.start = call.start)
    (hchecking : call'.phase ≠ .checking) (hlookingUp : call'.phase ≠ .lookingUp) :
    Paced apiTimeout clock call' log where
  chain := h.chain
  checked := h.checked
  early := hstart ▸ h.early
  started := hstart ▸ h.started
  past := h.past
  waits := fun hphase => absurd hphase hchecking
  looks := fun hphase => absurd hphase hlookingUp

theorem Paced.append {apiTimeout clock : Nat} {call call' : BundleCall T} {log : List Turn}
    {turn : Turn} (h : Paced apiTimeout clock call log) (hclock : clock ≤ turn.now)
    (hstart : call'.start = call.start)
    (hprecedes : ∀ last ∈ log.getLast?, last.Precedes apiTimeout turn)
    (hfirst : log = [] → turn.isLookup = false)
    (hearly : turn.isLookup = false → turn.now ≤ call.start + apiTimeout)
    (hwaits : call'.phase = .checking →
      ∃ now, turn = .lookup now ∧ now + apiTimeout / 10 ≤ call'.wake)
    (hlooks : call'.phase = .lookingUp → ∃ now, turn = .check now) :
    Paced apiTimeout turn.now call' (log ++ [turn]) where
  chain := by
    rw [List.isChain_append]
    refine ⟨h.chain, .singleton _, ?_⟩
    intro last hlast next hnext
    rw [← Option.some.inj hnext]
    exact hprecedes last hlast
  checked := by
    intro first hhead
    by_cases hlog : log = []
    . subst hlog
      rw [← Option.some.inj hhead]
      exact hfirst rfl
    . rw [List.head?_append_of_ne_nil log hlog] at hhead
      exact h.checked first hhead
  early := by
    intro now hmem
    rw [hstart]
    rcases List.mem_append.mp hmem with hold | hnew
    . exact h.early now hold
    . rw [← List.mem_singleton.mp hnew] at hclock hearly
      exact ⟨h.started.trans hclock, hearly rfl⟩
  started := hstart ▸ h.started.trans hclock
  past := by
    intro last hlast
    rw [List.getLast?_concat] at hlast
    rw [← Option.some.inj hlast]
  waits := by
    intro hphase last hlast
    rw [List.getLast?_concat] at hlast
    rw [← Option.some.inj hlast]
    exact hwaits hphase
  looks := by
    intro hphase
    obtain ⟨now, rfl⟩ := hlooks hphase
    exact ⟨now, List.getLast?_concat⟩

theorem Paced.check {apiTimeout clock now : Nat} {call call' : BundleCall T} {log : List Turn}
    (h : Paced apiTimeout clock call log) (hphase : call.phase = .checking)
    (hearly : now - call.start ≤ apiTimeout) (hclock : clock ≤ now) (hwake : call.wake ≤ now)
    (hstart : call'.start = call.start) (hlookingUp : call'.phase = .lookingUp) :
    Paced apiTimeout now call' (log ++ [.check now]) := by
  have hlater : clock ≤ (Turn.check now).now := hclock
  refine Paced.append h hlater hstart ?_ (fun _ => rfl) ?_ (by simp [hlookingUp])
    (fun _ => ⟨now, rfl⟩)
  . intro last hlast
    obtain ⟨now', rfl, hnow'⟩ := h.waits hphase last hlast
    exact hnow'.trans hwake
  . intro _
    exact Nat.sub_le_iff_le_add'.mp hearly

theorem Paced.look {apiTimeout clock now : Nat} {call call' : BundleCall T} {log : List Turn}
    (h : Paced apiTimeout clock call log) (hphase : call.phase = .lookingUp)
    (hclock : clock ≤ now) (hstart : call'.start = call.start)
    (hwaits : call'.phase = .checking → now + apiTimeout / 10 ≤ call'.wake)
    (hnot : call'.phase ≠ .lookingUp) : Paced apiTimeout now call' (log ++ [.lookup now]) := by
  obtain ⟨checked, hchecked⟩ := h.looks hphase
  have hlater : clock ≤ (Turn.lookup now).now := hclock
  refine Paced.append h hlater hstart ?_ ?_ (by simp [Turn.isLookup])
    (fun hchecking => ⟨now, rfl, hwaits hchecking⟩) (fun hphase => absurd hphase hnot)
  . intro last hlast
    rw [hchecked] at hlast
    rw [← Option.some.inj hlast]
    have hpast : checked ≤ clock := h.past _ hchecked
    exact hpast.trans hclock
  . rintro rfl
    contradiction

variable [BundleTypes T]

theorem paced_of_advances {self : GlobalState T} {call call' : BundleCall T} {clock now : Nat}
    {coordinator : Coordinator T} {log : List Turn} (h : Paced self.apiTimeout clock call log)
    (hclock : clock ≤ now) (hwake : call.wake ≤ now)
    (hadvances : Advances self call now coordinator call') :
    Paced self.apiTimeout now call' (log ++ call.turn self.apiTimeout now) := by
  cases hadvances with
  | refuse hphase hlate =>
    simp only [BundleCall.turn, hphase, if_pos hlate, List.append_nil]
    exact (h.later hclock).leave rfl (by simp) (by simp)
  | check hphase hearly =>
    simp only [BundleCall.turn, hphase, if_neg (Nat.not_lt.mpr hearly)]
    exact h.check hphase hearly hclock hwake rfl rfl
  | find state hphase hfound =>
    simp only [BundleCall.turn, hphase]
    exact h.look hphase hclock rfl (by simp) (by simp)
  | sleep hphase =>
    simp only [BundleCall.turn, hphase]
    exact h.look hphase hclock rfl (fun _ => Nat.le_refl _) (by simp)
  | decided hphase hdecided =>
    simp only [BundleCall.turn, hphase]
    exact h.look hphase hclock rfl (by simp) (by simp)
  | read state timeoutAfter hphase =>
    simp only [BundleCall.turn, hphase, List.append_nil]
    exact (h.later hclock).leave rfl (by simp) (by simp)
  | collect state timeoutAfter wake phase phase' coordinator hphase hcollect =>
    simp only [BundleCall.turn, hphase, List.append_nil]
    exact (h.later hclock).leave rfl (by simp) (by simp)

namespace Service

/--
The turns of the call `i` until its state is found.
-/
def turns (i : Nat) (self : Service T) (action : Action T) : List Turn :=
  match action with
  | .advance j now =>
    if j = i then
      ((self.calls[i]?).map fun call => call.turn self.globalState.apiTimeout now).getD []
    else
      []
  | .bundle _ _ | .coordinate _ => []

structure PacedAt (config : BuilderConfig T) (i : Nat) (s : Service T × List Turn) : Prop where
  valid : Valid config s.1
  idle : s.1.calls[i]? = none → s.2 = []
  paced : ∀ call, s.1.calls[i]? = some call → Paced config.apiTimeout s.1.clock call s.2

theorem pacedAt_step {config : BuilderConfig T} {i : Nat} {self self' : Service T}
    {log : List Turn} (h : PacedAt config i (self, log)) {action : Action T}
    (hstep : self.step action = some self') :
    PacedAt config i (self', log ++ turns i self action) := by
  have hvalid := valid_step h.valid hstep
  cases change_of_step hstep with
  | bundle request now hclock =>
    rw [turns, List.append_nil]
    refine ⟨hvalid, ?_, ?_⟩
    . intro hidle
      rw [List.getElem?_append] at hidle
      split at hidle
      . exact h.idle hidle
      . next hge => exact h.idle (List.getElem?_eq_none (Nat.not_lt.mp hge))
    . intro call hcall
      dsimp only at hcall
      rw [List.getElem?_append] at hcall
      split at hcall
      . exact (h.paced call hcall).later hclock
      . next hge =>
        have hlog : log = [] := h.idle (List.getElem?_eq_none (Nat.not_lt.mp hge))
        rw [List.mem_singleton.mp (List.mem_of_getElem? hcall), hlog]
        exact ⟨.nil, by simp, by simp, Nat.le_refl _, by simp, by simp, by simp⟩
  | advance j now call call' coordinator hcall hclock hwake hadvances =>
    by_cases hij : j = i
    . subst hij
      have hlt := (List.getElem?_eq_some_iff.mp hcall).1
      have hpaced := h.paced call hcall
      rw [← h.valid.apiTimeout] at hpaced
      have hturns : turns j self (.advance j now) = call.turn self.globalState.apiTimeout now := by
        simp [turns, hcall]
      rw [hturns]
      refine ⟨hvalid, ?_, ?_⟩
      . intro hidle
        simp [hlt] at hidle
      . intro call'' hcall''
        dsimp only at hcall''
        rw [List.getElem?_set_self hlt] at hcall''
        rw [← Option.some.inj hcall'', ← h.valid.apiTimeout]
        exact paced_of_advances hpaced hclock hwake hadvances
    . rw [turns, if_neg hij, List.append_nil]
      refine ⟨hvalid, ?_, ?_⟩
      . intro hidle
        rw [List.getElem?_set_ne hij] at hidle
        exact h.idle hidle
      . intro call'' hcall''
        dsimp only at hcall''
        rw [List.getElem?_set_ne hij] at hcall''
        exact (h.paced call'' hcall'').later hclock
  | coordinate action coordinator hrequest hcoordinate =>
    rw [turns, List.append_nil]
    exact ⟨hvalid, h.idle, h.paced⟩

/--
A call looks for its state only after it has seen that `api_timeout` is not over, and before it checks
that again, it waits a tenth of it. With a hundred ticks of time or more it looks at most eleven times.
-/
theorem lookups_bounded {config : BuilderConfig T} {now i : Nat} {actions : List (Action T)}
    {self : Service T} {log : List Turn}
    (hrun : run (logging step (turns i)) (new config now, []) actions = some (self, log)) :
    log.IsChain (Turn.Precedes config.apiTimeout) ∧
      (∀ turn ∈ log.head?, turn.isLookup = false) ∧
      (∀ call, self.calls[i]? = some call → ∀ now, .check now ∈ log →
        call.start ≤ now ∧ now ≤ call.start + config.apiTimeout) ∧
      (log.countP Turn.isLookup - 1) * (config.apiTimeout / 10) ≤ config.apiTimeout ∧
      (100 ≤ config.apiTimeout → log.countP Turn.isLookup ≤ 11) := by
  have hpacedAt : PacedAt config i (self, log) := by
    apply run_invariant (P := PacedAt config i) _ _ hrun
    . rintro ⟨self, log⟩ action ⟨self', log'⟩ hs hstep
      obtain ⟨hstep, rfl⟩ := logging_eq_some.mp hstep
      exact pacedAt_step hs hstep
    . exact ⟨valid_new config now, fun _ => rfl, by simp [new]⟩
  cases hcall : self.calls[i]? with
  | none =>
    obtain rfl : log = [] := hpacedAt.idle hcall
    exact ⟨.nil, by simp, by simp, by simp, by simp⟩
  | some call =>
    have hpaced := hpacedAt.paced call hcall
    have hbounded : (log.countP Turn.isLookup - 1) * (config.apiTimeout / 10) ≤ config.apiTimeout := by
      cases log with
      | nil => simp
      | cons turn log =>
        cases turn with
        | lookup now => exact absurd (hpaced.checked _ rfl) (by simp [Turn.isLookup])
        | check now =>
          have hstart := (hpaced.early now (by simp)).1
          have hle := Turn.lookups_le hpaced.chain fun now hmem => (hpaced.early now hmem).2
          rcases hle with hone | hmany
          . simp [Nat.sub_eq_zero_of_le hone]
          . simp only [Turn.now] at hmany
            omega
    refine ⟨hpaced.chain, hpaced.checked, ?_, hbounded, ?_⟩
    . intro call' hcall'
      rw [← Option.some.inj hcall']
      exact hpaced.early
    . intro htimeout
      by_contra hmany
      have heleven : 11 * (config.apiTimeout / 10) ≤
          (log.countP Turn.isLookup - 1) * (config.apiTimeout / 10) :=
        Nat.mul_le_mul_right _ (by omega)
      omega

theorem lookups_bounded_testCalls : ∃ self log,
    run (logging step (turns 1)) (new testConfig 0, []) testCalls = some (self, log) ∧
      log = [.check 2, .lookup 3, .check 13, .lookup 14] ∧
      log.IsChain (Turn.Precedes 100) ∧ log.countP Turn.isLookup ≤ 11 := by
  have hlog : (run (logging step (turns 1)) (new testConfig 0, []) testCalls).map (·.2) =
      some [.check 2, .lookup 3, .check 13, .lookup 14] := rfl
  obtain ⟨⟨self, log⟩, hrun, rfl⟩ := Option.map_eq_some_iff.mp hlog
  obtain ⟨hchain, -, -, -, heleven⟩ := lookups_bounded hrun
  exact ⟨self, _, hrun, rfl, hchain, heleven (by decide)⟩

end Service

end Marketplace

end BuilderCore
