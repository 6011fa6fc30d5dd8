import BuilderCore.Legacy.Submissions

/-!
This module contains how a batch of transactions comes into the channel of the legacy builder when
others send into it and set statuses at the same time.
-/

namespace BuilderCore

open Batch Collections

namespace Legacy

section

variable (T : NodeType)

/--
How far a batch of transactions has come: the read lock for the limit, one `try_broadcast` after the
other, and the write lock for the statuses.
-/
inductive BatchPhase where
  | reading
  | broadcasting (maxTxnLen : Nat) (rest : List T.Transaction)
      (response : List (Except BuildError T.TxnCommitment))
  | setting (response : List (Except BuildError T.TxnCommitment))

structure ReceivedBatch where
  txns : List T.Transaction
  source : TransactionSource
  phase : BatchPhase T

end

variable {T : NodeType} {Sender : Type}

/--
The next step of `handle_received_txns` and of what its callers do with the response. `maybeEvicted` is
what `try_broadcast` answers if it is called.
-/
def ReceivedBatch.step (texts : Texts T) (self : ReceivedBatch T)
    (maybeEvicted : Except (TrySendError T) (Option (ReceivedTransaction T)))
    (globalState : GlobalState T Sender) (sent : List (ReceivedTransaction T)) :
    (GlobalState T Sender × List (ReceivedTransaction T)) ×
      (ReceivedBatch T ⊕ Except BuildError (List (Except BuildError T.TxnCommitment))) :=
  match self.phase with
  | .reading =>
    let maxTxnLen := globalState.blockSizeLimits.maxBlockSize
    ((globalState, sent), .inl { self with phase := .broadcasting maxTxnLen self.txns [] })
  | .broadcasting maxTxnLen (tx :: rest) response =>
    let (sent, res) :=
      HandleReceivedTxns.next (fun _ _ => maybeEvicted) self.source maxTxnLen sent tx
    let res := res.mapError fun error => error.toBuildError texts
    ((globalState, sent),
      .inl { self with phase := .broadcasting maxTxnLen rest (response ++ [res]) })
  | .broadcasting _ [] response => ((globalState, sent), .inl { self with phase := .setting response })
  | .setting response =>
    match tryAll (GlobalState.setResult texts) globalState
        (GlobalState.pairs self.txns response) with
    | (globalState, .error e) => ((globalState, sent), .inr (.error e))
    | (globalState, .ok _) => ((globalState, sent), .inr (.ok response))

/--
The answer for one transaction: its commitment, or what went wrong with itself. `refuses` are the errors
of `try_broadcast` that there may have been.
-/
inductive Answers (texts : Texts T) (refuses : TrySendError T → Prop) (tx : T.Transaction) :
    Except BuildError T.TxnCommitment → Prop where
  | sent : Answers texts refuses tx (.ok (T.commit tx))
  | tooBig (maxTxnLen : Nat) (hlt : maxTxnLen < T.minimumBlockSize tx) :
      Answers texts refuses tx (.error (HandleReceivedTxnsError.toBuildError texts
        (.transactionTooBig (T.minimumBlockSize tx) maxTxnLen)))
  | refused (err : TrySendError T) (hrefuses : refuses err) :
      Answers texts refuses tx
        (.error ((HandleReceivedTxnsError.fromTrySendError err).toBuildError texts))

theorem Answers.mono {texts : Texts T} {refuses refuses' : TrySendError T → Prop}
    (h : ∀ err, refuses err → refuses' err) {tx : T.Transaction}
    {res : Except BuildError T.TxnCommitment} (hanswers : Answers texts refuses tx res) :
    Answers texts refuses' tx res := by
  cases hanswers with
  | sent => exact .sent
  | tooBig maxTxnLen hlt => exact .tooBig maxTxnLen hlt
  | refused err hrefuses => exact .refused err (h err hrefuses)

/--
Nobody marks a transaction as sequenced.
-/
def NeverSequenced (globalState : GlobalState T Sender) : Prop :=
  ∀ txnHash, (globalState.status txnHash).isSequenced = false

section

variable {texts : Texts T} {globalState : GlobalState T Sender}

theorem neverSequenced_new (config : Config T Sender) : NeverSequenced (GlobalState.new config) := by
  intro txnHash
  rw [GlobalState.status]
  have hnone : (GlobalState.new config).txStatus.peek txnHash = none := LruCache.peek_new ..
  rw [hnone]
  rfl

theorem neverSequenced_setResult (h : NeverSequenced globalState)
    (pair : T.TxnCommitment × Except BuildError T.TxnCommitment) :
    NeverSequenced (GlobalState.setResult texts globalState pair).1 := by
  intro txnHash
  rw [GlobalState.setResult, GlobalState.setTxnStatus_of_not_sequenced (h pair.1),
    GlobalState.status]
  cases hpeek : ((globalState.txStatus.get pair.1).2.put pair.1
      (GlobalState.resultStatus texts pair.2)).peek txnHash with
  | none => rfl
  | some status =>
    rcases LruCache.peek_of_peek_put hpeek with ⟨-, rfl⟩ | ⟨-, hold⟩
    . exact GlobalState.isSequenced_resultStatus pair.2
    . rw [LruCache.peek_get_snd] at hold
      have hnot := h txnHash
      rwa [GlobalState.status, hold] at hnot

theorem neverSequenced_txnStatus (h : NeverSequenced globalState) (txnHash : T.TxnCommitment) :
    NeverSequenced (globalState.txnStatus txnHash).1 := by
  intro txnHash'
  have hsame : (globalState.txnStatus txnHash).1.status txnHash' = globalState.status txnHash' := by
    have hpeek := LruCache.peek_get_snd globalState.txStatus txnHash txnHash'
    unfold GlobalState.txnStatus GlobalState.status
    split
    . next heq => rw [← hpeek, heq]
    . next heq => rw [← hpeek, heq]
  rw [hsame]
  exact h txnHash'

theorem exists_tryAll_setResult (texts : Texts T) (h : NeverSequenced globalState)
    (pairs : List (T.TxnCommitment × Except BuildError T.TxnCommitment)) :
    ∃ globalState' units, NeverSequenced globalState' ∧
      tryAll (GlobalState.setResult texts) globalState pairs = (globalState', .ok units) := by
  have hkeeps : ∀ (s : GlobalState T Sender) pair, NeverSequenced s →
      NeverSequenced (GlobalState.setResult texts s pair).1 :=
    fun _ pair hs => neverSequenced_setResult hs pair
  have hok : (tryAll (GlobalState.setResult texts) globalState pairs).2.isOk = true := by
    rw [tryAll_isOk_iff]
    apply succeeds_of_invariant _ hkeeps h
    intro s pair hs
    rw [GlobalState.isOk_setResult]
    exact hs pair.1
  have hnever : NeverSequenced (tryAll (GlobalState.setResult texts) globalState pairs).1 := by
    rw [tryAll_fst]
    exact runAll_invariant hkeeps h _
  cases hunits : (tryAll (GlobalState.setResult texts) globalState pairs).2 with
  | error error =>
    rw [hunits] at hok
    contradiction
  | ok units => exact ⟨_, units, hnever, by rw [← hunits]⟩

end

namespace ReceivedBatch

def remaining (self : ReceivedBatch T) : List T.Transaction :=
  match self.phase with
  | .reading => self.txns
  | .broadcasting _ rest _ => rest
  | .setting _ => []

def response (self : ReceivedBatch T) : List (Except BuildError T.TxnCommitment) :=
  match self.phase with
  | .reading => []
  | .broadcasting _ _ response | .setting response => response

/--
What the channel took of the batch so far.
-/
def accepted (self : ReceivedBatch T) : List (ReceivedTransaction T) :=
  ((self.txns.zip self.response).filter fun pair => pair.2.isOk).map fun pair =>
    .new pair.1 self.source

/--
Every transaction is answered by its own broadcast, and in order.
-/
def Sound (texts : Texts T) (refuses : TrySendError T → Prop) (self : ReceivedBatch T) : Prop :=
  ∃ handled, self.txns = handled ++ self.remaining ∧
    List.Forall₂ (Answers texts refuses) handled self.response

theorem Sound.mono {texts : Texts T} {refuses refuses' : TrySendError T → Prop}
    (h : ∀ err, refuses err → refuses' err) {self : ReceivedBatch T}
    (hsound : self.Sound texts refuses) : self.Sound texts refuses' := by
  obtain ⟨handled, htxns, hanswers⟩ := hsound
  exact ⟨handled, htxns, hanswers.imp fun _ _ hanswer => hanswer.mono h⟩

theorem sound_reading (texts : Texts T) (refuses : TrySendError T → Prop)
    (txns : List T.Transaction) (source : TransactionSource) :
    Sound texts refuses ⟨txns, source, .reading⟩ :=
  ⟨[], rfl, .nil⟩

/--
The next step sends what it answers with the commitment, and nothing else. It answers with an error of
`try_broadcast` only if there is one.
-/
structure Extends (texts : Texts T)
    (maybeEvicted : Except (TrySendError T) (Option (ReceivedTransaction T)))
    (batch batch' : ReceivedBatch T) (taken : List (ReceivedTransaction T)) : Prop where
  txns : batch'.txns = batch.txns
  source : batch'.source = batch.source
  sound : ∀ refuses : TrySendError T → Prop, (∀ err, maybeEvicted = .error err → refuses err) →
    batch.Sound texts refuses → batch'.Sound texts refuses
  accepted : batch'.accepted = batch.accepted ++ taken
  taken : ∀ tx ∈ taken, tx.source = batch.source

section

variable {texts : Texts T} {refuses : TrySendError T → Prop} {self batch' : ReceivedBatch T}
  {maybeEvicted : Except (TrySendError T) (Option (ReceivedTransaction T))}
  {globalState globalState' : GlobalState T Sender} {sent sent' : List (ReceivedTransaction T)}

theorem zip_append_left {α β : Type} {handled : List α} {response : List β}
    (hlength : handled.length = response.length) (rest : List α) :
    (handled ++ rest).zip response = handled.zip response := by
  have h : (handled ++ rest).zip (response ++ []) = handled.zip response ++ rest.zip [] :=
    List.zip_append hlength
  rwa [List.zip_nil_right, List.append_nil, List.append_nil] at h

theorem answers_next (hrefuses : ∀ err, maybeEvicted = .error err → refuses err)
    (source : TransactionSource) (maxTxnLen : Nat) (tx : T.Transaction) :
    Answers texts refuses tx ((HandleReceivedTxns.next (fun _ _ => maybeEvicted) source maxTxnLen sent
      tx).2.mapError fun error => error.toBuildError texts) := by
  unfold HandleReceivedTxns.next
  dsimp only
  split
  . next hlt => exact .tooBig maxTxnLen hlt
  . split
    . exact .sent
    . next err => exact .refused err (hrefuses err rfl)

theorem sent_next_eq (texts : Texts T) (source : TransactionSource) (maxTxnLen : Nat)
    (tx : T.Transaction) :
    (HandleReceivedTxns.next (fun _ _ => maybeEvicted) source maxTxnLen sent tx).1 = sent ++
      if ((HandleReceivedTxns.next (fun _ _ => maybeEvicted) source maxTxnLen sent
          tx).2.mapError fun error => error.toBuildError texts).isOk then
        [.new tx source]
      else
        [] := by
  unfold HandleReceivedTxns.next
  dsimp only
  split
  . exact (List.append_nil sent).symm
  . split
    . rfl
    . exact (List.append_nil sent).symm

theorem extends_of_step (hsound : self.Sound texts refuses)
    (h : self.step texts maybeEvicted globalState sent = ((globalState', sent'), .inl batch')) :
    globalState' = globalState ∧
      ∃ taken, sent' = sent ++ taken ∧ Extends texts maybeEvicted self batch' taken := by
  obtain ⟨txns, source, phase⟩ := self
  obtain ⟨handled, htxns, hanswers⟩ := hsound
  cases phase with
  | reading =>
    simp only [step, Prod.mk.injEq, Sum.inl.injEq] at h
    obtain ⟨⟨rfl, rfl⟩, rfl⟩ := h
    exact ⟨rfl, [], (List.append_nil sent).symm, rfl, rfl, fun _ _ _ => ⟨[], rfl, .nil⟩,
      (List.append_nil _).symm, by simp⟩
  | broadcasting maxTxnLen rest response =>
    cases rest with
    | nil =>
      simp only [step, Prod.mk.injEq, Sum.inl.injEq] at h
      obtain ⟨⟨rfl, rfl⟩, rfl⟩ := h
      exact ⟨rfl, [], (List.append_nil sent).symm, rfl, rfl, fun _ _ hsound => hsound,
        (List.append_nil _).symm, by simp⟩
    | cons tx rest =>
      simp only [step, Prod.mk.injEq, Sum.inl.injEq] at h
      obtain ⟨⟨rfl, rfl⟩, rfl⟩ := h
      have htxns : txns = handled ++ tx :: rest := htxns
      have hlength : handled.length = response.length := hanswers.length_eq
      refine ⟨rfl, _, sent_next_eq texts source maxTxnLen tx, rfl, rfl, ?_, ?_, ?_⟩
      . rintro refuses hrefuses ⟨handled, htxns, hanswers⟩
        refine ⟨handled ++ [tx], ?_, ?_⟩
        . rw [List.append_assoc]
          exact htxns
        . exact List.rel_append hanswers (.cons (answers_next hrefuses source maxTxnLen tx) .nil)
      . simp only [accepted, ReceivedBatch.response, htxns, zip_append_left hlength,
          List.zip_append hlength]
        simp only [List.zip_cons_cons, List.zip_nil_right, List.filter_append, List.map_append,
          List.filter_cons, List.filter_nil]
        split <;> simp
      . intro tx' htx'
        split at htx'
        . rw [List.mem_singleton.mp htx']
          rfl
        . contradiction
  | setting response =>
    simp only [step] at h
    split at h
    . simp at h
    . simp at h

/--
Nothing fails as long as nobody marks a transaction as sequenced.
-/
theorem answered_of_step (hnever : NeverSequenced globalState)
    {result : Except BuildError (List (Except BuildError T.TxnCommitment))}
    (h : self.step texts maybeEvicted globalState sent = ((globalState', sent'), .inr result)) :
    NeverSequenced globalState' ∧ sent' = sent ∧
      ∃ response, self.phase = .setting response ∧ result = .ok response := by
  obtain ⟨txns, source, phase⟩ := self
  cases phase with
  | reading => simp [step] at h
  | broadcasting maxTxnLen rest response => cases rest <;> simp [step] at h
  | setting response =>
    obtain ⟨globalState₁, units, hnever₁, htry⟩ := exists_tryAll_setResult texts hnever
      (GlobalState.pairs txns response)
    simp only [step, htry, Prod.mk.injEq, Sum.inr.injEq] at h
    obtain ⟨⟨rfl, rfl⟩, rfl⟩ := h
    exact ⟨hnever₁, rfl, response, rfl, rfl⟩

end

end ReceivedBatch

end Legacy

end BuilderCore
