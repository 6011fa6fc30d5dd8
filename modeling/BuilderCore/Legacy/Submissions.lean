import BuilderCore.Batch
import BuilderCore.Legacy.Fallback
import BuilderCore.Shared.Coordinator.Coordinator
import BuilderCore.Api

/-!
This module contains what becomes of a batch of transactions that is submitted to the legacy builder or
that an event announces: it is broadcast first, and the statuses are set afterwards.
-/

namespace BuilderCore

open Batch Collections

variable {T : NodeType} {Sender : Type}

namespace Legacy

variable (T) in
/--
`{}` of an error and `{:?}` of a status.
-/
structure Texts where
  displayTrySendError : TrySendError T → String
  displayBuildError : BuildError → String
  debugTransactionStatus : TransactionStatus → String

variable (T) in
inductive HandleReceivedTxnsError where
  | transactionTooBig (estimatedLength maxTxnLen : Nat)
  | tooManyTransactions
  | internal (err : TrySendError T)

namespace HandleReceivedTxnsError

def fromTrySendError (err : TrySendError T) : HandleReceivedTxnsError T :=
  match err with
  | .full _ => .tooManyTransactions
  | err => .internal err

def toBuildError (texts : Texts T) (error : HandleReceivedTxnsError T) : BuildError :=
  match error with
  | .transactionTooBig estimatedLength maxTxnLen =>
    .error (s!"Transaction too big (estimated length {estimatedLength}, " ++
      s!"currently accepting <= {maxTxnLen})")
  | .tooManyTransactions => .error "Too many transactions"
  | .internal err =>
    .error s!"Internal error when submitting transaction: {texts.displayTrySendError err}"

end HandleReceivedTxnsError

/--
What `try_broadcast` answers after what was sent before.
-/
abbrev TryBroadcast (T : NodeType) : Type :=
  List (ReceivedTransaction T) → ReceivedTransaction T →
    Except (TrySendError T) (Option (ReceivedTransaction T))

def HandleReceivedTxns.next (tryBroadcast : TryBroadcast T) (source : TransactionSource)
    (maxTxnLen : Nat) (sent : List (ReceivedTransaction T)) (tx : T.Transaction) :
    List (ReceivedTransaction T) × Except (HandleReceivedTxnsError T) T.TxnCommitment :=
  let commit := T.commit tx
  let len := T.minimumBlockSize tx
  if len > maxTxnLen then
    (sent, .error (.transactionTooBig len maxTxnLen))
  else
    match tryBroadcast sent (.new tx source) with
    | .ok _ => (sent ++ [.new tx source], .ok commit)
    | .error err => (sent, .error (.fromTrySendError err))

def handleReceivedTxns (texts : Texts T) (tryBroadcast : TryBroadcast T)
    (sent : List (ReceivedTransaction T)) (txns : List T.Transaction) (source : TransactionSource)
    (maxTxnLen : Nat) :
    List (ReceivedTransaction T) × List (Except BuildError T.TxnCommitment) :=
  let (sent, results) := runAll (HandleReceivedTxns.next tryBroadcast source maxTxnLen) sent txns
  (sent, results.map fun res => res.mapError fun error => error.toBuildError texts)

namespace GlobalState

/--
`External` is the private mempool.
-/
def submitClientTxns (texts : Texts T) (tryBroadcast : TryBroadcast T) (self : GlobalState T Sender)
    (sent : List (ReceivedTransaction T)) (txns : List T.Transaction) :
    List (ReceivedTransaction T) × List (Except BuildError T.TxnCommitment) :=
  handleReceivedTxns texts tryBroadcast sent txns .privateMempool self.blockSizeLimits.maxBlockSize

def txnStatus (self : GlobalState T Sender) (txnHash : T.TxnCommitment) :
    GlobalState T Sender × TransactionStatus :=
  match self.txStatus.get txnHash with
  | (some status, txStatus) => ({ self with txStatus }, status)
  | (none, txStatus) => ({ self with txStatus }, .unknown)

def sequencedText (texts : Texts T) (txnStatus : TransactionStatus) (leaf : Nat) : String :=
  let status := texts.debugTransactionStatus txnStatus
  s!"Changing the status of a sequenced transaction to status {status} is not allowed! " ++
    s!"The transaction is sequenced in leaf {leaf}"

def setTxnStatus (texts : Texts T) (self : GlobalState T Sender) (txnHash : T.TxnCommitment)
    (txnStatus : TransactionStatus) : GlobalState T Sender × Except BuildError Unit :=
  match self.txStatus.get txnHash with
  | (some (.sequenced leaf), txStatus) =>
    ({ self with txStatus }, .error (.error (sequencedText texts txnStatus leaf)))
  | (_, txStatus) => ({ self with txStatus := txStatus.put txnHash txnStatus }, .ok ())

/--
The status of a transaction by the result of its own broadcast.
-/
def resultStatus (texts : Texts T) (res : Except BuildError T.TxnCommitment) : TransactionStatus :=
  match res with
  | .error err => .rejected (texts.displayBuildError err)
  | .ok _ => .pending

def setResult (texts : Texts T) (self : GlobalState T Sender)
    (pair : T.TxnCommitment × Except BuildError T.TxnCommitment) :
    GlobalState T Sender × Except BuildError Unit :=
  self.setTxnStatus texts pair.1 (resultStatus texts pair.2)

def pairs (txns : List T.Transaction) (response : List (Except BuildError T.TxnCommitment)) :
    List (T.TxnCommitment × Except BuildError T.TxnCommitment) :=
  (txns.map T.commit).zip response

/--
The first `set_txn_status` that fails ends the submission.
-/
def submitTxns (texts : Texts T) (tryBroadcast : TryBroadcast T) (self : GlobalState T Sender)
    (sent : List (ReceivedTransaction T)) (txns : List T.Transaction) :
    (GlobalState T Sender × List (ReceivedTransaction T)) × Except BuildError (List T.TxnCommitment) :=
  let (sent, response) := self.submitClientTxns texts tryBroadcast sent txns
  match tryAll (setResult texts) self (pairs txns response) with
  | (self, .error e) => ((self, sent), .error e)
  | (self, .ok _) => ((self, sent), response.mapM id)

/--
The branch of the event loop for `Transactions`. The event loop ends with the error.
-/
def handleTransactions (texts : Texts T) (tryBroadcast : TryBroadcast T)
    (self : GlobalState T Sender) (sent : List (ReceivedTransaction T))
    (transactions : List T.Transaction) :
    (GlobalState T Sender × List (ReceivedTransaction T)) × Except BuildError Unit :=
  let maxBlockSize := self.blockSizeLimits.maxBlockSize
  let (sent, response) :=
    handleReceivedTxns texts tryBroadcast sent transactions .publicMempool maxBlockSize
  match tryAll (setResult texts) self (pairs transactions response) with
  | (self, .error e) => ((self, sent), .error e)
  | (self, .ok _) => ((self, sent), .ok ())

section

variable {texts : Texts T}

def status (self : GlobalState T Sender) (txnHash : T.TxnCommitment) : TransactionStatus :=
  (self.txStatus.peek txnHash).getD .unknown

theorem txnStatus_snd (self : GlobalState T Sender) (txnHash : T.TxnCommitment) :
    (self.txnStatus txnHash).2 = self.status txnHash := by
  unfold txnStatus status
  rw [← LruCache.get_fst]
  split
  . next heq => rw [heq, Option.getD_some]
  . next heq => rw [heq, Option.getD_none]

theorem isSequenced_resultStatus (res : Except BuildError T.TxnCommitment) :
    (resultStatus texts res).isSequenced = false := by
  cases res <;> rfl

theorem setTxnStatus_of_sequenced {self : GlobalState T Sender} {txnHash : T.TxnCommitment}
    {leaf : Nat} (h : self.status txnHash = .sequenced leaf) (txnStatus : TransactionStatus) :
    self.setTxnStatus texts txnHash txnStatus =
      ({ self with txStatus := (self.txStatus.get txnHash).2 },
        .error (.error (sequencedText texts txnStatus leaf))) := by
  have hfst : (self.txStatus.get txnHash).1 = some (.sequenced leaf) := by
    rw [LruCache.get_fst]
    unfold status at h
    cases hpeek : self.txStatus.peek txnHash with
    | none => simp [hpeek] at h
    | some old => simpa [hpeek] using h
  unfold setTxnStatus
  rw [← Prod.eta (self.txStatus.get txnHash), hfst]

theorem setTxnStatus_of_not_sequenced {self : GlobalState T Sender} {txnHash : T.TxnCommitment}
    (h : (self.status txnHash).isSequenced = false) (txnStatus : TransactionStatus) :
    self.setTxnStatus texts txnHash txnStatus =
      ({ self with txStatus := (self.txStatus.get txnHash).2.put txnHash txnStatus }, .ok ()) := by
  unfold setTxnStatus
  split
  . next leaf txStatus heq =>
    have hpeek := LruCache.get_fst self.txStatus txnHash
    rw [heq] at hpeek
    rw [status, ← hpeek] at h
    contradiction
  . next heq => rw [heq]

theorem exists_leaf_of_isSequenced {status : TransactionStatus} (h : status.isSequenced = true) :
    ∃ leaf, status = .sequenced leaf := by
  cases status with
  | sequenced leaf => exact ⟨leaf, rfl⟩
  | _ => contradiction

theorem isOk_setResult (self : GlobalState T Sender)
    (pair : T.TxnCommitment × Except BuildError T.TxnCommitment) :
    (setResult texts self pair).2.isOk = true ↔ (self.status pair.1).isSequenced = false := by
  unfold setResult
  cases hseq : (self.status pair.1).isSequenced with
  | false => simp [setTxnStatus_of_not_sequenced hseq, Except.isOk, Except.toBool]
  | true =>
    obtain ⟨leaf, hleaf⟩ := exists_leaf_of_isSequenced hseq
    simp [setTxnStatus_of_sequenced hleaf, Except.isOk, Except.toBool]

section

variable {self : GlobalState T Sender} {ks : List T.TxnCommitment}
  {pair : T.TxnCommitment × Except BuildError T.TxnCommitment}
  {pairs : List (T.TxnCommitment × Except BuildError T.TxnCommitment)}

theorem hasRoomFor_setResult (h : self.txStatus.HasRoomFor ks) (hk : pair.1 ∈ ks) :
    (setResult texts self pair).1.txStatus.HasRoomFor ks := by
  unfold setResult
  cases hseq : (self.status pair.1).isSequenced with
  | false =>
    rw [setTxnStatus_of_not_sequenced hseq]
    exact (h.get _).put hk _
  | true =>
    obtain ⟨leaf, hleaf⟩ := exists_leaf_of_isSequenced hseq
    rw [setTxnStatus_of_sequenced hleaf]
    exact h.get _

theorem status_setResult (h : self.txStatus.HasRoomFor ks) (hk : pair.1 ∈ ks)
    (txnHash : T.TxnCommitment) :
    (setResult texts self pair).1.status txnHash =
      if txnHash = pair.1 ∧ (self.status pair.1).isSequenced = false then
        resultStatus texts pair.2
      else
        self.status txnHash := by
  unfold setResult
  cases hseq : (self.status pair.1).isSequenced with
  | false =>
    rw [setTxnStatus_of_not_sequenced hseq, status,
      LruCache.peek_put_of_hasRoom ((h.get _).hasRoom hk), LruCache.peek_get_snd]
    by_cases hhash : txnHash = pair.1
    . rw [if_pos hhash, if_pos ⟨hhash, rfl⟩, Option.getD_some]
    . rw [if_neg hhash, if_neg (fun hboth => hhash hboth.1), status]
  | true =>
    obtain ⟨leaf, hleaf⟩ := exists_leaf_of_isSequenced hseq
    rw [setTxnStatus_of_sequenced hleaf, if_neg (by simp), status, LruCache.peek_get_snd, status]

theorem isSequenced_setResult (h : self.txStatus.HasRoomFor ks) (hk : pair.1 ∈ ks)
    (txnHash : T.TxnCommitment) :
    ((setResult texts self pair).1.status txnHash).isSequenced =
      (self.status txnHash).isSequenced := by
  rw [status_setResult h hk]
  split
  . next hboth => rw [isSequenced_resultStatus, hboth.1, hboth.2]
  . rfl

theorem succeeds_setResult_iff (h : self.txStatus.HasRoomFor ks)
    (hks : ∀ pair ∈ pairs, pair.1 ∈ ks) :
    Succeeds (setResult texts) self pairs ↔
      ∀ pair ∈ pairs, (self.status pair.1).isSequenced = false := by
  induction pairs generalizing self with
  | nil => simp [Succeeds]
  | cons pair pairs ih =>
    rw [List.forall_mem_cons] at hks
    rw [Succeeds, isOk_setResult, ih (hasRoomFor_setResult h hks.1) hks.2, List.forall_mem_cons]
    simp only [isSequenced_setResult h hks.1]

theorem status_runAll_of_not_mem (h : self.txStatus.HasRoomFor ks)
    (hks : ∀ pair ∈ pairs, pair.1 ∈ ks) {txnHash : T.TxnCommitment}
    (hmem : txnHash ∉ pairs.map Prod.fst) :
    (runAll (setResult texts) self pairs).1.status txnHash = self.status txnHash := by
  induction pairs generalizing self with
  | nil => rfl
  | cons pair pairs ih =>
    rw [List.forall_mem_cons] at hks
    rw [List.map_cons, List.mem_cons, not_or] at hmem
    rw [runAll_cons, ih (hasRoomFor_setResult h hks.1) hks.2 hmem.2, status_setResult h hks.1,
      if_neg (fun hboth => hmem.1 hboth.1)]

theorem status_runAll_of_mem (h : self.txStatus.HasRoomFor ks)
    (hks : ∀ pair ∈ pairs, pair.1 ∈ ks) (hnodup : (pairs.map Prod.fst).Nodup)
    (hpair : pair ∈ pairs) :
    (runAll (setResult texts) self pairs).1.status pair.1 =
      if (self.status pair.1).isSequenced = false then
        resultStatus texts pair.2
      else
        self.status pair.1 := by
  induction pairs generalizing self with
  | nil => contradiction
  | cons head pairs ih =>
    rw [List.forall_mem_cons] at hks
    rw [List.map_cons, List.nodup_cons] at hnodup
    have hroom : (setResult texts self head).1.txStatus.HasRoomFor ks := hasRoomFor_setResult h hks.1
    rw [runAll_cons]
    rcases List.mem_cons.mp hpair with rfl | hpair
    . -- nobody sets it again
      rw [status_runAll_of_not_mem hroom hks.2 hnodup.1, status_setResult h hks.1]
      simp only [true_and]
    . have hne : pair.1 ≠ head.1 := by
        intro heq
        apply hnodup.1
        rw [← heq]
        exact List.mem_map_of_mem hpair
      have hother : (setResult texts self head).1.status pair.1 = self.status pair.1 := by
        rw [status_setResult h hks.1, if_neg (fun hboth => hne hboth.1)]
      rw [ih hroom hks.2 hnodup.2 hpair, hother]

end

/--
The status of every transaction follows from its own broadcast, unless the transaction was sequenced.
-/
structure SetsStatuses (texts : Texts T) (globalState globalState' : GlobalState T Sender)
    (pairs : List (T.TxnCommitment × Except BuildError T.TxnCommitment)) : Prop where
  set : ∀ pair ∈ pairs, (globalState.status pair.1).isSequenced = false →
    globalState'.status pair.1 = resultStatus texts pair.2
  kept : ∀ pair ∈ pairs, (globalState.status pair.1).isSequenced = true →
    globalState'.status pair.1 = globalState.status pair.1

theorem setsStatuses_and_isOk_iff {self : GlobalState T Sender}
    {pairs : List (T.TxnCommitment × Except BuildError T.TxnCommitment)}
    (h : self.txStatus.HasRoomFor (pairs.map Prod.fst)) (hnodup : (pairs.map Prod.fst).Nodup) :
    SetsStatuses texts self (tryAll (setResult texts) self pairs).1 pairs ∧
        (tryAll (setResult texts) self pairs).2.isOk = true ↔
      ∀ pair ∈ pairs, (self.status pair.1).isSequenced = false := by
  have hks : ∀ pair ∈ pairs, pair.1 ∈ pairs.map Prod.fst := fun _ => List.mem_map_of_mem
  rw [tryAll_isOk_iff, succeeds_setResult_iff h hks]
  constructor
  . exact And.right
  . intro hnot
    refine ⟨?_, hnot⟩
    have hsucceeds : Succeeds (setResult texts) self pairs := (succeeds_setResult_iff h hks).mpr hnot
    -- nothing fails, so the loop does not stop before the end
    rw [tryAll_fst, (attempted_eq_iff self pairs).mpr hsucceeds.butLast]
    constructor
    . intro pair hpair hseq
      rw [status_runAll_of_mem h hks hnodup hpair, if_pos hseq]
    . intro pair hpair hseq
      rw [status_runAll_of_mem h hks hnodup hpair, if_neg (by simp [hseq])]

end

end GlobalState

section

variable {texts : Texts T} {tryBroadcast : TryBroadcast T}

/--
Every transaction gets an answer, so the indices into the answers are in range.
-/
theorem length_handleReceivedTxns (sent : List (ReceivedTransaction T)) (txns : List T.Transaction)
    (source : TransactionSource) (maxTxnLen : Nat) :
    (handleReceivedTxns texts tryBroadcast sent txns source maxTxnLen).2.length = txns.length := by
  rw [handleReceivedTxns, List.length_map, length_runAll]

theorem toString_string (s : String) : toString s = s := rfl

theorem HandleReceivedTxnsError.toBuildError_ne (error : HandleReceivedTxnsError T)
    (txnStatus : TransactionStatus) (leaf : Nat) :
    error.toBuildError texts ≠ .error (GlobalState.sequencedText texts txnStatus leaf) := by
  intro h
  unfold toBuildError GlobalState.sequencedText at h
  -- the texts differ in their first letters
  cases error with
  | transactionTooBig estimatedLength maxTxnLen =>
    have hhead := congrArg (fun s => s.toList.head?) (BuildError.error.inj h)
    simp [toString_string] at hhead
  | tooManyTransactions =>
    have hhead := congrArg (fun s => s.toList.head?) (BuildError.error.inj h)
    simp [toString_string] at hhead
  | internal err =>
    have hhead := congrArg (fun s => s.toList.head?) (BuildError.error.inj h)
    simp [toString_string] at hhead

theorem sent_next {capacity : Nat}
    (hchannel : ∀ sent tx, (tryBroadcast sent tx).isOk = true ↔ sent.length < capacity)
    (source : TransactionSource) (maxTxnLen : Nat) (sent : List (ReceivedTransaction T))
    (tx : T.Transaction) :
    (HandleReceivedTxns.next tryBroadcast source maxTxnLen sent tx).1 =
      if decide (T.minimumBlockSize tx ≤ maxTxnLen) = true ∧ sent.length < capacity then
        sent ++ [.new tx source]
      else
        sent := by
  unfold HandleReceivedTxns.next
  simp only [decide_eq_true_iff, ← hchannel sent (.new tx source)]
  split
  . next hbig => rw [if_neg (fun hboth => Nat.not_le.mpr hbig hboth.1)]
  . next hfits =>
    have hfits := Nat.not_lt.mp hfits
    split
    . next heq => rw [heq, if_pos ⟨hfits, rfl⟩]
    . next heq =>
      rw [heq, if_neg]
      rintro ⟨-, hok⟩
      contradiction

/--
What fits is sent as long as there is room, whatever happened to the rest of the batch.
-/
theorem sent_handleReceivedTxns {capacity : Nat}
    (hchannel : ∀ sent tx, (tryBroadcast sent tx).isOk = true ↔ sent.length < capacity)
    (sent : List (ReceivedTransaction T)) (txns : List T.Transaction) (source : TransactionSource)
    (maxTxnLen : Nat) :
    (handleReceivedTxns texts tryBroadcast sent txns source maxTxnLen).1 = sent ++
      ((txns.filter fun tx => T.minimumBlockSize tx ≤ maxTxnLen).map fun tx =>
        ReceivedTransaction.new tx source).take (capacity - sent.length) :=
  runAll_appends id _ (sent_next hchannel source maxTxnLen) sent txns

theorem mem_of_mapM_eq_error {ε α : Type} {error : ε} {response : List (Except ε α)}
    (h : response.mapM id = .error error) : .error error ∈ response := by
  induction response with
  | nil => contradiction
  | cons res response ih =>
    rw [List.mapM_cons] at h
    cases res with
    | error error' =>
      rw [show error' = error from Except.error.inj h]
      exact .head _
    | ok a =>
      apply List.mem_cons_of_mem
      apply ih
      cases hrest : response.mapM id with
      | error error' =>
        rw [hrest] at h
        exact congrArg Except.error (Except.error.inj h)
      | ok as =>
        rw [hrest] at h
        contradiction

theorem handleReceivedTxns_mapM_ne (sent : List (ReceivedTransaction T)) (txns : List T.Transaction)
    (source : TransactionSource) (maxTxnLen : Nat) (txnStatus : TransactionStatus) (leaf : Nat) :
    (handleReceivedTxns texts tryBroadcast sent txns source maxTxnLen).2.mapM id ≠
      .error (.error (GlobalState.sequencedText texts txnStatus leaf)) := by
  intro h
  have hmem := mem_of_mapM_eq_error h
  obtain ⟨res, -, hres⟩ := List.mem_map.mp hmem
  cases res with
  | error error =>
    exact error.toBuildError_ne txnStatus leaf (Except.error.inj hres)
  | ok commit => contradiction

namespace GlobalState

theorem exists_leaf_of_setResult_error {self : GlobalState T Sender}
    {pair : T.TxnCommitment × Except BuildError T.TxnCommitment} {error : BuildError}
    (h : (setResult texts self pair).2 = .error error) :
    ∃ txnStatus leaf, error = .error (sequencedText texts txnStatus leaf) := by
  unfold setResult at h
  cases hseq : (self.status pair.1).isSequenced with
  | false =>
    rw [setTxnStatus_of_not_sequenced hseq] at h
    contradiction
  | true =>
    obtain ⟨leaf, hleaf⟩ := exists_leaf_of_isSequenced hseq
    rw [setTxnStatus_of_sequenced hleaf] at h
    exact ⟨_, leaf, (Except.error.inj h).symm⟩

section

variable (self : GlobalState T Sender) (sent : List (ReceivedTransaction T))
  (txns : List T.Transaction)

theorem submitTxns_fst :
    (self.submitTxns texts tryBroadcast sent txns).1.1 =
      (tryAll (setResult texts) self
        (pairs txns (self.submitClientTxns texts tryBroadcast sent txns).2)).1 := by
  unfold submitTxns
  dsimp only
  split
  . next heq => rw [heq]
  . next heq => rw [heq]

theorem submitTxns_snd_iff :
    (self.submitTxns texts tryBroadcast sent txns).2 =
        (self.submitClientTxns texts tryBroadcast sent txns).2.mapM id ↔
      (tryAll (setResult texts) self
        (pairs txns (self.submitClientTxns texts tryBroadcast sent txns).2)).2.isOk = true := by
  unfold submitTxns
  dsimp only
  split
  . next error heq =>
    rw [heq]
    obtain ⟨self', pair, -, herror⟩ := exists_of_tryAll_error (congrArg Prod.snd heq)
    obtain ⟨txnStatus, leaf, rfl⟩ := exists_leaf_of_setResult_error herror
    constructor
    . intro h
      exact absurd h.symm (handleReceivedTxns_mapM_ne sent txns _ _ txnStatus leaf)
    . intro hok
      contradiction
  . next heq =>
    rw [heq]
    exact ⟨fun _ => rfl, fun _ => rfl⟩

theorem handleTransactions_fst :
    (self.handleTransactions texts tryBroadcast sent txns).1.1 =
      (tryAll (setResult texts) self (pairs txns (handleReceivedTxns texts tryBroadcast sent txns
        .publicMempool self.blockSizeLimits.maxBlockSize).2)).1 := by
  unfold handleTransactions
  dsimp only
  split
  . next heq => rw [heq]
  . next heq => rw [heq]

theorem handleTransactions_isOk :
    (self.handleTransactions texts tryBroadcast sent txns).2.isOk =
      (tryAll (setResult texts) self (pairs txns (handleReceivedTxns texts tryBroadcast sent txns
        .publicMempool self.blockSizeLimits.maxBlockSize).2)).2.isOk := by
  unfold handleTransactions
  dsimp only
  split
  . next heq =>
    rw [heq]
    rfl
  . next heq =>
    rw [heq]
    rfl

end

theorem keys_pairs {txns : List T.Transaction} {response : List (Except BuildError T.TxnCommitment)}
    (h : response.length = txns.length) : (pairs txns response).map Prod.fst = txns.map T.commit := by
  apply List.map_fst_zip
  rw [List.length_map, h]

theorem forall_pairs_iff {txns : List T.Transaction}
    {response : List (Except BuildError T.TxnCommitment)} (h : response.length = txns.length)
    (self : GlobalState T Sender) :
    (∀ pair ∈ pairs txns response, (self.status pair.1).isSequenced = false) ↔
      ∀ txn ∈ txns, (self.status (T.commit txn)).isSequenced = false := by
  have hkeys := keys_pairs h
  rw [← List.forall_mem_map (f := Prod.fst) (P := fun k => (self.status k).isSequenced = false), hkeys,
    List.forall_mem_map]

variable (texts tryBroadcast) in
/--
Every transaction gets the status that follows from its own broadcast, and the submission its answer,
exactly when no transaction of the batch was sequenced before.
-/
theorem setsStatuses_iff_not_sequenced {self : GlobalState T Sender} {txns : List T.Transaction}
    (hnodup : (txns.map T.commit).Nodup) (hroom : self.txStatus.HasRoomFor (txns.map T.commit))
    (sent : List (ReceivedTransaction T)) :
    (SetsStatuses texts self (self.submitTxns texts tryBroadcast sent txns).1.1
          (pairs txns (self.submitClientTxns texts tryBroadcast sent txns).2) ∧
        (self.submitTxns texts tryBroadcast sent txns).2 =
          (self.submitClientTxns texts tryBroadcast sent txns).2.mapM id ↔
      ∀ txn ∈ txns, (self.status (T.commit txn)).isSequenced = false) ∧
    (SetsStatuses texts self (self.handleTransactions texts tryBroadcast sent txns).1.1
          (pairs txns (handleReceivedTxns texts tryBroadcast sent txns .publicMempool
            self.blockSizeLimits.maxBlockSize).2) ∧
        (self.handleTransactions texts tryBroadcast sent txns).2.isOk = true ↔
      ∀ txn ∈ txns, (self.status (T.commit txn)).isSequenced = false) := by
  constructor
  . have hlen : (handleReceivedTxns texts tryBroadcast sent txns .privateMempool
        self.blockSizeLimits.maxBlockSize).2.length = txns.length := length_handleReceivedTxns ..
    rw [submitTxns_fst, submitTxns_snd_iff, ← forall_pairs_iff hlen]
    apply setsStatuses_and_isOk_iff
    . rwa [submitClientTxns, keys_pairs hlen]
    . rwa [submitClientTxns, keys_pairs hlen]
  . have hlen : (handleReceivedTxns texts tryBroadcast sent txns .publicMempool
        self.blockSizeLimits.maxBlockSize).2.length = txns.length := length_handleReceivedTxns ..
    rw [handleTransactions_fst, handleTransactions_isOk, ← forall_pairs_iff hlen]
    apply setsStatuses_and_isOk_iff
    . rwa [keys_pairs hlen]
    . rwa [keys_pairs hlen]

def testTexts : Texts TestTypes where
  displayTrySendError _ := "sending into a full channel"
  displayBuildError error :=
    match error with
    | .notFound => "Resource not found"
    | .error message => message
  debugTransactionStatus _ := "Pending"

/--
The channel has room for two transactions.
-/
def testTryBroadcast : TryBroadcast TestTypes := fun sent tx =>
  if sent.length < 2 then .ok none else .error (.full tx)

def testBatch (txns : List Nat) : List TestTypes.Transaction := txns

def testSequenced : GlobalState TestTypes Nat :=
  ((new testConfig).setTxnStatus testTexts (TestTypes.txn 7).commit (.sequenced 1)).1

theorem setsStatuses_iff_not_sequenced_testBatch :
    SetsStatuses testTexts testSequenced
        (testSequenced.submitTxns testTexts testTryBroadcast [] (testBatch [8, 9, 10])).1.1
        (pairs (testBatch [8, 9, 10])
          (testSequenced.submitClientTxns testTexts testTryBroadcast [] (testBatch [8, 9, 10])).2) ∧
      (testSequenced.handleTransactions testTexts testTryBroadcast [] (testBatch [8, 9, 10])).2.isOk =
        true := by
  have hnodup : ((testBatch [8, 9, 10]).map TestTypes.commit).Nodup := by decide
  have hroom : testSequenced.txStatus.HasRoomFor ((testBatch [8, 9, 10]).map TestTypes.commit) := by
    decide
  have h := setsStatuses_iff_not_sequenced testTexts testTryBroadcast hnodup hroom []
  exact ⟨(h.1.mpr (by decide)).1, (h.2.mpr (by decide)).2⟩

/--
The second transaction is broadcast, but its status is never set, as the first one was sequenced
before. The event loop ends.
-/
theorem sequenced_derails :
    ((testBatch [7, 8]).map TestTypes.commit).Nodup ∧
    testSequenced.txStatus.HasRoomFor ((testBatch [7, 8]).map TestTypes.commit) ∧
    (¬ SetsStatuses testTexts testSequenced
      (testSequenced.submitTxns testTexts testTryBroadcast [] (testBatch [7, 8])).1.1
      (pairs (testBatch [7, 8])
        (testSequenced.submitClientTxns testTexts testTryBroadcast [] (testBatch [7, 8])).2)) ∧
    (testSequenced.submitTxns testTexts testTryBroadcast [] (testBatch [7, 8])).1.2.length = 2 ∧
    (testSequenced.submitTxns testTexts testTryBroadcast [] (testBatch [7, 8])).2.isOk = false ∧
    (testSequenced.handleTransactions testTexts testTryBroadcast [] (testBatch [7, 8])).2.isOk =
      false := by
  refine ⟨by decide, by decide, ?_, rfl, rfl, rfl⟩
  intro h
  have hset := h.set ((TestTypes.txn 8).commit, .ok (TestTypes.txn 8).commit) (.tail _ (.head _)) rfl
  contradiction

end GlobalState

end

end Legacy

end BuilderCore
