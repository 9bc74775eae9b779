import Prometheus.Jaeger.ApprovalLedger.Lease

/-!
# A lease that is held

`Held` says that the record a claim leased is still pending with that lease. It is left by the claim
and kept by every call made before the lease expires, unless the call completes the record with the
claim's own token; and it is all that an accepted first completion needs.
-/

namespace Prometheus.Jaeger.ApprovalLedger

open Prometheus.Codec Prometheus.Machine

variable {codec : WireCodec} {db db' : Db} {call : Call} {out : Except ConsumptionError Answer}

/-- The record `row` is pending with the lease that `claim` is about. -/
structure Held (codec : WireCodec) (networkId : Str) (claim : OutboxClaim) (row : OutboxRow)
    (db : Db) : Prop where
  stored : row ∈ db.approvalOutbox.rows
  token : row.leaseToken = some claim.leaseToken
  expiry : row.leaseExpiresAt = some claim.leaseExpiresAt
  isClaim : claim = leasedClaim codec networkId row claim.leaseToken claim.leaseExpiresAt
  revalidated : revalidateOutboxRow codec row networkId = .ok ()

/-- The call is a completion that returned and presented the approval and the token of `claim`. -/
def Presents (call : Call) (out : Except ConsumptionError Answer) (claim : OutboxClaim) : Prop :=
  ∃ outbox arguments io completion, call = .complete outbox (some arguments) io ∧
    out = .ok (.completed completion) ∧ arguments.approvalId = claim.approvalId ∧
    arguments.leaseToken = claim.leaseToken

variable {networkId : Str} {claim : OutboxClaim} {row : OutboxRow}

theorem Held.approvalId (held : Held codec networkId claim row db) :
    row.approvalId = claim.approvalId := by
  rw [held.isClaim]
  rfl

theorem Held.within_retention (held : Held codec networkId claim row db) :
    claim.leaseExpiresAt ≤ row.retentionDeadline :=
  lease_within_retention db row held.stored _ held.expiry

theorem Held.pruned (held : Held codec networkId claim row db) {now : Int}
    (unexpired : now < claim.leaseExpiresAt) : row ∈ (prunedOutbox now db).rows :=
  mem_prunedOutbox.mpr ⟨held.stored, lt_of_lt_of_le unexpired held.within_retention⟩

/-- Only the place where the record is stored matters. -/
theorem Held.of_stored (held : Held codec networkId claim row db)
    (stored : row ∈ db'.approvalOutbox.rows) : Held codec networkId claim row db' :=
  ⟨stored, held.token, held.expiry, held.isClaim, held.revalidated⟩

/-- A claim that returned a lease holds it. -/
theorem Effect.held_of_claimed {outbox : OutboxObject} {arguments : ClaimArguments}
    {leaseToken : Bytes} {io : Io}
    (effect : Effect codec db (.claim outbox (some arguments) leaseToken io) out db')
    (returned : out = .ok (.claimed (some claim))) :
    arguments.currentTime < claim.leaseExpiresAt ∧
      ∃ row, Held codec outbox.networkId claim row db' := by
  cases effect with
  | raised e => cases returned
  | unclaimed _ => cases returned
  | @leased _ _ _ _ source leaseExpiresAt _ live leased =>
    cases returned
    have later : arguments.currentTime < leaseExpiresAt := by
      rw [leased.expiry]
      exact lt_min (by omega) leased.retained
    refine ⟨later, source.withLease leaseToken leaseExpiresAt, ?_, rfl, rfl, rfl, ?_⟩
    · rw [leased.outbox]
      exact List.mem_map.mpr ⟨source, mem_prunedOutbox.mpr ⟨leased.stored, leased.retained⟩,
        if_pos rfl⟩
    · exact leased.revalidated

/-- A call made before the lease expires leaves the record leased, or completes it with the token
    of the claim. -/
theorem Effect.held (inv : OutboxInv db) (effect : Effect codec db call out db')
    (held : Held codec networkId claim row db)
    (unexpired : ∀ time, call.suppliedTime = some time → time < claim.leaseExpiresAt) :
    Held codec networkId claim row db' ∨ Presents call out claim := by
  cases effect with
  | raised e => exact .inl held
  | opened opened =>
    rcases opened.tables with untouched | ⟨ungoverned, -⟩
    · exact .inl (held.of_stored (untouched.outbox ▸ held.stored))
    · have none := held.stored
      rw [(inv.ungoverned ungoverned).1] at none
      cases none
  | consumed consumed untouched => exact .inl (held.of_stored (untouched.outbox ▸ held.stored))
  | governed consumed outbox =>
    left
    unfold OutboxEffect at outbox
    split at outbox
    · exact held.of_stored (outbox.outbox ▸ held.stored)
    · split at outbox
      · obtain ⟨wires, statementDigest, -, enqueued⟩ := outbox
        apply held.of_stored
        rw [(Table.insert_eq_some.mp enqueued.outbox).2.2]
        exact List.mem_append_left _ (held.pruned (unexpired _ rfl))
      · exact held.of_stored (outbox.outbox ▸ held.stored)
  | unclaimed governed => exact .inl (held.of_stored (held.pruned (unexpired _ rfl)))
  | @leased _ arguments leaseToken _ target leaseExpiresAt _ live leased =>
    left
    have now := unexpired arguments.currentTime rfl
    -- the target's lease is over, so it is another record
    have other : row.approvalId ≠ target.approvalId := by
      intro same
      obtain rfl := outboxRow_unique _ held.stored leased.stored same
      have expired := leased.leaseOver
      simp only [leaseOver, held.expiry, Option.all_some, decide_eq_true_eq] at expired
      omega
    apply held.of_stored
    rw [leased.outbox]
    exact List.mem_map.mpr ⟨row, held.pruned now, if_neg other⟩
  | retried retried =>
    left
    apply held.of_stored
    rw [retried.pruned]
    exact held.pruned (unexpired _ rfl)
  | @recorded outbox arguments io source expiry completion _ recorded =>
    by_cases same : row.approvalId = arguments.approvalId
    · obtain rfl := outboxRow_unique _ held.stored recorded.stored
        (same.trans recorded.approval.symm)
      have token : claim.leaseToken = arguments.leaseToken :=
        Option.some.inj (held.token.symm.trans recorded.token)
      exact .inr ⟨_, _, _, _, rfl, rfl, same.symm.trans held.approvalId, token.symm⟩
    · left
      apply held.of_stored
      rw [recorded.outbox]
      exact List.mem_filter.mpr ⟨held.pruned (unexpired _ rfl), by simpa using same⟩
  | read governed => exact .inl (held.of_stored held.stored)

/-! ## A first completion is accepted -/

theorem insertResult_returns {row : ResultRow} {results : Table resultSchema}
    (completedAt : isInteger row.completedAt = true)
    (deadline : isInteger row.retentionDeadline = true) (resolved : consumed db row.approvalId = true)
    (inserted : db.observableAnalysisResults.insert row = some results) :
    insertResult row db = .ok ((), { db with observableAnalysisResults := results }) := by
  simp only [isInteger, Bool.and_eq_true, decide_eq_true_eq] at completedAt deadline
  simp only [insertResult, Tx.bind_ok, Tx.query_ok, Tx.orRaise_ok, Tx.ensure_ok, bindInteger_ok,
    Tx.modify_ok]
  exact ⟨(), _, ⟨completedAt, rfl⟩, (), _, ⟨deadline, rfl⟩, _, _, ⟨rfl, rfl⟩, (), _,
    ⟨resolved, rfl⟩, _, _, ⟨rfl, rfl⟩, results, _, ⟨inserted, rfl⟩, rfl⟩

theorem deleteLeased_returns {leaseToken : Bytes} {now leaseExpiresAt : Int}
    (time : -2 ^ 63 ≤ now ∧ now < 2 ^ 63) (stored : row ∈ db.approvalOutbox.rows)
    (token : row.leaseToken = some leaseToken) (expiry : row.leaseExpiresAt = some leaseExpiresAt)
    (live : now < leaseExpiresAt) :
    ∃ outbox, deleteLeased row.approvalId leaseToken now db =
      .ok ((), { db with approvalOutbox := outbox }) := by
  have one : db.approvalOutbox.rows.filter (fun r => decide (r.approvalId = row.approvalId) &&
      decide (r.leaseToken = some leaseToken) && r.leaseExpiresAt.any fun t => now < t) =
        [row] := by
    apply db.approvalOutbox.filter_eq_singleton stored
    · simp [token, expiry, live]
    · intro x found
      simp only [Bool.and_eq_true, decide_eq_true_eq] at found
      simp [outboxSchema, found.1.1]
  simp only [deleteLeased, Tx.bind_ok, Tx.query_ok, Tx.ensure_ok, bindInteger_ok, Tx.modify_ok]
  exact ⟨_, (), _, ⟨time, rfl⟩, _, _, ⟨rfl, rfl⟩, (), _, rfl, by rw [one]; rfl, rfl⟩

/-- The record of an approval that has a pending one can be stored. -/
theorem OutboxInv.insert_result (inv : OutboxInv db) (stored : row ∈ db.approvalOutbox.rows)
    {now : Int} {result : ResultRow} (approval : result.approvalId = row.approvalId)
    (check : resultSchema.check result = true) :
    ∃ results, (prunedResults now db).insert result = some results := by
  have apart : ∀ x ∈ (prunedResults now db).rows, resultSchema.conflict x result = false := by
    intro x kept
    have other := inv.noResult_pruned stored x kept
    simp only [resultSchema, decide_eq_false_iff_not]
    rw [approval]
    exact other
  exact ⟨_, dif_pos ⟨check, apart⟩⟩

/-- The arguments of a completion are those of the claim. -/
structure CompletesClaim (claim : OutboxClaim) (arguments : CompleteArguments) : Prop where
  approval : arguments.approvalId = claim.approvalId
  token : arguments.leaseToken = claim.leaseToken
  identity : arguments.inputIdentity = claim.inputIdentity
  completionToken : isFixedBytes arguments.completionToken = true
  time : isTimestamp arguments.currentTime = true
  live : arguments.currentTime < claim.leaseExpiresAt

/-- The result wire is one that the claim asks for. -/
def IsResultFor (codec : WireCodec) (claim : OutboxClaim) (wire : Bytes) : Prop :=
  validateAnalysisResultWire codec wire claim.approvalId claim.inputIdentity
    (some claim.statementDigest) (some claim.observableCommitment) = true

theorem IsResultFor.shape {wire : Bytes} (valid : IsResultFor codec claim wire) :
    1 ≤ wire.length ∧ wire.length ≤ maxCanonicalAnalysisResultBytes ∧
      isFixedBytes claim.approvalId = true ∧ isFixedBytes claim.inputIdentity = true ∧
      validateAnalysisResultWire codec wire claim.approvalId claim.inputIdentity none none =
        true := by
  unfold IsResultFor validateAnalysisResultWire at valid
  cases decoded : codec.decodeAnalysisResult wire with
  | none => simp [decoded] at valid
  | some result =>
    simp only [decoded, Bool.and_eq_true, decide_eq_true_eq] at valid
    obtain ⟨⟨⟨⟨⟨⟨nonempty, short⟩, approval⟩, identity⟩, -⟩, -⟩, ⟨⟨approvalHex, identityHex⟩, -⟩, -⟩ :=
      valid
    refine ⟨nonempty, short, approval, identity, ?_⟩
    simp [validateAnalysisResultWire, decoded, nonempty, short, approval, identity, approvalHex,
      identityHex]

theorem validateOutboxRow_of_revalidated (h : revalidateOutboxRow codec row networkId = .ok ()) :
    validateOutboxRow row = true := by
  cases valid : validateOutboxRow row with
  | true => rfl
  | false =>
    rw [revalidateOutboxRow, valid] at h
    cases h

/-- The expiry and the retention of a held lease. -/
theorem Held.columns (held : Held codec networkId claim row db) :
    isFixedBytes claim.leaseToken = true ∧ 1 ≤ claim.leaseExpiresAt ∧
      row.retentionDeadline < 2 ^ 63 := by
  have checked := db.approvalOutbox.checked row held.stored
  simp only [outboxSchema, held.token, held.expiry, Option.all_some, isInteger, Bool.and_eq_true,
    decide_eq_true_eq] at checked
  obtain ⟨⟨⟨⟨⟨-, token⟩, expiry⟩, -⟩, -⟩, -, deadline⟩ := checked
  exact ⟨token, expiry, deadline⟩

theorem Held.identity (held : Held codec networkId claim row db)
    (network : validateNetworkId networkId = true) :
    analysisInputIdentity codec networkId row claim.leaseToken claim.leaseExpiresAt =
      .ok claim.inputIdentity := by
  have valid := validateOutboxRow_of_revalidated held.revalidated
  simp only [validateOutboxRow, Bool.and_eq_true, decide_eq_true_eq] at valid
  obtain ⟨token, positive, deadline⟩ := held.columns
  have within := held.within_retention
  have timestamps : isTimestamp claim.leaseExpiresAt = true ∧
      isTimestamp row.retentionDeadline = true := by
    rw [isTimestamp_iff, isTimestamp_iff]
    omega
  have conditions : validateNetworkId networkId ∧ isFixedBytes row.approvalId ∧
      isFixedBytes row.observableCommitment ∧ isFixedBytes claim.leaseToken ∧
      1 ≤ row.statementWire.length ∧ row.statementWire.length ≤ maxCanonicalV2StatementBytes ∧
      1 ≤ row.bundleWire.length ∧ row.bundleWire.length ≤ maxCanonicalBytes ∧
      isTimestamp claim.leaseExpiresAt ∧ isTimestamp row.retentionDeadline ∧
      claim.leaseExpiresAt ≤ row.retentionDeadline := by
    simp [network, valid, token, timestamps, within]
  rw [analysisInputIdentity, if_pos conditions, held.isClaim]
  rfl

/-- The digest of a result that is recorded within its retention. -/
theorem analysisResultRecordDigest_ok {wire : Bytes} {completedAt retentionDeadline : Int}
    (nonempty : 1 ≤ wire.length) (short : wire.length ≤ maxCanonicalAnalysisResultBytes)
    (time : isTimestamp completedAt = true) (retained : completedAt < retentionDeadline)
    (deadline : retentionDeadline < 2 ^ 63) :
    analysisResultRecordDigest codec wire completedAt retentionDeadline =
      .ok (codec.sha256 (resultRecordPreimage wire completedAt retentionDeadline)) := by
  have isDeadline : isTimestamp retentionDeadline = true := by
    rw [isTimestamp_iff] at time ⊢
    omega
  rw [analysisResultRecordDigest, if_pos ⟨nonempty, short, time, isDeadline, le_of_lt retained⟩]

/-- The digest of the result that a completion of `row` records. -/
def recordedDigest (codec : WireCodec) (arguments : CompleteArguments) (row : OutboxRow) : Bytes :=
  codec.sha256 (resultRecordPreimage arguments.resultWire arguments.currentTime
    row.retentionDeadline)

/-- The receipt of a completion of `row`. -/
def recordedCompletion (codec : WireCodec) (arguments : CompleteArguments) (row : OutboxRow) :
    AnalysisCompletion :=
  ⟨arguments.approvalId, recordedDigest codec arguments row, arguments.inputIdentity,
    arguments.currentTime, row.retentionDeadline⟩

/-- The row that a completion of `row` stores. -/
def recordedRow (codec : WireCodec) (arguments : CompleteArguments) (row : OutboxRow) : ResultRow :=
  arguments.resultRow codec (recordedDigest codec arguments row) row.retentionDeadline

/-- The row of a valid result meets the constraints of its table. -/
theorem CompletesClaim.checked {arguments : CompleteArguments}
    (digests : ∀ m, isFixedBytes (codec.sha256 m) = true) (completes : CompletesClaim claim arguments)
    (valid : IsResultFor codec claim arguments.resultWire)
    (retained : claim.leaseExpiresAt ≤ row.retentionDeadline)
    (deadline : row.retentionDeadline < 2 ^ 63) :
    resultSchema.check (recordedRow codec arguments row) = true := by
  obtain ⟨nonempty, -, approval, identity, -⟩ := valid.shape
  have positive := (isTimestamp_iff.mp completes.time).1
  have live := completes.live
  simp only [resultSchema, recordedRow, recordedDigest, CompleteArguments.resultRow,
    completionTokenDigest, isInteger, Bool.and_eq_true, decide_eq_true_eq, completes.approval, completes.identity, digests]
  exact ⟨⟨⟨⟨⟨⟨⟨approval, nonempty⟩, trivial⟩, identity⟩, trivial⟩, by omega⟩, by omega⟩, by omega,
    deadline⟩

/-- The transaction of a completion whose claim's lease is held. -/
theorem completeTransaction_held {outbox : OutboxObject} {arguments : CompleteArguments}
    (digests : ∀ m, isFixedBytes (codec.sha256 m) = true) (inv : OutboxInv db)
    (held : Held codec outbox.networkId claim row db) (completes : CompletesClaim claim arguments)
    (valid : IsResultFor codec claim arguments.resultWire) :
    ∃ db', completeTransaction codec outbox.networkId arguments db =
        .ok (recordedCompletion codec arguments row, db') ∧
      recordedRow codec arguments row ∈ db'.observableAnalysisResults.rows := by
  obtain ⟨nonempty, short, -⟩ := valid.shape
  obtain ⟨token, -, deadline⟩ := held.columns
  have within := held.within_retention
  have live := completes.live
  have retained : arguments.currentTime < row.retentionDeadline := lt_of_lt_of_le live within
  have positive := (isTimestamp_iff.mp completes.time).1
  have bounds : -2 ^ 63 ≤ arguments.currentTime ∧ arguments.currentTime < 2 ^ 63 := by omega
  have sameApproval : row.approvalId = arguments.approvalId :=
    held.approvalId.trans completes.approval.symm
  have governed : db.version = .governed := by
    by_contra ungoverned
    have none := held.stored
    rw [(inv.ungoverned ungoverned).1] at none
    cases none
  -- what the statements of the transaction find
  have pending : row ∈ (db.pruned arguments.currentTime).approvalOutbox.rows := held.pruned live
  have found : (db.pruned arguments.currentTime).approvalOutbox.select
      (fun r => r.approvalId = arguments.approvalId) = some row := by
    refine (Table.select_eq_some _ ?_).mpr ⟨pending, by simpa using sameApproval⟩
    intro a b isA isB
    simp only [decide_eq_true_eq] at isA isB
    simp [outboxSchema, isA, isB]
  have lease : liveLease row arguments.leaseToken arguments.currentTime =
      some claim.leaseExpiresAt := by
    rw [liveLease_eq_some, completes.token]
    exact ⟨held.token, held.expiry, token, live⟩
  have expected : analysisInputIdentity codec outbox.networkId row arguments.leaseToken
      claim.leaseExpiresAt = .ok claim.inputIdentity := by
    rw [completes.token]
    exact held.identity outbox.valid
  have wire : validateAnalysisResultWire codec arguments.resultWire arguments.approvalId
      arguments.inputIdentity (some row.statementDigest) (some row.observableCommitment) = true := by
    have isResult := valid
    rw [IsResultFor, held.isClaim] at isResult
    rw [completes.approval, completes.identity, held.isClaim]
    exact isResult
  have digest : analysisResultRecordDigest codec arguments.resultWire arguments.currentTime
      row.retentionDeadline = .ok (recordedDigest codec arguments row) :=
    analysisResultRecordDigest_ok nonempty short completes.time retained deadline
  -- what they write
  have checked := completes.checked digests valid within deadline
  obtain ⟨results, inserted⟩ : ∃ results,
      (db.pruned arguments.currentTime).observableAnalysisResults.insert
        (recordedRow codec arguments row) = some results :=
    inv.insert_result held.stored sameApproval.symm checked
  have resolved : consumed (db.pruned arguments.currentTime) arguments.approvalId = true := by
    rw [← sameApproval]
    exact isConsumed_iff.mpr (inv.pending row held.stored)
  have isTime : isInteger arguments.currentTime = true := by
    simp only [isInteger, Bool.and_eq_true, decide_eq_true_eq]
    exact bounds
  have isDeadline : isInteger row.retentionDeadline = true := by
    simp only [isInteger, Bool.and_eq_true, decide_eq_true_eq]
    omega
  have isInserted := insertResult_returns isTime isDeadline resolved inserted
  obtain ⟨rest, deleted⟩ := deleteLeased_returns bounds
    (show row ∈ ({ db.pruned arguments.currentTime with
      observableAnalysisResults := results } : Db).approvalOutbox.rows from pending)
    (completes.token ▸ held.token) held.expiry live
  rw [sameApproval] at deleted
  refine ⟨{ db.pruned arguments.currentTime with
    observableAnalysisResults := results, approvalOutbox := rest },
    prologue_ok.mpr ⟨governed, bounds, ?_⟩, ?_⟩
  · rw [Tx.bind_ok]
    refine ⟨some row, _, Tx.query_ok.mpr ⟨found.symm, rfl⟩, ?_⟩
    simp only [firstCompletion, Tx.bind_ok, Tx.ensure_ok, Tx.lift_ok, Tx.orRaise_ok, Tx.pure_ok,
      decide_eq_true_eq]
    exact ⟨(), _, ⟨validateOutboxRow_of_revalidated held.revalidated, rfl⟩, (), _,
      ⟨held.revalidated, rfl⟩, _, _, ⟨lease, rfl⟩, _, _, ⟨expected, rfl⟩, (), _,
      ⟨completes.identity.symm, rfl⟩, (), _, ⟨wire, rfl⟩, _, _, ⟨digest, rfl⟩, (), _, isInserted, (),
      _, deleted, rfl, rfl⟩
  · rw [(Table.insert_eq_some.mp inserted).2.2]
    exact List.mem_append_right _ (List.mem_singleton_self _)

/-- While the lease is held, the completion of its claim with a valid result is accepted. -/
theorem complete_held {outbox : OutboxObject} {arguments : CompleteArguments}
    (digests : ∀ m, isFixedBytes (codec.sha256 m) = true) (inv : OutboxInv db)
    (held : Held codec outbox.networkId claim row db) (completes : CompletesClaim claim arguments)
    (valid : IsResultFor codec claim arguments.resultWire) :
    ∃ db', complete codec outbox (some arguments) .none db =
        (.ok (recordedCompletion codec arguments row), db') ∧
      recordedRow codec arguments row ∈ db'.observableAnalysisResults.rows := by
  obtain ⟨-, -, approval, identity, shape⟩ := valid.shape
  obtain ⟨token, -, -⟩ := held.columns
  obtain ⟨db', returned, stored⟩ := completeTransaction_held digests inv held completes valid
  refine ⟨db', ?_, stored⟩
  have checks : isFixedBytes arguments.approvalId ∧ isFixedBytes arguments.leaseToken ∧
      isFixedBytes arguments.completionToken ∧ isFixedBytes arguments.inputIdentity ∧
      isTimestamp arguments.currentTime ∧
      validateAnalysisResultWire codec arguments.resultWire arguments.approvalId
        arguments.inputIdentity none none := by
    rw [completes.approval, completes.token, completes.identity]
    exact ⟨approval, token, completes.completionToken, identity, completes.time, shape⟩
  rw [complete, if_pos checks]
  have isTransact : transactIo none (completeTransaction codec outbox.networkId arguments) db =
      (.ok (recordedCompletion codec arguments row), db') := transactIo_ok.mpr ⟨rfl, returned⟩
  show runTransaction none _ _ db = _
  rw [runTransaction, isTransact]
  rfl

end Prometheus.Jaeger.ApprovalLedger
