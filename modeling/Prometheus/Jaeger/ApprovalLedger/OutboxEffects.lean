import Prometheus.Jaeger.ApprovalLedger.Effects

/-!
# What the outbox calls do to the file

The inversion lemmas of `claim`, `complete`, `result` and of opening a ledger, and `step_cases`,
which collects those of all calls.
-/

namespace Prometheus.Jaeger.ApprovalLedger

open Prometheus.Codec Prometheus.Machine

variable {codec : WireCodec} {db db' : Db}

/-- The outbox and the results changed at most; every other table is as it was. -/
def OutboxFrame (db db' : Db) : Prop :=
  db' = { db with
    approvalOutbox := db'.approvalOutbox
    observableAnalysisResults := db'.observableAnalysisResults }

theorem requireGoverned_ok {u : Unit} :
    requireGoverned db = .ok (u, db') ↔ db.version = .governed ∧ db' = db := by
  simp only [requireGoverned, Tx.bind_ok, Tx.query_ok, Tx.ensure_ok, beq_iff_eq]
  constructor
  · rintro ⟨_, _, ⟨rfl, rfl⟩, governed, rfl⟩
    exact ⟨governed, rfl⟩
  · rintro ⟨governed, rfl⟩
    exact ⟨_, _, ⟨rfl, rfl⟩, governed, rfl⟩

/-- The file after both retention cleanups. -/
def Db.pruned (now : Int) (db : Db) : Db :=
  { db with
    approvalOutbox := prunedOutbox now db
    observableAnalysisResults := prunedResults now db }

/-- The statements with which `claim` and `complete` start. -/
theorem prologue_ok {α : Type} {now : Int} {rest : Unit → LedgerTx α} {a : α} :
    (do requireGoverned; pruneOutbox now; pruneResults now >>= rest : LedgerTx α) db =
      .ok (a, db') ↔
    db.version = .governed ∧ (-2 ^ 63 ≤ now ∧ now < 2 ^ 63) ∧
      rest () (db.pruned now) = .ok (a, db') := by
  simp only [Tx.bind_ok, requireGoverned_ok, pruneOutbox_ok, pruneResults_ok]
  constructor
  · rintro ⟨_, _, ⟨governed, rfl⟩, _, _, ⟨bounds, rfl⟩, _, _, ⟨-, rfl⟩, h⟩
    exact ⟨governed, bounds, h⟩
  · rintro ⟨governed, bounds, h⟩
    exact ⟨(), _, ⟨governed, rfl⟩, (), _, ⟨bounds, rfl⟩, (), _, ⟨bounds, rfl⟩, h⟩

/-! ## Claims -/

theorem oldest_mem {rows : List OutboxRow} {row : OutboxRow} (h : oldest rows = some row) :
    row ∈ rows := by
  induction rows generalizing row with
  | nil => simp [oldest] at h
  | cons first rest ih =>
    cases found : oldest rest with
    | none =>
      simp only [oldest, found, Option.some.injEq] at h
      exact h ▸ List.mem_cons_self
    | some other =>
      simp only [oldest, found] at h
      split at h
      · obtain rfl := Option.some.inj h
        exact List.mem_cons_of_mem _ (ih found)
      · obtain rfl := Option.some.inj h
        exact List.mem_cons_self

/-- A claim that returned a lease of `row` until `leaseExpiresAt`. -/
structure Leased (codec : WireCodec) (networkId : Str) (currentTime leaseEnd : Int)
    (leaseToken : Bytes) (row : OutboxRow) (leaseExpiresAt : Int) (db db' : Db) : Prop where
  governed : db.version = .governed
  stored : row ∈ db.approvalOutbox.rows
  retained : currentTime < row.retentionDeadline
  leaseOver : leaseOver currentTime row = true
  valid : validateOutboxRow row = true
  revalidated : revalidateOutboxRow codec row networkId = .ok ()
  expiry : leaseExpiresAt = min leaseEnd row.retentionDeadline
  outbox : db'.approvalOutbox.rows = (prunedOutbox currentTime db).rows.map fun r =>
    if r.approvalId = row.approvalId then r.withLease leaseToken leaseExpiresAt else r
  results : db'.observableAnalysisResults = prunedResults currentTime db
  frame : OutboxFrame db db'

theorem writeLease_ok {approvalId leaseToken : Bytes} {leaseExpiresAt now : Int} {u : Unit}
    (h : writeLease approvalId leaseToken leaseExpiresAt now db = .ok (u, db')) :
    (db'.approvalOutbox.rows = db.approvalOutbox.rows.map fun r =>
      if r.approvalId = approvalId && leaseOver now r then r.withLease leaseToken leaseExpiresAt
      else r) ∧ db' = { db with approvalOutbox := db'.approvalOutbox } := by
  simp only [writeLease, Tx.bind_ok, Tx.query_ok, Tx.orRaise_ok, Tx.ensure_ok, bindInteger_ok,
    Tx.modify_ok] at h
  obtain ⟨_, _, ⟨-, rfl⟩, _, _, ⟨-, rfl⟩, _, _, ⟨rfl, rfl⟩, outbox', _, ⟨updated, rfl⟩, _, _, rfl,
    -, rfl⟩ := h
  exact ⟨by simpa using Table.update_eq_some updated, rfl⟩

/-- Two stored records of one approval are the same record. -/
theorem outboxRow_unique (t : Table outboxSchema) {a b : OutboxRow} (ha : a ∈ t.rows)
    (hb : b ∈ t.rows) (same : a.approvalId = b.approvalId) : a = b :=
  t.eq_of_conflict ha hb (by simpa [outboxSchema] using same)

theorem mem_prunedOutbox {now : Int} {row : OutboxRow} :
    row ∈ (prunedOutbox now db).rows ↔ row ∈ db.approvalOutbox.rows ∧ now < row.retentionDeadline := by
  simp [prunedOutbox]

theorem mem_prunedResults {now : Int} {row : ResultRow} :
    row ∈ (prunedResults now db).rows ↔
      row ∈ db.observableAnalysisResults.rows ∧ now < row.retentionDeadline := by
  simp [prunedResults]

theorem claimTransaction_ok {networkId : Str} {currentTime leaseEnd : Int} {leaseToken : Bytes}
    {leased : Option (OutboxRow × Int)}
    (h : claimTransaction codec networkId currentTime leaseEnd leaseToken db = .ok (leased, db')) :
    (leased = none ∧ db.version = .governed ∧ db' = db.pruned currentTime) ∨
    ∃ row leaseExpiresAt, leased = some (row, leaseExpiresAt) ∧
      Leased codec networkId currentTime leaseEnd leaseToken row leaseExpiresAt db db' := by
  obtain ⟨governed, -, h⟩ := prologue_ok.mp h
  rw [Tx.bind_ok] at h
  obtain ⟨selected, _, queried, rest⟩ := h
  obtain ⟨isSelected, rfl⟩ := Tx.query_ok.mp queried
  cases selected with
  | none =>
    obtain ⟨rfl, rfl⟩ := Tx.pure_ok.mp rest
    exact .inl ⟨rfl, governed, rfl⟩
  | some row =>
    simp only [Tx.bind_ok, Tx.ensure_ok, Tx.lift_ok, Tx.pure_ok] at rest
    obtain ⟨_, _, ⟨valid, rfl⟩, _, _, ⟨revalidated, rfl⟩, _, db₁, written, rfl, rfl⟩ := rest
    obtain ⟨rows, frame⟩ := writeLease_ok written
    have selected : row ∈ (prunedOutbox currentTime db).rows ∧ eligible currentTime row = true :=
      List.mem_filter.mp (oldest_mem isSelected.symm)
    obtain ⟨stored, retained⟩ := mem_prunedOutbox.mp selected.1
    have expired : leaseOver currentTime row = true := by
      have := selected.2
      simp only [eligible, Bool.and_eq_true] at this
      exact this.2
    have rowsEq : db'.approvalOutbox.rows = (prunedOutbox currentTime db).rows.map fun r =>
        if r.approvalId = row.approvalId then
          r.withLease leaseToken (min leaseEnd row.retentionDeadline)
        else r := by
      rw [rows]
      refine List.map_congr_left fun r hr => ?_
      by_cases same : r.approvalId = row.approvalId
      · simp [outboxRow_unique _ hr selected.1 same, expired]
      · simp [same]
    refine .inr ⟨row, _, rfl, governed, stored, retained, expired, valid, revalidated, rfl, rowsEq,
      ?_, ?_⟩
    · rw [frame]; rfl
    · rw [OutboxFrame, frame]; rfl

/-- The claim object of a leased record. -/
def leasedClaim (codec : WireCodec) (networkId : Str) (row : OutboxRow) (leaseToken : Bytes)
    (leaseExpiresAt : Int) : OutboxClaim :=
  ⟨row.approvalId, row.observableCommitment, row.bundleWire, row.statementWire,
    row.statementDigest, row.reportNonce, leaseToken, leaseExpiresAt,
    codec.sha256 (analysisInputPreimage networkId row leaseToken leaseExpiresAt)⟩

/-- The claim object built after the commit: every check of its digest has been made before. -/
theorem buildOutboxClaim_leased {networkId : Str} {currentTime leaseEnd : Int} {leaseToken : Bytes}
    {row : OutboxRow} {leaseExpiresAt : Int} (network : validateNetworkId networkId = true)
    (time : isTimestamp currentTime = true)
    (h : Leased codec networkId currentTime leaseEnd leaseToken row leaseExpiresAt db db') :
    buildOutboxClaim codec networkId row leaseToken leaseExpiresAt =
      .ok (leasedClaim codec networkId row leaseToken leaseExpiresAt) := by
  have leased : row.withLease leaseToken leaseExpiresAt ∈ db'.approvalOutbox.rows := by
    rw [h.outbox]
    exact List.mem_map.mpr ⟨row, mem_prunedOutbox.mpr ⟨h.stored, h.retained⟩, by simp⟩
  have checked := db'.approvalOutbox.checked _ leased
  simp only [outboxSchema, OutboxRow.withLease, Option.all_some, isInteger, Bool.and_eq_true,
    decide_eq_true_eq] at checked
  have valid := h.valid
  simp only [validateOutboxRow, Bool.and_eq_true, decide_eq_true_eq] at valid
  have expiry := h.expiry
  have retained := h.retained
  rw [isTimestamp_iff] at time
  have timestamps : isTimestamp leaseExpiresAt = true ∧ isTimestamp row.retentionDeadline = true := by
    rw [isTimestamp_iff, isTimestamp_iff]
    omega
  simp [buildOutboxClaim, analysisInputIdentity, leasedClaim, network, timestamps, valid, checked]

/-! ## Completions -/

/-- A completion that found no pending record and returned the stored receipt. -/
structure Retried (codec : WireCodec) (arguments : CompleteArguments) (row : ResultRow)
    (completion : AnalysisCompletion) (db db' : Db) : Prop where
  governed : db.version = .governed
  absent : ∀ r ∈ (prunedOutbox arguments.currentTime db).rows, r.approvalId ≠ arguments.approvalId
  stored : row ∈ db.observableAnalysisResults.rows
  retained : arguments.currentTime < row.retentionDeadline
  approval : row.approvalId = arguments.approvalId
  wire : row.resultWire = arguments.resultWire
  identity : row.inputIdentity = arguments.inputIdentity
  tokens : row.completionTokenDigest =
    completionTokenDigest codec arguments.completionToken arguments.leaseToken
  valid : validateCompletionRetryRow codec row arguments.approvalId = .ok ()
  completion : completion = ⟨arguments.approvalId, row.resultDigest, arguments.inputIdentity,
    row.completedAt, row.retentionDeadline⟩
  pruned : db' = db.pruned arguments.currentTime

/-- A completion that stored its result and removed the leased record `row`. -/
structure Recorded (codec : WireCodec) (networkId : Str) (arguments : CompleteArguments)
    (row : OutboxRow) (leaseExpiresAt : Int) (completion : AnalysisCompletion) (db db' : Db) :
    Prop where
  governed : db.version = .governed
  stored : row ∈ db.approvalOutbox.rows
  retained : arguments.currentTime < row.retentionDeadline
  approval : row.approvalId = arguments.approvalId
  revalidated : revalidateOutboxRow codec row networkId = .ok ()
  token : row.leaseToken = some arguments.leaseToken
  expiry : row.leaseExpiresAt = some leaseExpiresAt
  live : arguments.currentTime < leaseExpiresAt
  identity : analysisInputIdentity codec networkId row arguments.leaseToken leaseExpiresAt =
    .ok arguments.inputIdentity
  wire : validateAnalysisResultWire codec arguments.resultWire arguments.approvalId
    arguments.inputIdentity (some row.statementDigest) (some row.observableCommitment) = true
  digest : analysisResultRecordDigest codec arguments.resultWire arguments.currentTime
    row.retentionDeadline = .ok completion.resultDigest
  consumed : consumed db arguments.approvalId = true
  inserted : (prunedResults arguments.currentTime db).insert
    (arguments.resultRow codec completion.resultDigest row.retentionDeadline) =
      some db'.observableAnalysisResults
  outbox : db'.approvalOutbox.rows = (prunedOutbox arguments.currentTime db).rows.filter fun r =>
    r.approvalId ≠ arguments.approvalId
  completion : completion = ⟨arguments.approvalId, completion.resultDigest,
    arguments.inputIdentity, arguments.currentTime, row.retentionDeadline⟩
  frame : OutboxFrame db db'

theorem retryCompletion_ok {arguments : CompleteArguments} {completion : AnalysisCompletion}
    (h : retryCompletion codec arguments db = .ok (completion, db')) :
    db' = db ∧ ∃ row ∈ db.observableAnalysisResults.rows, row.approvalId = arguments.approvalId ∧
      row.resultWire = arguments.resultWire ∧ row.inputIdentity = arguments.inputIdentity ∧
      row.completionTokenDigest =
        completionTokenDigest codec arguments.completionToken arguments.leaseToken ∧
      validateCompletionRetryRow codec row arguments.approvalId = .ok () ∧
      completion = ⟨arguments.approvalId, row.resultDigest, arguments.inputIdentity,
        row.completedAt, row.retentionDeadline⟩ := by
  simp only [retryCompletion, Tx.bind_ok, Tx.query_ok, Tx.orRaise_ok, Tx.lift_ok, Tx.ensure_ok,
    Tx.pure_ok, Bool.and_eq_true, decide_eq_true_eq] at h
  obtain ⟨_, _, ⟨rfl, rfl⟩, row, _, ⟨selected, rfl⟩, _, _, ⟨valid, rfl⟩, _, _,
    ⟨⟨⟨wire, identity⟩, tokens⟩, rfl⟩, rfl, rfl⟩ := h
  obtain ⟨stored, approval⟩ := Table.select_some selected
  exact ⟨rfl, row, stored, by simpa using approval, wire, identity, tokens, valid, rfl⟩

theorem liveLease_eq_some {row : OutboxRow} {leaseToken : Bytes} {now leaseExpiresAt : Int} :
    liveLease row leaseToken now = some leaseExpiresAt ↔
      row.leaseToken = some leaseToken ∧ row.leaseExpiresAt = some leaseExpiresAt ∧
        isFixedBytes leaseToken = true ∧ now < leaseExpiresAt := by
  unfold liveLease
  split
  · rename_i storedLeaseToken stored tokenEq expiryEq
    rw [tokenEq, expiryEq]
    constructor
    · intro h
      split at h
      · rename_i checks
        obtain rfl := Option.some.inj h
        obtain ⟨fixed, live, rfl⟩ := checks
        exact ⟨rfl, rfl, fixed, live⟩
      · cases h
    · rintro ⟨tokens, expiries, fixed, live⟩
      obtain rfl := Option.some.inj tokens
      obtain rfl := Option.some.inj expiries
      simp [fixed, live]
  · rename_i unleased
    constructor
    · intro h; cases h
    · rintro ⟨tokens, expiries, -⟩
      exact absurd expiries (unleased _ _ tokens)

theorem insertResult_ok {row : ResultRow} {u : Unit}
    (h : insertResult row db = .ok (u, db')) :
    consumed db row.approvalId = true ∧
      db.observableAnalysisResults.insert row = some db'.observableAnalysisResults ∧
      db' = { db with observableAnalysisResults := db'.observableAnalysisResults } := by
  simp only [insertResult, Tx.bind_ok, Tx.query_ok, Tx.orRaise_ok, Tx.ensure_ok, bindInteger_ok,
    Tx.modify_ok] at h
  obtain ⟨_, _, ⟨-, rfl⟩, _, _, ⟨-, rfl⟩, _, _, ⟨rfl, rfl⟩, _, _, ⟨resolved, rfl⟩, _, _,
    ⟨rfl, rfl⟩, _, _, ⟨inserted, rfl⟩, rfl⟩ := h
  exact ⟨resolved, inserted, rfl⟩

theorem deleteLeased_ok {approvalId leaseToken : Bytes} {now : Int} {u : Unit}
    (h : deleteLeased approvalId leaseToken now db = .ok (u, db')) :
    (db'.approvalOutbox.rows = db.approvalOutbox.rows.filter fun r =>
      !(decide (r.approvalId = approvalId) && decide (r.leaseToken = some leaseToken) &&
        r.leaseExpiresAt.any fun t => now < t)) ∧
      db' = { db with approvalOutbox := db'.approvalOutbox } := by
  simp only [deleteLeased, Tx.bind_ok, Tx.query_ok, Tx.ensure_ok, bindInteger_ok,
    Tx.modify_ok] at h
  obtain ⟨_, _, ⟨-, rfl⟩, _, _, ⟨rfl, rfl⟩, _, _, rfl, -, rfl⟩ := h
  exact ⟨rfl, rfl⟩

theorem completeTransaction_ok {networkId : Str} {arguments : CompleteArguments}
    {completion : AnalysisCompletion}
    (h : completeTransaction codec networkId arguments db = .ok (completion, db')) :
    (∃ row, Retried codec arguments row completion db db') ∨
      ∃ row leaseExpiresAt,
        Recorded codec networkId arguments row leaseExpiresAt completion db db' := by
  obtain ⟨governed, -, h⟩ := prologue_ok.mp h
  rw [Tx.bind_ok] at h
  obtain ⟨selected, _, queried, rest⟩ := h
  obtain ⟨isSelected, rfl⟩ := Tx.query_ok.mp queried
  cases selected with
  | none =>
    have absent := Table.select_none.mp isSelected.symm
    obtain ⟨unchanged, row, stored, approval, wire, identity, tokens, valid, isCompletion⟩ :=
      retryCompletion_ok rest
    obtain ⟨stored, retained⟩ := mem_prunedResults.mp stored
    exact .inl ⟨row, governed, fun r hr => by simpa using absent r hr, stored, retained,
      approval, wire, identity, tokens, valid, isCompletion, unchanged⟩
  | some row =>
    obtain ⟨stored, approval⟩ := Table.select_some isSelected.symm
    have approval : row.approvalId = arguments.approvalId := by simpa using approval
    simp only [firstCompletion, Tx.bind_ok, Tx.ensure_ok, Tx.lift_ok, Tx.orRaise_ok, Tx.pure_ok,
      decide_eq_true_eq] at rest
    obtain ⟨_, _, ⟨-, rfl⟩, _, _, ⟨revalidated, rfl⟩, leaseExpiresAt, _, ⟨lease, rfl⟩,
      expectedIdentity, _, ⟨identity, rfl⟩, _, _, ⟨rfl, rfl⟩, _, _, ⟨wire, rfl⟩, resultDigest, _,
      ⟨digest, rfl⟩, _, db₁, insertedTx, _, db₂, deletedTx, isCompletion, rfl⟩ := rest
    obtain ⟨leaseToken, expiry, -, live⟩ := liveLease_eq_some.mp lease
    obtain ⟨resolved, inserted, frame₁⟩ := insertResult_ok insertedTx
    obtain ⟨deleted, frame₂⟩ := deleteLeased_ok deletedTx
    rw [frame₁] at deleted frame₂
    obtain ⟨stored', retained⟩ := mem_prunedOutbox.mp stored
    subst isCompletion
    refine .inr ⟨row, leaseExpiresAt, governed, stored', retained, approval, revalidated,
      leaseToken, expiry, live, identity, wire, digest, resolved, ?_, ?_, rfl, ?_⟩
    · rw [frame₂]; exact inserted
    · rw [deleted]
      refine List.filter_congr fun r hr => ?_
      by_cases same : r.approvalId = arguments.approvalId
      · have := outboxRow_unique _ hr stored (same.trans approval.symm)
        simp [this, approval, leaseToken, expiry, live]
      · simp [same]
    · rw [OutboxFrame, frame₂]; rfl

/-! ## All calls -/

/-- What opening the file may change. -/
structure Opened (db db' : Db) : Prop where
  consumptions : db'.approvalConsumptions = db.approvalConsumptions
  authority : db'.authorityState = db.authorityState
  clock : db'.ledgerState = db.ledgerState ∨ db'.ledgerState = some (db.ledgerState.getD 0)
  tables : OutboxUntouched db db' ∨ db.version ≠ .governed ∧ db'.approvalOutbox = .empty ∧
    db'.observableAnalysisResults = .empty ∧ db'.threatHintV2Pairings = .empty
  version : db.version = .governed → db'.version = .governed

theorem initializeSchema_opened {ledger : LedgerObject}
    (h : initializeSchema ledger db = some db') : Opened db db' := by
  unfold initializeSchema at h
  split at h
  case h_1 _ version =>
    obtain rfl := Option.some.inj h
    exact ⟨rfl, rfl, .inr rfl, .inl ⟨rfl, rfl, rfl⟩, by simp [version]⟩
  case h_2 =>
    obtain rfl := Option.some.inj h
    exact ⟨rfl, rfl, .inl rfl, .inl ⟨rfl, rfl, rfl⟩, id⟩
  case h_3 => cases h
  case h_4 _ version =>
    split at h
    · cases h
    · obtain rfl := Option.some.inj h
      exact ⟨rfl, rfl, .inr rfl, .inr ⟨by simp [version], rfl, rfl, rfl⟩, fun _ => rfl⟩
  case h_5 _ version =>
    split at h
    · cases h
    · obtain rfl := Option.some.inj h
      exact ⟨rfl, rfl, .inl rfl, .inr ⟨by simp [version], rfl, rfl, rfl⟩, fun _ => rfl⟩
  case h_6 _ version =>
    obtain rfl := Option.some.inj h
    exact ⟨rfl, rfl, .inl rfl, .inr ⟨by simp [version], rfl, rfl, rfl⟩, fun _ => rfl⟩
  case h_7 _ version =>
    split at h
    · obtain rfl := Option.some.inj h
      exact ⟨rfl, rfl, .inl rfl, .inr ⟨by simp [version], rfl, rfl, rfl⟩, fun _ => rfl⟩
    · cases h
  case h_8 _ version =>
    split at h
    · obtain rfl := Option.some.inj h
      exact ⟨rfl, rfl, .inl rfl, .inr ⟨by simp [version], rfl, rfl, rfl⟩, fun _ => rfl⟩
    · cases h
  case h_9 =>
    obtain rfl := Option.some.inj h
    exact ⟨rfl, rfl, .inl rfl, .inl ⟨rfl, rfl, rfl⟩, id⟩
  case h_10 => cases h

/-- What one call can do to the file, and what it answers then. -/
inductive Effect (codec : WireCodec) (db : Db) : Call → Except ConsumptionError Answer → Db → Prop
  | raised {call : Call} (e : ConsumptionError) : Effect codec db call (.error e) db
  | opened {ledger : LedgerObject} {io : Io} {db' : Db} (opened : Opened db db') :
      Effect codec db (.openLedger ledger io) (.ok .opened) db'
  | consumed {ledger : LedgerObject} {verified : VerifiedApproval} {consumedAt : Int} {io : Io}
      {db' : Db} (consumed : Consumed verified consumedAt none db db')
      (untouched : OutboxUntouched db db') :
      Effect codec db (.consume ledger (some verified) (some consumedAt) io)
        (.ok (.receipt ⟨verified.approvalId, verified.observableCommitment, consumedAt⟩)) db'
  | governed {ledger : LedgerObject} {verified : VerifiedApproval} {consumedAt : Int}
      {arguments : OutboxArguments} {io : Io} {db' : Db}
      (consumed : Consumed verified consumedAt ledger.governance db db')
      (outbox : OutboxEffect codec ledger verified consumedAt ledger.governance arguments db db') :
      Effect codec db
        (.consumeGoverned ledger (some verified) (some consumedAt) ledger.governance arguments io)
        (.ok (.receipt ⟨verified.approvalId, verified.observableCommitment, consumedAt⟩)) db'
  | unclaimed {outbox : OutboxObject} {arguments : ClaimArguments} {leaseToken : Bytes} {io : Io}
      (governed : db.version = .governed) :
      Effect codec db (.claim outbox (some arguments) leaseToken io) (.ok (.claimed none))
        (db.pruned arguments.currentTime)
  | leased {outbox : OutboxObject} {arguments : ClaimArguments} {leaseToken : Bytes} {io : Io}
      {row : OutboxRow} {leaseExpiresAt : Int} {db' : Db} (live : 1 ≤ arguments.leaseSeconds)
      (leased : Leased codec outbox.networkId arguments.currentTime
        (arguments.currentTime + arguments.leaseSeconds) leaseToken row leaseExpiresAt db db') :
      Effect codec db (.claim outbox (some arguments) leaseToken io)
        (.ok (.claimed (some (leasedClaim codec outbox.networkId row leaseToken leaseExpiresAt))))
        db'
  | retried {outbox : OutboxObject} {arguments : CompleteArguments} {io : Io} {row : ResultRow}
      {completion : AnalysisCompletion} {db' : Db}
      (retried : Retried codec arguments row completion db db') :
      Effect codec db (.complete outbox (some arguments) io) (.ok (.completed completion)) db'
  | recorded {outbox : OutboxObject} {arguments : CompleteArguments} {io : Io} {row : OutboxRow}
      {leaseExpiresAt : Int} {completion : AnalysisCompletion} {db' : Db}
      (recorded : Recorded codec outbox.networkId arguments row leaseExpiresAt completion db db') :
      Effect codec db (.complete outbox (some arguments) io) (.ok (.completed completion)) db'
  | read {arguments : ResultArguments} {io : Io} {stored : Option AnalysisStoredResult}
      (governed : db.version = .governed) :
      Effect codec db (.result (some arguments) io) (.ok (.stored stored))
        { db with observableAnalysisResults := prunedResults arguments.currentTime db }

theorem openLedger_effect (ledger : LedgerObject) (io : Io) :
    Effect codec db (.openLedger ledger io) (step codec (.openLedger ledger io) db).1
      (step codec (.openLedger ledger io) db).2 := by
  simp only [step, answer, openLedger]
  split
  · exact .raised _
  · split
    · rename_i initialized
      exact .opened (initializeSchema_opened initialized)
    · exact .raised _

theorem claim_effect (outbox : OutboxObject) (arguments : Option ClaimArguments)
    (leaseToken : Bytes) (io : Io) :
    Effect codec db (.claim outbox arguments leaseToken io)
      (step codec (.claim outbox arguments leaseToken io) db).1
      (step codec (.claim outbox arguments leaseToken io) db).2 := by
  simp only [step, answer, claim]
  split
  · exact .raised _
  rename_i currentTime leaseSeconds
  split
  · rename_i checks
    rcases outcome : runTransaction io.transaction (claimTransaction codec outbox.networkId
      currentTime (currentTime + leaseSeconds) leaseToken) raiseOutboxError db with ⟨out, db'⟩
    rcases runTransaction_cases outcome with ⟨e, rfl, rfl⟩ | ⟨leased, rfl, returned⟩
    · exact .raised _
    · rcases claimTransaction_ok returned with
        ⟨rfl, governed, rfl⟩ | ⟨row, leaseExpiresAt, rfl, leased⟩
      · exact .unclaimed governed
      · simp only [buildOutboxClaim_leased outbox.valid checks.1 leased]
        exact .leased checks.2.1 leased
  · exact .raised _

theorem complete_effect (outbox : OutboxObject) (arguments : Option CompleteArguments) (io : Io) :
    Effect codec db (.complete outbox arguments io) (step codec (.complete outbox arguments io) db).1
      (step codec (.complete outbox arguments io) db).2 := by
  simp only [step, answer, complete]
  split
  · exact .raised _
  rename_i arguments
  split
  · rcases outcome : runTransaction io.transaction
      (completeTransaction codec outbox.networkId arguments) raiseOutboxError db with ⟨out, db'⟩
    rcases runTransaction_cases outcome with ⟨e, rfl, rfl⟩ | ⟨completion, rfl, returned⟩
    · exact .raised _
    · rcases completeTransaction_ok returned with ⟨row, retried⟩ | ⟨row, expiry, recorded⟩
      · exact .retried retried
      · exact .recorded recorded
  · exact .raised _

theorem resultTransaction_ok {approvalId : Bytes} {currentTime : Int}
    {stored : Option AnalysisStoredResult}
    (h : resultTransaction codec approvalId currentTime db = .ok (stored, db')) :
    db.version = .governed ∧
      db' = { db with observableAnalysisResults := prunedResults currentTime db } := by
  simp only [resultTransaction, Tx.bind_ok, requireGoverned_ok, pruneResults_ok] at h
  obtain ⟨_, _, ⟨governed, rfl⟩, _, _, ⟨-, rfl⟩, selected, _, queried, rest⟩ := h
  obtain ⟨-, rfl⟩ := Tx.query_ok.mp queried
  refine ⟨governed, ?_⟩
  cases selected with
  | none => exact (Tx.pure_ok.mp rest).2
  | some row =>
    simp only [Tx.bind_ok, Tx.ensure_ok, Tx.lift_ok, Tx.pure_ok] at rest
    obtain ⟨_, _, ⟨-, rfl⟩, _, _, ⟨-, rfl⟩, _, _, ⟨-, rfl⟩, -, rfl⟩ := rest
    rfl

theorem result_effect (arguments : Option ResultArguments) (io : Io) :
    Effect codec db (.result arguments io) (step codec (.result arguments io) db).1
      (step codec (.result arguments io) db).2 := by
  simp only [step, answer, result]
  split
  · exact .raised _
  rename_i approvalId currentTime
  split
  · rcases outcome : runTransaction io.transaction
      (resultTransaction codec approvalId currentTime) raiseOutboxError db with ⟨out, db'⟩
    rcases runTransaction_cases outcome with ⟨e, rfl, rfl⟩ | ⟨stored, rfl, returned⟩
    · exact .raised _
    · obtain ⟨governed, rfl⟩ := resultTransaction_ok returned
      exact .read governed
  · exact .raised _

/-- Every call has one of the effects. -/
theorem step_effect (codec : WireCodec) (call : Call) (db : Db) :
    Effect codec db call (step codec call db).1 (step codec call db).2 := by
  cases call with
  | openLedger ledger io => exact openLedger_effect ledger io
  | consume ledger verified consumedAt io =>
    simp only [step, answer, consume]
    rcases outcome : consumeShared codec ledger verified consumedAt none ⟨none, none, none⟩ io db
      with ⟨out, db'⟩
    rcases consumeShared_cases outcome with
      ⟨e, rfl, rfl⟩ | ⟨v, t, rfl, rfl, rfl, consumed, outbox⟩
    · exact .raised _
    · exact .consumed consumed outbox
  | consumeGoverned ledger verified consumedAt governance arguments io =>
    simp only [step, answer]
    rcases outcome : consumeGoverned codec ledger verified consumedAt governance arguments io db
      with ⟨out, db'⟩
    rcases consumeGoverned_cases outcome with
      ⟨e, rfl, rfl⟩ | ⟨v, t, rfl, rfl, rfl, rfl, consumed, outbox⟩
    · exact .raised _
    · exact .governed consumed outbox
  | claim outbox arguments leaseToken io => exact claim_effect outbox arguments leaseToken io
  | complete outbox arguments io => exact complete_effect outbox arguments io
  | result arguments io => exact result_effect arguments io

end Prometheus.Jaeger.ApprovalLedger
