import Prometheus.Jaeger.ApprovalLedger.Consume

/-!
# Claiming and completing outbox records

`ObservableApprovalOutbox` (`:1415-1741`): `claim` leases the oldest eligible record, `complete`
stores one result and removes the leased record, `result` reads a stored result back. Each runs in
one `BEGIN IMMEDIATE` transaction on the ledger file. The digests they compare
(`_analysis_input_identity` `:1844-1888`, `_analysis_result_record_digest` `:2093-2115`,
`_completion_token_digest` `:2117-2126`) are built here as the source builds them.
-/

namespace Prometheus.Jaeger.ApprovalLedger

open Prometheus.Codec Prometheus.Machine

/-- `validate_network_id` of `threat_observable.py`, which allows 2 to 64 characters. A code point above 127 is encoded with bytes
that the loop refuses, as it refuses the other characters. -/
def validateNetworkId (networkId : Str) : Bool :=
  decide (2 ≤ networkId.length) && decide (networkId.length ≤ 64) &&
    decide (networkId.head? ≠ some 45) && decide (networkId.getLast? ≠ some 45) &&
    networkId.all fun c => c == 45 || (decide (48 ≤ c) && decide (c ≤ 57)) ||
      (decide (97 ≤ c) && decide (c ≤ 122))

/-- An `ObservableApprovalOutbox`: its constructor refuses an invalid network id. -/
structure OutboxObject where
  networkId : Str
  valid : validateNetworkId networkId = true

/-! ## Digests -/

/-- `ANALYSIS_INPUT_IDENTITY_DOMAIN`. -/
def analysisInputIdentityDomain : Bytes := ascii "prometheus-observable-analysis-input-v1" ++ [0]

/-- `ANALYSIS_RESULT_DIGEST_DOMAIN`. -/
def analysisResultDigestDomain : Bytes := ascii "prometheus-observable-analysis-result-v1" ++ [0]

/-- `COMPLETION_TOKEN_DIGEST_DOMAIN`. -/
def completionTokenDigestDomain : Bytes :=
  ascii "prometheus-observable-analysis-completion-v1" ++ [0]

/-- The bytes `_analysis_input_identity` hashes for a leased record. -/
def analysisInputPreimage (networkId : Str) (row : OutboxRow) (leaseToken : Bytes)
    (leaseExpiresAt : Int) : Bytes :=
  analysisInputIdentityDomain ++ toBytesBig 2 networkId.length ++ encodeAscii networkId ++
    toBytesBig 4 row.statementWire.length ++ row.statementWire ++
    toBytesBig 4 row.bundleWire.length ++ row.bundleWire ++ row.approvalId ++
    row.observableCommitment ++ leaseToken ++ toBytesBig 8 leaseExpiresAt.toNat ++
    toBytesBig 8 row.retentionDeadline.toNat

/-- `_analysis_input_identity`. -/
def analysisInputIdentity (codec : WireCodec) (networkId : Str) (row : OutboxRow)
    (leaseToken : Bytes) (leaseExpiresAt : Int) : Except TxError Bytes :=
  if validateNetworkId networkId ∧ isFixedBytes row.approvalId ∧
      isFixedBytes row.observableCommitment ∧ isFixedBytes leaseToken ∧
      1 ≤ row.statementWire.length ∧ row.statementWire.length ≤ maxCanonicalV2StatementBytes ∧
      1 ≤ row.bundleWire.length ∧ row.bundleWire.length ≤ maxCanonicalBytes ∧
      isTimestamp leaseExpiresAt ∧ isTimestamp row.retentionDeadline ∧
      leaseExpiresAt ≤ row.retentionDeadline then
    .ok (codec.sha256 (analysisInputPreimage networkId row leaseToken leaseExpiresAt))
  else .error (.raised .outbox)

/-- The bytes `_analysis_result_record_digest` hashes. -/
def resultRecordPreimage (resultWire : Bytes) (completedAt retentionDeadline : Int) : Bytes :=
  analysisResultDigestDomain ++ toBytesBig 4 resultWire.length ++ resultWire ++
    toBytesBig 8 completedAt.toNat ++ toBytesBig 8 retentionDeadline.toNat

/-- `_analysis_result_record_digest`. -/
def analysisResultRecordDigest (codec : WireCodec) (resultWire : Bytes)
    (completedAt retentionDeadline : Int) : Except TxError Bytes :=
  if 1 ≤ resultWire.length ∧ resultWire.length ≤ maxCanonicalAnalysisResultBytes ∧
      isTimestamp completedAt ∧ isTimestamp retentionDeadline ∧
      completedAt ≤ retentionDeadline then
    .ok (codec.sha256 (resultRecordPreimage resultWire completedAt retentionDeadline))
  else .error (.raised .outbox)

/-- The bytes `_completion_token_digest` hashes. -/
def completionTokenPreimage (completionToken leaseToken : Bytes) : Bytes :=
  completionTokenDigestDomain ++ completionToken ++ leaseToken

/-- `_completion_token_digest` of two tokens of 32 bytes. -/
def completionTokenDigest (codec : WireCodec) (completionToken leaseToken : Bytes) : Bytes :=
  codec.sha256 (completionTokenPreimage completionToken leaseToken)

/-! ## Checks of stored rows -/

/-- `_validate_outbox_row`. -/
def validateOutboxRow (row : OutboxRow) : Bool :=
  isFixedBytes row.approvalId && isFixedBytes row.observableCommitment &&
    decide (1 ≤ row.bundleWire.length) && decide (row.bundleWire.length ≤ maxCanonicalBytes) &&
    decide (1 ≤ row.statementWire.length) &&
    decide (row.statementWire.length ≤ maxCanonicalV2StatementBytes) &&
    isFixedBytes row.statementDigest && isFixedBytes row.reportNonce &&
    decide (1 ≤ row.retentionDeadline)

/-- `_revalidate_outbox_row`, which starts with `_validate_outbox_row`. -/
def revalidateOutboxRow (codec : WireCodec) (row : OutboxRow) (networkId : Str) :
    Except TxError Unit := do
  if validateOutboxRow row then pure () else .error (.raised .outbox)
  let statementDigest ← validateOutboxStatement codec row.statementWire networkId
    row.observableCommitment row.reportNonce
  if statementDigest = row.statementDigest then pure () else .error (.raised .outbox)
  checkBundle codec row.bundleWire networkId row.reportNonce row.observableCommitment

/-- `_validate_analysis_result_wire`. The last two expectations are optional. -/
def validateAnalysisResultWire (codec : WireCodec) (resultWire approvalId inputIdentity : Bytes)
    (statementDigest observableCommitment : Option Bytes) : Bool :=
  (decide (1 ≤ resultWire.length) &&
    decide (resultWire.length ≤ maxCanonicalAnalysisResultBytes) &&
    isFixedBytes approvalId && isFixedBytes inputIdentity && statementDigest.all isFixedBytes &&
    observableCommitment.all isFixedBytes) &&
  match codec.decodeAnalysisResult resultWire with
  | none => false
  | some decoded =>
    decide (decoded.approvalId = hex approvalId) &&
      decide (decoded.inputIdentity = hex inputIdentity) &&
      statementDigest.all (fun d => decide (decoded.statementDigest = hex d)) &&
      observableCommitment.all (fun c => decide (decoded.observableCommitment = hex c))

/-- The type and range tests that `_validate_completion_retry_row` and
`_validate_stored_result_row` share. -/
def validateStoredResult (row : ResultRow) : Bool :=
  decide (1 ≤ row.resultWire.length) &&
    decide (row.resultWire.length ≤ maxCanonicalAnalysisResultBytes) &&
    isFixedBytes row.resultDigest && isFixedBytes row.inputIdentity &&
    isTimestamp row.completedAt && isTimestamp row.retentionDeadline &&
    decide (row.completedAt ≤ row.retentionDeadline)

/-- `_validate_stored_result_row`. -/
def validateStoredResultRow (row : ResultRow) : Bool :=
  isFixedBytes row.approvalId && validateStoredResult row

/-- The recomputation of a stored result's digest and its comparison with the stored one. -/
def checkResultDigest (codec : WireCodec) (row : ResultRow) : Except TxError Unit := do
  let recomputed ← analysisResultRecordDigest codec row.resultWire row.completedAt
    row.retentionDeadline
  if recomputed = row.resultDigest then pure () else .error (.raised .outbox)

/-- `_validate_completion_retry_row` of a row that is there. -/
def validateCompletionRetryRow (codec : WireCodec) (row : ResultRow) (approvalId : Bytes) :
    Except TxError Unit := do
  if validateStoredResult row && isFixedBytes row.completionTokenDigest then pure ()
  else .error (.raised .outbox)
  if validateAnalysisResultWire codec row.resultWire approvalId row.inputIdentity none none then
    pure ()
  else .error (.raised .outbox)
  checkResultDigest codec row

/-! ## The calls -/

/-- The version check that opens each transaction. -/
def requireGoverned : LedgerTx Unit := do
  let version ← Tx.query Db.version
  Tx.ensure (version == .governed) (.raised .outbox)

/-- `lease_expires_at IS NULL OR lease_expires_at <= ?`. -/
def leaseOver (now : Int) (row : OutboxRow) : Bool := row.leaseExpiresAt.all fun t => t ≤ now

/-- The `WHERE` clause of the claim's `SELECT`. -/
def eligible (now : Int) (row : OutboxRow) : Bool :=
  decide (now < row.retentionDeadline) && leaseOver now row

/-- `ORDER BY enqueued_at ASC, approval_id ASC`. -/
def orderedBefore (a b : OutboxRow) : Bool :=
  decide (a.enqueuedAt < b.enqueuedAt) ||
    (decide (a.enqueuedAt = b.enqueuedAt) && decide (a.approvalId < b.approvalId))

/-- The first row in the order, `LIMIT 1`. -/
def oldest : List OutboxRow → Option OutboxRow
  | [] => none
  | row :: rest =>
    match oldest rest with
    | none => some row
    | some other => if orderedBefore other row then some other else some row

/-- The record with the lease columns set. -/
def OutboxRow.withLease (row : OutboxRow) (leaseToken : Bytes) (leaseExpiresAt : Int) : OutboxRow :=
  { row with leaseToken := some leaseToken, leaseExpiresAt := some leaseExpiresAt }

/-- The `UPDATE` that writes a lease. -/
def writeLease (approvalId leaseToken : Bytes) (leaseExpiresAt now : Int) : LedgerTx Unit := do
  bindInteger leaseExpiresAt
  bindInteger now
  let matches' := fun (r : OutboxRow) => r.approvalId = approvalId && leaseOver now r
  let outbox ← Tx.query Db.approvalOutbox
  let outbox' ← Tx.orRaise (outbox.update matches' (·.withLease leaseToken leaseExpiresAt))
    (.sqlite .integrity)
  modify fun db => { db with approvalOutbox := outbox' }
  Tx.ensure ((outbox.rows.filter matches').length == 1) (.raised .outbox)

/-- The transaction of `claim`: the leased row as selected and the expiry written to it. -/
def claimTransaction (codec : WireCodec) (networkId : Str) (currentTime leaseEnd : Int)
    (leaseToken : Bytes) : LedgerTx (Option (OutboxRow × Int)) := do
  requireGoverned
  pruneOutbox currentTime
  pruneResults currentTime
  let selected ← Tx.query fun db => oldest (db.approvalOutbox.rows.filter (eligible currentTime))
  match selected with
  | none => pure none
  | some row => do
    Tx.ensure (validateOutboxRow row) (.raised .outbox)
    Tx.lift id (revalidateOutboxRow codec row networkId)
    let leaseExpiresAt := min leaseEnd row.retentionDeadline
    writeLease row.approvalId leaseToken leaseExpiresAt currentTime
    pure (some (row, leaseExpiresAt))

/-- `ObservableApprovalOutboxClaim`. -/
structure OutboxClaim where
  approvalId : Bytes
  observableCommitment : Bytes
  bundleWire : Bytes
  statementWire : Bytes
  statementDigest : Bytes
  reportNonce : Bytes
  leaseToken : Bytes
  leaseExpiresAt : Int
  inputIdentity : Bytes
  deriving DecidableEq, Repr

/-- `_build_outbox_claim`, which runs after the commit. -/
def buildOutboxClaim (codec : WireCodec) (networkId : Str) (row : OutboxRow) (leaseToken : Bytes)
    (leaseExpiresAt : Int) : Except ConsumptionError OutboxClaim :=
  match analysisInputIdentity codec networkId row leaseToken leaseExpiresAt with
  | .ok inputIdentity =>
    .ok ⟨row.approvalId, row.observableCommitment, row.bundleWire, row.statementWire,
      row.statementDigest, row.reportNonce, leaseToken, leaseExpiresAt, inputIdentity⟩
  | .error _ => .error .outbox

/-- The handlers of `claim`, `complete` and `result`. -/
def raiseOutboxError : TxError → ConsumptionError
  | .raised e => e
  | .sqlite (.operational busy) => raiseOperationalError busy
  | .sqlite _ => .outbox

/-- The arguments of `claim`. -/
structure ClaimArguments where
  currentTime : Int
  leaseSeconds : Int
  deriving DecidableEq, Repr

/-- `claim`. `leaseToken` is what `os.urandom(32)` returns; `none` for the arguments is a value
that is not an `int`. -/
def claim (codec : WireCodec) (outbox : OutboxObject) (arguments : Option ClaimArguments)
    (leaseToken : Bytes) (io : Io) (db : Db) :
    Except ConsumptionError (Option OutboxClaim) × Db :=
  match arguments with
  | none => (.error .outbox, db)
  | some ⟨currentTime, leaseSeconds⟩ =>
    if isTimestamp currentTime ∧ 1 ≤ leaseSeconds ∧ leaseSeconds ≤ maxOutboxLeaseSeconds ∧
        currentTime + leaseSeconds ≤ uint64Max then
      match runTransaction io.transaction
        (claimTransaction codec outbox.networkId currentTime (currentTime + leaseSeconds)
          leaseToken) raiseOutboxError db with
      | (.error e, db') => (.error e, db')
      | (.ok none, db') => (.ok none, db')
      | (.ok (some (row, leaseExpiresAt)), db') =>
        ((buildOutboxClaim codec outbox.networkId row leaseToken leaseExpiresAt).map some, db')
    else (.error .outbox, db)

/-- The arguments of `complete`. -/
structure CompleteArguments where
  approvalId : Bytes
  leaseToken : Bytes
  completionToken : Bytes
  inputIdentity : Bytes
  resultWire : Bytes
  currentTime : Int
  deriving DecidableEq, Repr

/-- `ObservableAnalysisCompletion`. -/
structure AnalysisCompletion where
  approvalId : Bytes
  resultDigest : Bytes
  inputIdentity : Bytes
  completedAt : Int
  retentionDeadline : Int
  deriving DecidableEq, Repr

/-- The branch of `complete` for a record that has left the outbox. -/
def retryCompletion (codec : WireCodec) (arguments : CompleteArguments) :
    LedgerTx AnalysisCompletion := do
  let stored ← Tx.query fun db =>
    db.observableAnalysisResults.select fun r => r.approvalId = arguments.approvalId
  let row ← Tx.orRaise stored (.raised .outbox)
  Tx.lift id (validateCompletionRetryRow codec row arguments.approvalId)
  Tx.ensure (decide (row.resultWire = arguments.resultWire) &&
    decide (row.inputIdentity = arguments.inputIdentity) &&
    decide (row.completionTokenDigest =
      completionTokenDigest codec arguments.completionToken arguments.leaseToken))
    (.raised .outbox)
  pure ⟨arguments.approvalId, row.resultDigest, arguments.inputIdentity, row.completedAt,
    row.retentionDeadline⟩

/-- `INSERT INTO observable_analysis_results`, with its foreign key. -/
def insertResult (row : ResultRow) : LedgerTx Unit := do
  bindInteger row.completedAt
  bindInteger row.retentionDeadline
  let resolved ← Tx.query (consumed · row.approvalId)
  Tx.ensure resolved (.sqlite .integrity)
  let results ← Tx.query Db.observableAnalysisResults
  let results' ← Tx.orRaise (results.insert row) (.sqlite .integrity)
  modify fun db => { db with observableAnalysisResults := results' }

/-- The `DELETE` that removes the leased record. -/
def deleteLeased (approvalId leaseToken : Bytes) (now : Int) : LedgerTx Unit := do
  bindInteger now
  let matches' := fun (r : OutboxRow) => decide (r.approvalId = approvalId) &&
    decide (r.leaseToken = some leaseToken) && r.leaseExpiresAt.any fun t => now < t
  let outbox ← Tx.query Db.approvalOutbox
  modify fun db => { db with approvalOutbox := outbox.delete matches' }
  Tx.ensure ((outbox.rows.filter matches').length == 1) (.raised .outbox)

/-- The lease a record holds, once the lease tests of `complete` have passed. -/
def liveLease (row : OutboxRow) (leaseToken : Bytes) (now : Int) : Option Int :=
  match row.leaseToken, row.leaseExpiresAt with
  | some storedLeaseToken, some leaseExpiresAt =>
    if isFixedBytes storedLeaseToken ∧ now < leaseExpiresAt ∧ storedLeaseToken = leaseToken then
      some leaseExpiresAt
    else none
  | _, _ => none

/-- The row a first completion stores. -/
def CompleteArguments.resultRow (codec : WireCodec) (arguments : CompleteArguments)
    (resultDigest : Bytes) (retentionDeadline : Int) : ResultRow where
  approvalId := arguments.approvalId
  resultWire := arguments.resultWire
  resultDigest := resultDigest
  inputIdentity := arguments.inputIdentity
  completionTokenDigest :=
    completionTokenDigest codec arguments.completionToken arguments.leaseToken
  completedAt := arguments.currentTime
  retentionDeadline := retentionDeadline

/-- The branch of `complete` for a record that is still in the outbox. -/
def firstCompletion (codec : WireCodec) (networkId : Str) (arguments : CompleteArguments)
    (row : OutboxRow) : LedgerTx AnalysisCompletion := do
  Tx.ensure (validateOutboxRow row) (.raised .outbox)
  Tx.lift id (revalidateOutboxRow codec row networkId)
  let leaseExpiresAt ← Tx.orRaise (liveLease row arguments.leaseToken arguments.currentTime)
    (.raised .outbox)
  let expectedIdentity ← Tx.lift id (analysisInputIdentity codec networkId row
    arguments.leaseToken leaseExpiresAt)
  Tx.ensure (decide (expectedIdentity = arguments.inputIdentity)) (.raised .outbox)
  Tx.ensure (validateAnalysisResultWire codec arguments.resultWire arguments.approvalId
    arguments.inputIdentity (some row.statementDigest) (some row.observableCommitment))
    (.raised .outbox)
  let resultDigest ← Tx.lift id (analysisResultRecordDigest codec arguments.resultWire
    arguments.currentTime row.retentionDeadline)
  insertResult (arguments.resultRow codec resultDigest row.retentionDeadline)
  deleteLeased arguments.approvalId arguments.leaseToken arguments.currentTime
  pure ⟨arguments.approvalId, resultDigest, arguments.inputIdentity, arguments.currentTime,
    row.retentionDeadline⟩

/-- The transaction of `complete`. -/
def completeTransaction (codec : WireCodec) (networkId : Str) (arguments : CompleteArguments) :
    LedgerTx AnalysisCompletion := do
  requireGoverned
  pruneOutbox arguments.currentTime
  pruneResults arguments.currentTime
  let selected ← Tx.query fun db =>
    db.approvalOutbox.select fun r => r.approvalId = arguments.approvalId
  match selected with
  | none => retryCompletion codec arguments
  | some row => firstCompletion codec networkId arguments row

/-- `complete`. `none` for the arguments is a value of another type among them. -/
def complete (codec : WireCodec) (outbox : OutboxObject) (arguments : Option CompleteArguments)
    (io : Io) (db : Db) : Except ConsumptionError AnalysisCompletion × Db :=
  match arguments with
  | none => (.error .outbox, db)
  | some arguments =>
    if isFixedBytes arguments.approvalId ∧ isFixedBytes arguments.leaseToken ∧
        isFixedBytes arguments.completionToken ∧ isFixedBytes arguments.inputIdentity ∧
        isTimestamp arguments.currentTime ∧
        validateAnalysisResultWire codec arguments.resultWire arguments.approvalId
          arguments.inputIdentity none none then
      runTransaction io.transaction (completeTransaction codec outbox.networkId arguments)
        raiseOutboxError db
    else (.error .outbox, db)

/-- `ObservableAnalysisStoredResult`. -/
structure AnalysisStoredResult where
  approvalId : Bytes
  resultWire : Bytes
  resultDigest : Bytes
  inputIdentity : Bytes
  completedAt : Int
  retentionDeadline : Int
  deriving DecidableEq, Repr

/-- The transaction of `result`. -/
def resultTransaction (codec : WireCodec) (approvalId : Bytes) (currentTime : Int) :
    LedgerTx (Option AnalysisStoredResult) := do
  requireGoverned
  pruneResults currentTime
  let selected ← Tx.query fun db =>
    db.observableAnalysisResults.select fun r => r.approvalId = approvalId
  match selected with
  | none => pure none
  | some row => do
    Tx.ensure (validateStoredResultRow row) (.raised .outbox)
    Tx.ensure (validateAnalysisResultWire codec row.resultWire row.approvalId row.inputIdentity
      none none) (.raised .outbox)
    Tx.lift id (checkResultDigest codec row)
    pure (some ⟨row.approvalId, row.resultWire, row.resultDigest, row.inputIdentity,
      row.completedAt, row.retentionDeadline⟩)

/-- The arguments of `result`. -/
structure ResultArguments where
  approvalId : Bytes
  currentTime : Int
  deriving DecidableEq, Repr

/-- `result`. -/
def result (codec : WireCodec) (arguments : Option ResultArguments) (io : Io) (db : Db) :
    Except ConsumptionError (Option AnalysisStoredResult) × Db :=
  match arguments with
  | none => (.error .outbox, db)
  | some ⟨approvalId, currentTime⟩ =>
    if isFixedBytes approvalId ∧ isTimestamp currentTime then
      runTransaction io.transaction (resultTransaction codec approvalId currentTime)
        raiseOutboxError db
    else (.error .outbox, db)

end Prometheus.Jaeger.ApprovalLedger
