import Prometheus.Jaeger.ApprovalLedger.Tables

/-!
# Consuming an approval

`_ObservableApprovalLedger.consume`, `consume_governed` and `_consume` (`:526-713`) with the steps
of their transaction: `_apply_authority_snapshot` (`:763-826`), `_advance_time` (`:828-840`) and
`_enqueue_outbox` (`:842-938`).

The statement, bundle and result parsers and `hashlib.sha256` belong to sibling modules. They are
the fields of a `WireCodec`: arbitrary functions, of which nothing is assumed here.
-/

namespace Prometheus.Jaeger.ApprovalLedger

open Prometheus.Codec Prometheus.Machine

/-! ## Sibling modules -/

/-- What a parser raises: a `ValueError`, which its callers handle, or a `RecursionError`, which
those of the statement and the bundle do not. -/
inductive WireError
  | valueError
  | recursionError
  deriving DecidableEq, Repr

/-- A parsed `ThreatHintV2Statement`: the two fields the ledger compares and its digest. -/
structure V2Statement where
  observableCommitment : Str
  reportNonce : Str
  statementDigest : Bytes
  deriving DecidableEq, Repr

/-- The four binding fields of an analysis result that decoded as canonical. -/
structure AnalysisResult where
  approvalId : Str
  inputIdentity : Str
  statementDigest : Str
  observableCommitment : Str
  deriving DecidableEq, Repr

/-- The functions of sibling modules the ledger calls. -/
structure WireCodec where
  sha256 : Bytes → Bytes
  /-- `ThreatHintV2Statement.parse_canonical(wire, network_id)` and its `statement_digest()`. -/
  parseStatement : Bytes → Str → Except WireError V2Statement
  /-- `ObservableBundle.parse_canonical(wire).commitment(network_id, nonce_hex)`. -/
  bundleCommitment : Bytes → Str → Str → Except WireError Bytes
  /-- The part of `_validate_analysis_result_wire` that looks at the wire only: its JSON form, its
  fields and that it is canonical. -/
  decodeAnalysisResult : Bytes → Option AnalysisResult

/-- How the ledger passes a parser's exception on: `except ValueError` becomes `outbox`. -/
def raiseWireError : WireError → TxError
  | .valueError => .raised .outbox
  | .recursionError => .raised .recursion

/-! ## Steps of the transaction -/

/-- The row `authority_state` pins for a governance snapshot. -/
def GovernanceBinding.authorityRow (governance : GovernanceBinding) : AuthorityRow where
  authorityEpoch := governance.policy.authorityEpoch
  governancePolicySha256 := governance.policy.policySha256
  retentionPolicySha256 := governance.retention.policySha256
  promotionPolicySha256 := governance.promotionPolicySha256
  networkId := governance.policy.networkId
  approverXonlyPublicKey := governance.policy.approverXonlyPublicKey
  recipientScope := governance.policy.recipientScope
  authorityNotBefore := governance.policy.authorityNotBefore
  authorityNotAfter := governance.policy.authorityNotAfter

/-- `_validate_authority_snapshot` of a pinned row: `true` where the source returns. -/
def validateAuthorityRow (row : AuthorityRow) (governance : GovernanceBinding) : Bool :=
  let policy := governance.policy
  (isFixedBytes row.governancePolicySha256 && isFixedBytes row.retentionPolicySha256 &&
    isFixedBytes row.promotionPolicySha256 && isFixedBytes row.approverXonlyPublicKey &&
    isFixedBytes row.recipientScope) &&
  !(decide (policy.authorityEpoch < row.authorityEpoch) ||
    decide (policy.networkId ≠ row.networkId)) &&
  !(decide (policy.authorityEpoch = row.authorityEpoch) &&
    (decide (policy.policySha256 ≠ row.governancePolicySha256) ||
      decide (governance.retention.policySha256 ≠ row.retentionPolicySha256) ||
      decide (governance.promotionPolicySha256 ≠ row.promotionPolicySha256) ||
      decide (policy.approverXonlyPublicKey ≠ row.approverXonlyPublicKey) ||
      decide (policy.recipientScope ≠ row.recipientScope) ||
      decide (policy.authorityNotBefore ≠ row.authorityNotBefore) ||
      decide (policy.authorityNotAfter ≠ row.authorityNotAfter))) &&
  !(decide (policy.authorityEpoch > row.authorityEpoch) &&
    decide (policy.approverXonlyPublicKey = row.approverXonlyPublicKey) &&
    decide (policy.recipientScope = row.recipientScope) &&
    decide (policy.authorityNotBefore ≤ row.authorityNotAfter))

/-- The `INSERT` or `UPDATE` of the single `authority_state` row. -/
def pinAuthority (row : AuthorityRow) : LedgerTx Unit := do
  bindInteger row.authorityEpoch
  bindInteger row.authorityNotBefore
  bindInteger row.authorityNotAfter
  Tx.ensure (authorityCheck row) (.sqlite .integrity)
  modify fun db => { db with authorityState := some row }

/-- The three statements of `_apply_authority_snapshot` after the version check. -/
def applyAuthorityRow (stored : Option AuthorityRow) (governance : GovernanceBinding) :
    LedgerTx Unit :=
  match stored with
  | none => pinAuthority governance.authorityRow
  | some row =>
    if governance.policy.authorityEpoch > row.authorityEpoch then
      pinAuthority governance.authorityRow
    else pure ()

/-- `_apply_authority_snapshot`. -/
def applyAuthoritySnapshot (governance : GovernanceBinding) : LedgerTx Unit := do
  let version ← Tx.query Db.version
  Tx.ensure (version == .governed) (.raised .governanceUnavailable)
  let stored ← Tx.query Db.authorityState
  Tx.ensure (stored.all (validateAuthorityRow · governance)) (.raised .governanceUnavailable)
  applyAuthorityRow stored governance

/-- `_advance_time`. -/
def advanceTime (consumedAt : Int) : LedgerTx Unit := do
  let stored ← Tx.query Db.ledgerState
  let highWater ← Tx.orRaise stored (.raised .consumption)
  Tx.ensure (decide (highWater ≤ consumedAt)) (.raised .replay)
  bindInteger consumedAt
  modify fun db => { db with ledgerState := some consumedAt }

/-- The row `_consume` inserts. -/
def VerifiedApproval.consumptionRow (verified : VerifiedApproval) (consumedAt : Int) :
    ConsumptionRow where
  approvalId := verified.approvalId
  approverXonlyPublicKey := verified.approverXonlyPublicKey
  approvalNonce := verified.approvalNonce
  observableCommitment := verified.observableCommitment
  recipientScope := verified.recipientScope
  networkId := verified.networkId
  notBefore := verified.notBefore
  expiresAt := verified.expiresAt
  consumedAt := consumedAt

/-- `INSERT INTO approval_consumptions`. -/
def insertConsumption (row : ConsumptionRow) : LedgerTx Unit := do
  bindInteger row.notBefore
  bindInteger row.expiresAt
  bindInteger row.consumedAt
  let consumptions ← Tx.query Db.approvalConsumptions
  let consumptions' ← Tx.orRaise (consumptions.insert row) (.sqlite .integrity)
  modify fun db => { db with approvalConsumptions := consumptions' }

/-- `_validate_outbox_statement` of a wire that is `bytes`. -/
def validateOutboxStatement (codec : WireCodec) (statementWire : Bytes) (networkId : Str)
    (observableCommitment reportNonce : Bytes) : Except TxError Bytes :=
  if 1 ≤ statementWire.length ∧ statementWire.length ≤ maxCanonicalV2StatementBytes ∧
      isFixedBytes observableCommitment ∧ isFixedBytes reportNonce then
    match codec.parseStatement statementWire networkId with
    | .error e => .error (raiseWireError e)
    | .ok statement =>
      if statement.observableCommitment = hex observableCommitment ∧
          statement.reportNonce = hex reportNonce then
        .ok statement.statementDigest
      else .error (.raised .outbox)
  else .error (.raised .outbox)

/-- The recomputation of a bundle's commitment and its comparison with the expected one. -/
def checkBundle (codec : WireCodec) (bundleWire : Bytes) (networkId : Str)
    (reportNonce observableCommitment : Bytes) : Except TxError Unit :=
  match codec.bundleCommitment bundleWire networkId (hex reportNonce) with
  | .error e => .error (raiseWireError e)
  | .ok recomputed =>
    if recomputed = observableCommitment then .ok () else .error (.raised .outbox)

/-- `DELETE FROM approval_outbox WHERE retention_deadline <= ?`. -/
def pruneOutbox (now : Int) : LedgerTx Unit := do
  bindInteger now
  modify fun db =>
    { db with approvalOutbox := db.approvalOutbox.delete fun r => r.retentionDeadline ≤ now }

/-- `DELETE FROM observable_analysis_results WHERE retention_deadline <= ?`. -/
def pruneResults (now : Int) : LedgerTx Unit := do
  bindInteger now
  modify fun db =>
    { db with
      observableAnalysisResults :=
        db.observableAnalysisResults.delete fun r => r.retentionDeadline ≤ now }

/-- `INSERT INTO approval_outbox`. -/
def insertOutbox (row : OutboxRow) : LedgerTx Unit := do
  bindInteger row.enqueuedAt
  bindInteger row.retentionDeadline
  let outbox ← Tx.query Db.approvalOutbox
  let outbox' ← Tx.orRaise (outbox.insert row) (.sqlite .integrity)
  modify fun db => { db with approvalOutbox := outbox' }

/-- Whether a foreign key into `approval_consumptions` resolves. -/
def consumed (db : Db) (approvalId : Bytes) : Bool :=
  db.approvalConsumptions.rows.any fun r => r.approvalId = approvalId

/-- `INSERT INTO threat_hint_v2_pairings`, with its foreign key. -/
def insertPairing (row : PairingRow) : LedgerTx Unit := do
  bindInteger row.consumedAt
  let resolved ← Tx.query (consumed · row.approvalId)
  Tx.ensure resolved (.sqlite .integrity)
  let pairings ← Tx.query Db.threatHintV2Pairings
  let pairings' ← Tx.orRaise (pairings.insert row) (.sqlite .integrity)
  modify fun db => { db with threatHintV2Pairings := pairings' }

/-- The outbox arguments of `_consume`. `none` is a value that is not `bytes`; Python's `None` is
told apart only for the statement. -/
structure OutboxArguments where
  bundleWire : Option Bytes
  statementWire : Option (Option Bytes)
  reportNonce : Option Bytes
  deriving DecidableEq, Repr

/-- The outbox arguments once they are known to be `bytes`. -/
structure OutboxWires where
  bundleWire : Bytes
  statementWire : Bytes
  reportNonce : Bytes
  deriving DecidableEq, Repr

/-- The type tests of `_enqueue_outbox`. -/
def OutboxArguments.wires (arguments : OutboxArguments) : Option OutboxWires :=
  match arguments with
  | ⟨some bundleWire, some (some statementWire), some reportNonce⟩ =>
    some ⟨bundleWire, statementWire, reportNonce⟩
  | _ => none

/-- The pending row `_enqueue_outbox` inserts. -/
def pendingRow (verified : VerifiedApproval) (wires : OutboxWires) (statementDigest : Bytes)
    (enqueuedAt retentionDeadline : Int) : OutboxRow where
  approvalId := verified.approvalId
  observableCommitment := verified.observableCommitment
  bundleWire := wires.bundleWire
  statementWire := wires.statementWire
  statementDigest := statementDigest
  reportNonce := wires.reportNonce
  enqueuedAt := enqueuedAt
  retentionDeadline := retentionDeadline
  leaseToken := none
  leaseExpiresAt := none

/-- The pairing `_enqueue_outbox` inserts. -/
def pairingRow (verified : VerifiedApproval) (statementDigest : Bytes) (consumedAt : Int) :
    PairingRow where
  statementDigest := statementDigest
  approvalId := verified.approvalId
  observableCommitment := verified.observableCommitment
  networkId := verified.networkId
  consumedAt := consumedAt

/-- `_enqueue_outbox`: the argument checks, the retention cleanup, the capacity check and the two
inserts. -/
def enqueueOutbox (codec : WireCodec) (verified : VerifiedApproval) (arguments : OutboxArguments)
    (consumedAt : Int) (retention : RetentionPolicy) : LedgerTx Unit := do
  Tx.ensure (decide (1 ≤ retention.maxPendingRecords) && decide (1 ≤ retention.maxRetentionSeconds))
    (.raised .outbox)
  let retentionDeadline := consumedAt + retention.maxRetentionSeconds
  let wires ← Tx.orRaise arguments.wires (.raised .outbox)
  Tx.ensure (decide (1 ≤ wires.bundleWire.length) &&
    decide (wires.bundleWire.length ≤ maxCanonicalBytes) && isFixedBytes wires.reportNonce &&
    decide (retentionDeadline ≤ uint64Max)) (.raised .outbox)
  let statementDigest ← Tx.lift id (validateOutboxStatement codec wires.statementWire
    verified.networkId verified.observableCommitment wires.reportNonce)
  Tx.lift id (checkBundle codec wires.bundleWire verified.networkId wires.reportNonce
    verified.observableCommitment)
  pruneOutbox consumedAt
  pruneResults consumedAt
  let pending ← Tx.query fun db => db.approvalOutbox.count
  Tx.ensure (decide ((pending : Int) < retention.maxPendingRecords)) (.raised .outbox)
  insertOutbox (pendingRow verified wires statementDigest consumedAt retentionDeadline)
  insertPairing (pairingRow verified statementDigest consumedAt)

/-! ## The calls -/

/-- The `BEGIN IMMEDIATE` block of `_consume`. -/
def consumeTransaction (codec : WireCodec) (ledger : LedgerObject) (verified : VerifiedApproval)
    (consumedAt : Int) (governance : Option GovernanceBinding) (arguments : OutboxArguments) :
    LedgerTx Unit := do
  match governance with
  | none => pure ()
  | some governance => applyAuthoritySnapshot governance
  advanceTime consumedAt
  insertConsumption (verified.consumptionRow consumedAt)
  match governance with
  | none => pure ()
  | some governance =>
    if ledger.outboxEnabled then
      enqueueOutbox codec verified arguments consumedAt governance.retention
    else pure ()

/-- `ObservableApprovalConsumptionReceipt`. -/
structure ConsumptionReceipt where
  approvalId : Bytes
  observableCommitment : Bytes
  consumedAt : Int
  deriving DecidableEq, Repr

/-- The digest the handler of a constraint violation looks for in the pairings: `none` where it
does not look there. A `RecursionError` escapes the handler too. -/
def replayDigest (codec : WireCodec) (ledger : LedgerObject) (verified : VerifiedApproval)
    (governance : Option GovernanceBinding) (arguments : OutboxArguments) :
    Except ConsumptionError (Option Bytes) :=
  match governance.isSome && ledger.outboxEnabled, arguments.statementWire, arguments.reportNonce with
  | true, some (some statementWire), some reportNonce =>
    match validateOutboxStatement codec statementWire verified.networkId
        verified.observableCommitment reportNonce with
    | .ok statementDigest => .ok (some statementDigest)
    | .error (.raised .recursion) => .error .recursion
    | .error _ => .ok none
  | _, _, _ => .ok none

/-- Whether the handler's two lookups find a replay in the file. -/
def isReplay (db : Db) (verified : VerifiedApproval) (statementDigest : Option Bytes) : Bool :=
  db.approvalConsumptions.rows.any (fun r =>
    r.approvalId = verified.approvalId ||
      (r.approverXonlyPublicKey = verified.approverXonlyPublicKey &&
        r.approvalNonce = verified.approvalNonce)) ||
  statementDigest.any fun digest =>
    db.threatHintV2Pairings.rows.any fun r =>
      r.statementDigest = digest || r.approvalId = verified.approvalId ||
        r.observableCommitment = verified.observableCommitment

/-- The handler of `sqlite3.IntegrityError` in `_consume`, run on the rolled back file. -/
def raiseIntegrityError (codec : WireCodec) (ledger : LedgerObject) (verified : VerifiedApproval)
    (governance : Option GovernanceBinding) (arguments : OutboxArguments) (io : Io) (db : Db) :
    ConsumptionError :=
  match replayDigest codec ledger verified governance arguments with
  | .error e => e
  | .ok statementDigest =>
    match io.lookup with
    | some busy => raiseOperationalError busy
    | none => if isReplay db verified statementDigest then .replay else .consumption

/-- The handlers of `_consume`. -/
def raiseConsumeError (codec : WireCodec) (ledger : LedgerObject) (verified : VerifiedApproval)
    (governance : Option GovernanceBinding) (arguments : OutboxArguments) (io : Io) (db : Db) :
    TxError → ConsumptionError
  | .raised e => e
  | .sqlite .integrity => raiseIntegrityError codec ledger verified governance arguments io db
  | .sqlite (.operational busy) => raiseOperationalError busy
  | .sqlite .overflow => .consumption

/-- Run a transaction and let the handlers turn what it raised into what the call raises. -/
def runTransaction {α : Type} (fault : Option Bool) (body : LedgerTx α)
    (handler : TxError → ConsumptionError) (db : Db) : Except ConsumptionError α × Db :=
  let outcome := transactIo fault body db
  (outcome.1.mapError handler, outcome.2)

/-- `_consume`. `none` for `verified` or `consumedAt` is a value of another type. -/
def consumeShared (codec : WireCodec) (ledger : LedgerObject) (verified : Option VerifiedApproval)
    (consumedAt : Option Int) (governance : Option GovernanceBinding)
    (arguments : OutboxArguments) (io : Io) (db : Db) :
    Except ConsumptionError ConsumptionReceipt × Db :=
  match verified, consumedAt with
  | some verified, some consumedAt =>
    if isTimestamp consumedAt ∧ verified.notBefore ≤ consumedAt ∧
        consumedAt ≤ verified.expiresAt then
      let outcome := runTransaction io.transaction
        (consumeTransaction codec ledger verified consumedAt governance arguments)
        (raiseConsumeError codec ledger verified governance arguments io db) db
      (outcome.1.map fun _ => ⟨verified.approvalId, verified.observableCommitment, consumedAt⟩,
        outcome.2)
    else (.error .consumption, db)
  | _, _ => (.error .consumption, db)

/-- `consume`. -/
def consume (codec : WireCodec) (ledger : LedgerObject) (verified : Option VerifiedApproval)
    (consumedAt : Option Int) (io : Io) (db : Db) :
    Except ConsumptionError ConsumptionReceipt × Db :=
  consumeShared codec ledger verified consumedAt none ⟨none, none, none⟩ io db

/-- `consume_governed`. `governance` is compared by identity, which `GovernanceBinding` carries. -/
def consumeGoverned (codec : WireCodec) (ledger : LedgerObject)
    (verified : Option VerifiedApproval) (consumedAt : Option Int)
    (governance : Option GovernanceBinding) (arguments : OutboxArguments) (io : Io) (db : Db) :
    Except ConsumptionError ConsumptionReceipt × Db :=
  if governance ≠ ledger.governance then (.error .governanceUnavailable, db)
  else if ledger.outboxEnabled = arguments.statementWire.isNone then (.error .outbox, db)
  else consumeShared codec ledger verified consumedAt governance arguments io db

end Prometheus.Jaeger.ApprovalLedger
