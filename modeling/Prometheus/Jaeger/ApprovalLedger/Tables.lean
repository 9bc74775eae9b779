import Prometheus.Codec.Bytes
import Prometheus.Machine.Table
import Prometheus.Machine.Transaction

/-!
# The approval ledger's database

The SQLite file behind `_ObservableApprovalLedger`
(`modules/guardian-node/jaeger/observable_approval_consumption.py`): the rows of its six tables
with the `CHECK`, `PRIMARY KEY` and `UNIQUE` constraints of `_initialize_schema` (`:395-485`) and
`_create_legacy_schema` (`:495-524`), the exceptions the module raises, and the owner's
configuration objects the ledger reads.
-/

namespace Prometheus.Jaeger.ApprovalLedger

open Prometheus.Codec Prometheus.Machine

/-- `FIXED_HASH_BYTES`. -/
def fixedHashBytes : Nat := 32

/-- `UINT64_MAX`. -/
def uint64Max : Int := 2 ^ 64 - 1

/-- `MAX_CANONICAL_BYTES` of an observable bundle. -/
def maxCanonicalBytes : Nat := 4096

/-- `MAX_CANONICAL_V2_STATEMENT_BYTES`. -/
def maxCanonicalV2StatementBytes : Nat := 1024

/-- `MAX_CANONICAL_ANALYSIS_RESULT_BYTES`. -/
def maxCanonicalAnalysisResultBytes : Nat := 1024

/-- `MAX_OUTBOX_LEASE_SECONDS`. -/
def maxOutboxLeaseSeconds : Int := 300

/-- `_is_fixed_bytes` on a value already known to be `bytes`. -/
def isFixedBytes (b : Bytes) : Bool := b.length == fixedHashBytes

/-- `_is_timestamp` on a value already known to be an exact `int`. -/
def isTimestamp (t : Int) : Bool := decide (0 < t) && decide (t ≤ uint64Max)

theorem isTimestamp_iff {t : Int} : isTimestamp t = true ↔ 0 < t ∧ t ≤ 2 ^ 64 - 1 := by
  rw [isTimestamp, Bool.and_eq_true, decide_eq_true_eq, decide_eq_true_eq, uint64Max]

/-- The exceptions the ledger raises. `recursion` is Python's own `RecursionError`, which the
statement and bundle parsers let escape. -/
inductive ConsumptionError
  | consumption
  | replay
  | busy
  | governanceUnavailable
  | outbox
  | recursion
  deriving DecidableEq, Repr

/-- The exceptions the `sqlite3` binding raises inside a transaction. -/
inductive SqliteError
  | integrity
  | overflow
  | operational (busy : Bool)
  deriving DecidableEq, Repr

/-- What can end a transaction. -/
inductive TxError
  | raised (e : ConsumptionError)
  | sqlite (e : SqliteError)
  deriving DecidableEq, Repr

/-! ## Rows -/

/-- `approval_consumptions`. -/
structure ConsumptionRow where
  approvalId : Bytes
  approverXonlyPublicKey : Bytes
  approvalNonce : Bytes
  observableCommitment : Bytes
  recipientScope : Bytes
  networkId : Str
  notBefore : Int
  expiresAt : Int
  consumedAt : Int
  deriving DecidableEq, Repr

/-- `authority_state`, the single pinned row. -/
structure AuthorityRow where
  authorityEpoch : Int
  governancePolicySha256 : Bytes
  retentionPolicySha256 : Bytes
  promotionPolicySha256 : Bytes
  networkId : Str
  approverXonlyPublicKey : Bytes
  recipientScope : Bytes
  authorityNotBefore : Int
  authorityNotAfter : Int
  deriving DecidableEq, Repr

/-- `approval_outbox`. -/
structure OutboxRow where
  approvalId : Bytes
  observableCommitment : Bytes
  bundleWire : Bytes
  statementWire : Bytes
  statementDigest : Bytes
  reportNonce : Bytes
  enqueuedAt : Int
  retentionDeadline : Int
  leaseToken : Option Bytes
  leaseExpiresAt : Option Int
  deriving DecidableEq, Repr

/-- `approval_outbox` as schema version 3 had it. -/
structure OutboxRowV3 where
  approvalId : Bytes
  observableCommitment : Bytes
  bundleWire : Bytes
  enqueuedAt : Int
  retentionDeadline : Int
  leaseToken : Option Bytes
  leaseExpiresAt : Option Int
  deriving DecidableEq, Repr

/-- `observable_analysis_results`. -/
structure ResultRow where
  approvalId : Bytes
  resultWire : Bytes
  resultDigest : Bytes
  inputIdentity : Bytes
  completionTokenDigest : Bytes
  completedAt : Int
  retentionDeadline : Int
  deriving DecidableEq, Repr

/-- `threat_hint_v2_pairings`. -/
structure PairingRow where
  statementDigest : Bytes
  approvalId : Bytes
  observableCommitment : Bytes
  networkId : Str
  consumedAt : Int
  deriving DecidableEq, Repr

/-! ## Constraints

The `STRICT` tables hold 64-bit integers in their `INTEGER` columns; a schema's `check` includes
this next to the declared `CHECK` constraints. -/

/-- A value an `INTEGER` column can hold. -/
def isInteger (v : Int) : Bool := decide (-2 ^ 63 ≤ v) && decide (v < 2 ^ 63)

def consumptionSchema : Schema ConsumptionRow where
  check r := isFixedBytes r.approvalId && isFixedBytes r.approverXonlyPublicKey &&
    isFixedBytes r.approvalNonce && isFixedBytes r.observableCommitment &&
    isFixedBytes r.recipientScope && isInteger r.notBefore && isInteger r.expiresAt &&
    isInteger r.consumedAt
  conflict a b := decide (a.approvalId = b.approvalId) ||
    (decide (a.approverXonlyPublicKey = b.approverXonlyPublicKey) &&
      decide (a.approvalNonce = b.approvalNonce))
  symm a b := by simp only [eq_comm]

def outboxSchema : Schema OutboxRow where
  check r := isFixedBytes r.approvalId && isFixedBytes r.observableCommitment &&
    decide (1 ≤ r.bundleWire.length) && decide (1 ≤ r.statementWire.length) &&
    isFixedBytes r.statementDigest && isFixedBytes r.reportNonce &&
    decide (1 ≤ r.enqueuedAt) && decide (r.enqueuedAt ≤ r.retentionDeadline) &&
    r.leaseToken.all isFixedBytes && r.leaseExpiresAt.all (fun x => decide (1 ≤ x)) &&
    (r.leaseToken.isNone == r.leaseExpiresAt.isNone) &&
    r.leaseExpiresAt.all (fun x => decide (x ≤ r.retentionDeadline)) &&
    isInteger r.retentionDeadline
  conflict a b := decide (a.approvalId = b.approvalId)
  symm a b := by simp only [eq_comm]

def resultSchema : Schema ResultRow where
  check r := isFixedBytes r.approvalId && decide (1 ≤ r.resultWire.length) &&
    isFixedBytes r.resultDigest && isFixedBytes r.inputIdentity &&
    isFixedBytes r.completionTokenDigest && decide (1 ≤ r.completedAt) &&
    decide (r.completedAt ≤ r.retentionDeadline) && isInteger r.retentionDeadline
  conflict a b := decide (a.approvalId = b.approvalId)
  symm a b := by simp only [eq_comm]

def pairingSchema : Schema PairingRow where
  check r := isFixedBytes r.statementDigest && isFixedBytes r.approvalId &&
    isFixedBytes r.observableCommitment && decide (1 ≤ r.consumedAt) && isInteger r.consumedAt
  conflict a b := decide (a.statementDigest = b.statementDigest) ||
    decide (a.approvalId = b.approvalId) ||
    decide (a.observableCommitment = b.observableCommitment)
  symm a b := by simp only [eq_comm]

/-- The `CHECK` constraints of `authority_state`. -/
def authorityCheck (r : AuthorityRow) : Bool :=
  decide (1 ≤ r.authorityEpoch) && isFixedBytes r.governancePolicySha256 &&
    isFixedBytes r.retentionPolicySha256 && isFixedBytes r.promotionPolicySha256 &&
    isFixedBytes r.approverXonlyPublicKey && isFixedBytes r.recipientScope

/-! ## The file -/

/-- `PRAGMA user_version` together with the layout `_validate_schema` requires of it. A file whose
tables do not have the layout of its version is `unsupported`. -/
inductive SchemaVersion
  | fresh
  | legacy
  | governedV2
  | governedV3
  | governedV4
  | governed
  | unsupported
  deriving DecidableEq, Repr

/-- The ledger file. A table that the file's version does not have is empty. -/
structure Db where
  version : SchemaVersion
  authorityState : Option AuthorityRow
  /-- `ledger_state.high_water_seconds`; `none` when the row is missing. -/
  ledgerState : Option Int
  approvalConsumptions : Table consumptionSchema
  approvalOutbox : Table outboxSchema
  approvalOutboxV3 : List OutboxRowV3
  observableAnalysisResults : Table resultSchema
  threatHintV2Pairings : Table pairingSchema

/-- A file that was just created. -/
def Db.fresh : Db :=
  ⟨.fresh, none, none, .empty, .empty, [], .empty, .empty⟩

/-! ## Configuration objects -/

/-- The fields of `ThreatHintV2GovernancePolicy` the ledger reads. -/
structure GovernancePolicy where
  networkId : Str
  approverXonlyPublicKey : Bytes
  recipientScope : Bytes
  authorityEpoch : Int
  authorityNotBefore : Int
  authorityNotAfter : Int
  policySha256 : Bytes
  deriving DecidableEq, Repr

/-- The fields of `OutboxRetentionPolicy` the ledger reads. -/
structure RetentionPolicy where
  maxPendingRecords : Int
  maxRetentionSeconds : Int
  policySha256 : Bytes
  deriving DecidableEq, Repr

/-- `_GovernanceBinding`. `objectId` is the Python object's identity, which `is` compares. -/
structure GovernanceBinding where
  objectId : Nat
  policy : GovernancePolicy
  retention : RetentionPolicy
  promotionPolicySha256 : Bytes
  deriving DecidableEq, Repr

/-- `VerifiedObservableApproval`. -/
structure VerifiedApproval where
  approvalId : Bytes
  observableCommitment : Bytes
  approverXonlyPublicKey : Bytes
  recipientScope : Bytes
  approvalNonce : Bytes
  networkId : Str
  notBefore : Int
  expiresAt : Int
  deriving DecidableEq, Repr

/-- A `_ObservableApprovalLedger` object: its constructor refuses a durable outbox without
governance (`:296-299`). -/
structure LedgerObject where
  governance : Option GovernanceBinding
  outboxEnabled : Bool
  governed_of_outbox : outboxEnabled = true → governance.isSome = true

theorem governed_of_no_outbox {governance : Option GovernanceBinding} :
    false = true → governance.isSome = true :=
  fun enabled => absurd enabled Bool.false_ne_true

/-- How the engine interferes with a call: an `OperationalError` raised while connecting, at any
statement or at `COMMIT` of the call's transaction, or in the lookup that follows a constraint
violation; `busy` is the lock timeout. -/
structure Io where
  transaction : Option Bool
  lookup : Option Bool
  deriving DecidableEq, Repr

/-- No interference. -/
def Io.none : Io := ⟨Option.none, Option.none⟩

abbrev LedgerTx := Tx Db TxError

/-- Run a transaction unless the engine interferes. Wherever in it the engine raises, the whole
transaction is rolled back. -/
def transactIo {α : Type} (fault : Option Bool) (body : LedgerTx α) (db : Db) :
    Except TxError α × Db :=
  match fault with
  | some busy => (.error (.sqlite (.operational busy)), db)
  | none => transact body db

/-- Binding a Python integer to an SQLite parameter. -/
def bindInteger (v : Int) : LedgerTx Unit :=
  Tx.ensure (isInteger v) (.sqlite .overflow)

/-- `_raise_operational_error`. -/
def raiseOperationalError (busy : Bool) : ConsumptionError :=
  if busy then .busy else .consumption

theorem transactIo_ok {α : Type} {fault : Option Bool} {body : LedgerTx α} {db db' : Db} {a : α} :
    transactIo fault body db = (.ok a, db') ↔ fault = none ∧ body db = .ok (a, db') := by
  cases fault with
  | none => simp [transactIo, transact_ok]
  | some busy => simp [transactIo]

theorem transactIo_error {α : Type} {fault : Option Bool} {body : LedgerTx α} {db db' : Db}
    {e : TxError} (h : transactIo fault body db = (.error e, db')) : db' = db := by
  cases fault with
  | none => exact transact_error h
  | some busy => simpa [transactIo, eq_comm] using (Prod.mk.inj h).2

end Prometheus.Jaeger.ApprovalLedger
