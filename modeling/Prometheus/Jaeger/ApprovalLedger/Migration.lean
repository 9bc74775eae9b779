import Prometheus.Jaeger.ApprovalLedger.Service
import Prometheus.Machine.Database

/-!
# Opening a ledger file of an older version

`_initialize_schema` (`:314-492`), `_create_legacy_schema` (`:495-524`) and `_validate_schema`
(`:949-1096`) on a file of which nothing is known: which tables it has, with which columns,
constraints and rows. `Service` describes the same constructor on the files the ledger itself
writes.
-/

namespace Prometheus.Jaeger.ApprovalLedger.Migration

open Prometheus.Codec Prometheus.Machine

/-! ## Names -/

/-- The tables the statements mention. -/
inductive TableName
  | approvalConsumptions
  | ledgerState
  | authorityState
  | approvalOutbox
  | observableAnalysisResults
  | threatHintV2Pairings
  deriving DecidableEq, Repr

inductive ColumnName
  | singleton
  | approvalId
  | approverXonlyPublicKey
  | approvalNonce
  | observableCommitment
  | recipientScope
  | networkId
  | notBefore
  | expiresAt
  | consumedAt
  | highWaterSeconds
  | authorityEpoch
  | governancePolicySha256
  | retentionPolicySha256
  | promotionPolicySha256
  | authorityNotBefore
  | authorityNotAfter
  | bundleWire
  | statementWire
  | statementDigest
  | reportNonce
  | enqueuedAt
  | retentionDeadline
  | leaseToken
  | leaseExpiresAt
  | resultWire
  | resultDigest
  | inputIdentity
  | completionTokenDigest
  | completedAt
  | other (name : String)
  deriving DecidableEq, Repr

abbrev LedgerFile := Database TableName ColumnName

abbrev LedgerRow := Row ColumnName

abbrev FileTx := Sql TableName ColumnName ConsumptionError

/-! ## The declared tables

A `STRICT` table reports the columns of a `PRIMARY KEY` as `NOT NULL`, unless the key is the row id
(`INTEGER PRIMARY KEY`). -/

/-- `CHECK(length(column) = 32)`. -/
def isFixed (column : ColumnName) (row : LedgerRow) : Bool :=
  (row column).length == fixedHashBytes

/-- `CHECK(column >= least)`. -/
def isAtLeast (least : Int) (column : ColumnName) (row : LedgerRow) : Bool :=
  Value.le (.integer least) (row column)

/-- A check of a column that may be `NULL`. -/
def orNull (check : ColumnName → LedgerRow → Bool) (column : ColumnName) (row : LedgerRow) : Bool :=
  decide (row column = .null) || check column row

def consumptionsLayout : Layout TableName ColumnName where
  columns :=
    [⟨.approvalId, .blob, true, 1⟩, ⟨.approverXonlyPublicKey, .blob, true, 0⟩,
      ⟨.approvalNonce, .blob, true, 0⟩, ⟨.observableCommitment, .blob, true, 0⟩,
      ⟨.recipientScope, .blob, true, 0⟩, ⟨.networkId, .text, true, 0⟩,
      ⟨.notBefore, .integer, true, 0⟩, ⟨.expiresAt, .integer, true, 0⟩,
      ⟨.consumedAt, .integer, true, 0⟩]
  isTable := true
  strict := true
  uniqueIndexes := [[.approverXonlyPublicKey, .approvalNonce], [.approvalId]]
  foreignKeys := []

def consumptionsCheck (row : LedgerRow) : Bool :=
  isFixed .approvalId row && isFixed .approverXonlyPublicKey row && isFixed .approvalNonce row &&
    isFixed .observableCommitment row && isFixed .recipientScope row

def stateLayout : Layout TableName ColumnName where
  columns := [⟨.singleton, .integer, false, 1⟩, ⟨.highWaterSeconds, .integer, true, 0⟩]
  isTable := true
  strict := true
  uniqueIndexes := []
  foreignKeys := []

/-- `CHECK (singleton = 1)`. -/
def isSingleton (row : LedgerRow) : Bool := decide (row .singleton = .integer 1)

def authorityLayout : Layout TableName ColumnName where
  columns :=
    [⟨.singleton, .integer, false, 1⟩, ⟨.authorityEpoch, .integer, true, 0⟩,
      ⟨.governancePolicySha256, .blob, true, 0⟩, ⟨.retentionPolicySha256, .blob, true, 0⟩,
      ⟨.promotionPolicySha256, .blob, true, 0⟩, ⟨.networkId, .text, true, 0⟩,
      ⟨.approverXonlyPublicKey, .blob, true, 0⟩, ⟨.recipientScope, .blob, true, 0⟩,
      ⟨.authorityNotBefore, .integer, true, 0⟩, ⟨.authorityNotAfter, .integer, true, 0⟩]
  isTable := true
  strict := true
  uniqueIndexes := []
  foreignKeys := []

def authorityCheck (row : LedgerRow) : Bool :=
  isSingleton row && isAtLeast 1 .authorityEpoch row && isFixed .governancePolicySha256 row &&
    isFixed .retentionPolicySha256 row && isFixed .promotionPolicySha256 row &&
    isFixed .approverXonlyPublicKey row && isFixed .recipientScope row

def outboxLayout : Layout TableName ColumnName where
  columns :=
    [⟨.approvalId, .blob, true, 1⟩, ⟨.observableCommitment, .blob, true, 0⟩,
      ⟨.bundleWire, .blob, true, 0⟩, ⟨.statementWire, .blob, true, 0⟩,
      ⟨.statementDigest, .blob, true, 0⟩, ⟨.reportNonce, .blob, true, 0⟩,
      ⟨.enqueuedAt, .integer, true, 0⟩, ⟨.retentionDeadline, .integer, true, 0⟩,
      ⟨.leaseToken, .blob, false, 0⟩, ⟨.leaseExpiresAt, .integer, false, 0⟩]
  isTable := true
  strict := true
  uniqueIndexes := [[.approvalId]]
  foreignKeys := []

def outboxCheck (row : LedgerRow) : Bool :=
  isFixed .approvalId row && isFixed .observableCommitment row &&
    decide (1 ≤ (row .bundleWire).length) && decide (1 ≤ (row .statementWire).length) &&
    isFixed .statementDigest row && isFixed .reportNonce row && isAtLeast 1 .enqueuedAt row &&
    Value.le (row .enqueuedAt) (row .retentionDeadline) && orNull isFixed .leaseToken row &&
    orNull (isAtLeast 1) .leaseExpiresAt row &&
    (decide (row .leaseToken = .null) == decide (row .leaseExpiresAt = .null)) &&
    orNull (fun column row => Value.le (row column) (row .retentionDeadline)) .leaseExpiresAt row

def resultsLayout : Layout TableName ColumnName where
  columns :=
    [⟨.approvalId, .blob, true, 1⟩, ⟨.resultWire, .blob, true, 0⟩,
      ⟨.resultDigest, .blob, true, 0⟩, ⟨.inputIdentity, .blob, true, 0⟩,
      ⟨.completionTokenDigest, .blob, true, 0⟩, ⟨.completedAt, .integer, true, 0⟩,
      ⟨.retentionDeadline, .integer, true, 0⟩]
  isTable := true
  strict := true
  uniqueIndexes := [[.approvalId]]
  foreignKeys := [(.approvalConsumptions, .approvalId, .approvalId)]

def resultsCheck (row : LedgerRow) : Bool :=
  isFixed .approvalId row && decide (1 ≤ (row .resultWire).length) && isFixed .resultDigest row &&
    isFixed .inputIdentity row && isFixed .completionTokenDigest row &&
    isAtLeast 1 .completedAt row && Value.le (row .completedAt) (row .retentionDeadline)

def pairingsLayout : Layout TableName ColumnName where
  columns :=
    [⟨.statementDigest, .blob, true, 1⟩, ⟨.approvalId, .blob, true, 0⟩,
      ⟨.observableCommitment, .blob, true, 0⟩, ⟨.networkId, .text, true, 0⟩,
      ⟨.consumedAt, .integer, true, 0⟩]
  isTable := true
  strict := true
  uniqueIndexes := [[.observableCommitment], [.approvalId], [.statementDigest]]
  foreignKeys := [(.approvalConsumptions, .approvalId, .approvalId)]

def pairingsCheck (row : LedgerRow) : Bool :=
  isFixed .statementDigest row && isFixed .approvalId row && isFixed .observableCommitment row &&
    isAtLeast 1 .consumedAt row

/-! ## `_validate_schema` -/

/-- The shapes that `_validate_schema` expects. -/
def expectedConsumptions : List (Column ColumnName) :=
  [⟨.approvalId, .blob, true, 1⟩, ⟨.approverXonlyPublicKey, .blob, true, 0⟩,
    ⟨.approvalNonce, .blob, true, 0⟩, ⟨.observableCommitment, .blob, true, 0⟩,
    ⟨.recipientScope, .blob, true, 0⟩, ⟨.networkId, .text, true, 0⟩,
    ⟨.notBefore, .integer, true, 0⟩, ⟨.expiresAt, .integer, true, 0⟩,
    ⟨.consumedAt, .integer, true, 0⟩]

def expectedState : List (Column ColumnName) :=
  [⟨.singleton, .integer, false, 1⟩, ⟨.highWaterSeconds, .integer, true, 0⟩]

def expectedAuthority : List (Column ColumnName) :=
  [⟨.singleton, .integer, false, 1⟩, ⟨.authorityEpoch, .integer, true, 0⟩,
    ⟨.governancePolicySha256, .blob, true, 0⟩, ⟨.retentionPolicySha256, .blob, true, 0⟩,
    ⟨.promotionPolicySha256, .blob, true, 0⟩, ⟨.networkId, .text, true, 0⟩,
    ⟨.approverXonlyPublicKey, .blob, true, 0⟩, ⟨.recipientScope, .blob, true, 0⟩,
    ⟨.authorityNotBefore, .integer, true, 0⟩, ⟨.authorityNotAfter, .integer, true, 0⟩]

def expectedOutboxV3 : List (Column ColumnName) :=
  [⟨.approvalId, .blob, true, 1⟩, ⟨.observableCommitment, .blob, true, 0⟩,
    ⟨.bundleWire, .blob, true, 0⟩, ⟨.enqueuedAt, .integer, true, 0⟩,
    ⟨.retentionDeadline, .integer, true, 0⟩, ⟨.leaseToken, .blob, false, 0⟩,
    ⟨.leaseExpiresAt, .integer, false, 0⟩]

def expectedOutboxV4 : List (Column ColumnName) :=
  [⟨.approvalId, .blob, true, 1⟩, ⟨.observableCommitment, .blob, true, 0⟩,
    ⟨.bundleWire, .blob, true, 0⟩, ⟨.statementWire, .blob, true, 0⟩,
    ⟨.statementDigest, .blob, true, 0⟩, ⟨.reportNonce, .blob, true, 0⟩,
    ⟨.enqueuedAt, .integer, true, 0⟩, ⟨.retentionDeadline, .integer, true, 0⟩,
    ⟨.leaseToken, .blob, false, 0⟩, ⟨.leaseExpiresAt, .integer, false, 0⟩]

def expectedResults : List (Column ColumnName) :=
  [⟨.approvalId, .blob, true, 1⟩, ⟨.resultWire, .blob, true, 0⟩, ⟨.resultDigest, .blob, true, 0⟩,
    ⟨.inputIdentity, .blob, true, 0⟩, ⟨.completionTokenDigest, .blob, true, 0⟩,
    ⟨.completedAt, .integer, true, 0⟩, ⟨.retentionDeadline, .integer, true, 0⟩]

def expectedPairings : List (Column ColumnName) :=
  [⟨.statementDigest, .blob, true, 1⟩, ⟨.approvalId, .blob, true, 0⟩,
    ⟨.observableCommitment, .blob, true, 0⟩, ⟨.networkId, .text, true, 0⟩,
    ⟨.consumedAt, .integer, true, 0⟩]

/-- `_is_strict_table`. -/
def isStrictTable (db : LedgerFile) (table : TableName) (columns : Nat) : Bool :=
  (db.tables table).any fun relation =>
    relation.layout.isTable && decide (relation.layout.columns.length = columns) &&
      relation.layout.strict

/-- Two lists hold the same elements, as the sets of them do. -/
def sameSet {α : Type} [DecidableEq α] (a b : List α) : Bool :=
  a.all (fun x => decide (x ∈ b)) && b.all fun x => decide (x ∈ a)

/-- `_unique_index_columns(connection, table) == expected`. -/
def hasUniqueIndexes (db : LedgerFile) (table : TableName) (expected : List (List ColumnName)) :
    Bool :=
  sameSet (((db.tables table).map fun relation => relation.layout.uniqueIndexes).getD []) expected

/-- `_foreign_key_targets(connection, table) == expected`. -/
def hasForeignKeys (db : LedgerFile) (table : TableName)
    (expected : List (TableName × ColumnName × ColumnName)) : Bool :=
  sameSet (((db.tables table).map fun relation => relation.layout.foreignKeys).getD []) expected

/-- The first condition of `_validate_schema`. -/
def isLegacyLayout (expectedVersion : Int) (db : LedgerFile) : Bool :=
  decide (db.userVersion = expectedVersion) &&
    decide (db.tableInfo .approvalConsumptions = expectedConsumptions) &&
    decide (db.tableInfo .ledgerState = expectedState) &&
    isStrictTable db .approvalConsumptions 9 && isStrictTable db .ledgerState 2 &&
    hasUniqueIndexes db .approvalConsumptions
      [[.approvalId], [.approverXonlyPublicKey, .approvalNonce]]

/-- The second condition, of a governed file. -/
def isGovernedLayout (governedVersion : Int) (db : LedgerFile) : Bool :=
  decide (db.tableInfo .authorityState = expectedAuthority) &&
    isStrictTable db .authorityState 10 &&
    decide ((db.rows .authorityState).length ≤ 1) &&
    decide (db.tableInfo .approvalOutbox =
      if governedVersion = 3 then expectedOutboxV3 else expectedOutboxV4) &&
    isStrictTable db .approvalOutbox (if governedVersion = 3 then 7 else 10) &&
    hasUniqueIndexes db .approvalOutbox [[.approvalId]]

/-- The third condition, of versions 4 and 5. -/
def isResultsLayout (db : LedgerFile) : Bool :=
  decide (db.tableInfo .observableAnalysisResults = expectedResults) &&
    isStrictTable db .observableAnalysisResults 7 &&
    hasUniqueIndexes db .observableAnalysisResults [[.approvalId]] &&
    hasForeignKeys db .observableAnalysisResults [(.approvalConsumptions, .approvalId, .approvalId)]

/-- The last condition, of version 5. -/
def isPairingsLayout (db : LedgerFile) : Bool :=
  decide (db.tableInfo .threatHintV2Pairings = expectedPairings) &&
    isStrictTable db .threatHintV2Pairings 5 &&
    hasUniqueIndexes db .threatHintV2Pairings
      [[.statementDigest], [.approvalId], [.observableCommitment]] &&
    hasForeignKeys db .threatHintV2Pairings [(.approvalConsumptions, .approvalId, .approvalId)]

/-- `_validate_schema` with `governed=False`; `false` where it raises. -/
def isLegacySchema (db : LedgerFile) : Bool := isLegacyLayout 1 db

/-- `_validate_schema` with `governed=True` and a `governed_version`; `false` where it raises. -/
def isGovernedSchema (governedVersion : Int) (db : LedgerFile) : Bool :=
  decide (governedVersion ∈ ([3, 4, 5] : List Int)) && isLegacyLayout governedVersion db &&
    isGovernedLayout governedVersion db &&
    (decide (governedVersion ∉ ([4, 5] : List Int)) || isResultsLayout db) &&
    (decide (governedVersion ≠ 5) || isPairingsLayout db)

/-! ## `_initialize_schema` -/

/-- Raise unless a condition on the file holds. -/
def require (p : LedgerFile → Bool) : FileTx Unit := do
  let holds ← Tx.query p
  Tx.ensure holds (.raised .consumption)

/-- `if _table_shape(connection, table): raise`. -/
def refuse (table : TableName) : FileTx Unit :=
  require fun db => (db.tableInfo table).isEmpty

/-- The row of `INSERT OR IGNORE INTO ledger_state … VALUES (1, 0)`. -/
def initialState : LedgerRow
  | .singleton => .integer 1
  | .highWaterSeconds => .integer 0
  | _ => .null

/-- `_create_legacy_schema`. -/
def createLegacySchema : FileTx Unit := do
  Sql.createTableIfNotExists .approvalConsumptions consumptionsLayout consumptionsCheck
  Sql.createTableIfNotExists .ledgerState stateLayout isSingleton
  Sql.insertOrIgnore .ledgerState initialState

/-- The checks before anything is created. -/
def refuseUnexpected (governed : Bool) (version : Int) : FileTx Unit := do
  Tx.ensure (decide (version ∈ (if governed then [0, 1, 2, 3, 4, 5] else [0, 1] : List Int)))
    (.raised .consumption)
  Tx.onlyIf (decide (version = 1)) (require isLegacySchema)
  Tx.onlyIf (governed && decide (version ∈ ([0, 1] : List Int))) (refuse .authorityState)
  Tx.onlyIf (governed && decide (version ∉ ([3, 4, 5] : List Int))) (refuse .approvalOutbox)
  Tx.onlyIf (governed && decide (version ∉ ([4, 5] : List Int)))
    (refuse .observableAnalysisResults)
  Tx.onlyIf (decide (version ≠ 5)) (refuse .threatHintV2Pairings)

/-- `SELECT COUNT(*)` and the refusal of a table that is not empty. -/
def requireEmpty (table : TableName) : FileTx Unit := do
  let pending ← Sql.count table
  Tx.ensure (decide (pending = 0)) (.raised .consumption)

/-- Version 3: the outbox must be empty, and is replaced. -/
def dropOutboxV3 : FileTx Unit := do
  require (isGovernedSchema 3)
  requireEmpty .approvalOutbox
  Sql.dropTable .approvalOutbox

/-- Version 4: the outbox and the results must be empty. -/
def requireEmptyV4 : FileTx Unit := do
  require (isGovernedSchema 4)
  requireEmpty .approvalOutbox
  requireEmpty .observableAnalysisResults

def createGovernedTables : FileTx Unit := do
  Sql.createTableIfNotExists .authorityState authorityLayout authorityCheck
  Sql.createTableIfNotExists .approvalOutbox outboxLayout outboxCheck
  Sql.createTableIfNotExists .observableAnalysisResults resultsLayout resultsCheck
  Sql.createTableIfNotExists .threatHintV2Pairings pairingsLayout pairingsCheck

/-- A governed file of a version before 5. -/
def migrateGoverned (version : Int) : FileTx Unit := do
  Tx.onlyIf (decide (version = 3)) dropOutboxV3
  Tx.onlyIf (decide (version = 4)) requireEmptyV4
  createGovernedTables
  Sql.setUserVersion 5
  require (isGovernedSchema 5)

/-- The last part of `_initialize_schema` without governance. -/
def finishLegacy : FileTx Unit := do
  Sql.setUserVersion 1
  require isLegacySchema

/-- `_initialize_schema`. -/
def initializeSchema (governed : Bool) (version : Int) : FileTx Unit := do
  refuseUnexpected governed version
  Tx.onlyIf (decide (version = 0)) createLegacySchema
  if governed then
    if version = 5 then require (isGovernedSchema 5) else migrateGoverned version
  else finishLegacy

/-- The transaction of `__init__`. -/
def openTransaction (governed : Bool) : FileTx Unit := do
  let version ← Sql.userVersion
  initializeSchema governed version

/-- `__init__` on the file; `fault` is an `OperationalError` that the engine raises while it connects
or at any statement. -/
def openFile (governed : Bool) (fault : Option Bool) (db : LedgerFile) :
    Except ConsumptionError Unit × LedgerFile :=
  match fault with
  | some busy => (.error (raiseOperationalError busy), db)
  | none =>
    match transact (openTransaction governed) db with
    | (.ok _, db') => (.ok (), db')
    | (.error (.raised e), db') => (.error e, db')
    | (.error (.sqlite .integrity), db') => (.error .consumption, db')
    | (.error (.sqlite (.operational busy)), db') => (.error (raiseOperationalError busy), db')

end Prometheus.Jaeger.ApprovalLedger.Migration
