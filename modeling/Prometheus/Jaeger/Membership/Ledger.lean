import Prometheus.Jaeger.Membership.Wire
import Prometheus.Machine.Database
import Prometheus.Machine.Trace

/-!
# The membership ledger

`GuardianMembershipAuthority` of `guardian_membership_transition.py` on its SQLite file: the two
schema versions, `_validate_ledger`, the migration, `apply_transition` and `rotate_authority`, as a
step machine on the file. The object keeps the policy it was built with and no connection, so every
call names its policy, and a reopened object or one of another process is another call.
-/

namespace Prometheus.Jaeger.Membership

open Prometheus.Codec Prometheus.Machine
open Prometheus.ThreatHint.Python (validateNetworkId)

/-! ## Names -/

/-- The tables the statements mention. -/
inductive TableName
  | membershipAuthority
  | currentAuthority
  | authorityKeyHistory
  | authorityRotations
  | currentMembership
  | membershipClock
  | membershipTransitions
  | membershipTransitionsV1
  deriving DecidableEq, Repr

inductive ColumnName
  | singleton
  | networkId
  | authorityXonlyPublicKey
  | bootstrapEpoch
  | bootstrapMembershipSourceSha256
  | authorityEpoch
  | rotationId
  | nonce
  | previousAuthorityEpoch
  | previousAuthorityXonlyPublicKey
  | nextAuthorityEpoch
  | nextAuthorityXonlyPublicKey
  | membershipEpoch
  | membershipSourceSha256
  | notBeforeMs
  | notAfterMs
  | appliedAtMs
  | rotationWire
  | epoch
  | sourceWire
  | highWaterMs
  | transitionId
  | previousEpoch
  | previousMembershipSourceSha256
  | nextEpoch
  | nextMembershipSourceSha256
  | transitionWire
  | other (name : String)
  deriving DecidableEq, Repr

abbrev LedgerFile := Database TableName ColumnName

abbrev LedgerRow := Row ColumnName

abbrev LedgerTx := Sql TableName ColumnName MembershipError

/-! ## The declared tables -/

/-- `CHECK(singleton = 1)` and `WHERE singleton = 1`. -/
def isSingleton (row : LedgerRow) : Bool := decide (row .singleton = .integer 1)

/-- `CHECK(length(column) = 32)`. -/
def isFixed (column : ColumnName) (row : LedgerRow) : Bool := (row column).length == 32

/-- `CHECK(column >= least)`. -/
def isAtLeast (least : Int) (column : ColumnName) (row : LedgerRow) : Bool :=
  Value.le (.integer least) (row column)

/-- `CHECK(length(column) >= 1 AND length(column) <= most)`. -/
def isBounded (most : Nat) (column : ColumnName) (row : LedgerRow) : Bool :=
  decide (1 ≤ (row column).length) && decide ((row column).length ≤ most)

/-- A `STRICT` table with these columns and unique indexes. -/
def strictLayout (columns : List (Column ColumnName)) (uniqueIndexes : List (List ColumnName)) :
    Layout TableName ColumnName where
  columns := columns
  isTable := true
  strict := true
  uniqueIndexes := uniqueIndexes
  foreignKeys := []

def membershipAuthorityLayout : Layout TableName ColumnName :=
  strictLayout
    [⟨.singleton, .integer, false, 1⟩, ⟨.networkId, .text, true, 0⟩,
      ⟨.authorityXonlyPublicKey, .blob, true, 0⟩, ⟨.bootstrapEpoch, .integer, true, 0⟩,
      ⟨.bootstrapMembershipSourceSha256, .blob, true, 0⟩] []

def membershipAuthorityCheck (row : LedgerRow) : Bool :=
  isSingleton row && isFixed .authorityXonlyPublicKey row && isAtLeast 0 .bootstrapEpoch row &&
    isFixed .bootstrapMembershipSourceSha256 row

def currentAuthorityLayout : Layout TableName ColumnName :=
  strictLayout
    [⟨.singleton, .integer, false, 1⟩, ⟨.authorityEpoch, .integer, true, 0⟩,
      ⟨.authorityXonlyPublicKey, .blob, true, 0⟩] []

def currentAuthorityCheck (row : LedgerRow) : Bool :=
  isSingleton row && isAtLeast 0 .authorityEpoch row && isFixed .authorityXonlyPublicKey row

def authorityKeyHistoryLayout : Layout TableName ColumnName :=
  strictLayout
    [⟨.authorityEpoch, .integer, false, 1⟩, ⟨.authorityXonlyPublicKey, .blob, true, 0⟩]
    [[.authorityXonlyPublicKey]]

def authorityKeyHistoryCheck (row : LedgerRow) : Bool :=
  isAtLeast 0 .authorityEpoch row && isFixed .authorityXonlyPublicKey row

def authorityRotationsLayout : Layout TableName ColumnName :=
  strictLayout
    [⟨.rotationId, .blob, true, 1⟩, ⟨.nonce, .blob, true, 0⟩,
      ⟨.previousAuthorityEpoch, .integer, true, 0⟩,
      ⟨.previousAuthorityXonlyPublicKey, .blob, true, 0⟩,
      ⟨.nextAuthorityEpoch, .integer, true, 0⟩, ⟨.nextAuthorityXonlyPublicKey, .blob, true, 0⟩,
      ⟨.membershipEpoch, .integer, true, 0⟩, ⟨.membershipSourceSha256, .blob, true, 0⟩,
      ⟨.notBeforeMs, .integer, true, 0⟩, ⟨.notAfterMs, .integer, true, 0⟩,
      ⟨.appliedAtMs, .integer, true, 0⟩, ⟨.rotationWire, .blob, true, 0⟩]
    [[.nextAuthorityEpoch], [.previousAuthorityEpoch], [.nonce], [.rotationId]]

def authorityRotationsCheck (row : LedgerRow) : Bool :=
  isFixed .rotationId row && isFixed .nonce row && isAtLeast 0 .previousAuthorityEpoch row &&
    isFixed .previousAuthorityXonlyPublicKey row && isAtLeast 1 .nextAuthorityEpoch row &&
    isFixed .nextAuthorityXonlyPublicKey row && isAtLeast 0 .membershipEpoch row &&
    isFixed .membershipSourceSha256 row && isAtLeast 1 .notBeforeMs row &&
    Value.lt (row .notBeforeMs) (row .notAfterMs) &&
    Value.le (row .notBeforeMs) (row .appliedAtMs) &&
    isBounded maxAuthorityRotationBytes .rotationWire row

def currentMembershipLayout : Layout TableName ColumnName :=
  strictLayout
    [⟨.singleton, .integer, false, 1⟩, ⟨.epoch, .integer, true, 0⟩,
      ⟨.membershipSourceSha256, .blob, true, 0⟩, ⟨.sourceWire, .blob, true, 0⟩] []

def currentMembershipCheck (row : LedgerRow) : Bool :=
  isSingleton row && isAtLeast 0 .epoch row && isFixed .membershipSourceSha256 row &&
    isBounded maxMembershipSourceBytes .sourceWire row

def membershipClockLayout : Layout TableName ColumnName :=
  strictLayout [⟨.singleton, .integer, false, 1⟩, ⟨.highWaterMs, .integer, true, 0⟩] []

def membershipClockCheck (row : LedgerRow) : Bool := isSingleton row && isAtLeast 0 .highWaterMs row

def membershipTransitionsLayout : Layout TableName ColumnName :=
  strictLayout
    [⟨.transitionId, .blob, true, 1⟩, ⟨.nonce, .blob, true, 0⟩,
      ⟨.previousEpoch, .integer, true, 0⟩, ⟨.previousMembershipSourceSha256, .blob, true, 0⟩,
      ⟨.nextEpoch, .integer, true, 0⟩, ⟨.nextMembershipSourceSha256, .blob, true, 0⟩,
      ⟨.notBeforeMs, .integer, true, 0⟩, ⟨.notAfterMs, .integer, true, 0⟩,
      ⟨.appliedAtMs, .integer, true, 0⟩, ⟨.transitionWire, .blob, true, 0⟩,
      ⟨.authorityEpoch, .integer, true, 0⟩]
    [[.nextEpoch], [.nonce], [.transitionId]]

def membershipTransitionsCheck (row : LedgerRow) : Bool :=
  isFixed .transitionId row && isFixed .nonce row && isAtLeast 0 .previousEpoch row &&
    isFixed .previousMembershipSourceSha256 row && isAtLeast 0 .nextEpoch row &&
    isFixed .nextMembershipSourceSha256 row && isAtLeast 1 .notBeforeMs row &&
    Value.lt (row .notBeforeMs) (row .notAfterMs) &&
    Value.le (row .notBeforeMs) (row .appliedAtMs) &&
    isBounded maxMembershipTransitionBytes .transitionWire row && isAtLeast 0 .authorityEpoch row

/-! ## The policy -/

/-- `_AuthorityPolicy`, with what `_load_authority_policy` checks of it. -/
structure AuthorityPolicy (codec : MembershipCodec) where
  networkId : Str
  authorityXonlyPublicKey : Bytes
  bootstrapEpoch : Int
  bootstrapMembershipSourceSha256 : Bytes
  network_valid : validateNetworkId networkId = true
  key_length : authorityXonlyPublicKey.length = 32
  key_valid : codec.isPublicKey authorityXonlyPublicKey = true
  epoch_valid : isEpoch bootstrapEpoch = true
  digest_length : bootstrapMembershipSourceSha256.length = 32

variable {codec : MembershipCodec}

/-! ## Validation -/

/-- What a schema version expects of one table: its shape and its unique indexes. -/
structure ExpectedTable where
  name : TableName
  shape : List (Column ColumnName)
  indexes : List (List ColumnName)

/-- The tables that both versions have. -/
def expectedAnchors : List ExpectedTable :=
  [⟨.membershipAuthority,
      [⟨.singleton, .integer, false, 1⟩, ⟨.networkId, .text, true, 0⟩,
        ⟨.authorityXonlyPublicKey, .blob, true, 0⟩, ⟨.bootstrapEpoch, .integer, true, 0⟩,
        ⟨.bootstrapMembershipSourceSha256, .blob, true, 0⟩], []⟩,
    ⟨.currentMembership,
      [⟨.singleton, .integer, false, 1⟩, ⟨.epoch, .integer, true, 0⟩,
        ⟨.membershipSourceSha256, .blob, true, 0⟩, ⟨.sourceWire, .blob, true, 0⟩], []⟩,
    ⟨.membershipClock,
      [⟨.singleton, .integer, false, 1⟩, ⟨.highWaterMs, .integer, true, 0⟩], []⟩]

/-- The columns of `membership_transitions` in version 1. -/
def expectedTransitionsV1 : List (Column ColumnName) :=
  [⟨.transitionId, .blob, true, 1⟩, ⟨.nonce, .blob, true, 0⟩, ⟨.previousEpoch, .integer, true, 0⟩,
    ⟨.previousMembershipSourceSha256, .blob, true, 0⟩, ⟨.nextEpoch, .integer, true, 0⟩,
    ⟨.nextMembershipSourceSha256, .blob, true, 0⟩, ⟨.notBeforeMs, .integer, true, 0⟩,
    ⟨.notAfterMs, .integer, true, 0⟩, ⟨.appliedAtMs, .integer, true, 0⟩,
    ⟨.transitionWire, .blob, true, 0⟩]

/-- `expected_shapes` and `expected_indexes` of `_validate_v1_ledger`. -/
def expectedV1 : List ExpectedTable :=
  expectedAnchors ++
    [⟨.membershipTransitions, expectedTransitionsV1, [[.transitionId], [.nonce], [.nextEpoch]]⟩]

/-- `expected_shapes` and `expected_indexes` of `_validate_ledger`. -/
def expectedV2 : List ExpectedTable :=
  expectedAnchors ++
    [⟨.currentAuthority,
        [⟨.singleton, .integer, false, 1⟩, ⟨.authorityEpoch, .integer, true, 0⟩,
          ⟨.authorityXonlyPublicKey, .blob, true, 0⟩], []⟩,
      ⟨.authorityKeyHistory,
        [⟨.authorityEpoch, .integer, false, 1⟩, ⟨.authorityXonlyPublicKey, .blob, true, 0⟩],
        [[.authorityXonlyPublicKey]]⟩,
      ⟨.authorityRotations,
        [⟨.rotationId, .blob, true, 1⟩, ⟨.nonce, .blob, true, 0⟩,
          ⟨.previousAuthorityEpoch, .integer, true, 0⟩,
          ⟨.previousAuthorityXonlyPublicKey, .blob, true, 0⟩,
          ⟨.nextAuthorityEpoch, .integer, true, 0⟩,
          ⟨.nextAuthorityXonlyPublicKey, .blob, true, 0⟩, ⟨.membershipEpoch, .integer, true, 0⟩,
          ⟨.membershipSourceSha256, .blob, true, 0⟩, ⟨.notBeforeMs, .integer, true, 0⟩,
          ⟨.notAfterMs, .integer, true, 0⟩, ⟨.appliedAtMs, .integer, true, 0⟩,
          ⟨.rotationWire, .blob, true, 0⟩],
        [[.rotationId], [.nonce], [.previousAuthorityEpoch], [.nextAuthorityEpoch]]⟩,
      ⟨.membershipTransitions,
        expectedTransitionsV1 ++ [⟨.authorityEpoch, .integer, true, 0⟩],
        [[.transitionId], [.nonce], [.nextEpoch]]⟩]

/-- Two lists hold the same elements, as the sets of them do. -/
def sameIndexes (a b : List (List ColumnName)) : Bool :=
  a.all (fun x => decide (x ∈ b)) && b.all fun x => decide (x ∈ a)

/-- The shape, the strictness and the unique indexes of one table. -/
def ExpectedTable.isMet (expected : ExpectedTable) (db : LedgerFile) : Bool :=
  (db.layouts expected.name).any fun layout =>
    decide (layout.columns = expected.shape) && layout.isTable && layout.strict &&
      sameIndexes layout.uniqueIndexes expected.indexes

/-- All names. -/
def tableNames : List TableName :=
  [.membershipAuthority, .currentAuthority, .authorityKeyHistory, .authorityRotations,
    .currentMembership, .membershipClock, .membershipTransitions, .membershipTransitionsV1]

/-- `_schema_layout_matches`: there are the expected tables and no other object. -/
def schemaLayoutMatches (version : Int) (expected : List ExpectedTable) (db : LedgerFile) : Bool :=
  decide (db.userVersion = version) && db.otherTables.isEmpty && db.otherObjects.isEmpty &&
    (tableNames.all fun name =>
      decide ((db.layouts name).isSome = true ↔ name ∈ expected.map ExpectedTable.name)) &&
    expected.all fun table => table.isMet db

/-- `_validate_immutable_anchor`; `false` where it raises. -/
def isAnchored (policy : AuthorityPolicy codec) (db : LedgerFile) : Bool :=
  decide (((db.rows .membershipAuthority).filter isSingleton).map
      (fun row => (row .networkId, row .authorityXonlyPublicKey, row .bootstrapEpoch,
        row .bootstrapMembershipSourceSha256)) =
    [(.text policy.networkId, .blob policy.authorityXonlyPublicKey, .integer policy.bootstrapEpoch,
      .blob policy.bootstrapMembershipSourceSha256)]) &&
    decide ((db.rows .currentMembership).length = 1) && decide ((db.rows .membershipClock).length = 1)

/-- The last part of `_validate_ledger`, of the row of `current_authority`. -/
def isCurrentAuthority (policy : AuthorityPolicy codec) (db : LedgerFile) (row : LedgerRow) : Bool :=
  match row .authorityEpoch, row .authorityXonlyPublicKey with
  | .integer authorityEpoch, .blob authorityKey =>
    isEpoch authorityEpoch && decide (authorityKey.length = 32) &&
      decide (((db.rows .authorityRotations).length : Int) = authorityEpoch) &&
      decide (((db.rows .authorityKeyHistory).length : Int) = authorityEpoch + 1) &&
      ((db.rows .authorityKeyHistory).any fun key =>
        decide (key .authorityEpoch = .integer authorityEpoch) &&
          decide (key .authorityXonlyPublicKey = .blob authorityKey)) &&
      (db.rows .authorityKeyHistory).any fun key =>
        decide (key .authorityEpoch = .integer 0) &&
          decide (key .authorityXonlyPublicKey = .blob policy.authorityXonlyPublicKey)
  | _, _ => false

/-- `_validate_v1_ledger`; `false` where it raises. -/
def isValidV1Ledger (policy : AuthorityPolicy codec) (db : LedgerFile) : Bool :=
  schemaLayoutMatches 1 expectedV1 db && isAnchored policy db

/-- `_validate_ledger`; `false` where it raises. -/
def isValidLedger (policy : AuthorityPolicy codec) (db : LedgerFile) : Bool :=
  schemaLayoutMatches 2 expectedV2 db && isAnchored policy db &&
    match (db.rows .currentAuthority).filter isSingleton with
    | [row] => isCurrentAuthority policy db row
    | _ => false

/-- Raise unless a condition on the file holds. -/
def require (p : LedgerFile → Bool) : LedgerTx Unit := do
  let holds ← Tx.query p
  Tx.ensure holds (.raised .transition)

/-! ## Opening a file -/

/-- `INSERT INTO membership_authority`. -/
def authorityRow (policy : AuthorityPolicy codec) : LedgerRow
  | .singleton => .integer 1
  | .networkId => .text policy.networkId
  | .authorityXonlyPublicKey => .blob policy.authorityXonlyPublicKey
  | .bootstrapEpoch => .integer policy.bootstrapEpoch
  | .bootstrapMembershipSourceSha256 => .blob policy.bootstrapMembershipSourceSha256
  | _ => .null

/-- `INSERT INTO current_authority`. -/
def currentAuthorityRow (authorityEpoch : Int) (key : Bytes) : LedgerRow
  | .singleton => .integer 1
  | .authorityEpoch => .integer authorityEpoch
  | .authorityXonlyPublicKey => .blob key
  | _ => .null

/-- `INSERT INTO authority_key_history`. -/
def keyRow (authorityEpoch : Int) (key : Bytes) : LedgerRow
  | .authorityEpoch => .integer authorityEpoch
  | .authorityXonlyPublicKey => .blob key
  | _ => .null

/-- `INSERT INTO current_membership`. -/
def membershipRow (epoch : Int) (digest sourceWire : Bytes) : LedgerRow
  | .singleton => .integer 1
  | .epoch => .integer epoch
  | .membershipSourceSha256 => .blob digest
  | .sourceWire => .blob sourceWire
  | _ => .null

/-- `INSERT INTO membership_clock`. -/
def clockRow (highWaterMs : Int) : LedgerRow
  | .singleton => .integer 1
  | .highWaterMs => .integer highWaterMs
  | _ => .null

/-- `_create_membership_transitions_table`. -/
def createMembershipTransitionsTable : LedgerTx Unit :=
  Sql.createTable .membershipTransitions membershipTransitionsLayout membershipTransitionsCheck

/-- `_create_authority_rotation_tables`. -/
def createAuthorityRotationTables : LedgerTx Unit := do
  Sql.createTable .currentAuthority currentAuthorityLayout currentAuthorityCheck
  Sql.createTable .authorityKeyHistory authorityKeyHistoryLayout authorityKeyHistoryCheck
  Sql.createTable .authorityRotations authorityRotationsLayout authorityRotationsCheck

/-- The two rows that start the key history. -/
def insertGenesisAuthority (policy : AuthorityPolicy codec) : LedgerTx Unit := do
  Sql.insert .currentAuthority (currentAuthorityRow 0 policy.authorityXonlyPublicKey)
  Sql.insert .authorityKeyHistory (keyRow 0 policy.authorityXonlyPublicKey)

/-- `existing` of `_create_schema`: the file has a table. -/
def hasTable (db : LedgerFile) : Bool :=
  !db.otherTables.isEmpty ||
    tableNames.any fun name => (db.layouts name).any fun layout => layout.isTable

/-- The tables of `_create_schema`. -/
def createTables : LedgerTx Unit := do
  Sql.createTable .membershipAuthority membershipAuthorityLayout membershipAuthorityCheck
  createAuthorityRotationTables
  Sql.createTable .currentMembership currentMembershipLayout currentMembershipCheck
  Sql.createTable .membershipClock membershipClockLayout membershipClockCheck
  createMembershipTransitionsTable

/-- `_create_schema`. -/
def createSchema (policy : AuthorityPolicy codec) (bootstrap : GuardianMembershipSource) :
    LedgerTx Unit := do
  require fun db => !hasTable db
  createTables
  Sql.insert .membershipAuthority (authorityRow policy)
  insertGenesisAuthority policy
  Sql.insert .currentMembership
    (membershipRow bootstrap.epoch policy.bootstrapMembershipSourceSha256 bootstrap.canonicalBytes)
  Sql.insert .membershipClock (clockRow 0)
  Sql.setUserVersion 2

/-- The `SELECT` of `_migrate_v1_ledger` on one row. -/
def copyTransition (row : LedgerRow) : LedgerRow
  | .transitionId => row .transitionId
  | .nonce => row .nonce
  | .previousEpoch => row .previousEpoch
  | .previousMembershipSourceSha256 => row .previousMembershipSourceSha256
  | .nextEpoch => row .nextEpoch
  | .nextMembershipSourceSha256 => row .nextMembershipSourceSha256
  | .notBeforeMs => row .notBeforeMs
  | .notAfterMs => row .notAfterMs
  | .appliedAtMs => row .appliedAtMs
  | .transitionWire => row .transitionWire
  | .authorityEpoch => .integer 0
  | _ => .null

/-- The rows of the old table go to a new one. -/
def copyTransitions : LedgerTx Unit := do
  Sql.renameTable .membershipTransitions .membershipTransitionsV1
  createMembershipTransitionsTable
  let old ← Sql.select .membershipTransitionsV1 fun _ => true
  Sql.insertAll .membershipTransitions (old.map copyTransition)
  Sql.dropTable .membershipTransitionsV1

/-- `_migrate_v1_ledger`. -/
def migrateV1Ledger (policy : AuthorityPolicy codec) : LedgerTx Unit := do
  require (isValidV1Ledger policy)
  copyTransitions
  createAuthorityRotationTables
  insertGenesisAuthority policy
  Sql.setUserVersion 2

/-- The three versions of `_initialize_ledger`. -/
def prepareLedger (policy : AuthorityPolicy codec) (bootstrap : GuardianMembershipSource)
    (version : Int) : LedgerTx Unit :=
  if version = 0 then createSchema policy bootstrap
  else if version = 1 then migrateV1Ledger policy
  else Tx.ensure (decide (version = 2)) (.raised .transition)

/-- The transaction of `_initialize_ledger`. -/
def initializeLedger (policy : AuthorityPolicy codec) (bootstrap : GuardianMembershipSource) :
    LedgerTx Unit := do
  let version ← Sql.userVersion
  prepareLedger policy bootstrap version
  require (isValidLedger policy)

/-! ## Transitions and rotations -/

/-- What both transactions read before they decide. -/
structure Current where
  authorityEpoch : Int
  authorityKey : Bytes
  epoch : Int
  sourceDigest : Bytes
  highWaterMs : Int
  deriving DecidableEq, Repr

/-- `authority`, `current` and `clock`; `none` where one is missing or has a value of another
type. -/
def readCurrent (authority membership clock : Option LedgerRow) : Option Current :=
  match authority, membership, clock with
  | some authority, some membership, some clock =>
    match authority .authorityEpoch, authority .authorityXonlyPublicKey, membership .epoch,
      membership .membershipSourceSha256, clock .highWaterMs with
    | .integer authorityEpoch, .blob authorityKey, .integer epoch, .blob sourceDigest,
      .integer highWaterMs => some ⟨authorityEpoch, authorityKey, epoch, sourceDigest, highWaterMs⟩
    | _, _, _, _, _ => none
  | _, _, _ => none

/-- The `replay` query of `apply_transition`. -/
def isTransitionReplay (transition : ParsedTransition) (row : LedgerRow) : Bool :=
  decide (row .transitionId = .blob transition.transitionId) ||
    decide (row .nonce = .blob transition.nonce) ||
    decide (row .nextEpoch = .integer transition.nextEpoch)

/-- The comparisons of `apply_transition` with what it has read. -/
def Current.admitsTransition (current : Current) (transition : ParsedTransition) (nowMs : Int) :
    Bool :=
  decide (current.epoch = transition.previousEpoch) &&
    decide (current.sourceDigest = transition.previousSourceDigest) &&
    decide (current.highWaterMs ≤ nowMs)

/-- `INSERT INTO membership_transitions`. -/
def transitionRow (transition : ParsedTransition) (nowMs authorityEpoch : Int) : LedgerRow
  | .transitionId => .blob transition.transitionId
  | .nonce => .blob transition.nonce
  | .previousEpoch => .integer transition.previousEpoch
  | .previousMembershipSourceSha256 => .blob transition.previousSourceDigest
  | .nextEpoch => .integer transition.nextEpoch
  | .nextMembershipSourceSha256 => .blob transition.nextSourceDigest
  | .notBeforeMs => .integer transition.notBeforeMs
  | .notAfterMs => .integer transition.notAfterMs
  | .appliedAtMs => .integer nowMs
  | .transitionWire => .blob transition.wire
  | .authorityEpoch => .integer authorityEpoch
  | _ => .null

/-- `UPDATE current_membership SET`. -/
def setMembership (epoch : Int) (digest sourceWire : Bytes) (row : LedgerRow) : LedgerRow
  | .epoch => .integer epoch
  | .membershipSourceSha256 => .blob digest
  | .sourceWire => .blob sourceWire
  | column => row column

/-- `UPDATE membership_clock SET`. -/
def setHighWater (nowMs : Int) (row : LedgerRow) : LedgerRow
  | .highWaterMs => .integer nowMs
  | column => row column

/-- The transaction of `apply_transition`. -/
def applyTransaction (policy : AuthorityPolicy codec) (transition : ParsedTransition)
    (nextSource : GuardianMembershipSource) (nowMs : Int) : LedgerTx Unit := do
  require (isValidLedger policy)
  let authority ← Sql.select .currentAuthority isSingleton
  let membership ← Sql.select .currentMembership isSingleton
  let clock ← Sql.select .membershipClock isSingleton
  let replay ← Sql.select .membershipTransitions (isTransitionReplay transition)
  Tx.ensure replay.isEmpty (.raised .transitionReplay)
  let current ← Tx.orRaise (readCurrent authority.head? membership.head? clock.head?)
    (.raised .transition)
  Tx.ensure (current.admitsTransition transition nowMs) (.raised .transition)
  Tx.ensure (codec.verify current.authorityKey transition.signature transition.payloadDigest)
    (.raised .transition)
  Sql.insert .membershipTransitions (transitionRow transition nowMs current.authorityEpoch)
  Sql.update .currentMembership isSingleton
    (setMembership transition.nextEpoch transition.nextSourceDigest nextSource.canonicalBytes)
  Sql.update .membershipClock isSingleton (setHighWater nowMs)

/-- The `replay` query of `rotate_authority`. -/
def isRotationReplay (rotation : ParsedAuthorityRotation) (row : LedgerRow) : Bool :=
  decide (row .rotationId = .blob rotation.rotationId) ||
    decide (row .nonce = .blob rotation.nonce) ||
    decide (row .previousAuthorityEpoch = .integer rotation.previousAuthorityEpoch) ||
    decide (row .nextAuthorityEpoch = .integer rotation.nextAuthorityEpoch)

/-- The `key_reuse` query. -/
def isKeyReuse (rotation : ParsedAuthorityRotation) (row : LedgerRow) : Bool :=
  decide (row .authorityXonlyPublicKey = .blob rotation.nextAuthorityKey)

/-- The comparisons of `rotate_authority` with what it has read. -/
def Current.admitsRotation (current : Current) (rotation : ParsedAuthorityRotation) (nowMs : Int) :
    Bool :=
  decide (current.authorityEpoch = rotation.previousAuthorityEpoch) &&
    decide (current.authorityKey = rotation.previousAuthorityKey) &&
    decide (current.epoch = rotation.membershipEpoch) &&
    decide (current.sourceDigest = rotation.membershipSourceDigest) &&
    decide (current.highWaterMs ≤ nowMs)

/-- `authorization_valid` and `possession_valid`. -/
def isDualSigned (codec : MembershipCodec) (authorityKey : Bytes)
    (rotation : ParsedAuthorityRotation) : Bool :=
  codec.verify authorityKey rotation.authorizationSignature rotation.authorizationPayloadDigest &&
    codec.verify rotation.nextAuthorityKey rotation.possessionSignature
      rotation.possessionPayloadDigest

/-- `INSERT INTO authority_rotations`. -/
def rotationRow (rotation : ParsedAuthorityRotation) (nowMs : Int) : LedgerRow
  | .rotationId => .blob rotation.rotationId
  | .nonce => .blob rotation.nonce
  | .previousAuthorityEpoch => .integer rotation.previousAuthorityEpoch
  | .previousAuthorityXonlyPublicKey => .blob rotation.previousAuthorityKey
  | .nextAuthorityEpoch => .integer rotation.nextAuthorityEpoch
  | .nextAuthorityXonlyPublicKey => .blob rotation.nextAuthorityKey
  | .membershipEpoch => .integer rotation.membershipEpoch
  | .membershipSourceSha256 => .blob rotation.membershipSourceDigest
  | .notBeforeMs => .integer rotation.notBeforeMs
  | .notAfterMs => .integer rotation.notAfterMs
  | .appliedAtMs => .integer nowMs
  | .rotationWire => .blob rotation.wire
  | _ => .null

/-- `UPDATE current_authority SET`. -/
def setAuthority (authorityEpoch : Int) (key : Bytes) (row : LedgerRow) : LedgerRow
  | .authorityEpoch => .integer authorityEpoch
  | .authorityXonlyPublicKey => .blob key
  | column => row column

/-- The transaction of `rotate_authority`. -/
def rotateTransaction (policy : AuthorityPolicy codec) (rotation : ParsedAuthorityRotation)
    (nowMs : Int) : LedgerTx Unit := do
  require (isValidLedger policy)
  let authority ← Sql.select .currentAuthority isSingleton
  let membership ← Sql.select .currentMembership isSingleton
  let clock ← Sql.select .membershipClock isSingleton
  let replay ← Sql.select .authorityRotations (isRotationReplay rotation)
  let keyReuse ← Sql.select .authorityKeyHistory (isKeyReuse rotation)
  Tx.ensure (replay.isEmpty && keyReuse.isEmpty) (.raised .rotationReplay)
  let current ← Tx.orRaise (readCurrent authority.head? membership.head? clock.head?)
    (.raised .rotation)
  Tx.ensure (current.admitsRotation rotation nowMs) (.raised .rotation)
  Tx.ensure (isDualSigned codec current.authorityKey rotation) (.raised .rotation)
  Sql.insert .authorityRotations (rotationRow rotation nowMs)
  Sql.insert .authorityKeyHistory (keyRow rotation.nextAuthorityEpoch rotation.nextAuthorityKey)
  Sql.update .currentAuthority isSingleton
    (setAuthority rotation.nextAuthorityEpoch rotation.nextAuthorityKey)
  Sql.update .membershipClock isSingleton (setHighWater nowMs)

/-! ## Calls -/

/-- `_raise_operational_error`. -/
def raiseOperationalError (busy : Bool) : MembershipError :=
  if busy then .transitionBusy else .transition

/-- `_raise_rotation_operational_error`. -/
def raiseRotationOperationalError (busy : Bool) : MembershipError :=
  if busy then .rotationBusy else .rotation

/-- The `except` clauses of `_initialize_ledger`. -/
def openError : Failure MembershipError → MembershipError
  | .raised e => e
  | .sqlite .integrity => .transition
  | .sqlite (.operational busy) => raiseOperationalError busy

/-- The `except` clauses of `apply_transition`. -/
def applyError : Failure MembershipError → MembershipError
  | .raised e => e
  | .sqlite .integrity => .transitionReplay
  | .sqlite (.operational busy) => raiseOperationalError busy

/-- The `except` clauses of `rotate_authority`. -/
def rotateError : Failure MembershipError → MembershipError
  | .raised .transition => .rotation
  | .raised e => e
  | .sqlite .integrity => .rotationReplay
  | .sqlite (.operational busy) => raiseRotationOperationalError busy

/-- A transaction, and what its failure is raised as; `fault` is an `OperationalError` of the engine
while it connects or at any statement. -/
def runTransaction (raises : Failure MembershipError → MembershipError) (fault : Option Bool)
    (body : LedgerTx Unit) (db : LedgerFile) : Except MembershipError Unit × LedgerFile :=
  match fault with
  | some busy => (.error (raises (.sqlite (.operational busy))), db)
  | none =>
    match transact body db with
    | (.ok _, db') => (.ok (), db')
    | (.error failure, db') => (.error (raises failure), db')

/-- The bootstrap of `__init__`; `bootstrapFile` is the contents of the file the policy names. -/
def loadBootstrap (policy : AuthorityPolicy codec) (bootstrapFile : Option Bytes) :
    Except MembershipError GuardianMembershipSource :=
  match loadGuardianMembershipSource codec bootstrapFile policy.networkId with
  | .error _ => .error .transition
  | .ok bootstrap =>
    if bootstrap.epoch ≠ policy.bootstrapEpoch ∨
        codec.sha256 bootstrap.canonicalBytes ≠ policy.bootstrapMembershipSourceSha256 then
      .error .transition
    else .ok bootstrap

/-- `__init__` of `GuardianMembershipAuthority` with a policy that it has loaded. -/
def openAuthority (policy : AuthorityPolicy codec) (bootstrapFile : Option Bytes)
    (fault : Option Bool) (db : LedgerFile) : Except MembershipError Unit × LedgerFile :=
  match loadBootstrap policy bootstrapFile with
  | .error e => (.error e, db)
  | .ok bootstrap => runTransaction openError fault (initializeLedger policy bootstrap) db

/-- `GuardianMembershipTransitionReceipt`. -/
structure TransitionReceipt where
  transitionId : Bytes
  nextEpoch : Int
  nextMembershipSourceSha256 : Bytes
  appliedAtMs : Int
  deriving DecidableEq, Repr

/-- `GuardianAuthorityRotationReceipt`. -/
structure RotationReceipt where
  rotationId : Bytes
  nextAuthorityEpoch : Int
  nextAuthorityXonlyPublicKey : Bytes
  appliedAtMs : Int
  deriving DecidableEq, Repr

/-- What `apply_transition` does before its transaction. -/
def admitTransition (policy : AuthorityPolicy codec) (wire : Bytes) (nextSourceFile : Option Bytes)
    (nowMs : Int) : Except MembershipError (ParsedTransition × GuardianMembershipSource) := do
  let transition ← parseTransition codec wire
  if transition.networkId ≠ policy.networkId then .error .transition
  else
    match loadGuardianMembershipSource codec nextSourceFile policy.networkId with
    | .error _ => .error .transition
    | .ok nextSource =>
      if nextSource.epoch ≠ transition.nextEpoch ∨
          codec.sha256 nextSource.canonicalBytes ≠ transition.nextSourceDigest ∨
          ¬ isTime nowMs ∨ ¬ (transition.notBeforeMs ≤ nowMs ∧ nowMs < transition.notAfterMs) then
        .error .transition
      else .ok (transition, nextSource)

/-- `apply_transition`. -/
def applyTransition (policy : AuthorityPolicy codec) (wire : Bytes) (nextSourceFile : Option Bytes)
    (nowMs : Int) (fault : Option Bool) (db : LedgerFile) :
    Except MembershipError TransitionReceipt × LedgerFile :=
  match admitTransition policy wire nextSourceFile nowMs with
  | .error e => (.error e, db)
  | .ok (transition, nextSource) =>
    match runTransaction applyError fault (applyTransaction policy transition nextSource nowMs) db with
    | (.error e, db') => (.error e, db')
    | (.ok _, db') =>
      (.ok ⟨transition.transitionId, transition.nextEpoch, transition.nextSourceDigest, nowMs⟩, db')

/-- What `rotate_authority` does before its transaction. -/
def admitRotation (policy : AuthorityPolicy codec) (wire : Bytes) (nowMs : Int) :
    Except MembershipError ParsedAuthorityRotation := do
  let rotation ← parseAuthorityRotation codec wire
  if rotation.networkId ≠ policy.networkId ∨ ¬ isTime nowMs ∨
      ¬ (rotation.notBeforeMs ≤ nowMs ∧ nowMs < rotation.notAfterMs) then .error .rotation
  else .ok rotation

/-- `rotate_authority`. -/
def rotateAuthority (policy : AuthorityPolicy codec) (wire : Bytes) (nowMs : Int)
    (fault : Option Bool) (db : LedgerFile) : Except MembershipError RotationReceipt × LedgerFile :=
  match admitRotation policy wire nowMs with
  | .error e => (.error e, db)
  | .ok rotation =>
    match runTransaction rotateError fault (rotateTransaction policy rotation nowMs) db with
    | (.error e, db') => (.error e, db')
    | (.ok _, db') =>
      (.ok ⟨rotation.rotationId, rotation.nextAuthorityEpoch, rotation.nextAuthorityKey, nowMs⟩, db')

/-- One call: of the constructor, or of an object that was built with the policy. -/
inductive Call (codec : MembershipCodec)
  | openAuthority (policy : AuthorityPolicy codec) (bootstrapFile : Option Bytes)
      (fault : Option Bool)
  | applyTransition (policy : AuthorityPolicy codec) (wire : Bytes) (nextSourceFile : Option Bytes)
      (nowMs : Int) (fault : Option Bool)
  | rotateAuthority (policy : AuthorityPolicy codec) (wire : Bytes) (nowMs : Int)
      (fault : Option Bool)

/-- What a call returns. -/
inductive Answer
  | opened
  | applied (receipt : TransitionReceipt)
  | rotated (receipt : RotationReceipt)
  deriving DecidableEq, Repr

/-- The calls of every process on one file. -/
def step : Call codec → LedgerFile → Except MembershipError Answer × LedgerFile
  | .openAuthority policy bootstrapFile fault, db =>
    let outcome := openAuthority policy bootstrapFile fault db
    (outcome.1.map fun _ => .opened, outcome.2)
  | .applyTransition policy wire nextSourceFile nowMs fault, db =>
    let outcome := applyTransition policy wire nextSourceFile nowMs fault db
    (outcome.1.map .applied, outcome.2)
  | .rotateAuthority policy wire nowMs fault, db =>
    let outcome := rotateAuthority policy wire nowMs fault db
    (outcome.1.map .rotated, outcome.2)

end Prometheus.Jaeger.Membership
