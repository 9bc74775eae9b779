import Prometheus.Jaeger.ApprovalLedger.MigrationHistory

/-!
# Files that the ledger wrote

The rows of `Tables` as they are stored, and the simulation: where opening a stored file returns,
`Service` opens the ledger it stores, and the opened file stores the opened ledger.
-/

namespace Prometheus.Jaeger.ApprovalLedger.Migration

open Prometheus.Codec Prometheus.Machine

/-! ## Stored rows -/

def storeConsumption (r : ConsumptionRow) : LedgerRow
  | .approvalId => .blob r.approvalId
  | .approverXonlyPublicKey => .blob r.approverXonlyPublicKey
  | .approvalNonce => .blob r.approvalNonce
  | .observableCommitment => .blob r.observableCommitment
  | .recipientScope => .blob r.recipientScope
  | .networkId => .text r.networkId
  | .notBefore => .integer r.notBefore
  | .expiresAt => .integer r.expiresAt
  | .consumedAt => .integer r.consumedAt
  | _ => .null

def storeAuthority (r : AuthorityRow) : LedgerRow
  | .singleton => .integer 1
  | .authorityEpoch => .integer r.authorityEpoch
  | .governancePolicySha256 => .blob r.governancePolicySha256
  | .retentionPolicySha256 => .blob r.retentionPolicySha256
  | .promotionPolicySha256 => .blob r.promotionPolicySha256
  | .networkId => .text r.networkId
  | .approverXonlyPublicKey => .blob r.approverXonlyPublicKey
  | .recipientScope => .blob r.recipientScope
  | .authorityNotBefore => .integer r.authorityNotBefore
  | .authorityNotAfter => .integer r.authorityNotAfter
  | _ => .null

/-- A value that may be `NULL`. -/
def storeOption {α : Type} (store : α → Value) : Option α → Value
  | some a => store a
  | none => .null

def storeOutbox (r : OutboxRow) : LedgerRow
  | .approvalId => .blob r.approvalId
  | .observableCommitment => .blob r.observableCommitment
  | .bundleWire => .blob r.bundleWire
  | .statementWire => .blob r.statementWire
  | .statementDigest => .blob r.statementDigest
  | .reportNonce => .blob r.reportNonce
  | .enqueuedAt => .integer r.enqueuedAt
  | .retentionDeadline => .integer r.retentionDeadline
  | .leaseToken => storeOption .blob r.leaseToken
  | .leaseExpiresAt => storeOption .integer r.leaseExpiresAt
  | _ => .null

def storeOutboxV3 (r : OutboxRowV3) : LedgerRow
  | .approvalId => .blob r.approvalId
  | .observableCommitment => .blob r.observableCommitment
  | .bundleWire => .blob r.bundleWire
  | .enqueuedAt => .integer r.enqueuedAt
  | .retentionDeadline => .integer r.retentionDeadline
  | .leaseToken => storeOption .blob r.leaseToken
  | .leaseExpiresAt => storeOption .integer r.leaseExpiresAt
  | _ => .null

def storeResult (r : ResultRow) : LedgerRow
  | .approvalId => .blob r.approvalId
  | .resultWire => .blob r.resultWire
  | .resultDigest => .blob r.resultDigest
  | .inputIdentity => .blob r.inputIdentity
  | .completionTokenDigest => .blob r.completionTokenDigest
  | .completedAt => .integer r.completedAt
  | .retentionDeadline => .integer r.retentionDeadline
  | _ => .null

def storePairing (r : PairingRow) : LedgerRow
  | .statementDigest => .blob r.statementDigest
  | .approvalId => .blob r.approvalId
  | .observableCommitment => .blob r.observableCommitment
  | .networkId => .text r.networkId
  | .consumedAt => .integer r.consumedAt
  | _ => .null

/-- `PRAGMA user_version` of a supported version. -/
def versionNumber : SchemaVersion → Option Int
  | .fresh => some 0
  | .legacy => some 1
  | .governedV2 => some 2
  | .governedV3 => some 3
  | .governedV4 => some 4
  | .governed => some 5
  | .unsupported => none

/-- The tables that a version does not have. -/
def absentTables : SchemaVersion → List TableName
  | .fresh => [.approvalConsumptions, .ledgerState, .authorityState, .approvalOutbox,
      .observableAnalysisResults, .threatHintV2Pairings]
  | .legacy =>
    [.authorityState, .approvalOutbox, .observableAnalysisResults, .threatHintV2Pairings]
  | .governedV2 => [.approvalOutbox, .observableAnalysisResults, .threatHintV2Pairings]
  | .governedV3 => [.observableAnalysisResults, .threatHintV2Pairings]
  | .governedV4 => [.threatHintV2Pairings]
  | .governed => []
  | .unsupported => []

/-- The outbox of the version the ledger has. -/
def storedOutbox (ledger : Db) : List LedgerRow :=
  match ledger.version with
  | .governedV3 => ledger.approvalOutboxV3.map storeOutboxV3
  | _ => ledger.approvalOutbox.rows.map storeOutbox

/-- A file stores a ledger. -/
structure Stores (file : LedgerFile) (ledger : Db) : Prop where
  version : versionNumber ledger.version = some file.userVersion
  absent : ∀ name ∈ absentTables ledger.version, file.tables name = none
  consumptions : file.rows .approvalConsumptions =
    ledger.approvalConsumptions.rows.map storeConsumption
  clock : highWater file = ledger.ledgerState.map .integer
  authority : file.rows .authorityState = (ledger.authorityState.map storeAuthority).toList
  outbox : file.rows .approvalOutbox = storedOutbox ledger
  results : file.rows .observableAnalysisResults =
    ledger.observableAnalysisResults.rows.map storeResult
  pairings : file.rows .threatHintV2Pairings =
    ledger.threatHintV2Pairings.rows.map storePairing

/-! ## The simulation -/

variable {file file' : LedgerFile} {ledger : Db} {object : LedgerObject} {u : Unit}

/-- A file without tables gets a clock that stands at zero. -/
theorem createLegacySchema_clock (noState : file.tables .ledgerState = none)
    (h : createLegacySchema file = .ok (u, file')) : highWater file' = some (.integer 0) := by
  simp only [createLegacySchema, Tx.bind_ok] at h
  obtain ⟨_, file₁, consumptions, _, file₂, state, ignored⟩ := h
  have still : file₁.tables .ledgerState = none := by
    rw [Sql.createTableIfNotExists_frame consumptions (by decide), noState]
  have created : file₂.tables .ledgerState = some (.empty stateLayout isSingleton) := by
    rcases Sql.createTableIfNotExists_ok state with ⟨-, isSome⟩ | ⟨-, rfl⟩
    · rw [still] at isSome
      cases isSome
    · exact Database.set_self ..
  obtain ⟨relation, isTable, outcome⟩ := Sql.insertOrIgnore_ok ignored
  obtain rfl := Option.some.inj (created.symm.trans isTable)
  rcases outcome with ⟨refused, -⟩ | ⟨table, inserted, rfl⟩
  · have accepted : ((Relation.empty stateLayout isSingleton).table.insert initialState).isSome :=
      by decide
    rw [refused] at accepted
    cases accepted
  · have isRows : table.rows = [initialState] := (Table.insert_eq_some.mp inserted).2.2
    rw [highWater, Database.rows_set_self]
    show ((table.rows.find? isSingleton).map fun row => row .highWaterSeconds) = _
    rw [isRows]
    rfl

theorem Stores.rows_absent (stores : Stores file ledger) {name : TableName}
    (absent : name ∈ absentTables ledger.version) : file.rows name = [] :=
  Database.rows_of_none (stores.absent name absent)

/-- What a file of version 5 stores once its outbox tables are empty. -/
theorem Stores.governed {clock : Option Int} (stores : Stores file ledger)
    (same : ∀ name ≠ .ledgerState, file'.rows name = file.rows name)
    (isClock : highWater file' = clock.map .integer) (five : file'.userVersion = 5)
    (noRecord : file.rows .approvalOutbox = [])
    (noResult : file.rows .observableAnalysisResults = [])
    (noPairing : file.rows .threatHintV2Pairings = []) :
    Stores file' (ApprovalLedger.createGovernedTables { ledger with ledgerState := clock }) where
  version := by rw [five]; rfl
  absent := by simp [absentTables, ApprovalLedger.createGovernedTables]
  consumptions := by rw [same _ (by decide), stores.consumptions]; rfl
  clock := isClock
  authority := by rw [same _ (by decide), stores.authority]; rfl
  outbox := by rw [same _ (by decide), noRecord]; rfl
  results := by rw [same _ (by decide), noResult]; rfl
  pairings := by rw [same _ (by decide), noPairing]; rfl

/-- The clock of a file that opens. -/
theorem Stores.clock_opened (stores : Stores file ledger) (history : SameHistory file file')
    (old : file.userVersion ≠ 0) : highWater file' = ledger.ledgerState.map .integer := by
  rcases history.clock with same | ⟨zero, -⟩
  · rw [same, stores.clock]
  · exact absurd zero old

theorem Stores.authority_absent (stores : Stores file ledger)
    (absent : .authorityState ∈ absentTables ledger.version) : ledger.authorityState = none := by
  have noRow := stores.rows_absent absent
  rw [stores.authority] at noRow
  cases pinned : ledger.authorityState with
  | none => rfl
  | some row => rw [pinned] at noRow; cases noRow

theorem Stores.outboxV3_empty (stores : Stores file ledger) (three : ledger.version = .governedV3)
    (noRecord : file.rows .approvalOutbox = []) : ledger.approvalOutboxV3 = [] := by
  rw [stores.outbox, storedOutbox, three] at noRecord
  exact List.map_eq_nil_iff.mp noRecord

theorem Stores.outbox_empty (stores : Stores file ledger) (notThree : ledger.version ≠ .governedV3)
    (noRecord : file.rows .approvalOutbox = []) : ledger.approvalOutbox.rows = [] := by
  rw [stores.outbox] at noRecord
  unfold storedOutbox at noRecord
  split at noRecord
  · rename_i three
    exact absurd three notThree
  · exact List.map_eq_nil_iff.mp noRecord

/-- Without governance. -/
theorem Stores.open_legacy (stores : Stores file ledger) (ungoverned : object.governance.isSome = false)
    (h : openTransaction false file = .ok (u, file')) :
    ∃ ledger', ApprovalLedger.initializeSchema object ledger = some ledger' ∧
      Stores file' ledger' := by
  obtain ⟨history, current⟩ := openTransaction_ok h
  obtain ⟨file₁, -, supported, legacy, rest⟩ := openTransaction_stages h
  obtain ⟨isGoverned, -⟩ | ⟨isGoverned, -⟩ | ⟨-, -, rfl⟩ := rest
  · cases isGoverned
  · cases isGoverned
  have version := stores.version
  cases isVersion : ledger.version with
  | fresh =>
    have zero : file.userVersion = 0 := by simpa [isVersion, versionNumber, eq_comm] using version
    obtain ⟨-, created⟩ := legacy.resolve_right fun old => old.1 zero
    have absent (name : TableName) : file.tables name = none := by
      refine stores.absent name ?_
      rw [isVersion]
      cases name <;> decide
    have noClock : ledger.ledgerState = none := by
      have noRow : highWater file = none := by
        rw [highWater, Database.rows_of_none (absent _)]
        rfl
      rw [stores.clock] at noRow
      exact Option.map_eq_none_iff.mp noRow
    refine ⟨{ ApprovalLedger.createLegacySchema ledger with version := .legacy },
      by simp [ApprovalLedger.initializeSchema, ungoverned, isVersion], ?_⟩
    exact {
      version := rfl
      absent := by
        intro name isAbsent
        have others : ∀ name ∈ absentTables .legacy, name ≠ .approvalConsumptions ∧
            name ≠ .ledgerState := by decide
        obtain ⟨notConsumptions, notState⟩ := others name isAbsent
        exact (createLegacySchema_frame created notConsumptions notState).trans (absent name)
      consumptions := (history.rows _ (by decide)).trans stores.consumptions
      clock := by
        show highWater file₁ = _
        rw [createLegacySchema_clock (absent _) created, ApprovalLedger.createLegacySchema, noClock]
        rfl
      authority := (history.rows _ (by decide)).trans stores.authority
      outbox := by
        refine (history.rows _ (by decide)).trans ?_
        rw [stores.outbox, storedOutbox, isVersion]
        rfl
      results := (history.rows _ (by decide)).trans stores.results
      pairings := (history.rows _ (by decide)).trans stores.pairings }
  | legacy =>
    have one : file.userVersion = 1 := by simpa [isVersion, versionNumber, eq_comm] using version
    obtain ⟨-, rfl⟩ := legacy.resolve_left fun zero => by rw [one] at zero; cases zero.1
    refine ⟨ledger, by simp [ApprovalLedger.initializeSchema, ungoverned, isVersion], ?_⟩
    have same : { file₁ with userVersion := 1 } = file₁ := by rw [← one]
    rw [same]
    exact stores
  | governedV2 | governedV3 | governedV4 | governed | unsupported =>
    simp [isVersion, versionNumber, eq_comm] at version
    try simp [version] at supported

theorem dropOutboxV3_empty (h : dropOutboxV3 file = .ok (u, file')) :
    file.rows .approvalOutbox = [] := by
  simp only [dropOutboxV3, Tx.bind_ok, require_ok, requireEmpty_ok, Sql.dropTable_ok] at h
  obtain ⟨_, _, ⟨-, rfl⟩, _, _, ⟨⟨outbox, isTable, noRecord⟩, -⟩, -⟩ := h
  rw [Database.rows_of_some isTable, noRecord]

/-- A file that is migrated holds no pending record, no result and no pairing. -/
theorem Stores.pending_empty (stores : Stores file ledger) (older : ledger.version ≠ .governed)
    (h : migrateGoverned file.userVersion file = .ok (u, file')) :
    file.rows .approvalOutbox = [] ∧ file.rows .observableAnalysisResults = [] ∧
      file.rows .threatHintV2Pairings = [] := by
  have version := stores.version
  obtain ⟨file₁, -, dropped, checked, -⟩ := migrateGoverned_stages h
  have absent (name : TableName) (isAbsent : name ∈ absentTables ledger.version) :
      file.rows name = [] := stores.rows_absent isAbsent
  cases isVersion : ledger.version with
  | fresh | legacy | governedV2 =>
    rw [isVersion] at absent
    exact ⟨absent _ (by decide), absent _ (by decide), absent _ (by decide)⟩
  | governedV3 =>
    rw [isVersion] at version absent
    have three := (Option.some.inj version).symm
    refine ⟨?_, absent _ (by decide), absent _ (by decide)⟩
    rcases dropped with ⟨-, dropped⟩ | ⟨notThree, -⟩
    · exact dropOutboxV3_empty dropped
    · exact absurd three notThree
  | governedV4 =>
    rw [isVersion] at version absent
    have four := (Option.some.inj version).symm
    rcases dropped with ⟨three, -⟩ | ⟨-, rfl⟩
    · rw [four] at three
      cases three
    obtain ⟨-, noRecord, noResult⟩ := requireEmptyV4_ok (checked four)
    exact ⟨noRecord, noResult, absent _ (by decide)⟩
  | governed => exact absurd isVersion older
  | unsupported =>
    rw [isVersion] at version
    cases version

/-- With governance, an older version. -/
theorem Stores.migrate (stores : Stores file ledger) (governed : object.governance.isSome = true)
    (history : SameHistory file file') (five : file'.userVersion = 5)
    (started : file.userVersion ≠ 0) (h : migrateGoverned file.userVersion file = .ok (u, file'))
    (older : ledger.version ≠ .governed) :
    ∃ ledger', ApprovalLedger.initializeSchema object ledger = some ledger' ∧
      Stores file' ledger' := by
  have version := stores.version
  obtain ⟨noRecord, noResult, noPairing⟩ := stores.pending_empty older h
  refine ⟨ApprovalLedger.createGovernedTables ledger, ?_,
    stores.governed history.rows (stores.clock_opened history started) five noRecord noResult
      noPairing⟩
  cases isVersion : ledger.version with
  | fresh =>
    rw [isVersion] at version
    exact absurd (Option.some.inj version).symm started
  | legacy =>
    have unpinned : ledger.authorityState = none :=
      stores.authority_absent (by rw [isVersion]; decide)
    simp [ApprovalLedger.initializeSchema, governed, isVersion, unpinned]
  | governedV2 => simp [ApprovalLedger.initializeSchema, governed, isVersion]
  | governedV3 =>
    have none := stores.outboxV3_empty isVersion noRecord
    simp [ApprovalLedger.initializeSchema, governed, isVersion, none]
  | governedV4 =>
    have noRecord' := stores.outbox_empty (by rw [isVersion]; decide) noRecord
    have noResult' : ledger.observableAnalysisResults.rows = [] := by
      rw [stores.results] at noResult
      exact List.map_eq_nil_iff.mp noResult
    simp [ApprovalLedger.initializeSchema, governed, isVersion, Table.count, noRecord', noResult']
  | governed => exact absurd isVersion older
  | unsupported =>
    rw [isVersion] at version
    cases version

/-- With governance. -/
theorem Stores.open_governed (stores : Stores file ledger)
    (governed : object.governance.isSome = true)
    (h : openTransaction true file = .ok (u, file')) :
    ∃ ledger', ApprovalLedger.initializeSchema object ledger = some ledger' ∧
      Stores file' ledger' := by
  obtain ⟨history, current⟩ := openTransaction_ok h
  have five := (state_of_legacyLayout (isLegacyLayout_of_governed current)).1
  have version := stores.version
  obtain ⟨file₁, -, -, legacy, rest⟩ := openTransaction_stages h
  rcases rest with ⟨-, isFive, -, rfl⟩ | ⟨-, notFive, migrated⟩ | ⟨isGoverned, -⟩
  · -- version 5, which only `governed` has
    obtain ⟨-, rfl⟩ := legacy.resolve_left fun zero => by rw [isFive] at zero; cases zero.1
    refine ⟨ledger, ?_, stores⟩
    cases isVersion : ledger.version with
    | governed => simp [ApprovalLedger.initializeSchema, governed, isVersion]
    | fresh | legacy | governedV2 | governedV3 | governedV4 | unsupported =>
      simp [isVersion, versionNumber, isFive] at version
  · rcases legacy with ⟨zero, created⟩ | ⟨started, rfl⟩
    · have isVersion : ledger.version = .fresh := by
        cases isVersion : ledger.version with
        | fresh => rfl
        | legacy | governedV2 | governedV3 | governedV4 | governed | unsupported =>
          simp [isVersion, versionNumber, zero] at version
      have absent (name : TableName) : name ∈ absentTables ledger.version := by
        rw [isVersion]
        cases name <;> decide
      have noClock : ledger.ledgerState = none := by
        have noRow : highWater file = none := by
          rw [highWater, stores.rows_absent (absent _)]
          rfl
        rw [stores.clock] at noRow
        exact Option.map_eq_none_iff.mp noRow
      have clock : highWater file' = some (.integer 0) := by
        rw [highWater, Database.rows, migrateGoverned_state migrated]
        exact createLegacySchema_clock (stores.absent _ (absent _)) created
      refine ⟨ApprovalLedger.createGovernedTables (ApprovalLedger.createLegacySchema ledger),
        by simp [ApprovalLedger.initializeSchema, governed, isVersion,
          stores.authority_absent (absent _)], ?_⟩
      rw [ApprovalLedger.createLegacySchema, noClock]
      exact stores.governed history.rows clock five (stores.rows_absent (absent _))
        (stores.rows_absent (absent _)) (stores.rows_absent (absent _))
    · refine stores.migrate governed history five started migrated ?_
      intro isVersion
      rw [isVersion] at version
      exact notFive (Option.some.inj version).symm
  · cases isGoverned

/-- `Service` opens the ledger that a file stores whenever the file opens, and the opened file stores
what it leaves. -/
theorem Stores.openTransaction (stores : Stores file ledger)
    (h : openTransaction object.governance.isSome file = .ok (u, file')) :
    ∃ ledger', ApprovalLedger.initializeSchema object ledger = some ledger' ∧
      Stores file' ledger' := by
  cases isGoverned : object.governance.isSome with
  | true =>
    rw [isGoverned] at h
    exact stores.open_governed isGoverned h
  | false =>
    rw [isGoverned] at h
    exact stores.open_legacy isGoverned h

/-- The file of a ledger that was just created. -/
theorem stores_blank : Stores .blank Db.fresh where
  version := rfl
  absent _ _ := rfl
  consumptions := rfl
  clock := rfl
  authority := rfl
  outbox := rfl
  results := rfl
  pairings := rfl

end Prometheus.Jaeger.ApprovalLedger.Migration
