import Prometheus.Jaeger.ApprovalLedger.Migration

/-!
# A migration keeps the history

Whatever the version of the file: opening it raises and changes nothing, or leaves the current
schema with every stored row where it was. The only row that opening a file ever adds is the clock
of a file that had none. An approval that was refused as a replay is refused by the opened file, and
opening the file again changes nothing.
-/

namespace Prometheus.Jaeger.ApprovalLedger.Migration

open Prometheus.Codec Prometheus.Machine

variable {db db' : LedgerFile} {governed : Bool} {version : Int} {u : Unit}

/-! ## What each stage does -/

@[simp] theorem require_ok {p : LedgerFile → Bool} :
    require p db = .ok (u, db') ↔ p db = true ∧ db' = db := by
  simp only [require, Tx.bind_ok, Tx.query_ok, Tx.ensure_ok]
  constructor
  · rintro ⟨_, _, ⟨rfl, rfl⟩, holds, same⟩
    exact ⟨holds, same⟩
  · rintro ⟨holds, same⟩
    exact ⟨_, _, ⟨rfl, rfl⟩, holds, same⟩

@[simp] theorem refuse_ok {table : TableName} :
    refuse table db = .ok (u, db') ↔ db.tableInfo table = [] ∧ db' = db := by
  rw [refuse, require_ok, List.isEmpty_iff]

@[simp] theorem requireEmpty_ok {table : TableName} :
    requireEmpty table db = .ok (u, db') ↔
      (∃ relation, db.tables table = some relation ∧ relation.rows = []) ∧ db' = db := by
  simp only [requireEmpty, Tx.bind_ok, Sql.count_ok, Tx.ensure_ok, decide_eq_true_eq]
  constructor
  · rintro ⟨_, _, ⟨relation, isTable, rfl, rfl⟩, noRow, same⟩
    exact ⟨⟨relation, isTable, List.eq_nil_of_length_eq_zero noRow⟩, same⟩
  · rintro ⟨⟨relation, isTable, noRow⟩, same⟩
    exact ⟨_, _, ⟨relation, isTable, rfl, rfl⟩, by rw [noRow]; rfl, same⟩

/-- The checks change nothing. -/
theorem refuseUnexpected_ok (h : refuseUnexpected governed version db = .ok (u, db')) :
    db' = db ∧ (version ≠ 5 → db.tableInfo .threatHintV2Pairings = []) ∧
      version ∈ (if governed then [0, 1, 2, 3, 4, 5] else [0, 1] : List Int) := by
  simp only [refuseUnexpected, Tx.bind_ok, Tx.ensure_ok, Tx.onlyIf_ok, require_ok, refuse_ok,
    decide_eq_true_eq, decide_eq_false_iff_not] at h
  obtain ⟨_, _, ⟨supported, rfl⟩, _, _, legacy, _, _, authority, _, _, outbox, _, _, results,
    pairings⟩ := h
  have first := legacy.elim (fun h => h.2.2) And.right
  have second := authority.elim (fun h => h.2.2) And.right
  have third := outbox.elim (fun h => h.2.2) And.right
  have fourth := results.elim (fun h => h.2.2) And.right
  subst first second third fourth
  rcases pairings with ⟨-, absent, rfl⟩ | ⟨current, rfl⟩
  · exact ⟨rfl, fun _ => absent, supported⟩
  · exact ⟨rfl, fun older => absurd older current, supported⟩

/-- The rows of every table are the same. -/
def SameRows (db db' : LedgerFile) : Prop := ∀ name, db'.rows name = db.rows name

theorem SameRows.trans {db'' : LedgerFile} (first : SameRows db db') (second : SameRows db' db'') :
    SameRows db db'' := fun name => (second name).trans (first name)

theorem createGovernedTables_rows (h : createGovernedTables db = .ok (u, db')) :
    SameRows db db' := by
  simp only [createGovernedTables, Tx.bind_ok] at h
  obtain ⟨_, _, authority, _, _, outbox, _, _, results, pairings⟩ := h
  intro name
  rw [Sql.createTableIfNotExists_rows pairings, Sql.createTableIfNotExists_rows results,
    Sql.createTableIfNotExists_rows outbox, Sql.createTableIfNotExists_rows authority]

theorem dropOutboxV3_rows (h : dropOutboxV3 db = .ok (u, db')) : SameRows db db' := by
  simp only [dropOutboxV3, Tx.bind_ok, require_ok, requireEmpty_ok, Sql.dropTable_ok] at h
  obtain ⟨_, _, ⟨-, rfl⟩, _, _, ⟨⟨outbox, isTable, noRow⟩, rfl⟩, -, rfl⟩ := h
  intro name
  refine Database.rows_set_of_empty ?_ rfl name
  rw [Database.rows_of_some isTable, noRow]

theorem requireEmptyV4_ok (h : requireEmptyV4 db = .ok (u, db')) :
    db' = db ∧ db.rows .approvalOutbox = [] ∧ db.rows .observableAnalysisResults = [] := by
  simp only [requireEmptyV4, Tx.bind_ok, require_ok, requireEmpty_ok] at h
  obtain ⟨_, _, ⟨-, rfl⟩, _, _, ⟨⟨outbox, isOutbox, noRecord⟩, rfl⟩,
    ⟨results, isResults, noResult⟩, rfl⟩ := h
  exact ⟨rfl, by rw [Database.rows_of_some isOutbox, noRecord],
    by rw [Database.rows_of_some isResults, noResult]⟩

/-- The stages of a migration that returns. -/
theorem migrateGoverned_stages (h : migrateGoverned version db = .ok (u, db')) :
    ∃ db₁ db₂, (version = 3 ∧ dropOutboxV3 db = .ok ((), db₁) ∨ version ≠ 3 ∧ db₁ = db) ∧
      (version = 4 → requireEmptyV4 db₁ = .ok ((), db₁)) ∧
      createGovernedTables db₁ = .ok ((), db₂) ∧ db' = { db₂ with userVersion := 5 } ∧
      isGovernedSchema 5 db' = true := by
  simp only [migrateGoverned, Tx.bind_ok, Tx.onlyIf_ok, Sql.setUserVersion_ok, require_ok,
    decide_eq_true_eq, decide_eq_false_iff_not] at h
  obtain ⟨_, db₁, three, _, db₂, four, _, db₃, created, _, _, rfl, current, rfl⟩ := h
  have second : db₂ = db₁ := four.elim (fun checked => (requireEmptyV4_ok checked.2).1) And.right
  subst second
  refine ⟨db₂, db₃, three, ?_, created, rfl, current⟩
  intro isFour
  exact four.elim And.right fun other => absurd isFour other.1

theorem migrateGoverned_rows (h : migrateGoverned version db = .ok (u, db')) : SameRows db db' := by
  obtain ⟨db₁, db₂, dropped, -, created, rfl, -⟩ := migrateGoverned_stages h
  have first : SameRows db db₁ := by
    rcases dropped with ⟨-, dropped⟩ | ⟨-, rfl⟩
    · exact dropOutboxV3_rows dropped
    · exact fun _ => rfl
  intro name
  exact first.trans (createGovernedTables_rows created) name

/-- A migration does not touch the clock's table. -/
theorem migrateGoverned_state (h : migrateGoverned version db = .ok (u, db')) :
    db'.tables .ledgerState = db.tables .ledgerState := by
  obtain ⟨db₁, db₂, dropped, -, created, rfl, -⟩ := migrateGoverned_stages h
  have first : db₁.tables .ledgerState = db.tables .ledgerState := by
    rcases dropped with ⟨-, dropped⟩ | ⟨-, rfl⟩
    · simp only [dropOutboxV3, Tx.bind_ok, require_ok, requireEmpty_ok, Sql.dropTable_ok] at dropped
      obtain ⟨_, _, ⟨-, rfl⟩, _, _, ⟨-, rfl⟩, -, rfl⟩ := dropped
      exact Database.set_of_ne _ (by decide) _
    · rfl
  simp only [createGovernedTables, Tx.bind_ok] at created
  obtain ⟨_, _, authority, _, _, outbox, _, _, results, pairings⟩ := created
  show db₂.tables .ledgerState = _
  rw [Sql.createTableIfNotExists_frame pairings (by decide),
    Sql.createTableIfNotExists_frame results (by decide),
    Sql.createTableIfNotExists_frame outbox (by decide),
    Sql.createTableIfNotExists_frame authority (by decide), first]

/-! ## The clock -/

/-- The accepted-time high-water mark of a file. -/
def highWater (db : LedgerFile) : Option Value :=
  ((db.rows .ledgerState).find? isSingleton).map fun row => row .highWaterSeconds

/-- A row that conflicts with no stored one where the singleton is the key is the only singleton. -/
theorem isSingleton_of_insert {relation : Relation TableName ColumnName}
    {table : Table (relation.layout.schema relation.check)}
    (layout : relation.layout.columns = expectedState)
    (inserted : relation.table.insert initialState = some table) :
    ∀ row ∈ relation.rows, isSingleton row = false := by
  intro row stored
  have apart := (Table.insert_eq_some.mp inserted).2.1 row stored
  have key : [ColumnName.singleton] ∈ relation.layout.keys := by
    rw [Layout.keys, layout]
    exact List.mem_cons_self
  have differ : agreeOn [ColumnName.singleton] row initialState = false := by
    by_contra agree
    have conflict : (relation.layout.schema relation.check).conflict row initialState = true :=
      List.any_eq_true.mpr ⟨_, key, by simpa using agree⟩
    rw [apart] at conflict
    cases conflict
  by_contra singleton
  have one : row .singleton = .integer 1 := by simpa [isSingleton] using singleton
  simp [agreeOn, one, initialState] at differ

/-- Opening a file of version 0 keeps its rows, and gives it a clock when it has none. -/
theorem createLegacySchema_ok (h : createLegacySchema db = .ok (u, db'))
    (layout : db'.tableInfo .ledgerState = expectedState) :
    (∀ name ≠ .ledgerState, db'.rows name = db.rows name) ∧
      (db'.rows .ledgerState = db.rows .ledgerState ∨
        highWater db = none ∧ highWater db' = some (.integer 0)) := by
  simp only [createLegacySchema, Tx.bind_ok] at h
  obtain ⟨_, db₁, consumptions, _, db₂, state, ignored⟩ := h
  have same (name : TableName) : db₂.rows name = db.rows name := by
    rw [Sql.createTableIfNotExists_rows state, Sql.createTableIfNotExists_rows consumptions]
  obtain ⟨relation, isTable, unchanged | inserted⟩ := Sql.insertOrIgnore_ok ignored
  · obtain ⟨-, rfl⟩ := unchanged
    exact ⟨fun name _ => same name, .inl (same _)⟩
  · obtain ⟨table, inserted, rfl⟩ := inserted
    have columns : relation.layout.columns = expectedState := by
      rw [Database.tableInfo, Database.set_self] at layout
      exact layout
    have apart := isSingleton_of_insert columns inserted
    refine ⟨fun name other => (Database.rows_set_of_ne _ other _).trans (same name), .inr ⟨?_, ?_⟩⟩
    · rw [highWater, ← same, Database.rows_of_some isTable, List.find?_eq_none.mpr, Option.map_none]
      intro row stored
      rw [apart row stored]
      exact Bool.false_ne_true
    · have isRows : table.rows = relation.rows ++ [initialState] :=
        (Table.insert_eq_some.mp inserted).2.2
      rw [highWater, Database.rows_set_self]
      show ((table.rows.find? isSingleton).map fun row => row .highWaterSeconds) = _
      rw [isRows, List.find?_append, List.find?_eq_none.mpr]
      · rfl
      · intro row stored
        rw [apart row stored]
        exact Bool.false_ne_true

/-- The other tables are left alone. -/
theorem createLegacySchema_frame (h : createLegacySchema db = .ok (u, db')) {name : TableName}
    (notConsumptions : name ≠ .approvalConsumptions) (notState : name ≠ .ledgerState) :
    db'.tables name = db.tables name := by
  simp only [createLegacySchema, Tx.bind_ok] at h
  obtain ⟨_, db₁, consumptions, _, db₂, state, ignored⟩ := h
  have same : db₂.tables name = db.tables name := by
    rw [Sql.createTableIfNotExists_frame state notState,
      Sql.createTableIfNotExists_frame consumptions notConsumptions]
  obtain ⟨relation, -, ⟨-, rfl⟩ | ⟨table, -, rfl⟩⟩ := Sql.insertOrIgnore_ok ignored
  · exact same
  · rw [Database.set_of_ne _ notState, same]

/-! ## One opening -/

/-- The schema a ledger opens with: version 5 when it is governed, version 1 when it is not. -/
def isCurrentSchema (governed : Bool) (db : LedgerFile) : Bool :=
  if governed then isGovernedSchema 5 db
  else isLegacySchema db && (db.tableInfo .threatHintV2Pairings).isEmpty

/-- Everything that is stored, and the clock, which a file of version 0 may have lacked. -/
structure SameHistory (db db' : LedgerFile) : Prop where
  rows : ∀ name ≠ .ledgerState, db'.rows name = db.rows name
  clock : highWater db' = highWater db ∨
    db.userVersion = 0 ∧ highWater db = none ∧ highWater db' = some (.integer 0)

theorem SameRows.history (same : SameRows db db') : SameHistory db db' where
  rows name _ := same name
  clock := .inl (by rw [highWater, highWater, same])

theorem isLegacyLayout_of_governed {governedVersion : Int}
    (h : isGovernedSchema governedVersion db = true) :
    isLegacyLayout governedVersion db = true := by
  simp only [isGovernedSchema, Bool.and_eq_true] at h
  exact h.1.1.1.2

theorem state_of_legacyLayout {expectedVersion : Int} (h : isLegacyLayout expectedVersion db = true) :
    db.userVersion = expectedVersion ∧ db.tableInfo .ledgerState = expectedState := by
  simp only [isLegacyLayout, Bool.and_eq_true, decide_eq_true_eq] at h
  exact ⟨h.1.1.1.1.1, h.1.1.1.2⟩

theorem SameHistory.trans {db'' : LedgerFile} (first : SameHistory db db') (second : SameRows db' db'') :
    SameHistory db db'' where
  rows name other := (second name).trans (first.rows name other)
  clock := by
    have same : highWater db'' = highWater db' := by rw [highWater, highWater, second]
    rw [same]
    exact first.clock

theorem createLegacySchema_history (zero : db.userVersion = 0)
    (h : createLegacySchema db = .ok (u, db'))
    (layout : db'.tableInfo .ledgerState = expectedState) : SameHistory db db' := by
  obtain ⟨rows, clock⟩ := createLegacySchema_ok h layout
  refine ⟨rows, ?_⟩
  rcases clock with same | ⟨absent, started⟩
  · exact .inl (by rw [highWater, highWater, same])
  · exact .inr ⟨zero, absent, started⟩

/-- The stages of an opening that returns. -/
theorem openTransaction_stages (h : openTransaction governed db = .ok (u, db')) :
    ∃ db₁, (db.userVersion ≠ 5 → db.tableInfo .threatHintV2Pairings = []) ∧
      db.userVersion ∈ (if governed then [0, 1, 2, 3, 4, 5] else [0, 1] : List Int) ∧
      (db.userVersion = 0 ∧ createLegacySchema db = .ok ((), db₁) ∨
        db.userVersion ≠ 0 ∧ db₁ = db) ∧
      (governed = true ∧ db.userVersion = 5 ∧ isGovernedSchema 5 db₁ = true ∧ db' = db₁ ∨
        governed = true ∧ db.userVersion ≠ 5 ∧ migrateGoverned db.userVersion db₁ = .ok ((), db') ∨
        governed = false ∧ isLegacySchema db' = true ∧ db' = { db₁ with userVersion := 1 }) := by
  simp only [openTransaction, initializeSchema, Tx.bind_ok, Sql.userVersion_ok, Tx.onlyIf_ok,
    decide_eq_true_eq, decide_eq_false_iff_not] at h
  obtain ⟨_, _, ⟨rfl, unread⟩, _, checked, refused, _, db₁, legacy, rest⟩ := h
  obtain ⟨unchecked, pairings, supported⟩ := refuseUnexpected_ok refused
  rw [unread] at unchecked pairings
  rw [unchecked] at legacy
  refine ⟨db₁, pairings, supported, legacy, ?_⟩
  cases governed with
  | true =>
    rw [if_pos rfl, Tx.ite_ok] at rest
    rcases rest with ⟨five, valid⟩ | ⟨older, migrated⟩
    · obtain ⟨current, same⟩ := require_ok.mp valid
      exact .inl ⟨rfl, five, current, same⟩
    · exact .inr (.inl ⟨rfl, older, migrated⟩)
  | false =>
    rw [if_neg Bool.false_ne_true] at rest
    simp only [finishLegacy, Tx.bind_ok, Sql.setUserVersion_ok, require_ok] at rest
    obtain ⟨_, _, rfl, current, rfl⟩ := rest
    exact .inr (.inr ⟨rfl, current, rfl⟩)

/-- What an opening that returns has done. -/
theorem openTransaction_ok (h : openTransaction governed db = .ok (u, db')) :
    SameHistory db db' ∧ isCurrentSchema governed db' = true := by
  obtain ⟨db₁, pairings, supported, legacy, rest⟩ := openTransaction_stages h
  rcases rest with ⟨rfl, five, current, rfl⟩ | ⟨rfl, -, migrated⟩ | ⟨rfl, current, rfl⟩
  · rcases legacy with ⟨zero, -⟩ | ⟨-, rfl⟩
    · rw [five] at zero
      cases zero
    · exact ⟨SameRows.history fun _ => rfl, current⟩
  · obtain ⟨-, -, -, -, -, -, current⟩ := migrateGoverned_stages migrated
    refine ⟨?_, current⟩
    rcases legacy with ⟨zero, created⟩ | ⟨-, rfl⟩
    · have layout := (state_of_legacyLayout (isLegacyLayout_of_governed current)).2
      rw [Database.tableInfo, migrateGoverned_state migrated] at layout
      exact (createLegacySchema_history zero created layout).trans (migrateGoverned_rows migrated)
    · exact (migrateGoverned_rows migrated).history
  · have older : db.userVersion ≠ 5 := by
      intro five
      rw [five] at supported
      revert supported
      decide
    rw [isCurrentSchema, if_neg Bool.false_ne_true, Bool.and_eq_true, List.isEmpty_iff]
    rcases legacy with ⟨zero, created⟩ | ⟨-, rfl⟩
    · have layout := (state_of_legacyLayout current).2
      have history := createLegacySchema_history zero created layout
      refine ⟨⟨history.rows, history.clock⟩, current, ?_⟩
      have absent := pairings older
      rw [Database.tableInfo, ← createLegacySchema_frame created (by decide) (by decide)] at absent
      exact absent
    · exact ⟨⟨fun _ _ => rfl, .inl rfl⟩, current, pairings older⟩

/-- A file of the current schema is opened as it is. -/
theorem openTransaction_current (current : isCurrentSchema governed db = true) :
    openTransaction governed db = .ok ((), db) := by
  cases governed with
  | true =>
    rw [isCurrentSchema, if_pos rfl] at current
    have five := (state_of_legacyLayout (isLegacyLayout_of_governed current)).1
    rw [openTransaction, Tx.bind_ok]
    refine ⟨5, db, Sql.userVersion_ok.mpr ⟨five.symm, rfl⟩, ?_⟩
    rw [initializeSchema, Tx.bind_ok]
    refine ⟨(), db, rfl, ?_⟩
    rw [Tx.bind_ok]
    exact ⟨(), db, rfl, require_ok.mpr ⟨current, rfl⟩⟩
  | false =>
    rw [isCurrentSchema, if_neg Bool.false_ne_true, Bool.and_eq_true, List.isEmpty_iff] at current
    obtain ⟨valid, absent⟩ := current
    have one := (state_of_legacyLayout valid).1
    rw [openTransaction, Tx.bind_ok]
    refine ⟨1, db, Sql.userVersion_ok.mpr ⟨one.symm, rfl⟩, ?_⟩
    rw [initializeSchema, Tx.bind_ok]
    refine ⟨(), db, ?_, ?_⟩
    · simp [refuseUnexpected, Tx.bind_ok, valid, absent]
    · rw [Tx.bind_ok]
      refine ⟨(), db, rfl, ?_⟩
      rw [if_neg Bool.false_ne_true, finishLegacy, Tx.bind_ok]
      exact ⟨(), db, Sql.setUserVersion_ok.mpr (by rw [← one]), require_ok.mpr ⟨valid, rfl⟩⟩

/-! ## Replays -/

/-- A stored consumption has the identity of an approval, or its approver and nonce. -/
def isConsumed (verified : VerifiedApproval) (row : LedgerRow) : Bool :=
  decide (row .approvalId = .blob verified.approvalId) ||
    (decide (row .approverXonlyPublicKey = .blob verified.approverXonlyPublicKey) &&
      decide (row .approvalNonce = .blob verified.approvalNonce))

/-- A stored pairing has the statement, the identity or the commitment of an approval. -/
def isPaired (verified : VerifiedApproval) (statementDigest : Bytes) (row : LedgerRow) : Bool :=
  decide (row .statementDigest = .blob statementDigest) ||
    decide (row .approvalId = .blob verified.approvalId) ||
    decide (row .observableCommitment = .blob verified.observableCommitment)

/-- The two `SELECT` statements by which `_consume` tells a replay. -/
def isReplay (db : LedgerFile) (verified : VerifiedApproval) (statementDigest : Option Bytes) :
    Bool :=
  (db.rows .approvalConsumptions).any (isConsumed verified) ||
    statementDigest.any fun digest => (db.rows .threatHintV2Pairings).any (isPaired verified digest)

/-- `_advance_time` raises `ObservableApprovalReplayError`. -/
def isBehind (db : LedgerFile) (consumedAt : Int) : Bool :=
  match highWater db with
  | some (.integer highWaterSeconds) => decide (consumedAt < highWaterSeconds)
  | _ => false

theorem SameHistory.isReplay (same : SameHistory db db') (verified : VerifiedApproval)
    (statementDigest : Option Bytes) :
    isReplay db' verified statementDigest = isReplay db verified statementDigest := by
  rw [Migration.isReplay, Migration.isReplay, same.rows _ (by decide), same.rows _ (by decide)]

theorem SameHistory.isBehind (same : SameHistory db db') {consumedAt : Int}
    (h : isBehind db consumedAt = true) : isBehind db' consumedAt = true := by
  rcases same.clock with clock | ⟨-, absent, -⟩
  · rw [Migration.isBehind, clock]
    exact h
  · rw [Migration.isBehind, absent] at h
    cases h

theorem uniqueIndexes_of_current (current : isCurrentSchema governed db = true) :
    ∃ relation, db.tables .approvalConsumptions = some relation ∧
      [ColumnName.approvalId] ∈ relation.layout.keys ∧
      [ColumnName.approverXonlyPublicKey, ColumnName.approvalNonce] ∈ relation.layout.keys := by
  have layout : ∃ expectedVersion, isLegacyLayout expectedVersion db = true := by
    cases governed with
    | true => exact ⟨5, isLegacyLayout_of_governed current⟩
    | false => exact ⟨1, (Bool.and_eq_true_iff.mp current).1⟩
  obtain ⟨_, layout⟩ := layout
  simp only [isLegacyLayout, Bool.and_eq_true, isStrictTable, hasUniqueIndexes, sameSet] at layout
  obtain ⟨⟨⟨-, strict⟩, -⟩, -, indexes⟩ := layout
  obtain ⟨relation, isTable, -⟩ := (Option.any_eq_true _ _).mp strict
  refine ⟨relation, isTable, ?_⟩
  rw [isTable] at indexes
  simp only [List.all_cons, List.all_nil, Bool.and_true, Bool.and_eq_true,
    decide_eq_true_eq] at indexes
  exact ⟨List.mem_cons_of_mem _ indexes.1, List.mem_cons_of_mem _ indexes.2⟩

/-- The constraints of an opened file refuse every row of an approval that has been consumed. -/
theorem insert_of_isReplay (current : isCurrentSchema governed db = true)
    {verified : VerifiedApproval} (replay : isReplay db verified none = true) {row : LedgerRow}
    (isId : row .approvalId = .blob verified.approvalId)
    (isApprover : row .approverXonlyPublicKey = .blob verified.approverXonlyPublicKey)
    (isNonce : row .approvalNonce = .blob verified.approvalNonce) :
    (Sql.insert .approvalConsumptions row : FileTx Unit) db = .error (.sqlite .integrity) := by
  obtain ⟨relation, isTable, byId, byNonce⟩ := uniqueIndexes_of_current current
  simp only [isReplay, Option.any_none, Bool.or_false, List.any_eq_true] at replay
  obtain ⟨stored, isStored, consumed⟩ := replay
  rw [Database.rows_of_some isTable] at isStored
  simp only [isConsumed, Bool.or_eq_true, Bool.and_eq_true, decide_eq_true_eq] at consumed
  rcases consumed with sameId | ⟨sameApprover, sameNonce⟩
  · exact Sql.insert_of_agree isTable isStored byId (by simp [agreeOn, sameId, isId])
  · exact Sql.insert_of_agree isTable isStored byNonce
      (by simp [agreeOn, sameApprover, isApprover, sameNonce, isNonce])

/-! ## Every file -/

theorem openFile_cases (governed : Bool) (fault : Option Bool) (db : LedgerFile) :
    (∃ e, openFile governed fault db = (.error e, db)) ∨
      ∃ db', openFile governed fault db = (.ok (), db') ∧
        openTransaction governed db = .ok ((), db') := by
  unfold openFile
  cases fault with
  | some busy => exact .inl ⟨_, rfl⟩
  | none =>
    rcases outcome : transact (openTransaction governed) db with ⟨result, db'⟩
    cases result with
    | ok u => exact .inr ⟨db', rfl, transact_ok.mp outcome⟩
    | error failure =>
      obtain rfl := transact_error outcome
      cases failure with
      | raised e => exact .inl ⟨e, rfl⟩
      | sqlite e =>
        cases e with
        | integrity => exact .inl ⟨_, rfl⟩
        | operational busy => exact .inl ⟨_, rfl⟩

/-- For every file and either kind of ledger: opening it raises and leaves every table as it was, or
leaves the schema of that kind with the same consumptions, pairings, pinned authority and clock; what
was refused as a replay still is, and the file opens again as it is. -/
theorem openFile_preserves (governed : Bool) (fault : Option Bool) (db : LedgerFile) :
    match openFile governed fault db with
    | (.error _, db') => db' = db
    | (.ok _, db') =>
      isCurrentSchema governed db' = true ∧ SameHistory db db' ∧
        (∀ verified statementDigest, isReplay db verified statementDigest = true →
          isReplay db' verified statementDigest = true) ∧
        (∀ consumedAt, isBehind db consumedAt = true → isBehind db' consumedAt = true) ∧
        (∀ (verified : VerifiedApproval) (row : LedgerRow), isReplay db verified none = true →
          row .approvalId = .blob verified.approvalId →
          row .approverXonlyPublicKey = .blob verified.approverXonlyPublicKey →
          row .approvalNonce = .blob verified.approvalNonce →
          (Sql.insert .approvalConsumptions row : FileTx Unit) db' =
            .error (.sqlite .integrity)) ∧
        openFile governed none db' = (.ok (), db') ∧
        ∀ fault', (openFile governed fault' db').2 = db' := by
  rcases openFile_cases governed fault db with ⟨e, raised⟩ | ⟨db', returned, opened⟩
  · rw [raised]
  · rw [returned]
    obtain ⟨same, current⟩ := openTransaction_ok opened
    have again : openFile governed none db' = (.ok (), db') := by
      have reopened := transact_ok.mpr (openTransaction_current current)
      simp only [openFile, reopened]
    refine ⟨current, same, ?_, fun _ => same.isBehind, ?_, again, ?_⟩
    · intro verified statementDigest replay
      rw [same.isReplay]
      exact replay
    · intro verified row replay isId isApprover isNonce
      rw [← same.isReplay] at replay
      exact insert_of_isReplay current replay isId isApprover isNonce
    · intro fault'
      cases fault' with
      | none => rw [again]
      | some busy => rfl

/-! ### A file of version 3 with a consumption -/

/-- The approval that the file has consumed. -/
def consumedApproval : VerifiedApproval where
  approvalId := List.replicate 32 1
  observableCommitment := List.replicate 32 2
  approverXonlyPublicKey := List.replicate 32 3
  recipientScope := List.replicate 32 4
  approvalNonce := List.replicate 32 5
  networkId := str "testnet"
  notBefore := 5
  expiresAt := 20

def consumedRow : LedgerRow
  | .approvalId => .blob consumedApproval.approvalId
  | .approverXonlyPublicKey => .blob consumedApproval.approverXonlyPublicKey
  | .approvalNonce => .blob consumedApproval.approvalNonce
  | .observableCommitment => .blob consumedApproval.observableCommitment
  | .recipientScope => .blob consumedApproval.recipientScope
  | .networkId => .text consumedApproval.networkId
  | .notBefore => .integer consumedApproval.notBefore
  | .expiresAt => .integer consumedApproval.expiresAt
  | .consumedAt => .integer 10
  | _ => .null

def versionThreeClock : LedgerRow
  | .singleton => .integer 1
  | .highWaterSeconds => .integer 10
  | _ => .null

def versionThree : LedgerFile where
  userVersion := 3
  tables
    | .approvalConsumptions =>
      some ⟨consumptionsLayout, consumptionsCheck, ⟨[consumedRow], by decide, by decide⟩⟩
    | .ledgerState => some ⟨stateLayout, isSingleton, ⟨[versionThreeClock], by decide, by decide⟩⟩
    | .authorityState => some (.empty authorityLayout authorityCheck)
    | .approvalOutbox => some (.empty { outboxLayout with columns := expectedOutboxV3 } fun _ => true)
    | _ => none
  otherTables := []
  otherObjects := []

theorem openFile_preserves_three :
    (openFile true none versionThree).1 = .ok () ∧
      isReplay (openFile true none versionThree).2 consumedApproval none = true ∧
      isBehind (openFile true none versionThree).2 9 = true := by
  have opened : (openFile true none versionThree).1 = .ok () := by decide
  have preserved := openFile_preserves true none versionThree
  generalize openFile true none versionThree = outcome at opened preserved ⊢
  obtain ⟨result, file⟩ := outcome
  obtain rfl : result = .ok () := opened
  exact ⟨rfl, preserved.2.2.1 consumedApproval none (by decide),
    preserved.2.2.2.1 9 (by decide)⟩

end Prometheus.Jaeger.ApprovalLedger.Migration
