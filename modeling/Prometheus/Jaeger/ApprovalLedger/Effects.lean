import Prometheus.Jaeger.ApprovalLedger.Service

/-!
# What each call does to the file

One inversion lemma for each operation: a call either raises and leaves the file as it was, or
returns and changes the file in the way a relation of this module states (`Consumed`, `Enqueued`,
`Pruned`, `Leased`, `Recorded`, `Opened`). The invariants of the following modules are derived
from these relations and never unfold an operation again.
-/

namespace Prometheus.Jaeger.ApprovalLedger

open Prometheus.Codec Prometheus.Machine

variable {codec : WireCodec} {db db' : Db}

@[simp] theorem bindInteger_ok {v : Int} {u : Unit} :
    bindInteger v db = .ok (u, db') ↔ (-2 ^ 63 ≤ v ∧ v < 2 ^ 63) ∧ db' = db := by
  simp [bindInteger, isInteger]

/-! ## Consumption -/

/-- A validated snapshot of the stored epoch has the stored row's other values as well. -/
theorem authorityRow_of_sameEpoch {row : AuthorityRow} {governance : GovernanceBinding}
    (valid : validateAuthorityRow row governance = true)
    (older : ¬ governance.policy.authorityEpoch > row.authorityEpoch) :
    governance.authorityRow = row := by
  simp only [validateAuthorityRow, Bool.and_eq_true, Bool.not_eq_true', Bool.or_eq_false_iff,
    Bool.and_eq_false_iff, decide_eq_false_iff_not, not_not, not_lt] at valid
  obtain ⟨⟨⟨-, epoch, network⟩, same⟩, -⟩ := valid
  have epochEq : governance.policy.authorityEpoch = row.authorityEpoch := by omega
  rcases same with differs | ⟨⟨⟨⟨⟨⟨h1, h2⟩, h3⟩, h4⟩, h5⟩, h6⟩, h7⟩
  · exact absurd epochEq differs
  · cases row
    simp_all [GovernanceBinding.authorityRow]

theorem pinAuthority_ok {row : AuthorityRow} {u : Unit}
    (h : pinAuthority row db = .ok (u, db')) : db' = { db with authorityState := some row } := by
  simp only [pinAuthority, Tx.bind_ok, bindInteger_ok, Tx.ensure_ok, Tx.modify_ok] at h
  obtain ⟨_, _, ⟨-, rfl⟩, _, _, ⟨-, rfl⟩, _, _, ⟨-, rfl⟩, _, _, ⟨-, rfl⟩, rfl⟩ := h
  rfl

/-- `_apply_authority_snapshot` leaves the pin at the snapshot's own row. -/
theorem applyAuthoritySnapshot_ok {governance : GovernanceBinding} {u : Unit}
    (h : applyAuthoritySnapshot governance db = .ok (u, db')) :
    db.version = .governed ∧ db' = { db with authorityState := some governance.authorityRow } := by
  simp only [applyAuthoritySnapshot, Tx.bind_ok, Tx.query_ok, Tx.ensure_ok] at h
  obtain ⟨version, _, ⟨rfl, rfl⟩, _, _, ⟨governed, rfl⟩, stored, _, ⟨isStored, rfl⟩, _, _,
    ⟨valid, rfl⟩, applied⟩ := h
  refine ⟨by simpa using governed, ?_⟩
  cases stored with
  | none => exact pinAuthority_ok applied
  | some row =>
    rw [applyAuthorityRow, Tx.ite_ok] at applied
    rcases applied with ⟨-, applied⟩ | ⟨older, applied⟩
    · exact pinAuthority_ok applied
    · obtain ⟨-, rfl⟩ := Tx.pure_ok.mp applied
      rw [authorityRow_of_sameEpoch (by simpa using valid) older, isStored]

/-- `DELETE … WHERE retention_deadline <= ?` on both tables. -/
def prunedOutbox (now : Int) (db : Db) : Table outboxSchema :=
  db.approvalOutbox.delete fun r => r.retentionDeadline ≤ now

@[inherit_doc prunedOutbox] def prunedResults (now : Int) (db : Db) : Table resultSchema :=
  db.observableAnalysisResults.delete fun r => r.retentionDeadline ≤ now

theorem pruneOutbox_ok {now : Int} {u : Unit} :
    pruneOutbox now db = .ok (u, db') ↔
      (-2 ^ 63 ≤ now ∧ now < 2 ^ 63) ∧ db' = { db with approvalOutbox := prunedOutbox now db } := by
  simp [pruneOutbox, prunedOutbox]

theorem pruneResults_ok {now : Int} {u : Unit} :
    pruneResults now db = .ok (u, db') ↔
      (-2 ^ 63 ≤ now ∧ now < 2 ^ 63) ∧
        db' = { db with observableAnalysisResults := prunedResults now db } := by
  simp [pruneResults, prunedResults]

theorem insertOutbox_ok {row : OutboxRow} {u : Unit}
    (h : insertOutbox row db = .ok (u, db')) :
    db.approvalOutbox.insert row = some db'.approvalOutbox ∧
      db' = { db with approvalOutbox := db'.approvalOutbox } := by
  simp only [insertOutbox, Tx.bind_ok, Tx.query_ok, Tx.orRaise_ok, bindInteger_ok,
    Tx.modify_ok] at h
  obtain ⟨_, _, ⟨-, rfl⟩, _, _, ⟨-, rfl⟩, _, _, ⟨rfl, rfl⟩, _, _, ⟨inserted, rfl⟩, rfl⟩ := h
  exact ⟨inserted, rfl⟩

theorem insertPairing_ok {row : PairingRow} {u : Unit}
    (h : insertPairing row db = .ok (u, db')) :
    db.threatHintV2Pairings.insert row = some db'.threatHintV2Pairings ∧
      db' = { db with threatHintV2Pairings := db'.threatHintV2Pairings } := by
  simp only [insertPairing, Tx.bind_ok, Tx.query_ok, Tx.orRaise_ok, Tx.ensure_ok, bindInteger_ok,
    Tx.modify_ok] at h
  obtain ⟨_, _, ⟨-, rfl⟩, _, _, ⟨rfl, rfl⟩, _, _, ⟨-, rfl⟩, _, _, ⟨rfl, rfl⟩, _, _,
    ⟨inserted, rfl⟩, rfl⟩ := h
  exact ⟨inserted, rfl⟩

/-- The part of a successful `_enqueue_outbox` that concerns the file, for the wires and the
statement digest it validated. -/
structure Enqueued (codec : WireCodec) (verified : VerifiedApproval) (wires : OutboxWires)
    (statementDigest : Bytes) (consumedAt : Int) (retention : RetentionPolicy) (db db' : Db) :
    Prop where
  statement : validateOutboxStatement codec wires.statementWire verified.networkId
    verified.observableCommitment wires.reportNonce = .ok statementDigest
  bundle : checkBundle codec wires.bundleWire verified.networkId wires.reportNonce
    verified.observableCommitment = .ok ()
  bundleLength : wires.bundleWire.length ≤ maxCanonicalBytes
  retained : 1 ≤ retention.maxRetentionSeconds
  capacity : ((prunedOutbox consumedAt db).count : Int) < retention.maxPendingRecords
  outbox : (prunedOutbox consumedAt db).insert (pendingRow verified wires statementDigest
    consumedAt (consumedAt + retention.maxRetentionSeconds)) = some db'.approvalOutbox
  results : db'.observableAnalysisResults = prunedResults consumedAt db
  pairings : db.threatHintV2Pairings.insert (pairingRow verified statementDigest consumedAt) =
    some db'.threatHintV2Pairings

theorem enqueueOutbox_ok {verified : VerifiedApproval} {arguments : OutboxArguments}
    {consumedAt : Int} {retention : RetentionPolicy} {u : Unit}
    (h : enqueueOutbox codec verified arguments consumedAt retention db = .ok (u, db')) :
    (∃ wires statementDigest, arguments.wires = some wires ∧
      Enqueued codec verified wires statementDigest consumedAt retention db db') ∧
    db' = { db with
      approvalOutbox := db'.approvalOutbox
      observableAnalysisResults := db'.observableAnalysisResults
      threatHintV2Pairings := db'.threatHintV2Pairings } := by
  simp only [enqueueOutbox, Tx.bind_ok, Tx.query_ok, Tx.ensure_ok, Tx.orRaise_ok, Tx.lift_ok,
    pruneOutbox_ok, pruneResults_ok, Bool.and_eq_true, decide_eq_true_eq] at h
  obtain ⟨_, _, ⟨⟨-, retained⟩, rfl⟩, wires, _, ⟨isWires, rfl⟩, _, _,
    ⟨⟨⟨⟨-, bundleLength⟩, -⟩, -⟩, rfl⟩, statementDigest, _, ⟨statement, rfl⟩, _, _,
    ⟨bundle, rfl⟩, _, _, ⟨-, rfl⟩, _, _, ⟨-, rfl⟩, _, _, ⟨rfl, rfl⟩, _, _, ⟨capacity, rfl⟩,
    _, db₁, enqueued, paired⟩ := h
  obtain ⟨inserted, db₁Eq⟩ := insertOutbox_ok enqueued
  obtain ⟨pairing, dbEq⟩ := insertPairing_ok paired
  rw [db₁Eq] at pairing dbEq
  rw [dbEq]
  exact ⟨⟨wires, statementDigest, isWires, statement, bundle, bundleLength, retained, capacity,
    inserted, rfl, pairing⟩, rfl⟩

/-- The outbox tables are as they were. -/
structure OutboxUntouched (db db' : Db) : Prop where
  outbox : db'.approvalOutbox = db.approvalOutbox
  results : db'.observableAnalysisResults = db.observableAnalysisResults
  pairings : db'.threatHintV2Pairings = db.threatHintV2Pairings

/-- What a consumption that returns does to the tables every ledger has. -/
structure Consumed (verified : VerifiedApproval) (consumedAt : Int)
    (governance : Option GovernanceBinding) (db db' : Db) : Prop where
  window : isTimestamp consumedAt = true ∧ verified.notBefore ≤ consumedAt ∧
    consumedAt ≤ verified.expiresAt
  highWater : ∃ stored, db.ledgerState = some stored ∧ stored ≤ consumedAt
  advanced : db'.ledgerState = some consumedAt
  inserted : db.approvalConsumptions.insert (verified.consumptionRow consumedAt) =
    some db'.approvalConsumptions
  version : db'.version = db.version
  outboxV3 : db'.approvalOutboxV3 = db.approvalOutboxV3
  pin : db'.authorityState =
    (governance.map GovernanceBinding.authorityRow).or db.authorityState
  governed : governance.isSome = true → db.version = .governed

/-- A consumption with the durable outbox enqueues; another leaves the outbox tables alone. -/
def OutboxEffect (codec : WireCodec) (ledger : LedgerObject) (verified : VerifiedApproval)
    (consumedAt : Int) (governance : Option GovernanceBinding) (arguments : OutboxArguments)
    (db db' : Db) : Prop :=
  match governance with
  | none => OutboxUntouched db db'
  | some governance =>
    if ledger.outboxEnabled then
      ∃ wires statementDigest, arguments.wires = some wires ∧
        Enqueued codec verified wires statementDigest consumedAt governance.retention db db'
    else OutboxUntouched db db'

theorem advanceTime_ok {consumedAt : Int} {u : Unit}
    (h : advanceTime consumedAt db = .ok (u, db')) :
    (∃ stored, db.ledgerState = some stored ∧ stored ≤ consumedAt) ∧
      db' = { db with ledgerState := some consumedAt } := by
  simp only [advanceTime, Tx.bind_ok, Tx.query_ok, Tx.orRaise_ok, Tx.ensure_ok, bindInteger_ok,
    Tx.modify_ok, decide_eq_true_eq] at h
  obtain ⟨_, _, ⟨rfl, rfl⟩, stored, _, ⟨isStored, rfl⟩, _, _, ⟨notEarlier, rfl⟩, _, _, ⟨-, rfl⟩,
    rfl⟩ := h
  exact ⟨⟨stored, isStored, notEarlier⟩, rfl⟩

theorem insertConsumption_ok {row : ConsumptionRow} {u : Unit}
    (h : insertConsumption row db = .ok (u, db')) :
    db.approvalConsumptions.insert row = some db'.approvalConsumptions ∧
      db' = { db with approvalConsumptions := db'.approvalConsumptions } := by
  simp only [insertConsumption, Tx.bind_ok, Tx.query_ok, Tx.orRaise_ok, bindInteger_ok,
    Tx.modify_ok] at h
  obtain ⟨_, _, ⟨-, rfl⟩, _, _, ⟨-, rfl⟩, _, _, ⟨-, rfl⟩, _, _, ⟨rfl, rfl⟩, consumptions', _,
    ⟨inserted, rfl⟩, rfl⟩ := h
  exact ⟨inserted, rfl⟩

theorem consumeTransaction_ok {ledger : LedgerObject} {verified : VerifiedApproval}
    {consumedAt : Int} {governance : Option GovernanceBinding} {arguments : OutboxArguments}
    {u : Unit}
    (window : isTimestamp consumedAt = true ∧ verified.notBefore ≤ consumedAt ∧
      consumedAt ≤ verified.expiresAt)
    (h : consumeTransaction codec ledger verified consumedAt governance arguments db =
      .ok (u, db')) :
    Consumed verified consumedAt governance db db' ∧
      OutboxEffect codec ledger verified consumedAt governance arguments db db' := by
  unfold consumeTransaction at h
  cases governance with
  | none =>
    simp only [Tx.bind_ok, Tx.pure_ok] at h
    obtain ⟨_, _, advanced, _, _, inserted, -, rfl⟩ := h
    obtain ⟨highWater, rfl⟩ := advanceTime_ok advanced
    obtain ⟨inserted, dbEq⟩ := insertConsumption_ok inserted
    rw [dbEq]
    exact ⟨⟨window, highWater, rfl, inserted, rfl, rfl, rfl, by simp⟩, rfl, rfl, rfl⟩
  | some governance =>
    simp only [Tx.bind_ok] at h
    obtain ⟨_, _, pinned, _, _, advanced, _, db₁, inserted, enqueued⟩ := h
    obtain ⟨governed, rfl⟩ := applyAuthoritySnapshot_ok pinned
    obtain ⟨highWater, rfl⟩ := advanceTime_ok advanced
    obtain ⟨inserted, db₁Eq⟩ := insertConsumption_ok inserted
    rw [Tx.ite_ok] at enqueued
    rcases enqueued with ⟨enabled, enqueued⟩ | ⟨disabled, enqueued⟩
    · obtain ⟨⟨wires, statementDigest, isWires, effect⟩, dbEq⟩ := enqueueOutbox_ok enqueued
      rw [db₁Eq] at dbEq effect
      rw [dbEq]
      refine ⟨⟨window, highWater, rfl, inserted, rfl, rfl, rfl, fun _ => governed⟩, ?_⟩
      simp only [OutboxEffect, enabled, if_true]
      exact ⟨wires, statementDigest, isWires, ⟨effect.statement, effect.bundle,
        effect.bundleLength, effect.retained, effect.capacity, effect.outbox, effect.results,
        effect.pairings⟩⟩
    · obtain ⟨-, rfl⟩ := Tx.pure_ok.mp enqueued
      rw [db₁Eq]
      refine ⟨⟨window, highWater, rfl, inserted, rfl, rfl, rfl, fun _ => governed⟩, ?_⟩
      simp only [OutboxEffect, disabled]
      exact ⟨rfl, rfl, rfl⟩

/-- A call either raises, and leaves the file as it was, or returns what its transaction does. -/
theorem runTransaction_cases {α : Type} {fault : Option Bool} {body : LedgerTx α}
    {handler : TxError → ConsumptionError} {out : Except ConsumptionError α}
    (h : runTransaction fault body handler db = (out, db')) :
    (∃ e, out = .error e ∧ db' = db) ∨ (∃ a, out = .ok a ∧ body db = .ok (a, db')) := by
  unfold runTransaction at h
  obtain ⟨rfl, rfl⟩ := Prod.mk.inj h
  cases outcome : transactIo fault body db with
  | mk result after =>
    cases result with
    | error e => exact .inl ⟨handler e, rfl, transactIo_error outcome⟩
    | ok a => exact .inr ⟨a, rfl, (transactIo_ok.mp outcome).2⟩

theorem consumeShared_cases {ledger : LedgerObject} {verified : Option VerifiedApproval}
    {consumedAt : Option Int} {governance : Option GovernanceBinding}
    {arguments : OutboxArguments} {io : Io} {out : Except ConsumptionError ConsumptionReceipt}
    (h : consumeShared codec ledger verified consumedAt governance arguments io db = (out, db')) :
    (∃ e, out = .error e ∧ db' = db) ∨
      ∃ v t, verified = some v ∧ consumedAt = some t ∧
        out = .ok ⟨v.approvalId, v.observableCommitment, t⟩ ∧
        Consumed v t governance db db' ∧
        OutboxEffect codec ledger v t governance arguments db db' := by
  unfold consumeShared at h
  split at h
  · rename_i v t
    split at h
    · rename_i window
      rcases outcome : runTransaction io.transaction
        (consumeTransaction codec ledger v t governance arguments)
        (raiseConsumeError codec ledger v governance arguments io db) db with ⟨result, after⟩
      rw [outcome] at h
      obtain ⟨rfl, rfl⟩ := Prod.mk.inj h
      rcases runTransaction_cases outcome with ⟨e, rfl, rfl⟩ | ⟨_, rfl, returned⟩
      · exact .inl ⟨e, rfl, rfl⟩
      · exact .inr ⟨v, t, rfl, rfl, rfl, consumeTransaction_ok window returned⟩
    · exact .inl ⟨_, (Prod.mk.inj h).1.symm, (Prod.mk.inj h).2.symm⟩
  · exact .inl ⟨_, (Prod.mk.inj h).1.symm, (Prod.mk.inj h).2.symm⟩

theorem consumeGoverned_cases {ledger : LedgerObject} {verified : Option VerifiedApproval}
    {consumedAt : Option Int} {governance : Option GovernanceBinding}
    {arguments : OutboxArguments} {io : Io} {out : Except ConsumptionError ConsumptionReceipt}
    (h : consumeGoverned codec ledger verified consumedAt governance arguments io db =
      (out, db')) :
    (∃ e, out = .error e ∧ db' = db) ∨
      ∃ v t, verified = some v ∧ consumedAt = some t ∧ governance = ledger.governance ∧
        out = .ok ⟨v.approvalId, v.observableCommitment, t⟩ ∧
        Consumed v t governance db db' ∧
        OutboxEffect codec ledger v t governance arguments db db' := by
  unfold consumeGoverned at h
  split at h
  · exact .inl ⟨_, (Prod.mk.inj h).1.symm, (Prod.mk.inj h).2.symm⟩
  rename_i same
  split at h
  · exact .inl ⟨_, (Prod.mk.inj h).1.symm, (Prod.mk.inj h).2.symm⟩
  rcases consumeShared_cases h with raised | ⟨v, t, hv, ht, rest⟩
  · exact .inl raised
  · exact .inr ⟨v, t, hv, ht, not_not.mp same, rest⟩

end Prometheus.Jaeger.ApprovalLedger
