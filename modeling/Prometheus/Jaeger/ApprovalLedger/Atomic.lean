import Prometheus.Jaeger.ApprovalLedger.OneTime

/-!
# Governed consumption is atomic

`consume_governed` either raises, and no table of the file has changed, or it returns, and clock,
consumption and authority pin have changed together. The pairing and the outbox row belong to the
same transaction when the ledger was built with the durable outbox; without it the three outbox
tables are not touched.
-/

namespace Prometheus.Jaeger.ApprovalLedger

open Prometheus.Codec Prometheus.Machine

/-- The outbox tables after a consumption with the durable outbox: the expired records and results
are gone, the new record and its pairing are there. -/
def EnqueuedTogether (verified : VerifiedApproval) (wires : OutboxWires) (statementDigest : Bytes)
    (consumedAt : Int) (retention : RetentionPolicy) (db db' : Db) : Prop :=
  db'.approvalOutbox.rows = (prunedOutbox consumedAt db).rows ++
    [pendingRow verified wires statementDigest consumedAt
      (consumedAt + retention.maxRetentionSeconds)] ∧
  db'.threatHintV2Pairings.rows =
    db.threatHintV2Pairings.rows ++ [pairingRow verified statementDigest consumedAt] ∧
  db'.observableAnalysisResults = prunedResults consumedAt db

/-- For every file and every argument: a call that raises leaves the whole file as it was; a call
that returns has moved the clock to its time, stored its consumption and pinned its authority
snapshot, and with the durable outbox also stored the pending record and the pairing. -/
theorem consumeGoverned_atomic (codec : WireCodec) (ledger : LedgerObject)
    (verified : Option VerifiedApproval) (consumedAt : Option Int)
    (governance : Option GovernanceBinding) (arguments : OutboxArguments) (io : Io) (db : Db) :
    match consumeGoverned codec ledger verified consumedAt governance arguments io db with
    | (.error _, db') => db' = db
    | (.ok receipt, db') => ∃ v t, verified = some v ∧ consumedAt = some t ∧
        receipt = ⟨v.approvalId, v.observableCommitment, t⟩ ∧
        db'.ledgerState = some t ∧
        db'.approvalConsumptions.rows = db.approvalConsumptions.rows ++ [v.consumptionRow t] ∧
        db'.authorityState =
          (governance.map GovernanceBinding.authorityRow).or db.authorityState ∧
        match governance with
        | some binding =>
          if ledger.outboxEnabled then
            ∃ wires statementDigest, arguments.wires = some wires ∧
              EnqueuedTogether v wires statementDigest t binding.retention db db'
          else OutboxUntouched db db'
        | none => OutboxUntouched db db' := by
  rcases outcome : consumeGoverned codec ledger verified consumedAt governance arguments io db
    with ⟨out, db'⟩
  rcases consumeGoverned_cases outcome with
    ⟨e, rfl, unchanged⟩ | ⟨v, t, isVerified, isTime, -, rfl, consumed, outbox⟩
  · exact unchanged
  · refine ⟨v, t, isVerified, isTime, rfl, consumed.advanced,
      (Table.insert_eq_some.mp consumed.inserted).2.2, consumed.pin, ?_⟩
    cases governance with
    | none => exact outbox
    | some binding =>
      simp only [OutboxEffect] at outbox
      split at outbox
      · rename_i enabled
        obtain ⟨wires, statementDigest, isWires, enqueued⟩ := outbox
        simp only [enabled, if_true]
        exact ⟨wires, statementDigest, isWires, (Table.insert_eq_some.mp enqueued.outbox).2.2,
          (Table.insert_eq_some.mp enqueued.pairings).2.2, enqueued.results⟩
      · rename_i disabled
        simp only [disabled]
        exact outbox

/-- The governed ledger without the durable outbox. -/
def snapshotLedger : LedgerObject := ⟨some sampleGovernance, false, governed_of_no_outbox⟩

/-- Without the durable outbox a call returns and stores neither pairing nor outbox row. -/
theorem consumeGoverned_without_pairing :
    ¬ ∀ (codec : WireCodec) (ledger : LedgerObject) (verified : Option VerifiedApproval)
      (consumedAt : Option Int) (governance : Option GovernanceBinding)
      (arguments : OutboxArguments) (io : Io) (db db' : Db) (receipt : ConsumptionReceipt),
      consumeGoverned codec ledger verified consumedAt governance arguments io db =
        (.ok receipt, db') →
      (∃ pairing ∈ db'.threatHintV2Pairings.rows, pairing.approvalId = receipt.approvalId) ∧
        ∃ row ∈ db'.approvalOutbox.rows, row.approvalId = receipt.approvalId := by
  intro claim
  let opened := (step refusingCodec (.openLedger snapshotLedger .none) Db.fresh).2
  let outcome := consumeGoverned refusingCodec snapshotLedger (some (sampleApproval 1 1)) (some 10)
    snapshotLedger.governance ⟨none, none, none⟩ .none opened
  have returned : outcome.1 = .ok ⟨List.replicate 32 1, List.replicate 32 1, 10⟩ := by
    decide
  have unpaired : outcome.2.threatHintV2Pairings.rows = [] := by decide
  obtain ⟨⟨pairing, stored, -⟩, -⟩ :=
    claim _ _ _ _ _ _ _ opened outcome.2 _ (Prod.ext returned rfl)
  rw [unpaired] at stored
  cases stored

end Prometheus.Jaeger.ApprovalLedger
