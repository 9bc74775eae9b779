import Prometheus.Jaeger.ApprovalLedger.Outbox
import Prometheus.Machine.Trace

/-!
# Opening a ledger, and the machine of its calls

`_ObservableApprovalLedger.__init__` and `_initialize_schema` (`:288-485`), which create, migrate
or refuse the file, and the step machine of all calls on one file. A ledger object holds no
connection and no cached row, so closing and reopening the file is a constructor call like any
other, and the machine's state is the file alone.
-/

namespace Prometheus.Jaeger.ApprovalLedger

open Prometheus.Codec Prometheus.Machine

/-- `_create_legacy_schema`: `CREATE TABLE IF NOT EXISTS` and `INSERT OR IGNORE` keep what is
there. -/
def createLegacySchema (db : Db) : Db :=
  { db with ledgerState := some (db.ledgerState.getD 0) }

/-- The tables `_initialize_schema` creates when it brings a file to the governed version. A file
of version 4 keeps its outbox and results, which the migration requires to be empty. -/
def createGovernedTables (db : Db) : Db :=
  { db with
    version := .governed
    approvalOutbox := .empty
    approvalOutboxV3 := []
    observableAnalysisResults := .empty
    threatHintV2Pairings := .empty }

/-- `_initialize_schema`; `none` where it raises. -/
def initializeSchema (ledger : LedgerObject) (db : Db) : Option Db :=
  match ledger.governance.isSome, db.version with
  | false, .fresh => some { createLegacySchema db with version := .legacy }
  | false, .legacy => some db
  | false, _ => none
  | true, .fresh =>
    if db.authorityState.isSome then none else some (createGovernedTables (createLegacySchema db))
  | true, .legacy => if db.authorityState.isSome then none else some (createGovernedTables db)
  | true, .governedV2 => some (createGovernedTables db)
  | true, .governedV3 =>
    if db.approvalOutboxV3.isEmpty then some (createGovernedTables db) else none
  | true, .governedV4 =>
    if db.approvalOutbox.count = 0 ∧ db.observableAnalysisResults.count = 0 then
      some (createGovernedTables db)
    else none
  | true, .governed => some db
  | true, .unsupported => none

/-- `__init__`: open the file with a ledger object. -/
def openLedger (ledger : LedgerObject) (io : Io) (db : Db) : Except ConsumptionError Unit × Db :=
  match io.transaction with
  | some busy => (.error (raiseOperationalError busy), db)
  | none =>
    match initializeSchema ledger db with
    | some db' => (.ok (), db')
    | none => (.error .consumption, db)

/-- One call on the ledger file: an `open`, or a method of a ledger or outbox object. -/
inductive Call
  | openLedger (ledger : LedgerObject) (io : Io)
  | consume (ledger : LedgerObject) (verified : Option VerifiedApproval) (consumedAt : Option Int)
      (io : Io)
  | consumeGoverned (ledger : LedgerObject) (verified : Option VerifiedApproval)
      (consumedAt : Option Int) (governance : Option GovernanceBinding)
      (arguments : OutboxArguments) (io : Io)
  | claim (outbox : OutboxObject) (arguments : Option ClaimArguments) (leaseToken : Bytes)
      (io : Io)
  | complete (outbox : OutboxObject) (arguments : Option CompleteArguments) (io : Io)
  | result (arguments : Option ResultArguments) (io : Io)

/-- What a call returns. -/
inductive Answer
  | opened
  | receipt (receipt : ConsumptionReceipt)
  | claimed (claim : Option OutboxClaim)
  | completed (completion : AnalysisCompletion)
  | stored (result : Option AnalysisStoredResult)
  deriving DecidableEq, Repr

/-- Wrap what a method returns. -/
def answer {α : Type} (wrap : α → Answer) (outcome : Except ConsumptionError α × Db) :
    Except ConsumptionError Answer × Db :=
  (outcome.1.map wrap, outcome.2)

/-- Perform one call. -/
def step (codec : WireCodec) : Call → Db → Except ConsumptionError Answer × Db
  | .openLedger ledger io, db => answer (fun _ => .opened) (openLedger ledger io db)
  | .consume ledger verified consumedAt io, db =>
    answer .receipt (consume codec ledger verified consumedAt io db)
  | .consumeGoverned ledger verified consumedAt governance arguments io, db =>
    answer .receipt (consumeGoverned codec ledger verified consumedAt governance arguments io db)
  | .claim outbox arguments leaseToken io, db =>
    answer .claimed (claim codec outbox arguments leaseToken io db)
  | .complete outbox arguments io, db => answer .completed (complete codec outbox arguments io db)
  | .result arguments io, db => answer .stored (result codec arguments io db)

/-- An executed call on the ledger file. -/
abbrev LedgerEvent := Event Db Call (Except ConsumptionError Answer)

end Prometheus.Jaeger.ApprovalLedger
