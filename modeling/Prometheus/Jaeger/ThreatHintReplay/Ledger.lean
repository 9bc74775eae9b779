import Prometheus.Codec.JsonEscape
import Prometheus.Machine.Table
import Prometheus.Machine.Trace
import Prometheus.Machine.Transaction

/-!
# The replay ledger of schema-v1 hints

`ThreatHintReplayLedger` of `threat_hint_ingress.py`: the replay identities of admitted hints and
the analyzer outbox, as a step machine on the ledger file. The object keeps no connection, so a
reopen, or another process, is another call on the same file. `hashlib.sha256` is a parameter.
-/

namespace Prometheus.Jaeger.ThreatHintReplay

open Prometheus.Codec Prometheus.Machine

/-- `MAX_HINT_AGE_SECONDS`. -/
def maxHintAgeSeconds : Int := 300

/-- `MAX_FUTURE_SKEW_SECONDS`. -/
def maxFutureSkewSeconds : Int := 30

/-- `_MAX_SQLITE_INT`. -/
def maxSqliteInt : Int := 2 ^ 63 - 1

/-- `_is_timestamp` of an integer. -/
def isTimestamp (value : Int) : Bool := decide (0 < value) && decide (value ≤ maxSqliteInt)

/-- `_is_hex_32`. -/
def isHex32 (s : Str) : Bool := s.length == 64 && s.all isLowerHex

/-- `CanonicalThreatHint`. -/
structure CanonicalThreatHint where
  schemaVersion : Int
  threatHash : Str
  confidenceBps : Int
  indicatorType : Str
  proofSystem : Str
  proof : Str
  reportNonce : Str
  observedAt : Int
  deriving DecidableEq, Repr

/-- The `payload` of `to_wire`. -/
def CanonicalThreatHint.payload (envelope : CanonicalThreatHint) : List (Str × Json) :=
  [(str "schema_version", .int envelope.schemaVersion),
    (str "threat_hash", .string envelope.threatHash),
    (str "confidence_bps", .int envelope.confidenceBps),
    (str "indicator_type", .string envelope.indicatorType),
    (str "proof_system", .string envelope.proofSystem),
    (str "proof", .string envelope.proof),
    (str "report_nonce", .string envelope.reportNonce),
    (str "observed_at", .int envelope.observedAt)]

/-- `to_wire`. -/
def CanonicalThreatHint.toWire (envelope : CanonicalThreatHint) : Bytes :=
  dumpsOrdered (.object envelope.payload)

/-- `_is_fresh`. -/
def isFresh (envelope : CanonicalThreatHint) (nowSeconds : Int) : Bool :=
  isTimestamp nowSeconds && decide (envelope.observedAt ≤ nowSeconds + maxFutureSkewSeconds) &&
    decide (nowSeconds ≤ envelope.observedAt + maxHintAgeSeconds)

/-- `ThreatHintIngressError`, `ThreatHintReplayError`, `sqlite3.IntegrityError`, what `sqlite3`
raises for a parameter it cannot bind, any other `sqlite3.Error`, and the `ValueError` of an
integer that is too long to print. -/
inductive HintError
  | ingress
  | replay
  | integrity
  | binding
  | sqlite
  | value
  deriving DecidableEq, Repr

/-- `AdmissionStatus`. -/
inductive AdmissionStatus
  | accepted
  | duplicate
  | rejected
  deriving DecidableEq, Repr

/-! ## The file -/

/-- A row of `hint_admissions`. -/
structure HintAdmission where
  reportNonce : Str
  threatHash : Str
  payloadDigest : Str
  observedAt : Int
  expiresAt : Int
  admittedAt : Int
  wire : Bytes
  deriving DecidableEq, Repr

/-- `report_nonce` is the primary key; `threat_hash` and `payload_digest` are unique. -/
def admissionSchema : Schema HintAdmission where
  check _ := true
  conflict a b := decide (a.reportNonce = b.reportNonce) || decide (a.threatHash = b.threatHash) ||
    decide (a.payloadDigest = b.payloadDigest)
  symm a b := by simp [eq_comm]

/-- A row of `analyzer_outbox`. -/
structure OutboxJob where
  payloadDigest : Str
  canonicalWire : Bytes
  networkId : Str
  admittedAt : Int
  deliveredAt : Option Int
  deriving DecidableEq, Repr

/-- `payload_digest` is the primary key. -/
def outboxSchema : Schema OutboxJob where
  check _ := true
  conflict a b := decide (a.payloadDigest = b.payloadDigest)
  symm a b := by simp [eq_comm]

/-- The ledger file: `user_version` and the tables. `ledger_state` has at most its one row. -/
structure HintLedger where
  userVersion : Int
  hintAdmissions : Table admissionSchema
  analyzerOutbox : Table outboxSchema
  highWaterSeconds : Option Int

/-- `_SQLITE_SCHEMA_VERSION`. -/
def sqliteSchemaVersion : Int := 1

/-- Where a constructor that raises an `sqlite3` error stops; its statements commit one by one. -/
inductive OpenFault
  | beforeState
  | beforeVersion
  deriving DecidableEq, Repr

/-- `INSERT OR IGNORE INTO ledger_state … VALUES (1, 0)`. -/
def initialState (file : HintLedger) : HintLedger :=
  { file with highWaterSeconds := some (file.highWaterSeconds.getD 0) }

/-- `ThreatHintReplayLedger.__init__`, once the path has been accepted. -/
def openLedger (fault : Option OpenFault) (file : HintLedger) : Except HintError Unit × HintLedger :=
  if file.userVersion ≠ 0 ∧ file.userVersion ≠ sqliteSchemaVersion then (.error .ingress, file)
  else
    match fault with
    | some .beforeState => (.error .sqlite, file)
    | some .beforeVersion => (.error .sqlite, initialState file)
    | none => (.ok (), { initialState file with userVersion := sqliteSchemaVersion })

/-! ## Admission -/

/-- `_advance_time`. -/
def advanceTime (nowSeconds : Int) : Tx HintLedger HintError Unit := do
  let row ← Tx.query HintLedger.highWaterSeconds
  let highWaterSeconds ← Tx.orRaise row .ingress
  Tx.ensure (decide (highWaterSeconds ≤ nowSeconds)) .replay
  modify fun file => { file with highWaterSeconds := some nowSeconds }

/-- Whether a digest is that of a hint that has expired at a time. -/
def isExpiredDigest (nowSeconds : Int) (file : HintLedger) (payloadDigest : Str) : Bool :=
  file.hintAdmissions.rows.any fun row =>
    decide (row.payloadDigest = payloadDigest) && decide (row.expiresAt < nowSeconds)

/-- The first `DELETE` of `admit`: delivered jobs of expired hints. -/
def deleteDelivered (nowSeconds : Int) (file : HintLedger) : HintLedger :=
  { file with
    analyzerOutbox := file.analyzerOutbox.delete fun job =>
      job.deliveredAt.isSome && isExpiredDigest nowSeconds file job.payloadDigest }

/-- The second `DELETE` of `admit`: expired hints that have no job left. -/
def deleteExpired (nowSeconds : Int) (file : HintLedger) : HintLedger :=
  { file with
    hintAdmissions := file.hintAdmissions.delete fun row =>
      decide (row.expiresAt < nowSeconds) &&
        !file.analyzerOutbox.rows.any fun job => decide (job.payloadDigest = row.payloadDigest) }

/-- Both `DELETE` statements. -/
def prune (nowSeconds : Int) (file : HintLedger) : HintLedger :=
  deleteExpired nowSeconds (deleteDelivered nowSeconds file)

/-- A text that `sqlite3` can bind: it has no surrogate. -/
def isBindableText (s : Str) : Bool := s.all isScalar

/-- An integer that `sqlite3` can bind. -/
def isBindableInt (i : Int) : Bool := decide (-2 ^ 63 ≤ i) && decide (i ≤ maxSqliteInt)

/-- The row of a hint. -/
def admissionRow (sha256 : Bytes → Bytes) (envelope : CanonicalThreatHint) (wire : Bytes)
    (nowSeconds : Int) : HintAdmission where
  reportNonce := envelope.reportNonce
  threatHash := envelope.threatHash
  payloadDigest := hex (sha256 wire)
  observedAt := envelope.observedAt
  expiresAt := envelope.observedAt + maxHintAgeSeconds
  admittedAt := nowSeconds
  wire := wire

/-- The job of a hint. -/
def outboxJob (sha256 : Bytes → Bytes) (wire : Bytes) (networkId : Str) (nowSeconds : Int) :
    OutboxJob where
  payloadDigest := hex (sha256 wire)
  canonicalWire := wire
  networkId := networkId
  admittedAt := nowSeconds
  deliveredAt := none

def insertAdmission (row : HintAdmission) : Tx HintLedger HintError Unit := do
  Tx.ensure (isBindableText row.reportNonce && isBindableText row.threatHash &&
    isBindableInt row.observedAt && isBindableInt row.expiresAt) .binding
  let inserted ← Tx.query fun file => file.hintAdmissions.insert row
  let admissions ← Tx.orRaise inserted .integrity
  modify fun file => { file with hintAdmissions := admissions }

def insertJob (job : OutboxJob) : Tx HintLedger HintError Unit := do
  Tx.ensure (isBindableText job.networkId) .binding
  let inserted ← Tx.query fun file => file.analyzerOutbox.insert job
  let outbox ← Tx.orRaise inserted .integrity
  modify fun file => { file with analyzerOutbox := outbox }

/-- The transaction of `admit`. -/
def admission (sha256 : Bytes → Bytes) (envelope : CanonicalThreatHint) (wire : Bytes)
    (networkId : Str) (nowSeconds : Int) : Tx HintLedger HintError Unit := do
  advanceTime nowSeconds
  modify (prune nowSeconds)
  insertAdmission (admissionRow sha256 envelope wire nowSeconds)
  insertJob (outboxJob sha256 wire networkId nowSeconds)

/-- The `SELECT` that follows an `IntegrityError`. -/
def conflictingRow (sha256 : Bytes → Bytes) (envelope : CanonicalThreatHint) (wire : Bytes)
    (file : HintLedger) : Option HintAdmission :=
  file.hintAdmissions.select fun row =>
    decide (row.reportNonce = envelope.reportNonce) ||
      decide (row.threatHash = envelope.threatHash) ||
      decide (row.payloadDigest = hex (sha256 wire))

/-- What `admit` answers after an `IntegrityError`. -/
def conflictStatus (sha256 : Bytes → Bytes) (envelope : CanonicalThreatHint) (wire : Bytes)
    (file : HintLedger) : AdmissionStatus :=
  match conflictingRow sha256 envelope wire file with
  | some row =>
    if row.payloadDigest = hex (sha256 wire) ∧ row.wire = wire then .duplicate else .rejected
  | none => .rejected

/-- A transaction, or the `sqlite3` error that keeps it from committing. -/
def runTransaction {α : Type} (fault : Bool) (body : Tx HintLedger HintError α) (file : HintLedger) :
    Except HintError α × HintLedger :=
  if fault then (.error .sqlite, file) else transact body file

/-- Whether `json.dumps` can print the integers of a hint. -/
def isPrintable (envelope : CanonicalThreatHint) : Bool :=
  [envelope.schemaVersion, envelope.confidenceBps, envelope.observedAt].all fun i =>
    decide ((decimal i.natAbs).length ≤ maxStrDigits)

/-- `admit`; `fault` and `lookupFault` say that its first or its second connection raises. -/
def admitHint (sha256 : Bytes → Bytes) (envelope : CanonicalThreatHint) (wire : Bytes) (networkId : Str)
    (nowSeconds : Int) (fault lookupFault : Bool) (file : HintLedger) :
    Except HintError AdmissionStatus × HintLedger :=
  if ¬ isTimestamp nowSeconds then (.error .ingress, file)
  else if ¬ isPrintable envelope then (.error .value, file)
  else if envelope.toWire ≠ wire ∨ ¬ isFresh envelope nowSeconds then (.error .ingress, file)
  else
    match runTransaction fault (admission sha256 envelope wire networkId nowSeconds) file with
    | (.ok _, file') => (.ok .accepted, file')
    | (.error .integrity, file') =>
      if lookupFault then (.error .sqlite, file')
      else (.ok (conflictStatus sha256 envelope wire file'), file')
    | (.error e, file') => (.error e, file')

/-! ## Delivery -/

/-- `WHERE delivered_at IS NULL ORDER BY admitted_at, payload_digest`. -/
def undelivered (file : HintLedger) : List OutboxJob :=
  (file.analyzerOutbox.rows.filter fun job => job.deliveredAt.isNone).insertionSort fun a b =>
    toLex (a.admittedAt, a.payloadDigest) ≤ toLex (b.admittedAt, b.payloadDigest)

/-- `pending_jobs`. -/
def pendingJobs (limit : Int) (fault : Bool) (file : HintLedger) : Except HintError (List OutboxJob) :=
  if ¬ (1 ≤ limit ∧ limit ≤ 256) then .error .ingress
  else if fault then .error .sqlite
  else .ok ((undelivered file).take limit.toNat)

/-- `SET delivered_at = COALESCE(delivered_at, ?)`. -/
def deliver (deliveredAt : Int) (job : OutboxJob) : OutboxJob :=
  { job with deliveredAt := some (job.deliveredAt.getD deliveredAt) }

/-- `mark_delivered`. -/
def markDelivered (payloadDigest : Str) (deliveredAt : Int) (fault : Bool) (file : HintLedger) :
    Except HintError Unit × HintLedger :=
  if ¬ isHex32 payloadDigest then (.error .ingress, file)
  else if ¬ isTimestamp deliveredAt then (.error .ingress, file)
  else
    runTransaction fault (do
      let rowcount ← Tx.query fun file =>
        (file.analyzerOutbox.rows.filter fun job => job.payloadDigest = payloadDigest).length
      let updated ← Tx.query fun file => file.analyzerOutbox.update
        (fun job => job.payloadDigest = payloadDigest) (deliver deliveredAt)
      let outbox ← Tx.orRaise updated .integrity
      modify fun file => { file with analyzerOutbox := outbox }
      Tx.ensure (decide (rowcount = 1)) .replay) file

/-! ## The machine -/

/-- One call on the ledger file. -/
inductive Call
  | openLedger (fault : Option OpenFault)
  | admitHint (envelope : CanonicalThreatHint) (wire : Bytes) (networkId : Str) (nowSeconds : Int)
      (fault lookupFault : Bool)
  | pendingJobs (limit : Int) (fault : Bool)
  | markDelivered (payloadDigest : Str) (deliveredAt : Int) (fault : Bool)

/-- What a call returns. -/
inductive Answer
  | opened
  | admitted (status : AdmissionStatus)
  | jobs (jobs : List OutboxJob)
  | delivered
  deriving DecidableEq, Repr

/-- Wrap what a method returns. -/
def answer {α : Type} (wrap : α → Answer) (outcome : Except HintError α × HintLedger) :
    Except HintError Answer × HintLedger :=
  (outcome.1.map wrap, outcome.2)

/-- Perform one call. -/
def step (sha256 : Bytes → Bytes) : Call → HintLedger → Except HintError Answer × HintLedger
  | .openLedger fault, file => answer (fun _ => .opened) (openLedger fault file)
  | .admitHint envelope wire networkId nowSeconds fault lookupFault, file =>
    answer .admitted (admitHint sha256 envelope wire networkId nowSeconds fault lookupFault file)
  | .pendingJobs limit fault, file => answer .jobs (pendingJobs limit fault file, file)
  | .markDelivered payloadDigest deliveredAt fault, file =>
    answer (fun _ => .delivered) (markDelivered payloadDigest deliveredAt fault file)

/-- An executed call on the ledger file. -/
abbrev HintEvent := Event HintLedger Call (Except HintError Answer)

/-- A ledger file that holds no hint and no job. -/
def Unused (file : HintLedger) : Prop :=
  file.hintAdmissions.rows = [] ∧ file.analyzerOutbox.rows = []

/-- The file `_prepare_ledger_path` creates. -/
def HintLedger.fresh : HintLedger := ⟨0, .empty, .empty, none⟩

end Prometheus.Jaeger.ThreatHintReplay
