import Prometheus.Jaeger.ThreatHintReplay.Replay
import Prometheus.ThreatHint.V1Envelope

/-!
# Draining the analyzer outbox

`ThreatHintAnalyzerAdapter` of `threat_hint_adapter.py` over the ledger of `threat_hint_ingress.py`.
One drain reads a bounded batch of undelivered jobs, adapts each job, awaits its analysis, reads the
clock and marks the job delivered. The drain is a step machine that can be cancelled wherever it
awaits and dies with its process anywhere; the ingress uses the same ledger file in between.
-/

namespace Prometheus.Jaeger.HintDrain

open Prometheus.Codec Prometheus.Machine Prometheus.ThreatHint
open Prometheus.Jaeger.ThreatHintReplay (HintLedger HintError OutboxJob CanonicalThreatHint OpenFault
  isHex32 pendingJobs markDelivered undelivered maxHintAgeSeconds maxFutureSkewSeconds)
open Prometheus.ThreatHint.Python (FromWireError indicatorTypes)

/-! ## Adapting a job -/

/-- `MAX_ANALYZER_BATCH_LIMIT`. -/
def maxAnalyzerBatchLimit : Nat := 32

/-- `_VERIFIED_PROOF_SYSTEM`. -/
def verifiedProofSystem : Str := str "groth16_kip16_v1"

/-- `_MAX_VERIFIED_PROOF_BYTES`. -/
def maxVerifiedProofBytes : Nat := 1024

/-- A `ThreatHintAdapterError` with its text, or what `from_wire` raises beyond its own error. -/
inductive AdapterError
  | adapter (message : String)
  | fromWire (error : FromWireError)
  deriving DecidableEq, Repr

structure VerifiedThreatHint where
  payloadDigest : Str
  schemaVersion : Int
  threatHash : Str
  confidenceBps : Int
  indicatorType : Str
  proofSystem : Str
  reporterZkProof : Bytes
  reportNonce : Str
  observedAt : Int
  networkId : Str
  admittedAt : Int
  deriving DecidableEq, Repr

/-- The network check of `__post_init__`. -/
def isVerifiedNetwork (networkId : Str) : Bool :=
  decide (1 < networkId.length) && decide (networkId.length ≤ 64) && networkId.head?.any isAlnum &&
    networkId.getLast?.any isAlnum && networkId.all isNetworkChar

/-- `__post_init__`: the text of its `ValueError`. -/
def VerifiedThreatHint.postInit (hint : VerifiedThreatHint) : Except String Unit :=
  if hint.schemaVersion ≠ 1 then .error "unsupported verified ThreatHint schema"
  else if ¬ isHex32 hint.payloadDigest then .error "verified ThreatHint digest is invalid"
  else if ¬ isHex32 hint.threatHash then .error "verified ThreatHint hash is invalid"
  else if ¬ (1 ≤ hint.confidenceBps ∧ hint.confidenceBps ≤ 10000) then
    .error "verified ThreatHint confidence is invalid"
  else if hint.indicatorType ∉ indicatorTypes.map str then
    .error "verified ThreatHint indicator type is invalid"
  else if hint.proofSystem ≠ verifiedProofSystem then
    .error "verified ThreatHint proof system is invalid"
  else if ¬ (0 < hint.reporterZkProof.length ∧
      hint.reporterZkProof.length ≤ maxVerifiedProofBytes) then
    .error "verified ThreatHint proof is invalid"
  else if ¬ isHex32 hint.reportNonce then .error "verified ThreatHint nonce is invalid"
  else if ¬ (0 < hint.observedAt ∧ 0 < hint.admittedAt) then
    .error "verified ThreatHint time is invalid"
  else if ¬ isVerifiedNetwork hint.networkId then .error "verified ThreatHint network is invalid"
  else .ok ()

/-- The adapter's fields that its constructor has checked, with what its interpreter provides. -/
structure Adapter where
  sha256 : Bytes → Bytes
  tooDeep : Str → Bool
  floatRepr : Str → Str
  expectedNetworkId : Str
  batchLimit : Nat
  limit : 1 ≤ batchLimit ∧ batchLimit ≤ maxAnalyzerBatchLimit

/-- The fields that `adapt_job` maps. -/
def verifiedHint (job : OutboxJob) (envelope : CanonicalThreatHint) : VerifiedThreatHint where
  payloadDigest := job.payloadDigest
  schemaVersion := envelope.schemaVersion
  threatHash := envelope.threatHash
  confidenceBps := envelope.confidenceBps
  indicatorType := envelope.indicatorType
  proofSystem := envelope.proofSystem
  reporterZkProof := fromHex envelope.proof
  reportNonce := envelope.reportNonce
  observedAt := envelope.observedAt
  networkId := job.networkId
  admittedAt := job.admittedAt

/-- `adapt_job`. -/
def adaptJob (adapter : Adapter) (job : OutboxJob) : Except AdapterError VerifiedThreatHint :=
  if job.networkId ≠ adapter.expectedNetworkId then
    .error (.adapter "ThreatHint outbox network mismatch")
  else if ¬ 0 < job.admittedAt then .error (.adapter "ThreatHint admission time is invalid")
  else if job.canonicalWire = [] then .error (.adapter "ThreatHint outbox wire is invalid")
  else if ¬ isHex32 job.payloadDigest then .error (.adapter "ThreatHint outbox digest is invalid")
  else if hex (adapter.sha256 job.canonicalWire) ≠ job.payloadDigest then
    .error (.adapter "ThreatHint outbox digest mismatch")
  else
    match Python.CanonicalThreatHint.fromWire adapter.tooDeep adapter.floatRepr job.canonicalWire with
    | .error (.ingress _) => .error (.adapter "ThreatHint outbox wire is invalid")
    | .error error => .error (.fromWire error)
    | .ok envelope =>
      if envelope.proofSystem ≠ verifiedProofSystem then
        .error (.adapter "ThreatHint outbox proof system is invalid")
      else if ¬ (envelope.observedAt - maxFutureSkewSeconds ≤ job.admittedAt ∧
          job.admittedAt ≤ envelope.observedAt + maxHintAgeSeconds) then
        .error (.adapter "ThreatHint admission window is invalid")
      else
        match (verifiedHint job envelope).postInit with
        | .error _ => .error (.adapter "ThreatHint analyzer input is invalid")
        | .ok _ => .ok (verifiedHint job envelope)

/-! ## Judging an analysis -/

/-- The value of `confidence`; of a float, whether it is finite and whether it equals zero. -/
inductive Confidence
  | bool (value : Bool)
  | int (value : Int)
  | float (finite zero : Bool)
  | other
  deriving DecidableEq, Repr

/-- The fields of `AnalysisResult`; of the rule, its text. -/
structure AnalysisResult where
  threatHash : Str
  yaraRule : Option Str
  confidence : Confidence
  shouldSubmit : Bool
  analysisNotes : Str
  deriving DecidableEq, Repr

/-- Whether the confidence passes; an `int` that no float can hold raises, and is refused too. -/
def Confidence.isZero : Confidence → Bool
  | .bool _ => false
  | .int value => decide (value = 0)
  | .float finite zero => finite && zero
  | .other => false

/-- `_validate_v1_analysis`; `none` is a value that is no `AnalysisResult`. -/
def validateV1Analysis (hint : VerifiedThreatHint) (analysis : Option AnalysisResult) :
    Except AdapterError AnalysisResult :=
  match analysis with
  | none => .error (.adapter "analyzer returned an invalid result")
  | some result =>
    if result.threatHash ≠ hint.threatHash then
      .error (.adapter "analyzer returned an unsafe v1 decision")
    else if ¬ result.confidence.isZero then
      .error (.adapter "analyzer returned an unsafe v1 decision")
    else if result.yaraRule.isSome ∨ result.shouldSubmit then
      .error (.adapter "analyzer returned an unsafe v1 decision")
    else if result.analysisNotes = [] then
      .error (.adapter "analyzer returned an unsafe v1 decision")
    else .ok result

/-! ## The drain -/

inductive FailureCategory
  | adapt | analysis | clock | delivery
  deriving DecidableEq, Repr

structure DeliveredThreatHintAnalysis where
  hint : VerifiedThreatHint
  analysis : AnalysisResult
  deliveredAt : Int
  batchIndex : Nat
  deriving DecidableEq, Repr

structure ThreatHintDrainFailure where
  batchIndex : Nat
  category : FailureCategory
  payloadDigest : Option Str
  deriving DecidableEq, Repr

structure ThreatHintDrainReport where
  delivered : List DeliveredThreatHintAnalysis
  failures : List ThreatHintDrainFailure
  deriving DecidableEq, Repr

/-- The variables of the loop; `batchIndex` is that of the next job, or of the current one. -/
structure Batch where
  jobs : List OutboxJob
  batchIndex : Nat
  delivered : List DeliveredThreatHintAnalysis
  failures : List ThreatHintDrainFailure
  deriving DecidableEq, Repr

/-- `failures.append(…)` and `continue`. -/
def Batch.fail (batch : Batch) (category : FailureCategory) (payloadDigest : Option Str) : Batch :=
  { batch with
    batchIndex := batch.batchIndex + 1
    failures := batch.failures ++ [⟨batch.batchIndex, category, payloadDigest⟩] }

/-- `delivered.append(…)` at the end of the loop's body. -/
def Batch.deliver (batch : Batch) (hint : VerifiedThreatHint) (analysis : AnalysisResult)
    (deliveredAt : Int) : Batch :=
  { batch with
    batchIndex := batch.batchIndex + 1
    delivered := batch.delivered ++ [⟨hint, analysis, deliveredAt, batch.batchIndex⟩] }

/-- Where `drain_once` is; outside it holds the lock of its adapter. -/
inductive Phase
  | idle
  | loading
  | looping (batch : Batch)
  | analyzing (batch : Batch) (hint : VerifiedThreatHint)
  | stamping (batch : Batch) (hint : VerifiedThreatHint) (analysis : AnalysisResult)
  | marking (batch : Batch) (hint : VerifiedThreatHint) (analysis : AnalysisResult)
      (deliveredAt : Int) (cancelled : Bool)
  deriving DecidableEq, Repr

/-- What the ingress and the constructors do with the ledger file. -/
inductive LedgerUse
  | openLedger (fault : Option OpenFault)
  | admitHint (envelope : CanonicalThreatHint) (wire : Bytes) (networkId : Str) (nowSeconds : Int)
      (fault lookupFault : Bool)
  | pendingJobs (limit : Int) (fault : Bool)

def LedgerUse.call : LedgerUse → ThreatHintReplay.Call
  | .openLedger fault => .openLedger fault
  | .admitHint envelope wire networkId nowSeconds fault lookupFault =>
    .admitHint envelope wire networkId nowSeconds fault lookupFault
  | .pendingJobs limit fault => .pendingJobs limit fault

/-- What awaiting the analyzer gives; `none` is a value that is no `AnalysisResult`. -/
inductive Analyzed
  | returned (analysis : Option AnalysisResult)
  | raised
  deriving DecidableEq, Repr

/-- What the world gives the next step. -/
inductive Action
  /-- a call of `drain_once` gets the lock -/
  | start
  /-- `pending_jobs` is over -/
  | load (fault : Bool)
  /-- the loop goes on: to its next job, or to the report -/
  | adapt
  /-- the analysis is over -/
  | analyze (outcome : Analyzed)
  /-- `now_seconds()`; `none` if it raises or returns no `int` -/
  | stamp (reading : Option Int)
  /-- the thread of `mark_delivered` is over -/
  | mark (fault : Bool)
  /-- the task is cancelled at an await -/
  | cancel
  /-- the process dies -/
  | crash
  | other (use : LedgerUse)

/-- How a call of `drain_once` ends. -/
inductive Outcome
  | report (report : ThreatHintDrainReport)
  | raised
  | cancelled
  deriving DecidableEq, Repr

structure State where
  file : HintLedger
  phase : Phase

/-- After `pending_jobs`. -/
def loaded (adapter : Adapter) (s : State) (listed : Except HintError (List OutboxJob)) :
    Option Outcome × State :=
  match listed with
  | .error _ => (some .raised, { s with phase := .idle })
  | .ok jobs =>
    if adapter.batchLimit < jobs.length then (some .raised, { s with phase := .idle })
    else (none, { s with phase := .looping ⟨jobs, 0, [], []⟩ })

/-- The head of the loop: adapt the next job, or return the report. -/
def nextJob (adapter : Adapter) (s : State) (batch : Batch) : Option Outcome × State :=
  match batch.jobs[batch.batchIndex]? with
  | none =>
    if maxAnalyzerBatchLimit < batch.delivered.length + batch.failures.length then
      (some .raised, { s with phase := .idle })
    else (some (.report ⟨batch.delivered, batch.failures⟩), { s with phase := .idle })
  | some job =>
    match adaptJob adapter job with
    | .error _ => (none, { s with phase := .looping (batch.fail .adapt none) })
    | .ok hint => (none, { s with phase := .analyzing batch hint })

/-- After the analysis. -/
def judged (s : State) (batch : Batch) (hint : VerifiedThreatHint) (outcome : Analyzed) :
    Option Outcome × State :=
  let failed := { s with phase := .looping (batch.fail .analysis (some hint.payloadDigest)) }
  match outcome with
  | .raised => (none, failed)
  | .returned analysis =>
    match validateV1Analysis hint analysis with
    | .error _ => (none, failed)
    | .ok result => (none, { s with phase := .stamping batch hint result })

/-- After the clock was read. -/
def stamped (s : State) (batch : Batch) (hint : VerifiedThreatHint) (analysis : AnalysisResult)
    (reading : Option Int) : Option Outcome × State :=
  let failed := { s with phase := .looping (batch.fail .clock (some hint.payloadDigest)) }
  match reading with
  | none => (none, failed)
  | some deliveredAt =>
    if ¬ 0 < deliveredAt ∨ deliveredAt < hint.admittedAt then (none, failed)
    else (none, { s with phase := .marking batch hint analysis deliveredAt false })

/-- After `mark_delivered`; a cancelled drain has waited for it. -/
def marked (s : State) (batch : Batch) (hint : VerifiedThreatHint) (analysis : AnalysisResult)
    (deliveredAt : Int) (cancelled fault : Bool) : Option Outcome × State :=
  let result := markDelivered hint.payloadDigest deliveredAt fault s.file
  if cancelled then (some .cancelled, ⟨result.2, .idle⟩)
  else
    match result.1 with
    | .error _ => (none, ⟨result.2, .looping (batch.fail .delivery (some hint.payloadDigest))⟩)
    | .ok _ => (none, ⟨result.2, .looping (batch.deliver hint analysis deliveredAt)⟩)

/-- One step. A step that the drain cannot take where it is changes nothing. -/
def step (adapter : Adapter) (action : Action) (s : State) : Option Outcome × State :=
  match s.phase, action with
  | _, .other use =>
    (none, { s with file := (ThreatHintReplay.step adapter.sha256 use.call s.file).2 })
  | _, .crash => (none, { s with phase := .idle })
  | .idle, .start => (none, { s with phase := .loading })
  | .loading, .load fault => loaded adapter s (pendingJobs adapter.batchLimit fault s.file)
  | .loading, .cancel => (some .cancelled, { s with phase := .idle })
  | .looping batch, .adapt => nextJob adapter s batch
  | .analyzing batch hint, .analyze outcome => judged s batch hint outcome
  | .analyzing _ _, .cancel => (some .cancelled, { s with phase := .idle })
  | .stamping batch hint analysis, .stamp reading => stamped s batch hint analysis reading
  | .marking batch hint analysis deliveredAt cancelled, .mark fault =>
    marked s batch hint analysis deliveredAt cancelled fault
  | .marking batch hint analysis deliveredAt _, .cancel =>
    (none, { s with phase := .marking batch hint analysis deliveredAt true })
  | _, _ => (none, s)

abbrev DrainEvent := Event State Action (Option Outcome)

end Prometheus.Jaeger.HintDrain
