import Prometheus.Jaeger.ApprovalLedger.Completion
import Prometheus.Jaeger.ApprovalLedger.HeldLease

/-!
# The observable analysis worker

`ObservableAnalysisWorker` (`modules/guardian-node/jaeger/observable_analysis_worker.py`): a call of
`process_next` waits for a slot of its worker, claims a record, awaits the analyzer and completes the
claim; `process_pending` does so for one record after another. Between its awaits a call runs without
interruption on its event loop, but any number of workers, on any number of loops, and every other
user of the ledger file may act between two of its ledger transactions, so each transaction is one
step of the system.

What the analyzer returns is the world's. A completion uses the time of its claim, so whether it is
accepted depends on what the other calls did to the record in the meantime.
-/

namespace Prometheus.Jaeger.AnalysisWorker

open Prometheus.Codec Prometheus.Machine Prometheus.Jaeger.ApprovalLedger

def maxWorkerConcurrency : Nat := 8
def maxWorkerBatch : Int := 64

/-- What the constructor of a worker checked. -/
structure Worker where
  outbox : OutboxObject
  leaseSeconds : Int
  maxConcurrency : Nat
  lease : 1 ≤ leaseSeconds ∧ leaseSeconds ≤ maxOutboxLeaseSeconds
  concurrency : 1 ≤ maxConcurrency ∧ maxConcurrency ≤ maxWorkerConcurrency

/-- The two methods; `none` is a value that is not an `int`. -/
inductive Method where
  | processNext
  | processPending (maxRecords : Option Int)

/-- A call of a method on one of the workers. -/
structure Request where
  worker : Nat
  method : Method
  currentTime : Option Int

/-- What a call raises. -/
inductive WorkerError where
  | worker
  | timeout
  | ledger (error : ConsumptionError)
  | cancelled
  deriving DecidableEq

/-- What a call returns. -/
inductive WorkerAnswer where
  | nothing
  | completion (completion : AnalysisCompletion)
  | count (completed : Nat)
  deriving DecidableEq

/-- How the await of the analyzer ends; `none` is a value that is not `bytes`. -/
inductive AnalysisOutcome where
  | returned (resultWire : Option Bytes)
  | timedOut
  | raised
  | cancelled

/-- The validated time of a call, and how many records it has completed. -/
structure Progress where
  now : Int
  completed : Nat
  deriving DecidableEq

/-- The variables of `process_next` while its analyzer runs. -/
structure Analysis where
  progress : Progress
  claim : OutboxClaim
  completionToken : Vector UInt8 32
  deriving DecidableEq

/-- Where a call is. -/
inductive Point where
  | created
  | queued (progress : Progress)
  | claiming (progress : Progress)
  | analyzing (analysis : Analysis)
  | completing (analysis : Analysis) (resultWire : Bytes)
  | ended (outcome : Except WorkerError WorkerAnswer)
  deriving DecidableEq

/-- What the world gives a step of a call: the random tokens, the faults of the engine and the
    outcome of the analysis. -/
inductive Action where
  | start
  | acquire
  | claim (leaseToken : Bytes) (completionToken : Option (Vector UInt8 32)) (io : Io)
  | analyzed (outcome : AnalysisOutcome)
  | complete (io : Io)
  | cancel

/-! ## One call -/

/-- `ObservableAnalysisInput.__post_init__`. -/
def isAnalysisInput (claim : OutboxClaim) : Bool :=
  isFixedBytes claim.approvalId && isFixedBytes claim.observableCommitment &&
    isFixedBytes claim.statementDigest && isFixedBytes claim.reportNonce &&
    isFixedBytes claim.inputIdentity && decide (1 ≤ claim.statementWire.length) &&
    decide (claim.statementWire.length ≤ maxCanonicalV2StatementBytes) &&
    decide (1 ≤ claim.bundleWire.length) && decide (claim.bundleWire.length ≤ maxCanonicalBytes)

def failed (error : WorkerError) : Point := .ended (.error error)

/-- The time check of `process_next`. -/
def enter (currentTime : Option Int) (completed : Nat) : Point :=
  match currentTime with
  | some now => if isTimestamp now then .queued ⟨now, completed⟩ else failed .worker
  | none => failed .worker

def start (request : Request) : Point :=
  match request.method with
  | .processNext => enter request.currentTime 0
  | .processPending (some maxRecords) =>
    if 1 ≤ maxRecords ∧ maxRecords ≤ maxWorkerBatch then enter request.currentTime 0
    else failed .worker
  | .processPending none => failed .worker

/-- After `outbox.claim`: nothing to do, or an input for the analyzer and a completion token. -/
def afterClaim (method : Method) (progress : Progress)
    (completionToken : Option (Vector UInt8 32)) : Except ConsumptionError Answer → Point
  | .ok (.claimed (some claim)) =>
    if isAnalysisInput claim then
      match completionToken with
      | some completionToken => .analyzing ⟨progress, claim, completionToken⟩
      | none => failed .worker
    else failed .worker
  | .ok _ =>
    match method with
    | .processNext => .ended (.ok .nothing)
    | .processPending _ => .ended (.ok (.count progress.completed))
  | .error error => failed (.ledger error)

/-- After `asyncio.wait_for`. -/
def afterAnalysis (analysis : Analysis) : AnalysisOutcome → Point
  | .returned (some resultWire) =>
    if 1 ≤ resultWire.length ∧ resultWire.length ≤ maxCanonicalAnalysisResultBytes then
      .completing analysis resultWire
    else failed .worker
  | .returned none => failed .worker
  | .timedOut => failed .timeout
  | .raised => failed .worker
  | .cancelled => failed .cancelled

/-- After `outbox.complete`; `process_pending` goes on until it has its number of records. -/
def afterComplete (request : Request) (progress : Progress) :
    Except ConsumptionError Answer → Point
  | .ok (.completed completion) =>
    match request.method with
    | .processPending (some maxRecords) =>
      if (progress.completed + 1 : Int) < maxRecords then
        enter request.currentTime (progress.completed + 1)
      else .ended (.ok (.count (progress.completed + 1)))
    | _ => .ended (.ok (.completion completion))
  | .ok _ => failed .worker
  | .error error => failed (.ledger error)

/-- The arguments `process_next` completes its claim with. -/
def Analysis.arguments (analysis : Analysis) (resultWire : Bytes) : CompleteArguments where
  approvalId := analysis.claim.approvalId
  leaseToken := analysis.claim.leaseToken
  completionToken := analysis.completionToken.toList
  inputIdentity := analysis.claim.inputIdentity
  resultWire := resultWire
  currentTime := analysis.progress.now

/-- A ledger transaction that was made, and its answer. -/
abbrev Transaction := Call × Except ConsumptionError Answer

structure TaskStep where
  transaction : Option Transaction
  point : Point
  db : Db

/-- A ledger transaction and where its answer leads. -/
def transactStep (codec : WireCodec) (call : Call) (after : Except ConsumptionError Answer → Point)
    (db : Db) : TaskStep :=
  let outcome := step codec call db
  ⟨some (call, outcome.1), after outcome.1, outcome.2⟩

/-- The next step of a call. An action that does not fit where the call is changes nothing. -/
def stepTask (codec : WireCodec) (worker : Worker) (request : Request) (slot : Bool)
    (action : Action) (point : Point) (db : Db) : TaskStep :=
  match point, action with
  | .created, .start => ⟨none, start request, db⟩
  | .queued progress, .acquire => ⟨none, if slot then .claiming progress else point, db⟩
  | .queued _, .cancel => ⟨none, failed .cancelled, db⟩
  | .claiming progress, .claim leaseToken completionToken io =>
    transactStep codec
      (.claim worker.outbox (some ⟨progress.now, worker.leaseSeconds⟩) leaseToken io)
      (afterClaim request.method progress completionToken) db
  | .analyzing analysis, .analyzed outcome => ⟨none, afterAnalysis analysis outcome, db⟩
  | .completing analysis resultWire, .complete io =>
    transactStep codec (.complete worker.outbox (some (analysis.arguments resultWire)) io)
      (afterComplete request analysis.progress) db
  | point, _ => ⟨none, point, db⟩

/-! ## The system -/

/-- The worker objects and the calls that are made on them. -/
structure System where
  workers : Nat → Worker
  requests : Nat → Request

namespace System

/-- The worker of a call. -/
def workerOf (system : System) (i : Nat) : Worker := system.workers (system.requests i).worker

end System

/-- The ledger file, the calls and the free slots of each worker's semaphore. -/
structure State where
  db : Db
  points : Nat → Point
  free : Nat → Nat

/-- A step of one of the calls, or a transaction of anyone else on the same ledger file. -/
inductive Input where
  | task (i : Nat) (action : Action)
  | other (call : Call)

/-- The call is inside `async with self._slots`. -/
def Point.holdsSlot : Point → Bool
  | .claiming _ | .analyzing _ | .completing _ _ => true
  | _ => false

/-- The free slots after a call moved between two points. -/
def slotsAfter (before after : Point) (free : Nat) : Nat :=
  match before.holdsSlot, after.holdsSlot with
  | true, false => free + 1
  | false, true => free - 1
  | _, _ => free

def systemStep (codec : WireCodec) (system : System) (input : Input) (s : State) :
    Option Transaction × State :=
  match input with
  | .task i action =>
    let request := system.requests i
    let taken := stepTask codec (system.workerOf i) request (decide (0 < s.free request.worker))
      action (s.points i) s.db
    (taken.transaction,
      { db := taken.db
        points := Function.update s.points i taken.point
        free := Function.update s.free request.worker
          (slotsAfter (s.points i) taken.point (s.free request.worker)) })
  | .other call =>
    let outcome := step codec call s.db
    (some (call, outcome.1), { s with db := outcome.2 })

/-- No call has been made, and the outbox tables of the ledger file are empty. -/
def Idle (system : System) (s : State) : Prop :=
  Unused s.db ∧ s.points = (fun _ => .created) ∧
    s.free = fun worker => (system.workers worker).maxConcurrency

abbrev SystemEvent := Event State Input (Option Transaction)

/-- The ledger event of a step that made a transaction. -/
def ledgerEvent (e : SystemEvent) : Option LedgerEvent :=
  e.output.map fun transaction => ⟨e.pre.db, transaction.1, transaction.2, e.post.db⟩

variable {codec : WireCodec} {system : System} {h : List SystemEvent} {s : State} {input : Input}
variable {i : Nat} {claim : OutboxClaim}

/-- A step makes one transaction or leaves the file alone. -/
theorem systemStep_ledger (codec : WireCodec) (system : System) (input : Input) (s : State) :
    ((systemStep codec system input s).1 = none ∧ (systemStep codec system input s).2.db = s.db) ∨
      ∃ call, (systemStep codec system input s).1 = some (call, (step codec call s.db).1) ∧
        (systemStep codec system input s).2.db = (step codec call s.db).2 := by
  cases input with
  | other call => exact .inr ⟨call, rfl, rfl⟩
  | task i action =>
    simp only [systemStep, stepTask]
    split
    · exact .inl ⟨rfl, rfl⟩
    · exact .inl ⟨rfl, rfl⟩
    · exact .inl ⟨rfl, rfl⟩
    · exact .inr ⟨_, rfl, rfl⟩
    · exact .inl ⟨rfl, rfl⟩
    · exact .inr ⟨_, rfl, rfl⟩
    · exact .inl ⟨rfl, rfl⟩

/-- The transactions of a run of the system are a run of the ledger. -/
theorem ledger_run (run : Run (systemStep codec system) (Idle system) h s) :
    Run (step codec) Unused (h.filterMap ledgerEvent) s.db := by
  induction run with
  | start s idle => exact .start _ idle.1
  | @call h s input run ih =>
    rw [List.filterMap_append]
    obtain ⟨quiet, same⟩ | ⟨call, made, after⟩ := systemStep_ledger codec system input s
    · have noEvent : ledgerEvent (callEvent (systemStep codec system) s input) = none := by
        simp [ledgerEvent, callEvent, quiet]
      rw [List.filterMap_cons_none noEvent, List.filterMap_nil, List.append_nil, same]
      exact ih
    · have event : ledgerEvent (callEvent (systemStep codec system) s input) =
          some (callEvent (step codec) s.db call) := by
        simp [ledgerEvent, callEvent, made, after]
      rw [List.filterMap_cons_some event, List.filterMap_nil, after]
      exact ih.call call

end Prometheus.Jaeger.AnalysisWorker
