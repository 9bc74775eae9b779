import Prometheus.Jaeger.SignedBallots.Envelope
import Prometheus.Machine.Clock
import Prometheus.Machine.Table
import Prometheus.Machine.Trace
import Prometheus.Machine.Transaction

/-!
# The replay ledger and its collector

`ReplayLedger` and `AuthenticatedBallotCollector` of `signed_ballots.py`, as a step machine on the
ledger file. Neither object keeps a connection or a row, so another process, or the same one after
a restart, is another call on the same file. A process killed inside a transaction leaves what a
fault leaves; one killed after the commit is a call whose answer nobody reads.
-/

namespace Prometheus.Jaeger.SignedBallots

open Prometheus.Codec Prometheus.Machine

/-- A row of `accepted_ballots`. -/
structure AcceptedBallot where
  sessionId : Str
  guardianId : Str
  nonce : Str
  expiresAtMs : Int
  sessionValidUntilMs : Int
  acceptedAtMs : Int
  wire : Bytes
  deriving DecidableEq, Repr

/-- `PRIMARY KEY (session_id, guardian_id), UNIQUE (session_id, nonce)`. -/
def acceptedSchema : Schema AcceptedBallot where
  check _ := true
  conflict a b := decide (a.sessionId = b.sessionId) &&
    (decide (a.guardianId = b.guardianId) || decide (a.nonce = b.nonce))
  symm a b := by simp [eq_comm]

/-- The ledger file: `user_version` and the two tables. `ledger_state` has at most its one row. -/
structure ReplayLedger where
  userVersion : Int
  acceptedBallots : Table acceptedSchema
  highWaterMs : Option Int

/-- `_SQLITE_SCHEMA_VERSION`. -/
def sqliteSchemaVersion : Int := 1

/-- Where a constructor that raises an `sqlite3` error stops; its statements commit one by one. -/
inductive OpenFault
  | beforeState
  | beforeVersion
  deriving DecidableEq, Repr

/-- `INSERT OR IGNORE INTO ledger_state … VALUES (1, 0)`. -/
def initialState (file : ReplayLedger) : ReplayLedger :=
  { file with highWaterMs := some (file.highWaterMs.getD 0) }

/-- `ReplayLedger.__init__`, once the path has been accepted. -/
def openLedger (fault : Option OpenFault) (file : ReplayLedger) :
    Except BallotError Unit × ReplayLedger :=
  if file.userVersion ≠ 0 ∧ file.userVersion ≠ sqliteSchemaVersion then (.error .format, file)
  else
    match fault with
    | some .beforeState => (.error .sqlite, file)
    | some .beforeVersion => (.error .sqlite, initialState file)
    | none => (.ok (), { initialState file with userVersion := sqliteSchemaVersion })

/-! ## Transactions -/

/-- `_advance_time`. -/
def advanceTime (nowMs : Int) : Tx ReplayLedger BallotError Unit := do
  let row ← Tx.query ReplayLedger.highWaterMs
  let highWaterMs ← Tx.orRaise row .format
  Tx.ensure (decide (highWaterMs ≤ nowMs)) .replay
  modify fun file => { file with highWaterMs := some nowMs }

/-- The `INSERT` of `consume`; a broken key is an `IntegrityError`, raised as a replay. -/
def insertBallot (row : AcceptedBallot) : Tx ReplayLedger BallotError Unit := do
  let inserted ← Tx.query fun file => file.acceptedBallots.insert row
  let accepted ← Tx.orRaise inserted .replay
  modify fun file => { file with acceptedBallots := accepted }

/-- The row of an envelope. -/
def acceptedRow (envelope : SignedGuardianBallot) (session : BallotSession) (wire : Bytes)
    (acceptedAtMs : Int) : AcceptedBallot where
  sessionId := envelope.sessionId
  guardianId := envelope.guardianId
  nonce := envelope.nonce
  expiresAtMs := envelope.expiresAtMs
  sessionValidUntilMs := session.validUntilMs
  acceptedAtMs := acceptedAtMs
  wire := wire

/-- A transaction, or the `sqlite3` error that keeps it from committing. -/
def runTransaction {α : Type} (fault : Bool) (body : Tx ReplayLedger BallotError α)
    (file : ReplayLedger) : Except BallotError α × ReplayLedger :=
  if fault then (.error .sqlite, file) else transact body file

/-- `consume`. -/
def consume (codec : BallotCodec) (envelope : SignedGuardianBallot) (session : BallotSession)
    (wire : Bytes) (acceptedAtMs : Int) (fault : Bool) (file : ReplayLedger) :
    Except BallotError Unit × ReplayLedger :=
  if isTimestamp acceptedAtMs ∧ isValidSessionShape codec session ∧
      envelope.sessionId = session.sessionId ∧ envelope.toWire = wire then
    runTransaction fault (do
      advanceTime acceptedAtMs
      insertBallot (acceptedRow envelope session wire acceptedAtMs)) file
  else (.error .format, file)

/-- `SELECT … WHERE session_id = ? ORDER BY guardian_id`. -/
def sessionRows (sessionId : Str) (file : ReplayLedger) : List AcceptedBallot :=
  (file.acceptedBallots.rows.filter fun row => row.sessionId = sessionId).insertionSort
    fun a b => a.guardianId ≤ b.guardianId

/-- `session_wires`. -/
def sessionWires (sessionId : Str) (fault : Bool) (file : ReplayLedger) :
    Except BallotError (List Bytes) :=
  if ¬ isHex32 sessionId then .error .format
  else if fault then .error .sqlite
  else .ok ((sessionRows sessionId file).map AcceptedBallot.wire)

/-- `prune_expired`; the answer is the number of deleted rows. -/
def pruneExpired (nowMs : Int) (fault : Bool) (file : ReplayLedger) :
    Except BallotError Nat × ReplayLedger :=
  if ¬ isTimestamp nowMs then (.error .format, file)
  else
    runTransaction fault (do
      advanceTime nowMs
      let expired ← Tx.query fun file =>
        (file.acceptedBallots.rows.filter fun row => row.sessionValidUntilMs ≤ nowMs).length
      modify fun file =>
        { file with
          acceptedBallots := file.acceptedBallots.delete fun row =>
            row.sessionValidUntilMs ≤ nowMs }
      return expired) file

/-! ## The collector -/

/-- `accept_wire`. -/
def acceptWire (codec : BallotCodec) (wire : Bytes) (candidate : EnsembleCandidate)
    (snapshot : MembershipSnapshot) (session : BallotSession) (nowMs : Int) (fault : Bool)
    (file : ReplayLedger) : Except BallotError GuardianVote × ReplayLedger :=
  match verifyWire codec wire candidate snapshot session nowMs with
  | .error e => (.error e, file)
  | .ok (envelope, vote) =>
    let consumed := consume codec envelope session wire nowMs fault file
    (consumed.1.map fun _ => vote, consumed.2)

/-- `contains_wire`. -/
def containsWire (sessionId : Str) (wire : Bytes) (fault : Bool) (file : ReplayLedger) :
    Except BallotError Bool :=
  (sessionWires sessionId fault file).map fun wires => decide (wire ∈ wires)

/-- The loop of `evaluate` that re-verifies stored envelopes. -/
def reverify (codec : BallotCodec) (candidate : EnsembleCandidate) (snapshot : MembershipSnapshot)
    (session : BallotSession) (nowMs : Int) : List Bytes → Except BallotError (List GuardianVote)
  | [] => .ok []
  | wire :: wires =>
    match verifyWire codec wire candidate snapshot session nowMs with
    | .error e => .error e
    | .ok (_, vote) =>
      match reverify codec candidate snapshot session nowMs wires with
      | .error e => .error e
      | .ok votes => .ok (vote :: votes)

/-- The `try` block of `evaluate`. -/
def storedVotes (codec : BallotCodec) (candidate : EnsembleCandidate) (snapshot : MembershipSnapshot)
    (session : BallotSession) (nowMs : Int) (fault : Bool) (file : ReplayLedger) :
    Except BallotError (List GuardianVote) :=
  match sessionWires session.sessionId fault file with
  | .error e => .error e
  | .ok wires => reverify codec candidate snapshot session nowMs wires

/-- `evaluate`. -/
def evaluate (codec : BallotCodec) (candidate : EnsembleCandidate) (snapshot : MembershipSnapshot)
    (session : BallotSession) (nowMs : Int) (fault : Bool) (file : ReplayLedger) :
    Except BallotError EnsembleDecision :=
  if ¬ isValidSession codec session candidate snapshot then
    .ok (ensembleEvaluate codec.sha256 candidate snapshot [])
  else
    match storedVotes codec candidate snapshot session nowMs fault file with
    | .ok votes => .ok (ensembleEvaluate codec.sha256 candidate snapshot votes)
    | .error e =>
      if e.isTransport then .ok (ensembleEvaluate codec.sha256 candidate snapshot [])
      else .error e

/-! ## The machine -/

/-- One call on the ledger file; `fault` says that the database raises. -/
inductive Call
  | openLedger (fault : Option OpenFault)
  | acceptWire (wire : Bytes) (candidate : EnsembleCandidate) (snapshot : MembershipSnapshot)
      (session : BallotSession) (nowMs : Int) (fault : Bool)
  | pruneExpired (nowMs : Int) (fault : Bool)
  | containsWire (sessionId : Str) (wire : Bytes) (fault : Bool)
  | evaluate (candidate : EnsembleCandidate) (snapshot : MembershipSnapshot)
      (session : BallotSession) (nowMs : Int) (fault : Bool)

/-- What a call returns. -/
inductive Answer
  | opened
  | vote (vote : GuardianVote)
  | pruned (rows : Nat)
  | contained (contained : Bool)
  | decision (decision : EnsembleDecision)
  deriving DecidableEq, Repr

/-- Wrap what a method returns. -/
def answer {α : Type} (wrap : α → Answer) (outcome : Except BallotError α × ReplayLedger) :
    Except BallotError Answer × ReplayLedger :=
  (outcome.1.map wrap, outcome.2)

/-- Perform one call. -/
def step (codec : BallotCodec) : Call → ReplayLedger → Except BallotError Answer × ReplayLedger
  | .openLedger fault, file => answer (fun _ => .opened) (openLedger fault file)
  | .acceptWire wire candidate snapshot session nowMs fault, file =>
    answer .vote (acceptWire codec wire candidate snapshot session nowMs fault file)
  | .pruneExpired nowMs fault, file => answer .pruned (pruneExpired nowMs fault file)
  | .containsWire sessionId wire fault, file =>
    answer .contained (containsWire sessionId wire fault file, file)
  | .evaluate candidate snapshot session nowMs fault, file =>
    answer .decision (evaluate codec candidate snapshot session nowMs fault file, file)

/-- An executed call on the ledger file. -/
abbrev BallotEvent := Event ReplayLedger Call (Except BallotError Answer)

/-- A ledger file that holds no ballot. -/
def Unused (file : ReplayLedger) : Prop := file.acceptedBallots.rows = []

/-- The file `_prepare_ledger_path` creates. -/
def ReplayLedger.fresh : ReplayLedger := ⟨0, .empty, none⟩

/-! ## What a call does to the file -/

variable {codec : BallotCodec} {file file' : ReplayLedger}

theorem advanceTime_ok {nowMs : Int} {u : Unit} :
    advanceTime nowMs file = .ok (u, file') ↔
      (∃ stored, file.highWaterMs = some stored ∧ stored ≤ nowMs) ∧
        file' = { file with highWaterMs := some nowMs } := by
  simp only [advanceTime, Tx.bind_ok, Tx.query_ok, Tx.orRaise_ok, Tx.ensure_ok, Tx.modify_ok,
    decide_eq_true_eq]
  constructor
  · rintro ⟨_, _, ⟨rfl, rfl⟩, stored, _, ⟨isStored, rfl⟩, _, _, ⟨notEarlier, rfl⟩, rfl⟩
    exact ⟨⟨stored, isStored, notEarlier⟩, rfl⟩
  · rintro ⟨⟨stored, isStored, notEarlier⟩, rfl⟩
    exact ⟨_, _, ⟨rfl, rfl⟩, stored, _, ⟨isStored, rfl⟩, (), _, ⟨notEarlier, rfl⟩, rfl⟩

theorem insertBallot_ok {row : AcceptedBallot} {u : Unit}
    (h : insertBallot row file = .ok (u, file')) :
    file.acceptedBallots.insert row = some file'.acceptedBallots ∧
      file' = { file with acceptedBallots := file'.acceptedBallots } := by
  simp only [insertBallot, Tx.bind_ok, Tx.query_ok, Tx.orRaise_ok, Tx.modify_ok] at h
  obtain ⟨_, _, ⟨rfl, rfl⟩, accepted, _, ⟨inserted, rfl⟩, rfl⟩ := h
  exact ⟨inserted, rfl⟩

/-- The file's clock is set to a time that is not behind it. -/
structure Advanced (nowMs : Int) (file file' : ReplayLedger) : Prop where
  highWater : ∃ stored, file.highWaterMs = some stored ∧ stored ≤ nowMs
  advanced : file'.highWaterMs = some nowMs
  version : file'.userVersion = file.userVersion

/-- What a call may do: every refusal but that of a constructor leaves the file alone. -/
inductive Effect (codec : BallotCodec) (file : ReplayLedger) :
    Call → Except BallotError Answer → ReplayLedger → Prop
  | refused {call : Call} (error : BallotError) : Effect codec file call (.error error) file
  | opened {fault : Option OpenFault} {out : Except BallotError Answer} {file' : ReplayLedger}
      (answered : out = .ok .opened ∨ out = .error .sqlite)
      (tables : file'.acceptedBallots = file.acceptedBallots)
      (state : file'.highWaterMs = some (file.highWaterMs.getD 0)) :
      Effect codec file (.openLedger fault) out file'
  | accepted {wire : Bytes} {candidate : EnsembleCandidate} {snapshot : MembershipSnapshot}
      {session : BallotSession} {nowMs : Int} {fault : Bool} {file' : ReplayLedger}
      (envelope : SignedGuardianBallot) (parsed : fromWire codec wire = .ok (some envelope))
      (verified : Verified codec envelope candidate snapshot session nowMs)
      (advanced : Advanced nowMs file file')
      (inserted : file.acceptedBallots.insert (acceptedRow envelope session wire nowMs) =
        some file'.acceptedBallots) :
      Effect codec file (.acceptWire wire candidate snapshot session nowMs fault)
        (.ok (.vote envelope.toVote)) file'
  | pruned {nowMs : Int} {fault : Bool} {file' : ReplayLedger} (rows : Nat)
      (advanced : Advanced nowMs file file')
      (deleted : file'.acceptedBallots = file.acceptedBallots.delete fun row =>
        row.sessionValidUntilMs ≤ nowMs) :
      Effect codec file (.pruneExpired nowMs fault) (.ok (.pruned rows)) file'
  | contained {sessionId : Str} {wire : Bytes} {fault : Bool} (found : Bool) :
      Effect codec file (.containsWire sessionId wire fault) (.ok (.contained found)) file
  | evaluated {candidate : EnsembleCandidate} {snapshot : MembershipSnapshot}
      {session : BallotSession} {nowMs : Int} {fault : Bool} {decision : EnsembleDecision}
      (decided : evaluate codec candidate snapshot session nowMs fault file = .ok decision) :
      Effect codec file (.evaluate candidate snapshot session nowMs fault)
        (.ok (.decision decision)) file

theorem runTransaction_error {α : Type} {fault : Bool} {body : Tx ReplayLedger BallotError α}
    {e : BallotError} (h : runTransaction fault body file = (.error e, file')) : file' = file := by
  unfold runTransaction at h
  split at h
  · exact (Prod.mk.inj h).2.symm
  · exact transact_error h

theorem runTransaction_ok {α : Type} {fault : Bool} {body : Tx ReplayLedger BallotError α} {a : α}
    (h : runTransaction fault body file = (.ok a, file')) : body file = .ok (a, file') := by
  unfold runTransaction at h
  split at h
  · cases (Prod.mk.inj h).1
  · exact transact_ok.mp h

theorem consume_error {envelope : SignedGuardianBallot} {session : BallotSession} {wire : Bytes}
    {nowMs : Int} {fault : Bool} {e : BallotError}
    (h : consume codec envelope session wire nowMs fault file = (.error e, file')) :
    file' = file := by
  unfold consume at h
  split at h
  · exact runTransaction_error h
  · exact (Prod.mk.inj h).2.symm

theorem consume_ok {envelope : SignedGuardianBallot} {session : BallotSession} {wire : Bytes}
    {nowMs : Int} {fault : Bool} {u : Unit}
    (h : consume codec envelope session wire nowMs fault file = (.ok u, file')) :
    Advanced nowMs file file' ∧ file.acceptedBallots.insert (acceptedRow envelope session wire nowMs) =
      some file'.acceptedBallots := by
  unfold consume at h
  split at h
  · obtain ⟨_, file₁, time, row⟩ := Tx.bind_ok.mp (runTransaction_ok h)
    obtain ⟨notEarlier, rfl⟩ := advanceTime_ok.mp time
    obtain ⟨inserted, isFile⟩ := insertBallot_ok row
    rw [isFile]
    exact ⟨⟨notEarlier, rfl, rfl⟩, inserted⟩
  · cases (Prod.mk.inj h).1

theorem pruneExpired_error {nowMs : Int} {fault : Bool} {e : BallotError}
    (h : pruneExpired nowMs fault file = (.error e, file')) : file' = file := by
  unfold pruneExpired at h
  split at h
  · exact (Prod.mk.inj h).2.symm
  · exact runTransaction_error h

theorem pruneExpired_ok {nowMs : Int} {fault : Bool} {rows : Nat}
    (h : pruneExpired nowMs fault file = (.ok rows, file')) :
    Advanced nowMs file file' ∧ file'.acceptedBallots = file.acceptedBallots.delete fun row =>
      row.sessionValidUntilMs ≤ nowMs := by
  unfold pruneExpired at h
  split at h
  · cases (Prod.mk.inj h).1
  · have committed := runTransaction_ok h
    simp only [Tx.bind_ok, Tx.query_ok, Tx.modify_ok, Tx.pure_ok] at committed
    obtain ⟨_, _, time, _, _, ⟨-, rfl⟩, _, _, rfl, -, rfl⟩ := committed
    obtain ⟨notEarlier, rfl⟩ := advanceTime_ok.mp time
    exact ⟨⟨notEarlier, rfl, rfl⟩, rfl⟩

theorem acceptWire_effect (codec : BallotCodec) (wire : Bytes) (candidate : EnsembleCandidate)
    (snapshot : MembershipSnapshot) (session : BallotSession) (nowMs : Int) (fault : Bool)
    (file : ReplayLedger) :
    Effect codec file (.acceptWire wire candidate snapshot session nowMs fault)
      (step codec (.acceptWire wire candidate snapshot session nowMs fault) file).1
      (step codec (.acceptWire wire candidate snapshot session nowMs fault) file).2 := by
  simp only [step, acceptWire]
  cases frame : verifyWire codec wire candidate snapshot session nowMs with
  | error e => exact .refused e
  | ok result =>
    obtain ⟨parsed, verified, isVote⟩ := verifyWire_ok frame
    cases outcome : consume codec result.1 session wire nowMs fault file with
    | mk out file' =>
      cases out with
      | error e =>
        obtain rfl := consume_error outcome
        simp only [answer, outcome]
        exact .refused e
      | ok u =>
        obtain ⟨advanced, inserted⟩ := consume_ok outcome
        simp only [answer, outcome, Except.map, isVote]
        exact .accepted result.1 parsed verified advanced inserted

theorem step_effect (codec : BallotCodec) (call : Call) (file : ReplayLedger) :
    Effect codec file call (step codec call file).1 (step codec call file).2 := by
  cases call with
  | openLedger fault =>
    simp only [step, openLedger]
    split
    · exact .refused _
    · split
      · exact .refused _
      · exact .opened (.inr rfl) rfl rfl
      · exact .opened (.inl rfl) rfl rfl
  | acceptWire wire candidate snapshot session nowMs fault =>
    exact acceptWire_effect codec wire candidate snapshot session nowMs fault file
  | pruneExpired nowMs fault =>
    simp only [step, answer]
    cases outcome : pruneExpired nowMs fault file with
    | mk out file' =>
      cases out with
      | error e =>
        obtain rfl := pruneExpired_error outcome
        exact .refused e
      | ok rows =>
        obtain ⟨advanced, deleted⟩ := pruneExpired_ok outcome
        exact .pruned rows advanced deleted
  | containsWire sessionId wire fault =>
    simp only [step, answer]
    cases containsWire sessionId wire fault file with
    | error e => exact .refused e
    | ok found => exact .contained found
  | evaluate candidate snapshot session nowMs fault =>
    simp only [step, answer]
    cases decided : evaluate codec candidate snapshot session nowMs fault file with
    | error e => exact .refused e
    | ok decision => exact .evaluated decided

end Prometheus.Jaeger.SignedBallots
