import Prometheus.Machine.Program

/-!
# The broadcast command of the genesis deployer

`Command::Broadcast` of `modules/silverc-deployer/src/main.rs` and what it calls in `lib.rs`, as a
program over the journal file, the public result file, the clock and the node. An operation of the
program is one statement with an outside effect; between two of them the process can be killed. A
file holds the record that was serialized into it, and replacing it by `rename` is atomic. What the
checks of a signing request, `tx.id()` and `sign::verify` compute is a parameter.
-/

namespace Prometheus.Deployer

open Prometheus.Machine

/-! ## Records -/

/-- The members of `SigningRequest` that a broadcast copies or compares. -/
structure SigningRequest where
  network : String
  networkId : String
  requestSha256 : String
  signingRequestSha256 : String
  contractName : String
  deployerAddress : String
  deployedInstanceId : String
  unsignedTransactionId : String
  covenantId : String
  deriving DecidableEq, Repr

/-- `SignatureVerification`, without the members that nothing compares. -/
structure SignatureVerification where
  schemaVersion : Nat
  kind : String
  status : String
  requestSha256 : String
  signingRequestSha256 : String
  transactionId : String
  covenantId : String
  signatureValidation : String
  transactionValidation : String
  safety : List (String × Bool)
  deriving DecidableEq, Repr

/-- `SignableTransaction`: its number of inputs, which of its UTXO entries are there, and its
bytes. -/
structure SignableTransaction where
  inputs : Nat
  entries : List Bool
  bytes : List UInt8
  deriving DecidableEq, Repr

structure VerifiedSignedTransaction where
  transaction : SignableTransaction
  verification : SignatureVerification
  deriving DecidableEq, Repr

structure BroadcastResult where
  schemaVersion : Nat
  resultType : String
  status : String
  network : String
  networkId : String
  requestSha256 : String
  signingRequestSha256 : String
  contractName : String
  deployerAddress : String
  deployedInstanceId : String
  deployTxId : String
  covenantId : String
  submittedAtUnixSeconds : Nat
  recordSource : String
  confirmationRequired : Bool
  deriving DecidableEq, Repr

structure BroadcastJournal where
  schemaVersion : Nat
  journalType : String
  status : String
  network : String
  networkId : String
  requestSha256 : String
  signingRequestSha256 : String
  contractName : String
  deployerAddress : String
  deployedInstanceId : String
  expectedDeployTxId : String
  covenantId : String
  acknowledgedSigningRequestSha256 : String
  createdAtUnixSeconds : Nat
  updatedAtUnixSeconds : Nat
  submissionStartedAtUnixSeconds : Option Nat
  result : Option BroadcastResult
  deriving DecidableEq, Repr

/-- `validate_signing_request`, `tx.id().to_string()` and `sign::verify`. -/
structure Kaspa where
  isSigningRequest : SigningRequest → Bool
  transactionId : SignableTransaction → String
  isSigned : SignableTransaction → Bool

/-! ## The world -/

/-- The two files of a result path, and the calls of `submit_transaction` a node has received. -/
structure World where
  journal : Option BroadcastJournal
  result : Option BroadcastResult
  submissions : List SignableTransaction

/-- The statements with an outside effect. -/
inductive Op
  | unixSeconds
  | createJournal (journal : BroadcastJournal)
  | readJournal
  | writeJournal (journal : BroadcastJournal)
  | resultExists
  | readResult
  | writeResult (result : BroadcastResult)
  /-- `connect_rpc` and `inspect_node`. -/
  | connect
  /-- The contract's UTXO, checked by `deployed_contract_entry`. -/
  | findContractUtxo
  /-- `get_mempool_entry` of the expected transaction. -/
  | findMempoolEntry
  /-- The funding UTXO, checked by `validate_live_funding_utxo`. -/
  | checkFundingUtxo
  | submitTransaction (transaction : SignableTransaction)

/-- What a statement returns when it does not raise. -/
def Op.Answer : Op → Type
  | .unixSeconds => Nat
  | .createJournal _ => Bool
  | .readJournal => BroadcastJournal
  | .resultExists => Bool
  | .readResult => BroadcastResult
  | .findContractUtxo => Bool
  | .findMempoolEntry => Bool
  | .submitTransaction _ => String
  | _ => Unit

/-- Whether a statement raises, before its effect or after it. -/
inductive Outcome
  | raisesBefore
  | raisesAfter
  | returns
  deriving DecidableEq, Repr

/-- What the environment decides about one statement. -/
structure Choice where
  outcome : Outcome
  seconds : Nat
  found : Bool
  transactionId : String
  deriving DecidableEq, Repr

/-- The answer, unless the statement raises. -/
def Choice.reply {α : Type} (c : Choice) (a : Option α) : Option α :=
  if c.outcome = .returns then a else none

/-- The effect, unless the statement raises before it. -/
def Choice.effect (c : Choice) (after before : World) : World :=
  if c.outcome = .raisesBefore then before else after

/-- Perform one statement. A submission counts as soon as the call is made. -/
def exec : (op : Op) → Choice → World → World × Option op.Answer
  | .unixSeconds, c, w => (w, c.reply (some c.seconds))
  | .createJournal journal, c, w =>
    match w.journal with
    | some _ => (w, c.reply (some false))
    | none => (c.effect { w with journal := some journal } w, c.reply (some true))
  | .readJournal, c, w => (w, c.reply w.journal)
  | .writeJournal journal, c, w =>
    (c.effect { w with journal := some journal } w, c.reply (some ()))
  | .resultExists, c, w => (w, c.reply (some w.result.isSome))
  | .readResult, c, w => (w, c.reply w.result)
  | .writeResult result, c, w =>
    (c.effect { w with result := some result } w, c.reply (some ()))
  | .connect, c, w => (w, c.reply (some ()))
  | .findContractUtxo, c, w => (w, c.reply (some c.found))
  | .findMempoolEntry, c, w => (w, c.reply (some c.found))
  | .checkFundingUtxo, c, w => (w, c.reply (some ()))
  | .submitTransaction transaction, c, w =>
    ({ w with submissions := w.submissions ++ [transaction] }, c.reply (some c.transactionId))

/-- Why a broadcast ends without a result: an outside statement raised, or one of the checks. -/
inductive BroadcastError
  | outside
  | transactionBinding
  | acknowledgement
  | journalBinding
  | journalState
  | resultBinding
  | resultDiffers
  | notEligible
  | ambiguous
  | transactionId
  deriving DecidableEq, Repr

/-- A program of the deployer; `throw` is `bail!`. -/
abbrev Process := ExceptT BroadcastError (Program Op fun op => Option op.Answer)

/-- One statement, with `?`. -/
def request (op : Op) : Process op.Answer :=
  ExceptT.mk (.call op fun reply => .ret (reply.elim (.error .outside) .ok))

/-- `if ! condition { bail!(…) }`. -/
def ensure (condition : Bool) (error : BroadcastError) : Process Unit :=
  if condition then pure () else throw error

/-! ## Checks -/

/-- `safety_map`. -/
def safetyMap : List (String × Bool) :=
  [("accepts_private_keys", false), ("accepts_seed_phrases", false),
    ("accepts_wallet_secrets", false), ("signs_transactions", false)]

/-- `validate_verified_transaction_binding`. -/
def isTransactionBound (kaspa : Kaspa) (verified : VerifiedSignedTransaction)
    (signingRequest : SigningRequest) : Bool :=
  kaspa.isSigningRequest signingRequest &&
  (decide (verified.transaction.entries.length = verified.transaction.inputs) &&
    verified.transaction.entries.all id) &&
  (decide (verified.verification.schemaVersion = 1) &&
    decide (verified.verification.kind = "prometheus.silverc.genesis.signature_verification") &&
    decide (verified.verification.status = "EXTERNAL_SIGNATURE_AND_TRANSACTION_VERIFIED") &&
    decide (verified.verification.requestSha256 = signingRequest.requestSha256) &&
    decide (verified.verification.signingRequestSha256 = signingRequest.signingRequestSha256) &&
    decide (verified.verification.transactionId = signingRequest.unsignedTransactionId) &&
    decide (verified.verification.covenantId = signingRequest.covenantId) &&
    decide (verified.verification.signatureValidation = "bip340_schnorr_passed") &&
    decide (verified.verification.transactionValidation = "kaspa_consensus_sign_verify_passed") &&
    decide (verified.verification.safety = safetyMap) &&
    decide (kaspa.transactionId verified.transaction = signingRequest.unsignedTransactionId)) &&
  kaspa.isSigned verified.transaction

/-- The combinations of `validate_broadcast_result_binding`. -/
def isResultState (result : BroadcastResult) : Bool :=
  decide ((result.status, result.recordSource, result.confirmationRequired) ∈
    [("submitted_unconfirmed", "local_rpc_submission", true),
      ("reconciled_mempool", "known_transaction_mempool", true),
      ("reconciled_confirmed", "known_transaction_contract_utxo", false)])

/-- `validate_broadcast_result_binding`. -/
def isResultBound (result : BroadcastResult) (journal : BroadcastJournal) : Bool :=
  decide (result.schemaVersion = 1) &&
    decide (result.resultType = "prometheus_silverc_genesis_submission") &&
    isResultState result && decide (result.network = journal.network) &&
    decide (result.networkId = journal.networkId) &&
    decide (result.requestSha256 = journal.requestSha256) &&
    decide (result.signingRequestSha256 = journal.signingRequestSha256) &&
    decide (result.contractName = journal.contractName) &&
    decide (result.deployerAddress = journal.deployerAddress) &&
    decide (result.deployedInstanceId = journal.deployedInstanceId) &&
    decide (result.deployTxId = journal.expectedDeployTxId) &&
    decide (result.covenantId = journal.covenantId) &&
    decide (result.signingRequestSha256 = journal.acknowledgedSigningRequestSha256)

/-- The comparison of `validate_broadcast_journal_binding`. -/
def isJournalBound (journal expected : BroadcastJournal) : Bool :=
  decide (journal.schemaVersion = 1) &&
    decide (journal.journalType = "prometheus_silverc_genesis_broadcast_journal") &&
    decide (journal.network = expected.network) &&
    decide (journal.networkId = expected.networkId) &&
    decide (journal.requestSha256 = expected.requestSha256) &&
    decide (journal.signingRequestSha256 = expected.signingRequestSha256) &&
    decide (journal.contractName = expected.contractName) &&
    decide (journal.deployerAddress = expected.deployerAddress) &&
    decide (journal.deployedInstanceId = expected.deployedInstanceId) &&
    decide (journal.expectedDeployTxId = expected.expectedDeployTxId) &&
    decide (journal.covenantId = expected.covenantId) &&
    decide (journal.acknowledgedSigningRequestSha256 = expected.acknowledgedSigningRequestSha256) &&
    decide (journal.createdAtUnixSeconds ≤ journal.updatedAtUnixSeconds) &&
    journal.submissionStartedAtUnixSeconds.all fun started =>
      decide (journal.createdAtUnixSeconds ≤ started)

/-- The state of `validate_broadcast_journal_binding`. -/
def isJournalState (journal : BroadcastJournal) : Bool :=
  match journal.submissionStartedAtUnixSeconds, journal.result with
  | none, none => decide (journal.status = "verified_pending_submission")
  | some _, none => decide (journal.status = "submission_in_progress")
  | _, some result =>
    decide (journal.status = "submission_recorded") && isResultBound result journal

/-- `validate_broadcast_journal_binding`. -/
def validateJournal (journal expected : BroadcastJournal) : Process Unit := do
  ensure (isJournalBound journal expected) .journalBinding
  ensure (isJournalState journal) .journalState

/-! ## The command -/

/-- The inputs of one run of the command, rebuilt and verified. -/
structure Broadcast where
  verified : VerifiedSignedTransaction
  signingRequest : SigningRequest
  acknowledgement : String
  deriving DecidableEq, Repr

variable (kaspa : Kaspa) (input : Broadcast)

/-- The journal that `prepare_broadcast_journal` builds at a time. -/
def expectedJournal (now : Nat) : BroadcastJournal where
  schemaVersion := 1
  journalType := "prometheus_silverc_genesis_broadcast_journal"
  status := "verified_pending_submission"
  network := input.signingRequest.network
  networkId := input.signingRequest.networkId
  requestSha256 := input.signingRequest.requestSha256
  signingRequestSha256 := input.signingRequest.signingRequestSha256
  contractName := input.signingRequest.contractName
  deployerAddress := input.signingRequest.deployerAddress
  deployedInstanceId := input.signingRequest.deployedInstanceId
  expectedDeployTxId := input.signingRequest.unsignedTransactionId
  covenantId := input.signingRequest.covenantId
  acknowledgedSigningRequestSha256 := input.acknowledgement
  createdAtUnixSeconds := now
  updatedAtUnixSeconds := now
  submissionStartedAtUnixSeconds := none
  result := none

/-- `prepare_broadcast_journal`. -/
def prepareBroadcastJournal : Process BroadcastJournal := do
  ensure (isTransactionBound kaspa input.verified input.signingRequest) .transactionBinding
  ensure (decide (input.acknowledgement = input.signingRequest.signingRequestSha256))
    .acknowledgement
  let now ← request .unixSeconds
  return expectedJournal input now

/-- `broadcast_result`. -/
def broadcastResult (status recordSource : String) (confirmationRequired : Bool)
    (submittedAtUnixSeconds : Nat) : BroadcastResult where
  schemaVersion := 1
  resultType := "prometheus_silverc_genesis_submission"
  status := status
  network := input.signingRequest.network
  networkId := input.signingRequest.networkId
  requestSha256 := input.signingRequest.requestSha256
  signingRequestSha256 := input.signingRequest.signingRequestSha256
  contractName := input.signingRequest.contractName
  deployerAddress := input.signingRequest.deployerAddress
  deployedInstanceId := input.signingRequest.deployedInstanceId
  deployTxId := input.signingRequest.unsignedTransactionId
  covenantId := input.signingRequest.covenantId
  submittedAtUnixSeconds := submittedAtUnixSeconds
  recordSource := recordSource
  confirmationRequired := confirmationRequired

/-- `load_broadcast_journal`. -/
def loadBroadcastJournal (expected : BroadcastJournal) : Process BroadcastJournal := do
  let journal ← request .readJournal
  validateJournal journal expected
  return journal

/-- `load_broadcast_result`. -/
def loadBroadcastResult (journal : BroadcastJournal) : Process BroadcastResult := do
  let result ← request .readResult
  ensure (isResultBound result journal) .resultBinding
  return result

/-- The journal that records a result. -/
def recordedJournal (journal : BroadcastJournal) (result : BroadcastResult) (now : Nat) :
    BroadcastJournal :=
  { journal with
    status := "submission_recorded"
    updatedAtUnixSeconds := now
    result := some result }

/-- `finalize_broadcast_journal`. -/
def finalizeBroadcastJournal (journal : BroadcastJournal) (result : BroadcastResult) :
    Process BroadcastJournal := do
  ensure (isResultBound result journal) .resultBinding
  let now ← request .unixSeconds
  return recordedJournal journal result now

/-- The journal of a submission that has been started. -/
def startedJournal (journal : BroadcastJournal) (now : Nat) : BroadcastJournal :=
  { journal with
    status := "submission_in_progress"
    updatedAtUnixSeconds := now
    submissionStartedAtUnixSeconds := some now }

/-- `mark_submission_in_progress`; the journal is returned with the time. -/
def markSubmissionInProgress (journal : BroadcastJournal) : Process (Nat × BroadcastJournal) := do
  ensure (decide (journal.status = "verified_pending_submission") &&
    journal.submissionStartedAtUnixSeconds.isNone && journal.result.isNone) .notEligible
  let startedAt ← request .unixSeconds
  request (.writeJournal (startedJournal journal startedAt))
  return (startedAt, startedJournal journal startedAt)

/-- `require_first_submission_attempt`. -/
def requireFirstSubmissionAttempt (journal : BroadcastJournal) : Process Unit := do
  ensure (decide (journal.status ≠ "submission_in_progress")) .ambiguous
  ensure (decide (journal.status = "verified_pending_submission")) .notEligible

/-- The time a reconciled result is recorded for. -/
def reconciledAt (journal : BroadcastJournal) : Nat :=
  journal.submissionStartedAtUnixSeconds.getD journal.createdAtUnixSeconds

/-- The end of `broadcast_verified_transaction`: the only place that submits. -/
def submitVerifiedTransaction (journal : BroadcastJournal) :
    Process (BroadcastResult × BroadcastJournal) := do
  requireFirstSubmissionAttempt journal
  request .checkFundingUtxo
  let (startedAt, journal) ← markSubmissionInProgress journal
  let submittedId : String ← request (.submitTransaction input.verified.transaction)
  ensure (decide (submittedId = input.signingRequest.unsignedTransactionId)) .transactionId
  return (broadcastResult input "submitted_unconfirmed" "local_rpc_submission" true startedAt,
    journal)

/-- `broadcast_verified_transaction`; the journal it was lent is returned with the result. -/
def broadcastVerifiedTransaction (journal : BroadcastJournal) :
    Process (BroadcastResult × BroadcastJournal) := do
  let expected ← prepareBroadcastJournal kaspa input
  validateJournal journal expected
  request .connect
  let deployed : Bool ← request .findContractUtxo
  if deployed then
    return (broadcastResult input "reconciled_confirmed" "known_transaction_contract_utxo" false
      (reconciledAt journal), journal)
  else do
    let pending : Bool ← request .findMempoolEntry
    if pending then
      return (broadcastResult input "reconciled_mempool" "known_transaction_mempool" true
        (reconciledAt journal), journal)
    else submitVerifiedTransaction input journal

/-- Publish a result that the journal has recorded. -/
def publishRecorded (journal : BroadcastJournal) (recorded : BroadcastResult) : Process Unit := do
  let isPublic : Bool ← request .resultExists
  if isPublic then do
    let existing ← loadBroadcastResult journal
    ensure (decide (existing = recorded)) .resultDiffers
  else request (.writeResult recorded)

/-- A result file without a recorded result is recorded in the journal. -/
def recordPublic (journal : BroadcastJournal) : Process Unit := do
  let result ← loadBroadcastResult journal
  let journal ← finalizeBroadcastJournal journal result
  request (.writeJournal journal)

/-- The journal of the path: created, or loaded when there is one. -/
def openJournal (expected : BroadcastJournal) : Process BroadcastJournal := do
  let created : Bool ← request (.createJournal expected)
  if created then return expected else loadBroadcastJournal expected

/-- The `Command::Broadcast` arm of `main`, from `prepare_broadcast_journal` on. The lock is taken
after the first statement, which has no effect on the files; the host admits one run at a time. -/
def broadcast : Process Unit := do
  let expected ← prepareBroadcastJournal kaspa input
  let journal ← openJournal expected
  match journal.result with
  | some recorded => publishRecorded journal recorded
  | none => do
    let isPublic : Bool ← request .resultExists
    if isPublic then recordPublic journal
    else do
      let (result, journal) ← broadcastVerifiedTransaction kaspa input journal
      let journal ← finalizeBroadcastJournal journal result
      request (.writeJournal journal)
      request (.writeResult result)

/-! ## The machine -/

/-- A machine on which runs of the command are started and killed. -/
abbrev DeployHost := Host World Op (fun op => Option op.Answer) (Except BroadcastError Unit)

/-- One signal; a run that is started while another one holds the lock ends at once. -/
def step : Signal Broadcast Choice → DeployHost → Option Op × DeployHost :=
  Host.step exec fun input => (broadcast kaspa input).run

abbrev DeployEvent := Event DeployHost (Signal Broadcast Choice) (Option Op)

/-- A result path that nothing has been written to. -/
def Unused (host : DeployHost) : Prop := host = ⟨⟨none, none, []⟩, none⟩

end Prometheus.Deployer
