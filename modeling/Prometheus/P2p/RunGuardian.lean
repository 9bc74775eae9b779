import Prometheus.P2p.RequestSlots

/-!
# The loop of a Guardian

`run_guardian` of `modules/guardian-p2p/src/service.rs` with `admit_submission` and
`complete_local_submission`: it takes local submissions from a queue, sends their ballots and answers
each with what comes of its request. A branch of `select!` is a call, as are what the submission
server puts into the queue and what ends the loop. Records of the operator are left out, but for
whether they can be emitted.
-/

namespace Prometheus.P2p

open Prometheus.Codec Prometheus.Machine

/-- The `oneshot::Sender` of a submission. -/
abbrev Response : Type := Nat

inductive LocalSubmissionResult
  | accepted
  | duplicate
  | rejected
  | busy
  | transportFailure
  deriving DecidableEq, Repr

structure LocalSubmission where
  peer : PeerId
  ballot : Bytes
  response : Response
  deriving DecidableEq, Repr

/-- The map of results in `complete_local_submission`. -/
def LocalSubmissionResult.ofAck : AckStatus → LocalSubmissionResult
  | .accepted => .accepted
  | .duplicate => .duplicate
  | .rejected => .rejected
  | .busy => .busy

/-- Where `run_guardian` is: in its loop, in the drain after the shutdown signal, or returned. -/
inductive Phase
  | running
  | draining
  | returned (ok : Bool)
  deriving DecidableEq, Repr

structure RunGuardian where
  node : GuardianP2p
  /-- The channel between the submission server and the loop. -/
  submissions : List LocalSubmission
  pendingSubmissions : List (OutboundRequestId × Response)
  phase : Phase

/-- What an iteration does to submissions. -/
inductive Outcome
  | quiet
  /-- A submission is taken from the queue and its request is sent. -/
  | started (requestId : OutboundRequestId) (submission : LocalSubmission)
  /-- Submissions are taken from the queue and answered without a request. -/
  | refused (submissions : List LocalSubmission) (result : LocalSubmissionResult)
  /-- A submission whose request is over is answered. -/
  | completed (requestId : OutboundRequestId) (response : Response)
      (result : LocalSubmissionResult)
  /-- The submissions that are left are answered. -/
  | drained (pending : List (OutboundRequestId × Response))

namespace Outcome

/-- The submissions that are taken from the queue. -/
def taken : Outcome → List LocalSubmission
  | .started _ submission => [submission]
  | .refused submissions _ => submissions
  | _ => []

/-- The requests that are sent, each for its submission. -/
def requests : Outcome → List (OutboundRequestId × Response)
  | .started requestId submission => [(requestId, submission.response)]
  | _ => []

/-- The submissions that are answered without a request. -/
def unsent : Outcome → List LocalSubmission
  | .refused submissions _ => submissions
  | _ => []

/-- The results that are sent to submissions. -/
def answers : Outcome → List (Response × LocalSubmissionResult)
  | .refused submissions result => submissions.map fun submission => (submission.response, result)
  | .completed _ response result => [(response, result)]
  | .drained pending => pending.map fun entry => (entry.2, .transportFailure)
  | _ => []

end Outcome

namespace RunGuardian

variable (s : RunGuardian)

/-- `HashMap::insert` -/
def insertPending (requestId : OutboundRequestId) (response : Response) : RunGuardian :=
  { s with
    pendingSubmissions := (requestId, response) ::
      s.pendingSubmissions.filter fun entry => decide (entry.1 ≠ requestId) }

/-- `HashMap::remove` -/
def removePending (requestId : OutboundRequestId) : RunGuardian :=
  { s with
    pendingSubmissions := s.pendingSubmissions.filter fun entry => decide (entry.1 ≠ requestId) }

/-- `admit_submission`; libp2p gives the identifier of the request. -/
def admitSubmission (requestId : OutboundRequestId) (submission : LocalSubmission) :
    Outcome × RunGuardian :=
  match s.node.sendBallot requestId with
  | (.ok requestId, node) =>
    (.started requestId submission,
      insertPending { s with node := node } requestId submission.response)
  | (.error (.outboundBusy _), node) => (.refused [submission] .busy, { s with node := node })
  | (.error _, node) => (.refused [submission] .transportFailure, { s with node := node })

/-- What `complete_local_submission` does for a request that is over. -/
def completeRequest (requestId : OutboundRequestId) (result : LocalSubmissionResult) :
    Outcome × RunGuardian :=
  match s.pendingSubmissions.lookup requestId with
  | some response => (.completed requestId response result, s.removePending requestId)
  | none => (.quiet, s)

/-- `complete_local_submission` -/
def completeLocalSubmission : TransportEvent → Outcome × RunGuardian
  | .outboundAck .ballots _ requestId status => s.completeRequest requestId (.ofAck status)
  | .outboundFailure .ballots _ requestId _ => s.completeRequest requestId .transportFailure
  | _ => (.quiet, s)

/-- `return Err(…)` -/
def fail : RunGuardian := { s with phase := .returned false }

/-- A record is emitted, or the loop returns its error. -/
def emit (emitted : Bool) : RunGuardian := if emitted then s else s.fail

/-- An iteration of `next_verified_sidecar_event` and what is done with the event it returns. -/
def handleProgress (progress : GuardianP2p.Progress) (emitted : Bool) : Outcome × RunGuardian :=
  match progress with
  | (.ok none, _, node) => (.quiet, { s with node := node })
  | (.ok (some event), _, node) =>
    let completed := completeLocalSubmission { s with node := node } event
    (completed.1, completed.2.emit emitted)
  | (.error _, _, node) => (.quiet, fail { s with node := node })

/-- Whether the loop or the drain goes on. -/
def isActive : Bool :=
  match s.phase with
  | .returned _ => false
  | _ => true

inductive Call
  /-- The submission server sends into the queue; what was under way when the queue was closed may
  still get there, and is not taken. -/
  | submit (submission : LocalSubmission)
  | outputFailed
  | signal (ok : Bool)
  | health (emitted : Bool)
  /-- `submissions.recv()`; `requestId` is what libp2p gives if a request is sent. -/
  | receive (requestId : OutboundRequestId)
  /-- `submissions.recv()` on a channel that was abandoned. -/
  | abandoned
  /-- The swarm yields an event, or an ingress task completes. -/
  | swarm (event : SwarmEvent) (isOpen emitted : Bool)
  | ingress (p : Protocol) (peer : PeerId) (requestId : InboundRequestId)
      (forwarded : Except IngressError p.Status) (isOpen emitted : Bool)
  /-- The drain ends, as no work is left or at its deadline; then the submission server is awaited
  and the last record emitted. -/
  | finish (served emitted : Bool)

/-- A branch that is not there in the present phase is not taken. -/
def step (call : Call) (s : RunGuardian) : Outcome × RunGuardian :=
  match call, s.phase with
  | .submit submission, _ =>
    (.quiet, { s with submissions := s.submissions ++ [submission] })
  | .outputFailed, .running => (.quiet, s.fail)
  | .signal true, .running =>
    (.refused s.submissions .busy, { s with submissions := [], phase := .draining })
  | .signal false, .running => (.quiet, s.fail)
  | .health emitted, .running => (.quiet, s.emit emitted)
  | .receive requestId, .running =>
    match s.submissions with
    | submission :: rest => admitSubmission { s with submissions := rest } requestId submission
    | [] => (.quiet, s)
  | .abandoned, .running => if s.submissions = [] then (.quiet, s.fail) else (.quiet, s)
  | .swarm event isOpen emitted, _ =>
    if s.isActive then s.handleProgress (s.node.wake (.swarm .verifiedSidecar event isOpen)) emitted
    else (.quiet, s)
  | .ingress p peer requestId forwarded isOpen emitted, _ =>
    if s.isActive then
      s.handleProgress (s.node.wake (.ingress p peer requestId forwarded isOpen)) emitted
    else (.quiet, s)
  | .finish served emitted, .draining =>
    (.drained s.pendingSubmissions,
      { s with pendingSubmissions := [], phase := .returned (served && emitted) })
  | _, _ => (.quiet, s)

/-- `run_guardian` enters its loop. -/
def Started (s : RunGuardian) : Prop :=
  ∃ max listeners, s = ⟨GuardianP2p.new max listeners, [], [], .running⟩

end RunGuardian

end Prometheus.P2p
