import Prometheus.Codec.Json

/-!
# The complete-ballot vote of a Guardian committee

`modules/guardian-node/jaeger/ensemble.py`: candidates and membership snapshots with the digests
that commit to them, the checks of a vote, and `EnsembleVoter.evaluate`. `hashlib.sha256` is a
parameter. Of an `AnalysisResult` the float `confidence` is left out; it is
`aggregate_confidence_bps / 10_000`.
-/

namespace Prometheus.Jaeger

open Prometheus.Codec

/-- `ENSEMBLE_PROTOCOL_VERSION`. -/
def ensembleProtocolVersion : Int := 1

/-- `MIN_ENSEMBLE_MEMBERS`. -/
def minEnsembleMembers : Nat := 5

/-- `MIN_CONFIDENCE_BPS`. -/
def minConfidenceBps : Int := 8500

/-- `_is_sha256` of a text: 64 lower-case hex digits. -/
def isSha256 (s : Str) : Bool := s.length == 64 && s.all isLowerHex

/-- `_canonical_digest`, the same function in `ensemble.py` and `signed_ballots.py`. -/
def canonicalDigest (sha256 : Bytes → Bytes) (domain : Bytes) (payload : Json) : Str :=
  hex (sha256 (domain ++ [0] ++ payload.dumps))

/-! ## Committees -/

structure GuardianMember where
  guardianId : Str
  modelTier : Str
  modelArtifactSha256 : Str
  deriving DecidableEq, Repr

structure MembershipSnapshot where
  protocolVersion : Int
  membershipSourceSha256 : Str
  members : List GuardianMember
  snapshotId : Str
  deriving DecidableEq, Repr

/-- `_is_valid_member`. -/
def isValidMember (member : GuardianMember) : Bool :=
  isSha256 member.guardianId && decide (member.modelTier = str "8b") &&
    isSha256 member.modelArtifactSha256

/-- The order of `sorted(members, key=lambda member: member.guardian_id)`. -/
def sortMembers (members : List GuardianMember) : List GuardianMember :=
  members.insertionSort fun a b => a.guardianId ≤ b.guardianId

/-- `_validated_members`; `none` where it raises. -/
def validatedMembers (members : List GuardianMember) : Option (List GuardianMember) :=
  let canonical := sortMembers members
  if minEnsembleMembers ≤ canonical.length ∧ canonical.all isValidMember ∧
      (canonical.map GuardianMember.guardianId).Nodup then
    some canonical
  else none

/-- `_SNAPSHOT_DOMAIN`. -/
def snapshotDomain : Bytes := ascii "PROMETHEUS_GUARDIAN_MEMBERSHIP_SNAPSHOT_V1"

/-- `_snapshot_payload`. -/
def snapshotPayload (protocolVersion : Int) (membershipSourceSha256 : Str)
    (members : List GuardianMember) : Json :=
  .object [
    (str "members", .array (members.map fun member => .object [
      (str "guardian_id", .string member.guardianId),
      (str "model_artifact_sha256", .string member.modelArtifactSha256),
      (str "model_tier", .string member.modelTier)])),
    (str "membership_source_sha256", .string membershipSourceSha256),
    (str "protocol_version", .int protocolVersion)]

/-- `_is_valid_snapshot`. -/
def isValidSnapshot (sha256 : Bytes → Bytes) (snapshot : MembershipSnapshot) : Bool :=
  decide (snapshot.protocolVersion = ensembleProtocolVersion) &&
    isSha256 snapshot.membershipSourceSha256 && isSha256 snapshot.snapshotId &&
    match validatedMembers snapshot.members with
    | none => false
    | some canonical =>
      decide (snapshot.members = canonical) &&
        decide (snapshot.snapshotId = canonicalDigest sha256 snapshotDomain
          (snapshotPayload snapshot.protocolVersion snapshot.membershipSourceSha256 canonical))

/-! ## Candidates -/

structure EnsembleCandidate where
  protocolVersion : Int
  ruleType : Str
  threatHash : Str
  ruleName : Str
  ruleContent : Str
  ruleGeneratedAt : Int
  ruleConfidenceBps : Int
  ruleSha256 : Str
  policySha256 : Str
  modelArtifactSha256 : Str
  candidateDigest : Str
  deriving DecidableEq, Repr

def isAsciiLetter (c : Nat) : Bool :=
  (decide (65 ≤ c) && decide (c ≤ 90)) || (decide (97 ≤ c) && decide (c ≤ 122))

def isAsciiDigit (c : Nat) : Bool := decide (48 ≤ c) && decide (c ≤ 57)

/-- `_is_rule_name` of a text: `[A-Za-z_][A-Za-z0-9_]*`, at most 128 characters. -/
def isRuleName (s : Str) : Bool :=
  decide (s.length ≤ 128) &&
    match s with
    | [] => false
    | c :: rest => (isAsciiLetter c || c == 95) &&
        rest.all fun c => isAsciiLetter c || isAsciiDigit c || c == 95

/-- `_is_rule_content` of a text. -/
def isRuleContent (ruleName value : Str) : Bool :=
  match encodeUtf8 value with
  | none => false
  | some encoded => decide (0 < encoded.length) && decide (encoded.length ≤ 1000000) &&
      decide (str "rule " ++ ruleName <:+: value) && decide (str "strings:" <:+: value) &&
      decide (str "condition:" <:+: value)

/-- `_CANDIDATE_DOMAIN`. -/
def candidateDomain : Bytes := ascii "PROMETHEUS_GUARDIAN_ENSEMBLE_CANDIDATE_V1"

/-- `_candidate_payload` of a candidate's own fields. -/
def candidatePayload (candidate : EnsembleCandidate) : Json :=
  .object [
    (str "model_artifact_sha256", .string candidate.modelArtifactSha256),
    (str "policy_sha256", .string candidate.policySha256),
    (str "protocol_version", .int candidate.protocolVersion),
    (str "rule_content", .string candidate.ruleContent),
    (str "rule_confidence_bps", .int candidate.ruleConfidenceBps),
    (str "rule_generated_at", .int candidate.ruleGeneratedAt),
    (str "rule_name", .string candidate.ruleName),
    (str "rule_sha256", .string candidate.ruleSha256),
    (str "rule_type", .string (str "yara")),
    (str "threat_hash", .string candidate.threatHash)]

/-- `_is_valid_candidate`. -/
def isValidCandidate (sha256 : Bytes → Bytes) (candidate : EnsembleCandidate) : Bool :=
  (decide (candidate.protocolVersion = ensembleProtocolVersion) &&
    decide (candidate.ruleType = str "yara")) &&
  (isSha256 candidate.threatHash && isRuleName candidate.ruleName &&
    isRuleContent candidate.ruleName candidate.ruleContent &&
    decide (0 ≤ candidate.ruleGeneratedAt) &&
    decide (minConfidenceBps ≤ candidate.ruleConfidenceBps) &&
    decide (candidate.ruleConfidenceBps ≤ 10000)) &&
  (isSha256 candidate.ruleSha256 && isSha256 candidate.policySha256 &&
    isSha256 candidate.modelArtifactSha256 && isSha256 candidate.candidateDigest) &&
  (decide (some candidate.ruleSha256 =
      (encodeUtf8 candidate.ruleContent).map fun encoded => hex (sha256 encoded)) &&
    decide (candidate.candidateDigest =
      canonicalDigest sha256 candidateDomain (candidatePayload candidate)))

/-! ## Votes -/

structure GuardianVote where
  guardianId : Str
  membershipSnapshotId : Str
  candidateDigest : Str
  decision : Str
  confidenceBps : Int
  modelTier : Str
  modelArtifactSha256 : Str
  protocolVersion : Int
  deriving DecidableEq, Repr

/-- `members_by_id.get(guardian_id)`; a valid snapshot has no two members of one id. -/
def memberById (snapshot : MembershipSnapshot) (guardianId : Str) : Option GuardianMember :=
  snapshot.members.find? fun member => member.guardianId = guardianId

/-- `_is_valid_vote`. -/
def isValidVote (vote : GuardianVote) (candidate : EnsembleCandidate)
    (snapshot : MembershipSnapshot) : Bool :=
  match memberById snapshot vote.guardianId with
  | none => false
  | some member =>
    decide (vote.protocolVersion = ensembleProtocolVersion) && isSha256 vote.guardianId &&
      decide (vote.membershipSnapshotId = snapshot.snapshotId) &&
      decide (vote.candidateDigest = candidate.candidateDigest) &&
      (decide (vote.decision = str "approve") || decide (vote.decision = str "reject")) &&
      decide (0 ≤ vote.confidenceBps) && decide (vote.confidenceBps ≤ 10000) &&
      decide (vote.modelTier = str "8b") && decide (vote.modelTier = member.modelTier) &&
      decide (vote.modelArtifactSha256 = member.modelArtifactSha256) &&
      decide (vote.modelArtifactSha256 = candidate.modelArtifactSha256)

/-- `is_valid_guardian_vote`. -/
def isValidGuardianVote (sha256 : Bytes → Bytes) (vote : GuardianVote)
    (candidate : EnsembleCandidate) (snapshot : MembershipSnapshot) : Bool :=
  isValidCandidate sha256 candidate && isValidSnapshot sha256 snapshot &&
    isValidVote vote candidate snapshot

/-- `_BallotTally` together with the Guardians seen so far. -/
structure BallotTally where
  seenGuardians : List Str
  approvalConfidencesBps : List Int
  rejections : Nat
  deriving DecidableEq, Repr

/-- The loop of `_validate_ballot`; an error is the reason it returns. -/
def countVotes (candidate : EnsembleCandidate) (snapshot : MembershipSnapshot) :
    List GuardianVote → BallotTally → Except Str BallotTally
  | [], tally => .ok tally
  | vote :: votes, tally =>
    if ¬ isValidVote vote candidate snapshot then .error (str "invalid committee vote")
    else if vote.guardianId ∈ tally.seenGuardians then .error (str "duplicate committee vote")
    else
      let seenGuardians := vote.guardianId :: tally.seenGuardians
      if vote.decision = str "approve" then
        if vote.confidenceBps < minConfidenceBps then
          .error (str "approval below confidence policy")
        else countVotes candidate snapshot votes
          ⟨seenGuardians, tally.approvalConfidencesBps ++ [vote.confidenceBps], tally.rejections⟩
      else countVotes candidate snapshot votes
        ⟨seenGuardians, tally.approvalConfidencesBps, tally.rejections + 1⟩

/-- `_validate_ballot` of a finite list of votes. -/
def validateBallot (votes : List GuardianVote) (candidate : EnsembleCandidate)
    (snapshot : MembershipSnapshot) : Except Str BallotTally :=
  if votes.length ≠ snapshot.members.length then .error (str "incomplete committee ballot")
  else
    match countVotes candidate snapshot votes ⟨[], [], 0⟩ with
    | .error reason => .error reason
    | .ok tally =>
      if (∀ id ∈ tally.seenGuardians, id ∈ snapshot.members.map GuardianMember.guardianId) ∧
          (∀ member ∈ snapshot.members, member.guardianId ∈ tally.seenGuardians) then
        .ok tally
      else .error (str "incomplete committee ballot")

/-! ## Decisions -/

/-- `YaraRule`. -/
structure YaraRule where
  name : Str
  ruleContent : Str
  confidenceBps : Int
  threatHash : Str
  generatedAt : Int
  deriving DecidableEq, Repr

/-- `AnalysisResult`. -/
structure AnalysisResult where
  threatHash : Str
  yaraRule : Option YaraRule
  shouldSubmit : Bool
  analysisNotes : Str
  deriving DecidableEq, Repr

structure EnsembleDecision where
  analysis : AnalysisResult
  membershipSnapshotId : Option Str
  candidateDigest : Option Str
  committeeSize : Nat
  approvals : Nat
  rejections : Nat
  aggregateConfidenceBps : Option Int
  approved : Bool
  reason : Str
  deriving DecidableEq, Repr

/-- `_failed_decision`. -/
def failedDecision (reason threatHash : Str) (candidateDigest membershipSnapshotId : Option Str)
    (committeeSize approvals rejections : Nat) : EnsembleDecision where
  analysis := ⟨threatHash, none, false, str "Guardian ensemble validation failed closed."⟩
  membershipSnapshotId := membershipSnapshotId
  candidateDigest := candidateDigest
  committeeSize := committeeSize
  approvals := approvals
  rejections := rejections
  aggregateConfidenceBps := none
  approved := false
  reason := reason

/-- The decision of a complete ballot with a strict majority. -/
def approvedDecision (candidate : EnsembleCandidate) (snapshot : MembershipSnapshot)
    (tally : BallotTally) : EnsembleDecision :=
  let aggregate := tally.approvalConfidencesBps.foldl min candidate.ruleConfidenceBps
  { analysis := ⟨candidate.threatHash, some ⟨candidate.ruleName, candidate.ruleContent, aggregate,
        candidate.threatHash, candidate.ruleGeneratedAt⟩, true,
      str "Guardian ensemble reached a strict complete-ballot majority."⟩
    membershipSnapshotId := some snapshot.snapshotId
    candidateDigest := some candidate.candidateDigest
    committeeSize := snapshot.members.length
    approvals := tally.approvalConfidencesBps.length
    rejections := tally.rejections
    aggregateConfidenceBps := some aggregate
    approved := true
    reason := str "strict committee majority approved" }

/-- `EnsembleVoter.evaluate`. -/
def ensembleEvaluate (sha256 : Bytes → Bytes) (candidate : EnsembleCandidate)
    (snapshot : MembershipSnapshot) (votes : List GuardianVote) : EnsembleDecision :=
  if ¬ isValidCandidate sha256 candidate then
    failedDecision (str "invalid candidate") [] none none 0 0 0
  else if ¬ isValidSnapshot sha256 snapshot then
    failedDecision (str "invalid membership snapshot") candidate.threatHash
      (some candidate.candidateDigest) none 0 0 0
  else if snapshot.members.any
      (fun member => member.modelArtifactSha256 ≠ candidate.modelArtifactSha256) then
    failedDecision (str "committee model binding mismatch") candidate.threatHash
      (some candidate.candidateDigest) (some snapshot.snapshotId) snapshot.members.length 0 0
  else
    match validateBallot votes candidate snapshot with
    | .error reason =>
      failedDecision reason candidate.threatHash (some candidate.candidateDigest)
        (some snapshot.snapshotId) snapshot.members.length 0 0
    | .ok tally =>
      if tally.approvalConfidencesBps.length ≤ snapshot.members.length / 2 then
        failedDecision (str "strict committee majority not reached") candidate.threatHash
          (some candidate.candidateDigest) (some snapshot.snapshotId) snapshot.members.length
          tally.approvalConfidencesBps.length tally.rejections
      else approvedDecision candidate snapshot tally

theorem validatedMembers_some {members canonical : List GuardianMember}
    (h : validatedMembers members = some canonical) :
    canonical = sortMembers members ∧ minEnsembleMembers ≤ canonical.length := by
  simp only [validatedMembers] at h
  split at h
  · rename_i valid
    obtain rfl := Option.some.inj h
    exact ⟨rfl, valid.1⟩
  · cases h

theorem isValidSnapshot_length {sha256 : Bytes → Bytes} {snapshot : MembershipSnapshot}
    (h : isValidSnapshot sha256 snapshot = true) :
    minEnsembleMembers ≤ snapshot.members.length := by
  unfold isValidSnapshot at h
  cases validated : validatedMembers snapshot.members with
  | none => rw [validated] at h; simp at h
  | some canonical =>
    simp only [validated, Bool.and_eq_true, decide_eq_true_eq] at h
    rw [h.2.1]
    exact (validatedMembers_some validated).2

/-- An approved decision was made on a vote of every member. -/
theorem ensembleEvaluate_approved {sha256 : Bytes → Bytes} {candidate : EnsembleCandidate}
    {snapshot : MembershipSnapshot} {votes : List GuardianVote}
    (h : (ensembleEvaluate sha256 candidate snapshot votes).approved = true) :
    isValidSnapshot sha256 snapshot = true ∧ votes.length = snapshot.members.length := by
  unfold ensembleEvaluate at h
  split at h
  · cases h
  split at h
  · cases h
  rename_i valid
  split at h
  · cases h
  refine ⟨by simpa using valid, ?_⟩
  by_contra incomplete
  simp [validateBallot, incomplete, failedDecision] at h

/-- No committee approves without a vote. -/
theorem ensembleEvaluate_nil (sha256 : Bytes → Bytes) (candidate : EnsembleCandidate)
    (snapshot : MembershipSnapshot) :
    (ensembleEvaluate sha256 candidate snapshot []).approved = false := by
  by_contra approved
  obtain ⟨valid, complete⟩ := ensembleEvaluate_approved (by simpa using approved)
  have := isValidSnapshot_length valid
  rw [← complete] at this
  cases this

end Prometheus.Jaeger
