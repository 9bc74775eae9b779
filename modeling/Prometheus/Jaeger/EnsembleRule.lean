import Prometheus.Jaeger.SignedBallots.Replay

/-!
# The rule of the committee

What `EnsembleVoter.evaluate` decides, without the order in which it looks at the votes. The reason
of a refused ballot is the first it finds, and depends on that order.
-/

namespace Prometheus.Jaeger

open Prometheus.Codec

/-- The votes for a candidate. -/
def approvals (votes : List GuardianVote) : List GuardianVote :=
  votes.filter fun vote => vote.decision = str "approve"

variable {sha256 : Bytes → Bytes} {candidate : EnsembleCandidate} {snapshot : MembershipSnapshot}
  {votes others : List GuardianVote}

/-! ## The count -/

/-- No vote is refused by the loop. -/
structure Counts (candidate : EnsembleCandidate) (snapshot : MembershipSnapshot)
    (votes : List GuardianVote) : Prop where
  valid : ∀ vote ∈ votes, isValidVote vote candidate snapshot = true
  distinct : (votes.map GuardianVote.guardianId).Nodup
  confident : ∀ vote ∈ approvals votes, minConfidenceBps ≤ vote.confidenceBps

/-- The candidate, the snapshot and the committee's artifact are right. -/
structure ValidInputs (sha256 : Bytes → Bytes) (candidate : EnsembleCandidate)
    (snapshot : MembershipSnapshot) : Prop where
  validCandidate : isValidCandidate sha256 candidate = true
  validSnapshot : isValidSnapshot sha256 snapshot = true
  artifacts : ∀ member ∈ snapshot.members,
    member.modelArtifactSha256 = candidate.modelArtifactSha256

/-- What is decided on valid inputs. -/
theorem evaluate_eq (inputs : ValidInputs sha256 candidate snapshot) :
    ensembleEvaluate sha256 candidate snapshot votes =
      match validateBallot votes candidate snapshot with
      | .error reason =>
        failedDecision reason candidate.threatHash (some candidate.candidateDigest)
          (some snapshot.snapshotId) snapshot.members.length 0 0
      | .ok tally =>
        if tally.approvalConfidencesBps.length ≤ snapshot.members.length / 2 then
          failedDecision (str "strict committee majority not reached") candidate.threatHash
            (some candidate.candidateDigest) (some snapshot.snapshotId) snapshot.members.length
            tally.approvalConfidencesBps.length tally.rejections
        else approvedDecision candidate snapshot tally := by
  have bound : ¬ snapshot.members.any
      (fun member => member.modelArtifactSha256 ≠ candidate.modelArtifactSha256) = true := by
    simpa using inputs.artifacts
  rw [ensembleEvaluate]
  exact (if_neg (not_not.mpr inputs.validCandidate)).trans
    ((if_neg (not_not.mpr inputs.validSnapshot)).trans ((if_neg bound).trans rfl))

/-- Without them the votes are not looked at, and nothing is approved. -/
theorem evaluate_invalid (invalid : ¬ ValidInputs sha256 candidate snapshot) :
    ensembleEvaluate sha256 candidate snapshot votes =
        ensembleEvaluate sha256 candidate snapshot [] ∧
      (ensembleEvaluate sha256 candidate snapshot votes).approved ≠ true := by
  unfold ensembleEvaluate
  by_cases validCandidate : isValidCandidate sha256 candidate = true
  · rw [if_neg (not_not.mpr validCandidate), if_neg (not_not.mpr validCandidate)]
    by_cases validSnapshot : isValidSnapshot sha256 snapshot = true
    · rw [if_neg (not_not.mpr validSnapshot), if_neg (not_not.mpr validSnapshot)]
      have mismatch : snapshot.members.any
          (fun member => member.modelArtifactSha256 ≠ candidate.modelArtifactSha256) = true := by
        by_contra agree
        exact invalid ⟨validCandidate, validSnapshot, by simpa using agree⟩
      rw [if_pos mismatch, if_pos mismatch]
      exact ⟨rfl, Bool.false_ne_true⟩
    · rw [if_pos validSnapshot, if_pos validSnapshot]
      exact ⟨rfl, Bool.false_ne_true⟩
  · rw [if_pos validCandidate, if_pos validCandidate]
    exact ⟨rfl, Bool.false_ne_true⟩

theorem evaluate_error (inputs : ValidInputs sha256 candidate snapshot) {reason : Str}
    (isBallot : validateBallot votes candidate snapshot = .error reason) :
    ensembleEvaluate sha256 candidate snapshot votes =
      failedDecision reason candidate.threatHash (some candidate.candidateDigest)
        (some snapshot.snapshotId) snapshot.members.length 0 0 := by
  rw [evaluate_eq inputs, isBallot]

theorem evaluate_minority (inputs : ValidInputs sha256 candidate snapshot) {tally : BallotTally}
    (isBallot : validateBallot votes candidate snapshot = .ok tally)
    (minority : tally.approvalConfidencesBps.length ≤ snapshot.members.length / 2) :
    ensembleEvaluate sha256 candidate snapshot votes =
      failedDecision (str "strict committee majority not reached") candidate.threatHash
        (some candidate.candidateDigest) (some snapshot.snapshotId) snapshot.members.length
        tally.approvalConfidencesBps.length tally.rejections := by
  rw [evaluate_eq inputs, isBallot]
  exact if_pos minority

theorem evaluate_majority (inputs : ValidInputs sha256 candidate snapshot) {tally : BallotTally}
    (isBallot : validateBallot votes candidate snapshot = .ok tally)
    (majority : ¬ tally.approvalConfidencesBps.length ≤ snapshot.members.length / 2) :
    ensembleEvaluate sha256 candidate snapshot votes = approvedDecision candidate snapshot tally := by
  rw [evaluate_eq inputs, isBallot]
  exact if_neg majority

/-- What is approved was counted, and has its majority. -/
theorem evaluate_approved
    (approved : (ensembleEvaluate sha256 candidate snapshot votes).approved = true) :
    ValidInputs sha256 candidate snapshot ∧ ∃ tally,
      validateBallot votes candidate snapshot = .ok tally ∧
      ¬ tally.approvalConfidencesBps.length ≤ snapshot.members.length / 2 ∧
      ensembleEvaluate sha256 candidate snapshot votes =
        approvedDecision candidate snapshot tally := by
  by_cases inputs : ValidInputs sha256 candidate snapshot
  · cases isBallot : validateBallot votes candidate snapshot with
    | error reason =>
      rw [evaluate_error inputs isBallot] at approved
      exact absurd approved Bool.false_ne_true
    | ok tally =>
      by_cases minority : tally.approvalConfidencesBps.length ≤ snapshot.members.length / 2
      · rw [evaluate_minority inputs isBallot minority] at approved
        exact absurd approved Bool.false_ne_true
      · exact ⟨inputs, tally, rfl, minority, evaluate_majority inputs isBallot minority⟩
  · exact absurd approved (evaluate_invalid inputs).2

end Prometheus.Jaeger
