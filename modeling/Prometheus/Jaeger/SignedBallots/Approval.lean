import Prometheus.Jaeger.SignedBallots.Expiry

/-!
# What an approved decision stands for

`evaluate` approves only on one stored envelope for each member of the committee, verified again at
the time of the call. Three layers carry this: a row holds the fields of the envelope its frame
parses to, the votes are those of the session's rows in order, and the voter counts each Guardian
once.
-/

namespace Prometheus.Jaeger

open Prometheus.Codec

/-! ## The count -/

section

variable {sha256 : Bytes → Bytes} {candidate : EnsembleCandidate} {snapshot : MembershipSnapshot}
  {votes : List GuardianVote} {tally tally' : BallotTally}

def GuardianVote.approves (vote : GuardianVote) : Bool := decide (vote.decision = str "approve")

/-- A ballot that is counted to its end: its votes are of distinct Guardians not seen before, and
every approval meets the confidence policy. -/
structure Counted (votes : List GuardianVote) (tally tally' : BallotTally) : Prop where
  distinct : (votes.map GuardianVote.guardianId).Nodup
  unseen : ∀ vote ∈ votes, vote.guardianId ∉ tally.seenGuardians
  seen : ∀ id, id ∈ tally'.seenGuardians ↔
    id ∈ votes.map GuardianVote.guardianId ∨ id ∈ tally.seenGuardians
  approvals : tally'.approvalConfidencesBps.length =
    tally.approvalConfidencesBps.length + (votes.filter GuardianVote.approves).length
  confident : ∀ vote ∈ votes, vote.approves = true → minConfidenceBps ≤ vote.confidenceBps

theorem Counted.nil (tally : BallotTally) : Counted [] tally tally where
  distinct := List.nodup_nil
  unseen := by simp
  seen := by simp
  approvals := by simp
  confident := by simp

/-- A vote of a Guardian not seen before, followed by a counted ballot. -/
theorem Counted.cons {vote : GuardianVote} {next : BallotTally} (h : Counted votes next tally')
    (fresh : vote.guardianId ∉ tally.seenGuardians)
    (isNext : next.seenGuardians = vote.guardianId :: tally.seenGuardians)
    (count : next.approvalConfidencesBps.length =
      tally.approvalConfidencesBps.length + if vote.approves then 1 else 0)
    (confident : vote.approves = true → minConfidenceBps ≤ vote.confidenceBps) :
    Counted (vote :: votes) tally tally' where
  distinct := by
    rw [List.map_cons, List.nodup_cons]
    refine ⟨fun again => ?_, h.distinct⟩
    obtain ⟨other, isVote, same⟩ := List.mem_map.mp again
    apply h.unseen other isVote
    rw [isNext, same]
    exact List.mem_cons_self
  unseen := by
    intro other isVote
    rcases List.mem_cons.mp isVote with rfl | isVote
    · exact fresh
    · intro seen
      apply h.unseen other isVote
      rw [isNext]
      exact List.mem_cons_of_mem _ seen
  seen := by
    intro id
    rw [h.seen, isNext, List.map_cons, List.mem_cons, List.mem_cons]
    tauto
  approvals := by
    rw [h.approvals, count]
    by_cases approves : vote.approves = true
    · simp [approves]
      omega
    · simp [approves]
  confident := by
    intro other isVote approves
    rcases List.mem_cons.mp isVote with rfl | isVote
    · exact confident approves
    · exact h.confident other isVote approves

theorem countVotes_ok (h : countVotes candidate snapshot votes tally = .ok tally') :
    Counted votes tally tally' := by
  induction votes generalizing tally with
  | nil =>
    obtain rfl := Except.ok.inj h
    exact Counted.nil tally
  | cons vote votes ih =>
    rw [countVotes] at h
    by_cases valid : isValidVote vote candidate snapshot = true
    · rw [if_neg (not_not.mpr valid)] at h
      by_cases seen : vote.guardianId ∈ tally.seenGuardians
      · rw [if_pos seen] at h
        cases h
      · rw [if_neg seen] at h
        by_cases approve : vote.decision = str "approve"
        · have approves : vote.approves = true := decide_eq_true approve
          rw [if_pos approve] at h
          by_cases low : vote.confidenceBps < minConfidenceBps
          · rw [if_pos low] at h
            cases h
          · rw [if_neg low] at h
            exact (ih h).cons seen rfl (by simp [approves]) fun _ => not_lt.mp low
        · have rejects : vote.approves = false := decide_eq_false approve
          rw [if_neg approve] at h
          exact (ih h).cons seen rfl (by simp [rejects]) (by simp [rejects])
    · rw [if_pos valid] at h
      cases h

/-- The ballot of an approved decision: one vote of each member, a strict majority of them
approving. -/
structure Majority (votes : List GuardianVote) (snapshot : MembershipSnapshot) : Prop where
  distinct : (votes.map GuardianVote.guardianId).Nodup
  complete : ∀ member ∈ snapshot.members, member.guardianId ∈ votes.map GuardianVote.guardianId
  committee : ∀ id ∈ votes.map GuardianVote.guardianId,
    id ∈ snapshot.members.map GuardianMember.guardianId
  strict : snapshot.members.length < 2 * (votes.filter GuardianVote.approves).length
  confident : ∀ vote ∈ votes, vote.approves = true → minConfidenceBps ≤ vote.confidenceBps

theorem validateBallot_ok (h : validateBallot votes candidate snapshot = .ok tally) :
    Counted votes ⟨[], [], 0⟩ tally ∧
      (∀ id ∈ tally.seenGuardians, id ∈ snapshot.members.map GuardianMember.guardianId) ∧
      ∀ member ∈ snapshot.members, member.guardianId ∈ tally.seenGuardians := by
  unfold validateBallot at h
  split at h
  · cases h
  · cases counted : countVotes candidate snapshot votes ⟨[], [], 0⟩ with
    | error reason =>
      rw [counted] at h
      cases h
    | ok tally' =>
      rw [counted] at h
      dsimp only at h
      split at h
      · rename_i sameIds
        obtain rfl := Except.ok.inj h
        exact ⟨countVotes_ok counted, sameIds⟩
      · cases h

/-- The voter approves on such a ballot only. -/
theorem majority_of_approved
    (h : (ensembleEvaluate sha256 candidate snapshot votes).approved = true) :
    Majority votes snapshot := by
  unfold ensembleEvaluate at h
  split at h
  · cases h
  split at h
  · cases h
  split at h
  · cases h
  cases ballot : validateBallot votes candidate snapshot with
  | error reason =>
    rw [ballot] at h
    cases h
  | ok tally =>
    rw [ballot] at h
    dsimp only at h
    split at h
    · cases h
    · rename_i majority
      obtain ⟨counted, committee, complete⟩ := validateBallot_ok ballot
      have seen : ∀ id, id ∈ tally.seenGuardians ↔ id ∈ votes.map GuardianVote.guardianId := by
        intro id
        rw [counted.seen]
        simp
      have approvals := counted.approvals
      rw [List.length_nil, Nat.zero_add] at approvals
      exact {
        distinct := counted.distinct
        complete := fun member isMember => (seen _).mp (complete member isMember)
        committee := fun id isVote => committee id ((seen id).mpr isVote)
        strict := by omega
        confident := counted.confident }

/-- The members that approve are a strict majority as well. -/
theorem Majority.approvers (h : Majority votes snapshot) :
    snapshot.members.length < 2 * (snapshot.members.filter fun member =>
      votes.any fun vote => vote.approves && vote.guardianId == member.guardianId).length := by
  have ids : ((votes.filter GuardianVote.approves).map GuardianVote.guardianId).Nodup :=
    h.distinct.sublist (List.filter_sublist.map _)
  have among : (votes.filter GuardianVote.approves).map GuardianVote.guardianId ⊆
      (snapshot.members.filter fun member => votes.any fun vote =>
        vote.approves && vote.guardianId == member.guardianId).map GuardianMember.guardianId := by
    intro id isApproval
    obtain ⟨vote, approval, rfl⟩ := List.mem_map.mp isApproval
    obtain ⟨isVote, approves⟩ := List.mem_filter.mp approval
    obtain ⟨member, isMember, same⟩ :=
      List.mem_map.mp (h.committee _ (List.mem_map_of_mem isVote))
    refine List.mem_map.mpr ⟨member, List.mem_filter.mpr ⟨isMember, ?_⟩, same⟩
    exact List.any_eq_true.mpr ⟨vote, isVote, by simp [approves, same]⟩
  have bound := (ids.subperm among).length_le
  rw [List.length_map, List.length_map] at bound
  have := h.strict
  omega

end

end Prometheus.Jaeger

namespace Prometheus.Jaeger.SignedBallots

open Prometheus.Codec Prometheus.Machine

variable {codec : BallotCodec} {file file' : ReplayLedger} {call : Call}
  {out : Except BallotError Answer} {candidate : EnsembleCandidate} {snapshot : MembershipSnapshot}
  {session : BallotSession} {nowMs : Int} {fault : Bool}

/-! ## The rows -/

/-- A row names the session and the Guardian of the envelope its frame parses to. -/
def RowsNamed (codec : BallotCodec) (file : ReplayLedger) : Prop :=
  ∀ row ∈ file.acceptedBallots.rows, ∃ envelope, fromWire codec row.wire = .ok (some envelope) ∧
    envelope.sessionId = row.sessionId ∧ envelope.guardianId = row.guardianId

theorem rowsNamed_of_unused (unused : Unused file) : RowsNamed codec file := by
  intro row stored
  rw [show file.acceptedBallots.rows = [] from unused] at stored
  cases stored

theorem Effect.rowsNamed (effect : Effect codec file call out file') (named : RowsNamed codec file) :
    RowsNamed codec file' := by
  intro row stored
  cases effect with
  | refused | contained | evaluated => exact named row stored
  | opened answered tables state => exact named row (tables ▸ stored)
  | accepted envelope parsed verified advanced inserted =>
    rw [(Table.insert_eq_some.mp inserted).2.2] at stored
    rcases List.mem_append.mp stored with old | new
    · exact named row old
    · rw [List.mem_singleton.mp new]
      exact ⟨envelope, parsed, rfl, rfl⟩
  | pruned rows advanced deleted =>
    rw [deleted] at stored
    exact named row (Table.mem_delete.mp stored).1

/-- The envelope stored in a row, when it is one of a session and a Guardian. -/
def storedEnvelope (codec : BallotCodec) (sessionId guardianId : Str) (row : AcceptedBallot) :
    Option SignedGuardianBallot :=
  match fromWire codec row.wire with
  | .ok (some envelope) =>
    if envelope.sessionId = sessionId ∧ envelope.guardianId = guardianId then some envelope else none
  | _ => none

/-- The envelopes of one Guardian that the file holds for a session. -/
def storedEnvelopes (codec : BallotCodec) (file : ReplayLedger) (sessionId guardianId : Str) :
    List SignedGuardianBallot :=
  file.acceptedBallots.rows.filterMap (storedEnvelope codec sessionId guardianId)

theorem storedEnvelope_some {sessionId guardianId : Str} {row : AcceptedBallot}
    {envelope : SignedGuardianBallot} :
    storedEnvelope codec sessionId guardianId row = some envelope ↔
      fromWire codec row.wire = .ok (some envelope) ∧ envelope.sessionId = sessionId ∧
        envelope.guardianId = guardianId := by
  unfold storedEnvelope
  constructor
  · intro h
    split at h
    · rename_i parsed
      split at h
      · rename_i names
        obtain rfl := Option.some.inj h
        exact ⟨parsed, names⟩
      · cases h
    · cases h
  · rintro ⟨parsed, names⟩
    rw [parsed]
    exact if_pos names

/-- The key of the table admits one stored envelope for each Guardian and session. -/
theorem storedEnvelopes_length_le (named : RowsNamed codec file) (sessionId guardianId : Str) :
    (storedEnvelopes codec file sessionId guardianId).length ≤ 1 := by
  have apart : file.acceptedBallots.rows.Pairwise fun a b =>
      ∀ x, storedEnvelope codec sessionId guardianId a = some x →
        ∀ y, storedEnvelope codec sessionId guardianId b = some y → False := by
    refine file.acceptedBallots.unique.imp_of_mem ?_
    intro a b isA isB free x isX y isY
    obtain ⟨parsed, sessionX, guardianX⟩ := storedEnvelope_some.mp isX
    obtain ⟨parsed', sessionY, guardianY⟩ := storedEnvelope_some.mp isY
    obtain ⟨x', isX', sessionA, guardianA⟩ := named a isA
    obtain ⟨y', isY', sessionB, guardianB⟩ := named b isB
    obtain rfl : x' = x := by simpa using isX'.symm.trans parsed
    obtain rfl : y' = y := by simpa using isY'.symm.trans parsed'
    simp [acceptedSchema, ← sessionA, ← sessionB, ← guardianA, ← guardianB, sessionX, sessionY,
      guardianX, guardianY] at free
  have none : (storedEnvelopes codec file sessionId guardianId).Pairwise fun _ _ => False :=
    List.pairwise_filterMap.mpr apart
  cases rows : storedEnvelopes codec file sessionId guardianId with
  | nil => simp
  | cons x rest =>
    cases rest with
    | nil => simp
    | cons y rest =>
      rw [rows] at none
      exact (List.rel_of_pairwise_cons none List.mem_cons_self).elim

theorem storedEnvelopes_eq (named : RowsNamed codec file) {sessionId guardianId : Str}
    {row : AcceptedBallot} (stored : row ∈ file.acceptedBallots.rows)
    {envelope : SignedGuardianBallot}
    (isEnvelope : storedEnvelope codec sessionId guardianId row = some envelope) :
    storedEnvelopes codec file sessionId guardianId = [envelope] := by
  have isMember : envelope ∈ storedEnvelopes codec file sessionId guardianId :=
    List.mem_filterMap.mpr ⟨row, stored, isEnvelope⟩
  have single := storedEnvelopes_length_le named sessionId guardianId
  cases rows : storedEnvelopes codec file sessionId guardianId with
  | nil =>
    rw [rows] at isMember
    cases isMember
  | cons x rest =>
    rw [rows] at isMember single
    obtain rfl : rest = [] := List.length_eq_zero_iff.mp (by simpa using single)
    rw [List.mem_singleton.mp isMember]

/-! ## The votes -/

/-- The votes of a re-verification are those of its frames, in order. -/
theorem reverify_votes {wires : List Bytes} {votes : List GuardianVote}
    (h : reverify codec candidate snapshot session nowMs wires = .ok votes) :
    ∃ envelopes : List SignedGuardianBallot, votes = envelopes.map SignedGuardianBallot.toVote ∧
      (∀ wire ∈ wires, ∃ envelope ∈ envelopes, fromWire codec wire = .ok (some envelope)) ∧
      ∀ envelope ∈ envelopes, (∃ wire ∈ wires, fromWire codec wire = .ok (some envelope)) ∧
        Verified codec envelope candidate snapshot session nowMs := by
  induction wires generalizing votes with
  | nil =>
    obtain rfl := Except.ok.inj h
    exact ⟨[], rfl, by simp, by simp⟩
  | cons wire wires ih =>
    rw [reverify] at h
    cases first : verifyWire codec wire candidate snapshot session nowMs with
    | error e =>
      rw [first] at h
      cases h
    | ok result =>
      cases rest : reverify codec candidate snapshot session nowMs wires with
      | error e =>
        rw [first, rest] at h
        cases h
      | ok votes' =>
        rw [first, rest] at h
        obtain rfl := Except.ok.inj h
        obtain ⟨parsed, verified, isVote⟩ := verifyWire_ok first
        obtain ⟨envelopes, rfl, read, checked⟩ := ih rest
        refine ⟨result.1 :: envelopes, by rw [isVote, List.map_cons], ?_, ?_⟩
        · intro frame isFrame
          rcases List.mem_cons.mp isFrame with rfl | isFrame
          · exact ⟨result.1, List.mem_cons_self, parsed⟩
          · obtain ⟨envelope, isRead, isParsed⟩ := read frame isFrame
            exact ⟨envelope, List.mem_cons_of_mem _ isRead, isParsed⟩
        · intro envelope isRead
          rcases List.mem_cons.mp isRead with rfl | isRead
          · exact ⟨⟨wire, List.mem_cons_self, parsed⟩, verified⟩
          · obtain ⟨⟨frame, isFrame, isParsed⟩, checks⟩ := checked envelope isRead
            exact ⟨⟨frame, List.mem_cons_of_mem _ isFrame, isParsed⟩, checks⟩

theorem storedVotes_eq {votes : List GuardianVote}
    (h : storedVotes codec candidate snapshot session nowMs fault file = .ok votes) :
    reverify codec candidate snapshot session nowMs
      ((sessionRows session.sessionId file).map AcceptedBallot.wire) = .ok votes := by
  unfold storedVotes at h
  split at h
  · cases h
  · rename_i wires isWires
    unfold sessionWires at isWires
    split at isWires
    · cases isWires
    split at isWires
    · cases isWires
    obtain rfl := Except.ok.inj isWires
    exact h

/-- An approved decision is the voter's on the votes of the session's rows. -/
theorem evaluate_votes {decision : EnsembleDecision}
    (h : evaluate codec candidate snapshot session nowMs fault file = .ok decision)
    (approved : decision.approved = true) :
    ∃ votes, storedVotes codec candidate snapshot session nowMs fault file = .ok votes ∧
      isValidSession codec session candidate snapshot = true ∧ Majority votes snapshot := by
  have notEmpty : decision ≠ ensembleEvaluate codec.sha256 candidate snapshot [] := by
    rintro rfl
    rw [ensembleEvaluate_nil] at approved
    cases approved
  unfold evaluate at h
  by_cases valid : isValidSession codec session candidate snapshot = true
  · rw [if_neg (not_not.mpr valid)] at h
    cases stored : storedVotes codec candidate snapshot session nowMs fault file with
    | ok votes =>
      rw [stored] at h
      obtain rfl := Except.ok.inj h
      exact ⟨votes, rfl, valid, majority_of_approved approved⟩
    | error e =>
      rw [stored] at h
      dsimp only at h
      split at h
      · exact absurd (Except.ok.inj h).symm notEmpty
      · cases h
  · rw [if_pos valid] at h
    exact absurd (Except.ok.inj h).symm notEmpty

/-! ## Keys -/

/-- A session binds the key to the Guardian: it lists it, and no other for that Guardian. -/
def Bound (session : BallotSession) (guardianId key : Str) : Prop :=
  ⟨guardianId, key⟩ ∈ session.signers ∧
    ∀ signer ∈ session.signers, signer.guardianId = guardianId → signer.xonlyPublicKey = key

theorem nodup_signers (valid : isValidSession codec session candidate snapshot = true) :
    (session.signers.map BallotSigner.guardianId).Nodup := by
  simp only [isValidSession, Bool.and_eq_true, decide_eq_true_eq] at valid
  have validated := valid.2
  simp only [validatedSigners] at validated
  split at validated
  · rename_i checks
    rw [← Option.some.inj validated]
    exact checks.2.2.1
  · cases validated

theorem nodup_members (valid : isValidSession codec session candidate snapshot = true) :
    (snapshot.members.map GuardianMember.guardianId).Nodup := by
  simp only [isValidSession, Bool.and_eq_true] at valid
  have isSnapshot := valid.1.2
  unfold isValidSnapshot at isSnapshot
  cases validated : validatedMembers snapshot.members with
  | none =>
    rw [validated] at isSnapshot
    simp at isSnapshot
  | some canonical =>
    simp only [validated, Bool.and_eq_true, decide_eq_true_eq] at isSnapshot
    rw [isSnapshot.2.1]
    simp only [validatedMembers] at validated
    split at validated
    · rename_i checks
      rw [← Option.some.inj validated]
      exact checks.2.2
    · cases validated

theorem Verified.boundKey {envelope : SignedGuardianBallot}
    (verified : Verified codec envelope candidate snapshot session nowMs) :
    ∃ key, Bound session envelope.guardianId key ∧
      codec.verify (fromHex key) (fromHex envelope.signature)
        (codec.sha256 (ballotDomain ++ [0] ++ envelope.payload.dumps)) = true := by
  have signed := verified.signed
  unfold isSigned at signed
  cases found : session.signers.find? fun signer => signer.guardianId = envelope.guardianId with
  | none =>
    rw [found] at signed
    cases signed
  | some signer =>
    rw [found] at signed
    have isSigner := List.mem_of_find?_eq_some found
    have isGuardian : signer.guardianId = envelope.guardianId := by
      simpa using List.find?_some found
    have shape := verified.shape
    simp only [isValidEnvelopeShape, Bool.and_eq_true, decide_eq_true_eq] at shape
    simp only [verifySignature, Bool.and_eq_true] at signed
    refine ⟨signer.xonlyPublicKey, ⟨?_, ?_⟩, ?_⟩
    · rw [← isGuardian]
      exact isSigner
    · intro other isOther same
      have distinct := nodup_signers verified.valid
      rw [List.inj_on_of_nodup_map distinct isOther isSigner (same.trans isGuardian.symm)]
    · rw [shape.2, canonicalDigest, fromHex_hex] at signed
      exact signed.2

/-! ## Approval -/

/-- What a stored envelope says for a member of the committee. -/
structure Vouches (codec : BallotCodec) (candidate : EnsembleCandidate)
    (snapshot : MembershipSnapshot) (session : BallotSession) (nowMs : Int)
    (member : GuardianMember) (envelope : SignedGuardianBallot) : Prop where
  inSession : envelope.sessionId = session.sessionId
  forCandidate : envelope.candidateDigest = candidate.candidateDigest
  forSnapshot : envelope.membershipSnapshotId = snapshot.snapshotId
  byModel : envelope.modelArtifactSha256 = member.modelArtifactSha256
  unexpired : nowMs < envelope.expiresAtMs
  signed : ∃ key, Bound session member.guardianId key ∧
    codec.verify (fromHex key) (fromHex envelope.signature)
      (codec.sha256 (ballotDomain ++ [0] ++ envelope.payload.dumps)) = true

theorem Verified.vouches {envelope : SignedGuardianBallot} {member : GuardianMember}
    (verified : Verified codec envelope candidate snapshot session nowMs)
    (isMember : member ∈ snapshot.members) (same : envelope.guardianId = member.guardianId) :
    Vouches codec candidate snapshot session nowMs member envelope := by
  have bound := verified.bound
  simp only [isContextBound, Bool.and_eq_true, decide_eq_true_eq] at bound
  have vote := verified.vote
  simp only [isValidGuardianVote, Bool.and_eq_true] at vote
  have isVote := vote.2
  unfold isValidVote at isVote
  have found : memberById snapshot envelope.toVote.guardianId = some member := by
    have distinct := nodup_members verified.valid
    cases isFound : memberById snapshot envelope.toVote.guardianId with
    | none =>
      have notFound := List.find?_eq_none.mp isFound member isMember
      simp [SignedGuardianBallot.toVote, same] at notFound
    | some other =>
      have named : other.guardianId = envelope.guardianId := by
        have isOther := List.find?_some isFound
        exact of_decide_eq_true isOther
      rw [List.inj_on_of_nodup_map distinct (List.mem_of_find?_eq_some isFound) isMember
        (named.trans same)]
  rw [found] at isVote
  simp only [Bool.and_eq_true, decide_eq_true_eq] at isVote
  exact {
    inSession := bound.1.1.1
    forCandidate := bound.2
    forSnapshot := bound.1.2
    byModel := isVote.1.2
    unexpired := verified.window.1
    signed := same ▸ verified.boundKey }

/-- The members whose stored envelope approves with the confidence the policy asks for. -/
def approvers (codec : BallotCodec) (file : ReplayLedger) (snapshot : MembershipSnapshot)
    (session : BallotSession) : List GuardianMember :=
  snapshot.members.filter fun member =>
    (storedEnvelopes codec file session.sessionId member.guardianId).any fun envelope =>
      decide (envelope.decision = str "approve") && decide (minConfidenceBps ≤ envelope.confidenceBps)

/-- In every state of a run and at every time, an approved decision stands for one stored envelope
of each member, signed under the member's bound key for this session, candidate and snapshot and
not expired, and for a strict majority of members whose envelope approves confidently. -/
theorem approved_decision_sound {h : List BallotEvent} (run : Run (step codec) Unused h file)
    {decision : EnsembleDecision}
    (decided : evaluate codec candidate snapshot session nowMs fault file = .ok decision)
    (approved : decision.approved = true) :
    (snapshot.members.map GuardianMember.guardianId).Nodup ∧
      (∀ member ∈ snapshot.members, ∃ envelope,
        storedEnvelopes codec file session.sessionId member.guardianId = [envelope] ∧
          Vouches codec candidate snapshot session nowMs member envelope) ∧
      snapshot.members.length < 2 * (approvers codec file snapshot session).length := by
  have named : RowsNamed codec file :=
    run.invariant (RowsNamed codec) (fun s => rowsNamed_of_unused)
      fun s i named => (step_effect codec i s).rowsNamed named
  obtain ⟨votes, stored, valid, majority⟩ := evaluate_votes decided approved
  obtain ⟨envelopes, rfl, -, checked⟩ := reverify_votes (storedVotes_eq stored)
  -- the envelope of a vote is the only one its Guardian has stored for the session
  have only : ∀ envelope ∈ envelopes,
      storedEnvelopes codec file session.sessionId envelope.guardianId = [envelope] := by
    intro envelope isEnvelope
    obtain ⟨⟨wire, isWire, parsed⟩, verified⟩ := checked envelope isEnvelope
    obtain ⟨row, isRow, rfl⟩ := List.mem_map.mp isWire
    exact storedEnvelopes_eq named (mem_sessionRows.mp isRow).1
      (storedEnvelope_some.mpr ⟨parsed, verified.sessionId, rfl⟩)
  refine ⟨nodup_members valid, ?_, ?_⟩
  · intro member isMember
    obtain ⟨vote, isVote, same⟩ := List.mem_map.mp (majority.complete member isMember)
    obtain ⟨envelope, isEnvelope, rfl⟩ := List.mem_map.mp isVote
    have isGuardian : envelope.guardianId = member.guardianId := same
    exact ⟨envelope, isGuardian ▸ only envelope isEnvelope,
      (checked envelope isEnvelope).2.vouches isMember isGuardian⟩
  · refine lt_of_lt_of_le majority.approvers (Nat.mul_le_mul_left 2 ?_)
    refine (List.monotone_filter_right _ ?_).length_le
    intro member votes
    obtain ⟨vote, isVote, approves⟩ := List.any_eq_true.mp votes
    obtain ⟨envelope, isEnvelope, rfl⟩ := List.mem_map.mp isVote
    rw [Bool.and_eq_true, beq_iff_eq] at approves
    have isGuardian : envelope.guardianId = member.guardianId := approves.2
    have confident := majority.confident _ isVote approves.1
    have approve : envelope.decision = str "approve" := of_decide_eq_true approves.1
    have atLeast : minConfidenceBps ≤ envelope.confidenceBps := confident
    rw [← isGuardian, only envelope isEnvelope]
    simp [approve, atLeast]

theorem approved_decision_sound_recorded :
    let file := (execute (step recordedCodec) votingCalls ReplayLedger.fresh).2
    ∃ decision,
      evaluate recordedCodec recordedCandidate recordedSnapshot recordedSession 2000 false file =
        .ok decision ∧ decision.approved = true ∧
      (recordedSnapshot.members.map GuardianMember.guardianId).Nodup ∧
      (∀ member ∈ recordedSnapshot.members, ∃ envelope,
        storedEnvelopes recordedCodec file recordedSession.sessionId member.guardianId =
            [envelope] ∧
          Vouches recordedCodec recordedCandidate recordedSnapshot recordedSession 2000 member
            envelope) ∧
      recordedSnapshot.members.length <
        2 * (approvers recordedCodec file recordedSnapshot recordedSession).length := by
  intro file
  have unused : Unused ReplayLedger.fresh := rfl
  have flags := recorded_runs.1.1
  rw [expiringCalls, execute_append, List.map_append] at flags
  have evaluations := (List.append_inj
    (show _ = [false, false, false, false, false, false] ++ [true, false, false] from flags)
    (by simp [votingCalls])).2
  rw [execute, List.map_cons] at evaluations
  obtain ⟨decision, isDecision, approved⟩ :=
    approves_iff.mp (List.cons.inj evaluations).1
  have decided : evaluate recordedCodec recordedCandidate recordedSnapshot recordedSession 2000
      false file = .ok decision := by
    cases evaluated : evaluate recordedCodec recordedCandidate recordedSnapshot recordedSession
        2000 false file with
    | error e =>
      simp only [callEvent, evaluateRecorded, step, answer] at isDecision
      rw [evaluated] at isDecision
      cases isDecision
    | ok decision' =>
      simp only [callEvent, evaluateRecorded, step, answer] at isDecision
      rw [evaluated] at isDecision
      cases isDecision
      rfl
  exact ⟨decision, decided, approved,
    approved_decision_sound (Run.of_execute unused votingCalls) decided approved⟩

end Prometheus.Jaeger.SignedBallots
