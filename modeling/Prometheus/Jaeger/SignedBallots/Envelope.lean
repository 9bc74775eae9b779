import Prometheus.Jaeger.Ensemble

/-!
# Ballot sessions and signed envelopes

`modules/guardian-node/jaeger/signed_ballots.py`, the part without a database: the session a
committee signs in, the envelope of one ballot, its wire form and `BallotVerifier.verify`.
`json.loads`, `hashlib.sha256` and the BIP340 functions of `coincurve` are parameters. A value the
source checks to be an integer or a text is typed here; an argument of another type is refused by
the same check as one out of range.
-/

namespace Prometheus.Jaeger.SignedBallots

open Prometheus.Codec

/-- What the module takes from its libraries. -/
structure BallotCodec where
  sha256 : Bytes → Bytes
  /-- `json.loads` of the UTF-8 bytes. -/
  loads : Bytes → Except LoadError Json
  /-- `dataclasses.asdict` of an envelope with these fields exceeds the recursion limit. -/
  tooDeep : Json → Bool
  /-- `PublicKeyXOnly` accepts the bytes. -/
  isPublicKey : Bytes → Bool
  /-- `PublicKeyXOnly(key).verify(signature, message)`; false where it raises `ValueError`. -/
  verify : Bytes → Bytes → Bytes → Bool

/-- The exceptions of the module: the three `BallotTransportError`s, and the ones of Python and
`sqlite3` that it does not catch. -/
inductive BallotError
  | format
  | verification
  | replay
  | value
  | recursion
  | sqlite
  deriving DecidableEq, Repr

/-- A `BallotTransportError`. -/
def BallotError.isTransport : BallotError → Bool
  | .format | .verification | .replay => true
  | .value | .recursion | .sqlite => false

/-- `SIGNED_BALLOT_PROTOCOL_VERSION`. -/
def signedBallotProtocolVersion : Int := 1

/-- `MAX_BALLOT_WIRE_BYTES`. -/
def maxBallotWireBytes : Nat := 8192

/-- `MAX_BALLOT_LIFETIME_MS`. -/
def maxBallotLifetimeMs : Int := 120000

/-- `MAX_SESSION_LIFETIME_MS`. -/
def maxSessionLifetimeMs : Int := 900000

/-- `MAX_CLOCK_SKEW_MS`. -/
def maxClockSkewMs : Int := 30000

/-- `_is_timestamp` of an integer: it fits a SQLite integer and is not negative. -/
def isTimestamp (value : Int) : Bool := decide (0 ≤ value) && decide (value ≤ 2 ^ 63 - 1)

/-- `_is_hex_32` of a text. -/
def isHex32 (s : Str) : Bool := s.length == 64 && s.all isLowerHex

/-- `_is_hex_64` of a text. -/
def isHex64 (s : Str) : Bool := s.length == 128 && s.all isLowerHex

/-- `_is_network_id` of a text: `mainnet`, or `testnet-` and one to three digits. -/
def isNetworkId (s : Str) : Bool :=
  decide (s = str "mainnet") ||
    (s.take 8 == str "testnet-" && decide (1 ≤ (s.drop 8).length) &&
      decide ((s.drop 8).length ≤ 3) && (s.drop 8).all isAsciiDigit)

/-! ## Sessions -/

structure BallotSigner where
  guardianId : Str
  xonlyPublicKey : Str
  deriving DecidableEq, Repr

structure BallotSession where
  protocolVersion : Int
  networkId : Str
  membershipSnapshotId : Str
  candidateDigest : Str
  sessionNonce : Str
  validFromMs : Int
  validUntilMs : Int
  signers : List BallotSigner
  sessionId : Str
  deriving DecidableEq, Repr

/-- `_SESSION_DOMAIN`. -/
def sessionDomain : Bytes := ascii "PROMETHEUS_GUARDIAN_BALLOT_SESSION_V1"

/-- The fields of `_session_payload`, of a session's own values. -/
def BallotSession.payloadFields (session : BallotSession) : List (Str × Json) :=
  [(str "candidate_digest", .string session.candidateDigest),
    (str "membership_snapshot_id", .string session.membershipSnapshotId),
    (str "network_id", .string session.networkId),
    (str "protocol_version", .int session.protocolVersion),
    (str "session_nonce", .string session.sessionNonce),
    (str "signers", .array (session.signers.map fun signer => .object [
      (str "guardian_id", .string signer.guardianId),
      (str "xonly_public_key", .string signer.xonlyPublicKey)])),
    (str "valid_from_ms", .int session.validFromMs),
    (str "valid_until_ms", .int session.validUntilMs)]

/-- `_session_payload`. -/
def BallotSession.payload (session : BallotSession) : Json := .object session.payloadFields

/-- The bytes whose digest is the session id. -/
def BallotSession.commitment (session : BallotSession) : Bytes :=
  sessionDomain ++ [0] ++ session.payload.dumps

/-- `_is_valid_signer`. -/
def isValidSigner (codec : BallotCodec) (signer : BallotSigner) : Bool :=
  isHex32 signer.guardianId && isHex32 signer.xonlyPublicKey &&
    codec.isPublicKey (fromHex signer.xonlyPublicKey)

/-- `_validated_signers`; `none` where it raises. -/
def validatedSigners (codec : BallotCodec) (signers : List BallotSigner)
    (snapshot : MembershipSnapshot) : Option (List BallotSigner) :=
  let canonical := signers.insertionSort fun a b => a.guardianId ≤ b.guardianId
  let guardianIds := canonical.map BallotSigner.guardianId
  let memberIds := snapshot.members.map GuardianMember.guardianId
  if canonical ≠ [] ∧ canonical.all (isValidSigner codec) ∧ guardianIds.Nodup ∧
      (canonical.map BallotSigner.xonlyPublicKey).Nodup ∧
      (∀ id ∈ guardianIds, id ∈ memberIds) ∧ ∀ id ∈ memberIds, id ∈ guardianIds then
    some canonical
  else none

/-- `_validate_session_window`; `false` where it raises. -/
def isSessionWindow (validFromMs validUntilMs : Int) : Bool :=
  isTimestamp validFromMs && isTimestamp validUntilMs && decide (0 < validUntilMs - validFromMs) &&
    decide (validUntilMs - validFromMs ≤ maxSessionLifetimeMs)

/-- `_is_valid_session_shape`. -/
def isValidSessionShape (codec : BallotCodec) (session : BallotSession) : Bool :=
  (decide (session.protocolVersion = signedBallotProtocolVersion) &&
    isNetworkId session.networkId && isHex32 session.membershipSnapshotId &&
    isHex32 session.candidateDigest && isHex32 session.sessionNonce &&
    !session.signers.isEmpty && session.signers.all (isValidSigner codec) &&
    isHex32 session.sessionId) &&
  isSessionWindow session.validFromMs session.validUntilMs &&
  decide (session.sessionId = canonicalDigest codec.sha256 sessionDomain session.payload)

/-- `_is_valid_session`. -/
def isValidSession (codec : BallotCodec) (session : BallotSession) (candidate : EnsembleCandidate)
    (snapshot : MembershipSnapshot) : Bool :=
  isValidSessionShape codec session &&
    decide (session.membershipSnapshotId = snapshot.snapshotId) &&
    decide (session.candidateDigest = candidate.candidateDigest) &&
    isValidCandidate codec.sha256 candidate && isValidSnapshot codec.sha256 snapshot &&
    decide (validatedSigners codec session.signers snapshot = some session.signers)

/-- `BallotSession.create`; `none` where it raises. -/
def BallotSession.create (codec : BallotCodec) (candidate : EnsembleCandidate)
    (snapshot : MembershipSnapshot) (signers : List BallotSigner) (networkId sessionNonce : Str)
    (validFromMs validUntilMs : Int) : Option BallotSession :=
  if ¬ isValidCandidate codec.sha256 candidate ∨ ¬ isValidSnapshot codec.sha256 snapshot then none
  else
    match validatedSigners codec signers snapshot with
    | none => none
    | some canonicalSigners =>
      if ¬ isSessionWindow validFromMs validUntilMs ∨ ¬ isNetworkId networkId ∨
          ¬ isHex32 sessionNonce then none
      else
        let session : BallotSession :=
          { protocolVersion := signedBallotProtocolVersion
            networkId := networkId
            membershipSnapshotId := snapshot.snapshotId
            candidateDigest := candidate.candidateDigest
            sessionNonce := sessionNonce
            validFromMs := validFromMs
            validUntilMs := validUntilMs
            signers := canonicalSigners
            sessionId := [] }
        -- The payload of the digest leaves the session id out.
        some { session with
          sessionId := canonicalDigest codec.sha256 sessionDomain session.payload }

/-! ## Envelopes -/

structure SignedGuardianBallot where
  protocolVersion : Int
  voteProtocolVersion : Int
  sessionId : Str
  networkId : Str
  guardianId : Str
  membershipSnapshotId : Str
  candidateDigest : Str
  decision : Str
  confidenceBps : Int
  modelTier : Str
  modelArtifactSha256 : Str
  nonce : Str
  issuedAtMs : Int
  expiresAtMs : Int
  payloadDigest : Str
  signature : Str
  deriving DecidableEq, Repr

/-- `_BALLOT_DOMAIN`. -/
def ballotDomain : Bytes := ascii "PROMETHEUS_GUARDIAN_SIGNED_BALLOT_V1"

/-- `_ballot_payload` of an envelope's own fields. -/
def SignedGuardianBallot.payload (envelope : SignedGuardianBallot) : Json :=
  .object [
    (str "candidate_digest", .string envelope.candidateDigest),
    (str "confidence_bps", .int envelope.confidenceBps),
    (str "decision", .string envelope.decision),
    (str "expires_at_ms", .int envelope.expiresAtMs),
    (str "guardian_id", .string envelope.guardianId),
    (str "issued_at_ms", .int envelope.issuedAtMs),
    (str "membership_snapshot_id", .string envelope.membershipSnapshotId),
    (str "model_artifact_sha256", .string envelope.modelArtifactSha256),
    (str "model_tier", .string envelope.modelTier),
    (str "network_id", .string envelope.networkId),
    (str "nonce", .string envelope.nonce),
    (str "protocol_version", .int envelope.protocolVersion),
    (str "session_id", .string envelope.sessionId),
    (str "vote_protocol_version", .int envelope.voteProtocolVersion)]

/-- `asdict` of an envelope. -/
def SignedGuardianBallot.asDict (envelope : SignedGuardianBallot) : Json :=
  .object [
    (str "protocol_version", .int envelope.protocolVersion),
    (str "vote_protocol_version", .int envelope.voteProtocolVersion),
    (str "session_id", .string envelope.sessionId),
    (str "network_id", .string envelope.networkId),
    (str "guardian_id", .string envelope.guardianId),
    (str "membership_snapshot_id", .string envelope.membershipSnapshotId),
    (str "candidate_digest", .string envelope.candidateDigest),
    (str "decision", .string envelope.decision),
    (str "confidence_bps", .int envelope.confidenceBps),
    (str "model_tier", .string envelope.modelTier),
    (str "model_artifact_sha256", .string envelope.modelArtifactSha256),
    (str "nonce", .string envelope.nonce),
    (str "issued_at_ms", .int envelope.issuedAtMs),
    (str "expires_at_ms", .int envelope.expiresAtMs),
    (str "payload_digest", .string envelope.payloadDigest),
    (str "signature", .string envelope.signature)]

/-- `to_wire`. -/
def SignedGuardianBallot.toWire (envelope : SignedGuardianBallot) : Bytes := envelope.asDict.dumps

/-- `expected_fields`. -/
def envelopeFields : List Str :=
  [str "protocol_version", str "vote_protocol_version", str "session_id", str "network_id",
    str "guardian_id", str "membership_snapshot_id", str "candidate_digest", str "decision",
    str "confidence_bps", str "model_tier", str "model_artifact_sha256", str "nonce",
    str "issued_at_ms", str "expires_at_ms", str "payload_digest", str "signature"]

/-- `decoded[key]` where it is a text. -/
def stringField (fields : List (Str × Json)) (key : String) : Option Str :=
  (Json.field fields (str key)).bind Json.asString

/-- `decoded[key]` where it is an integer. -/
def intField (fields : List (Str × Json)) (key : String) : Option Int :=
  (Json.field fields (str key)).bind Json.asInt

/-- `cls(**decoded)`; `none` when a field has another type than the class declares, which
`_is_valid_envelope_shape` refuses. -/
def envelopeOfFields (fields : List (Str × Json)) : Option SignedGuardianBallot := do
  return {
    protocolVersion := ← intField fields "protocol_version"
    voteProtocolVersion := ← intField fields "vote_protocol_version"
    sessionId := ← stringField fields "session_id"
    networkId := ← stringField fields "network_id"
    guardianId := ← stringField fields "guardian_id"
    membershipSnapshotId := ← stringField fields "membership_snapshot_id"
    candidateDigest := ← stringField fields "candidate_digest"
    decision := ← stringField fields "decision"
    confidenceBps := ← intField fields "confidence_bps"
    modelTier := ← stringField fields "model_tier"
    modelArtifactSha256 := ← stringField fields "model_artifact_sha256"
    nonce := ← stringField fields "nonce"
    issuedAtMs := ← intField fields "issued_at_ms"
    expiresAtMs := ← intField fields "expires_at_ms"
    payloadDigest := ← stringField fields "payload_digest"
    signature := ← stringField fields "signature" }

/-- `from_wire`. -/
def fromWire (codec : BallotCodec) (wire : Bytes) :
    Except BallotError (Option SignedGuardianBallot) :=
  if wire = [] ∨ maxBallotWireBytes < wire.length then .error .format
  else
    match codec.loads wire with
    | .error .decodeError => .error .format
    | .error .valueError => .error .value
    | .error .recursionError => .error .recursion
    | .ok (.object fields) =>
      if ¬ (Json.object fields).uniqueKeys then .error .format
      else if (∀ f ∈ fields, f.1 ∈ envelopeFields) ∧
          ∀ key ∈ envelopeFields, key ∈ fields.map Prod.fst then
        if codec.tooDeep (.object fields) then .error .recursion
        else if (Json.object fields).dumps ≠ wire then .error .format
        else .ok (envelopeOfFields fields)
      else .error .format
    | .ok _ => .error .format

/-- `to_vote`. -/
def SignedGuardianBallot.toVote (envelope : SignedGuardianBallot) : GuardianVote where
  guardianId := envelope.guardianId
  membershipSnapshotId := envelope.membershipSnapshotId
  candidateDigest := envelope.candidateDigest
  decision := envelope.decision
  confidenceBps := envelope.confidenceBps
  modelTier := envelope.modelTier
  modelArtifactSha256 := envelope.modelArtifactSha256
  protocolVersion := envelope.voteProtocolVersion

/-- `_is_valid_envelope_shape`. -/
def isValidEnvelopeShape (codec : BallotCodec) (envelope : SignedGuardianBallot) : Bool :=
  (decide (envelope.protocolVersion = signedBallotProtocolVersion) && isHex32 envelope.sessionId &&
    isNetworkId envelope.networkId && isHex32 envelope.guardianId &&
    isHex32 envelope.membershipSnapshotId && isHex32 envelope.candidateDigest &&
    (decide (envelope.decision = str "approve") || decide (envelope.decision = str "reject")) &&
    decide (0 ≤ envelope.confidenceBps) && decide (envelope.confidenceBps ≤ 10000) &&
    decide (envelope.modelTier = str "8b") && isHex32 envelope.modelArtifactSha256 &&
    isHex32 envelope.nonce && isTimestamp envelope.issuedAtMs &&
    isTimestamp envelope.expiresAtMs && isHex32 envelope.payloadDigest &&
    isHex64 envelope.signature) &&
  decide (envelope.payloadDigest = canonicalDigest codec.sha256 ballotDomain envelope.payload)

/-- `_is_fresh_envelope`. -/
def isFreshEnvelope (envelope : SignedGuardianBallot) (session : BallotSession) (nowMs : Int) :
    Bool :=
  decide (session.validFromMs ≤ envelope.issuedAtMs) &&
    decide (envelope.expiresAtMs ≤ session.validUntilMs) &&
    decide (envelope.issuedAtMs ≤ nowMs + maxClockSkewMs) && decide (nowMs < envelope.expiresAtMs) &&
    decide (0 < envelope.expiresAtMs - envelope.issuedAtMs) &&
    decide (envelope.expiresAtMs - envelope.issuedAtMs ≤ maxBallotLifetimeMs)

/-- `_verify_signature`. -/
def verifySignature (codec : BallotCodec) (signer : BallotSigner)
    (envelope : SignedGuardianBallot) : Bool :=
  let key := fromHex signer.xonlyPublicKey
  codec.isPublicKey key &&
    codec.verify key (fromHex envelope.signature) (fromHex envelope.payloadDigest)

/-- The context comparison of `verify`. -/
def isContextBound (envelope : SignedGuardianBallot) (candidate : EnsembleCandidate)
    (snapshot : MembershipSnapshot) (session : BallotSession) : Bool :=
  decide (envelope.sessionId = session.sessionId) &&
    decide (envelope.networkId = session.networkId) &&
    decide (envelope.membershipSnapshotId = snapshot.snapshotId) &&
    decide (envelope.candidateDigest = candidate.candidateDigest)

/-- `signer is not None and _verify_signature(signer, envelope)`. -/
def isSigned (codec : BallotCodec) (session : BallotSession) (envelope : SignedGuardianBallot) :
    Bool :=
  match session.signers.find? fun signer => signer.guardianId = envelope.guardianId with
  | none => false
  | some signer => verifySignature codec signer envelope

/-- `BallotVerifier.verify`; every refusal is a `BallotVerificationError`. -/
def verify (codec : BallotCodec) (envelope : SignedGuardianBallot) (candidate : EnsembleCandidate)
    (snapshot : MembershipSnapshot) (session : BallotSession) (nowMs : Int) :
    Except BallotError GuardianVote :=
  if isTimestamp nowMs ∧ isValidSession codec session candidate snapshot ∧
      isValidEnvelopeShape codec envelope ∧ isContextBound envelope candidate snapshot session ∧
      isFreshEnvelope envelope session nowMs ∧
      isValidGuardianVote codec.sha256 envelope.toVote candidate snapshot ∧
      isSigned codec session envelope then
    .ok envelope.toVote
  else .error .verification

/-- `from_wire` and `verify` of one frame. -/
def verifyWire (codec : BallotCodec) (wire : Bytes) (candidate : EnsembleCandidate)
    (snapshot : MembershipSnapshot) (session : BallotSession) (nowMs : Int) :
    Except BallotError (SignedGuardianBallot × GuardianVote) :=
  match fromWire codec wire with
  | .error e => .error e
  | .ok none => .error .verification
  | .ok (some envelope) =>
    (verify codec envelope candidate snapshot session nowMs).map fun vote => (envelope, vote)

/-- What a successful verification has established. -/
structure Verified (codec : BallotCodec) (envelope : SignedGuardianBallot)
    (candidate : EnsembleCandidate) (snapshot : MembershipSnapshot) (session : BallotSession)
    (nowMs : Int) : Prop where
  time : isTimestamp nowMs = true
  valid : isValidSession codec session candidate snapshot = true
  shape : isValidEnvelopeShape codec envelope = true
  bound : isContextBound envelope candidate snapshot session = true
  fresh : isFreshEnvelope envelope session nowMs = true
  vote : isValidGuardianVote codec.sha256 envelope.toVote candidate snapshot = true
  signed : isSigned codec session envelope = true

section

variable {codec : BallotCodec} {envelope : SignedGuardianBallot} {candidate : EnsembleCandidate}
  {snapshot : MembershipSnapshot} {session : BallotSession} {nowMs : Int}

theorem verify_ok {vote : GuardianVote}
    (h : verify codec envelope candidate snapshot session nowMs = .ok vote) :
    Verified codec envelope candidate snapshot session nowMs ∧ vote = envelope.toVote := by
  unfold verify at h
  split at h
  · rename_i checks
    obtain ⟨time, valid, shape, bound, fresh, binding, signed⟩ := checks
    exact ⟨⟨time, valid, shape, bound, fresh, binding, signed⟩, (Except.ok.inj h).symm⟩
  · cases h

theorem verifyWire_ok {wire : Bytes} {result : SignedGuardianBallot × GuardianVote}
    (h : verifyWire codec wire candidate snapshot session nowMs = .ok result) :
    fromWire codec wire = .ok (some result.1) ∧
      Verified codec result.1 candidate snapshot session nowMs ∧ result.2 = result.1.toVote := by
  unfold verifyWire at h
  split at h
  · cases h
  · cases h
  · rename_i parsed
    cases verified : verify codec _ candidate snapshot session nowMs with
    | error e => rw [verified] at h; cases h
    | ok vote =>
      rw [verified] at h
      obtain rfl := Except.ok.inj h
      exact ⟨parsed, verify_ok verified⟩

/-- A fresh envelope expires after the time it was verified at and inside its session. -/
theorem Verified.window (verified : Verified codec envelope candidate snapshot session nowMs) :
    nowMs < envelope.expiresAtMs ∧ envelope.expiresAtMs ≤ session.validUntilMs := by
  have fresh := verified.fresh
  simp only [isFreshEnvelope, Bool.and_eq_true, decide_eq_true_eq] at fresh
  omega

theorem Verified.sessionId (verified : Verified codec envelope candidate snapshot session nowMs) :
    envelope.sessionId = session.sessionId := by
  have bound := verified.bound
  simp only [isContextBound, Bool.and_eq_true, decide_eq_true_eq] at bound
  exact bound.1.1.1

theorem Verified.sessionShape
    (verified : Verified codec envelope candidate snapshot session nowMs) :
    isValidSessionShape codec session = true := by
  have valid := verified.valid
  simp only [isValidSession, Bool.and_eq_true] at valid
  exact valid.1.1.1.1.1

end

/-! ## A session id determines the end of its session -/

section

variable {codec : BallotCodec} {session session' : BallotSession}

theorem sessionId_eq_digest (shape : isValidSessionShape codec session = true) :
    session.sessionId = hex (codec.sha256 session.commitment) := by
  simp only [isValidSessionShape, Bool.and_eq_true, decide_eq_true_eq] at shape
  exact shape.2

theorem validUntilMs_nonneg (shape : isValidSessionShape codec session = true) :
    0 ≤ session.validUntilMs := by
  simp only [isValidSessionShape, isSessionWindow, isTimestamp, Bool.and_eq_true,
    decide_eq_true_eq] at shape
  exact shape.1.2.1.1.2.1

/-- The commitment ends with the session's end, in decimal. -/
theorem commitment_eq (session : BallotSession) :
    ∃ start, session.commitment =
      start ++ 58 :: (encodeAscii (decimalInt session.validUntilMs) ++ [125]) := by
  have sorted : sortFields (Json.text.fieldTexts session.payloadFields) =
      Json.text.fieldTexts session.payloadFields := rfl
  obtain ⟨start, isText⟩ := Json.text_object_last sorted rfl
  refine ⟨sessionDomain ++ [0] ++ encodeAscii start, ?_⟩
  rw [BallotSession.commitment, Json.dumps, BallotSession.payload, isText]
  simp [encodeAscii, Json.text]

/-- Sessions with the same commitment end at the same time. -/
theorem validUntilMs_eq_of_commitment (shape : isValidSessionShape codec session = true)
    (shape' : isValidSessionShape codec session' = true)
    (same : session.commitment = session'.commitment) :
    session.validUntilMs = session'.validUntilMs := by
  obtain ⟨start, isStart⟩ := commitment_eq session
  obtain ⟨start', isStart'⟩ := commitment_eq session'
  obtain ⟨n, isN⟩ := Int.eq_ofNat_of_zero_le (validUntilMs_nonneg shape)
  obtain ⟨n', isN'⟩ := Int.eq_ofNat_of_zero_le (validUntilMs_nonneg shape')
  rw [isN, isN']
  rw [isN] at isStart
  rw [isN'] at isStart'
  have noColon (k : Nat) : (58 : UInt8) ∉ encodeAscii (decimal k) ++ [125] := by
    simp [colon_not_mem_decimal]
  have tail := eq_after_last (noColon n) (noColon n')
    (isStart.symm.trans (same.trans isStart'))
  exact congrArg Int.ofNat (encodeAscii_decimal_inj (List.append_cancel_right tail))

end

end Prometheus.Jaeger.SignedBallots
