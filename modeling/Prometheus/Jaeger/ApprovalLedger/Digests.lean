import Prometheus.Codec.Preimage
import Prometheus.Jaeger.ApprovalLedger.Conservation

/-!
# What the ledger's digests determine

`_analysis_input_identity` and `_analysis_result_record_digest` hash their arguments one after the
other behind a domain. Each argument that can vary in length stands behind its length, so the
hashed bytes determine all of them.
-/

namespace Prometheus.Jaeger.ApprovalLedger

open Prometheus.Codec

/-! ## Analysis inputs -/

/-- The arguments of `_analysis_input_identity`, those of a leased record. -/
structure AnalysisInput where
  networkId : Str
  row : OutboxRow
  leaseToken : Bytes
  leaseExpiresAt : Int

def AnalysisInput.preimage (input : AnalysisInput) : Bytes :=
  analysisInputPreimage input.networkId input.row input.leaseToken input.leaseExpiresAt

def AnalysisInput.identity (codec : WireCodec) (input : AnalysisInput) : Except TxError Bytes :=
  analysisInputIdentity codec input.networkId input.row input.leaseToken input.leaseExpiresAt

/-- The two calls hash the same arguments; the rest of the record is not an argument. -/
structure SameInput (input other : AnalysisInput) : Prop where
  networkId : input.networkId = other.networkId
  statementWire : input.row.statementWire = other.row.statementWire
  bundleWire : input.row.bundleWire = other.row.bundleWire
  approvalId : input.row.approvalId = other.row.approvalId
  observableCommitment : input.row.observableCommitment = other.row.observableCommitment
  leaseToken : input.leaseToken = other.leaseToken
  leaseExpiresAt : input.leaseExpiresAt = other.leaseExpiresAt
  retentionDeadline : input.row.retentionDeadline = other.row.retentionDeadline

/-- The checks of `_analysis_input_identity`. -/
structure AnalysisInput.Admitted (input : AnalysisInput) : Prop where
  networkId : validateNetworkId input.networkId = true
  approvalId : input.row.approvalId.length = fixedHashBytes
  observableCommitment : input.row.observableCommitment.length = fixedHashBytes
  leaseToken : input.leaseToken.length = fixedHashBytes
  statementWire : 1 ≤ input.row.statementWire.length ∧
    input.row.statementWire.length ≤ maxCanonicalV2StatementBytes
  bundleWire : 1 ≤ input.row.bundleWire.length ∧ input.row.bundleWire.length ≤ maxCanonicalBytes
  leaseExpiresAt : isTimestamp input.leaseExpiresAt = true
  retentionDeadline : isTimestamp input.row.retentionDeadline = true
  retained : input.leaseExpiresAt ≤ input.row.retentionDeadline

variable {codec : WireCodec} {input other : AnalysisInput} {identity : Bytes}

theorem AnalysisInput.identity_iff :
    input.identity codec = .ok identity ↔
      input.Admitted ∧ codec.sha256 input.preimage = identity := by
  have admitted : input.Admitted ↔
      validateNetworkId input.networkId ∧ isFixedBytes input.row.approvalId ∧
        isFixedBytes input.row.observableCommitment ∧ isFixedBytes input.leaseToken ∧
        1 ≤ input.row.statementWire.length ∧
        input.row.statementWire.length ≤ maxCanonicalV2StatementBytes ∧
        1 ≤ input.row.bundleWire.length ∧ input.row.bundleWire.length ≤ maxCanonicalBytes ∧
        isTimestamp input.leaseExpiresAt ∧ isTimestamp input.row.retentionDeadline ∧
        input.leaseExpiresAt ≤ input.row.retentionDeadline := by
    simp only [isFixedBytes, beq_iff_eq]
    constructor
    · rintro ⟨network, approval, commitment, token, ⟨statement, statement'⟩, ⟨bundle, bundle'⟩,
        expires, deadline, retained⟩
      exact ⟨network, approval, commitment, token, statement, statement', bundle, bundle', expires,
        deadline, retained⟩
    · rintro ⟨network, approval, commitment, token, statement, statement', bundle, bundle', expires,
        deadline, retained⟩
      exact ⟨network, approval, commitment, token, ⟨statement, statement'⟩, ⟨bundle, bundle'⟩,
        expires, deadline, retained⟩
  rw [admitted, AnalysisInput.identity, analysisInputIdentity]
  split
  · rename_i isAdmitted
    simp only [isAdmitted, true_and, Except.ok.injEq]
    rfl
  · rename_i refused
    simp only [refused, false_and, reduceCtorEq]

theorem validateNetworkId_small {networkId : Str} (h : validateNetworkId networkId = true) :
    networkId.length ≤ 64 ∧ ∀ c ∈ networkId, c < 256 := by
  simp only [validateNetworkId, Bool.and_eq_true, decide_eq_true_eq, List.all_eq_true] at h
  obtain ⟨⟨⟨⟨-, length⟩, -⟩, -⟩, characters⟩ := h
  refine ⟨length, fun c hc => ?_⟩
  have := characters c hc
  simp only [Bool.or_eq_true, Bool.and_eq_true, decide_eq_true_eq, beq_iff_eq] at this
  omega

/-- A timestamp in eight bytes, read off the front. -/
theorem timestamp_append_inj {t t' : Int} {x y : Bytes} (ht : isTimestamp t = true)
    (ht' : isTimestamp t' = true) (h : toBytesBig 8 t.toNat ++ x = toBytesBig 8 t'.toNat ++ y) :
    t = t' ∧ x = y := by
  obtain ⟨positive, bounded⟩ := isTimestamp_iff.mp ht
  obtain ⟨positive', bounded'⟩ := isTimestamp_iff.mp ht'
  obtain ⟨numbers, rest⟩ := toBytesBig_append_inj (by omega) (by omega) h
  exact ⟨by omega, rest⟩

theorem AnalysisInput.preimage_inj (admitted : input.Admitted) (admitted' : other.Admitted)
    (h : input.preimage = other.preimage) : SameInput input other := by
  obtain ⟨short, small⟩ := validateNetworkId_small admitted.networkId
  obtain ⟨short', small'⟩ := validateNetworkId_small admitted'.networkId
  have statement := admitted.statementWire.2
  have statement' := admitted'.statementWire.2
  have bundle := admitted.bundleWire.2
  have bundle' := admitted'.bundleWire.2
  rw [maxCanonicalV2StatementBytes] at statement statement'
  rw [maxCanonicalBytes] at bundle bundle'
  simp only [AnalysisInput.preimage, analysisInputPreimage, List.append_assoc,
    List.append_cancel_left_eq] at h
  -- the network's length is that of its encoding
  have width (s : Str) : s.length = (encodeAscii s).length := (List.length_map ..).symm
  rw [width input.networkId, width other.networkId] at h
  obtain ⟨network, h⟩ := sized_append_inj (by rw [← width]; omega) (by rw [← width]; omega) h
  obtain ⟨statementWire, h⟩ := sized_append_inj (by omega) (by omega) h
  obtain ⟨bundleWire, h⟩ := sized_append_inj (by omega) (by omega) h
  obtain ⟨approvalId, h⟩ :=
    List.append_inj h (admitted.approvalId.trans admitted'.approvalId.symm)
  obtain ⟨commitment, h⟩ :=
    List.append_inj h (admitted.observableCommitment.trans admitted'.observableCommitment.symm)
  obtain ⟨token, h⟩ := List.append_inj h (admitted.leaseToken.trans admitted'.leaseToken.symm)
  obtain ⟨expires, h⟩ :=
    timestamp_append_inj admitted.leaseExpiresAt admitted'.leaseExpiresAt h
  rw [← List.append_nil (toBytesBig 8 _), ← List.append_nil (toBytesBig 8 _)] at h
  obtain ⟨deadline, -⟩ :=
    timestamp_append_inj admitted.retentionDeadline admitted'.retentionDeadline h
  exact ⟨encodeAscii_inj small small' network, statementWire, bundleWire, approvalId, commitment,
    token, expires, deadline⟩

/-! ## Result records -/

/-- The arguments of `_analysis_result_record_digest`. -/
structure AnalysisResultRecord where
  resultWire : Bytes
  completedAt : Int
  retentionDeadline : Int
  deriving DecidableEq, Repr

def AnalysisResultRecord.preimage (record : AnalysisResultRecord) : Bytes :=
  resultRecordPreimage record.resultWire record.completedAt record.retentionDeadline

def AnalysisResultRecord.digest (codec : WireCodec) (record : AnalysisResultRecord) :
    Except TxError Bytes :=
  analysisResultRecordDigest codec record.resultWire record.completedAt record.retentionDeadline

/-- The checks of `_analysis_result_record_digest`. -/
structure AnalysisResultRecord.Admitted (record : AnalysisResultRecord) : Prop where
  nonempty : 1 ≤ record.resultWire.length
  resultWire : record.resultWire.length ≤ maxCanonicalAnalysisResultBytes
  completedAt : isTimestamp record.completedAt = true
  retentionDeadline : isTimestamp record.retentionDeadline = true
  retained : record.completedAt ≤ record.retentionDeadline

variable {record record' : AnalysisResultRecord} {digest : Bytes}

theorem AnalysisResultRecord.digest_iff :
    record.digest codec = .ok digest ↔
      record.Admitted ∧ codec.sha256 record.preimage = digest := by
  have admitted : record.Admitted ↔ 1 ≤ record.resultWire.length ∧
      record.resultWire.length ≤ maxCanonicalAnalysisResultBytes ∧
      isTimestamp record.completedAt ∧ isTimestamp record.retentionDeadline ∧
      record.completedAt ≤ record.retentionDeadline :=
    ⟨fun ⟨nonempty, short, completed, deadline, retained⟩ =>
      ⟨nonempty, short, completed, deadline, retained⟩,
      fun ⟨nonempty, short, completed, deadline, retained⟩ =>
      ⟨nonempty, short, completed, deadline, retained⟩⟩
  rw [admitted, AnalysisResultRecord.digest, analysisResultRecordDigest]
  split
  · rename_i isAdmitted
    simp only [isAdmitted, true_and, Except.ok.injEq]
    rfl
  · rename_i refused
    simp only [refused, false_and, reduceCtorEq]

theorem AnalysisResultRecord.preimage_inj (admitted : record.Admitted)
    (admitted' : record'.Admitted) (h : record.preimage = record'.preimage) : record = record' := by
  have short := admitted.resultWire
  have short' := admitted'.resultWire
  rw [maxCanonicalAnalysisResultBytes] at short short'
  simp only [AnalysisResultRecord.preimage, resultRecordPreimage, List.append_assoc,
    List.append_cancel_left_eq] at h
  obtain ⟨resultWire, h⟩ := sized_append_inj (by omega) (by omega) h
  obtain ⟨completedAt, h⟩ := timestamp_append_inj admitted.completedAt admitted'.completedAt h
  rw [← List.append_nil (toBytesBig 8 _), ← List.append_nil (toBytesBig 8 _)] at h
  obtain ⟨retentionDeadline, -⟩ :=
    timestamp_append_inj admitted.retentionDeadline admitted'.retentionDeadline h
  cases record
  cases record'
  simp_all

/-! ## Both -/

/-- Whenever the two functions return for two argument tuples, equal hashed bytes mean equal
    arguments, and so do equal digests unless the hash collides on these bytes. -/
theorem ledger_digests_injective (codec : WireCodec) :
    (∀ (input other : AnalysisInput) (identity identity' : Bytes),
      input.identity codec = .ok identity → other.identity codec = .ok identity' →
        (input.preimage = other.preimage → SameInput input other) ∧
        (identity = identity' → SameInput input other ∨
          input.preimage ≠ other.preimage ∧
            codec.sha256 input.preimage = codec.sha256 other.preimage)) ∧
      ∀ (record record' : AnalysisResultRecord) (digest digest' : Bytes),
        record.digest codec = .ok digest → record'.digest codec = .ok digest' →
          (record.preimage = record'.preimage → record = record') ∧
          (digest = digest' → record = record' ∨
            record.preimage ≠ record'.preimage ∧
              codec.sha256 record.preimage = codec.sha256 record'.preimage) := by
  constructor
  · intro input other identity identity' h h'
    obtain ⟨admitted, rfl⟩ := AnalysisInput.identity_iff.mp h
    obtain ⟨admitted', rfl⟩ := AnalysisInput.identity_iff.mp h'
    refine ⟨AnalysisInput.preimage_inj admitted admitted', fun collide => ?_⟩
    by_cases same : input.preimage = other.preimage
    · exact .inl (AnalysisInput.preimage_inj admitted admitted' same)
    · exact .inr ⟨same, collide⟩
  · intro record record' digest digest' h h'
    obtain ⟨admitted, rfl⟩ := AnalysisResultRecord.digest_iff.mp h
    obtain ⟨admitted', rfl⟩ := AnalysisResultRecord.digest_iff.mp h'
    refine ⟨AnalysisResultRecord.preimage_inj admitted admitted', fun collide => ?_⟩
    by_cases same : record.preimage = record'.preimage
    · exact .inl (AnalysisResultRecord.preimage_inj admitted admitted' same)
    · exact .inr ⟨same, collide⟩

/-- The sample record as the lease of token 3 would have it, enqueued at some time. -/
def sampleInput (enqueuedAt : Int) : AnalysisInput :=
  ⟨str "kaspa", { sampleRow 1 100 with enqueuedAt }, List.replicate 32 3, 110⟩

/-- Leases of one record that differ in when it was enqueued, and results whose wires end
    differently. -/
theorem ledger_digests_injective_sample :
    SameInput (sampleInput 98) (sampleInput 99) ∧
      AnalysisResultRecord.preimage ⟨[1], 110, 150⟩ ≠
        AnalysisResultRecord.preimage ⟨[1, 0], 110, 150⟩ := by
  have statement : 1 ≤ (sampleRow 1 100).statementWire.length ∧
      (sampleRow 1 100).statementWire.length ≤ maxCanonicalV2StatementBytes := by decide
  have bundle : 1 ≤ (sampleRow 1 100).bundleWire.length ∧
      (sampleRow 1 100).bundleWire.length ≤ maxCanonicalBytes := by decide
  have retained : (110 : Int) ≤ (sampleRow 1 100).retentionDeadline := by decide
  have isInput (enqueuedAt : Int) := (@AnalysisInput.identity_iff sampleCodec
      (sampleInput enqueuedAt) _).mpr
    ⟨⟨rfl, rfl, rfl, rfl, statement, bundle, rfl, rfl, retained⟩, rfl⟩
  have inOrder : (110 : Int) ≤ 150 := by decide
  have isRecord (resultWire : Bytes) (nonempty : 1 ≤ resultWire.length)
      (short : resultWire.length ≤ 2) :=
    (@AnalysisResultRecord.digest_iff sampleCodec ⟨resultWire, 110, 150⟩ _).mpr
      ⟨⟨nonempty, short.trans (by decide), rfl, rfl, inOrder⟩, rfl⟩
  constructor
  · exact ((ledger_digests_injective sampleCodec).1 _ _ _ _ (isInput 98) (isInput 99)).1
      (by simp only [AnalysisInput.preimage, analysisInputPreimage, sampleInput])
  · intro same
    have equal := ((ledger_digests_injective sampleCodec).2 _ _ _ _
      (isRecord [1] (by decide) (by decide)) (isRecord [1, 0] (by decide) (by decide))).1 same
    cases equal

end Prometheus.Jaeger.ApprovalLedger
