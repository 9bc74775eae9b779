import Prometheus.Codec.Preimage
import Prometheus.ThreatHint.RelationManifest
import Prometheus.ThreatHint.V1Envelope

/-!
# The public inputs of a proof

`statement_digest` and `statement_public_inputs` of `threat-proof/src/lib.rs`, and the binding of a
second-version envelope to its relation manifest (`threat_hint_v2_proof_binding.rs`), whose halves
`threat_hint_v2_groth16_verifier.rs` turns into field elements in the same way.
-/

namespace Prometheus.ThreatHint

open Prometheus.Codec

namespace Rust

/-! ## Field elements -/

/-- The order of the scalar field of BN254, `Fr`. -/
def frModulus : Nat :=
  21888242871839275222246405745257275088548364400416034343698204186575808495617

instance : NeZero frModulus := ⟨by decide⟩

abbrev Fr := Fin frModulus

/-- `Fr::from_be_bytes_mod_order`. -/
def Fr.fromBeBytesModOrder (bytes : Bytes) : Fr := Fin.ofNat frModulus (fromBytesBig bytes)

/-- The elements of the first 16 bytes of a digest and of the rest. -/
def digestPublicInputs (digest : Bytes) : Fr × Fr :=
  (Fr.fromBeBytesModOrder (digest.take 16), Fr.fromBeBytesModOrder (digest.drop 16))

/-! ## First version -/

inductive ThreatProofError
  | invalidConfiguration
  deriving DecidableEq, Repr

/-- `STATEMENT_PREFIX`. -/
def statementPrefix : Bytes := ascii "prometheus-threat-hint-statement-v1" ++ [0]

def indicatorTag : ThreatIndicatorType → UInt8
  | .fileHash => 1
  | .behavior => 2
  | .network => 3
  | .apiCall => 4

/-- `valid_network_id`. -/
def validNetworkId (value : Bytes) : Bool := isValidNetworkId value

/-- The bytes `statement_digest` hashes; `hex::decode` takes every validated text. -/
def statementPreimage (envelope : ThreatHintEnvelope) (networkId : Bytes) : Bytes :=
  statementPrefix ++ UInt8.ofNat networkId.length :: (networkId ++
    (toBytesBig 2 envelope.schemaVersion.toNat ++
      (fromHex (envelope.threatHash.map UInt8.toNat) ++
        (toBytesBig 2 envelope.confidenceBps.toNat ++ indicatorTag envelope.indicatorType ::
          (fromHex (envelope.reportNonce.map UInt8.toNat) ++
            toBytesBig 8 envelope.observedAt.toNat)))))

def statementDigest (sha256 : Bytes → Bytes) (envelope : ThreatHintEnvelope) (networkId : Bytes) :
    Except ThreatProofError Bytes :=
  if ¬ validNetworkId networkId then .error .invalidConfiguration
  else .ok (sha256 (statementPreimage envelope networkId))

def statementPublicInputs (sha256 : Bytes → Bytes) (envelope : ThreatHintEnvelope)
    (networkId : Bytes) : Except ThreatProofError (Fr × Fr) := do
  let digest ← statementDigest sha256 envelope networkId
  .ok (digestPublicInputs digest)

/-! ## Second version -/

structure ThreatHintV2ProofBinding where
  envelope : ThreatHintV2ProofEnvelope
  manifest : RelationManifestV2
  rawManifestSha256Hex : Bytes
  statementDigestHex : Bytes
  publicInputFirstHalf : Bytes
  publicInputSecondHalf : Bytes
  deriving DecidableEq, Repr

/-- What `serde_json` reads of each wire, before any check. -/
structure BindingReaders where
  manifest : Bytes → Option RelationManifestV2
  envelope : Bytes → Option ThreatHintV2ProofEnvelopeWire
  statement : Bytes → Option ThreatHintV2Statement

/-- `hex::encode` of a digest. -/
def hexEncode (digest : Bytes) : Bytes := encodeAscii (hex digest)

def ThreatHintV2ProofBinding.bindCanonical (sha256 : Bytes → Bytes) (readers : BindingReaders)
    (envelopeWire manifestWire trustedNetworkId trustedManifestSha256Hex : Bytes) :
    Option ThreatHintV2ProofBinding := do
  if ¬ isValidNetworkId trustedNetworkId ∨
      ¬ RelationManifestV2.isLowerHexAnchor trustedManifestSha256Hex then none
  else if hexEncode (sha256 manifestWire) ≠ trustedManifestSha256Hex then none
  else
    let manifest ← RelationManifestV2.parseCanonical readers.manifest manifestWire trustedNetworkId
    let envelope ← ThreatHintV2ProofEnvelope.parseCanonical sha256 readers.envelope
      readers.statement envelopeWire trustedNetworkId
    if envelope.protocolId ≠ manifest.protocolId ∨ envelope.relationId ≠ manifest.relationId ∨
        manifest.networkId ≠ trustedNetworkId ∨
        envelope.parsedStatement.networkId ≠ trustedNetworkId then none
    else
      -- `hex::decode` takes the domain of every manifest that was parsed
      let domain := fromHex (manifest.statementDigestDomainHex.map UInt8.toNat)
      let canonicalStatement ← envelope.parsedStatement.toCanonicalBytes
      if 2 ^ 32 ≤ canonicalStatement.length then none
      else
        let statementDigest := sha256 (digestFrame domain canonicalStatement)
        if hexEncode statementDigest ≠ envelope.statementDigest then none
        else if manifest.publicInputEncoding ≠ RelationManifestV2.boundPublicInputEncoding ∨
            manifest.publicInputCount ≠ RelationManifestV2.boundPublicInputCount then none
        else
          some {
            envelope
            manifest
            rawManifestSha256Hex := hexEncode (sha256 manifestWire)
            statementDigestHex := hexEncode statementDigest
            publicInputFirstHalf := statementDigest.take 16
            publicInputSecondHalf := statementDigest.drop 16 }

/-- The two inputs `verify_wire` prepares for a binding. -/
def ThreatHintV2ProofBinding.publicInputs (binding : ThreatHintV2ProofBinding) : Fr × Fr :=
  (Fr.fromBeBytesModOrder binding.publicInputFirstHalf,
    Fr.fromBeBytesModOrder binding.publicInputSecondHalf)

/-! ## The halves of a digest -/

theorem fr_val {bytes : Bytes} (short : bytes.length ≤ 16) :
    (Fr.fromBeBytesModOrder bytes).val = fromBytesBig bytes ∧ fromBytesBig bytes < 2 ^ 128 := by
  have small : fromBytesBig bytes < 2 ^ 128 :=
    (fromBytesBig_lt bytes).trans_le (Nat.pow_le_pow_right (by decide) short)
  have modulus : 2 ^ 128 < frModulus := by decide
  exact ⟨Nat.mod_eq_of_lt (small.trans modulus), small⟩

theorem fr_inj {a b : Bytes} (short : a.length ≤ 16) (lengths : a.length = b.length)
    (h : Fr.fromBeBytesModOrder a = Fr.fromBeBytesModOrder b) : a = b := by
  have values := congrArg Fin.val h
  rw [(fr_val short).1, (fr_val (lengths ▸ short)).1] at values
  exact fromBytesBig_inj lengths values

theorem digestPublicInputs_inj {digest digest' : Bytes} (size : digest.length = 32)
    (size' : digest'.length = 32) (h : digestPublicInputs digest = digestPublicInputs digest') :
    digest = digest' := by
  obtain ⟨first, second⟩ := Prod.mk.inj h
  have firstHalf := fr_inj (by simp [size]) (by simp [size, size']) first
  have secondHalf := fr_inj (by simp [size]) (by simp [size, size']) second
  rw [← List.take_append_drop 16 digest, firstHalf, secondHalf, List.take_append_drop]

/-! ## Statements of the first version -/

/-- What the constructor and the parser have checked of the texts that are decoded. -/
structure Decodes (envelope : ThreatHintEnvelope) : Prop where
  threatHash : validateHex64 envelope.threatHash = true
  reportNonce : validateHex64 envelope.reportNonce = true

theorem ThreatHintEnvelope.HasFields.decodes {envelope : ThreatHintEnvelope}
    (h : envelope.HasFields) : Decodes envelope :=
  ⟨h.threatHash, h.reportNonce⟩

/-- The two envelopes state the same for these networks. -/
structure SameStatement (envelope : ThreatHintEnvelope) (networkId : Bytes)
    (envelope' : ThreatHintEnvelope) (networkId' : Bytes) : Prop where
  networkId : networkId = networkId'
  schemaVersion : envelope.schemaVersion = envelope'.schemaVersion
  threatHash : envelope.threatHash = envelope'.threatHash
  confidenceBps : envelope.confidenceBps = envelope'.confidenceBps
  indicatorType : envelope.indicatorType = envelope'.indicatorType
  reportNonce : envelope.reportNonce = envelope'.reportNonce
  observedAt : envelope.observedAt = envelope'.observedAt

variable {envelope envelope' : ThreatHintEnvelope} {networkId networkId' : Bytes}

theorem indicatorTag_inj {indicator indicator' : ThreatIndicatorType}
    (h : indicatorTag indicator = indicatorTag indicator') : indicator = indicator' := by
  cases indicator <;> cases indicator' <;> first | rfl | cases h

theorem isHash_of_validateHex64 {value : Bytes} (h : validateHex64 value = true) :
    isHash (value.map UInt8.toNat) = true :=
  (isFixedLowerHex_eq value).symm.trans h

/-- 32 decoded bytes, read off the front. -/
theorem decoded_append_inj {value value' x y : Bytes} (h : validateHex64 value = true)
    (h' : validateHex64 value' = true)
    (same : fromHex (value.map UInt8.toNat) ++ x = fromHex (value'.map UInt8.toNat) ++ y) :
    value = value' ∧ x = y := by
  have isHash := isHash_of_validateHex64 h
  have isHash' := isHash_of_validateHex64 h'
  have lengths : (fromHex (value.map UInt8.toNat)).length =
      (fromHex (value'.map UInt8.toNat)).length := by
    rw [length_fromHex, length_fromHex, (isHash_iff.mp isHash).1, (isHash_iff.mp isHash').1]
  obtain ⟨decoded, rest⟩ := List.append_inj same lengths
  have texts := fromHex_inj isHash isHash' decoded
  exact ⟨List.map_injective_iff.mpr (fun _ _ => UInt8.toNat_inj.mp) texts, rest⟩

theorem length_of_validNetworkId (h : validNetworkId networkId = true) : networkId.length ≤ 64 := by
  have := (isValidNetworkId_iff.mp h).length.2
  rwa [List.length_map] at this

theorem statementPreimage_inj (valid : validNetworkId networkId = true)
    (valid' : validNetworkId networkId' = true) (decodes : Decodes envelope)
    (decodes' : Decodes envelope')
    (h : statementPreimage envelope networkId = statementPreimage envelope' networkId') :
    SameStatement envelope networkId envelope' networkId' := by
  have short := length_of_validNetworkId valid
  have short' := length_of_validNetworkId valid'
  simp only [statementPreimage, List.append_cancel_left_eq] at h
  obtain ⟨network, h⟩ := sizedByte_append_inj (by omega) (by omega) h
  obtain ⟨schema, h⟩ := toBytesBig_append_inj envelope.schemaVersion.toNat_lt
    envelope'.schemaVersion.toNat_lt h
  obtain ⟨threatHash, h⟩ := decoded_append_inj decodes.threatHash decodes'.threatHash h
  obtain ⟨confidence, h⟩ := toBytesBig_append_inj envelope.confidenceBps.toNat_lt
    envelope'.confidenceBps.toNat_lt h
  obtain ⟨indicator, h⟩ := List.cons.inj h
  obtain ⟨reportNonce, h⟩ := decoded_append_inj decodes.reportNonce decodes'.reportNonce h
  have observed := toBytesBig_inj envelope.observedAt.toNat_lt envelope'.observedAt.toNat_lt h
  exact ⟨network, UInt16.toNat_inj.mp schema, threatHash, UInt16.toNat_inj.mp confidence,
    indicatorTag_inj indicator, reportNonce, UInt64.toNat_inj.mp observed⟩

theorem statementPublicInputs_ok {sha256 : Bytes → Bytes} {inputs : Fr × Fr} :
    statementPublicInputs sha256 envelope networkId = .ok inputs ↔
      validNetworkId networkId = true ∧
        digestPublicInputs (sha256 (statementPreimage envelope networkId)) = inputs := by
  rw [statementPublicInputs, statementDigest]
  cases validNetworkId networkId with
  | false => simp [bind, Except.bind]
  | true => simp [bind, Except.bind]

/-! ## Statements of the second version -/

/-- The bytes hashed for a statement of the second version. -/
def v2StatementPreimage (statement : ThreatHintV2Statement) : Bytes :=
  digestFrame ThreatHintV2Statement.statementDigestDomain statement.toVec

section

variable {sha256 : Bytes → Bytes} {readers : BindingReaders}
  {envelopeWire manifestWire trusted anchor : Bytes} {binding : ThreatHintV2ProofBinding}

/-- A manifest that is accepted names the domain that the statements use themselves. -/
theorem domain_of_parsed {read : Bytes → Option RelationManifestV2} {manifest : RelationManifestV2}
    (h : RelationManifestV2.parseCanonical read manifestWire trusted = some manifest) :
    fromHex (manifest.statementDigestDomainHex.map UInt8.toNat) =
      ThreatHintV2Statement.statementDigestDomain := by
  simp only [RelationManifestV2.parseCanonical, Option.ite_none_left_eq_some, Option.bind_eq_bind,
    Option.bind_eq_some_iff, not_not, Option.some.injEq] at h
  obtain ⟨-, -, parsed, -, valid, -, -, rfl⟩ := h
  have bound : parsed.statementDigestDomainHex =
      RelationManifestV2.boundStatementDigestDomainHex := by
    unfold RelationManifestV2.validate at valid
    by_contra other
    rw [if_pos (by simp [other])] at valid
    cases valid
  rw [bound]
  decide

/-- The halves of a binding are those of its statement's digest. -/
theorem bindCanonical_some
    (h : ThreatHintV2ProofBinding.bindCanonical sha256 readers envelopeWire manifestWire trusted
      anchor = some binding) :
    binding.envelope.parsedStatement.validate = true ∧
      binding.publicInputs =
        digestPublicInputs (sha256 (v2StatementPreimage binding.envelope.parsedStatement)) ∧
      binding.statementDigestHex =
        hexEncode (sha256 (v2StatementPreimage binding.envelope.parsedStatement)) := by
  simp only [ThreatHintV2ProofBinding.bindCanonical, Option.ite_none_left_eq_some,
    Option.bind_eq_bind, Option.bind_eq_some_iff, Option.some.injEq] at h
  obtain ⟨-, -, manifest, isManifest, envelope, -, -, canonical, isCanonical, -, -, -, rfl⟩ := h
  rw [domain_of_parsed isManifest]
  rw [ThreatHintV2Statement.toCanonicalBytes] at isCanonical
  obtain ⟨valid, isCanonical⟩ := Option.ite_none_left_eq_some.mp isCanonical
  obtain ⟨-, isVec⟩ := Option.ite_none_left_eq_some.mp isCanonical
  obtain rfl := Option.some.inj isVec
  exact ⟨not_not.mp valid, rfl, rfl⟩

end

theorem v2StatementPreimage_inj {statement statement' : ThreatHintV2Statement}
    (valid : statement.validate = true) (valid' : statement'.validate = true)
    (h : v2StatementPreimage statement = v2StatementPreimage statement') :
    statement = statement' := by
  simp only [v2StatementPreimage, digestFrame, List.append_assoc,
    List.append_cancel_left_eq] at h
  have wires := (List.append_inj h (by rw [length_toBytesBig, length_toBytesBig])).2
  -- a reader gives back what was written
  have read := v2StatementReader_readsBack statement valid
  rw [wires, v2StatementReader_readsBack statement' valid'] at read
  exact (Option.some.inj read).symm

/-- The domains of the two versions differ. -/
theorem versions_apart (statement : ThreatHintV2Statement) :
    statementPreimage envelope networkId ≠ v2StatementPreimage statement := by
  intro same
  simp only [v2StatementPreimage, digestFrame, statementPreimage, List.append_assoc] at same
  have domains := (List.append_inj same (by decide)).1
  revert domains
  decide

/-! ## What the public inputs determine -/

/-- `sha256` collides on two texts. -/
def Collides (sha256 : Bytes → Bytes) (a b : Bytes) : Prop := a ≠ b ∧ sha256 a = sha256 b

/-- The hashed bytes determine the statement; a digest is read off its public inputs, which are
    below `2 ^ 128` and so below the modulus; statements that share their public inputs are the same
    unless the hash collides, within each version and across the two. -/
theorem public_inputs_bind (sha256 : Bytes → Bytes) (size : ∀ b, (sha256 b).length = 32) :
    (∀ envelope networkId envelope' networkId', validNetworkId networkId = true →
      validNetworkId networkId' = true → Decodes envelope → Decodes envelope' →
      statementPreimage envelope networkId = statementPreimage envelope' networkId' →
      SameStatement envelope networkId envelope' networkId') ∧
    (∀ digest digest' : Bytes, digest.length = 32 → digest'.length = 32 →
      (digestPublicInputs digest).1.val = fromBytesBig (digest.take 16) ∧
      (digestPublicInputs digest).2.val = fromBytesBig (digest.drop 16) ∧
      fromBytesBig (digest.take 16) < 2 ^ 128 ∧ fromBytesBig (digest.drop 16) < 2 ^ 128 ∧
      2 ^ 128 < frModulus ∧
      (digestPublicInputs digest = digestPublicInputs digest' → digest = digest')) ∧
    (∀ envelope networkId envelope' networkId' inputs, Decodes envelope → Decodes envelope' →
      statementPublicInputs sha256 envelope networkId = .ok inputs →
      statementPublicInputs sha256 envelope' networkId' = .ok inputs →
      SameStatement envelope networkId envelope' networkId' ∨
        Collides sha256 (statementPreimage envelope networkId)
          (statementPreimage envelope' networkId')) ∧
    ∀ readers envelopeWire manifestWire trusted anchor binding,
      ThreatHintV2ProofBinding.bindCanonical sha256 readers envelopeWire manifestWire trusted
        anchor = some binding →
      (∀ readers' envelopeWire' manifestWire' trusted' anchor' binding',
        ThreatHintV2ProofBinding.bindCanonical sha256 readers' envelopeWire' manifestWire' trusted'
          anchor' = some binding' → binding.publicInputs = binding'.publicInputs →
        binding.envelope.parsedStatement = binding'.envelope.parsedStatement ∨
          Collides sha256 (v2StatementPreimage binding.envelope.parsedStatement)
            (v2StatementPreimage binding'.envelope.parsedStatement)) ∧
      ∀ envelope networkId,
        statementPublicInputs sha256 envelope networkId = .ok binding.publicInputs →
        Collides sha256 (statementPreimage envelope networkId)
          (v2StatementPreimage binding.envelope.parsedStatement) := by
  have digests {a b : Bytes} (h : digestPublicInputs (sha256 a) = digestPublicInputs (sha256 b)) :
      sha256 a = sha256 b := digestPublicInputs_inj (size a) (size b) h
  refine ⟨fun envelope networkId envelope' networkId' => statementPreimage_inj,
    fun digest digest' isDigest isDigest' => ?_,
    fun envelope networkId envelope' networkId' inputs decodes decodes' h h' => ?_,
    fun readers envelopeWire manifestWire trusted anchor binding h => ⟨?_, ?_⟩⟩
  · obtain ⟨first, below⟩ := @fr_val (digest.take 16) (by simp [isDigest])
    obtain ⟨second, below'⟩ := @fr_val (digest.drop 16) (by simp [isDigest])
    exact ⟨first, second, below, below', by decide, digestPublicInputs_inj isDigest isDigest'⟩
  · obtain ⟨valid, rfl⟩ := statementPublicInputs_ok.mp h
    obtain ⟨valid', same⟩ := statementPublicInputs_ok.mp h'
    by_cases preimages :
        statementPreimage envelope networkId = statementPreimage envelope' networkId'
    · exact .inl (statementPreimage_inj valid valid' decodes decodes' preimages)
    · exact .inr ⟨preimages, digests same.symm⟩
  · intro readers' envelopeWire' manifestWire' trusted' anchor' binding' h' same
    obtain ⟨valid, inputs, -⟩ := bindCanonical_some h
    obtain ⟨valid', inputs', -⟩ := bindCanonical_some h'
    rw [inputs, inputs'] at same
    by_cases preimages : v2StatementPreimage binding.envelope.parsedStatement =
        v2StatementPreimage binding'.envelope.parsedStatement
    · exact .inl (v2StatementPreimage_inj valid valid' preimages)
    · exact .inr ⟨preimages, digests same⟩
  · intro envelope networkId isInputs
    obtain ⟨-, inputs, -⟩ := bindCanonical_some h
    rw [inputs] at isInputs
    exact ⟨versions_apart _, digests (statementPublicInputs_ok.mp isInputs).2⟩

/-- The sample envelope bound to the sample manifest. -/
theorem bindCanonical_base :
    ∃ binding, ThreatHintV2ProofBinding.bindCanonical sha256
      ⟨relationManifestReader, v2EnvelopeReader, v2StatementReader⟩ baseV2Envelope.toVec
      baseManifest.toVec (ascii "testnet-10") (hexEncode (sha256 baseManifest.toVec)) =
        some binding := by
  have isNetwork : encodeUtf8 (str "testnet-10") = some (ascii "testnet-10") := by decide
  have isAnchor : RelationManifestV2.isLowerHexAnchor (hexEncode (sha256 baseManifest.toVec)) =
      true := by decide +kernel
  have checked := ThreatHintV2ProofEnvelope.validate_iff.mp baseV2Envelope_valid
  have isEnvelope := (ThreatHintV2ProofEnvelope.canonical (v2EnvelopeReader_readsBack sha256)
    v2StatementReader_readsBack isNetwork).parse_encode (a := baseV2Envelope) ⟨checked, rfl⟩
  have valid : isValidNetworkId (ascii "testnet-10") = true := by decide
  have written : baseV2Envelope.parsedStatement.toCanonicalBytes = some baseV2Statement.toVec :=
    ThreatHintV2Statement.toCanonicalBytes_iff.mpr
      ⟨checked.parsed, (ThreatHintV2Statement.toVec_eq _).symm⟩
  have small : baseV2Statement.toVec.length < 2 ^ 32 := by
    have bounded := checked.parsed.bounded
    rw [ThreatHintV2Statement.toVec_eq]
    exact bounded.trans_lt (by decide)
  have sameDigest : hexEncode (sha256 (digestFrame ThreatHintV2Statement.statementDigestDomain
      baseV2Statement.toVec)) = baseV2Envelope.statementDigest := by
    simp only [hexEncode, baseV2Envelope]
  rw [ThreatHintV2ProofBinding.bindCanonical, if_neg (by simp [valid, isAnchor]),
    if_neg (not_not.mpr rfl)]
  simp only [baseManifest_parsed, isEnvelope, Option.bind_eq_bind, Option.bind_some]
  rw [if_neg (by decide), written, Option.bind_some, if_neg (not_le.mpr small),
    domain_of_parsed baseManifest_parsed, if_neg (not_not.mpr sameDigest), if_neg (by decide)]
  exact ⟨_, rfl⟩

/-- One hint on two networks, and a first-version hint that would share the sample binding's
    inputs. -/
theorem public_inputs_bind_base :
    statementPreimage (baseV1Envelope 1) (ascii "testnet-10") ≠
        statementPreimage (baseV1Envelope 1) (ascii "testnet-11") ∧
      ∃ binding : ThreatHintV2ProofBinding,
        statementPublicInputs sha256 (baseV1Envelope 1) (ascii "testnet-10") =
            .ok binding.publicInputs →
          Collides sha256 (statementPreimage (baseV1Envelope 1) (ascii "testnet-10"))
            (v2StatementPreimage binding.envelope.parsedStatement) := by
  have decodes : Decodes (baseV1Envelope 1) :=
    (baseV1Envelope_constructed 1 (by decide)).1.decodes
  constructor
  · intro same
    have equal := ((public_inputs_bind sha256 length_sha256).1 _ _ _ _ (by decide) (by decide)
      decodes decodes same).networkId
    revert equal
    decide
  · obtain ⟨binding, isBinding⟩ := bindCanonical_base
    exact ⟨binding, ((public_inputs_bind sha256 length_sha256).2.2.2 _ _ _ _ _ _ isBinding).2
      (baseV1Envelope 1) (ascii "testnet-10")⟩

end Rust

end Prometheus.ThreatHint
