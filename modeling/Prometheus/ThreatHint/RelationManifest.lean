import Prometheus.Codec.Sha256
import Prometheus.ThreatHint.Fields

/-!
# Relation manifests in the two languages

`threat-proof/src/relation_manifest_v2.rs` and `jaeger/relation_manifest_v2.py`. Most fields of a
manifest are bound to one value; the constants of the two languages are written out apart.
-/

namespace Prometheus.ThreatHint

open Prometheus.Codec

/-- `MAX_CANONICAL_V2_MANIFEST_BYTES`. -/
def maxCanonicalV2ManifestBytes : Nat := 4096

/-! ## Rust -/

namespace Rust

structure RelationManifestV2 where
  schemaVersion : UInt64
  protocolId : Bytes
  relationId : Bytes
  statementDigestDomainHex : Bytes
  proofSystem : Bytes
  kip16Tag : UInt64
  publicInputEncoding : Bytes
  publicInputCount : UInt64
  networkId : Bytes
  relationSourceBytes : UInt64
  relationSourceSha256 : Bytes
  provingKeyBytes : UInt64
  provingKeySha256 : Bytes
  verifyingKeyBytes : UInt64
  verifyingKeySha256 : Bytes
  kip16StatusCommit : Bytes
  rustyKaspaTag : Bytes
  rustyKaspaCommit : Bytes
  arkworksVersion : Bytes
  deriving DecidableEq, Repr

namespace RelationManifestV2

def boundSchemaVersion : UInt64 := 2
def boundProtocolId : Bytes := ascii "/prometheus/threat-hint/2.0.0"
def boundRelationId : Bytes := ascii "prometheus-threat-hint-v2"
def boundStatementDigestDomainHex : Bytes :=
  ascii "70726f6d6574686575732d7468726561742d68696e742d73746174656d656e742d763200"
def boundProofSystem : Bytes := ascii "groth16_bn254_kip16"
def boundKip16Tag : UInt64 := 32
def boundPublicInputEncoding : Bytes := ascii "sha256_split_u128_bn254_v2"
def boundPublicInputCount : UInt64 := 2
def maxRelationSourceBytes : UInt64 := 1048576
def maxProvingKeyBytes : UInt64 := 1073741824
def maxVerifyingKeyBytes : UInt64 := 65536
def boundKip16StatusCommit : Bytes := ascii "e4ae2332117b5cb68bd6188e065ef885b6d17939"
def boundRustyKaspaTag : Bytes := ascii "v2.0.1"
def boundRustyKaspaCommit : Bytes := ascii "cfafeb4c093fa37a303f1b9f19c58f986b870ce3"
def boundArkworksVersion : Bytes := ascii "0.6.0"

/-- `is_lower_hex_anchor`. -/
def isLowerHexAnchor (value : Bytes) : Bool :=
  decide (value.length = 64) && value.all (fun b => isLowerHex b.toNat) &&
    value.any fun b => decide (b ≠ 48)

def validate (m : RelationManifestV2) : Bool :=
  if m.schemaVersion ≠ boundSchemaVersion ∨
      m.protocolId ≠ boundProtocolId ∨
      m.relationId ≠ boundRelationId ∨
      m.statementDigestDomainHex ≠ boundStatementDigestDomainHex ∨
      m.proofSystem ≠ boundProofSystem ∨
      m.kip16Tag ≠ boundKip16Tag ∨
      m.publicInputEncoding ≠ boundPublicInputEncoding ∨
      m.publicInputCount ≠ boundPublicInputCount ∨
      ¬ isValidNetworkId m.networkId ∨
      m.relationSourceBytes = 0 ∨
      maxRelationSourceBytes < m.relationSourceBytes ∨
      ¬ isLowerHexAnchor m.relationSourceSha256 ∨
      m.provingKeyBytes = 0 ∨
      maxProvingKeyBytes < m.provingKeyBytes ∨
      ¬ isLowerHexAnchor m.provingKeySha256 ∨
      m.verifyingKeyBytes = 0 ∨
      maxVerifyingKeyBytes < m.verifyingKeyBytes ∨
      ¬ isLowerHexAnchor m.verifyingKeySha256 ∨
      m.kip16StatusCommit ≠ boundKip16StatusCommit ∨
      m.rustyKaspaTag ≠ boundRustyKaspaTag ∨
      m.rustyKaspaCommit ≠ boundRustyKaspaCommit ∨
      m.arkworksVersion ≠ boundArkworksVersion then
    false
  else true

/-- `serde_json::to_vec`. -/
def toVec (m : RelationManifestV2) : Bytes :=
  serdeStruct
    [("schema_version", serdeNat m.schemaVersion.toNat),
      ("protocol_id", serdeString m.protocolId),
      ("relation_id", serdeString m.relationId),
      ("statement_digest_domain_hex", serdeString m.statementDigestDomainHex),
      ("proof_system", serdeString m.proofSystem),
      ("kip16_tag", serdeNat m.kip16Tag.toNat),
      ("public_input_encoding", serdeString m.publicInputEncoding),
      ("public_input_count", serdeNat m.publicInputCount.toNat),
      ("network_id", serdeString m.networkId),
      ("relation_source_bytes", serdeNat m.relationSourceBytes.toNat),
      ("relation_source_sha256", serdeString m.relationSourceSha256),
      ("proving_key_bytes", serdeNat m.provingKeyBytes.toNat),
      ("proving_key_sha256", serdeString m.provingKeySha256),
      ("verifying_key_bytes", serdeNat m.verifyingKeyBytes.toNat),
      ("verifying_key_sha256", serdeString m.verifyingKeySha256),
      ("kip16_status_commit", serdeString m.kip16StatusCommit),
      ("rusty_kaspa_tag", serdeString m.rustyKaspaTag),
      ("rusty_kaspa_commit", serdeString m.rustyKaspaCommit),
      ("arkworks_version", serdeString m.arkworksVersion)]

def toCanonicalBytes (m : RelationManifestV2) : Option Bytes :=
  if ¬ m.validate then none
  else
    let bytes := m.toVec
    if bytes = [] ∨ maxCanonicalV2ManifestBytes < bytes.length then none else some bytes

def parseCanonical (fromSlice : Bytes → Option RelationManifestV2)
    (wireBytes trustedNetworkId : Bytes) : Option RelationManifestV2 :=
  if wireBytes = [] ∨ maxCanonicalV2ManifestBytes < wireBytes.length then none
  else if ¬ isValidNetworkId trustedNetworkId then none
  else do
    let manifest ← fromSlice wireBytes
    if ¬ manifest.validate then none
    else if manifest.networkId ≠ trustedNetworkId then none
    else if manifest.toCanonicalBytes ≠ some wireBytes then none
    else some manifest

end RelationManifestV2

end Rust

/-! ## Python -/

namespace Python

/-- `_bounded_int`. -/
def boundedInt (value : Option Json) (minimum : Int) : Option Int :=
  (exactInt value).filter fun n => minimum ≤ n

/-- `_lower_hex_anchor`. -/
def isAnchor (s : Str) : Bool := isHash s && s.any fun c => decide (c ≠ 48)

/-- `_lower_hex_anchor` of a value. -/
def lowerHexAnchor (value : Option Json) : Option Str :=
  (value.bind Json.asString).filter isAnchor

structure RelationManifestV2 where
  schemaVersion : Int
  protocolId : Str
  relationId : Str
  statementDigestDomainHex : Str
  proofSystem : Str
  kip16Tag : Int
  publicInputEncoding : Str
  publicInputCount : Int
  networkId : Str
  relationSourceBytes : Int
  relationSourceSha256 : Str
  provingKeyBytes : Int
  provingKeySha256 : Str
  verifyingKeyBytes : Int
  verifyingKeySha256 : Str
  kip16StatusCommit : Str
  rustyKaspaTag : Str
  rustyKaspaCommit : Str
  arkworksVersion : Str
  deriving DecidableEq, Repr

namespace RelationManifestV2

def boundSchemaVersion : Int := 2
def boundProtocolId : Str := str "/prometheus/threat-hint/2.0.0"
def boundRelationId : Str := str "prometheus-threat-hint-v2"
def boundStatementDigestDomainHex : Str :=
  str "70726f6d6574686575732d7468726561742d68696e742d73746174656d656e742d763200"
def boundProofSystem : Str := str "groth16_bn254_kip16"
def boundKip16Tag : Int := 32
def boundPublicInputEncoding : Str := str "sha256_split_u128_bn254_v2"
def boundPublicInputCount : Int := 2
def maxRelationSourceBytes : Int := 1048576
def maxProvingKeyBytes : Int := 1073741824
def maxVerifyingKeyBytes : Int := 65536
def boundKip16StatusCommit : Str := str "e4ae2332117b5cb68bd6188e065ef885b6d17939"
def boundRustyKaspaTag : Str := str "v2.0.1"
def boundRustyKaspaCommit : Str := str "cfafeb4c093fa37a303f1b9f19c58f986b870ce3"
def boundArkworksVersion : Str := str "0.6.0"

/-- The keys of a manifest, in their order. -/
def keys : List String :=
  ["schema_version", "protocol_id", "relation_id", "statement_digest_domain_hex", "proof_system",
    "kip16_tag", "public_input_encoding", "public_input_count", "network_id",
    "relation_source_bytes", "relation_source_sha256", "proving_key_bytes", "proving_key_sha256",
    "verifying_key_bytes", "verifying_key_sha256", "kip16_status_commit", "rusty_kaspa_tag",
    "rusty_kaspa_commit", "arkworks_version"]

/-- `_parse_object`. -/
def parseObject (fields : List (Str × Json)) : Option RelationManifestV2 :=
  if fields.map Prod.fst ≠ keys.map str then none
  else do
    let schemaVersion ← exactInt (Json.field fields (str "schema_version"))
    let kip16Tag ← exactInt (Json.field fields (str "kip16_tag"))
    let publicInputCount ← exactInt (Json.field fields (str "public_input_count"))
    let relationSourceBytes ← boundedInt (Json.field fields (str "relation_source_bytes")) 1
    let provingKeyBytes ← boundedInt (Json.field fields (str "proving_key_bytes")) 1
    let verifyingKeyBytes ← boundedInt (Json.field fields (str "verifying_key_bytes")) 1
    if schemaVersion ≠ boundSchemaVersion ∨ kip16Tag ≠ boundKip16Tag ∨
        publicInputCount ≠ boundPublicInputCount then
      none
    else if maxRelationSourceBytes < relationSourceBytes ∨ maxProvingKeyBytes < provingKeyBytes ∨
        maxVerifyingKeyBytes < verifyingKeyBytes then
      none
    else do
      let protocolId ← exactString (Json.field fields (str "protocol_id")) boundProtocolId
      let relationId ← exactString (Json.field fields (str "relation_id")) boundRelationId
      let statementDigestDomainHex ← exactString
        (Json.field fields (str "statement_digest_domain_hex")) boundStatementDigestDomainHex
      let proofSystem ← exactString (Json.field fields (str "proof_system")) boundProofSystem
      let publicInputEncoding ←
        exactString (Json.field fields (str "public_input_encoding")) boundPublicInputEncoding
      let relationSourceSha256 ← lowerHexAnchor (Json.field fields (str "relation_source_sha256"))
      let provingKeySha256 ← lowerHexAnchor (Json.field fields (str "proving_key_sha256"))
      let verifyingKeySha256 ← lowerHexAnchor (Json.field fields (str "verifying_key_sha256"))
      let kip16StatusCommit ←
        exactString (Json.field fields (str "kip16_status_commit")) boundKip16StatusCommit
      let rustyKaspaTag ← exactString (Json.field fields (str "rusty_kaspa_tag")) boundRustyKaspaTag
      let rustyKaspaCommit ←
        exactString (Json.field fields (str "rusty_kaspa_commit")) boundRustyKaspaCommit
      let arkworksVersion ←
        exactString (Json.field fields (str "arkworks_version")) boundArkworksVersion
      let networkId ← networkIdField (Json.field fields (str "network_id"))
      some { schemaVersion, protocolId, relationId, statementDigestDomainHex, proofSystem, kip16Tag,
             publicInputEncoding, publicInputCount, networkId, relationSourceBytes,
             relationSourceSha256, provingKeyBytes, provingKeySha256, verifyingKeyBytes,
             verifyingKeySha256, kip16StatusCommit, rustyKaspaTag, rustyKaspaCommit,
             arkworksVersion }

/-- `_bounded_int` of a number that is kept. -/
def isBounded (n minimum : Int) : Bool :=
  decide (0 ≤ n) && decide (n ≤ u64Max) && decide (minimum ≤ n)

/-- `_validate_state`. -/
def validateState (m : RelationManifestV2) : Bool :=
  if m.schemaVersion ≠ boundSchemaVersion then false
  else if m.kip16Tag ≠ boundKip16Tag then false
  else if m.publicInputCount ≠ boundPublicInputCount then false
  else if ¬ isBounded m.relationSourceBytes 1 then false
  else if ¬ isBounded m.provingKeyBytes 1 then false
  else if ¬ isBounded m.verifyingKeyBytes 1 then false
  else if maxRelationSourceBytes < m.relationSourceBytes ∨ maxProvingKeyBytes < m.provingKeyBytes ∨
      maxVerifyingKeyBytes < m.verifyingKeyBytes then
    false
  else
    decide (m.protocolId = boundProtocolId) && decide (m.relationId = boundRelationId) &&
      decide (m.statementDigestDomainHex = boundStatementDigestDomainHex) &&
      decide (m.proofSystem = boundProofSystem) &&
      decide (m.publicInputEncoding = boundPublicInputEncoding) &&
      isAnchor m.relationSourceSha256 && isAnchor m.provingKeySha256 &&
      isAnchor m.verifyingKeySha256 &&
      decide (m.kip16StatusCommit = boundKip16StatusCommit) &&
      decide (m.rustyKaspaTag = boundRustyKaspaTag) &&
      decide (m.rustyKaspaCommit = boundRustyKaspaCommit) &&
      decide (m.arkworksVersion = boundArkworksVersion) && matchesNetworkId m.networkId

def payload (m : RelationManifestV2) : List (String × Json) :=
  [("schema_version", .int m.schemaVersion),
    ("protocol_id", .string m.protocolId),
    ("relation_id", .string m.relationId),
    ("statement_digest_domain_hex", .string m.statementDigestDomainHex),
    ("proof_system", .string m.proofSystem),
    ("kip16_tag", .int m.kip16Tag),
    ("public_input_encoding", .string m.publicInputEncoding),
    ("public_input_count", .int m.publicInputCount),
    ("network_id", .string m.networkId),
    ("relation_source_bytes", .int m.relationSourceBytes),
    ("relation_source_sha256", .string m.relationSourceSha256),
    ("proving_key_bytes", .int m.provingKeyBytes),
    ("proving_key_sha256", .string m.provingKeySha256),
    ("verifying_key_bytes", .int m.verifyingKeyBytes),
    ("verifying_key_sha256", .string m.verifyingKeySha256),
    ("kip16_status_commit", .string m.kip16StatusCommit),
    ("rusty_kaspa_tag", .string m.rustyKaspaTag),
    ("rusty_kaspa_commit", .string m.rustyKaspaCommit),
    ("arkworks_version", .string m.arkworksVersion)]

/-- `canonical_bytes` of a manifest that `_PARSED_CANONICAL` maps to these bytes. -/
def canonicalBytes (canonicalAtParse : Bytes) (m : RelationManifestV2) : Option Bytes :=
  if ¬ m.validateState then none
  else do
    let canonical ← dumpsUtf8 (document m.payload)
    if canonical = [] ∨ maxCanonicalV2ManifestBytes < canonical.length then none
    else if canonical ≠ canonicalAtParse then none
    else some canonical

def parseCanonical (floatRepr : Str → Str) (wireBytes : Bytes) (trustedNetworkId : Str) :
    Option RelationManifestV2 :=
  if wireBytes = [] ∨ maxCanonicalV2ManifestBytes < wireBytes.length then none
  else if ¬ matchesNetworkId trustedNetworkId then none
  else do
    let manifest ← (readObject floatRepr wireBytes).bind parseObject
    if manifest.networkId ≠ trustedNetworkId then none
    else if manifest.canonicalBytes wireBytes ≠ some wireBytes then none
    else some manifest

end RelationManifestV2

end Python

/-! ## The Python parser is canonical -/

namespace Python.RelationManifestV2

/-- The size of an anchored artifact is positive and bounded. -/
def SizeWithin (n bound : Int) : Prop := 1 ≤ n ∧ n ≤ bound

/-- The texts that are bound to one value. -/
structure Bound (m : RelationManifestV2) : Prop where
  protocolId : m.protocolId = boundProtocolId
  relationId : m.relationId = boundRelationId
  statementDigestDomainHex : m.statementDigestDomainHex = boundStatementDigestDomainHex
  proofSystem : m.proofSystem = boundProofSystem
  publicInputEncoding : m.publicInputEncoding = boundPublicInputEncoding
  kip16StatusCommit : m.kip16StatusCommit = boundKip16StatusCommit
  rustyKaspaTag : m.rustyKaspaTag = boundRustyKaspaTag
  rustyKaspaCommit : m.rustyKaspaCommit = boundRustyKaspaCommit
  arkworksVersion : m.arkworksVersion = boundArkworksVersion

/-- The checks of a manifest. -/
structure Checked (m : RelationManifestV2) : Prop where
  schemaVersion : m.schemaVersion = boundSchemaVersion
  kip16Tag : m.kip16Tag = boundKip16Tag
  publicInputCount : m.publicInputCount = boundPublicInputCount
  relationSourceBytes : SizeWithin m.relationSourceBytes maxRelationSourceBytes
  provingKeyBytes : SizeWithin m.provingKeyBytes maxProvingKeyBytes
  verifyingKeyBytes : SizeWithin m.verifyingKeyBytes maxVerifyingKeyBytes
  texts : m.Bound
  relationSourceSha256 : isAnchor m.relationSourceSha256 = true
  provingKeySha256 : isAnchor m.provingKeySha256 = true
  verifyingKeySha256 : isAnchor m.verifyingKeySha256 = true
  networkId : IsNetworkId m.networkId

theorem isBounded_iff (n : Int) {bound : Int} (small : bound ≤ 2 ^ 63) :
    (isBounded n 1 = true ∧ ¬ bound < n) ↔ SizeWithin n bound := by
  simp only [isBounded, Bool.and_eq_true, decide_eq_true_eq, not_lt]
  constructor
  · rintro ⟨⟨-, positive⟩, bounded⟩
    exact ⟨positive, bounded⟩
  · rintro ⟨positive, bounded⟩
    have isU64 : IsU64 n := .of_le (by omega) (by omega)
    exact ⟨⟨isU64, positive⟩, bounded⟩

theorem validateState_iff {m : RelationManifestV2} : m.validateState = true ↔ m.Checked := by
  have source := isBounded_iff m.relationSourceBytes
    (show maxRelationSourceBytes ≤ 2 ^ 63 by decide)
  have proving := isBounded_iff m.provingKeyBytes (show maxProvingKeyBytes ≤ 2 ^ 63 by decide)
  have verifying := isBounded_iff m.verifyingKeyBytes
    (show maxVerifyingKeyBytes ≤ 2 ^ 63 by decide)
  unfold validateState
  constructor
  · intro h
    split at h
    · cases h
    rename_i schemaVersion
    split at h
    · cases h
    rename_i kip16Tag
    split at h
    · cases h
    rename_i publicInputCount
    split at h
    · cases h
    rename_i sourcePositive
    split at h
    · cases h
    rename_i provingPositive
    split at h
    · cases h
    rename_i verifyingPositive
    split at h
    · cases h
    rename_i bounds
    rw [not_or, not_or] at bounds
    simp only [Bool.and_eq_true, decide_eq_true_eq, matchesNetworkId_iff] at h
    obtain ⟨⟨⟨⟨⟨⟨⟨⟨⟨⟨⟨⟨protocolId, relationId⟩, domainHex⟩, proofSystem⟩, encoding⟩, sourceHash⟩,
      provingHash⟩, verifyingHash⟩, statusCommit⟩, tag⟩, commit⟩, arkworks⟩, networkId⟩ := h
    exact ⟨not_not.mp schemaVersion, not_not.mp kip16Tag, not_not.mp publicInputCount,
      source.mp ⟨not_not.mp sourcePositive, bounds.1⟩,
      proving.mp ⟨not_not.mp provingPositive, bounds.2.1⟩,
      verifying.mp ⟨not_not.mp verifyingPositive, bounds.2.2⟩,
      ⟨protocolId, relationId, domainHex, proofSystem, encoding, statusCommit, tag, commit,
        arkworks⟩, sourceHash, provingHash, verifyingHash, networkId⟩
  · intro h
    obtain ⟨sourcePositive, sourceBound⟩ := source.mpr h.relationSourceBytes
    obtain ⟨provingPositive, provingBound⟩ := proving.mpr h.provingKeyBytes
    obtain ⟨verifyingPositive, verifyingBound⟩ := verifying.mpr h.verifyingKeyBytes
    rw [if_neg (not_not.mpr h.schemaVersion), if_neg (not_not.mpr h.kip16Tag),
      if_neg (not_not.mpr h.publicInputCount), if_neg (not_not.mpr sourcePositive),
      if_neg (not_not.mpr provingPositive), if_neg (not_not.mpr verifyingPositive),
      if_neg (by rw [not_or, not_or]; exact ⟨sourceBound, provingBound, verifyingBound⟩)]
    simp [h.texts.protocolId, h.texts.relationId, h.texts.statementDigestDomainHex,
      h.texts.proofSystem, h.texts.publicInputEncoding, h.texts.kip16StatusCommit,
      h.texts.rustyKaspaTag, h.texts.rustyKaspaCommit, h.texts.arkworksVersion,
      h.relationSourceSha256, h.provingKeySha256, h.verifyingKeySha256,
      matchesNetworkId_iff.mpr h.networkId]

theorem keys_plain : Plain keys := by decide

theorem isAscii_of_isAnchor {s : Str} (h : isAnchor s = true) : IsAscii s := by
  rw [isAnchor, Bool.and_eq_true] at h
  exact isAscii_of_isHash h.1

theorem Bound.isAscii {m : RelationManifestV2} (h : m.Bound) :
    ∀ s ∈ [m.protocolId, m.relationId, m.statementDigestDomainHex, m.proofSystem,
      m.publicInputEncoding, m.kip16StatusCommit, m.rustyKaspaTag, m.rustyKaspaCommit,
      m.arkworksVersion], IsAscii s := by
  rw [h.protocolId, h.relationId, h.statementDigestDomainHex, h.proofSystem,
    h.publicInputEncoding, h.kip16StatusCommit, h.rustyKaspaTag, h.rustyKaspaCommit,
    h.arkworksVersion]
  unfold IsAscii
  decide

theorem SizeWithin.isU64 {n bound : Int} (h : SizeWithin n bound) (small : bound ≤ 2 ^ 63) :
    IsU64 n :=
  .of_le (by have := h.1; omega) (h.2.trans small)

/-- Every number of a checked manifest is a `u64`. -/
theorem Checked.small {m : RelationManifestV2} (h : m.Checked) :
    ∀ n ∈ [m.schemaVersion, m.kip16Tag, m.publicInputCount, m.relationSourceBytes,
      m.provingKeyBytes, m.verifyingKeyBytes], IsU64 n := by
  rw [h.schemaVersion, h.kip16Tag, h.publicInputCount]
  simp only [List.forall_mem_cons]
  exact ⟨.of_le (by decide) (by decide), .of_le (by decide) (by decide),
    .of_le (by decide) (by decide), h.relationSourceBytes.isU64 (by decide),
    h.provingKeyBytes.isU64 (by decide), h.verifyingKeyBytes.isU64 (by decide), by simp⟩

theorem readable_payload {m : RelationManifestV2} (h : m.Checked) :
    Readable (document m.payload) := by
  have number := h.small
  have text := h.texts.isAscii
  refine readable_document (show _ = keys from rfl) keys_plain.distinct keys_plain.ascii ?_
  simp only [List.forall_mem_cons] at number text
  obtain ⟨schemaVersion, kip16Tag, inputCount, sourceBytes, provingBytes, verifyingBytes, -⟩ :=
    number
  obtain ⟨protocolId, relationId, domainHex, proofSystem, encoding, statusCommit, tag, commit,
    arkworks, -⟩ := text
  simp only [payload, List.forall_mem_cons]
  exact ⟨readable_int schemaVersion, readable_string protocolId, readable_string relationId,
    readable_string domainHex, readable_string proofSystem, readable_int kip16Tag,
    readable_string encoding, readable_int inputCount, readable_string h.networkId.isAscii,
    readable_int sourceBytes, readable_string (isAscii_of_isAnchor h.relationSourceSha256),
    readable_int provingBytes, readable_string (isAscii_of_isAnchor h.provingKeySha256),
    readable_int verifyingBytes, readable_string (isAscii_of_isAnchor h.verifyingKeySha256),
    readable_string statusCommit, readable_string tag, readable_string commit,
    readable_string arkworks, by simp⟩

/-- A checked manifest is what its payload parses to. -/
theorem parseObject_payload {m : RelationManifestV2} (h : m.Checked) :
    parseObject (m.payload.map fun f => (str f.1, f.2)) = some m := by
  have number := h.small
  simp only [List.forall_mem_cons] at number
  obtain ⟨smallVersion, smallTag, smallCount, smallSource, smallProving, smallVerifying, -⟩ :=
    number
  have unique : ((m.payload.map Prod.fst).map str).Nodup := keys_plain.distinct
  have bounded (key : String) {n bound : Int} (mem : (key, .int n) ∈ m.payload)
      (within : SizeWithin n bound) (small : IsU64 n) :
      boundedInt (Json.field (m.payload.map fun f => (str f.1, f.2)) (str key)) 1 = some n := by
    rw [boundedInt, exactInt_document unique key mem small]
    exact Option.filter_eq_some_iff.mpr ⟨rfl, decide_eq_true within.1⟩
  have anchor (key : String) {s : Str} (mem : (key, .string s) ∈ m.payload)
      (isAnchored : isAnchor s = true) :
      lowerHexAnchor (Json.field (m.payload.map fun f => (str f.1, f.2)) (str key)) = some s := by
    rw [lowerHexAnchor, field_document unique mem]
    exact Option.filter_eq_some_iff.mpr ⟨rfl, isAnchored⟩
  have exactly (key : String) {s bound : Str} (same : s = bound) (mem : (key, .string s) ∈ m.payload) :
      exactString (Json.field (m.payload.map fun f => (str f.1, f.2)) (str key)) bound =
        some s := by
    subst same
    exact exactString_document unique key mem
  have schemaVersion := exactInt_document unique "schema_version" (by simp [payload]) smallVersion
  have kip16Tag := exactInt_document unique "kip16_tag" (by simp [payload]) smallTag
  have inputCount := exactInt_document unique "public_input_count" (by simp [payload]) smallCount
  have sourceBytes := bounded "relation_source_bytes" (by simp [payload]) h.relationSourceBytes
    smallSource
  have provingBytes := bounded "proving_key_bytes" (by simp [payload]) h.provingKeyBytes smallProving
  have verifyingBytes := bounded "verifying_key_bytes" (by simp [payload]) h.verifyingKeyBytes
    smallVerifying
  have protocolId := exactly "protocol_id" h.texts.protocolId (by simp [payload])
  have relationId := exactly "relation_id" h.texts.relationId (by simp [payload])
  have domainHex := exactly "statement_digest_domain_hex" h.texts.statementDigestDomainHex
    (by simp [payload])
  have proofSystem := exactly "proof_system" h.texts.proofSystem (by simp [payload])
  have encoding := exactly "public_input_encoding" h.texts.publicInputEncoding (by simp [payload])
  have sourceHash := anchor "relation_source_sha256" (by simp [payload]) h.relationSourceSha256
  have provingHash := anchor "proving_key_sha256" (by simp [payload]) h.provingKeySha256
  have verifyingHash := anchor "verifying_key_sha256" (by simp [payload]) h.verifyingKeySha256
  have statusCommit := exactly "kip16_status_commit" h.texts.kip16StatusCommit (by simp [payload])
  have tag := exactly "rusty_kaspa_tag" h.texts.rustyKaspaTag (by simp [payload])
  have commit := exactly "rusty_kaspa_commit" h.texts.rustyKaspaCommit (by simp [payload])
  have arkworks := exactly "arkworks_version" h.texts.arkworksVersion (by simp [payload])
  have networkId := networkIdField_document unique "network_id" (by simp [payload]) h.networkId
  rw [parseObject, if_neg (by rw [keys_document]; exact fun differs => differs rfl)]
  simp only [schemaVersion, kip16Tag, inputCount, sourceBytes, provingBytes, verifyingBytes,
    protocolId, relationId, domainHex, proofSystem, encoding, sourceHash, provingHash,
    verifyingHash, statusCommit, tag, commit, arkworks, networkId, Option.bind_eq_bind,
    Option.bind_some]
  rw [if_neg (by simp [h.schemaVersion, h.kip16Tag, h.publicInputCount]), if_neg]
  rw [not_or, not_or]
  exact ⟨not_lt.mpr h.relationSourceBytes.2, not_lt.mpr h.provingKeyBytes.2,
    not_lt.mpr h.verifyingKeyBytes.2⟩

/-- The reader reads back what was dumped. -/
theorem readsBack (floatRepr : Str → Str) :
    Canonical.ReadsBack (fun wire => (readObject floatRepr wire).bind parseObject) Checked
      fun m => dump m.payload := by
  intro m h
  show (readObject floatRepr _).bind parseObject = some m
  rw [readObject_document floatRepr (readable_payload h), Option.bind_some,
    parseObject_payload h]

/-- What the parser keeps, under a trusted network. -/
structure Accepts (network : Str) (m : RelationManifestV2) : Prop where
  checked : m.Checked
  network : m.networkId = network
  bounded : (dump m.payload).length ≤ maxCanonicalV2ManifestBytes

theorem canonicalBytes_iff {m : RelationManifestV2} {wire : Bytes} :
    m.canonicalBytes wire = some wire ↔ m.Checked ∧
      (dump m.payload).length ≤ maxCanonicalV2ManifestBytes ∧ dump m.payload = wire := by
  unfold canonicalBytes
  rw [Option.ite_none_left_eq_some, not_not, validateState_iff]
  refine and_congr_right fun checked => ?_
  rw [dumpsUtf8_document (readable_payload checked), Option.bind_eq_bind, Option.bind_some,
    Option.ite_none_left_eq_some, Option.ite_none_left_eq_some, not_not, Option.some.injEq,
    and_self, or_iff_right (dump_ne_nil _), not_lt]

theorem canonical (floatRepr : Str → Str) (network : Str) :
    Canonical (parseCanonical floatRepr · network) (Accepts network) fun m => dump m.payload := by
  refine .of_readsBack (readsBack floatRepr) (fun m h => h.checked) fun wire m => ?_
  simp only [parseCanonical, Option.ite_none_left_eq_some, Option.bind_eq_bind,
    Option.bind_eq_some_iff, not_not, ne_eq, canonicalBytes_iff, Option.some.injEq]
  constructor
  · rintro ⟨-, -, m', isRead, trusted, ⟨checked, bounded, same⟩, rfl⟩
    exact ⟨isRead, ⟨checked, trusted, bounded⟩, same⟩
  · rintro ⟨isRead, ⟨checked, rfl, bounded⟩, rfl⟩
    refine ⟨?_, matchesNetworkId_iff.mpr checked.networkId, m, isRead, rfl,
      ⟨checked, bounded, rfl⟩, rfl⟩
    simpa [dump_ne_nil] using bounded

end Python.RelationManifestV2

/-! ## The Rust parser is canonical -/

namespace Rust.RelationManifestV2

/-- The manifest in Python's types. -/
def toPython (m : RelationManifestV2) : Python.RelationManifestV2 where
  schemaVersion := m.schemaVersion.toNat
  protocolId := m.protocolId.map UInt8.toNat
  relationId := m.relationId.map UInt8.toNat
  statementDigestDomainHex := m.statementDigestDomainHex.map UInt8.toNat
  proofSystem := m.proofSystem.map UInt8.toNat
  kip16Tag := m.kip16Tag.toNat
  publicInputEncoding := m.publicInputEncoding.map UInt8.toNat
  publicInputCount := m.publicInputCount.toNat
  networkId := m.networkId.map UInt8.toNat
  relationSourceBytes := m.relationSourceBytes.toNat
  relationSourceSha256 := m.relationSourceSha256.map UInt8.toNat
  provingKeyBytes := m.provingKeyBytes.toNat
  provingKeySha256 := m.provingKeySha256.map UInt8.toNat
  verifyingKeyBytes := m.verifyingKeyBytes.toNat
  verifyingKeySha256 := m.verifyingKeySha256.map UInt8.toNat
  kip16StatusCommit := m.kip16StatusCommit.map UInt8.toNat
  rustyKaspaTag := m.rustyKaspaTag.map UInt8.toNat
  rustyKaspaCommit := m.rustyKaspaCommit.map UInt8.toNat
  arkworksVersion := m.arkworksVersion.map UInt8.toNat

/-- The manifest in Rust's types. -/
def ofPython (m : Python.RelationManifestV2) : RelationManifestV2 where
  schemaVersion := UInt64.ofNat m.schemaVersion.toNat
  protocolId := encodeAscii m.protocolId
  relationId := encodeAscii m.relationId
  statementDigestDomainHex := encodeAscii m.statementDigestDomainHex
  proofSystem := encodeAscii m.proofSystem
  kip16Tag := UInt64.ofNat m.kip16Tag.toNat
  publicInputEncoding := encodeAscii m.publicInputEncoding
  publicInputCount := UInt64.ofNat m.publicInputCount.toNat
  networkId := encodeAscii m.networkId
  relationSourceBytes := UInt64.ofNat m.relationSourceBytes.toNat
  relationSourceSha256 := encodeAscii m.relationSourceSha256
  provingKeyBytes := UInt64.ofNat m.provingKeyBytes.toNat
  provingKeySha256 := encodeAscii m.provingKeySha256
  verifyingKeyBytes := UInt64.ofNat m.verifyingKeyBytes.toNat
  verifyingKeySha256 := encodeAscii m.verifyingKeySha256
  kip16StatusCommit := encodeAscii m.kip16StatusCommit
  rustyKaspaTag := encodeAscii m.rustyKaspaTag
  rustyKaspaCommit := encodeAscii m.rustyKaspaCommit
  arkworksVersion := encodeAscii m.arkworksVersion

theorem ofPython_toPython (m : RelationManifestV2) : ofPython m.toPython = m := by
  simp [ofPython, toPython, encodeAscii_toNat]

theorem toPython_ofPython {m : Python.RelationManifestV2} (h : m.Checked) :
    (ofPython m).toPython = m := by
  have number := h.small
  have text := h.texts.isAscii
  simp only [List.forall_mem_cons] at number text
  obtain ⟨schemaVersion, kip16Tag, inputCount, sourceBytes, provingBytes, verifyingBytes, -⟩ :=
    number
  obtain ⟨protocolId, relationId, domainHex, proofSystem, encoding, statusCommit, tag, commit,
    arkworks, -⟩ := text
  have ascii {s : Str} (isAscii : IsAscii s) := map_toNat_encodeAscii isAscii.small
  have sourceHash := ascii (Python.RelationManifestV2.isAscii_of_isAnchor h.relationSourceSha256)
  have provingHash := ascii (Python.RelationManifestV2.isAscii_of_isAnchor h.provingKeySha256)
  have verifyingHash := ascii (Python.RelationManifestV2.isAscii_of_isAnchor h.verifyingKeySha256)
  unfold toPython ofPython
  simp only [toNat_ofNat_64 schemaVersion, toNat_ofNat_64 kip16Tag, toNat_ofNat_64 inputCount,
    toNat_ofNat_64 sourceBytes, toNat_ofNat_64 provingBytes, toNat_ofNat_64 verifyingBytes,
    ascii protocolId, ascii relationId, ascii domainHex, ascii proofSystem, ascii encoding,
    ascii statusCommit, ascii tag, ascii commit, ascii arkworks, ascii h.networkId.isAscii,
    sourceHash, provingHash, verifyingHash]

/-- Both languages write the same bytes. -/
theorem toVec_eq (m : RelationManifestV2) : m.toVec = dump m.toPython.payload := by
  rw [← serdeStruct_dump, toVec]
  simp only [serdeNat_eq, serdeString_eq]
  rfl

theorem isLowerHexAnchor_eq (value : Bytes) :
    isLowerHexAnchor value = Python.isAnchor (value.map UInt8.toNat) := by
  have nonzero : (value.any fun b => decide (b ≠ 48)) =
      (value.map UInt8.toNat).any fun c => decide (c ≠ 48) := by
    rw [List.any_map]
    congr 1
    funext b
    exact decide_eq_decide.mpr (not_congr UInt8.toNat_inj.symm)
  rw [isLowerHexAnchor, Python.isAnchor, isHash, nonzero, toNat_all isLowerHex, List.length_map]

/-- A size is checked as in Python. -/
theorem sizeWithin_iff {n bound : UInt64} :
    (n ≠ 0 ∧ ¬ bound < n) ↔ Python.RelationManifestV2.SizeWithin n.toNat bound.toNat := by
  rw [ne_eq, toNat_eq_64, UInt64.lt_iff_toNat_lt, Python.RelationManifestV2.SizeWithin]
  have zero : ((0 : UInt64).toNat : Int) = 0 := rfl
  omega

/-- Both languages make the same checks. -/
theorem validate_iff {m : RelationManifestV2} : m.validate = true ↔ m.toPython.Checked := by
  have text {a b : Bytes} : a = b ↔ a.map UInt8.toNat = b.map UInt8.toNat :=
    (List.map_inj_right fun a b => UInt8.toNat_inj.mp).symm
  have checks : m.validate = true ↔ m.schemaVersion = boundSchemaVersion ∧
      m.protocolId = boundProtocolId ∧ m.relationId = boundRelationId ∧
      m.statementDigestDomainHex = boundStatementDigestDomainHex ∧
      m.proofSystem = boundProofSystem ∧ m.kip16Tag = boundKip16Tag ∧
      m.publicInputEncoding = boundPublicInputEncoding ∧
      m.publicInputCount = boundPublicInputCount ∧ isValidNetworkId m.networkId = true ∧
      (m.relationSourceBytes ≠ 0 ∧ ¬ maxRelationSourceBytes < m.relationSourceBytes) ∧
      isLowerHexAnchor m.relationSourceSha256 = true ∧
      (m.provingKeyBytes ≠ 0 ∧ ¬ maxProvingKeyBytes < m.provingKeyBytes) ∧
      isLowerHexAnchor m.provingKeySha256 = true ∧
      (m.verifyingKeyBytes ≠ 0 ∧ ¬ maxVerifyingKeyBytes < m.verifyingKeyBytes) ∧
      isLowerHexAnchor m.verifyingKeySha256 = true ∧
      m.kip16StatusCommit = boundKip16StatusCommit ∧ m.rustyKaspaTag = boundRustyKaspaTag ∧
      m.rustyKaspaCommit = boundRustyKaspaCommit ∧ m.arkworksVersion = boundArkworksVersion := by
    unfold validate
    rw [Bool.if_false_left, Bool.and_true, Bool.not_eq_true', decide_eq_false_iff_not]
    simp only [not_or, not_not, ne_eq, and_assoc]
  rw [checks]
  simp only [toNat_eq_64 (b := boundSchemaVersion), toNat_eq_64 (b := boundKip16Tag),
    toNat_eq_64 (b := boundPublicInputCount), text, sizeWithin_iff, isLowerHexAnchor_eq,
    isValidNetworkId_iff]
  constructor
  · rintro ⟨schemaVersion, protocolId, relationId, domainHex, proofSystem, kip16Tag, encoding,
      inputCount, networkId, sourceBytes, sourceHash, provingBytes, provingHash, verifyingBytes,
      verifyingHash, statusCommit, tag, commit, arkworks⟩
    exact ⟨schemaVersion, kip16Tag, inputCount, sourceBytes, provingBytes, verifyingBytes,
      ⟨protocolId, relationId, domainHex, proofSystem, encoding, statusCommit, tag, commit,
        arkworks⟩, sourceHash, provingHash, verifyingHash, networkId⟩
  · intro h
    exact ⟨h.schemaVersion, h.texts.protocolId, h.texts.relationId,
      h.texts.statementDigestDomainHex, h.texts.proofSystem, h.kip16Tag,
      h.texts.publicInputEncoding, h.publicInputCount, h.networkId, h.relationSourceBytes,
      h.relationSourceSha256, h.provingKeyBytes, h.provingKeySha256, h.verifyingKeyBytes,
      h.verifyingKeySha256, h.texts.kip16StatusCommit, h.texts.rustyKaspaTag,
      h.texts.rustyKaspaCommit, h.texts.arkworksVersion⟩

theorem toCanonicalBytes_iff {m : RelationManifestV2} {wire : Bytes} :
    m.toCanonicalBytes = some wire ↔ m.toPython.Checked ∧
      (dump m.toPython.payload).length ≤ maxCanonicalV2ManifestBytes ∧
      dump m.toPython.payload = wire := by
  unfold toCanonicalBytes
  rw [Option.ite_none_left_eq_some, not_not, validate_iff, toVec_eq]
  refine and_congr_right fun checked => ?_
  rw [Option.ite_none_left_eq_some, or_iff_right (dump_ne_nil _), not_lt, Option.some.injEq]

/-- `serde_json` reads back the manifests that it wrote. -/
def ReadsBack (fromSlice : Bytes → Option RelationManifestV2) : Prop :=
  Canonical.ReadsBack fromSlice (fun m => m.validate = true) toVec

theorem canonical {fromSlice : Bytes → Option RelationManifestV2}
    (readsBack : ReadsBack fromSlice) {network : Str} {networkBytes : Bytes}
    (sameNetwork : encodeUtf8 network = some networkBytes) :
    Canonical (parseCanonical fromSlice · networkBytes)
      (fun m => Python.RelationManifestV2.Accepts network m.toPython) toVec := by
  refine .of_readsBack readsBack (fun m h => validate_iff.mpr h.checked) fun wire m => ?_
  simp only [parseCanonical, Option.ite_none_left_eq_some, Option.bind_eq_bind,
    Option.bind_eq_some_iff, not_not, ne_eq, toCanonicalBytes_iff, Option.some.injEq, toVec_eq]
  constructor
  · rintro ⟨-, -, m', isRead, -, rfl, ⟨checked, bounded, same⟩, rfl⟩
    exact ⟨isRead, ⟨checked, toNat_encodeUtf8 sameNetwork (.inl checked.networkId.isAscii), bounded⟩, same⟩
  · rintro ⟨isRead, ⟨checked, trusted, bounded⟩, rfl⟩
    have sameBytes := eq_encodeUtf8 sameNetwork checked.networkId trusted
    refine ⟨?_, ?_, m, isRead, validate_iff.mpr checked, sameBytes, ⟨checked, bounded, rfl⟩, rfl⟩
    · simpa [dump_ne_nil] using bounded
    · exact sameBytes ▸ isValidNetworkId_iff.mpr checked.networkId

end Rust.RelationManifestV2

/-! ## Agreement -/

/-- The two manifests expose the same fields. -/
structure SameManifest (rust : Rust.RelationManifestV2) (python : Python.RelationManifestV2) :
    Prop where
  schemaVersion : python.schemaVersion = rust.schemaVersion.toNat
  protocolId : encodeUtf8 python.protocolId = some rust.protocolId
  relationId : encodeUtf8 python.relationId = some rust.relationId
  statementDigestDomainHex : encodeUtf8 python.statementDigestDomainHex = some rust.statementDigestDomainHex
  proofSystem : encodeUtf8 python.proofSystem = some rust.proofSystem
  kip16Tag : python.kip16Tag = rust.kip16Tag.toNat
  publicInputEncoding : encodeUtf8 python.publicInputEncoding = some rust.publicInputEncoding
  publicInputCount : python.publicInputCount = rust.publicInputCount.toNat
  networkId : encodeUtf8 python.networkId = some rust.networkId
  relationSourceBytes : python.relationSourceBytes = rust.relationSourceBytes.toNat
  relationSourceSha256 : encodeUtf8 python.relationSourceSha256 = some rust.relationSourceSha256
  provingKeyBytes : python.provingKeyBytes = rust.provingKeyBytes.toNat
  provingKeySha256 : encodeUtf8 python.provingKeySha256 = some rust.provingKeySha256
  verifyingKeyBytes : python.verifyingKeyBytes = rust.verifyingKeyBytes.toNat
  verifyingKeySha256 : encodeUtf8 python.verifyingKeySha256 = some rust.verifyingKeySha256
  kip16StatusCommit : encodeUtf8 python.kip16StatusCommit = some rust.kip16StatusCommit
  rustyKaspaTag : encodeUtf8 python.rustyKaspaTag = some rust.rustyKaspaTag
  rustyKaspaCommit : encodeUtf8 python.rustyKaspaCommit = some rust.rustyKaspaCommit
  arkworksVersion : encodeUtf8 python.arkworksVersion = some rust.arkworksVersion

theorem sameManifest_toPython {m : Rust.RelationManifestV2} (h : m.toPython.Checked) :
    SameManifest m m.toPython := by
  have text := h.texts.isAscii
  simp only [List.forall_mem_cons] at text
  obtain ⟨protocolId, relationId, domainHex, proofSystem, encoding, statusCommit, tag, commit,
    arkworks, -⟩ := text
  have sourceHash := Python.RelationManifestV2.isAscii_of_isAnchor h.relationSourceSha256
  have provingHash := Python.RelationManifestV2.isAscii_of_isAnchor h.provingKeySha256
  have verifyingHash := Python.RelationManifestV2.isAscii_of_isAnchor h.verifyingKeySha256
  exact ⟨rfl, encodeUtf8_toNat protocolId, encodeUtf8_toNat relationId, encodeUtf8_toNat domainHex,
    encodeUtf8_toNat proofSystem, rfl, encodeUtf8_toNat encoding, rfl,
    encodeUtf8_toNat h.networkId.isAscii, rfl, encodeUtf8_toNat sourceHash, rfl,
    encodeUtf8_toNat provingHash, rfl, encodeUtf8_toNat verifyingHash,
    encodeUtf8_toNat statusCommit, encodeUtf8_toNat tag, encodeUtf8_toNat commit,
    encodeUtf8_toNat arkworks⟩

/-- On every wire and network both parsers refuse, or both accept with the same fields, the wire as
the canonical bytes and so the same digest of these. -/
theorem relation_manifest_agree {fromSlice : Bytes → Option Rust.RelationManifestV2}
    (readsBack : Rust.RelationManifestV2.ReadsBack fromSlice) (floatRepr : Str → Str)
    (sha256 : Bytes → Bytes) (wire : Bytes) {network : Str} {networkBytes : Bytes}
    (sameNetwork : encodeUtf8 network = some networkBytes) :
    (Rust.RelationManifestV2.parseCanonical fromSlice wire networkBytes = none ∧
      Python.RelationManifestV2.parseCanonical floatRepr wire network = none) ∨
    ∃ rust python,
      Rust.RelationManifestV2.parseCanonical fromSlice wire networkBytes = some rust ∧
      Python.RelationManifestV2.parseCanonical floatRepr wire network = some python ∧
      SameManifest rust python ∧
      rust.toCanonicalBytes = some wire ∧ python.canonicalBytes wire = some wire ∧
      rust.toCanonicalBytes.map sha256 = (python.canonicalBytes wire).map sha256 := by
  have isRust := Rust.RelationManifestV2.canonical readsBack sameNetwork
  have agree := isRust.agree (Python.RelationManifestV2.canonical floatRepr network)
    Rust.RelationManifestV2.toPython
    (fun m h => ⟨h, (Rust.RelationManifestV2.toVec_eq m).symm⟩)
    (fun m h => by
      have same := Rust.RelationManifestV2.toPython_ofPython h.checked
      exact ⟨.ofPython m, by rwa [same], same⟩) wire
  cases accepted : Rust.RelationManifestV2.parseCanonical fromSlice wire networkBytes with
  | none =>
    rw [accepted] at agree
    exact .inl ⟨rfl, agree⟩
  | some m =>
    rw [accepted] at agree
    obtain ⟨checked, -, bounded⟩ := isRust.valid accepted
    have isWire := isRust.encode_eq accepted
    rw [Rust.RelationManifestV2.toVec_eq] at isWire
    have rustBytes := Rust.RelationManifestV2.toCanonicalBytes_iff.mpr ⟨checked, bounded, isWire⟩
    have pythonBytes :=
      Python.RelationManifestV2.canonicalBytes_iff.mpr ⟨checked, bounded, isWire⟩
    exact .inr ⟨m, m.toPython, rfl, agree, sameManifest_toPython checked, rustBytes, pythonBytes,
      by rw [rustBytes, pythonBytes]⟩

/-- A reader of the wire struct. -/
def relationManifestReader (wire : Bytes) : Option Rust.RelationManifestV2 :=
  ((Python.readObject id wire).bind Python.RelationManifestV2.parseObject).map
    Rust.RelationManifestV2.ofPython

theorem relationManifestReader_readsBack :
    Rust.RelationManifestV2.ReadsBack relationManifestReader := by
  intro m h
  have checked := Rust.RelationManifestV2.validate_iff.mp h
  have isRead : (Python.readObject id (dump m.toPython.payload)).bind _ = some m.toPython :=
    Python.RelationManifestV2.readsBack id _ checked
  show ((Python.readObject id m.toVec).bind _).map _ = some m
  rw [Rust.RelationManifestV2.toVec_eq, isRead, Option.map_some,
    Rust.RelationManifestV2.ofPython_toPython]

/-- The manifest of the source's tests. -/
def baseManifest : Rust.RelationManifestV2 where
  schemaVersion := 2
  protocolId := Rust.RelationManifestV2.boundProtocolId
  relationId := Rust.RelationManifestV2.boundRelationId
  statementDigestDomainHex := Rust.RelationManifestV2.boundStatementDigestDomainHex
  proofSystem := Rust.RelationManifestV2.boundProofSystem
  kip16Tag := 32
  publicInputEncoding := Rust.RelationManifestV2.boundPublicInputEncoding
  publicInputCount := 2
  networkId := ascii "testnet-10"
  relationSourceBytes := 4096
  relationSourceSha256 := List.replicate 64 49
  provingKeyBytes := 1048576
  provingKeySha256 := List.replicate 64 50
  verifyingKeyBytes := 1024
  verifyingKeySha256 := List.replicate 64 51
  kip16StatusCommit := Rust.RelationManifestV2.boundKip16StatusCommit
  rustyKaspaTag := Rust.RelationManifestV2.boundRustyKaspaTag
  rustyKaspaCommit := Rust.RelationManifestV2.boundRustyKaspaCommit
  arkworksVersion := Rust.RelationManifestV2.boundArkworksVersion

/-- The canonical parser reads it. -/
theorem baseManifest_parsed :
    Rust.RelationManifestV2.parseCanonical relationManifestReader baseManifest.toVec
      (ascii "testnet-10") = some baseManifest := by
  have isNetwork : encodeUtf8 (str "testnet-10") = some (ascii "testnet-10") := by decide
  have isValid : baseManifest.validate = true := by decide
  have short : baseManifest.toVec.length ≤ maxCanonicalV2ManifestBytes := by decide +kernel
  exact (Rust.RelationManifestV2.canonical relationManifestReader_readsBack
    isNetwork).parse_encode (a := baseManifest)
    ⟨Rust.RelationManifestV2.validate_iff.mp isValid, rfl,
      by rwa [← Rust.RelationManifestV2.toVec_eq]⟩

theorem relation_manifest_agree_base :
    ∃ rust python,
      Rust.RelationManifestV2.parseCanonical relationManifestReader baseManifest.toVec
        (ascii "testnet-10") = some rust ∧
      Python.RelationManifestV2.parseCanonical id baseManifest.toVec (str "testnet-10") =
        some python ∧
      SameManifest rust python ∧
      rust.toCanonicalBytes = some baseManifest.toVec ∧
      python.canonicalBytes baseManifest.toVec = some baseManifest.toVec ∧
      rust.toCanonicalBytes.map sha256 =
        (python.canonicalBytes baseManifest.toVec).map sha256 := by
  have isNetwork : encodeUtf8 (str "testnet-10") = some (ascii "testnet-10") := by decide
  refine (relation_manifest_agree relationManifestReader_readsBack id sha256 baseManifest.toVec
    isNetwork).resolve_left ?_
  rintro ⟨refused, -⟩
  rw [baseManifest_parsed] at refused
  cases refused

end Prometheus.ThreatHint
