import Prometheus.Codec.Sha256
import Prometheus.ThreatHint.Fields

/-!
# Statements of the second threat hint in the two languages

`threat-hint/src/threat_hint_v2_statement.rs` and `jaeger/threat_hint_v2_statement.py`. As for the
other formats, `serde_json::from_slice` into the wire struct, SHA-256 and the text of a Python float
are parameters, and a refusal is `none`.
-/

namespace Prometheus.ThreatHint

open Prometheus.Codec

/-- `MAX_CANONICAL_V2_STATEMENT_BYTES`. -/
def maxCanonicalV2StatementBytes : Nat := 1024

inductive ThreatHintV2DisclosureClass
  | publicAutoV1 | reviewRequiredV1
  deriving DecidableEq, Repr

/-! ## Rust -/

namespace Rust

/-- The variant under `#[serde(rename_all = "snake_case")]`. -/
def ThreatHintV2DisclosureClass.name : ThreatHintV2DisclosureClass → String
  | .publicAutoV1 => "public_auto_v1"
  | .reviewRequiredV1 => "review_required_v1"

structure ThreatHintV2Statement where
  schemaVersion : UInt16
  artifactHash : Bytes
  observableCommitment : Bytes
  confidenceBps : UInt16
  disclosureClass : ThreatHintV2DisclosureClass
  reportNonce : Bytes
  observedAt : UInt64
  networkId : Bytes
  deriving DecidableEq, Repr

namespace ThreatHintV2Statement

/-- `STATEMENT_DIGEST_DOMAIN`. -/
def statementDigestDomain : Bytes := ascii "prometheus-threat-hint-statement-v2" ++ [0]

def validate (st : ThreatHintV2Statement) : Bool :=
  if st.schemaVersion ≠ 2 ∨ ¬ isFixedLowerHex st.artifactHash ∨
      ¬ isFixedLowerHex st.observableCommitment ∨ st.confidenceBps = 0 ∨
      10000 < st.confidenceBps ∨ ¬ isFixedLowerHex st.reportNonce ∨ st.observedAt = 0 then
    false
  else validateNetworkId st.networkId

/-- `serde_json::to_vec`. -/
def toVec (st : ThreatHintV2Statement) : Bytes :=
  serdeStruct
    [("schema_version", serdeNat st.schemaVersion.toNat),
      ("artifact_hash", serdeString st.artifactHash),
      ("observable_commitment", serdeString st.observableCommitment),
      ("confidence_bps", serdeNat st.confidenceBps.toNat),
      ("disclosure_class", serdeString (ascii (ThreatHintV2DisclosureClass.name st.disclosureClass))),
      ("report_nonce", serdeString st.reportNonce),
      ("observed_at", serdeNat st.observedAt.toNat),
      ("network_id", serdeString st.networkId)]

def toCanonicalBytes (st : ThreatHintV2Statement) : Option Bytes :=
  if ¬ st.validate then none
  else
    let bytes := st.toVec
    if bytes = [] ∨ maxCanonicalV2StatementBytes < bytes.length then none else some bytes

def statementDigest (sha256 : Bytes → Bytes) (st : ThreatHintV2Statement) : Option Bytes := do
  let canonical ← st.toCanonicalBytes
  if canonical.length < 2 ^ 32 then some (sha256 (digestFrame statementDigestDomain canonical))
  else none

def parseCanonical (fromSlice : Bytes → Option ThreatHintV2Statement)
    (wireBytes trustedNetworkId : Bytes) : Option ThreatHintV2Statement :=
  if wireBytes = [] ∨ maxCanonicalV2StatementBytes < wireBytes.length then none
  else if ¬ validateNetworkId trustedNetworkId then none
  else do
    let statement ← fromSlice wireBytes
    if ¬ statement.validate then none
    else if statement.networkId ≠ trustedNetworkId then none
    else if statement.toCanonicalBytes ≠ some wireBytes then none
    else some statement

end ThreatHintV2Statement

end Rust

/-! ## Python -/

namespace Python

/-- `ThreatHintV2DisclosureClass.value`. -/
def ThreatHintV2DisclosureClass.value : ThreatHintV2DisclosureClass → String
  | .publicAutoV1 => "public_auto_v1"
  | .reviewRequiredV1 => "review_required_v1"

/-- The members of the enumeration. -/
def threatHintV2DisclosureClasses : List ThreatHintV2DisclosureClass :=
  [.publicAutoV1, .reviewRequiredV1]

structure ThreatHintV2Statement where
  schemaVersion : Int
  artifactHash : Str
  observableCommitment : Str
  confidenceBps : Int
  disclosureClass : ThreatHintV2DisclosureClass
  reportNonce : Str
  observedAt : Int
  networkId : Str
  deriving DecidableEq, Repr

namespace ThreatHintV2Statement

/-- `CONFIDENCE_BPS_MAX`. -/
def confidenceBpsMax : Int := 10000

/-- `STATEMENT_DIGEST_DOMAIN`. -/
def statementDigestDomain : Bytes := ascii "prometheus-threat-hint-statement-v2" ++ [0]

/-- The keys of a statement, in their order. -/
def keys : List String :=
  ["schema_version", "artifact_hash", "observable_commitment", "confidence_bps",
    "disclosure_class", "report_nonce", "observed_at", "network_id"]

/-- `_parse_object`. -/
def parseObject (fields : List (Str × Json)) : Option ThreatHintV2Statement :=
  if fields.map Prod.fst ≠ keys.map str then none
  else do
    let schemaVersion ← exactInt (Json.field fields (str "schema_version"))
    let confidenceBps ← exactInt (Json.field fields (str "confidence_bps"))
    let observedAt ← exactInt (Json.field fields (str "observed_at"))
    if schemaVersion ≠ 2 ∨ confidenceBps < 1 ∨ confidenceBpsMax < confidenceBps ∨
        observedAt < 1 ∨ u64Max < observedAt then
      none
    else do
      let artifactHash ← fixedLowerHex (Json.field fields (str "artifact_hash"))
      let observableCommitment ← fixedLowerHex (Json.field fields (str "observable_commitment"))
      let reportNonce ← fixedLowerHex (Json.field fields (str "report_nonce"))
      let disclosureClass ← enumValue ThreatHintV2DisclosureClass.value
        threatHintV2DisclosureClasses (Json.field fields (str "disclosure_class"))
      let networkId ← networkIdField (Json.field fields (str "network_id"))
      some { schemaVersion, artifactHash, observableCommitment, confidenceBps, disclosureClass,
             reportNonce, observedAt, networkId }

/-- `_validate_state`. -/
def validateState (st : ThreatHintV2Statement) : Bool :=
  if st.schemaVersion ≠ 2 then false
  else if ¬ (1 ≤ st.confidenceBps ∧ st.confidenceBps ≤ confidenceBpsMax) then false
  else if ¬ (1 ≤ st.observedAt ∧ st.observedAt ≤ u64Max) then false
  else isHash st.artifactHash && isHash st.observableCommitment && isHash st.reportNonce &&
    matchesNetworkId st.networkId

def payload (st : ThreatHintV2Statement) : List (String × Json) :=
  [("schema_version", .int st.schemaVersion),
    ("artifact_hash", .string st.artifactHash),
    ("observable_commitment", .string st.observableCommitment),
    ("confidence_bps", .int st.confidenceBps),
    ("disclosure_class", .string (str (ThreatHintV2DisclosureClass.value st.disclosureClass))),
    ("report_nonce", .string st.reportNonce),
    ("observed_at", .int st.observedAt),
    ("network_id", .string st.networkId)]

/-- `canonical_bytes` of a statement that `_PARSED_CANONICAL` maps to these bytes. -/
def canonicalBytes (canonicalAtParse : Bytes) (st : ThreatHintV2Statement) : Option Bytes :=
  if ¬ st.validateState then none
  else do
    let canonical ← dumpsUtf8 (document st.payload)
    if canonical = [] ∨ maxCanonicalV2StatementBytes < canonical.length then none
    else if canonical ≠ canonicalAtParse then none
    else some canonical

def statementDigest (sha256 : Bytes → Bytes) (canonicalAtParse : Bytes)
    (st : ThreatHintV2Statement) : Option Bytes :=
  (st.canonicalBytes canonicalAtParse).map fun canonical =>
    sha256 (digestFrame statementDigestDomain canonical)

def parseCanonical (floatRepr : Str → Str) (wireBytes : Bytes) (trustedNetworkId : Str) :
    Option ThreatHintV2Statement :=
  if wireBytes = [] ∨ maxCanonicalV2StatementBytes < wireBytes.length then none
  else if ¬ matchesNetworkId trustedNetworkId then none
  else do
    let statement ← (readObject floatRepr wireBytes).bind parseObject
    if statement.networkId ≠ trustedNetworkId then none
    else if statement.canonicalBytes wireBytes ≠ some wireBytes then none
    else some statement

end ThreatHintV2Statement

end Python

/-! ## The Python parser is canonical -/

namespace Python.ThreatHintV2Statement

/-- The checks of a statement. -/
structure Checked (st : ThreatHintV2Statement) : Prop where
  schemaVersion : st.schemaVersion = 2
  confidenceBps : 1 ≤ st.confidenceBps ∧ st.confidenceBps ≤ confidenceBpsMax
  observedAt : 1 ≤ st.observedAt ∧ st.observedAt ≤ u64Max
  artifactHash : isHash st.artifactHash = true
  observableCommitment : isHash st.observableCommitment = true
  reportNonce : isHash st.reportNonce = true
  networkId : IsNetworkId st.networkId

theorem validateState_iff {st : ThreatHintV2Statement} :
    st.validateState = true ↔ st.Checked := by
  unfold validateState
  constructor
  · intro h
    split at h
    · cases h
    rename_i schemaVersion
    split at h
    · cases h
    rename_i confidenceBps
    split at h
    · cases h
    rename_i observedAt
    simp only [Bool.and_eq_true, matchesNetworkId_iff] at h
    obtain ⟨⟨⟨artifactHash, observableCommitment⟩, reportNonce⟩, networkId⟩ := h
    exact ⟨not_not.mp schemaVersion, not_not.mp confidenceBps, not_not.mp observedAt, artifactHash,
      observableCommitment, reportNonce, networkId⟩
  · intro h
    rw [if_neg (not_not.mpr h.schemaVersion), if_neg (not_not.mpr h.confidenceBps),
      if_neg (not_not.mpr h.observedAt)]
    simp only [Bool.and_eq_true, matchesNetworkId_iff]
    exact ⟨⟨⟨h.artifactHash, h.observableCommitment⟩, h.reportNonce⟩, h.networkId⟩

theorem vocabulary_plain : ∀ names ∈ [keys,
    threatHintV2DisclosureClasses.map ThreatHintV2DisclosureClass.value], Plain names := by
  decide

theorem keys_plain : Plain keys := vocabulary_plain _ (by simp)

theorem classes_plain :
    Plain (threatHintV2DisclosureClasses.map ThreatHintV2DisclosureClass.value) :=
  vocabulary_plain _ (by simp)

theorem mem_classes (c : ThreatHintV2DisclosureClass) : c ∈ threatHintV2DisclosureClasses := by
  cases c <;> decide

theorem Checked.small {st : ThreatHintV2Statement} (h : st.Checked) :
    IsU64 st.schemaVersion ∧ IsU64 st.confidenceBps ∧ IsU64 st.observedAt := by
  have schemaVersion := h.schemaVersion
  have confidenceBps := h.confidenceBps
  rw [confidenceBpsMax] at confidenceBps
  have observedAt := h.observedAt
  refine ⟨.of_le ?_ ?_, .of_le ?_ ?_, ?_, observedAt.2⟩ <;> omega

theorem readable_payload {st : ThreatHintV2Statement} (h : st.Checked) :
    Readable (document st.payload) := by
  obtain ⟨schemaVersion, confidenceBps, observedAt⟩ := h.small
  refine readable_document (show _ = keys from rfl) keys_plain.distinct keys_plain.ascii ?_
  simp only [payload, List.forall_mem_cons]
  exact ⟨readable_int schemaVersion, readable_string (isAscii_of_isHash h.artifactHash),
    readable_string (isAscii_of_isHash h.observableCommitment), readable_int confidenceBps,
    readable_string (classes_plain.isAscii (mem_classes _)), readable_string (isAscii_of_isHash h.reportNonce),
    readable_int observedAt, readable_string h.networkId.isAscii, by simp⟩

/-- A checked statement fits its bound. -/
theorem Checked.bounded {st : ThreatHintV2Statement} (h : st.Checked) :
    (dump st.payload).length ≤ 512 := by
  obtain ⟨small, smallConfidence, smallTime⟩ := h.small
  have schemaVersion := length_int_le small
  have confidenceBps := length_int_le smallConfidence
  have observedAt := length_int_le smallTime
  have artifactHash := length_hash h.artifactHash
  have observableCommitment := length_hash h.observableCommitment
  have reportNonce := length_hash h.reportNonce
  have networkId := length_networkId_le h.networkId
  have names : (keys.map fun key => (quoteRaw (str key)).length + 2).sum ≤ 143 ∧
      ∀ c ∈ threatHintV2DisclosureClasses,
        (quoteRaw (str (ThreatHintV2DisclosureClass.value c))).length ≤ 20 := by
    decide
  have disclosureClass : ((Json.string (str (ThreatHintV2DisclosureClass.value
      st.disclosureClass))).compact quoteRaw).length ≤ 20 :=
    names.2 _ (mem_classes st.disclosureClass)
  have total := length_dump_le (show st.payload.map Prod.fst = keys from rfl)
  simp only [payload, List.map_cons, List.map_nil, List.sum_cons, List.sum_nil] at total ⊢
  omega

/-- A checked statement is what its payload parses to. -/
theorem parseObject_payload {st : ThreatHintV2Statement} (h : st.Checked) :
    parseObject (st.payload.map fun f => (str f.1, f.2)) = some st := by
  obtain ⟨small, smallConfidence, smallTime⟩ := h.small
  have unique : ((st.payload.map Prod.fst).map str).Nodup := keys_plain.distinct
  have schemaVersion := exactInt_document unique "schema_version" (by simp [payload]) small
  have confidenceBps :=
    exactInt_document unique "confidence_bps" (by simp [payload]) smallConfidence
  have observedAt := exactInt_document unique "observed_at" (by simp [payload]) smallTime
  have artifactHash :=
    fixedLowerHex_document unique "artifact_hash" (by simp [payload]) h.artifactHash
  have observableCommitment := fixedLowerHex_document unique "observable_commitment"
    (by simp [payload]) h.observableCommitment
  have reportNonce :=
    fixedLowerHex_document unique "report_nonce" (by simp [payload]) h.reportNonce
  have disclosureClass := enumValue_document unique "disclosure_class" (classes_plain.nodup _)
    (mem_classes st.disclosureClass) (by simp [payload])
  have networkId := networkIdField_document unique "network_id" (by simp [payload]) h.networkId
  rw [parseObject, if_neg (by rw [keys_document]; exact fun differs => differs rfl)]
  simp only [schemaVersion, confidenceBps, observedAt, artifactHash, observableCommitment,
    reportNonce, disclosureClass, networkId, Option.bind_eq_bind, Option.bind_some]
  rw [if_neg]
  have := h.confidenceBps
  have := h.observedAt
  simp only [h.schemaVersion, ne_eq, not_true_eq_false, false_or]
  omega

/-- The reader reads back what was dumped. -/
theorem readsBack (floatRepr : Str → Str) :
    Canonical.ReadsBack (fun wire => (readObject floatRepr wire).bind parseObject) Checked
      fun st => dump st.payload := by
  intro st h
  show (readObject floatRepr _).bind parseObject = some st
  rw [readObject_document floatRepr (readable_payload h), Option.bind_some,
    parseObject_payload h]

theorem canonicalBytes_iff {st : ThreatHintV2Statement} {canonicalAtParse wire : Bytes} :
    st.canonicalBytes canonicalAtParse = some wire ↔
      st.Checked ∧ dump st.payload = canonicalAtParse ∧ dump st.payload = wire := by
  unfold canonicalBytes
  rw [Option.ite_none_left_eq_some, not_not, validateState_iff]
  refine and_congr_right fun checked => ?_
  have bounded := checked.bounded
  rw [dumpsUtf8_document (readable_payload checked), Option.bind_eq_bind, Option.bind_some,
    if_neg (by simp only [dump_ne_nil, false_or, maxCanonicalV2StatementBytes]; omega),
    Option.ite_none_left_eq_some, not_not, Option.some.injEq]

theorem canonical (floatRepr : Str → Str) (network : Str) :
    Canonical (parseCanonical floatRepr · network) (fun st => st.Checked ∧ st.networkId = network)
      fun st => dump st.payload := by
  refine .of_readsBack (readsBack floatRepr) (fun st h => h.1) fun wire st => ?_
  simp only [parseCanonical, Option.ite_none_left_eq_some, Option.bind_eq_bind,
    Option.bind_eq_some_iff, not_not, ne_eq, canonicalBytes_iff, and_self, Option.some.injEq]
  constructor
  · rintro ⟨-, -, st', isRead, trusted, ⟨checked, same⟩, rfl⟩
    exact ⟨isRead, ⟨checked, trusted⟩, same⟩
  · rintro ⟨isRead, ⟨checked, rfl⟩, rfl⟩
    have bounded := checked.bounded
    refine ⟨?_, matchesNetworkId_iff.mpr checked.networkId, st, isRead, rfl, ⟨checked, rfl⟩, rfl⟩
    simp only [dump_ne_nil, false_or, maxCanonicalV2StatementBytes]
    omega

end Python.ThreatHintV2Statement

/-! ## The Rust parser is canonical -/

namespace Rust.ThreatHintV2Statement

/-- The statement in Python's types. -/
def toPython (st : ThreatHintV2Statement) : Python.ThreatHintV2Statement where
  schemaVersion := st.schemaVersion.toNat
  artifactHash := st.artifactHash.map UInt8.toNat
  observableCommitment := st.observableCommitment.map UInt8.toNat
  confidenceBps := st.confidenceBps.toNat
  disclosureClass := st.disclosureClass
  reportNonce := st.reportNonce.map UInt8.toNat
  observedAt := st.observedAt.toNat
  networkId := st.networkId.map UInt8.toNat

/-- The statement in Rust's types. -/
def ofPython (st : Python.ThreatHintV2Statement) : ThreatHintV2Statement where
  schemaVersion := UInt16.ofNat st.schemaVersion.toNat
  artifactHash := encodeAscii st.artifactHash
  observableCommitment := encodeAscii st.observableCommitment
  confidenceBps := UInt16.ofNat st.confidenceBps.toNat
  disclosureClass := st.disclosureClass
  reportNonce := encodeAscii st.reportNonce
  observedAt := UInt64.ofNat st.observedAt.toNat
  networkId := encodeAscii st.networkId

theorem ofPython_toPython (st : ThreatHintV2Statement) : ofPython st.toPython = st := by
  simp [ofPython, toPython, encodeAscii_toNat]

theorem toPython_ofPython {st : Python.ThreatHintV2Statement} (h : st.Checked) :
    (ofPython st).toPython = st := by
  obtain ⟨small, smallConfidence, smallTime⟩ := h.small
  have schemaVersion : st.schemaVersion < 2 ^ 16 := by
    have := h.schemaVersion
    omega
  have confidenceBps : st.confidenceBps < 2 ^ 16 := by
    have := h.confidenceBps
    rw [Python.ThreatHintV2Statement.confidenceBpsMax] at this
    omega
  have artifactHash := map_toNat_encodeAscii (isAscii_of_isHash h.artifactHash).small
  have commitment := map_toNat_encodeAscii (isAscii_of_isHash h.observableCommitment).small
  have reportNonce := map_toNat_encodeAscii (isAscii_of_isHash h.reportNonce).small
  have networkId := map_toNat_encodeAscii h.networkId.isAscii.small
  unfold toPython ofPython
  simp only [toNat_ofNat_16 small.1 schemaVersion, toNat_ofNat_16 smallConfidence.1 confidenceBps,
    toNat_ofNat_64 smallTime, artifactHash, commitment, reportNonce, networkId]

theorem name_eq (c : ThreatHintV2DisclosureClass) :
    ThreatHintV2DisclosureClass.name c = Python.ThreatHintV2DisclosureClass.value c := by
  cases c <;> rfl

/-- Both languages write the same bytes. -/
theorem toVec_eq (st : ThreatHintV2Statement) : st.toVec = dump st.toPython.payload := by
  rw [← serdeStruct_dump, toVec, name_eq]
  simp only [serdeNat_eq, serdeString_eq]
  rfl

/-- Both languages make the same checks. -/
theorem validate_iff {st : ThreatHintV2Statement} : st.validate = true ↔ st.toPython.Checked := by
  have schemaVersion : st.schemaVersion = 2 ↔ (st.schemaVersion.toNat : Int) = 2 := toNat_eq_16
  have unsure : st.confidenceBps = 0 ↔ (st.confidenceBps.toNat : Int) = 0 := toNat_eq_16
  have oversure : 10000 < st.confidenceBps ↔ 10000 < st.confidenceBps.toNat := UInt16.lt_iff_toNat_lt
  have positive : st.observedAt = 0 ↔ (st.observedAt.toNat : Int) = 0 := toNat_eq_64
  have timeSmall := st.observedAt.toNat_lt
  unfold validate
  constructor
  · intro h
    split at h
    · cases h
    rename_i checks
    simp only [not_or, not_not, isFixedLowerHex_eq, schemaVersion, unsure, oversure,
      positive] at checks
    obtain ⟨version, artifact, commitment, sure, bounded, nonce, time⟩ := checks
    refine ⟨version, ⟨?_, ?_⟩, ⟨?_, ?_⟩, artifact, commitment, nonce,
      validateNetworkId_iff.mp h⟩
    · show (1 : Int) ≤ st.confidenceBps.toNat
      omega
    · show (st.confidenceBps.toNat : Int) ≤ 10000
      omega
    · show (1 : Int) ≤ st.observedAt.toNat
      omega
    · show (st.observedAt.toNat : Int) ≤ 2 ^ 64 - 1
      omega
  · intro h
    have confidence : (1 : Int) ≤ st.confidenceBps.toNat ∧ (st.confidenceBps.toNat : Int) ≤ 10000 :=
      h.confidenceBps
    have time : (1 : Int) ≤ st.observedAt.toNat := h.observedAt.1
    rw [if_neg]
    · exact validateNetworkId_iff.mpr h.networkId
    simp only [not_or, not_not, isFixedLowerHex_eq, schemaVersion, unsure, oversure, positive]
    exact ⟨h.schemaVersion, h.artifactHash, h.observableCommitment, by omega, by omega,
      h.reportNonce, by omega⟩

theorem toCanonicalBytes_iff {st : ThreatHintV2Statement} {wire : Bytes} :
    st.toCanonicalBytes = some wire ↔
      st.toPython.Checked ∧ dump st.toPython.payload = wire := by
  unfold toCanonicalBytes
  rw [Option.ite_none_left_eq_some, not_not, validate_iff]
  refine and_congr_right fun checked => ?_
  have bounded := checked.bounded
  rw [toVec_eq, if_neg, Option.some.injEq]
  simp only [dump_ne_nil, false_or, maxCanonicalV2StatementBytes]
  omega

/-- `serde_json` reads back the statements that it wrote. -/
def ReadsBack (fromSlice : Bytes → Option ThreatHintV2Statement) : Prop :=
  Canonical.ReadsBack fromSlice (fun st => st.validate = true) toVec

theorem canonical {fromSlice : Bytes → Option ThreatHintV2Statement}
    (readsBack : ReadsBack fromSlice) {network : Str} {networkBytes : Bytes}
    (sameNetwork : encodeUtf8 network = some networkBytes) :
    Canonical (parseCanonical fromSlice · networkBytes)
      (fun st => st.toPython.Checked ∧ st.toPython.networkId = network) toVec := by
  refine .of_readsBack readsBack (fun st h => validate_iff.mpr h.1) fun wire st => ?_
  simp only [parseCanonical, Option.ite_none_left_eq_some, Option.bind_eq_bind,
    Option.bind_eq_some_iff, not_not, ne_eq, toCanonicalBytes_iff, Option.some.injEq, toVec_eq]
  constructor
  · rintro ⟨-, -, st', isRead, -, rfl, ⟨checked, same⟩, rfl⟩
    exact ⟨isRead, ⟨checked, toNat_encodeUtf8 sameNetwork (.inl checked.networkId.isAscii)⟩, same⟩
  · rintro ⟨isRead, ⟨checked, trusted⟩, rfl⟩
    have bounded := checked.bounded
    have sameBytes := eq_encodeUtf8 sameNetwork checked.networkId trusted
    refine ⟨?_, ?_, st, isRead, validate_iff.mpr checked, sameBytes, ⟨checked, rfl⟩, rfl⟩
    · simp only [dump_ne_nil, false_or, maxCanonicalV2StatementBytes]
      omega
    · exact sameBytes ▸ validateNetworkId_iff.mpr checked.networkId

end Rust.ThreatHintV2Statement

/-! ## Agreement -/

/-- The two statements expose the same fields. -/
structure SameStatement (rust : Rust.ThreatHintV2Statement)
    (python : Python.ThreatHintV2Statement) : Prop where
  schemaVersion : python.schemaVersion = rust.schemaVersion.toNat
  artifactHash : encodeUtf8 python.artifactHash = some rust.artifactHash
  observableCommitment : encodeUtf8 python.observableCommitment = some rust.observableCommitment
  confidenceBps : python.confidenceBps = rust.confidenceBps.toNat
  disclosureClass : python.disclosureClass = rust.disclosureClass
  reportNonce : encodeUtf8 python.reportNonce = some rust.reportNonce
  observedAt : python.observedAt = rust.observedAt.toNat
  networkId : encodeUtf8 python.networkId = some rust.networkId

theorem sameStatement_toPython {st : Rust.ThreatHintV2Statement} (h : st.toPython.Checked) :
    SameStatement st st.toPython where
  schemaVersion := rfl
  artifactHash := encodeUtf8_toNat (isAscii_of_isHash h.artifactHash)
  observableCommitment := encodeUtf8_toNat (isAscii_of_isHash h.observableCommitment)
  confidenceBps := rfl
  disclosureClass := rfl
  reportNonce := encodeUtf8_toNat (isAscii_of_isHash h.reportNonce)
  observedAt := rfl
  networkId := encodeUtf8_toNat h.networkId.isAscii

/-- The parsers agree up to the types of the fields. -/
theorem statement_parse_eq {fromSlice : Bytes → Option Rust.ThreatHintV2Statement}
    (readsBack : Rust.ThreatHintV2Statement.ReadsBack fromSlice) (floatRepr : Str → Str)
    {network : Str} {networkBytes : Bytes} (sameNetwork : encodeUtf8 network = some networkBytes)
    (wire : Bytes) :
    Python.ThreatHintV2Statement.parseCanonical floatRepr wire network =
      (Rust.ThreatHintV2Statement.parseCanonical fromSlice wire networkBytes).map
        Rust.ThreatHintV2Statement.toPython := by
  refine (Rust.ThreatHintV2Statement.canonical readsBack sameNetwork).agree
    (Python.ThreatHintV2Statement.canonical floatRepr network) _ (fun st h => ?_) (fun st h => ?_)
    wire
  · exact ⟨h, (Rust.ThreatHintV2Statement.toVec_eq st).symm⟩
  · have same := Rust.ThreatHintV2Statement.toPython_ofPython h.1
    exact ⟨.ofPython st, by rwa [same], same⟩

/-- Both statements have the digest of the canonical bytes. -/
theorem statement_digest_eq (sha256 : Bytes → Bytes) {st : Rust.ThreatHintV2Statement}
    {wire : Bytes} (checked : st.toPython.Checked) (same : dump st.toPython.payload = wire) :
    st.statementDigest sha256 =
        some (sha256 (digestFrame Rust.ThreatHintV2Statement.statementDigestDomain wire)) ∧
      st.toPython.statementDigest sha256 wire =
        some (sha256 (digestFrame Rust.ThreatHintV2Statement.statementDigestDomain wire)) := by
  have rustBytes := Rust.ThreatHintV2Statement.toCanonicalBytes_iff.mpr ⟨checked, same⟩
  have pythonBytes := Python.ThreatHintV2Statement.canonicalBytes_iff.mpr ⟨checked, same, same⟩
  have bounded := checked.bounded
  rw [Rust.ThreatHintV2Statement.statementDigest, Python.ThreatHintV2Statement.statementDigest,
    rustBytes, pythonBytes, Option.bind_eq_bind, Option.bind_some, Option.map_some, if_pos]
  · exact ⟨rfl, rfl⟩
  · rw [← same]
    omega

end Prometheus.ThreatHint
