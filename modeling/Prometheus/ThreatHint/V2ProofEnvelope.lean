import Prometheus.ThreatHint.V2Statement

/-!
# Proof envelopes of the second threat hint in the two languages

`threat-hint/src/threat_hint_v2_proof_envelope.rs` and `jaeger/threat_hint_v2_proof_envelope.py`. An
envelope carries the canonical text of a statement, and keeps the statement that was parsed from it.
-/

namespace Prometheus.ThreatHint

open Prometheus.Codec

/-- `MAX_CANONICAL_V2_PROOF_ENVELOPE_BYTES`. -/
def maxCanonicalV2ProofEnvelopeBytes : Nat := 4096

/-- `MIN_PROOF_BYTES`. -/
def minProofBytes : Nat := 1

/-- `MAX_PROOF_BYTES`. -/
def maxProofBytes : Nat := 1024

/-! ## Rust -/

namespace Rust

/-- `is_valid_proof_hex`. -/
def isValidProofHex (value : Bytes) : Bool :=
  if ¬ value.length % 2 = 0 ∨ ¬ value.all (fun b => isLowerHex b.toNat) then false
  else decide (minProofBytes ≤ value.length / 2) && decide (value.length / 2 ≤ maxProofBytes)

/-- The fields that are written and read. -/
structure ThreatHintV2ProofEnvelopeWire where
  schemaVersion : UInt16
  protocolId : Bytes
  relationId : Bytes
  statement : Bytes
  statementDigest : Bytes
  proof : Bytes
  deriving DecidableEq, Repr

structure ThreatHintV2ProofEnvelope extends ThreatHintV2ProofEnvelopeWire where
  parsedStatement : ThreatHintV2Statement
  deriving DecidableEq, Repr

namespace ThreatHintV2ProofEnvelope

/-- `THREAT_HINT_V2_PROTOCOL_ID`. -/
def threatHintV2ProtocolId : Bytes := ascii "/prometheus/threat-hint/2.0.0"

/-- `THREAT_HINT_V2_RELATION_ID`. -/
def threatHintV2RelationId : Bytes := ascii "prometheus-threat-hint-v2"

def validate (env : ThreatHintV2ProofEnvelope) : Bool :=
  if env.schemaVersion ≠ 2 ∨ env.protocolId ≠ threatHintV2ProtocolId ∨
      env.relationId ≠ threatHintV2RelationId ∨ ¬ isFixedLowerHex env.statementDigest ∨
      ¬ isValidProofHex env.proof then
    false
  else true

def validateStatementBinding (sha256 : Bytes → Bytes) (env : ThreatHintV2ProofEnvelope) : Bool :=
  match env.parsedStatement.toCanonicalBytes with
  | none => false
  | some statementBytes =>
    if env.statement ≠ statementBytes then false
    else
      match env.parsedStatement.statementDigest sha256 with
      | none => false
      | some digest => decide (encodeAscii (hex digest) = env.statementDigest)

/-- `serde_json::to_vec`. -/
def toVec (env : ThreatHintV2ProofEnvelope) : Bytes :=
  serdeStruct
    [("schema_version", serdeNat env.schemaVersion.toNat),
      ("protocol_id", serdeString env.protocolId),
      ("relation_id", serdeString env.relationId),
      ("statement", serdeString env.statement),
      ("statement_digest", serdeString env.statementDigest),
      ("proof", serdeString env.proof)]

def toCanonicalBytes (sha256 : Bytes → Bytes) (env : ThreatHintV2ProofEnvelope) : Option Bytes :=
  if ¬ env.validate then none
  else if ¬ env.validateStatementBinding sha256 then none
  else
    let bytes := env.toVec
    if bytes = [] ∨ maxCanonicalV2ProofEnvelopeBytes < bytes.length then none else some bytes

def parseCanonical (sha256 : Bytes → Bytes)
    (fromSlice : Bytes → Option ThreatHintV2ProofEnvelopeWire)
    (statementFromSlice : Bytes → Option ThreatHintV2Statement)
    (wireBytes trustedNetworkId : Bytes) : Option ThreatHintV2ProofEnvelope :=
  if wireBytes = [] ∨ maxCanonicalV2ProofEnvelopeBytes < wireBytes.length then none
  else if ¬ validateNetworkId trustedNetworkId then none
  else do
    let wire ← fromSlice wireBytes
    let parsedStatement ←
      ThreatHintV2Statement.parseCanonical statementFromSlice wire.statement trustedNetworkId
    let envelope : ThreatHintV2ProofEnvelope := { wire with parsedStatement }
    if ¬ envelope.validate then none
    else if ¬ envelope.validateStatementBinding sha256 then none
    else if envelope.toCanonicalBytes sha256 ≠ some wireBytes then none
    else some envelope

end ThreatHintV2ProofEnvelope

end Rust

/-! ## Python -/

namespace Python

/-- `_proof_hex`. -/
def isProofHex (s : Str) : Bool :=
  if s.length % 2 ≠ 0 ∨ ¬ s.all isLowerHex then false
  else decide (minProofBytes ≤ s.length / 2) && decide (s.length / 2 ≤ maxProofBytes)

/-- `_proof_hex` of a value. -/
def proofHex (value : Option Json) : Option Str := (value.bind Json.asString).filter isProofHex

/-- `_exact_schema_version`. -/
def exactSchemaVersion (value : Option Json) : Option Int :=
  (value.bind Json.asInt).filter fun n => n = 2

structure ThreatHintV2ProofEnvelope where
  schemaVersion : Int
  protocolId : Str
  relationId : Str
  statement : Str
  statementDigest : Str
  proof : Str
  parsedStatement : ThreatHintV2Statement
  /-- What `_PARSED_CANONICAL` of the statements maps `parsedStatement` to. -/
  statementAtParse : Bytes
  deriving DecidableEq, Repr

namespace ThreatHintV2ProofEnvelope

/-- `PROTOCOL_ID`. -/
def protocolIdentifier : Str := str "/prometheus/threat-hint/2.0.0"

/-- `RELATION_ID`. -/
def relationIdentifier : Str := str "prometheus-threat-hint-v2"

/-- The keys of an envelope, in their order. -/
def keys : List String :=
  ["schema_version", "protocol_id", "relation_id", "statement", "statement_digest", "proof"]

/-- `_parse_object`. -/
def parseObject (sha256 : Bytes → Bytes) (floatRepr : Str → Str) (trustedNetworkId : Str)
    (fields : List (Str × Json)) : Option ThreatHintV2ProofEnvelope :=
  if fields.map Prod.fst ≠ keys.map str then none
  else do
    let schemaVersion ← exactSchemaVersion (Json.field fields (str "schema_version"))
    let protocolId ← exactString (Json.field fields (str "protocol_id")) protocolIdentifier
    let relationId ← exactString (Json.field fields (str "relation_id")) relationIdentifier
    let statementDigest ← fixedLowerHex (Json.field fields (str "statement_digest"))
    let proof ← proofHex (Json.field fields (str "proof"))
    let statement ← (Json.field fields (str "statement")).bind Json.asString
    let statementAtParse ← encodeUtf8 statement
    let parsedStatement ←
      ThreatHintV2Statement.parseCanonical floatRepr statementAtParse trustedNetworkId
    let digest ← parsedStatement.statementDigest sha256 statementAtParse
    if hex digest ≠ statementDigest then none
    else some { schemaVersion, protocolId, relationId, statement, statementDigest, proof,
                parsedStatement, statementAtParse }

/-- `_validate_state`. -/
def validateState (sha256 : Bytes → Bytes) (env : ThreatHintV2ProofEnvelope) : Bool :=
  decide (env.schemaVersion = 2) && decide (env.protocolId = protocolIdentifier) &&
    decide (env.relationId = relationIdentifier) && isHash env.statementDigest &&
    isProofHex env.proof &&
    match env.parsedStatement.canonicalBytes env.statementAtParse,
        encodeUtf8 env.statement with
    | some canonical, some encoded =>
      if canonical ≠ encoded then false
      else
        match env.parsedStatement.statementDigest sha256 env.statementAtParse with
        | none => false
        | some digest => decide (hex digest = env.statementDigest)
    | _, _ => false

def payload (env : ThreatHintV2ProofEnvelope) : List (String × Json) :=
  [("schema_version", .int env.schemaVersion),
    ("protocol_id", .string env.protocolId),
    ("relation_id", .string env.relationId),
    ("statement", .string env.statement),
    ("statement_digest", .string env.statementDigest),
    ("proof", .string env.proof)]

/-- `canonical_bytes` of an envelope that `_PARSED_CANONICAL` maps to these bytes. -/
def canonicalBytes (sha256 : Bytes → Bytes) (canonicalAtParse : Bytes)
    (env : ThreatHintV2ProofEnvelope) : Option Bytes :=
  if ¬ env.validateState sha256 then none
  else do
    let canonical ← dumpsUtf8 (document env.payload)
    if canonical = [] ∨ maxCanonicalV2ProofEnvelopeBytes < canonical.length then none
    else if canonical ≠ canonicalAtParse then none
    else some canonical

def parseCanonical (sha256 : Bytes → Bytes) (floatRepr : Str → Str) (wireBytes : Bytes)
    (trustedNetworkId : Str) : Option ThreatHintV2ProofEnvelope :=
  if wireBytes = [] ∨ maxCanonicalV2ProofEnvelopeBytes < wireBytes.length then none
  else do
    let envelope ←
      (readObject floatRepr wireBytes).bind (parseObject sha256 floatRepr trustedNetworkId)
    if envelope.canonicalBytes sha256 wireBytes ≠ some wireBytes then none
    else some envelope

end ThreatHintV2ProofEnvelope

end Python

/-! ## The Python parser is canonical -/

theorem isProofHex_iff {s : Str} : Python.isProofHex s = true ↔
    s.length % 2 = 0 ∧ (∀ c ∈ s, isLowerHex c = true) ∧ minProofBytes ≤ s.length / 2 ∧
      s.length / 2 ≤ maxProofBytes := by
  unfold Python.isProofHex
  by_cases shape : s.length % 2 ≠ 0 ∨ ¬ s.all isLowerHex
  · rw [if_pos shape]
    rw [List.all_eq_true] at shape
    refine iff_of_false Bool.false_ne_true ?_
    rintro ⟨even, hexDigits, -⟩
    exact shape.elim (fun odd => odd even) fun other => other hexDigits
  · rw [if_neg shape, Bool.and_eq_true, decide_eq_true_eq, decide_eq_true_eq]
    simp only [ne_eq, not_or, not_not, List.all_eq_true] at shape
    exact ⟨fun range => ⟨shape.1, shape.2, range⟩, fun h => h.2.2⟩

theorem isValidProofHex_eq (value : Bytes) :
    Rust.isValidProofHex value = Python.isProofHex (value.map UInt8.toNat) := by
  simp only [Rust.isValidProofHex, Python.isProofHex, toNat_all isLowerHex, List.length_map, ne_eq]

theorem proofHex_some {value : Option Json} {s : Str} :
    Python.proofHex value = some s ↔ value = some (.string s) ∧ Python.isProofHex s = true := by
  rw [Python.proofHex, Option.filter_eq_some_iff, Python.asString_some]

theorem exactSchemaVersion_some {value : Option Json} {n : Int} :
    Python.exactSchemaVersion value = some n ↔ value = some (.int n) ∧ n = 2 := by
  rw [Python.exactSchemaVersion, Option.filter_eq_some_iff, Python.asInt_some, decide_eq_true_eq]

theorem isAscii_of_isProofHex {s : Str} (h : Python.isProofHex s = true) : IsAscii s := by
  intro c hc
  have hexDigit := (isProofHex_iff.mp h).2.1 c hc
  simp only [isLowerHex, Bool.or_eq_true, Bool.and_eq_true, decide_eq_true_eq] at hexDigit
  omega

theorem length_proofHex_le {s : Str} (h : Python.isProofHex s = true) :
    ((Json.string s).compact quoteRaw).length ≤ 2050 := by
  obtain ⟨even, hexDigits, -, long⟩ := isProofHex_iff.mp h
  rw [maxProofBytes] at long
  rw [Json.compact, length_quoteRaw]
  · omega
  intro c hc
  have hexDigit := hexDigits c hc
  simp only [isLowerHex, Bool.or_eq_true, Bool.and_eq_true, decide_eq_true_eq] at hexDigit
  omega

namespace Python.ThreatHintV2ProofEnvelope

variable (sha256 : Bytes → Bytes)

/-- The checks of an envelope. -/
structure Checked (env : ThreatHintV2ProofEnvelope) : Prop where
  schemaVersion : env.schemaVersion = 2
  protocolId : env.protocolId = protocolIdentifier
  relationId : env.relationId = relationIdentifier
  statementDigest : isHash env.statementDigest = true
  proof : isProofHex env.proof = true
  parsed : env.parsedStatement.Checked
  statementAtParse : dump env.parsedStatement.payload = env.statementAtParse
  statement : encodeUtf8 env.statement = some env.statementAtParse
  binding : hex (sha256 (digestFrame ThreatHintV2Statement.statementDigestDomain
    env.statementAtParse)) = env.statementDigest

variable {sha256}

theorem validateState_iff {env : ThreatHintV2ProofEnvelope} :
    env.validateState sha256 = true ↔ env.Checked sha256 := by
  unfold validateState
  simp only [Bool.and_eq_true, decide_eq_true_eq]
  constructor
  · rintro ⟨⟨⟨⟨⟨schemaVersion, protocolId⟩, relationId⟩, statementDigest⟩, proof⟩, h⟩
    split at h
    case h_2 => cases h
    rename_i canonical encoded isCanonical isEncoded
    split at h
    · cases h
    rename_i same
    split at h
    · cases h
    rename_i digest isDigest
    obtain ⟨parsed, atParse, atDump⟩ := ThreatHintV2Statement.canonicalBytes_iff.mp isCanonical
    obtain rfl := not_not.mp same
    rw [ThreatHintV2Statement.statementDigest, isCanonical, Option.map_some] at isDigest
    obtain rfl := Option.some.inj isDigest
    obtain rfl := atParse.symm.trans atDump
    exact ⟨schemaVersion, protocolId, relationId, statementDigest, proof, parsed, atParse,
      isEncoded, of_decide_eq_true h⟩
  · intro h
    have isCanonical := ThreatHintV2Statement.canonicalBytes_iff.mpr
      ⟨h.parsed, h.statementAtParse, h.statementAtParse⟩
    refine ⟨⟨⟨⟨⟨h.schemaVersion, h.protocolId⟩, h.relationId⟩, h.statementDigest⟩, h.proof⟩, ?_⟩
    simp [isCanonical, h.statement, ThreatHintV2Statement.statementDigest, h.binding]

theorem keys_plain : Plain keys := by decide

theorem isAscii_identifiers : IsAscii protocolIdentifier ∧ IsAscii relationIdentifier := by
  unfold IsAscii
  decide

/-- The statement of a checked envelope is the text of its parsed statement. -/
theorem Checked.statement_eq {env : ThreatHintV2ProofEnvelope} (h : env.Checked sha256) :
    env.statement = (document env.parsedStatement.payload).compact quoteRaw := by
  have readable := ThreatHintV2Statement.readable_payload h.parsed
  have text := isAscii_compact _ readable.ascii
  have encoded := h.statement
  rw [← h.statementAtParse] at encoded
  obtain ⟨isAscii, same⟩ := ascii_of_encodeUtf8 encoded (ascii_encodeAscii text)
  exact (encodeAscii_inj text.small isAscii.small same).symm

theorem Checked.isAscii {env : ThreatHintV2ProofEnvelope} (h : env.Checked sha256) :
    IsAscii env.statement := by
  rw [h.statement_eq]
  exact isAscii_compact _ (ThreatHintV2Statement.readable_payload h.parsed).ascii

theorem readable_payload {env : ThreatHintV2ProofEnvelope} (h : env.Checked sha256) :
    Readable (document env.payload) := by
  obtain ⟨protocol, relation⟩ := isAscii_identifiers
  refine readable_document (show _ = keys from rfl) keys_plain.distinct keys_plain.ascii ?_
  simp only [payload, List.forall_mem_cons, h.schemaVersion, h.protocolId, h.relationId]
  exact ⟨readable_int (.of_le (by decide) (by decide)), readable_string protocol,
    readable_string relation, readable_string h.isAscii,
    readable_string (isAscii_of_isHash h.statementDigest),
    readable_string (isAscii_of_isProofHex h.proof), by simp⟩

/-- A checked envelope fits its bound. -/
theorem Checked.bounded {env : ThreatHintV2ProofEnvelope} (h : env.Checked sha256) :
    (dump env.payload).length ≤ maxCanonicalV2ProofEnvelopeBytes := by
  have names : (keys.map fun key => (quoteRaw (str key)).length + 2).sum ≤ 90 ∧
      (quoteRaw protocolIdentifier).length = 31 ∧ (quoteRaw relationIdentifier).length = 27 := by
    decide
  have protocolId : ((Json.string env.protocolId).compact quoteRaw).length = 31 := by
    rw [h.protocolId]
    exact names.2.1
  have relationId : ((Json.string env.relationId).compact quoteRaw).length = 27 := by
    rw [h.relationId]
    exact names.2.2
  have schemaVersion := length_int_le (.of_le (i := env.schemaVersion)
    (by rw [h.schemaVersion]; decide) (by rw [h.schemaVersion]; decide))
  have statementDigest := length_hash h.statementDigest
  have proof := length_proofHex_le h.proof
  have statement : ((Json.string env.statement).compact quoteRaw).length ≤ 1026 := by
    have bounded := h.parsed.bounded
    have readable := ThreatHintV2Statement.readable_payload h.parsed
    have escaped := length_quoteRaw_le readable.printable
    rw [dump, encodeAscii, List.length_map] at bounded
    rw [Json.compact, h.statement_eq]
    omega
  have total := length_dump_le (show env.payload.map Prod.fst = keys from rfl)
  simp only [payload, List.map_cons, List.map_nil, List.sum_cons, List.sum_nil] at total ⊢
  rw [maxCanonicalV2ProofEnvelopeBytes]
  omega

/-- A checked envelope is what its payload parses to. -/
theorem parseObject_payload (floatRepr : Str → Str) {env : ThreatHintV2ProofEnvelope}
    (h : env.Checked sha256) :
    parseObject sha256 floatRepr env.parsedStatement.networkId
      (env.payload.map fun f => (str f.1, f.2)) = some env := by
  have unique : ((env.payload.map Prod.fst).map str).Nodup := keys_plain.distinct
  have schemaVersion : exactSchemaVersion
      (Json.field (env.payload.map fun f => (str f.1, f.2)) (str "schema_version")) =
        some env.schemaVersion :=
    exactSchemaVersion_some.mpr ⟨field_document unique (by simp [payload]), h.schemaVersion⟩
  have protocolId := exactString_document unique "protocol_id"
    (show ("protocol_id", .string protocolIdentifier) ∈ env.payload by
      simp [payload, h.protocolId])
  have relationId := exactString_document unique "relation_id"
    (show ("relation_id", .string relationIdentifier) ∈ env.payload by
      simp [payload, h.relationId])
  have statementDigest := fixedLowerHex_document unique "statement_digest" (by simp [payload])
    h.statementDigest
  have proof : proofHex (Json.field (env.payload.map fun f => (str f.1, f.2)) (str "proof")) =
      some env.proof :=
    proofHex_some.mpr ⟨field_document unique (by simp [payload]), h.proof⟩
  have statement : Json.field (env.payload.map fun f => (str f.1, f.2)) (str "statement") =
      some (.string env.statement) :=
    field_document unique (by simp [payload])
  have parsed : ThreatHintV2Statement.parseCanonical floatRepr env.statementAtParse
      env.parsedStatement.networkId = some env.parsedStatement := by
    rw [← h.statementAtParse]
    exact (ThreatHintV2Statement.canonical floatRepr _).parse_encode ⟨h.parsed, rfl⟩
  have digest : env.parsedStatement.statementDigest sha256 env.statementAtParse =
      some (sha256 (digestFrame ThreatHintV2Statement.statementDigestDomain
        env.statementAtParse)) := by
    rw [ThreatHintV2Statement.statementDigest, ThreatHintV2Statement.canonicalBytes_iff.mpr
      ⟨h.parsed, h.statementAtParse, h.statementAtParse⟩, Option.map_some]
  rw [parseObject, if_neg (by rw [keys_document]; exact fun differs => differs rfl)]
  simp only [schemaVersion, protocolId, relationId, statementDigest, proof, statement,
    Option.bind_eq_bind, Option.bind_some, Json.asString, h.statement, parsed, digest]
  rw [if_neg (not_not.mpr h.binding), ← h.protocolId, ← h.relationId]

/-- The reader reads back what was dumped. -/
theorem readsBack (floatRepr : Str → Str) (network : Str) :
    Canonical.ReadsBack
      (fun wire => (readObject floatRepr wire).bind (parseObject sha256 floatRepr network))
      (fun env => env.Checked sha256 ∧ env.parsedStatement.networkId = network)
      fun env => dump env.payload := by
  rintro env ⟨h, rfl⟩
  show (readObject floatRepr _).bind _ = some env
  rw [readObject_document floatRepr (readable_payload h), Option.bind_some,
    parseObject_payload floatRepr h]

theorem canonicalBytes_iff {env : ThreatHintV2ProofEnvelope} {canonicalAtParse wire : Bytes} :
    env.canonicalBytes sha256 canonicalAtParse = some wire ↔
      env.Checked sha256 ∧ dump env.payload = canonicalAtParse ∧ dump env.payload = wire := by
  unfold canonicalBytes
  rw [Option.ite_none_left_eq_some, not_not, validateState_iff]
  refine and_congr_right fun checked => ?_
  have bounded := checked.bounded
  rw [dumpsUtf8_document (readable_payload checked), Option.bind_eq_bind, Option.bind_some,
    if_neg (by simp only [dump_ne_nil, false_or]; omega), Option.ite_none_left_eq_some, not_not,
    Option.some.injEq]

/-- The network of what was parsed is the trusted one. -/
theorem parseObject_network {floatRepr : Str → Str} {network : Str}
    {fields : List (Str × Json)} {env : ThreatHintV2ProofEnvelope}
    (h : parseObject sha256 floatRepr network fields = some env) :
    env.parsedStatement.networkId = network := by
  simp only [parseObject, Option.ite_none_left_eq_some, Option.bind_eq_bind,
    Option.bind_eq_some_iff] at h
  obtain ⟨-, _, -, _, -, _, -, _, -, _, -, _, -, _, -, parsed, isParsed, _, -, -, h⟩ := h
  obtain rfl := Option.some.inj h
  exact ((ThreatHintV2Statement.canonical floatRepr network).valid isParsed).2

theorem canonical (sha256 : Bytes → Bytes) (floatRepr : Str → Str) (network : Str) :
    Canonical (parseCanonical sha256 floatRepr · network)
      (fun env => env.Checked sha256 ∧ env.parsedStatement.networkId = network)
      fun env => dump env.payload := by
  refine .of_readsBack (readsBack floatRepr network) (fun env h => h) fun wire env => ?_
  simp only [parseCanonical, Option.ite_none_left_eq_some, Option.bind_eq_bind,
    Option.bind_eq_some_iff, not_not, ne_eq, canonicalBytes_iff, and_self, Option.some.injEq]
  constructor
  · rintro ⟨-, env', ⟨fields, isRead, isParsed⟩, ⟨checked, same⟩, rfl⟩
    exact ⟨⟨fields, isRead, isParsed⟩, ⟨checked, parseObject_network isParsed⟩, same⟩
  · rintro ⟨isRead, ⟨checked, -⟩, rfl⟩
    have bounded := checked.bounded
    refine ⟨?_, env, isRead, ⟨checked, rfl⟩, rfl⟩
    simp only [dump_ne_nil, false_or]
    omega

end Python.ThreatHintV2ProofEnvelope

/-! ## The Rust parser is canonical -/

namespace Rust.ThreatHintV2ProofEnvelope

variable {sha256 : Bytes → Bytes}

/-- The envelope in Python's types. -/
def toPython (env : ThreatHintV2ProofEnvelope) : Python.ThreatHintV2ProofEnvelope where
  schemaVersion := env.schemaVersion.toNat
  protocolId := env.protocolId.map UInt8.toNat
  relationId := env.relationId.map UInt8.toNat
  statement := env.statement.map UInt8.toNat
  statementDigest := env.statementDigest.map UInt8.toNat
  proof := env.proof.map UInt8.toNat
  parsedStatement := env.parsedStatement.toPython
  statementAtParse := env.statement

/-- The envelope in Rust's types. -/
def ofPython (env : Python.ThreatHintV2ProofEnvelope) : ThreatHintV2ProofEnvelope where
  schemaVersion := UInt16.ofNat env.schemaVersion.toNat
  protocolId := encodeAscii env.protocolId
  relationId := encodeAscii env.relationId
  statement := encodeAscii env.statement
  statementDigest := encodeAscii env.statementDigest
  proof := encodeAscii env.proof
  parsedStatement := .ofPython env.parsedStatement

theorem ofPython_toPython (env : ThreatHintV2ProofEnvelope) : ofPython env.toPython = env := by
  simp [ofPython, toPython, encodeAscii_toNat, ThreatHintV2Statement.ofPython_toPython]

theorem toPython_ofPython {env : Python.ThreatHintV2ProofEnvelope} (h : env.Checked sha256) :
    (ofPython env).toPython = env := by
  obtain ⟨protocol, relation⟩ := Python.ThreatHintV2ProofEnvelope.isAscii_identifiers
  have schemaVersion := toNat_ofNat_16 (i := env.schemaVersion) (by rw [h.schemaVersion]; decide)
    (by rw [h.schemaVersion]; decide)
  have protocolId := map_toNat_encodeAscii (h.protocolId ▸ protocol).small
  have relationId := map_toNat_encodeAscii (h.relationId ▸ relation).small
  have statementDigest := map_toNat_encodeAscii (isAscii_of_isHash h.statementDigest).small
  have proof := map_toNat_encodeAscii (isAscii_of_isProofHex h.proof).small
  have parsed := ThreatHintV2Statement.toPython_ofPython h.parsed
  have atParse : encodeAscii env.statement = env.statementAtParse := by
    have encoded := h.statement
    rw [encodeUtf8_of_ascii h.isAscii] at encoded
    exact Option.some.inj encoded
  have statement : env.statementAtParse.map UInt8.toNat = env.statement := by
    rw [← atParse, map_toNat_encodeAscii h.isAscii.small]
  unfold toPython ofPython
  simp only [schemaVersion, protocolId, relationId, statement, statementDigest, proof, parsed,
    atParse]

/-- Both languages write the same bytes. -/
theorem toVec_eq (env : ThreatHintV2ProofEnvelope) : env.toVec = dump env.toPython.payload := by
  rw [← serdeStruct_dump, toVec]
  simp only [serdeNat_eq, serdeString_eq]
  rfl

/-- Both languages make the same checks. -/
theorem validate_iff {env : ThreatHintV2ProofEnvelope} :
    (env.validate = true ∧ env.validateStatementBinding sha256 = true) ↔
      env.toPython.Checked sha256 := by
  have schemaVersion : env.schemaVersion = 2 ↔ (env.schemaVersion.toNat : Int) = 2 := toNat_eq_16
  have protocol : env.protocolId = threatHintV2ProtocolId ↔
      env.protocolId.map UInt8.toNat = Python.ThreatHintV2ProofEnvelope.protocolIdentifier :=
    (List.map_inj_right fun a b => UInt8.toNat_inj.mp).symm
  have relation : env.relationId = threatHintV2RelationId ↔
      env.relationId.map UInt8.toNat = Python.ThreatHintV2ProofEnvelope.relationIdentifier :=
    (List.map_inj_right fun a b => UInt8.toNat_inj.mp).symm
  have checks : env.validate = true ↔ env.schemaVersion = 2 ∧
      env.protocolId = threatHintV2ProtocolId ∧ env.relationId = threatHintV2RelationId ∧
      isFixedLowerHex env.statementDigest = true ∧ isValidProofHex env.proof = true := by
    simp [validate]
  rw [checks, schemaVersion, protocol, relation, isFixedLowerHex_eq, isValidProofHex_eq]
  unfold validateStatementBinding
  constructor
  · rintro ⟨⟨version, isProtocol, isRelation, isDigest, isProof⟩, h⟩
    split at h
    · cases h
    rename_i statementBytes isCanonical
    split at h
    · cases h
    rename_i sameStatement
    obtain ⟨parsed, isDump⟩ := ThreatHintV2Statement.toCanonicalBytes_iff.mp isCanonical
    have atParse : dump env.parsedStatement.toPython.payload = env.statement :=
      isDump.trans (not_not.mp sameStatement).symm
    rw [(statement_digest_eq sha256 parsed atParse).1] at h
    have readable := Python.ThreatHintV2Statement.readable_payload parsed
    refine ⟨version, isProtocol, isRelation, isDigest, isProof, parsed, atParse, ?_, ?_⟩
    · show encodeUtf8 (env.statement.map UInt8.toNat) = some env.statement
      rw [← atParse]
      exact encodeUtf8_toNat (isAscii_dump readable)
    · exact (encodeAscii_eq_iff (isAscii_hex _)).mp (of_decide_eq_true h)
  · intro h
    have isCanonical :=
      ThreatHintV2Statement.toCanonicalBytes_iff.mpr ⟨h.parsed, h.statementAtParse⟩
    refine ⟨⟨h.schemaVersion, h.protocolId, h.relationId, h.statementDigest, h.proof⟩, ?_⟩
    have binding : encodeAscii (hex (sha256 (digestFrame ThreatHintV2Statement.statementDigestDomain
        env.statement))) = env.statementDigest :=
      (encodeAscii_eq_iff (isAscii_hex _)).mpr h.binding
    have digest := (statement_digest_eq sha256 h.parsed h.statementAtParse).1
    rw [show env.toPython.statementAtParse = env.statement from rfl] at isCanonical digest
    simp [isCanonical, digest, binding]

theorem toCanonicalBytes_iff {env : ThreatHintV2ProofEnvelope} {wire : Bytes} :
    env.toCanonicalBytes sha256 = some wire ↔
      env.toPython.Checked sha256 ∧ dump env.toPython.payload = wire := by
  unfold toCanonicalBytes
  rw [Option.ite_none_left_eq_some, Option.ite_none_left_eq_some, not_not, not_not, ← and_assoc,
    validate_iff]
  refine and_congr_right fun checked => ?_
  have bounded := checked.bounded
  rw [toVec_eq, if_neg, Option.some.injEq]
  simp only [dump_ne_nil, false_or]
  omega

/-- `serde_json` reads back the envelopes that it wrote. -/
def ReadsBack (sha256 : Bytes → Bytes)
    (fromSlice : Bytes → Option ThreatHintV2ProofEnvelopeWire) : Prop :=
  ∀ env : ThreatHintV2ProofEnvelope, env.validate = true →
    env.validateStatementBinding sha256 = true →
    fromSlice env.toVec = some env.toThreatHintV2ProofEnvelopeWire

/-- What the parser reads before it checks. -/
def readWire (fromSlice : Bytes → Option ThreatHintV2ProofEnvelopeWire)
    (statementFromSlice : Bytes → Option ThreatHintV2Statement) (trustedNetworkId : Bytes)
    (wireBytes : Bytes) : Option ThreatHintV2ProofEnvelope := do
  let wire ← fromSlice wireBytes
  let parsedStatement ←
    ThreatHintV2Statement.parseCanonical statementFromSlice wire.statement trustedNetworkId
  some { wire with parsedStatement }

section

variable {fromSlice : Bytes → Option ThreatHintV2ProofEnvelopeWire}
  {statementFromSlice : Bytes → Option ThreatHintV2Statement}
  (readsBack : ReadsBack sha256 fromSlice)
  (readsStatement : ThreatHintV2Statement.ReadsBack statementFromSlice)
  {network : Str} {networkBytes : Bytes} (sameNetwork : encodeUtf8 network = some networkBytes)

include readsBack readsStatement sameNetwork

theorem readsBack_readWire :
    Canonical.ReadsBack (readWire fromSlice statementFromSlice networkBytes)
      (fun env => env.toPython.Checked sha256 ∧
        env.parsedStatement.toPython.networkId = network) toVec := by
  rintro env ⟨h, trusted⟩
  obtain ⟨isValid, isBound⟩ := validate_iff.mpr h
  have parsed := (ThreatHintV2Statement.canonical readsStatement sameNetwork).parse_encode
    ⟨h.parsed, trusted⟩
  rw [ThreatHintV2Statement.toVec_eq,
    show dump env.parsedStatement.toPython.payload = env.statement from h.statementAtParse] at parsed
  rw [readWire, readsBack env isValid isBound]
  simp only [Option.bind_eq_bind, Option.bind_some, parsed]

theorem canonical :
    Canonical (parseCanonical sha256 fromSlice statementFromSlice · networkBytes)
      (fun env => env.toPython.Checked sha256 ∧
        env.parsedStatement.toPython.networkId = network) toVec := by
  refine .of_readsBack (readsBack_readWire readsBack readsStatement sameNetwork) (fun env h => h)
    fun wire env => ?_
  simp only [parseCanonical, readWire, Option.ite_none_left_eq_some, Option.bind_eq_bind,
    Option.bind_eq_some_iff, not_not, ne_eq, toCanonicalBytes_iff, Option.some.injEq, toVec_eq]
  constructor
  · rintro ⟨-, -, w, isRead, parsed, isParsed, -, -, ⟨checked, same⟩, rfl⟩
    have trusted := ((ThreatHintV2Statement.canonical readsStatement sameNetwork).valid isParsed).2
    exact ⟨⟨w, isRead, parsed, isParsed, rfl⟩, ⟨checked, trusted⟩, same⟩
  · rintro ⟨⟨w, isRead, parsed, isParsed, rfl⟩, ⟨checked, trusted⟩, rfl⟩
    obtain ⟨isValid, isBound⟩ := validate_iff.mpr checked
    have bounded := checked.bounded
    have isNetwork : IsNetworkId network := trusted ▸ checked.parsed.networkId
    have sameBytes := eq_encodeUtf8 sameNetwork checked.parsed.networkId trusted
    refine ⟨?_, ?_, w, isRead, parsed, isParsed, isValid, isBound, ⟨checked, rfl⟩, rfl⟩
    · simp only [dump_ne_nil, false_or]
      omega
    · exact sameBytes ▸ validateNetworkId_iff.mpr checked.parsed.networkId

end

end Rust.ThreatHintV2ProofEnvelope

/-! ## Agreement -/

/-- The two envelopes expose the same fields. -/
structure SameEnvelope (rust : Rust.ThreatHintV2ProofEnvelope)
    (python : Python.ThreatHintV2ProofEnvelope) : Prop where
  schemaVersion : python.schemaVersion = rust.schemaVersion.toNat
  protocolId : encodeUtf8 python.protocolId = some rust.protocolId
  relationId : encodeUtf8 python.relationId = some rust.relationId
  statement : encodeUtf8 python.statement = some rust.statement
  statementDigest : encodeUtf8 python.statementDigest = some rust.statementDigest
  proof : encodeUtf8 python.proof = some rust.proof
  parsedStatement : SameStatement rust.parsedStatement python.parsedStatement

theorem sameEnvelope_toPython {sha256 : Bytes → Bytes} {env : Rust.ThreatHintV2ProofEnvelope}
    (h : env.toPython.Checked sha256) : SameEnvelope env env.toPython where
  schemaVersion := rfl
  protocolId := encodeUtf8_toNat (by
    have isAscii := Python.ThreatHintV2ProofEnvelope.isAscii_identifiers.1
    rwa [← h.protocolId] at isAscii)
  relationId := encodeUtf8_toNat (by
    have isAscii := Python.ThreatHintV2ProofEnvelope.isAscii_identifiers.2
    rwa [← h.relationId] at isAscii)
  statement := h.statement
  statementDigest := encodeUtf8_toNat (isAscii_of_isHash h.statementDigest)
  proof := encodeUtf8_toNat (isAscii_of_isProofHex h.proof)
  parsedStatement := sameStatement_toPython h.parsed

section

variable (fromSlice : Bytes → Option Rust.ThreatHintV2ProofEnvelopeWire)
  (statementFromSlice : Bytes → Option Rust.ThreatHintV2Statement) (floatRepr : Str → Str)
  (sha256 : Bytes → Bytes) (networkBytes : Bytes) (network : Str)

/-- Both parsers accept a wire as these statements. -/
structure StatementAccepted (wire : Bytes) (rust : Rust.ThreatHintV2Statement)
    (python : Python.ThreatHintV2Statement) : Prop where
  rustParse :
    Rust.ThreatHintV2Statement.parseCanonical statementFromSlice wire networkBytes = some rust
  pythonParse : Python.ThreatHintV2Statement.parseCanonical floatRepr wire network = some python
  fields : SameStatement rust python
  rustBytes : rust.toCanonicalBytes = some wire
  pythonBytes : python.canonicalBytes wire = some wire
  digest : ∃ digest, rust.statementDigest sha256 = some digest ∧
    python.statementDigest sha256 wire = some digest

/-- Both parsers accept a wire as these envelopes. The digest of an envelope is the one of its
canonical bytes. -/
structure EnvelopeAccepted (wire : Bytes) (rust : Rust.ThreatHintV2ProofEnvelope)
    (python : Python.ThreatHintV2ProofEnvelope) : Prop where
  rustParse : Rust.ThreatHintV2ProofEnvelope.parseCanonical sha256 fromSlice statementFromSlice wire
    networkBytes = some rust
  pythonParse :
    Python.ThreatHintV2ProofEnvelope.parseCanonical sha256 floatRepr wire network = some python
  fields : SameEnvelope rust python
  rustBytes : rust.toCanonicalBytes sha256 = some wire
  pythonBytes : python.canonicalBytes sha256 wire = some wire
  statement : StatementAccepted statementFromSlice floatRepr sha256 networkBytes network
    rust.statement rust.parsedStatement python.parsedStatement
  digest : (rust.toCanonicalBytes sha256).map sha256 =
    (python.canonicalBytes sha256 wire).map sha256

variable {fromSlice statementFromSlice sha256 networkBytes network}
  (readsStatement : Rust.ThreatHintV2Statement.ReadsBack statementFromSlice)
  (sameNetwork : encodeUtf8 network = some networkBytes)

include readsStatement sameNetwork

theorem statementAccepted {st : Rust.ThreatHintV2Statement} (checked : st.toPython.Checked)
    (trusted : st.toPython.networkId = network) :
    StatementAccepted statementFromSlice floatRepr sha256 networkBytes network st.toVec st
      st.toPython := by
  have isRust := Rust.ThreatHintV2Statement.canonical readsStatement sameNetwork
  have isPython := Python.ThreatHintV2Statement.canonical floatRepr network
  have same := (Rust.ThreatHintV2Statement.toVec_eq st).symm
  have digest := statement_digest_eq sha256 checked same
  refine ⟨isRust.parse_encode ⟨checked, trusted⟩, ?_, sameStatement_toPython checked, ?_, ?_,
    _, digest⟩
  · exact (isPython _ _).mpr ⟨⟨checked, trusted⟩, same⟩
  · exact Rust.ThreatHintV2Statement.toCanonicalBytes_iff.mpr ⟨checked, same⟩
  · exact Python.ThreatHintV2Statement.canonicalBytes_iff.mpr ⟨checked, same, same⟩

variable (readsBack : Rust.ThreatHintV2ProofEnvelope.ReadsBack sha256 fromSlice)

include readsBack

theorem envelopeAccepted {env : Rust.ThreatHintV2ProofEnvelope}
    (checked : env.toPython.Checked sha256)
    (trusted : env.parsedStatement.toPython.networkId = network) :
    EnvelopeAccepted fromSlice statementFromSlice floatRepr sha256 networkBytes network env.toVec
      env env.toPython := by
  have isRust := Rust.ThreatHintV2ProofEnvelope.canonical readsBack readsStatement sameNetwork
  have isPython := Python.ThreatHintV2ProofEnvelope.canonical sha256 floatRepr network
  have same := (Rust.ThreatHintV2ProofEnvelope.toVec_eq env).symm
  have rustBytes := Rust.ThreatHintV2ProofEnvelope.toCanonicalBytes_iff.mpr ⟨checked, same⟩
  have pythonBytes :=
    Python.ThreatHintV2ProofEnvelope.canonicalBytes_iff.mpr ⟨checked, same, same⟩
  have statement : env.parsedStatement.toVec = env.statement :=
    (Rust.ThreatHintV2Statement.toVec_eq _).trans checked.statementAtParse
  refine ⟨isRust.parse_encode ⟨checked, trusted⟩, (isPython _ _).mpr ⟨⟨checked, trusted⟩, same⟩,
    sameEnvelope_toPython checked, rustBytes, pythonBytes, ?_, by rw [rustBytes, pythonBytes]⟩
  rw [← statement]
  exact statementAccepted floatRepr readsStatement sameNetwork checked.parsed trusted

/-- The parsers of envelopes agree up to the types of the fields. -/
theorem envelope_parse_eq (wire : Bytes) :
    Python.ThreatHintV2ProofEnvelope.parseCanonical sha256 floatRepr wire network =
      (Rust.ThreatHintV2ProofEnvelope.parseCanonical sha256 fromSlice statementFromSlice wire
        networkBytes).map Rust.ThreatHintV2ProofEnvelope.toPython := by
  refine (Rust.ThreatHintV2ProofEnvelope.canonical readsBack readsStatement sameNetwork).agree
    (Python.ThreatHintV2ProofEnvelope.canonical sha256 floatRepr network) _ (fun env h => ?_)
    (fun env h => ?_) wire
  · exact ⟨h, (Rust.ThreatHintV2ProofEnvelope.toVec_eq env).symm⟩
  · have same := Rust.ThreatHintV2ProofEnvelope.toPython_ofPython h.1
    refine ⟨.ofPython env, ?_, same⟩
    show (Rust.ThreatHintV2ProofEnvelope.toPython _).Checked sha256 ∧
      (Rust.ThreatHintV2ProofEnvelope.toPython (.ofPython env)).parsedStatement.networkId = network
    rwa [same]

/-- On every wire and network the parsers of statements, and the parsers of envelopes, both refuse
or both accept with the same fields, digests and bytes; and what the validators of either language
admit is accepted by both from its encoding. -/
theorem threat_hint_v2_parsers_agree :
    (∀ wire,
      (Rust.ThreatHintV2Statement.parseCanonical statementFromSlice wire networkBytes = none ∧
        Python.ThreatHintV2Statement.parseCanonical floatRepr wire network = none) ∨
      ∃ rust python, StatementAccepted statementFromSlice floatRepr sha256 networkBytes network
        wire rust python) ∧
    (∀ rust : Rust.ThreatHintV2Statement, rust.validate = true → rust.networkId = networkBytes →
      ∃ wire python, StatementAccepted statementFromSlice floatRepr sha256 networkBytes network
        wire rust python) ∧
    (∀ python : Python.ThreatHintV2Statement, python.validateState = true →
      python.networkId = network →
      ∃ wire rust, StatementAccepted statementFromSlice floatRepr sha256 networkBytes network
        wire rust python) ∧
    (∀ wire,
      (Rust.ThreatHintV2ProofEnvelope.parseCanonical sha256 fromSlice statementFromSlice wire
          networkBytes = none ∧
        Python.ThreatHintV2ProofEnvelope.parseCanonical sha256 floatRepr wire network = none) ∨
      ∃ rust python, EnvelopeAccepted fromSlice statementFromSlice floatRepr sha256 networkBytes
        network wire rust python) ∧
    (∀ rust : Rust.ThreatHintV2ProofEnvelope, rust.validate = true →
      rust.validateStatementBinding sha256 = true →
      rust.parsedStatement.networkId = networkBytes →
      ∃ wire python, EnvelopeAccepted fromSlice statementFromSlice floatRepr sha256 networkBytes
        network wire rust python) ∧
    (∀ python : Python.ThreatHintV2ProofEnvelope, python.validateState sha256 = true →
      python.parsedStatement.networkId = network →
      ∃ wire rust, EnvelopeAccepted fromSlice statementFromSlice floatRepr sha256 networkBytes
        network wire rust python) := by
  refine ⟨fun wire => ?_, fun rust isValid trusted => ?_, fun python isValid trusted => ?_,
    fun wire => ?_, fun rust isValid isBound trusted => ?_, fun python isValid trusted => ?_⟩
  · have agree := statement_parse_eq readsStatement floatRepr sameNetwork wire
    cases accepted :
        Rust.ThreatHintV2Statement.parseCanonical statementFromSlice wire networkBytes with
    | none => exact .inl ⟨rfl, by rw [agree, accepted, Option.map_none]⟩
    | some st =>
      have isRust := Rust.ThreatHintV2Statement.canonical readsStatement sameNetwork
      obtain ⟨checked, trusted⟩ := isRust.valid accepted
      obtain rfl := isRust.encode_eq accepted
      exact .inr ⟨st, _, statementAccepted floatRepr readsStatement sameNetwork checked trusted⟩
  · have checked := Rust.ThreatHintV2Statement.validate_iff.mp isValid
    subst trusted
    exact ⟨_, _, statementAccepted floatRepr readsStatement sameNetwork checked
      (toNat_encodeUtf8 sameNetwork (.inl checked.networkId.isAscii))⟩
  · have checked := Python.ThreatHintV2Statement.validateState_iff.mp isValid
    have same := Rust.ThreatHintV2Statement.toPython_ofPython checked
    rw [← same] at checked trusted ⊢
    exact ⟨_, _, statementAccepted floatRepr readsStatement sameNetwork checked trusted⟩
  · have agree := envelope_parse_eq floatRepr readsStatement sameNetwork readsBack wire
    cases accepted : Rust.ThreatHintV2ProofEnvelope.parseCanonical sha256 fromSlice
        statementFromSlice wire networkBytes with
    | none => exact .inl ⟨rfl, by rw [agree, accepted, Option.map_none]⟩
    | some env =>
      have isRust := Rust.ThreatHintV2ProofEnvelope.canonical readsBack readsStatement sameNetwork
      obtain ⟨checked, trusted⟩ := isRust.valid accepted
      obtain rfl := isRust.encode_eq accepted
      exact .inr ⟨env, _,
        envelopeAccepted floatRepr readsStatement sameNetwork readsBack checked trusted⟩
  · have checked := Rust.ThreatHintV2ProofEnvelope.validate_iff.mp ⟨isValid, isBound⟩
    subst trusted
    exact ⟨_, _, envelopeAccepted floatRepr readsStatement sameNetwork readsBack checked
      (toNat_encodeUtf8 sameNetwork (.inl checked.parsed.networkId.isAscii))⟩
  · have checked := Python.ThreatHintV2ProofEnvelope.validateState_iff.mp isValid
    have same := Rust.ThreatHintV2ProofEnvelope.toPython_ofPython checked
    rw [← same] at checked trusted ⊢
    exact ⟨_, _, envelopeAccepted floatRepr readsStatement sameNetwork readsBack checked trusted⟩

end

/-- A reader of the wire struct of a statement. -/
def v2StatementReader (wire : Bytes) : Option Rust.ThreatHintV2Statement :=
  ((Python.readObject id wire).bind Python.ThreatHintV2Statement.parseObject).map
    Rust.ThreatHintV2Statement.ofPython

theorem v2StatementReader_readsBack : Rust.ThreatHintV2Statement.ReadsBack v2StatementReader := by
  intro st h
  have checked := Rust.ThreatHintV2Statement.validate_iff.mp h
  have isRead : (Python.readObject id (dump st.toPython.payload)).bind _ = some st.toPython :=
    Python.ThreatHintV2Statement.readsBack id _ checked
  show ((Python.readObject id st.toVec).bind _).map _ = some st
  rw [Rust.ThreatHintV2Statement.toVec_eq, isRead, Option.map_some,
    Rust.ThreatHintV2Statement.ofPython_toPython]

/-- A reader of the wire struct of an envelope. -/
def v2EnvelopeReader (wire : Bytes) : Option Rust.ThreatHintV2ProofEnvelopeWire := do
  let fields ← Python.readObject id wire
  let schemaVersion ← Json.intAt fields "schema_version"
  let protocolId ← Json.textAt fields "protocol_id"
  let relationId ← Json.textAt fields "relation_id"
  let statement ← Json.textAt fields "statement"
  let statementDigest ← Json.textAt fields "statement_digest"
  let proof ← Json.textAt fields "proof"
  some
    { schemaVersion := UInt16.ofNat schemaVersion.toNat
      protocolId := encodeAscii protocolId
      relationId := encodeAscii relationId
      statement := encodeAscii statement
      statementDigest := encodeAscii statementDigest
      proof := encodeAscii proof }

theorem v2EnvelopeReader_readsBack (sha256 : Bytes → Bytes) :
    Rust.ThreatHintV2ProofEnvelope.ReadsBack sha256 v2EnvelopeReader := by
  intro env isValid isBound
  have checked := Rust.ThreatHintV2ProofEnvelope.validate_iff.mp ⟨isValid, isBound⟩
  have unique : ((env.toPython.payload.map Prod.fst).map str).Nodup :=
    Python.ThreatHintV2ProofEnvelope.keys_plain.distinct
  have text (key : String) (s : Str) (h : (key, Json.string s) ∈ env.toPython.payload) :
      Json.textAt (env.toPython.payload.map fun f => (str f.1, f.2)) key = some s := by
    rw [Json.textAt, field_document unique h]
    rfl
  have version : Json.intAt (env.toPython.payload.map fun f => (str f.1, f.2)) "schema_version" =
      some env.toPython.schemaVersion := by
    rw [Json.intAt, field_document unique (List.mem_cons_self)]
    rfl
  have protocolId := text "protocol_id" env.toPython.protocolId
    (by simp [Python.ThreatHintV2ProofEnvelope.payload])
  have relationId := text "relation_id" env.toPython.relationId
    (by simp [Python.ThreatHintV2ProofEnvelope.payload])
  have statement := text "statement" env.toPython.statement
    (by simp [Python.ThreatHintV2ProofEnvelope.payload])
  have statementDigest := text "statement_digest" env.toPython.statementDigest
    (by simp [Python.ThreatHintV2ProofEnvelope.payload])
  have proof := text "proof" env.toPython.proof
    (by simp [Python.ThreatHintV2ProofEnvelope.payload])
  rw [Rust.ThreatHintV2ProofEnvelope.toVec_eq, v2EnvelopeReader,
    readObject_document id (Python.ThreatHintV2ProofEnvelope.readable_payload checked)]
  simp only [Option.bind_eq_bind, Option.bind_some, version, protocolId, relationId, statement,
    statementDigest, proof]
  simp [Rust.ThreatHintV2ProofEnvelope.toPython, encodeAscii_toNat]

/-- The statement of the source's tests. -/
def baseV2Statement : Rust.ThreatHintV2Statement where
  schemaVersion := 2
  artifactHash := List.replicate 64 97
  observableCommitment := List.replicate 64 98
  confidenceBps := 7500
  disclosureClass := .reviewRequiredV1
  reportNonce := List.replicate 64 99
  observedAt := 1700000000
  networkId := ascii "testnet-10"

/-- An envelope with a proof of two bytes. -/
def baseV2Envelope : Rust.ThreatHintV2ProofEnvelope where
  schemaVersion := 2
  protocolId := Rust.ThreatHintV2ProofEnvelope.threatHintV2ProtocolId
  relationId := Rust.ThreatHintV2ProofEnvelope.threatHintV2RelationId
  statement := baseV2Statement.toVec
  statementDigest := encodeAscii (hex (sha256
    (digestFrame Rust.ThreatHintV2Statement.statementDigestDomain baseV2Statement.toVec)))
  proof := ascii "00ff"
  parsedStatement := baseV2Statement

theorem baseV2Envelope_valid :
    baseV2Envelope.validate = true ∧ baseV2Envelope.validateStatementBinding sha256 = true := by
  decide +kernel

theorem threat_hint_v2_parsers_agree_base :
    ∃ wire python, EnvelopeAccepted v2EnvelopeReader v2StatementReader id sha256
      (ascii "testnet-10") (str "testnet-10") wire baseV2Envelope python := by
  have isNetwork : encodeUtf8 (str "testnet-10") = some (ascii "testnet-10") := by decide
  obtain ⟨isValid, isBound⟩ := baseV2Envelope_valid
  obtain ⟨-, -, -, -, accepted, -⟩ := threat_hint_v2_parsers_agree id v2StatementReader_readsBack
    isNetwork (v2EnvelopeReader_readsBack sha256)
  exact accepted baseV2Envelope isValid isBound rfl

end Prometheus.ThreatHint
