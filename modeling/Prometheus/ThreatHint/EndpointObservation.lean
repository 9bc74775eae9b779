import Prometheus.Codec.Sha256
import Prometheus.ThreatHint.Fields

/-!
# Endpoint observations in the two languages

`threat-hint/src/endpoint_observation.rs` and `jaeger/endpoint_observation.py` parse the same
statement. `serde_json::from_slice` into the wire struct, which has the fields of the statement, is
a parameter; so are SHA-256 and the text of a Python float. A refusal is `none`: both languages
have one redacted error.
-/

namespace Prometheus.ThreatHint

open Prometheus.Codec

/-- `MAX_CANONICAL_ENDPOINT_OBSERVATION_BYTES`. -/
def maxCanonicalEndpointObservationBytes : Nat := 512

inductive EndpointObservationDomain
  | process | file | network | persistence | credentialAccess | modelTool | resourceUtilization
  deriving DecidableEq, Repr

inductive EndpointObservationSignal
  | unexpectedChildProcess | rapidProcessSpawn
  | protectedFileChange | executableFileChange
  | unexpectedEgress | connectionFanout
  | startupEntryChange | scheduledTaskChange
  | credentialStoreAccess | bulkSecretReadAttempt
  | promptInjectionIndicator | toolPolicyViolation | modelRuntimeChange
  | sustainedComputeSaturation | acceleratorUtilizationSpike
  deriving DecidableEq, Repr

/-! ## Rust -/

namespace Rust

/-- The variant under `#[serde(rename_all = "snake_case")]`. -/
def EndpointObservationDomain.name : EndpointObservationDomain → String
  | .process => "process"
  | .file => "file"
  | .network => "network"
  | .persistence => "persistence"
  | .credentialAccess => "credential_access"
  | .modelTool => "model_tool"
  | .resourceUtilization => "resource_utilization"

/-- The variant under `#[serde(rename_all = "snake_case")]`. -/
def EndpointObservationSignal.name : EndpointObservationSignal → String
  | .unexpectedChildProcess => "unexpected_child_process"
  | .rapidProcessSpawn => "rapid_process_spawn"
  | .protectedFileChange => "protected_file_change"
  | .executableFileChange => "executable_file_change"
  | .unexpectedEgress => "unexpected_egress"
  | .connectionFanout => "connection_fanout"
  | .startupEntryChange => "startup_entry_change"
  | .scheduledTaskChange => "scheduled_task_change"
  | .credentialStoreAccess => "credential_store_access"
  | .bulkSecretReadAttempt => "bulk_secret_read_attempt"
  | .promptInjectionIndicator => "prompt_injection_indicator"
  | .toolPolicyViolation => "tool_policy_violation"
  | .modelRuntimeChange => "model_runtime_change"
  | .sustainedComputeSaturation => "sustained_compute_saturation"
  | .acceleratorUtilizationSpike => "accelerator_utilization_spike"

/-- `EndpointObservationSignal::domain`. -/
def EndpointObservationSignal.domain : EndpointObservationSignal → EndpointObservationDomain
  | .unexpectedChildProcess | .rapidProcessSpawn => .process
  | .protectedFileChange | .executableFileChange => .file
  | .unexpectedEgress | .connectionFanout => .network
  | .startupEntryChange | .scheduledTaskChange => .persistence
  | .credentialStoreAccess | .bulkSecretReadAttempt => .credentialAccess
  | .promptInjectionIndicator | .toolPolicyViolation | .modelRuntimeChange => .modelTool
  | .sustainedComputeSaturation | .acceleratorUtilizationSpike => .resourceUtilization

structure EndpointObservationStatementV1 where
  schemaVersion : UInt16
  domain : EndpointObservationDomain
  signal : EndpointObservationSignal
  eventCount : UInt8
  windowSeconds : UInt64
  reportNonce : Bytes
  observedAt : UInt64
  networkId : Bytes
  deriving DecidableEq, Repr

namespace EndpointObservationStatementV1

/-- `STATEMENT_DIGEST_DOMAIN`. -/
def statementDigestDomain : Bytes := ascii "prometheus-endpoint-observation-v1" ++ [0]

/-- `ALLOWED_WINDOW_SECONDS`. -/
def allowedWindowSeconds : List UInt64 := [60, 300, 900, 3600]

def validate (st : EndpointObservationStatementV1) : Bool :=
  if st.schemaVersion ≠ 1 ∨ EndpointObservationSignal.domain st.signal ≠ st.domain ∨
      st.eventCount = 0 ∨ ¬ allowedWindowSeconds.contains st.windowSeconds ∨
      ¬ isFixedLowerHex st.reportNonce ∨ st.observedAt = 0 ∨ ¬ st.observedAt % 60 = 0 then
    false
  else validateNetworkId st.networkId

/-- `serde_json::to_vec`. -/
def toVec (st : EndpointObservationStatementV1) : Bytes :=
  serdeStruct
    [("schema_version", serdeNat st.schemaVersion.toNat),
      ("domain", serdeString (ascii (EndpointObservationDomain.name st.domain))),
      ("signal", serdeString (ascii (EndpointObservationSignal.name st.signal))),
      ("event_count", serdeNat st.eventCount.toNat),
      ("window_seconds", serdeNat st.windowSeconds.toNat),
      ("report_nonce", serdeString st.reportNonce),
      ("observed_at", serdeNat st.observedAt.toNat),
      ("network_id", serdeString st.networkId)]

def toCanonicalBytes (st : EndpointObservationStatementV1) : Option Bytes :=
  if ¬ st.validate then none
  else
    let bytes := st.toVec
    if bytes = [] ∨ maxCanonicalEndpointObservationBytes < bytes.length then none else some bytes

def statementDigest (sha256 : Bytes → Bytes) (st : EndpointObservationStatementV1) :
    Option Bytes :=
  match st.toCanonicalBytes with
  | none => none
  | some canonical =>
    if canonical.length < 2 ^ 32 then some (sha256 (digestFrame statementDigestDomain canonical))
    else none

def parseCanonical (fromSlice : Bytes → Option EndpointObservationStatementV1)
    (wireBytes trustedNetworkId : Bytes) : Option EndpointObservationStatementV1 :=
  if wireBytes = [] ∨ maxCanonicalEndpointObservationBytes < wireBytes.length then none
  else if ¬ validateNetworkId trustedNetworkId then none
  else
    match fromSlice wireBytes with
    | none => none
    | some statement =>
      if ¬ statement.validate then none
      else if statement.networkId ≠ trustedNetworkId then none
      else if statement.toCanonicalBytes ≠ some wireBytes then none
      else some statement

end EndpointObservationStatementV1

end Rust

/-! ## Python -/

namespace Python

/-- `EndpointObservationDomain.value`. -/
def EndpointObservationDomain.value : EndpointObservationDomain → String
  | .process => "process"
  | .file => "file"
  | .network => "network"
  | .persistence => "persistence"
  | .credentialAccess => "credential_access"
  | .modelTool => "model_tool"
  | .resourceUtilization => "resource_utilization"

/-- `EndpointObservationSignal.value`. -/
def EndpointObservationSignal.value : EndpointObservationSignal → String
  | .unexpectedChildProcess => "unexpected_child_process"
  | .rapidProcessSpawn => "rapid_process_spawn"
  | .protectedFileChange => "protected_file_change"
  | .executableFileChange => "executable_file_change"
  | .unexpectedEgress => "unexpected_egress"
  | .connectionFanout => "connection_fanout"
  | .startupEntryChange => "startup_entry_change"
  | .scheduledTaskChange => "scheduled_task_change"
  | .credentialStoreAccess => "credential_store_access"
  | .bulkSecretReadAttempt => "bulk_secret_read_attempt"
  | .promptInjectionIndicator => "prompt_injection_indicator"
  | .toolPolicyViolation => "tool_policy_violation"
  | .modelRuntimeChange => "model_runtime_change"
  | .sustainedComputeSaturation => "sustained_compute_saturation"
  | .acceleratorUtilizationSpike => "accelerator_utilization_spike"

/-- `_SIGNAL_DOMAINS`. -/
def EndpointObservationSignal.domain : EndpointObservationSignal → EndpointObservationDomain
  | .unexpectedChildProcess => .process
  | .rapidProcessSpawn => .process
  | .protectedFileChange => .file
  | .executableFileChange => .file
  | .unexpectedEgress => .network
  | .connectionFanout => .network
  | .startupEntryChange => .persistence
  | .scheduledTaskChange => .persistence
  | .credentialStoreAccess => .credentialAccess
  | .bulkSecretReadAttempt => .credentialAccess
  | .promptInjectionIndicator => .modelTool
  | .toolPolicyViolation => .modelTool
  | .modelRuntimeChange => .modelTool
  | .sustainedComputeSaturation => .resourceUtilization
  | .acceleratorUtilizationSpike => .resourceUtilization

/-- The members of the enumeration. -/
def endpointObservationDomains : List EndpointObservationDomain :=
  [.process, .file, .network, .persistence, .credentialAccess, .modelTool, .resourceUtilization]

/-- The members of the enumeration. -/
def endpointObservationSignals : List EndpointObservationSignal :=
  [.unexpectedChildProcess, .rapidProcessSpawn, .protectedFileChange, .executableFileChange,
    .unexpectedEgress, .connectionFanout, .startupEntryChange, .scheduledTaskChange,
    .credentialStoreAccess, .bulkSecretReadAttempt, .promptInjectionIndicator,
    .toolPolicyViolation, .modelRuntimeChange, .sustainedComputeSaturation,
    .acceleratorUtilizationSpike]

structure EndpointObservationStatementV1 where
  schemaVersion : Int
  domain : EndpointObservationDomain
  signal : EndpointObservationSignal
  eventCount : Int
  windowSeconds : Int
  reportNonce : Str
  observedAt : Int
  networkId : Str
  deriving DecidableEq, Repr

namespace EndpointObservationStatementV1

/-- `STATEMENT_DIGEST_DOMAIN`. -/
def statementDigestDomain : Bytes := ascii "prometheus-endpoint-observation-v1" ++ [0]

/-- `ALLOWED_WINDOW_SECONDS`. -/
def allowedWindowSeconds : List Int := [60, 300, 900, 3600]

/-- The keys of a statement, in their order. -/
def keys : List String :=
  ["schema_version", "domain", "signal", "event_count", "window_seconds", "report_nonce",
    "observed_at", "network_id"]

/-- `_parse_object`. -/
def parseObject (fields : List (Str × Json)) : Option EndpointObservationStatementV1 :=
  if fields.map Prod.fst ≠ keys.map str then none
  else do
    let schemaVersion ← exactInt (Json.field fields (str "schema_version"))
    let eventCount ← exactInt (Json.field fields (str "event_count"))
    let windowSeconds ← exactInt (Json.field fields (str "window_seconds"))
    let observedAt ← exactInt (Json.field fields (str "observed_at"))
    if schemaVersion ≠ 1 ∨ ¬ (1 ≤ eventCount ∧ eventCount ≤ 255) ∨
        ¬ allowedWindowSeconds.contains windowSeconds ∨ observedAt = 0 ∨ observedAt % 60 ≠ 0 then
      none
    else do
      let domain ← enumValue EndpointObservationDomain.value endpointObservationDomains
        (Json.field fields (str "domain"))
      let signal ← enumValue EndpointObservationSignal.value endpointObservationSignals
        (Json.field fields (str "signal"))
      if EndpointObservationSignal.domain signal ≠ domain then none
      else do
        let reportNonce ← fixedLowerHex (Json.field fields (str "report_nonce"))
        let networkId ← networkIdField (Json.field fields (str "network_id"))
        some { schemaVersion, domain, signal, eventCount, windowSeconds, reportNonce, observedAt,
               networkId }

/-- `_validate_state`. -/
def validateState (st : EndpointObservationStatementV1) : Bool :=
  if st.schemaVersion ≠ 1 ∨ EndpointObservationSignal.domain st.signal ≠ st.domain ∨
      ¬ (1 ≤ st.eventCount ∧ st.eventCount ≤ 255) ∨
      ¬ allowedWindowSeconds.contains st.windowSeconds ∨
      ¬ (1 ≤ st.observedAt ∧ st.observedAt ≤ u64Max) ∨ st.observedAt % 60 ≠ 0 then
    false
  else isHash st.reportNonce && matchesNetworkId st.networkId

def payload (st : EndpointObservationStatementV1) : List (String × Json) :=
  [("schema_version", .int st.schemaVersion),
    ("domain", .string (str (EndpointObservationDomain.value st.domain))),
    ("signal", .string (str (EndpointObservationSignal.value st.signal))),
    ("event_count", .int st.eventCount),
    ("window_seconds", .int st.windowSeconds),
    ("report_nonce", .string st.reportNonce),
    ("observed_at", .int st.observedAt),
    ("network_id", .string st.networkId)]

/-- `canonical_bytes` of a statement that `_PARSED_CANONICAL` maps to these bytes. -/
def canonicalBytes (canonicalAtParse : Bytes) (st : EndpointObservationStatementV1) :
    Option Bytes :=
  if ¬ st.validateState then none
  else
    match dumpsUtf8 (document st.payload) with
    | none => none
    | some canonical =>
      if canonical = [] ∨ maxCanonicalEndpointObservationBytes < canonical.length ∨
          canonical ≠ canonicalAtParse then
        none
      else some canonical

def statementDigest (sha256 : Bytes → Bytes) (canonicalAtParse : Bytes)
    (st : EndpointObservationStatementV1) : Option Bytes :=
  (st.canonicalBytes canonicalAtParse).map fun canonical =>
    sha256 (digestFrame statementDigestDomain canonical)

def parseCanonical (floatRepr : Str → Str) (wireBytes : Bytes) (trustedNetworkId : Str) :
    Option EndpointObservationStatementV1 :=
  if wireBytes = [] ∨ maxCanonicalEndpointObservationBytes < wireBytes.length then none
  else if ¬ matchesNetworkId trustedNetworkId then none
  else
    match (readObject floatRepr wireBytes).bind parseObject with
    | none => none
    | some statement =>
      if statement.networkId ≠ trustedNetworkId then none
      else if statement.canonicalBytes wireBytes ≠ some wireBytes then none
      else some statement

end EndpointObservationStatementV1

end Python

/-! ## The Python parser is canonical -/

namespace Python.EndpointObservationStatementV1

/-- The checks of a statement. -/
structure Checked (st : EndpointObservationStatementV1) : Prop where
  schemaVersion : st.schemaVersion = 1
  domain : EndpointObservationSignal.domain st.signal = st.domain
  eventCount : 1 ≤ st.eventCount ∧ st.eventCount ≤ 255
  windowSeconds : st.windowSeconds ∈ allowedWindowSeconds
  observedAt : 1 ≤ st.observedAt ∧ st.observedAt ≤ u64Max ∧ st.observedAt % 60 = 0
  reportNonce : isHash st.reportNonce = true
  networkId : IsNetworkId st.networkId

/-- What the parser keeps, under a trusted network. -/
structure Accepts (network : Str) (st : EndpointObservationStatementV1) : Prop where
  checked : st.Checked
  network : st.networkId = network
  bounded : (dump st.payload).length ≤ maxCanonicalEndpointObservationBytes

theorem validateState_iff {st : EndpointObservationStatementV1} :
    st.validateState = true ↔ st.Checked := by
  unfold validateState
  constructor
  · intro h
    split at h
    · cases h
    rename_i checks
    simp only [not_or, not_not, Bool.and_eq_true, matchesNetworkId_iff, List.contains_iff_mem]
      at checks h
    obtain ⟨schemaVersion, domain, eventCount, windowSeconds, observedAt, minute⟩ := checks
    exact ⟨schemaVersion, domain, eventCount, windowSeconds, ⟨observedAt.1, observedAt.2, minute⟩,
      h.1, h.2⟩
  · intro h
    rw [if_neg]
    · rw [Bool.and_eq_true, matchesNetworkId_iff]
      exact ⟨h.reportNonce, h.networkId⟩
    · simp only [not_or, not_not, List.contains_iff_mem]
      exact ⟨h.schemaVersion, h.domain, h.eventCount, h.windowSeconds,
        ⟨h.observedAt.1, h.observedAt.2.1⟩, h.observedAt.2.2⟩

theorem vocabulary_plain : ∀ names ∈ [keys,
    endpointObservationDomains.map EndpointObservationDomain.value,
    endpointObservationSignals.map EndpointObservationSignal.value], Plain names := by
  decide

theorem keys_plain : Plain keys := vocabulary_plain _ (by simp)

theorem domains_plain :
    Plain (endpointObservationDomains.map EndpointObservationDomain.value) :=
  vocabulary_plain _ (by simp)

theorem signals_plain :
    Plain (endpointObservationSignals.map EndpointObservationSignal.value) :=
  vocabulary_plain _ (by simp)

theorem mem_domains (d : EndpointObservationDomain) : d ∈ endpointObservationDomains := by
  cases d <;> decide

theorem mem_signals (s : EndpointObservationSignal) : s ∈ endpointObservationSignals := by
  cases s <;> decide

theorem Checked.small {st : EndpointObservationStatementV1} (h : st.Checked) :
    IsU64 st.schemaVersion ∧ IsU64 st.eventCount ∧ IsU64 st.windowSeconds ∧
      IsU64 st.observedAt := by
  have schemaVersion := h.schemaVersion
  have eventCount := h.eventCount
  have windowSeconds : 0 ≤ st.windowSeconds ∧ st.windowSeconds ≤ 3600 :=
    (by decide : ∀ n ∈ allowedWindowSeconds, 0 ≤ n ∧ n ≤ 3600) _ h.windowSeconds
  have observedAt := h.observedAt
  refine ⟨.of_le ?_ ?_, .of_le ?_ ?_, .of_le ?_ ?_, ?_, observedAt.2.1⟩ <;> omega

theorem readable_payload {st : EndpointObservationStatementV1} (h : st.Checked) :
    Readable (document st.payload) := by
  obtain ⟨schemaVersion, eventCount, windowSeconds, observedAt⟩ := h.small
  refine readable_document (show _ = keys from rfl) keys_plain.distinct keys_plain.ascii ?_
  simp only [payload, List.forall_mem_cons]
  exact ⟨readable_int schemaVersion, readable_string (domains_plain.isAscii (mem_domains _)),
    readable_string (signals_plain.isAscii (mem_signals _)), readable_int eventCount,
    readable_int windowSeconds,
    readable_string (isAscii_of_isHash h.reportNonce), readable_int observedAt,
    readable_string h.networkId.isAscii, by simp⟩

/-- A checked statement is what its payload parses to. -/
theorem parseObject_payload {st : EndpointObservationStatementV1} (h : st.Checked) :
    parseObject (st.payload.map fun f => (str f.1, f.2)) = some st := by
  obtain ⟨small, smallCount, smallWindow, smallTime⟩ := h.small
  have unique : ((st.payload.map Prod.fst).map str).Nodup := keys_plain.distinct
  have schemaVersion := exactInt_document unique "schema_version" (by simp [payload]) small
  have eventCount := exactInt_document unique "event_count" (by simp [payload]) smallCount
  have windowSeconds := exactInt_document unique "window_seconds" (by simp [payload]) smallWindow
  have observedAt := exactInt_document unique "observed_at" (by simp [payload]) smallTime
  have domain :=
    enumValue_document unique "domain" (domains_plain.nodup _) (mem_domains st.domain)
      (by simp [payload])
  have signal :=
    enumValue_document unique "signal" (signals_plain.nodup _) (mem_signals st.signal)
      (by simp [payload])
  have reportNonce :=
    fixedLowerHex_document unique "report_nonce" (by simp [payload]) h.reportNonce
  have networkId := networkIdField_document unique "network_id" (by simp [payload]) h.networkId
  rw [parseObject, if_neg (by rw [keys_document]; exact fun differs => differs rfl)]
  simp only [schemaVersion, eventCount, windowSeconds, observedAt, domain, signal, reportNonce,
    networkId, Option.bind_eq_bind, Option.bind_some]
  rw [if_neg, if_neg (by simpa using h.domain)]
  simp only [not_or, not_not, List.contains_iff_mem]
  have := h.observedAt
  exact ⟨h.schemaVersion, h.eventCount, h.windowSeconds, by omega, h.observedAt.2.2⟩

/-- The reader reads back what was dumped. -/
theorem readsBack (floatRepr : Str → Str) :
    Canonical.ReadsBack (fun wire => (readObject floatRepr wire).bind parseObject) Checked
      fun st => dump st.payload := by
  intro st h
  show (readObject floatRepr _).bind parseObject = some st
  rw [readObject_document floatRepr (readable_payload h), Option.bind_some,
    parseObject_payload h]

theorem canonicalBytes_iff {st : EndpointObservationStatementV1} {wire : Bytes} :
    st.canonicalBytes wire = some wire ↔ st.Checked ∧
      wire.length ≤ maxCanonicalEndpointObservationBytes ∧ dump st.payload = wire := by
  unfold canonicalBytes
  by_cases isValid : st.validateState = true
  · have checked := validateState_iff.mp isValid
    rw [if_neg (not_not.mpr isValid), dumpsUtf8_document (readable_payload checked)]
    simp only [dump_ne_nil, false_or, Option.ite_none_left_eq_some, not_or, not_lt, not_not,
      Option.some.injEq]
    constructor
    · rintro ⟨⟨bounded, -⟩, rfl⟩
      exact ⟨checked, bounded, rfl⟩
    · rintro ⟨-, bounded, rfl⟩
      exact ⟨⟨bounded, rfl⟩, rfl⟩
  · rw [if_pos isValid]
    simp [← validateState_iff, isValid]

theorem canonical (floatRepr : Str → Str) (network : Str) :
    Canonical (parseCanonical floatRepr · network) (Accepts network) fun st => dump st.payload := by
  refine .of_readsBack (readsBack floatRepr) (fun st h => h.checked) fun wire st => ?_
  unfold parseCanonical
  constructor
  · intro h
    split at h
    · cases h
    split at h
    · cases h
    split at h
    · cases h
    rename_i statement isRead
    split at h
    · cases h
    rename_i sameNetwork
    split at h
    · cases h
    rename_i sameBytes
    obtain rfl := Option.some.inj h
    obtain ⟨checked, bounded, rfl⟩ := canonicalBytes_iff.mp (not_not.mp sameBytes)
    exact ⟨isRead, ⟨checked, not_not.mp sameNetwork, bounded⟩, rfl⟩
  · rintro ⟨isRead, ⟨checked, rfl, bounded⟩, rfl⟩
    have isNetwork := matchesNetworkId_iff.mpr checked.networkId
    have same := canonicalBytes_iff.mpr ⟨checked, bounded, rfl⟩
    simp [dump_ne_nil, Nat.not_lt.mpr bounded, isNetwork, isRead, same]

end Python.EndpointObservationStatementV1

/-! ## The Rust parser is canonical -/

namespace Rust.EndpointObservationStatementV1

/-- The statement in Python's types. -/
def toPython (st : EndpointObservationStatementV1) : Python.EndpointObservationStatementV1 where
  schemaVersion := st.schemaVersion.toNat
  domain := st.domain
  signal := st.signal
  eventCount := st.eventCount.toNat
  windowSeconds := st.windowSeconds.toNat
  reportNonce := st.reportNonce.map UInt8.toNat
  observedAt := st.observedAt.toNat
  networkId := st.networkId.map UInt8.toNat

/-- The statement in Rust's types. -/
def ofPython (st : Python.EndpointObservationStatementV1) : EndpointObservationStatementV1 where
  schemaVersion := UInt16.ofNat st.schemaVersion.toNat
  domain := st.domain
  signal := st.signal
  eventCount := UInt8.ofNat st.eventCount.toNat
  windowSeconds := UInt64.ofNat st.windowSeconds.toNat
  reportNonce := encodeAscii st.reportNonce
  observedAt := UInt64.ofNat st.observedAt.toNat
  networkId := encodeAscii st.networkId

theorem ofPython_toPython (st : EndpointObservationStatementV1) : ofPython st.toPython = st := by
  simp [ofPython, toPython, encodeAscii_toNat]

theorem toPython_ofPython {st : Python.EndpointObservationStatementV1} (h : st.Checked) :
    (ofPython st).toPython = st := by
  obtain ⟨small, smallCount, smallWindow, smallTime⟩ := h.small
  have eventCount : ((UInt8.ofNat st.eventCount.toNat).toNat : Int) = st.eventCount := by
    have range := h.eventCount
    rw [UInt8.toNat_ofNat_of_lt' (by show _ < 256; omega)]
    omega
  have reportNonce := map_toNat_encodeAscii (isAscii_of_isHash h.reportNonce).small
  have networkId := map_toNat_encodeAscii h.networkId.isAscii.small
  unfold toPython ofPython
  simp only [toNat_ofNat_16 small.1 (by have := h.schemaVersion; omega), eventCount,
    toNat_ofNat_64 smallWindow, toNat_ofNat_64 smallTime, reportNonce, networkId]

theorem name_eq (d : EndpointObservationDomain) :
    EndpointObservationDomain.name d = Python.EndpointObservationDomain.value d := by
  cases d <;> rfl

theorem signalName_eq (s : EndpointObservationSignal) :
    EndpointObservationSignal.name s = Python.EndpointObservationSignal.value s := by
  cases s <;> rfl

theorem domain_eq (s : EndpointObservationSignal) :
    EndpointObservationSignal.domain s = Python.EndpointObservationSignal.domain s := by
  cases s <;> rfl

/-- Both languages write the same bytes. -/
theorem toVec_eq (st : EndpointObservationStatementV1) : st.toVec = dump st.toPython.payload := by
  rw [← serdeStruct_dump, toVec, name_eq, signalName_eq]
  simp only [serdeNat_eq, serdeString_eq]
  rfl

/-- Both languages make the same checks. -/
theorem validate_iff {st : EndpointObservationStatementV1} :
    st.validate = true ↔ st.toPython.Checked := by
  have schemaVersion : st.schemaVersion = 1 ↔ (st.schemaVersion.toNat : Int) = 1 := toNat_eq_16
  have windowSeconds : st.windowSeconds ∈ allowedWindowSeconds ↔
      (st.windowSeconds.toNat : Int) ∈
        Python.EndpointObservationStatementV1.allowedWindowSeconds :=
    (List.mem_map_of_injective fun a b same => toNat_eq_64.mpr same).symm
  have positive : st.observedAt = 0 ↔ (st.observedAt.toNat : Int) = 0 := toNat_eq_64
  have minute : st.observedAt % 60 = 0 ↔ (st.observedAt.toNat : Int) % 60 = 0 := by
    rw [toNat_eq_64, UInt64.toNat_mod]
    rfl
  have count : st.eventCount = 0 ↔ st.eventCount.toNat = 0 := UInt8.toNat_inj.symm
  have countSmall := st.eventCount.toNat_lt
  have timeSmall := st.observedAt.toNat_lt
  unfold validate
  constructor
  · intro h
    split at h
    · cases h
    rename_i checks
    simp only [not_or, not_not, List.contains_iff_mem, isFixedLowerHex_eq, domain_eq] at checks
    obtain ⟨version, domain, counted, window, nonce, time, whole⟩ := checks
    rw [positive] at time
    rw [count] at counted
    refine ⟨schemaVersion.mp version, domain, ?_, windowSeconds.mp window,
      ⟨?_, ?_, minute.mp whole⟩, nonce, validateNetworkId_iff.mp h⟩
    · show (1 : Int) ≤ st.eventCount.toNat ∧ (st.eventCount.toNat : Int) ≤ 255
      omega
    · show (1 : Int) ≤ st.observedAt.toNat
      omega
    · show (st.observedAt.toNat : Int) ≤ 2 ^ 64 - 1
      omega
  · intro h
    rw [if_neg]
    · exact validateNetworkId_iff.mpr h.networkId
    have eventCount : (1 : Int) ≤ st.eventCount.toNat := h.eventCount.1
    have observedAt : (1 : Int) ≤ st.observedAt.toNat := h.observedAt.1
    simp only [not_or, not_not, List.contains_iff_mem, isFixedLowerHex_eq, domain_eq]
    refine ⟨schemaVersion.mpr h.schemaVersion, h.domain, ?_, windowSeconds.mpr h.windowSeconds,
      h.reportNonce, ?_, minute.mpr h.observedAt.2.2⟩
    · rw [count]
      omega
    · rw [positive]
      omega

theorem toVec_ne_nil (st : EndpointObservationStatementV1) : st.toVec ≠ [] := by
  rw [toVec_eq]
  exact dump_ne_nil _

theorem toCanonicalBytes_iff {st : EndpointObservationStatementV1} {wire : Bytes} :
    st.toCanonicalBytes = some wire ↔ st.toPython.Checked ∧
      wire.length ≤ maxCanonicalEndpointObservationBytes ∧ dump st.toPython.payload = wire := by
  unfold toCanonicalBytes
  by_cases isValid : st.validate = true
  · have checked := validate_iff.mp isValid
    rw [if_neg (not_not.mpr isValid), ← toVec_eq]
    simp only [toVec_ne_nil, false_or, Option.ite_none_left_eq_some, not_lt, Option.some.injEq]
    constructor
    · rintro ⟨bounded, rfl⟩
      exact ⟨checked, bounded, rfl⟩
    · rintro ⟨-, bounded, rfl⟩
      exact ⟨bounded, rfl⟩
  · rw [if_pos isValid]
    simp [← validate_iff, isValid]

/-- `serde_json` reads back the statements that it wrote. -/
def ReadsBack (fromSlice : Bytes → Option EndpointObservationStatementV1) : Prop :=
  Canonical.ReadsBack fromSlice (fun st => st.validate = true) toVec

theorem canonical {fromSlice : Bytes → Option EndpointObservationStatementV1}
    (readsBack : ReadsBack fromSlice) {network : Str} {networkBytes : Bytes}
    (sameNetwork : encodeUtf8 network = some networkBytes) :
    Canonical (parseCanonical fromSlice · networkBytes)
      (fun st => Python.EndpointObservationStatementV1.Accepts network st.toPython) toVec := by
  refine .of_readsBack readsBack (fun st h => validate_iff.mpr h.checked) fun wire st => ?_
  unfold parseCanonical
  constructor
  · intro h
    split at h
    · cases h
    split at h
    · cases h
    rename_i isNetwork
    split at h
    · cases h
    rename_i statement isRead
    split at h
    · cases h
    split at h
    · cases h
    rename_i trusted
    split at h
    · cases h
    rename_i sameBytes
    obtain rfl := Option.some.inj h
    obtain ⟨checked, bounded, rfl⟩ := toCanonicalBytes_iff.mp (not_not.mp sameBytes)
    obtain rfl := not_not.mp trusted
    refine ⟨isRead, ⟨checked, ?_, bounded⟩, toVec_eq _⟩
    exact toNat_encodeUtf8 sameNetwork (.inl checked.networkId.isAscii)
  · rintro ⟨isRead, ⟨checked, trusted, bounded⟩, rfl⟩
    have isNetwork : IsNetworkId network := trusted ▸ checked.networkId
    obtain rfl : st.networkId = networkBytes := by
      rw [encodeUtf8_of_ascii isNetwork.isAscii, ← trusted] at sameNetwork
      exact (encodeAscii_toNat _).symm.trans (Option.some.inj sameNetwork)
    have valid := validate_iff.mpr checked
    have same := toCanonicalBytes_iff.mpr ⟨checked, bounded, rfl⟩
    rw [← toVec_eq] at bounded same
    simp [toVec_ne_nil, Nat.not_lt.mpr bounded, validateNetworkId_iff.mpr checked.networkId,
      isRead, valid, same]

end Rust.EndpointObservationStatementV1

/-! ## Agreement -/

/-- The two statements expose the same fields. -/
structure SameObservation (rust : Rust.EndpointObservationStatementV1)
    (python : Python.EndpointObservationStatementV1) : Prop where
  schemaVersion : python.schemaVersion = rust.schemaVersion.toNat
  domain : python.domain = rust.domain
  signal : python.signal = rust.signal
  eventCount : python.eventCount = rust.eventCount.toNat
  windowSeconds : python.windowSeconds = rust.windowSeconds.toNat
  reportNonce : encodeUtf8 python.reportNonce = some rust.reportNonce
  observedAt : python.observedAt = rust.observedAt.toNat
  networkId : encodeUtf8 python.networkId = some rust.networkId

theorem sameObservation_toPython {st : Rust.EndpointObservationStatementV1}
    (h : st.toPython.Checked) : SameObservation st st.toPython where
  schemaVersion := rfl
  domain := rfl
  signal := rfl
  eventCount := rfl
  windowSeconds := rfl
  reportNonce := encodeUtf8_toNat (isAscii_of_isHash h.reportNonce)
  observedAt := rfl
  networkId := encodeUtf8_toNat h.networkId.isAscii

/-- On every wire and network both parsers refuse, or both accept with the same fields, the same
digest and the wire as the canonical bytes. -/
theorem endpoint_observation_agree
    {fromSlice : Bytes → Option Rust.EndpointObservationStatementV1}
    (readsBack : Rust.EndpointObservationStatementV1.ReadsBack fromSlice)
    (floatRepr : Str → Str) (sha256 : Bytes → Bytes) (wire : Bytes) {network : Str}
    {networkBytes : Bytes} (sameNetwork : encodeUtf8 network = some networkBytes) :
    (Rust.EndpointObservationStatementV1.parseCanonical fromSlice wire networkBytes = none ∧
      Python.EndpointObservationStatementV1.parseCanonical floatRepr wire network = none) ∨
    ∃ rust python,
      Rust.EndpointObservationStatementV1.parseCanonical fromSlice wire networkBytes =
        some rust ∧
      Python.EndpointObservationStatementV1.parseCanonical floatRepr wire network =
        some python ∧
      SameObservation rust python ∧
      rust.toCanonicalBytes = some wire ∧ python.canonicalBytes wire = some wire ∧
      ∃ digest, rust.statementDigest sha256 = some digest ∧
        python.statementDigest sha256 wire = some digest := by
  have isRust := Rust.EndpointObservationStatementV1.canonical readsBack sameNetwork
  have isPython := Python.EndpointObservationStatementV1.canonical floatRepr network
  have agree := isRust.agree isPython Rust.EndpointObservationStatementV1.toPython
    (fun st h => ⟨h, (Rust.EndpointObservationStatementV1.toVec_eq st).symm⟩)
    (fun st h => by
      have same := Rust.EndpointObservationStatementV1.toPython_ofPython h.checked
      exact ⟨.ofPython st, by rwa [same], same⟩) wire
  cases accepted : Rust.EndpointObservationStatementV1.parseCanonical fromSlice wire networkBytes with
  | none =>
    rw [accepted] at agree
    exact .inl ⟨rfl, agree⟩
  | some st =>
    rw [accepted] at agree
    obtain ⟨checked, -, bounded⟩ := isRust.valid accepted
    have isWire := isRust.encode_eq accepted
    rw [Rust.EndpointObservationStatementV1.toVec_eq] at isWire
    have short : wire.length ≤ maxCanonicalEndpointObservationBytes := isWire ▸ bounded
    have rustBytes :=
      Rust.EndpointObservationStatementV1.toCanonicalBytes_iff.mpr ⟨checked, short, isWire⟩
    have pythonBytes :=
      Python.EndpointObservationStatementV1.canonicalBytes_iff.mpr ⟨checked, short, isWire⟩
    refine .inr ⟨st, st.toPython, rfl, agree, sameObservation_toPython checked, rustBytes,
      pythonBytes, _, ?_, by rw [Python.EndpointObservationStatementV1.statementDigest, pythonBytes]; rfl⟩
    simp only [Rust.EndpointObservationStatementV1.statementDigest, rustBytes]
    rw [if_pos]
    · rfl
    · rw [maxCanonicalEndpointObservationBytes] at short
      omega

/-- A reader of the wire struct. -/
def endpointObservationReader (wire : Bytes) : Option Rust.EndpointObservationStatementV1 :=
  ((Python.readObject id wire).bind Python.EndpointObservationStatementV1.parseObject).map
    Rust.EndpointObservationStatementV1.ofPython

theorem endpointObservationReader_readsBack :
    Rust.EndpointObservationStatementV1.ReadsBack endpointObservationReader := by
  intro st h
  have checked := Rust.EndpointObservationStatementV1.validate_iff.mp h
  have isRead : (Python.readObject id (dump st.toPython.payload)).bind _ = some st.toPython :=
    Python.EndpointObservationStatementV1.readsBack id _ checked
  show ((Python.readObject id st.toVec).bind _).map _ = some st
  rw [Rust.EndpointObservationStatementV1.toVec_eq, isRead, Option.map_some,
    Rust.EndpointObservationStatementV1.ofPython_toPython]

/-- The statement of the source's tests. -/
def baseObservation : Rust.EndpointObservationStatementV1 where
  schemaVersion := 1
  domain := .process
  signal := .unexpectedChildProcess
  eventCount := 1
  windowSeconds := 60
  reportNonce := List.replicate 64 97
  observedAt := 1700000040
  networkId := ascii "testnet-10"

theorem endpoint_observation_agree_base :
    ∃ rust python,
      Rust.EndpointObservationStatementV1.parseCanonical endpointObservationReader
        baseObservation.toVec (ascii "testnet-10") = some rust ∧
      Python.EndpointObservationStatementV1.parseCanonical id baseObservation.toVec
        (str "testnet-10") = some python ∧
      SameObservation rust python ∧
      rust.toCanonicalBytes = some baseObservation.toVec ∧
      python.canonicalBytes baseObservation.toVec = some baseObservation.toVec ∧
      ∃ digest, rust.statementDigest sha256 = some digest ∧
        python.statementDigest sha256 baseObservation.toVec = some digest := by
  have isNetwork : encodeUtf8 (str "testnet-10") = some (ascii "testnet-10") := by decide
  have isValid : baseObservation.validate = true := by decide
  have short : baseObservation.toVec.length ≤ maxCanonicalEndpointObservationBytes := by
    decide +kernel
  refine (endpoint_observation_agree endpointObservationReader_readsBack id sha256
    baseObservation.toVec isNetwork).resolve_left ?_
  rintro ⟨refused, -⟩
  have accepted := (Rust.EndpointObservationStatementV1.canonical
    endpointObservationReader_readsBack isNetwork).parse_encode (a := baseObservation)
    ⟨Rust.EndpointObservationStatementV1.validate_iff.mp isValid, rfl,
      by rwa [← Rust.EndpointObservationStatementV1.toVec_eq]⟩
  rw [refused] at accepted
  cases accepted

end Prometheus.ThreatHint
