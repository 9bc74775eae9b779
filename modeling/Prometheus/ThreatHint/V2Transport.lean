import Prometheus.ThreatHint.Raises

/-!
# Version 2 transport payloads in the two languages

`ThreatHintV2TransportPayload` of `threat-hint/src/threat_hint_v2_transport.rs` and of
`jaeger/threat_hint_v2_transport.py`: the framing, which the two write in the same words, and the
parsers of the three sections behind it.
-/

namespace Prometheus.ThreatHint

open Prometheus.Codec

/-- `THREAT_HINT_V2_TRANSPORT_MAGIC`. -/
def transportMagic : Bytes := ascii "PHT2"

/-- `THREAT_HINT_V2_TRANSPORT_VERSION`. -/
def transportVersion : UInt8 := 1

/-- `REPORT_NONCE_BYTES`. -/
def reportNonceBytes : Nat := 32

/-- `LENGTH_FIELD_BYTES`. -/
def lengthFieldBytes : Nat := 4

/-- `NONCE_OFFSET`. -/
def nonceOffset : Nat := transportMagic.length + 1

/-- `ENVELOPE_LEN_OFFSET`. -/
def envelopeLenOffset : Nat := nonceOffset + reportNonceBytes

/-- `BUNDLE_LEN_OFFSET`. -/
def bundleLenOffset : Nat := envelopeLenOffset + lengthFieldBytes

/-- `APPROVAL_LEN_OFFSET`. -/
def approvalLenOffset : Nat := bundleLenOffset + lengthFieldBytes

/-- `HEADER_BYTES`. -/
def headerBytes : Nat := transportMagic.length + 1 + reportNonceBytes + 3 * lengthFieldBytes

/-- `MAX_TRANSPORT_PAYLOAD_BYTES`. -/
def maxTransportPayloadBytes : Nat :=
  headerBytes + maxCanonicalV2ProofEnvelopeBytes + maxCanonicalObservableBundleBytes +
    maxCanonicalApprovalBytes

/-! ## Framing -/

/-- The nonce and the three wires of a payload. -/
structure Sections where
  reportNonce : Bytes
  envelopeWire : Bytes
  bundleWire : Bytes
  approvalWire : Bytes
  deriving DecidableEq, Repr

/-- `read_be_len`. -/
def readBeLen (wireBytes : Bytes) (offset : Nat) : Nat :=
  fromBytesBig (slice wireBytes offset (offset + lengthFieldBytes))

/-- The framing that `parse_canonical` checks before it parses the sections. -/
def readSections (wireBytes : Bytes) : Option Sections :=
  if wireBytes = [] ∨ maxTransportPayloadBytes < wireBytes.length then none
  else if wireBytes.length < headerBytes + 3 then none
  else if wireBytes.take transportMagic.length ≠ transportMagic ∨
      wireBytes[nonceOffset - 1]? ≠ some transportVersion then none
  else
    let reportNonce := slice wireBytes nonceOffset (nonceOffset + reportNonceBytes)
    let envelopeLen := readBeLen wireBytes envelopeLenOffset
    let bundleLen := readBeLen wireBytes bundleLenOffset
    let approvalLen := readBeLen wireBytes approvalLenOffset
    if envelopeLen = 0 ∨ maxCanonicalV2ProofEnvelopeBytes < envelopeLen ∨ bundleLen = 0 ∨
        maxCanonicalObservableBundleBytes < bundleLen ∨ approvalLen = 0 ∨
        maxCanonicalApprovalBytes < approvalLen then none
    else if headerBytes + envelopeLen + bundleLen + approvalLen ≠ wireBytes.length then none
    else
      let bundleStart := headerBytes + envelopeLen
      let approvalStart := bundleStart + bundleLen
      some
        { reportNonce
          envelopeWire := slice wireBytes headerBytes bundleStart
          bundleWire := slice wireBytes bundleStart approvalStart
          approvalWire := wireBytes.drop approvalStart }

namespace Sections

/-- The bytes that `to_canonical_bytes` writes. -/
def toBytes (sections : Sections) : Bytes :=
  transportMagic ++ ([transportVersion] ++ (sections.reportNonce ++
    (toBytesBig lengthFieldBytes sections.envelopeWire.length ++
      (toBytesBig lengthFieldBytes sections.bundleWire.length ++
        (toBytesBig lengthFieldBytes sections.approvalWire.length ++
          (sections.envelopeWire ++ (sections.bundleWire ++ sections.approvalWire)))))))

/-- The limits of the sections. -/
structure Framed (sections : Sections) : Prop where
  reportNonce : sections.reportNonce.length = reportNonceBytes
  envelopeWire : 1 ≤ sections.envelopeWire.length ∧
    sections.envelopeWire.length ≤ maxCanonicalV2ProofEnvelopeBytes
  bundleWire : 1 ≤ sections.bundleWire.length ∧
    sections.bundleWire.length ≤ maxCanonicalObservableBundleBytes
  approvalWire : 1 ≤ sections.approvalWire.length ∧
    sections.approvalWire.length ≤ maxCanonicalApprovalBytes

end Sections

/-- The offsets and the limits of the layout. -/
theorem layout : transportMagic.length = 4 ∧ nonceOffset = 5 ∧ reportNonceBytes = 32 ∧
    lengthFieldBytes = 4 ∧ envelopeLenOffset = 37 ∧ bundleLenOffset = 41 ∧
    approvalLenOffset = 45 ∧ headerBytes = 49 ∧ maxCanonicalV2ProofEnvelopeBytes = 4096 ∧
    maxCanonicalObservableBundleBytes = 4096 ∧ maxCanonicalApprovalBytes = 1024 ∧
    maxTransportPayloadBytes = 9265 := by
  decide

/-- A length field holds the length that was read from it. -/
theorem toBytesBig_readBeLen (wire : Bytes) (offset : Nat)
    (h : offset + lengthFieldBytes ≤ wire.length) :
    toBytesBig lengthFieldBytes (readBeLen wire offset) =
      slice wire offset (offset + lengthFieldBytes) := by
  have size : (slice wire offset (offset + lengthFieldBytes)).length = lengthFieldBytes := by
    rw [length_slice h]
    omega
  have back := toBytesBig_fromBytesBig (slice wire offset (offset + lengthFieldBytes))
  rwa [size] at back

namespace Sections

theorem length_toBytes {sections : Sections} (framed : sections.Framed) :
    sections.toBytes.length = headerBytes + sections.envelopeWire.length +
      sections.bundleWire.length + sections.approvalWire.length := by
  obtain ⟨magic, -, -, field, -, -, -, header, -⟩ := layout
  have nonce := framed.reportNonce
  rw [show reportNonceBytes = 32 from rfl] at nonce
  simp only [toBytes, List.length_append, length_toBytesBig, List.length_singleton, magic, nonce,
    field, header]
  omega

/-- The fields and the sections at their offsets. -/
theorem slices_toBytes {sections : Sections} (framed : sections.Framed) :
    sections.toBytes.take 4 = transportMagic ∧ sections.toBytes[4]? = some transportVersion ∧
      slice sections.toBytes 5 37 = sections.reportNonce ∧
      readBeLen sections.toBytes 37 = sections.envelopeWire.length ∧
      readBeLen sections.toBytes 41 = sections.bundleWire.length ∧
      readBeLen sections.toBytes 45 = sections.approvalWire.length ∧
      slice sections.toBytes 49 (49 + sections.envelopeWire.length) = sections.envelopeWire ∧
      slice sections.toBytes (49 + sections.envelopeWire.length)
        (49 + sections.envelopeWire.length + sections.bundleWire.length) = sections.bundleWire ∧
      sections.toBytes.drop (49 + sections.envelopeWire.length + sections.bundleWire.length) =
        sections.approvalWire := by
  obtain ⟨-, -, -, field, -, -, -, -, maxEnvelope, maxBundle, maxApproval, -⟩ := layout
  obtain ⟨nonce, ⟨-, envelopeMax⟩, ⟨-, bundleMax⟩, -, approvalMax⟩ := framed
  simp only [maxEnvelope, maxBundle, maxApproval] at envelopeMax bundleMax approvalMax
  have whole : sections.toBytes.drop 0 = transportMagic ++ _ := rfl
  obtain ⟨isMagic, behindMagic⟩ := slice_of_drop 4 whole rfl
  obtain ⟨isVersion, behindVersion⟩ := slice_of_drop 5 behindMagic rfl
  obtain ⟨isNonce, behindNonce⟩ := slice_of_drop 37 behindVersion (by rw [nonce]; rfl)
  obtain ⟨isEnvelopeLen, behindEnvelopeLen⟩ :=
    slice_of_drop 41 behindNonce (by rw [length_toBytesBig, field])
  obtain ⟨isBundleLen, behindBundleLen⟩ :=
    slice_of_drop 45 behindEnvelopeLen (by rw [length_toBytesBig, field])
  obtain ⟨isApprovalLen, behindApprovalLen⟩ :=
    slice_of_drop 49 behindBundleLen (by rw [length_toBytesBig, field])
  obtain ⟨isEnvelope, behindEnvelope⟩ := slice_of_drop _ behindApprovalLen rfl
  obtain ⟨isBundle, behindBundle⟩ := slice_of_drop _ behindEnvelope rfl
  have version : sections.toBytes[4]? = some transportVersion := by
    rw [← List.head?_drop, behindMagic]
    rfl
  have length (n : Nat) (h : n ≤ 4096) : fromBytesBig (toBytesBig lengthFieldBytes n) = n :=
    fromBytesBig_toBytesBig (by rw [field]; omega)
  refine ⟨isMagic, version, isNonce, ?_, ?_, ?_, isEnvelope, isBundle, behindBundle⟩
  · exact (congrArg fromBytesBig isEnvelopeLen).trans (length _ envelopeMax)
  · exact (congrArg fromBytesBig isBundleLen).trans (length _ bundleMax)
  · exact (congrArg fromBytesBig isApprovalLen).trans (length _ (by omega))

/-- The framing is read from the bytes of framed sections, and from no others. -/
theorem readSections_iff {wire : Bytes} {sections : Sections} :
    readSections wire = some sections ↔ sections.Framed ∧ sections.toBytes = wire := by
  obtain ⟨magic, nonceOff, nonceLen, field, envelopeOff, bundleOff, approvalOff, header,
    maxEnvelope, maxBundle, maxApproval, maxPayload⟩ := layout
  simp only [readSections, Option.ite_none_left_eq_some, not_or, not_lt, not_not, ne_eq,
    Option.some.injEq, magic, nonceOff, nonceLen, envelopeOff, bundleOff, approvalOff,
    header, maxEnvelope, maxBundle, maxApproval, maxPayload]
  constructor
  · intro h
    obtain ⟨-, long, ⟨isMagic, isVersion⟩, ⟨envelopePos, envelopeMax, bundlePos, bundleMax,
      approvalPos, approvalMax⟩, total, rfl⟩ := h
    have version : slice wire 4 5 = [transportVersion] := by
      obtain ⟨inside, same⟩ := List.getElem?_eq_some_iff.mp isVersion
      rw [slice, List.drop_eq_getElem_cons inside, same]
      rfl
    have envelopeSize : (slice wire 49 (49 + readBeLen wire 37)).length = readBeLen wire 37 := by
      rw [length_slice (by omega)]
      omega
    have bundleSize : (slice wire (49 + readBeLen wire 37)
        (49 + readBeLen wire 37 + readBeLen wire 41)).length = readBeLen wire 41 := by
      rw [length_slice (by omega)]
      omega
    have approvalSize : (wire.drop (49 + readBeLen wire 37 + readBeLen wire 41)).length =
        readBeLen wire 45 := by
      rw [List.length_drop]
      omega
    constructor
    · refine ⟨(length_slice (by omega)).trans rfl, ?_, ?_, ?_⟩
      all_goals
        simp only [envelopeSize, bundleSize, approvalSize, maxEnvelope, maxBundle, maxApproval]
        omega
    · have envelopeField := toBytesBig_readBeLen wire 37 (by omega)
      have bundleField := toBytesBig_readBeLen wire 41 (by omega)
      have approvalField := toBytesBig_readBeLen wire 45 (by omega)
      rw [toBytes, envelopeSize, bundleSize, approvalSize, envelopeField, bundleField,
        approvalField, ← isMagic, ← version]
      simp only [field]
      rw [← drop_eq_slice_append wire (by omega), ← drop_eq_slice_append wire (by omega),
        ← drop_eq_slice_append wire (by omega), ← drop_eq_slice_append wire (by omega),
        ← drop_eq_slice_append wire (by omega), ← drop_eq_slice_append wire (by omega),
        ← drop_eq_slice_append wire (by omega), List.take_append_drop]
  · intro h
    obtain ⟨framed, rfl⟩ := h
    have size := length_toBytes framed
    obtain ⟨isMagic, isVersion, isNonce, envelopeLen, bundleLen, approvalLen, isEnvelope, isBundle,
      isApproval⟩ := slices_toBytes framed
    obtain ⟨-, ⟨envelopePos, envelopeMax⟩, ⟨bundlePos, bundleMax⟩, approvalPos, approvalMax⟩ := framed
    simp only [maxEnvelope, maxBundle, maxApproval, header] at envelopeMax bundleMax approvalMax size
    have nonempty : sections.toBytes ≠ [] := List.ne_nil_of_length_pos (by omega)
    rw [envelopeLen, bundleLen, approvalLen, isEnvelope, isBundle, isApproval]
    exact ⟨⟨nonempty, by omega⟩, by omega, ⟨isMagic, isVersion⟩, ⟨by omega, by omega, by omega,
      by omega, by omega, by omega⟩, by omega, congrArg (Sections.mk · _ _ _) isNonce⟩

end Sections

/-! ## Rust -/

namespace Rust

/-- `serde_json::from_slice` at the types of the wires. -/
structure Readers where
  envelope : Bytes → Option ThreatHintV2ProofEnvelopeWire
  statement : Bytes → Option ThreatHintV2Statement
  bundle : Bytes → Option ObservableBundle
  approval : Bytes → Option ObservableApprovalWire

structure ThreatHintV2TransportPayload extends Sections where
  envelope : ThreatHintV2ProofEnvelope
  bundle : ObservableBundle

namespace ThreatHintV2TransportPayload

def parseCanonical (sha256 : Bytes → Bytes) (serde : Readers) (wireBytes trustedNetworkId : Bytes) :
    Option ThreatHintV2TransportPayload := do
  let sections ← readSections wireBytes
  let envelope ← ThreatHintV2ProofEnvelope.parseCanonical sha256 serde.envelope serde.statement
    sections.envelopeWire trustedNetworkId
  if envelope.parsedStatement.reportNonce ≠ encodeAscii (hex sections.reportNonce) then none
  else do
    let bundle ← (ObservableBundle.parseCanonical serde.bundle sections.bundleWire).toOption
    let _ ← validateApprovalShape serde.approval sections.approvalWire
    some { toSections := sections, envelope, bundle }

def toCanonicalBytes (payload : ThreatHintV2TransportPayload) : Bytes := payload.toSections.toBytes

end ThreatHintV2TransportPayload

end Rust

/-! ## Python -/

namespace Python

structure ThreatHintV2TransportPayload extends Sections where
  envelope : ThreatHintV2ProofEnvelope
  bundle : ObservableBundle

namespace ThreatHintV2TransportPayload

/-- `_validate_state` of a payload whose envelope was parsed from the envelope's wire. -/
def validateState (sha256 : Bytes → Bytes) (python : Interpreter)
    (payload : ThreatHintV2TransportPayload) : Except Raised Unit :=
  if ¬ (1 ≤ payload.envelopeWire.length ∧
        payload.envelopeWire.length ≤ maxCanonicalV2ProofEnvelopeBytes) ∨
      ¬ (1 ≤ payload.bundleWire.length ∧
        payload.bundleWire.length ≤ maxCanonicalObservableBundleBytes) ∨
      ¬ (1 ≤ payload.approvalWire.length ∧
        payload.approvalWire.length ≤ maxCanonicalApprovalBytes) then .error .invalid
  else if payload.reportNonce.length ≠ reportNonceBytes then .error .invalid
  else do
    let envelopeBytes ←
      orRaise .sectionError (payload.envelope.canonicalBytes sha256 payload.envelopeWire)
    if envelopeBytes ≠ payload.envelopeWire then .error .invalid
    else do
      let bundleBytes ← orRaise .sectionError payload.bundle.canonicalBytes.toOption
      if bundleBytes ≠ payload.bundleWire then .error .invalid
      else if payload.envelope.parsedStatement.reportNonce ≠ hex payload.reportNonce then
        .error .invalid
      else do
        let _ ← validateApprovalShapeOrRaise python payload.approvalWire
        .ok ()

/-- `canonical_bytes` of a payload that `_PARSED_CANONICAL` maps to these bytes. -/
def canonicalBytes (sha256 : Bytes → Bytes) (python : Interpreter) (canonicalAtParse : Bytes)
    (payload : ThreatHintV2TransportPayload) : Except Raised Bytes := do
  payload.validateState sha256 python
  let canonical := payload.toSections.toBytes
  if canonical = [] ∨ maxTransportPayloadBytes < canonical.length ∨ canonical ≠ canonicalAtParse then
    .error .invalid
  else .ok canonical

def parseCanonical (sha256 : Bytes → Bytes) (python : Interpreter) (wireBytes : Bytes)
    (trustedNetworkId : Str) : Except Raised ThreatHintV2TransportPayload := do
  let sections ← orRaise .invalid (readSections wireBytes)
  let envelope ← ThreatHintV2ProofEnvelope.parseOrRaise sha256 python sections.envelopeWire
    trustedNetworkId
  if envelope.parsedStatement.reportNonce ≠ hex sections.reportNonce then .error .invalid
  else do
    let bundle ← ObservableBundle.parseOrRaise python sections.bundleWire
    let _ ← validateApprovalShapeOrRaise python sections.approvalWire
    let payload : ThreatHintV2TransportPayload := { toSections := sections, envelope, bundle }
    let canonical ← payload.canonicalBytes sha256 python wireBytes
    if canonical ≠ wireBytes then .error .invalid else .ok payload

end ThreatHintV2TransportPayload

end Python

/-! ## Accepted payloads -/

section

variable (sha256 : Bytes → Bytes) (network : Str)

/-- The bytes are canonical bytes of an envelope for the network. -/
def IsEnvelopeWire (wire : Bytes) (envelope : Python.ThreatHintV2ProofEnvelope) : Prop :=
  (envelope.Checked sha256 ∧ envelope.parsedStatement.networkId = network) ∧
    dump envelope.payload = wire

/-- The sections are within their limits, and each is canonical. -/
structure Sections.EachCanonical (sections : Sections) : Prop where
  framed : sections.Framed
  envelope : ∃ envelope, IsEnvelopeWire sha256 network sections.envelopeWire envelope
  bundle : ∃ bundle : Python.ObservableBundle, bundle.Accepts ∧
    dump bundle.payload = sections.bundleWire
  approval : ∃ approval : Python.ObservableApproval, approval.Shaped ∧
    dump approval.payload = sections.approvalWire

/-- And the nonce is the one of the envelope's statement. -/
structure Sections.Admissible (sections : Sections) : Prop
    extends sections.EachCanonical sha256 network where
  nonce : ∃ envelope, IsEnvelopeWire sha256 network sections.envelopeWire envelope ∧
    envelope.parsedStatement.reportNonce = hex sections.reportNonce

end

namespace Python.ThreatHintV2TransportPayload

/-- The payload is what canonical sections parse to. -/
structure IsParsed (sha256 : Bytes → Bytes) (network : Str)
    (payload : ThreatHintV2TransportPayload) : Prop where
  framed : payload.toSections.Framed
  envelope : IsEnvelopeWire sha256 network payload.envelopeWire payload.envelope
  nonce : payload.envelope.parsedStatement.reportNonce = hex payload.reportNonce
  bundle : payload.bundle.Accepts ∧ dump payload.bundle.payload = payload.bundleWire
  approval : ∃ shape : ObservableApproval, shape.Shaped ∧ dump shape.payload = payload.approvalWire

variable {sha256 : Bytes → Bytes} {python : Interpreter} (shallow : python.Shallow)
  {payload : ThreatHintV2TransportPayload} {network : Str}

include shallow

/-- What the parser makes of canonical sections is valid when it is validated again. -/
theorem IsParsed.canonicalBytes (parsed : payload.IsParsed sha256 network) :
    payload.canonicalBytes sha256 python payload.toSections.toBytes =
      .ok payload.toSections.toBytes := by
  obtain ⟨framed, envelope, nonce, bundle, shape, shaped, isApproval⟩ := parsed
  have envelopeBytes : payload.envelope.canonicalBytes sha256 payload.envelopeWire =
      some payload.envelopeWire :=
    ThreatHintV2ProofEnvelope.canonicalBytes_iff.mpr ⟨envelope.1.1, envelope.2, envelope.2⟩
  have bundleBytes : payload.bundle.canonicalBytes.toOption = some payload.bundleWire :=
    toOption_eq_some.mpr (ObservableBundle.canonicalBytes_iff.mpr
      ⟨bundle.1.checked, bundle.1.bounded, bundle.2⟩)
  have isShape := (validateApprovalShapeOrRaise_ok shallow).mpr
    ((ObservableApproval.validateApprovalShape_iff _).mpr ⟨shaped, isApproval⟩)
  have valid : payload.validateState sha256 python = .ok () := by
    simp only [validateState, ite_error_eq_ok, bind_eq_ok, orRaise_eq_ok, envelopeBytes, bundleBytes,
      isShape, nonce, framed.reportNonce]
    simp [framed.envelopeWire, framed.bundleWire, framed.approvalWire]
  have size := Sections.length_toBytes framed
  obtain ⟨-, -, -, -, -, -, -, header, maxEnvelope, maxBundle, maxApproval, maxPayload⟩ := layout
  have envelopeMax := framed.envelopeWire.2
  have bundleMax := framed.bundleWire.2
  have approvalMax := framed.approvalWire.2
  have positive : payload.toSections.toBytes ≠ [] := List.ne_nil_of_length_pos (by omega)
  rw [ThreatHintV2TransportPayload.canonicalBytes, valid]
  show (if _ then _ else _) = _
  rw [if_neg]
  rw [not_or, not_or, not_not]
  exact ⟨positive, by omega, rfl⟩

/-- The parser accepts the bytes of such payloads only. -/
theorem parseCanonical_iff {wire : Bytes} :
    parseCanonical sha256 python wire network = .ok payload ↔
      payload.IsParsed sha256 network ∧ payload.toSections.toBytes = wire := by
  have envelopeIff (bytes : Bytes) (envelope : ThreatHintV2ProofEnvelope) :=
    ThreatHintV2ProofEnvelope.canonical sha256 python.floatRepr network bytes envelope
  simp only [parseCanonical, bind_eq_ok, orRaise_eq_ok, ite_error_eq_ok,
    ThreatHintV2ProofEnvelope.parseOrRaise_ok shallow, ObservableBundle.parseOrRaise_ok shallow,
    validateApprovalShapeOrRaise_ok shallow, ObservableApproval.validateApprovalShape_iff,
    Sections.readSections_iff, ne_eq, not_not, Except.ok.injEq]
  constructor
  · intro h
    obtain ⟨sections, ⟨framed, isWire⟩, envelope, isEnvelope, nonce, bundle, isBundle, shape,
      isShape, _, -, -, rfl⟩ := h
    exact ⟨⟨framed, (envelopeIff _ _).mp isEnvelope, nonce,
      (ObservableBundle.canonical python.floatRepr _ _).mp (toOption_eq_some.mpr isBundle), shape,
      isShape⟩, isWire⟩
  · intro h
    obtain ⟨parsed, rfl⟩ := h
    have written := parsed.canonicalBytes shallow
    obtain ⟨framed, envelope, nonce, bundle, shape, isShape⟩ := parsed
    exact ⟨_, ⟨framed, rfl⟩, _, (envelopeIff _ _).mpr envelope, nonce, _,
      toOption_eq_some.mp ((ObservableBundle.canonical python.floatRepr _ _).mpr bundle), shape,
      isShape, _, written, rfl, rfl⟩

end Python.ThreatHintV2TransportPayload

namespace Rust

/-- `serde_json` reads back what it wrote, at each of the types. -/
structure Readers.ReadsBack (sha256 : Bytes → Bytes) (serde : Readers) : Prop where
  envelope : ThreatHintV2ProofEnvelope.ReadsBack sha256 serde.envelope
  statement : ThreatHintV2Statement.ReadsBack serde.statement
  bundle : ObservableBundle.ReadsBack serde.bundle
  approval : ObservableApprovalWire.ReadsBack serde.approval

namespace ThreatHintV2TransportPayload

/-- The payload in Python's types. -/
def toPython (payload : ThreatHintV2TransportPayload) : Python.ThreatHintV2TransportPayload where
  toSections := payload.toSections
  envelope := payload.envelope.toPython
  bundle := payload.bundle.toPython

theorem nonce_iff {nonce text : Bytes} :
    text = encodeAscii (hex nonce) ↔ text.map UInt8.toNat = hex nonce := by
  have ascii : IsAscii (hex nonce) :=
    Python.ObservableApproval.isAscii_of_digits fun c hc => isLowerHex_of_mem_hex hc
  constructor
  · intro same
    rw [same, map_toNat_encodeAscii ascii.small]
  · intro same
    rw [← same, encodeAscii_toNat]

/-- The parser accepts the bytes of the payloads that canonical sections parse to. -/
theorem parseCanonical_iff {sha256 : Bytes → Bytes} {serde : Readers}
    (readsBack : serde.ReadsBack sha256) {network : Str} {networkBytes : Bytes}
    (sameNetwork : encodeUtf8 network = some networkBytes) {wire : Bytes}
    {payload : ThreatHintV2TransportPayload} :
    parseCanonical sha256 serde wire networkBytes = some payload ↔
      payload.toPython.IsParsed sha256 network ∧ payload.toSections.toBytes = wire := by
  have envelopeIff (bytes : Bytes) (envelope : ThreatHintV2ProofEnvelope) :=
    ThreatHintV2ProofEnvelope.canonical readsBack.envelope readsBack.statement sameNetwork bytes
      envelope
  have bundleIff (bytes : Bytes) (bundle : ObservableBundle) :=
    ObservableBundle.canonical readsBack.bundle bytes bundle
  simp only [ThreatHintV2ProofEnvelope.toVec_eq, ObservableBundle.toVec_eq] at envelopeIff bundleIff
  simp only [parseCanonical, Option.bind_eq_bind, Option.bind_eq_some_iff,
    Option.ite_none_left_eq_some, Sections.readSections_iff, ne_eq, not_not, nonce_iff,
    ObservableApprovalWire.validateApprovalShape_iff readsBack.approval,
    ObservableApprovalWire.toVec_eq, Option.some.injEq]
  constructor
  · intro h
    obtain ⟨sections, ⟨framed, isWire⟩, envelope, isEnvelope, nonce, bundle, isBundle, shape,
      isShape, rfl⟩ := h
    exact ⟨⟨framed, (envelopeIff _ _).mp isEnvelope, nonce, (bundleIff _ _).mp isBundle, _,
      isShape⟩, isWire⟩
  · intro h
    obtain ⟨⟨framed, envelope, nonce, bundle, shape, isShape⟩, rfl⟩ := h
    have same := ObservableApprovalWire.toPython_ofPython isShape.1
    rw [← same] at isShape
    exact ⟨_, ⟨framed, rfl⟩, _, (envelopeIff _ _).mpr envelope, nonce, _, (bundleIff _ _).mpr bundle,
      _, isShape, rfl⟩

end ThreatHintV2TransportPayload

end Rust

/-! ## Agreement -/

section

variable {sha256 : Bytes → Bytes} {network : Str} {sections : Sections}

/-- Admissible sections are those of a parsed payload, in either language. -/
theorem admissible_iff : sections.Admissible sha256 network ↔
    ∃ payload : Rust.ThreatHintV2TransportPayload, payload.toPython.IsParsed sha256 network ∧
      payload.toSections = sections := by
  constructor
  · intro h
    obtain ⟨⟨framed, -, ⟨bundle, isBundle⟩, isApproval⟩, envelope, isEnvelope, nonce⟩ := h
    have sameEnvelope := Rust.ThreatHintV2ProofEnvelope.toPython_ofPython isEnvelope.1.1
    have sameBundle := Rust.ObservableBundle.toPython_ofPython isBundle.1.checked
    rw [← sameEnvelope] at isEnvelope nonce
    rw [← sameBundle] at isBundle
    exact ⟨⟨sections, .ofPython envelope, .ofPython bundle⟩,
      ⟨framed, isEnvelope, nonce, isBundle, isApproval⟩, rfl⟩
  · intro h
    obtain ⟨payload, parsed, rfl⟩ := h
    exact ⟨⟨parsed.framed, ⟨_, parsed.envelope⟩, ⟨_, parsed.bundle⟩, parsed.approval⟩, _,
      parsed.envelope, parsed.nonce⟩

theorem python_accepts_iff {python : Python.Interpreter} (shallow : python.Shallow) {wire : Bytes} :
    (∃ payload, Python.ThreatHintV2TransportPayload.parseCanonical sha256 python wire
        network = .ok payload ∧ payload.toSections = sections) ↔
      sections.toBytes = wire ∧ sections.Admissible sha256 network := by
  simp only [Python.ThreatHintV2TransportPayload.parseCanonical_iff shallow]
  constructor
  · intro h
    obtain ⟨payload, ⟨parsed, isWire⟩, rfl⟩ := h
    exact ⟨isWire, ⟨parsed.framed, ⟨_, parsed.envelope⟩, ⟨_, parsed.bundle⟩, parsed.approval⟩, _,
      parsed.envelope, parsed.nonce⟩
  · intro h
    obtain ⟨isWire, admissible⟩ := h
    obtain ⟨payload, parsed, rfl⟩ := admissible_iff.mp admissible
    exact ⟨payload.toPython, ⟨parsed, isWire⟩, rfl⟩

theorem rust_accepts_iff {serde : Rust.Readers} (readsBack : serde.ReadsBack sha256)
    {networkBytes : Bytes} (sameNetwork : encodeUtf8 network = some networkBytes) {wire : Bytes} :
    (∃ payload, Rust.ThreatHintV2TransportPayload.parseCanonical sha256 serde wire
        networkBytes = some payload ∧ payload.toSections = sections) ↔
      sections.toBytes = wire ∧ sections.Admissible sha256 network := by
  simp only [Rust.ThreatHintV2TransportPayload.parseCanonical_iff readsBack sameNetwork,
    admissible_iff]
  constructor
  · intro h
    obtain ⟨payload, ⟨parsed, isWire⟩, rfl⟩ := h
    exact ⟨isWire, payload, parsed, rfl⟩
  · intro h
    obtain ⟨isWire, payload, parsed, rfl⟩ := h
    exact ⟨payload, ⟨parsed, isWire⟩, rfl⟩

variable {serde : Rust.Readers} (readsBack : serde.ReadsBack sha256) {python : Python.Interpreter}
  (shallow : python.Shallow) {networkBytes : Bytes}
  (sameNetwork : encodeUtf8 network = some networkBytes)

include readsBack shallow sameNetwork

/-- Either parser accepts a wire with these sections exactly if the wire is their framing and they
are admissible. What was accepted is encoded as that wire again, and admissible sections are parsed
from their encoding. -/
theorem threat_hint_v2_transport_agree :
    (∀ wire sections,
      ((∃ payload, Rust.ThreatHintV2TransportPayload.parseCanonical sha256 serde wire
          networkBytes = some payload ∧ payload.toSections = sections) ↔
        sections.toBytes = wire ∧ sections.Admissible sha256 network) ∧
      ((∃ payload, Python.ThreatHintV2TransportPayload.parseCanonical sha256 python wire
          network = .ok payload ∧ payload.toSections = sections) ↔
        sections.toBytes = wire ∧ sections.Admissible sha256 network)) ∧
    (∀ wire payload, Rust.ThreatHintV2TransportPayload.parseCanonical sha256 serde wire
        networkBytes = some payload → payload.toCanonicalBytes = wire) ∧
    (∀ wire payload, Python.ThreatHintV2TransportPayload.parseCanonical sha256 python wire
        network = .ok payload → payload.canonicalBytes sha256 python wire = .ok wire) ∧
    ∀ sections : Sections, sections.Admissible sha256 network →
      ∃ rust payload, Rust.ThreatHintV2TransportPayload.parseCanonical sha256 serde
          sections.toBytes networkBytes = some rust ∧ rust.toSections = sections ∧
        Python.ThreatHintV2TransportPayload.parseCanonical sha256 python sections.toBytes
          network = .ok payload ∧ payload.toSections = sections := by
  refine ⟨fun wire sections => ⟨rust_accepts_iff readsBack sameNetwork,
    python_accepts_iff shallow⟩, fun wire payload accepted => ?_, fun wire payload accepted => ?_,
    fun sections admissible => ?_⟩
  · exact ((Rust.ThreatHintV2TransportPayload.parseCanonical_iff readsBack sameNetwork).mp
      accepted).2
  · obtain ⟨parsed, rfl⟩ :=
      (Python.ThreatHintV2TransportPayload.parseCanonical_iff shallow).mp accepted
    exact parsed.canonicalBytes shallow
  · obtain ⟨rust, isRust, sameRust⟩ :=
      (rust_accepts_iff readsBack sameNetwork).mpr ⟨rfl, admissible⟩
    obtain ⟨payload, isPython, samePython⟩ := (python_accepts_iff shallow).mpr ⟨rfl, admissible⟩
    exact ⟨rust, payload, isRust, sameRust, isPython, samePython⟩

end

/-- Readers of all wires. -/
def baseReaders : Rust.Readers :=
  ⟨v2EnvelopeReader, v2StatementReader, observableBundleReader, observableApprovalReader⟩

theorem baseReaders_readsBack : baseReaders.ReadsBack sha256 :=
  ⟨v2EnvelopeReader_readsBack sha256, v2StatementReader_readsBack,
    observableBundleReader_readsBack, observableApprovalReader_readsBack⟩

/-- The sections of the test vectors behind a nonce. -/
def baseSections (reportNonce : Bytes) : Sections where
  reportNonce
  envelopeWire := baseV2Envelope.toVec
  bundleWire := approvedBundle.toVec
  approvalWire := baseApproval.toVec

theorem baseV2Envelope_isEnvelopeWire : IsEnvelopeWire sha256 (str "testnet-10")
    baseV2Envelope.toVec baseV2Envelope.toPython := by
  have isValid : baseV2Envelope.validate = true := by decide +kernel
  have isBound : baseV2Envelope.validateStatementBinding sha256 = true := by decide +kernel
  exact ⟨⟨Rust.ThreatHintV2ProofEnvelope.validate_iff.mp ⟨isValid, isBound⟩, rfl⟩,
    (Rust.ThreatHintV2ProofEnvelope.toVec_eq _).symm⟩

theorem baseSections_canonical {reportNonce : Bytes} (size : reportNonce.length = 32) :
    (baseSections reportNonce).EachCanonical sha256 (str "testnet-10") where
  framed := by
    have framed : 1 ≤ baseV2Envelope.toVec.length ∧ baseV2Envelope.toVec.length ≤ 4096 ∧
        1 ≤ approvedBundle.toVec.length ∧ approvedBundle.toVec.length ≤ 4096 ∧
        1 ≤ baseApproval.toVec.length ∧ baseApproval.toVec.length ≤ 1024 := by
      decide +kernel
    obtain ⟨envelope, envelopeMax, bundle, bundleMax, approval, approvalMax⟩ := framed
    exact ⟨size, ⟨envelope, envelopeMax⟩, ⟨bundle, bundleMax⟩, approval, approvalMax⟩
  envelope := ⟨_, baseV2Envelope_isEnvelopeWire⟩
  bundle := ⟨_, approvedBundle_accepts, (Rust.ObservableBundle.toVec_eq _).symm⟩
  approval := ⟨_, baseApproval_shaped, (Rust.ObservableApprovalWire.toVec_eq _).symm⟩

theorem threat_hint_v2_transport_agree_base :
    ∃ rust payload, Rust.ThreatHintV2TransportPayload.parseCanonical sha256 baseReaders
        (baseSections (List.replicate 32 0xcc)).toBytes (ascii "testnet-10") = some rust ∧
      rust.toSections = baseSections (List.replicate 32 0xcc) ∧
      Python.ThreatHintV2TransportPayload.parseCanonical sha256 baseInterpreter
        (baseSections (List.replicate 32 0xcc)).toBytes (str "testnet-10") = .ok payload ∧
      payload.toSections = baseSections (List.replicate 32 0xcc) := by
  have isNetwork : encodeUtf8 (str "testnet-10") = some (ascii "testnet-10") := by decide
  obtain ⟨-, -, -, accepted⟩ := threat_hint_v2_transport_agree baseReaders_readsBack
    baseInterpreter_shallow isNetwork
  exact accepted _ ⟨baseSections_canonical rfl, _, baseV2Envelope_isEnvelopeWire, by decide⟩

/-- Canonical sections behind a nonce that is not the one of the envelope's statement. -/
theorem mismatched_nonce_refused :
    ¬ ∀ wire sections,
      (∃ payload, Rust.ThreatHintV2TransportPayload.parseCanonical sha256 baseReaders wire
          (ascii "testnet-10") = some payload ∧ payload.toSections = sections) ↔
        sections.toBytes = wire ∧ sections.EachCanonical sha256 (str "testnet-10") := by
  intro accepts
  have isNetwork : encodeUtf8 (str "testnet-10") = some (ascii "testnet-10") := by decide
  have canonical := baseSections_canonical (show (List.replicate 32 0).length = 32 from rfl)
  have accepted := (accepts _ _).mpr ⟨rfl, canonical⟩
  obtain ⟨-, -, envelope, isEnvelope, nonce⟩ :=
    (rust_accepts_iff baseReaders_readsBack isNetwork).mp accepted
  have canonicalEnvelope := Python.ThreatHintV2ProofEnvelope.canonical sha256 id (str "testnet-10")
  have same := ((canonicalEnvelope _ _).mpr isEnvelope).symm.trans
    ((canonicalEnvelope _ _).mpr baseV2Envelope_isEnvelopeWire)
  rw [Option.some.inj same] at nonce
  exact absurd nonce (by decide)

end Prometheus.ThreatHint
