import Prometheus.Codec.Frame
import Prometheus.Codec.Sha256
import Prometheus.ThreatHint.Fields

/-!
# Acknowledgements of the ingress sockets

The acks of `ballot_ingress.py`, `threat_hint_ingress.py` and `threat_hint_v2_ingress.py`, and the
clients of `ingress.rs`, `threat_hint_ingress.rs` and `threat_hint_v2_ingress.rs` that read them
behind a length prefix. The two hint protocols share their code up to a version, the statuses and
the texts of the errors. `serde_json::from_slice` and SHA-256 are parameters.
-/

namespace Prometheus.Ingress

open Prometheus.Codec Prometheus.ThreatHint

/-- `IngressStatus` of ballots and of first hints, in both languages. -/
inductive IngressStatus
  | accepted | duplicate | rejected | busy
  deriving DecidableEq, Repr

/-- `IngressStatus` of second hints. -/
inductive V2IngressStatus
  | accepted | rejected | busy
  deriving DecidableEq, Repr

/-- The text of a status, which serde derives with `rename_all = "lowercase"`. -/
def IngressStatus.name : IngressStatus → String
  | .accepted => "accepted"
  | .duplicate => "duplicate"
  | .rejected => "rejected"
  | .busy => "busy"

def V2IngressStatus.name : V2IngressStatus → String
  | .accepted => "accepted"
  | .rejected => "rejected"
  | .busy => "busy"

/-- `MAX_INGRESS_ACK_BYTES` of ballots. -/
def maxIngressAckBytes : Nat := 512

/-- `MAX_ACK_BYTES` of hints. -/
def maxHintAckBytes : Nat := 384

/-- What distinguishes the two hint protocols. -/
structure HintProtocol (Status : Type) where
  version : UInt8
  name : Status → String
  busy : Status
  busyError : String
  digestError : String
  oversizedError : String

/-- `THREAT_HINT_PROTOCOL_VERSION` with the statuses and errors of `ThreatHintIngressAck`. -/
def threatHintV1 : HintProtocol IngressStatus where
  version := 1
  name := IngressStatus.name
  busy := .busy
  busyError := "busy acknowledgement must be unbound"
  digestError := "acknowledgement digest is invalid"
  oversizedError := "ThreatHint acknowledgement is oversized"

/-- `THREAT_HINT_V2_PROTOCOL_VERSION` with the statuses and errors of `ThreatHintV2IngressAck`. -/
def threatHintV2 : HintProtocol V2IngressStatus where
  version := 2
  name := V2IngressStatus.name
  busy := .busy
  busyError := "busy ThreatHint-v2 acknowledgement must be unbound"
  digestError := "ThreatHint-v2 acknowledgement digest is invalid"
  oversizedError := "ThreatHint-v2 acknowledgement is oversized"

/-! ## Python -/

namespace Python

/-- `IngressAck` of `ballot_ingress.py`. -/
structure IngressAck where
  status : IngressStatus
  sessionId : Str
  payloadDigest : Str
  deriving DecidableEq, Repr

namespace IngressAck

/-- `_has_valid_identifiers`. -/
def hasValidIdentifiers (ack : IngressAck) : Bool :=
  let sessionValid := ack.sessionId.isEmpty || isHash ack.sessionId
  let digestValid := ack.payloadDigest.isEmpty || isHash ack.payloadDigest
  if ¬ sessionValid ∨ ¬ digestValid then false
  else
    match ack.status with
    | .accepted | .duplicate => !ack.sessionId.isEmpty && !ack.payloadDigest.isEmpty
    | .busy => ack.sessionId.isEmpty && ack.payloadDigest.isEmpty
    | .rejected => true

def payload (ack : IngressAck) : List (String × Json) :=
  [("payload_digest", .string ack.payloadDigest),
    ("protocol_version", .int 1),
    ("session_id", .string ack.sessionId),
    ("status", .string (str ack.status.name))]

/-- `to_wire`; the error is the text of a `BallotIngressError`. -/
def toWire (ack : IngressAck) : Except String Bytes :=
  if ¬ ack.hasValidIdentifiers then .error "invalid ingress acknowledgement identifiers"
  else
    let wire := (document ack.payload).dumps
    if maxIngressAckBytes < wire.length then
      .error "ingress acknowledgement exceeds size limit"
    else .ok wire

end IngressAck

/-- `ThreatHintIngressAck` and `ThreatHintV2IngressAck`. -/
structure HintAck (Status : Type) where
  status : Status
  payloadDigest : Str
  deriving DecidableEq, Repr

namespace HintAck

variable {Status : Type} [DecidableEq Status] (protocol : HintProtocol Status)

def payload (ack : HintAck Status) : List (String × Json) :=
  [("payload_digest", .string ack.payloadDigest),
    ("protocol_version", .int protocol.version.toNat),
    ("status", .string (str (protocol.name ack.status)))]

/-- `to_wire`; the error is the text of a `ThreatHintIngressError` or `ThreatHintV2IngressError`. -/
def toWire (ack : HintAck Status) : Except String Bytes :=
  if ack.status = protocol.busy ∧ ack.payloadDigest ≠ [] then .error protocol.busyError
  else if ack.status ≠ protocol.busy ∧ ¬ isHash ack.payloadDigest then .error protocol.digestError
  else
    let wire := dumpsOrdered (document (ack.payload protocol))
    if maxHintAckBytes < wire.length then .error protocol.oversizedError else .ok wire

end HintAck

end Python

/-! ## Rust -/

namespace Rust

section

variable {α : Type}

/-- The end of `forward_inner`: the ack of a response that is one frame and nothing else. -/
def readAck (limit : Nat) (fromSlice : Bytes → Option α) (toVec : α → Bytes)
    (hasValidIdentifiers : α → Bool) (response : Bytes) : Option α := do
  let ackBytes ← readFrame limit response
  let ack ← fromSlice ackBytes
  if toVec ack ≠ ackBytes ∨ ¬ hasValidIdentifiers ack then none else some ack

end

/-- `IngressAck` of `ingress.rs`. -/
structure IngressAck where
  payloadDigest : Bytes
  protocolVersion : UInt8
  sessionId : Bytes
  status : IngressStatus
  deriving DecidableEq, Repr

namespace IngressAck

/-- `has_valid_identifiers`. -/
def hasValidIdentifiers (sha256 : Bytes → Bytes) (ballot : Bytes) (ack : IngressAck) : Bool :=
  if ack.protocolVersion ≠ 1 then false
  else
    let expectedDigest := encodeAscii (hex (sha256 ballot))
    match ack.status with
    | .accepted | .duplicate =>
      ThreatHint.Rust.isFixedLowerHex ack.sessionId && decide (ack.payloadDigest = expectedDigest)
    | .rejected =>
      (ack.sessionId.isEmpty || ThreatHint.Rust.isFixedLowerHex ack.sessionId) &&
        decide (ack.payloadDigest = expectedDigest)
    | .busy => ack.sessionId.isEmpty && ack.payloadDigest.isEmpty

/-- `serde_json::to_vec`. -/
def toVec (ack : IngressAck) : Bytes :=
  serdeStruct
    [("payload_digest", serdeString ack.payloadDigest),
      ("protocol_version", serdeNat ack.protocolVersion.toNat),
      ("session_id", serdeString ack.sessionId),
      ("status", serdeString (ascii ack.status.name))]

end IngressAck

/-- `UnixBallotIngress::forward`, from the collector's response on. -/
def forwardBallot (sha256 : Bytes → Bytes) (fromSlice : Bytes → Option IngressAck)
    (ballot response : Bytes) : Option IngressStatus :=
  (readAck maxIngressAckBytes fromSlice IngressAck.toVec (IngressAck.hasValidIdentifiers sha256 ballot)
    response).map IngressAck.status

/-- `ThreatHintIngressAck` and `ThreatHintV2IngressAck`. -/
structure HintAck (Status : Type) where
  payloadDigest : Bytes
  protocolVersion : UInt8
  status : Status
  deriving DecidableEq, Repr

namespace HintAck

variable {Status : Type} [DecidableEq Status] (protocol : HintProtocol Status)

/-- `has_valid_identifiers`. -/
def hasValidIdentifiers (sha256 : Bytes → Bytes) (hint : Bytes) (ack : HintAck Status) : Bool :=
  if ack.protocolVersion ≠ protocol.version then false
  else if ack.status = protocol.busy then ack.payloadDigest.isEmpty
  else decide (ack.payloadDigest = encodeAscii (hex (sha256 hint)))

/-- `serde_json::to_vec`. -/
def toVec (ack : HintAck Status) : Bytes :=
  serdeStruct
    [("payload_digest", serdeString ack.payloadDigest),
      ("protocol_version", serdeNat ack.protocolVersion.toNat),
      ("status", serdeString (ascii (protocol.name ack.status)))]

/-- The hint clients from the response on. -/
def forward (sha256 : Bytes → Bytes) (fromSlice : Bytes → Option (HintAck Status))
    (hint response : Bytes) : Option Status :=
  (readAck maxHintAckBytes fromSlice (toVec protocol) (hasValidIdentifiers protocol sha256 hint)
    response).map HintAck.status

end HintAck

/-- `UnixThreatHintIngress::forward`, from the response on. -/
def forwardThreatHint (sha256 : Bytes → Bytes)
    (fromSlice : Bytes → Option (HintAck IngressStatus)) (hint response : Bytes) :
    Option IngressStatus :=
  HintAck.forward threatHintV1 sha256 fromSlice hint response

/-- `UnixThreatHintV2Ingress::forward`, from the response on. -/
def forwardThreatHintV2 (sha256 : Bytes → Bytes)
    (fromSlice : Bytes → Option (HintAck V2IngressStatus)) (payload response : Bytes) :
    Option V2IngressStatus :=
  HintAck.forward threatHintV2 sha256 fromSlice payload response

end Rust

/-! ## The clients -/

theorem readAck_iff {α : Type} {limit : Nat} (small : limit < 2 ^ 32)
    {fromSlice : Bytes → Option α} {toVec : α → Bytes} {hasValidIdentifiers : α → Bool}
    (reads : Canonical.ReadsBack fromSlice (fun ack => hasValidIdentifiers ack = true) toVec)
    (fits : ∀ ack, hasValidIdentifiers ack = true →
      0 < (toVec ack).length ∧ (toVec ack).length ≤ limit) {response : Bytes} {ack : α} :
    Rust.readAck limit fromSlice toVec hasValidIdentifiers response = some ack ↔
      hasValidIdentifiers ack = true ∧ response = frame (toVec ack) := by
  unfold Rust.readAck
  simp only [Option.bind_eq_bind, Option.bind_eq_some_iff, Option.ite_none_left_eq_some,
    readFrame_iff small, not_or, not_not, ne_eq, Option.some.injEq]
  constructor
  · intro h
    obtain ⟨ackBytes, ⟨framed, -, -⟩, ack', -, ⟨same, isValid⟩, rfl⟩ := h
    exact ⟨isValid, same ▸ framed⟩
  · intro h
    obtain ⟨isValid, framed⟩ := h
    exact ⟨toVec ack, ⟨framed, fits ack isValid⟩, ack, reads ack isValid, ⟨rfl, isValid⟩, rfl⟩

theorem isEmpty_map_toNat (bytes : Bytes) : (bytes.map UInt8.toNat).isEmpty = bytes.isEmpty := by
  cases bytes <;> rfl

/-- The digest as a text and as bytes. -/
theorem digest_eq_iff {digest value : Bytes} :
    value = encodeAscii (hex digest) ↔ value.map UInt8.toNat = hex digest := by
  rw [eq_comm, encodeAscii_eq_iff (isAscii_hex digest), eq_comm]

theorem isPlainText_of_isHash {s : Str} (h : isHash s = true) : IsPlainText s := by
  rw [isHash, Bool.and_eq_true, List.all_eq_true] at h
  exact isPlainText_of_lowerHex h.2

/-- An identifier of an ack: empty or 64 hex digits. -/
def IsIdentifier (s : Str) : Prop := s = [] ∨ isHash s = true

theorem isIdentifier_iff {s : Str} : (s.isEmpty || isHash s) = true ↔ IsIdentifier s := by
  rw [Bool.or_eq_true, List.isEmpty_iff, IsIdentifier]

theorem IsIdentifier.isPlainText {s : Str} (h : IsIdentifier s) : IsPlainText s := by
  rcases h with rfl | isHex
  · intro c hc
    cases hc
  · exact isPlainText_of_isHash isHex

theorem IsIdentifier.isAscii {s : Str} (h : IsIdentifier s) : IsAscii s := by
  intro c hc
  have := h.isPlainText c hc
  omega

theorem IsIdentifier.length_le {s : Str} (h : IsIdentifier s) :
    ((Json.string s).compact quoteRaw).length ≤ 66 := by
  rcases h with rfl | isHex
  · decide
  · exact (length_hash isHex).le

/-! ## Ballots -/

namespace Python.IngressAck

/-- The ack is one for this payload: bound to its digest, or busy and unbound. -/
def Answers (sha256 : Bytes → Bytes) (ballot : Bytes) (ack : IngressAck) : Prop :=
  ack.payloadDigest = if ack.status = .busy then [] else hex (sha256 ballot)

/-- What a status asks of the identifiers. -/
def HasShape (ack : IngressAck) : Prop :=
  match ack.status with
  | .accepted | .duplicate => ack.sessionId ≠ [] ∧ ack.payloadDigest ≠ []
  | .busy => ack.sessionId = [] ∧ ack.payloadDigest = []
  | .rejected => True

theorem HasShape.of_present {ack : IngressAck} (notBusy : ack.status ≠ .busy)
    (sessionId : ack.sessionId ≠ []) (payloadDigest : ack.payloadDigest ≠ []) : ack.HasShape := by
  unfold HasShape
  cases status : ack.status
  · exact ⟨sessionId, payloadDigest⟩
  · exact ⟨sessionId, payloadDigest⟩
  · trivial
  · exact absurd status notBusy

theorem hasValidIdentifiers_iff {ack : IngressAck} : ack.hasValidIdentifiers = true ↔
    IsIdentifier ack.sessionId ∧ IsIdentifier ack.payloadDigest ∧ ack.HasShape := by
  have shape : (match ack.status with
      | .accepted | .duplicate => !ack.sessionId.isEmpty && !ack.payloadDigest.isEmpty
      | .busy => ack.sessionId.isEmpty && ack.payloadDigest.isEmpty
      | .rejected => true) = true ↔ ack.HasShape := by
    unfold HasShape
    cases ack.status <;> simp
  unfold hasValidIdentifiers
  by_cases identifiers : IsIdentifier ack.sessionId ∧ IsIdentifier ack.payloadDigest
  · rw [if_neg (by rwa [not_or, not_not, not_not, isIdentifier_iff, isIdentifier_iff]), shape]
    exact ⟨fun h => ⟨identifiers.1, identifiers.2, h⟩, fun h => h.2.2⟩
  · rw [if_pos (by rwa [← not_and_or, isIdentifier_iff, isIdentifier_iff])]
    exact iff_of_false Bool.false_ne_true fun h => identifiers ⟨h.1, h.2.1⟩

theorem statuses_plain (status : IngressStatus) :
    IsPlainText (str status.name) ∧ (quoteRaw (str status.name)).length ≤ 11 := by
  have all : ∀ status ∈ [IngressStatus.accepted, .duplicate, .rejected, .busy],
      (∀ c ∈ str status.name, 32 ≤ c ∧ c ≤ 126) ∧ (quoteRaw (str status.name)).length ≤ 11 := by
    decide
  exact all status (by cases status <;> simp)

/-- The keys of an ack, in their order. -/
def keys : List String := ["payload_digest", "protocol_version", "session_id", "status"]

theorem keys_facts : (keys.map str).Pairwise (· ≤ ·) ∧
    (∀ key ∈ keys, ∀ c ∈ str key, 32 ≤ c ∧ c ≤ 126) ∧
    (keys.map fun key => (quoteRaw (str key)).length + 2).sum ≤ 64 := by
  decide

section

variable {ack : IngressAck} (sessionId : IsIdentifier ack.sessionId)
  (payloadDigest : IsIdentifier ack.payloadDigest)

include sessionId payloadDigest

theorem dumps_payload : (document ack.payload).dumps = dump ack.payload := by
  obtain ⟨sorted, plain, -⟩ := keys_facts
  apply dumps_document
  · rwa [show ack.payload.map (fun f => str f.1) = keys.map str from rfl]
  · intro f hf
    exact plain f.1 (List.mem_map_of_mem hf)
  · intro f hf
    simp only [payload, List.mem_cons, List.not_mem_nil, or_false] at hf
    rcases hf with rfl | rfl | rfl | rfl
    · exact .string payloadDigest.isPlainText
    · exact .int 1
    · exact .string sessionId.isPlainText
    · exact .string (statuses_plain ack.status).1

theorem length_payload : (dump ack.payload).length ≤ 256 := by
  have total := length_dump_le (show ack.payload.map Prod.fst = keys from rfl)
  have names := keys_facts.2.2
  have digest := payloadDigest.length_le
  have session := sessionId.length_le
  have version := length_int_le (.of_le (i := 1) (by decide) (by decide))
  have status : ((Json.string (str ack.status.name)).compact quoteRaw).length ≤ 11 :=
    (statuses_plain ack.status).2
  simp only [payload, List.map_cons, List.map_nil, List.sum_cons, List.sum_nil] at total ⊢
  omega

end

theorem toWire_iff {ack : IngressAck} {wire : Bytes} :
    ack.toWire = .ok wire ↔ ack.hasValidIdentifiers = true ∧ dump ack.payload = wire := by
  unfold toWire
  rw [ite_error_eq_ok, not_not]
  refine and_congr_right fun isValid => ?_
  obtain ⟨sessionId, payloadDigest, -⟩ := hasValidIdentifiers_iff.mp isValid
  have small := length_payload sessionId payloadDigest
  rw [dumps_payload sessionId payloadDigest, if_neg (by rw [maxIngressAckBytes]; omega),
    Except.ok.injEq]

end Python.IngressAck

namespace Rust.IngressAck

/-- The ack in Python's types. -/
def toPython (ack : IngressAck) : Python.IngressAck where
  status := ack.status
  sessionId := ack.sessionId.map UInt8.toNat
  payloadDigest := ack.payloadDigest.map UInt8.toNat

/-- The ack in Rust's types. -/
def ofPython (ack : Python.IngressAck) : IngressAck where
  payloadDigest := encodeAscii ack.payloadDigest
  protocolVersion := 1
  sessionId := encodeAscii ack.sessionId
  status := ack.status

theorem toPython_ofPython {ack : Python.IngressAck} (h : ack.hasValidIdentifiers = true) :
    (ofPython ack).toPython = ack := by
  obtain ⟨sessionId, payloadDigest, -⟩ := Python.IngressAck.hasValidIdentifiers_iff.mp h
  unfold toPython ofPython
  simp only [map_toNat_encodeAscii sessionId.isAscii.small,
    map_toNat_encodeAscii payloadDigest.isAscii.small]

/-- Both languages write the same bytes. -/
theorem toVec_eq {ack : IngressAck} (version : ack.protocolVersion = 1) :
    ack.toVec = dump ack.toPython.payload := by
  rw [← serdeStruct_dump, toVec, version]
  simp only [serdeNat_eq, serdeString_eq]
  rfl

/-- The client checks that an ack of the collector answers its ballot. -/
theorem hasValidIdentifiers_iff {sha256 : Bytes → Bytes}
    (digestLength : ∀ bytes, (sha256 bytes).length = 32) {ballot : Bytes} {ack : IngressAck} :
    ack.hasValidIdentifiers sha256 ballot = true ↔ ack.protocolVersion = 1 ∧
      ack.toPython.Answers sha256 ballot ∧ ack.toPython.hasValidIdentifiers = true := by
  have isHex := isHash_hex (digestLength ballot)
  have nonempty : hex (sha256 ballot) ≠ [] := by
    rw [← List.length_pos_iff, length_hex, digestLength]
    decide
  have notHash : ¬ isHash [] = true := by decide
  rw [Python.IngressAck.hasValidIdentifiers_iff, Python.IngressAck.Answers]
  unfold hasValidIdentifiers Python.IngressAck.HasShape IsIdentifier
  by_cases version : ack.protocolVersion = 1
  · rw [if_neg (not_not.mpr version)]
    cases status : ack.status <;> simp only [toPython, status, digest_eq_iff, version, true_and,
      Bool.and_eq_true, Bool.or_eq_true, decide_eq_true_eq, isFixedLowerHex_eq,
      ← isEmpty_map_toNat, List.isEmpty_iff, reduceCtorEq, if_false, if_true, and_true]
    case busy => tauto
    all_goals
      constructor
      · intro h
        obtain ⟨session, bound⟩ := h
        rw [bound]
        first
          | exact ⟨rfl, .inr session, .inr isHex, fun empty => notHash (empty ▸ session), nonempty⟩
          | exact ⟨rfl, session, .inr isHex⟩
      · intro h
        first
          | exact ⟨h.2.1.resolve_left h.2.2.2.1, h.1⟩
          | exact ⟨h.2.1, h.1⟩
  · rw [if_pos version]
    exact iff_of_false Bool.false_ne_true fun h => version h.1

/-- `serde_json` reads back the ASCII acks that it wrote. -/
def ReadsBack (fromSlice : Bytes → Option IngressAck) : Prop :=
  Canonical.ReadsBack fromSlice (fun ack => IsAscii (ack.sessionId.map UInt8.toNat) ∧
    IsAscii (ack.payloadDigest.map UInt8.toNat)) toVec

end Rust.IngressAck

/-- The ballot client accepts the frames of the collector's acks for its ballot. -/
theorem forwardBallot_iff {sha256 : Bytes → Bytes}
    (digestLength : ∀ bytes, (sha256 bytes).length = 32)
    {fromSlice : Bytes → Option Rust.IngressAck} (readsBack : Rust.IngressAck.ReadsBack fromSlice)
    {ballot response : Bytes} {status : IngressStatus} :
    Rust.forwardBallot sha256 fromSlice ballot response = some status ↔
      ∃ ack : Python.IngressAck, ack.status = status ∧ ack.Answers sha256 ballot ∧
        ∃ wire, ack.toWire = .ok wire ∧ response = frame wire := by
  have reads : Canonical.ReadsBack fromSlice
      (fun ack => ack.hasValidIdentifiers sha256 ballot = true) Rust.IngressAck.toVec := by
    intro ack isValid
    obtain ⟨-, -, checked⟩ := (Rust.IngressAck.hasValidIdentifiers_iff digestLength).mp isValid
    obtain ⟨sessionId, payloadDigest, -⟩ := Python.IngressAck.hasValidIdentifiers_iff.mp checked
    exact readsBack ack ⟨sessionId.isAscii, payloadDigest.isAscii⟩
  have fits : ∀ ack : Rust.IngressAck, ack.hasValidIdentifiers sha256 ballot = true →
      0 < ack.toVec.length ∧ ack.toVec.length ≤ maxIngressAckBytes := by
    intro ack isValid
    obtain ⟨version, -, checked⟩ :=
      (Rust.IngressAck.hasValidIdentifiers_iff digestLength).mp isValid
    obtain ⟨sessionId, payloadDigest, -⟩ := Python.IngressAck.hasValidIdentifiers_iff.mp checked
    have small := Python.IngressAck.length_payload sessionId payloadDigest
    rw [Rust.IngressAck.toVec_eq version]
    exact ⟨List.length_pos_iff.mpr (dump_ne_nil _), small.trans (by decide)⟩
  simp only [Rust.forwardBallot, Option.map_eq_some_iff, readAck_iff (by decide) reads fits]
  constructor
  · intro h
    obtain ⟨ack, ⟨isValid, framed⟩, rfl⟩ := h
    obtain ⟨version, answers, checked⟩ :=
      (Rust.IngressAck.hasValidIdentifiers_iff digestLength).mp isValid
    refine ⟨ack.toPython, rfl, answers, ack.toVec, ?_, framed⟩
    exact Python.IngressAck.toWire_iff.mpr ⟨checked, (Rust.IngressAck.toVec_eq version).symm⟩
  · intro h
    obtain ⟨ack, rfl, answers, wire, isWire, framed⟩ := h
    obtain ⟨checked, rfl⟩ := Python.IngressAck.toWire_iff.mp isWire
    have same := Rust.IngressAck.toPython_ofPython checked
    refine ⟨.ofPython ack, ⟨?_, ?_⟩, rfl⟩
    · rw [Rust.IngressAck.hasValidIdentifiers_iff digestLength, same]
      exact ⟨rfl, answers, checked⟩
    · rw [framed, Rust.IngressAck.toVec_eq rfl, same]

/-! ## Hints -/

section

variable {Status : Type} [DecidableEq Status] (protocol : HintProtocol Status)

/-- The statuses are short plain texts. -/
def HintProtocol.HasPlainNames : Prop :=
  ∀ status, IsPlainText (str (protocol.name status)) ∧
    (quoteRaw (str (protocol.name status))).length ≤ 11

namespace Python.HintAck

/-- The ack is one for this payload: bound to its digest, or busy and unbound. -/
def Answers (sha256 : Bytes → Bytes) (hint : Bytes) (ack : HintAck Status) : Prop :=
  ack.payloadDigest = if ack.status = protocol.busy then [] else hex (sha256 hint)

/-- The keys of an ack, in their order. -/
def keys : List String := ["payload_digest", "protocol_version", "status"]

theorem keys_facts : (∀ key ∈ keys, ∀ c ∈ str key, 32 ≤ c ∧ c ≤ 126) ∧
    (keys.map fun key => (quoteRaw (str key)).length + 2).sum ≤ 64 := by
  decide

variable {protocol} (plain : protocol.HasPlainNames) {ack : HintAck Status}
  (payloadDigest : IsIdentifier ack.payloadDigest)

include plain payloadDigest

omit [DecidableEq Status] in
theorem dumps_payload :
    dumpsOrdered (document (ack.payload protocol)) = dump (ack.payload protocol) := by
  apply dumpsOrdered_document
  · intro f hf
    exact keys_facts.1 f.1 (List.mem_map_of_mem hf)
  · intro f hf
    simp only [payload, List.mem_cons, List.not_mem_nil, or_false] at hf
    rcases hf with rfl | rfl | rfl
    · exact .string payloadDigest.isPlainText
    · exact .int _
    · exact .string (plain ack.status).1

omit [DecidableEq Status] in
theorem length_payload : (dump (ack.payload protocol)).length ≤ 256 := by
  have total := length_dump_le (show (ack.payload protocol).map Prod.fst = keys from rfl)
  have names := keys_facts.2
  have digest := payloadDigest.length_le
  have byte := protocol.version.toNat_lt
  have version := length_int_le (.of_le (i := protocol.version.toNat) (by omega) (by omega))
  have status : ((Json.string (str (protocol.name ack.status))).compact quoteRaw).length ≤ 11 :=
    (plain ack.status).2
  simp only [payload, List.map_cons, List.map_nil, List.sum_cons, List.sum_nil] at total ⊢
  omega

omit payloadDigest in
/-- An ack has a wire when its digest is there exactly if it is not busy. -/
theorem toWire_iff {wire : Bytes} : ack.toWire protocol = .ok wire ↔
    (if ack.status = protocol.busy then ack.payloadDigest = []
      else isHash ack.payloadDigest = true) ∧ dump (ack.payload protocol) = wire := by
  unfold toWire
  by_cases busy : ack.status = protocol.busy
  · rw [if_pos busy, if_neg (c := ack.status ≠ protocol.busy ∧ _) (fun h => h.1 busy),
      ite_error_eq_ok]
    by_cases unbound : ack.payloadDigest = []
    · have small := length_payload plain (.inl unbound)
      rw [dumps_payload plain (.inl unbound), if_neg (by rw [maxHintAckBytes]; omega),
        Except.ok.injEq]
      exact and_congr_left fun _ => iff_of_true (fun h => h.2 unbound) unbound
    · exact iff_of_false (fun h => h.1 ⟨busy, unbound⟩) fun h => unbound h.1
  · rw [if_neg busy, if_neg (c := ack.status = protocol.busy ∧ _) (fun h => busy h.1),
      ite_error_eq_ok]
    by_cases bound : isHash ack.payloadDigest = true
    · have small := length_payload plain (.inr bound)
      rw [dumps_payload plain (.inr bound), if_neg (by rw [maxHintAckBytes]; omega),
        Except.ok.injEq]
      exact and_congr_left fun _ => iff_of_true (fun h => h.2 bound) bound
    · exact iff_of_false (fun h => h.1 ⟨busy, bound⟩) fun h => bound h.1

end Python.HintAck

namespace Rust.HintAck

/-- The ack in Python's types. -/
def toPython (ack : HintAck Status) : Python.HintAck Status where
  status := ack.status
  payloadDigest := ack.payloadDigest.map UInt8.toNat

/-- The ack in Rust's types. -/
def ofPython (ack : Python.HintAck Status) : HintAck Status where
  payloadDigest := encodeAscii ack.payloadDigest
  protocolVersion := protocol.version
  status := ack.status

variable {protocol}

omit [DecidableEq Status] in
/-- Both languages write the same bytes. -/
theorem toVec_eq {ack : HintAck Status} (version : ack.protocolVersion = protocol.version) :
    ack.toVec protocol = dump (ack.toPython.payload protocol) := by
  rw [← serdeStruct_dump, toVec, version]
  simp only [serdeNat_eq, serdeString_eq]
  rfl

/-- The client checks that an ack answers its hint. -/
theorem hasValidIdentifiers_iff {sha256 : Bytes → Bytes} {hint : Bytes} {ack : HintAck Status} :
    ack.hasValidIdentifiers protocol sha256 hint = true ↔
      ack.protocolVersion = protocol.version ∧ ack.toPython.Answers protocol sha256 hint := by
  unfold hasValidIdentifiers Python.HintAck.Answers
  by_cases version : ack.protocolVersion = protocol.version
  · rw [if_neg (not_not.mpr version)]
    by_cases busy : ack.status = protocol.busy
    · rw [if_pos busy, if_pos (show ack.toPython.status = protocol.busy from busy),
        ← isEmpty_map_toNat, List.isEmpty_iff]
      exact ⟨fun h => ⟨version, h⟩, fun h => h.2⟩
    · rw [if_neg busy, if_neg (show ¬ ack.toPython.status = protocol.busy from busy),
        decide_eq_true_eq, digest_eq_iff]
      exact ⟨fun h => ⟨version, h⟩, fun h => h.2⟩
  · rw [if_pos version]
    exact iff_of_false Bool.false_ne_true fun h => version h.1

variable (protocol) in
/-- `serde_json` reads back the ASCII acks that it wrote. -/
def ReadsBack (fromSlice : Bytes → Option (HintAck Status)) : Prop :=
  Canonical.ReadsBack fromSlice (fun ack => IsAscii (ack.payloadDigest.map UInt8.toNat))
    (toVec protocol)

/-- A hint client accepts the frames of the server's acks for its hint. -/
theorem forward_iff (plain : protocol.HasPlainNames) {sha256 : Bytes → Bytes}
    (digestLength : ∀ bytes, (sha256 bytes).length = 32)
    {fromSlice : Bytes → Option (HintAck Status)} (readsBack : ReadsBack protocol fromSlice)
    {hint response : Bytes} {status : Status} :
    forward protocol sha256 fromSlice hint response = some status ↔
      ∃ ack : Python.HintAck Status, ack.status = status ∧ ack.Answers protocol sha256 hint ∧
        ∃ wire, ack.toWire protocol = .ok wire ∧ response = frame wire := by
  have isHex := isHash_hex (digestLength hint)
  have identifier {ack : Python.HintAck Status} (answers : ack.Answers protocol sha256 hint) :
      IsIdentifier ack.payloadDigest := by
    rw [Python.HintAck.Answers] at answers
    by_cases busy : ack.status = protocol.busy
    · rw [if_pos busy] at answers
      exact .inl answers
    · rw [if_neg busy] at answers
      exact .inr (answers ▸ isHex)
  have reads : Canonical.ReadsBack fromSlice
      (fun ack => ack.hasValidIdentifiers protocol sha256 hint = true) (toVec protocol) := by
    intro ack isValid
    exact readsBack ack (identifier (hasValidIdentifiers_iff.mp isValid).2).isAscii
  have fits : ∀ ack : HintAck Status, ack.hasValidIdentifiers protocol sha256 hint = true →
      0 < (ack.toVec protocol).length ∧ (ack.toVec protocol).length ≤ maxHintAckBytes := by
    intro ack isValid
    obtain ⟨version, answers⟩ := hasValidIdentifiers_iff.mp isValid
    have small := Python.HintAck.length_payload plain (identifier answers)
    rw [toVec_eq version]
    exact ⟨List.length_pos_iff.mpr (dump_ne_nil _), small.trans (by decide)⟩
  have wires {ack : Python.HintAck Status} (answers : ack.Answers protocol sha256 hint) :
      if ack.status = protocol.busy then ack.payloadDigest = []
        else isHash ack.payloadDigest = true := by
    rw [Python.HintAck.Answers] at answers
    split <;> simp_all
  simp only [forward, Option.map_eq_some_iff, readAck_iff (by decide) reads fits]
  constructor
  · intro h
    obtain ⟨ack, ⟨isValid, framed⟩, rfl⟩ := h
    obtain ⟨version, answers⟩ := hasValidIdentifiers_iff.mp isValid
    refine ⟨ack.toPython, rfl, answers, ack.toVec protocol, ?_, framed⟩
    exact (Python.HintAck.toWire_iff plain).mpr ⟨wires answers, (toVec_eq version).symm⟩
  · intro h
    obtain ⟨ack, rfl, answers, wire, isWire, framed⟩ := h
    obtain ⟨-, rfl⟩ := (Python.HintAck.toWire_iff plain).mp isWire
    have same : (ofPython protocol ack).toPython = ack := by
      unfold toPython ofPython
      simp only [map_toNat_encodeAscii (identifier answers).isAscii.small]
    refine ⟨ofPython protocol ack, ⟨?_, ?_⟩, rfl⟩
    · rw [hasValidIdentifiers_iff, same]
      exact ⟨rfl, answers⟩
    · rw [framed, toVec_eq rfl, same]

end Rust.HintAck

end

/-! ## The three protocols -/

theorem threatHintV1_plain : threatHintV1.HasPlainNames := Python.IngressAck.statuses_plain

theorem threatHintV2_plain : threatHintV2.HasPlainNames := by
  have all : ∀ status ∈ [V2IngressStatus.accepted, .rejected, .busy],
      (∀ c ∈ str status.name, 32 ≤ c ∧ c ≤ 126) ∧ (quoteRaw (str status.name)).length ≤ 11 := by
    decide
  intro status
  exact all status (by cases status <;> simp)

/-- The collector has an ack with this status and wire for a ballot. -/
def Python.IngressAck.HasWire (sha256 : Bytes → Bytes) (ballot : Bytes) (status : IngressStatus)
    (wire : Bytes) : Prop :=
  ∃ ack : IngressAck, ack.status = status ∧ ack.Answers sha256 ballot ∧ ack.toWire = .ok wire

/-- The server has an ack with this status and wire for a hint. -/
def Python.HintAck.HasWire {Status : Type} [DecidableEq Status] (protocol : HintProtocol Status)
    (sha256 : Bytes → Bytes) (hint : Bytes) (status : Status) (wire : Bytes) : Prop :=
  ∃ ack : HintAck Status, ack.status = status ∧ ack.Answers protocol sha256 hint ∧
    ack.toWire protocol = .ok wire

/-- A client accepts exactly the frames of the wires that the server has for its payload, each with
its status, and the server has one for every status. -/
structure AcksAgree {Status : Type} (hasWire : Bytes → Status → Bytes → Prop)
    (forward : Bytes → Bytes → Option Status) : Prop where
  answered : ∀ payload status, ∃ wire, hasWire payload status wire
  accepted : ∀ payload response status, forward payload response = some status ↔
    ∃ wire, hasWire payload status wire ∧ response = frame wire

/-- A session identifier. -/
def zeroIdentifier : Str := List.replicate 64 48

theorem ballot_acks_agree {sha256 : Bytes → Bytes}
    (digestLength : ∀ bytes, (sha256 bytes).length = 32)
    {fromSlice : Bytes → Option Rust.IngressAck} (readsBack : Rust.IngressAck.ReadsBack fromSlice) :
    AcksAgree (Python.IngressAck.HasWire sha256) (Rust.forwardBallot sha256 fromSlice) where
  answered ballot status := by
    let ack : Python.IngressAck :=
      { status
        sessionId := if status = .busy then [] else zeroIdentifier
        payloadDigest := if status = .busy then [] else hex (sha256 ballot) }
    have zero : zeroIdentifier ≠ [] ∧ isHash zeroIdentifier = true := by decide
    have isHex := isHash_hex (digestLength ballot)
    have nonempty : hex (sha256 ballot) ≠ [] := by
      rw [← List.length_pos_iff, length_hex, digestLength]
      decide
    have isValid : ack.hasValidIdentifiers = true := by
      rw [Python.IngressAck.hasValidIdentifiers_iff]
      by_cases busy : status = .busy
      · subst busy
        exact ⟨.inl rfl, .inl rfl, rfl, rfl⟩
      · have sessionId : ack.sessionId = zeroIdentifier := if_neg busy
        have payloadDigest : ack.payloadDigest = hex (sha256 ballot) := if_neg busy
        refine ⟨.inr (sessionId ▸ zero.2), .inr (payloadDigest ▸ isHex), ?_⟩
        exact .of_present busy (sessionId ▸ zero.1) (payloadDigest ▸ nonempty)
    exact ⟨_, ack, rfl, rfl, Python.IngressAck.toWire_iff.mpr ⟨isValid, rfl⟩⟩
  accepted ballot response status := by
    rw [forwardBallot_iff digestLength readsBack]
    constructor
    · intro h
      obtain ⟨ack, same, answers, wire, isWire, framed⟩ := h
      exact ⟨wire, ⟨ack, same, answers, isWire⟩, framed⟩
    · intro h
      obtain ⟨wire, ⟨ack, same, answers, isWire⟩, framed⟩ := h
      exact ⟨ack, same, answers, wire, isWire, framed⟩

theorem hint_acks_agree {Status : Type} [DecidableEq Status] {protocol : HintProtocol Status}
    (plain : protocol.HasPlainNames) {sha256 : Bytes → Bytes}
    (digestLength : ∀ bytes, (sha256 bytes).length = 32)
    {fromSlice : Bytes → Option (Rust.HintAck Status)}
    (readsBack : Rust.HintAck.ReadsBack protocol fromSlice) :
    AcksAgree (Python.HintAck.HasWire protocol sha256)
      (Rust.HintAck.forward protocol sha256 fromSlice) where
  answered hint status := by
    let ack : Python.HintAck Status :=
      { status, payloadDigest := if status = protocol.busy then [] else hex (sha256 hint) }
    have hasDigest : if status = protocol.busy then ack.payloadDigest = []
        else isHash ack.payloadDigest = true := by
      by_cases busy : status = protocol.busy
      · rw [if_pos busy]
        exact if_pos busy
      · rw [if_neg busy, show ack.payloadDigest = hex (sha256 hint) from if_neg busy]
        exact isHash_hex (digestLength hint)
    exact ⟨_, ack, rfl, rfl, (Python.HintAck.toWire_iff plain).mpr ⟨hasDigest, rfl⟩⟩
  accepted hint response status := by
    rw [Rust.HintAck.forward_iff plain digestLength readsBack]
    constructor
    · intro h
      obtain ⟨ack, same, answers, wire, isWire, framed⟩ := h
      exact ⟨wire, ⟨ack, same, answers, isWire⟩, framed⟩
    · intro h
      obtain ⟨wire, ⟨ack, same, answers, isWire⟩, framed⟩ := h
      exact ⟨ack, same, answers, wire, isWire, framed⟩

/-- For every payload and status the client accepts the frames of the server's acks with that
status and no other response. Such an ack carries the digest of the payload, unless it is busy. -/
theorem ingress_acks_agree {sha256 : Bytes → Bytes}
    (digestLength : ∀ bytes, (sha256 bytes).length = 32)
    {ballotFromSlice : Bytes → Option Rust.IngressAck}
    (readsBallot : Rust.IngressAck.ReadsBack ballotFromSlice)
    {hintFromSlice : Bytes → Option (Rust.HintAck IngressStatus)}
    (readsHint : Rust.HintAck.ReadsBack threatHintV1 hintFromSlice)
    {v2FromSlice : Bytes → Option (Rust.HintAck V2IngressStatus)}
    (readsV2 : Rust.HintAck.ReadsBack threatHintV2 v2FromSlice) :
    AcksAgree (Python.IngressAck.HasWire sha256) (Rust.forwardBallot sha256 ballotFromSlice) ∧
      AcksAgree (Python.HintAck.HasWire threatHintV1 sha256)
        (Rust.forwardThreatHint sha256 hintFromSlice) ∧
      AcksAgree (Python.HintAck.HasWire threatHintV2 sha256)
        (Rust.forwardThreatHintV2 sha256 v2FromSlice) :=
  ⟨ballot_acks_agree digestLength readsBallot,
    hint_acks_agree threatHintV1_plain digestLength readsHint,
    hint_acks_agree threatHintV2_plain digestLength readsV2⟩

/-- The members of an enumeration under their names. -/
def statusReader {Status : Type} (name : Status → String) (members : List Status)
    (fields : List (Str × Json)) : Option Status :=
  ThreatHint.Python.enumValue name members (Json.field fields (str "status"))

/-- A reader of the acks of ballots. -/
def ballotAckReader (wire : Bytes) : Option Rust.IngressAck := do
  let fields ← ThreatHint.Python.readObject id wire
  let payloadDigest ← Json.textAt fields "payload_digest"
  let protocolVersion ← Json.intAt fields "protocol_version"
  let sessionId ← Json.textAt fields "session_id"
  let status ← statusReader IngressStatus.name [.accepted, .duplicate, .rejected, .busy] fields
  some
    { payloadDigest := encodeAscii payloadDigest
      protocolVersion := UInt8.ofNat protocolVersion.toNat
      sessionId := encodeAscii sessionId
      status }

/-- A reader of the acks of hints. -/
def hintAckReader {Status : Type} (name : Status → String) (members : List Status) (wire : Bytes) :
    Option (Rust.HintAck Status) := do
  let fields ← ThreatHint.Python.readObject id wire
  let payloadDigest ← Json.textAt fields "payload_digest"
  let protocolVersion ← Json.intAt fields "protocol_version"
  let status ← statusReader name members fields
  some
    { payloadDigest := encodeAscii payloadDigest
      protocolVersion := UInt8.ofNat protocolVersion.toNat
      status }

section

variable {keys : List String} {fields : List (String × Json)} (sameKeys : fields.map Prod.fst = keys)
  (plain : Plain keys)

include sameKeys plain

theorem textAt_document (key : String) {s : Str} (h : (key, Json.string s) ∈ fields) :
    Json.textAt (fields.map fun f => (str f.1, f.2)) key = some s := by
  subst sameKeys
  rw [Json.textAt, field_document plain.distinct h]
  rfl

theorem intAt_document (key : String) {i : Int} (h : (key, Json.int i) ∈ fields) :
    Json.intAt (fields.map fun f => (str f.1, f.2)) key = some i := by
  subst sameKeys
  rw [Json.intAt, field_document plain.distinct h]
  rfl

end

theorem ackKeys_plain : Plain Python.IngressAck.keys ∧ Plain Python.HintAck.keys := by
  decide

theorem statuses_distinct :
    Plain ([IngressStatus.accepted, .duplicate, .rejected, .busy].map IngressStatus.name) ∧
      Plain ([V2IngressStatus.accepted, .rejected, .busy].map V2IngressStatus.name) := by
  decide

theorem isU64_toNat (b : UInt8) : IsU64 (b.toNat : Int) := by
  have small := b.toNat_lt
  exact .of_le (by omega) (by omega)

theorem ballotAckReader_readsBack : Rust.IngressAck.ReadsBack ballotAckReader := by
  intro ack isAscii
  obtain ⟨sessionId, payloadDigest⟩ := isAscii
  let fields : List (String × Json) :=
    [("payload_digest", .string (ack.payloadDigest.map UInt8.toNat)),
      ("protocol_version", .int ack.protocolVersion.toNat),
      ("session_id", .string (ack.sessionId.map UInt8.toNat)),
      ("status", .string (str ack.status.name))]
  have same : fields.map Prod.fst = Python.IngressAck.keys := rfl
  have plain := ackKeys_plain.1
  have isMember : ack.status ∈ [IngressStatus.accepted, .duplicate, .rejected, .busy] := by
    cases ack.status <;> simp
  have readable : Readable (document fields) := by
    refine readable_document same plain.distinct plain.ascii ?_
    simp only [fields, List.forall_mem_cons]
    exact ⟨readable_string payloadDigest, readable_int (isU64_toNat _), readable_string sessionId,
      readable_string (statuses_distinct.1.isAscii isMember), by simp⟩
  have written : ack.toVec = dump fields := by
    rw [← serdeStruct_dump, Rust.IngressAck.toVec]
    simp only [serdeNat_eq, serdeString_eq]
    rfl
  have digest := textAt_document same plain "payload_digest" (by simp [fields]; rfl)
  have version := intAt_document same plain "protocol_version" (by simp [fields]; rfl)
  have session := textAt_document same plain "session_id" (by simp [fields]; rfl)
  have status : statusReader IngressStatus.name _ (fields.map fun f => (str f.1, f.2)) =
      some ack.status :=
    Python.enumValue_document (by rw [same]; exact plain.distinct) "status"
      (statuses_distinct.1.nodup _) isMember (by simp [fields])
  rw [written, ballotAckReader, readObject_document id readable]
  simp only [Option.bind_eq_bind, Option.bind_some, digest, version, session, status]
  simp [encodeAscii_toNat]

theorem hintAckReader_readsBack {Status : Type} [DecidableEq Status]
    {protocol : HintProtocol Status} {members : List Status}
    (names : Plain (members.map protocol.name)) (all : ∀ status, status ∈ members) :
    Rust.HintAck.ReadsBack protocol (hintAckReader protocol.name members) := by
  intro ack payloadDigest
  let fields : List (String × Json) :=
    [("payload_digest", .string (ack.payloadDigest.map UInt8.toNat)),
      ("protocol_version", .int ack.protocolVersion.toNat),
      ("status", .string (str (protocol.name ack.status)))]
  have same : fields.map Prod.fst = Python.HintAck.keys := rfl
  have plain := ackKeys_plain.2
  have readable : Readable (document fields) := by
    refine readable_document same plain.distinct plain.ascii ?_
    simp only [fields, List.forall_mem_cons]
    exact ⟨readable_string payloadDigest, readable_int (isU64_toNat _),
      readable_string (names.isAscii (all ack.status)), by simp⟩
  have written : ack.toVec protocol = dump fields := by
    rw [← serdeStruct_dump, Rust.HintAck.toVec]
    simp only [serdeNat_eq, serdeString_eq]
    rfl
  have digest := textAt_document same plain "payload_digest" (by simp [fields]; rfl)
  have version := intAt_document same plain "protocol_version" (by simp [fields]; rfl)
  have status : statusReader protocol.name members (fields.map fun f => (str f.1, f.2)) =
      some ack.status :=
    Python.enumValue_document (by rw [same]; exact plain.distinct) "status"
      (names.nodup _) (all ack.status) (by simp [fields])
  rw [written, hintAckReader, readObject_document id readable]
  simp only [Option.bind_eq_bind, Option.bind_some, digest, version, status]
  simp [encodeAscii_toNat]

theorem ingress_acks_agree_sha256 :
    AcksAgree (Python.IngressAck.HasWire sha256) (Rust.forwardBallot sha256 ballotAckReader) ∧
      AcksAgree (Python.HintAck.HasWire threatHintV1 sha256)
        (Rust.forwardThreatHint sha256
          (hintAckReader IngressStatus.name [.accepted, .duplicate, .rejected, .busy])) ∧
      AcksAgree (Python.HintAck.HasWire threatHintV2 sha256)
        (Rust.forwardThreatHintV2 sha256
          (hintAckReader V2IngressStatus.name [.accepted, .rejected, .busy])) :=
  ingress_acks_agree length_sha256 ballotAckReader_readsBack
    (hintAckReader_readsBack statuses_distinct.1 fun status => by cases status <;> simp)
    (hintAckReader_readsBack statuses_distinct.2 fun status => by cases status <;> simp)

/-- The client accepts a busy ack, and no ack with the digest of the ballot has its wire. -/
theorem busy_ack_unbound :
    ¬ ∀ ballot response status,
      Rust.forwardBallot sha256 ballotAckReader ballot response = some status →
        ∃ ack : Python.IngressAck, ack.payloadDigest = hex (sha256 ballot) ∧
          ∃ wire, ack.toWire = .ok wire ∧ response = frame wire := by
  intro claimed
  let busy : Python.IngressAck := ⟨.busy, [], []⟩
  have isWire : busy.toWire = .ok (dump busy.payload) :=
    Python.IngressAck.toWire_iff.mpr ⟨rfl, rfl⟩
  have isAccepted : Rust.forwardBallot sha256 ballotAckReader [] (frame (dump busy.payload)) =
      some .busy :=
    (forwardBallot_iff length_sha256 ballotAckReader_readsBack).mpr
      ⟨busy, rfl, rfl, _, isWire, rfl⟩
  obtain ⟨ack, bound, wire, hasWire, framed⟩ := claimed _ _ _ isAccepted
  obtain ⟨isValid, rfl⟩ := Python.IngressAck.toWire_iff.mp hasWire
  have sameWire : dump busy.payload = dump ack.payload := by
    have body := congrArg (List.drop 4) framed
    rwa [frame, frame, List.drop_left' (length_toBytesBig 4 _),
      List.drop_left' (length_toBytesBig 4 _)] at body
  have read (ack : Python.IngressAck) (isValid : ack.hasValidIdentifiers = true) :
      ballotAckReader (dump ack.payload) = some (.ofPython ack) := by
    have same := Rust.IngressAck.toPython_ofPython isValid
    obtain ⟨sessionId, payloadDigest, -⟩ := Python.IngressAck.hasValidIdentifiers_iff.mp isValid
    have written : (Rust.IngressAck.ofPython ack).toVec = _ := Rust.IngressAck.toVec_eq rfl
    rw [same] at written
    rw [← written]
    apply ballotAckReader_readsBack
    constructor
    · rw [show (Rust.IngressAck.ofPython ack).sessionId = encodeAscii ack.sessionId from rfl,
        map_toNat_encodeAscii sessionId.isAscii.small]
      exact sessionId.isAscii
    · rw [show (Rust.IngressAck.ofPython ack).payloadDigest = encodeAscii ack.payloadDigest from rfl,
        map_toNat_encodeAscii payloadDigest.isAscii.small]
      exact payloadDigest.isAscii
  have sameAck := Option.some.inj ((read ack isValid).symm.trans (sameWire ▸ read busy rfl))
  have unbound : encodeAscii ack.payloadDigest = [] := congrArg Rust.IngressAck.payloadDigest sameAck
  have long := congrArg List.length unbound
  rw [bound, encodeAscii, List.length_map, length_hex, length_sha256] at long
  cases long

end Prometheus.Ingress
