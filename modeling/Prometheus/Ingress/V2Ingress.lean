import Prometheus.Ingress.Ack
import Prometheus.ThreatHint.V2Transport

/-!
# The ingress of version 2 hints

`ThreatHintV2Ingress.process` of `threat_hint_v2_ingress.py`: four gates in a row. The first catches
the error of the transport parser only; the others catch every exception. The session resolver, the
clock and the promotion service are parameters, and so is what the interpreter decides.
-/

namespace Prometheus.Ingress

open Prometheus.Codec Prometheus.ThreatHint
open Prometheus.ThreatHint.Python (Interpreter Raised Leaves LoadsTooDeep leaves_bind leaves_ite
  leaves_ok leaves_orRaise orRaise_eq_ok)

namespace Python

/-- What `promote` does: it returns, or raises one of its errors or any other exception. -/
inductive Promotion
  | returned
  | busyError
  | replayError
  | unavailableError
  | promotionError
  | otherException
  deriving DecidableEq, Repr

/-- The trusted side of the ingress. The resolver and the clock may raise any exception, and return
a value of any type; `none` stands for one that is not `bytes`, or not an `int`. -/
structure V2Trusted where
  networkId : Str
  resolve : Bytes → Except Unit (Option Bytes)
  nowSeconds : Except Unit (Option Int)
  promote : (envelopeWire bundleWire approvalWire reportNonce : Bytes) → (currentTime : Int) →
    Promotion

/-- `_ZERO_DIGEST`. -/
def zeroDigest : Str := List.replicate 64 48

/-- The answer to what `promote` does. -/
def answerPromotion (digest : Str) : Promotion → HintAck V2IngressStatus
  | .returned => ⟨.accepted, digest⟩
  | .busyError => ⟨.busy, []⟩
  | .replayError => ⟨.rejected, digest⟩
  | .unavailableError => ⟨.busy, []⟩
  | .promotionError => ⟨.rejected, digest⟩
  | .otherException => ⟨.busy, []⟩

/-- The gates behind the parser. -/
def passGates (trusted : V2Trusted) (digest : Str)
    (payload : ThreatHint.Python.ThreatHintV2TransportPayload) : HintAck V2IngressStatus :=
  match trusted.resolve payload.reportNonce with
  | .error _ => ⟨.busy, []⟩
  | .ok resolvedNonce =>
    match resolvedNonce with
    | none => ⟨.rejected, digest⟩
    | some nonce =>
      if nonce.length ≠ reportNonceBytes ∨ nonce ≠ payload.reportNonce then ⟨.rejected, digest⟩
      else
        match trusted.nowSeconds with
        | .error _ => ⟨.busy, []⟩
        | .ok none => ⟨.busy, []⟩
        | .ok (some currentTime) =>
          if currentTime < 1 ∨ u64Max < currentTime then ⟨.busy, []⟩
          else answerPromotion digest (trusted.promote payload.envelopeWire payload.bundleWire
            payload.approvalWire nonce currentTime)

/-- `process`; the error is what leaves it. -/
def processV2 (sha256 : Bytes → Bytes) (python : Interpreter) (trusted : V2Trusted) (wire : Bytes) :
    Except Raised (HintAck V2IngressStatus) :=
  if wire = [] ∨ maxTransportPayloadBytes < wire.length then .ok ⟨.rejected, zeroDigest⟩
  else
    let digest := hex (sha256 wire)
    match ThreatHint.Python.ThreatHintV2TransportPayload.parseCanonical sha256 python wire
        trusted.networkId with
    | .error .invalid => .ok ⟨.rejected, digest⟩
    | .error e => .error e
    | .ok payload => .ok (passGates trusted digest payload)

end Python

/-! ## The wires that are not answered -/

section

variable (sha256 : Bytes → Bytes) (python : Interpreter) (network : Str)

/-- An exception other than its own leaves the transport parser: the framing is right, and the
envelope escapes, or the envelope is accepted and the bundle nests too deep, or both are accepted
and the approval escapes. -/
def TransportEscapes (wire : Bytes) : Prop :=
  ∃ sections : Sections, (sections.Framed ∧ sections.toBytes = wire) ∧
    (ThreatHint.Python.ThreatHintV2ProofEnvelope.Escapes python network sections.envelopeWire ∨
      ∃ envelope, IsEnvelopeWire sha256 network sections.envelopeWire envelope ∧
        envelope.parsedStatement.reportNonce = hex sections.reportNonce ∧
        (LoadsTooDeep python sections.bundleWire ∨
          ∃ bundle : ThreatHint.Python.ObservableBundle,
            (bundle.Accepts ∧ dump bundle.payload = sections.bundleWire) ∧
              ThreatHint.Python.ObservableApproval.Escapes python sections.approvalWire))

end

section

theorem size_of_framed {bytes : Bytes} {limit : Nat} (h : 1 ≤ bytes.length ∧ bytes.length ≤ limit) :
    ¬ (bytes = [] ∨ limit < bytes.length) := by
  rw [not_or, not_lt]
  exact ⟨List.ne_nil_of_length_pos h.1, h.2⟩

variable {sha256 : Bytes → Bytes} {python : Interpreter} (shallow : python.Shallow)
  {network : Str} {wire : Bytes}

include shallow

theorem parse_leaves_iff :
    Leaves (ThreatHint.Python.ThreatHintV2TransportPayload.parseCanonical sha256 python wire
      network) ↔ TransportEscapes sha256 python network wire := by
  have envelopeIff (bytes : Bytes) (envelope : ThreatHint.Python.ThreatHintV2ProofEnvelope) :=
    ThreatHint.Python.ThreatHintV2ProofEnvelope.canonical sha256 python.floatRepr network bytes
      envelope
  simp only [ThreatHint.Python.ThreatHintV2TransportPayload.parseCanonical, leaves_bind, leaves_ite,
    leaves_ok, leaves_orRaise, orRaise_eq_ok, Sections.readSections_iff,
    ThreatHint.Python.ThreatHintV2ProofEnvelope.parseOrRaise_leaves,
    ThreatHint.Python.ThreatHintV2ProofEnvelope.parseOrRaise_ok shallow,
    ThreatHint.Python.ObservableBundle.parseOrRaise_leaves,
    ThreatHint.Python.ObservableBundle.parseOrRaise_ok shallow,
    ThreatHint.Python.validateApprovalShapeOrRaise_leaves,
    ThreatHint.Python.validateApprovalShapeOrRaise_ok shallow, ne_eq, not_true_eq_false, false_and,
    and_false, false_or, or_false, exists_false, not_not]
  constructor
  · intro h
    obtain ⟨sections, ⟨framed, isWire⟩, ⟨-, escapes⟩ | ⟨envelope, isEnvelope, nonce, rest⟩⟩ := h
    · exact ⟨sections, ⟨framed, isWire⟩, .inl escapes⟩
    have acceptedEnvelope := (envelopeIff _ _).mp isEnvelope
    refine ⟨sections, ⟨framed, isWire⟩, .inr ⟨envelope, acceptedEnvelope, nonce, ?_⟩⟩
    obtain ⟨-, tooDeep⟩ | ⟨bundle, isBundle, rest⟩ := rest
    · exact .inl tooDeep
    have acceptedBundle := (ThreatHint.Python.ObservableBundle.canonical python.floatRepr _ _).mp
      (toOption_eq_some.mpr isBundle)
    obtain ⟨-, escapes⟩ | ⟨shape, isShape, raised⟩ := rest
    · exact .inr ⟨bundle, acceptedBundle, escapes⟩
    -- The sections are canonical, so that the payload is written as it was read.
    have isApproval := (ThreatHint.Python.ObservableApproval.validateApprovalShape_iff _).mp isShape
    have parsed : ThreatHint.Python.ThreatHintV2TransportPayload.IsParsed sha256 network
        { toSections := sections, envelope, bundle } :=
      ⟨framed, acceptedEnvelope, nonce, acceptedBundle, shape, isApproval⟩
    have written := parsed.canonicalBytes shallow
    rw [← isWire, written] at raised
    exact (leaves_ok raised).elim
  · intro h
    obtain ⟨sections, ⟨framed, isWire⟩, escapes | ⟨envelope, isEnvelope, nonce, rest⟩⟩ := h
    · exact ⟨sections, ⟨framed, isWire⟩, .inl ⟨size_of_framed framed.envelopeWire, escapes⟩⟩
    refine ⟨sections, ⟨framed, isWire⟩, .inr ⟨envelope, (envelopeIff _ _).mpr isEnvelope, nonce, ?_⟩⟩
    obtain tooDeep | ⟨bundle, isBundle, escapes⟩ := rest
    · exact .inl ⟨size_of_framed framed.bundleWire, tooDeep⟩
    · exact .inr ⟨bundle, toOption_eq_some.mp
        ((ThreatHint.Python.ObservableBundle.canonical python.floatRepr _ _).mpr isBundle),
        .inl ⟨size_of_framed framed.approvalWire, escapes⟩⟩

/-- The transport parser returns a value or raises its own error unless the wire escapes, and
`process` answers exactly then, whatever the trusted side does. -/
theorem v2_ingress_answers_iff (trusted : Python.V2Trusted) :
    ((∃ payload, ThreatHint.Python.ThreatHintV2TransportPayload.parseCanonical sha256 python wire
          trusted.networkId = .ok payload) ∨
        ThreatHint.Python.ThreatHintV2TransportPayload.parseCanonical sha256 python wire
          trusted.networkId = .error .invalid ↔
      ¬ TransportEscapes sha256 python trusted.networkId wire) ∧
    ((∃ ack, Python.processV2 sha256 python trusted wire = .ok ack) ↔
      ¬ TransportEscapes sha256 python trusted.networkId wire) := by
  have framed (escapes : TransportEscapes sha256 python trusted.networkId wire) :
      ¬ (wire = [] ∨ maxTransportPayloadBytes < wire.length) := by
    obtain ⟨sections, ⟨framed, rfl⟩, -⟩ := escapes
    have isRead := Sections.readSections_iff.mpr ⟨framed, rfl⟩
    rw [readSections, Option.ite_none_left_eq_some] at isRead
    exact isRead.1
  have leaves : Leaves (ThreatHint.Python.ThreatHintV2TransportPayload.parseCanonical sha256 python
      wire trusted.networkId) ↔ _ := parse_leaves_iff shallow
  rw [← leaves] at framed ⊢
  unfold Python.processV2
  cases parsed : ThreatHint.Python.ThreatHintV2TransportPayload.parseCanonical sha256 python wire
      trusted.networkId with
  | ok payload =>
    refine ⟨iff_of_true (.inl ⟨payload, rfl⟩) leaves_ok, iff_of_true ?_ leaves_ok⟩
    by_cases size : wire = [] ∨ maxTransportPayloadBytes < wire.length
    · exact ⟨_, if_pos size⟩
    · exact ⟨_, if_neg size⟩
  | error e =>
    rw [parsed] at framed
    by_cases own : e = .invalid
    · subst own
      have stays : ¬ Leaves (.error .invalid :
          Except Raised ThreatHint.Python.ThreatHintV2TransportPayload) := by
        intro left
        exact ThreatHint.Python.leaves_error.mp left rfl
      refine ⟨iff_of_true (.inr rfl) stays, iff_of_true ?_ stays⟩
      by_cases size : wire = [] ∨ maxTransportPayloadBytes < wire.length
      · exact ⟨_, if_pos size⟩
      · exact ⟨_, if_neg size⟩
    · have left : Leaves (.error e :
          Except Raised ThreatHint.Python.ThreatHintV2TransportPayload) :=
        ThreatHint.Python.leaves_error.mpr own
      refine ⟨iff_of_false (by simp [own]) (not_not.mpr left),
        iff_of_false ?_ (not_not.mpr left)⟩
      rw [if_neg (framed left)]
      cases e with
      | invalid => exact (own rfl).elim
      | _ => simp

end

/-- A trusted side that knows every session and promotes every payload. -/
def baseTrusted : Python.V2Trusted where
  networkId := str "testnet-10"
  resolve nonce := .ok (some nonce)
  nowSeconds := .ok (some 1700000000)
  promote _ _ _ _ _ := .returned

theorem v2_ingress_answers_iff_base :
    ∃ ack, Python.processV2 sha256 baseInterpreter baseTrusted
      (baseSections (List.replicate 32 0xcc)).toBytes = .ok ack := by
  have size : (List.replicate 32 0xcc : Bytes).length = 32 := rfl
  obtain ⟨payload, accepted, -⟩ := (python_accepts_iff baseInterpreter_shallow).mpr
    ⟨rfl, baseSections_canonical size, _, baseV2Envelope_isEnvelopeWire, by decide⟩
  obtain ⟨parser, answers⟩ := v2_ingress_answers_iff baseInterpreter_shallow baseTrusted
  exact answers.mpr (parser.mp (.inl ⟨payload, accepted⟩))

/-- A frame whose envelope has a lone surrogate for its statement. -/
def surrogateSections : Sections where
  reportNonce := List.replicate 32 0
  envelopeWire :=
    ascii "\x7b\"schema_version\":2,\"protocol_id\":\"/prometheus/threat-hint/2.0.0\"," ++
      ascii "\"relation_id\":\"prometheus-threat-hint-v2\",\"statement\":\"\\ud800\"," ++
      ascii "\"statement_digest\":\"" ++ List.replicate 64 48 ++ ascii "\",\"proof\":\"00ff\"\x7d"
  bundleWire := [0]
  approvalWire := [0]

/-- `UnicodeEncodeError` leaves `process`. -/
theorem surrogate_statement_unanswered :
    ¬ ∀ wire, ∃ ack, Python.processV2 sha256 baseInterpreter baseTrusted wire = .ok ack := by
  intro answers
  obtain ⟨ack, answered⟩ := answers surrogateSections.toBytes
  have raised : (Python.processV2 sha256 baseInterpreter baseTrusted
      surrogateSections.toBytes).toOption = none := by
    decide +kernel
  rw [answered] at raised
  cases raised

end Prometheus.Ingress
