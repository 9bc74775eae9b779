import Prometheus.Codec.Frame
import Prometheus.Jaeger.ThreatHintReplay.Ledger
import Prometheus.ThreatHint.ObservableAgreement
import Prometheus.ThreatHint.V2ProofEnvelope

/-!
# Envelopes of the first threat hint in the two languages

`ThreatHintEnvelope` of `threat-hint/src/lib.rs` and `CanonicalThreatHint` of
`jaeger/threat_hint_ingress.py`. The Python parser works on whatever JSON value a field holds, so it
names the exceptions that are not its own.
-/

namespace Prometheus.ThreatHint

open Prometheus.Codec
open Prometheus.Jaeger.ThreatHintReplay (CanonicalThreatHint maxSqliteInt isHex32 isTimestamp)

/-- `MAX_CANONICAL_BYTES` and `MAX_THREAT_HINT_WIRE_BYTES`. -/
def maxThreatHintWireBytes : Nat := 2048

inductive ThreatIndicatorType
  | fileHash | behavior | network | apiCall
  deriving DecidableEq, Repr

inductive ThreatProofSystem
  | groth16Kip16V1 | developmentStubV1
  deriving DecidableEq, Repr

/-! ## Rust -/

namespace Rust

/-- The variant under `#[serde(rename_all = "snake_case")]`. -/
def ThreatIndicatorType.name : ThreatIndicatorType → String
  | .fileHash => "file_hash"
  | .behavior => "behavior"
  | .network => "network"
  | .apiCall => "api_call"

/-- The variant under its `#[serde(rename)]`. -/
def ThreatProofSystem.name : ThreatProofSystem → String
  | .groth16Kip16V1 => "groth16_kip16_v1"
  | .developmentStubV1 => "development_stub_v1"

inductive ThreatHintError
  | invalidPayload | invalidSchemaVersion | invalidThreatHash | invalidReportNonce
  | invalidConfidence | invalidProof | invalidTimestamp | envelopeTooLarge | notCanonical
  deriving DecidableEq, Repr

structure ThreatHintEnvelope where
  schemaVersion : UInt16
  threatHash : Bytes
  confidenceBps : UInt16
  indicatorType : ThreatIndicatorType
  proofSystem : ThreatProofSystem
  proof : Bytes
  reportNonce : Bytes
  observedAt : UInt64
  deriving DecidableEq, Repr

/-- `validate_hex_64`; `hex::decode` takes every text that gets so far. -/
def validateHex64 (value : Bytes) : Bool :=
  decide (value.length = 64) && value.all fun b => isLowerHex b.toNat

/-- `validate_confidence`. -/
def validateConfidence (confidenceBps : UInt16) : Bool :=
  !(decide (confidenceBps = 0) || decide (10000 < confidenceBps))

/-- `decode_proof`. -/
def decodeProof (value : Bytes) : Except ThreatHintError Bytes :=
  if ¬ value.length % 2 = 0 ∨ ¬ value.all (fun b => isLowerHex b.toNat) then .error .invalidProof
  else
    let proof := fromHex (value.map UInt8.toNat)
    if proof.length < minProofBytes ∨ maxProofBytes < proof.length then .error .invalidProof
    else .ok proof

namespace ThreatHintEnvelope

/-- `serde_json::to_vec`. -/
def toVec (env : ThreatHintEnvelope) : Bytes :=
  serdeStruct
    [("schema_version", serdeNat env.schemaVersion.toNat),
      ("threat_hash", serdeString env.threatHash),
      ("confidence_bps", serdeNat env.confidenceBps.toNat),
      ("indicator_type", serdeString (ascii (ThreatIndicatorType.name env.indicatorType))),
      ("proof_system", serdeString (ascii (ThreatProofSystem.name env.proofSystem))),
      ("proof", serdeString env.proof),
      ("report_nonce", serdeString env.reportNonce),
      ("observed_at", serdeNat env.observedAt.toNat)]

def toCanonicalBytes (env : ThreatHintEnvelope) : Except ThreatHintError Bytes :=
  let bytes := env.toVec
  if maxThreatHintWireBytes < bytes.length then .error .envelopeTooLarge else .ok bytes

def new (threatHash : Bytes) (confidenceBps : UInt16) (indicatorType : ThreatIndicatorType)
    (proofSystem : ThreatProofSystem) (proof : Bytes) (reportNonce : Bytes)
    (observedAt : UInt64) : Except ThreatHintError ThreatHintEnvelope :=
  if ¬ validateHex64 threatHash then .error .invalidThreatHash
  else if ¬ validateHex64 reportNonce then .error .invalidReportNonce
  else if ¬ validateConfidence confidenceBps then .error .invalidConfidence
  else if observedAt = 0 then .error .invalidTimestamp
  else if proof.length < minProofBytes ∨ maxProofBytes < proof.length then .error .invalidProof
  else do
    let env : ThreatHintEnvelope :=
      { schemaVersion := 1, threatHash, confidenceBps, indicatorType, proofSystem,
        proof := encodeAscii (hex proof), reportNonce, observedAt }
    let bytes ← env.toCanonicalBytes
    if maxThreatHintWireBytes < bytes.length then .error .envelopeTooLarge else .ok env

def parseCanonical (fromSlice : Bytes → Option ThreatHintEnvelope) (bytes : Bytes) :
    Except ThreatHintError ThreatHintEnvelope :=
  if bytes = [] then .error .invalidPayload
  else if maxThreatHintWireBytes < bytes.length then .error .envelopeTooLarge
  else
    match fromSlice bytes with
    | none => .error .invalidPayload
    | some env => do
      let canonical ← env.toCanonicalBytes
      if canonical ≠ bytes then .error .notCanonical
      else if env.schemaVersion ≠ 1 then .error .invalidSchemaVersion
      else if ¬ validateHex64 env.threatHash then .error .invalidThreatHash
      else if ¬ validateHex64 env.reportNonce then .error .invalidReportNonce
      else if ¬ validateConfidence env.confidenceBps then .error .invalidConfidence
      else if env.observedAt = 0 then .error .invalidTimestamp
      else do
        let _ ← decodeProof env.proof
        .ok env

end ThreatHintEnvelope

end Rust

/-! ## Python -/

namespace Python

/-- What `from_wire` raises: a `ThreatHintIngressError` with its text, the `TypeError` of a value
that cannot be hashed, and what `json.loads` raises beyond a `JSONDecodeError`. -/
inductive FromWireError
  | ingress (message : String)
  | unhashable
  | load (error : LoadError)
  deriving DecidableEq, Repr

/-- `value in members` for a set of texts; a list and an object cannot be hashed. -/
def isMember (members : List String) (value : Json) : Except FromWireError Bool :=
  match value with
  | .string s => .ok (decide (s ∈ members.map str))
  | .array _ => .error .unhashable
  | .object _ => .error .unhashable
  | _ => .ok false

/-- `_INDICATOR_TYPES`. -/
def indicatorTypes : List String := ["file_hash", "behavior", "network", "api_call"]

/-- `_PROOF_SYSTEMS`. -/
def proofSystems : List String := ["groth16_kip16_v1", "development_stub_v1"]

namespace CanonicalThreatHint

/-- The fields of the dataclass, in their order. -/
def fieldNames : List String :=
  ["schema_version", "threat_hash", "confidence_bps", "indicator_type", "proof_system", "proof",
    "report_nonce", "observed_at"]

/-- A field that `_validate` takes from its value with one check. -/
def checked {α : Type} (value : Option α) (valid : α → Bool) (message : String) :
    Except FromWireError α :=
  match value with
  | some a => if valid a then .ok a else .error (.ingress message)
  | none => .error (.ingress message)

/-- A field that `_validate` looks for in a set of texts. -/
def member (fields : List (Str × Json)) (key : String) (members : List String)
    (message : String) : Except FromWireError Str :=
  match Json.field fields (str key) with
  | none => .error (.ingress message)
  | some value => do
    let found ← isMember members value
    checked (if found then value.asString else none) (fun _ => true) message

/-- `_validate` of the dataclass built from these fields. -/
def validate (fields : List (Str × Json)) : Except FromWireError CanonicalThreatHint := do
  let schemaVersion ← checked (Json.intAt fields "schema_version") (fun n => n = 1)
    "unsupported ThreatHint schema version"
  let threatHash ← checked (Json.textAt fields "threat_hash") isHex32 "ThreatHint hash is invalid"
  let confidenceBps ← checked (Json.intAt fields "confidence_bps")
    (fun n => decide (1 ≤ n) && decide (n ≤ 10000)) "ThreatHint confidence is invalid"
  let indicatorType ← member fields "indicator_type" indicatorTypes
    "ThreatHint indicator type is invalid"
  let proofSystem ← member fields "proof_system" proofSystems "ThreatHint proof system is invalid"
  let proof ← checked (Json.textAt fields "proof") isProofHex "ThreatHint proof is invalid"
  let reportNonce ← checked (Json.textAt fields "report_nonce") isHex32
    "ThreatHint report nonce is invalid"
  let observedAt ← checked (Json.intAt fields "observed_at") isTimestamp
    "ThreatHint observation time is invalid"
  .ok { schemaVersion, threatHash, confidenceBps, indicatorType, proofSystem, proof, reportNonce,
        observedAt }

/-- `json.loads(wire.decode("ascii"), object_pairs_hook=_unique_object)` with what is caught. -/
def decode (tooDeep : Str → Bool) (floatRepr : Str → Str) (wire : Bytes) :
    Except FromWireError Json :=
  match decodeAscii wire with
  | none => .error (.ingress "ThreatHint wire is not strict JSON")
  | some text =>
    match Json.loadsBounded tooDeep floatRepr text with
    | .error .decodeError => .error (.ingress "ThreatHint wire is not strict JSON")
    | .error error => .error (.load error)
    | .ok decoded =>
      if ¬ decoded.uniqueKeys then .error (.ingress "ThreatHint wire is not strict JSON")
      else .ok decoded

/-- `from_wire`. -/
def fromWire (tooDeep : Str → Bool) (floatRepr : Str → Str) (wire : Bytes) :
    Except FromWireError CanonicalThreatHint :=
  if wire = [] ∨ maxThreatHintWireBytes < wire.length then
    .error (.ingress "ThreatHint wire size is invalid")
  else do
    let decoded ← decode tooDeep floatRepr wire
    match decoded with
    | .object fields =>
      if ¬ sameKeys fields fieldNames then .error (.ingress "ThreatHint wire schema is invalid")
      else do
        let envelope ← validate fields
        if envelope.toWire ≠ wire then
          .error (.ingress "ThreatHint wire must use canonical JSON encoding")
        else .ok envelope
    | _ => .error (.ingress "ThreatHint wire schema is invalid")

end CanonicalThreatHint

end Python

/-! ## The Python parser -/

namespace Python.CanonicalThreatHint

theorem checked_ok {α : Type} {value : Option α} {valid : α → Bool} {message : String} {a : α} :
    checked value valid message = .ok a ↔ value = some a ∧ valid a = true := by
  cases value with
  | none => simp [checked]
  | some b =>
    show (if valid b then _ else _) = _ ↔ _
    by_cases isValid : valid b = true
    · rw [if_pos isValid, Except.ok.injEq, Option.some.injEq]
      constructor
      · intro same
        exact ⟨same, same ▸ isValid⟩
      · intro h
        exact h.1
    · rw [if_neg isValid]
      refine iff_of_false nofun ?_
      intro h
      exact isValid (Option.some.inj h.1 ▸ h.2)

theorem member_ok {fields : List (Str × Json)} {key : String} {members : List String}
    {message : String} {s : Str} : member fields key members message = .ok s ↔
      Json.field fields (str key) = some (.string s) ∧ s ∈ members.map str := by
  unfold member
  cases Json.field fields (str key) with
  | none => exact iff_of_false nofun fun h => nomatch h.1
  | some value =>
    simp only [bind_eq_ok, checked_ok, Option.some.injEq, and_true]
    cases value with
    | string t =>
      by_cases found : t ∈ members.map str
      · simp only [isMember, found, decide_true, Except.ok.injEq, exists_eq_left', if_true,
          Json.asString, Option.some.injEq, Json.string.injEq]
        constructor
        · intro same
          exact ⟨same, same ▸ found⟩
        · intro h
          exact h.1
      · simp only [isMember, found, decide_false, Except.ok.injEq, exists_eq_left',
          Bool.false_eq_true, if_false, reduceCtorEq, Json.string.injEq, false_iff, not_and]
        intro same
        exact same ▸ found
    | _ => simp [isMember]

theorem isHex32_eq (s : Str) : isHex32 s = isHash s := rfl

/-- What the fields of a hint are checked for. -/
structure HasFields (hint : CanonicalThreatHint) : Prop where
  schemaVersion : hint.schemaVersion = 1
  threatHash : isHash hint.threatHash = true
  confidenceBps : 1 ≤ hint.confidenceBps ∧ hint.confidenceBps ≤ 10000
  indicatorType : hint.indicatorType ∈ indicatorTypes.map str
  proofSystem : hint.proofSystem ∈ proofSystems.map str
  proof : isProofHex hint.proof = true
  reportNonce : isHash hint.reportNonce = true
  observedAt : 1 ≤ hint.observedAt ∧ hint.observedAt ≤ u64Max

/-- The fields as a document. -/
def payload (hint : CanonicalThreatHint) : List (String × Json) :=
  [("schema_version", .int hint.schemaVersion),
    ("threat_hash", .string hint.threatHash),
    ("confidence_bps", .int hint.confidenceBps),
    ("indicator_type", .string hint.indicatorType),
    ("proof_system", .string hint.proofSystem),
    ("proof", .string hint.proof),
    ("report_nonce", .string hint.reportNonce),
    ("observed_at", .int hint.observedAt)]

theorem validate_ok {fields : List (Str × Json)} {hint : CanonicalThreatHint} :
    validate fields = .ok hint ↔
      (∀ f ∈ payload hint, Json.field fields (str f.1) = some f.2) ∧ HasFields hint ∧
        hint.observedAt ≤ maxSqliteInt := by
  have asText (key : String) (s : Str) :
      Json.textAt fields key = some s ↔ Json.field fields (str key) = some (.string s) :=
    asString_some
  have asInt (key : String) (i : Int) :
      Json.intAt fields key = some i ↔ Json.field fields (str key) = some (.int i) :=
    asInt_some
  simp only [validate, bind_eq_ok, checked_ok, member_ok, asText, asInt, isHex32_eq, payload,
    List.forall_mem_cons, decide_eq_true_eq, Bool.and_eq_true, isTimestamp]
  constructor
  · intro h
    obtain ⟨_, ⟨version, isVersion⟩, _, ⟨hash, isHash⟩, _, ⟨confidence, isConfidence⟩, _,
      ⟨indicator, isIndicator⟩, _, ⟨system, isSystem⟩, _, ⟨proof, isProof⟩, _, ⟨nonce, isNonce⟩, _,
      ⟨time, isTime⟩, built⟩ := h
    obtain rfl := Except.ok.inj built
    refine ⟨⟨version, hash, confidence, indicator, system, proof, nonce, time, by simp⟩,
      ⟨isVersion, isHash, isConfidence, isIndicator, isSystem, isProof, isNonce, isTime.1, ?_⟩,
      isTime.2⟩
    have small := isTime.2
    simp only [maxSqliteInt] at small
    simp only [u64Max]
    omega
  · intro h
    obtain ⟨⟨version, hash, confidence, indicator, system, proof, nonce, time, -⟩, has, small⟩ := h
    exact ⟨_, ⟨version, has.schemaVersion⟩, _, ⟨hash, has.threatHash⟩, _,
      ⟨confidence, has.confidenceBps⟩, _, ⟨indicator, has.indicatorType⟩, _,
      ⟨system, has.proofSystem⟩, _, ⟨proof, has.proof⟩, _, ⟨nonce, has.reportNonce⟩, _,
      ⟨time, has.observedAt.1, small⟩, rfl⟩

theorem names_facts : Plain fieldNames ∧ (∀ key ∈ fieldNames, ∀ c ∈ str key, 32 ≤ c ∧ c ≤ 126) ∧
    ∀ name ∈ indicatorTypes ++ proofSystems, ∀ c ∈ str name, 32 ≤ c ∧ c ≤ 126 := by
  decide

section

variable {hint : CanonicalThreatHint} (has : HasFields hint)

include has

theorem HasFields.plain : ∀ f ∈ payload hint, IsPlainValue f.2 := by
  obtain ⟨-, -, texts⟩ := names_facts
  have listed {names : List String} (listed : ∀ name ∈ names, name ∈ indicatorTypes ++ proofSystems)
      {s : Str} (hs : s ∈ names.map str) : IsPlainText s := by
    obtain ⟨name, hname, rfl⟩ := List.mem_map.mp hs
    exact texts name (listed name hname)
  have proof := isPlainText_of_lowerHex (isProofHex_iff.mp has.proof).2.1
  have hex {s : Str} (h : isHash s = true) : IsPlainText s := by
    rw [isHash, Bool.and_eq_true, List.all_eq_true] at h
    exact isPlainText_of_lowerHex h.2
  simp only [payload, List.forall_mem_cons]
  exact ⟨.int _, .string (hex has.threatHash), .int _,
    .string (listed (fun _ h => List.mem_append_left _ h) has.indicatorType),
    .string (listed (fun _ h => List.mem_append_right _ h) has.proofSystem), .string proof,
    .string (hex has.reportNonce), .int _, by simp⟩

theorem HasFields.toWire : hint.toWire = dump (payload hint) := by
  refine dumpsOrdered_document ?_ has.plain
  intro f hf
  exact names_facts.2.1 f.1 (List.mem_map_of_mem hf)

theorem HasFields.readable : Readable (document (payload hint)) := by
  obtain ⟨keys, -, -⟩ := names_facts
  refine readable_document (show _ = fieldNames from rfl) keys.distinct keys.ascii ?_
  have ascii {s : Str} (h : IsPlainValue (.string s)) : IsAscii s := by
    cases h with
    | string plain =>
      intro c hc
      have := plain c hc
      omega
  have small := has.confidenceBps
  have plain := has.plain
  simp only [payload, List.forall_mem_cons] at plain ⊢
  obtain ⟨-, hash, -, indicator, system, proof, nonce, -, -⟩ := plain
  refine ⟨readable_int ?_, readable_string (ascii hash), readable_int ?_,
    readable_string (ascii indicator), readable_string (ascii system),
    readable_string (ascii proof), readable_string (ascii nonce), readable_int ?_, by simp⟩
  · rw [has.schemaVersion]
    exact .of_le (by decide) (by decide)
  · exact .of_le (by omega) (by omega)
  · exact ⟨by have := has.observedAt.1; omega, has.observedAt.2⟩

/-- All fields but the proof are short. -/
theorem HasFields.bounded : (dump (payload hint)).length ≤ 400 + hint.proof.length := by
  have names : (fieldNames.map fun key => (quoteRaw (str key)).length + 2).sum ≤ 140 ∧
      ∀ name ∈ indicatorTypes ++ proofSystems, (quoteRaw (str name)).length ≤ 21 := by
    decide
  have listed {members : List String}
      (all : ∀ name ∈ members, name ∈ indicatorTypes ++ proofSystems) {s : Str}
      (hs : s ∈ members.map str) : ((Json.string s).compact quoteRaw).length ≤ 21 := by
    obtain ⟨name, hname, rfl⟩ := List.mem_map.mp hs
    exact names.2 name (all name hname)
  have digits := (isProofHex_iff.mp has.proof).2.1
  have proof : ((Json.string hint.proof).compact quoteRaw).length = hint.proof.length + 2 := by
    rw [Json.compact, length_quoteRaw]
    intro c hc
    have digit := digits c hc
    simp only [isLowerHex, Bool.or_eq_true, Bool.and_eq_true, decide_eq_true_eq] at digit
    omega
  have small := has.confidenceBps
  have version := length_int_le (.of_le (i := hint.schemaVersion)
    (by rw [has.schemaVersion]; decide) (by rw [has.schemaVersion]; decide))
  have confidence := length_int_le (.of_le (i := hint.confidenceBps) (by omega) (by omega))
  have time := length_int_le (i := hint.observedAt)
    ⟨by have := has.observedAt.1; omega, has.observedAt.2⟩
  have indicator := listed (fun _ h => List.mem_append_left _ h) has.indicatorType
  have system := listed (fun _ h => List.mem_append_right _ h) has.proofSystem
  have hash := length_hash has.threatHash
  have nonce := length_hash has.reportNonce
  have total := length_dump_le (show (payload hint).map Prod.fst = fieldNames from rfl)
  simp only [payload, List.map_cons, List.map_nil, List.sum_cons, List.sum_nil] at total ⊢
  omega

end

/-- The recursion limit leaves room for an object without nested values. -/
def ReadsFlat (tooDeep : Str → Bool) : Prop :=
  ∀ floatRepr text fields, Json.loads floatRepr text = .ok (.object fields) →
    (∀ f ∈ fields, IsPlainValue f.2) → tooDeep text = false

variable {tooDeep : Str → Bool} (floatRepr : Str → Str)

theorem decode_dump (flat : ReadsFlat tooDeep) {hint : CanonicalThreatHint}
    (has : HasFields hint) :
    decode tooDeep floatRepr (dump (payload hint)) = .ok (document (payload hint)) := by
  have readable := has.readable
  have text := isAscii_compact _ readable.ascii
  have isText : decodeAscii (dump (payload hint)) =
      some ((document (payload hint)).compact quoteRaw) := by
    rw [decodeAscii, dump, if_pos, map_toNat_encodeAscii text.small]
    rw [List.all_eq_true]
    intro b hb
    exact decide_eq_true (UInt8.lt_iff_toNat_lt.mpr (ascii_encodeAscii text b hb))
  have isRead := Json.loads_compact floatRepr readable.exact
  have shallow : tooDeep ((document (payload hint)).compact quoteRaw) = false := by
    apply flat floatRepr _ _ isRead
    intro f hf
    obtain ⟨g, hg, rfl⟩ := List.mem_map.mp hf
    exact has.plain g hg
  rw [decode, isText]
  simp only [Json.loadsBounded, shallow, Bool.false_eq_true, if_false, isRead, readable.unique,
    not_true_eq_false]

/-- The parser accepts the canonical bytes of the hints with valid fields. -/
theorem fromWire_ok (flat : ReadsFlat tooDeep) {wire : Bytes} {hint : CanonicalThreatHint} :
    fromWire tooDeep floatRepr wire = .ok hint ↔
      HasFields hint ∧ hint.observedAt ≤ maxSqliteInt ∧ dump (payload hint) = wire ∧
        wire.length ≤ maxThreatHintWireBytes := by
  unfold fromWire
  rw [ite_error_eq_ok, not_or, not_lt, bind_eq_ok]
  constructor
  · intro h
    obtain ⟨⟨-, small⟩, decoded, -, h⟩ := h
    cases decoded with
    | object fields =>
      simp only [ite_error_eq_ok, bind_eq_ok, not_not, ne_eq, Except.ok.injEq] at h
      obtain ⟨-, hint', isValid, same, rfl⟩ := h
      obtain ⟨-, has, early⟩ := validate_ok.mp isValid
      exact ⟨has, early, has.toWire ▸ same, small⟩
    | _ => cases h
  · intro h
    obtain ⟨has, early, rfl, small⟩ := h
    have unique : (((payload hint).map Prod.fst).map str).Nodup := names_facts.1.distinct
    have isValid : validate ((payload hint).map fun f => (str f.1, f.2)) = .ok hint := by
      refine validate_ok.mpr ⟨?_, has, early⟩
      intro f hf
      exact field_document unique hf
    refine ⟨⟨dump_ne_nil _, small⟩, _, decode_dump floatRepr flat has, ?_⟩
    show (if ¬ sameKeys ((payload hint).map fun f => (str f.1, f.2)) fieldNames = true then _
      else _) = _
    have same := ObservableBundle.sameKeys_document
      (show (payload hint).map Prod.fst = fieldNames from rfl)
    rw [same, if_neg (by decide), isValid]
    exact if_neg (not_not.mpr has.toWire)

end Python.CanonicalThreatHint

/-! ## The Rust parser -/

namespace Rust

theorem decodeProof_ok {value proof : Bytes} : decodeProof value = .ok proof ↔
    Python.isProofHex (value.map UInt8.toNat) = true ∧ fromHex (value.map UInt8.toNat) = proof := by
  have digits : value.all (fun b => isLowerHex b.toNat) = (value.map UInt8.toNat).all isLowerHex :=
    toNat_all isLowerHex
  unfold decodeProof
  rw [ite_error_eq_ok, ite_error_eq_ok, Except.ok.injEq, not_or, not_not, not_not, digits,
    isProofHex_iff, List.all_eq_true, List.length_map, not_or, not_lt, not_lt]
  constructor
  · intro h
    obtain ⟨⟨even, hexDigits⟩, ⟨long, short⟩, same⟩ := h
    rw [length_fromHex, List.length_map] at long short
    exact ⟨⟨even, hexDigits, long, short⟩, same⟩
  · intro h
    obtain ⟨⟨even, hexDigits, long, short⟩, same⟩ := h
    rw [length_fromHex, List.length_map]
    exact ⟨⟨even, hexDigits⟩, ⟨long, short⟩, same⟩

theorem isProofHex_hex {proof : Bytes} : Python.isProofHex (hex proof) = true ↔
    minProofBytes ≤ proof.length ∧ proof.length ≤ maxProofBytes := by
  rw [isProofHex_iff, length_hex, Nat.mul_div_cancel_left _ (by decide)]
  constructor
  · intro h
    exact h.2.2
  · intro h
    exact ⟨by omega, fun c hc => isLowerHex_of_mem_hex hc, h⟩

theorem validateConfidence_iff {confidenceBps : UInt16} :
    validateConfidence confidenceBps = true ↔
      (1 : Int) ≤ confidenceBps.toNat ∧ (confidenceBps.toNat : Int) ≤ 10000 := by
  have zero : confidenceBps = 0 ↔ (confidenceBps.toNat : Int) = 0 := toNat_eq_16
  have large : 10000 < confidenceBps ↔ 10000 < confidenceBps.toNat := UInt16.lt_iff_toNat_lt
  rw [validateConfidence, Bool.not_eq_true', Bool.or_eq_false_iff, decide_eq_false_iff_not,
    decide_eq_false_iff_not, zero, large]
  omega

namespace ThreatHintEnvelope

/-- The envelope in Python's types. -/
def toPython (env : ThreatHintEnvelope) : CanonicalThreatHint where
  schemaVersion := env.schemaVersion.toNat
  threatHash := env.threatHash.map UInt8.toNat
  confidenceBps := env.confidenceBps.toNat
  indicatorType := str (ThreatIndicatorType.name env.indicatorType)
  proofSystem := str (ThreatProofSystem.name env.proofSystem)
  proof := env.proof.map UInt8.toNat
  reportNonce := env.reportNonce.map UInt8.toNat
  observedAt := env.observedAt.toNat

/-- Both languages write the same bytes. -/
theorem toVec_eq (env : ThreatHintEnvelope) :
    env.toVec = dump (Python.CanonicalThreatHint.payload env.toPython) := by
  rw [← serdeStruct_dump, toVec]
  simp only [serdeNat_eq, serdeString_eq]
  rfl

/-- The checks of the parser, on the fields. -/
structure HasFields (env : ThreatHintEnvelope) : Prop where
  schemaVersion : env.schemaVersion = 1
  threatHash : validateHex64 env.threatHash = true
  reportNonce : validateHex64 env.reportNonce = true
  confidenceBps : validateConfidence env.confidenceBps = true
  observedAt : env.observedAt ≠ 0
  proof : Python.isProofHex (env.proof.map UInt8.toNat) = true

theorem hasFields_iff {env : ThreatHintEnvelope} :
    env.HasFields ↔ Python.CanonicalThreatHint.HasFields env.toPython := by
  have version : env.schemaVersion = 1 ↔ (env.schemaVersion.toNat : Int) = 1 := toNat_eq_16
  have zero : env.observedAt = 0 ↔ (env.observedAt.toNat : Int) = 0 := toNat_eq_64
  have small := env.observedAt.toNat_lt
  constructor
  · intro h
    have positive := h.observedAt
    rw [ne_eq, zero] at positive
    refine ⟨version.mp h.schemaVersion, ?_, validateConfidence_iff.mp h.confidenceBps, ?_, ?_,
      h.proof, ?_, ?_, ?_⟩
    · exact (isFixedLowerHex_eq _).symm.trans h.threatHash
    · show str (ThreatIndicatorType.name env.indicatorType) ∈ _
      apply List.mem_map_of_mem
      cases env.indicatorType <;> decide
    · show str (ThreatProofSystem.name env.proofSystem) ∈ _
      apply List.mem_map_of_mem
      cases env.proofSystem <;> decide
    · exact (isFixedLowerHex_eq _).symm.trans h.reportNonce
    · show (1 : Int) ≤ env.observedAt.toNat
      omega
    · show (env.observedAt.toNat : Int) ≤ 2 ^ 64 - 1
      omega
  · intro h
    refine ⟨version.mpr h.schemaVersion, ?_, ?_, validateConfidence_iff.mpr h.confidenceBps, ?_,
      h.proof⟩
    · exact (isFixedLowerHex_eq _).trans h.threatHash
    · exact (isFixedLowerHex_eq _).trans h.reportNonce
    · have positive : (1 : Int) ≤ env.observedAt.toNat := h.observedAt.1
      rw [ne_eq, zero]
      omega

theorem toCanonicalBytes_ok {env : ThreatHintEnvelope} {bytes : Bytes} :
    env.toCanonicalBytes = .ok bytes ↔
      env.toVec = bytes ∧ env.toVec.length ≤ maxThreatHintWireBytes := by
  unfold toCanonicalBytes
  rw [ite_error_eq_ok, not_lt, Except.ok.injEq, and_comm]

/-- `serde_json` reads back the envelopes that it wrote. -/
def ReadsBack (fromSlice : Bytes → Option ThreatHintEnvelope) : Prop :=
  Canonical.ReadsBack fromSlice HasFields toVec

/-- What the constructor accepts. -/
def Constructed (env : ThreatHintEnvelope) : Prop :=
  ∃ threatHash confidenceBps indicatorType proofSystem proof reportNonce observedAt,
    new threatHash confidenceBps indicatorType proofSystem proof reportNonce observedAt = .ok env

theorem constructed_iff {env : ThreatHintEnvelope} :
    env.Constructed ↔ env.HasFields ∧ env.toVec.length ≤ maxThreatHintWireBytes := by
  simp only [Constructed, new, ite_error_eq_ok, bind_eq_ok, toCanonicalBytes_ok, not_not, not_or,
    not_lt, Except.ok.injEq]
  constructor
  · intro h
    obtain ⟨threatHash, confidenceBps, indicatorType, proofSystem, proof, reportNonce, observedAt,
      isHash, isNonce, isConfidence, isTime, isProof, _, ⟨rfl, small⟩, -, rfl⟩ := h
    refine ⟨⟨rfl, isHash, isNonce, isConfidence, isTime, ?_⟩, small⟩
    rw [show ((encodeAscii (hex proof)).map UInt8.toNat) = hex proof from
      map_toNat_encodeAscii (isAscii_hex proof).small]
    exact isProofHex_hex.mpr isProof
  · intro h
    obtain ⟨has, small⟩ := h
    obtain ⟨even, digits, -⟩ := isProofHex_iff.mp has.proof
    have back : encodeAscii (hex (fromHex (env.proof.map UInt8.toNat))) = env.proof := by
      rw [hex_fromHex _ even digits, encodeAscii_toNat]
    have isProof := has.proof
    rw [← hex_fromHex _ even digits] at isProof
    have same : ({ env with
        schemaVersion := 1
        proof := encodeAscii (hex (fromHex (env.proof.map UInt8.toNat))) } : ThreatHintEnvelope) =
          env := by
      rw [back, ← has.schemaVersion]
    refine ⟨env.threatHash, env.confidenceBps, env.indicatorType, env.proofSystem,
      fromHex (env.proof.map UInt8.toNat), env.reportNonce, env.observedAt, has.threatHash,
      has.reportNonce, has.confidenceBps, has.observedAt, isProofHex_hex.mp isProof, env.toVec, ?_⟩
    rw [same]
    exact ⟨⟨rfl, small⟩, small, rfl⟩

theorem parseCanonical_ok {fromSlice : Bytes → Option ThreatHintEnvelope}
    (readsBack : ReadsBack fromSlice) {bytes : Bytes} {env : ThreatHintEnvelope} :
    parseCanonical fromSlice bytes = .ok env ↔
      env.HasFields ∧ env.toVec = bytes ∧ bytes.length ≤ maxThreatHintWireBytes := by
  unfold parseCanonical
  rw [ite_error_eq_ok, ite_error_eq_ok, not_lt]
  constructor
  · intro h
    obtain ⟨-, small, h⟩ := h
    split at h
    · cases h
    simp only [ite_error_eq_ok, bind_eq_ok, toCanonicalBytes_ok, decodeProof_ok, not_not, ne_eq,
      Except.ok.injEq] at h
    obtain ⟨canonical, ⟨rfl, -⟩, same, version, isHash, isNonce, isConfidence, isTime, proof,
      ⟨isProof, -⟩, rfl⟩ := h
    exact ⟨⟨version, isHash, isNonce, isConfidence, isTime, isProof⟩, same, small⟩
  · intro h
    obtain ⟨has, rfl, small⟩ := h
    refine ⟨?_, small, ?_⟩
    · rw [toVec_eq]
      exact dump_ne_nil _
    rw [readsBack env has]
    simp only [ite_error_eq_ok, bind_eq_ok, toCanonicalBytes_ok, decodeProof_ok, not_not, ne_eq]
    exact ⟨_, ⟨rfl, small⟩, rfl, has.schemaVersion, has.threatHash, has.reportNonce,
      has.confidenceBps, has.observedAt, _, ⟨has.proof, rfl⟩, trivial⟩

end ThreatHintEnvelope

end Rust

/-! ## Agreement -/

/-- The two envelopes expose the same fields. -/
structure SameHint (rust : Rust.ThreatHintEnvelope) (python : CanonicalThreatHint) : Prop where
  schemaVersion : python.schemaVersion = rust.schemaVersion.toNat
  threatHash : encodeUtf8 python.threatHash = some rust.threatHash
  confidenceBps : python.confidenceBps = rust.confidenceBps.toNat
  indicatorType : python.indicatorType = str (Rust.ThreatIndicatorType.name rust.indicatorType)
  proofSystem : python.proofSystem = str (Rust.ThreatProofSystem.name rust.proofSystem)
  proof : encodeUtf8 python.proof = some rust.proof
  reportNonce : encodeUtf8 python.reportNonce = some rust.reportNonce
  observedAt : python.observedAt = rust.observedAt.toNat

theorem sameHint_iff {env : Rust.ThreatHintEnvelope} (has : env.HasFields)
    {hint : CanonicalThreatHint} : SameHint env hint ↔ hint = env.toPython := by
  have fields := Rust.ThreatHintEnvelope.hasFields_iff.mp has
  have hash := isAscii_of_isHash fields.threatHash
  have nonce := isAscii_of_isHash fields.reportNonce
  have proof := isAscii_of_isProofHex fields.proof
  constructor
  · intro h
    obtain ⟨version, isHash, confidence, indicator, system, isProof, isNonce, time⟩ := h
    have sameHash := toNat_encodeUtf8 isHash (.inl hash)
    have sameProof := toNat_encodeUtf8 isProof (.inl proof)
    have sameNonce := toNat_encodeUtf8 isNonce (.inl nonce)
    cases hint
    simp only [Rust.ThreatHintEnvelope.toPython] at *
    simp only [version, confidence, indicator, system, time, sameHash, sameProof, sameNonce]
  · intro h
    subst h
    exact ⟨rfl, encodeUtf8_toNat hash, rfl, rfl, rfl, encodeUtf8_toNat proof,
      encodeUtf8_toNat nonce, rfl⟩

/-- A hint with valid fields is one of Rust's. -/
theorem exists_toPython {hint : CanonicalThreatHint}
    (has : Python.CanonicalThreatHint.HasFields hint) :
    ∃ env : Rust.ThreatHintEnvelope, env.toPython = hint := by
  have indicator : ∃ t, hint.indicatorType = str (Rust.ThreatIndicatorType.name t) := by
    have listed := has.indicatorType
    simp only [Python.indicatorTypes, List.map_cons, List.map_nil, List.mem_cons, List.not_mem_nil,
      or_false] at listed
    rcases listed with same | same | same | same
    · exact ⟨.fileHash, same⟩
    · exact ⟨.behavior, same⟩
    · exact ⟨.network, same⟩
    · exact ⟨.apiCall, same⟩
  have system : ∃ t, hint.proofSystem = str (Rust.ThreatProofSystem.name t) := by
    have listed := has.proofSystem
    simp only [Python.proofSystems, List.map_cons, List.map_nil, List.mem_cons, List.not_mem_nil,
      or_false] at listed
    rcases listed with same | same
    · exact ⟨.groth16Kip16V1, same⟩
    · exact ⟨.developmentStubV1, same⟩
  obtain ⟨indicatorType, sameIndicator⟩ := indicator
  obtain ⟨proofSystem, sameSystem⟩ := system
  have version := has.schemaVersion
  have confidence := has.confidenceBps
  have time := has.observedAt
  refine ⟨{ schemaVersion := 1, threatHash := encodeAscii hint.threatHash
            confidenceBps := UInt16.ofNat hint.confidenceBps.toNat, indicatorType, proofSystem
            proof := encodeAscii hint.proof, reportNonce := encodeAscii hint.reportNonce
            observedAt := UInt64.ofNat hint.observedAt.toNat }, ?_⟩
  unfold Rust.ThreatHintEnvelope.toPython
  simp only [map_toNat_encodeAscii (isAscii_of_isHash has.threatHash).small,
    map_toNat_encodeAscii (isAscii_of_isHash has.reportNonce).small,
    map_toNat_encodeAscii (isAscii_of_isProofHex has.proof).small,
    toNat_ofNat_16 (i := hint.confidenceBps) (by omega) (by omega),
    toNat_ofNat_64 (i := hint.observedAt) ⟨by omega, time.2⟩, ← sameIndicator, ← sameSystem]
  rw [show ((1 : UInt16).toNat : Int) = hint.schemaVersion from version.symm]

/-- A wire is the one of at most one hint. -/
theorem payload_inj {hint hint' : CanonicalThreatHint}
    (has : Python.CanonicalThreatHint.HasFields hint)
    (has' : Python.CanonicalThreatHint.HasFields hint')
    (same : dump (Python.CanonicalThreatHint.payload hint) =
      dump (Python.CanonicalThreatHint.payload hint')) : hint = hint' := by
  have flat : Python.CanonicalThreatHint.ReadsFlat fun _ => false := fun _ _ _ _ _ => rfl
  have read := Python.CanonicalThreatHint.decode_dump id flat has
  rw [same, Python.CanonicalThreatHint.decode_dump id flat has'] at read
  simp only [Except.ok.injEq, document, Json.object.injEq, Python.CanonicalThreatHint.payload,
    List.map_cons, List.cons.injEq, Prod.mk.injEq, Json.int.injEq, Json.string.injEq, true_and,
    and_true, List.map_nil] at read
  cases hint
  cases hint'
  simp_all

/-- Rust accepts the canonical bytes of the envelopes that its constructor accepts, and Python
accepts the same bytes with the same fields as far as the observation time is a timestamp. -/
theorem threat_hint_v1_parsers_agree {fromSlice : Bytes → Option Rust.ThreatHintEnvelope}
    (readsBack : Rust.ThreatHintEnvelope.ReadsBack fromSlice) {tooDeep : Str → Bool}
    (flat : Python.CanonicalThreatHint.ReadsFlat tooDeep) (floatRepr : Str → Str) (wire : Bytes) :
    (∀ env, Rust.ThreatHintEnvelope.parseCanonical fromSlice wire = .ok env ↔
      env.Constructed ∧ env.toCanonicalBytes = .ok wire) ∧
    (∀ hint, Python.CanonicalThreatHint.fromWire tooDeep floatRepr wire = .ok hint ↔
      ∃ env, Rust.ThreatHintEnvelope.parseCanonical fromSlice wire = .ok env ∧
        env.observedAt.toNat < 2 ^ 63 ∧ SameHint env hint) := by
  constructor
  · intro env
    rw [Rust.ThreatHintEnvelope.parseCanonical_ok readsBack,
      Rust.ThreatHintEnvelope.constructed_iff, Rust.ThreatHintEnvelope.toCanonicalBytes_ok]
    constructor
    · intro h
      obtain ⟨has, rfl, small⟩ := h
      exact ⟨⟨has, small⟩, rfl, small⟩
    · intro h
      obtain ⟨⟨has, -⟩, rfl, small⟩ := h
      exact ⟨has, rfl, small⟩
  · intro hint
    rw [Python.CanonicalThreatHint.fromWire_ok floatRepr flat]
    simp only [Rust.ThreatHintEnvelope.parseCanonical_ok readsBack]
    constructor
    · intro h
      obtain ⟨has, early, rfl, small⟩ := h
      obtain ⟨env, rfl⟩ := exists_toPython has
      have hasFields := Rust.ThreatHintEnvelope.hasFields_iff.mpr has
      refine ⟨env, ⟨hasFields, Rust.ThreatHintEnvelope.toVec_eq env, small⟩, ?_,
        (sameHint_iff hasFields).mpr rfl⟩
      have early : (env.observedAt.toNat : Int) ≤ 2 ^ 63 - 1 := early
      omega
    · intro h
      obtain ⟨env, ⟨has, rfl, small⟩, early, same⟩ := h
      obtain rfl := (sameHint_iff has).mp same
      refine ⟨Rust.ThreatHintEnvelope.hasFields_iff.mp has, ?_,
        (Rust.ThreatHintEnvelope.toVec_eq env).symm, small⟩
      show (env.observedAt.toNat : Int) ≤ 2 ^ 63 - 1
      omega

/-- The members of the two enumerations. -/
def threatIndicatorTypes : List ThreatIndicatorType := [.fileHash, .behavior, .network, .apiCall]

def threatProofSystems : List ThreatProofSystem := [.groth16Kip16V1, .developmentStubV1]

/-- A reader of envelopes. -/
def v1EnvelopeReader (wire : Bytes) : Option Rust.ThreatHintEnvelope := do
  let fields ← Python.readObject id wire
  let schemaVersion ← Json.intAt fields "schema_version"
  let threatHash ← Json.textAt fields "threat_hash"
  let confidenceBps ← Json.intAt fields "confidence_bps"
  let indicatorType ← Python.enumValue Rust.ThreatIndicatorType.name threatIndicatorTypes
    (Json.field fields (str "indicator_type"))
  let proofSystem ← Python.enumValue Rust.ThreatProofSystem.name threatProofSystems
    (Json.field fields (str "proof_system"))
  let proof ← Json.textAt fields "proof"
  let reportNonce ← Json.textAt fields "report_nonce"
  let observedAt ← Json.intAt fields "observed_at"
  some
    { schemaVersion := UInt16.ofNat schemaVersion.toNat
      threatHash := encodeAscii threatHash
      confidenceBps := UInt16.ofNat confidenceBps.toNat
      indicatorType
      proofSystem
      proof := encodeAscii proof
      reportNonce := encodeAscii reportNonce
      observedAt := UInt64.ofNat observedAt.toNat }

theorem v1EnvelopeReader_readsBack : Rust.ThreatHintEnvelope.ReadsBack v1EnvelopeReader := by
  intro env hasFields
  have has := Rust.ThreatHintEnvelope.hasFields_iff.mp hasFields
  have keys := Python.CanonicalThreatHint.names_facts.1
  have unique : (((Python.CanonicalThreatHint.payload env.toPython).map Prod.fst).map str).Nodup :=
    keys.distinct
  have field : ∀ f ∈ Python.CanonicalThreatHint.payload env.toPython, Json.field
      ((Python.CanonicalThreatHint.payload env.toPython).map fun f => (str f.1, f.2)) (str f.1) =
        some f.2 := fun f hf => field_document unique hf
  simp only [Python.CanonicalThreatHint.payload, List.forall_mem_cons] at field
  obtain ⟨version, hash, confidence, indicator, system, proof, nonce, time, -⟩ := field
  have names : Plain (threatIndicatorTypes.map Rust.ThreatIndicatorType.name) ∧
      Plain (threatProofSystems.map Rust.ThreatProofSystem.name) := by
    decide
  have isIndicator := Python.enumValue_text (names.1.nodup _)
    (show env.indicatorType ∈ threatIndicatorTypes by cases env.indicatorType <;> decide)
  have isSystem := Python.enumValue_text (names.2.nodup _)
    (show env.proofSystem ∈ threatProofSystems by cases env.proofSystem <;> decide)
  rw [Rust.ThreatHintEnvelope.toVec_eq, v1EnvelopeReader, readObject_document id has.readable]
  simp only [Option.bind_eq_bind, Option.bind_some, Json.intAt, Json.textAt,
    Python.CanonicalThreatHint.payload, version, hash, confidence, indicator, system, proof, nonce,
    time, Json.asInt, Json.asString]
  rw [show env.toPython.indicatorType = str (Rust.ThreatIndicatorType.name env.indicatorType) from
    rfl, show env.toPython.proofSystem = str (Rust.ThreatProofSystem.name env.proofSystem) from rfl,
    isIndicator, isSystem]
  simp [Rust.ThreatHintEnvelope.toPython, encodeAscii_toNat]

/-- A hint with a proof of two bytes, observed at this time. -/
def baseV1Envelope (observedAt : UInt64) : Rust.ThreatHintEnvelope where
  schemaVersion := 1
  threatHash := List.replicate 64 97
  confidenceBps := 9000
  indicatorType := .fileHash
  proofSystem := .groth16Kip16V1
  proof := ascii "00ff"
  reportNonce := List.replicate 64 98
  observedAt := observedAt

theorem baseV1Envelope_constructed (time : UInt64) (positive : time ≠ 0) :
    (baseV1Envelope time).HasFields ∧
      (baseV1Envelope time).toVec.length ≤ maxThreatHintWireBytes := by
  have checks : Rust.validateHex64 (List.replicate 64 97) = true ∧
      Rust.validateHex64 (List.replicate 64 98) = true ∧ Rust.validateConfidence 9000 = true ∧
      Python.isProofHex ((ascii "00ff").map UInt8.toNat) = true ∧
      ((ascii "00ff").map UInt8.toNat).length = 4 := by
    decide
  obtain ⟨hash, nonce, confidence, proof, short⟩ := checks
  have has : (baseV1Envelope time).HasFields := ⟨rfl, hash, nonce, confidence, positive, proof⟩
  have fields := Rust.ThreatHintEnvelope.hasFields_iff.mp has
  have bounded := fields.bounded
  rw [show (baseV1Envelope time).toPython.proof.length = 4 from short] at bounded
  rw [Rust.ThreatHintEnvelope.toVec_eq, maxThreatHintWireBytes]
  exact ⟨has, by omega⟩

theorem threat_hint_v1_parsers_agree_base :
    ∃ hint, Python.CanonicalThreatHint.fromWire (fun _ => false) id
      (baseV1Envelope 1700000000).toVec = .ok hint ∧ SameHint (baseV1Envelope 1700000000) hint := by
  obtain ⟨has, small⟩ := baseV1Envelope_constructed 1700000000 (by decide)
  obtain ⟨rust, python⟩ := threat_hint_v1_parsers_agree v1EnvelopeReader_readsBack
    (fun _ _ _ _ _ => rfl) id (baseV1Envelope 1700000000).toVec
  have constructed := Rust.ThreatHintEnvelope.constructed_iff.mpr ⟨has, small⟩
  have isParsed := (rust _).mpr
    ⟨constructed, Rust.ThreatHintEnvelope.toCanonicalBytes_ok.mpr ⟨rfl, small⟩⟩
  have same := (sameHint_iff has).mpr rfl
  have early : (1700000000 : UInt64).toNat < 2 ^ 63 := by decide
  exact ⟨_, (python _).mpr ⟨_, isParsed, early, same⟩, same⟩

/-- A Rust client can send an envelope that Python does not parse. -/
theorem late_envelope_refused :
    ¬ ∀ (env : Rust.ThreatHintEnvelope) (wire : Bytes), env.Constructed →
      env.toCanonicalBytes = .ok wire →
      ∃ hint, Python.CanonicalThreatHint.fromWire (fun _ => false) id wire = .ok hint := by
  intro claimed
  obtain ⟨has, small⟩ := baseV1Envelope_constructed 9223372036854775808 (by decide)
  obtain ⟨hint, isParsed⟩ := claimed (baseV1Envelope 9223372036854775808) (baseV1Envelope 9223372036854775808).toVec
    (Rust.ThreatHintEnvelope.constructed_iff.mpr ⟨has, small⟩)
    (Rust.ThreatHintEnvelope.toCanonicalBytes_ok.mpr ⟨rfl, small⟩)
  obtain ⟨hasHint, early, same, -⟩ :=
    (Python.CanonicalThreatHint.fromWire_ok id fun _ _ _ _ _ => rfl).mp isParsed
  rw [Rust.ThreatHintEnvelope.toVec_eq] at same
  have isHint := payload_inj hasHint (Rust.ThreatHintEnvelope.hasFields_iff.mp has) same
  rw [isHint] at early
  have late : (9223372036854775808 : Int) ≤ 2 ^ 63 - 1 := early
  omega

end Prometheus.ThreatHint
