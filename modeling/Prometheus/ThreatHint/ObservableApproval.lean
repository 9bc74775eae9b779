import Prometheus.Codec.Frame
import Prometheus.ThreatHint.ObservableAgreement

/-!
# Approvals of observable bundles in the two languages

`verify_observable_approval` of `threat-hint/src/observable_approval.rs` and of
`jaeger/observable_approval.py`, and the check of an approval's shape in
`threat_hint_v2_transport.rs` and `.py`, which comes before any trusted context is known. BIP340
verification, which takes a key, a digest and a signature, is one parameter of both languages.
-/

namespace Prometheus.ThreatHint

open Prometheus.Codec

/-- `MAX_CANONICAL_APPROVAL_BYTES`. -/
def maxCanonicalApprovalBytes : Nat := 1024

/-- `MAX_APPROVAL_LIFETIME_SECONDS`. -/
def maxApprovalLifetimeSeconds : Nat := 3600

/-- `APPROVAL_SIGNING_DOMAIN`. -/
def approvalSigningDomain : Bytes := ascii "prometheus-observable-approval-v1" ++ [0]

/-- `APPROVAL_ID_DOMAIN`. -/
def approvalIdDomain : Bytes := ascii "prometheus-observable-approval-id-v1" ++ [0]

/-- `[u8; 32]`. -/
abbrev FixedHash := { bytes : Bytes // bytes.length = 32 }

/-! ## Rust -/

namespace Rust

/-- `ObservableApprovalWire` and `ApprovalShapeWire`. -/
structure ObservableApprovalWire where
  schemaVersion : UInt16
  observableCommitment : Bytes
  approverXonlyPublicKey : Bytes
  purpose : Bytes
  recipientScope : Bytes
  networkId : Bytes
  notBefore : UInt64
  expiresAt : UInt64
  approvalNonce : Bytes
  signature : Bytes
  deriving DecidableEq, Repr

/-- `APPROVAL_PURPOSE`. -/
def approvalPurpose : Bytes := ascii "guardian_analysis_v1"

namespace ObservableApprovalWire

/-- `ObservableApprovalSigningBody` of an approval, whose fields come first in its own order. -/
def signingFields (approval : ObservableApprovalWire) : List (String × Bytes) :=
  [("schema_version", serdeNat approval.schemaVersion.toNat),
    ("observable_commitment", serdeString approval.observableCommitment),
    ("approver_xonly_public_key", serdeString approval.approverXonlyPublicKey),
    ("purpose", serdeString approval.purpose),
    ("recipient_scope", serdeString approval.recipientScope),
    ("network_id", serdeString approval.networkId),
    ("not_before", serdeNat approval.notBefore.toNat),
    ("expires_at", serdeNat approval.expiresAt.toNat),
    ("approval_nonce", serdeString approval.approvalNonce)]

/-- `serde_json::to_vec` of the signing body. -/
def signingBody (approval : ObservableApprovalWire) : Bytes := serdeStruct approval.signingFields

/-- `serde_json::to_vec`. -/
def toVec (approval : ObservableApprovalWire) : Bytes :=
  serdeStruct (approval.signingFields ++ [("signature", serdeString approval.signature)])

end ObservableApprovalWire

/-- `is_lower_hex`. -/
def isLowerHexOf (value : Bytes) (expectedLen : Nat) : Bool :=
  decide (value.length = expectedLen) && value.all fun b => isLowerHex b.toNat

/-- `validate_approval_shape`, with the shape it has read. -/
def validateApprovalShape (fromSlice : Bytes → Option ObservableApprovalWire) (wireBytes : Bytes) :
    Option ObservableApprovalWire :=
  if wireBytes = [] ∨ maxCanonicalApprovalBytes < wireBytes.length then none
  else do
    let shape ← fromSlice wireBytes
    if shape.toVec ≠ wireBytes then none
    else if shape.schemaVersion ≠ 1 ∨ shape.purpose ≠ approvalPurpose then none
    else if ¬ validateNetworkId shape.networkId then none
    else if shape.expiresAt < shape.notBefore then none
    else
      let lifetime := shape.expiresAt.toNat - shape.notBefore.toNat
      if shape.notBefore = 0 ∨ lifetime = 0 ∨ maxApprovalLifetimeSeconds < lifetime then none
      else if ¬ isLowerHexOf shape.observableCommitment 64 ∨
          ¬ isLowerHexOf shape.approverXonlyPublicKey 64 ∨ ¬ isLowerHexOf shape.recipientScope 64 ∨
          ¬ isLowerHexOf shape.approvalNonce 64 ∨ ¬ isLowerHexOf shape.signature 128 then none
      else some shape

structure ObservableApprovalContext where
  reportNonce : FixedHash
  approverXonlyPublicKey : FixedHash
  recipientScope : FixedHash
  networkId : Bytes
  currentTime : UInt64

/-- `ObservableApprovalContext::new`. -/
def ObservableApprovalContext.new (reportNonce approverXonlyPublicKey recipientScope : FixedHash)
    (networkId : Bytes) (currentTime : UInt64) : Option ObservableApprovalContext :=
  if ¬ validateNetworkId networkId then none
  else if currentTime = 0 then none
  else some { reportNonce, approverXonlyPublicKey, recipientScope, networkId, currentTime }

structure VerifiedObservableApproval where
  approvalId : Bytes
  observableCommitment : Bytes
  approverXonlyPublicKey : Bytes
  recipientScope : Bytes
  approvalNonce : Bytes
  networkId : Bytes
  notBefore : UInt64
  expiresAt : UInt64
  deriving DecidableEq, Repr

/-- `decode_fixed_hex`. -/
def decodeFixedHex (n : Nat) (value : Bytes) : Option Bytes :=
  if value.length ≠ n * 2 ∨ ¬ value.all (fun b => isLowerHex b.toNat) then none
  else some (fromHex (value.map UInt8.toNat))

/-- `validate_time_window`. -/
def validateTimeWindow (notBefore expiresAt currentTime : UInt64) : Bool :=
  if expiresAt < notBefore then false
  else
    let lifetime := expiresAt.toNat - notBefore.toNat
    !(decide (notBefore = 0) || decide (lifetime = 0) ||
      decide (maxApprovalLifetimeSeconds < lifetime) || decide (currentTime < notBefore) ||
      decide (expiresAt < currentTime))

/-- `review_required_commitment`. -/
def reviewRequiredCommitment (sha256 : Bytes → Bytes)
    (bundleFromSlice : Bytes → Option ObservableBundle) (bundleWire : Bytes)
    (context : ObservableApprovalContext) : Option Bytes := do
  let bundle ← (ObservableBundle.parseCanonical bundleFromSlice bundleWire).toOption
  if bundle.disclosurePolicy ≠ .reviewRequiredV1 then none
  else (bundle.commitment sha256 context.networkId
    (encodeAscii (hex context.reportNonce.val))).toOption

/-- `verify_observable_approval`. -/
def verifyObservableApproval (sha256 : Bytes → Bytes) (verifySchnorr : Bytes → Bytes → Bytes → Bool)
    (fromSlice : Bytes → Option ObservableApprovalWire)
    (bundleFromSlice : Bytes → Option ObservableBundle) (approvalWire bundleWire : Bytes)
    (context : ObservableApprovalContext) : Option VerifiedObservableApproval :=
  if approvalWire = [] ∨ maxCanonicalApprovalBytes < approvalWire.length then none
  else do
    let approval ← fromSlice approvalWire
    if approval.toVec ≠ approvalWire then none
    else if approval.schemaVersion ≠ 1 ∨ approval.purpose ≠ approvalPurpose ∨
        approval.networkId ≠ context.networkId then none
    else if ¬ validateTimeWindow approval.notBefore approval.expiresAt context.currentTime then none
    else do
      let observableCommitment ← decodeFixedHex 32 approval.observableCommitment
      let approverXonlyPublicKey ← decodeFixedHex 32 approval.approverXonlyPublicKey
      let recipientScope ← decodeFixedHex 32 approval.recipientScope
      let approvalNonce ← decodeFixedHex 32 approval.approvalNonce
      let signature ← decodeFixedHex 64 approval.signature
      if approverXonlyPublicKey ≠ context.approverXonlyPublicKey.val ∨
          recipientScope ≠ context.recipientScope.val then none
      else do
        let expectedCommitment ← reviewRequiredCommitment sha256 bundleFromSlice bundleWire context
        if observableCommitment ≠ expectedCommitment then none
        else
          let signingDigest := sha256 (digestFrame approvalSigningDomain approval.signingBody)
          if ¬ verifySchnorr approverXonlyPublicKey signingDigest signature then none
          else
            some
              { approvalId := sha256 (digestFrame approvalIdDomain approvalWire)
                observableCommitment, approverXonlyPublicKey, recipientScope, approvalNonce
                networkId := approval.networkId, notBefore := approval.notBefore
                expiresAt := approval.expiresAt }

end Rust

/-! ## Python -/

namespace Python

/-- `APPROVAL_PURPOSE`. -/
def approvalPurpose : Str := str "guardian_analysis_v1"

/-- The fields of a decoded approval, each of the type that it is checked for. -/
structure ObservableApproval where
  schemaVersion : Int
  observableCommitment : Str
  approverXonlyPublicKey : Str
  purpose : Str
  recipientScope : Str
  networkId : Str
  notBefore : Int
  expiresAt : Int
  approvalNonce : Str
  signature : Str
  deriving DecidableEq, Repr

namespace ObservableApproval

/-- The keys of a signing body, in their order. -/
def signingKeys : List String :=
  ["schema_version", "observable_commitment", "approver_xonly_public_key", "purpose",
    "recipient_scope", "network_id", "not_before", "expires_at", "approval_nonce"]

/-- The keys of an approval, in their order. -/
def keys : List String := signingKeys ++ ["signature"]

/-- The values of these keys in a decoded object. -/
def select (fields : List (Str × Json)) (keys : List String) : List (String × Json) :=
  keys.map fun key => (key, (Json.field fields (str key)).getD .null)

/-- The type checks of a decoded object. -/
def typed (fields : List (Str × Json)) : Option ObservableApproval := do
  let schemaVersion ← Json.intAt fields "schema_version"
  let purpose ← Json.textAt fields "purpose"
  let networkId ← Json.textAt fields "network_id"
  let notBefore ← Json.intAt fields "not_before"
  let expiresAt ← Json.intAt fields "expires_at"
  let observableCommitment ← Json.textAt fields "observable_commitment"
  let approverXonlyPublicKey ← Json.textAt fields "approver_xonly_public_key"
  let recipientScope ← Json.textAt fields "recipient_scope"
  let approvalNonce ← Json.textAt fields "approval_nonce"
  let signature ← Json.textAt fields "signature"
  some { schemaVersion, observableCommitment, approverXonlyPublicKey, purpose, recipientScope,
         networkId, notBefore, expiresAt, approvalNonce, signature }

/-- The object of a wire that is written again as that wire. -/
def readCanonical (floatRepr : Str → Str) (wireBytes : Bytes) : Option (List (Str × Json)) :=
  if wireBytes = [] ∨ maxCanonicalApprovalBytes < wireBytes.length then none
  else do
    let fields ← readObject floatRepr wireBytes
    if ¬ sameKeys fields keys then none
    else do
      let canonical ← dumpsUtf8 (document (select fields keys))
      if canonical ≠ wireBytes then none else some fields

end ObservableApproval

/-- `_LOWER_HEX_RE.fullmatch` of a text of this length. -/
def isLowerHexOf (value : Str) (expectedLen : Nat) : Bool :=
  decide (value.length = expectedLen) && value.all isLowerHex

/-- `_validate_approval_shape`, with the shape it has read. -/
def validateApprovalShape (floatRepr : Str → Str) (wireBytes : Bytes) :
    Option ObservableApproval := do
  let fields ← ObservableApproval.readCanonical floatRepr wireBytes
  let shape ← ObservableApproval.typed fields
  if shape.schemaVersion ≠ 1 ∨ shape.purpose ≠ approvalPurpose then none
  else if u64Max < shape.notBefore ∨ u64Max < shape.expiresAt then none
  else
    let lifetime := shape.expiresAt - shape.notBefore
    if shape.notBefore ≤ 0 ∨ lifetime ≤ 0 ∨ (maxApprovalLifetimeSeconds : Int) < lifetime then none
    else if ¬ validateNetworkId shape.networkId then none
    else if ¬ isLowerHexOf shape.observableCommitment 64 ∨
        ¬ isLowerHexOf shape.approverXonlyPublicKey 64 ∨ ¬ isLowerHexOf shape.recipientScope 64 ∨
        ¬ isLowerHexOf shape.approvalNonce 64 ∨ ¬ isLowerHexOf shape.signature 128 then none
    else some shape

structure ObservableApprovalContext where
  reportNonce : Bytes
  approverXonlyPublicKey : Bytes
  recipientScope : Bytes
  networkId : Str
  currentTime : Int

/-- `validate`. -/
def ObservableApprovalContext.validate (context : ObservableApprovalContext) : Bool :=
  decide (context.reportNonce.length = 32) &&
    decide (context.approverXonlyPublicKey.length = 32) &&
    decide (context.recipientScope.length = 32) && decide (0 < context.currentTime) &&
    decide (context.currentTime ≤ u64Max) && validateNetworkId context.networkId

structure VerifiedObservableApproval where
  approvalId : Bytes
  observableCommitment : Bytes
  approverXonlyPublicKey : Bytes
  recipientScope : Bytes
  approvalNonce : Bytes
  networkId : Str
  notBefore : Int
  expiresAt : Int
  deriving DecidableEq, Repr

/-- `_decode_fixed_hex`. -/
def decodeFixedHex (value : Str) (expectedBytes : Nat) : Option Bytes :=
  if value.length ≠ expectedBytes * 2 ∨ ¬ value.all isLowerHex then none else some (fromHex value)

/-- `_verify_observable_approval`; every exception it raises is a refusal. -/
def verifyObservableApproval (sha256 : Bytes → Bytes) (verifySchnorr : Bytes → Bytes → Bytes → Bool)
    (floatRepr : Str → Str) (approvalWire bundleWire : Bytes)
    (context : ObservableApprovalContext) : Option VerifiedObservableApproval :=
  if ¬ context.validate then none
  else do
    let fields ← ObservableApproval.readCanonical floatRepr approvalWire
    let decoded ← ObservableApproval.typed fields
    if decoded.schemaVersion ≠ 1 ∨ decoded.purpose ≠ approvalPurpose ∨
        decoded.networkId ≠ context.networkId ∨ u64Max < decoded.notBefore ∨
        u64Max < decoded.expiresAt then none
    else
      let lifetime := decoded.expiresAt - decoded.notBefore
      if decoded.notBefore ≤ 0 ∨ lifetime ≤ 0 ∨ (maxApprovalLifetimeSeconds : Int) < lifetime ∨
          context.currentTime < decoded.notBefore ∨ decoded.expiresAt < context.currentTime then
        none
      else do
        let observableCommitment ← decodeFixedHex decoded.observableCommitment 32
        let approverXonlyPublicKey ← decodeFixedHex decoded.approverXonlyPublicKey 32
        let recipientScope ← decodeFixedHex decoded.recipientScope 32
        let approvalNonce ← decodeFixedHex decoded.approvalNonce 32
        let signature ← decodeFixedHex decoded.signature 64
        if approverXonlyPublicKey ≠ context.approverXonlyPublicKey ∨
            recipientScope ≠ context.recipientScope then none
        else do
          let bundle ← (ObservableBundle.parseCanonical floatRepr bundleWire).toOption
          if bundle.disclosurePolicy ≠ .reviewRequiredV1 then none
          else do
            let expectedCommitment ← (bundle.commitment sha256 context.networkId
              (hex context.reportNonce)).toOption
            if observableCommitment ≠ expectedCommitment then none
            else do
              let signingBody ←
                dumpsUtf8 (document (ObservableApproval.select fields ObservableApproval.signingKeys))
              let signingDigest := sha256 (digestFrame approvalSigningDomain signingBody)
              if ¬ verifySchnorr approverXonlyPublicKey signingDigest signature then none
              else
                some
                  { approvalId := sha256 (digestFrame approvalIdDomain approvalWire)
                    observableCommitment, approverXonlyPublicKey, recipientScope, approvalNonce
                    networkId := decoded.networkId, notBefore := decoded.notBefore
                    expiresAt := decoded.expiresAt }

end Python

/-! ## The Python reader -/

namespace Python.ObservableApproval

/-- The fields of a signing body. -/
def signingPayload (approval : ObservableApproval) : List (String × Json) :=
  [("schema_version", .int approval.schemaVersion),
    ("observable_commitment", .string approval.observableCommitment),
    ("approver_xonly_public_key", .string approval.approverXonlyPublicKey),
    ("purpose", .string approval.purpose),
    ("recipient_scope", .string approval.recipientScope),
    ("network_id", .string approval.networkId),
    ("not_before", .int approval.notBefore),
    ("expires_at", .int approval.expiresAt),
    ("approval_nonce", .string approval.approvalNonce)]

/-- The fields of an approval. -/
def payload (approval : ObservableApproval) : List (String × Json) :=
  approval.signingPayload ++ [("signature", .string approval.signature)]

/-- What is checked of an approval before any context is known. -/
structure Shaped (approval : ObservableApproval) : Prop where
  schemaVersion : approval.schemaVersion = 1
  purpose : approval.purpose = approvalPurpose
  networkId : IsNetworkId approval.networkId
  notBefore : 1 ≤ approval.notBefore
  lifetime : approval.notBefore < approval.expiresAt ∧
    approval.expiresAt - approval.notBefore ≤ maxApprovalLifetimeSeconds
  expiresAt : approval.expiresAt ≤ u64Max
  observableCommitment : isHash approval.observableCommitment = true
  approverXonlyPublicKey : isHash approval.approverXonlyPublicKey = true
  recipientScope : isHash approval.recipientScope = true
  approvalNonce : isHash approval.approvalNonce = true
  signature : isLowerHexOf approval.signature 128 = true

theorem keys_facts : Plain keys ∧ Plain signingKeys ∧
    (keys.map fun key => (quoteRaw (str key)).length + 2).sum ≤ 200 ∧
    IsAscii approvalPurpose ∧ (quoteRaw approvalPurpose).length = 22 := by
  unfold IsAscii
  decide

theorem isLowerHexOf_iff {s : Str} {n : Nat} :
    isLowerHexOf s n = true ↔ s.length = n ∧ ∀ c ∈ s, isLowerHex c = true := by
  rw [isLowerHexOf, Bool.and_eq_true, decide_eq_true_eq, List.all_eq_true]

theorem isAscii_of_digits {s : Str} (h : ∀ c ∈ s, isLowerHex c = true) : IsAscii s := by
  intro c hc
  have := isPlainText_of_lowerHex h c hc
  omega

theorem typed_some {fields : List (Str × Json)} {approval : ObservableApproval} :
    typed fields = some approval ↔
      ∀ f ∈ approval.payload, Json.field fields (str f.1) = some f.2 := by
  have asText (key : String) (s : Str) :
      Json.textAt fields key = some s ↔ Json.field fields (str key) = some (.string s) :=
    asString_some
  have asInt (key : String) (i : Int) :
      Json.intAt fields key = some i ↔ Json.field fields (str key) = some (.int i) :=
    asInt_some
  simp only [typed, Option.bind_eq_bind, Option.bind_eq_some_iff, asText, asInt, payload,
    signingPayload, List.cons_append, List.nil_append, List.forall_mem_cons, Option.some.injEq]
  constructor
  · intro h
    obtain ⟨_, version, _, purpose, _, network, _, early, _, late, _, commitment, _, approver, _,
      recipient, _, nonce, _, signature, rfl⟩ := h
    exact ⟨version, commitment, approver, purpose, recipient, network, early, late, nonce,
      signature, by simp⟩
  · intro h
    obtain ⟨version, commitment, approver, purpose, recipient, network, early, late, nonce,
      signature, -⟩ := h
    exact ⟨_, version, _, purpose, _, network, _, early, _, late, _, commitment, _, approver, _,
      recipient, _, nonce, _, signature, rfl⟩

/-- What is selected from the object of an approval. -/
theorem select_payload {fields : List (Str × Json)} {approval : ObservableApproval}
    (h : typed fields = some approval) :
    select fields keys = approval.payload ∧ select fields signingKeys = approval.signingPayload := by
  have values := typed_some.mp h
  simp only [payload, signingPayload, List.cons_append, List.nil_append,
    List.forall_mem_cons] at values
  obtain ⟨version, commitment, approver, purpose, recipient, network, early, late, nonce,
    signature, -⟩ := values
  simp only [select, keys, signingKeys, payload, signingPayload, List.cons_append, List.nil_append,
    List.map_cons, List.map_nil, version, commitment, approver, purpose, recipient, network, early,
    late, nonce, signature, Option.getD_some, and_self]

section

variable {approval : ObservableApproval} (shaped : Shaped approval)

include shaped

theorem Shaped.small : IsU64 approval.schemaVersion ∧ IsU64 approval.notBefore ∧
    IsU64 approval.expiresAt := by
  have version := shaped.schemaVersion
  have early := shaped.notBefore
  have ordered := shaped.lifetime.1
  have late := shaped.expiresAt
  exact ⟨.of_le (by omega) (by omega), ⟨by omega, by omega⟩, by omega, late⟩

theorem Shaped.readableSigning : Readable (document approval.signingPayload) := by
  obtain ⟨-, plain, -, purpose, -⟩ := keys_facts
  obtain ⟨version, early, late⟩ := shaped.small
  refine readable_document (show _ = signingKeys from rfl) plain.distinct plain.ascii ?_
  simp only [signingPayload, List.forall_mem_cons, shaped.purpose]
  exact ⟨readable_int version, readable_string (isAscii_of_isHash shaped.observableCommitment),
    readable_string (isAscii_of_isHash shaped.approverXonlyPublicKey), readable_string purpose,
    readable_string (isAscii_of_isHash shaped.recipientScope),
    readable_string shaped.networkId.isAscii, readable_int early, readable_int late,
    readable_string (isAscii_of_isHash shaped.approvalNonce), by simp⟩

theorem Shaped.readable : Readable (document approval.payload) := by
  obtain ⟨plain, -, -, purpose, -⟩ := keys_facts
  obtain ⟨version, early, late⟩ := shaped.small
  have signature := isAscii_of_digits (isLowerHexOf_iff.mp shaped.signature).2
  refine readable_document (show _ = keys from rfl) plain.distinct plain.ascii ?_
  simp only [payload, signingPayload, List.cons_append, List.nil_append, List.forall_mem_cons,
    shaped.purpose]
  exact ⟨readable_int version, readable_string (isAscii_of_isHash shaped.observableCommitment),
    readable_string (isAscii_of_isHash shaped.approverXonlyPublicKey), readable_string purpose,
    readable_string (isAscii_of_isHash shaped.recipientScope),
    readable_string shaped.networkId.isAscii, readable_int early, readable_int late,
    readable_string (isAscii_of_isHash shaped.approvalNonce), readable_string signature, by simp⟩

/-- An approval fits its bound. -/
theorem Shaped.bounded : (dump approval.payload).length ≤ maxCanonicalApprovalBytes := by
  obtain ⟨-, -, names, -, purposeLength⟩ := keys_facts
  obtain ⟨smallVersion, smallEarly, smallLate⟩ := shaped.small
  have version := length_int_le smallVersion
  have early := length_int_le smallEarly
  have late := length_int_le smallLate
  have commitment := length_hash shaped.observableCommitment
  have approver := length_hash shaped.approverXonlyPublicKey
  have recipient := length_hash shaped.recipientScope
  have nonce := length_hash shaped.approvalNonce
  have network := length_networkId_le shaped.networkId
  have purpose : ((Json.string approval.purpose).compact quoteRaw).length = 22 := by
    rw [shaped.purpose]
    exact purposeLength
  have signature : ((Json.string approval.signature).compact quoteRaw).length = 130 := by
    obtain ⟨long, digits⟩ := isLowerHexOf_iff.mp shaped.signature
    rw [Json.compact, length_quoteRaw, long]
    intro c hc
    have digit := digits c hc
    simp only [isLowerHex, Bool.or_eq_true, Bool.and_eq_true, decide_eq_true_eq] at digit
    omega
  have total := length_dump_le (show approval.payload.map Prod.fst = keys from rfl)
  rw [maxCanonicalApprovalBytes]
  simp only [payload, signingPayload, List.cons_append, List.nil_append, List.map_cons,
    List.map_nil, List.sum_cons, List.sum_nil] at total ⊢
  omega

/-- The reader reads an approval from its canonical bytes only. -/
theorem Shaped.read_iff (floatRepr : Str → Str) {wire : Bytes} :
    (∃ fields, readCanonical floatRepr wire = some fields ∧ typed fields = some approval) ↔
      dump approval.payload = wire := by
  have written := dumpsUtf8_document shaped.readable
  simp only [readCanonical, Option.ite_none_left_eq_some, Option.bind_eq_bind,
    Option.bind_eq_some_iff, not_not, ne_eq, Option.some.injEq]
  constructor
  · intro h
    obtain ⟨fields, ⟨-, fields', -, -, canonical, isDump, same, rfl⟩, isTyped⟩ := h
    rw [(select_payload isTyped).1, written] at isDump
    exact (Option.some.inj isDump).trans same
  · intro h
    subst h
    have unique : ((approval.payload.map Prod.fst).map str).Nodup := keys_facts.1.distinct
    have isTyped : typed (approval.payload.map fun f => (str f.1, f.2)) = some approval :=
      typed_some.mpr fun f hf => field_document unique hf
    refine ⟨_, ⟨?_, _, readObject_document floatRepr shaped.readable, ?_, _, ?_, rfl, rfl⟩, isTyped⟩
    · have bounded := shaped.bounded
      simp only [dump_ne_nil, false_or]
      omega
    · exact ObservableBundle.sameKeys_document (show approval.payload.map Prod.fst = keys from rfl)
    · rw [(select_payload isTyped).1, written]

end

theorem validateApprovalShape_iff (floatRepr : Str → Str) {wire : Bytes}
    {shape : ObservableApproval} : validateApprovalShape floatRepr wire = some shape ↔
      shape.Shaped ∧ dump shape.payload = wire := by
  simp only [validateApprovalShape, Option.bind_eq_bind, Option.bind_eq_some_iff,
    Option.ite_none_left_eq_some, not_or, not_not, not_lt, not_le, ne_eq, Option.some.injEq,
    validateNetworkId_iff]
  constructor
  · intro h
    obtain ⟨fields, isRead, shape', isTyped, ⟨version, purpose⟩, ⟨-, late⟩, ⟨early, positive, short⟩,
      network, ⟨commitment, approver, recipient, nonce, signature⟩, rfl⟩ := h
    have shaped : Shaped shape' := ⟨version, purpose, network, by omega, ⟨by omega, short⟩, late,
      commitment, approver, recipient, nonce, signature⟩
    exact ⟨shaped, (shaped.read_iff floatRepr).mp ⟨fields, isRead, isTyped⟩⟩
  · intro h
    obtain ⟨shaped, isWire⟩ := h
    obtain ⟨fields, isRead, isTyped⟩ := (shaped.read_iff floatRepr).mpr isWire
    have early := shaped.notBefore
    have ordered := shaped.lifetime
    have late := shaped.expiresAt
    exact ⟨fields, isRead, shape, isTyped, ⟨shaped.schemaVersion, shaped.purpose⟩,
      ⟨by omega, late⟩, ⟨by omega, by omega, ordered.2⟩, shaped.networkId,
      ⟨shaped.observableCommitment, shaped.approverXonlyPublicKey, shaped.recipientScope,
        shaped.approvalNonce, shaped.signature⟩, rfl⟩

end Python.ObservableApproval

/-! ## What a verification authenticates -/

/-- The wire is a bundle under review. -/
def IsReviewBundle (bundleWire : Bytes) : Prop :=
  ∃ bundle : Python.ObservableBundle, bundle.Accepts ∧ dump bundle.payload = bundleWire ∧
    bundle.disclosurePolicy = .reviewRequiredV1

section

variable (sha256 : Bytes → Bytes) (verifySchnorr : Bytes → Bytes → Bytes → Bool)
  (reportNonce approverXonlyPublicKey recipientScope : FixedHash) (networkId : Str)
  (currentTime : Int) (bundleWire : Bytes)

/-- The approval is one of the trusted approver for this bundle, network, nonce and recipient, at
this time. -/
structure Authorises (approval : Python.ObservableApproval) : Prop where
  network : approval.networkId = networkId
  isNetwork : IsNetworkId networkId
  window : approval.notBefore ≤ currentTime ∧ currentTime ≤ approval.expiresAt
  approver : fromHex approval.approverXonlyPublicKey = approverXonlyPublicKey.val
  recipient : fromHex approval.recipientScope = recipientScope.val
  bundle : IsReviewBundle bundleWire
  commitment : fromHex approval.observableCommitment =
    sha256 (commitmentPreimage networkId (hex reportNonce.val) bundleWire)
  signature : verifySchnorr approverXonlyPublicKey.val
    (sha256 (digestFrame approvalSigningDomain (dump approval.signingPayload)))
    (fromHex approval.signature) = true

/-- What a verified approval exposes. -/
def verifiedApproval (approval : Python.ObservableApproval) :
    Python.VerifiedObservableApproval where
  approvalId := sha256 (digestFrame approvalIdDomain (dump approval.payload))
  observableCommitment := fromHex approval.observableCommitment
  approverXonlyPublicKey := fromHex approval.approverXonlyPublicKey
  recipientScope := fromHex approval.recipientScope
  approvalNonce := fromHex approval.approvalNonce
  networkId := approval.networkId
  notBefore := approval.notBefore
  expiresAt := approval.expiresAt

end

theorem decodeFixedHex_python {value : Str} {n : Nat} {decoded : Bytes} :
    Python.decodeFixedHex value n = some decoded ↔
      Python.isLowerHexOf value (n * 2) = true ∧ fromHex value = decoded := by
  rw [Python.decodeFixedHex, Option.ite_none_left_eq_some, not_or, not_not, not_not,
    Python.ObservableApproval.isLowerHexOf_iff, List.all_eq_true, Option.some.injEq]

section

variable {sha256 : Bytes → Bytes} {bundleWire : Bytes} {network nonce : Str}
  (isNonce : isHash nonce = true) {digest : Bytes}

include isNonce

/-- A bundle under review that Python reads, and its commitment. -/
theorem commitment_python_iff (floatRepr : Str → Str) :
    (∃ bundle, Python.ObservableBundle.parseCanonical floatRepr bundleWire = .ok bundle ∧
        bundle.disclosurePolicy = .reviewRequiredV1 ∧
        bundle.commitment sha256 network nonce = .ok digest) ↔
      IsReviewBundle bundleWire ∧ IsNetworkId network ∧
        digest = sha256 (commitmentPreimage network nonce bundleWire) := by
  have canonical := Python.ObservableBundle.canonical floatRepr
  have committed {bundle : Python.ObservableBundle} (accepts : bundle.Accepts)
      (isNetwork : IsNetworkId network) : bundle.commitment sha256 network nonce =
        .ok (sha256 (commitmentPreimage network nonce (dump bundle.payload))) := by
    have same := Rust.ObservableBundle.toPython_ofPython accepts.checked
    have acceptsRust : (Rust.ObservableBundle.ofPython bundle).toPython.Accepts := by rwa [same]
    have both := commitments_of_valid sha256 acceptsRust (encodeUtf8_of_ascii isNetwork.isAscii)
      (encodeUtf8_of_ascii (isAscii_of_isHash isNonce)) isNetwork isNonce
    rw [Rust.ObservableBundle.toVec_eq, same] at both
    exact both.2.2
  constructor
  · intro h
    obtain ⟨bundle, isParsed, review, isDigest⟩ := h
    obtain ⟨accepts, rfl⟩ := (canonical bundleWire bundle).mp (toOption_eq_some.mpr isParsed)
    have isNetwork := (commitment_python isDigest).1
    rw [committed accepts isNetwork, Except.ok.injEq] at isDigest
    exact ⟨⟨bundle, accepts, rfl, review⟩, isNetwork, isDigest.symm⟩
  · intro h
    obtain ⟨⟨bundle, accepts, rfl, review⟩, isNetwork, rfl⟩ := h
    exact ⟨bundle, toOption_eq_some.mp (canonical.parse_encode accepts), review,
      committed accepts isNetwork⟩

/-- A bundle under review that Rust reads, and its commitment. -/
theorem commitment_rust_iff {fromSlice : Bytes → Option Rust.ObservableBundle}
    (readsBack : Rust.ObservableBundle.ReadsBack fromSlice) {networkBytes : Bytes}
    (sameNetwork : encodeUtf8 network = some networkBytes) :
    (∃ bundle, Rust.ObservableBundle.parseCanonical fromSlice bundleWire = .ok bundle ∧
        bundle.disclosurePolicy = .reviewRequiredV1 ∧
        bundle.commitment sha256 networkBytes (encodeAscii nonce) = .ok digest) ↔
      IsReviewBundle bundleWire ∧ IsNetworkId network ∧
        digest = sha256 (commitmentPreimage network nonce bundleWire) := by
  have canonical := Rust.ObservableBundle.canonical readsBack
  have nonceBytes : encodeUtf8 nonce = some (encodeAscii nonce) :=
    encodeUtf8_of_ascii (isAscii_of_isHash isNonce)
  constructor
  · intro h
    obtain ⟨bundle, isParsed, review, isDigest⟩ := h
    obtain ⟨accepts, rfl⟩ := (canonical bundleWire bundle).mp (toOption_eq_some.mpr isParsed)
    have isNetwork := (commitment_rust sameNetwork nonceBytes isDigest).1
    have both := commitments_of_valid sha256 accepts sameNetwork nonceBytes isNetwork isNonce
    rw [both.2.1, Except.ok.injEq] at isDigest
    exact ⟨⟨bundle.toPython, accepts, (Rust.ObservableBundle.toVec_eq bundle).symm, review⟩,
      isNetwork, isDigest.symm⟩
  · intro h
    obtain ⟨⟨bundle, accepts, rfl, review⟩, isNetwork, rfl⟩ := h
    have same := Rust.ObservableBundle.toPython_ofPython accepts.checked
    have written := Rust.ObservableBundle.toVec_eq (.ofPython bundle)
    rw [same] at written
    have acceptsRust : (Rust.ObservableBundle.ofPython bundle).toPython.Accepts := by rwa [same]
    have both := commitments_of_valid sha256 acceptsRust sameNetwork nonceBytes isNetwork isNonce
    refine ⟨.ofPython bundle, ?_, review, ?_⟩
    · rw [← written]
      exact toOption_eq_some.mp (canonical.parse_encode acceptsRust)
    · rw [both.2.1, written]

end

section

variable (sha256 : Bytes → Bytes) (verifySchnorr : Bytes → Bytes → Bytes → Bool)
  (reportNonce approverXonlyPublicKey recipientScope : FixedHash) (networkId : Str)
  (approvalWire bundleWire : Bytes)

/-- Python verifies the canonical bytes of the approvals that authorise the bundle. -/
theorem verify_python_iff (floatRepr : Str → Str) (currentTime : Int)
    (verified : Python.VerifiedObservableApproval) :
    Python.verifyObservableApproval sha256 verifySchnorr floatRepr approvalWire bundleWire
        { reportNonce := reportNonce.val
          approverXonlyPublicKey := approverXonlyPublicKey.val
          recipientScope := recipientScope.val
          networkId
          currentTime } = some verified ↔
      ∃ approval : Python.ObservableApproval, approval.Shaped ∧
        dump approval.payload = approvalWire ∧
        Authorises sha256 verifySchnorr reportNonce approverXonlyPublicKey recipientScope networkId
          currentTime bundleWire approval ∧
        verified = verifiedApproval sha256 approval := by
  have isNonce : isHash (hex reportNonce.val) = true := isHash_hex reportNonce.property
  have context : Python.ObservableApprovalContext.validate
      ⟨reportNonce.val, approverXonlyPublicKey.val, recipientScope.val, networkId, currentTime⟩ =
        true ↔ (0 < currentTime ∧ currentTime ≤ u64Max) ∧ IsNetworkId networkId := by
    simp only [Python.ObservableApprovalContext.validate, Bool.and_eq_true, decide_eq_true_eq,
      Python.validateNetworkId_iff, reportNonce.property, approverXonlyPublicKey.property,
      recipientScope.property, true_and]
  simp only [Python.verifyObservableApproval, Option.ite_none_left_eq_some, Option.bind_eq_bind,
    Option.bind_eq_some_iff, not_not, not_or, not_lt, not_le, ne_eq, toOption_eq_some,
    Option.some.injEq]
  rw [context]
  simp only [decodeFixedHex_python]
  constructor
  · intro h
    obtain ⟨⟨clock, isNetwork⟩, fields, isRead, decoded, isTyped,
      ⟨version, purpose, network, -, late⟩, ⟨early, positive, short, after, before⟩,
      _, ⟨commitment, rfl⟩, _, ⟨approver, rfl⟩, _, ⟨recipient, rfl⟩, _, ⟨nonce, rfl⟩, _,
      ⟨signature, rfl⟩, ⟨sameApprover, sameRecipient⟩, bundle, isParsed, review, _, isCommitment,
      rfl, signingBody, isDump, isSigned, rfl⟩ := h
    have shaped : decoded.Shaped := ⟨version, purpose, network ▸ isNetwork, by omega,
      ⟨by omega, short⟩, late, commitment, approver, recipient, nonce, signature⟩
    have isWire := (shaped.read_iff floatRepr).mp ⟨fields, isRead, isTyped⟩
    obtain ⟨isReview, -, isDigest⟩ :=
      (commitment_python_iff isNonce floatRepr).mp ⟨bundle, isParsed, review, isCommitment⟩
    rw [(Python.ObservableApproval.select_payload isTyped).2,
      dumpsUtf8_document shaped.readableSigning] at isDump
    obtain rfl := Option.some.inj isDump
    rw [sameApprover] at isSigned
    refine ⟨decoded, shaped, isWire, ⟨network, isNetwork, ⟨after, before⟩, sameApprover,
      sameRecipient, isReview, isDigest, isSigned⟩, ?_⟩
    rw [verifiedApproval, isWire]
  · intro h
    obtain ⟨approval, shaped, isWire, authorised, rfl⟩ := h
    obtain ⟨fields, isRead, isTyped⟩ := (shaped.read_iff floatRepr).mpr isWire
    obtain ⟨bundle, isParsed, review, isCommitment⟩ := (commitment_python_iff isNonce floatRepr).mpr
      ⟨authorised.bundle, authorised.isNetwork, authorised.commitment⟩
    have early := shaped.notBefore
    have ordered := shaped.lifetime
    have late := shaped.expiresAt
    have window := authorised.window
    have isDump : dumpsUtf8 (document (Python.ObservableApproval.select fields
        Python.ObservableApproval.signingKeys)) = some (dump approval.signingPayload) := by
      rw [(Python.ObservableApproval.select_payload isTyped).2]
      exact dumpsUtf8_document shaped.readableSigning
    refine ⟨⟨⟨by omega, by omega⟩, authorised.isNetwork⟩, fields, isRead, approval, isTyped,
      ⟨shaped.schemaVersion, shaped.purpose, authorised.network, by omega, late⟩,
      ⟨by omega, by omega, ordered.2, window.1, window.2⟩,
      _, ⟨shaped.observableCommitment, rfl⟩, _, ⟨shaped.approverXonlyPublicKey, rfl⟩, _,
      ⟨shaped.recipientScope, rfl⟩, _, ⟨shaped.approvalNonce, rfl⟩, _, ⟨shaped.signature, rfl⟩,
      ⟨authorised.approver, authorised.recipient⟩, bundle, isParsed, review, _, isCommitment, rfl,
      _, isDump, ?_, ?_⟩
    · rw [authorised.approver]
      exact authorised.signature
    · rw [verifiedApproval, isWire]

end

/-! ## The Rust reader -/

namespace Rust.ObservableApprovalWire

/-- The approval in Python's types. -/
def toPython (approval : ObservableApprovalWire) : Python.ObservableApproval where
  schemaVersion := approval.schemaVersion.toNat
  observableCommitment := approval.observableCommitment.map UInt8.toNat
  approverXonlyPublicKey := approval.approverXonlyPublicKey.map UInt8.toNat
  purpose := approval.purpose.map UInt8.toNat
  recipientScope := approval.recipientScope.map UInt8.toNat
  networkId := approval.networkId.map UInt8.toNat
  notBefore := approval.notBefore.toNat
  expiresAt := approval.expiresAt.toNat
  approvalNonce := approval.approvalNonce.map UInt8.toNat
  signature := approval.signature.map UInt8.toNat

/-- The approval in Rust's types. -/
def ofPython (approval : Python.ObservableApproval) : ObservableApprovalWire where
  schemaVersion := UInt16.ofNat approval.schemaVersion.toNat
  observableCommitment := encodeAscii approval.observableCommitment
  approverXonlyPublicKey := encodeAscii approval.approverXonlyPublicKey
  purpose := encodeAscii approval.purpose
  recipientScope := encodeAscii approval.recipientScope
  networkId := encodeAscii approval.networkId
  notBefore := UInt64.ofNat approval.notBefore.toNat
  expiresAt := UInt64.ofNat approval.expiresAt.toNat
  approvalNonce := encodeAscii approval.approvalNonce
  signature := encodeAscii approval.signature

theorem ofPython_toPython (approval : ObservableApprovalWire) :
    ofPython approval.toPython = approval := by
  simp [ofPython, toPython, encodeAscii_toNat]

theorem toPython_ofPython {approval : Python.ObservableApproval} (shaped : approval.Shaped) :
    (ofPython approval).toPython = approval := by
  obtain ⟨version, early, late⟩ := shaped.small
  have one := shaped.schemaVersion
  have purpose : IsAscii approval.purpose :=
    shaped.purpose ▸ Python.ObservableApproval.keys_facts.2.2.2.1
  have signature := Python.ObservableApproval.isAscii_of_digits
    (Python.ObservableApproval.isLowerHexOf_iff.mp shaped.signature).2
  unfold toPython ofPython
  simp only [toNat_ofNat_16 version.1 (by omega), toNat_ofNat_64 early, toNat_ofNat_64 late,
    map_toNat_encodeAscii (isAscii_of_isHash shaped.observableCommitment).small,
    map_toNat_encodeAscii (isAscii_of_isHash shaped.approverXonlyPublicKey).small,
    map_toNat_encodeAscii (isAscii_of_isHash shaped.recipientScope).small,
    map_toNat_encodeAscii (isAscii_of_isHash shaped.approvalNonce).small,
    map_toNat_encodeAscii purpose.small, map_toNat_encodeAscii signature.small,
    map_toNat_encodeAscii shaped.networkId.isAscii.small]

/-- Both languages write the same bytes. -/
theorem toVec_eq (approval : ObservableApprovalWire) :
    approval.toVec = dump approval.toPython.payload := by
  rw [← serdeStruct_dump, toVec]
  simp only [signingFields, serdeNat_eq, serdeString_eq]
  rfl

theorem signingBody_eq (approval : ObservableApprovalWire) :
    approval.signingBody = dump approval.toPython.signingPayload := by
  rw [← serdeStruct_dump, signingBody]
  simp only [signingFields, serdeNat_eq, serdeString_eq]
  rfl

/-- `serde_json` reads back the approvals that it wrote. -/
def ReadsBack (fromSlice : Bytes → Option ObservableApprovalWire) : Prop :=
  Canonical.ReadsBack fromSlice (fun approval => approval.toPython.Shaped) toVec

theorem purpose_iff (approval : ObservableApprovalWire) :
    approval.purpose = approvalPurpose ↔ approval.toPython.purpose = Python.approvalPurpose := by
  constructor
  · intro same
    exact congrArg (List.map UInt8.toNat) same
  · intro same
    rw [← encodeAscii_toNat approval.purpose]
    exact (congrArg encodeAscii same).trans (encodeAscii_toNat approvalPurpose)

theorem isLowerHexOf_eq (value : Bytes) (n : Nat) :
    isLowerHexOf value n = Python.isLowerHexOf (value.map UInt8.toNat) n := by
  rw [isLowerHexOf, Python.isLowerHexOf, toNat_all isLowerHex, List.length_map]

/-- The window of an approval. -/
theorem window_iff (approval : ObservableApprovalWire) :
    (¬ approval.expiresAt < approval.notBefore ∧ ¬ approval.notBefore = 0 ∧
      ¬ approval.expiresAt.toNat - approval.notBefore.toNat = 0 ∧
      ¬ maxApprovalLifetimeSeconds < approval.expiresAt.toNat - approval.notBefore.toNat) ↔
    1 ≤ approval.toPython.notBefore ∧ approval.toPython.notBefore < approval.toPython.expiresAt ∧
      approval.toPython.expiresAt - approval.toPython.notBefore ≤ maxApprovalLifetimeSeconds := by
  have zero : approval.notBefore = 0 ↔ (approval.notBefore.toNat : Int) = 0 := toNat_eq_64
  rw [UInt64.lt_iff_toNat_lt, zero]
  show _ ↔ (1 : Int) ≤ approval.notBefore.toNat ∧
    (approval.notBefore.toNat : Int) < approval.expiresAt.toNat ∧
      (approval.expiresAt.toNat : Int) - approval.notBefore.toNat ≤ maxApprovalLifetimeSeconds
  omega

theorem validateApprovalShape_iff {fromSlice : Bytes → Option ObservableApprovalWire}
    (readsBack : ReadsBack fromSlice) {wire : Bytes} {shape : ObservableApprovalWire} :
    validateApprovalShape fromSlice wire = some shape ↔
      shape.toPython.Shaped ∧ shape.toVec = wire := by
  simp only [validateApprovalShape, Option.bind_eq_bind, Option.bind_eq_some_iff,
    Option.ite_none_left_eq_some, not_or, not_not, ne_eq, Option.some.injEq,
    validateNetworkId_iff]
  constructor
  · intro h
    obtain ⟨-, shape', -, same, ⟨version, purpose⟩, network, ordered, ⟨positive, lasting, short⟩,
      ⟨commitment, approver, recipient, nonce, signature⟩, rfl⟩ := h
    obtain ⟨early, lifetime⟩ := (window_iff shape').mp ⟨ordered, positive, lasting, short⟩
    have late : shape'.toPython.expiresAt ≤ u64Max := by
      have small := shape'.expiresAt.toNat_lt
      show (shape'.expiresAt.toNat : Int) ≤ 2 ^ 64 - 1
      omega
    rw [isLowerHexOf_eq] at commitment approver recipient nonce signature
    exact ⟨⟨toNat_eq_16.mp version, (purpose_iff shape').mp purpose, network, early, lifetime, late,
      commitment, approver, recipient, nonce, signature⟩, same⟩
  · intro h
    obtain ⟨shaped, rfl⟩ := h
    obtain ⟨ordered, positive, lasting, short⟩ :=
      (window_iff shape).mpr ⟨shaped.notBefore, shaped.lifetime⟩
    have bounded := shaped.bounded
    rw [← toVec_eq] at bounded
    have nonempty : shape.toVec ≠ [] := by
      rw [toVec_eq]
      exact dump_ne_nil _
    refine ⟨⟨nonempty, by omega⟩, shape, readsBack shape shaped, rfl,
      ⟨toNat_eq_16.mpr shaped.schemaVersion, (purpose_iff shape).mpr shaped.purpose⟩,
      shaped.networkId, ordered, ⟨positive, lasting, short⟩, ?_, rfl⟩
    simp only [isLowerHexOf_eq]
    exact ⟨shaped.observableCommitment, shaped.approverXonlyPublicKey, shaped.recipientScope,
      shaped.approvalNonce, shaped.signature⟩

end Rust.ObservableApprovalWire

/-- What Rust exposes of a verified approval. -/
def Rust.verifiedApproval (sha256 : Bytes → Bytes) (approval : Rust.ObservableApprovalWire) :
    Rust.VerifiedObservableApproval where
  approvalId := sha256 (digestFrame approvalIdDomain approval.toVec)
  observableCommitment := fromHex approval.toPython.observableCommitment
  approverXonlyPublicKey := fromHex approval.toPython.approverXonlyPublicKey
  recipientScope := fromHex approval.toPython.recipientScope
  approvalNonce := fromHex approval.toPython.approvalNonce
  networkId := approval.networkId
  notBefore := approval.notBefore
  expiresAt := approval.expiresAt

theorem decodeFixedHex_rust {value : Bytes} {n : Nat} {decoded : Bytes} :
    Rust.decodeFixedHex n value = some decoded ↔
      Python.isLowerHexOf (value.map UInt8.toNat) (n * 2) = true ∧
        fromHex (value.map UInt8.toNat) = decoded := by
  rw [Rust.decodeFixedHex, Option.ite_none_left_eq_some, not_or, not_not, not_not,
    ← Rust.ObservableApprovalWire.isLowerHexOf_eq, Rust.isLowerHexOf, Bool.and_eq_true,
    decide_eq_true_eq, Option.some.injEq]

/-- The window of an approval and the time of its verification. -/
theorem validateTimeWindow_iff (approval : Rust.ObservableApprovalWire) (currentTime : UInt64) :
    Rust.validateTimeWindow approval.notBefore approval.expiresAt currentTime = true ↔
      (1 ≤ approval.toPython.notBefore ∧
        approval.toPython.notBefore < approval.toPython.expiresAt ∧
        approval.toPython.expiresAt - approval.toPython.notBefore ≤ maxApprovalLifetimeSeconds) ∧
      approval.toPython.notBefore ≤ currentTime.toNat ∧
        (currentTime.toNat : Int) ≤ approval.toPython.expiresAt := by
  rw [← approval.window_iff]
  show _ ↔ _ ∧ ((approval.notBefore.toNat : Int) ≤ currentTime.toNat ∧
    (currentTime.toNat : Int) ≤ approval.expiresAt.toNat)
  rw [Rust.validateTimeWindow]
  by_cases ordered : approval.expiresAt < approval.notBefore
  · simp only [ordered, if_true, Bool.false_eq_true, not_true_eq_false, false_and]
  · simp only [ordered, if_false, Bool.not_eq_true', Bool.or_eq_false_iff, decide_eq_false_iff_not,
      not_false_eq_true, true_and, and_assoc, UInt64.not_lt, UInt64.le_iff_toNat_le, Int.ofNat_le]

section

variable (sha256 : Bytes → Bytes) (verifySchnorr : Bytes → Bytes → Bytes → Bool)
  (reportNonce approverXonlyPublicKey recipientScope : FixedHash) (networkId : Str)
  (approvalWire bundleWire : Bytes)
  {fromSlice : Bytes → Option Rust.ObservableApprovalWire}
  {bundleFromSlice : Bytes → Option Rust.ObservableBundle}
  (readsBack : Rust.ObservableApprovalWire.ReadsBack fromSlice)
  (readsBundle : Rust.ObservableBundle.ReadsBack bundleFromSlice)
  {networkBytes : Bytes} (sameNetwork : encodeUtf8 networkId = some networkBytes)

include readsBack readsBundle sameNetwork

omit readsBack in
/-- The commitment that Rust requires of a bundle under review. -/
theorem reviewRequiredCommitment_iff (currentTime : UInt64) {digest : Bytes} :
    Rust.reviewRequiredCommitment sha256 bundleFromSlice bundleWire
        { reportNonce, approverXonlyPublicKey, recipientScope, networkId := networkBytes
          currentTime } = some digest ↔
      IsReviewBundle bundleWire ∧ IsNetworkId networkId ∧
        digest = sha256 (commitmentPreimage networkId (hex reportNonce.val) bundleWire) := by
  rw [← commitment_rust_iff (isHash_hex reportNonce.property) readsBundle sameNetwork,
    Rust.reviewRequiredCommitment]
  simp only [Option.bind_eq_bind, Option.bind_eq_some_iff, Option.ite_none_left_eq_some, not_not,
    ne_eq, toOption_eq_some]

/-- Rust verifies the canonical bytes of the approvals that authorise the bundle. -/
theorem verify_rust_iff (currentTime : UInt64) (verified : Rust.VerifiedObservableApproval) :
    (Rust.ObservableApprovalContext.new reportNonce approverXonlyPublicKey recipientScope
        networkBytes currentTime).bind (Rust.verifyObservableApproval sha256 verifySchnorr fromSlice
          bundleFromSlice approvalWire bundleWire) = some verified ↔
      ∃ approval : Rust.ObservableApprovalWire, approval.toPython.Shaped ∧
        approval.toVec = approvalWire ∧
        Authorises sha256 verifySchnorr reportNonce approverXonlyPublicKey recipientScope networkId
          currentTime.toNat bundleWire approval.toPython ∧
        verified = Rust.verifiedApproval sha256 approval := by
  simp only [Option.bind_eq_some_iff, Rust.ObservableApprovalContext.new,
    Option.ite_none_left_eq_some, not_not, Option.some.injEq, Rust.validateNetworkId_iff]
  simp only [Rust.verifyObservableApproval, Option.ite_none_left_eq_some, Option.bind_eq_bind,
    Option.bind_eq_some_iff, not_not, not_or, ne_eq, Option.some.injEq, validateTimeWindow_iff,
    decodeFixedHex_rust]
  constructor
  · intro h
    obtain ⟨_, ⟨isNetwork, -, rfl⟩, -, approval, -, isWire, ⟨version, purpose, network⟩,
      ⟨window, now⟩, _, ⟨commitment, rfl⟩, _, ⟨approver, rfl⟩, _, ⟨recipient, rfl⟩,
      _, ⟨nonce, rfl⟩, _, ⟨signature, rfl⟩, ⟨sameApprover, sameRecipient⟩, digest, isDigest, same,
      isSigned, rfl⟩ := h
    have sameText := toNat_encodeUtf8 sameNetwork (.inl isNetwork.isAscii)
    have late : approval.toPython.expiresAt ≤ u64Max := by
      have small := approval.expiresAt.toNat_lt
      show (approval.expiresAt.toNat : Int) ≤ 2 ^ 64 - 1
      omega
    have network' : approval.toPython.networkId = networkId := by
      rw [← sameText]
      exact congrArg (List.map UInt8.toNat) network
    have shaped : approval.toPython.Shaped := ⟨toNat_eq_16.mp version,
      approval.purpose_iff.mp purpose, by rwa [network', ← sameText], window.1, window.2, late, commitment, approver, recipient,
      nonce, signature⟩
    obtain ⟨isReview, isNetwork', isCommitment⟩ := (reviewRequiredCommitment_iff sha256 reportNonce
      approverXonlyPublicKey recipientScope networkId bundleWire readsBundle sameNetwork _).mp
      isDigest
    rw [sameApprover, Rust.ObservableApprovalWire.signingBody_eq] at isSigned
    refine ⟨approval, shaped, isWire, ⟨network', isNetwork', now, sameApprover, sameRecipient,
      isReview, same.trans isCommitment, isSigned⟩, ?_⟩
    rw [Rust.verifiedApproval, isWire]
    rfl
  · intro h
    obtain ⟨approval, shaped, isWire, authorised, rfl⟩ := h
    have sameText := toNat_encodeUtf8 sameNetwork (.inr authorised.isNetwork.isAscii)
    have network : approval.networkId = networkBytes :=
      eq_encodeUtf8 sameNetwork shaped.networkId authorised.network
    have clock : ¬ currentTime = 0 := by
      have early := shaped.notBefore
      have now := authorised.window.1
      intro zero
      rw [zero] at now
      exact absurd (early.trans now) (by decide)
    have bounded := shaped.bounded
    rw [← Rust.ObservableApprovalWire.toVec_eq, isWire] at bounded
    have nonempty : approvalWire ≠ [] := by
      rw [← isWire, Rust.ObservableApprovalWire.toVec_eq]
      exact dump_ne_nil _
    have isRead : fromSlice approvalWire = some approval := isWire ▸ readsBack approval shaped
    have isDigest := (reviewRequiredCommitment_iff sha256 reportNonce approverXonlyPublicKey
      recipientScope networkId bundleWire readsBundle sameNetwork currentTime).mpr
      ⟨authorised.bundle, authorised.isNetwork, rfl⟩
    refine ⟨_, ⟨sameText ▸ authorised.isNetwork, clock, rfl⟩, ⟨nonempty, by omega⟩, approval,
      isRead, isWire, ⟨toNat_eq_16.mpr shaped.schemaVersion,
        approval.purpose_iff.mpr shaped.purpose, network⟩,
      ⟨⟨shaped.notBefore, shaped.lifetime⟩, authorised.window⟩,
      _, ⟨shaped.observableCommitment, rfl⟩, _, ⟨shaped.approverXonlyPublicKey, rfl⟩, _,
      ⟨shaped.recipientScope, rfl⟩, _, ⟨shaped.approvalNonce, rfl⟩, _, ⟨shaped.signature, rfl⟩,
      ⟨authorised.approver, authorised.recipient⟩, _, isDigest, authorised.commitment, ?_, ?_⟩
    · rw [Rust.ObservableApprovalWire.signingBody_eq]
      exact (congrArg (verifySchnorr · _ _) authorised.approver).trans authorised.signature
    · rw [Rust.verifiedApproval, isWire]
      rfl

end

/-! ## Agreement -/

/-- The two verified approvals expose the same fields. -/
structure SameVerified (rust : Rust.VerifiedObservableApproval)
    (python : Python.VerifiedObservableApproval) : Prop where
  approvalId : python.approvalId = rust.approvalId
  observableCommitment : python.observableCommitment = rust.observableCommitment
  approverXonlyPublicKey : python.approverXonlyPublicKey = rust.approverXonlyPublicKey
  recipientScope : python.recipientScope = rust.recipientScope
  approvalNonce : python.approvalNonce = rust.approvalNonce
  networkId : encodeUtf8 python.networkId = some rust.networkId
  notBefore : python.notBefore = rust.notBefore.toNat
  expiresAt : python.expiresAt = rust.expiresAt.toNat

theorem sameVerified (sha256 : Bytes → Bytes) {approval : Rust.ObservableApprovalWire}
    (shaped : approval.toPython.Shaped) :
    SameVerified (Rust.verifiedApproval sha256 approval)
      (verifiedApproval sha256 approval.toPython) where
  approvalId := by
    rw [Rust.verifiedApproval, Rust.ObservableApprovalWire.toVec_eq]
    rfl
  observableCommitment := rfl
  approverXonlyPublicKey := rfl
  recipientScope := rfl
  approvalNonce := rfl
  networkId := encodeUtf8_toNat shaped.networkId.isAscii
  notBefore := rfl
  expiresAt := rfl

/-- A context that Rust can hold: the lengths of its hashes, and its time. -/
theorem context_of_verified {sha256 : Bytes → Bytes}
    {verifySchnorr : Bytes → Bytes → Bytes → Bool} {floatRepr : Str → Str}
    {approvalWire bundleWire : Bytes} {context : Python.ObservableApprovalContext}
    {verified : Python.VerifiedObservableApproval}
    (h : Python.verifyObservableApproval sha256 verifySchnorr floatRepr approvalWire bundleWire
      context = some verified) :
    context.reportNonce.length = 32 ∧ context.approverXonlyPublicKey.length = 32 ∧
      context.recipientScope.length = 32 ∧ IsNetworkId context.networkId ∧
      ∃ currentTime : UInt64, context.currentTime = currentTime.toNat := by
  rw [Python.verifyObservableApproval, Option.ite_none_left_eq_some, not_not] at h
  have isValid := h.1
  simp only [Python.ObservableApprovalContext.validate, Bool.and_eq_true, decide_eq_true_eq,
    Python.validateNetworkId_iff] at isValid
  obtain ⟨⟨⟨⟨⟨nonce, approver⟩, recipient⟩, positive⟩, bounded⟩, isNetwork⟩ := isValid
  exact ⟨nonce, approver, recipient, isNetwork, UInt64.ofNat context.currentTime.toNat,
    (toNat_ofNat_64 ⟨by omega, bounded⟩).symm⟩

section

variable (sha256 : Bytes → Bytes) (verifySchnorr : Bytes → Bytes → Bytes → Bool)
  (reportNonce approverXonlyPublicKey recipientScope : FixedHash) {networkId : Str}
  (approvalWire bundleWire : Bytes)
  {fromSlice : Bytes → Option Rust.ObservableApprovalWire}
  {bundleFromSlice : Bytes → Option Rust.ObservableBundle}
  (readsBack : Rust.ObservableApprovalWire.ReadsBack fromSlice)
  (readsBundle : Rust.ObservableBundle.ReadsBack bundleFromSlice) (floatRepr : Str → Str)
  {networkBytes : Bytes} (sameNetwork : encodeUtf8 networkId = some networkBytes)

include readsBack readsBundle sameNetwork

/-- On every approval, bundle and context the two verifiers both refuse, or both verify with the
same identifier and fields; and then the approval is one of the trusted approver for the recipient,
the network, the time and these bytes of the bundle, under its signature. A context that Rust
cannot hold is refused. -/
theorem observable_approval_agree (currentTime : UInt64) :
    (((Rust.ObservableApprovalContext.new reportNonce approverXonlyPublicKey recipientScope
          networkBytes currentTime).bind (Rust.verifyObservableApproval sha256 verifySchnorr
            fromSlice bundleFromSlice approvalWire bundleWire) = none ∧
        Python.verifyObservableApproval sha256 verifySchnorr floatRepr approvalWire bundleWire
          ⟨reportNonce.val, approverXonlyPublicKey.val, recipientScope.val, networkId,
            currentTime.toNat⟩ = none) ∨
      ∃ approval rust python,
        (Rust.ObservableApprovalContext.new reportNonce approverXonlyPublicKey recipientScope
          networkBytes currentTime).bind (Rust.verifyObservableApproval sha256 verifySchnorr
            fromSlice bundleFromSlice approvalWire bundleWire) = some rust ∧
        Python.verifyObservableApproval sha256 verifySchnorr floatRepr approvalWire bundleWire
          ⟨reportNonce.val, approverXonlyPublicKey.val, recipientScope.val, networkId,
            currentTime.toNat⟩ = some python ∧
        SameVerified rust python ∧ python = verifiedApproval sha256 approval ∧
        approval.Shaped ∧ dump approval.payload = approvalWire ∧
        Authorises sha256 verifySchnorr reportNonce approverXonlyPublicKey recipientScope networkId
          currentTime.toNat bundleWire approval) ∧
    ∀ (context : Python.ObservableApprovalContext) (verified : Python.VerifiedObservableApproval),
      Python.verifyObservableApproval sha256 verifySchnorr floatRepr approvalWire bundleWire
        context = some verified →
      context.reportNonce.length = 32 ∧ context.approverXonlyPublicKey.length = 32 ∧
        context.recipientScope.length = 32 ∧ IsNetworkId context.networkId ∧
        ∃ currentTime : UInt64, context.currentTime = currentTime.toNat := by
  refine ⟨?_, fun context verified h => context_of_verified h⟩
  have rustIff := verify_rust_iff sha256 verifySchnorr reportNonce approverXonlyPublicKey
    recipientScope networkId approvalWire bundleWire readsBack readsBundle sameNetwork currentTime
  have pythonIff := verify_python_iff sha256 verifySchnorr reportNonce approverXonlyPublicKey
    recipientScope networkId approvalWire bundleWire floatRepr currentTime.toNat
  by_cases authorised : ∃ approval : Python.ObservableApproval, approval.Shaped ∧
      dump approval.payload = approvalWire ∧ Authorises sha256 verifySchnorr reportNonce
        approverXonlyPublicKey recipientScope networkId currentTime.toNat bundleWire approval
  · obtain ⟨approval, shaped, isWire, authorises⟩ := authorised
    have same := Rust.ObservableApprovalWire.toPython_ofPython shaped
    rw [← same] at shaped isWire authorises
    refine .inr ⟨_, _, _, (rustIff _).mpr ⟨_, shaped, ?_, authorises, rfl⟩,
      (pythonIff _).mpr ⟨_, shaped, isWire, authorises, rfl⟩, sameVerified sha256 shaped, rfl,
      shaped, isWire, authorises⟩
    rw [Rust.ObservableApprovalWire.toVec_eq, isWire]
  · refine .inl ⟨Option.eq_none_iff_forall_ne_some.mpr fun verified accepted => ?_,
      Option.eq_none_iff_forall_ne_some.mpr fun verified accepted => ?_⟩
    · obtain ⟨approval, shaped, isWire, authorises, -⟩ := (rustIff verified).mp accepted
      rw [Rust.ObservableApprovalWire.toVec_eq] at isWire
      exact authorised ⟨_, shaped, isWire, authorises⟩
    · obtain ⟨approval, shaped, isWire, authorises, -⟩ := (pythonIff verified).mp accepted
      exact authorised ⟨_, shaped, isWire, authorises⟩

end

/-- A reader of the wire struct of an approval. -/
def observableApprovalReader (wire : Bytes) : Option Rust.ObservableApprovalWire :=
  ((Python.readObject id wire).bind Python.ObservableApproval.typed).map
    Rust.ObservableApprovalWire.ofPython

theorem observableApprovalReader_readsBack :
    Rust.ObservableApprovalWire.ReadsBack observableApprovalReader := by
  intro approval shaped
  have unique : ((approval.toPython.payload.map Prod.fst).map str).Nodup :=
    Python.ObservableApproval.keys_facts.1.distinct
  have isTyped : Python.ObservableApproval.typed
      (approval.toPython.payload.map fun f => (str f.1, f.2)) = some approval.toPython :=
    Python.ObservableApproval.typed_some.mpr fun f hf => field_document unique hf
  rw [observableApprovalReader, Rust.ObservableApprovalWire.toVec_eq,
    readObject_document id shaped.readable, Option.bind_some, isTyped, Option.map_some,
    Rust.ObservableApprovalWire.ofPython_toPython]

/-- The approval of the source's test vectors. -/
def baseApproval : Rust.ObservableApprovalWire where
  schemaVersion := 1
  observableCommitment := ascii "5c3f704812157ab75b487150a0f74fc831e83b76bdcf03131e4f7cb4f7468ba4"
  approverXonlyPublicKey :=
    ascii "867cd64d112225642c1722091f7f3f11acda9469b07a40395311cc3884760a8d"
  purpose := Rust.approvalPurpose
  recipientScope := ascii "01c6c04237dd61590836bef2a27c01ef9584b857651d0017cc009c8860f6a9c2"
  networkId := ascii "testnet-10"
  notBefore := 1800000000
  expiresAt := 1800000600
  approvalNonce := ascii "5eb463ddfccd7e70f7b7c5b208f8b92c482f63b9f57b55f559988f436b9ffdf0"
  signature := ascii "cea1173743730b20d5f436514ddead74ba850f9a7391f2e6297dfc07366a2d96" ++
    ascii "9a9ac39ab6d4b444e2fbdbc1e5032f429d3404f2aba6e24d211bd2bf4e767bd2"

/-- The bundle of the source's test vectors. -/
def approvedBundle : Rust.ObservableBundle where
  schemaVersion := 1
  disclosurePolicy := .reviewRequiredV1
  scope := { platform := .linux, format := .elf }
  observables := [{ kind := .apiImport, value := ascii "mmap" }]

/-- The nonce, the key and the recipient of the source's test vectors. -/
def baseNonce : FixedHash :=
  ⟨fromHex (str "a4805ae9672576df4c3f2f60b9d99ab138206a09dacd82211cfe012e2b17dc22"),
    by decide⟩

def baseApprover : FixedHash :=
  ⟨fromHex baseApproval.toPython.approverXonlyPublicKey, by decide⟩

def baseRecipient : FixedHash := ⟨fromHex baseApproval.toPython.recipientScope, by decide⟩

/-- The only signature of the source's test vectors. -/
def baseSignature (key digest signature : Bytes) : Bool :=
  decide (key = fromHex baseApproval.toPython.approverXonlyPublicKey ∧
    digest = fromHex (str "9f6f0032050e0c0922b331c80f865e52894a80dfc068eaca3e1f944ae240340e") ∧
    signature = fromHex baseApproval.toPython.signature)

theorem baseApproval_shaped : baseApproval.toPython.Shaped := by
  have isNetworkId : IsNetworkId (str "testnet-10") :=
    Python.validateNetworkId_iff.mp (by decide)
  refine ⟨rfl, rfl, isNetworkId, ?_, ?_, ?_, ?_, ?_, ?_, ?_, ?_⟩ <;> decide +kernel

theorem approvedBundle_accepts : approvedBundle.toPython.Accepts := by
  have isValid : approvedBundle.validate.toOption = some () := by decide
  have bounded : approvedBundle.toVec.length ≤ maxCanonicalObservableBundleBytes := by
    decide +kernel
  rw [Rust.ObservableBundle.toVec_eq] at bounded
  exact ⟨Rust.ObservableBundle.validate_iff.mp (toOption_eq_some.mp isValid), bounded⟩

theorem observable_approval_agree_base :
    ∃ rust python,
      (Rust.ObservableApprovalContext.new baseNonce baseApprover baseRecipient (ascii "testnet-10")
        1800000300).bind (Rust.verifyObservableApproval sha256 baseSignature
          observableApprovalReader observableBundleReader baseApproval.toVec
          approvedBundle.toVec) = some rust ∧
      Python.verifyObservableApproval sha256 baseSignature id baseApproval.toVec
        approvedBundle.toVec ⟨baseNonce.val, baseApprover.val, baseRecipient.val, str "testnet-10",
          1800000300⟩ = some python ∧
      SameVerified rust python := by
  have isNetwork : encodeUtf8 (str "testnet-10") = some (ascii "testnet-10") := by decide
  have shaped := baseApproval_shaped
  have isBundle : IsReviewBundle approvedBundle.toVec := ⟨approvedBundle.toPython,
    approvedBundle_accepts, (Rust.ObservableBundle.toVec_eq _).symm, rfl⟩
  have authorises : Authorises sha256 baseSignature baseNonce baseApprover baseRecipient
      (str "testnet-10") (1800000300 : UInt64).toNat approvedBundle.toVec baseApproval.toPython := by
    refine ⟨rfl, shaped.networkId, ?_, rfl, rfl, isBundle, ?_, ?_⟩ <;> decide +kernel
  obtain ⟨⟨refused, -⟩ | ⟨-, rust, python, isRust, isPython, same, -⟩, -⟩ :=
    observable_approval_agree sha256 baseSignature baseNonce baseApprover baseRecipient
      baseApproval.toVec approvedBundle.toVec observableApprovalReader_readsBack
      observableBundleReader_readsBack id isNetwork 1800000300
  · have accepted := (verify_rust_iff _ _ _ _ _ _ _ _ observableApprovalReader_readsBack
      observableBundleReader_readsBack isNetwork _ _).mpr ⟨_, shaped, rfl, authorises, rfl⟩
    rw [accepted] at refused
    cases refused
  · exact ⟨rust, python, isRust, isPython, same⟩

end Prometheus.ThreatHint
