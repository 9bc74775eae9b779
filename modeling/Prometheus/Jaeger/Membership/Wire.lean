import Prometheus.Jaeger.Membership.Source
import Prometheus.ThreatHint.ObservableAgreement

/-!
# Transitions and rotations on the wire

`_parse_transition` and `_parse_authority_rotation` of `guardian_membership_transition.py`
(`:1002-1241`). A wire is the compact JSON of its fields in their order; the digests that are signed
are over the same fields without the signatures, each under a domain of its own.
-/

namespace Prometheus.Jaeger.Membership

open Prometheus.Codec Prometheus.ThreatHint
open Prometheus.ThreatHint.Python (asInt_some asString_some validateNetworkId)

/-! ## Constants -/

/-- `MEMBERSHIP_TRANSITION_SCHEMA_VERSION`. -/
def membershipTransitionSchemaVersion : Int := 1

/-- `MEMBERSHIP_TRANSITION_PROTOCOL_ID`. -/
def membershipTransitionProtocolId : Str := str "/prometheus/guardian-membership-transition/1.0.0"

/-- `MAX_MEMBERSHIP_TRANSITION_BYTES`. -/
def maxMembershipTransitionBytes : Nat := 2048

/-- `MAX_MEMBERSHIP_TRANSITION_WINDOW_MS`. -/
def maxMembershipTransitionWindowMs : Int := 86400000

/-- `MAX_MEMBERSHIP_TRANSITION_TIME_MS`. -/
def maxMembershipTransitionTimeMs : Int := 2 ^ 63 - 1

/-- `MEMBERSHIP_TRANSITION_DIGEST_DOMAIN`. -/
def membershipTransitionDigestDomain : Bytes :=
  ascii "PROMETHEUS_GUARDIAN_MEMBERSHIP_TRANSITION_V1" ++ [0]

/-- `_TRANSITION_ID_DOMAIN`. -/
def transitionIdDomain : Bytes := ascii "PROMETHEUS_GUARDIAN_MEMBERSHIP_TRANSITION_ID_V1" ++ [0]

/-- `AUTHORITY_ROTATION_SCHEMA_VERSION`. -/
def authorityRotationSchemaVersion : Int := 1

/-- `AUTHORITY_ROTATION_PROTOCOL_ID`. -/
def authorityRotationProtocolId : Str :=
  str "/prometheus/guardian-membership-authority-rotation/1.0.0"

/-- `MAX_AUTHORITY_ROTATION_BYTES`. -/
def maxAuthorityRotationBytes : Nat := 2048

/-- `MAX_AUTHORITY_ROTATION_WINDOW_MS`. -/
def maxAuthorityRotationWindowMs : Int := 86400000

/-- `AUTHORITY_ROTATION_AUTH_DIGEST_DOMAIN`. -/
def authorityRotationAuthDigestDomain : Bytes :=
  ascii "PROMETHEUS_GUARDIAN_AUTHORITY_ROTATION_AUTH_V1" ++ [0]

/-- `AUTHORITY_ROTATION_POSSESSION_DIGEST_DOMAIN`. -/
def authorityRotationPossessionDigestDomain : Bytes :=
  ascii "PROMETHEUS_GUARDIAN_AUTHORITY_ROTATION_POSSESSION_V1" ++ [0]

/-- `_AUTHORITY_ROTATION_ID_DOMAIN`. -/
def authorityRotationIdDomain : Bytes :=
  ascii "PROMETHEUS_GUARDIAN_AUTHORITY_ROTATION_ID_V1" ++ [0]

/-- `_TRANSITION_FIELDS`. -/
def transitionFields : List String :=
  ["schema_version", "protocol_id", "network_id", "previous_epoch",
    "previous_membership_source_sha256", "next_epoch", "next_membership_source_sha256",
    "not_before_ms", "not_after_ms", "nonce", "payload_digest", "signature"]

/-- `_UNSIGNED_TRANSITION_FIELDS`: all but the last two. -/
def unsignedTransitionFields : List String := transitionFields.take 10

/-- `_AUTHORITY_ROTATION_FIELDS`. -/
def authorityRotationFields : List String :=
  ["schema_version", "protocol_id", "network_id", "previous_authority_epoch",
    "previous_authority_xonly_public_key", "next_authority_epoch",
    "next_authority_xonly_public_key", "membership_epoch", "membership_source_sha256",
    "not_before_ms", "not_after_ms", "nonce", "authorization_payload_digest",
    "possession_payload_digest", "authorization_signature", "possession_signature"]

/-- `_AUTHORITY_ROTATION_AUTH_FIELDS`. -/
def authorityRotationAuthFields : List String := authorityRotationFields.take 12

/-- `_AUTHORITY_ROTATION_POSSESSION_FIELDS`. -/
def authorityRotationPossessionFields : List String :=
  ["schema_version", "protocol_id", "network_id", "previous_authority_epoch",
    "next_authority_epoch", "next_authority_xonly_public_key", "membership_epoch",
    "membership_source_sha256", "not_before_ms", "not_after_ms", "nonce"]

/-! ## Reading -/

/-- `GuardianMembershipTransitionError` and `GuardianAuthorityRotationError` with their subclasses,
and the `ValueError` of an integer with too many digits. -/
inductive MembershipError
  | transition
  | transitionReplay
  | transitionBusy
  | rotation
  | rotationReplay
  | rotationBusy
  | value
  deriving DecidableEq, Repr

/-- `_is_time` of an integer. -/
def isTime (value : Int) : Bool :=
  decide (1 ≤ value) && decide (value ≤ maxMembershipTransitionTimeMs)

/-- `_decode_fixed_hex_32` of a value; `none` where it raises. -/
def decodeFixedHex32 (value : Option Json) : Option Bytes :=
  ((value.bind Json.asString).filter isHash).map fromHex

/-- `_FIXED_HEX_64`. -/
def isHex64 (s : Str) : Bool := decide (s.length = 128) && s.all isLowerHex

/-- `_decode_fixed_hex_64` of a value; `none` where it raises. -/
def decodeFixedHex64 (value : Option Json) : Option Bytes :=
  ((value.bind Json.asString).filter isHex64).map fromHex

/-- The value of a check, or an error. -/
def orInvalid {α : Type} (invalid : MembershipError) (value : Option α) :
    Except MembershipError α :=
  match value with
  | some a => .ok a
  | none => .error invalid

/-- `json.loads(wire.decode("ascii"), object_pairs_hook=_unique_object)` of a bounded wire, which must
be an object with these fields in this order. -/
def readFields (codec : MembershipCodec) (invalid : MembershipError) (limit : Nat)
    (names : List String) (wire : Bytes) : Except MembershipError (List (Str × Json)) :=
  if wire = [] ∨ limit < wire.length then .error invalid
  else
    match decodeAscii wire with
    | none => .error invalid
    | some text =>
      match Json.loadsHooked codec.tooDeep codec.floatRepr text with
      | .error (.load .valueError) => .error .value
      | .error _ => .error invalid
      | .ok (.object data) =>
        if data.map Prod.fst ≠ names.map str then .error invalid else .ok data
      | .ok _ => .error invalid

/-- `{name: data[name] for name in fields}`. -/
def fieldSubset (data : List (Str × Json)) (names : List String) : List (Str × Json) :=
  names.filterMap fun name => (Json.field data (str name)).map fun value => (str name, value)

/-- `_canonical_field_subset`. -/
def canonicalFieldSubset (data : List (Str × Json)) (names : List String) : Bytes :=
  dumpsOrdered (.object (fieldSubset data names))

/-- `_domain_digest`. -/
def domainDigest (codec : MembershipCodec) (domain wire : Bytes) : Bytes :=
  codec.sha256 (digestFrame domain wire)

/-- `_ParsedTransition`. -/
structure ParsedTransition where
  wire : Bytes
  transitionId : Bytes
  networkId : Str
  previousEpoch : Int
  previousSourceDigest : Bytes
  nextEpoch : Int
  nextSourceDigest : Bytes
  notBeforeMs : Int
  notAfterMs : Int
  nonce : Bytes
  payloadDigest : Bytes
  signature : Bytes
  deriving DecidableEq, Repr

/-- `_ParsedAuthorityRotation`. -/
structure ParsedAuthorityRotation where
  wire : Bytes
  rotationId : Bytes
  networkId : Str
  previousAuthorityEpoch : Int
  previousAuthorityKey : Bytes
  nextAuthorityEpoch : Int
  nextAuthorityKey : Bytes
  membershipEpoch : Int
  membershipSourceDigest : Bytes
  notBeforeMs : Int
  notAfterMs : Int
  nonce : Bytes
  authorizationPayloadDigest : Bytes
  possessionPayloadDigest : Bytes
  authorizationSignature : Bytes
  possessionSignature : Bytes
  deriving DecidableEq, Repr

/-- A window of times that is open for at most a given span. -/
def isWindow (maxWindowMs notBeforeMs notAfterMs : Int) : Bool :=
  isTime notBeforeMs && isTime notAfterMs && decide (0 < notAfterMs - notBeforeMs) &&
    decide (notAfterMs - notBeforeMs ≤ maxWindowMs)

/-- `_parse_transition`. -/
def parseTransition (codec : MembershipCodec) (wire : Bytes) :
    Except MembershipError ParsedTransition := do
  let data ← readFields codec .transition maxMembershipTransitionBytes transitionFields wire
  let check {α : Type} (value : Option α) : Except MembershipError α := orInvalid .transition value
  let _ ← check ((Json.intAt data "schema_version").filter
    fun v => v = membershipTransitionSchemaVersion)
  let _ ← check ((Json.textAt data "protocol_id").filter
    fun v => v = membershipTransitionProtocolId)
  let networkId ← check ((Json.textAt data "network_id").filter validateNetworkId)
  let previousEpoch ← check ((Json.intAt data "previous_epoch").filter isEpoch)
  let nextEpoch ← check ((Json.intAt data "next_epoch").filter isEpoch)
  let notBeforeMs ← check (Json.intAt data "not_before_ms")
  let notAfterMs ← check (Json.intAt data "not_after_ms")
  if nextEpoch ≤ previousEpoch ∨
      ¬ isWindow maxMembershipTransitionWindowMs notBeforeMs notAfterMs then .error .transition
  else do
    let previousSourceDigest ← check (decodeFixedHex32
      (Json.field data (str "previous_membership_source_sha256")))
    let nextSourceDigest ← check (decodeFixedHex32
      (Json.field data (str "next_membership_source_sha256")))
    let nonce ← check (decodeFixedHex32 (Json.field data (str "nonce")))
    let payloadDigest ← check (decodeFixedHex32 (Json.field data (str "payload_digest")))
    let signature ← check (decodeFixedHex64 (Json.field data (str "signature")))
    if dumpsOrdered (.object data) ≠ wire then .error .transition
    else if payloadDigest ≠ domainDigest codec membershipTransitionDigestDomain
        (canonicalFieldSubset data unsignedTransitionFields) then .error .transition
    else
      .ok { wire, transitionId := domainDigest codec transitionIdDomain wire, networkId,
            previousEpoch, previousSourceDigest, nextEpoch, nextSourceDigest, notBeforeMs,
            notAfterMs, nonce, payloadDigest, signature }

/-- `_parse_authority_rotation`. -/
def parseAuthorityRotation (codec : MembershipCodec) (wire : Bytes) :
    Except MembershipError ParsedAuthorityRotation := do
  let data ← readFields codec .rotation maxAuthorityRotationBytes authorityRotationFields wire
  let check {α : Type} (value : Option α) : Except MembershipError α := orInvalid .rotation value
  let _ ← check ((Json.intAt data "schema_version").filter
    fun v => v = authorityRotationSchemaVersion)
  let _ ← check ((Json.textAt data "protocol_id").filter fun v => v = authorityRotationProtocolId)
  let networkId ← check ((Json.textAt data "network_id").filter validateNetworkId)
  let previousAuthorityEpoch ← check ((Json.intAt data "previous_authority_epoch").filter isEpoch)
  let nextAuthorityEpoch ← check ((Json.intAt data "next_authority_epoch").filter isEpoch)
  let membershipEpoch ← check ((Json.intAt data "membership_epoch").filter isEpoch)
  let notBeforeMs ← check (Json.intAt data "not_before_ms")
  let notAfterMs ← check (Json.intAt data "not_after_ms")
  if nextAuthorityEpoch ≠ previousAuthorityEpoch + 1 ∨
      ¬ isWindow maxAuthorityRotationWindowMs notBeforeMs notAfterMs then .error .rotation
  else do
    let previousAuthorityKey ← check (decodeFixedHex32
      (Json.field data (str "previous_authority_xonly_public_key")))
    let nextAuthorityKey ← check (decodeFixedHex32
      (Json.field data (str "next_authority_xonly_public_key")))
    let membershipSourceDigest ← check (decodeFixedHex32
      (Json.field data (str "membership_source_sha256")))
    let nonce ← check (decodeFixedHex32 (Json.field data (str "nonce")))
    let authorizationPayloadDigest ← check (decodeFixedHex32
      (Json.field data (str "authorization_payload_digest")))
    let possessionPayloadDigest ← check (decodeFixedHex32
      (Json.field data (str "possession_payload_digest")))
    let authorizationSignature ← check (decodeFixedHex64
      (Json.field data (str "authorization_signature")))
    let possessionSignature ← check (decodeFixedHex64
      (Json.field data (str "possession_signature")))
    if ¬ codec.isPublicKey previousAuthorityKey ∨ ¬ codec.isPublicKey nextAuthorityKey ∨
        previousAuthorityKey = nextAuthorityKey then .error .rotation
    else if dumpsOrdered (.object data) ≠ wire then .error .rotation
    else if authorizationPayloadDigest ≠ domainDigest codec authorityRotationAuthDigestDomain
          (canonicalFieldSubset data authorityRotationAuthFields) ∨
        possessionPayloadDigest ≠ domainDigest codec authorityRotationPossessionDigestDomain
          (canonicalFieldSubset data authorityRotationPossessionFields) then .error .rotation
    else
      .ok { wire, rotationId := domainDigest codec authorityRotationIdDomain wire, networkId,
            previousAuthorityEpoch, previousAuthorityKey, nextAuthorityEpoch, nextAuthorityKey,
            membershipEpoch, membershipSourceDigest, notBeforeMs, notAfterMs, nonce,
            authorizationPayloadDigest, possessionPayloadDigest, authorizationSignature,
            possessionSignature }

/-! ## What an accepted wire says -/

/-- The fields a transition's signature is over. -/
def ParsedTransition.unsigned (transition : ParsedTransition) : List (Str × Json) :=
  [(str "schema_version", .int membershipTransitionSchemaVersion),
    (str "protocol_id", .string membershipTransitionProtocolId),
    (str "network_id", .string transition.networkId),
    (str "previous_epoch", .int transition.previousEpoch),
    (str "previous_membership_source_sha256", .string (hex transition.previousSourceDigest)),
    (str "next_epoch", .int transition.nextEpoch),
    (str "next_membership_source_sha256", .string (hex transition.nextSourceDigest)),
    (str "not_before_ms", .int transition.notBeforeMs),
    (str "not_after_ms", .int transition.notAfterMs),
    (str "nonce", .string (hex transition.nonce))]

/-- The fields the outgoing authority signs. -/
def ParsedAuthorityRotation.authorization (rotation : ParsedAuthorityRotation) :
    List (Str × Json) :=
  [(str "schema_version", .int authorityRotationSchemaVersion),
    (str "protocol_id", .string authorityRotationProtocolId),
    (str "network_id", .string rotation.networkId),
    (str "previous_authority_epoch", .int rotation.previousAuthorityEpoch),
    (str "previous_authority_xonly_public_key", .string (hex rotation.previousAuthorityKey)),
    (str "next_authority_epoch", .int rotation.nextAuthorityEpoch),
    (str "next_authority_xonly_public_key", .string (hex rotation.nextAuthorityKey)),
    (str "membership_epoch", .int rotation.membershipEpoch),
    (str "membership_source_sha256", .string (hex rotation.membershipSourceDigest)),
    (str "not_before_ms", .int rotation.notBeforeMs),
    (str "not_after_ms", .int rotation.notAfterMs),
    (str "nonce", .string (hex rotation.nonce))]

/-- The fields the incoming authority signs. -/
def ParsedAuthorityRotation.possession (rotation : ParsedAuthorityRotation) : List (Str × Json) :=
  [(str "schema_version", .int authorityRotationSchemaVersion),
    (str "protocol_id", .string authorityRotationProtocolId),
    (str "network_id", .string rotation.networkId),
    (str "previous_authority_epoch", .int rotation.previousAuthorityEpoch),
    (str "next_authority_epoch", .int rotation.nextAuthorityEpoch),
    (str "next_authority_xonly_public_key", .string (hex rotation.nextAuthorityKey)),
    (str "membership_epoch", .int rotation.membershipEpoch),
    (str "membership_source_sha256", .string (hex rotation.membershipSourceDigest)),
    (str "not_before_ms", .int rotation.notBeforeMs),
    (str "not_after_ms", .int rotation.notAfterMs),
    (str "nonce", .string (hex rotation.nonce))]

variable {codec : MembershipCodec} {wire : Bytes}

theorem orInvalid_ok {α : Type} {invalid : MembershipError} {value : Option α} {a : α} :
    orInvalid invalid value = .ok a ↔ value = some a := by
  cases value with
  | none => exact iff_of_false nofun nofun
  | some b => rw [orInvalid, Except.ok.injEq, Option.some.injEq]

theorem intAt_some {data : List (Str × Json)} {key : String} {n : Int} :
    Json.intAt data key = some n ↔ Json.field data (str key) = some (.int n) := asInt_some

theorem textAt_some {data : List (Str × Json)} {key : String} {s : Str} :
    Json.textAt data key = some s ↔ Json.field data (str key) = some (.string s) := asString_some

/-- A text of `2 * n` hex digits is what the decoded bytes are written as. -/
theorem decodeFixed_some {isFixed : Str → Bool} {n : Nat}
    (fixed : ∀ s, isFixed s = true ↔ s.length = 2 * n ∧ ∀ c ∈ s, isLowerHex c = true)
    {value : Option Json} {b : Bytes} :
    ((value.bind Json.asString).filter isFixed).map fromHex = some b ↔
      value = some (.string (hex b)) ∧ b.length = n := by
  simp only [Option.map_eq_some_iff, Option.filter_eq_some_iff, asString_some, fixed]
  constructor
  · rintro ⟨s, ⟨isString, long, digits⟩, same⟩
    subst same
    rw [hex_fromHex s (by omega) digits, length_fromHex]
    exact ⟨isString, by omega⟩
  · rintro ⟨isString, long⟩
    refine ⟨hex b, ⟨isString, by rw [length_hex, long], ?_⟩, fromHex_hex b⟩
    intro c isDigit
    exact isLowerHex_of_mem_hex isDigit

theorem decodeFixedHex32_some {value : Option Json} {b : Bytes} :
    decodeFixedHex32 value = some b ↔ value = some (.string (hex b)) ∧ b.length = 32 :=
  decodeFixed_some fun _ => isHash_iff

theorem decodeFixedHex64_some {value : Option Json} {b : Bytes} :
    decodeFixedHex64 value = some b ↔ value = some (.string (hex b)) ∧ b.length = 64 :=
  decodeFixed_some fun s => by
    rw [isHex64, Bool.and_eq_true, decide_eq_true_eq, List.all_eq_true]

/-- What the ledger relies on in an accepted transition. -/
structure ParsedTransition.IsValid (codec : MembershipCodec) (transition : ParsedTransition) :
    Prop where
  previousEpoch : isEpoch transition.previousEpoch = true
  nextEpoch : isEpoch transition.nextEpoch = true
  advances : transition.previousEpoch < transition.nextEpoch
  nextSourceDigest : transition.nextSourceDigest.length = 32
  payloadDigest : transition.payloadDigest =
    domainDigest codec membershipTransitionDigestDomain (dumpsOrdered (.object transition.unsigned))

/-- What the ledger relies on in an accepted rotation. -/
structure ParsedAuthorityRotation.IsValid (codec : MembershipCodec)
    (rotation : ParsedAuthorityRotation) : Prop where
  nextAuthorityEpoch : isEpoch rotation.nextAuthorityEpoch = true
  advances : rotation.nextAuthorityEpoch = rotation.previousAuthorityEpoch + 1
  nextAuthorityKey : rotation.nextAuthorityKey.length = 32
  differs : rotation.previousAuthorityKey ≠ rotation.nextAuthorityKey
  authorizationPayloadDigest : rotation.authorizationPayloadDigest =
    domainDigest codec authorityRotationAuthDigestDomain
      (dumpsOrdered (.object rotation.authorization))
  possessionPayloadDigest : rotation.possessionPayloadDigest =
    domainDigest codec authorityRotationPossessionDigestDomain
      (dumpsOrdered (.object rotation.possession))

theorem parseTransition_valid {transition : ParsedTransition}
    (h : parseTransition codec wire = .ok transition) : transition.IsValid codec := by
  simp only [parseTransition, ite_error_eq_ok, bind_eq_ok, orInvalid_ok, Option.filter_eq_some_iff,
    decodeFixedHex32_some, decodeFixedHex64_some, intAt_some, textAt_some, decide_eq_true_eq,
    not_or, not_not, not_le] at h
  obtain ⟨data, -, _, ⟨version, rfl⟩, _, ⟨protocol, rfl⟩, networkId, ⟨network, -⟩, previousEpoch,
    ⟨previous, isPrevious⟩, nextEpoch, ⟨next, isNext⟩, notBeforeMs, notBefore, notAfterMs, notAfter,
    ⟨advances, -⟩, previousDigest, ⟨isPreviousDigest, -⟩, nextDigest, ⟨isNextDigest, nextLength⟩,
    nonce, ⟨isNonce, -⟩, payloadDigest, -, signature, -, -, digest, isTransition⟩ := h
  obtain rfl := Except.ok.inj isTransition
  refine ⟨isPrevious, isNext, advances, nextLength, ?_⟩
  have unsigned : fieldSubset data unsignedTransitionFields = ParsedTransition.unsigned
      ⟨wire, domainDigest codec transitionIdDomain wire, networkId, previousEpoch, previousDigest,
        nextEpoch, nextDigest, notBeforeMs, notAfterMs, nonce, payloadDigest, signature⟩ := by
    simp only [fieldSubset, unsignedTransitionFields, transitionFields, List.take, version, protocol,
      network, previous, isPreviousDigest, next, isNextDigest, notBefore, notAfter, isNonce,
      List.filterMap_cons, List.filterMap_nil, Option.map_some, ParsedTransition.unsigned]
  rw [canonicalFieldSubset, unsigned] at digest
  exact digest

theorem parseAuthorityRotation_valid {rotation : ParsedAuthorityRotation}
    (h : parseAuthorityRotation codec wire = .ok rotation) : rotation.IsValid codec := by
  simp only [parseAuthorityRotation, ite_error_eq_ok, bind_eq_ok, orInvalid_ok,
    Option.filter_eq_some_iff, decodeFixedHex32_some, decodeFixedHex64_some, intAt_some, textAt_some,
    decide_eq_true_eq, not_or, not_not] at h
  obtain ⟨data, -, _, ⟨version, rfl⟩, _, ⟨protocol, rfl⟩, networkId, ⟨network, -⟩, previousEpoch,
    ⟨previous, -⟩, nextEpoch, ⟨next, isNext⟩, membershipEpoch, ⟨membership, -⟩, notBeforeMs,
    notBefore, notAfterMs, notAfter, ⟨advances, -⟩, previousKey, ⟨isPreviousKey, -⟩, nextKey,
    ⟨isNextKey, nextLength⟩, sourceDigest, ⟨isSourceDigest, -⟩, nonce, ⟨isNonce, -⟩,
    authorizationDigest, -, possessionDigest, -, authorizationSignature, -, possessionSignature, -,
    ⟨-, -, differs⟩, -, ⟨authorized, possessed⟩, isRotation⟩ := h
  obtain rfl := Except.ok.inj isRotation
  refine ⟨isNext, advances, nextLength, differs, ?_, ?_⟩
  · rw [canonicalFieldSubset] at authorized
    simp only [fieldSubset, authorityRotationAuthFields, authorityRotationFields, List.take, version,
      protocol, network, previous, isPreviousKey, next, isNextKey, membership, isSourceDigest,
      notBefore, notAfter, isNonce, List.filterMap_cons, List.filterMap_nil,
      Option.map_some] at authorized
    exact authorized
  · rw [canonicalFieldSubset] at possessed
    simp only [fieldSubset, authorityRotationPossessionFields, version, protocol, network, previous,
      next, isNextKey, membership, isSourceDigest, notBefore, notAfter, isNonce,
      List.filterMap_cons, List.filterMap_nil, Option.map_some] at possessed
    exact possessed

end Prometheus.Jaeger.Membership
