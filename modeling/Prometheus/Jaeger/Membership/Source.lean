import Prometheus.Codec.Canonical
import Prometheus.Codec.JsonEscape
import Prometheus.Codec.JsonHook
import Prometheus.ThreatHint.ObservableBundle

/-!
# The membership source

`modules/guardian-node/jaeger/guardian_membership_source.py`: the canonical document of a committee.
The checks of the file's path, owner and mode come before the parser and are left out; a file that
they refuse is one without contents. `coincurve` and `hashlib.sha256` are parameters.
-/

namespace Prometheus.Jaeger.Membership

open Prometheus.Codec Prometheus.ThreatHint
open Prometheus.ThreatHint.Python (sameKeys validateNetworkId)

/-- What the two modules take from the interpreter and from their libraries. -/
structure MembershipCodec where
  sha256 : Bytes → Bytes
  /-- `json.loads` exceeds the recursion limit on the text. -/
  tooDeep : Str → Bool
  /-- `float.__repr__` of the text of a number. -/
  floatRepr : Str → Str
  /-- `PublicKeyXOnly` accepts the bytes. -/
  isPublicKey : Bytes → Bool
  /-- `PublicKeyXOnly(key).verify(signature, message)`; false where it raises `ValueError`. -/
  verify : Bytes → Bytes → Bytes → Bool

/-- `MEMBERSHIP_SOURCE_SCHEMA_VERSION`. -/
def membershipSourceSchemaVersion : Int := 1

/-- `MEMBERSHIP_SOURCE_PROTOCOL_ID`. -/
def membershipSourceProtocolId : Str := str "/prometheus/guardian-membership/1.0.0"

/-- `MIN_MEMBERSHIP_MEMBERS`. -/
def minMembershipMembers : Nat := 5

/-- `MAX_MEMBERSHIP_MEMBERS`. -/
def maxMembershipMembers : Nat := 1024

/-- `MAX_MEMBERSHIP_EPOCH`. -/
def maxMembershipEpoch : Int := 2 ^ 63 - 1

/-- `MAX_MEMBERSHIP_SOURCE_BYTES`. -/
def maxMembershipSourceBytes : Nat := 300000

/-- `MEMBERSHIP_MODEL_TIER`. -/
def membershipModelTier : Str := str "8b"

/-- `_SOURCE_FIELDS`. -/
def sourceFields : List String := ["schema_version", "protocol_id", "network_id", "epoch", "members"]

/-- `_MEMBER_FIELDS`. -/
def memberFields : List String :=
  ["guardian_id", "xonly_public_key", "model_tier", "model_artifact_sha256"]

/-- `GuardianMembershipSourceError`, or the `ValueError` of an integer with too many digits, which
the module does not catch. -/
inductive SourceError
  | source
  | value
  deriving DecidableEq, Repr

/-- `GuardianSourceMember`; its `model_tier` is always the one tier there is. -/
structure GuardianSourceMember where
  guardianId : Str
  xonlyPublicKey : Str
  modelArtifactSha256 : Str
  deriving DecidableEq, Repr

/-- `GuardianMembershipSource`. -/
structure GuardianMembershipSource where
  networkId : Str
  epoch : Int
  members : List GuardianSourceMember
  canonicalBytes : Bytes
  membershipSourceSha256 : Str
  deriving DecidableEq, Repr

/-- An exact `int` between zero and `MAX_MEMBERSHIP_EPOCH`: `_parse_epoch` and `_is_epoch`. -/
def isEpoch (value : Int) : Bool := decide (0 ≤ value) && decide (value ≤ maxMembershipEpoch)

/-- The value of a check, or the error of the module. -/
def accept {α : Type} (value : Option α) : Except SourceError α :=
  match value with
  | some a => .ok a
  | none => .error .source

/-- `_parse_source_document`. -/
def parseSourceDocument (codec : MembershipCodec) (contents : Bytes) :
    Except SourceError (List (Str × Json)) :=
  match fromUtf8 contents with
  | none => .error .source
  | some text =>
    match Json.loadsHooked codec.tooDeep codec.floatRepr text with
    | .error (.load .valueError) => .error .value
    | .error _ => .error .source
    | .ok (.object data) =>
      if ¬ sameKeys data sourceFields then .error .source
      else if Json.intAt data "schema_version" ≠ some membershipSourceSchemaVersion then
        .error .source
      else if Json.textAt data "protocol_id" ≠ some membershipSourceProtocolId then .error .source
      else .ok data
    | .ok _ => .error .source

/-- `_parse_member`; `none` where it raises. -/
def parseMember (codec : MembershipCodec) (item : Json) : Option GuardianSourceMember :=
  match item with
  | .object fields => do
    guard (sameKeys fields memberFields)
    let guardianId ← (Json.textAt fields "guardian_id").filter isHash
    let xonlyPublicKey ← (Json.textAt fields "xonly_public_key").filter isHash
    let modelArtifactSha256 ← (Json.textAt fields "model_artifact_sha256").filter isHash
    guard (Json.textAt fields "model_tier" = some membershipModelTier)
    guard (codec.isPublicKey (fromHex xonlyPublicKey))
    return ⟨guardianId, xonlyPublicKey, modelArtifactSha256⟩
  | _ => none

/-- `_parse_members`; `none` where it raises. -/
def parseMembers (codec : MembershipCodec) (value : Json) : Option (List GuardianSourceMember) :=
  match value with
  | .array items => do
    guard (minMembershipMembers ≤ items.length ∧ items.length ≤ maxMembershipMembers)
    let members ← items.mapM (parseMember codec)
    let guardianIds := members.map GuardianSourceMember.guardianId
    let publicKeys := members.map GuardianSourceMember.xonlyPublicKey
    guard (guardianIds = guardianIds.insertionSort fun a b => a ≤ b)
    guard (guardianIds.Nodup ∧ publicKeys.Nodup)
    return members
  | _ => none

/-- A member in `_canonical_bytes`. -/
def memberDocument (member : GuardianSourceMember) : Json :=
  .object [(str "guardian_id", .string member.guardianId),
    (str "xonly_public_key", .string member.xonlyPublicKey),
    (str "model_tier", .string membershipModelTier),
    (str "model_artifact_sha256", .string member.modelArtifactSha256)]

/-- `_canonical_bytes`. -/
def canonicalBytes (networkId : Str) (epoch : Int) (members : List GuardianSourceMember) : Bytes :=
  dumpsOrdered (.object [(str "schema_version", .int membershipSourceSchemaVersion),
    (str "protocol_id", .string membershipSourceProtocolId),
    (str "network_id", .string networkId),
    (str "epoch", .int epoch),
    (str "members", .array (members.map memberDocument))])

/-- `parse_guardian_membership_source`. -/
def parseGuardianMembershipSource (codec : MembershipCodec) (contents : Bytes)
    (expectedNetworkId : Str) : Except SourceError GuardianMembershipSource := do
  if ¬ validateNetworkId expectedNetworkId then .error .source
  else if contents = [] ∨ maxMembershipSourceBytes < contents.length then .error .source
  else do
    let data ← parseSourceDocument codec contents
    let networkId ← accept ((Json.textAt data "network_id").filter validateNetworkId)
    if networkId ≠ expectedNetworkId then .error .source
    else do
      let epoch ← accept ((Json.intAt data "epoch").filter isEpoch)
      let members ← accept ((Json.field data (str "members")).bind (parseMembers codec))
      let canonical := canonicalBytes networkId epoch members
      if canonical ≠ contents then .error .source
      else
        .ok ⟨networkId, epoch, members, canonical, hex (codec.sha256 canonical)⟩

/-- `load_guardian_membership_source` of a file with these contents; `none` where the file cannot be
read. -/
def loadGuardianMembershipSource (codec : MembershipCodec) (file : Option Bytes)
    (expectedNetworkId : Str) : Except SourceError GuardianMembershipSource :=
  if ¬ validateNetworkId expectedNetworkId then .error .source
  else
    match file with
    | none => .error .source
    | some contents => parseGuardianMembershipSource codec contents expectedNetworkId

/-! ## What an accepted source is -/

variable {codec : MembershipCodec} {source : GuardianMembershipSource} {networkId : Str}

theorem accept_ok {α : Type} {value : Option α} {a : α} : accept value = .ok a ↔ value = some a := by
  cases value with
  | none => exact iff_of_false nofun nofun
  | some b => rw [accept, Except.ok.injEq, Option.some.injEq]

/-- The bounds that the ledger relies on. -/
structure GuardianMembershipSource.IsValid (source : GuardianMembershipSource) : Prop where
  epoch : isEpoch source.epoch = true
  nonempty : source.canonicalBytes ≠ []
  bounded : source.canonicalBytes.length ≤ maxMembershipSourceBytes

theorem parseGuardianMembershipSource_valid {contents : Bytes}
    (h : parseGuardianMembershipSource codec contents networkId = .ok source) :
    source.IsValid ∧ source.canonicalBytes = contents ∧ source.networkId = networkId := by
  simp only [parseGuardianMembershipSource, ite_error_eq_ok, bind_eq_ok, accept_ok, not_or,
    not_not] at h
  obtain ⟨-, ⟨nonempty, bounded⟩, data, -, parsed, -, rfl, epoch, isEpoch, members, -, same, isSource⟩
    := h
  obtain rfl := Except.ok.inj isSource
  refine ⟨⟨(Option.filter_eq_some_iff.mp isEpoch).2, ?_, ?_⟩, same, rfl⟩
  · show canonicalBytes parsed epoch members ≠ []
    rw [same]
    exact nonempty
  · show (canonicalBytes parsed epoch members).length ≤ maxMembershipSourceBytes
    rw [same]
    exact Nat.not_lt.mp bounded

theorem loadGuardianMembershipSource_valid {file : Option Bytes}
    (h : loadGuardianMembershipSource codec file networkId = .ok source) :
    source.IsValid ∧ file = some source.canonicalBytes ∧ source.networkId = networkId := by
  unfold loadGuardianMembershipSource at h
  split at h
  · cases h
  · cases file with
    | none => cases h
    | some contents =>
      obtain ⟨valid, same, isNetwork⟩ := parseGuardianMembershipSource_valid h
      exact ⟨valid, by rw [same], isNetwork⟩

end Prometheus.Jaeger.Membership
