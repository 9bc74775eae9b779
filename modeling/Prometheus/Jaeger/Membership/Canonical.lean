import Prometheus.Codec.Frame
import Prometheus.Jaeger.Membership.Opening
import Prometheus.Jaeger.SignedBallots.Envelope
import Prometheus.ThreatHint.ObservableAgreement

/-!
# Sources and committees

The parser of a membership source accepts the canonical documents of the committees and nothing else,
and what it returns passes the checks that the ensemble and the signed ballots make of their own. An
integer with too many digits raises a `ValueError` that the module does not turn into its own error.
-/

namespace Prometheus.Jaeger.Membership

open Prometheus.Codec Prometheus.ThreatHint Prometheus.Jaeger.SignedBallots
open Prometheus.ThreatHint.Python (sameKeys validateNetworkId validateNetworkId_iff)

/-! ## The views of a source -/

/-- `MembershipSnapshot.create`; `none` where it raises. -/
def MembershipSnapshot.create (sha256 : Bytes → Bytes) (members : List GuardianMember)
    (membershipSourceSha256 : Str) : Option MembershipSnapshot :=
  match validatedMembers members with
  | none => none
  | some canonicalMembers =>
    if ¬ isSha256 membershipSourceSha256 then none
    else some
      { protocolVersion := ensembleProtocolVersion
        membershipSourceSha256
        members := canonicalMembers
        snapshotId := canonicalDigest sha256 snapshotDomain
          (snapshotPayload ensembleProtocolVersion membershipSourceSha256 canonicalMembers) }

/-- `to_membership_snapshot`; `none` where it raises. -/
def GuardianMembershipSource.toMembershipSnapshot (codec : MembershipCodec)
    (source : GuardianMembershipSource) : Option MembershipSnapshot :=
  MembershipSnapshot.create codec.sha256
    (source.members.map fun member =>
      ⟨member.guardianId, membershipModelTier, member.modelArtifactSha256⟩)
    source.membershipSourceSha256

/-- `to_ballot_signers`. -/
def GuardianMembershipSource.toBallotSigners (source : GuardianMembershipSource) :
    List BallotSigner :=
  source.members.map fun member => ⟨member.guardianId, member.xonlyPublicKey⟩

/-! ## Committees -/

variable (codec : MembershipCodec)

/-- The fields of a member are valid. -/
structure GuardianSourceMember.IsValid (member : GuardianSourceMember) : Prop where
  guardianId : isHash member.guardianId = true
  xonlyPublicKey : isHash member.xonlyPublicKey = true
  modelArtifactSha256 : isHash member.modelArtifactSha256 = true
  isKey : codec.isPublicKey (fromHex member.xonlyPublicKey) = true

/-- A committee of a network and an epoch. -/
structure IsCommittee (networkId : Str) (epoch : Int) (members : List GuardianSourceMember) :
    Prop where
  network : validateNetworkId networkId = true
  positive : 0 ≤ epoch
  bounded : epoch ≤ 2 ^ 63 - 1
  fewest : 5 ≤ members.length
  most : members.length ≤ 1024
  sorted : members.Pairwise fun a b => a.guardianId < b.guardianId
  keys : (members.map GuardianSourceMember.xonlyPublicKey).Nodup
  valid : ∀ member ∈ members, member.IsValid codec

/-- Documents nest within the recursion limit. -/
def MembershipCodec.Shallow : Prop :=
  ∀ value : Json, value.nesting ≤ 3 → codec.tooDeep (value.compact quoteRaw) = false

/-- The ensemble takes the snapshot of a source, and the ballots take its signers as they are. -/
def IsUsable (ballots : BallotCodec) (source : GuardianMembershipSource) : Prop :=
  ∃ snapshot, source.toMembershipSnapshot codec = some snapshot ∧
    isValidSnapshot codec.sha256 snapshot = true ∧
    validatedSigners ballots source.toBallotSigners snapshot = some source.toBallotSigners

/-- The parser fails with its own error where there is no canonical document, and returns the
committee of a canonical document in a usable source. -/
def Settles (ballots : BallotCodec) (contents : Bytes) (networkId : Str) : Prop :=
  match parseGuardianMembershipSource codec contents networkId with
  | .ok source => contents = canonicalBytes networkId source.epoch source.members ∧
      IsCommittee codec networkId source.epoch source.members ∧ IsUsable codec ballots source
  | .error error => error = .source ∧
      ∀ epoch members, IsCommittee codec networkId epoch members →
        contents ≠ canonicalBytes networkId epoch members

/-- `json.loads` stops at an integer of more than 4300 digits. -/
def StopsAtLongInteger (contents : Bytes) : Prop :=
  ∃ text, fromUtf8 contents = some text ∧
    Json.loadsHooked codec.tooDeep codec.floatRepr text = .error (.load .valueError)

variable {codec} {networkId : Str} {epoch : Int} {members : List GuardianSourceMember}
  {contents : Bytes} {source : GuardianMembershipSource}

/-! ## What is accepted -/

theorem parseMember_some {item : Json} {member : GuardianSourceMember}
    (h : parseMember codec item = some member) : member.IsValid codec := by
  cases item with
  | object fields =>
    simp only [parseMember, Option.bind_eq_bind, Option.bind_eq_some_iff, Option.guard_eq_some',
      Option.filter_eq_some_iff] at h
    obtain ⟨-, -, guardianId, ⟨-, isId⟩, key, ⟨-, isKey⟩, artifact, ⟨-, isArtifact⟩, -, -, -,
      isPublicKey, same⟩ := h
    obtain rfl := Option.some.inj same
    exact ⟨isId, isKey, isArtifact, isPublicKey⟩
  | _ => cases h

theorem mapM_forall₂ {α β : Type} {f : α → Option β} {xs : List α} {ys : List β} :
    xs.mapM f = some ys ↔ List.Forall₂ (fun x y => f x = some y) xs ys := by
  induction xs generalizing ys with
  | nil => simp [List.forall₂_nil_left_iff, eq_comm]
  | cons x xs ih =>
    rw [List.mapM_cons, List.forall₂_cons_left_iff]
    simp only [Option.bind_eq_bind, Option.bind_eq_some_iff, ih]
    constructor
    · rintro ⟨y, isY, ys', isYs, same⟩
      exact ⟨y, ys', isY, isYs, (Option.some.inj same).symm⟩
    · rintro ⟨y, ys', isY, isYs, rfl⟩
      exact ⟨y, isY, ys', isYs, rfl⟩

/-- Sorted identifiers without repetition are strictly sorted. -/
theorem sorted_of_insertionSort {ids : List Str}
    (sorted : ids = ids.insertionSort fun a b => a ≤ b) (distinct : ids.Nodup) :
    ids.Pairwise (· < ·) := by
  have le : ids.Pairwise (· ≤ ·) := by
    rw [sorted]
    exact List.pairwise_insertionSort _ _
  exact (le.and distinct).imp fun h => lt_of_le_of_ne h.1 h.2

theorem valid_of_parsed {items : List Json}
    (h : List.Forall₂ (fun item member => parseMember codec item = some member) items members) :
    ∀ member ∈ members, member.IsValid codec := by
  induction h with
  | nil => simp
  | cons isFirst _ ih => exact List.forall_mem_cons.mpr ⟨parseMember_some isFirst, ih⟩

theorem parseMembers_some {value : Json} (h : parseMembers codec value = some members) :
    5 ≤ members.length ∧ members.length ≤ 1024 ∧
      members.Pairwise (fun a b => a.guardianId < b.guardianId) ∧
      (members.map GuardianSourceMember.xonlyPublicKey).Nodup ∧
      ∀ member ∈ members, member.IsValid codec := by
  cases value with
  | array items =>
    simp only [parseMembers, Option.bind_eq_bind, Option.bind_eq_some_iff, Option.guard_eq_some',
      mapM_forall₂] at h
    obtain ⟨-, bounds, parsed, isParsed, -, sorted, -, ⟨distinctIds, distinctKeys⟩, same⟩ := h
    obtain rfl := Option.some.inj same
    have sameLength := isParsed.length_eq
    exact ⟨sameLength ▸ bounds.1, sameLength ▸ bounds.2,
      List.pairwise_map.mp (sorted_of_insertionSort sorted distinctIds), distinctKeys,
      valid_of_parsed isParsed⟩
  | _ => cases h

theorem parse_ok (h : parseGuardianMembershipSource codec contents networkId = .ok source) :
    contents = canonicalBytes networkId source.epoch source.members ∧
      IsCommittee codec networkId source.epoch source.members ∧
      source.membershipSourceSha256 = hex (codec.sha256 contents) := by
  simp only [parseGuardianMembershipSource, ite_error_eq_ok, bind_eq_ok, accept_ok, not_or,
    not_not] at h
  obtain ⟨network, -, data, -, parsed, -, rfl, epoch, isEpoch', members, isMembers, same, isSource⟩
    := h
  obtain rfl := Except.ok.inj isSource
  obtain ⟨value, -, isMembers⟩ := Option.bind_eq_some_iff.mp isMembers
  obtain ⟨fewest, most, sorted, keys, valid⟩ := parseMembers_some isMembers
  have bounds := (Option.filter_eq_some_iff.mp isEpoch').2
  rw [isEpoch, Bool.and_eq_true, decide_eq_true_eq, decide_eq_true_eq, maxMembershipEpoch] at bounds
  exact ⟨same.symm, ⟨network, bounds.1, bounds.2, fewest, most, sorted, keys, valid⟩, by rw [same]⟩

/-! ## Canonical documents -/

/-- The document of a member, by the names of its fields. -/
def memberPayload (member : GuardianSourceMember) : List (String × Json) :=
  [("guardian_id", .string member.guardianId), ("xonly_public_key", .string member.xonlyPublicKey),
    ("model_tier", .string membershipModelTier),
    ("model_artifact_sha256", .string member.modelArtifactSha256)]

def sourcePayload (networkId : Str) (epoch : Int) (members : List GuardianSourceMember) :
    List (String × Json) :=
  [("schema_version", .int membershipSourceSchemaVersion),
    ("protocol_id", .string membershipSourceProtocolId), ("network_id", .string networkId),
    ("epoch", .int epoch),
    ("members", .array (members.map fun member => document (memberPayload member)))]

theorem memberDocument_eq (member : GuardianSourceMember) :
    memberDocument member = document (memberPayload member) := rfl

theorem memberFields_plain : Plain memberFields := by
  decide

theorem sourceFields_plain : Plain sourceFields := by
  decide

theorem plain_keys : ∀ key ∈ memberFields ++ sourceFields, IsPlainText (str key) := by
  show ∀ key ∈ memberFields ++ sourceFields, ∀ c ∈ str key, 32 ≤ c ∧ c ≤ 126
  decide

theorem plain_fixed : IsPlainText membershipModelTier ∧ IsPlainText membershipSourceProtocolId := by
  show (∀ c ∈ membershipModelTier, 32 ≤ c ∧ c ≤ 126) ∧
    ∀ c ∈ membershipSourceProtocolId, 32 ≤ c ∧ c ≤ 126
  decide

theorem plain_of_isHash {s : Str} (h : isHash s = true) : IsPlainText s := by
  rw [isHash, Bool.and_eq_true, List.all_eq_true] at h
  exact isPlainText_of_lowerHex h.2

theorem plain_of_network {s : Str} (h : IsNetworkId s) : IsPlainText s := by
  intro c hc
  have isChar := h.chars c hc
  simp only [isNetworkChar, isAlnum, Bool.or_eq_true, Bool.and_eq_true, decide_eq_true_eq,
    beq_iff_eq] at isChar
  omega

/-- The texts of a member are plain. -/
theorem plain_member {member : GuardianSourceMember} (valid : member.IsValid codec) :
    ∀ f ∈ memberPayload member, IsPlainValue f.2 := by
  simp only [memberPayload, List.forall_mem_cons]
  exact ⟨.string (plain_of_isHash valid.guardianId), .string (plain_of_isHash valid.xonlyPublicKey),
    .string plain_fixed.1, .string (plain_of_isHash valid.modelArtifactSha256), by simp⟩

theorem keys_of_payload {fields : List (String × Json)} {keys : List String}
    (same : fields.map Prod.fst = keys) (plain : ∀ key ∈ keys, IsPlainText (str key)) :
    ∀ f ∈ fields, IsPlainText (str f.1) := by
  subst same
  exact fun f hf => plain f.1 (List.mem_map_of_mem hf)

theorem canonicalBytes_eq (committee : IsCommittee codec networkId epoch members) :
    canonicalBytes networkId epoch members = dump (sourcePayload networkId epoch members) := by
  have network := validateNetworkId_iff.mp committee.network
  have memberKeys : ∀ key ∈ memberFields, IsPlainText (str key) :=
    fun key hkey => plain_keys key (List.mem_append_left _ hkey)
  have sourceKeys : ∀ key ∈ sourceFields, IsPlainText (str key) :=
    fun key hkey => plain_keys key (List.mem_append_right _ hkey)
  have same : (document (sourcePayload networkId epoch members)).compact quote =
      (document (sourcePayload networkId epoch members)).compact quoteRaw := by
    refine compact_document (keys_of_payload (show _ = sourceFields from rfl) sourceKeys) ?_
    simp only [sourcePayload, List.forall_mem_cons]
    refine ⟨rfl, quote_eq_quoteRaw plain_fixed.2, quote_eq_quoteRaw (plain_of_network network), rfl,
      compact_array ?_, by simp⟩
    intro item isItem
    obtain ⟨member, isMember, rfl⟩ := List.mem_map.mp isItem
    refine compact_document (keys_of_payload (show _ = memberFields from rfl) memberKeys) ?_
    exact fun f hf => (plain_member (committee.valid member isMember) f hf).compact_eq
  exact congrArg encodeAscii same

theorem readable_source (committee : IsCommittee codec networkId epoch members) :
    Readable (document (sourcePayload networkId epoch members)) := by
  have network := validateNetworkId_iff.mp committee.network
  refine readable_document (show _ = sourceFields from rfl) sourceFields_plain.distinct
    sourceFields_plain.ascii ?_
  simp only [sourcePayload, List.forall_mem_cons]
  refine ⟨readable_int (.of_le (by decide) (by decide)), readable_string (isAscii_of_plain plain_fixed.2),
    readable_string network.isAscii, readable_int (.of_le committee.positive ?_),
    readable_array ?_, by simp⟩
  · have := committee.bounded
    omega
  · intro item isItem
    obtain ⟨member, isMember, rfl⟩ := List.mem_map.mp isItem
    have valid := committee.valid member isMember
    refine readable_document (show _ = memberFields from rfl) memberFields_plain.distinct
      memberFields_plain.ascii ?_
    simp only [memberPayload, List.forall_mem_cons]
    exact ⟨readable_string (isAscii_of_isHash valid.guardianId),
      readable_string (isAscii_of_isHash valid.xonlyPublicKey),
      readable_string (isAscii_of_plain plain_fixed.1),
      readable_string (isAscii_of_isHash valid.modelArtifactSha256), by simp⟩

/-! ## Canonical documents are accepted -/

theorem length_sum_le {items : List Nat} {bound : Nat} (h : ∀ n ∈ items, n ≤ bound) :
    items.sum ≤ bound * items.length := by
  induction items with
  | nil => simp
  | cons n items ih =>
    rw [List.forall_mem_cons] at h
    have rest := ih h.2
    have first := h.1
    rw [List.sum_cons, List.length_cons, Nat.mul_succ]
    omega

theorem length_member {member : GuardianSourceMember} (valid : member.IsValid codec) :
    ((document (memberPayload member)).compact quoteRaw).length ≤ 278 := by
  have bound := length_dump_le (show (memberPayload member).map Prod.fst = memberFields from rfl)
  have names : (memberFields.map fun key => (quoteRaw (str key)).length + 2).sum = 74 := by
    decide
  have tier : ((Json.string membershipModelTier).compact quoteRaw).length = 4 := by decide
  have values : ((memberPayload member).map fun f => (f.2.compact quoteRaw).length).sum = 202 := by
    simp only [memberPayload, List.map_cons, List.map_nil, List.sum_cons, List.sum_nil,
      length_hash valid.guardianId, length_hash valid.xonlyPublicKey,
      length_hash valid.modelArtifactSha256, tier, Nat.add_zero, Nat.reduceAdd]
  rw [dump, encodeAscii, List.length_map, names, values] at bound
  exact bound

/-- The document of the largest committee is within the bound of a source. -/
theorem canonicalBytes_bounded (committee : IsCommittee codec networkId epoch members) :
    (canonicalBytes networkId epoch members).length ≤ maxMembershipSourceBytes := by
  have network := validateNetworkId_iff.mp committee.network
  have isU64 : IsU64 epoch := .of_le committee.positive (by have := committee.bounded; omega)
  have bound := length_dump_le
    (show (sourcePayload networkId epoch members).map Prod.fst = sourceFields from rfl)
  have names : (sourceFields.map fun key => (quoteRaw (str key)).length + 2).sum = 67 := by
    decide
  have fixed : ((Json.int membershipSourceSchemaVersion).compact quoteRaw).length +
      ((Json.string membershipSourceProtocolId).compact quoteRaw).length ≤ 58 := by
    decide
  have networkLength := length_networkId_le network
  have epochLength := length_int_le isU64
  have array : ((Json.array (members.map fun member =>
      document (memberPayload member))).compact quoteRaw).length ≤ 279 * 1024 + 2 := by
    have joined := length_intercalate_le (Json.compact.compactItems quoteRaw
      (members.map fun member => document (memberPayload member)))
    have each : ((Json.compact.compactItems quoteRaw
        (members.map fun member => document (memberPayload member))).map
          fun item => item.length + 1).sum ≤ 279 * members.length := by
      have bounded := @length_sum_le (members.map fun member =>
        ((document (memberPayload member)).compact quoteRaw).length + 1) 279 fun n hn => by
          obtain ⟨member, isMember, rfl⟩ := List.mem_map.mp hn
          have := length_member (committee.valid member isMember)
          omega
      rw [List.length_map] at bounded
      rw [compactItems_eq_map, List.map_map, List.map_map]
      exact bounded
    have most := committee.most
    rw [Json.compact]
    simp only [List.length_append, List.length_cons, List.length_nil]
    omega
  simp only [sourcePayload, List.map_cons, List.map_nil, List.sum_cons, List.sum_nil] at bound
  rw [canonicalBytes_eq committee, maxMembershipSourceBytes]
  simp only [sourcePayload]
  omega

theorem parseMember_document {member : GuardianSourceMember} (valid : member.IsValid codec) :
    parseMember codec (document (memberPayload member)) = some member := by
  have same : (memberPayload member).map Prod.fst = memberFields := rfl
  have text (key : String) {s : Str} (h : (key, Json.string s) ∈ memberPayload member) :
      Json.textAt ((memberPayload member).map fun f => (str f.1, f.2)) key = some s := by
    rw [Json.textAt, field_document (same ▸ memberFields_plain.distinct) h]
    rfl
  have keys := Python.ObservableBundle.sameKeys_document same
  have guardianId := text "guardian_id" (s := member.guardianId) (by simp [memberPayload])
  have xonlyPublicKey := text "xonly_public_key" (s := member.xonlyPublicKey)
    (by simp [memberPayload])
  have modelTier := text "model_tier" (s := membershipModelTier) (by simp [memberPayload])
  have modelArtifact := text "model_artifact_sha256" (s := member.modelArtifactSha256)
    (by simp [memberPayload])
  simp only [document, parseMember, keys, guardianId, xonlyPublicKey, modelTier, modelArtifact,
    guard_true, Option.filter_some, valid.guardianId, valid.xonlyPublicKey,
    valid.modelArtifactSha256, if_true, Option.bind_eq_bind, Option.bind_some, Option.pure_def,
    valid.isKey]

theorem parseMembers_documents (committee : IsCommittee codec networkId epoch members) :
    parseMembers codec (.array (members.map fun member => document (memberPayload member))) =
      some members := by
  have parsed : (members.map fun member => document (memberPayload member)).mapM
      (parseMember codec) = some members := by
    refine mapM_forall₂.mpr (List.forall₂_map_left_iff.mpr (List.forall₂_same.mpr ?_))
    exact fun member isMember => parseMember_document (committee.valid member isMember)
  have sorted : (members.map GuardianSourceMember.guardianId).Pairwise (· < ·) :=
    List.pairwise_map.mpr committee.sorted
  have inOrder : members.map GuardianSourceMember.guardianId =
      (members.map GuardianSourceMember.guardianId).insertionSort fun a b => a ≤ b :=
    (List.Pairwise.insertionSort_eq (sorted.imp fun less => le_of_lt less)).symm
  have distinct : (members.map GuardianSourceMember.guardianId).Nodup :=
    sorted.imp fun less => ne_of_lt less
  have bounds : minMembershipMembers ≤ members.length ∧ members.length ≤ maxMembershipMembers :=
    ⟨committee.fewest, committee.most⟩
  simp only [parseMembers, List.length_map, guard_true, bounds, parsed, Option.bind_eq_bind,
    Option.bind_some, ← inOrder, distinct, committee.keys, and_self]
  rfl

theorem parseSourceDocument_canonical (shallow : codec.Shallow)
    (committee : IsCommittee codec networkId epoch members) :
    parseSourceDocument codec (canonicalBytes networkId epoch members) =
      .ok ((sourcePayload networkId epoch members).map fun f => (str f.1, f.2)) := by
  have same : (sourcePayload networkId epoch members).map Prod.fst = sourceFields := rfl
  have readable := readable_source committee
  have text : fromUtf8 (canonicalBytes networkId epoch members) =
      some ((document (sourcePayload networkId epoch members)).compact quoteRaw) := by
    rw [canonicalBytes_eq committee]
    exact fromUtf8_encodeAscii (isAscii_compact _ readable.ascii)
  have nesting : (document (sourcePayload networkId epoch members)).nesting ≤ 3 := by
    refine nesting_document (n := 2) ?_
    simp only [sourcePayload, List.forall_mem_cons]
    refine ⟨by simp [Json.nesting], by simp [Json.nesting], by simp [Json.nesting],
      by simp [Json.nesting], nesting_array fun item isItem => ?_, by simp⟩
    obtain ⟨member, -, rfl⟩ := List.mem_map.mp isItem
    exact nesting_document (by simp [memberPayload, Json.nesting])
  have loaded : Json.loadsHooked codec.tooDeep codec.floatRepr
      ((document (sourcePayload networkId epoch members)).compact quoteRaw) =
        .ok (.object ((sourcePayload networkId epoch members).map fun f => (str f.1, f.2))) :=
    Json.loadsHooked_of_loads (shallow _ nesting)
      (Json.loads_compact codec.floatRepr readable.exact) readable.unique
  have keys := Python.ObservableBundle.sameKeys_document same
  have unique : (((sourcePayload networkId epoch members).map Prod.fst).map str).Nodup :=
    same ▸ sourceFields_plain.distinct
  have version : Json.intAt ((sourcePayload networkId epoch members).map fun f => (str f.1, f.2))
      "schema_version" = some membershipSourceSchemaVersion := by
    rw [Json.intAt, field_document unique
      (show ("schema_version", Json.int membershipSourceSchemaVersion) ∈ _ by simp [sourcePayload])]
    rfl
  have protocol : Json.textAt ((sourcePayload networkId epoch members).map fun f => (str f.1, f.2))
      "protocol_id" = some membershipSourceProtocolId := by
    rw [Json.textAt, field_document unique
      (show ("protocol_id", Json.string membershipSourceProtocolId) ∈ _ by simp [sourcePayload])]
    rfl
  rw [parseSourceDocument, text]
  simp only [loaded]
  rw [if_neg (not_not.mpr keys), if_neg (not_not.mpr version), if_neg (not_not.mpr protocol)]

/-- A canonical document is accepted. -/
theorem parse_canonical (shallow : codec.Shallow)
    (committee : IsCommittee codec networkId epoch members) :
    parseGuardianMembershipSource codec (canonicalBytes networkId epoch members) networkId =
      .ok ⟨networkId, epoch, members, canonicalBytes networkId epoch members,
        hex (codec.sha256 (canonicalBytes networkId epoch members))⟩ := by
  have unique : (((sourcePayload networkId epoch members).map Prod.fst).map str).Nodup :=
    sourceFields_plain.distinct
  have network : Json.textAt ((sourcePayload networkId epoch members).map fun f => (str f.1, f.2))
      "network_id" = some networkId := by
    rw [Json.textAt, field_document unique
      (show ("network_id", Json.string networkId) ∈ _ by simp [sourcePayload])]
    rfl
  have isEpoch' : Json.intAt ((sourcePayload networkId epoch members).map fun f => (str f.1, f.2))
      "epoch" = some epoch := by
    rw [Json.intAt, field_document unique
      (show ("epoch", Json.int epoch) ∈ _ by simp [sourcePayload])]
    rfl
  have isMembers : Json.field ((sourcePayload networkId epoch members).map
      fun f => (str f.1, f.2)) (str "members") =
        some (.array (members.map fun member => document (memberPayload member))) :=
    field_document unique (by simp [sourcePayload])
  have bounds : isEpoch epoch = true := by
    rw [isEpoch, Bool.and_eq_true, decide_eq_true_eq, decide_eq_true_eq, maxMembershipEpoch]
    exact ⟨committee.positive, committee.bounded⟩
  have size : ¬ (canonicalBytes networkId epoch members = [] ∨
      maxMembershipSourceBytes < (canonicalBytes networkId epoch members).length) := by
    rw [not_or, not_lt]
    refine ⟨?_, canonicalBytes_bounded committee⟩
    rw [canonicalBytes_eq committee]
    exact dump_ne_nil _
  simp only [parseGuardianMembershipSource, ite_error_eq_ok, bind_eq_ok, accept_ok, not_not]
  refine ⟨committee.network, size, _, parseSourceDocument_canonical shallow committee, networkId,
    ?_, rfl, epoch, ?_, members, ?_, rfl, rfl⟩
  · rw [network, Option.filter_some, if_pos committee.network]
  · rw [isEpoch', Option.filter_some, if_pos bounds]
  · rw [isMembers, Option.bind_some, parseMembers_documents committee]

/-! ## Accepted sources are usable -/

variable {ballots : BallotCodec}

theorem isSha256_eq (s : Str) : isSha256 s = isHash s := rfl

theorem isHex32_eq (s : Str) : isHex32 s = isHash s := rfl

/-- The members of a committee in the terms of the ensemble. -/
def GuardianSourceMember.toMember (member : GuardianSourceMember) : GuardianMember :=
  ⟨member.guardianId, membershipModelTier, member.modelArtifactSha256⟩

/-- The sort of the ensemble leaves a committee as it is. -/
theorem validatedMembers_committee (committee : IsCommittee codec networkId epoch members) :
    validatedMembers (members.map GuardianSourceMember.toMember) =
      some (members.map GuardianSourceMember.toMember) := by
  have sorted : (members.map GuardianSourceMember.toMember).Pairwise
      fun a b => a.guardianId < b.guardianId := List.pairwise_map.mpr committee.sorted
  have inOrder : sortMembers (members.map GuardianSourceMember.toMember) =
      members.map GuardianSourceMember.toMember :=
    List.Pairwise.insertionSort_eq (sorted.imp fun less => le_of_lt less)
  have distinct : ((members.map GuardianSourceMember.toMember).map
      GuardianMember.guardianId).Nodup := List.pairwise_map.mpr (sorted.imp fun less => ne_of_lt less)
  have valid : (members.map GuardianSourceMember.toMember).all isValidMember = true := by
    rw [List.all_map, List.all_eq_true]
    intro member isMember
    have fields := committee.valid member isMember
    show (isHash member.guardianId && decide (membershipModelTier = str "8b") &&
      isHash member.modelArtifactSha256) = true
    rw [fields.guardianId, fields.modelArtifactSha256, Bool.and_true, Bool.true_and]
    rfl
  rw [validatedMembers, inOrder, List.length_map]
  exact if_pos ⟨committee.fewest, valid, distinct⟩

/-- A member in the terms of the signed ballots. -/
def GuardianSourceMember.toSigner (member : GuardianSourceMember) : BallotSigner :=
  ⟨member.guardianId, member.xonlyPublicKey⟩

/-- The sort of the signed ballots leaves it as it is too. -/
theorem validatedSigners_committee (sameKeys : ballots.isPublicKey = codec.isPublicKey)
    (committee : IsCommittee codec networkId epoch members) {snapshot : MembershipSnapshot}
    (isMembers : snapshot.members = members.map GuardianSourceMember.toMember) :
    validatedSigners ballots (members.map GuardianSourceMember.toSigner) snapshot =
      some (members.map GuardianSourceMember.toSigner) := by
  have sorted : (members.map GuardianSourceMember.toSigner).Pairwise
      fun a b => a.guardianId < b.guardianId := List.pairwise_map.mpr committee.sorted
  have inOrder : (members.map GuardianSourceMember.toSigner).insertionSort
      (fun a b => a.guardianId ≤ b.guardianId) = members.map GuardianSourceMember.toSigner :=
    List.Pairwise.insertionSort_eq (sorted.imp fun less => le_of_lt less)
  have nonempty : members.map GuardianSourceMember.toSigner ≠ [] := by
    rw [ne_eq, List.map_eq_nil_iff]
    rintro rfl
    exact absurd committee.fewest (by decide)
  have sameIds : (members.map GuardianSourceMember.toSigner).map BallotSigner.guardianId =
      snapshot.members.map GuardianMember.guardianId := by
    rw [isMembers, List.map_map, List.map_map]
    rfl
  have valid : (members.map GuardianSourceMember.toSigner).all (isValidSigner ballots) = true := by
    rw [List.all_map, List.all_eq_true]
    intro member isMember
    have fields := committee.valid member isMember
    show (isHash member.guardianId && isHash member.xonlyPublicKey &&
      ballots.isPublicKey (fromHex member.xonlyPublicKey)) = true
    rw [fields.guardianId, fields.xonlyPublicKey, sameKeys, fields.isKey]
    rfl
  have keys : ((members.map GuardianSourceMember.toSigner).map
      BallotSigner.xonlyPublicKey).Nodup := by
    rw [List.map_map]
    exact committee.keys
  have distinct : (snapshot.members.map GuardianMember.guardianId).Nodup :=
    sameIds ▸ List.pairwise_map.mpr (sorted.imp fun less => ne_of_lt less)
  simp only [validatedSigners, inOrder, sameIds]
  exact if_pos ⟨nonempty, valid, distinct, keys, fun _ h => h, fun _ h => h⟩

theorem usable_of_parsed (digestLength : ∀ b, (codec.sha256 b).length = 32)
    (sameKeys : ballots.isPublicKey = codec.isPublicKey)
    (h : parseGuardianMembershipSource codec contents networkId = .ok source) :
    IsUsable codec ballots source := by
  obtain ⟨-, committee, isDigest⟩ := parse_ok h
  have validMembers := validatedMembers_committee committee
  have sourceDigest : isSha256 source.membershipSourceSha256 = true := by
    rw [isDigest]
    exact isHash_hex (digestLength _)
  have snapshotDigest (payload : Json) :
      isSha256 (canonicalDigest codec.sha256 snapshotDomain payload) = true :=
    isHash_hex (digestLength _)
  refine ⟨⟨ensembleProtocolVersion, source.membershipSourceSha256,
    source.members.map GuardianSourceMember.toMember,
    canonicalDigest codec.sha256 snapshotDomain (snapshotPayload ensembleProtocolVersion
      source.membershipSourceSha256 (source.members.map GuardianSourceMember.toMember))⟩,
    ?_, ?_, ?_⟩
  · show MembershipSnapshot.create codec.sha256 (source.members.map GuardianSourceMember.toMember)
      source.membershipSourceSha256 = _
    rw [MembershipSnapshot.create, validMembers]
    exact if_neg (not_not.mpr sourceDigest)
  · simp only [isValidSnapshot, sourceDigest, snapshotDigest, validMembers, decide_true,
      Bool.and_self]
  · exact validatedSigners_committee sameKeys committee rfl

/-! ## The error of a long integer -/

theorem parseSourceDocument_value :
    parseSourceDocument codec contents = .error .value ↔ StopsAtLongInteger codec contents := by
  unfold parseSourceDocument StopsAtLongInteger
  cases isText : fromUtf8 contents with
  | none => exact iff_of_false nofun fun ⟨_, same, _⟩ => nomatch same
  | some text =>
    simp only [Option.some.injEq, exists_eq_left']
    cases Json.loadsHooked codec.tooDeep codec.floatRepr text with
    | error error =>
      match error with
      | .load .valueError => exact iff_of_true rfl rfl
      | .load .decodeError | .load .recursionError | .duplicate => exact iff_of_false nofun nofun
    | ok value =>
      cases value with
      | object data =>
        simp only [ite_error_eq_error, reduceCtorEq, and_false, or_self]
      | _ => exact iff_of_false nofun nofun

theorem accept_error {α : Type} {value : Option α} : accept value ≠ .error .value := by
  cases value with
  | none => nofun
  | some a => nofun

theorem parse_value :
    parseGuardianMembershipSource codec contents networkId = .error .value ↔
      validateNetworkId networkId = true ∧ contents ≠ [] ∧
        contents.length ≤ maxMembershipSourceBytes ∧ StopsAtLongInteger codec contents := by
  simp only [parseGuardianMembershipSource, ite_error_eq_error, bind_eq_error, accept_error,
    reduceCtorEq, and_false, or_false, false_or, exists_false, parseSourceDocument_value, not_or,
    not_not, not_lt, and_assoc, ne_eq]

/-- The parser raises its own error or returns a usable source, and accepts the canonical documents
alone, exactly where `json.loads` meets no integer of more than 4300 digits. -/
theorem membership_source_settles_iff (shallow : codec.Shallow)
    (digestLength : ∀ b, (codec.sha256 b).length = 32)
    (sameKeys : ballots.isPublicKey = codec.isPublicKey) :
    Settles codec ballots contents networkId ↔
      ¬ (validateNetworkId networkId = true ∧ contents ≠ [] ∧
        contents.length ≤ maxMembershipSourceBytes ∧ StopsAtLongInteger codec contents) := by
  rw [← parse_value, Settles]
  cases parsed : parseGuardianMembershipSource codec contents networkId with
  | ok source =>
    obtain ⟨isCanonical, committee, -⟩ := parse_ok parsed
    exact iff_of_true ⟨isCanonical, committee, usable_of_parsed digestLength sameKeys parsed⟩ nofun
  | error error =>
    cases error with
    | value => exact iff_of_false (fun h => nomatch h.1) fun h => h rfl
    | source =>
      refine iff_of_true ⟨rfl, fun epoch members committee same => ?_⟩ nofun
      have accepted := parse_canonical shallow committee
      rw [← same, parsed] at accepted
      cases accepted

/-- Only the keys of the samples count for a ballot. -/
def sampleBallots : BallotCodec where
  sha256 := sampleCodec.sha256
  loads _ := .error .decodeError
  tooDeep _ := false
  isPublicKey := sampleCodec.isPublicKey
  verify := sampleCodec.verify

theorem sampleCodec_digest (input : Bytes) : (sampleCodec.sha256 input).length = 32 := by
  show (if input = sampleSource 0 then sampleDigest
    else if input = sampleSource 1 then sampleNextDigest else sha256 input).length = 32
  split
  · decide
  · split
    · decide
    · exact length_sha256 input

theorem membership_source_settles_iff_sample :
    (parseGuardianMembershipSource sampleCodec (sampleSource 0) sampleNetwork).toBool = true ∧
      Settles sampleCodec sampleBallots (sampleSource 0) sampleNetwork := by
  have accepted :
      (parseGuardianMembershipSource sampleCodec (sampleSource 0) sampleNetwork).toBool = true := by
    decide +kernel
  have shallow : sampleCodec.Shallow := fun _ _ => rfl
  have sameKeys : sampleBallots.isPublicKey = sampleCodec.isPublicKey := rfl
  rw [membership_source_settles_iff shallow sampleCodec_digest sameKeys, ← parse_value]
  refine ⟨accepted, fun raised => ?_⟩
  rw [raised] at accepted
  cases accepted

/-! ### An integer of 4301 ones -/

theorem fromUtf8_ones (n : Nat) : fromUtf8 (List.replicate n 49) = some (List.replicate n 49) := by
  have ascii : IsAscii (List.replicate n 49) := fun c hc => by
    rw [(List.mem_replicate.mp hc).2]
    decide
  have read := fromUtf8_encodeAscii ascii
  rwa [encodeAscii, List.map_replicate] at read

theorem scanAtom_ones (floatRepr : Str → Str) {n : Nat} (long : 4300 ≤ n) :
    scanAtom floatRepr (49 :: List.replicate n 49) = .error .valueError := by
  have ones : ∀ c ∈ List.replicate n 49, isDigit c = true := fun c hc => by
    rw [(List.mem_replicate.mp hc).2]
    decide
  have digits : integerPart (49 :: List.replicate n 49) = some (49 :: List.replicate n 49, []) := by
    rw [integerPart, if_neg (by decide), if_pos (by decide), List.takeWhile_eq_self_iff.mpr ones,
      List.dropWhile_eq_nil_iff.mpr ones]
  have tooMany : maxStrDigits < (49 :: List.replicate n 49).length := by
    rw [List.length_cons, List.length_replicate, maxStrDigits]
    omega
  show scanUnsigned floatRepr false (49 :: List.replicate n 49) = .error .valueError
  rw [scanUnsigned, digits]
  exact if_pos tooMany

theorem stopsAtLongInteger_ones {n : Nat} (long : 4300 ≤ n) :
    StopsAtLongInteger sampleCodec (List.replicate (n + 1) 49) := by
  refine ⟨List.replicate (n + 1) 49, fromUtf8_ones (n + 1), ?_⟩
  have value (fuel : Nat) :
      scanValueHooked sampleCodec.floatRepr (fuel + 1) (49 :: List.replicate n 49) =
        .error (.load .valueError) := by
    rw [scanValueHooked, scanAtom_ones sampleCodec.floatRepr long]
    · rfl
    all_goals nofun
  have start : skipSpace (49 :: List.replicate n 49) = 49 :: List.replicate n 49 := rfl
  have notDeep : ¬ sampleCodec.tooDeep (49 :: List.replicate n 49) = true := nofun
  have noMark : (49 :: List.replicate n 49).head? ≠ some 0xFEFF := by simp
  rw [List.replicate_succ, Json.loadsHooked, if_neg notDeep, if_neg noMark, start, value]

/-- The integer's `ValueError` leaves the parser. -/
theorem long_integer_raised :
    ¬ Settles sampleCodec sampleBallots (List.replicate 4301 49) sampleNetwork := by
  have raised : parseGuardianMembershipSource sampleCodec (List.replicate 4301 49) sampleNetwork =
      .error .value := by
    refine parse_value.mpr ⟨by decide, ?_, ?_, stopsAtLongInteger_ones (le_refl 4300)⟩
    · exact List.cons_ne_nil 49 (List.replicate 4300 49)
    · rw [List.length_replicate, maxMembershipSourceBytes]
      decide
  rw [Settles, raised]
  rintro ⟨isOwn, -⟩
  cases isOwn

end Prometheus.Jaeger.Membership
