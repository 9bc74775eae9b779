import Prometheus.Client.QuietFeed
import Prometheus.Client.RuleBinding

/-!
# What the digest of a snapshot identifies

What `digest_snapshot` hashes determines the order of the snapshot and its entries, and does not
depend on how the entries were supplied.
-/

namespace Prometheus.Client

open Prometheus.Codec Prometheus.Machine

variable {codec : RuleCodec} {request request' : SyncRequest}

/-- Two preimages agree exactly when the orders do, and the identities up to their order. -/
theorem snapshotPreimage_eq_iff {order order' : UInt64} {as bs : List Identity}
    (ha : ∀ a ∈ as, a.Sized) (hb : ∀ b ∈ bs, b.Sized) (la : as.length < 256 ^ 8)
    (lb : bs.length < 256 ^ 8) :
    snapshotPreimage order as = snapshotPreimage order' bs ↔ order = order' ∧ as.Perm bs := by
  constructor
  · exact snapshotPreimage_inj ha hb la lb
  · rintro ⟨rfl, perm⟩
    exact snapshotPreimage_perm order perm

/-- The identities of an attempt have the lengths that the encoding needs. -/
theorem Prepares.sized {prepared : PreparedSync}
    {verified : List (RuleStateMetadata × VerifiedManifestOutpoint)}
    {fetched : List (RuleMetadataSnapshotEntry × Identity)} {order : UInt64}
    (h : Prepares codec request prepared verified fetched order) (ids : HashIds request.observe) :
    (∀ a ∈ fetched.map Prod.snd, a.Sized) ∧ (fetched.map Prod.snd).length < 256 ^ 8 := by
  obtain ⟨bounded, sized, -⟩ := h.identities ids
  constructor
  · rintro _ isIdentity
    obtain ⟨f, hf, rfl⟩ := List.mem_map.mp isIdentity
    exact (sized f hf).1
  · rw [List.length_map]
    exact bounded.trans_lt (by decide)

/-- The same entries in another order, with the same sources. -/
structure Reorders (request request' : SyncRequest) : Prop where
  allowed : request'.stubAllowed = request.stubAllowed
  entries : request'.entries.Perm request.entries
  explicit : request'.emptySnapshotOrder = request.emptySnapshotOrder
  observe : request'.observe = request.observe
  content : request'.fetchRuleContent = request.fetchRuleContent

theorem Reorders.symm (h : Reorders request request') : Reorders request' request :=
  ⟨h.allowed.symm, h.entries.symm, h.explicit.symm, h.observe.symm, h.content.symm⟩

theorem Reorders.continues (h : Reorders request request') : request.Continues request' where
  allowed := h.allowed
  entries := h.entries
  explicit := by
    rw [h.explicit]
    cases request.emptySnapshotOrder with
    | none => exact .none
    | some order => exact .some (UInt64.le_refl order)
  observed := by
    intro entry _ metadata observation isObserved
    exact ⟨by rw [h.content], observation.observedVirtualDaaScore, UInt64.le_refl _,
      h.observe ▸ isObserved⟩

/-- A reordered request has a snapshot of the same identities, whose order is not below. -/
theorem Reorders.snapshot (h : Reorders request request') {rows : List Row} {order : UInt64}
    (snapshot : Snapshot codec request rows order) :
    ∃ rows' order', Snapshot codec request' rows' order' ∧ order ≤ order' ∧
      (rows'.map Row.identity).Perm (rows.map Row.identity) := by
  obtain ⟨rows', order', snapshot', later, -, identities, -⟩ := snapshot.continues h.continues
  have readings : ∀ entry ∈ request'.entries, request'.reading entry = request.reading entry := by
    intro entry _
    rw [SyncRequest.reading, SyncRequest.reading, h.observe]
  exact ⟨rows', order', snapshot', later, identities readings⟩

/-- The order of a snapshot is decided by its request. -/
theorem Snapshot.order_unique {rows rows' : List Row} {order order' : UInt64}
    (snapshot : Snapshot codec request rows order) (snapshot' : Snapshot codec request rows' order') :
    order = order' := by
  have same := (prepareSync_of_snapshot snapshot).symm.trans (prepareSync_of_snapshot snapshot')
  exact congrArg (fun prepared => prepared.candidate.order) (Option.some.inj same)

theorem Reorders.candidate (h : Reorders request request') {prepared : PreparedSync}
    (isPrepared : prepareSync codec request = some prepared) :
    ∃ prepared', prepareSync codec request' = some prepared' ∧
      prepared'.candidate = prepared.candidate := by
  obtain ⟨rows, order, snapshot, rfl⟩ := snapshot_of_prepareSync isPrepared
  obtain ⟨rows', order', snapshot', above, perm⟩ := h.snapshot snapshot
  -- and back again, so the orders are equal
  obtain ⟨_, order'', snapshot'', below, -⟩ := h.symm.snapshot snapshot'
  obtain rfl := snapshot.order_unique snapshot''
  obtain rfl := UInt64.le_antisymm above below
  exact ⟨_, prepareSync_of_snapshot snapshot', candidate_perm codec order perm⟩

/-- A reordered request gets the checkpoint of the request, or none as the request does. -/
theorem Reorders.checkpoint (h : Reorders request request') :
    (prepareSync codec request').map PreparedSync.candidate =
      (prepareSync codec request).map PreparedSync.candidate := by
  cases isPrepared : prepareSync codec request with
  | some prepared =>
    obtain ⟨prepared', isPrepared', same⟩ := h.candidate isPrepared
    rw [isPrepared', Option.map_some, Option.map_some, same]
  | none =>
    cases isPrepared' : prepareSync codec request' with
    | none => rfl
    | some prepared' =>
      obtain ⟨prepared, isSome, -⟩ := h.symm.candidate isPrepared'
      rw [isPrepared] at isSome
      cases isSome

/-- What is hashed for a snapshot does not depend on the order of the entries, so that attempts on
the same entries have the same checkpoint; and it determines the order of the snapshot and the
identities of its entries, for the snapshots of attempts and for all that a 64-bit length can
describe. -/
theorem snapshot_identity :
    (∀ (order : UInt64) (as bs : List Identity), as.Perm bs →
      snapshotPreimage order as = snapshotPreimage order bs) ∧
    (∀ (order order' : UInt64) (as bs : List Identity), (∀ a ∈ as, a.Sized) →
      (∀ b ∈ bs, b.Sized) → as.length < 256 ^ 8 → bs.length < 256 ^ 8 →
      (snapshotPreimage order as = snapshotPreimage order' bs ↔ order = order' ∧ as.Perm bs)) ∧
    ∀ (codec : RuleCodec) (request request' : SyncRequest),
      (Reorders request request' →
        (prepareSync codec request').map PreparedSync.candidate =
          (prepareSync codec request).map PreparedSync.candidate) ∧
      ∀ prepared prepared' verified verified' fetched fetched' order order',
        Prepares codec request prepared verified fetched order →
        Prepares codec request' prepared' verified' fetched' order' →
        HashIds request.observe → HashIds request'.observe →
        (snapshotPreimage order (fetched.map Prod.snd) =
            snapshotPreimage order' (fetched'.map Prod.snd) ↔
          order = order' ∧ (fetched.map Prod.snd).Perm (fetched'.map Prod.snd)) := by
  refine ⟨fun order _ _ => snapshotPreimage_perm order,
    fun _ _ _ _ => snapshotPreimage_eq_iff, fun codec request request' => ⟨Reorders.checkpoint, ?_⟩⟩
  intro _ _ _ _ _ _ _ _ h h' ids ids'
  exact snapshotPreimage_eq_iff (h.sized ids).1 (h'.sized ids').1 (h.sized ids).2 (h'.sized ids').2

theorem snapshot_identity_swapped :
    snapshotPreimage 7 [sampleIdentity 7, sampleIdentity 9] =
        snapshotPreimage 7 [sampleIdentity 9, sampleIdentity 7] ∧
      (snapshotPreimage 7 [sampleIdentity 7] = snapshotPreimage 7 [sampleIdentity 9] ↔
        (7 : UInt64) = 7 ∧ [sampleIdentity 7].Perm [sampleIdentity 9]) := by
  have lengths : sampleRuleId.length < 256 ^ 8 ∧ sampleCid.length < 256 ^ 8 ∧
      (List.replicate 64 (97 : UInt8)).length < 256 ^ 8 := by decide
  have sized (v : UInt64) : (sampleIdentity v).Sized := ⟨lengths.1, lengths.2.1, lengths.2.2⟩
  refine ⟨snapshot_identity.1 7 _ _ (.swap _ _ []), snapshot_identity.2.1 7 7 _ _ ?_ ?_ ?_ ?_⟩
  · simpa using sized 7
  · simpa using sized 9
  · decide
  · decide

end Prometheus.Client
