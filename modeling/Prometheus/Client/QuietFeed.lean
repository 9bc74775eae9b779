import Prometheus.Client.CheckpointSafety
import Prometheus.Client.YaraScanner

/-!
# Synchronising a feed that stays the same

A sequence of synchronisations that observe the same rules, each at a virtual DAA score that has not
decreased. The order of the checkpoint is the smallest score and its digest is over all of them, so a
synchronisation is refused while the smallest score is still the stored one and another one has grown:
the module treats that as an equivocation at one order. Every other one is accepted and installs the
same rules.
-/

namespace Prometheus.Client

open Prometheus.Codec Prometheus.Machine

/-! ## Entries -/

/-- The outpoint of an observation. -/
def VerifiedManifestOutpoint.outpoint (observation : VerifiedManifestOutpoint) : Bytes × UInt32 :=
  (observation.transactionId, observation.index)

theorem verifyEntries_eq_some
    {observe : RuleSyncEntry → Option (RuleStateMetadata × VerifiedManifestOutpoint)}
    {entries : List RuleSyncEntry} {outpoints : List (Bytes × UInt32)} {ruleIds cids : List Bytes}
    {verified : List (RuleStateMetadata × VerifiedManifestOutpoint)} :
    verifyEntries observe entries outpoints ruleIds cids = some verified ↔
      List.Forall₂ (fun entry v => observe entry = some v) entries verified ∧
        Fresh outpoints (verified.map fun v => v.2.outpoint) ∧
        Fresh ruleIds (verified.map fun v => v.1.ruleId) ∧
        Fresh cids (verified.map fun v => v.1.ipfsCid) := by
  induction entries generalizing outpoints ruleIds cids verified with
  | nil =>
    rw [verifyEntries, List.forall₂_nil_left_iff]
    constructor
    · intro same
      obtain rfl := Option.some.inj same
      exact ⟨rfl, fresh_nil _, fresh_nil _, fresh_nil _⟩
    · rintro ⟨rfl, -⟩
      rfl
  | cons entry entries ih =>
    rw [verifyEntries]
    cases isObserved : observe entry with
    | none =>
      constructor
      · intro h
        cases h
      · rintro ⟨matched, -⟩
        obtain ⟨v, rest, isSome, -, -⟩ := List.forall₂_cons_left_iff.mp matched
        rw [isObserved] at isSome
        cases isSome
    | some v =>
      obtain ⟨metadata, observation⟩ := v
      dsimp only
      constructor
      · intro h
        split at h
        · cases h
        rename_i unseen
        simp only [not_or] at unseen
        obtain ⟨rest, isRest, rfl⟩ := Option.map_eq_some_iff.mp h
        obtain ⟨matched, freshOutpoints, freshIds, freshCids⟩ := ih.mp isRest
        exact ⟨.cons isObserved matched, fresh_cons.mpr ⟨unseen.1, freshOutpoints⟩,
          fresh_cons.mpr ⟨unseen.2.1, freshIds⟩, fresh_cons.mpr ⟨unseen.2.2, freshCids⟩⟩
      · rintro ⟨matched, freshOutpoints, freshIds, freshCids⟩
        obtain ⟨v, rest, isSome, tail, rfl⟩ := List.forall₂_cons_left_iff.mp matched
        obtain rfl := Option.some.inj (isObserved.symm.trans isSome)
        obtain ⟨newOutpoint, freshOutpoints⟩ := fresh_cons.mp freshOutpoints
        obtain ⟨newId, freshIds⟩ := fresh_cons.mp freshIds
        obtain ⟨newCid, freshCids⟩ := fresh_cons.mp freshCids
        have unseen : ¬ ((observation.transactionId, observation.index) ∈ outpoints ∨
            metadata.ruleId ∈ ruleIds ∨ metadata.ipfsCid ∈ cids) := by
          rintro (seen | seen | seen)
          · exact newOutpoint seen
          · exact newId seen
          · exact newCid seen
        rw [if_neg unseen]
        exact Option.map_eq_some_iff.mpr
          ⟨rest, ih.mpr ⟨tail, freshOutpoints, freshIds, freshCids⟩, rfl⟩

/-! ## Rows -/

/-- What one entry contributes to a snapshot. -/
structure Row where
  metadata : RuleStateMetadata
  observation : VerifiedManifestOutpoint
  content : Bytes
  rule : CompiledRule

def Row.identity (row : Row) : Identity := identityOf row.metadata row.observation

def Row.fetched (row : Row) : RuleMetadataSnapshotEntry × Identity :=
  (⟨row.metadata, row.content⟩, row.identity)

/-- An entry is observed, its content is fetched and its rule is compiled. -/
structure Gives (codec : RuleCodec) (request : SyncRequest) (entry : RuleSyncEntry) (row : Row) :
    Prop where
  observed : request.observe entry = some (row.metadata, row.observation)
  isCid : (validateCanonicalRawCid codec row.metadata.ipfsCid).isSome = true
  isContent : request.fetchRuleContent row.metadata.ipfsCid = some row.content
  compiled : compileFields codec ⟨row.metadata, row.content⟩ = some row.rule

/-- The rows can be installed together. -/
structure Together (rows : List Row) : Prop where
  bounded : rows.length ≤ maxRulesPerSnapshot
  outpoints : (rows.map fun row => row.observation.outpoint).Nodup
  ruleIds : (rows.map fun row => row.metadata.ruleId).Nodup
  cids : (rows.map fun row => row.metadata.ipfsCid).Nodup
  valid : validateRuleSet (rows.map Row.rule) = true

theorem fetchEntries_eq_some {codec : RuleCodec} {fetchRuleContent : Bytes → Option Bytes}
    {verified : List (RuleStateMetadata × VerifiedManifestOutpoint)}
    {fetched : List (RuleMetadataSnapshotEntry × Identity)} :
    fetchEntries codec fetchRuleContent verified = some fetched ↔
      List.Forall₂ (fun v f => (validateCanonicalRawCid codec v.1.ipfsCid).isSome = true ∧
        ∃ content, fetchRuleContent v.1.ipfsCid = some content ∧
          f = (⟨v.1, content⟩, identityOf v.1 v.2)) verified fetched := by
  induction verified generalizing fetched with
  | nil =>
    rw [fetchEntries, List.forall₂_nil_left_iff]
    constructor
    · intro same
      exact (Option.some.inj same).symm
    · rintro rfl
      rfl
  | cons v verified ih =>
    obtain ⟨metadata, observation⟩ := v
    rw [fetchEntries]
    constructor
    · intro h
      split at h
      · rename_i digest content isCid isContent
        obtain ⟨rest, isRest, rfl⟩ := Option.map_eq_some_iff.mp h
        exact .cons ⟨by rw [isCid]; rfl, content, isContent, rfl⟩ (ih.mp isRest)
      · cases h
    · intro matched
      obtain ⟨f, rest, ⟨isCid, content, isContent, rfl⟩, tail, rfl⟩ :=
        List.forall₂_cons_left_iff.mp matched
      obtain ⟨digest, isCid⟩ := Option.isSome_iff_exists.mp isCid
      simp only [isCid, isContent]
      exact Option.map_eq_some_iff.mpr ⟨rest, ih.mpr tail, rfl⟩

/-- The three loops walk over the same rows. -/
theorem exists_rows {codec : RuleCodec} {request : SyncRequest} {entries : List RuleSyncEntry}
    {verified : List (RuleStateMetadata × VerifiedManifestOutpoint)}
    {fetched : List (RuleMetadataSnapshotEntry × Identity)} {rules : List CompiledRule}
    (observed : List.Forall₂ (fun entry v => request.observe entry = some v) entries verified)
    (contents : fetchEntries codec request.fetchRuleContent verified = some fetched)
    (compiled : List.Forall₂ (fun entry rule => compileFields codec entry = some rule)
      (fetched.map Prod.fst) rules) :
    ∃ rows, List.Forall₂ (Gives codec request) entries rows ∧
      verified = rows.map (fun row => (row.metadata, row.observation)) ∧
      fetched = rows.map Row.fetched ∧ rules = rows.map Row.rule := by
  rw [fetchEntries_eq_some] at contents
  induction observed generalizing fetched rules with
  | nil =>
    obtain rfl := List.forall₂_nil_left_iff.mp contents
    obtain rfl := List.forall₂_nil_left_iff.mp compiled
    exact ⟨[], .nil, rfl, rfl, rfl⟩
  | @cons entry v entries verified isObserved observed ih =>
    obtain ⟨f, others, ⟨isCid, content, isContent, rfl⟩, contentsTail, rfl⟩ :=
      List.forall₂_cons_left_iff.mp contents
    obtain ⟨rule, otherRules, isCompiled, compiledTail, rfl⟩ :=
      List.forall₂_cons_left_iff.mp compiled
    obtain ⟨rows, gives, rfl, rfl, rfl⟩ := ih contentsTail compiledTail
    exact ⟨⟨v.1, v.2, content, rule⟩ :: rows, .cons ⟨isObserved, isCid, isContent, isCompiled⟩ gives,
      rfl, rfl, rfl⟩

/-- What an attempt has before the lock. -/
structure Snapshot (codec : RuleCodec) (request : SyncRequest) (rows : List Row) (order : UInt64) :
    Prop where
  allowed : request.stubAllowed = true
  gives : List.Forall₂ (Gives codec request) request.entries rows
  together : Together rows
  explicit : request.entries ≠ [] → request.emptySnapshotOrder = none
  ordered : snapshotOrder (rows.map Row.identity) request.emptySnapshotOrder = some order

theorem map_fetched_fst (rows : List Row) :
    (rows.map Row.fetched).map Prod.fst = rows.map fun row => ⟨row.metadata, row.content⟩ := by
  rw [List.map_map]
  rfl

theorem map_fetched_snd (rows : List Row) :
    (rows.map Row.fetched).map Prod.snd = rows.map Row.identity := by
  rw [List.map_map]
  rfl

theorem snapshot_of_prepareSync {codec : RuleCodec} {request : SyncRequest}
    {prepared : PreparedSync} (h : prepareSync codec request = some prepared) :
    ∃ rows order, Snapshot codec request rows order ∧
      prepared = ⟨candidateCheckpoint codec order (rows.map Row.identity), rows.map Row.rule⟩ := by
  obtain ⟨verified, fetched, order, prepares⟩ := prepareSync_some h
  obtain ⟨observed, outpoints, ruleIds, cids⟩ := verifyEntries_eq_some.mp prepares.observed
  have isPrepared := prepares.rules
  rw [prepare] at isPrepared
  split at isPrepared
  · cases isPrepared
  rename_i bounded
  split at isPrepared
  · cases isPrepared
  rename_i rules isCompiled
  split at isPrepared
  · rename_i valid
    obtain rfl := Option.some.inj isPrepared
    obtain ⟨compiled, -⟩ := compileEntries_eq_some.mp isCompiled
    obtain ⟨rows, gives, rfl, rfl, sameRules⟩ := exists_rows observed prepares.contents compiled
    have explicit : request.entries ≠ [] → request.emptySnapshotOrder = none := by
      intro some'
      unfold prepareSync at h
      split at h
      · cases h
      split at h
      · cases h
      rename_i unmixed
      simp only [not_or, not_and] at unmixed
      simpa using unmixed.2 some'
    have ordered := prepares.ordered
    have candidate := prepares.candidate
    rw [map_fetched_snd] at ordered candidate
    rw [sameRules] at valid
    refine ⟨rows, order, ⟨prepares.allowed, gives, ⟨?_, ?_, ?_, ?_, valid⟩, explicit, ordered⟩, ?_⟩
    · simpa using bounded
    · simpa [Function.comp_def] using fresh_iff.mp outpoints
    · simpa [Function.comp_def] using fresh_iff.mp ruleIds
    · simpa [Function.comp_def] using fresh_iff.mp cids
    · obtain ⟨candidate', rules'⟩ := prepared
      simp only at candidate sameRules
      rw [candidate, sameRules]
  · cases isPrepared

/-! ## The length of a checkpoint -/

theorem length_serdeByte (b : UInt8) : (serdeByte b).length ≤ 6 := by
  revert b
  decide +kernel

theorem length_serdeString (s : Bytes) : (serdeString s).length ≤ 6 * s.length + 2 := by
  have each : (s.flatMap serdeByte).length ≤ 6 * s.length := by
    induction s with
    | nil => simp
    | cons b s ih =>
      have := length_serdeByte b
      simp only [List.flatMap_cons, List.length_append, List.length_cons]
      omega
  simp only [serdeString, List.length_append, List.length_cons, List.length_nil]
  omega

theorem length_serdeNat (n : UInt64) : (serdeNat n.toNat).length ≤ 20 := by
  have small : n.toNat < 10 ^ 20 := Nat.lt_trans n.toNat_lt (by decide)
  have digits := Nat.toDigits_length 10 n.toNat 20 (by decide) small
  simpa [serdeNat, encodeAscii] using digits

/-- A candidate always fits into a checkpoint file. -/
theorem candidate_bounded (codec : RuleCodec) (order : UInt64) (identities : List Identity) :
    (candidateCheckpoint codec order identities).toVec.length ≤ maxCheckpointBytes := by
  have digest := length_serdeString (digestSnapshot codec order identities)
  rw [(digestSnapshot_shape codec order identities).1] at digest
  have digits := length_serdeNat order
  have fixed : (serdeNat checkpointSchemaVersion.toNat).length +
      (serdeString checkpointKind).length + (serdeString observationNetworkId).length +
      ((serdeString (ascii "schema_version")).length + (serdeString (ascii "kind")).length +
        (serdeString (ascii "network_id")).length + (serdeString (ascii "order")).length +
        (serdeString (ascii "snapshot_digest")).length) ≤ 200 := by decide
  simp only [Checkpoint.toVec, candidateCheckpoint, serdeStruct, List.map_cons, List.map_nil,
    List.intercalate_cons_cons, List.intercalate_singleton, List.length_append, List.length_cons,
    List.length_nil, maxCheckpointBytes]
  omega

theorem prepareSync_of_snapshot {codec : RuleCodec} {request : SyncRequest} {rows : List Row}
    {order : UInt64} (h : Snapshot codec request rows order) :
    prepareSync codec request =
      some ⟨candidateCheckpoint codec order (rows.map Row.identity), rows.map Row.rule⟩ := by
  have sameLength := h.gives.length_eq
  have bounded : ¬ (maxRulesPerSnapshot < request.entries.length ∨
      (request.entries ≠ [] ∧ request.emptySnapshotOrder.isSome = true)) := by
    rintro (large | ⟨some', mixed⟩)
    · have := h.together.bounded
      omega
    · rw [h.explicit some'] at mixed
      cases mixed
  have observed : verifyEntries request.observe request.entries [] [] [] =
      some (rows.map fun row => (row.metadata, row.observation)) := by
    refine verifyEntries_eq_some.mpr ⟨?_, fresh_iff.mpr ?_, fresh_iff.mpr ?_, fresh_iff.mpr ?_⟩
    · exact List.forall₂_map_right_iff.mpr (h.gives.imp fun _ _ gives => gives.observed)
    · simpa [Function.comp_def] using h.together.outpoints
    · simpa [Function.comp_def] using h.together.ruleIds
    · simpa [Function.comp_def] using h.together.cids
  have contents : fetchEntries codec request.fetchRuleContent
      (rows.map fun row => (row.metadata, row.observation)) = some (rows.map Row.fetched) := by
    refine fetchEntries_eq_some.mpr (List.forall₂_map_left_iff.mpr
      (List.forall₂_map_right_iff.mpr (List.forall₂_same.mpr fun row isRow => ?_)))
    obtain ⟨entry, -, gives⟩ := exists_of_mem_right h.gives isRow
    exact ⟨gives.isCid, row.content, gives.isContent, rfl⟩
  have compiled : compileEntries codec (rows.map fun row => ⟨row.metadata, row.content⟩) [] =
      some (rows.map Row.rule) := by
    refine compileEntries_eq_some.mpr ⟨List.forall₂_map_left_iff.mpr
      (List.forall₂_map_right_iff.mpr (List.forall₂_same.mpr fun row isRow => ?_)),
      fresh_iff.mpr ?_⟩
    · obtain ⟨entry, -, gives⟩ := exists_of_mem_right h.gives isRow
      exact gives.compiled
    · simpa [Function.comp_def] using h.together.ruleIds
  have prepared : prepare codec (rows.map fun row => ⟨row.metadata, row.content⟩) =
      some (rows.map Row.rule) := by
    rw [prepare, List.length_map, if_neg (Nat.not_lt.mpr h.together.bounded), compiled]
    simp [h.together.valid]
  have fits := Nat.not_lt.mpr (candidate_bounded codec order (rows.map Row.identity))
  rw [prepareSync, if_neg (not_not.mpr h.allowed), if_neg bounded, observed]
  simp only [contents, map_fetched_fst, map_fetched_snd, prepared, h.ordered, if_neg fits]

/-! ## The digest does not depend on the order of the entries -/

theorem Identity.le_iff {a b : Identity} :
    a.le b = true ↔ a.key.1 < b.key.1 ∨ a.key.1 = b.key.1 ∧ a.key.2 ≤ b.key.2 := by
  simp [Identity.le]

theorem Identity.key_inj {a b : Identity} (h : a.key = b.key) : a = b := by
  obtain ⟨ruleId, cid, transactionId, index, blockDaa, virtualDaa⟩ := a
  obtain ⟨ruleId', cid', transactionId', index', blockDaa', virtualDaa'⟩ := b
  simp only [Identity.key, Prod.mk.injEq, List.cons.injEq, and_true] at h
  obtain ⟨⟨rfl, rfl, rfl⟩, index, blockDaa, virtualDaa⟩ := h
  rw [UInt32.toNat_inj.mp index, UInt64.toNat_inj.mp blockDaa, UInt64.toNat_inj.mp virtualDaa]

theorem bytes_trichotomy (a b : List Bytes) : a < b ∨ a = b ∨ b < a := by
  by_cases less : a < b
  · exact .inl less
  · by_cases greater : b < a
    · exact .inr (.inr greater)
    · exact .inr (.inl (Std.le_antisymm (List.not_lt.mp greater) (List.not_lt.mp less)))

instance : Std.Total fun a b : Identity => a.le b = true where
  total a b := by
    rw [Identity.le_iff, Identity.le_iff]
    rcases bytes_trichotomy a.key.1 b.key.1 with less | same | greater
    · exact .inl (.inl less)
    · rcases le_total a.key.2 b.key.2 with le | ge
      · exact .inl (.inr ⟨same, le⟩)
      · exact .inr (.inr ⟨same.symm, ge⟩)
    · exact .inr (.inl greater)

instance : IsTrans Identity fun a b => a.le b = true where
  trans a b c hab hbc := by
    rw [Identity.le_iff] at hab hbc ⊢
    rcases hab with less | ⟨same, le⟩
    · rcases hbc with less' | ⟨same', -⟩
      · exact .inl (List.lt_trans less less')
      · exact .inl (same' ▸ less)
    · rcases hbc with less' | ⟨same', le'⟩
      · exact .inl (same ▸ less')
      · exact .inr ⟨same.trans same', le.trans le'⟩

instance : Std.Antisymm fun a b : Identity => a.le b = true where
  antisymm a b hab hba := by
    rw [Identity.le_iff] at hab hba
    rcases hab with less | ⟨same, le⟩
    · rcases hba with less' | ⟨same', -⟩
      · exact absurd less' (List.lt_asymm less)
      · exact absurd less (same' ▸ List.lt_irrefl _)
    · rcases hba with less' | ⟨-, le'⟩
      · exact absurd less' (same ▸ List.lt_irrefl _)
      · exact Identity.key_inj (Prod.ext same (le_antisymm le le'))

/-- What is hashed for a snapshot does not depend on the order of its identities. -/
theorem snapshotPreimage_perm (order : UInt64) {identities others : List Identity}
    (perm : identities.Perm others) :
    snapshotPreimage order identities = snapshotPreimage order others := by
  have sorted : identities.insertionSort (fun a b => a.le b) =
      others.insertionSort fun a b => a.le b := by
    refine List.Perm.eq_of_pairwise' (r := fun a b : Identity => a.le b = true)
      (List.pairwise_insertionSort _ _) (List.pairwise_insertionSort _ _) ?_
    exact (List.perm_insertionSort _ _).trans (perm.trans (List.perm_insertionSort _ _).symm)
  rw [snapshotPreimage, snapshotPreimage, sorted, perm.length_eq]

theorem candidate_perm (codec : RuleCodec) (order : UInt64) {identities others : List Identity}
    (perm : identities.Perm others) :
    candidateCheckpoint codec order identities = candidateCheckpoint codec order others := by
  rw [candidateCheckpoint, candidateCheckpoint, digestSnapshot, digestSnapshot,
    snapshotPreimage_perm order perm]

/-! ## Later observations of the same entries -/

/-- The virtual DAA score at which a request observes an entry. -/
def SyncRequest.reading (request : SyncRequest) (entry : RuleSyncEntry) : Option UInt64 :=
  (request.observe entry).map fun observed => observed.2.observedVirtualDaaScore

/-- The smallest score of a request. -/
def SyncRequest.lowest (request : SyncRequest) : Option UInt64 :=
  (request.entries.filterMap request.reading).min?

/-- A later request for the same entries: each one is observed as before with the same content, at a
score that has not decreased. Without entries, the order that is given instead has not decreased. -/
structure SyncRequest.Continues (request later : SyncRequest) : Prop where
  allowed : later.stubAllowed = request.stubAllowed
  entries : later.entries.Perm request.entries
  explicit : Option.Rel (fun order order' => order ≤ order') request.emptySnapshotOrder
    later.emptySnapshotOrder
  observed : ∀ entry ∈ request.entries, ∀ metadata observation,
    request.observe entry = some (metadata, observation) →
    later.fetchRuleContent metadata.ipfsCid = request.fetchRuleContent metadata.ipfsCid ∧
    ∃ virtualDaa, observation.observedVirtualDaaScore ≤ virtualDaa ∧
      later.observe entry = some (metadata, { observation with observedVirtualDaaScore := virtualDaa })

/-- The row of an entry and a later row of it. -/
structure Ages (row later : Row) : Prop where
  metadata : later.metadata = row.metadata
  content : later.content = row.content
  rule : later.rule = row.rule
  outpoint : later.observation.outpoint = row.observation.outpoint
  grown : row.observation.observedVirtualDaaScore ≤ later.observation.observedVirtualDaaScore

variable {codec : CheckpointCodec} {request later : SyncRequest} {rows rows' : List Row}

theorem map_of_ages {α : Type} {f : Row → α} (ages : List.Forall₂ Ages rows rows')
    (same : ∀ row later, Ages row later → f later = f row) : rows'.map f = rows.map f := by
  induction ages with
  | nil => rfl
  | cons related _ ih => rw [List.map_cons, List.map_cons, ih, same _ _ related]

theorem Together.perm (h : Together rows) (perm : rows'.Perm rows) : Together rows' where
  bounded := perm.length_eq ▸ h.bounded
  outpoints := (perm.map _).nodup_iff.mpr h.outpoints
  ruleIds := (perm.map _).nodup_iff.mpr h.ruleIds
  cids := (perm.map _).nodup_iff.mpr h.cids
  valid := by
    have valid := h.valid
    have sameRules := perm.map Row.rule
    simp only [validateRuleSet, Bool.and_eq_true, List.all_eq_true, decide_eq_true_eq] at valid ⊢
    exact ⟨fun rule isRule => valid.1 rule (sameRules.mem_iff.mp isRule),
      (sameRules.map _).nodup_iff.mpr valid.2⟩

theorem Together.ages (h : Together rows) (ages : List.Forall₂ Ages rows rows') :
    Together rows' where
  bounded := ages.length_eq ▸ h.bounded
  outpoints := (map_of_ages ages fun _ _ related => related.outpoint) ▸ h.outpoints
  ruleIds := (map_of_ages ages fun _ _ related =>
    congrArg RuleStateMetadata.ruleId related.metadata) ▸ h.ruleIds
  cids := (map_of_ages ages fun _ _ related =>
    congrArg RuleStateMetadata.ipfsCid related.metadata) ▸ h.cids
  valid := (map_of_ages ages fun _ _ related => related.rule) ▸ h.valid

/-- The later rows of the entries; they are the same if all scores are. -/
theorem exists_later {codec : RuleCodec} {entries : List RuleSyncEntry}
    (continues : request.Continues later) (isEntry : ∀ entry ∈ entries, entry ∈ request.entries)
    (gives : List.Forall₂ (Gives codec request) entries rows) :
    ∃ rows', List.Forall₂ (Gives codec later) entries rows' ∧ List.Forall₂ Ages rows rows' ∧
      ((∀ entry ∈ entries, later.reading entry = request.reading entry) → rows' = rows) := by
  induction gives with
  | nil => exact ⟨[], .nil, .nil, fun _ => rfl⟩
  | @cons entry row entries rows given gives ih =>
    obtain ⟨rows', gives', ages, same⟩ :=
      ih fun entry hentry => isEntry entry (List.mem_cons_of_mem _ hentry)
    obtain ⟨sameContent, virtualDaa, grown, isObserved⟩ :=
      continues.observed entry (isEntry entry List.mem_cons_self) _ _ given.observed
    refine ⟨⟨row.metadata, { row.observation with observedVirtualDaaScore := virtualDaa },
      row.content, row.rule⟩ :: rows', .cons ⟨isObserved, given.isCid, ?_, given.compiled⟩ gives',
      .cons ⟨rfl, rfl, rfl, rfl, grown⟩ ages, fun readings => ?_⟩
    · rw [sameContent]
      exact given.isContent
    · have sameReading := readings entry List.mem_cons_self
      rw [SyncRequest.reading, SyncRequest.reading, isObserved, given.observed] at sameReading
      obtain rfl : virtualDaa = row.observation.observedVirtualDaaScore :=
        Option.some.inj sameReading
      rw [same fun entry hentry => readings entry (List.mem_cons_of_mem _ hentry)]

theorem virtualDaa_map (rows : List Row) :
    (rows.map Row.identity).map Identity.virtualDaa =
      rows.map fun row => row.observation.observedVirtualDaaScore := by
  rw [List.map_map]
  rfl

theorem filterMap_reading {codec : RuleCodec} {entries : List RuleSyncEntry}
    (gives : List.Forall₂ (Gives codec request) entries rows) :
    entries.filterMap request.reading =
      rows.map fun row => row.observation.observedVirtualDaaScore := by
  induction gives with
  | nil => rfl
  | @cons entry row entries rows given gives ih =>
    have isReading : request.reading entry = some row.observation.observedVirtualDaaScore := by
      rw [SyncRequest.reading, given.observed]
      rfl
    rw [List.filterMap_cons_some isReading, List.map_cons, ih]

/-- The order of a snapshot is its smallest score. -/
theorem Snapshot.lowest {codec : RuleCodec} {order : UInt64}
    (h : Snapshot codec request rows order) (some' : request.entries ≠ []) :
    request.lowest = some order ∧
      (rows.map fun row => row.observation.observedVirtualDaaScore).min? = some order := by
  have hasRows : rows.map Row.identity ≠ [] := by
    rintro empty
    obtain rfl := List.map_eq_nil_iff.mp empty
    exact some' (List.forall₂_nil_right_iff.mp h.gives)
  have ordered := h.ordered
  rw [snapshotOrder, if_neg hasRows, virtualDaa_map] at ordered
  have isLowest := (Option.filter_eq_some_iff.mp ordered).1
  exact ⟨by rw [SyncRequest.lowest, filterMap_reading h.gives, isLowest], isLowest⟩

theorem ne_zero_of_le {a b : UInt64} (positive : a ≠ 0) (le : a ≤ b) : b ≠ 0 := by
  rintro rfl
  exact positive (UInt64.le_antisymm le UInt64.zero_le)

/-- The smallest of scores that have not decreased has not decreased. -/
theorem exists_min_of_ages {order : UInt64} (ages : List.Forall₂ Ages rows rows')
    (isLowest : (rows.map fun row => row.observation.observedVirtualDaaScore).min? = some order) :
    ∃ order', order ≤ order' ∧
      (rows'.map fun row => row.observation.observedVirtualDaaScore).min? = some order' := by
  obtain ⟨isScore, least⟩ := List.min?_eq_some_iff.mp isLowest
  cases lowest : (rows'.map fun row => row.observation.observedVirtualDaaScore).min? with
  | none =>
    obtain rfl := List.map_eq_nil_iff.mp (List.min?_eq_none_iff.mp lowest)
    obtain rfl := List.forall₂_nil_right_iff.mp ages
    cases isScore
  | some order' =>
    obtain ⟨isScore', -⟩ := List.min?_eq_some_iff.mp lowest
    obtain ⟨row', hrow', rfl⟩ := List.mem_map.mp isScore'
    obtain ⟨row, hrow, related⟩ := exists_of_mem_right ages hrow'
    exact ⟨_, UInt64.le_trans (least _ (List.mem_map_of_mem hrow)) related.grown, rfl⟩

theorem SyncRequest.Continues.nil_iff (continues : request.Continues later) :
    later.entries = [] ↔ request.entries = [] := by
  rw [← List.length_eq_zero_iff, continues.entries.length_eq, List.length_eq_zero_iff]

/-- A request that continues one with a snapshot has a snapshot with the same rules, whose order has
not decreased; and with the same identities if no score has changed. -/
theorem Snapshot.continues {codec : RuleCodec} {order : UInt64}
    (h : Snapshot codec request rows order) (continues : request.Continues later) :
    ∃ rows' order', Snapshot codec later rows' order' ∧ order ≤ order' ∧
      (rows'.map Row.rule).Perm (rows.map Row.rule) ∧
      ((∀ entry ∈ later.entries, later.reading entry = request.reading entry) →
        (rows'.map Row.identity).Perm (rows.map Row.identity)) ∧
      (request.entries ≠ [] → later.lowest = some order' ∧ request.lowest = some order) := by
  obtain ⟨permuted, gives, perm⟩ := List.perm_comp_forall₂ continues.entries h.gives
  obtain ⟨rows', gives', ages, same⟩ :=
    exists_later continues (fun entry hentry => continues.entries.mem_iff.mp hentry) gives
  have sameRules : (rows'.map Row.rule).Perm (rows.map Row.rule) := by
    rw [map_of_ages ages fun _ _ related => related.rule]
    exact perm.map _
  have sameIdentities (readings : ∀ entry ∈ later.entries,
      later.reading entry = request.reading entry) :
      (rows'.map Row.identity).Perm (rows.map Row.identity) := by
    rw [same readings]
    exact perm.map _
  have explicit : later.entries ≠ [] → later.emptySnapshotOrder = none := by
    intro some'
    have noOrder := h.explicit fun empty => some' (continues.nil_iff.mpr empty)
    have related := continues.explicit
    rw [noOrder] at related
    cases given : later.emptySnapshotOrder with
    | none => rfl
    | some order' =>
      rw [given] at related
      cases related
  have together := (h.together.perm perm).ages ages
  have allowed := continues.allowed.trans h.allowed
  have positive := snapshotOrder_ne_zero h.ordered
  by_cases empty : request.entries = []
  · have laterEmpty := continues.nil_iff.mpr empty
    obtain rfl : rows = [] := List.forall₂_nil_left_iff.mp (empty ▸ h.gives)
    obtain rfl : rows' = [] := List.forall₂_nil_left_iff.mp (laterEmpty ▸ gives')
    have isOrder := (Option.filter_eq_some_iff.mp h.ordered).1
    rw [List.map_nil, if_pos rfl] at isOrder
    have related := continues.explicit
    rw [isOrder] at related
    cases given : later.emptySnapshotOrder with
    | none =>
      rw [given] at related
      cases related
    | some order' =>
      rw [given] at related
      cases related with
      | some le =>
        refine ⟨[], order', ⟨allowed, gives', together, explicit, ?_⟩, le, sameRules,
          sameIdentities, fun some' => absurd empty some'⟩
        rw [given, snapshotOrder, List.map_nil, if_pos rfl]
        exact Option.filter_eq_some_iff.mpr ⟨rfl, decide_eq_true (ne_zero_of_le positive le)⟩
  · obtain ⟨lowest, isLowest⟩ := h.lowest empty
    have isLowest' : (permuted.map fun row => row.observation.observedVirtualDaaScore).min? =
        some order := by
      obtain ⟨isScore, least⟩ := List.min?_eq_some_iff.mp isLowest
      have sameScores := perm.map fun row => row.observation.observedVirtualDaaScore
      exact List.min?_eq_some_iff.mpr ⟨sameScores.mem_iff.mpr isScore,
        fun score hscore => least score (sameScores.mem_iff.mp hscore)⟩
    obtain ⟨order', le, isLater⟩ := exists_min_of_ages ages isLowest'
    have laterSome : later.entries ≠ [] := fun none => empty (continues.nil_iff.mp none)
    have snapshot : Snapshot codec later rows' order' := by
      refine ⟨allowed, gives', together, explicit, ?_⟩
      have hasRows : rows'.map Row.identity ≠ [] := by
        rintro none
        obtain rfl := List.map_eq_nil_iff.mp none
        exact laterSome (List.forall₂_nil_right_iff.mp gives')
      rw [snapshotOrder, if_neg hasRows, virtualDaa_map, isLater]
      exact Option.filter_eq_some_iff.mpr ⟨rfl, decide_eq_true (ne_zero_of_le positive le)⟩
    exact ⟨rows', order', snapshot, le, sameRules, sameIdentities,
      fun _ => ⟨(snapshot.lowest laterSome).1, lowest⟩⟩

/-! ## Runs -/

variable {clients : Clients}

/-- The store holds the candidate of one of the calls. -/
def Backed (codec : CheckpointCodec) (events : List SyncEvent) (clients : Clients) : Prop :=
  ∃ e ∈ events, ∃ process request interruption prepared,
    e.input = .sync process request interruption ∧
    prepareSync codec.toRuleCodec request = some prepared ∧
    stored codec clients = some prepared.candidate

theorem Backed.mono {events events' : List SyncEvent} (h : Backed codec events clients)
    (more : ∀ e ∈ events, e ∈ events') : Backed codec events' clients := by
  obtain ⟨e, he, rest⟩ := h
  exact ⟨e, more e he, rest⟩

/-- What a successful synchronisation leaves. -/
theorem step_ok {call : Call} (reads : ReadsBack codec call)
    (ok : (step codec call clients).1 = .ok) :
    ∃ process request interruption prepared, call = .sync process request interruption ∧
      prepareSync codec.toRuleCodec request = some prepared ∧
      stored codec (step codec call clients).2 = some prepared.candidate ∧
      (step codec call clients).2.scanners process = prepared.rules := by
  have effect := step_effect codec call clients
  generalize (step codec call clients).1 = out at effect ok
  generalize (step codec call clients).2 = next at effect
  cases effect with
  | @installed process request interruption prepared _ isPrepared moved =>
    refine ⟨process, request, interruption, prepared, rfl, isPrepared,
      (moved.stored isPrepared (reads prepared isPrepared) rfl).1, ?_⟩
    rw [install_scanners, if_pos rfl]
  | refused | unsynced | died | restarted => cases ok

end Prometheus.Client
