import Prometheus.Client.CheckpointSafety

/-!
# A checkpoint determines its rules

The digest of a checkpoint is over the identities of a snapshot, and an identity names the content
of its rule by its digest. Two attempts with one candidate have therefore compiled the same rules,
unless the hash collides on what they hashed.
-/

namespace Prometheus.Client

open Prometheus.Codec Prometheus.Machine

/-- The hash of the rule modules. -/
def RuleCodec.hash (codec : RuleCodec) (bytes : Bytes) : Bytes := (codec.sha256 bytes).toList

/-! ## The digest of a snapshot -/

/-- The fields of an identity have lengths that eight bytes hold. -/
structure Identity.Sized (identity : Identity) : Prop where
  ruleId : identity.ruleId.length < 256 ^ 8
  cid : identity.cid.length < 256 ^ 8
  transactionId : identity.transactionId.length < 256 ^ 8

/-- A length-prefixed field can be read off the front of a text. -/
theorem digestField_append_inj {a b x y : Bytes} (ha : a.length < 256 ^ 8)
    (hb : b.length < 256 ^ 8) (h : digestField a ++ x = digestField b ++ y) : a = b ∧ x = y := by
  simp only [digestField, List.append_assoc] at h
  obtain ⟨lengths, rest⟩ := List.append_inj h (by simp)
  exact List.append_inj rest (toBytesLittle_inj ha hb lengths)

theorem Identity.preimage_append_inj {a b : Identity} {x y : Bytes} (ha : a.Sized) (hb : b.Sized)
    (h : a.preimage ++ x = b.preimage ++ y) : a = b ∧ x = y := by
  simp only [Identity.preimage, List.append_assoc] at h
  obtain ⟨ruleId, h⟩ := digestField_append_inj ha.ruleId hb.ruleId h
  obtain ⟨cid, h⟩ := digestField_append_inj ha.cid hb.cid h
  obtain ⟨transactionId, h⟩ := digestField_append_inj ha.transactionId hb.transactionId h
  obtain ⟨index, h⟩ := List.append_inj h (by simp)
  obtain ⟨blockDaa, h⟩ := List.append_inj h (by simp)
  obtain ⟨virtualDaa, h⟩ := List.append_inj h (by simp)
  have index' := UInt32.toNat_inj.mp (toBytesLittle_inj a.index.toNat_lt b.index.toNat_lt index)
  have blockDaa' :=
    UInt64.toNat_inj.mp (toBytesLittle_inj a.blockDaa.toNat_lt b.blockDaa.toNat_lt blockDaa)
  have virtualDaa' :=
    UInt64.toNat_inj.mp (toBytesLittle_inj a.virtualDaa.toNat_lt b.virtualDaa.toNat_lt virtualDaa)
  cases a
  cases b
  simp_all

theorem flatMap_preimage_inj {as bs : List Identity} (ha : ∀ a ∈ as, a.Sized)
    (hb : ∀ b ∈ bs, b.Sized) (lengths : as.length = bs.length)
    (h : as.flatMap Identity.preimage = bs.flatMap Identity.preimage) : as = bs := by
  induction as generalizing bs with
  | nil => exact (List.length_eq_zero_iff.mp lengths.symm).symm
  | cons a as ih =>
    cases bs with
    | nil => simp at lengths
    | cons b bs =>
      simp only [List.flatMap_cons] at h
      obtain ⟨rfl, rest⟩ := Identity.preimage_append_inj (ha a (by simp)) (hb b (by simp)) h
      rw [ih (fun x hx => ha x (by simp [hx])) (fun x hx => hb x (by simp [hx]))
        (by simpa using lengths) rest]

/-- What is hashed for a snapshot determines its order, and its identities up to their order. -/
theorem snapshotPreimage_inj {order order' : UInt64} {as bs : List Identity}
    (ha : ∀ a ∈ as, a.Sized) (hb : ∀ b ∈ bs, b.Sized) (la : as.length < 256 ^ 8)
    (lb : bs.length < 256 ^ 8) (h : snapshotPreimage order as = snapshotPreimage order' bs) :
    order = order' ∧ as.Perm bs := by
  simp only [snapshotPreimage, List.append_assoc, List.append_cancel_left_eq] at h
  obtain ⟨orders, h⟩ := List.append_inj h (by simp)
  obtain ⟨lengths, h⟩ := List.append_inj h (by simp)
  have sortA := List.perm_insertionSort (fun a b : Identity => a.le b) as
  have sortB := List.perm_insertionSort (fun a b : Identity => a.le b) bs
  have same := flatMap_preimage_inj (fun a h => ha a (sortA.mem_iff.mp h))
    (fun b h => hb b (sortB.mem_iff.mp h))
    (by rw [sortA.length_eq, sortB.length_eq]; exact toBytesLittle_inj la lb lengths) h
  exact ⟨UInt64.toNat_inj.mp (toBytesLittle_inj order.toNat_lt order'.toNat_lt orders),
    sortA.symm.trans (same ▸ sortB)⟩

/-! ## The content of a rule -/

/-- A rule compiled from its identifier and its content, which the CID binds. -/
structure Compiles (codec : RuleCodec) (entry : RuleMetadataSnapshotEntry) (rule : CompiledRule) :
    Prop where
  ruleId : entry.metadata.ruleId.length ≤ maxRuleIdBytes
  bound : verifyRawCidContentBinding codec entry.metadata.ipfsCid entry.content = true
  compiled : ∃ text patterns, fromUtf8 entry.content = some text ∧
    parseRuleText entry.metadata.ruleId text = some patterns ∧
      rule = ⟨entry.metadata.ruleId, patterns, 1⟩

theorem compileFields_some {codec : RuleCodec} {entry : RuleMetadataSnapshotEntry}
    {rule : CompiledRule} (h : compileFields codec entry = some rule) :
    Compiles codec entry rule := by
  simp only [compileFields] at h
  split at h
  · cases h
  rename_i metadata
  split at h
  · cases h
  split at h
  · cases h
  rename_i bound
  split at h
  · cases h
  rename_i text isText
  obtain ⟨patterns, isPatterns, rfl⟩ := Option.map_eq_some_iff.mp h
  refine ⟨?_, by simpa using bound, text, patterns, isText, isPatterns, rfl⟩
  simp only [not_or, Bool.not_eq_true', validateRuleId, Bool.and_eq_true,
    decide_eq_true_eq, not_not] at metadata
  exact metadata.2.2.1.2

theorem compileEntries_forall₂ {codec : RuleCodec} {entries : List RuleMetadataSnapshotEntry}
    {seenIds : List Bytes} {rules : List CompiledRule}
    (h : compileEntries codec entries seenIds = some rules) :
    List.Forall₂ (Compiles codec) entries rules := by
  induction entries generalizing seenIds rules with
  | nil =>
    obtain rfl := Option.some.inj h
    exact .nil
  | cons entry entries ih =>
    simp only [compileEntries] at h
    split at h
    · cases h
    split at h
    · cases h
    rename_i rule isRule
    obtain ⟨rest, isRest, rfl⟩ := Option.map_eq_some_iff.mp h
    exact .cons (compileFields_some isRule) (ih isRest)

theorem prepare_forall₂ {codec : RuleCodec} {entries : List RuleMetadataSnapshotEntry}
    {rules : List CompiledRule} (h : prepare codec entries = some rules) :
    entries.length ≤ maxRulesPerSnapshot ∧ List.Forall₂ (Compiles codec) entries rules := by
  simp only [prepare] at h
  split at h
  · cases h
  rename_i bounded
  split at h
  · cases h
  rename_i compiled isCompiled
  split at h
  · obtain rfl := Option.some.inj h
    exact ⟨Nat.not_lt.mp bounded, compileEntries_forall₂ isCompiled⟩
  · cases h

theorem validateCanonicalRawCid_length {codec : RuleCodec} {cid digest : Bytes}
    (h : validateCanonicalRawCid codec cid = some digest) : cid.length = 59 := by
  simp only [validateCanonicalRawCid] at h
  split at h
  · cases h
  · rename_i shape
    simp only [not_or, not_not] at shape
    exact shape.1

theorem verifyRawCidContentBinding_true {codec : RuleCodec} {cid content : Bytes}
    (h : verifyRawCidContentBinding codec cid content = true) :
    validateCanonicalRawCid codec cid = some (codec.hash content) := by
  simp only [verifyRawCidContentBinding] at h
  split at h
  · cases h
  · rename_i expected isCid
    rw [isCid, RuleCodec.hash, of_decide_eq_true h]

/-- Rules of one identifier and one CID are the same, unless their contents collide. -/
theorem Compiles.eq {codec : RuleCodec} {entry entry' : RuleMetadataSnapshotEntry}
    {rule rule' : CompiledRule} (h : Compiles codec entry rule) (h' : Compiles codec entry' rule')
    (ruleId : entry.metadata.ruleId = entry'.metadata.ruleId)
    (cid : entry.metadata.ipfsCid = entry'.metadata.ipfsCid)
    (apart : NoCollision codec.hash entry.content entry'.content) : rule = rule' := by
  have digests : codec.hash entry.content = codec.hash entry'.content :=
    Option.some.inj ((verifyRawCidContentBinding_true h.bound).symm.trans
      (cid ▸ verifyRawCidContentBinding_true h'.bound))
  have contents := apart digests
  obtain ⟨text, patterns, isText, isPatterns, rfl⟩ := h.compiled
  obtain ⟨text', patterns', isText', isPatterns', rfl⟩ := h'.compiled
  obtain rfl : text = text' := Option.some.inj (isText.symm.trans (contents ▸ isText'))
  rw [ruleId] at isPatterns
  obtain rfl : patterns = patterns' := Option.some.inj (isPatterns.symm.trans isPatterns')
  rw [ruleId]

/-! ## Attempts -/

theorem fetchEntries_identity {codec : RuleCodec} {fetchRuleContent : Bytes → Option Bytes}
    {verified : List (RuleStateMetadata × VerifiedManifestOutpoint)}
    {fetched : List (RuleMetadataSnapshotEntry × Identity)}
    (h : fetchEntries codec fetchRuleContent verified = some fetched) :
    ∀ f ∈ fetched, f.2.cid.length = 59 ∧
      ∃ v ∈ verified, f.1.metadata = v.1 ∧ f.2 = identityOf v.1 v.2 := by
  induction verified generalizing fetched with
  | nil =>
    obtain rfl := Option.some.inj h
    simp
  | cons v verified ih =>
    obtain ⟨metadata, observation⟩ := v
    simp only [fetchEntries] at h
    split at h
    · rename_i digest content isCid isContent
      obtain ⟨rest, isRest, rfl⟩ := Option.map_eq_some_iff.mp h
      intro f hf
      rcases List.mem_cons.mp hf with rfl | hf
      · exact ⟨validateCanonicalRawCid_length isCid, (metadata, observation), by simp, rfl, rfl⟩
      · obtain ⟨length, v, hv, same⟩ := ih isRest f hf
        exact ⟨length, v, List.mem_cons_of_mem _ hv, same⟩
    · cases h

theorem verifyEntries_observed
    {observe : RuleSyncEntry → Option (RuleStateMetadata × VerifiedManifestOutpoint)}
    {entries : List RuleSyncEntry} {outpoints : List (Bytes × UInt32)} {ruleIds cids : List Bytes}
    {verified : List (RuleStateMetadata × VerifiedManifestOutpoint)}
    (h : verifyEntries observe entries outpoints ruleIds cids = some verified) :
    ∀ v ∈ verified, ∃ entry, observe entry = some v := by
  induction entries generalizing outpoints ruleIds cids verified with
  | nil =>
    obtain rfl := Option.some.inj h
    simp
  | cons entry entries ih =>
    simp only [verifyEntries] at h
    split at h
    · cases h
    rename_i metadata observation isObserved
    split at h
    · cases h
    obtain ⟨rest, isRest, rfl⟩ := Option.map_eq_some_iff.mp h
    intro v hv
    rcases List.mem_cons.mp hv with rfl | hv
    · exact ⟨entry, isObserved⟩
    · exact ih isRest v hv

/-- A verified outpoint names its transaction by 64 hex digits (`is_hash_hex`). -/
def HashIds (observe : RuleSyncEntry → Option (RuleStateMetadata × VerifiedManifestOutpoint)) :
    Prop :=
  ∀ entry v, observe entry = some v → v.2.transactionId.length = 64

/-- The rule compiled for an identity. -/
def CompilesFor (codec : RuleCodec) (fetched : List (RuleMetadataSnapshotEntry × Identity))
    (identity : Identity) (rule : CompiledRule) : Prop :=
  ∃ f ∈ fetched, f.2 = identity ∧ Compiles codec f.1 rule

/-- The identities and the rules of an attempt. -/
theorem Prepares.identities {codec : RuleCodec} {request : SyncRequest} {prepared : PreparedSync}
    {verified : List (RuleStateMetadata × VerifiedManifestOutpoint)}
    {fetched : List (RuleMetadataSnapshotEntry × Identity)} {order : UInt64}
    (h : Prepares codec request prepared verified fetched order) (ids : HashIds request.observe) :
    fetched.length ≤ maxRulesPerSnapshot ∧
      (∀ f ∈ fetched, f.2.Sized ∧ f.2.ruleId = f.1.metadata.ruleId ∧
        f.2.cid = f.1.metadata.ipfsCid) ∧
      List.Forall₂ (CompilesFor codec fetched) (fetched.map Prod.snd) prepared.rules := by
  obtain ⟨bounded, compiles⟩ := prepare_forall₂ h.rules
  rw [List.forall₂_map_left_iff] at compiles
  have short : ∀ f ∈ fetched, f.1.metadata.ruleId.length ≤ maxRuleIdBytes :=
    ((List.forall₂_and_left _ _).mp (compiles.imp fun f rule isRule =>
      (⟨isRule.ruleId, isRule⟩ : _ ∧ Compiles codec f.1 rule))).1
  refine ⟨by simpa using bounded, ?_, ?_⟩
  · intro f hf
    obtain ⟨cid, v, hv, metadata, identity⟩ := fetchEntries_identity h.contents f hf
    obtain ⟨entry, isObserved⟩ := verifyEntries_observed h.observed v hv
    have ruleId : f.2.ruleId = f.1.metadata.ruleId := by rw [identity, metadata]; rfl
    have transactionId : f.2.transactionId.length = 64 := by
      rw [identity]
      exact ids entry v isObserved
    refine ⟨⟨?_, by omega, by omega⟩, ruleId, by rw [identity, metadata]; rfl⟩
    rw [ruleId]
    exact Nat.lt_of_le_of_lt (short f hf) (by decide)
  · rw [List.forall₂_map_left_iff]
    have known := (List.forall₂_and_left _ _).mpr ⟨fun f hf => hf, compiles⟩
    exact known.imp fun f rule found => ⟨f, found.1, rfl, found.2⟩

theorem eq_of_forall₂ {α β : Type} {r s : α → β → Prop}
    (unique : ∀ a b c, r a b → s a c → b = c) {l : List α} {u v : List β}
    (hu : List.Forall₂ r l u) (hv : List.Forall₂ s l v) : u = v := by
  induction hu generalizing v with
  | nil =>
    cases hv
    rfl
  | cons first _ ih =>
    cases hv with
    | cons first' rest' => rw [unique _ _ _ first first', ih rest']

/-- The rules of two attempts with one candidate are the same, up to their order. -/
theorem Prepares.rules_perm {codec : RuleCodec} {request request' : SyncRequest}
    {prepared prepared' : PreparedSync}
    {verified verified' : List (RuleStateMetadata × VerifiedManifestOutpoint)}
    {fetched fetched' : List (RuleMetadataSnapshotEntry × Identity)} {order order' : UInt64}
    (h : Prepares codec request prepared verified fetched order)
    (h' : Prepares codec request' prepared' verified' fetched' order')
    (ids : HashIds request.observe) (ids' : HashIds request'.observe)
    (same : prepared.candidate = prepared'.candidate)
    (apart : NoCollision codec.hash (snapshotPreimage order (fetched.map Prod.snd))
      (snapshotPreimage order' (fetched'.map Prod.snd)))
    (contents : ∀ f ∈ fetched, ∀ f' ∈ fetched',
      NoCollision codec.hash f.1.content f'.1.content) :
    prepared.rules.Perm prepared'.rules := by
  obtain ⟨bounded, sized, compiles⟩ := h.identities ids
  obtain ⟨bounded', sized', compiles'⟩ := h'.identities ids'
  have digests : digestSnapshot codec order (fetched.map Prod.snd) =
      digestSnapshot codec order' (fetched'.map Prod.snd) := by
    rw [h.candidate, h'.candidate] at same
    exact congrArg Checkpoint.snapshotDigest same
  have ascii (b : Bytes) : ∀ c ∈ hex b, c < 256 := by
    intro c hc
    have hexDigit := isLowerHex_of_mem_hex hc
    simp only [isLowerHex, Bool.or_eq_true, Bool.and_eq_true, decide_eq_true_eq] at hexDigit
    omega
  have preimages := apart (hex_inj (encodeAscii_inj (ascii _) (ascii _) digests))
  have small : maxRulesPerSnapshot < 256 ^ 8 := by decide
  obtain ⟨-, perm⟩ := snapshotPreimage_inj
    (by rintro i hi; obtain ⟨f, hf, rfl⟩ := List.mem_map.mp hi; exact (sized f hf).1)
    (by rintro i hi; obtain ⟨f, hf, rfl⟩ := List.mem_map.mp hi; exact (sized' f hf).1)
    (by rw [List.length_map]; omega) (by rw [List.length_map]; omega) preimages
  obtain ⟨rules, compiles'', isPerm⟩ := List.perm_comp_forall₂ perm compiles'
  have isRules : prepared.rules = rules := by
    refine eq_of_forall₂ ?_ compiles compiles''
    rintro identity rule rule' ⟨f, hf, isId, isRule⟩ ⟨f', hf', isId', isRule'⟩
    obtain ⟨-, ruleId, cid⟩ := sized f hf
    obtain ⟨-, ruleId', cid'⟩ := sized' f' hf'
    exact isRule.eq isRule' (by rw [← ruleId, ← ruleId', isId, isId'])
      (by rw [← cid, ← cid', isId, isId']) (contents f hf f' hf')
  rw [isRules]
  exact isPerm

end Prometheus.Client
