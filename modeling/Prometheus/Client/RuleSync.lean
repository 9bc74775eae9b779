import Prometheus.Client.CheckpointSafety

/-!
# Rule synchronisation without a checkpoint

`modules/client/src/blockchain/rule_sync.rs`: the same entries are verified and fetched, and the
ingest of `rule_ingest.rs` compiles them and replaces the scanner's rules. The two paths share their
checks but not their loops, so their agreement is proved loop by loop.
-/

namespace Prometheus.Client

open Prometheus.Codec

/-- The first loop of `sync_validated`, with the outpoints, identifiers and CIDs seen so far. -/
def verifySnapshot
    (observe : RuleSyncEntry → Option (RuleStateMetadata × VerifiedManifestOutpoint)) :
    List RuleSyncEntry → List (Bytes × UInt32) → List Bytes → List Bytes →
      Option (List RuleStateMetadata)
  | [], _, _, _ => some []
  | entry :: entries, seenOutpoints, seenRuleIds, seenCids =>
    match observe entry with
    | none => none
    | some (metadata, observation) =>
      let outpoint := (observation.transactionId, observation.index)
      if outpoint ∈ seenOutpoints then none
      else if metadata.ruleId ∈ seenRuleIds then none
      else if metadata.ipfsCid ∈ seenCids then none
      else
        (verifySnapshot observe entries (outpoint :: seenOutpoints) (metadata.ruleId :: seenRuleIds)
          (metadata.ipfsCid :: seenCids)).map fun verified => metadata :: verified

/-- The second loop of `sync_validated`. -/
def fetchSnapshot (codec : RuleCodec) (fetchRuleContent : Bytes → Option Bytes) :
    List RuleStateMetadata → Option (List RuleMetadataSnapshotEntry)
  | [] => some []
  | metadata :: verified =>
    match validateCanonicalRawCid codec metadata.ipfsCid with
    | none => none
    | some _ =>
      match fetchRuleContent metadata.ipfsCid with
      | none => none
      | some content =>
        (fetchSnapshot codec fetchRuleContent verified).map fun snapshot =>
          ⟨metadata, content⟩ :: snapshot

/-- `YaraScanner::replace_rules`: the new rules, or `none` with the scanner as it was. -/
def replaceRules (rules : List CompiledRule) : Option (List CompiledRule) :=
  if validateRuleSet rules then some rules else none

/-- `ingest_rule_state_snapshot`. -/
def ingestRuleStateSnapshot (codec : RuleCodec) (stubAllowed : Bool)
    (snapshot : List RuleMetadataSnapshotEntry) : Option (List CompiledRule) :=
  if ¬ stubAllowed then none
  else if maxRulesPerSnapshot < snapshot.length then none
  else
    match compileEntries codec snapshot [] with
    | none => none
    | some compiled => replaceRules compiled

/-- `sync_rule_snapshot`: the rules it replaces the scanner's with, or `none` for its error. -/
def syncRules (codec : RuleCodec) (request : SyncRequest) : Option (List CompiledRule) :=
  if ¬ request.stubAllowed then none
  else if maxRulesPerSnapshot < request.entries.length then none
  else
    match verifySnapshot request.observe request.entries [] [] [] with
    | none => none
    | some verified =>
      match fetchSnapshot codec request.fetchRuleContent verified with
      | none => none
      | some snapshot => ingestRuleStateSnapshot codec request.stubAllowed snapshot

/-- `sync_rule_snapshot` on a scanner: whether it succeeds, and the rules it leaves. -/
def syncRuleSnapshot (codec : RuleCodec) (request : SyncRequest) (scanner : List CompiledRule) :
    Bool × List CompiledRule :=
  match syncRules codec request with
  | none => (false, scanner)
  | some rules => (true, rules)

/-! ## The loops agree -/

variable {codec : RuleCodec} {request : SyncRequest}
variable {observe : RuleSyncEntry → Option (RuleStateMetadata × VerifiedManifestOutpoint)}
variable {fetchRuleContent : Bytes → Option Bytes}

theorem verifySnapshot_eq (entries : List RuleSyncEntry) (outpoints : List (Bytes × UInt32))
    (ruleIds cids : List Bytes) :
    verifySnapshot observe entries outpoints ruleIds cids =
      (verifyEntries observe entries outpoints ruleIds cids).map fun verified =>
        verified.map Prod.fst := by
  induction entries generalizing outpoints ruleIds cids with
  | nil => rfl
  | cons entry entries ih =>
    unfold verifySnapshot verifyEntries
    cases observe entry with
    | none => rfl
    | some answer =>
      obtain ⟨metadata, observation⟩ := answer
      simp only
      by_cases hout : (observation.transactionId, observation.index) ∈ outpoints
      · simp [hout]
      · by_cases hid : metadata.ruleId ∈ ruleIds
        · simp [hout, hid]
        · by_cases hcid : metadata.ipfsCid ∈ cids
          · simp [hout, hid, hcid]
          · simp only [hout, hid, hcid, if_false, or_self]
            rw [ih, Option.map_map, Option.map_map]
            rfl

theorem fetchSnapshot_eq (verified : List (RuleStateMetadata × VerifiedManifestOutpoint)) :
    fetchSnapshot codec fetchRuleContent (verified.map Prod.fst) =
      (fetchEntries codec fetchRuleContent verified).map fun fetched => fetched.map Prod.fst := by
  induction verified with
  | nil => rfl
  | cons entry verified ih =>
    obtain ⟨metadata, observation⟩ := entry
    simp only [List.map_cons, fetchSnapshot, fetchEntries]
    cases validateCanonicalRawCid codec metadata.ipfsCid with
    | none => rfl
    | some digest =>
      cases fetchRuleContent metadata.ipfsCid with
      | none => rfl
      | some content =>
        simp only
        rw [ih, Option.map_map, Option.map_map]
        rfl

theorem ingest_eq_prepare {snapshot : List RuleMetadataSnapshotEntry} :
    ingestRuleStateSnapshot codec true snapshot = prepare codec snapshot := by
  unfold ingestRuleStateSnapshot prepare replaceRules
  cases compileEntries codec snapshot [] with
  | none => rfl
  | some compiled => rfl

/-- What an attempt prepares is what the other path installs. -/
theorem syncRules_of_prepareSync {prepared : PreparedSync}
    (hp : prepareSync codec request = some prepared) :
    syncRules codec request = some prepared.rules := by
  obtain ⟨verified, fetched, order, prepares⟩ := prepareSync_some hp
  have allowed := prepares.allowed
  have few : ¬ maxRulesPerSnapshot < request.entries.length := by
    intro many
    unfold prepareSync at hp
    rw [if_neg (by simp [allowed]), if_pos (Or.inl many)] at hp
    cases hp
  unfold syncRules
  rw [if_neg (by simp [allowed]), if_neg few, verifySnapshot_eq, prepares.observed]
  simp only [Option.map_some]
  rw [fetchSnapshot_eq, prepares.contents]
  simp only [Option.map_some]
  rw [allowed, ingest_eq_prepare]
  exact prepares.rules

/-- A durable attempt that succeeds has installed the rules it prepared. -/
theorem syncDurable_installs {codec : CheckpointCodec} {interruption : Option Interruption}
    {process : Nat} {clients : Clients} {prepared : PreparedSync}
    (hp : prepareSync codec.toRuleCodec request = some prepared)
    (ok : (syncDurable codec request interruption process clients).1 = .ok) :
    (syncDurable codec request interruption process clients).2.scanners process =
      prepared.rules := by
  have effect := step_effect codec (.sync process request interruption) clients
  simp only [step] at effect
  generalize syncDurable codec request interruption process clients = result at effect ok ⊢
  obtain ⟨outcome, clients'⟩ := result
  cases effect with
  | installed prepared' isPrepared moved =>
    obtain rfl : prepared' = prepared := Option.some.inj (isPrepared.symm.trans hp)
    exact Function.update_self process prepared'.rules clients.scanners
  | refused | unsynced | died => cases ok

/-- A durable synchronisation that succeeds, on an empty store or any other, leaves in its scanner
what the other path leaves there; where the other path fails, so does the durable one, and changes
nothing. -/
theorem durable_agrees (codec : CheckpointCodec) (request : SyncRequest)
    (interruption : Option Interruption) (process : Nat) (clients : Clients) :
    ((syncDurable codec request interruption process clients).1 = .ok →
      syncRuleSnapshot codec.toRuleCodec request (clients.scanners process) =
        (true, (syncDurable codec request interruption process clients).2.scanners process)) ∧
    ((syncRuleSnapshot codec.toRuleCodec request (clients.scanners process)).1 = false →
      syncDurable codec request interruption process clients = (.err, clients)) := by
  cases hp : prepareSync codec.toRuleCodec request with
  | none => simp [syncDurable, hp]
  | some prepared =>
    have rules := syncRules_of_prepareSync hp
    constructor
    · intro ok
      rw [syncDurable_installs hp ok, syncRuleSnapshot, rules]
    · intro failed
      rw [syncRuleSnapshot, rules] at failed
      cases failed

theorem durable_agrees_sample :
    syncRuleSnapshot sampleRuleCodec (sampleRequest 7) [] =
      (true, (syncDurable sampleCheckpointCodec (sampleRequest 7) none 0 Clients.fresh).2.scanners 0)
    := by
  have ok : (syncDurable sampleCheckpointCodec (sampleRequest 7) none 0 Clients.fresh).1 = .ok := by
    decide +kernel
  exact (durable_agrees sampleCheckpointCodec (sampleRequest 7) none 0 Clients.fresh).1 ok

end Prometheus.Client
