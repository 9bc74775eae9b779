import Prometheus.Client.RuleIngest
import Prometheus.Machine.Trace

/-!
# Durable checkpoints of rule synchronisation

`modules/client/src/blockchain/rule_checkpoint.rs`. An attempt first verifies and compiles the
requested rules, then, under the store's lock, compares its checkpoint with the stored one, replaces
it and installs the rules. `verify_observation_live_shared` on the node's answers and the content
source are functions of the request; `serde_json::from_slice` is a parameter.
-/

namespace Prometheus.Client

open Prometheus.Codec Prometheus.Machine

/-- `CHECKPOINT_KIND`. -/
def checkpointKind : Bytes := ascii "prometheus.rule-storage.checkpoint.v1"

/-- `DIGEST_DOMAIN`. -/
def digestDomain : Bytes := ascii "prometheus.rule-storage.snapshot.v1" ++ [0]

/-- `CHECKPOINT_SCHEMA_VERSION`. -/
def checkpointSchemaVersion : UInt64 := 1

/-- `MAX_CHECKPOINT_BYTES`. -/
def maxCheckpointBytes : Nat := 1024

/-- `OBSERVATION_NETWORK_ID` of `rule_observation.rs`. -/
def observationNetworkId : Bytes := ascii "testnet-10"

structure Checkpoint where
  schemaVersion : UInt64
  kind : Bytes
  networkId : Bytes
  order : UInt64
  snapshotDigest : Bytes
  deriving DecidableEq, Repr

/-- `serde_json::to_vec` of a checkpoint. -/
def Checkpoint.toVec (checkpoint : Checkpoint) : Bytes :=
  serdeStruct [
    ("schema_version", serdeNat checkpoint.schemaVersion.toNat),
    ("kind", serdeString checkpoint.kind),
    ("network_id", serdeString checkpoint.networkId),
    ("order", serdeNat checkpoint.order.toNat),
    ("snapshot_digest", serdeString checkpoint.snapshotDigest)]

/-- What the checkpoint module takes from its crates. -/
structure CheckpointCodec extends RuleCodec where
  /-- `serde_json::from_slice::<Checkpoint>`. -/
  fromSlice : Bytes → Option Checkpoint

structure Identity where
  ruleId : Bytes
  cid : Bytes
  transactionId : Bytes
  index : UInt32
  blockDaa : UInt64
  virtualDaa : UInt64
  deriving DecidableEq, Repr

/-- `is_ascii_digit() || (b'a'..=b'f').contains(..)`. -/
def isHexByte (b : UInt8) : Bool := isLowerHex b.toNat

/-- The checks of `parse_checkpoint` on a parsed checkpoint. -/
def Checkpoint.isValid (checkpoint : Checkpoint) : Bool :=
  decide (checkpoint.schemaVersion = checkpointSchemaVersion) &&
    decide (checkpoint.kind = checkpointKind) &&
    decide (checkpoint.networkId = observationNetworkId) && decide (checkpoint.order ≠ 0) &&
    decide (checkpoint.snapshotDigest.length = 64) && checkpoint.snapshotDigest.all isHexByte

/-- `parse_checkpoint`. -/
def parseCheckpoint (codec : CheckpointCodec) (bytes : Bytes) : Option Checkpoint :=
  if bytes = [] ∨ maxCheckpointBytes < bytes.length then none
  else
    match codec.fromSlice bytes with
    | none => none
    | some checkpoint =>
      if checkpoint.toVec = bytes ∧ checkpoint.isValid then some checkpoint else none

/-! ## The digest of a snapshot -/

/-- The tuple `digest_snapshot` sorts by. -/
def Identity.key (identity : Identity) : List Bytes × List Nat :=
  ([identity.ruleId, identity.cid, identity.transactionId],
    [identity.index.toNat, identity.blockDaa.toNat, identity.virtualDaa.toNat])

/-- Whether an identity is sorted before another or equal to it. -/
def Identity.le (a b : Identity) : Bool :=
  decide (a.key.1 < b.key.1) || (decide (a.key.1 = b.key.1) && decide (a.key.2 ≤ b.key.2))

/-- A field with its length. -/
def digestField (field : Bytes) : Bytes := toBytesLittle 8 field.length ++ field

/-- The bytes one identity adds to the hash. -/
def Identity.preimage (identity : Identity) : Bytes :=
  digestField identity.ruleId ++ digestField identity.cid ++ digestField identity.transactionId ++
    toBytesLittle 4 identity.index.toNat ++ toBytesLittle 8 identity.blockDaa.toNat ++
    toBytesLittle 8 identity.virtualDaa.toNat

/-- The bytes `digest_snapshot` hashes. -/
def snapshotPreimage (order : UInt64) (identities : List Identity) : Bytes :=
  digestDomain ++ toBytesLittle 8 checkpointSchemaVersion.toNat ++ observationNetworkId ++
    toBytesLittle 8 order.toNat ++ toBytesLittle 8 identities.length ++
    (identities.insertionSort fun a b => a.le b).flatMap Identity.preimage

/-- `digest_snapshot`. -/
def digestSnapshot (codec : RuleCodec) (order : UInt64) (identities : List Identity) : Bytes :=
  encodeAscii (hex (codec.sha256 (snapshotPreimage order identities)).toList)

/-! ## The candidate of an attempt -/

/-- `RuleSyncEntry` of `rule_sync.rs`. -/
structure RuleSyncEntry where
  expectedManifestSha256 : Bytes
  manifestJson : Bytes
  constructorJson : Bytes
  address : Bytes
  deriving DecidableEq, Repr

/-- `VerifiedManifestOutpoint` of `rule_observation.rs`. -/
structure VerifiedManifestOutpoint where
  transactionId : Bytes
  index : UInt32
  blockDaaScore : UInt64
  observedVirtualDaaScore : UInt64
  deriving DecidableEq, Repr

/-- The arguments of `sync_rule_snapshot_durable`: the runtime gate, the entries, and the two
sources as this attempt finds them. -/
structure SyncRequest where
  stubAllowed : Bool
  entries : List RuleSyncEntry
  emptySnapshotOrder : Option UInt64
  observe : RuleSyncEntry → Option (RuleStateMetadata × VerifiedManifestOutpoint)
  fetchRuleContent : Bytes → Option Bytes

/-- The loop that verifies the entries, with the outpoints, identifiers and CIDs seen so far. -/
def verifyEntries (observe : RuleSyncEntry → Option (RuleStateMetadata × VerifiedManifestOutpoint)) :
    List RuleSyncEntry → List (Bytes × UInt32) → List Bytes → List Bytes →
      Option (List (RuleStateMetadata × VerifiedManifestOutpoint))
  | [], _, _, _ => some []
  | entry :: entries, outpoints, ruleIds, cids =>
    match observe entry with
    | none => none
    | some (metadata, observation) =>
      let outpoint := (observation.transactionId, observation.index)
      if outpoint ∈ outpoints ∨ metadata.ruleId ∈ ruleIds ∨ metadata.ipfsCid ∈ cids then none
      else
        (verifyEntries observe entries (outpoint :: outpoints) (metadata.ruleId :: ruleIds)
          (metadata.ipfsCid :: cids)).map fun verified => (metadata, observation) :: verified

/-- The identity of a verified entry. -/
def identityOf (metadata : RuleStateMetadata) (observation : VerifiedManifestOutpoint) :
    Identity where
  ruleId := metadata.ruleId
  cid := metadata.ipfsCid
  transactionId := observation.transactionId
  index := observation.index
  blockDaa := observation.blockDaaScore
  virtualDaa := observation.observedVirtualDaaScore

/-- The loop that fetches the content of the verified entries. -/
def fetchEntries (codec : RuleCodec) (fetchRuleContent : Bytes → Option Bytes) :
    List (RuleStateMetadata × VerifiedManifestOutpoint) →
      Option (List (RuleMetadataSnapshotEntry × Identity))
  | [] => some []
  | (metadata, observation) :: verified =>
    match validateCanonicalRawCid codec metadata.ipfsCid, fetchRuleContent metadata.ipfsCid with
    | some _, some content =>
      (fetchEntries codec fetchRuleContent verified).map fun fetched =>
        (⟨metadata, content⟩, identityOf metadata observation) :: fetched
    | _, _ => none

/-- The order of a snapshot: the smallest virtual DAA score, or the explicit order of an empty
snapshot; never zero. -/
def snapshotOrder (identities : List Identity) (emptySnapshotOrder : Option UInt64) :
    Option UInt64 :=
  let order :=
    if identities = [] then emptySnapshotOrder else (identities.map Identity.virtualDaa).min?
  order.filter fun value => value ≠ 0

/-- The checkpoint of a snapshot. -/
def candidateCheckpoint (codec : RuleCodec) (order : UInt64) (identities : List Identity) :
    Checkpoint where
  schemaVersion := checkpointSchemaVersion
  kind := checkpointKind
  networkId := observationNetworkId
  order := order
  snapshotDigest := digestSnapshot codec order identities

/-- What an attempt holds when it takes the lock. -/
structure PreparedSync where
  candidate : Checkpoint
  rules : List CompiledRule
  deriving DecidableEq, Repr

/-- The part of `sync_rule_snapshot_durable` before the lock. -/
def prepareSync (codec : RuleCodec) (request : SyncRequest) : Option PreparedSync :=
  if ¬ request.stubAllowed then none
  else if maxRulesPerSnapshot < request.entries.length ∨
      (request.entries ≠ [] ∧ request.emptySnapshotOrder.isSome) then none
  else
    match verifyEntries request.observe request.entries [] [] [] with
    | none => none
    | some verified =>
      match fetchEntries codec request.fetchRuleContent verified with
      | none => none
      | some fetched =>
        let identities := fetched.map Prod.snd
        match prepare codec (fetched.map Prod.fst),
            snapshotOrder identities request.emptySnapshotOrder with
        | some rules, some order =>
          let candidate := candidateCheckpoint codec order identities
          if maxCheckpointBytes < candidate.toVec.length then none
          else some ⟨candidate, rules⟩
        | _, _ => none

/-! ## The store and the processes that share it -/

/-- How an attempt can be cut short once it has its candidate. A process that dies anywhere else
leaves what a restart leaves. -/
inductive Interruption
  /-- `lock` or `read` fails. -/
  | unreadable
  /-- `replace` fails and has not renamed the file. -/
  | beforeRename
  /-- `replace` has renamed the file and fails to sync the directory. -/
  | afterRename
  /-- The process dies between `replace` and the installation. -/
  | crash
  deriving DecidableEq, Repr

/-- What an attempt comes to. -/
inductive Outcome
  | ok
  | err
  | crashed
  deriving DecidableEq, Repr

/-- The checkpoint file, and the rules in each process's scanner. -/
structure Clients where
  checkpoint : Option Bytes
  scanners : Nat → List CompiledRule

/-- `YaraScanner::install_prevalidated`. -/
def Clients.install (clients : Clients) (process : Nat) (rules : List CompiledRule) : Clients :=
  { clients with scanners := Function.update clients.scanners process rules }

/-- `read` and `parse_checkpoint`: the stored checkpoint, if there is one. -/
def readCheckpoint (codec : CheckpointCodec) (checkpoint : Option Bytes) :
    Option (Option Checkpoint) :=
  match checkpoint with
  | none => some none
  | some bytes => (parseCheckpoint codec bytes).map some

/-- The comparison under the lock: `none` refuses, otherwise whether the candidate is a replay. -/
def isReplay (candidate : Checkpoint) (stored : Option Checkpoint) : Option Bool :=
  match stored with
  | none => some false
  | some current =>
    if candidate.order < current.order ∨
        (candidate.order = current.order ∧ candidate.snapshotDigest ≠ current.snapshotDigest) then
      none
    else some (decide (candidate.order = current.order))

/-- The part of `sync_validated` under the lock. -/
def commitSync (codec : CheckpointCodec) (prepared : PreparedSync)
    (interruption : Option Interruption) (process : Nat) (clients : Clients) : Outcome × Clients :=
  if interruption = some .unreadable then (.err, clients)
  else
    match (readCheckpoint codec clients.checkpoint).bind (isReplay prepared.candidate) with
    | none => (.err, clients)
    | some true =>
      if interruption = some .crash then (.crashed, clients.install process [])
      else (.ok, clients.install process prepared.rules)
    | some false =>
      let replaced := { clients with checkpoint := some prepared.candidate.toVec }
      match interruption with
      | some .beforeRename => (.err, clients)
      | some .afterRename => (.err, replaced)
      | some .crash => (.crashed, replaced.install process [])
      | _ => (.ok, replaced.install process prepared.rules)

/-- `sync_rule_snapshot_durable` in one process. -/
def syncDurable (codec : CheckpointCodec) (request : SyncRequest)
    (interruption : Option Interruption) (process : Nat) (clients : Clients) : Outcome × Clients :=
  match prepareSync codec.toRuleCodec request with
  | none => (.err, clients)
  | some prepared => commitSync codec prepared interruption process clients

/-- An attempt of a process, or its restart with an empty scanner. -/
inductive Call
  | sync (process : Nat) (request : SyncRequest) (interruption : Option Interruption)
  | restart (process : Nat)

/-- Perform one call. The lock makes an attempt's reads and writes of the store one step. -/
def step (codec : CheckpointCodec) : Call → Clients → Outcome × Clients
  | .sync process request interruption, clients =>
    syncDurable codec request interruption process clients
  | .restart process, clients => (.crashed, clients.install process [])

/-- An executed call on the store. -/
abbrev SyncEvent := Event Clients Call Outcome

/-- No process has installed a rule yet; the store may hold any file. -/
def Started (clients : Clients) : Prop := ∀ process, clients.scanners process = []

end Prometheus.Client
