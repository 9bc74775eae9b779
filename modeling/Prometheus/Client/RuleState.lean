import Prometheus.Contracts.RuleStorage

/-!
# Decoding a rule storage state

`rule_state.rs`: a client reads one `--constructor-args` document of the rule storage covenant, the
twenty constructor arguments as tagged JSON expressions, and keeps the metadata of an accepted and
active rule. `serde_json::from_str` and the base32 text of a CID are parameters; the covenant's own
`State`, over keys of 32 bytes, is the record of the twenty arguments.
-/

namespace Prometheus.Client.RuleState

open Prometheus.Contracts
open Prometheus.Contracts.RuleStorage (State)

/-- A public key is 32 bytes. -/
abbrev Key := Vector UInt8 32

/-- What `serde_json::Value` distinguishes; `float` stands for every number that is no integer. -/
inductive Value where
  | null
  | bool (b : Bool)
  | integer (n : Int)
  | float
  | string (s : String)
  | array (items : List Value)
  | object (fields : List (String × Value))

namespace Value

def asObject : Value → Option (List (String × Value))
  | object fields => some fields
  | _ => none

def asArray : Value → Option (List Value)
  | array items => some items
  | _ => none

def asStr : Value → Option String
  | string s => some s
  | _ => none

def asBool : Value → Option Bool
  | bool b => some b
  | _ => none

def asI64 : Value → Option I64
  | integer n => I64.ofInt? n
  | _ => none

def asU64 : Value → Option Nat
  | integer n => if 0 ≤ n ∧ n < 2 ^ 64 then some n.toNat else none
  | _ => none

end Value

def maxStateJsonBytes : Nat := 16 * 1024
def stateEntryCount : Nat := 20
def votingBlocks : Int := 864000
def minConfidenceBps : Int := 8500
def maxBps : Int := 10000
def validatorQuorumBps : Int := 6700
def statusAccepted : I64 := 2
def guardianEventAccepted : I64 := 1
def cidRawSha256Header : List UInt8 := [0x01, 0x55, 0x12, 0x20]

inductive RuleType where
  | yara
  | stix
  | sigma
  deriving DecidableEq

/-- `RuleStateMetadata`. -/
structure RuleStateMetadata where
  proposalId : Nat
  ruleId : String
  ruleType : RuleType
  ipfsCid : String
  guardianId : Key
  threatHash : Vector UInt8 32
  confidenceBps : Nat
  consensusBps : Nat
  storedAtBlock : Nat
  active : Bool
  deriving DecidableEq

/-! ## Entries -/

/-- The `data` of a strict tagged object of the expected kind. -/
def taggedData (value : Value) (expectedKind : String) : Option Value := do
  let object ← value.asObject
  require (object.length = 2)
  let kind ← (object.lookup "kind").bind Value.asStr
  require (kind = expectedKind)
  object.lookup "data"

def parseInt (value : Value) : Option I64 := (taggedData value "int").bind Value.asI64

def parseBool (value : Value) : Option Bool := (taggedData value "bool").bind Value.asBool

def parseByte (value : Value) : Option UInt8 := do
  let byte ← (taggedData value "byte").bind Value.asU64
  require (byte < 256)
  return UInt8.ofNat byte

/-- The second length test is the type's; `mapM` keeps the length. -/
def parseFixedBytes (n : Nat) (value : Value) : Option (Vector UInt8 n) := do
  let items ← (taggedData value "array").bind Value.asArray
  require (items.length = n)
  let bytes ← items.mapM parseByte
  if h : bytes.length = n then some ⟨bytes.toArray, by simpa using h⟩ else none

/-- The twenty entries, in the constructor's order. -/
def parseEntries : List Value → Option (State Key)
  | [e0, e1, e2, e3, e4, e5, e6, e7, e8, e9, e10, e11, e12, e13, e14, e15, e16, e17, e18, e19] => do
    let governancePk ← parseFixedBytes 32 e0
    let nextProposalId ← parseInt e1
    let proposalId ← parseInt e2
    let guardianId ← parseFixedBytes 32 e3
    let threatHash ← parseFixedBytes 32 e4
    let ruleType ← parseInt e5
    let cidBytes ← parseFixedBytes 36 e6
    let confidence ← parseInt e7
    let submittedAtBlock ← parseInt e8
    let votesFor ← parseInt e9
    let votesAgainst ← parseInt e10
    let votingEndBlock ← parseInt e11
    let status ← parseInt e12
    let ruleCount ← parseInt e13
    let countInWindow ← parseInt e14
    let lastCountResetBlock ← parseInt e15
    let consensusScore ← parseInt e16
    let storedAtBlock ← parseInt e17
    let active ← parseBool e18
    let guardianReputationEvent ← parseInt e19
    return {
      governancePk := governancePk, nextProposalId := nextProposalId, proposalId := proposalId,
      guardianPk := guardianId, threatHash := threatHash, ruleType := ruleType,
      ruleContentIpfs := cidBytes, confidence := confidence, submittedAtBlock := submittedAtBlock,
      votesFor := votesFor, votesAgainst := votesAgainst, votingEndBlock := votingEndBlock,
      status := status, ruleCount := ruleCount, countInWindow := countInWindow,
      lastCountResetBlock := lastCountResetBlock, consensusScore := consensusScore,
      storedAtBlock := storedAtBlock, active := active,
      guardianReputationEvent := guardianReputationEvent }
  | _ => none

/-! ## Semantics -/

/-- A `u64` result: `u64::try_from`, `checked_add` and `checked_mul` fail outside the range. -/
def u64? (n : Int) : Option Int := if 0 ≤ n ∧ n < 2 ^ 64 then some n else none

def validateSemantics (s : State Key) : Option Unit := do
  require (s.status = statusAccepted ∧ s.active = true)
  require (0 ≤ s.ruleType ∧ s.ruleType ≤ 2)
  require (minConfidenceBps ≤ s.confidence.val ∧ s.confidence.val ≤ maxBps)
  let nextProposalId ← u64? s.nextProposalId.val
  let proposalId ← u64? s.proposalId.val
  let submittedAtBlock ← u64? s.submittedAtBlock.val
  let votesFor ← u64? s.votesFor.val
  let votesAgainst ← u64? s.votesAgainst.val
  let votingEndBlock ← u64? s.votingEndBlock.val
  let ruleCount ← u64? s.ruleCount.val
  let countInWindow ← u64? s.countInWindow.val
  let lastCountResetBlock ← u64? s.lastCountResetBlock.val
  let consensusScore ← u64? s.consensusScore.val
  let storedAtBlock ← u64? s.storedAtBlock.val
  let successor ← u64? (proposalId + 1)
  require (nextProposalId = successor)
  let windowEnd ← u64? (submittedAtBlock + votingBlocks)
  require (votingEndBlock = windowEnd)
  let totalVotes ← u64? (votesFor + votesAgainst)
  require (totalVotes ≠ 0)
  let scaled ← u64? (votesFor * maxBps)
  require (scaled / totalVotes = consensusScore)
  require (validatorQuorumBps ≤ consensusScore ∧ consensusScore ≤ maxBps)
  require (votingEndBlock ≤ storedAtBlock)
  require (1 ≤ ruleCount ∧ 1 ≤ countInWindow)
  require (lastCountResetBlock ≤ submittedAtBlock)
  require (s.guardianReputationEvent = guardianEventAccepted)

def ruleTypeOf (ruleTypeRaw : I64) : Option RuleType :=
  if ruleTypeRaw = 0 then some .yara
  else if ruleTypeRaw = 1 then some .stix
  else if ruleTypeRaw = 2 then some .sigma
  else none

/-- `u16::try_from`. -/
def u16? (n : Nat) : Option Nat := if n < 2 ^ 16 then some n else none

/-- `PROM-RULE-` and the identifier, at least four digits wide. -/
def ruleIdOf (proposalId : Nat) : String :=
  let digits := toString proposalId
  "PROM-RULE-" ++ String.ofList (List.replicate (4 - digits.length) '0') ++ digits

/-- `fromStr` is `serde_json::from_str`, `base32` the multibase text of a CID. -/
def decodeState (fromStr : List UInt8 → Option Value) (base32 : Vector UInt8 36 → String)
    (json : List UInt8) : Option RuleStateMetadata := do
  require (json.length ≤ maxStateJsonBytes)
  let value ← fromStr json
  let entries ← value.asArray
  require (entries.length = stateEntryCount)
  let s ← parseEntries entries
  validateSemantics s
  let proposalId ← u64? s.proposalId.val
  let confidence ← u64? s.confidence.val
  let consensusScore ← u64? s.consensusScore.val
  let storedAtBlock ← u64? s.storedAtBlock.val
  require (s.threatHash ≠ Vector.replicate 32 0)
  require (s.ruleContentIpfs.toList.take 4 = cidRawSha256Header)
  let ruleType ← ruleTypeOf s.ruleType
  let confidenceBps ← u16? confidence.toNat
  let consensusBps ← u16? consensusScore.toNat
  return {
    proposalId := proposalId.toNat
    ruleId := ruleIdOf proposalId.toNat
    ruleType := ruleType
    ipfsCid := base32 s.ruleContentIpfs
    guardianId := s.guardianPk
    threatHash := s.threatHash
    confidenceBps := confidenceBps
    consensusBps := consensusBps
    storedAtBlock := storedAtBlock.toNat
    active := s.active }

/-! ## The document of a state -/

def tagged (kind : String) (data : Value) : Value :=
  .object [("kind", .string kind), ("data", data)]

def intArg (n : I64) : Value := tagged "int" (.integer n.val)

def boolArg (b : Bool) : Value := tagged "bool" (.bool b)

def byteArg (b : UInt8) : Value := tagged "byte" (.integer b.toNat)

def bytesArg {n : Nat} (v : Vector UInt8 n) : Value := tagged "array" (.array (v.toList.map byteArg))

/-- The constructor arguments that carry a state of the covenant. -/
def constructorArgs (s : State Key) : List Value :=
  [bytesArg s.governancePk, intArg s.nextProposalId, intArg s.proposalId, bytesArg s.guardianPk,
    bytesArg s.threatHash, intArg s.ruleType, bytesArg s.ruleContentIpfs, intArg s.confidence,
    intArg s.submittedAtBlock, intArg s.votesFor, intArg s.votesAgainst, intArg s.votingEndBlock,
    intArg s.status, intArg s.ruleCount, intArg s.countInWindow, intArg s.lastCountResetBlock,
    intArg s.consensusScore, intArg s.storedAtBlock, boolArg s.active,
    intArg s.guardianReputationEvent]

@[simp] theorem taggedData_tagged (kind : String) (data : Value) :
    taggedData (tagged kind data) kind = some data := by
  simp [taggedData, tagged, Value.asObject, Value.asStr, require, List.lookup]

@[simp] theorem parseInt_intArg (n : I64) : parseInt (intArg n) = some n := by
  simp [parseInt, intArg, Value.asI64]

@[simp] theorem parseBool_boolArg (b : Bool) : parseBool (boolArg b) = some b := by
  simp [parseBool, boolArg, Value.asBool]

theorem asU64_integer {n : Nat} (h : n < 2 ^ 64) : Value.asU64 (.integer n) = some n := by
  have fits : 0 ≤ (n : Int) ∧ (n : Int) < 2 ^ 64 := by omega
  simp only [Value.asU64, if_pos fits, Int.toNat_natCast]

@[simp] theorem parseByte_byteArg (b : UInt8) : parseByte (byteArg b) = some b := by
  have small : b.toNat < 256 := b.toNat_lt
  have read : Value.asU64 (.integer b.toNat) = some b.toNat := asU64_integer (by omega)
  unfold parseByte byteArg
  rw [taggedData_tagged, Option.bind_some, read]
  apply line_bind.2
  refine ⟨_, rfl, ?_⟩
  apply line_bind.2
  exact ⟨(), require_eq_some.2 small, congrArg some UInt8.ofNat_toNat⟩

@[simp] theorem parseFixedBytes_bytesArg {n : Nat} (v : Vector UInt8 n) :
    parseFixedBytes n (bytesArg v) = some v := by
  have bytes : (v.toList.map byteArg).mapM parseByte = some v.toList := by
    induction v.toList with
    | nil => rfl
    | cons b l ih => simp [ih]
  unfold parseFixedBytes bytesArg
  rw [taggedData_tagged, Option.bind_some]
  simp only [Value.asArray, line_bind, require_eq_some, exists_const, Option.some.injEq]
  refine ⟨_, rfl, by simp, v.toList, bytes, ?_⟩
  rw [dif_pos (by simp)]
  simp [Vector.toList]

theorem parseEntries_constructorArgs (s : State Key) :
    parseEntries (constructorArgs s) = some s := by
  simp [parseEntries, constructorArgs]

end Prometheus.Client.RuleState
