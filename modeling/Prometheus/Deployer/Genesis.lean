import Prometheus.Deployer.DeployRequest

/-!
# Genesis preparation

`prepare_genesis` and `validate_signing_request` of `modules/silverc-deployer/src/lib.rs`, with what
they call and the checks of the loaders whose results they take. A Rust `String` is its UTF-8 bytes,
an error is its outermost text. What the Kaspa crates and the `url` crate compute is a parameter.
-/

namespace Prometheus.Deployer.Genesis

open Prometheus.Codec
open Prometheus.Deployer.DeployRequest (removeKey sha256Hex)

def transactionVersion : UInt16 := 1
def fundingComputeBudget : UInt16 := 10
def contractOutputIndex : UInt32 := 0
def fundingInputIndex : UInt16 := 0
def signingRequestSchemaVersion : UInt32 := 2
def pinnedFeeRateSompiPerKg : UInt64 := 100000
def signingRequestKind : Bytes := ascii "prometheus.silverc.genesis.signing_request"
def signingRequestStatus : Bytes := ascii "READY_FOR_EXTERNAL_SCHNORR_SIGNATURE"
def publicTestnetResolver : Bytes := ascii "kaspa-resolver://public"
def fullDeploymentProfile : Bytes := ascii "full"
def h001CanaryDeploymentProfile : Bytes := ascii "testnet-10-validator-staking-h001"
def h001CanaryContract : Bytes := ascii "ValidatorStakingH001"

def fullBundleManifestSha256 : Bytes :=
  ascii "e6cec2aa5d740c47c972fe92d4607ffd8a7a3c3f26b353475451d50b2670aefd"

def fullDeploymentContracts : List Bytes :=
  ["ValidatorStakingH001", "ValidatorStakingState", "GuardianReputationState", "RuleStorageState",
    "CommunityDonationsState", "DevIncentivePoolState", "GovernanceAutoTuningState"].map ascii

def schnorrScriptLen : Nat := 66

def secretMarkers : List Bytes :=
  ["private", "secret", "seed", "mnemonic", "password", "passwd", "wallet", "keystore",
    "token"].map ascii

/-! ## The Kaspa crates -/

inductive NetworkType
  | mainnet
  | testnet
  | devnet
  | simnet
  deriving DecidableEq, Repr

structure NetworkId where
  networkType : NetworkType
  suffix : Option UInt32
  deriving DecidableEq, Repr

inductive AddressVersion
  | pubKey
  | pubKeyEcdsa
  | scriptHash
  deriving DecidableEq, Repr

/-- An address; its network type is `Prefix::from(network_id)` of the source. -/
structure Address where
  network : NetworkType
  version : AddressVersion
  payload : Bytes
  deriving DecidableEq, Repr

structure ScriptPublicKey where
  version : UInt16
  script : Bytes
  deriving DecidableEq, Repr

/-- A hash or an identifier of 32 bytes. -/
abbrev Hash : Type := { bytes : Bytes // bytes.length = 32 }

/-- `to_string` of a hash. -/
def Hash.text (hash : Hash) : Bytes := encodeAscii (hex hash.val)

structure TransactionOutpoint where
  transactionId : Hash
  index : UInt32
  deriving DecidableEq

structure CovenantBinding where
  authorizingInput : UInt16
  covenantId : Hash
  deriving DecidableEq

structure TransactionOutput where
  value : UInt64
  scriptPublicKey : ScriptPublicKey
  covenant : Option CovenantBinding
  deriving DecidableEq

structure TransactionInput where
  previousOutpoint : TransactionOutpoint
  signatureScript : Bytes
  sequence : UInt64
  computeBudget : UInt16
  deriving DecidableEq

/-- A transaction of the native subnetwork; `storageMass` is its mass commitment. -/
structure Transaction where
  version : UInt16
  inputs : List TransactionInput
  outputs : List TransactionOutput
  lockTime : UInt64
  gas : UInt64
  payload : Bytes
  storageMass : UInt64
  deriving DecidableEq

structure UtxoEntry where
  amount : UInt64
  scriptPublicKey : ScriptPublicKey
  blockDaaScore : UInt64
  isCoinbase : Bool
  covenantId : Option Hash
  deriving DecidableEq

structure SignableTransaction where
  tx : Transaction
  entries : List (Option UtxoEntry)
  deriving DecidableEq

/-- What the mass calculator and the mass cofactors say under the parameters of a network. -/
structure Params where
  toccataActivation : UInt64
  /-- The storage mass of `calc_contextual_masses`. -/
  storageMass : SignableTransaction → Option UInt64
  /-- The compute mass and the transient mass of `calc_non_contextual_masses`. -/
  nonContextualMasses : Transaction → UInt64 × UInt64
  /-- `NonContextualMasses::normalized_max` -/
  normalizedNonContextual : UInt64 → UInt64 → UInt64
  /-- `Mass::normalized_max` -/
  normalizedOverall : UInt64 → UInt64 → UInt64 → UInt64

/-- What `Url::parse` finds in a URL. -/
structure Url where
  scheme : Bytes
  username : Bytes
  password : Option Bytes
  hostStr : Option Bytes
  query : Option Bytes
  fragment : Option Bytes

/-- What is called of the Kaspa crates and the `url` crate. -/
structure Kaspa where
  networkIdFromStr : Bytes → Except String NetworkId
  params : NetworkId → Params
  transactionIdFromStr : Bytes → Except String Hash
  addressTryFrom : Bytes → Except String Address
  addressToString : Address → Bytes
  extractScriptPubKeyAddress : ScriptPublicKey → NetworkType → Except String Address
  payToScriptHashScript : Bytes → ScriptPublicKey
  covenantId : TransactionOutpoint → List (UInt32 × TransactionOutput) → Hash
  transactionId : Transaction → Hash
  /-- `calc_schnorr_signature_hash` of the first input with `SIG_HASH_ALL`. -/
  schnorrSignatureHash : SignableTransaction → Hash
  urlParse : Bytes → Except String Url

/-! ## Records -/

/-- A `BTreeMap` with text keys. -/
structure BTreeMap (α : Type) where
  entries : List (Bytes × α)
  sorted : (entries.map Prod.fst).Pairwise (· < ·)
  deriving DecidableEq

structure ScriptSpec where
  version : UInt16
  scriptHex : Bytes
  deriving DecidableEq, Repr

structure OutpointSpec where
  transactionId : Bytes
  index : UInt32
  deriving DecidableEq, Repr

structure FundingUtxoSpec where
  amount : UInt64
  scriptPublicKey : ScriptSpec
  blockDaaScore : UInt64
  isCoinbase : Bool
  deriving DecidableEq, Repr

structure ChangeOutputSpec where
  value : UInt64
  scriptPublicKey : ScriptSpec
  deriving DecidableEq, Repr

structure GenesisFundingSpec where
  schemaVersion : UInt32
  kind : Bytes
  networkId : Bytes
  requestSha256 : Bytes
  contractName : Bytes
  fundingOutpoint : OutpointSpec
  fundingUtxo : FundingUtxoSpec
  genesisOutputValue : UInt64
  minimumFeeSompi : UInt64
  maximumFeeSompi : UInt64
  changeOutput : Option ChangeOutputSpec
  deriving DecidableEq, Repr

structure ContractRequest where
  name : Bytes
  artifactSha256 : Bytes
  scriptSha256 : Bytes
  scriptLen : Nat
  deriving DecidableEq, Repr

structure DeploymentProfile where
  name : Bytes
  kind : Bytes
  networkId : Bytes
  selectedContracts : List Bytes
  fullBundleFixtureCount : Nat
  fullBundleManifestSha256 : Bytes
  deriving DecidableEq, Repr

structure DeployRequest where
  schemaVersion : UInt32
  requestType : Bytes
  status : Bytes
  network : Bytes
  rpcUrl : Bytes
  deployerAddress : Bytes
  deploymentProfile : DeploymentProfile
  contract : ContractRequest
  safetyScope : Bytes
  requestSha256 : Bytes
  deriving DecidableEq, Repr

structure SilvercArtifact where
  contractName : Bytes
  compilerVersion : Bytes
  script : Bytes
  deriving DecidableEq, Repr

structure SigningRequest where
  schemaVersion : UInt32
  kind : Bytes
  status : Bytes
  requestSha256 : Bytes
  contractName : Bytes
  network : Bytes
  networkId : Bytes
  rpcUrl : Bytes
  deployerAddress : Bytes
  fundingOutpoint : OutpointSpec
  fundingAmount : UInt64
  fundingScriptPublicKey : ScriptSpec
  fundingBlockDaaScore : UInt64
  fundingIsCoinbase : Bool
  genesisOutputValue : UInt64
  changeOutputValue : UInt64
  feeSompi : UInt64
  minimumFeeSompi : UInt64
  maximumFeeSompi : UInt64
  transactionVersion : UInt16
  computeBudget : UInt16
  toccataActivationDaaScore : UInt64
  computeMass : UInt64
  transientMass : UInt64
  storageMass : UInt64
  normalizedNonContextualMass : UInt64
  normalizedOverallMass : UInt64
  pinnedFeeRateSompiPerKg : UInt64
  minimumRelayFeeSompi : UInt64
  minimumOperatorFeeSompi : UInt64
  authorizingInput : UInt16
  contractOutputIndex : UInt32
  unsignedTransactionId : Bytes
  covenantId : Bytes
  deployedInstanceId : Bytes
  contractAddress : Bytes
  contractScriptSha256 : Bytes
  contractScriptPublicKey : ScriptSpec
  sighashType : Bytes
  sighashHex : Bytes
  expectedXonlyPublicKeyHex : Bytes
  externalSignerContract : BTreeMap Bytes
  safety : BTreeMap Bool
  signingRequestSha256 : Bytes
  deriving DecidableEq

structure PreparedGenesis where
  transaction : SignableTransaction
  signingRequest : SigningRequest

/-! ## Results and integers -/

/-- `if condition { bail!(…) }`. -/
def bailIf (condition : Prop) [Decidable condition] (text : String) : Except String Unit :=
  if condition then .error text else .ok ()

/-- `.context(…)`. -/
def context {α : Type} (text : String) (result : Except String α) : Except String α :=
  result.mapError fun _ => text

/-- `.ok_or_else(|| anyhow!(…))`. -/
def okOrElse {α : Type} (value : Option α) (text : String) : Except String α :=
  match value with
  | some a => .ok a
  | none => .error text

/-- `checked_add`. -/
def checkedAdd (a b : UInt64) : Option UInt64 :=
  if a.toNat + b.toNat < 2 ^ 64 then some (a + b) else none

/-- `checked_sub`. -/
def checkedSub (a b : UInt64) : Option UInt64 := if b ≤ a then some (a - b) else none

/-- `checked_mul`. -/
def checkedMul (a b : UInt64) : Option UInt64 :=
  if a.toNat * b.toNat < 2 ^ 64 then some (a * b) else none

/-! ## Hexadecimal texts -/

def hexNibble (b : UInt8) : Option UInt8 :=
  if 48 ≤ b ∧ b ≤ 57 then some (b - 48)
  else if 97 ≤ b ∧ b ≤ 102 then some (b - 87)
  else if 65 ≤ b ∧ b ≤ 70 then some (b - 55)
  else none

/-- `hex::decode`. -/
def hexDecode : Bytes → Option Bytes
  | [] => some []
  | [_] => none
  | high :: low :: rest => do
    let high ← hexNibble high
    let low ← hexNibble low
    let rest ← hexDecode rest
    pure ((high * 16 + low) :: rest)

/-- `to_ascii_lowercase` of a byte. -/
def lowerByte (b : UInt8) : UInt8 := if 65 ≤ b ∧ b ≤ 90 then b + 32 else b

/-- `to_ascii_lowercase`. -/
def toAsciiLowercase (s : Bytes) : Bytes := s.map lowerByte

def validateLowerHex (value : Bytes) (expectedBytes : Nat) (label : String) : Except String Bytes := do
  bailIf (value.length ≠ expectedBytes * 2 ∨ value ≠ toAsciiLowercase value)
    (label ++ " must be canonical lowercase " ++ toString expectedBytes ++ "-byte hex")
  let bytes ← okOrElse (hexDecode value) ("invalid " ++ label ++ " hex")
  bailIf (bytes.length ≠ expectedBytes)
    (label ++ " must be canonical lowercase " ++ toString expectedBytes ++ "-byte hex")
  pure bytes

def ScriptSpec.toScriptPublicKey (spec : ScriptSpec) : Except String ScriptPublicKey := do
  let script ← okOrElse (hexDecode spec.scriptHex) "invalid script_public_key hex"
  bailIf (script = []) "script_public_key must not be empty"
  pure { version := spec.version, script := script }

def ScriptSpec.fromScriptPublicKey (script : ScriptPublicKey) : ScriptSpec where
  version := script.version
  scriptHex := encodeAscii (hex script.script)

/-! ## The network -/

variable (kaspa : Kaspa)

def OutpointSpec.toOutpoint (spec : OutpointSpec) : Except String TransactionOutpoint := do
  let transactionId ← context "invalid funding transaction_id"
    (kaspa.transactionIdFromStr spec.transactionId)
  pure { transactionId := transactionId, index := spec.index }

def OutpointSpec.fromOutpoint (outpoint : TransactionOutpoint) : OutpointSpec where
  transactionId := outpoint.transactionId.text
  index := outpoint.index

def requestNetworkFor (networkId : NetworkId) : Bytes :=
  match networkId.networkType with
  | .mainnet => ascii "mainnet"
  | .testnet => ascii "testnet"
  | _ => ascii "sandbox"

def consensusParams (networkId : NetworkId) : Except String Params :=
  match networkId.networkType, networkId.suffix with
  | .testnet, some suffix =>
    if suffix = 10 then .ok (kaspa.params networkId)
    else .error ("rusty-kaspa v2.0.1 does not provide consensus parameters for testnet-" ++
      toString suffix)
  | .mainnet, none => .ok (kaspa.params networkId)
  | .devnet, none => .ok (kaspa.params networkId)
  | .simnet, none => .error "rusty-kaspa v2.0.1 does not activate Toccata on simnet"
  | .testnet, none => .error "testnet network_id requires the supported suffix testnet-10"
  | .mainnet, some suffix =>
    .error ("unsupported network_id profile: Mainnet suffix Some(" ++ toString suffix ++ ")")
  | .devnet, some suffix =>
    .error ("unsupported network_id profile: Devnet suffix Some(" ++ toString suffix ++ ")")
  | .simnet, some suffix =>
    .error ("unsupported network_id profile: Simnet suffix Some(" ++ toString suffix ++ ")")

/-- `value.split_once(separator)` -/
def splitOnce (separator : Bytes) : Bytes → Option (Bytes × Bytes)
  | [] => if separator = [] then some ([], []) else none
  | b :: rest =>
    if separator <+: b :: rest then some ([], (b :: rest).drop separator.length)
    else (splitOnce separator rest).map fun parts => (b :: parts.1, parts.2)

def validateRpcUrl (value : Bytes) : Except String Unit :=
  if value = publicTestnetResolver then .ok ()
  else do
    bailIf (∃ marker ∈ secretMarkers, marker <:+: toAsciiLowercase value)
      "rpc_url must not contain secret-like text"
    let (_, authority) ← okOrElse (splitOnce (ascii "://") value)
      "rpc_url must use ws:// or wss:// for Kaspa wRPC"
    bailIf (authority = [] ∨ authority.head? = some 47) "rpc_url must include a host"
    let url ← context "invalid rpc_url" (kaspa.urlParse value)
    bailIf (¬ (url.scheme = ascii "ws" ∨ url.scheme = ascii "wss"))
      "rpc_url must use ws:// or wss:// for Kaspa wRPC"
    bailIf (url.username ≠ [] ∨ url.password.isSome = true) "rpc_url must not contain credentials"
    bailIf (url.hostStr = none) "rpc_url must include a host"
    bailIf (url.query.isSome = true ∨ url.fragment.isSome = true)
      "rpc_url must not contain query strings or fragments"

def validateResolverNetwork (networkId : NetworkId) : Except String Unit :=
  bailIf (networkId.networkType ≠ .testnet ∨ networkId.suffix ≠ some 10)
    "the official public resolver is restricted to testnet-10 deployments"

/-- The check of the network where the URL is the one of the resolver. -/
def checkResolver (rpcUrl : Bytes) (networkId : NetworkId) : Except String Unit :=
  if rpcUrl = publicTestnetResolver then validateResolverNetwork networkId else .ok ()

def safetyMap : BTreeMap Bool where
  entries := [(ascii "accepts_private_keys", false), (ascii "accepts_seed_phrases", false),
    (ascii "accepts_wallet_secrets", false), (ascii "signs_transactions", false)]
  sorted := by decide

def externalSignerContractMap : BTreeMap Bytes where
  entries := [(ascii "algorithm", ascii "BIP340_SCHNORR_SECP256K1"),
    (ascii "input", ascii "32_byte_sighash_hex"),
    (ascii "key_location", ascii "external_vault_or_hsm_only"),
    (ascii "output", ascii "64_byte_signature_hex")]
  sorted := by decide

def deployerAddressAndFundingScript (deployerAddress : Bytes) (networkId : NetworkId)
    (fundingScript : ScriptSpec) : Except String (Address × ScriptPublicKey) := do
  let deployerAddress ← kaspa.addressTryFrom deployerAddress
  bailIf (deployerAddress.network ≠ networkId.networkType ∨ deployerAddress.version ≠ .pubKey ∨
      deployerAddress.payload.length ≠ 32)
    "deployer_address must be a Schnorr P2PK address for network_id"
  let fundingScriptPublicKey ← fundingScript.toScriptPublicKey
  let fundingAddress ← context "funding script_public_key is not a supported Kaspa address script"
    (kaspa.extractScriptPubKeyAddress fundingScriptPublicKey networkId.networkType)
  bailIf (fundingAddress ≠ deployerAddress)
    "funding script_public_key does not belong to deployer_address"
  pure (deployerAddress, fundingScriptPublicKey)

/-! ## What the loaders check -/

/-- `validate_deployment_profile` -/
def validateDeploymentProfile (request : DeployRequest) : Except String Unit := do
  let profile := request.deploymentProfile
  let _ ← validateLowerHex profile.fullBundleManifestSha256 32
    "deployment_profile.full_bundle_manifest_sha256"
  bailIf (profile.fullBundleFixtureCount = 0 ∨ profile.selectedContracts = [] ∨
      ¬ profile.selectedContracts.Nodup ∨ request.contract.name ∉ profile.selectedContracts)
    "deployment profile contract selection is invalid"
  bailIf (profile.fullBundleFixtureCount ≠ fullDeploymentContracts.length ∨
      profile.fullBundleManifestSha256 ≠ fullBundleManifestSha256)
    "deployment profile release-manifest binding mismatch"
  if profile.name = fullDeploymentProfile then
    bailIf (profile.kind ≠ ascii "full" ∨ profile.networkId ≠ ascii "operator-selected" ∨
        profile.selectedContracts ≠ fullDeploymentContracts ∨
        request.status ≠ ascii "READY_FOR_KEYLESS_GENESIS_OPERATOR")
      "full deployment profile/status mismatch"
  else if profile.name = h001CanaryDeploymentProfile then
    bailIf (profile.kind ≠ ascii "canary" ∨ profile.networkId ≠ ascii "testnet-10" ∨
        profile.fullBundleFixtureCount ≠ 7 ∨ profile.selectedContracts ≠ [h001CanaryContract] ∨
        request.contract.name ≠ h001CanaryContract ∨
        request.status ≠ ascii "CANARY_READY_FOR_KEYLESS_GENESIS_OPERATOR" ∨
        request.network ≠ ascii "testnet" ∨ request.rpcUrl ≠ publicTestnetResolver)
      "H-001 canary deployment profile/status/network mismatch"
  else .error "unsupported deployment profile"

/-- `load_deploy_request` on the request that was deserialized. -/
def checkDeployRequest (request : DeployRequest) : Except String Unit := do
  bailIf (request.schemaVersion ≠ 1 ∨
      request.requestType ≠ ascii "prometheus_silverc_deploy_request" ∨
      request.safetyScope ≠ ascii "deploy_request_builder_only")
    "unsupported deploy request schema/type/status/safety_scope"
  validateDeploymentProfile request
  validateRpcUrl kaspa request.rpcUrl
  bailIf (request.rpcUrl = publicTestnetResolver ∧ request.network ≠ ascii "testnet")
    "the official public resolver is restricted to testnet requests"

/-- `load_funding_spec` on the specification that was deserialized. -/
def checkFundingSpec (funding : GenesisFundingSpec) : Except String Unit := do
  bailIf (funding.schemaVersion ≠ 1 ∨ funding.kind ≠ ascii "prometheus.silverc.genesis_funding")
    "unsupported genesis funding schema/type"
  bailIf (funding.fundingUtxo.isCoinbase = true)
    "coinbase funding UTXOs are not accepted by this operator"

/-- `load_artifact` on the bytes of the file and the artifact that was deserialized from them. -/
def checkArtifact (request : DeployRequest) (bytes : Bytes) (artifact : SilvercArtifact) :
    Except String Unit := do
  bailIf (sha256Hex bytes ≠ request.contract.artifactSha256) "Silverc artifact_sha256 mismatch"
  bailIf (artifact.contractName ≠ request.contract.name) "Silverc artifact contract_name mismatch"
  bailIf (artifact.script.length ≠ request.contract.scriptLen ∨
      sha256Hex artifact.script ≠ request.contract.scriptSha256)
    "Silverc compiled script hash/length mismatch"
  bailIf (artifact.script = []) "Silverc compiled script must not be empty"

/-! ## Fees and masses -/

structure FeeMassProfile where
  computeMass : UInt64
  transientMass : UInt64
  normalizedNonContextualMass : UInt64
  normalizedOverallMass : UInt64
  minimumRelayFeeSompi : UInt64
  minimumOperatorFeeSompi : UInt64
  deriving DecidableEq, Repr

def minimumFeeForMass (mass : UInt64) : Except String UInt64 := do
  let product ← okOrElse (checkedMul mass pinnedFeeRateSompiPerKg) "fee/mass multiplication overflow"
  let fee := product / 1000
  pure (if fee = 0 then pinnedFeeRateSompiPerKg else fee)

def feeMassProfile (computeMass transientMass storageMass : UInt64) (params : Params) :
    Except String FeeMassProfile := do
  let normalizedNonContextualMass := params.normalizedNonContextual computeMass transientMass
  let normalizedOverallMass := params.normalizedOverall computeMass transientMass storageMass
  let minimumRelayFeeSompi ← minimumFeeForMass normalizedNonContextualMass
  let minimumOperatorFeeSompi ← minimumFeeForMass normalizedOverallMass
  pure
    { computeMass := computeMass
      transientMass := transientMass
      normalizedNonContextualMass := normalizedNonContextualMass
      normalizedOverallMass := normalizedOverallMass
      minimumRelayFeeSompi := minimumRelayFeeSompi
      minimumOperatorFeeSompi := minimumOperatorFeeSompi }

def expectedStorageMass (transaction : SignableTransaction) (params : Params) :
    Except String UInt64 :=
  okOrElse (params.storageMass transaction) "transaction storage mass is incomputable"

/-- The transaction with a signature script of the length that a signed one has. -/
def signedShape (tx : Transaction) : Transaction :=
  { tx with
    inputs := tx.inputs.map fun input =>
      { input with signatureScript := List.replicate schnorrScriptLen 0 } }

def expectedFeeMassProfile (transaction : SignableTransaction) (params : Params) :
    Except String FeeMassProfile := do
  bailIf (transaction.tx.inputs.length ≠ 1)
    "genesis transaction must contain exactly one funding input"
  let masses := params.nonContextualMasses (signedShape transaction.tx)
  feeMassProfile masses.1 masses.2 transaction.tx.storageMass params

/-! ## The hash of a signing request -/

/-- An unsigned integer below `2 ^ 64` as a value. -/
def natValue (n : Nat) (small : n < 2 ^ 64) : Value := .number ⟨n, by omega, by omega⟩

def u64Value (n : UInt64) : Value := natValue n.toNat n.toNat_lt

def u32Value (n : UInt32) : Value :=
  natValue n.toNat (Nat.lt_of_lt_of_le n.toNat_lt (by decide))

def u16Value (n : UInt16) : Value :=
  natValue n.toNat (Nat.lt_of_lt_of_le n.toNat_lt (by decide))

def ScriptSpec.value (spec : ScriptSpec) : Value :=
  .object [(ascii "version", u16Value spec.version), (ascii "script_hex", .string spec.scriptHex)]

def OutpointSpec.value (spec : OutpointSpec) : Value :=
  .object [(ascii "transaction_id", .string spec.transactionId), (ascii "index", u32Value spec.index)]

def BTreeMap.value {α : Type} (ofEntry : α → Value) (map : BTreeMap α) : Value :=
  .object (map.entries.map fun entry => (entry.1, ofEntry entry.2))

/-- The members of a signing request that its hash covers. -/
def SigningRequest.covered (r : SigningRequest) : List (Bytes × Value) :=
  [(ascii "schema_version", u32Value r.schemaVersion),
    (ascii "kind", .string r.kind),
    (ascii "status", .string r.status),
    (ascii "request_sha256", .string r.requestSha256),
    (ascii "contract_name", .string r.contractName),
    (ascii "network", .string r.network),
    (ascii "network_id", .string r.networkId),
    (ascii "rpc_url", .string r.rpcUrl),
    (ascii "deployer_address", .string r.deployerAddress),
    (ascii "funding_outpoint", r.fundingOutpoint.value),
    (ascii "funding_amount", u64Value r.fundingAmount),
    (ascii "funding_script_public_key", r.fundingScriptPublicKey.value),
    (ascii "funding_block_daa_score", u64Value r.fundingBlockDaaScore),
    (ascii "funding_is_coinbase", .bool r.fundingIsCoinbase),
    (ascii "genesis_output_value", u64Value r.genesisOutputValue),
    (ascii "change_output_value", u64Value r.changeOutputValue),
    (ascii "fee_sompi", u64Value r.feeSompi),
    (ascii "minimum_fee_sompi", u64Value r.minimumFeeSompi),
    (ascii "maximum_fee_sompi", u64Value r.maximumFeeSompi),
    (ascii "transaction_version", u16Value r.transactionVersion),
    (ascii "compute_budget", u16Value r.computeBudget),
    (ascii "toccata_activation_daa_score", u64Value r.toccataActivationDaaScore),
    (ascii "compute_mass", u64Value r.computeMass),
    (ascii "transient_mass", u64Value r.transientMass),
    (ascii "storage_mass", u64Value r.storageMass),
    (ascii "normalized_non_contextual_mass", u64Value r.normalizedNonContextualMass),
    (ascii "normalized_overall_mass", u64Value r.normalizedOverallMass),
    (ascii "pinned_fee_rate_sompi_per_kg", u64Value r.pinnedFeeRateSompiPerKg),
    (ascii "minimum_relay_fee_sompi", u64Value r.minimumRelayFeeSompi),
    (ascii "minimum_operator_fee_sompi", u64Value r.minimumOperatorFeeSompi),
    (ascii "authorizing_input", u16Value r.authorizingInput),
    (ascii "contract_output_index", u32Value r.contractOutputIndex),
    (ascii "unsigned_transaction_id", .string r.unsignedTransactionId),
    (ascii "covenant_id", .string r.covenantId),
    (ascii "deployed_instance_id", .string r.deployedInstanceId),
    (ascii "contract_address", .string r.contractAddress),
    (ascii "contract_script_sha256", .string r.contractScriptSha256),
    (ascii "contract_script_public_key", r.contractScriptPublicKey.value),
    (ascii "sighash_type", .string r.sighashType),
    (ascii "sighash_hex", .string r.sighashHex),
    (ascii "expected_xonly_public_key_hex", .string r.expectedXonlyPublicKeyHex),
    (ascii "external_signer_contract", r.externalSignerContract.value .string),
    (ascii "safety", r.safety.value .bool)]

/-- `serde_json::to_value`, as the members of the object. -/
def SigningRequest.fields (r : SigningRequest) : List (Bytes × Value) :=
  r.covered ++ [(ascii "signing_request_sha256", .string r.signingRequestSha256)]

/-- What is hashed of a signing request. -/
def SigningRequest.hashed (r : SigningRequest) : Bytes :=
  canonicalJson (.object (removeKey r.fields (ascii "signing_request_sha256")).2)

def signingRequestHash (r : SigningRequest) : Bytes := sha256Hex r.hashed

/-- `format!("{id}:{index}")` -/
def instanceId (transactionId : Bytes) (index : UInt32) : Bytes :=
  transactionId ++ [58] ++ encodeAscii (decimal index.toNat)

/-! ## The two functions -/

def validateSigningRequest (request : SigningRequest) : Except String Unit := do
  bailIf (request.schemaVersion ≠ signingRequestSchemaVersion ∨ request.kind ≠ signingRequestKind ∨
      request.status ≠ signingRequestStatus)
    "unsupported signing request schema/type/status"
  bailIf (request.signingRequestSha256 ≠ signingRequestHash request) "signing_request_sha256 mismatch"
  bailIf (request.transactionVersion ≠ transactionVersion ∨
      request.computeBudget ≠ fundingComputeBudget ∨ request.fundingIsCoinbase = true ∨
      request.authorizingInput ≠ fundingInputIndex ∨
      request.contractOutputIndex ≠ contractOutputIndex ∨
      request.sighashType ≠ ascii "SIG_HASH_ALL" ∨
      request.externalSignerContract ≠ externalSignerContractMap ∨ request.safety ≠ safetyMap)
    "signing request genesis/safety profile mismatch"
  validateRpcUrl kaspa request.rpcUrl
  let networkId ← kaspa.networkIdFromStr request.networkId
  checkResolver request.rpcUrl networkId
  let params ← consensusParams kaspa networkId
  bailIf (request.network ≠ requestNetworkFor networkId)
    "signing request network does not match network_id"
  bailIf (request.toccataActivationDaaScore ≠ params.toccataActivation)
    "signing request Toccata activation does not match consensus parameters"
  let feeMass ← feeMassProfile request.computeMass request.transientMass request.storageMass params
  bailIf (request.normalizedNonContextualMass ≠ feeMass.normalizedNonContextualMass ∨
      request.normalizedOverallMass ≠ feeMass.normalizedOverallMass ∨
      request.pinnedFeeRateSompiPerKg ≠ pinnedFeeRateSompiPerKg ∨
      request.minimumRelayFeeSompi ≠ feeMass.minimumRelayFeeSompi ∨
      request.minimumOperatorFeeSompi ≠ feeMass.minimumOperatorFeeSompi)
    "signing request fee/mass profile mismatch"
  let (deployerAddress, _) ← deployerAddressAndFundingScript kaspa request.deployerAddress networkId
    request.fundingScriptPublicKey
  let expectedPublicKey ← validateLowerHex request.expectedXonlyPublicKeyHex 32
    "expected_xonly_public_key"
  bailIf (expectedPublicKey ≠ deployerAddress.payload)
    "expected_xonly_public_key does not match deployer_address"
  let _ ← request.fundingOutpoint.toOutpoint kaspa
  let _ ← context "invalid unsigned_transaction_id"
    (kaspa.transactionIdFromStr request.unsignedTransactionId)
  let _ ← validateLowerHex request.covenantId 32 "covenant_id"
  let _ ← validateLowerHex request.contractScriptSha256 32 "contract_script_sha256"
  let _ ← validateLowerHex request.sighashHex 32 "sighash"
  let contractScriptPublicKey ← request.contractScriptPublicKey.toScriptPublicKey
  let expectedContractAddress ←
    kaspa.extractScriptPubKeyAddress contractScriptPublicKey networkId.networkType
  bailIf (expectedContractAddress.network ≠ networkId.networkType ∨
      expectedContractAddress.version ≠ .scriptHash)
    "contract_script_public_key must be a network-matched P2SH script"
  bailIf (kaspa.addressToString expectedContractAddress ≠ request.contractAddress)
    "contract_address does not match contract_script_public_key"
  bailIf (request.deployedInstanceId ≠
      instanceId request.unsignedTransactionId request.contractOutputIndex)
    "deployed_instance_id does not match transaction output"
  let outputTotal ← okOrElse (checkedAdd request.genesisOutputValue request.changeOutputValue)
    "signing request output value overflow"
  let fee ← okOrElse (checkedSub request.fundingAmount outputTotal)
    "signing request outputs exceed funding amount"
  bailIf (request.genesisOutputValue = 0 ∨ fee ≠ request.feeSompi ∨
      request.maximumFeeSompi < request.minimumFeeSompi ∨ fee < request.minimumFeeSompi ∨
      request.maximumFeeSompi < fee ∨ fee < request.minimumOperatorFeeSompi)
    "signing request value/fee profile mismatch"

/-- The check of the change output in `prepare_genesis`. -/
def checkChangeOutput (networkId : NetworkId) (deployerAddress : Address) :
    Option ChangeOutputSpec → Except String Unit
  | none => .ok ()
  | some change => do
    let changeScript ← change.scriptPublicKey.toScriptPublicKey
    let changeAddress ← context "change script_public_key is not a supported Kaspa address script"
      (kaspa.extractScriptPubKeyAddress changeScript networkId.networkType)
    bailIf (changeAddress ≠ deployerAddress) "change output must return to deployer_address"
    bailIf (change.value = 0) "change output value must be nonzero when present"

/-- The change output of the transaction. -/
def changeOutputs : Option ChangeOutputSpec → Except String (List TransactionOutput)
  | none => .ok []
  | some change => do
    let script ← change.scriptPublicKey.toScriptPublicKey
    pure [{ value := change.value, scriptPublicKey := script, covenant := none }]

/-- The value of the change output, or zero. -/
def changeValue (funding : GenesisFundingSpec) : UInt64 :=
  (funding.changeOutput.map fun change => change.value).getD 0

/-- The contract output before it is bound to its covenant. -/
def unboundContractOutput (artifact : SilvercArtifact) (funding : GenesisFundingSpec) :
    TransactionOutput where
  value := funding.genesisOutputValue
  scriptPublicKey := kaspa.payToScriptHashScript artifact.script
  covenant := none

def covenantIdOf (artifact : SilvercArtifact) (funding : GenesisFundingSpec)
    (fundingOutpoint : TransactionOutpoint) : Hash :=
  kaspa.covenantId fundingOutpoint [(contractOutputIndex, unboundContractOutput kaspa artifact funding)]

/-- The transaction before its storage mass is known. -/
def genesisTransaction (artifact : SilvercArtifact) (funding : GenesisFundingSpec)
    (fundingOutpoint : TransactionOutpoint) (changes : List TransactionOutput) : Transaction where
  version := transactionVersion
  inputs :=
    [{ previousOutpoint := fundingOutpoint, signatureScript := [], sequence := 0,
       computeBudget := fundingComputeBudget }]
  outputs :=
    { unboundContractOutput kaspa artifact funding with
      covenant := some
        { authorizingInput := fundingInputIndex
          covenantId := covenantIdOf kaspa artifact funding fundingOutpoint } } :: changes
  lockTime := 0
  gas := 0
  payload := []
  storageMass := 0

def fundingUtxo (funding : GenesisFundingSpec) (script : ScriptPublicKey) : UtxoEntry where
  amount := funding.fundingUtxo.amount
  scriptPublicKey := script
  blockDaaScore := funding.fundingUtxo.blockDaaScore
  isCoinbase := false
  covenantId := none

/-- `transaction.tx.set_storage_mass(storage_mass)` -/
def setStorageMass (transaction : SignableTransaction) (storageMass : UInt64) :
    SignableTransaction :=
  { transaction with tx := { transaction.tx with storageMass := storageMass } }

/-- The signing request before its hash is known. -/
def unsealedRequest (request : DeployRequest) (artifact : SilvercArtifact)
    (funding : GenesisFundingSpec) (params : Params) (fundingOutpoint : TransactionOutpoint)
    (deployer : Address × ScriptPublicKey) (feeSompi storageMass : UInt64)
    (feeMass : FeeMassProfile) (transaction : SignableTransaction) (contractAddress : Address) :
    SigningRequest where
  schemaVersion := signingRequestSchemaVersion
  kind := signingRequestKind
  status := signingRequestStatus
  requestSha256 := request.requestSha256
  contractName := request.contract.name
  network := request.network
  networkId := funding.networkId
  rpcUrl := request.rpcUrl
  deployerAddress := request.deployerAddress
  fundingOutpoint := .fromOutpoint fundingOutpoint
  fundingAmount := funding.fundingUtxo.amount
  fundingScriptPublicKey := .fromScriptPublicKey deployer.2
  fundingBlockDaaScore := funding.fundingUtxo.blockDaaScore
  fundingIsCoinbase := funding.fundingUtxo.isCoinbase
  genesisOutputValue := funding.genesisOutputValue
  changeOutputValue := changeValue funding
  feeSompi := feeSompi
  minimumFeeSompi := funding.minimumFeeSompi
  maximumFeeSompi := funding.maximumFeeSompi
  transactionVersion := transactionVersion
  computeBudget := fundingComputeBudget
  toccataActivationDaaScore := params.toccataActivation
  computeMass := feeMass.computeMass
  transientMass := feeMass.transientMass
  storageMass := storageMass
  normalizedNonContextualMass := feeMass.normalizedNonContextualMass
  normalizedOverallMass := feeMass.normalizedOverallMass
  pinnedFeeRateSompiPerKg := pinnedFeeRateSompiPerKg
  minimumRelayFeeSompi := feeMass.minimumRelayFeeSompi
  minimumOperatorFeeSompi := feeMass.minimumOperatorFeeSompi
  authorizingInput := fundingInputIndex
  contractOutputIndex := contractOutputIndex
  unsignedTransactionId := (kaspa.transactionId transaction.tx).text
  covenantId := (covenantIdOf kaspa artifact funding fundingOutpoint).text
  deployedInstanceId := instanceId (kaspa.transactionId transaction.tx).text contractOutputIndex
  contractAddress := kaspa.addressToString contractAddress
  contractScriptSha256 := request.contract.scriptSha256
  contractScriptPublicKey := .fromScriptPublicKey (kaspa.payToScriptHashScript artifact.script)
  sighashType := ascii "SIG_HASH_ALL"
  sighashHex := (kaspa.schnorrSignatureHash transaction).text
  expectedXonlyPublicKeyHex := encodeAscii (hex deployer.1.payload)
  externalSignerContract := externalSignerContractMap
  safety := safetyMap
  signingRequestSha256 := []

def prepareGenesis (request : DeployRequest) (artifact : SilvercArtifact)
    (funding : GenesisFundingSpec) : Except String PreparedGenesis := do
  bailIf (funding.requestSha256 ≠ request.requestSha256 ∨
      funding.contractName ≠ request.contract.name ∨ artifact.contractName ≠ request.contract.name)
    "request, artifact, and funding contract bindings do not match"
  let networkId ← context "invalid network_id" (kaspa.networkIdFromStr funding.networkId)
  checkResolver request.rpcUrl networkId
  let params ← consensusParams kaspa networkId
  bailIf (request.network ≠ requestNetworkFor networkId)
    "request network does not match funding network_id"
  let fundingOutpoint ← funding.fundingOutpoint.toOutpoint kaspa
  let deployer ← deployerAddressAndFundingScript kaspa request.deployerAddress networkId
    funding.fundingUtxo.scriptPublicKey
  checkChangeOutput kaspa networkId deployer.1 funding.changeOutput
  let outputTotal ← okOrElse (checkedAdd funding.genesisOutputValue (changeValue funding))
    "output value overflow"
  let feeSompi ← okOrElse (checkedSub funding.fundingUtxo.amount outputTotal)
    "funding amount is smaller than genesis plus change outputs"
  bailIf (funding.genesisOutputValue = 0) "genesis_output_value must be nonzero"
  bailIf (funding.maximumFeeSompi < funding.minimumFeeSompi)
    "maximum_fee_sompi must not be below minimum_fee_sompi"
  bailIf (feeSompi < funding.minimumFeeSompi)
    "implicit transaction fee is below minimum_fee_sompi"
  bailIf (funding.maximumFeeSompi < feeSompi) "implicit transaction fee exceeds maximum_fee_sompi"
  let changes ← changeOutputs funding.changeOutput
  let unweighed : SignableTransaction :=
    { tx := genesisTransaction kaspa artifact funding fundingOutpoint changes
      entries := [some (fundingUtxo funding deployer.2)] }
  let storageMass ← expectedStorageMass unweighed params
  let transaction := setStorageMass unweighed storageMass
  let feeMass ← expectedFeeMassProfile transaction params
  bailIf (feeSompi < feeMass.minimumOperatorFeeSompi)
    ("implicit transaction fee is below pinned operator fee/mass floor: " ++ toString feeSompi ++
      " < " ++ toString feeMass.minimumOperatorFeeSompi)
  let contractAddress ← kaspa.extractScriptPubKeyAddress
    (kaspa.payToScriptHashScript artifact.script) networkId.networkType
  let signingRequest := unsealedRequest kaspa request artifact funding params fundingOutpoint
    deployer feeSompi storageMass feeMass transaction contractAddress
  pure
    { transaction := transaction
      signingRequest :=
        { signingRequest with signingRequestSha256 := signingRequestHash signingRequest } }

end Prometheus.Deployer.Genesis
