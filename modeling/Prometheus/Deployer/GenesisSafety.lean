import Prometheus.Deployer.GenesisSeal

/-!
# Prepared signing requests are valid and balanced

What `prepare_genesis` returns passes `validate_signing_request`: the amounts balance without a wrap,
the fee is within its limits and covers the mass of the transaction, and every text that is checked
was written by the code or was checked when it was loaded.
-/

namespace Prometheus.Deployer.Genesis

open Prometheus.Codec
open Prometheus.Deployer.DeployRequest (removeKey sha256Hex)

/-! ## Integers -/

theorem checkedAdd_eq_some {a b c : UInt64} (h : checkedAdd a b = some c) :
    c.toNat = a.toNat + b.toNat := by
  rw [checkedAdd, Option.ite_none_right_eq_some] at h
  obtain ⟨fits, same⟩ := h
  obtain rfl := Option.some.inj same
  rw [UInt64.toNat_add]
  exact Nat.mod_eq_of_lt fits

theorem checkedSub_eq_some {a b c : UInt64} (h : checkedSub a b = some c) :
    a.toNat = b.toNat + c.toNat := by
  rw [checkedSub, Option.ite_none_right_eq_some] at h
  obtain ⟨le, same⟩ := h
  obtain rfl := Option.some.inj same
  rw [UInt64.toNat_sub_of_le _ _ le]
  have := UInt64.le_iff_toNat_le.mp le
  omega

/-- What a transaction of this mass has to pay at least. -/
def feeFloor (mass : Nat) : Nat := if mass = 0 then 100000 else 100 * mass

/-- A mass of zero has a higher floor than small ones. -/
theorem feeFloor_mono {m n : Nat} (positive : 0 < m) (h : m ≤ n) : feeFloor m ≤ feeFloor n := by
  rw [feeFloor, feeFloor, if_neg (by omega), if_neg (by omega)]
  omega

theorem minimumFeeForMass_eq_ok {mass fee : UInt64} (h : minimumFeeForMass mass = .ok fee) :
    fee.toNat = feeFloor mass.toNat := by
  obtain ⟨product, isProduct, h⟩ := bind_eq_ok.mp h
  rw [okOrElse_eq_ok, checkedMul, Option.ite_none_right_eq_some] at isProduct
  obtain ⟨fits, same⟩ := isProduct
  obtain rfl := Option.some.inj same
  have rate : pinnedFeeRateSompiPerKg.toNat = 100000 := rfl
  have quotient : (mass * pinnedFeeRateSompiPerKg / 1000).toNat = 100 * mass.toNat := by
    rw [UInt64.toNat_div, UInt64.toNat_mul, Nat.mod_eq_of_lt fits, rate,
      show (1000 : UInt64).toNat = 1000 from rfl]
    omega
  obtain rfl := Except.ok.inj h
  have isZero : mass * pinnedFeeRateSompiPerKg / 1000 = 0 ↔ mass.toNat = 0 := by
    rw [← UInt64.toNat_inj, quotient, show (0 : UInt64).toNat = 0 from rfl]
    omega
  unfold feeFloor
  split
  · rename_i zero
    rw [if_pos (isZero.mp zero)]
    exact rate
  · rename_i positive
    rw [if_neg fun zero => positive (isZero.mpr zero)]
    exact quotient

/-! ## Hexadecimal texts -/

theorem hexDecode_hex (b : Bytes) : hexDecode (encodeAscii (hex b)) = some b := by
  have nibble : ∀ n < 16, hexNibble (UInt8.ofNat (hexDigit n)) = some (UInt8.ofNat n) := by decide
  induction b with
  | nil => rfl
  | cons x b ih =>
    have small := x.toNat_lt
    have byte : UInt8.ofNat (x.toNat / 16) * 16 + UInt8.ofNat (x.toNat % 16) = x := by
      rw [← UInt8.toNat_inj, UInt8.toNat_add, UInt8.toNat_mul,
        UInt8.toNat_ofNat_of_lt' (by show _ < 256; omega),
        UInt8.toNat_ofNat_of_lt' (by show _ < 256; omega), show (16 : UInt8).toNat = 16 from rfl]
      omega
    have text : encodeAscii (hex (x :: b)) = UInt8.ofNat (hexDigit (x.toNat / 16)) ::
        UInt8.ofNat (hexDigit (x.toNat % 16)) :: encodeAscii (hex b) := by
      simp [hex, encodeAscii]
    rw [text, hexDecode, nibble _ (by omega), nibble _ (by omega), ih]
    simp [byte]

theorem toAsciiLowercase_hex (b : Bytes) :
    toAsciiLowercase (encodeAscii (hex b)) = encodeAscii (hex b) := by
  have lower : ∀ n < 256, isLowerHex n = true → lowerByte (UInt8.ofNat n) = UInt8.ofNat n := by
    decide +kernel
  rw [toAsciiLowercase, encodeAscii, List.map_map]
  refine List.map_congr_left fun c isChar => ?_
  exact lower c ((isAscii_hex b).small c isChar) (isLowerHex_of_mem_hex isChar)

theorem validateLowerHex_hex {b : Bytes} {n : Nat} (label : String) (h : b.length = n) :
    validateLowerHex (encodeAscii (hex b)) n label = .ok b := by
  have long : (encodeAscii (hex b)).length = n * 2 := by
    rw [encodeAscii, List.length_map, length_hex, h, Nat.mul_comm]
  simp [validateLowerHex, bind, Except.bind, bailIf, long, toAsciiLowercase_hex, hexDecode_hex,
    okOrElse, h, pure, Except.pure]

theorem validateLowerHex_sha256Hex (bytes : Bytes) (label : String) :
    validateLowerHex (sha256Hex bytes) 32 label = .ok (sha256 bytes) :=
  validateLowerHex_hex label (length_sha256 bytes)

theorem toScriptPublicKey_from {script : ScriptPublicKey} (nonempty : script.script ≠ []) :
    (ScriptSpec.fromScriptPublicKey script).toScriptPublicKey = .ok script := by
  simp [ScriptSpec.fromScriptPublicKey, ScriptSpec.toScriptPublicKey, hexDecode_hex, okOrElse, bind,
    Except.bind, bailIf, nonempty, pure, Except.pure]

theorem toScriptPublicKey_ne_nil {spec : ScriptSpec} {script : ScriptPublicKey}
    (h : spec.toScriptPublicKey = .ok script) : script.script ≠ [] := by
  simp only [ScriptSpec.toScriptPublicKey, bind_eq_ok, bailIf_eq_ok, okOrElse_eq_ok] at h
  obtain ⟨bytes, -, -, nonempty, h⟩ := h
  obtain rfl := Except.ok.inj h
  exact nonempty

/-! ## The Kaspa crates -/

/-- What the documentation of the Kaspa crates promises. -/
structure Kaspa.Documented (kaspa : Kaspa) : Prop where
  /-- `TransactionId::from_str` reads what `to_string` writes. -/
  transactionId : ∀ hash : Hash, kaspa.transactionIdFromStr hash.text = .ok hash
  /-- A pay-to-script-hash script is not empty. -/
  script : ∀ redeem, (kaspa.payToScriptHashScript redeem).script ≠ []
  /-- Its address is a script-hash address of the network that was asked for. -/
  address : ∀ redeem network address,
    kaspa.extractScriptPubKeyAddress (kaspa.payToScriptHashScript redeem) network = .ok address →
      address.network = network ∧ address.version = .scriptHash
  /-- The overall mass is the maximum of the non-contextual masses and the storage mass. -/
  overall : ∀ networkId compute transient storage,
    (kaspa.params networkId).normalizedNonContextual compute transient ≤
      (kaspa.params networkId).normalizedOverall compute transient storage
  /-- A transaction has a mass. -/
  positive : ∀ networkId tx,
    0 < ((kaspa.params networkId).normalizedNonContextual
      ((kaspa.params networkId).nonContextualMasses tx).1
      ((kaspa.params networkId).nonContextualMasses tx).2).toNat

section

variable {kaspa : Kaspa} {networkId : NetworkId} {params : Params}

theorem consensusParams_eq_ok (h : consensusParams kaspa networkId = .ok params) :
    params = kaspa.params networkId := by
  unfold consensusParams at h
  split at h
  · split at h
    · exact (Except.ok.inj h).symm
    · cases h
  · exact (Except.ok.inj h).symm
  · exact (Except.ok.inj h).symm
  all_goals cases h

theorem feeMassProfile_eq_ok {compute transient storage : UInt64} {profile : FeeMassProfile}
    (h : feeMassProfile compute transient storage params = .ok profile) :
    profile.computeMass = compute ∧ profile.transientMass = transient ∧
      profile.normalizedNonContextualMass = params.normalizedNonContextual compute transient ∧
      profile.normalizedOverallMass = params.normalizedOverall compute transient storage ∧
      profile.minimumRelayFeeSompi.toNat =
        feeFloor (params.normalizedNonContextual compute transient).toNat ∧
      profile.minimumOperatorFeeSompi.toNat =
        feeFloor (params.normalizedOverall compute transient storage).toNat := by
  obtain ⟨relay, isRelay, h⟩ := bind_eq_ok.mp h
  obtain ⟨operator, isOperator, h⟩ := bind_eq_ok.mp h
  obtain rfl := Except.ok.inj h
  exact ⟨rfl, rfl, rfl, rfl, minimumFeeForMass_eq_ok isRelay, minimumFeeForMass_eq_ok isOperator⟩

theorem deployerAddressAndFundingScript_eq_ok {text : Bytes} {spec : ScriptSpec}
    {found : Address × ScriptPublicKey} :
    deployerAddressAndFundingScript kaspa text networkId spec = .ok found ↔
      kaspa.addressTryFrom text = .ok found.1 ∧
        (found.1.network = networkId.networkType ∧ found.1.version = .pubKey ∧
          found.1.payload.length = 32) ∧
        spec.toScriptPublicKey = .ok found.2 ∧
        kaspa.extractScriptPubKeyAddress found.2 networkId.networkType = .ok found.1 := by
  obtain ⟨address, script⟩ := found
  simp only [deployerAddressAndFundingScript, bind_eq_ok, bailIf_eq_ok, context_eq_ok, not_or,
    not_not, pure, Except.pure, Except.ok.injEq, Prod.mk.injEq]
  constructor
  · rintro ⟨a, isAddress, -, profile, s, isScript, b, isExtracted, -, rfl, rfl, rfl⟩
    exact ⟨isAddress, profile, isScript, isExtracted⟩
  · rintro ⟨isAddress, profile, isScript, isExtracted⟩
    exact ⟨address, isAddress, (), profile, script, isScript, address, isExtracted, (), rfl, rfl, rfl⟩

/-- The funding script of a signing request is the one of the specification. -/
theorem deployerAddressAndFundingScript_from {text : Bytes} {spec : ScriptSpec}
    {found : Address × ScriptPublicKey}
    (h : deployerAddressAndFundingScript kaspa text networkId spec = .ok found) :
    deployerAddressAndFundingScript kaspa text networkId (.fromScriptPublicKey found.2) =
      .ok found := by
  obtain ⟨isAddress, profile, isScript, isExtracted⟩ :=
    deployerAddressAndFundingScript_eq_ok.mp h
  exact deployerAddressAndFundingScript_eq_ok.mpr ⟨isAddress, profile,
    toScriptPublicKey_from (toScriptPublicKey_ne_nil isScript), isExtracted⟩

/-! ## What is prepared -/

variable {request : DeployRequest} {artifact : SilvercArtifact} {funding : GenesisFundingSpec}
  {prepared : PreparedGenesis}

/-- What a successful preparation went through. -/
structure Preparation (kaspa : Kaspa) (request : DeployRequest) (artifact : SilvercArtifact)
    (funding : GenesisFundingSpec) where
  networkId : NetworkId
  fundingOutpoint : TransactionOutpoint
  deployer : Address × ScriptPublicKey
  outputTotal : UInt64
  feeSompi : UInt64
  changes : List TransactionOutput
  storageMass : UInt64
  feeMass : FeeMassProfile
  contractAddress : Address
  network : kaspa.networkIdFromStr funding.networkId = .ok networkId
  resolver : checkResolver request.rpcUrl networkId = .ok ()
  params : consensusParams kaspa networkId = .ok (kaspa.params networkId)
  named : request.network = requestNetworkFor networkId
  outpoint : funding.fundingOutpoint.toOutpoint kaspa = .ok fundingOutpoint
  deployed : deployerAddressAndFundingScript kaspa request.deployerAddress networkId
    funding.fundingUtxo.scriptPublicKey = .ok deployer
  total : checkedAdd funding.genesisOutputValue (changeValue funding) = some outputTotal
  fee : checkedSub funding.fundingUtxo.amount outputTotal = some feeSompi
  positive : ¬ funding.genesisOutputValue = 0
  ordered : ¬ funding.maximumFeeSompi < funding.minimumFeeSompi
  atLeast : ¬ feeSompi < funding.minimumFeeSompi
  atMost : ¬ funding.maximumFeeSompi < feeSompi
  change : changeOutputs funding.changeOutput = .ok changes
  stored : (kaspa.params networkId).storageMass
    { tx := genesisTransaction kaspa artifact funding fundingOutpoint changes
      entries := [some (fundingUtxo funding deployer.2)] } = some storageMass
  profile : feeMassProfile
    ((kaspa.params networkId).nonContextualMasses (signedShape
      { genesisTransaction kaspa artifact funding fundingOutpoint changes with
        storageMass := storageMass })).1
    ((kaspa.params networkId).nonContextualMasses (signedShape
      { genesisTransaction kaspa artifact funding fundingOutpoint changes with
        storageMass := storageMass })).2
    storageMass (kaspa.params networkId) = .ok feeMass
  floor : ¬ feeSompi < feeMass.minimumOperatorFeeSompi
  contract : kaspa.extractScriptPubKeyAddress (kaspa.payToScriptHashScript artifact.script)
    networkId.networkType = .ok contractAddress

namespace Preparation

variable (p : Preparation kaspa request artifact funding)

/-- The transaction with its mass commitment. -/
def transaction : SignableTransaction :=
  setStorageMass
    { tx := genesisTransaction kaspa artifact funding p.fundingOutpoint p.changes
      entries := [some (fundingUtxo funding p.deployer.2)] } p.storageMass

def unsealed : SigningRequest :=
  unsealedRequest kaspa request artifact funding (kaspa.params p.networkId) p.fundingOutpoint
    p.deployer p.feeSompi p.storageMass p.feeMass p.transaction p.contractAddress

def signingRequest : SigningRequest :=
  { p.unsealed with signingRequestSha256 := signingRequestHash p.unsealed }

end Preparation

theorem prepareGenesis_eq_ok (h : prepareGenesis kaspa request artifact funding = .ok prepared) :
    ∃ p : Preparation kaspa request artifact funding,
      prepared = { transaction := p.transaction, signingRequest := p.signingRequest } := by
  simp only [prepareGenesis, bind_eq_ok, bailIf_eq_ok, context_eq_ok, okOrElse_eq_ok, not_or,
    not_not, expectedStorageMass, expectedFeeMassProfile] at h
  obtain ⟨_, -, networkId, network, ⟨⟩, resolver, params, isParams, -, named, fundingOutpoint,
    outpoint, deployer, deployed, -, -, outputTotal, total, feeSompi, fee, -, positive, -, ordered,
    -, atLeast, -, atMost, changes, change, storageMass, stored, feeMass, ⟨-, -, profile⟩, -, floor,
    contractAddress, contract, h⟩ := h
  obtain rfl := consensusParams_eq_ok isParams
  exact ⟨⟨networkId, fundingOutpoint, deployer, outputTotal, feeSompi, changes, storageMass, feeMass,
    contractAddress, network, resolver, isParams, named, outpoint, deployed, total, fee, positive,
    ordered, atLeast, atMost, change, stored, profile, floor, contract⟩, (Except.ok.inj h).symm⟩

/-! ## What was loaded -/

theorem validateRpcUrl_of_checkDeployRequest (h : checkDeployRequest kaspa request = .ok ()) :
    validateRpcUrl kaspa request.rpcUrl = .ok () := by
  obtain ⟨_, -, h⟩ := bind_eq_ok.mp h
  obtain ⟨_, -, h⟩ := bind_eq_ok.mp h
  obtain ⟨⟨⟩, isUrl, -⟩ := bind_eq_ok.mp h
  exact isUrl

theorem not_coinbase_of_checkFundingSpec (h : checkFundingSpec funding = .ok ()) :
    funding.fundingUtxo.isCoinbase = false := by
  obtain ⟨_, -, h⟩ := bind_eq_ok.mp h
  exact Bool.eq_false_of_not_eq_true (bailIf_eq_ok.mp h)

theorem script_of_checkArtifact {bytes : Bytes}
    (h : checkArtifact request bytes artifact = .ok ()) :
    request.contract.scriptSha256 = sha256Hex artifact.script := by
  obtain ⟨_, -, h⟩ := bind_eq_ok.mp h
  obtain ⟨_, -, h⟩ := bind_eq_ok.mp h
  obtain ⟨_, script, -⟩ := bind_eq_ok.mp h
  rw [bailIf_eq_ok, not_or, not_not, not_not] at script
  exact script.2.symm

/-! ## The signing request -/

namespace Preparation

variable (p : Preparation kaspa request artifact funding)

theorem isSealed : p.signingRequest.signingRequestSha256 = signingRequestHash p.signingRequest := by
  rw [signingRequestHash, hashed_eq]
  change signingRequestHash p.unsealed = _
  rw [signingRequestHash, hashed_eq]
  rfl

theorem amounts : funding.fundingUtxo.amount.toNat =
    funding.genesisOutputValue.toNat + (changeValue funding).toNat + p.feeSompi.toNat := by
  rw [checkedSub_eq_some p.fee, checkedAdd_eq_some p.total]

theorem outpoint_again (documented : kaspa.Documented) :
    (OutpointSpec.fromOutpoint p.fundingOutpoint).toOutpoint kaspa = .ok p.fundingOutpoint := by
  rw [OutpointSpec.toOutpoint, OutpointSpec.fromOutpoint, documented.transactionId]
  rfl

theorem profile_again :
    feeMassProfile p.feeMass.computeMass p.feeMass.transientMass p.storageMass
      (kaspa.params p.networkId) = .ok p.feeMass := by
  obtain ⟨compute, transient, -⟩ := feeMassProfile_eq_ok p.profile
  rw [compute, transient]
  exact p.profile

/-- A prepared signing request is accepted. -/
theorem validates (documented : kaspa.Documented)
    (url : validateRpcUrl kaspa request.rpcUrl = .ok ())
    (script : request.contract.scriptSha256 = sha256Hex artifact.script)
    (notCoinbase : funding.fundingUtxo.isCoinbase = false) :
    validateSigningRequest kaspa p.signingRequest = .ok () := by
  obtain ⟨network, version⟩ := documented.address _ _ _ p.contract
  have hashHex (hash : Hash) (label : String) :
      validateLowerHex hash.text 32 label = .ok hash.val := validateLowerHex_hex label hash.property
  have scriptHex : validateLowerHex request.contract.scriptSha256 32 "contract_script_sha256" =
      .ok (sha256 artifact.script) := by
    rw [script]
    exact validateLowerHex_sha256Hex _ _
  have payload := (deployerAddressAndFundingScript_eq_ok.mp p.deployed).2.1.2.2
  simp only [validateSigningRequest, bind_eq_ok, bailIf_eq_ok, context_eq_ok, okOrElse_eq_ok]
  refine ⟨(), by simp [signingRequest, unsealed, unsealedRequest], (), not_not.mpr p.isSealed, (), ?_,
    (), url, p.networkId, p.network, (), p.resolver, _, p.params, (), not_not.mpr p.named, (),
    not_not.mpr rfl, p.feeMass, p.profile_again, (), ?_, p.deployer,
    deployerAddressAndFundingScript_from p.deployed, _, validateLowerHex_hex _ payload, (),
    not_not.mpr rfl, _, p.outpoint_again documented, _, documented.transactionId _, _, hashHex _ _,
    _, scriptHex, _, hashHex _ _, _, toScriptPublicKey_from (documented.script _), _, p.contract, (),
    ?_, (), not_not.mpr rfl, (), not_not.mpr rfl, _, p.total, _, p.fee, ?_⟩
  · simp [signingRequest, unsealed, unsealedRequest, notCoinbase]
  · simp [signingRequest, unsealed, unsealedRequest]
  · simp [network, version]
  · simp only [signingRequest, unsealed, unsealedRequest, not_or, not_not]
    exact ⟨p.positive, trivial, p.ordered, p.atLeast, p.atMost, p.floor⟩

theorem outputs : p.transaction.tx.outputs.map (fun output => output.value) =
    funding.genesisOutputValue :: (funding.changeOutput.map fun change => change.value).toList := by
  have changes := p.change
  unfold changeOutputs at changes
  split at changes
  · rename_i none
    obtain same := Except.ok.inj changes
    simp [transaction, setStorageMass, genesisTransaction, unboundContractOutput, none, ← same]
  · rename_i change isChange
    obtain ⟨script, -, changes⟩ := bind_eq_ok.mp changes
    obtain same := Except.ok.inj changes
    simp [transaction, setStorageMass, genesisTransaction, unboundContractOutput, isChange, ← same]

end Preparation

/-! ## What a prepared signing request promises -/

/-- The compute and the transient mass of a transaction once it is signed. -/
def signedMasses (params : Params) (tx : Transaction) : UInt64 × UInt64 :=
  params.nonContextualMasses (signedShape tx)

/-- The value that goes in comes out, and the fee pays for the mass of the transaction. -/
structure Balanced (params : Params) (funding : GenesisFundingSpec) (prepared : PreparedGenesis) :
    Prop where
  /-- The amounts of the request are the ones of the specification. -/
  amounts : prepared.signingRequest.fundingAmount = funding.fundingUtxo.amount ∧
    prepared.signingRequest.genesisOutputValue = funding.genesisOutputValue ∧
    prepared.signingRequest.changeOutputValue = changeValue funding
  /-- The transaction spends and pays these amounts. -/
  spent : prepared.transaction.entries.map (fun entry => entry.map fun utxo => utxo.amount) =
    [some prepared.signingRequest.fundingAmount]
  paid : prepared.transaction.tx.outputs.map (fun output => output.value) =
    prepared.signingRequest.genesisOutputValue ::
      (funding.changeOutput.map fun change => change.value).toList
  balance : prepared.signingRequest.fundingAmount.toNat =
    prepared.signingRequest.genesisOutputValue.toNat +
      prepared.signingRequest.changeOutputValue.toNat + prepared.signingRequest.feeSompi.toNat
  /-- The fee is enough to relay the transaction. -/
  relay : feeFloor (params.normalizedNonContextual (signedMasses params prepared.transaction.tx).1
    (signedMasses params prepared.transaction.tx).2).toNat ≤ prepared.signingRequest.feeSompi.toNat
  /-- It reaches the floor of the operator, which counts the storage mass as well. -/
  operator : feeFloor (params.normalizedOverall (signedMasses params prepared.transaction.tx).1
    (signedMasses params prepared.transaction.tx).2 prepared.transaction.tx.storageMass).toNat ≤
      prepared.signingRequest.feeSompi.toNat
  within : funding.minimumFeeSompi ≤ prepared.signingRequest.feeSompi ∧
    prepared.signingRequest.feeSompi ≤ funding.maximumFeeSompi

theorem Preparation.balanced (p : Preparation kaspa request artifact funding)
    (documented : kaspa.Documented) :
    Balanced (kaspa.params p.networkId) funding
      { transaction := p.transaction, signingRequest := p.signingRequest } := by
  obtain ⟨-, -, -, -, -, operatorFee⟩ := feeMassProfile_eq_ok p.profile
  have operator : p.feeMass.minimumOperatorFeeSompi.toNat ≤ p.feeSompi.toNat :=
    UInt64.le_iff_toNat_le.mp (UInt64.not_lt.mp p.floor)
  rw [operatorFee] at operator
  have relay := feeFloor_mono (documented.positive p.networkId (signedShape p.transaction.tx))
    (UInt64.le_iff_toNat_le.mp (documented.overall p.networkId _ _ p.transaction.tx.storageMass))
  exact
    { amounts := ⟨rfl, rfl, rfl⟩
      spent := rfl
      paid := p.outputs
      balance := p.amounts
      relay := relay.trans operator
      operator := operator
      within := ⟨UInt64.not_lt.mp p.atLeast, UInt64.not_lt.mp p.atMost⟩ }

/-- What is prepared of loaded descriptions is accepted, balanced, and refused once it is changed. -/
theorem prepare_genesis_consistent {bytes : Bytes} (documented : kaspa.Documented)
    (isRequest : checkDeployRequest kaspa request = .ok ())
    (isArtifact : checkArtifact request bytes artifact = .ok ())
    (isFunding : checkFundingSpec funding = .ok ())
    (isPrepared : prepareGenesis kaspa request artifact funding = .ok prepared) :
    validateSigningRequest kaspa prepared.signingRequest = .ok () ∧
      (∃ networkId, kaspa.networkIdFromStr funding.networkId = .ok networkId ∧
        Balanced (kaspa.params networkId) funding prepared) ∧
      ∀ changed : SigningRequest, changed ≠ prepared.signingRequest →
        (changed.signingRequestSha256 = prepared.signingRequest.signingRequestSha256 ∨
          changed = { prepared.signingRequest with
            signingRequestSha256 := changed.signingRequestSha256 }) →
        NoCollision sha256 changed.hashed prepared.signingRequest.hashed →
        ∃ text, validateSigningRequest kaspa changed = .error text := by
  obtain ⟨p, rfl⟩ := prepareGenesis_eq_ok isPrepared
  refine ⟨?_, ⟨p.networkId, p.network, p.balanced documented⟩, fun changed isChanged => ?_⟩
  · exact p.validates documented (validateRpcUrl_of_checkDeployRequest isRequest)
      (script_of_checkArtifact isArtifact) (not_coinbase_of_checkFundingSpec isFunding)
  · exact changed_refused p.isSealed isChanged

end

/-! ## A canary -/

namespace Canary

def publicKey : Bytes :=
  [121, 190, 102, 126, 249, 220, 187, 172, 85, 160, 98, 149, 206, 135, 11, 7, 2, 155, 252, 219, 45,
    206, 40, 217, 89, 242, 129, 91, 22, 248, 23, 152]

/-- The BLAKE2b hash of the contract script. -/
def scriptHash : Bytes :=
  [206, 87, 33, 98, 133, 18, 80, 6, 236, 24, 25, 123, 216, 24, 66, 33, 206, 250, 85, 155, 176, 121,
    132, 16, 217, 154, 91, 186, 91, 7, 205, 29]

def deployerAddress : Bytes :=
  ascii "kaspatest:qpumuen7l8wthtz45p3ftn58pvrs9xlumvkuu2xet8egzkcklqtes5z8rkmpd"

def contractAddress : Bytes :=
  ascii "kaspatest:pr89wgtzs5f9qphvrqvhhkqcggsua7j4nwc8npqsmxd9hwjmqlx36gz5l6t4g"

def deployer : Address := { network := .testnet, version := .pubKey, payload := publicKey }

def hashOf (b : UInt8) : Hash := ⟨List.replicate 32 b, List.length_replicate⟩

/-- The address that a script pays to. -/
def addressOfScript (network : NetworkType) : Bytes → Except String Address
  | 32 :: rest =>
    if rest.length = 33 ∧ rest.getLast? = some 172 then
      .ok { network := network, version := .pubKey, payload := rest.take 32 }
    else .error "unsupported script"
  | 170 :: 32 :: rest =>
    if rest.length = 33 ∧ rest.getLast? = some 135 then
      .ok { network := network, version := .scriptHash, payload := rest.take 32 }
    else .error "unsupported script"
  | _ => .error "unsupported script"

/-- The Kaspa crates, as far as one transaction needs them. -/
def kaspa : Kaspa where
  networkIdFromStr text :=
    if text = ascii "testnet-10" then .ok { networkType := .testnet, suffix := some 10 }
    else .error "invalid network"
  params _ :=
    { toccataActivation := 467579632
      storageMass := fun _ => some 1501
      nonContextualMasses := fun _ => (2154, 1688)
      normalizedNonContextual := fun compute transient =>
        if compute ≤ transient then transient else compute
      normalizedOverall := fun compute transient storage =>
        if (if compute ≤ transient then transient else compute) ≤ storage then storage
        else if compute ≤ transient then transient else compute }
  transactionIdFromStr text :=
    match hexDecode text with
    | some bytes =>
      if long : bytes.length = 32 then .ok ⟨bytes, long⟩ else .error "invalid hash length"
    | none => .error "invalid hash"
  addressTryFrom text :=
    if text = deployerAddress then .ok deployer else .error "invalid address"
  addressToString address :=
    if address = deployer then deployerAddress else contractAddress
  extractScriptPubKeyAddress script network := addressOfScript network script.script
  payToScriptHashScript _ := { version := 0, script := [170, 32] ++ scriptHash ++ [135] }
  covenantId _ _ := hashOf 1
  transactionId _ := hashOf 2
  schnorrSignatureHash _ := hashOf 3
  urlParse _ := .error "relative URL without a base"

theorem documented : kaspa.Documented where
  transactionId hash := by simp [kaspa, Hash.text, hexDecode_hex, hash.property]
  script redeem := by simp [kaspa]
  address redeem network address found := by
    obtain rfl := Except.ok.inj found
    exact ⟨rfl, rfl⟩
  overall networkId compute transient storage := by
    simp only [kaspa]
    split <;> split <;> simp_all
  positive networkId tx := by
    change 0 < (if (2154 : UInt64) ≤ 1688 then (1688 : UInt64) else 2154).toNat
    decide

def artifact : SilvercArtifact where
  contractName := h001CanaryContract
  compilerVersion := ascii "0.1.0"
  script := [81]

def artifactBytes : Bytes :=
  ascii "\x7b\"contract_name\":\"ValidatorStakingH001\",\"compiler_version\":\"0.1.0\",\"script\":[81]\x7d"

def request : DeployRequest where
  schemaVersion := 1
  requestType := ascii "prometheus_silverc_deploy_request"
  status := ascii "CANARY_READY_FOR_KEYLESS_GENESIS_OPERATOR"
  network := ascii "testnet"
  rpcUrl := publicTestnetResolver
  deployerAddress := deployerAddress
  deploymentProfile :=
    { name := h001CanaryDeploymentProfile
      kind := ascii "canary"
      networkId := ascii "testnet-10"
      selectedContracts := [h001CanaryContract]
      fullBundleFixtureCount := 7
      fullBundleManifestSha256 := fullBundleManifestSha256 }
  contract :=
    { name := h001CanaryContract
      artifactSha256 := sha256Hex artifactBytes
      scriptSha256 := sha256Hex artifact.script
      scriptLen := 1 }
  safetyScope := ascii "deploy_request_builder_only"
  requestSha256 := (hashOf 4).text

/-- Ten coins for the contract, ten coins back and a hundredth of a coin for the fee. -/
def funding : GenesisFundingSpec where
  schemaVersion := 1
  kind := ascii "prometheus.silverc.genesis_funding"
  networkId := ascii "testnet-10"
  requestSha256 := (hashOf 4).text
  contractName := h001CanaryContract
  fundingOutpoint := { transactionId := (hashOf 5).text, index := 0 }
  fundingUtxo :=
    { amount := 2001000000
      scriptPublicKey := .fromScriptPublicKey { version := 0, script := [32] ++ publicKey ++ [172] }
      blockDaaScore := 531038718
      isCoinbase := false }
  genesisOutputValue := 1000000000
  minimumFeeSompi := 100000
  maximumFeeSompi := 2000000
  changeOutput := some
    { value := 1000000000
      scriptPublicKey :=
        .fromScriptPublicKey { version := 0, script := [32] ++ publicKey ++ [172] } }

theorem request_ok : checkDeployRequest kaspa request = .ok () := by decide +kernel

theorem artifact_ok : checkArtifact request artifactBytes artifact = .ok () := by
  simp [checkArtifact, request, artifact, bailIf, bind, Except.bind]

theorem funding_ok : checkFundingSpec funding = .ok () := by decide +kernel

theorem isOk_prepareGenesis : (prepareGenesis kaspa request artifact funding).isOk = true := by
  decide +kernel

end Canary

/-- A canary that is prepared, of which any change is refused. -/
theorem prepare_genesis_consistent_canary : ∃ prepared,
    prepareGenesis Canary.kaspa Canary.request Canary.artifact Canary.funding = .ok prepared ∧
      validateSigningRequest Canary.kaspa prepared.signingRequest = .ok () ∧
      (∃ networkId, Canary.kaspa.networkIdFromStr Canary.funding.networkId = .ok networkId ∧
        Balanced (Canary.kaspa.params networkId) Canary.funding prepared) ∧
      ∀ changed : SigningRequest, changed ≠ prepared.signingRequest →
        (changed.signingRequestSha256 = prepared.signingRequest.signingRequestSha256 ∨
          changed = { prepared.signingRequest with
            signingRequestSha256 := changed.signingRequestSha256 }) →
        NoCollision sha256 changed.hashed prepared.signingRequest.hashed →
        ∃ text, validateSigningRequest Canary.kaspa changed = .error text := by
  cases result : prepareGenesis Canary.kaspa Canary.request Canary.artifact Canary.funding with
  | error text =>
    have isOk := Canary.isOk_prepareGenesis
    rw [result] at isOk
    cases isOk
  | ok prepared =>
    exact ⟨prepared, rfl, prepare_genesis_consistent Canary.documented Canary.request_ok
      Canary.artifact_ok Canary.funding_ok result⟩

end Prometheus.Deployer.Genesis
