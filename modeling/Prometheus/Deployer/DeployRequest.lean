import Prometheus.Codec.Sha256
import Prometheus.Deployer.CanonicalJson

/-!
# The hash of a deploy request

`build_request` of `scripts/build_silverc_deploy_requests.py` with the checks of its inputs, and the
hash check of `load_deploy_request` in `modules/silverc-deployer/src/lib.rs`. Python hashes its
canonical form of the request without the hash; Rust removes the hash and hashes its own canonical
form of the rest. What `urlparse` says of an RPC URL is a parameter.
-/

namespace Prometheus.Deployer.DeployRequest

open Prometheus.Codec

/-! ## The builder -/

/-- The members of `args` that `build_request` and `validate_public_inputs` read. -/
structure Args where
  network : Str
  rpcUrl : Str
  deployerAddress : Str
  metricsOraclePubkey : Option Str
  deploymentProfile : Str

/-- What `build_request` is called with. A dictionary is its fields. -/
structure Inputs where
  args : Args
  manifest : List (Str × Json)
  entry : List (Str × Json)
  order : Nat
  constructorArgs : Json
  deploymentProfile : List (Str × Json)

inductive BuildError
  | valueError (text : Str)
  | keyError (key : String)

/-- A character under `re.IGNORECASE`: four characters beyond ASCII match a letter. -/
def foldCase (c : Nat) : Nat :=
  if 65 ≤ c ∧ c ≤ 90 then c + 32
  else if c = 0x130 ∨ c = 0x131 then 105
  else if c = 0x17F then 115
  else if c = 0x212A then 107
  else c

/-- The alternatives of `SECRET_LIKE_RE`. -/
def secretMarkers : List Str :=
  ["private", "secret", "seed", "mnemonic", "password", "passwd", "wallet", "keystore",
    "token"].map str

/-- `SECRET_LIKE_RE.search`. -/
def isSecretLike (s : Str) : Bool :=
  secretMarkers.any fun marker => decide (marker <:+: s.map foldCase)

mutual

/-- `reject_secret_fields`. -/
def rejectSecretFields (path : Str) : Json → Except BuildError Unit
  | .object fields => rejectFields path fields
  | .array items => rejectItems path 0 items
  | _ => .ok ()

def rejectFields (path : Str) : List (Str × Json) → Except BuildError Unit
  | [] => .ok ()
  | (key, item) :: fields =>
    if isSecretLike key then
      .error (.valueError (path ++ str "." ++ key ++
        str ": secret-like fields are not allowed in deploy requests"))
    else do
      rejectSecretFields (path ++ str "." ++ key) item
      rejectFields path fields

def rejectItems (path : Str) (index : Nat) : List Json → Except BuildError Unit
  | [] => .ok ()
  | item :: items => do
    rejectSecretFields (path ++ str "[" ++ decimal index ++ str "]") item
    rejectItems path (index + 1) items

end

/-- `fields[key]`. -/
def lookup (fields : List (Str × Json)) (key : String) : Except BuildError Json :=
  match Json.field fields (str key) with
  | some value => .ok value
  | none => .error (.keyError key)

/-- `fields.get(key) == text`. -/
def isText (fields : List (Str × Json)) (key text : String) : Bool :=
  Json.textAt fields key == some (str text)

/-- `request_status`. -/
def requestStatus (profile : List (Str × Json)) : Str :=
  if isText profile "name" "testnet-10-validator-staking-h001" && isText profile "kind" "canary"
  then str "CANARY_READY_FOR_KEYLESS_GENESIS_OPERATOR"
  else str "READY_FOR_KEYLESS_GENESIS_OPERATOR"

/-- `orchestrator_requirements`. -/
def orchestratorRequirements : List Str :=
  ["Validate this request hash before signing or broadcasting.",
    "Use prometheus-silverc-deployer to assemble and verify the keyless transaction in memory.",
    "Send only the canonical 32-byte sighash to the approved external vault/HSM signer.",
    "Return the public signature response to prometheus-silverc-deployer for verification and " ++
      "broadcast.",
    "Return public operator_record receipts that match this request and the release-bundle " ++
      "manifest.",
    "Never copy private keys, seed phrases, wallet files, or keystore material into this " ++
      "repository."].map str

/-- The safety capabilities of a request, all refused. -/
def safety : List String :=
  ["accepts_private_keys", "signs_transactions", "assembles_chain_transaction",
    "broadcasts_transactions", "deploys_contracts", "updates_status_files"]

/-- The keys of the `contract` section and the keys of the manifest entry they are copied from. -/
def contractKeys : List (String × String) :=
  [("name", "contract_name"), ("source_file", "source_file"), ("artifact_file", "artifact_file"),
    ("compiler_version", "compiler_version"), ("abi", "abi"), ("state_layout", "state_layout"),
    ("script_len", "script_len"), ("source_sha256", "source_sha256"),
    ("constructor_args_sha256", "constructor_args_sha256"), ("artifact_sha256", "artifact_sha256"),
    ("script_sha256", "script_sha256")]

/-- The entry's values under the names of the request. -/
def contractFields (entry : List (Str × Json)) :
    List (String × String) → Except BuildError (List (Str × Json))
  | [] => .ok []
  | (name, key) :: keys => do
    let value ← lookup entry key
    let rest ← contractFields entry keys
    pure ((str name, value) :: rest)

/-- `metrics_oracle_pubkey`, where it is given. -/
def oracleField (args : Args) : List (Str × Json) :=
  match args.metricsOraclePubkey with
  | some key => [(str "metrics_oracle_pubkey", .string key)]
  | none => []

/-- `build_request` up to the hash. -/
def requestBody (inputs : Inputs) : Except BuildError (List (Str × Json)) := do
  rejectSecretFields (str "$.constructor_args") inputs.constructorArgs
  let ref ← lookup inputs.manifest "silverscript_ref"
  let commit ← lookup inputs.manifest "silverscript_commit"
  let contract ← contractFields inputs.entry contractKeys
  pure ([
    (str "schema_version", .int 1),
    (str "request_type", .string (str "prometheus_silverc_deploy_request")),
    (str "status", .string (requestStatus inputs.deploymentProfile)),
    (str "network", .string inputs.args.network),
    (str "rpc_url", .string inputs.args.rpcUrl),
    (str "deployer_address", .string inputs.args.deployerAddress),
    (str "deployment_profile", .object inputs.deploymentProfile),
    (str "silverscript", .object [(str "ref", ref), (str "commit", commit)]),
    (str "contract", .object ((str "order", .int inputs.order) :: contract)),
    (str "constructor_args", inputs.constructorArgs),
    (str "orchestrator_requirements", .array (orchestratorRequirements.map .string)),
    (str "safety", .object (safety.map fun key => (str key, .bool false))),
    (str "safety_scope", .string (str "deploy_request_builder_only"))] ++ oracleField inputs.args)

/-- `request_hash`. -/
def requestHash (request : Json) : Str := hex (sha256 (canonicalJsonBytes request))

/-- `build_request`. -/
def buildRequest (inputs : Inputs) : Except BuildError Json := do
  let request ← requestBody inputs
  pure (.object (request ++ [(str "request_sha256", .string (requestHash (.object request)))]))

/-! ## The checks of the inputs -/

/-- What `urlparse` says of a URL. -/
structure ParsedUrl where
  scheme : Str
  username : Option Str
  password : Option Str
  hostname : Option Str
  query : Str
  fragment : Str

def truthy (s : Option Str) : Bool := (s.getD []) != []

/-- `validate_deploy_rpc_url` returns. -/
def validateDeployRpcUrl (urlparse : Str → ParsedUrl) (rpcUrl network : Str) : Bool :=
  rpcUrl != [] &&
    if rpcUrl = str "kaspa-resolver://public" then network == str "testnet"
    else
      let parsed := urlparse rpcUrl
      (parsed.scheme == str "ws" || parsed.scheme == str "wss") &&
        !(truthy parsed.username || truthy parsed.password) && truthy parsed.hostname &&
        !(parsed.query != [] || parsed.fragment != []) && !isSecretLike rpcUrl

/-- `validate_profile_inputs` returns. -/
def validateProfileInputs (args : Args) : Bool :=
  if args.deploymentProfile = str "full" then truthy args.metricsOraclePubkey
  else
    args.deploymentProfile == str "testnet-10-validator-staking-h001" &&
      args.network == str "testnet" && args.rpcUrl == str "kaspa-resolver://public" &&
      args.metricsOraclePubkey.isNone

/-- A text without the newline that `$` allows at its end. -/
def dropNewline (s : Str) : Str := if s.getLast? = some 10 then s.dropLast else s

/-- `KASPA_ADDRESS_RE.match`. -/
def isKaspaAddress (address : Str) : Bool :=
  ["kaspa:", "kaspatest:", "kaspadev:"].any fun start =>
    decide (str start <+: address) &&
      let payload := dropNewline (address.drop (str start).length)
      decide (20 ≤ payload.length) &&
        payload.all fun c => decide (97 ≤ c ∧ c ≤ 122) || decide (48 ≤ c ∧ c ≤ 57)

/-- `HEX_32_BYTES_RE.match`. -/
def isHex32Bytes (key : Str) : Bool :=
  let digits := dropNewline (if str "0x" <+: key then key.drop 2 else key)
  decide (digits.length = 64) && digits.all fun c =>
    isLowerHex c || decide (65 ≤ c ∧ c ≤ 70)

/-- `validate_public_inputs` returns. -/
def validatePublicInputs (urlparse : Str → ParsedUrl) (args : Args) : Bool :=
  validateDeployRpcUrl urlparse args.rpcUrl args.network && validateProfileInputs args &&
    isKaspaAddress args.deployerAddress &&
    (!truthy args.metricsOraclePubkey || isHex32Bytes (args.metricsOraclePubkey.getD []))

/-! ## The hash check -/

/-- `object.remove(key)`: the value under the key and the fields that are left. -/
def removeKey (fields : List (Bytes × Value)) (key : Bytes) :
    Option Value × List (Bytes × Value) :=
  ((fields.find? fun f => f.1 == key).map Prod.snd, fields.filter fun f => f.1 != key)

/-- `sha256_hex`. -/
def sha256Hex (bytes : Bytes) : Bytes := encodeAscii (hex (sha256 bytes))

/-- The request-hash check of `load_deploy_request`. -/
def checkRequestHash (value : Value) : Except String Unit :=
  match value with
  | .object fields =>
    match removeKey fields (ascii "request_sha256") with
    | (some (.string providedHash), rest) =>
      if providedHash ≠ sha256Hex (canonicalJson (.object rest)) then
        .error "deploy request_sha256 mismatch"
      else .ok ()
    | _ => .error "deploy request is missing request_sha256"
  | _ => .error "deploy request is missing request_sha256"

/-! ## The texts of a request -/

/-- What a request copies of its inputs. -/
def Inputs.copied (inputs : Inputs) : List Json :=
  [.string inputs.args.network, .string inputs.args.rpcUrl, .string inputs.args.deployerAddress,
    .object inputs.deploymentProfile, inputs.constructorArgs] ++
  (["silverscript_ref", "silverscript_commit"].filterMap fun key =>
    Json.field inputs.manifest (str key)) ++
  (contractKeys.filterMap fun key => Json.field inputs.entry (str key.2)) ++
  (oracleField inputs.args).map Prod.snd

/-- Every character that a request copies of its inputs is below DEL. -/
def Inputs.plain (inputs : Inputs) : Bool := inputs.copied.all isPlain

theorem fieldsPlain_eq_all (fields : List (Str × Json)) :
    isPlain.fieldsPlain fields = fields.all fun f => isPlainText f.1 && isPlain f.2 := by
  induction fields with
  | nil => rfl
  | cons field fields ih => rw [isPlain.fieldsPlain, List.all_cons, ih]

theorem allPlain_eq_all (items : List Json) : isPlain.allPlain items = items.all isPlain := by
  induction items with
  | nil => rfl
  | cons item items ih => rw [isPlain.allPlain, List.all_cons, ih]

theorem lookup_eq_ok {fields : List (Str × Json)} {key : String} {value : Json} :
    lookup fields key = .ok value ↔ Json.field fields (str key) = some value := by
  unfold lookup
  cases Json.field fields (str key) <;> simp

/-- The copied part of the `contract` section is plain when the values under its keys are. -/
theorem fieldsPlain_contractFields {entry : List (Str × Json)} {keys : List (String × String)}
    {fields : List (Str × Json)} (names : ∀ key ∈ keys, isPlainText (str key.1) = true)
    (h : contractFields entry keys = .ok fields) :
    isPlain.fieldsPlain fields =
      (keys.filterMap fun key => Json.field entry (str key.2)).all isPlain := by
  induction keys generalizing fields with
  | nil =>
    obtain rfl := Except.ok.inj h
    rfl
  | cons key keys ih =>
    obtain ⟨value, isValue, h⟩ := bind_eq_ok.mp h
    obtain ⟨rest, isRest, h⟩ := bind_eq_ok.mp h
    obtain rfl := Except.ok.inj h
    have others := ih (fun key hkey => names key (List.mem_cons_of_mem _ hkey)) isRest
    simp only [List.filterMap_cons, lookup_eq_ok.mp isValue, List.all_cons, isPlain.fieldsPlain,
      names key List.mem_cons_self, others, Bool.true_and]

theorem contractKeys_plain : ∀ key ∈ contractKeys, isPlainText (str key.1) = true := by
  decide

/-- The request's own texts are plain. -/
theorem requirements_plain :
    isPlain.allPlain (orchestratorRequirements.map Json.string) = true := by
  decide

theorem safety_plain :
    isPlain.fieldsPlain (safety.map fun key => (str key, Json.bool false)) = true := by
  decide

theorem requestStatus_plain (profile : List (Str × Json)) :
    isPlainText (requestStatus profile) = true := by
  unfold requestStatus
  split
  · decide
  · decide

theorem oracleField_plain (args : Args) :
    isPlain.fieldsPlain (oracleField args) = ((oracleField args).map Prod.snd).all isPlain := by
  unfold oracleField
  cases args.metricsOraclePubkey with
  | none => rfl
  | some key =>
    have name : isPlainText (str "metrics_oracle_pubkey") = true := by decide
    simp [isPlain.fieldsPlain, name]

/-- The body of a request is plain when what it copies of its inputs is. -/
theorem isPlain_requestBody {inputs : Inputs} {body : List (Str × Json)}
    (h : requestBody inputs = .ok body) : isPlain (.object body) = inputs.plain := by
  obtain ⟨-, -, h⟩ := bind_eq_ok.mp h
  obtain ⟨ref, isRef, h⟩ := bind_eq_ok.mp h
  obtain ⟨commit, isCommit, h⟩ := bind_eq_ok.mp h
  obtain ⟨contract, isContract, h⟩ := bind_eq_ok.mp h
  obtain rfl := Except.ok.inj h
  have keys : isPlainText (str "schema_version") = true ∧
      isPlainText (str "request_type") = true ∧
      isPlainText (str "prometheus_silverc_deploy_request") = true ∧
      isPlainText (str "status") = true ∧ isPlainText (str "network") = true ∧
      isPlainText (str "rpc_url") = true ∧ isPlainText (str "deployer_address") = true ∧
      isPlainText (str "deployment_profile") = true ∧ isPlainText (str "silverscript") = true ∧
      isPlainText (str "ref") = true ∧ isPlainText (str "commit") = true ∧
      isPlainText (str "contract") = true ∧ isPlainText (str "order") = true ∧
      isPlainText (str "constructor_args") = true ∧
      isPlainText (str "orchestrator_requirements") = true ∧
      isPlainText (str "safety") = true ∧ isPlainText (str "safety_scope") = true ∧
      isPlainText (str "deploy_request_builder_only") = true := by
    decide
  have manifest : (["silverscript_ref", "silverscript_commit"].filterMap fun key =>
      Json.field inputs.manifest (str key)) = [ref, commit] := by
    simp [lookup_eq_ok.mp isRef, lookup_eq_ok.mp isCommit]
  rw [Inputs.plain, Inputs.copied, manifest, List.all_append, List.all_append, List.all_append,
    ← fieldsPlain_contractFields contractKeys_plain isContract, ← oracleField_plain, isPlain,
    fieldsPlain_eq_all, List.all_append, ← fieldsPlain_eq_all (oracleField inputs.args)]
  simp only [List.all_cons, List.all_nil, keys, isPlain, isPlain.fieldsPlain, requirements_plain,
    safety_plain, requestStatus_plain, Bool.true_and, Bool.and_true]
  ac_rfl

/-- So is the request with its hash. -/
theorem isPlain_buildRequest {inputs : Inputs} {request : Json}
    (built : buildRequest inputs = .ok request) (plain : inputs.plain = true) :
    isPlain request = true := by
  obtain ⟨body, isBody, built⟩ := bind_eq_ok.mp built
  obtain rfl := Except.ok.inj built
  have bodyPlain := (isPlain_requestBody isBody).trans plain
  have key : isPlainText (str "request_sha256") = true := by decide
  have digest : isPlainText (requestHash (.object body)) = true :=
    isPlainText_iff.mpr fun c hc => by
      have digit := isLowerHex_of_mem_hex hc
      simp only [isLowerHex, Bool.or_eq_true, Bool.and_eq_true, decide_eq_true_eq] at digit
      omega
  rw [isPlain, fieldsPlain_eq_all] at bodyPlain ⊢
  simp [List.all_append, bodyPlain, key, digest, isPlain]

/-! ## What the hash check compares -/

theorem toFields_append {fields fields' : List (Str × Json)} {values : List (Bytes × Value)}
    (h : toFields (fields ++ fields') = some values) :
    ∃ first second, toFields fields = some first ∧ toFields fields' = some second ∧
      values = first ++ second := by
  induction fields generalizing values with
  | nil => exact ⟨[], values, rfl, h, rfl⟩
  | cons field fields ih =>
    obtain ⟨name, isName, h⟩ := Option.bind_eq_some_iff.mp h
    obtain ⟨value, isValue, h⟩ := Option.bind_eq_some_iff.mp h
    obtain ⟨rest, isRest, h⟩ := Option.bind_eq_some_iff.mp h
    obtain rfl := Option.some.inj h
    obtain ⟨first, second, isFirst, isSecond, rfl⟩ := ih isRest
    refine ⟨(name, value) :: first, second, ?_, isSecond, rfl⟩
    rw [toFields, isName, isValue, isFirst]
    rfl

/-- A key that a dictionary does not have is not among the keys of its counterpart. -/
theorem key_not_mem_toFields {fields : List (Str × Json)} {values : List (Bytes × Value)}
    {key : Str} (h : toFields fields = some values) (ascii : IsAscii key)
    (fresh : key ∉ fields.map Prod.fst) : ∀ value ∈ values, value.1 ≠ encodeAscii key := by
  induction fields generalizing values with
  | nil =>
    obtain rfl := Option.some.inj h
    simp
  | cons field fields ih =>
    obtain ⟨name, isName, h⟩ := Option.bind_eq_some_iff.mp h
    obtain ⟨value, isValue, h⟩ := Option.bind_eq_some_iff.mp h
    obtain ⟨rest, isRest, h⟩ := Option.bind_eq_some_iff.mp h
    obtain rfl := Option.some.inj h
    rw [List.map_cons, List.mem_cons, not_or] at fresh
    intro other isOther
    rcases List.mem_cons.mp isOther with rfl | isOther
    · rintro rfl
      obtain ⟨fieldAscii, same⟩ := ascii_of_encodeUtf8 isName (ascii_encodeAscii ascii)
      exact fresh.1 (encodeAscii_inj ascii.small fieldAscii.small same)
    · exact ih isRest fresh.2 other isOther

theorem str_eq_encodeAscii (s : String) : encodeAscii (str s) = ascii s := encodeAscii_toNat _

/-- The hash check of an emitted request compares the hashes of the two canonical forms of its
body. -/
theorem checkRequestHash_buildRequest {inputs : Inputs} {request : Json} {value : Value}
    (built : buildRequest inputs = .ok request) (same : toValue request = some value) :
    ∃ body rest, requestBody inputs = .ok body ∧ toValue (.object body) = some rest ∧
      (checkRequestHash value = .ok () ↔
        sha256 (canonicalJsonBytes (.object body)) = sha256 (canonicalJson rest)) := by
  obtain ⟨body, isBody, built⟩ := bind_eq_ok.mp built
  obtain rfl := Except.ok.inj built
  rw [toValue] at same
  obtain ⟨distinct, same⟩ := Option.ite_none_right_eq_some.mp same
  obtain ⟨values, isValues, rfl⟩ := Option.map_eq_some_iff.mp same
  obtain ⟨fields, last, isFields, isLast, rfl⟩ := toFields_append isValues
  have keyAscii : IsAscii (str "request_sha256") :=
    have small : ∀ c ∈ str "request_sha256", c < 128 := by decide
    small
  have digestAscii : IsAscii (requestHash (.object body)) := isAscii_hex _
  rw [toFields, encodeUtf8_of_ascii keyAscii, str_eq_encodeAscii, toValue,
    encodeUtf8_of_ascii digestAscii] at isLast
  obtain rfl := Option.some.inj isLast
  rw [List.map_append, List.nodup_append] at distinct
  have fresh : str "request_sha256" ∉ body.map Prod.fst := fun isKey =>
    distinct.2.2 _ isKey _ (by simp) rfl
  have others := key_not_mem_toFields isFields keyAscii fresh
  rw [str_eq_encodeAscii] at others
  have rest : toValue (.object body) = some (.object fields) := by
    rw [toValue, if_pos distinct.1, isFields]
    rfl
  have removed : removeKey (fields ++ [(ascii "request_sha256",
      Value.string (encodeAscii (requestHash (.object body))))]) (ascii "request_sha256") =
      (some (.string (encodeAscii (requestHash (.object body)))), fields) := by
    have notFound : fields.find? (fun f => f.1 == ascii "request_sha256") = none := by
      rw [List.find?_eq_none]
      intro f hf
      simpa using others f hf
    have kept : fields.filter (fun f => f.1 != ascii "request_sha256") = fields := by
      rw [List.filter_eq_self]
      intro f hf
      simpa using others f hf
    simp [removeKey, notFound, kept]
  refine ⟨body, .object fields, isBody, rest, ?_⟩
  have digests : encodeAscii (requestHash (.object body)) =
      sha256Hex (canonicalJson (.object fields)) ↔
        sha256 (canonicalJsonBytes (.object body)) = sha256 (canonicalJson (.object fields)) := by
    constructor
    · intro equal
      exact hex_inj (encodeAscii_inj (isAscii_hex _).small (isAscii_hex _).small equal)
    · intro equal
      rw [requestHash, equal, sha256Hex]
  rw [← digests]
  unfold checkRequestHash
  dsimp only
  rw [removed]
  simp

/-- The two canonical forms of a value are the same bytes exactly when every character of its texts
and keys is below DEL. An emitted request passes the hash check when every character it copies of
its inputs is; and only then, unless its two canonical forms collide. -/
theorem request_hash_accepted_iff (json : Json) (value : Value) (same : toValue json = some value) :
    (canonicalJson value = canonicalJsonBytes json ↔ isPlain json = true) ∧
    ∀ inputs : Inputs, buildRequest inputs = .ok json →
      (inputs.plain = true → checkRequestHash value = .ok ()) ∧
      ((∀ body rest, requestBody inputs = .ok body → toValue (.object body) = some rest →
          NoCollision sha256 (canonicalJsonBytes (.object body)) (canonicalJson rest)) →
        checkRequestHash value = .ok () → inputs.plain = true) := by
  refine ⟨canonicalJson_eq_iff same, fun inputs built => ?_⟩
  obtain ⟨body, rest, isBody, isRest, checked⟩ := checkRequestHash_buildRequest built same
  have agree := canonicalJson_eq_iff isRest
  rw [isPlain_requestBody isBody] at agree
  refine ⟨fun plain => checked.mpr (by rw [agree.mpr plain]), fun apart passed => ?_⟩
  exact agree.mp (apart body rest isBody isRest (checked.mp passed)).symm

/-- What becomes of an emitted request at the hash check. -/
def outcome (inputs : Inputs) : Option (Except String Unit) :=
  match buildRequest inputs with
  | .ok request => (toValue request).map checkRequestHash
  | .error _ => none

theorem exists_of_outcome {inputs : Inputs} (h : (outcome inputs).isSome = true) :
    ∃ request value, buildRequest inputs = .ok request ∧ toValue request = some value := by
  unfold outcome at h
  cases built : buildRequest inputs with
  | error e => simp [built] at h
  | ok request =>
    rw [built, Option.isSome_map] at h
    obtain ⟨value, same⟩ := Option.isSome_iff_exists.mp h
    exact ⟨request, value, rfl, same⟩

/-- A request for one endpoint. -/
def sampleInputs (rpcUrl : Str) : Inputs :=
  { args :=
      { network := str "testnet", rpcUrl
        deployerAddress := str "kaspatest:qqqqqqqqqqqqqqqqqqqq"
        metricsOraclePubkey := some (List.replicate 64 48), deploymentProfile := str "full" }
    manifest := [(str "silverscript_ref", .string (str "r")),
      (str "silverscript_commit", .string (str "c"))]
    entry := contractKeys.map fun key => (str key.2, .string (str "e"))
    order := 1
    constructorArgs := .array [.object [(str "kind", .string (str "int")), (str "data", .int 7)]]
    deploymentProfile := [(str "name", .string (str "full")), (str "kind", .string (str "full"))] }

theorem request_hash_accepted_sample : ∃ request value,
    buildRequest (sampleInputs (str "wss://node.example/")) = .ok request ∧
      toValue request = some value ∧ checkRequestHash value = .ok () ∧
      canonicalJson value = canonicalJsonBytes request := by
  obtain ⟨request, value, built, same⟩ : ∃ request value,
      buildRequest (sampleInputs (str "wss://node.example/")) = .ok request ∧
        toValue request = some value :=
    exists_of_outcome (by decide +kernel)
  have plain : (sampleInputs (str "wss://node.example/")).plain = true := by decide
  obtain ⟨agree, requests⟩ := request_hash_accepted_iff request value same
  exact ⟨request, value, built, same, (requests _ built).1 plain,
    agree.mpr (isPlain_buildRequest built plain)⟩

/-- `wss://node.example/é`, and what `urlparse` says of it. -/
def accentedUrl : Str := str "wss://node.example/" ++ [233]

def accentedParsed : ParsedUrl :=
  { scheme := str "wss", username := none, password := none
    hostname := some (str "node.example"), query := [], fragment := [] }

/-- The request for an admitted endpoint with an accent in its path is refused. -/
theorem request_hash_mismatch :
    (toValue (.string [233])).map canonicalJson ≠ some (canonicalJsonBytes (.string [233])) ∧
      validatePublicInputs (fun _ => accentedParsed) (sampleInputs accentedUrl).args = true ∧
      outcome (sampleInputs accentedUrl) = some (.error "deploy request_sha256 mismatch") := by
  refine ⟨by decide +kernel, by decide +kernel, by decide +kernel⟩

end Prometheus.Deployer.DeployRequest
