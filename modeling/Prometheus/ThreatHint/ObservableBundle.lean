import Prometheus.ThreatHint.Fields

/-!
# Observable bundles in the two languages

`threat-hint/src/observable_bundle.rs` and `jaeger/threat_observable.py`: a bounded, strictly sorted
list of typed observables, and its commitment to a network and a report nonce. Both languages have
the same error codes, but not always the same code for one input. Texts are compared by their
bytes, which are compared as numbers. `serde_json::from_slice` into the wire struct, which has the
fields of the bundle, is a parameter, as are SHA-256 and the text of a Python float.
-/

namespace Prometheus.ThreatHint

open Prometheus.Codec

def maxCanonicalObservableBundleBytes : Nat := 4096
def minObservables : Nat := 1
def maxObservables : Nat := 16
def maxApiImportLen : Nat := 96
def nonceBytes : Nat := 32
def minBytePatternTokens : Nat := 8
def maxBytePatternTokens : Nat := 64
def minFixedBytePatternTokens : Nat := 8

inductive ObservableBundleError
  | invalidPayload | invalidSchemaVersion | invalidDisclosurePolicy | invalidObservable
  | invalidObservables | bundleTooLarge | unsortedObservables | duplicateObservable | notCanonical
  | invalidCommitment | invalidNetworkId | invalidReportNonce
  deriving DecidableEq, Repr

inductive DisclosurePolicy
  | publicAutoV1 | reviewRequiredV1
  deriving DecidableEq, Repr

inductive ScopePlatform
  | windows | linux | macos | any
  deriving DecidableEq, Repr

inductive ScopeFormat
  | pe | elf | macho | script | document | unknown
  deriving DecidableEq, Repr

inductive ObservableKind
  | fileSha256 | apiImport | bytePattern
  deriving DecidableEq, Repr

/-- The scope of a bundle. -/
structure ObservableScope where
  platform : ScopePlatform
  format : ScopeFormat
  deriving DecidableEq, Repr

/-- What observables are ordered by: the bytes of the kind, then those of the value. -/
abbrev ObservableKey := Str ×ₗ Str

/-! ## Rust -/

namespace Rust

/-- The variant under `#[serde(rename_all = "snake_case")]`. -/
def DisclosurePolicy.name : DisclosurePolicy → String
  | .publicAutoV1 => "public_auto_v1"
  | .reviewRequiredV1 => "review_required_v1"

/-- The variant under `#[serde(rename_all = "snake_case")]`. -/
def ScopePlatform.name : ScopePlatform → String
  | .windows => "windows"
  | .linux => "linux"
  | .macos => "macos"
  | .any => "any"

/-- The variant under `#[serde(rename_all = "snake_case")]`. -/
def ScopeFormat.name : ScopeFormat → String
  | .pe => "pe"
  | .elf => "elf"
  | .macho => "macho"
  | .script => "script"
  | .document => "document"
  | .unknown => "unknown"

/-- `ObservableKind::as_str`, which is also the variant under `rename_all`. -/
def ObservableKind.asStr : ObservableKind → String
  | .fileSha256 => "file_sha256"
  | .apiImport => "api_import"
  | .bytePattern => "byte_pattern"

/-- `decode_hex_nibble`. -/
def decodeHexNibble (byte : UInt8) : Option UInt8 :=
  if 48 ≤ byte ∧ byte ≤ 57 then some (byte - 48)
  else if 97 ≤ byte ∧ byte ≤ 102 then some (byte - 97 + 10)
  else none

/-- The pairs of `chunks_exact(2)`, decoded. -/
def decodeChunks : Bytes → Option Bytes
  | hi :: lo :: rest =>
    match decodeHexNibble hi, decodeHexNibble lo with
    | some hi, some lo => (decodeChunks rest).map fun bytes => (hi <<< 4 ||| lo) :: bytes
    | _, _ => none
  | _ => some []

/-- `decode_hex`. -/
def decodeHex (value : Bytes) : Option Bytes :=
  if ¬ value.length % 2 = 0 then none else decodeChunks value

def validateFileSha256 (value : Bytes) : Except ObservableBundleError Unit :=
  if value.length ≠ 64 then .error .invalidObservable
  else
    match decodeHex value with
    | none => .error .invalidObservable
    | some decode => if decode.length ≠ nonceBytes then .error .invalidObservable else .ok ()

/-- A byte that an import may start with. -/
def isImportStart (byte : UInt8) : Bool :=
  (decide (65 ≤ byte) && decide (byte ≤ 90)) || (decide (97 ≤ byte) && decide (byte ≤ 122)) ||
    byte == 95

/-- A byte of an import. -/
def isImportByte (byte : UInt8) : Bool :=
  (decide (65 ≤ byte) && decide (byte ≤ 90)) || (decide (97 ≤ byte) && decide (byte ≤ 122)) ||
    (decide (48 ≤ byte) && decide (byte ≤ 57)) || byte == 95 || byte == 46 || byte == 64 ||
    byte == 45

def validateApiImport (bytes : Bytes) : Except ObservableBundleError Unit :=
  if bytes = [] ∨ maxApiImportLen < bytes.length then .error .invalidObservable
  else if ¬ bytes.head?.any isImportStart then .error .invalidObservable
  else if ¬ bytes.all isImportByte then .error .invalidObservable
  else .ok ()

/-- The loop over the tokens of a byte pattern. -/
def countFixed (fixed : Nat) : List Bytes → Except ObservableBundleError Nat
  | [] => .ok fixed
  | token :: tokens =>
    if token = [] then .error .invalidObservable
    else if token = [63, 63] then countFixed fixed tokens
    else if token.length ≠ 2 then .error .invalidObservable
    else if ¬ token.all (fun b => isLowerHex b.toNat) then .error .invalidObservable
    else countFixed (fixed + 1) tokens

def validateBytePattern (value : Bytes) : Except ObservableBundleError Unit :=
  if ¬ value.all (fun b => b < 128) then .error .invalidObservable
  else if value = [] ∨ value.head? = some 32 ∨ value.getLast? = some 32 then
    .error .invalidObservable
  else
    let tokens := value.splitOn 32
    if ¬ (minBytePatternTokens ≤ tokens.length ∧ tokens.length ≤ maxBytePatternTokens) then
      .error .invalidObservable
    else
      match countFixed 0 tokens with
      | .error e => .error e
      | .ok fixed =>
        if fixed < minFixedBytePatternTokens then .error .invalidObservable else .ok ()

def validateObservable (kind : ObservableKind) (value : Bytes) : Except ObservableBundleError Unit :=
  match kind with
  | .fileSha256 => validateFileSha256 value
  | .apiImport => validateApiImport value
  | .bytePattern => validateBytePattern value

structure ObservableBundleObservable where
  kind : ObservableKind
  value : Bytes
  deriving DecidableEq, Repr

structure ObservableBundle where
  schemaVersion : UInt16
  disclosurePolicy : DisclosurePolicy
  scope : ObservableScope
  observables : List ObservableBundleObservable
  deriving DecidableEq, Repr

/-- `Ord::cmp` of two pairs of texts. -/
def cmp (a b : ObservableKey) : Ordering :=
  if a < b then .lt else if a = b then .eq else .gt

/-- The pair that is compared. -/
def ObservableBundleObservable.key (o : ObservableBundleObservable) : ObservableKey :=
  toLex (str (ObservableKind.asStr o.kind), o.value.map UInt8.toNat)

namespace ObservableBundle

/-- `COMMITMENT_DOMAIN`. -/
def commitmentDomain : Bytes := ascii "prometheus-threat-observable-bundle-v1" ++ [0]

/-- The loop of `validate`, with `previous` and `seen`. -/
def validateObservables (policy : DisclosurePolicy) :
    Option ObservableKey → List ObservableKey → List ObservableBundleObservable →
      Except ObservableBundleError Unit
  | _, _, [] => .ok ()
  | previous, seen, observable :: rest =>
    match validateObservable observable.kind observable.value with
    | .error e => .error e
    | .ok _ =>
      if policy = .publicAutoV1 ∧ observable.kind = .bytePattern then
        .error .invalidDisclosurePolicy
      else
        let current := observable.key
        if current ∈ seen then .error .duplicateObservable
        else
          match previous with
          | none => validateObservables policy (some current) (seen ++ [current]) rest
          | some prev =>
            match cmp current prev with
            | .lt => .error .unsortedObservables
            | .eq => .error .duplicateObservable
            | .gt => validateObservables policy (some current) (seen ++ [current]) rest

def validate (bundle : ObservableBundle) : Except ObservableBundleError Unit :=
  if bundle.schemaVersion ≠ 1 then .error .invalidSchemaVersion
  else if bundle.observables.length < minObservables ∨
      maxObservables < bundle.observables.length then
    .error .invalidObservables
  else validateObservables bundle.disclosurePolicy none [] bundle.observables

/-- `serde_json::to_vec`. -/
def toVec (bundle : ObservableBundle) : Bytes :=
  serdeStruct
    [("schema_version", serdeNat bundle.schemaVersion.toNat),
      ("disclosure_policy", serdeString (ascii (DisclosurePolicy.name bundle.disclosurePolicy))),
      ("scope", serdeStruct
        [("platform", serdeString (ascii (ScopePlatform.name bundle.scope.platform))),
          ("format", serdeString (ascii (ScopeFormat.name bundle.scope.format)))]),
      ("observables", serdeArray (bundle.observables.map fun o =>
        serdeStruct
          [("kind", serdeString (ascii (ObservableKind.asStr o.kind))),
            ("value", serdeString o.value)]))]

def toCanonicalBytes (bundle : ObservableBundle) : Except ObservableBundleError Bytes := do
  bundle.validate
  let bytes := bundle.toVec
  if bytes = [] ∨ maxCanonicalObservableBundleBytes < bytes.length then .error .bundleTooLarge
  else .ok bytes

def parseCanonical (fromSlice : Bytes → Option ObservableBundle) (bytes : Bytes) :
    Except ObservableBundleError ObservableBundle :=
  if bytes = [] then .error .invalidPayload
  else if maxCanonicalObservableBundleBytes < bytes.length then .error .bundleTooLarge
  else
    match fromSlice bytes with
    | none => .error .invalidPayload
    | some bundle => do
      bundle.validate
      let canonical ← bundle.toCanonicalBytes
      if canonical ≠ bytes then .error .notCanonical else .ok bundle

def commitment (sha256 : Bytes → Bytes) (networkId reportNonceHex : Bytes)
    (bundle : ObservableBundle) : Except ObservableBundleError Bytes :=
  if ¬ validateNetworkId networkId then .error .invalidNetworkId
  else
    match decodeHex reportNonceHex with
    | none => .error .invalidReportNonce
    | some reportNonce =>
      if reportNonce.length ≠ nonceBytes then .error .invalidReportNonce
      else do
        let canonical ← bundle.toCanonicalBytes
        if 256 ≤ networkId.length then .error .invalidNetworkId
        else
          .ok (sha256 (commitmentDomain ++ [UInt8.ofNat networkId.length] ++ networkId ++
            reportNonce ++ toBytesBig 4 canonical.length ++ canonical))

end ObservableBundle

end Rust

/-! ## Python -/

namespace Python

/-- `DisclosurePolicy.value`. -/
def DisclosurePolicy.value : DisclosurePolicy → String
  | .publicAutoV1 => "public_auto_v1"
  | .reviewRequiredV1 => "review_required_v1"

/-- `ScopePlatform.value`. -/
def ScopePlatform.value : ScopePlatform → String
  | .windows => "windows"
  | .linux => "linux"
  | .macos => "macos"
  | .any => "any"

/-- `ScopeFormat.value`. -/
def ScopeFormat.value : ScopeFormat → String
  | .pe => "pe"
  | .elf => "elf"
  | .macho => "macho"
  | .script => "script"
  | .document => "document"
  | .unknown => "unknown"

/-- `ObservableKind.value`. -/
def ObservableKind.value : ObservableKind → String
  | .fileSha256 => "file_sha256"
  | .apiImport => "api_import"
  | .bytePattern => "byte_pattern"

/-- The members of the enumeration. -/
def disclosurePolicies : List DisclosurePolicy := [.publicAutoV1, .reviewRequiredV1]

/-- The members of the enumeration. -/
def scopePlatforms : List ScopePlatform := [.windows, .linux, .macos, .any]

/-- The members of the enumeration. -/
def scopeFormats : List ScopeFormat := [.pe, .elf, .macho, .script, .document, .unknown]

/-- The members of the enumeration. -/
def observableKinds : List ObservableKind := [.fileSha256, .apiImport, .bytePattern]

def validateFileSha256 (value : Str) : Except ObservableBundleError Unit :=
  if value.length ≠ 64 then .error .invalidObservable
  else if ¬ (value.length = 64 ∧ value.all isLowerHex) then .error .invalidObservable
  else .ok ()

/-- `[A-Za-z_]`. -/
def isImportStart (c : Nat) : Bool :=
  (decide (65 ≤ c) && decide (c ≤ 90)) || (decide (97 ≤ c) && decide (c ≤ 122)) || c == 95

/-- `[A-Za-z0-9_.@-]`. -/
def isImportChar (c : Nat) : Bool :=
  (decide (65 ≤ c) && decide (c ≤ 90)) || (decide (97 ≤ c) && decide (c ≤ 122)) ||
    (decide (48 ≤ c) && decide (c ≤ 57)) || c == 95 || c == 46 || c == 64 || c == 45

/-- `_API_IMPORT_RE.fullmatch`. -/
def matchesApiImport : Str → Bool
  | [] => false
  | first :: rest => isImportStart first && rest.all isImportChar && decide (rest.length ≤ 95)

def validateApiImport (value : Str) : Except ObservableBundleError Unit :=
  if maxApiImportLen < value.length then .error .invalidObservable
  else if ¬ matchesApiImport value then .error .invalidObservable
  else .ok ()

/-- The loop over the tokens of a byte pattern. -/
def countFixed (fixed : Nat) : List Str → Except ObservableBundleError Nat
  | [] => .ok fixed
  | token :: tokens =>
    if token = [] then .error .invalidObservable
    else if token = [63, 63] then countFixed fixed tokens
    else if ¬ (token.length = 2 ∧ token.all isLowerHex) then .error .invalidObservable
    else countFixed (fixed + 1) tokens

def validateBytePattern (value : Str) : Except ObservableBundleError Unit :=
  if ¬ value.all (fun c => c < 128) then .error .invalidObservable
  else if value = [] ∨ value.head? = some 32 ∨ value.getLast? = some 32 then
    .error .invalidObservable
  else
    let tokens := value.splitOn 32
    if tokens.length < minBytePatternTokens ∨ maxBytePatternTokens < tokens.length then
      .error .invalidObservable
    else
      match countFixed 0 tokens with
      | .error e => .error e
      | .ok fixed => if fixed < minBytePatternTokens then .error .invalidObservable else .ok ()

def validateObservable (kind : ObservableKind) (value : Str) : Except ObservableBundleError Unit :=
  if kind = .fileSha256 then validateFileSha256 value
  else if kind = .apiImport then validateApiImport value
  else validateBytePattern value

structure Observable where
  kind : ObservableKind
  value : Str
  deriving DecidableEq, Repr

structure ObservableBundle where
  schemaVersion : Int
  disclosurePolicy : DisclosurePolicy
  scope : ObservableScope
  observables : List Observable
  deriving DecidableEq, Repr

/-- The pair that is compared; `none` where a text cannot be encoded. -/
def Observable.key (o : Observable) : Option ObservableKey :=
  match encodeUtf8 (str (ObservableKind.value o.kind)), encodeUtf8 o.value with
  | some kind, some value => some (toLex (kind.map UInt8.toNat, value.map UInt8.toNat))
  | _, _ => none

/-- `set(value.keys()) == {…}`. -/
def sameKeys (fields : List (Str × Json)) (keys : List String) : Bool :=
  (fields.all fun f => decide (f.1 ∈ keys.map str)) &&
    (keys.all fun key => decide (str key ∈ fields.map Prod.fst))

namespace ObservableBundle

/-- `COMMITMENT_DOMAIN`. -/
def commitmentDomain : Bytes := ascii "prometheus-threat-observable-bundle-v1" ++ [0]

/-- `_parse_disclosure_policy`. -/
def parseDisclosurePolicy (value : Option Json) : Except ObservableBundleError DisclosurePolicy :=
  match enumValue DisclosurePolicy.value disclosurePolicies value with
  | none => .error .invalidDisclosurePolicy
  | some policy => .ok policy

/-- `_parse_scope`. -/
def parseScope (value : Option Json) : Except ObservableBundleError ObservableScope :=
  match value with
  | some (.object fields) =>
    if ¬ sameKeys fields ["platform", "format"] then .error .invalidPayload
    else
      match enumValue ScopePlatform.value scopePlatforms (Json.field fields (str "platform")),
          enumValue ScopeFormat.value scopeFormats (Json.field fields (str "format")) with
      | some platform, some format => .ok { platform, format }
      | _, _ => .error .invalidPayload
  | _ => .error .invalidPayload

/-- One turn of the loops over observables: the checks that need `previous` and `seen`. -/
def checkObservable (policy : DisclosurePolicy) (previous : Option ObservableKey)
    (seen : List ObservableKey) (observable : Observable) :
    Except ObservableBundleError ObservableKey :=
  match validateObservable observable.kind observable.value with
  | .error e => .error e
  | .ok _ =>
    if policy = .publicAutoV1 ∧ observable.kind = .bytePattern then
      .error .invalidDisclosurePolicy
    else
      match observable.key with
      | none => .error .invalidObservable
      | some current =>
        if current ∈ seen then .error .duplicateObservable
        else if previous.any fun prev => current < prev then .error .unsortedObservables
        else .ok current

/-- The kind and the value of one raw observable. -/
def readObservable (raw : Json) : Except ObservableBundleError Observable :=
  match raw with
  | .object fields =>
    if ¬ sameKeys fields ["kind", "value"] then .error .invalidObservable
    else
      match enumValue ObservableKind.value observableKinds (Json.field fields (str "kind")),
          (Json.field fields (str "value")).bind Json.asString with
      | some kind, some value => .ok { kind, value }
      | _, _ => .error .invalidObservable
  | _ => .error .invalidObservable

/-- The loop of `_parse_observables`. -/
def parseObservables (policy : DisclosurePolicy) :
    Option ObservableKey → List ObservableKey → List Json →
      Except ObservableBundleError (List Observable)
  | _, _, [] => .ok []
  | previous, seen, raw :: rest => do
    let observable ← readObservable raw
    let current ← checkObservable policy previous seen observable
    let parsed ← parseObservables policy (some current) (current :: seen) rest
    .ok (observable :: parsed)

/-- The loop of `_validate_observable_state`. -/
def validateObservableState (policy : DisclosurePolicy) :
    Option ObservableKey → List ObservableKey → List Observable →
      Except ObservableBundleError Unit
  | _, _, [] => .ok ()
  | previous, seen, observable :: rest => do
    let current ← checkObservable policy previous seen observable
    validateObservableState policy (some current) (current :: seen) rest

/-- The keys of a bundle. -/
def keys : List String := ["schema_version", "disclosure_policy", "scope", "observables"]

/-- `_parse_object`. -/
def parseObject (fields : List (Str × Json)) : Except ObservableBundleError ObservableBundle :=
  if ¬ sameKeys fields keys then .error .invalidPayload
  else
    match (Json.field fields (str "schema_version")).bind Json.asInt with
    | none => .error .invalidPayload
    | some schemaVersion =>
      if schemaVersion ≠ 1 then .error .invalidSchemaVersion
      else do
        let disclosurePolicy ← parseDisclosurePolicy (Json.field fields (str "disclosure_policy"))
        let scope ← parseScope (Json.field fields (str "scope"))
        match Json.field fields (str "observables") with
        | some (.array items) =>
          if items.length < minObservables ∨ maxObservables < items.length then
            .error .invalidObservables
          else do
            let observables ← parseObservables disclosurePolicy none [] items
            .ok { schemaVersion, disclosurePolicy, scope, observables }
        | _ => .error .invalidPayload

/-- `_validate_state`. -/
def validateState (bundle : ObservableBundle) : Except ObservableBundleError Unit :=
  if bundle.schemaVersion ≠ 1 then .error .invalidSchemaVersion
  else if bundle.observables.length < minObservables ∨
      maxObservables < bundle.observables.length then
    .error .invalidObservables
  else validateObservableState bundle.disclosurePolicy none [] bundle.observables

/-- An observable in the payload. -/
def observablePayload (o : Observable) : List (String × Json) :=
  [("kind", .string (str (ObservableKind.value o.kind))), ("value", .string o.value)]

/-- The scope in the payload. -/
def scopePayload (scope : ObservableScope) : List (String × Json) :=
  [("platform", .string (str (ScopePlatform.value scope.platform))),
    ("format", .string (str (ScopeFormat.value scope.format)))]

def payload (bundle : ObservableBundle) : List (String × Json) :=
  [("schema_version", .int bundle.schemaVersion),
    ("disclosure_policy", .string (str (DisclosurePolicy.value bundle.disclosurePolicy))),
    ("scope", document (scopePayload bundle.scope)),
    ("observables", .array (bundle.observables.map fun o => document (observablePayload o)))]

/-- `canonical_bytes`, `_to_canonical_bytes_for_validation`. -/
def canonicalBytes (bundle : ObservableBundle) : Except ObservableBundleError Bytes := do
  bundle.validateState
  match dumpsUtf8 (document bundle.payload) with
  | none => .error .invalidPayload
  | some bytes =>
    if bytes.length < 1 ∨ maxCanonicalObservableBundleBytes < bytes.length then
      .error .bundleTooLarge
    else .ok bytes

def parseCanonical (floatRepr : Str → Str) (wireBytes : Bytes) :
    Except ObservableBundleError ObservableBundle :=
  if wireBytes = [] then .error .invalidPayload
  else if maxCanonicalObservableBundleBytes < wireBytes.length then .error .bundleTooLarge
  else
    match readObject floatRepr wireBytes with
    | none => .error .invalidPayload
    | some decoded => do
      let bundle ← parseObject decoded
      let canonical ← bundle.canonicalBytes
      if canonical ≠ wireBytes then .error .notCanonical else .ok bundle

/-- `_decode_hex` of a nonce. -/
def decodeHex (value : Str) : Except ObservableBundleError Bytes :=
  if value.length ≠ nonceBytes * 2 then .error .invalidReportNonce
  else if ¬ value.all isLowerHex then .error .invalidReportNonce
  else .ok (fromHex value)

def commitment (sha256 : Bytes → Bytes) (networkId reportNonceHex : Str)
    (bundle : ObservableBundle) : Except ObservableBundleError Bytes :=
  if ¬ validateNetworkId networkId then .error .invalidNetworkId
  else do
    let reportNonce ← decodeHex reportNonceHex
    if reportNonce.length ≠ nonceBytes then .error .invalidReportNonce
    else do
      let canonical ← bundle.canonicalBytes
      .ok (sha256 (commitmentDomain ++ [UInt8.ofNat networkId.length] ++ encodeAscii networkId ++
        reportNonce ++ toBytesBig 4 canonical.length ++ canonical))

end ObservableBundle

end Python

end Prometheus.ThreatHint
