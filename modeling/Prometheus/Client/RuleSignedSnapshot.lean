import Prometheus.Client.RuleBinding

/-!
# Signed rule snapshots

`modules/client/src/blockchain/rule_signed_snapshot.rs`: an envelope that the owner has signed is
verified, and its entries are synchronised through the checkpoint store. The verifier compares the
sequence of an envelope with a fixed minimum; what is installed later is ordered by the checkpoint.
-/

namespace Prometheus.Client

open Prometheus.Codec Prometheus.Machine

/-! ## Envelopes -/

/-- `ENVELOPE_SCHEMA_VERSION`. -/
def envelopeSchemaVersion : UInt64 := 1

/-- `ENVELOPE_KIND`. -/
def envelopeKind : Bytes := ascii "prometheus.rule-snapshot.envelope.v1"

/-- `SIGNING_DOMAIN`. -/
def signingDomain : Bytes := ascii "prometheus.rule-snapshot.envelope.v1" ++ [0]

/-- `MAX_ENVELOPE_BYTES`. -/
def maxEnvelopeBytes : Nat := 4 * 1024 * 1024

/-- `MAX_VALIDITY_WINDOW_SECONDS`. -/
def maxValidityWindowSeconds : UInt64 := 60 * 60

/-- `MAX_ADDRESS_BYTES`. -/
def maxAddressBytes : Nat := 256

/-- `MAX_MANIFEST_JSON_BYTES` of `rule_observation.rs`. -/
def maxManifestJsonBytes : Nat := 16 * 1024

/-- `MAX_STATE_JSON_BYTES` of `rule_state.rs`. -/
def maxStateJsonBytes : Nat := 16 * 1024

/-- The fields of an envelope in the order of their declaration. `EnvelopeEntry` has the fields of
`RuleSyncEntry`. -/
structure SnapshotEnvelope where
  schemaVersion : UInt64
  kind : Bytes
  networkId : Bytes
  sequence : UInt64
  validFrom : UInt64
  validUntil : UInt64
  emptySnapshotOrder : Option UInt64
  entries : List RuleSyncEntry
  signature : Bytes
  deriving DecidableEq, Repr

/-- `serde_json` on an `EnvelopeEntry`. -/
def RuleSyncEntry.toVec (entry : RuleSyncEntry) : Bytes :=
  serdeStruct [
    ("expected_manifest_sha256", serdeString entry.expectedManifestSha256),
    ("manifest_json", serdeString entry.manifestJson),
    ("constructor_json", serdeString entry.constructorJson),
    ("address", serdeString entry.address)]

/-- The fields of `SnapshotSigningPayload`. -/
def SnapshotEnvelope.payloadFields (envelope : SnapshotEnvelope) : List (String × Bytes) :=
  [("schema_version", serdeNat envelope.schemaVersion.toNat),
    ("kind", serdeString envelope.kind),
    ("network_id", serdeString envelope.networkId),
    ("sequence", serdeNat envelope.sequence.toNat),
    ("valid_from", serdeNat envelope.validFrom.toNat),
    ("valid_until", serdeNat envelope.validUntil.toNat),
    ("empty_snapshot_order", serdeOption (envelope.emptySnapshotOrder.map UInt64.toNat)),
    ("entries", serdeArray (envelope.entries.map RuleSyncEntry.toVec))]

/-- `serde_json::to_vec` of the signed payload. -/
def SnapshotEnvelope.payload (envelope : SnapshotEnvelope) : Bytes :=
  serdeStruct envelope.payloadFields

/-- `serde_json::to_vec` of an envelope. -/
def SnapshotEnvelope.toVec (envelope : SnapshotEnvelope) : Bytes :=
  serdeStruct (envelope.payloadFields ++ [("signature", serdeString envelope.signature)])

/-- What the module takes from its crates. -/
structure EnvelopeCodec extends CheckpointCodec where
  /-- `serde_json::from_slice::<SnapshotEnvelope>`. -/
  readEnvelope : Bytes → Option SnapshotEnvelope
  /-- `XOnlyPublicKey::from_slice` accepts. -/
  isPublicKey : Bytes → Bool
  /-- `verify_schnorr` on a public key, a digest and a signature. -/
  verifySchnorr : Bytes → Bytes → Bytes → Bool

/-- `parse_envelope`. -/
def parseEnvelope (codec : EnvelopeCodec) (bytes : Bytes) : Option SnapshotEnvelope :=
  if bytes = [] ∨ maxEnvelopeBytes < bytes.length then none
  else
    match codec.readEnvelope bytes with
    | none => none
    | some envelope => if envelope.toVec ≠ bytes then none else some envelope

/-- `validate_time_window`. -/
def validateTimeWindow (validFrom validUntil currentUnixSeconds : UInt64) : Bool :=
  decide (validFrom ≤ validUntil) && decide (validFrom ≠ 0) &&
    decide (validUntil - validFrom ≠ 0) &&
    decide (validUntil - validFrom ≤ maxValidityWindowSeconds) &&
    decide (validFrom ≤ currentUnixSeconds) && decide (currentUnixSeconds ≤ validUntil)

/-- The field checks of `validate_policy` on an entry. -/
def RuleSyncEntry.isValid (entry : RuleSyncEntry) : Bool :=
  decide (entry.expectedManifestSha256.length = 64) &&
    entry.expectedManifestSha256.all isHexByte &&
    !entry.manifestJson.isEmpty && decide (entry.manifestJson.length ≤ maxManifestJsonBytes) &&
    !entry.constructorJson.isEmpty && decide (entry.constructorJson.length ≤ maxStateJsonBytes) &&
    !entry.address.isEmpty && decide (entry.address.length ≤ maxAddressBytes)

/-- `validate_policy`. -/
def validatePolicy (envelope : SnapshotEnvelope) (minimumSequence : UInt64) : Bool :=
  decide (envelope.schemaVersion = envelopeSchemaVersion) &&
    decide (envelope.kind = envelopeKind) && decide (envelope.networkId = observationNetworkId) &&
    decide (minimumSequence ≠ 0) && decide (minimumSequence ≤ envelope.sequence) &&
    decide (envelope.entries.length ≤ maxRulesPerSnapshot) &&
    validateTimeWindow envelope.validFrom envelope.validUntil envelope.validFrom &&
    (match envelope.emptySnapshotOrder with
      | some order => envelope.entries.isEmpty && decide (0 < order)
      | none => !envelope.entries.isEmpty) &&
    envelope.entries.all RuleSyncEntry.isValid

/-- `decode_fixed_hex` for a signature. -/
def decodeSignature (value : Bytes) : Option Bytes :=
  if value.length ≠ 128 ∨ ¬ value.all isHexByte then none
  else some (fromHex (value.map UInt8.toNat))

/-- The input of the hash in `domain_digest`. -/
def domainPreimage (domain bytes : Bytes) : Bytes := domain ++ toBytesBig 8 bytes.length ++ bytes

/-- `domain_digest` of the signed payload. -/
def SnapshotEnvelope.digest (codec : RuleCodec) (envelope : SnapshotEnvelope) : Bytes :=
  (codec.sha256 (domainPreimage signingDomain envelope.payload)).toList

/-! ## The provider -/

/-- What a client is configured with. -/
structure SignerConfig where
  ownerXonlyPublicKey : Bytes
  minimumSequence : UInt64
  deriving DecidableEq, Repr

/-- `SignedRuleSnapshotProvider`. -/
structure SignedRuleSnapshotProvider where
  entries : List RuleSyncEntry
  emptySnapshotOrder : Option UInt64
  validFrom : UInt64
  validUntil : UInt64
  deriving DecidableEq, Repr

/-- `SignedRuleSnapshotProvider::verify` at a reading of the clock. -/
def verifyEnvelope (codec : EnvelopeCodec) (config : SignerConfig) (bytes : Bytes)
    (currentUnixSeconds : Option UInt64) : Option SignedRuleSnapshotProvider :=
  if ¬ codec.isPublicKey config.ownerXonlyPublicKey then none
  else
    match parseEnvelope codec bytes with
    | none => none
    | some envelope =>
      if ¬ validatePolicy envelope config.minimumSequence then none
      else
        match currentUnixSeconds, decodeSignature envelope.signature with
        | some now, some signature =>
          if ¬ validateTimeWindow envelope.validFrom envelope.validUntil now then none
          else if ¬ codec.verifySchnorr config.ownerXonlyPublicKey
              (envelope.digest codec.toRuleCodec) signature then none
          else some ⟨envelope.entries, envelope.emptySnapshotOrder, envelope.validFrom,
            envelope.validUntil⟩
        | _, _ => none

/-- One attempt: the envelope, the runtime gates and the readings of the clock when it is verified
and when it is fetched, and the two sources. -/
structure SignedAttempt where
  envelope : Bytes
  verifyAllowed : Bool
  verifiedAt : Option UInt64
  fetchAllowed : Bool
  fetchedAt : Option UInt64
  syncAllowed : Bool
  observe : RuleSyncEntry → Option (RuleStateMetadata × VerifiedManifestOutpoint)
  fetchRuleContent : Bytes → Option Bytes

/-- `fetch_snapshot` of a provider: the request that is synchronised. -/
def SignedRuleSnapshotProvider.fetchSnapshot (provider : SignedRuleSnapshotProvider)
    (attempt : SignedAttempt) : Option SyncRequest :=
  if ¬ attempt.fetchAllowed then none
  else
    match attempt.fetchedAt with
    | none => none
    | some now =>
      if ¬ validateTimeWindow provider.validFrom provider.validUntil now then none
      else some ⟨attempt.syncAllowed, provider.entries, provider.emptySnapshotOrder,
        attempt.observe, attempt.fetchRuleContent⟩

/-- Construct the provider and fetch its snapshot. -/
def signedRequest (codec : EnvelopeCodec) (config : SignerConfig) (attempt : SignedAttempt) :
    Option SyncRequest :=
  if ¬ attempt.verifyAllowed then none
  else
    match verifyEnvelope codec config attempt.envelope attempt.verifiedAt with
    | none => none
    | some provider => provider.fetchSnapshot attempt

/-- An attempt of a process, or its restart. -/
inductive SignedCall
  | sync (process : Nat) (attempt : SignedAttempt) (interruption : Option Interruption)
  | restart (process : Nat)

/-- Perform one call. -/
def signedStep (codec : EnvelopeCodec) (config : SignerConfig) :
    SignedCall → Clients → Outcome × Clients
  | .sync process attempt interruption, clients =>
    match signedRequest codec config attempt with
    | none => (.err, clients)
    | some request => syncDurable codec.toCheckpointCodec request interruption process clients
  | .restart process, clients => (.crashed, clients.install process [])

/-- An executed call on the store. -/
abbrev SignedEvent := Event Clients SignedCall Outcome

/-! ## What an attempt establishes -/

variable {codec : EnvelopeCodec} {config : SignerConfig} {clients : Clients}

/-- The request of an envelope. -/
def SnapshotEnvelope.request (envelope : SnapshotEnvelope) (attempt : SignedAttempt) :
    SyncRequest :=
  ⟨attempt.syncAllowed, envelope.entries, envelope.emptySnapshotOrder, attempt.observe,
    attempt.fetchRuleContent⟩

/-- The configured owner has signed the envelope of an attempt, which names the network, has at
least the minimum sequence and is inside its window at both readings of the clock. -/
structure Authentic (codec : EnvelopeCodec) (config : SignerConfig) (attempt : SignedAttempt)
    (envelope : SnapshotEnvelope) : Prop where
  parsed : parseEnvelope codec attempt.envelope = some envelope
  policy : validatePolicy envelope config.minimumSequence = true
  network : envelope.networkId = observationNetworkId
  sequence : config.minimumSequence ≤ envelope.sequence
  signed : ∃ signature, decodeSignature envelope.signature = some signature ∧
    codec.verifySchnorr config.ownerXonlyPublicKey (envelope.digest codec.toRuleCodec) signature =
      true
  verified : ∃ now, attempt.verifiedAt = some now ∧
    validateTimeWindow envelope.validFrom envelope.validUntil now = true
  fetched : ∃ now, attempt.fetchedAt = some now ∧
    validateTimeWindow envelope.validFrom envelope.validUntil now = true

theorem signedRequest_some {attempt : SignedAttempt} {request : SyncRequest}
    (h : signedRequest codec config attempt = some request) :
    ∃ envelope, Authentic codec config attempt envelope ∧ request = envelope.request attempt := by
  unfold signedRequest verifyEnvelope at h
  split at h
  · cases h
  split at h
  · cases h
  rename_i provider isProvider
  split at isProvider
  · cases isProvider
  split at isProvider
  · cases isProvider
  rename_i envelope isEnvelope
  split at isProvider
  · cases isProvider
  rename_i policy
  split at isProvider
  · rename_i now signature isNow isSignature
    split at isProvider
    · cases isProvider
    rename_i window
    split at isProvider
    · cases isProvider
    rename_i signed
    obtain rfl := Option.some.inj isProvider
    unfold SignedRuleSnapshotProvider.fetchSnapshot at h
    split at h
    · cases h
    split at h
    · cases h
    rename_i later isLater
    split at h
    · cases h
    rename_i window'
    have policy' : validatePolicy envelope config.minimumSequence = true := by simpa using policy
    have checks := policy'
    simp only [validatePolicy, Bool.and_eq_true, decide_eq_true_eq] at checks
    refine ⟨envelope, ⟨isEnvelope, policy', checks.1.1.1.1.1.1.2, checks.1.1.1.1.2,
      ⟨signature, isSignature, by simpa using signed⟩, ⟨now, isNow, by simpa using window⟩,
      ⟨later, isLater, by simpa using window'⟩⟩, ?_⟩
    exact (Option.some.inj h).symm
  · cases isProvider

/-- A signed call as a call on the checkpoint store: a refused envelope requests nothing. -/
def SignedCall.toCall (codec : EnvelopeCodec) (config : SignerConfig) : SignedCall → Call
  | .sync process attempt interruption =>
    .sync process ((signedRequest codec config attempt).getD
      ⟨false, [], none, fun _ => none, fun _ => none⟩) interruption
  | .restart process => .restart process

theorem signedStep_eq_step (call : SignedCall) (clients : Clients) :
    signedStep codec config call clients =
      step codec.toCheckpointCodec (call.toCall codec config) clients := by
  cases call with
  | restart process => rfl
  | sync process attempt interruption =>
    simp only [signedStep, SignedCall.toCall, step]
    cases signedRequest codec config attempt with
    | none => simp [syncDurable, prepareSync]
    | some request => rfl

/-- `serde_json` reads back the checkpoint of a signed call. -/
def SignedReadsBack (codec : EnvelopeCodec) (config : SignerConfig) : SignedCall → Prop
  | .sync _ attempt _ => ∀ request prepared, signedRequest codec config attempt = some request →
      prepareSync codec.toRuleCodec request = some prepared →
        codec.fromSlice prepared.candidate.toVec = some prepared.candidate
  | .restart _ => True

theorem SignedReadsBack.toCall {call : SignedCall} (reads : SignedReadsBack codec config call) :
    ReadsBack codec.toCheckpointCodec (call.toCall codec config) := by
  cases call with
  | restart process => trivial
  | sync process attempt interruption =>
    intro prepared isPrepared
    cases isRequest : signedRequest codec config attempt with
    | none => simp [isRequest, prepareSync] at isPrepared
    | some request =>
      rw [isRequest] at isPrepared
      exact reads request prepared isRequest isPrepared

/-- The node answers a call's attempt with hashes as transaction identifiers. -/
def SignedHashIds : SignedCall → Prop
  | .sync _ attempt _ => HashIds attempt.observe
  | .restart _ => True

/-- A call has installed the rules of an authentic envelope. -/
structure InstallsSigned (codec : EnvelopeCodec) (config : SignerConfig) (e : SignedEvent)
    (process : Nat) (envelope : SnapshotEnvelope) (prepared : PreparedSync)
    (fetched : List (RuleMetadataSnapshotEntry × Identity)) (order : UInt64) : Prop where
  call : ∃ attempt interruption verified, e.input = .sync process attempt interruption ∧
    Authentic codec config attempt envelope ∧
    Prepares codec.toRuleCodec (envelope.request attempt) prepared verified fetched order
  scanner : e.post.scanners process = prepared.rules
  stored : stored codec.toCheckpointCodec e.post = some prepared.candidate

/-- The order of the installed checkpoint. -/
theorem InstallsSigned.order {e : SignedEvent} {process : Nat} {envelope : SnapshotEnvelope}
    {prepared : PreparedSync} {fetched : List (RuleMetadataSnapshotEntry × Identity)}
    {order : UInt64} (h : InstallsSigned codec config e process envelope prepared fetched order) :
    prepared.candidate.order = order := by
  obtain ⟨_, _, _, -, -, prepares⟩ := h.call
  rw [prepares.candidate]
  rfl

theorem Installs.signed {e : SignedEvent} {process : Nat} {prepared : PreparedSync}
    (h : Installs codec.toCheckpointCodec (e.mapInput (SignedCall.toCall codec config)) process
      prepared) :
    ∃ envelope fetched order,
      InstallsSigned codec config e process envelope prepared fetched order := by
  obtain ⟨request, interruption, isCall, verified, fetched, order, prepares⟩ := h.call
  have isCall' : e.input.toCall codec config = .sync process request interruption := isCall
  cases call : e.input with
  | restart process' =>
    rw [call] at isCall'
    cases isCall'
  | sync process' attempt interruption' =>
    rw [call] at isCall'
    obtain ⟨rfl, isRequest, rfl⟩ := Call.sync.inj isCall'
    cases signed : signedRequest codec config attempt with
    | none =>
      rw [signed] at isRequest
      have allowed := prepares.allowed
      rw [← isRequest] at allowed
      cases allowed
    | some request' =>
      rw [signed] at isRequest
      obtain rfl : request' = request := isRequest
      obtain ⟨envelope, authentic, rfl⟩ := signedRequest_some signed
      exact ⟨envelope, fetched, order,
        ⟨⟨attempt, interruption', verified, call, authentic, prepares⟩, h.scanner, h.stored⟩⟩

/-- For every run of signed attempts: what is installed carries the owner's signature, and is
ordered by its checkpoint. -/
theorem signed_checkpoint_order {h : List SignedEvent}
    (run : Run (signedStep codec config) Started h clients)
    (reads : ∀ e ∈ h, SignedReadsBack codec config e.input)
    (ids : ∀ e ∈ h, SignedHashIds e.input) :
    (∀ e ∈ h, e.output = .ok → ∃ process envelope prepared fetched order,
      InstallsSigned codec config e process envelope prepared fetched order) ∧
    h.Pairwise fun e e' => ∀ process process' envelope envelope' prepared prepared' fetched fetched'
        order order',
      InstallsSigned codec config e process envelope prepared fetched order →
      InstallsSigned codec config e' process' envelope' prepared' fetched' order' →
        order ≤ order' ∧
        (order = order' → prepared.candidate = prepared'.candidate ∧
          (NoCollision codec.hash (snapshotPreimage order (fetched.map Prod.snd))
              (snapshotPreimage order' (fetched'.map Prod.snd)) →
            (∀ f ∈ fetched, ∀ f' ∈ fetched', NoCollision codec.hash f.1.content f'.1.content) →
              prepared.rules.Perm prepared'.rules)) := by
  have base := run.map (SignedCall.toCall codec config) signedStep_eq_step
  have readsBase : ∀ e ∈ h.map (Event.mapInput (SignedCall.toCall codec config)),
      ReadsBack codec.toCheckpointCodec e.input := by
    intro e he
    obtain ⟨d, hd, rfl⟩ := List.mem_map.mp he
    exact (reads d hd).toCall
  obtain ⟨⟨each, later⟩, installs, -⟩ := checkpoint_safety base readsBase
  refine ⟨fun e he ok => ?_, ?_⟩
  · obtain ⟨process, prepared, isInstall⟩ := installs _ (List.mem_map_of_mem he) ok
    obtain ⟨envelope, fetched, order, isSigned⟩ := isInstall.signed
    exact ⟨process, envelope, prepared, fetched, order, isSigned⟩
  · rw [List.pairwise_map] at later
    refine later.imp_of_mem fun {e e'} he he' onward => ?_
    intro process process' envelope envelope' prepared prepared' fetched fetched' order order'
      isInstall isInstall'
    -- the later attempt finds a checkpoint the earlier one precedes, and moves on from it
    obtain ⟨between, isBetween, precedes⟩ := onward _ isInstall.stored
    obtain ⟨last, isLast, precedes'⟩ := each _ (List.mem_map_of_mem he') _ isBetween
    obtain rfl : prepared'.candidate = last := Option.some.inj (isInstall'.stored.symm.trans isLast)
    have ordered := precedes.trans precedes'
    simp only [Checkpoint.Precedes, isInstall.order, isInstall'.order] at ordered
    refine ⟨?_, ?_⟩
    · rcases ordered with less | same
      · exact UInt64.le_of_lt less
      · rw [← isInstall.order, ← isInstall'.order, same]
        exact UInt64.le_refl _
    · rintro rfl
      have same : prepared.candidate = prepared'.candidate := by
        rcases ordered with less | same
        · exact absurd less (UInt64.lt_irrefl _)
        · exact same.symm
      obtain ⟨attempt, interruption, verified, isCall, -, prepares⟩ := isInstall.call
      obtain ⟨attempt', interruption', verified', isCall', -, prepares'⟩ := isInstall'.call
      have isIds := ids e he
      have isIds' := ids e' he'
      rw [isCall] at isIds
      rw [isCall'] at isIds'
      exact ⟨same, fun apart contents =>
        prepares.rules_perm prepares' isIds isIds' same apart contents⟩

/-! ### A run

The owner has signed three envelopes: the sample rule with sequence 5, the same with sequence 4, and
no rules with sequence 5. The signatures and digests are those of `secp256k1` and `sha2`. -/

/-- The public key of the secret key 3. -/
def ownerKey : Bytes :=
  toBytesBig 32 0xf9308a019258c31049344f85f89d5229b531c845836f99b08601f113bce036f9

def ownerConfig : SignerConfig := ⟨ownerKey, 1⟩

/-- An envelope of the owner with its signature given as a number. -/
def ownerEnvelope (sequence : UInt64) (emptySnapshotOrder : Option UInt64)
    (entries : List RuleSyncEntry) (signature : Nat) : SnapshotEnvelope where
  schemaVersion := envelopeSchemaVersion
  kind := envelopeKind
  networkId := observationNetworkId
  sequence := sequence
  validFrom := 1000
  validUntil := 2000
  emptySnapshotOrder := emptySnapshotOrder
  entries := entries
  signature := encodeAscii (hex (toBytesBig 64 signature))

def ownerEntries : List RuleSyncEntry :=
  [⟨List.replicate 64 97, ascii "\x7b\x7d", ascii "\x7b\x7d", ascii "a"⟩]

/-- Signed envelopes, each with its signature and the digest that is signed. -/
def ownerEnvelopes : List (SnapshotEnvelope × Nat × Nat) :=
  [(ownerEnvelope 5 none ownerEntries
      0x50708817c4bcf311cff1e8b99a9ae6fff8f83c299424d33a73799024c18bea5667347e004cf9d6eb182648b4df29c2f2206beffd55f8a96b67e46b70c8e8cc32,
    0x50708817c4bcf311cff1e8b99a9ae6fff8f83c299424d33a73799024c18bea5667347e004cf9d6eb182648b4df29c2f2206beffd55f8a96b67e46b70c8e8cc32,
    0x90f79e15a7fa8f47ededaf134ec30e6c25644aeb4de48ca25217f5392e38378b),
   (ownerEnvelope 4 none ownerEntries
      0xbf0b5016472510dc9e927206d13ae8536e555f7863674161b63eb910306eb2203704c226360155092efae9e6b60495eb36cfaf38b679fa38e26680610babb5fa,
    0xbf0b5016472510dc9e927206d13ae8536e555f7863674161b63eb910306eb2203704c226360155092efae9e6b60495eb36cfaf38b679fa38e26680610babb5fa,
    0x0ec3a02ad6220ed185c77d27d374c5ed05b5a102cbae955eefd002ee0c34c1d9),
   (ownerEnvelope 5 (some 20) []
      0xcaf8b48b486f895a05193a9a9d50c6cf7bfb49fc0c8d71f31ca6fe4f87e50c8731751e0a4ca4bf52ccbe9123e5661cd2ab53e120bd998c88791920ec9ce94952,
    0xcaf8b48b486f895a05193a9a9d50c6cf7bfb49fc0c8d71f31ca6fe4f87e50c8731751e0a4ca4bf52ccbe9123e5661cd2ab53e120bd998c88791920ec9ce94952,
    0xb41a415eae12cc077a4a171ba643e5a4ee4c3b9f1725ae6c46b2e9a7a80e0a4d)]

/-- The inputs that are hashed, each with its digest. -/
def ownerDigests : List (Bytes × Nat) :=
  sampleDigests ++
    (snapshotPreimage 20 [], 0xb14e8244e285c2402a8f644de722191e98d0926026edd0917055e0e4f8d652f8) ::
      ownerEnvelopes.map fun e => (domainPreimage signingDomain e.1.payload, e.2.2)

def ownerRuleCodec : RuleCodec :=
  { sampleRuleCodec with
    sha256 := fun input =>
      ((ownerDigests.find? fun d => d.1 = input).map fun d => digestOf d.2).getD (digestOf 0) }

/-- The checkpoint of the empty snapshot. -/
def emptyCandidate : Checkpoint := candidateCheckpoint ownerRuleCodec 20 []

def ownerCodec : EnvelopeCodec where
  toRuleCodec := ownerRuleCodec
  fromSlice bytes :=
    [sampleCandidate 7, sampleCandidate 9, emptyCandidate].find? fun c => c.toVec = bytes
  readEnvelope bytes := (ownerEnvelopes.map Prod.fst).find? fun e => e.toVec = bytes
  isPublicKey key := key = ownerKey
  verifySchnorr key digest signature :=
    decide ((key, digest, signature) ∈
      ownerEnvelopes.map fun e => (ownerKey, toBytesBig 32 e.2.2, toBytesBig 64 e.2.1))

/-- Verify and install an envelope whose rule is observed at a virtual DAA score. -/
def ownerAttempt (envelope : SnapshotEnvelope) (virtualDaa : UInt64) : SignedAttempt where
  envelope := envelope.toVec
  verifyAllowed := true
  verifiedAt := some 1500
  fetchAllowed := true
  fetchedAt := some 1501
  syncAllowed := true
  observe := (sampleRequest virtualDaa).observe
  fetchRuleContent := (sampleRequest virtualDaa).fetchRuleContent

/-- Three attempts of one process, one for each envelope. -/
def ownerCalls : List SignedCall :=
  (ownerEnvelopes.map Prod.fst).zipWith
    (fun envelope virtualDaa => .sync 0 (ownerAttempt envelope virtualDaa) none) [7, 9, 9]

/-- The sequence of the envelope of a call. -/
def SignedCall.sequence (codec : EnvelopeCodec) : SignedCall → Option UInt64
  | .sync _ attempt _ => (parseEnvelope codec attempt.envelope).map SnapshotEnvelope.sequence
  | .restart _ => none

/-- After sequence 5 the rule is installed under sequence 4, at a higher score, and then no rule is
installed under sequence 5 again. -/
theorem lower_sequence_installed :
    (execute (signedStep ownerCodec ownerConfig) ownerCalls Clients.fresh).1.map
        (fun e => (e.output, e.input.sequence ownerCodec, (e.post.scanners 0).length)) =
      [(.ok, some 5, 1), (.ok, some 4, 1), (.ok, some 5, 0)] := by
  decide +kernel

theorem signedReadsBack_of_candidate {process : Nat} {attempt : SignedAttempt}
    {interruption : Option Interruption} (candidate : Checkpoint)
    (isCandidate : ((signedRequest codec config attempt).bind
      (prepareSync codec.toRuleCodec)).map PreparedSync.candidate = some candidate)
    (isRead : codec.fromSlice candidate.toVec = some candidate) :
    SignedReadsBack codec config (.sync process attempt interruption) := by
  intro request prepared isRequest isPrepared
  rw [isRequest, Option.bind_some, isPrepared] at isCandidate
  obtain rfl : prepared.candidate = candidate := Option.some.inj isCandidate
  exact isRead

theorem signed_checkpoint_order_owner :
    (∀ e ∈ (execute (signedStep ownerCodec ownerConfig) ownerCalls Clients.fresh).1,
      e.output = .ok → ∃ process envelope prepared fetched order,
        InstallsSigned ownerCodec ownerConfig e process envelope prepared fetched order) ∧
    (execute (signedStep ownerCodec ownerConfig) ownerCalls Clients.fresh).1.Pairwise
      fun e e' => ∀ process process' envelope envelope' prepared prepared' fetched fetched'
          order order',
        InstallsSigned ownerCodec ownerConfig e process envelope prepared fetched order →
        InstallsSigned ownerCodec ownerConfig e' process' envelope' prepared' fetched' order' →
          order ≤ order' := by
  have run : Run (signedStep ownerCodec ownerConfig) Started _ _ :=
    Run.of_execute (s := Clients.fresh) (fun _ => rfl) ownerCalls
  have isCall : ∀ e ∈ (execute (signedStep ownerCodec ownerConfig) ownerCalls Clients.fresh).1,
      e.input ∈ ownerCalls := by
    intro e he
    simp only [ownerCalls, ownerEnvelopes, List.map, List.zipWith, execute, callEvent,
      List.mem_cons, List.not_mem_nil, or_false] at he ⊢
    rcases he with rfl | rfl | rfl
    · exact .inl rfl
    · exact .inr (.inl rfl)
    · exact .inr (.inr rfl)
  have reads : ∀ call ∈ ownerCalls, SignedReadsBack ownerCodec ownerConfig call := by
    intro call hcall
    simp only [ownerCalls, ownerEnvelopes, List.map, List.zipWith, List.mem_cons,
      List.not_mem_nil, or_false] at hcall
    rcases hcall with rfl | rfl | rfl
    · exact signedReadsBack_of_candidate (sampleCandidate 7) (by decide +kernel)
        (by decide +kernel)
    · exact signedReadsBack_of_candidate (sampleCandidate 9) (by decide +kernel)
        (by decide +kernel)
    · exact signedReadsBack_of_candidate emptyCandidate (by decide +kernel)
        (by decide +kernel)
  have ids : ∀ call ∈ ownerCalls, SignedHashIds call := by
    intro call hcall
    simp only [ownerCalls, ownerEnvelopes, List.map, List.zipWith, List.mem_cons,
      List.not_mem_nil, or_false] at hcall
    have observed (virtualDaa : UInt64) : HashIds (sampleRequest virtualDaa).observe := by
      intro entry v isObserved
      obtain rfl := Option.some.inj isObserved
      rfl
    rcases hcall with rfl | rfl | rfl
    · exact observed 7
    · exact observed 9
    · exact observed 9
  obtain ⟨installs, pairs⟩ := signed_checkpoint_order run (fun e he => reads _ (isCall e he))
    (fun e he => ids _ (isCall e he))
  refine ⟨installs, pairs.imp fun {e e'} ordered => ?_⟩
  intro process process' envelope envelope' prepared prepared' fetched fetched' order order' h h'
  exact (ordered _ _ _ _ _ _ _ _ _ _ h h').1

end Prometheus.Client
