import Prometheus.Codec.JsonFlat
import Prometheus.Ingress.BallotIngress

/-!
# The wires of ballots and acks

`to_wire` and `from_wire` of `SignedGuardianBallot` and of `IngressAck` are inverse to each other
where a value has a wire at all: its size is bounded, and an ack needs valid identifiers.
-/

namespace Prometheus.Ingress

open Prometheus.Codec Prometheus.ThreatHint
open Prometheus.Jaeger Prometheus.Jaeger.SignedBallots
open Prometheus.ThreatHint.Python (Interpreter)

/-! ## Ballots -/

/-- The fields of `asdict`. -/
def ballotFields (ballot : SignedGuardianBallot) : List (Str × Json) :=
  match ballot.asDict with
  | .object fields => fields
  | _ => []

/-- A ballot whose wire is within the bound, and whose fields can be read back from it. -/
structure HasWire (ballot : SignedGuardianBallot) : Prop where
  flat : ∀ f ∈ ballotFields ballot, f.2.IsFlat
  bounded : ballot.toWire.length ≤ maxBallotWireBytes

/-- Flat objects are within the recursion limit. -/
def FlatWithin (python : Interpreter) : Prop :=
  ∀ value : Json, value.nesting ≤ 1 →
    python.loadsTooDeep value.text = false ∧ python.dumpsTooDeep value = false

section

variable {ballot : SignedGuardianBallot} {fields others : List (Str × Json)} {codec : BallotCodec}
  {wire : Bytes}

theorem asDict_eq (ballot : SignedGuardianBallot) : ballot.asDict = .object (ballotFields ballot) :=
  rfl

theorem keys_ballotFields (ballot : SignedGuardianBallot) :
    (ballotFields ballot).map Prod.fst = envelopeFields := rfl

theorem envelopeFields_distinct : envelopeFields.Nodup := by
  decide

theorem envelopeFields_texts : ∀ key ∈ envelopeFields, IsText key := by
  have ascii : ∀ key ∈ envelopeFields, ∀ c ∈ key, c < 128 := by decide
  intro key isKey
  refine ⟨fun c isChar => lt_trans (ascii key isKey c isChar) (by decide), ?_⟩
  have chars := ascii key isKey
  clear isKey
  induction key with
  | nil => exact List.isChain_nil
  | cons c key ih =>
    rw [List.forall_mem_cons] at chars
    refine List.isChain_cons.mpr ⟨fun d _ pair => ?_, ih chars.2⟩
    have high := pair.1.1
    omega

theorem envelopeOfFields_ballotFields (ballot : SignedGuardianBallot) :
    envelopeOfFields (ballotFields ballot) = some ballot := by
  rfl

theorem intField_some {key : String} {i : Int} (h : intField fields key = some i) :
    Json.field fields (str key) = some (.int i) := by
  obtain ⟨value, isField, isInt⟩ := Option.bind_eq_some_iff.mp h
  cases value with
  | int j =>
    obtain rfl := Option.some.inj isInt
    exact isField
  | _ => cases isInt

theorem stringField_some {key : String} {s : Str} (h : stringField fields key = some s) :
    Json.field fields (str key) = some (.string s) := by
  obtain ⟨value, isField, isString⟩ := Option.bind_eq_some_iff.mp h
  cases value with
  | string t =>
    obtain rfl := Option.some.inj isString
    exact isField
  | _ => cases isString

/-- The fields of a ballot are those that it is made of. -/
theorem field_of_envelope (h : envelopeOfFields fields = some ballot) :
    ∀ f ∈ ballotFields ballot, Json.field fields f.1 = some f.2 := by
  unfold envelopeOfFields at h
  obtain ⟨_, protocolVersion, h⟩ := Option.bind_eq_some_iff.mp h
  obtain ⟨_, voteProtocolVersion, h⟩ := Option.bind_eq_some_iff.mp h
  obtain ⟨_, sessionId, h⟩ := Option.bind_eq_some_iff.mp h
  obtain ⟨_, networkId, h⟩ := Option.bind_eq_some_iff.mp h
  obtain ⟨_, guardianId, h⟩ := Option.bind_eq_some_iff.mp h
  obtain ⟨_, membershipSnapshotId, h⟩ := Option.bind_eq_some_iff.mp h
  obtain ⟨_, candidateDigest, h⟩ := Option.bind_eq_some_iff.mp h
  obtain ⟨_, decision, h⟩ := Option.bind_eq_some_iff.mp h
  obtain ⟨_, confidenceBps, h⟩ := Option.bind_eq_some_iff.mp h
  obtain ⟨_, modelTier, h⟩ := Option.bind_eq_some_iff.mp h
  obtain ⟨_, modelArtifactSha256, h⟩ := Option.bind_eq_some_iff.mp h
  obtain ⟨_, nonce, h⟩ := Option.bind_eq_some_iff.mp h
  obtain ⟨_, issuedAtMs, h⟩ := Option.bind_eq_some_iff.mp h
  obtain ⟨_, expiresAtMs, h⟩ := Option.bind_eq_some_iff.mp h
  obtain ⟨_, payloadDigest, h⟩ := Option.bind_eq_some_iff.mp h
  obtain ⟨_, signature, h⟩ := Option.bind_eq_some_iff.mp h
  obtain rfl := Option.some.inj h
  simp only [ballotFields, SignedGuardianBallot.asDict, List.forall_mem_cons]
  exact ⟨intField_some protocolVersion, intField_some voteProtocolVersion,
    stringField_some sessionId, stringField_some networkId, stringField_some guardianId,
    stringField_some membershipSnapshotId, stringField_some candidateDigest,
    stringField_some decision, intField_some confidenceBps, stringField_some modelTier,
    stringField_some modelArtifactSha256, stringField_some nonce, intField_some issuedAtMs,
    intField_some expiresAtMs, stringField_some payloadDigest, stringField_some signature, nofun⟩

/-- Fields that make a ballot are the ballot's, in some order. -/
theorem perm_of_envelope (distinct : (fields.map Prod.fst).Nodup) (keys : HasEnvelopeKeys fields)
    (h : envelopeOfFields fields = some ballot) : fields.Perm (ballotFields ballot) := by
  have isField := field_of_envelope h
  have distinct' : ((ballotFields ballot).map Prod.fst).Nodup :=
    keys_ballotFields ballot ▸ envelopeFields_distinct
  refine (List.perm_ext_iff_of_nodup distinct.of_map distinct'.of_map).mpr fun f => ⟨fun isHere => ?_,
    fun isThere => ?_⟩
  · have isKey : f.1 ∈ (ballotFields ballot).map Prod.fst :=
      keys_ballotFields ballot ▸ keys.1 f isHere
    obtain ⟨g, isThere, sameKey⟩ := List.mem_map.mp isKey
    have found := isField g isThere
    have isHere' : Json.field fields f.1 = some f.2 := field_of_nodup distinct isHere
    rw [sameKey, isHere'] at found
    have same : f = g := Prod.ext sameKey.symm (Option.some.inj found)
    exact same ▸ isThere
  · have found := isField f isThere
    obtain ⟨g, isFound, sameValue⟩ := Option.map_eq_some_iff.mp found
    have sameKey : g.1 = f.1 := by simpa using List.find?_some isFound
    have same : g = f := Prod.ext sameKey sameValue
    exact same ▸ List.mem_of_find?_eq_some isFound

/-- A ballot that has a wire is read back from it. -/
theorem fromWire_toWire {sha256 : Bytes → Bytes} {python : Interpreter} (within : FlatWithin python)
    {isPublicKey : Bytes → Bool} {verify : Bytes → Bytes → Bytes → Bool} (hasWire : HasWire ballot) :
    SignedBallots.fromWire (Python.ballotCodec sha256 python isPublicKey verify) ballot.toWire =
      .ok (some ballot) := by
  have distinct : ((ballotFields ballot).map Prod.fst).Nodup :=
    keys_ballotFields ballot ▸ envelopeFields_distinct
  have perm := sortFields_perm (ballotFields ballot)
  have sortedDistinct := (perm.map Prod.fst).nodup_iff.mpr distinct
  have flat : AreFlat (ballotFields ballot) := fun f isField =>
    ⟨envelopeFields_texts f.1 (keys_ballotFields ballot ▸ List.mem_map_of_mem isField),
      hasWire.flat f isField⟩
  have sortedFlat : ∀ f ∈ sortFields (ballotFields ballot), f.2.IsFlat := fun f isField =>
    hasWire.flat f (perm.mem_iff.mp isField)
  have nonempty : ballotFields ballot ≠ [] := nofun
  have text : fromUtf8 ballot.toWire = some ballot.asDict.text :=
    fromUtf8_encodeAscii (isAscii_object hasWire.flat)
  have unique := unique_flat sortedFlat sortedDistinct
  have loaded : (Python.ballotCodec sha256 python isPublicKey verify).loads ballot.toWire =
      .ok (.object (sortFields (ballotFields ballot))) := by
    refine (ballotLoads_iff _ .valueError nofun).1.mpr ⟨_, text, ?_⟩
    exact Json.loadsHooked_of_loads (within _ (nesting_flat hasWire.flat)).1
      (Json.loads_flat python.floatRepr nonempty flat) unique
  have keys : HasEnvelopeKeys (sortFields (ballotFields ballot)) := by
    refine ⟨fun f isField => ?_, fun key isKey => ?_⟩
    · exact keys_ballotFields ballot ▸ List.mem_map_of_mem (perm.mem_iff.mp isField)
    · exact (perm.map Prod.fst).mem_iff.mpr (keys_ballotFields ballot ▸ isKey)
  have read : Python.fromWireFields (Python.ballotCodec sha256 python isPublicKey verify)
      ballot.toWire = .ok (sortFields (ballotFields ballot)) := by
    refine fromWireFields_ok.mpr ⟨⟨?_, hasWire.bounded⟩, loaded, unique, keys,
      (within _ (nesting_flat sortedFlat)).2, dumps_perm perm sortedDistinct⟩
    intro empty
    have start : ballot.asDict.text ≠ [] := by
      rw [asDict_eq, text_object]
      simp
    exact start (List.map_eq_nil_iff.mp empty)
  have same : envelopeOfFields (sortFields (ballotFields ballot)) =
      envelopeOfFields (ballotFields ballot) := by
    simp only [envelopeOfFields, intField, stringField, field_perm perm sortedDistinct]
  rw [fromWire_eq, read, Except.map, same, envelopeOfFields_ballotFields]

/-- What is read has the wire it was read from. -/
theorem toWire_fromWire (h : SignedBallots.fromWire codec wire = .ok (some ballot)) :
    ballot.toWire = wire := by
  rw [fromWire_eq] at h
  cases read : Python.fromWireFields codec wire with
  | error e =>
    rw [read] at h
    cases h
  | ok fields =>
    rw [read] at h
    obtain ⟨-, -, unique, keys, -, written⟩ := fromWireFields_ok.mp read
    rw [Json.uniqueKeys, Bool.and_eq_true, decide_eq_true_eq] at unique
    rw [← written]
    exact (dumps_perm (perm_of_envelope unique.1 keys (Except.ok.inj h)) unique.1).symm

/-- The interpreter raises nothing on a wire but a `JSONDecodeError` or a `UnicodeDecodeError`. -/
structure BallotLoads (codec : BallotCodec) (wire : Bytes) : Prop where
  decodes : ∀ e, codec.loads wire = .error e → e = .decodeError
  shallow : ∀ fields, codec.loads wire = .ok (.object fields) → codec.tooDeep (.object fields) = false

theorem fromWireFields_error (loads : BallotLoads codec wire) {e : BallotError}
    (h : Python.fromWireFields codec wire = .error e) : e = .format := by
  have stays : e.isTransport = true := by
    by_contra leaves
    obtain ⟨-, raised | ⟨fields, loaded, -, -, deep⟩⟩ :=
      fromWireFields_escapes.mp ⟨e, h, by simpa using leaves⟩
    · obtain ⟨e', loaded, other⟩ := raised
      exact other (loads.decodes e' loaded)
    · rw [loads.shallow fields loaded] at deep
      cases deep
  unfold Python.fromWireFields at h
  split at h
  · exact (Except.error.inj h).symm
  split at h
  · exact (Except.error.inj h).symm
  · obtain rfl := Except.error.inj h
    cases stays
  · obtain rfl := Except.error.inj h
    cases stays
  · split at h
    · exact (Except.error.inj h).symm
    split at h
    · split at h
      · obtain rfl := Except.error.inj h
        cases stays
      split at h
      · exact (Except.error.inj h).symm
      · cases h
    · exact (Except.error.inj h).symm
  · exact (Except.error.inj h).symm

end

/-! ## Acks -/

section

variable {python : Interpreter} {detect : Bytes → Option Str} {wire : Bytes}
  {ack : Python.UntypedAck}

theorem ofFields_ok {fields : List (Str × Json)}
    (h : Python.UntypedAck.ofFields wire fields = .ok ack) : ack.toWire = .ok wire := by
  simp only [Python.UntypedAck.ofFields, ite_error_eq_ok] at h
  obtain ⟨-, -, h⟩ := h
  split at h
  · cases h
  · cases h
  · split at h
    · split at h
      · cases h
      · rename_i isWritten
        rw [ite_error_eq_ok, not_not] at h
        obtain ⟨rfl, same⟩ := h
        obtain rfl := Except.ok.inj same
        exact isWritten
    · cases h

/-- What is read has the wire it was read from. -/
theorem ack_toWire_fromWire (h : Python.UntypedAck.fromWire python detect wire = .ok ack) :
    ack.toWire = .ok wire := by
  unfold Python.UntypedAck.fromWire at h
  rw [ite_error_eq_ok] at h
  replace h := h.2
  split at h
  · cases h
  · split at h
    · cases h
    · cases h
    · cases h
    · exact ofFields_ok h
    · cases h

/-- The interpreter raises nothing on a wire but a `JSONDecodeError` or a `UnicodeDecodeError`, and
the status can be hashed. -/
structure AckLoads (python : Interpreter) (detect : Bytes → Option Str) (wire : Bytes) : Prop where
  decodes : ∀ text e, Python.detectText detect wire = some text →
    Json.loadsHooked python.loadsTooDeep python.floatRepr text = .error (.load e) → e = .decodeError
  hashable : ∀ text fields, Python.detectText detect wire = some text →
    Json.loadsHooked python.loadsTooDeep python.floatRepr text = .ok (.object fields) →
      ∃ status, Python.ackStatus (Json.field fields (str "status")) = .ok status

theorem ack_toWire_error {sessionId payloadDigest : Str} {status : IngressStatus}
    {e : Python.AckError}
    (h : (⟨status, .string sessionId, payloadDigest⟩ : Python.UntypedAck).toWire = .error e) :
    ∃ message, e = .ingress message := by
  have identifiers : ∃ valid,
      (⟨status, .string sessionId, payloadDigest⟩ : Python.UntypedAck).hasValidIdentifiers =
        .ok valid := by
    have session : ∃ valid,
        (⟨status, .string sessionId, payloadDigest⟩ : Python.UntypedAck).sessionValid = .ok valid := by
      unfold Python.UntypedAck.sessionValid
      split
      · exact ⟨true, rfl⟩
      · exact ⟨isHash sessionId, rfl⟩
    obtain ⟨valid, isValid⟩ := session
    rw [Python.UntypedAck.hasValidIdentifiers, isValid]
    exact ⟨_, rfl⟩
  obtain ⟨valid, isValid⟩ := identifiers
  unfold Python.UntypedAck.toWire at h
  rw [isValid] at h
  cases valid with
  | false => exact ⟨_, (Except.error.inj h).symm⟩
  | true =>
    dsimp only at h
    split at h
    · exact ⟨_, (Except.error.inj h).symm⟩
    · cases h

theorem ack_fromWire_error (loads : AckLoads python detect wire) {e : Python.AckError}
    (h : Python.UntypedAck.fromWire python detect wire = .error e) : ∃ message, e = .ingress message := by
  unfold Python.UntypedAck.fromWire at h
  split at h
  · exact ⟨_, (Except.error.inj h).symm⟩
  split at h
  · exact ⟨_, (Except.error.inj h).symm⟩
  rename_i text isText
  split at h
  · exact ⟨_, (Except.error.inj h).symm⟩
  · exact ⟨_, (Except.error.inj h).symm⟩
  · rename_i other isError
    exact absurd (loads.decodes text _ isText isError) other
  · rename_i fields isObject
    obtain ⟨status, isStatus⟩ := loads.hashable text fields isText isObject
    unfold Python.UntypedAck.ofFields at h
    split at h
    · exact ⟨_, (Except.error.inj h).symm⟩
    split at h
    · exact ⟨_, (Except.error.inj h).symm⟩
    rw [isStatus] at h
    cases status with
    | none => exact ⟨_, (Except.error.inj h).symm⟩
    | some status =>
      dsimp only at h
      split at h
      · split at h
        · rename_i isRaised
          obtain rfl := Except.error.inj h
          exact ack_toWire_error isRaised
        · split at h
          · exact ⟨_, (Except.error.inj h).symm⟩
          · cases h
      · exact ⟨_, (Except.error.inj h).symm⟩
  · exact ⟨_, (Except.error.inj h).symm⟩

end

/-! ## Both codecs -/

/-- The wires of ballots. -/
structure BallotWires (codec : BallotCodec) : Prop where
  readsBack : ∀ ballot, HasWire ballot →
    SignedBallots.fromWire codec ballot.toWire = .ok (some ballot)
  written : ∀ wire fields, Python.fromWireFields codec wire = .ok fields →
    (Json.object fields).dumps = wire
  oneWire : ∀ wire ballot, SignedBallots.fromWire codec wire = .ok (some ballot) →
    ballot.toWire = wire
  error : ∀ wire, BallotLoads codec wire → ∀ e, Python.fromWireFields codec wire = .error e →
    e = .format

/-- The wires of acks. -/
structure AckWires (python : Interpreter) (detect : Bytes → Option Str) : Prop where
  readsBack : ∀ (ack : Python.IngressAck) wire, ack.toWire = .ok wire →
    Python.UntypedAck.fromWire python detect wire = .ok (.ofAck ack)
  written : ∀ wire ack, Python.UntypedAck.fromWire python detect wire = .ok ack →
    ack.toWire = .ok wire
  error : ∀ wire, AckLoads python detect wire → ∀ e,
    Python.UntypedAck.fromWire python detect wire = .error e → ∃ message, e = .ingress message

/-- Reading undoes writing, and a wire that is read is the one that is written. -/
theorem wire_codecs {python : Interpreter} (within : FlatWithin python) (shallow : python.Shallow)
    (sha256 : Bytes → Bytes) (isPublicKey : Bytes → Bool) (verify : Bytes → Bytes → Bytes → Bool)
    (detect : Bytes → Option Str) :
    BallotWires (Python.ballotCodec sha256 python isPublicKey verify) ∧ AckWires python detect := by
  refine ⟨⟨fun _ => fromWire_toWire within, fun _ _ read => ?_, fun _ _ => toWire_fromWire,
    fun _ loads _ => fromWireFields_error loads⟩, ⟨fun ack wire isWritten => ?_,
    fun _ _ => ack_toWire_fromWire, fun _ loads _ => ack_fromWire_error loads⟩⟩
  · exact (fromWireFields_ok.mp read).2.2.2.2.2
  · obtain ⟨isValid, rfl⟩ := Python.IngressAck.toWire_iff.mp isWritten
    exact Python.UntypedAck.fromWire_dump shallow isValid

/-- A ballot that is only a nonce. -/
def bareBallot (nonce : Str) : SignedGuardianBallot where
  protocolVersion := 0
  voteProtocolVersion := 0
  sessionId := []
  networkId := []
  guardianId := []
  membershipSnapshotId := []
  candidateDigest := []
  decision := []
  confidenceBps := 0
  modelTier := []
  modelArtifactSha256 := []
  nonce
  issuedAtMs := 0
  expiresAtMs := 0
  payloadDigest := []
  signature := []

theorem wire_codecs_base :
    SignedBallots.fromWire keylessCodec (bareBallot (str "n")).toWire =
        .ok (some (bareBallot (str "n"))) ∧
      Python.UntypedAck.fromWire baseInterpreter (fun _ => none)
        (dump (⟨.busy, [], []⟩ : Python.IngressAck).payload) =
          .ok (.ofAck ⟨.busy, [], []⟩) := by
  obtain ⟨ballots, acks⟩ := @wire_codecs baseInterpreter (fun _ _ => ⟨rfl, rfl⟩)
    baseInterpreter_shallow Codec.sha256 (fun _ => false) (fun _ _ _ => false) fun _ => none
  refine ⟨ballots.readsBack _ ⟨?_, ?_⟩, acks.readsBack _ _ ?_⟩
  · have empty : IsText [] := ⟨nofun, List.isChain_nil⟩
    have nonce : IsText (str "n") := ⟨by decide, List.isChain_singleton _⟩
    simp only [ballotFields, bareBallot, SignedGuardianBallot.asDict, List.forall_mem_cons,
      Json.IsFlat]
    exact ⟨by decide, by decide, empty, empty, empty, empty, empty, empty, by decide, empty, empty,
      nonce, by decide, by decide, empty, empty, nofun⟩
  · decide +kernel
  · exact Python.IngressAck.toWire_iff.mpr ⟨rfl, rfl⟩

/-- Two code points that are a surrogate pair come back as one, and an ack of another session id has
no wire. -/
theorem values_without_wire :
    SignedBallots.fromWire keylessCodec (bareBallot [0xD83D, 0xDE00]).toWire =
        .ok (some (bareBallot [0x1F600])) ∧
      bareBallot [0xD83D, 0xDE00] ≠ bareBallot [0x1F600] ∧
      ∀ wire, (⟨.rejected, str "x", []⟩ : Python.IngressAck).toWire ≠ .ok wire := by
  refine ⟨by decide +kernel, by decide, fun wire written => ?_⟩
  obtain ⟨isValid, -⟩ := Python.IngressAck.toWire_iff.mp written
  revert isValid
  decide

end Prometheus.Ingress
