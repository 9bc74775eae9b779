import Prometheus.Codec.JsonHook
import Prometheus.Ingress.Ack
import Prometheus.Jaeger.SignedBallots.Ledger
import Prometheus.ThreatHint.Raises

/-!
# The ingress of ballots

`BallotIngress.process` of `ballot_ingress.py` with every JSON value that a ballot can carry, and
the wire of its ack. `from_wire` of a ballot checks no types, so that the session id of the ack is
what the ballot says. The interpreter, SHA-256, the BIP340 functions and the faults of `sqlite3` are
parameters.
-/

namespace Prometheus.Ingress

open Prometheus.Codec Prometheus.Machine Prometheus.ThreatHint
open Prometheus.Jaeger Prometheus.Jaeger.SignedBallots
open Prometheus.ThreatHint.Python (Interpreter sameKeys)

namespace Python

/-! ## Acks of any session id -/

/-- `IngressAck` with a session id of any type. -/
structure UntypedAck where
  status : IngressStatus
  sessionId : Json
  payloadDigest : Str

/-- What the methods of an ack raise: a `BallotIngressError` with its text, the `TypeError` of a value
that is no text or cannot be hashed, or an error of `json.loads`. -/
inductive AckError
  | ingress (message : String)
  | typeError
  | load (error : LoadError)
  deriving DecidableEq, Repr

/-- `not value`. -/
def isFalsy : Json → Bool
  | .null => true
  | .bool b => !b
  | .int i => decide (i = 0)
  | .float repr => decide (repr = str "0.0") || decide (repr = str "-0.0")
  | .string s => s.isEmpty
  | .array items => items.isEmpty
  | .object fields => fields.isEmpty

namespace UntypedAck

/-- `not self.session_id or bool(_LOWER_HEX_32.fullmatch(self.session_id))`. -/
def sessionValid (ack : UntypedAck) : Except AckError Bool :=
  if isFalsy ack.sessionId then .ok true
  else
    match ack.sessionId with
    | .string s => .ok (isHash s)
    | _ => .error .typeError

/-- `_has_valid_identifiers`. -/
def hasValidIdentifiers (ack : UntypedAck) : Except AckError Bool :=
  ack.sessionValid.map fun (sessionValid : Bool) =>
    let digestValid := ack.payloadDigest.isEmpty || isHash ack.payloadDigest
    if ¬ sessionValid ∨ ¬ digestValid then false
    else
      match ack.status with
      | .accepted | .duplicate => !isFalsy ack.sessionId && !ack.payloadDigest.isEmpty
      | .busy => isFalsy ack.sessionId && ack.payloadDigest.isEmpty
      | .rejected => true

def payload (ack : UntypedAck) : List (String × Json) :=
  [("payload_digest", .string ack.payloadDigest),
    ("protocol_version", .int 1),
    ("session_id", ack.sessionId),
    ("status", .string (str ack.status.name))]

/-- `to_wire`. -/
def toWire (ack : UntypedAck) : Except AckError Bytes :=
  match ack.hasValidIdentifiers with
  | .error e => .error e
  | .ok false => .error (.ingress "invalid ingress acknowledgement identifiers")
  | .ok true =>
    let wire := (document ack.payload).dumps
    if maxIngressAckBytes < wire.length then
      .error (.ingress "ingress acknowledgement exceeds size limit")
    else .ok wire

end UntypedAck

/-- The text that `json.loads` decodes bytes to, after it has detected their encoding: bytes from 1 to
127 are UTF-8, and `detect` decodes the others. -/
def detectText (detect : Bytes → Option Str) (wire : Bytes) : Option Str :=
  if wire.all fun b => decide (0 < b) && decide (b < 128) then some (wire.map UInt8.toNat)
  else detect wire

/-- `value == INGRESS_PROTOCOL_VERSION`. -/
def isProtocolVersion : Option Json → Bool
  | some (.int i) => decide (i = 1)
  | some (.bool b) => b
  | some (.float repr) => decide (repr = str "1.0")
  | _ => false

/-- The status that a value names; membership in the set of statuses hashes the value. -/
def ackStatus : Option Json → Except AckError (Option IngressStatus)
  | some (.string s) =>
    .ok ([.accepted, .duplicate, .rejected, .busy].find? fun status =>
      decide (str (IngressStatus.name status) = s))
  | some (.array _) | some (.object _) => .error .typeError
  | _ => .ok none

namespace UntypedAck

/-- `from_wire` behind `json.loads`. -/
def ofFields (wire : Bytes) (fields : List (Str × Json)) : Except AckError UntypedAck :=
  if ¬ sameKeys fields IngressAck.keys then
    .error (.ingress "invalid ingress acknowledgement schema")
  else if ¬ isProtocolVersion (Json.field fields (str "protocol_version")) then
    .error (.ingress "unsupported ingress protocol version")
  else
    match ackStatus (Json.field fields (str "status")) with
    | .error e => .error e
    | .ok none => .error (.ingress "invalid ingress acknowledgement status")
    | .ok (some status) =>
      match Json.textAt fields "session_id", Json.textAt fields "payload_digest" with
      | some sessionId, some payloadDigest =>
        let ack : UntypedAck := ⟨status, .string sessionId, payloadDigest⟩
        match ack.toWire with
        | .error e => .error e
        | .ok written =>
          if written ≠ wire then .error (.ingress "non-canonical ingress acknowledgement")
          else .ok ack
      | _, _ => .error (.ingress "invalid ingress acknowledgement fields")

/-- `from_wire`. -/
def fromWire (python : Interpreter) (detect : Bytes → Option Str) (wire : Bytes) :
    Except AckError UntypedAck :=
  if wire = [] ∨ maxIngressAckBytes < wire.length then
    .error (.ingress "invalid ingress acknowledgement size")
  else
    match detectText detect wire with
    | none => .error (.ingress "invalid ingress acknowledgement")
    | some text =>
      match Json.loadsHooked python.loadsTooDeep python.floatRepr text with
      | .error .duplicate => .error (.ingress "duplicate acknowledgement field")
      | .error (.load .decodeError) => .error (.ingress "invalid ingress acknowledgement")
      | .error (.load e) => .error (.load e)
      | .ok (.object fields) => ofFields wire fields
      | .ok _ => .error (.ingress "invalid ingress acknowledgement schema")

end UntypedAck

/-! ## `process` -/

/-- What `signed_ballots.py` takes from its libraries. The error of its hook against duplicate keys is
caught together with a `JSONDecodeError`. -/
def ballotCodec (sha256 : Bytes → Bytes) (python : Interpreter) (isPublicKey : Bytes → Bool)
    (verify : Bytes → Bytes → Bytes → Bool) : BallotCodec where
  sha256 := sha256
  loads wire :=
    match fromUtf8 wire with
    | none => .error .decodeError
    | some text =>
      match Json.loadsHooked python.loadsTooDeep python.floatRepr text with
      | .ok value => .ok value
      | .error .duplicate => .error .decodeError
      | .error (.load e) => .error e
  tooDeep := python.dumpsTooDeep
  isPublicKey := isPublicKey
  verify := verify

/-- `SignedGuardianBallot.from_wire` with the decoded fields, whatever their types. -/
def fromWireFields (codec : BallotCodec) (wire : Bytes) :
    Except BallotError (List (Str × Json)) :=
  if wire = [] ∨ maxBallotWireBytes < wire.length then .error .format
  else
    match codec.loads wire with
    | .error .decodeError => .error .format
    | .error .valueError => .error .value
    | .error .recursionError => .error .recursion
    | .ok (.object fields) =>
      if ¬ (Json.object fields).uniqueKeys then .error .format
      else if (∀ f ∈ fields, f.1 ∈ envelopeFields) ∧
          ∀ key ∈ envelopeFields, key ∈ fields.map Prod.fst then
        if codec.tooDeep (.object fields) then .error .recursion
        else if (Json.object fields).dumps ≠ wire then .error .format
        else .ok fields
      else .error .format
    | .ok _ => .error .format

/-- `BallotContext`. `establish_session` is the only way to make one, so that its session was created
for its candidate and its snapshot. -/
structure BallotContext (codec : BallotCodec) where
  candidate : EnsembleCandidate
  snapshot : MembershipSnapshot
  session : BallotSession
  created : ∃ signers networkId sessionNonce validFromMs validUntilMs,
    BallotSession.create codec candidate snapshot signers networkId sessionNonce validFromMs
      validUntilMs = some session

/-- What `sqlite3` does: whether the connection of `consume` raises, and that of `session_wires`. -/
structure BallotFaults where
  consume : Bool
  sessionWires : Bool

/-- What leaves `process`: the `TypeError` of a session id that cannot be hashed, or an error that is
not a `BallotTransportError`, or that is raised while another one is handled. -/
inductive ProcessError
  | typeError
  | ballot (error : BallotError)
  deriving DecidableEq, Repr

section

variable {codec : BallotCodec} (contexts : List (BallotContext codec)) (faults : BallotFaults)

/-- `self._contexts.get(session_id)`; the keys are the session ids of the contexts. -/
def getContext : Json → Except ProcessError (Option (BallotContext codec))
  | .array _ | .object _ => .error .typeError
  | .string s => .ok (contexts.find? fun context => decide (context.session.sessionId = s))
  | _ => .ok none

/-- `except BallotReplayError`: an exact retransmission is a duplicate. -/
def answerReplay (wire digest : Bytes) (sessionId : Json) (file : ReplayLedger) :
    Except ProcessError UntypedAck :=
  match containsWire (sessionId.asString.getD []) wire faults.sessionWires file with
  | .error e => .error (.ballot e)
  | .ok true => .ok ⟨.duplicate, sessionId, hex digest⟩
  | .ok false => .ok ⟨.rejected, sessionId, hex digest⟩

/-- The answer to what `accept_wire` returns or raises. -/
def answerCollector (wire digest : Bytes) (sessionId : Json) (file : ReplayLedger) :
    Except BallotError GuardianVote → Except ProcessError UntypedAck
  | .ok _ => .ok ⟨.accepted, sessionId, hex digest⟩
  | .error .replay => answerReplay faults wire digest sessionId file
  | .error e =>
    if e.isTransport then .ok ⟨.rejected, .string [], hex digest⟩ else .error (.ballot e)

/-- `process`. -/
def processBallot (wire : Bytes) (nowMs : Int) (file : ReplayLedger) :
    Except ProcessError UntypedAck × ReplayLedger :=
  let digest := codec.sha256 wire
  if wire = [] ∨ maxBallotWireBytes < wire.length then
    (.ok ⟨.rejected, .string [], hex digest⟩, file)
  else
    match fromWireFields codec wire with
    | .error e =>
      if e.isTransport then (.ok ⟨.rejected, .string [], hex digest⟩, file)
      else (.error (.ballot e), file)
    | .ok fields =>
      let sessionId := (Json.field fields (str "session_id")).getD .null
      match getContext contexts sessionId with
      | .error e => (.error e, file)
      | .ok none => (.ok ⟨.rejected, sessionId, hex digest⟩, file)
      | .ok (some context) =>
        let (accepted, file') := acceptWire codec wire context.candidate context.snapshot
          context.session nowMs faults.consume file
        (answerCollector faults wire digest sessionId file' accepted, file')

end

end Python

/-! ## The ballots that are not answered -/

section

variable {codec : BallotCodec}

/-- The object has the fields of an envelope and no others. -/
def HasEnvelopeKeys (fields : List (Str × Json)) : Prop :=
  (∀ f ∈ fields, f.1 ∈ envelopeFields) ∧ ∀ key ∈ envelopeFields, key ∈ fields.map Prod.fst

/-- The session id is empty or 64 hex digits. -/
def HasIdentifier (fields : List (Str × Json)) : Prop :=
  ∃ s, Json.field fields (str "session_id") = some (.string s) ∧ IsIdentifier s

/-- The ledger refuses a row behind its clock, or with a consumed key, as a replay. -/
def RefusesReplay (file : ReplayLedger) (row : AcceptedBallot) (nowMs : Int) : Prop :=
  ∃ stored, file.highWaterMs = some stored ∧
    (nowMs < stored ∨ file.acceptedBallots.insert row = none)

/-- The fields are those of a verified envelope. -/
def IsVerified (codec : BallotCodec) (fields : List (Str × Json)) (wire : Bytes)
    (candidate : EnsembleCandidate) (snapshot : MembershipSnapshot) (session : BallotSession)
    (nowMs : Int) (envelope : SignedGuardianBallot) : Prop :=
  envelopeOfFields fields = some envelope ∧ envelope.toWire = wire ∧
    Verified codec envelope candidate snapshot session nowMs

/-- `sqlite3` raises for a verified ballot of a known session: when the ballot is consumed, or, when it
is refused as a replay or as behind the clock of the ledger, when the session is looked up. -/
def DatabaseRaises (contexts : List (Python.BallotContext codec)) (faults : Python.BallotFaults)
    (wire : Bytes) (nowMs : Int) (file : ReplayLedger) (fields : List (Str × Json)) : Prop :=
  ∃ s context envelope, Json.field fields (str "session_id") = some (.string s) ∧
    Python.getContext contexts (.string s) = .ok (some context) ∧
    IsVerified codec fields wire context.candidate context.snapshot context.session nowMs envelope ∧
    (faults.consume = true ∨ faults.sessionWires = true ∧
      RefusesReplay file (acceptedRow envelope context.session wire nowMs) nowMs)

end

section

variable (sha256 : Bytes → Bytes) (python : Interpreter) (isPublicKey : Bytes → Bool)
  (verify : Bytes → Bytes → Bytes → Bool)
  (contexts : List (Python.BallotContext (Python.ballotCodec sha256 python isPublicKey verify)))
  (faults : Python.BallotFaults)

/-- The ballots without a response that reads back as the ack. -/
inductive Unanswered (wire : Bytes) (nowMs : Int) (file : ReplayLedger) : Prop
  /-- The text nests too deep, or an integer in it is too long. -/
  | unloadable {text : Str} {e : LoadError} (size : wire ≠ [] ∧ wire.length ≤ maxBallotWireBytes)
      (isText : fromUtf8 wire = some text)
      (raised : Json.loadsHooked python.loadsTooDeep python.floatRepr text = .error (.load e))
      (other : e ≠ .decodeError)
  /-- A value nests too deep to be dumped. -/
  | undumpable {text : Str} {fields : List (Str × Json)}
      (size : wire ≠ [] ∧ wire.length ≤ maxBallotWireBytes) (isText : fromUtf8 wire = some text)
      (loaded : Json.loadsHooked python.loadsTooDeep python.floatRepr text = .ok (.object fields))
      (keys : HasEnvelopeKeys fields) (tooDeep : python.dumpsTooDeep (.object fields) = true)
  /-- A canonical envelope has a session id that is no identifier, or `sqlite3` raises. -/
  | envelope {text : Str} {fields : List (Str × Json)}
      (size : wire ≠ [] ∧ wire.length ≤ maxBallotWireBytes) (isText : fromUtf8 wire = some text)
      (loaded : Json.loadsHooked python.loadsTooDeep python.floatRepr text = .ok (.object fields))
      (keys : HasEnvelopeKeys fields) (shallow : python.dumpsTooDeep (.object fields) = false)
      (canonical : (Json.object fields).dumps = wire)
      (fails : ¬ HasIdentifier fields ∨ DatabaseRaises contexts faults wire nowMs file fields)

end

/-! ## What the ballot parser returns and raises -/

section

variable {codec : BallotCodec} {wire : Bytes}

/-- `from_wire` of typed envelopes is the one of any fields with the types checked. -/
theorem fromWire_eq (codec : BallotCodec) (wire : Bytes) :
    SignedBallots.fromWire codec wire =
      (Python.fromWireFields codec wire).map envelopeOfFields := by
  unfold SignedBallots.fromWire Python.fromWireFields
  split
  · rfl
  cases codec.loads wire with
  | error e => cases e <;> rfl
  | ok value =>
    cases value with
    | object fields =>
      simp only []
      split
      · rfl
      split
      · split
        · rfl
        split
        · rfl
        · rfl
      · rfl
    | _ => rfl

theorem fromWireFields_ok {fields : List (Str × Json)} :
    Python.fromWireFields codec wire = .ok fields ↔
      (wire ≠ [] ∧ wire.length ≤ maxBallotWireBytes) ∧ codec.loads wire = .ok (.object fields) ∧
        (Json.object fields).uniqueKeys = true ∧ HasEnvelopeKeys fields ∧
        codec.tooDeep (.object fields) = false ∧ (Json.object fields).dumps = wire := by
  unfold Python.fromWireFields
  rw [ite_error_eq_ok, not_or, not_lt]
  refine and_congr_right fun _ => ?_
  cases codec.loads wire with
  | error e => cases e <;> simp
  | ok value =>
    cases value with
    | object decoded =>
      have keys {x : Except BallotError (List (Str × Json))} :
          (if (∀ f ∈ decoded, f.1 ∈ envelopeFields) ∧
                ∀ key ∈ envelopeFields, key ∈ decoded.map Prod.fst then x
              else .error .format) = .ok fields ↔ HasEnvelopeKeys decoded ∧ x = .ok fields := by
        unfold HasEnvelopeKeys
        split
        · rename_i has
          rw [and_iff_right has]
        · rename_i has
          exact iff_of_false (by simp) fun h => has h.1
      simp only [ite_error_eq_ok, keys, not_not, ne_eq, Except.ok.injEq, Json.object.injEq,
        Bool.not_eq_true, Bool.not_eq_false]
      constructor
      · intro h
        obtain ⟨unique, has, shallow, canonical, rfl⟩ := h
        exact ⟨rfl, unique, has, shallow, canonical⟩
      · intro h
        obtain ⟨rfl, unique, has, shallow, canonical⟩ := h
        exact ⟨unique, has, shallow, canonical, rfl⟩
    | _ => simp

/-- What leaves the parser is an error of `json.loads` or of a value that cannot be dumped. -/
theorem fromWireFields_escapes :
    (∃ e, Python.fromWireFields codec wire = .error e ∧ e.isTransport = false) ↔
      (wire ≠ [] ∧ wire.length ≤ maxBallotWireBytes) ∧
        ((∃ e, codec.loads wire = .error e ∧ e ≠ .decodeError) ∨
          ∃ fields, codec.loads wire = .ok (.object fields) ∧
            (Json.object fields).uniqueKeys = true ∧ HasEnvelopeKeys fields ∧
            codec.tooDeep (.object fields) = true) := by
  unfold Python.fromWireFields
  by_cases size : wire = [] ∨ maxBallotWireBytes < wire.length
  · rw [if_pos size]
    refine iff_of_false ?_ ?_
    · rintro ⟨e, raised, leaves⟩
      obtain rfl := Except.error.inj raised
      cases leaves
    · rintro ⟨⟨nonempty, short⟩, _⟩
      exact size.elim nonempty (not_lt.mpr short)
  · rw [if_neg size]
    rw [not_or, not_lt] at size
    rw [and_iff_right size]
    cases loaded : codec.loads wire with
    | error e => cases e <;> simp [BallotError.isTransport]
    | ok value =>
      cases value with
      | object decoded =>
        simp only [reduceCtorEq, false_and, exists_false, Except.ok.injEq, Json.object.injEq,
          exists_eq_left', false_or]
        by_cases unique : (Json.object decoded).uniqueKeys = true
        · rw [if_neg (not_not.mpr unique)]
          by_cases has : HasEnvelopeKeys decoded
          · rw [if_pos (show _ ∧ _ from has)]
            by_cases deep : codec.tooDeep (.object decoded) = true
            · simp [deep, unique, has, BallotError.isTransport]
            · by_cases canonical : (Json.object decoded).dumps = wire
              · simp [deep, canonical]
              · simp [deep, canonical, BallotError.isTransport]
          · rw [if_neg (show ¬ (_ ∧ _) from has)]
            simp [has, BallotError.isTransport]
        · simp [unique, BallotError.isTransport]
      | _ => simp [BallotError.isTransport]

end

section

variable {sha256 : Bytes → Bytes} {python : Interpreter} {isPublicKey : Bytes → Bool}
  {verify : Bytes → Bytes → Bytes → Bool} {wire : Bytes}

theorem ballotLoads_iff (value : Json) (e : LoadError) (other : e ≠ .decodeError) :
    ((Python.ballotCodec sha256 python isPublicKey verify).loads wire = .ok value ↔
      ∃ text, fromUtf8 wire = some text ∧
        Json.loadsHooked python.loadsTooDeep python.floatRepr text = .ok value) ∧
    ((Python.ballotCodec sha256 python isPublicKey verify).loads wire = .error e ↔
      ∃ text, fromUtf8 wire = some text ∧
        Json.loadsHooked python.loadsTooDeep python.floatRepr text = .error (.load e)) := by
  simp only [Python.ballotCodec]
  cases fromUtf8 wire with
  | none => simp [other.symm]
  | some text =>
    cases loaded : Json.loadsHooked python.loadsTooDeep python.floatRepr text with
    | ok decoded => simp [loaded]
    | error raised =>
      cases raised with
      | duplicate => simp [loaded, other.symm]
      | load raised => simp [loaded]

theorem unanswered_iff
    {contexts : List (Python.BallotContext (Python.ballotCodec sha256 python isPublicKey verify))}
    {faults : Python.BallotFaults} {nowMs : Int} {file : ReplayLedger} :
    Unanswered sha256 python isPublicKey verify contexts faults wire nowMs file ↔
      (∃ e, Python.fromWireFields (Python.ballotCodec sha256 python isPublicKey verify) wire =
          .error e ∧ e.isTransport = false) ∨
        ∃ fields, Python.fromWireFields (Python.ballotCodec sha256 python isPublicKey verify) wire =
            .ok fields ∧
          (¬ HasIdentifier fields ∨ DatabaseRaises contexts faults wire nowMs file fields) := by
  have loads (value : Json) :
      (Python.ballotCodec sha256 python isPublicKey verify).loads wire = .ok value ↔ _ :=
    (ballotLoads_iff value .valueError nofun).1
  have raises (e : LoadError) (other : e ≠ .decodeError) :
      (Python.ballotCodec sha256 python isPublicKey verify).loads wire = .error e ↔ _ :=
    (ballotLoads_iff .null e other).2
  rw [fromWireFields_escapes]
  simp only [fromWireFields_ok, loads]
  constructor
  · intro h
    cases h with
    | unloadable size isText raised other =>
      exact .inl ⟨size, .inl ⟨_, (raises _ other).mpr ⟨_, isText, raised⟩, other⟩⟩
    | undumpable size isText loaded keys tooDeep =>
      exact .inl ⟨size, .inr ⟨_, ⟨_, isText, loaded⟩, Json.unique_of_loadsHooked loaded, keys,
        tooDeep⟩⟩
    | envelope size isText loaded keys shallow canonical fails =>
      exact .inr ⟨_, ⟨size, ⟨_, isText, loaded⟩, Json.unique_of_loadsHooked loaded, keys, shallow,
        canonical⟩, fails⟩
  · intro h
    obtain ⟨size, ⟨e, raised, other⟩ | ⟨fields, ⟨text, isText, loaded⟩, -, keys, tooDeep⟩⟩ |
      ⟨fields, ⟨size, ⟨text, isText, loaded⟩, -, keys, shallow, canonical⟩, fails⟩ := h
    · obtain ⟨text, isText, raised⟩ := (raises e other).mp raised
      exact .unloadable size isText raised other
    · exact .undumpable size isText loaded keys tooDeep
    · exact .envelope size isText loaded keys shallow canonical fails

end

/-! ## The wire of an ack -/

namespace Python

/-- An ack with a text for its session id. -/
def UntypedAck.ofAck (ack : IngressAck) : UntypedAck :=
  ⟨ack.status, .string ack.sessionId, ack.payloadDigest⟩

theorem UntypedAck.toWire_ofAck {ack : IngressAck} {wire : Bytes} :
    (UntypedAck.ofAck ack).toWire = .ok wire ↔ ack.toWire = .ok wire := by
  have identifiers : (UntypedAck.ofAck ack).hasValidIdentifiers = .ok ack.hasValidIdentifiers := by
    unfold UntypedAck.hasValidIdentifiers UntypedAck.sessionValid IngressAck.hasValidIdentifiers
    simp only [UntypedAck.ofAck, isFalsy]
    by_cases empty : ack.sessionId.isEmpty = true
    · cases ack.status <;> simp [empty, Except.map]
    · cases ack.status <;> simp [empty, Except.map]
  unfold UntypedAck.toWire IngressAck.toWire
  rw [identifiers]
  cases ack.hasValidIdentifiers with
  | false => simp
  | true =>
    simp only [not_true_eq_false, if_false, ite_error_eq_ok, Except.ok.injEq]
    exact Iff.rfl

/-- Whatever reads back has a text for its session id. -/
theorem UntypedAck.fromWire_text {python : Interpreter} {detect : Bytes → Option Str} {wire : Bytes}
    {ack : UntypedAck} (read : UntypedAck.fromWire python detect wire = .ok ack) :
    ∃ s, ack.sessionId = .string s := by
  have ofFields {fields : List (Str × Json)} (read : UntypedAck.ofFields wire fields = .ok ack) :
      ∃ s, ack.sessionId = .string s := by
    simp only [UntypedAck.ofFields, ite_error_eq_ok] at read
    obtain ⟨-, -, read⟩ := read
    split at read
    · cases read
    · cases read
    · split at read
      · rename_i sessionId _ _ _
        split at read
        · cases read
        · rw [ite_error_eq_ok] at read
          obtain rfl := Except.ok.inj read.2
          exact ⟨sessionId, rfl⟩
      · cases read
  unfold UntypedAck.fromWire at read
  rw [ite_error_eq_ok] at read
  replace read := read.2
  split at read
  · cases read
  · split at read
    · cases read
    · cases read
    · cases read
    · exact ofFields read
    · cases read

theorem ackStatus_name (status : IngressStatus) :
    ackStatus (some (.string (str status.name))) = .ok (some status) := by
  have all : ∀ status ∈ [IngressStatus.accepted, .duplicate, .rejected, .busy],
      ([.accepted, .duplicate, .rejected, .busy].find? fun other =>
        decide (str (IngressStatus.name other) = str status.name)) = some status := by
    decide
  rw [ackStatus, all status (by cases status <;> simp)]

/-- The wire of an ack with valid identifiers reads back, whatever decodes other encodings. -/
theorem UntypedAck.fromWire_dump {python : Interpreter} (shallow : python.Shallow)
    {detect : Bytes → Option Str} {ack : IngressAck} (isValid : ack.hasValidIdentifiers = true) :
    UntypedAck.fromWire python detect (dump ack.payload) = .ok (.ofAck ack) := by
  obtain ⟨sessionId, payloadDigest, -⟩ := IngressAck.hasValidIdentifiers_iff.mp isValid
  have same : ack.payload.map Prod.fst = IngressAck.keys := rfl
  have plain := ackKeys_plain.1
  have isMember : ack.status ∈ [IngressStatus.accepted, .duplicate, .rejected, .busy] := by
    cases ack.status <;> simp
  have readable : Readable (document ack.payload) := by
    refine readable_document same plain.distinct plain.ascii ?_
    simp only [IngressAck.payload, List.forall_mem_cons]
    exact ⟨readable_string payloadDigest.isAscii, readable_int (.of_le (by decide) (by decide)),
      readable_string sessionId.isAscii, readable_string (statuses_distinct.1.isAscii isMember),
      by simp⟩
  have size : ¬ (dump ack.payload = [] ∨ maxIngressAckBytes < (dump ack.payload).length) := by
    have small := IngressAck.length_payload sessionId payloadDigest
    rw [not_or, not_lt, maxIngressAckBytes]
    exact ⟨dump_ne_nil _, by omega⟩
  have isAscii := isAscii_compact _ readable.ascii
  have text : (dump ack.payload).map UInt8.toNat = (document ack.payload).compact quoteRaw :=
    map_toNat_encodeAscii isAscii.small
  -- The wire is printable ASCII, and is taken for UTF-8.
  have decoded : detectText detect (dump ack.payload) =
      some ((document ack.payload).compact quoteRaw) := by
    rw [detectText, if_pos, text]
    rw [List.all_eq_true]
    intro b hb
    have isChar : b.toNat ∈ (document ack.payload).compact quoteRaw :=
      text ▸ List.mem_map_of_mem hb
    have small := isAscii _ isChar
    have large := readable.printable _ isChar
    rw [Bool.and_eq_true, decide_eq_true_eq, decide_eq_true_eq, UInt8.lt_iff_toNat_lt,
      UInt8.lt_iff_toNat_lt]
    exact ⟨by simp; omega, by simpa using small⟩
  have nesting : (document ack.payload).nesting ≤ 3 :=
    (nesting_document (n := 0) (by simp [IngressAck.payload, Json.nesting])).trans (by decide)
  have loaded : Json.loadsHooked python.loadsTooDeep python.floatRepr
      ((document ack.payload).compact quoteRaw) =
        .ok (.object (ack.payload.map fun f => (str f.1, f.2))) :=
    Json.loadsHooked_of_loads (shallow _ nesting).1
      (Json.loads_compact python.floatRepr readable.exact) readable.unique
  have version : Json.field (ack.payload.map fun f => (str f.1, f.2)) (str "protocol_version") =
      some (.int 1) :=
    field_document plain.distinct (by simp [IngressAck.payload])
  have status : Json.field (ack.payload.map fun f => (str f.1, f.2)) (str "status") =
      some (.string (str ack.status.name)) :=
    field_document plain.distinct (by simp [IngressAck.payload])
  have session := textAt_document same plain "session_id" (by simp [IngressAck.payload]; rfl)
  have digest := textAt_document same plain "payload_digest" (by simp [IngressAck.payload]; rfl)
  have written : (UntypedAck.ofAck ack).toWire = .ok (dump ack.payload) :=
    toWire_ofAck.mpr (IngressAck.toWire_iff.mpr ⟨isValid, rfl⟩)
  rw [fromWire, if_neg size, decoded]
  simp only [loaded]
  rw [ofFields, if_neg (not_not.mpr (ThreatHint.Python.ObservableBundle.sameKeys_document same)), version,
    if_neg (by simp [isProtocolVersion]), status, ackStatus_name, session, digest]
  simp only []
  rw [show (⟨ack.status, .string ack.sessionId, ack.payloadDigest⟩ : UntypedAck) = .ofAck ack from
    rfl, written]
  simp

/-- An ack has a wire that reads back as the ack if and only if its identifiers are valid. -/
theorem UntypedAck.reads_back_iff {python : Interpreter} (shallow : python.Shallow)
    {detect : Bytes → Option Str} {ack : IngressAck} :
    (∃ response, (UntypedAck.ofAck ack).toWire = .ok response ∧
        UntypedAck.fromWire python detect response = .ok (.ofAck ack)) ↔
      ack.hasValidIdentifiers = true := by
  constructor
  · intro h
    obtain ⟨response, written, -⟩ := h
    exact (IngressAck.toWire_iff.mp (toWire_ofAck.mp written)).1
  · intro isValid
    exact ⟨_, toWire_ofAck.mpr (IngressAck.toWire_iff.mpr ⟨isValid, rfl⟩),
      fromWire_dump shallow isValid⟩

end Python

/-! ## What the collector raises -/

section

variable {codec : BallotCodec}

theorem isHex32_eq (s : Str) : isHex32 s = isHash s := by
  rw [isHex32, isHash]
  rfl

/-- The session of a context has a digest for its id. -/
theorem Python.BallotContext.isHash_sessionId (digestLength : ∀ bytes, (codec.sha256 bytes).length = 32)
    (context : Python.BallotContext codec) : isHash context.session.sessionId = true := by
  obtain ⟨_, _, _, _, _, created⟩ := context.created
  unfold BallotSession.create at created
  split at created
  · cases created
  split at created
  · cases created
  split at created
  · cases created
  rw [← Option.some.inj created]
  exact isHash_hex (digestLength _)

variable {envelope : SignedGuardianBallot} {candidate : EnsembleCandidate}
  {snapshot : MembershipSnapshot} {session : BallotSession} {nowMs : Int} {wire : Bytes}
  {file : ReplayLedger}

theorem verify_iff {vote : GuardianVote} :
    verify codec envelope candidate snapshot session nowMs = .ok vote ↔
      Verified codec envelope candidate snapshot session nowMs ∧ vote = envelope.toVote := by
  constructor
  · exact verify_ok
  · intro h
    obtain ⟨verified, rfl⟩ := h
    unfold verify
    exact if_pos ⟨verified.time, verified.valid, verified.shape, verified.bound, verified.fresh,
      verified.vote, verified.signed⟩

theorem verify_error {e : BallotError}
    (raised : verify codec envelope candidate snapshot session nowMs = .error e) :
    e = .verification := by
  unfold verify at raised
  split at raised
  · cases raised
  · exact (Except.error.inj raised).symm

theorem advanceTime_error {e : BallotError} : advanceTime nowMs file = .error e ↔
    (file.highWaterMs = none ∧ e = .format) ∨
      ∃ stored, file.highWaterMs = some stored ∧ nowMs < stored ∧ e = .replay := by
  simp only [advanceTime, Tx.bind_error, Tx.query_error, Tx.query_ok, Tx.orRaise_error,
    Tx.orRaise_ok, Tx.ensure_error, Tx.ensure_ok, Tx.modify_error, decide_eq_false_iff_not, not_le,
    false_or, or_false, and_false, exists_false]
  constructor
  · intro h
    obtain ⟨row, _, ⟨rfl, rfl⟩, ⟨missing, rfl⟩ | ⟨stored, _, ⟨isStored, rfl⟩, earlier, rfl⟩⟩ := h
    · exact .inl ⟨missing, rfl⟩
    · exact .inr ⟨stored, isStored, earlier, rfl⟩
  · intro h
    obtain ⟨missing, rfl⟩ | ⟨stored, isStored, earlier, rfl⟩ := h
    · exact ⟨_, _, ⟨rfl, rfl⟩, .inl ⟨missing, rfl⟩⟩
    · exact ⟨_, _, ⟨rfl, rfl⟩, .inr ⟨stored, _, ⟨isStored, rfl⟩, earlier, rfl⟩⟩

theorem insertBallot_error {row : AcceptedBallot} {e : BallotError} :
    insertBallot row file = .error e ↔ file.acceptedBallots.insert row = none ∧ e = .replay := by
  simp only [insertBallot, Tx.bind_error, Tx.query_error, Tx.query_ok, Tx.orRaise_error,
    Tx.orRaise_ok, Tx.modify_error, false_or, or_false, and_false, exists_false]
  constructor
  · intro h
    obtain ⟨_, _, ⟨rfl, rfl⟩, refused, rfl⟩ := h
    exact ⟨refused, rfl⟩
  · intro h
    obtain ⟨refused, rfl⟩ := h
    exact ⟨_, _, ⟨rfl, rfl⟩, refused, rfl⟩

/-- The transaction of `consume` raises for a missing clock, or refuses a replay. -/
theorem consumeBody_error {row : AcceptedBallot} {e : BallotError} :
    (do advanceTime nowMs; insertBallot row : Tx ReplayLedger BallotError Unit) file = .error e ↔
      (file.highWaterMs = none ∧ e = .format) ∨ (RefusesReplay file row nowMs ∧ e = .replay) := by
  rw [Tx.bind_error, advanceTime_error]
  simp only [insertBallot_error, advanceTime_ok]
  constructor
  · intro h
    obtain (missing | ⟨stored, isStored, earlier, rfl⟩) |
      ⟨_, _, ⟨⟨stored, isStored, -⟩, rfl⟩, refused, rfl⟩ := h
    · exact .inl missing
    · exact .inr ⟨⟨stored, isStored, .inl earlier⟩, rfl⟩
    · exact .inr ⟨⟨stored, isStored, .inr refused⟩, rfl⟩
  · intro h
    obtain missing | ⟨⟨stored, isStored, refused⟩, rfl⟩ := h
    · exact .inl (.inl missing)
    by_cases earlier : nowMs < stored
    · exact .inl (.inr ⟨stored, isStored, earlier, rfl⟩)
    · exact .inr ⟨(), _, ⟨⟨stored, isStored, not_lt.mp earlier⟩, rfl⟩,
        refused.resolve_left earlier, rfl⟩

variable {fields : List (Str × Json)}

/-- What `accept_wire` raises for a verified ballot. -/
theorem acceptWire_verified {fault : Bool} (parsed : Python.fromWireFields codec wire = .ok fields)
    (isVerified : IsVerified codec fields wire candidate snapshot session nowMs envelope)
    {e : BallotError} :
    (acceptWire codec wire candidate snapshot session nowMs fault file).1 = .error e ↔
      (fault = true ∧ e = .sqlite) ∨ (fault = false ∧
        ((file.highWaterMs = none ∧ e = .format) ∨
          (RefusesReplay file (acceptedRow envelope session wire nowMs) nowMs ∧ e = .replay))) := by
  obtain ⟨typed, isWire, verified⟩ := isVerified
  have frame : verifyWire codec wire candidate snapshot session nowMs =
      .ok (envelope, envelope.toVote) := by
    rw [verifyWire, fromWire_eq, parsed]
    simp only [Except.map, typed, verify_iff.mpr ⟨verified, rfl⟩]
  have checked : isTimestamp nowMs ∧ isValidSessionShape codec session ∧
      envelope.sessionId = session.sessionId ∧ envelope.toWire = wire :=
    ⟨verified.time, verified.sessionShape, verified.sessionId, isWire⟩
  rw [acceptWire, frame]
  simp only [consume, if_pos checked, runTransaction]
  cases fault with
  | true => simp [Except.map, eq_comm]
  | false =>
    simp only [Bool.false_eq_true, if_false, false_and, false_or, true_and]
    rw [← consumeBody_error, transact]
    cases ran : (do advanceTime nowMs; insertBallot (acceptedRow envelope session wire nowMs) :
        Tx ReplayLedger BallotError Unit) file with
    | ok done => simp [Except.map]
    | error raised => simp [Except.map]

/-- What `accept_wire` raises for any other ballot. -/
theorem acceptWire_unverified {fault : Bool} (parsed : Python.fromWireFields codec wire = .ok fields)
    (notVerified : ¬ ∃ envelope,
      IsVerified codec fields wire candidate snapshot session nowMs envelope) :
    ∃ e, (acceptWire codec wire candidate snapshot session nowMs fault file).1 = .error e ∧
      (e = .format ∨ e = .verification) := by
  unfold acceptWire verifyWire
  rw [fromWire_eq, parsed]
  cases typed : envelopeOfFields fields with
  | none =>
    simp only [Except.map, typed]
    exact ⟨_, rfl, .inr rfl⟩
  | some envelope =>
    simp only [Except.map, typed]
    cases outcome : verify codec envelope candidate snapshot session nowMs with
    | error e => exact ⟨e, rfl, .inr (verify_error outcome)⟩
    | ok vote =>
      have notWire : envelope.toWire ≠ wire := by
        intro isWire
        exact notVerified ⟨envelope, typed, isWire, (verify_iff.mp outcome).1⟩
      simp only [consume, notWire, and_false, if_false]
      exact ⟨_, rfl, .inl rfl⟩

end

/-! ## When a ballot is answered -/

/-- The request gets a response, and the response reads back as the ack. -/
def Answered (python : Interpreter) (detect : Bytes → Option Str)
    (outcome : Except Python.ProcessError Python.UntypedAck) : Prop :=
  ∃ ack response, outcome = .ok ack ∧ ack.toWire = .ok response ∧
    Python.UntypedAck.fromWire python detect response = .ok ack

section

variable {python : Interpreter} (shallow : python.Shallow) {detect : Bytes → Option Str}

theorem answered_error {e : Python.ProcessError} : ¬ Answered python detect (.error e) := by
  intro h
  obtain ⟨_, _, impossible, -⟩ := h
  cases impossible

/-- A session id that is no text does not read back. -/
theorem answered_untyped {ack : Python.UntypedAck} (untyped : ∀ s, ack.sessionId ≠ .string s) :
    ¬ Answered python detect (.ok ack) := by
  intro h
  obtain ⟨_, response, same, -, read⟩ := h
  obtain rfl := Except.ok.inj same
  obtain ⟨s, isText⟩ := Python.UntypedAck.fromWire_text read
  exact untyped s isText

include shallow

theorem answered_text {status : IngressStatus} {sessionId payloadDigest : Str} :
    Answered python detect (.ok ⟨status, .string sessionId, payloadDigest⟩) ↔
      (⟨status, sessionId, payloadDigest⟩ : Python.IngressAck).hasValidIdentifiers = true := by
  rw [← Python.UntypedAck.reads_back_iff shallow]
  constructor
  · intro h
    obtain ⟨_, response, same, written, read⟩ := h
    obtain rfl := Except.ok.inj same
    exact ⟨response, written, read⟩
  · intro h
    obtain ⟨response, written, read⟩ := h
    exact ⟨_, response, rfl, written, read⟩

variable {digest : Bytes} (digestLength : digest.length = 32)

include digestLength

theorem answered_rejected {sessionId : Str} :
    Answered python detect (.ok ⟨.rejected, .string sessionId, hex digest⟩) ↔
      IsIdentifier sessionId := by
  rw [answered_text shallow, Python.IngressAck.hasValidIdentifiers_iff]
  constructor
  · intro h
    exact h.1
  · intro isIdentifier
    exact ⟨isIdentifier, .inr (isHash_hex digestLength), trivial⟩

/-- An ack for a known session is answered, whatever its status but `busy`. -/
theorem answered_known {status : IngressStatus} (notBusy : status ≠ .busy) {sessionId : Str}
    (isHex : isHash sessionId = true) :
    Answered python detect (.ok ⟨status, .string sessionId, hex digest⟩) := by
  have nonempty {s : Str} (h : isHash s = true) : s ≠ [] := by
    rintro rfl
    cases h
  have isDigest := isHash_hex digestLength
  exact (answered_text shallow).mpr (Python.IngressAck.hasValidIdentifiers_iff.mpr
    ⟨.inr isHex, .inr isDigest, .of_present notBusy (nonempty isHex) (nonempty isDigest)⟩)

end

section

variable {codec : BallotCodec} (digestLength : ∀ bytes, (codec.sha256 bytes).length = 32)
  {python : Interpreter} (shallow : python.Shallow) {detect : Bytes → Option Str}
  {contexts : List (Python.BallotContext codec)} {faults : Python.BallotFaults} {wire : Bytes}
  {nowMs : Int} {file : ReplayLedger} {fields : List (Str × Json)}

theorem databaseRaises_iff {s : Str} {context : Python.BallotContext codec}
    {envelope : SignedGuardianBallot}
    (isSession : Json.field fields (str "session_id") = some (.string s))
    (isKnown : Python.getContext contexts (.string s) = .ok (some context))
    (isVerified : IsVerified codec fields wire context.candidate context.snapshot context.session
      nowMs envelope) :
    DatabaseRaises contexts faults wire nowMs file fields ↔
      faults.consume = true ∨ faults.sessionWires = true ∧
        RefusesReplay file (acceptedRow envelope context.session wire nowMs) nowMs := by
  constructor
  · intro h
    obtain ⟨s', context', envelope', isSession', isKnown', isVerified', fails⟩ := h
    obtain rfl := Json.string.inj (Option.some.inj (isSession'.symm.trans isSession))
    obtain rfl := Option.some.inj (Except.ok.inj (isKnown'.symm.trans isKnown))
    obtain rfl := Option.some.inj (isVerified'.1.symm.trans isVerified.1)
    exact fails
  · intro fails
    exact ⟨s, context, envelope, isSession, isKnown, isVerified, fails⟩

include digestLength shallow

theorem answered_replay {s : Str} (isHex : isHash s = true) :
    Answered python detect
        (Python.answerReplay faults wire (codec.sha256 wire) (.string s) file) ↔
      faults.sessionWires = false := by
  have digest := digestLength wire
  rw [Python.answerReplay, containsWire, sessionWires,
    if_neg (by simp [isHex32_eq, Json.asString, isHex])]
  cases faults.sessionWires with
  | true => exact iff_of_false answered_error (by simp)
  | false =>
    refine iff_of_true ?_ rfl
    simp only [Bool.false_eq_true, if_false, Except.map]
    split
    · rename_i impossible
      cases impossible
    · exact answered_known shallow digest (by decide) isHex
    · exact answered_known shallow digest (by decide) isHex

omit shallow in
theorem getContext_known {s : Str} {context : Python.BallotContext codec}
    (isKnown : Python.getContext contexts (.string s) = .ok (some context)) :
    isHash s = true := by
  have found := List.find?_some (Except.ok.inj isKnown)
  have isKey : context.session.sessionId = s := of_decide_eq_true found
  exact isKey ▸ context.isHash_sessionId digestLength

/-- For a known session the answer is missing only where `sqlite3` raises. -/
theorem answered_collector {s : Str} {context : Python.BallotContext codec}
    (parsed : Python.fromWireFields codec wire = .ok fields)
    (isSession : Json.field fields (str "session_id") = some (.string s))
    (isKnown : Python.getContext contexts (.string s) = .ok (some context)) :
    Answered python detect
        (Python.answerCollector faults wire (codec.sha256 wire) (.string s)
          (acceptWire codec wire context.candidate context.snapshot context.session nowMs
            faults.consume file).2
          (acceptWire codec wire context.candidate context.snapshot context.session nowMs
            faults.consume file).1) ↔
      ¬ DatabaseRaises contexts faults wire nowMs file fields := by
  have isHex := getContext_known digestLength isKnown
  have digest := digestLength wire
  have rejected : Answered python detect (.ok ⟨.rejected, .string [], hex (codec.sha256 wire)⟩) :=
    (answered_rejected shallow digest).mpr (.inl rfl)
  by_cases verified : ∃ envelope, IsVerified codec fields wire context.candidate context.snapshot
      context.session nowMs envelope
  · obtain ⟨envelope, isVerified⟩ := verified
    rw [databaseRaises_iff isSession isKnown isVerified]
    have outcomes {e : BallotError} : (acceptWire codec wire context.candidate context.snapshot
        context.session nowMs faults.consume file).1 = .error e ↔ _ :=
      acceptWire_verified parsed isVerified
    cases outcome : (acceptWire codec wire context.candidate context.snapshot context.session nowMs
        faults.consume file).1 with
    | ok vote =>
      rw [outcome] at outcomes
      refine iff_of_true (answered_known shallow digest (by decide) isHex) ?_
      intro raises
      cases consume : faults.consume with
      | true => cases outcomes.mpr (.inl ⟨consume, rfl⟩)
      | false =>
        obtain impossible | ⟨-, refuses⟩ := raises
        · rw [consume] at impossible
          cases impossible
        · cases outcomes.mpr (.inr ⟨consume, .inr ⟨refuses, rfl⟩⟩)
    | error e =>
      obtain ⟨consume, rfl⟩ | ⟨consume, ⟨missing, rfl⟩ | ⟨refuses, rfl⟩⟩ := outcomes.mp outcome
      · exact iff_of_false answered_error (not_not.mpr (.inl consume))
      · refine iff_of_true rejected ?_
        rw [consume]
        intro raises
        obtain impossible | ⟨-, stored, isStored, -⟩ := raises
        · cases impossible
        · rw [missing] at isStored
          cases isStored
      · rw [Python.answerCollector, answered_replay digestLength shallow isHex, consume]
        simp [refuses]
  · obtain ⟨e, refused, own⟩ := acceptWire_unverified parsed verified
    rw [refused]
    refine iff_of_true ?_ ?_
    · obtain rfl | rfl := own
      · exact rejected
      · exact rejected
    · intro h
      obtain ⟨s', context', envelope, isSession', isKnown', isVerified, -⟩ := h
      obtain rfl := Json.string.inj (Option.some.inj (isSession'.symm.trans isSession))
      obtain rfl := Option.some.inj (Except.ok.inj (isKnown'.symm.trans isKnown))
      exact verified ⟨envelope, isVerified⟩

end

section

variable {sha256 : Bytes → Bytes} (digestLength : ∀ bytes, (sha256 bytes).length = 32)
  {python : Interpreter} (shallow : python.Shallow) (isPublicKey : Bytes → Bool)
  (verify : Bytes → Bytes → Bytes → Bool) (detect : Bytes → Option Str)
  (contexts : List (Python.BallotContext (Python.ballotCodec sha256 python isPublicKey verify)))
  (faults : Python.BallotFaults) (wire : Bytes) (nowMs : Int) (file : ReplayLedger)

include digestLength shallow

/-- A ballot is answered by an ack that reads back, unless it is one of the unanswered. -/
theorem ballot_ingress_answers_iff :
    Answered python detect (Python.processBallot contexts faults wire nowMs file).1 ↔
      ¬ Unanswered sha256 python isPublicKey verify contexts faults wire nowMs file := by
  rw [unanswered_iff]
  by_cases size : wire = [] ∨ maxBallotWireBytes < wire.length
  · have unparsed : Python.fromWireFields
        (Python.ballotCodec sha256 python isPublicKey verify) wire = .error .format := if_pos size
    rw [Python.processBallot, if_pos size, unparsed]
    refine iff_of_true ((answered_rejected shallow (digestLength wire)).mpr (.inl rfl)) ?_
    simp [BallotError.isTransport]
  · cases parsed : Python.fromWireFields
        (Python.ballotCodec sha256 python isPublicKey verify) wire with
    | error e =>
      rw [Python.processBallot, if_neg size, parsed]
      cases transport : e.isTransport with
      | true =>
        simp only [transport, if_true]
        refine iff_of_true ((answered_rejected shallow (digestLength wire)).mpr (.inl rfl)) ?_
        simp [transport]
      | false =>
        simp only [transport, Bool.false_eq_true, if_false]
        refine iff_of_false answered_error (not_not.mpr (.inl ⟨e, rfl, transport⟩))
    | ok fields =>
      rw [Python.processBallot, if_neg size, parsed]
      simp only [reduceCtorEq, false_and, exists_false, false_or, Except.ok.injEq, exists_eq_left',
        not_or, not_not]
      by_cases isText : ∃ s, Json.field fields (str "session_id") = some (.string s)
      · obtain ⟨s, isSession⟩ := isText
        have identifier : HasIdentifier fields ↔ IsIdentifier s := by
          constructor
          · intro h
            obtain ⟨s', isSession', isIdentifier⟩ := h
            obtain rfl := Json.string.inj (Option.some.inj (isSession'.symm.trans isSession))
            exact isIdentifier
          · intro isIdentifier
            exact ⟨s, isSession, isIdentifier⟩
        rw [identifier]
        simp only [isSession, Option.getD_some]
        cases isKnown : Python.getContext contexts (.string s) with
        | error e => cases isKnown
        | ok found =>
          cases found with
          | none =>
            have quiet : ¬ DatabaseRaises contexts faults wire nowMs file fields := by
              intro h
              obtain ⟨s', context, _, isSession', isKnown', -⟩ := h
              obtain rfl := Json.string.inj (Option.some.inj (isSession'.symm.trans isSession))
              rw [isKnown] at isKnown'
              cases isKnown'
            rw [and_iff_left quiet]
            exact answered_rejected shallow (digestLength wire)
          | some context =>
            rw [and_iff_right (.inr (getContext_known digestLength isKnown))]
            exact answered_collector digestLength shallow parsed isSession isKnown
      · have noIdentifier : ¬ HasIdentifier fields := by
          intro h
          obtain ⟨s, isSession, -⟩ := h
          exact isText ⟨s, isSession⟩
        refine iff_of_false ?_ fun h => noIdentifier h.1
        cases isSession : Json.field fields (str "session_id") with
        | none => exact answered_untyped nofun
        | some value =>
          cases value with
          | string s => exact (isText ⟨s, isSession⟩).elim
          | array items => exact answered_error
          | object fields => exact answered_error
          | _ => exact answered_untyped nofun

end

/-! ## A ballot that is not answered -/

/-- The fields of an envelope, all of them `0` but the session id. -/
def zeroBallot (sessionId : Json) : Json :=
  .object (envelopeFields.map fun key =>
    (key, if key = str "session_id" then sessionId else .int 0))

/-- The libraries with no valid key. -/
abbrev keylessCodec : BallotCodec :=
  Python.ballotCodec Codec.sha256 baseInterpreter (fun _ => false) fun _ _ _ => false

/-- An ingress without sessions. -/
def noContexts : List (Python.BallotContext keylessCodec) := []

theorem ballot_ingress_answers_iff_base :
    Answered baseInterpreter (fun _ => none)
      (Python.processBallot noContexts ⟨false, false⟩ [0] 0 .fresh).1 := by
  refine (ballot_ingress_answers_iff length_sha256 baseInterpreter_shallow _ _ _ noContexts _ _ _
    _).mpr ?_
  rw [unanswered_iff, show Python.fromWireFields _ [0] = .error .format from rfl]
  simp [BallotError.isTransport]

/-- The session id is a list. -/
theorem listed_session_unanswered :
    ¬ ∀ wire nowMs, Answered baseInterpreter (fun _ => none)
      (Python.processBallot noContexts ⟨false, false⟩ wire nowMs .fresh).1 := by
  intro answers
  obtain ⟨ack, _, answered, -⟩ := answers (zeroBallot (.array [])).dumps 0
  have raised : (Python.processBallot noContexts ⟨false, false⟩ (zeroBallot (.array [])).dumps 0
      .fresh).1.toOption.isNone = true := by
    decide +kernel
  rw [answered] at raised
  cases raised

end Prometheus.Ingress
