import Prometheus.Ingress.Ack
import Prometheus.Jaeger.ThreatHintReplay.Suppression
import Prometheus.ThreatHint.V1Envelope

/-!
# The ingress of version 1 hints

`ThreatHintIngress.process` of `threat_hint_ingress.py`: the parser, the freshness check, the proof
verifier and the replay ledger in a row, with the exceptions that `process` catches and those that
leave it. The verifier, the recursion limit and the faults of `sqlite3` are parameters.
-/

namespace Prometheus.Ingress

open Prometheus.Codec Prometheus.Machine Prometheus.ThreatHint
open Prometheus.Jaeger.ThreatHintReplay
open Prometheus.ThreatHint.Python (FromWireError isMember indicatorTypes proofSystems sameKeys)
open Prometheus.ThreatHint.Python.CanonicalThreatHint (HasFields ReadsFlat fieldNames fromWire)

namespace Python

/-- `ThreatProofVerifier.verify`: a value that is `True` or is not, or
`ThreatProofVerifierUnavailable`, the one exception of the verifiers. -/
inductive Verification
  | returned (isTrue : Bool)
  | unavailable
  deriving DecidableEq, Repr

/-- What `sqlite3` does to an admission: whether its first or its second connection raises, and
whether the exception is an `OperationalError`. -/
structure SqliteFault where
  first : Bool
  second : Bool
  operational : Bool

/-- What leaves `process`: the `TypeError` of a value that cannot be hashed, what `json.loads`
raises beyond a `JSONDecodeError`, the error of a parameter that `sqlite3` cannot bind, or the
`ValueError` of an integer that is too long to print. -/
inductive Escaped
  | typeError
  | load (error : LoadError)
  | binding
  | value
  deriving DecidableEq, Repr

/-- The proof system that `process` goes on with. -/
def groth16 : Str := str "groth16_kip16_v1"

section

variable (sha256 : Bytes → Bytes) (tooDeep : Str → Bool) (floatRepr : Str → Str)
  (verify : CanonicalThreatHint → Bytes → Verification) (networkId : Str) (fault : SqliteFault)

/-- The answer to what `admit` returns or raises. -/
def answerAdmission (digest : Str) :
    Except HintError AdmissionStatus → Except Escaped (HintAck IngressStatus)
  | .ok .accepted => .ok ⟨.accepted, digest⟩
  | .ok .duplicate => .ok ⟨.duplicate, digest⟩
  | .ok .rejected => .ok ⟨.rejected, digest⟩
  | .error .replay => .ok ⟨.rejected, digest⟩
  | .error .sqlite => if fault.operational then .ok ⟨.busy, []⟩ else .ok ⟨.rejected, digest⟩
  | .error .ingress => .ok ⟨.rejected, digest⟩
  | .error .integrity => .ok ⟨.rejected, digest⟩
  | .error .binding => .error .binding
  | .error .value => .error .value

/-- `process`. -/
def process (wire : Bytes) (nowSeconds : Int) (file : HintLedger) :
    Except Escaped (HintAck IngressStatus) × HintLedger :=
  let digest := hex (sha256 wire)
  match fromWire tooDeep floatRepr wire with
  | .error (.ingress _) => (.ok ⟨.rejected, digest⟩, file)
  | .error .unhashable => (.error .typeError, file)
  | .error (.load error) => (.error (.load error), file)
  | .ok envelope =>
    if ¬ isFresh envelope nowSeconds then (.ok ⟨.rejected, digest⟩, file)
    else if envelope.proofSystem ≠ groth16 then (.ok ⟨.rejected, digest⟩, file)
    else
      match verify envelope wire with
      | .unavailable => (.ok ⟨.busy, []⟩, file)
      | .returned false => (.ok ⟨.rejected, digest⟩, file)
      | .returned true =>
        let (admission, file') :=
          admitHint sha256 envelope wire networkId nowSeconds fault.first fault.second file
        (answerAdmission fault digest admission, file')

end

end Python

/-! ## The wires that are not answered -/

section

variable (tooDeep : Str → Bool) (floatRepr : Str → Str)

/-- `json.loads` raises something else than a `JSONDecodeError`: the text nests too deep, or an
integer in it is too long. -/
def IsUnloadable (wire : Bytes) : Prop :=
  ∃ text e, (wire ≠ [] ∧ wire.length ≤ maxThreatHintWireBytes) ∧ decodeAscii wire = some text ∧
    Json.loadsBounded tooDeep floatRepr text = .error e ∧ e ≠ .decodeError

/-- A list or an object. -/
def IsUnhashable (value : Option Json) : Prop :=
  (∃ items, value = some (.array items)) ∨ ∃ fields, value = some (.object fields)

/-- The object has the keys of a hint, a valid version, hash and confidence, and a list or an object
for its indicator type, or for its proof system behind a valid indicator type. -/
structure HasUnhashable (fields : List (Str × Json)) : Prop where
  keys : sameKeys fields fieldNames = true
  schemaVersion : Json.field fields (str "schema_version") = some (.int 1)
  threatHash : ∃ s, Json.field fields (str "threat_hash") = some (.string s) ∧ isHash s = true
  confidenceBps : ∃ n, Json.field fields (str "confidence_bps") = some (.int n) ∧ 1 ≤ n ∧ n ≤ 10000
  member : IsUnhashable (Json.field fields (str "indicator_type")) ∨
    (∃ s ∈ indicatorTypes.map str, Json.field fields (str "indicator_type") = some (.string s)) ∧
      IsUnhashable (Json.field fields (str "proof_system"))

/-- The wire is the JSON text of such an object. -/
def IsUnhashableWire (wire : Bytes) : Prop :=
  ∃ text fields, (wire ≠ [] ∧ wire.length ≤ maxThreatHintWireBytes) ∧
    decodeAscii wire = some text ∧
    Json.loadsBounded tooDeep floatRepr text = .ok (.object fields) ∧
    (Json.object fields).uniqueKeys = true ∧ HasUnhashable fields

/-- A hint that reaches the ledger and expires beyond the integers of `sqlite3`. -/
structure Overflows (verify : CanonicalThreatHint → Bytes → Python.Verification)
    (fault : Python.SqliteFault) (wire : Bytes) (nowSeconds : Int) (file : HintLedger)
    (hint : CanonicalThreatHint) : Prop where
  fields : HasFields hint
  observedAt : hint.observedAt ≤ maxSqliteInt
  isWire : dump (Python.CanonicalThreatHint.payload hint) = wire
  bounded : wire.length ≤ maxThreatHintWireBytes
  fresh : isFresh hint nowSeconds = true
  proofSystem : hint.proofSystem = Python.groth16
  verified : verify hint wire = .returned true
  reachable : fault.first = false
  clock : ClockAccepts nowSeconds file
  expiry : maxSqliteInt < hint.observedAt + maxHintAgeSeconds

end

/-! ## What the parser raises -/

section

variable {tooDeep : Str → Bool} {floatRepr : Str → Str} {fields : List (Str × Json)}

/-- A check raises its own error only. -/
theorem checked_error {α : Type} {value : Option α} {valid : α → Bool} {message : String}
    {e : FromWireError} :
    Python.CanonicalThreatHint.checked value valid message = .error e ↔
      e = .ingress message ∧ ∀ a, value = some a → valid a = false := by
  cases value with
  | none =>
    simp only [Python.CanonicalThreatHint.checked, Except.error.injEq, reduceCtorEq, false_implies,
      implies_true, and_true]
    exact eq_comm
  | some a =>
    cases isValid : valid a with
    | true => simp [Python.CanonicalThreatHint.checked, isValid]
    | false =>
      simp only [Python.CanonicalThreatHint.checked, isValid, Bool.false_eq_true, if_false,
        Except.error.injEq, Option.some.injEq, forall_eq', and_true]
      exact eq_comm

theorem isMember_error {members : List String} {value : Json} {e : FromWireError} :
    isMember members value = .error e ↔ IsUnhashable (some value) ∧ e = .unhashable := by
  cases value <;> simp [isMember, IsUnhashable, eq_comm]

/-- A member raises its own error, or that of a value that cannot be hashed. -/
theorem member_unhashable {key : String} {members : List String} {message : String} :
    Python.CanonicalThreatHint.member fields key members message = .error .unhashable ↔
      IsUnhashable (Json.field fields (str key)) := by
  unfold Python.CanonicalThreatHint.member
  cases Json.field fields (str key) with
  | none => simp [IsUnhashable]
  | some value =>
    simp only [bind_eq_error, isMember_error, and_true]
    constructor
    · intro h
      obtain unhashable | ⟨found, -, raised⟩ := h
      · exact unhashable
      · cases (checked_error.mp raised).1
    · exact .inl

/-- `_validate` raises a `TypeError` for the two members only. -/
theorem validate_unhashable (keys : sameKeys fields fieldNames = true) :
    Python.CanonicalThreatHint.validate fields = .error .unhashable ↔ HasUnhashable fields := by
  have asText (key : String) (s : Str) :
      Json.textAt fields key = some s ↔ Json.field fields (str key) = some (.string s) :=
    Python.asString_some
  have asInt (key : String) (i : Int) :
      Json.intAt fields key = some i ↔ Json.field fields (str key) = some (.int i) :=
    Python.asInt_some
  simp only [Python.CanonicalThreatHint.validate, bind_eq_error, checked_error, member_unhashable, Python.CanonicalThreatHint.checked_ok,
    Python.CanonicalThreatHint.member_ok, asText, asInt, Python.CanonicalThreatHint.isHex32_eq,
    decide_eq_true_eq, Bool.and_eq_true, false_or, false_and, and_false, exists_const, or_false,
    reduceCtorEq]
  constructor
  · intro h
    obtain ⟨version, ⟨isVersion, rfl⟩, hash, isHash, confidence, isConfidence, member⟩ := h
    refine ⟨keys, isVersion, ⟨hash, isHash⟩, ⟨confidence, isConfidence⟩, ?_⟩
    obtain indicator | ⟨indicator, ⟨isIndicator, listed⟩, system⟩ := member
    · exact .inl indicator
    · exact .inr ⟨⟨indicator, listed, isIndicator⟩, system⟩
  · intro h
    obtain ⟨-, isVersion, ⟨hash, isHash⟩, ⟨confidence, isConfidence⟩, member⟩ := h
    refine ⟨1, ⟨isVersion, rfl⟩, hash, isHash, confidence, isConfidence, ?_⟩
    obtain indicator | ⟨⟨indicator, listed, isIndicator⟩, system⟩ := member
    · exact .inl indicator
    · exact .inr ⟨indicator, ⟨isIndicator, listed⟩, system⟩

theorem member_error {key : String} {members : List String} {message : String} {e : FromWireError}
    (h : Python.CanonicalThreatHint.member fields key members message = .error e) :
    e = .unhashable ∨ e = .ingress message := by
  unfold Python.CanonicalThreatHint.member at h
  cases found : Json.field fields (str key) with
  | none =>
    rw [found] at h
    exact .inr (Except.error.inj h).symm
  | some value =>
    simp only [found, bind_eq_error, isMember_error, checked_error] at h
    obtain ⟨-, unhashable⟩ | ⟨_, -, own, -⟩ := h
    · exact .inl unhashable
    · exact .inr own

/-- `_validate` raises no error of `json.loads`. -/
theorem validate_load {error : LoadError} :
    Python.CanonicalThreatHint.validate fields ≠ .error (.load error) := by
  have members {key : String} {names : List String} {message : String} :
      Python.CanonicalThreatHint.member fields key names message ≠ .error (.load error) := by
    intro raised
    obtain impossible | impossible := member_error raised <;> cases impossible
  simp [Python.CanonicalThreatHint.validate, bind_eq_error, checked_error, members]

/-- What the decoder returns and raises. -/
theorem decode_iff (tooDeep : Str → Bool) (floatRepr : Str → Str) (wire : Bytes) (error : LoadError)
    (decoded : Json) :
    (Python.CanonicalThreatHint.decode tooDeep floatRepr wire = .error (.load error) ↔
      ∃ text, decodeAscii wire = some text ∧
        Json.loadsBounded tooDeep floatRepr text = .error error ∧ error ≠ .decodeError) ∧
    (Python.CanonicalThreatHint.decode tooDeep floatRepr wire = .ok decoded ↔
      ∃ text, decodeAscii wire = some text ∧
        Json.loadsBounded tooDeep floatRepr text = .ok decoded ∧ decoded.uniqueKeys = true) ∧
    Python.CanonicalThreatHint.decode tooDeep floatRepr wire ≠ .error .unhashable := by
  unfold Python.CanonicalThreatHint.decode
  cases decodeAscii wire with
  | none => simp
  | some text =>
    cases loaded : Json.loadsBounded tooDeep floatRepr text with
    | error e => cases e <;> simp [loaded] <;> grind
    | ok value => cases unique : value.uniqueKeys <;> simp [loaded, unique] <;> grind

theorem fromWire_load {wire : Bytes} :
    (∃ error, fromWire tooDeep floatRepr wire = .error (.load error)) ↔
      IsUnloadable tooDeep floatRepr wire := by
  have loads (error : LoadError) := (decode_iff tooDeep floatRepr wire error .null).1
  unfold fromWire IsUnloadable
  by_cases size : wire = [] ∨ maxThreatHintWireBytes < wire.length
  · rw [if_pos size]
    refine iff_of_false (by simp) ?_
    rintro ⟨_, _, ⟨nonempty, short⟩, _⟩
    exact size.elim nonempty (not_lt.mpr short)
  · rw [if_neg size]
    rw [not_or, not_lt] at size
    simp only [bind_eq_error, loads]
    constructor
    · intro h
      obtain ⟨error, ⟨text, isText, raised⟩ | ⟨decoded, -, raised⟩⟩ := h
      · exact ⟨text, error, size, isText, raised⟩
      · split at raised
        · simp only [ite_error_eq_error, bind_eq_error, validate_load, reduceCtorEq,
            and_false, false_or, exists_false] at raised
        · cases raised
    · intro h
      obtain ⟨text, error, -, isText, raised⟩ := h
      exact ⟨error, .inl ⟨text, isText, raised⟩⟩

theorem fromWire_unhashable {wire : Bytes} :
    fromWire tooDeep floatRepr wire = .error .unhashable ↔
      IsUnhashableWire tooDeep floatRepr wire := by
  unfold fromWire IsUnhashableWire
  by_cases size : wire = [] ∨ maxThreatHintWireBytes < wire.length
  · rw [if_pos size]
    refine iff_of_false (by simp) ?_
    rintro ⟨_, _, ⟨nonempty, short⟩, _⟩
    exact size.elim nonempty (not_lt.mpr short)
  · rw [if_neg size]
    rw [not_or, not_lt] at size
    have decodes (decoded : Json) := (decode_iff tooDeep floatRepr wire .valueError decoded).2.1
    simp only [bind_eq_error, (decode_iff tooDeep floatRepr wire .valueError .null).2.2, false_or,
      decodes]
    constructor
    · intro h
      obtain ⟨decoded, ⟨text, isText, loaded, unique⟩, raised⟩ := h
      split at raised
      · rename_i fields
        simp only [ite_error_eq_error, bind_eq_error, reduceCtorEq, and_false, false_or,
          not_not, exists_false, or_false] at raised
        obtain ⟨keys, raised⟩ := raised
        exact ⟨text, fields, size, isText, loaded, unique, (validate_unhashable keys).mp raised⟩
      · cases raised
    · intro h
      obtain ⟨text, fields, -, isText, loaded, unique, has⟩ := h
      refine ⟨_, ⟨text, isText, loaded, unique⟩, ?_⟩
      simp only [ite_error_eq_error, bind_eq_error, not_not]
      exact .inr ⟨has.keys, .inl ((validate_unhashable has.keys).mpr has)⟩

end

/-! ## What the ledger raises -/

section

variable {sha256 : Bytes → Bytes} {hint : CanonicalThreatHint} {wire : Bytes} {networkId : Str}
  {nowSeconds : Int} {file : HintLedger}

theorem isBindableText_of_isAscii {s : Str} (h : IsAscii s) : isBindableText s = true := by
  rw [isBindableText, List.all_eq_true]
  intro c hc
  have small := h c hc
  exact isScalar_iff.mpr (.inl (by omega))

/-- Of a valid hint, `sqlite3` cannot bind an expiry beyond its integers. -/
theorem admission_binding (fields : HasFields hint) (observedAt : hint.observedAt ≤ maxSqliteInt)
    (isNetwork : IsNetworkId networkId) :
    admission sha256 hint wire networkId nowSeconds file = .error .binding ↔
      ClockAccepts nowSeconds file ∧ maxSqliteInt < hint.observedAt + maxHintAgeSeconds := by
  have nonce := isBindableText_of_isAscii (isAscii_of_isHash fields.reportNonce)
  have hash := isBindableText_of_isAscii (isAscii_of_isHash fields.threatHash)
  have network := isBindableText_of_isAscii isNetwork.isAscii
  have time : isBindableInt hint.observedAt = true := by
    have positive := fields.observedAt.1
    rw [isBindableInt, Bool.and_eq_true, decide_eq_true_eq, decide_eq_true_eq]
    omega
  have expiry : isBindableInt (hint.observedAt + maxHintAgeSeconds) = false ↔
      maxSqliteInt < hint.observedAt + maxHintAgeSeconds := by
    have positive := fields.observedAt.1
    rw [isBindableInt, Bool.and_eq_false_iff, decide_eq_false_iff_not, decide_eq_false_iff_not,
      maxHintAgeSeconds]
    omega
  have clock : advanceTime nowSeconds file ≠ .error .binding := by
    intro raised
    obtain impossible | impossible := Jaeger.ThreatHintReplay.advanceTime_error raised <;> cases impossible
  simp only [admission, insertAdmission, insertJob, Tx.bind_error, Tx.bind_ok, Tx.modify_ok,
    Tx.modify_error, Tx.ensure_error, Tx.ensure_ok, Tx.query_ok, Tx.query_error, Tx.orRaise_ok,
    Tx.orRaise_error, clock, advanceTime_ok, admissionRow, outboxJob, nonce, hash, network, time,
    expiry, Bool.true_and, reduceCtorEq, and_false, false_or, or_false, exists_false, and_true]
  constructor
  · intro h
    obtain ⟨_, _, ⟨accepts, -⟩, _, _, -, beyond⟩ := h
    exact ⟨accepts, beyond⟩
  · intro h
    exact ⟨(), _, ⟨h.1, rfl⟩, (), _, rfl, h.2⟩

theorem admission_value :
    admission sha256 hint wire networkId nowSeconds file ≠ .error .value := by
  have clock : advanceTime nowSeconds file ≠ .error .value := by
    intro raised
    obtain impossible | impossible := Jaeger.ThreatHintReplay.advanceTime_error raised <;> cases impossible
  simp [admission, insertAdmission, insertJob, Tx.bind_error, Tx.modify_error, Tx.ensure_error,
    Tx.query_error, Tx.orRaise_error, clock]

theorem HasFields.isPrintable (fields : HasFields hint) : isPrintable hint = true := by
  have short {i : Int} (small : IsU64 i) : (decimal i.natAbs).length ≤ maxStrDigits := by
    obtain ⟨n, rfl⟩ := Int.eq_ofNat_of_zero_le small.1
    exact (length_int_le small).trans (by decide)
  have version := fields.schemaVersion
  have confidence := fields.confidenceBps
  have observedAt := fields.observedAt
  simp only [Jaeger.ThreatHintReplay.isPrintable, List.all_cons, List.all_nil, Bool.and_true,
    Bool.and_eq_true, decide_eq_true_eq]
  exact ⟨short (.of_le (by omega) (by omega)), short (.of_le (by omega) (by omega)),
    short ⟨by omega, observedAt.2⟩⟩

/-- Of what `admit` raises for a valid and fresh hint, only this leaves `process`. -/
theorem admit_escapes {fault lookupFault : Bool} (fields : HasFields hint)
    (observedAt : hint.observedAt ≤ maxSqliteInt) (isNetwork : IsNetworkId networkId)
    (isWire : hint.toWire = wire) (fresh : isFresh hint nowSeconds = true) :
    ((admitHint sha256 hint wire networkId nowSeconds fault lookupFault file).1 = .error .binding ∨
        (admitHint sha256 hint wire networkId nowSeconds fault lookupFault file).1 = .error .value) ↔
      fault = false ∧ ClockAccepts nowSeconds file ∧
        maxSqliteInt < hint.observedAt + maxHintAgeSeconds := by
  have isTime := (isFresh_iff.mp fresh).1.1
  have binding : admission sha256 hint wire networkId nowSeconds file = .error .binding ↔ _ :=
    admission_binding fields observedAt isNetwork
  rw [← binding, admitHint, if_neg (not_not.mpr isTime), if_neg (not_not.mpr (HasFields.isPrintable fields)),
    if_neg (by simp [isWire, fresh])]
  cases fault with
  | true => simp [runTransaction]
  | false =>
    have noValue : admission sha256 hint wire networkId nowSeconds file ≠ .error .value :=
      admission_value
    simp only [runTransaction, transact, Bool.false_eq_true, if_false, true_and]
    cases ran : admission sha256 hint wire networkId nowSeconds file with
    | ok r => simp
    | error e =>
      rw [ran] at noValue
      cases e with
      | integrity => cases lookupFault <;> simp
      | value => exact (noValue rfl).elim
      | _ => simp

end

/-! ## When a hint is answered -/

section

variable (sha256 : Bytes → Bytes) {tooDeep : Str → Bool} (flat : ReadsFlat tooDeep)
  (floatRepr : Str → Str) (verify : CanonicalThreatHint → Bytes → Python.Verification)
  {networkId : Str} (isNetwork : IsNetworkId networkId) (fault : Python.SqliteFault) (wire : Bytes)
  (nowSeconds : Int) (file : HintLedger)

include flat isNetwork

omit flat isNetwork in
theorem answerAdmission_error {digest : Str} {admission : Except HintError AdmissionStatus} :
    (∃ e, Python.answerAdmission fault digest admission = .error e) ↔
      admission = .error .binding ∨ admission = .error .value := by
  cases admission with
  | ok status => cases status <;> simp [Python.answerAdmission]
  | error e =>
    cases e with
    | sqlite => cases operational : fault.operational <;> simp [Python.answerAdmission, operational]
    | _ => simp [Python.answerAdmission]

/-- What `process` does with the hint that the parser returns. -/
theorem process_hint {hint : CanonicalThreatHint}
    (isHint : fromWire tooDeep floatRepr wire = .ok hint) :
    (∃ e, (Python.process sha256 tooDeep floatRepr verify networkId fault wire nowSeconds
        file).1 = .error e) ↔ Overflows verify fault wire nowSeconds file hint := by
  obtain ⟨fields, observedAt, isWire, bounded⟩ :=
    (Python.CanonicalThreatHint.fromWire_ok floatRepr flat).mp isHint
  simp only [Python.process, isHint]
  by_cases fresh : isFresh hint nowSeconds = true
  · rw [if_neg (not_not.mpr fresh)]
    by_cases groth : hint.proofSystem = Python.groth16
    · rw [if_neg (not_not.mpr groth)]
      cases verified : verify hint wire with
      | unavailable =>
        refine iff_of_false (by simp) ?_
        intro overflows
        cases verified.symm.trans overflows.verified
      | returned isTrue =>
        cases isTrue with
        | false =>
          refine iff_of_false (by simp) ?_
          intro overflows
          cases verified.symm.trans overflows.verified
        | true =>
          refine (answerAdmission_error fault).trans ((admit_escapes fields observedAt isNetwork
            (fields.toWire.trans isWire) fresh).trans ?_)
          constructor
          · intro h
            exact ⟨fields, observedAt, isWire, bounded, fresh, groth, verified, h.1, h.2.1, h.2.2⟩
          · intro overflows
            exact ⟨overflows.reachable, overflows.clock, overflows.expiry⟩
    · rw [if_pos groth]
      refine iff_of_false (by simp) ?_
      intro overflows
      exact groth overflows.proofSystem
  · rw [if_pos fresh]
    refine iff_of_false (by simp) ?_
    intro overflows
    exact fresh overflows.fresh

/-- `process` answers unless the wire is a text that nests too deep, an object with a list or an
object for its indicator type or proof system, or a verified hint whose expiry overflows. -/
theorem hint_ingress_answers_iff :
    (∃ ack, (Python.process sha256 tooDeep floatRepr verify networkId fault wire nowSeconds
        file).1 = .ok ack) ↔
      ¬ IsUnloadable tooDeep floatRepr wire ∧ ¬ IsUnhashableWire tooDeep floatRepr wire ∧
        ∀ hint, ¬ Overflows verify fault wire nowSeconds file hint := by
  have overflowing {hint : CanonicalThreatHint}
      (overflows : Overflows verify fault wire nowSeconds file hint) :
      fromWire tooDeep floatRepr wire = .ok hint :=
    (Python.CanonicalThreatHint.fromWire_ok floatRepr flat).mpr
      ⟨overflows.fields, overflows.observedAt, overflows.isWire, overflows.bounded⟩
  rw [← fromWire_load, ← fromWire_unhashable]
  cases parsed : fromWire tooDeep floatRepr wire with
  | ok hint =>
    have raises :=
      process_hint sha256 flat floatRepr verify isNetwork fault wire nowSeconds file parsed
    rw [parsed] at overflowing
    cases answer : (Python.process sha256 tooDeep floatRepr verify networkId fault wire nowSeconds
        file).1 with
    | ok ack =>
      rw [answer] at raises
      refine iff_of_true ⟨ack, rfl⟩ ⟨by simp, by simp, fun other overflows => ?_⟩
      obtain rfl := Except.ok.inj (overflowing overflows)
      obtain ⟨e, impossible⟩ := raises.mpr overflows
      cases impossible
    | error e =>
      rw [answer] at raises
      exact iff_of_false (by simp) fun h => h.2.2 hint (raises.mp ⟨e, rfl⟩)
  | error e =>
    have apart (hint : CanonicalThreatHint) : ¬ Overflows verify fault wire nowSeconds file hint := by
      intro overflows
      cases parsed.symm.trans (overflowing overflows)
    simp only [Python.process, parsed]
    cases e with
    | ingress message => exact iff_of_true ⟨_, rfl⟩ ⟨by simp, by simp, apart⟩
    | unhashable => exact iff_of_false (by simp) fun h => h.2.1 rfl
    | load error => exact iff_of_false (by simp) fun h => h.1 ⟨error, rfl⟩

end

/-- A hint with an empty list for its indicator type. -/
def listedIndicator : Bytes :=
  ascii "\x7b\"schema_version\":1,\"threat_hash\":\"" ++ List.replicate 64 48 ++
    ascii "\",\"confidence_bps\":1,\"indicator_type\":[],\"proof_system\":0,\"proof\":0," ++
    ascii "\"report_nonce\":0,\"observed_at\":0\x7d"

/-- Connections that raise nothing. -/
def noFault : Python.SqliteFault := ⟨false, false, false⟩

theorem hint_ingress_answers_iff_listed :
    ¬ ∃ ack, (Python.process sha256 (fun _ => false) id (fun _ _ => .unavailable)
      (str "testnet-10") noFault listedIndicator 1700000000 .fresh).1 = .ok ack := by
  intro answered
  have isNetwork : IsNetworkId (str "testnet-10") :=
    ThreatHint.Python.validateNetworkId_iff.mp (by decide)
  have raised : fromWire (fun _ => false) id listedIndicator = .error .unhashable := by
    decide +kernel
  obtain ⟨-, hashable, -⟩ := (hint_ingress_answers_iff sha256 (fun _ _ _ _ _ => rfl) id
    (fun _ _ => .unavailable) isNetwork noFault listedIndicator 1700000000 .fresh).mp answered
  exact hashable (fromWire_unhashable.mp raised)

/-- `TypeError: unhashable type: 'list'` leaves `process`. -/
theorem listed_indicator_unanswered :
    ¬ ∀ wire nowSeconds, ∃ ack, (Python.process sha256 (fun _ => false) id
      (fun _ _ => .unavailable) (str "testnet-10") noFault wire nowSeconds .fresh).1 = .ok ack := by
  intro answers
  obtain ⟨ack, answered⟩ := answers listedIndicator 1700000000
  have raised : (Python.process sha256 (fun _ => false) id (fun _ _ => .unavailable)
      (str "testnet-10") noFault listedIndicator 1700000000 .fresh).1.toOption = none := by
    decide +kernel
  rw [answered] at raised
  cases raised

end Prometheus.Ingress
