import Prometheus.ThreatHint.ObservableApproval
import Prometheus.ThreatHint.V2ProofEnvelope

/-!
# What the Python parsers raise

The Python parsers of version 2 envelopes, bundles and approvals with every exception that can leave
them: the error that their caller converts, `UnicodeEncodeError` from a lone surrogate that a JSON
string decodes to, and `RecursionError` from nesting.
-/

namespace Prometheus.ThreatHint

open Prometheus.Codec

namespace Python

/-- What the interpreter decides: how it writes a float, and which texts and which values nest too
deep for it. -/
structure Interpreter where
  floatRepr : Str → Str
  loadsTooDeep : Str → Bool
  dumpsTooDeep : Json → Bool

/-- Flat documents, and the lists of flat documents in a bundle, are within the recursion limit. -/
def Interpreter.Shallow (python : Interpreter) : Prop :=
  ∀ value : Json, value.nesting ≤ 3 →
    python.loadsTooDeep (value.compact quoteRaw) = false ∧ python.dumpsTooDeep value = false

/-- What a parser raises: its own error, which its caller expects, the error of another parser that
nobody converts, or an error of the interpreter. -/
inductive Raised
  | invalid
  | sectionError
  | unicodeEncodeError
  | recursionError
  deriving DecidableEq, Repr

/-- What was parsed, or this exception. -/
def orRaise {α : Type} (error : Raised) (parsed : Option α) : Except Raised α :=
  match parsed with
  | none => .error error
  | some a => .ok a

/-- A parser behind `json.loads(wire.decode("utf-8"))`. A wire that is not UTF-8 raises the parser's
own error, and so does a text that is not JSON. -/
def loading {α : Type} (python : Interpreter) (wireBytes : Bytes) (parse : Except Raised α) :
    Except Raised α :=
  match fromUtf8 wireBytes with
  | none => .error .invalid
  | some text => if python.loadsTooDeep text then .error .recursionError else parse

/-- `ThreatHintV2Statement.parse_canonical`. -/
def ThreatHintV2Statement.parseOrRaise (python : Interpreter) (wireBytes : Bytes)
    (trustedNetworkId : Str) : Except Raised ThreatHintV2Statement :=
  if wireBytes = [] ∨ maxCanonicalV2StatementBytes < wireBytes.length then .error .invalid
  else if ¬ matchesNetworkId trustedNetworkId then .error .invalid
  else loading python wireBytes
    (orRaise .invalid (parseCanonical python.floatRepr wireBytes trustedNetworkId))

namespace ThreatHintV2ProofEnvelope

/-- `_parse_object`. The statement is encoded outside of any `try`. -/
def parseObjectOrRaise (sha256 : Bytes → Bytes) (python : Interpreter) (trustedNetworkId : Str)
    (fields : List (Str × Json)) : Except Raised ThreatHintV2ProofEnvelope :=
  if fields.map Prod.fst ≠ keys.map str then .error .invalid
  else do
    let schemaVersion ←
      orRaise .invalid (exactSchemaVersion (Json.field fields (str "schema_version")))
    let protocolId ←
      orRaise .invalid (exactString (Json.field fields (str "protocol_id")) protocolIdentifier)
    let relationId ←
      orRaise .invalid (exactString (Json.field fields (str "relation_id")) relationIdentifier)
    let statementDigest ←
      orRaise .invalid (fixedLowerHex (Json.field fields (str "statement_digest")))
    let proof ← orRaise .invalid (proofHex (Json.field fields (str "proof")))
    let statement ← orRaise .invalid ((Json.field fields (str "statement")).bind Json.asString)
    let statementAtParse ← orRaise .unicodeEncodeError (encodeUtf8 statement)
    let parsedStatement ←
      ThreatHintV2Statement.parseOrRaise python statementAtParse trustedNetworkId
    let digest ← orRaise .invalid (parsedStatement.statementDigest sha256 statementAtParse)
    if hex digest ≠ statementDigest then .error .invalid
    else
      .ok { schemaVersion, protocolId, relationId, statement, statementDigest, proof,
            parsedStatement, statementAtParse }

/-- `parse_canonical`. -/
def parseOrRaise (sha256 : Bytes → Bytes) (python : Interpreter) (wireBytes : Bytes)
    (trustedNetworkId : Str) : Except Raised ThreatHintV2ProofEnvelope :=
  if wireBytes = [] ∨ maxCanonicalV2ProofEnvelopeBytes < wireBytes.length then .error .invalid
  else loading python wireBytes do
    let fields ← orRaise .invalid (readObject python.floatRepr wireBytes)
    let envelope ← parseObjectOrRaise sha256 python trustedNetworkId fields
    if envelope.canonicalBytes sha256 wireBytes ≠ some wireBytes then .error .invalid
    else .ok envelope

end ThreatHintV2ProofEnvelope

/-- `ObservableBundle.parse_canonical`, whose own errors and `UnicodeEncodeError` are all
`ValueError`s, which the callers convert. -/
def ObservableBundle.parseOrRaise (python : Interpreter) (wireBytes : Bytes) :
    Except Raised ObservableBundle :=
  if wireBytes = [] ∨ maxCanonicalObservableBundleBytes < wireBytes.length then .error .invalid
  else loading python wireBytes
    (orRaise .invalid (parseCanonical python.floatRepr wireBytes).toOption)

/-- `_validate_approval_shape`. The decoded values are dumped and encoded, outside of any `try`,
before any of them is checked. -/
def validateApprovalShapeOrRaise (python : Interpreter) (wireBytes : Bytes) :
    Except Raised ObservableApproval :=
  if wireBytes = [] ∨ maxCanonicalApprovalBytes < wireBytes.length then .error .invalid
  else loading python wireBytes do
    let fields ← orRaise .invalid (readObject python.floatRepr wireBytes)
    if ¬ sameKeys fields ObservableApproval.keys then .error .invalid
    else
      let decoded := document (ObservableApproval.select fields ObservableApproval.keys)
      if python.dumpsTooDeep decoded then .error .recursionError
      else if dumpsUtf8 decoded = none then .error .unicodeEncodeError
      else orRaise .invalid (validateApprovalShape python.floatRepr wireBytes)

end Python

/-- An interpreter whose limit no text reaches. -/
def baseInterpreter : Python.Interpreter := ⟨id, fun _ => false, fun _ => false⟩

theorem baseInterpreter_shallow : baseInterpreter.Shallow := fun _ _ => ⟨rfl, rfl⟩

/-! ## What the parsers return -/

namespace Python

variable {python : Interpreter}

theorem orRaise_eq_ok {α : Type} {error : Raised} {parsed : Option α} {a : α} :
    orRaise error parsed = .ok a ↔ parsed = some a := by
  cases parsed with
  | none => simp [orRaise]
  | some b => simp [orRaise]

theorem loading_eq_ok {α : Type} {wireBytes : Bytes} {parse : Except Raised α} {a : α} :
    loading python wireBytes parse = .ok a ↔
      (∃ text, fromUtf8 wireBytes = some text ∧ python.loadsTooDeep text = false) ∧
        parse = .ok a := by
  rw [loading]
  cases fromUtf8 wireBytes with
  | none => simp
  | some text =>
    simp only [ite_error_eq_ok, Bool.not_eq_true, Option.some.injEq]
    exact and_congr_left' ⟨fun shallow => ⟨text, rfl, shallow⟩,
      fun ⟨_, same, shallow⟩ => same ▸ shallow⟩

section

variable (shallow : python.Shallow)

include shallow

/-- The text of a document that is read back is within the limit. -/
theorem loads_document {fields : List (String × Json)} (readable : Readable (document fields))
    (nesting : (document fields).nesting ≤ 3) :
    ∃ text, fromUtf8 (dump fields) = some text ∧ python.loadsTooDeep text = false :=
  ⟨_, fromUtf8_encodeAscii (isAscii_compact _ readable.ascii), (shallow _ nesting).1⟩

theorem ThreatHintV2Statement.parseOrRaise_ok {wireBytes : Bytes} {network : Str}
    {st : ThreatHintV2Statement} : parseOrRaise python wireBytes network = .ok st ↔
      parseCanonical python.floatRepr wireBytes network = some st := by
  rw [parseOrRaise, ite_error_eq_ok, ite_error_eq_ok, loading_eq_ok, orRaise_eq_ok]
  constructor
  · intro h
    exact h.2.2.2
  · intro accepted
    have guards := accepted
    rw [parseCanonical, Option.ite_none_left_eq_some, Option.ite_none_left_eq_some] at guards
    obtain ⟨⟨checked, -⟩, rfl⟩ := (canonical python.floatRepr network _ _).mp accepted
    refine ⟨guards.1, guards.2.1, loads_document shallow (readable_payload checked) ?_, accepted⟩
    refine (nesting_document (n := 0) ?_).trans (by decide)
    simp [payload, Json.nesting]

theorem ThreatHintV2ProofEnvelope.parseObjectOrRaise_ok {sha256 : Bytes → Bytes} {network : Str}
    {fields : List (Str × Json)} {env : ThreatHintV2ProofEnvelope} :
    parseObjectOrRaise sha256 python network fields = .ok env ↔
      parseObject sha256 python.floatRepr network fields = some env := by
  simp only [parseObjectOrRaise, parseObject, ite_error_eq_ok, Option.ite_none_left_eq_some,
    bind_eq_ok, orRaise_eq_ok, Option.bind_eq_bind, Option.bind_eq_some_iff,
    ThreatHintV2Statement.parseOrRaise_ok shallow, Except.ok.injEq, Option.some.injEq]

theorem ThreatHintV2ProofEnvelope.parseOrRaise_ok {sha256 : Bytes → Bytes} {wireBytes : Bytes}
    {network : Str} {env : ThreatHintV2ProofEnvelope} :
    parseOrRaise sha256 python wireBytes network = .ok env ↔
      parseCanonical sha256 python.floatRepr wireBytes network = some env := by
  have same : (∃ fields, readObject python.floatRepr wireBytes = some fields ∧
      ∃ envelope, parseObject sha256 python.floatRepr network fields = some envelope ∧
        envelope.canonicalBytes sha256 wireBytes = some wireBytes ∧ envelope = env) ↔
      ∃ envelope, (readObject python.floatRepr wireBytes).bind
        (parseObject sha256 python.floatRepr network) = some envelope ∧
          envelope.canonicalBytes sha256 wireBytes = some wireBytes ∧ envelope = env := by
    simp only [Option.bind_eq_some_iff]
    grind
  simp only [parseOrRaise, ite_error_eq_ok, loading_eq_ok, bind_eq_ok, orRaise_eq_ok,
    parseObjectOrRaise_ok shallow, ne_eq, not_not, Except.ok.injEq, same]
  constructor
  · intro h
    obtain ⟨size, -, accepted⟩ := h
    simp only [parseCanonical, Option.ite_none_left_eq_some, Option.bind_eq_bind, ne_eq, not_not,
      Option.bind_eq_some_iff (x := Option.bind _ _), Option.some.injEq]
    exact ⟨size, accepted⟩
  · intro accepted
    obtain ⟨⟨checked, -⟩, isWire⟩ :=
      (canonical sha256 python.floatRepr network _ _).mp accepted
    simp only [parseCanonical, Option.ite_none_left_eq_some, Option.bind_eq_bind, ne_eq, not_not,
      Option.bind_eq_some_iff (x := Option.bind _ _), Option.some.injEq] at accepted
    have loads := loads_document shallow (readable_payload checked)
      ((nesting_document (n := 0) (by simp [payload, Json.nesting])).trans (by decide))
    rw [show dump env.payload = wireBytes from isWire] at loads
    exact ⟨accepted.1, loads, accepted.2⟩

theorem ObservableBundle.parseOrRaise_ok {wireBytes : Bytes} {bundle : ObservableBundle} :
    parseOrRaise python wireBytes = .ok bundle ↔
      parseCanonical python.floatRepr wireBytes = .ok bundle := by
  rw [parseOrRaise, ite_error_eq_ok, loading_eq_ok, orRaise_eq_ok, toOption_eq_some, not_or, not_lt]
  constructor
  · intro h
    exact h.2.2
  · intro accepted
    have guards := accepted
    rw [parseCanonical, ite_error_eq_ok, ite_error_eq_ok, not_lt] at guards
    obtain ⟨accepts, rfl⟩ :=
      (canonical python.floatRepr _ _).mp (toOption_eq_some.mpr accepted)
    refine ⟨⟨guards.1, guards.2.1⟩, loads_document shallow (readable_payload accepts.checked) ?_,
      accepted⟩
    refine nesting_document (n := 2) ?_
    simp only [payload, List.forall_mem_cons]
    refine ⟨by simp [Json.nesting], by simp [Json.nesting], ?_, nesting_array ?_, by simp⟩
    · exact (nesting_document (n := 0) (by simp [scopePayload, Json.nesting])).trans (by decide)
    · exact List.forall_mem_map.mpr fun o _ =>
        nesting_document (n := 0) (by simp [observablePayload, Json.nesting])

theorem validateApprovalShapeOrRaise_ok {wireBytes : Bytes} {shape : ObservableApproval} :
    validateApprovalShapeOrRaise python wireBytes = .ok shape ↔
      validateApprovalShape python.floatRepr wireBytes = some shape := by
  simp only [validateApprovalShapeOrRaise, ite_error_eq_ok, loading_eq_ok, bind_eq_ok,
    orRaise_eq_ok, not_not]
  constructor
  · intro h
    obtain ⟨-, -, _, -, -, -, -, accepted⟩ := h
    exact accepted
  · intro accepted
    obtain ⟨shaped, rfl⟩ := (ObservableApproval.validateApprovalShape_iff _).mp accepted
    have bounded := shaped.bounded
    obtain ⟨fields, isRead, isTyped⟩ := (shaped.read_iff python.floatRepr).mpr rfl
    have nesting : (document shape.payload).nesting ≤ 1 :=
      nesting_document (n := 0)
        (by simp [ObservableApproval.payload, ObservableApproval.signingPayload, Json.nesting])
    simp only [ObservableApproval.readCanonical, Option.ite_none_left_eq_some, Option.bind_eq_bind,
      Option.bind_eq_some_iff, not_not, Option.some.injEq] at isRead
    obtain ⟨size, _, isObject, sameKeys, _, isDump, -, rfl⟩ := isRead
    refine ⟨size, loads_document shallow shaped.readable (nesting.trans (by decide)), _, isObject,
      sameKeys, ?_, ?_, accepted⟩
    · rw [(ObservableApproval.select_payload isTyped).1]
      exact Bool.eq_false_iff.mp (shallow _ (nesting.trans (by decide))).2
    · rw [isDump]
      exact Option.some_ne_none _

end

/-! ## What leaves the parsers -/

/-- Something else than the parser's own error leaves it. -/
def Leaves {α : Type} (parsed : Except Raised α) : Prop := ∃ e, parsed = .error e ∧ e ≠ .invalid

section

variable {α β : Type}

theorem leaves_ok {a : α} : ¬ Leaves (.ok a : Except Raised α) := by
  rintro ⟨_, h, _⟩
  cases h

theorem leaves_error {e : Raised} : Leaves (.error e : Except Raised α) ↔ e ≠ .invalid := by
  constructor
  · rintro ⟨_, h, foreign⟩
    cases h
    exact foreign
  · intro foreign
    exact ⟨e, rfl, foreign⟩

theorem leaves_bind {x : Except Raised α} {f : α → Except Raised β} :
    Leaves (x >>= f) ↔ Leaves x ∨ ∃ a, x = .ok a ∧ Leaves (f a) := by
  cases x with
  | error e => simp [bind, Except.bind, leaves_error]
  | ok a => simp [bind, Except.bind, leaves_ok]

theorem leaves_orRaise {error : Raised} {parsed : Option α} :
    Leaves (orRaise error parsed) ↔ error ≠ .invalid ∧ parsed = none := by
  cases parsed with
  | none => simp [orRaise, leaves_error]
  | some a => simp [orRaise, leaves_ok]

theorem leaves_ite {p : Prop} [Decidable p] {e : Raised} {x : Except Raised α} :
    Leaves (if p then .error e else x) ↔ (p ∧ e ≠ .invalid) ∨ (¬ p ∧ Leaves x) := by
  by_cases h : p <;> simp [h, leaves_error]

/-- The text of the bytes nests too deep. -/
def LoadsTooDeep (python : Interpreter) (wireBytes : Bytes) : Prop :=
  ∃ text, fromUtf8 wireBytes = some text ∧ python.loadsTooDeep text = true

theorem leaves_loading {wireBytes : Bytes} {parse : Except Raised α} :
    Leaves (loading python wireBytes parse) ↔ LoadsTooDeep python wireBytes ∨
      (∃ text, fromUtf8 wireBytes = some text ∧ python.loadsTooDeep text = false) ∧
        Leaves parse := by
  rw [loading, LoadsTooDeep]
  cases fromUtf8 wireBytes with
  | none => simp [leaves_error]
  | some text => cases h : python.loadsTooDeep text <;> simp [h, leaves_error]

end

/-- The statement, of a size that is parsed, nests too deep. -/
theorem ThreatHintV2Statement.parseOrRaise_leaves {wireBytes : Bytes} {network : Str} :
    Leaves (parseOrRaise python wireBytes network) ↔
      ¬ (wireBytes = [] ∨ maxCanonicalV2StatementBytes < wireBytes.length) ∧
        matchesNetworkId network = true ∧ LoadsTooDeep python wireBytes := by
  simp only [parseOrRaise, leaves_ite, leaves_loading, leaves_orRaise, ne_eq, not_true_eq_false,
    and_false, false_and, false_or, or_false, not_not]

namespace ThreatHintV2ProofEnvelope

/-- All fields of the object but its statement pass their checks. -/
structure HasFields (fields : List (Str × Json)) (statement : Str) : Prop where
  keys : fields.map Prod.fst = keys.map str
  schemaVersion : Json.field fields (str "schema_version") = some (.int 2)
  protocolId : Json.field fields (str "protocol_id") = some (.string protocolIdentifier)
  relationId : Json.field fields (str "relation_id") = some (.string relationIdentifier)
  statementDigest : ∃ s, Json.field fields (str "statement_digest") = some (.string s) ∧
    isHash s = true
  proof : ∃ s, Json.field fields (str "proof") = some (.string s) ∧ isProofHex s = true
  statement : Json.field fields (str "statement") = some (.string statement)

/-- The statement has a lone surrogate, or it nests too deep. -/
def StatementEscapes (python : Interpreter) (network statement : Str) : Prop :=
  encodeUtf8 statement = none ∨ ∃ bytes, encodeUtf8 statement = some bytes ∧
    ¬ (bytes = [] ∨ maxCanonicalV2StatementBytes < bytes.length) ∧
      matchesNetworkId network = true ∧ LoadsTooDeep python bytes

theorem parseObjectOrRaise_leaves {sha256 : Bytes → Bytes} {network : Str}
    {fields : List (Str × Json)} : Leaves (parseObjectOrRaise sha256 python network fields) ↔
      ∃ statement, HasFields fields statement ∧ StatementEscapes python network statement := by
  simp only [parseObjectOrRaise, leaves_ite, leaves_bind, leaves_orRaise, leaves_ok,
    ThreatHintV2Statement.parseOrRaise_leaves, orRaise_eq_ok, exactSchemaVersion_some,
    exactString_some, fixedLowerHex_some, proofHex_some, asString_some, ne_eq, not_true_eq_false,
    reduceCtorEq, not_false_eq_true, true_and, false_and, and_false, false_or, or_false, not_not,
    exists_false]
  constructor
  · intro h
    obtain ⟨keys, _, ⟨version, rfl⟩, _, ⟨protocol, rfl⟩, _, ⟨relation, rfl⟩, digest, isDigest, proof,
      isProof, statement, isStatement, escapes⟩ := h
    exact ⟨statement, ⟨keys, version, protocol, relation, ⟨digest, isDigest⟩, ⟨proof, isProof⟩,
      isStatement⟩, escapes⟩
  · intro h
    obtain ⟨statement, ⟨keys, version, protocol, relation, ⟨digest, isDigest⟩, ⟨proof, isProof⟩,
      isStatement⟩, escapes⟩ := h
    exact ⟨keys, _, ⟨version, rfl⟩, _, ⟨protocol, rfl⟩, _, ⟨relation, rfl⟩, digest, isDigest, proof,
      isProof, statement, isStatement, escapes⟩

/-- The envelope nests too deep, or its other fields are valid and its statement escapes. -/
def Escapes (python : Interpreter) (network : Str) (wireBytes : Bytes) : Prop :=
  LoadsTooDeep python wireBytes ∨
    (∃ text, fromUtf8 wireBytes = some text ∧ python.loadsTooDeep text = false) ∧
      ∃ fields statement, readObject python.floatRepr wireBytes = some fields ∧
        HasFields fields statement ∧ StatementEscapes python network statement

theorem parseOrRaise_leaves {sha256 : Bytes → Bytes} {wireBytes : Bytes} {network : Str} :
    Leaves (parseOrRaise sha256 python wireBytes network) ↔
      ¬ (wireBytes = [] ∨ maxCanonicalV2ProofEnvelopeBytes < wireBytes.length) ∧
        Escapes python network wireBytes := by
  simp only [parseOrRaise, leaves_ite, leaves_loading, leaves_bind, leaves_orRaise, leaves_ok,
    orRaise_eq_ok, parseObjectOrRaise_leaves, ne_eq, not_true_eq_false, false_and, and_false,
    false_or, or_false, exists_false, Escapes, exists_and_left]

end ThreatHintV2ProofEnvelope

/-- The bundle nests too deep. -/
theorem ObservableBundle.parseOrRaise_leaves {wireBytes : Bytes} :
    Leaves (parseOrRaise python wireBytes) ↔
      ¬ (wireBytes = [] ∨ maxCanonicalObservableBundleBytes < wireBytes.length) ∧
        LoadsTooDeep python wireBytes := by
  simp only [parseOrRaise, leaves_ite, leaves_loading, leaves_orRaise, ne_eq, not_true_eq_false,
    false_and, and_false, false_or, or_false]

/-- The approval nests too deep, or it has the keys of an approval and a value of it nests too deep
to be dumped or has a lone surrogate. -/
def ObservableApproval.Escapes (python : Interpreter) (wireBytes : Bytes) : Prop :=
  LoadsTooDeep python wireBytes ∨
    (∃ text, fromUtf8 wireBytes = some text ∧ python.loadsTooDeep text = false) ∧
      ∃ fields, readObject python.floatRepr wireBytes = some fields ∧ sameKeys fields keys = true ∧
        (python.dumpsTooDeep (document (select fields keys)) = true ∨
          dumpsUtf8 (document (select fields keys)) = none)

theorem validateApprovalShapeOrRaise_leaves {wireBytes : Bytes} :
    Leaves (validateApprovalShapeOrRaise python wireBytes) ↔
      ¬ (wireBytes = [] ∨ maxCanonicalApprovalBytes < wireBytes.length) ∧
        ObservableApproval.Escapes python wireBytes := by
  simp only [validateApprovalShapeOrRaise, leaves_ite, leaves_loading, leaves_bind, leaves_orRaise,
    orRaise_eq_ok, ne_eq, not_true_eq_false, reduceCtorEq, not_false_eq_true, false_and, and_false,
    and_true, false_or, or_false, Bool.not_eq_true, ObservableApproval.Escapes]
  grind

end Python

end Prometheus.ThreatHint
