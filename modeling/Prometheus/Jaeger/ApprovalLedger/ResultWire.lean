import Prometheus.Codec.JsonHook
import Prometheus.Jaeger.ApprovalLedger.HeldLease
import Prometheus.ThreatHint.Raises

/-!
# The wire form of analysis results

The two builders of results (`:1897-1991`) and the part of `_validate_analysis_result_wire`
(`:1994-2091`) that reads a wire. A wire passes exactly when one of the builders writes it, so that a
completion stores a result of a builder and accepts every one for its claim.
-/

namespace Prometheus.Jaeger.ApprovalLedger

open Prometheus.Codec Prometheus.Machine
open Prometheus.ThreatHint (isHash maxObservables isHash_hex isHash_iff length_fromHex hex_fromHex
  baseInterpreter baseInterpreter_shallow)
open Prometheus.ThreatHint.Python (Interpreter)

/-! ## The builders -/

/-- `[a-z0-9]`. -/
def isAnalyzerIdStart (c : Nat) : Bool :=
  (decide (97 ≤ c) && decide (c ≤ 122)) || (decide (48 ≤ c) && decide (c ≤ 57))

/-- `_is_analyzer_id` of a text: `[a-z0-9][a-z0-9_]{0,63}`. -/
def isAnalyzerId : Str → Bool
  | [] => false
  | c :: rest => isAnalyzerIdStart c && decide (rest.length ≤ 63) &&
    rest.all fun c => isAnalyzerIdStart c || c == 95

/-- `ANALYSIS_RESULT_SCHEMA_VERSION`. -/
def analysisResultSchemaVersion : Int := 1

/-- `ANALYSIS_RESULT_KIND`. -/
def analysisResultKind : Str := str "non_actionable_local_v1"

/-- `SEMANTIC_DRAFT_RESULT_SCHEMA_VERSION`. -/
def semanticDraftResultSchemaVersion : Int := 2

/-- `SEMANTIC_DRAFT_RESULT_KIND`. -/
def semanticDraftResultKind : Str := str "semantic_draft_non_actionable_local_v2"

/-- What a result is bound to. -/
structure AnalysisBinding where
  approvalId : Bytes
  inputIdentity : Bytes
  statementDigest : Bytes
  observableCommitment : Bytes
  deriving DecidableEq, Repr

/-- Each of them passes `_is_fixed_bytes`. -/
def AnalysisBinding.isFixed (binding : AnalysisBinding) : Bool :=
  isFixedBytes binding.approvalId && isFixedBytes binding.inputIdentity &&
    isFixedBytes binding.statementDigest && isFixedBytes binding.observableCommitment

/-- The fields that every result starts with. -/
def resultFields (schemaVersion : Int) (resultKind analyzerId : Str) (binding : AnalysisBinding)
    (observableCount : Int) : List (String × Json) :=
  [("schema_version", .int schemaVersion), ("result_kind", .string resultKind),
    ("analyzer_id", .string analyzerId), ("approval_id", .string (hex binding.approvalId)),
    ("input_identity", .string (hex binding.inputIdentity)),
    ("statement_digest", .string (hex binding.statementDigest)),
    ("observable_commitment", .string (hex binding.observableCommitment)),
    ("observable_count", .int observableCount)]

/-- `1 <= len(wire) <= MAX_CANONICAL_ANALYSIS_RESULT_BYTES`. -/
def isBoundedWire (wire : Bytes) : Bool :=
  decide (1 ≤ wire.length) && decide (wire.length ≤ maxCanonicalAnalysisResultBytes)

/-- `build_analysis_result_wire`; `none` where it raises. -/
def buildAnalysisResultWire (analyzerId : Str) (binding : AnalysisBinding) (observableCount : Int) :
    Option Bytes :=
  if ¬ isAnalyzerId analyzerId ∨ ¬ binding.isFixed ∨
      ¬ (1 ≤ observableCount ∧ observableCount ≤ maxObservables) then none
  else (dumpsUtf8 (document (resultFields analysisResultSchemaVersion analysisResultKind analyzerId
    binding observableCount))).filter isBoundedWire

/-- How many observables there are of each kind. -/
structure KindCounts where
  fileSha256 : Int
  apiImport : Int
  bytePattern : Int
  deriving DecidableEq, Repr

/-- The value of `observable_kind_counts`. -/
def KindCounts.fields (counts : KindCounts) : List (String × Json) :=
  [("file_sha256", .int counts.fileSha256), ("api_import", .int counts.apiImport),
    ("byte_pattern", .int counts.bytePattern)]

/-- `sum(counts)`. -/
def KindCounts.sum (counts : KindCounts) : Int :=
  counts.fileSha256 + counts.apiImport + counts.bytePattern

/-- `0 <= value <= MAX_OBSERVABLES`. -/
def isKindCount (count : Int) : Bool := decide (0 ≤ count) && decide (count ≤ maxObservables)

/-- Each count is within the bounds. -/
def KindCounts.isBounded (counts : KindCounts) : Bool :=
  isKindCount counts.fileSha256 && isKindCount counts.apiImport && isKindCount counts.bytePattern

/-- The fields of a semantic draft. -/
def semanticDraftFields (analyzerId : Str) (binding : AnalysisBinding) (counts : KindCounts)
    (candidateBindingSha256 : Bytes) (ruleCompileOk : Bool) : List (String × Json) :=
  resultFields semanticDraftResultSchemaVersion semanticDraftResultKind analyzerId binding
      counts.sum ++
    [("observable_kind_counts", document counts.fields),
      ("candidate_binding_sha256", .string (hex candidateBindingSha256)),
      ("rule_compile_ok", .bool ruleCompileOk)]

/-- `build_semantic_draft_result_wire`, which writes with `ensure_ascii=True`; `none` where it
raises. -/
def buildSemanticDraftResultWire (analyzerId : Str) (binding : AnalysisBinding)
    (counts : KindCounts) (candidateBindingSha256 : Bytes) (ruleCompileOk : Bool) : Option Bytes :=
  if ¬ isAnalyzerId analyzerId ∨ ¬ binding.isFixed ∨ ¬ counts.isBounded ∨
      ¬ (1 ≤ counts.sum ∧ counts.sum ≤ maxObservables) ∨ ¬ isFixedBytes candidateBindingSha256 ∨
      ¬ candidateBindingSha256.any (· != 0) then none
  else (some (encodeAscii ((document (semanticDraftFields analyzerId binding counts
    candidateBindingSha256 ruleCompileOk)).compact quote))).filter isBoundedWire

/-! ## The validator -/

/-- `_ANALYSIS_RESULT_V1_FIELDS`. -/
def analysisResultV1Fields : List String :=
  ["schema_version", "result_kind", "analyzer_id", "approval_id", "input_identity",
    "statement_digest", "observable_commitment", "observable_count"]

/-- `_ANALYSIS_RESULT_V2_FIELDS`. -/
def analysisResultV2Fields : List String :=
  analysisResultV1Fields ++
    ["observable_kind_counts", "candidate_binding_sha256", "rule_compile_ok"]

/-- `_OBSERVABLE_KIND_COUNT_FIELDS`. -/
def observableKindCountFields : List String := ["file_sha256", "api_import", "byte_pattern"]

/-- `tuple(decoded) == keys`. -/
def keysAre (decoded : List (Str × Json)) (keys : List String) : Bool :=
  decide (decoded.map Prod.fst = keys.map str)

/-- `_is_fixed_lower_hex` of a text. -/
def isFixedLowerHex (s : Str) : Bool := decide (s.length = 64) && s.all isLowerHex

/-- `_is_common_analysis_result`. -/
def isCommonAnalysisResult (decoded : List (Str × Json)) : Bool :=
  (Json.intAt decoded "schema_version").isSome && (Json.textAt decoded "result_kind").isSome &&
    (Json.textAt decoded "analyzer_id").any isAnalyzerId &&
    (Json.textAt decoded "approval_id").any isFixedLowerHex &&
    (Json.textAt decoded "input_identity").any isFixedLowerHex &&
    (Json.textAt decoded "statement_digest").any isFixedLowerHex &&
    (Json.textAt decoded "observable_commitment").any isFixedLowerHex &&
    (Json.intAt decoded "observable_count").any fun count : Int =>
      decide (1 ≤ count) && decide (count ≤ maxObservables)

/-- The counts in `observable_kind_counts`, once `_is_semantic_draft_fields` has checked them. -/
def kindCounts (decoded : List (Str × Json)) : Option KindCounts :=
  match Json.field decoded (str "observable_kind_counts") with
  | some (.object counts) =>
    if keysAre counts observableKindCountFields then do
      let fileSha256 ← (Json.intAt counts "file_sha256").filter isKindCount
      let apiImport ← (Json.intAt counts "api_import").filter isKindCount
      let bytePattern ← (Json.intAt counts "byte_pattern").filter isKindCount
      return ⟨fileSha256, apiImport, bytePattern⟩
    else none
  | _ => none

/-- `_is_semantic_draft_fields`. -/
def isSemanticDraftFields (decoded : List (Str × Json)) : Bool :=
  (kindCounts decoded).any (fun counts =>
      decide (Json.intAt decoded "observable_count" = some counts.sum)) &&
    (Json.textAt decoded "candidate_binding_sha256").any (fun s =>
      isFixedLowerHex s && decide (s ≠ List.replicate 64 48)) &&
    match Json.field decoded (str "rule_compile_ok") with
    | some (.bool _) => true
    | _ => false

/-- `valid_version`. -/
def isValidVersion (decoded : List (Str × Json)) : Bool :=
  match Json.intAt decoded "schema_version" with
  | some version =>
    if version = analysisResultSchemaVersion then
      keysAre decoded analysisResultV1Fields &&
        decide (Json.textAt decoded "result_kind" = some analysisResultKind)
    else if version = semanticDraftResultSchemaVersion then
      keysAre decoded analysisResultV2Fields &&
        decide (Json.textAt decoded "result_kind" = some semanticDraftResultKind) &&
        isSemanticDraftFields decoded
    else false
  | none => false

/-- The binding fields of a wire that `_validate_analysis_result_wire` finds canonical, whatever it
expects of them. -/
def decodeAnalysisResult (python : Interpreter) (resultWire : Bytes) : Option AnalysisResult := do
  let text ← fromUtf8 resultWire
  match Json.loadsHooked python.loadsTooDeep python.floatRepr text with
  | .ok (.object decoded) =>
    guard (isCommonAnalysisResult decoded)
    guard (isValidVersion decoded)
    guard (dumpsUtf8 (.object decoded) = some resultWire)
    return ⟨← Json.textAt decoded "approval_id", ← Json.textAt decoded "input_identity",
      ← Json.textAt decoded "statement_digest", ← Json.textAt decoded "observable_commitment"⟩
  | _ => none

/-- The codec with this reader of results. -/
def WireCodec.withResults (codec : WireCodec) (python : Interpreter) : WireCodec :=
  { codec with decodeAnalysisResult := ApprovalLedger.decodeAnalysisResult python }

/-! ## Documents of results -/

/-- The documents that the builders write with this binding. -/
inductive ResultDocument (binding : AnalysisBinding) : List (String × Json) → Prop
  | result {analyzerId : Str} {observableCount : Int} (analyzer : isAnalyzerId analyzerId = true)
      (fixed : binding.isFixed = true)
      (count : 1 ≤ observableCount ∧ observableCount ≤ maxObservables) :
      ResultDocument binding (resultFields analysisResultSchemaVersion analysisResultKind analyzerId
        binding observableCount)
  | semanticDraft {analyzerId : Str} {counts : KindCounts} {candidateBindingSha256 : Bytes}
      {ruleCompileOk : Bool} (analyzer : isAnalyzerId analyzerId = true)
      (fixed : binding.isFixed = true) (bounded : counts.isBounded = true)
      (count : 1 ≤ counts.sum ∧ counts.sum ≤ maxObservables)
      (candidate : isFixedBytes candidateBindingSha256 = true)
      (nonzero : candidateBindingSha256.any (· != 0) = true) :
      ResultDocument binding (semanticDraftFields analyzerId binding counts candidateBindingSha256
        ruleCompileOk)

variable {python : Interpreter} {binding : AnalysisBinding} {fields : List (String × Json)}
  {decoded : List (Str × Json)} {wire : Bytes}

theorem plain_analyzerId {s : Str} (h : isAnalyzerId s = true) : IsPlainText s := by
  have start {c : Nat} (hc : isAnalyzerIdStart c = true) : 32 ≤ c ∧ c ≤ 126 := by
    simp only [isAnalyzerIdStart, Bool.or_eq_true, Bool.and_eq_true, decide_eq_true_eq] at hc
    omega
  cases s with
  | nil => cases h
  | cons c rest =>
    simp only [isAnalyzerId, Bool.and_eq_true, List.all_eq_true, Bool.or_eq_true,
      beq_iff_eq] at h
    intro d hd
    rcases List.mem_cons.mp hd with rfl | hd
    · exact start h.1.1
    · rcases h.2 d hd with isStart | rfl
      · exact start isStart
      · decide

theorem plain_kinds : IsPlainText analysisResultKind ∧ IsPlainText semanticDraftResultKind := by
  show (∀ c ∈ analysisResultKind, 32 ≤ c ∧ c ≤ 126) ∧
    ∀ c ∈ semanticDraftResultKind, 32 ≤ c ∧ c ≤ 126
  decide

theorem plain_names : ∀ key ∈ analysisResultV2Fields ++ observableKindCountFields,
    IsPlainText (str key) := by
  show ∀ key ∈ analysisResultV2Fields ++ observableKindCountFields,
    ∀ c ∈ str key, 32 ≤ c ∧ c ≤ 126
  decide

theorem distinct_names : (analysisResultV2Fields.map str).Nodup ∧
    (observableKindCountFields.map str).Nodup := by
  decide

theorem distinct_v1 : (analysisResultV1Fields.map str).Nodup := by
  have both := distinct_names.1
  rw [analysisResultV2Fields, List.map_append] at both
  exact (List.nodup_append.mp both).1

theorem plain_hex (b : Bytes) : IsPlainText (hex b) :=
  isPlainText_of_lowerHex fun _ hc => isLowerHex_of_mem_hex hc

/-- The fields that every result starts with are plain and can be read back. -/
theorem resultFields_readable {version count : Int} {kind analyzerId : Str}
    (isVersion : IsU64 version) (isKind : IsPlainText kind)
    (analyzer : isAnalyzerId analyzerId = true) (bounds : 1 ≤ count ∧ count ≤ maxObservables) :
    ∀ f ∈ resultFields version kind analyzerId binding count,
      Readable f.2 ∧ IsPlainValue f.2 := by
  have text {s : Str} (plain : IsPlainText s) :
      Readable (.string s) ∧ IsPlainValue (.string s) := ⟨readable_string (isAscii_of_plain plain), .string plain⟩
  have isCount : IsU64 count := ⟨by omega, bounds.2.trans (by decide)⟩
  simp only [resultFields, List.forall_mem_cons]
  exact ⟨⟨readable_int isVersion, .int _⟩, text isKind, text (plain_analyzerId analyzer),
    text (plain_hex _), text (plain_hex _), text (plain_hex _), text (plain_hex _),
    ⟨readable_int isCount, .int _⟩, by simp⟩

theorem KindCounts.readable {counts : KindCounts} (bounded : counts.isBounded = true) :
    Readable (document counts.fields) := by
  have isCount {n : Int} (h : isKindCount n = true) : Readable (.int n) := by
    rw [isKindCount, Bool.and_eq_true, decide_eq_true_eq, decide_eq_true_eq] at h
    exact readable_int ⟨h.1, h.2.trans (by decide)⟩
  simp only [KindCounts.isBounded, Bool.and_eq_true] at bounded
  refine readable_document (show _ = observableKindCountFields from rfl) distinct_names.2
    (fun key hkey => isAscii_of_plain (plain_names key (List.mem_append_right _ hkey))) ?_
  simp only [KindCounts.fields, List.forall_mem_cons]
  exact ⟨isCount bounded.1.1, isCount bounded.1.2, isCount bounded.2, by simp⟩

theorem ResultDocument.keys (h : ResultDocument binding fields) :
    (∀ key ∈ fields.map Prod.fst, key ∈ analysisResultV2Fields) ∧
      ((fields.map Prod.fst).map str).Nodup := by
  cases h with
  | result => exact ⟨fun key hkey => List.mem_append_left _ hkey, distinct_v1⟩
  | semanticDraft => exact ⟨fun key hkey => hkey, distinct_names.1⟩

theorem ResultDocument.values (h : ResultDocument binding fields) : ∀ f ∈ fields,
    Readable f.2 ∧ f.2.compact quote = f.2.compact quoteRaw ∧ f.2.nesting ≤ 1 := by
  have plain {value : Json} (isPlain : Readable value ∧ IsPlainValue value) :
      Readable value ∧ value.compact quote = value.compact quoteRaw ∧ value.nesting ≤ 1 := by
    refine ⟨isPlain.1, isPlain.2.compact_eq, ?_⟩
    cases isPlain.2 <;> exact Nat.zero_le 1
  cases h with
  | result analyzer fixed count =>
    exact fun f hf =>
      plain (resultFields_readable (.of_le (by decide) (by decide)) plain_kinds.1 analyzer count f hf)
  | @semanticDraft _ counts _ compileOk analyzer fixed bounded count candidate nonzero =>
    refine List.forall_mem_append.mpr ⟨fun f hf =>
      plain (resultFields_readable (.of_le (by decide) (by decide)) plain_kinds.2 analyzer count f hf), ?_⟩
    have inner : ∀ f ∈ counts.fields, f.2.compact quote = f.2.compact quoteRaw := by
      simp [KindCounts.fields, Json.compact]
    have names : ∀ f ∈ counts.fields, IsPlainText (str f.1) := fun f hf =>
      plain_names f.1 (List.mem_append_right _ (List.mem_map_of_mem hf))
    simp only [List.forall_mem_cons]
    refine ⟨⟨KindCounts.readable bounded, compact_document names inner, nesting_document ?_⟩,
      plain ⟨readable_string (isAscii_of_plain (plain_hex _)), .string (plain_hex _)⟩,
      ⟨readable_bool _, by cases compileOk <;> rw [Json.compact, Json.compact], Nat.zero_le 1⟩, by simp⟩
    simp [KindCounts.fields, Json.nesting]

theorem ResultDocument.readable (h : ResultDocument binding fields) :
    Readable (document fields) :=
  readable_document rfl h.keys.2
    (fun key hkey => isAscii_of_plain (plain_names key (List.mem_append_left _ (h.keys.1 key hkey))))
    fun f hf => (h.values f hf).1

/-- `ensure_ascii` makes no difference to it. -/
theorem ResultDocument.compact_eq (h : ResultDocument binding fields) :
    (document fields).compact quote = (document fields).compact quoteRaw :=
  compact_document (fun f hf =>
    plain_names f.1 (List.mem_append_left _ (h.keys.1 f.1 (List.mem_map_of_mem hf))))
    fun f hf => (h.values f hf).2.1

/-! ## What a wire is read as -/

/-- The values of the fields of a binding in a document. -/
structure Carries (binding : AnalysisBinding) (decoded : List (Str × Json)) : Prop where
  approvalId : Json.textAt decoded "approval_id" = some (hex binding.approvalId)
  inputIdentity : Json.textAt decoded "input_identity" = some (hex binding.inputIdentity)
  statementDigest : Json.textAt decoded "statement_digest" = some (hex binding.statementDigest)
  observableCommitment :
    Json.textAt decoded "observable_commitment" = some (hex binding.observableCommitment)

theorem isFixedLowerHex_hex {b : Bytes} (h : isFixedBytes b = true) :
    isFixedLowerHex (hex b) = true := isHash_hex (beq_iff_eq.mp h)

/-- Lower-case hex of 64 digits is the hex of 32 bytes. -/
theorem exists_bytes {s : Str} (h : isFixedLowerHex s = true) :
    ∃ b, isFixedBytes b = true ∧ hex b = s := by
  obtain ⟨length, digits⟩ := isHash_iff.mp h
  refine ⟨fromHex s, beq_iff_eq.mpr ?_, hex_fromHex s (by rw [length]) digits⟩
  rw [length_fromHex, length]
  rfl

/-- The common checks pass on a document that starts with the fields of a result. -/
theorem isCommonAnalysisResult_of {version count : Int} {kind analyzerId : Str}
    (unique : ((fields.map Prod.fst).map str).Nodup)
    (common : ∀ f ∈ resultFields version kind analyzerId binding count, f ∈ fields)
    (analyzer : isAnalyzerId analyzerId = true) (fixed : binding.isFixed = true)
    (bounds : 1 ≤ count ∧ count ≤ maxObservables) :
    isCommonAnalysisResult (fields.map fun f => (str f.1, f.2)) = true ∧
      Carries binding (fields.map fun f => (str f.1, f.2)) ∧
      Json.intAt (fields.map fun f => (str f.1, f.2)) "schema_version" = some version ∧
      Json.textAt (fields.map fun f => (str f.1, f.2)) "result_kind" = some kind ∧
      Json.intAt (fields.map fun f => (str f.1, f.2)) "observable_count" = some count := by
  have text {key : String} {s : Str} (h : (key, Json.string s) ∈ fields) :
      Json.textAt (fields.map fun f => (str f.1, f.2)) key = some s :=
    textAt_eq_some.mpr (field_document unique h)
  have int {key : String} {i : Int} (h : (key, Json.int i) ∈ fields) :
      Json.intAt (fields.map fun f => (str f.1, f.2)) key = some i :=
    intAt_eq_some.mpr (field_document unique h)
  simp only [resultFields, List.forall_mem_cons] at common
  obtain ⟨isVersion, isKind, isAnalyzer, approval, identity, statement, commitment, isCount, -⟩ :=
    common
  simp only [AnalysisBinding.isFixed, Bool.and_eq_true] at fixed
  refine ⟨?_, ⟨text approval, text identity, text statement, text commitment⟩, int isVersion,
    text isKind, int isCount⟩
  simp only [isCommonAnalysisResult, int isVersion, text isKind, text isAnalyzer, text approval,
    text identity, text statement, text commitment, int isCount, Option.isSome_some,
    Option.any_some, analyzer, isFixedLowerHex_hex fixed.1.1.1, isFixedLowerHex_hex fixed.1.1.2,
    isFixedLowerHex_hex fixed.1.2, isFixedLowerHex_hex fixed.2, bounds, decide_true, Bool.and_self]

theorem keysAre_document (keys : List String) (same : fields.map Prod.fst = keys) :
    keysAre (fields.map fun f => (str f.1, f.2)) keys = true := by
  rw [keysAre, decide_eq_true_eq, keys_document, same]

theorem kindCounts_document {counts : KindCounts} (bounded : counts.isBounded = true)
    {decoded : List (Str × Json)} (found : Json.field decoded (str "observable_kind_counts") =
      some (document counts.fields)) : kindCounts decoded = some counts := by
  have int {key : String} {i : Int} (h : (key, Json.int i) ∈ counts.fields) :
      Json.intAt (counts.fields.map fun f => (str f.1, f.2)) key = some i :=
    intAt_eq_some.mpr (field_document distinct_names.2 h)
  simp only [KindCounts.isBounded, Bool.and_eq_true] at bounded
  rw [kindCounts, found]
  simp only [document]
  rw [if_pos (keysAre_document observableKindCountFields rfl)]
  simp only [int (show ("file_sha256", Json.int counts.fileSha256) ∈ _ by simp [KindCounts.fields]),
    int (show ("api_import", Json.int counts.apiImport) ∈ _ by simp [KindCounts.fields]),
    int (show ("byte_pattern", Json.int counts.bytePattern) ∈ _ by simp [KindCounts.fields]),
    Option.filter_some, bounded, if_true]
  rfl

/-- The hex of bytes that are not all zero. -/
theorem hex_ne_zeros {b : Bytes} (nonzero : b.any (· != 0) = true) :
    hex b ≠ List.replicate 64 48 := by
  intro same
  have zeros : b = fromHex (List.replicate 64 48) := by rw [← same, fromHex_hex]
  rw [zeros] at nonzero
  exact absurd nonzero (by decide)

theorem ResultDocument.checked (h : ResultDocument binding fields) :
    isCommonAnalysisResult (fields.map fun f => (str f.1, f.2)) = true ∧
      isValidVersion (fields.map fun f => (str f.1, f.2)) = true ∧
      Carries binding (fields.map fun f => (str f.1, f.2)) := by
  have unique := h.keys.2
  cases h with
  | result analyzer fixed count =>
    obtain ⟨common, carries, version, kind, -⟩ :=
      isCommonAnalysisResult_of unique (fun f hf => hf) analyzer fixed count
    refine ⟨common, ?_, carries⟩
    rw [isValidVersion, version]
    simp only [if_true, kind, decide_true, Bool.and_true]
    exact keysAre_document _ rfl
  | @semanticDraft analyzerId counts candidate compileOk analyzer fixed bounded count isFixed
      nonzero =>
    obtain ⟨common, carries, version, kind, isCount⟩ := isCommonAnalysisResult_of unique
      (fun f hf => List.mem_append_left _ hf) analyzer fixed count
    refine ⟨common, ?_, carries⟩
    have isCounts := kindCounts_document bounded
      (field_document unique (show ("observable_kind_counts", document counts.fields) ∈ _ by
        simp [semanticDraftFields]))
    have isCandidate := textAt_eq_some.mpr
      (field_document unique (show ("candidate_binding_sha256", Json.string (hex candidate)) ∈ _ by
        simp [semanticDraftFields]))
    have isCompileOk := field_document unique (show ("rule_compile_ok", Json.bool compileOk) ∈ _ by
      simp [semanticDraftFields])
    rw [isValidVersion, version]
    simp only []
    rw [if_neg (by decide), if_true, kind, isSemanticDraftFields, isCounts, isCandidate,
      isCompileOk, isCount]
    simp only [Option.any_some, isFixedLowerHex_hex isFixed, hex_ne_zeros nonzero, ne_eq,
      not_false_eq_true, decide_true, Bool.and_true]
    exact keysAre_document _ rfl

/-- Its text is read back as it, with the binding. -/
theorem ResultDocument.decode (shallow : python.Shallow) (h : ResultDocument binding fields) :
    decodeAnalysisResult python (dump fields) = some ⟨hex binding.approvalId,
      hex binding.inputIdentity, hex binding.statementDigest, hex binding.observableCommitment⟩ := by
  have readable := h.readable
  have text : fromUtf8 (dump fields) = some ((document fields).compact quoteRaw) :=
    fromUtf8_encodeAscii (isAscii_compact _ readable.ascii)
  have nesting : (document fields).nesting ≤ 2 := nesting_document fun f hf => (h.values f hf).2.2
  have loaded : Json.loadsHooked python.loadsTooDeep python.floatRepr
      ((document fields).compact quoteRaw) =
        .ok (.object (fields.map fun f => (str f.1, f.2))) :=
    Json.loadsHooked_of_loads (shallow _ (nesting.trans (by decide))).1
      (Json.loads_compact python.floatRepr readable.exact) readable.unique
  obtain ⟨common, version, carries⟩ := h.checked
  have same : dumpsUtf8 (.object (fields.map fun f => (str f.1, f.2))) = some (dump fields) :=
    dumpsUtf8_document readable
  rw [decodeAnalysisResult, text]
  simp only [Option.bind_eq_bind, Option.bind_some, loaded, common, version, same, guard_true,
    carries.approvalId, carries.inputIdentity, carries.statementDigest,
    carries.observableCommitment]
  rfl

/-! ## What is accepted is a document of a result -/

theorem keysAre_iff {keys : List String} :
    keysAre decoded keys = true ↔ decoded.map Prod.fst = keys.map str := by
  rw [keysAre, decide_eq_true_eq]

theorem isCommonAnalysisResult_some (h : isCommonAnalysisResult decoded = true) :
    ∃ binding : AnalysisBinding, ∃ analyzerId count, binding.isFixed = true ∧
      Carries binding decoded ∧ isAnalyzerId analyzerId = true ∧
      Json.textAt decoded "analyzer_id" = some analyzerId ∧
      Json.intAt decoded "observable_count" = some count ∧
      (1 ≤ count ∧ count ≤ maxObservables) := by
  simp only [isCommonAnalysisResult, Bool.and_eq_true, Option.any_eq_true, decide_eq_true_eq] at h
  obtain ⟨⟨⟨⟨⟨⟨⟨-, -⟩, analyzerId, isAnalyzer, analyzer⟩, approval, isApproval, approvalHex⟩,
    identity, isIdentity, identityHex⟩, statement, isStatement, statementHex⟩, commitment,
    isCommitment, commitmentHex⟩, count, isCount, bounds⟩ := h
  obtain ⟨approvalId, fixedApproval, rfl⟩ := exists_bytes approvalHex
  obtain ⟨inputIdentity, fixedIdentity, rfl⟩ := exists_bytes identityHex
  obtain ⟨statementDigest, fixedStatement, rfl⟩ := exists_bytes statementHex
  obtain ⟨observableCommitment, fixedCommitment, rfl⟩ := exists_bytes commitmentHex
  refine ⟨⟨approvalId, inputIdentity, statementDigest, observableCommitment⟩, analyzerId, count, ?_,
    ⟨isApproval, isIdentity, isStatement, isCommitment⟩, analyzer, isAnalyzer, isCount, bounds⟩
  simp only [AnalysisBinding.isFixed, fixedApproval, fixedIdentity, fixedStatement,
    fixedCommitment, Bool.and_self]

/-- The values of the fields that every result starts with. -/
theorem Carries.resultFields (carries : Carries binding decoded) {version count : Int}
    {kind analyzerId : Str} (isVersion : Json.intAt decoded "schema_version" = some version)
    (isKind : Json.textAt decoded "result_kind" = some kind)
    (isAnalyzer : Json.textAt decoded "analyzer_id" = some analyzerId)
    (isCount : Json.intAt decoded "observable_count" = some count) :
    ∀ f ∈ resultFields version kind analyzerId binding count,
      Json.field decoded (str f.1) = some f.2 := by
  simp only [ApprovalLedger.resultFields, List.forall_mem_cons]
  exact ⟨intAt_eq_some.mp isVersion, textAt_eq_some.mp isKind, textAt_eq_some.mp isAnalyzer,
    textAt_eq_some.mp carries.approvalId, textAt_eq_some.mp carries.inputIdentity,
    textAt_eq_some.mp carries.statementDigest, textAt_eq_some.mp carries.observableCommitment,
    intAt_eq_some.mp isCount, by simp⟩

theorem kindCounts_some {counts : KindCounts} (h : kindCounts decoded = some counts) :
    counts.isBounded = true ∧
      Json.field decoded (str "observable_kind_counts") = some (document counts.fields) := by
  unfold kindCounts at h
  split at h
  · rename_i inner found
    obtain ⟨keys, h⟩ := Option.ite_none_right_eq_some.mp h
    obtain ⟨fileSha256, isFile, h⟩ := Option.bind_eq_some_iff.mp h
    obtain ⟨apiImport, isApi, h⟩ := Option.bind_eq_some_iff.mp h
    obtain ⟨bytePattern, isPattern, h⟩ := Option.bind_eq_some_iff.mp h
    obtain rfl := Option.some.inj h
    rw [Option.filter_eq_some_iff] at isFile isApi isPattern
    refine ⟨?_, ?_⟩
    · simp only [KindCounts.isBounded, isFile.2, isApi.2, isPattern.2, Bool.and_self]
    · rw [found, document]
      refine congrArg (some ∘ Json.object) (eq_document (keysAre_iff.mp keys) distinct_names.2 ?_)
      simp only [KindCounts.fields, List.forall_mem_cons]
      exact ⟨intAt_eq_some.mp isFile.1, intAt_eq_some.mp isApi.1, intAt_eq_some.mp isPattern.1,
        by simp⟩
  · cases h

theorem nonzero_of_hex {b : Bytes} (fixed : isFixedBytes b = true)
    (nonzero : hex b ≠ List.replicate 64 48) : b.any (· != 0) = true := by
  by_contra zeros
  rw [Bool.not_eq_true, List.any_eq_false] at zeros
  have same : b = List.replicate 32 0 := by
    rw [List.eq_replicate_iff]
    exact ⟨beq_iff_eq.mp fixed, fun x hx => by simpa using zeros x hx⟩
  exact nonzero (by rw [same]; rfl)

theorem isSemanticDraftFields_some (h : isSemanticDraftFields decoded = true) :
    ∃ counts : KindCounts, ∃ candidate compileOk, counts.isBounded = true ∧
      Json.intAt decoded "observable_count" = some counts.sum ∧
      isFixedBytes candidate = true ∧ candidate.any (· != 0) = true ∧
      ∀ f ∈ [("observable_kind_counts", document counts.fields),
          ("candidate_binding_sha256", Json.string (hex candidate)),
          ("rule_compile_ok", Json.bool compileOk)],
        Json.field decoded (str f.1) = some f.2 := by
  simp only [isSemanticDraftFields, Bool.and_eq_true, Option.any_eq_true, decide_eq_true_eq] at h
  obtain ⟨⟨⟨counts, isCounts, isSum⟩, s, isCandidate, isHex, nonzero⟩, h⟩ := h
  obtain ⟨candidate, fixed, rfl⟩ := exists_bytes isHex
  obtain ⟨bounded, isInner⟩ := kindCounts_some isCounts
  split at h
  · rename_i compileOk isOk
    refine ⟨counts, candidate, compileOk, bounded, isSum, fixed, nonzero_of_hex fixed nonzero, ?_⟩
    simp only [List.forall_mem_cons]
    exact ⟨isInner, textAt_eq_some.mp isCandidate, isOk, by simp⟩
  · cases h

theorem resultDocument_of_checked (common : isCommonAnalysisResult decoded = true)
    (version : isValidVersion decoded = true) :
    ∃ binding fields, ResultDocument binding fields ∧ Carries binding decoded ∧
      decoded = fields.map fun f => (str f.1, f.2) := by
  obtain ⟨binding, analyzerId, count, fixed, carries, analyzer, isAnalyzer, isCount, bounds⟩ :=
    isCommonAnalysisResult_some common
  unfold isValidVersion at version
  split at version
  · rename_i number isVersion
    split at version
    · rename_i isFirst
      rw [Bool.and_eq_true, keysAre_iff, decide_eq_true_eq] at version
      rw [isFirst] at isVersion
      exact ⟨binding, _, .result analyzer fixed bounds, carries, eq_document version.1 distinct_v1
        (carries.resultFields isVersion version.2 isAnalyzer isCount)⟩
    · split at version
      · rename_i isSecond
        rw [Bool.and_eq_true, Bool.and_eq_true, keysAre_iff, decide_eq_true_eq] at version
        rw [isSecond] at isVersion
        obtain ⟨⟨keys, isKind⟩, draft⟩ := version
        obtain ⟨counts, candidate, compileOk, bounded, isSum, isFixed, nonzero, values⟩ :=
          isSemanticDraftFields_some draft
        obtain rfl : count = counts.sum := Option.some.inj (isCount.symm.trans isSum)
        refine ⟨binding, _, .semanticDraft analyzer fixed bounded bounds isFixed nonzero, carries,
          eq_document keys distinct_names.1 (List.forall_mem_append.mpr
            ⟨carries.resultFields isVersion isKind isAnalyzer isCount, values⟩)⟩
      · cases version
  · cases version

/-- The reader accepts the documents of results and nothing else. -/
theorem decodeAnalysisResult_iff (shallow : python.Shallow) {result : AnalysisResult} :
    decodeAnalysisResult python wire = some result ↔ ∃ binding fields,
      ResultDocument binding fields ∧ wire = dump fields ∧
        result = ⟨hex binding.approvalId, hex binding.inputIdentity, hex binding.statementDigest,
          hex binding.observableCommitment⟩ := by
  constructor
  · intro h
    unfold decodeAnalysisResult at h
    obtain ⟨text, -, h⟩ := Option.bind_eq_some_iff.mp h
    split at h
    · rename_i decoded loaded
      obtain ⟨_, common, h⟩ := Option.bind_eq_some_iff.mp h
      obtain ⟨_, version, h⟩ := Option.bind_eq_some_iff.mp h
      obtain ⟨_, same, h⟩ := Option.bind_eq_some_iff.mp h
      rw [Option.guard_eq_some'] at common version same
      obtain ⟨binding, fields, isResult, carries, rfl⟩ := resultDocument_of_checked common version
      have written : dumpsUtf8 (document fields) = some wire := same
      rw [dumpsUtf8_document isResult.readable] at written
      refine ⟨binding, fields, isResult, (Option.some.inj written).symm, ?_⟩
      rw [carries.approvalId, carries.inputIdentity, carries.statementDigest,
        carries.observableCommitment] at h
      exact (Option.some.inj h).symm
    · cases h
  · rintro ⟨binding, fields, isResult, rfl, rfl⟩
    exact isResult.decode shallow

/-! ## The wires of the builders -/

/-- One of the builders writes the wire with this binding, for some other arguments. -/
inductive IsBuilt (wire : Bytes) (binding : AnalysisBinding) : Prop
  | result {analyzerId : Str} {observableCount : Int}
      (built : buildAnalysisResultWire analyzerId binding observableCount = some wire)
  | semanticDraft {analyzerId : Str} {counts : KindCounts} {candidateBindingSha256 : Bytes}
      {ruleCompileOk : Bool} (built : buildSemanticDraftResultWire analyzerId binding counts
        candidateBindingSha256 ruleCompileOk = some wire)

theorem isBuilt_iff : IsBuilt wire binding ↔
    isBoundedWire wire = true ∧ ∃ fields, ResultDocument binding fields ∧ wire = dump fields := by
  constructor
  · rintro (@⟨analyzerId, count, built⟩ | @⟨analyzerId, counts, candidate, compileOk, built⟩)
    · unfold buildAnalysisResultWire at built
      obtain ⟨valid, built⟩ := Option.ite_none_left_eq_some.mp built
      simp only [not_or, not_not] at valid
      obtain ⟨written, bounded⟩ := Option.filter_eq_some_iff.mp built
      have isResult : ResultDocument binding _ := .result valid.1 valid.2.1 valid.2.2
      rw [dumpsUtf8_document isResult.readable] at written
      exact ⟨bounded, _, isResult, (Option.some.inj written).symm⟩
    · unfold buildSemanticDraftResultWire at built
      obtain ⟨valid, built⟩ := Option.ite_none_left_eq_some.mp built
      simp only [not_or, not_not] at valid
      obtain ⟨written, bounded⟩ := Option.filter_eq_some_iff.mp built
      obtain ⟨analyzer, fixed, isCounts, bounds, candidateFixed, nonzero⟩ := valid
      have isResult : ResultDocument binding
          (semanticDraftFields analyzerId binding counts candidate compileOk) :=
        .semanticDraft analyzer fixed isCounts bounds candidateFixed nonzero
      rw [isResult.compact_eq] at written
      exact ⟨bounded, _, isResult, (Option.some.inj written).symm⟩
  · rintro ⟨bounded, fields, isResult, rfl⟩
    have readable := isResult.readable
    have same := isResult.compact_eq
    cases isResult with
    | @result analyzerId count analyzer fixed bounds =>
      have built : buildAnalysisResultWire analyzerId binding count =
          some (dump (resultFields analysisResultSchemaVersion analysisResultKind analyzerId binding
            count)) := by
        rw [buildAnalysisResultWire, if_neg (by simp [analyzer, fixed, bounds]),
          dumpsUtf8_document readable, Option.filter_some, if_pos bounded]
      exact .result built
    | @semanticDraft analyzerId counts candidate compileOk analyzer fixed isCounts bounds
        candidateFixed nonzero =>
      have valid : ¬ (¬ isAnalyzerId analyzerId ∨ ¬ binding.isFixed ∨ ¬ counts.isBounded ∨
          ¬ (1 ≤ counts.sum ∧ counts.sum ≤ maxObservables) ∨ ¬ isFixedBytes candidate ∨
          ¬ candidate.any (· != 0)) := by
        simp only [not_or, not_not]
        exact ⟨analyzer, fixed, isCounts, bounds, candidateFixed, nonzero⟩
      have built : buildSemanticDraftResultWire analyzerId binding counts candidate compileOk =
          some (dump (semanticDraftFields analyzerId binding counts candidate compileOk)) := by
        rw [buildSemanticDraftResultWire, if_neg valid, same, Option.filter_some]
        exact if_pos bounded
      exact .semanticDraft built

/-- The validator accepts the wires of the builders for the expected binding. -/
theorem validateAnalysisResultWire_iff (shallow : python.Shallow) (codec : WireCodec)
    (wire approvalId inputIdentity : Bytes) (statementDigest observableCommitment : Option Bytes) :
    validateAnalysisResultWire (codec.withResults python) wire approvalId inputIdentity
        statementDigest observableCommitment = true ↔
      ∃ binding, IsBuilt wire binding ∧ binding.approvalId = approvalId ∧
        binding.inputIdentity = inputIdentity ∧
        (∀ d, statementDigest = some d → binding.statementDigest = d) ∧
        ∀ c, observableCommitment = some c → binding.observableCommitment = c := by
  have read {result : AnalysisResult} :=
    @decodeAnalysisResult_iff python wire shallow result
  constructor
  · intro h
    rw [validateAnalysisResultWire, Bool.and_eq_true] at h
    obtain ⟨shape, h⟩ := h
    simp only [Bool.and_eq_true] at shape
    cases decoded : decodeAnalysisResult python wire with
    | none =>
      rw [show (codec.withResults python).decodeAnalysisResult wire = none from decoded] at h
      cases h
    | some result =>
      rw [show (codec.withResults python).decodeAnalysisResult wire = some result from decoded] at h
      obtain ⟨binding, fields, isResult, isWire, rfl⟩ := read.mp decoded
      simp only [Bool.and_eq_true, decide_eq_true_eq] at h
      obtain ⟨⟨⟨approval, identity⟩, statement⟩, commitment⟩ := h
      refine ⟨binding, isBuilt_iff.mpr ⟨Bool.and_eq_true_iff.mpr shape.1.1.1.1, fields, isResult,
        isWire⟩, hex_inj approval, hex_inj identity, ?_, ?_⟩
      · rintro d rfl
        exact hex_inj (by simpa using statement)
      · rintro c rfl
        exact hex_inj (by simpa using commitment)
  · rintro ⟨binding, built, rfl, rfl, statement, commitment⟩
    obtain ⟨bounded, fields, isResult, isWire⟩ := isBuilt_iff.mp built
    have decoded := read.mpr ⟨binding, fields, isResult, isWire, rfl⟩
    have fixed : binding.isFixed = true := by cases isResult <;> assumption
    simp only [AnalysisBinding.isFixed, Bool.and_eq_true] at fixed
    rw [isBoundedWire, Bool.and_eq_true] at bounded
    rw [validateAnalysisResultWire,
      show (codec.withResults python).decodeAnalysisResult wire = some _ from decoded]
    simp only [Bool.and_eq_true, decide_eq_true_eq, Option.all_eq_true]
    simp only [decide_eq_true_eq] at bounded
    refine ⟨⟨⟨⟨⟨bounded, fixed.1.1.1⟩, fixed.1.1.2⟩, ?_⟩, ?_⟩, ⟨⟨trivial, trivial⟩, ?_⟩, ?_⟩
    · exact fun d isExpected => statement d isExpected ▸ fixed.1.2
    · exact fun c isExpected => commitment c isExpected ▸ fixed.2
    · exact fun d isExpected => congrArg hex (statement d isExpected)
    · exact fun c isExpected => congrArg hex (commitment c isExpected)

/-! ## Completions store results of the builders -/

variable {codec : WireCodec} {db db' : Db}

/-- The stored result is one of a builder, for the approval and the identity it is stored under. -/
def BuiltResult (row : ResultRow) : Prop :=
  ∃ binding, IsBuilt row.resultWire binding ∧ binding.approvalId = row.approvalId ∧
    binding.inputIdentity = row.inputIdentity

/-- A call keeps the stored results built: the one it may add has passed the validator. -/
theorem Effect.builtResults {call : Call} {out : Except ConsumptionError Answer}
    (shallow : python.Shallow) (effect : Effect (codec.withResults python) db call out db')
    (built : ∀ row ∈ db.observableAnalysisResults.rows, BuiltResult row) :
    ∀ row ∈ db'.observableAnalysisResults.rows, BuiltResult row := by
  intro row stored
  rcases effect.result_recorded row stored with old | ⟨_, arguments, _, source, _, _, -, recorded, rfl⟩
  · exact built row old
  · obtain ⟨binding, isBuilt, approval, identity, -⟩ :=
      (validateAnalysisResultWire_iff shallow codec _ _ _ _ _).mp recorded.wire
    exact ⟨binding, isBuilt, approval, identity⟩

/-- A completion that returned stored its result, or had been stored before. -/
theorem complete_returned {outbox : OutboxObject} {arguments : CompleteArguments} {io : Io}
    {completion : AnalysisCompletion}
    (h : complete codec outbox (some arguments) io db = (.ok completion, db')) :
    (∃ row, Retried codec arguments row completion db db') ∨
      ∃ row leaseExpiresAt,
        Recorded codec outbox.networkId arguments row leaseExpiresAt completion db db' := by
  simp only [complete] at h
  split at h
  · rcases runTransaction_cases h with ⟨_, raised, -⟩ | ⟨_, returned, transaction⟩
    · cases raised
    · cases returned
      exact completeTransaction_ok transaction
  · cases (Prod.mk.inj h).1

/-- What the results of a claim are bound to. -/
def OutboxClaim.analysisBinding (claim : OutboxClaim) : AnalysisBinding :=
  ⟨claim.approvalId, claim.inputIdentity, claim.statementDigest, claim.observableCommitment⟩

theorem isResultFor_iff (shallow : python.Shallow) {claim : OutboxClaim} :
    IsResultFor (codec.withResults python) claim wire ↔ IsBuilt wire claim.analysisBinding := by
  rw [IsResultFor, validateAnalysisResultWire_iff shallow]
  constructor
  · rintro ⟨⟨approvalId, inputIdentity, statementDigest, observableCommitment⟩, built, rfl, rfl,
      statement, commitment⟩
    obtain rfl := statement _ rfl
    obtain rfl := commitment _ rfl
    exact built
  · intro built
    exact ⟨_, built, rfl, rfl, fun d same => Option.some.inj same, fun c same => Option.some.inj same⟩

/-- The completion of a held claim is accepted exactly when its wire is one of a builder. -/
theorem complete_held_iff (shallow : python.Shallow)
    (digests : ∀ m, isFixedBytes (codec.sha256 m) = true) (inv : OutboxInv db)
    {outbox : OutboxObject} {claim : OutboxClaim} {row : OutboxRow} {arguments : CompleteArguments}
    (held : Held (codec.withResults python) outbox.networkId claim row db)
    (completes : CompletesClaim claim arguments) :
    (∃ completion, (complete (codec.withResults python) outbox (some arguments) .none db).1 =
      .ok completion) ↔ IsBuilt arguments.resultWire claim.analysisBinding := by
  rw [← @isResultFor_iff python arguments.resultWire codec shallow claim]
  constructor
  · rintro ⟨completion, returned⟩
    have sameApproval := held.approvalId.trans completes.approval.symm
    rcases complete_returned (Prod.ext returned rfl) with ⟨_, retried⟩ | ⟨source, _, recorded⟩
    · exact absurd sameApproval (retried.absent row (held.pruned completes.live))
    · obtain rfl := outboxRow_unique _ held.stored recorded.stored
        (sameApproval.trans recorded.approval.symm)
      have valid := recorded.wire
      rw [completes.approval, completes.identity] at valid
      rw [IsResultFor, show claim.statementDigest = row.statementDigest by rw [held.isClaim]; rfl,
        show claim.observableCommitment = row.observableCommitment by rw [held.isClaim]; rfl]
      exact valid
  · intro valid
    have isFixed : ∀ m, isFixedBytes ((codec.withResults python).sha256 m) = true := digests
    obtain ⟨_, returned, -⟩ := complete_held isFixed inv held completes valid
    exact ⟨_, congrArg Prod.fst returned⟩

/-- The validator accepts the wires of the builders and no others; so in every run what is stored is
a builder's, and a held claim is completed by every one of its builders' wires and by no other. -/
theorem analysis_result_wires (shallow : python.Shallow)
    (digests : ∀ m, isFixedBytes (codec.sha256 m) = true) :
    (∀ wire approvalId inputIdentity statementDigest observableCommitment,
      validateAnalysisResultWire (codec.withResults python) wire approvalId inputIdentity
          statementDigest observableCommitment = true ↔
        ∃ binding, IsBuilt wire binding ∧ binding.approvalId = approvalId ∧
          binding.inputIdentity = inputIdentity ∧
          (∀ d, statementDigest = some d → binding.statementDigest = d) ∧
          ∀ c, observableCommitment = some c → binding.observableCommitment = c) ∧
      ∀ (h : List LedgerEvent) (db : Db), Run (step (codec.withResults python)) Unused h db →
        (∀ row ∈ db.observableAnalysisResults.rows, BuiltResult row) ∧
          ∀ outbox claim row arguments,
            Held (codec.withResults python) (OutboxObject.networkId outbox) claim row db →
            CompletesClaim claim arguments →
            ((∃ completion, (complete (codec.withResults python) outbox (some arguments) .none
                db).1 = .ok completion) ↔ IsBuilt arguments.resultWire claim.analysisBinding) := by
  refine ⟨validateAnalysisResultWire_iff shallow codec, fun h db run => ⟨?_, ?_⟩⟩
  · refine run.invariant (fun db => ∀ row ∈ db.observableAnalysisResults.rows, BuiltResult row) ?_ ?_
    · intro db unused row stored
      rw [unused.2.1] at stored
      cases stored
    · exact fun db call built => (step_effect _ call db).builtResults shallow built
  · intro outbox claim row arguments held completes
    have inv := run.invariant OutboxInv (fun _ => outboxInv_of_unused) (outboxInv_step _)
    exact complete_held_iff shallow digests inv held completes

/-! ### A run -/

/-- What the results of the sample claim of an identity are bound to. -/
def sampleBinding (identity token : UInt8) (consumedAt leaseExpiresAt : Int) : AnalysisBinding :=
  let row := sampleRow identity consumedAt
  ⟨row.approvalId, sha256 (analysisInputPreimage (str "testnet-10") row
    (List.replicate 32 token) leaseExpiresAt), row.statementDigest, row.observableCommitment⟩

/-- The sample completion with a wire in place of the sample wire. -/
def builtCompletion (wire : Bytes) : CompleteArguments :=
  { sampleCompletion 1 6 10 22 15 with resultWire := wire }

/-- Enqueue an approval and complete it with what a builder writes. -/
def builtResultCalls : List Call :=
  [.openLedger outboxLedger .none, sampleEnqueue 1 10, sampleClaim 6 12,
    .complete sampleOutbox ((buildSemanticDraftResultWire (str "yara") (sampleBinding 1 6 10 22)
      ⟨1, 0, 2⟩ (List.replicate 32 5) true).map builtCompletion) .none]

theorem analysis_result_wires_stored :
    let run := execute (step (sampleCodec.withResults baseInterpreter)) builtResultCalls Db.fresh
    run.1.map (fun e => accepted e.output) = [true, true, true, true] ∧
      run.2.observableAnalysisResults.count = 1 ∧
      ∀ row ∈ run.2.observableAnalysisResults.rows, BuiltResult row := by
  have digests : ∀ m, isFixedBytes (sampleCodec.sha256 m) = true :=
    fun m => beq_iff_eq.mpr (length_sha256 m)
  have unused : Unused Db.fresh := ⟨rfl, rfl, rfl⟩
  exact ⟨by decide +kernel, by decide +kernel,
    ((analysis_result_wires baseInterpreter_shallow digests).2 _ _
      (Run.of_execute unused builtResultCalls)).1⟩

end Prometheus.Jaeger.ApprovalLedger
