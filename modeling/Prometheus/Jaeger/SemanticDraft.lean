import Prometheus.Jaeger.YaraValidation
import Prometheus.ThreatHint.ObservableBundle

/-!
# The semantic draft of an observable bundle

`modules/guardian-node/jaeger/observable_semantic_draft.py`: the imports and byte patterns of a
bundle, written as one YARA rule. The rule is hashed and handed to the compile-only boundary, whose
answer is a parameter; `none` stands for an exception or an answer that is no boolean.
-/

namespace Prometheus.Jaeger.SemanticDraft

open Prometheus.Codec
open Prometheus.Jaeger.YaraValidation (maxYaraSourceBytes)
open Prometheus.ThreatHint (ObservableKind)
open Prometheus.ThreatHint.Python (Observable ObservableBundle)

/-- `_RULE_NAME`. -/
def ruleName : Str := str "prometheus_observable_semantic_draft_v1"

/-- `_HEX_DIGITS`. -/
def hexDigits : Str := str "0123456789abcdef"

/-- `_API_IMPORT_START_CHARS`. -/
def apiImportStartChars : Str := str "abcdefghijklmnopqrstuvwxyzABCDEFGHIJKLMNOPQRSTUVWXYZ_"

/-- `_API_IMPORT_CHARS`. -/
def apiImportChars : Str :=
  str "abcdefghijklmnopqrstuvwxyzABCDEFGHIJKLMNOPQRSTUVWXYZ0123456789_.@-"

/-- `_MAX_API_IMPORT_LEN`. -/
def maxApiImportLen : Nat := 96

/-- `_MIN_BYTE_PATTERN_TOKENS`. -/
def minBytePatternTokens : Nat := 8

/-- `_MAX_BYTE_PATTERN_TOKENS`. -/
def maxBytePatternTokens : Nat := 64

/-- What the derivation can raise: its own error, or what encoding a text that is not ASCII raises. -/
inductive DraftFailure
  | observableSemanticDraftError
  | unicodeEncodeError
  deriving DecidableEq, Repr

structure ObservableSemanticDraft where
  fileSha256Count : Nat
  apiImportCount : Nat
  bytePatternCount : Nat
  candidateRuleSha256 : Bytes
  ruleCompileOk : Bool
  deriving DecidableEq, Repr

/-- A kind and a value that are written into the source. -/
abbrev Pattern := ObservableKind × Str

/-- `_check_file_sha256`. -/
def checkFileSha256 (value : Str) : Except DraftFailure Unit :=
  if value.length ≠ 64 ∨ ∃ char ∈ value, char ∉ hexDigits then .error .observableSemanticDraftError
  else .ok ()

/-- `_check_api_import`. -/
def checkApiImport (value : Str) : Except DraftFailure Unit :=
  if ¬ (1 ≤ value.length ∧ value.length ≤ maxApiImportLen) then .error .observableSemanticDraftError
  else if ¬ ∃ first ∈ value.head?, first ∈ apiImportStartChars then
    .error .observableSemanticDraftError
  else if ∃ char ∈ value, char ∉ apiImportChars then .error .observableSemanticDraftError
  else .ok ()

/-- The loop over the tokens of a byte pattern. -/
def countFixed (fixed : Nat) : List Str → Except DraftFailure Nat
  | [] => .ok fixed
  | token :: tokens =>
    if token = str "??" then countFixed fixed tokens
    else if token.length ≠ 2 ∨ ∃ char ∈ token, char ∉ hexDigits then
      .error .observableSemanticDraftError
    else countFixed (fixed + 1) tokens

/-- `_check_byte_pattern`. -/
def checkBytePattern (value : Str) : Except DraftFailure Unit :=
  if ∃ char ∈ value, ¬ char < 128 then .error .observableSemanticDraftError
  else
    let tokens := value.splitOn 32
    if ¬ (minBytePatternTokens ≤ tokens.length ∧ tokens.length ≤ maxBytePatternTokens) then
      .error .observableSemanticDraftError
    else
      match countFixed 0 tokens with
      | .error e => .error e
      | .ok fixed =>
        if fixed < minBytePatternTokens then .error .observableSemanticDraftError else .ok ()

/-- `_checked_observable`. -/
def checkedObservable (observable : Observable) : Except DraftFailure Pattern := do
  match observable.kind with
  | .fileSha256 => checkFileSha256 observable.value
  | .apiImport => checkApiImport observable.value
  | .bytePattern => checkBytePattern observable.value
  .ok (observable.kind, observable.value)

/-- The loop over the observables, with the count of the digests and the patterns. -/
def collect (fileSha256Count : Nat) (patterns : List Pattern) :
    List Observable → Except DraftFailure (Nat × List Pattern)
  | [] => .ok (fileSha256Count, patterns)
  | observable :: observables =>
    match checkedObservable observable with
    | .error e => .error e
    | .ok (kind, value) =>
      if kind = .fileSha256 then collect (fileSha256Count + 1) patterns observables
      else collect fileSha256Count (patterns ++ [(kind, value)]) observables

/-- The line of a pattern. -/
def patternLine (index : Nat) (pattern : Pattern) : Str :=
  let (kind, value) := pattern
  if kind = .apiImport then
    str "        $p" ++ decimal index ++ str " = \"" ++ value ++ str "\""
  else
    str "        $p" ++ decimal index ++ str " = \x7b " ++ value ++ str " \x7d"

/-- `enumerate` and the loop over the patterns. -/
def patternLines (index : Nat) : List Pattern → List Str
  | [] => []
  | pattern :: patterns => patternLine index pattern :: patternLines (index + 1) patterns

/-- `_render_candidate_source`. -/
def renderCandidateSource (patterns : List Pattern) : Str :=
  let head := [str "rule " ++ ruleName ++ str " \x7b"]
  let body :=
    if patterns ≠ [] then
      [str "    strings:"] ++ patternLines 0 patterns ++
        [str "    condition:", str "        any of them"]
    else [str "    condition:", str "        filesize == 0 and filesize > 0"]
  List.intercalate [10] (head ++ body ++ [str "\x7d"])

/-- `derive_semantic_draft` of a bundle; `validate` is `validate_candidate_rule_source`. -/
def deriveSemanticDraft (sha256 : Bytes → Bytes) (validate : Str → Option Bool)
    (bundle : ObservableBundle) : Except DraftFailure ObservableSemanticDraft :=
  match bundle.canonicalBytes with
  | .error _ => .error .observableSemanticDraftError
  | .ok _ =>
    if bundle.observables = [] then .error .observableSemanticDraftError
    else
      match collect 0 [] bundle.observables with
      | .error e => .error e
      | .ok (fileSha256Count, patterns) =>
        let apiImportCount := patterns.countP fun pattern => pattern.1 = .apiImport
        let bytePatternCount := patterns.length - apiImportCount
        let source := renderCandidateSource patterns
        if ∃ char ∈ source, ¬ char < 128 then .error .unicodeEncodeError
        else
          let sourceBytes := encodeAscii source
          if maxYaraSourceBytes < sourceBytes.length then .error .observableSemanticDraftError
          else
            let digest := sha256 sourceBytes
            match validate source with
            | none => .error .observableSemanticDraftError
            | some verdict =>
              .ok
                { fileSha256Count, apiImportCount, bytePatternCount
                  candidateRuleSha256 := digest
                  ruleCompileOk := verdict }

end Prometheus.Jaeger.SemanticDraft
