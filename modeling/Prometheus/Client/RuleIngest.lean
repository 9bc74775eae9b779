import Prometheus.Codec.Serde

/-!
# CID-bound rule ingestion

`modules/client/src/blockchain/rule_ingest.rs`, the CID checks of `rule_fetch.rs` and the rule sets
of `security/scanner.rs`: how a snapshot of rule metadata and content becomes a set of compiled
rules. A Rust `String` is its UTF-8 bytes. `Sha256::digest` and `multibase` are parameters.
-/

namespace Prometheus.Client

open Prometheus.Codec

/-- What the rule modules take from their crates. -/
structure RuleCodec where
  sha256 : Bytes → Vector UInt8 32
  /-- `multibase::decode` of a text; `none` also where the base is not `Base32Lower`. -/
  decodeBase32 : Bytes → Option Bytes
  /-- `multibase::encode(Base32Lower, …)`. -/
  encodeBase32 : Bytes → Bytes

/-- `MAX_RULES_PER_SNAPSHOT`. -/
def maxRulesPerSnapshot : Nat := 256

/-- `MAX_CONTENT_BYTES`. -/
def maxContentBytes : Nat := 64 * 1024

/-- `MAX_PATTERNS_PER_RULE`. -/
def maxPatternsPerRule : Nat := 64

/-- `MAX_PATTERN_BYTES`. -/
def maxPatternBytes : Nat := 1024

/-- `MAX_RULE_ID_BYTES`. -/
def maxRuleIdBytes : Nat := 128

inductive RuleType
  | yara
  | stix
  | sigma
  | suricata
  deriving DecidableEq, Repr

/-- The fields of `RuleStateMetadata` that the sync path reads. -/
structure RuleStateMetadata where
  ruleId : Bytes
  ruleType : RuleType
  ipfsCid : Bytes
  active : Bool
  deriving DecidableEq, Repr

/-- `RuleMetadataSnapshotEntry`. -/
structure RuleMetadataSnapshotEntry where
  metadata : RuleStateMetadata
  content : Bytes
  deriving DecidableEq, Repr

structure CompiledRule where
  name : Bytes
  patterns : List Bytes
  requiredMatches : Nat
  deriving DecidableEq, Repr

/-! ## Content identifiers -/

/-- `CID_RAW_SHA256_LEN`. -/
def cidRawSha256Len : Nat := 36

/-- `CID_RAW_SHA256_HEADER`. -/
def cidRawSha256Header : Bytes := [0x01, 0x55, 0x12, 0x20]

/-- `validate_canonical_raw_cid`: the digest in the CID. -/
def validateCanonicalRawCid (codec : RuleCodec) (cid : Bytes) : Option Bytes :=
  if cid.length ≠ 59 ∨ cid.any (fun b => 128 ≤ b) then none
  else
    match codec.decodeBase32 cid with
    | none => none
    | some bytes =>
      if codec.encodeBase32 bytes ≠ cid then none
      else if bytes.length ≠ cidRawSha256Len ∨ bytes.take 4 ≠ cidRawSha256Header then none
      else some (bytes.drop 4)

/-- `verify_raw_cid_content_binding`. -/
def verifyRawCidContentBinding (codec : RuleCodec) (cid content : Bytes) : Bool :=
  match validateCanonicalRawCid codec cid with
  | none => false
  | some expected => decide ((codec.sha256 content).toList = expected)

/-! ## Texts -/

/-- `char::is_whitespace`. -/
def isWhitespace (c : Nat) : Bool :=
  (decide (9 ≤ c) && decide (c ≤ 13)) || c == 32 || c == 0x85 || c == 0xA0 || c == 0x1680 ||
    (decide (0x2000 ≤ c) && decide (c ≤ 0x200A)) || c == 0x2028 || c == 0x2029 || c == 0x202F ||
    c == 0x205F || c == 0x3000

/-- `str::trim`. -/
def trim (s : Str) : Str := ((s.dropWhile isWhitespace).reverse.dropWhile isWhitespace).reverse

/-- A line without the carriage return before its line feed. -/
def stripCarriageReturn (line : Str) : Str :=
  if line.getLast? = some 13 then line.dropLast else line

/-- `str::lines`. -/
def lines (s : Str) : List Str :=
  let pieces := s.splitOn 10
  pieces.dropLast.map stripCarriageReturn ++ pieces.getLast?.toList.filter fun line => line ≠ []

/-- `str::split_whitespace`. -/
def splitWhitespace (s : Str) : List Str := (s.splitOnP isWhitespace).filter fun token => token ≠ []

/-- `is_ascii_alphanumeric`. -/
def isAsciiAlphanumeric (c : Nat) : Bool :=
  (decide (48 ≤ c) && decide (c ≤ 57)) || (decide (65 ≤ c) && decide (c ≤ 90)) ||
    (decide (97 ≤ c) && decide (c ≤ 122))

/-! ## Rule content -/

/-- `validate_rule_id`. -/
def validateRuleId (ruleId : Bytes) : Bool :=
  !ruleId.isEmpty && decide (ruleId.length ≤ maxRuleIdBytes) &&
    ruleId.all fun b => isAsciiAlphanumeric b.toNat || b == 45 || b == 95

/-- `parse_string_line`: the identifier and the literal of `$id = "literal"`. A literal it accepts
is printable ASCII, so its characters are its bytes. -/
def parseStringLine (line : Str) : Option (Str × Bytes) :=
  match line with
  | 36 :: rest =>
    match rest.findIdx? fun c => c = 61 with
    | none => none
    | some eq =>
      let id := trim (rest.take eq)
      let value := trim (rest.drop (eq + 1))
      let literal := (value.drop 1).dropLast
      if ¬ (id ≠ [] ∧ id.length ≤ 32 ∧ id.all fun c => isAsciiAlphanumeric c || c == 95) then none
      else if value.length < 2 ∨ value.head? ≠ some 34 ∨ value.getLast? ≠ some 34 then none
      else if literal ≠ [] ∧ literal.length ≤ maxPatternBytes ∧
          literal.all fun c => decide (0x20 ≤ c) && decide (c ≤ 0x7e) && c != 34 && c != 92 then
        some (id, encodeAscii literal)
      else none
  | _ => none

/-- The `stage` of `parse_rule_text`, from 0 to 5. -/
inductive RuleStage
  | header
  | stringsMarker
  | stringLines
  | conditionValue
  | closingBrace
  | closed
  deriving DecidableEq, Repr

/-- The variables of the loop. The set `literals` of the source holds the elements of `patterns`. -/
structure RuleParse where
  stage : RuleStage
  patterns : List Bytes
  stringIds : List Str
  deriving DecidableEq, Repr

/-- One line of `parse_rule_text`. -/
def parseRuleLine (expectedId : Bytes) (parse : RuleParse) (rawLine : Str) : Option RuleParse :=
  let line := trim rawLine
  if line = [] then some parse
  else
    match parse.stage with
    | .header =>
      if splitWhitespace line = [str "rule", expectedId.map UInt8.toNat, [123]] then
        some { parse with stage := .stringsMarker }
      else none
    | .stringsMarker =>
      if line = str "strings:" then some { parse with stage := .stringLines } else none
    | .stringLines =>
      if line = str "condition:" then
        if parse.patterns = [] then none else some { parse with stage := .conditionValue }
      else
        match parseStringLine line with
        | none => none
        | some (id, literal) =>
          if id ∈ parse.stringIds ∨ literal ∈ parse.patterns then none
          else if maxPatternsPerRule < parse.patterns.length + 1 then none
          else some { parse with
            patterns := parse.patterns ++ [literal]
            stringIds := id :: parse.stringIds }
    | .conditionValue =>
      if line = str "any of them" then some { parse with stage := .closingBrace } else none
    | .closingBrace => if line = [125] then some { parse with stage := .closed } else none
    | .closed => none

/-- `parse_rule_text`. -/
def parseRuleText (expectedId : Bytes) (text : Str) : Option (List Bytes) :=
  match (lines text).foldlM (parseRuleLine expectedId) ⟨.header, [], []⟩ with
  | none => none
  | some parse => if parse.stage = .closed then some parse.patterns else none

/-- `compile_fields`, without the set of seen identifiers. -/
def compileFields (codec : RuleCodec) (entry : RuleMetadataSnapshotEntry) : Option CompiledRule :=
  let ruleId := entry.metadata.ruleId
  if ¬ entry.metadata.active ∨ entry.metadata.ruleType ≠ .yara ∨ ¬ validateRuleId ruleId then none
  else if entry.content = [] ∨ maxContentBytes < entry.content.length then none
  else if ¬ verifyRawCidContentBinding codec entry.metadata.ipfsCid entry.content then none
  else
    match fromUtf8 entry.content with
    | none => none
    | some text => (parseRuleText ruleId text).map fun patterns => ⟨ruleId, patterns, 1⟩

/-- `compile_metadata_entry` on each entry, with the identifiers seen so far. -/
def compileEntries (codec : RuleCodec) :
    List RuleMetadataSnapshotEntry → List Bytes → Option (List CompiledRule)
  | [], _ => some []
  | entry :: entries, seenIds =>
    if entry.metadata.ruleId ∈ seenIds then none
    else
      match compileFields codec entry with
      | none => none
      | some rule =>
        (compileEntries codec entries (entry.metadata.ruleId :: seenIds)).map fun rules =>
          rule :: rules

/-- `validate_rule` of the scanner. -/
def validateRule (rule : CompiledRule) : Bool :=
  !rule.name.isEmpty && !rule.patterns.isEmpty && rule.patterns.all (fun p => !p.isEmpty) &&
    decide (rule.requiredMatches ≠ 0) && decide (rule.requiredMatches ≤ rule.patterns.length)

/-- `validate_rule_set`. -/
def validateRuleSet (rules : List CompiledRule) : Bool :=
  rules.all validateRule && decide (rules.map CompiledRule.name).Nodup

/-- `PreparedRuleSnapshot::prepare`. -/
def prepare (codec : RuleCodec) (snapshot : List RuleMetadataSnapshotEntry) :
    Option (List CompiledRule) :=
  if maxRulesPerSnapshot < snapshot.length then none
  else
    match compileEntries codec snapshot [] with
    | none => none
    | some rules => if validateRuleSet rules then some rules else none

example : parseRuleText (ascii "R") (str "rule R \x7b\n strings:\n$a = \"X\"\r\ncondition:\n\nany of them\n\x7d") =
    some [ascii "X"] := by
  decide

end Prometheus.Client
