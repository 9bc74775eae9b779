import Prometheus.Client.RuleGrammar
import Prometheus.Client.RuleSync

/-!
# The scanner's rules and its scans

`YaraScanner` of `modules/client/src/security/scanner.rs` and the functions of `rule_ingest.rs` that
install a snapshot in it. The confidence of a scan, a floating-point number, is left out.
-/

namespace Prometheus.Client

open Prometheus.Codec

/-! ## Installing a snapshot -/

structure YaraScanner where
  rules : List CompiledRule
  deriving DecidableEq, Repr

/-- `replace_rules`: whether it returned `Ok`, and the scanner after it. -/
def YaraScanner.replaceRules (scanner : YaraScanner) (rules : List CompiledRule) :
    Bool × YaraScanner :=
  if validateRuleSet rules then (true, ⟨rules⟩) else (false, scanner)

/-- The fields of `ThreatRule` that ingestion reads. -/
structure ThreatRule where
  ruleId : Bytes
  ruleType : RuleType
  ipfsCid : Bytes
  active : Bool
  deriving DecidableEq, Repr

structure RuleSnapshotEntry where
  rule : ThreatRule
  content : Bytes
  deriving DecidableEq, Repr

/-- What `compile_entry` passes to `compile_fields`. -/
def RuleSnapshotEntry.fields (entry : RuleSnapshotEntry) : RuleMetadataSnapshotEntry :=
  ⟨⟨entry.rule.ruleId, entry.rule.ruleType, entry.rule.ipfsCid, entry.rule.active⟩, entry.content⟩

/-- Compile the whole snapshot off to the side, then replace the rules once. -/
def compileAndReplace (codec : RuleCodec) (snapshot : List RuleMetadataSnapshotEntry)
    (scanner : YaraScanner) : Bool × YaraScanner :=
  if maxRulesPerSnapshot < snapshot.length then (false, scanner)
  else
    match compileEntries codec snapshot [] with
    | none => (false, scanner)
    | some compiled => scanner.replaceRules compiled

/-- `ingest_validated`. -/
def ingestValidated (codec : RuleCodec) (snapshot : List RuleSnapshotEntry)
    (scanner : YaraScanner) : Bool × YaraScanner :=
  compileAndReplace codec (snapshot.map RuleSnapshotEntry.fields) scanner

/-- `ingest_state_validated`. -/
def ingestStateValidated (codec : RuleCodec) (snapshot : List RuleMetadataSnapshotEntry)
    (scanner : YaraScanner) : Bool × YaraScanner :=
  compileAndReplace codec snapshot scanner

/-- `ingest_rule_snapshot`, where `stubAllowed` is whether `require_stub_allowed` returns `Ok`. -/
def YaraScanner.ingestRuleSnapshot (codec : RuleCodec) (stubAllowed : Bool)
    (snapshot : List RuleSnapshotEntry) (scanner : YaraScanner) : Bool × YaraScanner :=
  if stubAllowed then ingestValidated codec snapshot scanner else (false, scanner)

/-- `ingest_rule_snapshot_for_mode`, with the gate of the given mode as well. -/
def YaraScanner.ingestRuleSnapshotForMode (codec : RuleCodec) (stubAllowed modeAllowed : Bool)
    (snapshot : List RuleSnapshotEntry) (scanner : YaraScanner) : Bool × YaraScanner :=
  if stubAllowed && modeAllowed then ingestValidated codec snapshot scanner else (false, scanner)

/-- `ingest_rule_state_snapshot`. -/
def YaraScanner.ingestRuleStateSnapshot (codec : RuleCodec) (stubAllowed : Bool)
    (snapshot : List RuleMetadataSnapshotEntry) (scanner : YaraScanner) : Bool × YaraScanner :=
  if stubAllowed then ingestStateValidated codec snapshot scanner else (false, scanner)

/-- `ingest_rule_state_snapshot_for_mode`. -/
def YaraScanner.ingestRuleStateSnapshotForMode (codec : RuleCodec)
    (stubAllowed modeAllowed : Bool) (snapshot : List RuleMetadataSnapshotEntry)
    (scanner : YaraScanner) : Bool × YaraScanner :=
  if stubAllowed && modeAllowed then ingestStateValidated codec snapshot scanner
  else (false, scanner)

/-- The rules that `ingest_rule_state_snapshot` puts in place are those that synchronisation without
    a checkpoint gets from it. -/
theorem YaraScanner.ingestRuleStateSnapshot_eq (codec : RuleCodec) (stubAllowed : Bool)
    (snapshot : List RuleMetadataSnapshotEntry) (scanner : YaraScanner) :
    scanner.ingestRuleStateSnapshot codec stubAllowed snapshot =
      match Client.ingestRuleStateSnapshot codec stubAllowed snapshot with
      | none => (false, scanner)
      | some rules => (true, ⟨rules⟩) := by
  cases stubAllowed with
  | false => rfl
  | true =>
    unfold ingestRuleStateSnapshot ingestStateValidated compileAndReplace
      Client.ingestRuleStateSnapshot
    by_cases many : maxRulesPerSnapshot < snapshot.length
    · simp [many]
    · cases compileEntries codec snapshot [] with
      | none => simp [many]
      | some compiled =>
        by_cases valid : validateRuleSet compiled <;>
          simp [many, YaraScanner.replaceRules, Client.replaceRules, valid]

/-! ## What is compiled -/

theorem exists_of_mem_right {α β : Type} {R : α → β → Prop} {xs : List α} {ys : List β}
    (h : List.Forall₂ R xs ys) {y : β} (hy : y ∈ ys) : ∃ x ∈ xs, R x y := by
  induction h with
  | nil => cases hy
  | @cons x y' xs ys related _ ih =>
    rcases List.mem_cons.mp hy with rfl | hy
    · exact ⟨x, List.mem_cons_self, related⟩
    · obtain ⟨x', hx', related'⟩ := ih hy
      exact ⟨x', List.mem_cons_of_mem _ hx', related'⟩

theorem exists_of_mem_left {α β : Type} {R : α → β → Prop} {xs : List α} {ys : List β}
    (h : List.Forall₂ R xs ys) {x : α} (hx : x ∈ xs) : ∃ y ∈ ys, R x y :=
  exists_of_mem_right h.flip hx

theorem compileEntries_eq_some {codec : RuleCodec} {entries : List RuleMetadataSnapshotEntry}
    {seenIds : List Bytes} {rules : List CompiledRule} :
    compileEntries codec entries seenIds = some rules ↔
      List.Forall₂ (fun entry rule => compileFields codec entry = some rule) entries rules ∧
        Fresh seenIds (entries.map fun entry => entry.metadata.ruleId) := by
  induction entries generalizing seenIds rules with
  | nil =>
    rw [compileEntries, List.forall₂_nil_left_iff]
    constructor
    · intro same
      obtain rfl := Option.some.inj same
      exact ⟨rfl, fresh_nil _⟩
    · rintro ⟨rfl, -⟩
      rfl
  | cons entry entries ih =>
    rw [compileEntries, List.map_cons, fresh_cons]
    by_cases seen : entry.metadata.ruleId ∈ seenIds
    · rw [if_pos seen]
      constructor
      · intro h
        cases h
      · rintro ⟨-, unseen, -⟩
        exact absurd seen unseen
    · rw [if_neg seen]
      cases isCompiled : compileFields codec entry with
      | none =>
        constructor
        · intro h
          cases h
        · rintro ⟨matched, -⟩
          obtain ⟨rule, rest, isSome, -, -⟩ := List.forall₂_cons_left_iff.mp matched
          rw [isCompiled] at isSome
          cases isSome
      | some rule =>
        constructor
        · intro h
          obtain ⟨rest, isRest, rfl⟩ := Option.map_eq_some_iff.mp h
          obtain ⟨matched, fresh⟩ := ih.mp isRest
          exact ⟨.cons isCompiled matched, seen, fresh⟩
        · rintro ⟨matched, -, fresh⟩
          obtain ⟨rule', rest, isSome, tail, rfl⟩ := List.forall₂_cons_left_iff.mp matched
          obtain rfl := Option.some.inj (isCompiled.symm.trans isSome)
          exact Option.map_eq_some_iff.mpr ⟨rest, ih.mpr ⟨tail, fresh⟩, rfl⟩

/-- An entry whose content is bound by its CID and is a text of the grammar, with the literals it
declares and the rule compiled from it. -/
structure Accepted (codec : RuleCodec) (entry : RuleMetadataSnapshotEntry)
    (declared : List (Str × Str)) (rule : CompiledRule) : Prop where
  active : entry.metadata.active = true
  yara : entry.metadata.ruleType = .yara
  ruleId : validateRuleId entry.metadata.ruleId = true
  content : 1 ≤ entry.content.length ∧ entry.content.length ≤ maxContentBytes
  bound : verifyRawCidContentBinding codec entry.metadata.ipfsCid entry.content = true
  text : ∃ text, fromUtf8 entry.content = some text ∧
    RuleText (entry.metadata.ruleId.map UInt8.toNat) declared text
  rule : rule = ⟨entry.metadata.ruleId, declared.map fun d => encodeAscii d.2, 1⟩

variable {codec : RuleCodec} {entry : RuleMetadataSnapshotEntry} {rule : CompiledRule}
  {entries : List RuleMetadataSnapshotEntry} {rules : List CompiledRule} {scanner : YaraScanner}

theorem compileFields_iff :
    compileFields codec entry = some rule ↔ ∃ declared, Accepted codec entry declared rule := by
  have fields : compileFields codec entry = some rule ↔
      (entry.metadata.active = true ∧ entry.metadata.ruleType = .yara ∧
        validateRuleId entry.metadata.ruleId = true) ∧
      (1 ≤ entry.content.length ∧ entry.content.length ≤ maxContentBytes) ∧
      verifyRawCidContentBinding codec entry.metadata.ipfsCid entry.content = true ∧
      ∃ text patterns, fromUtf8 entry.content = some text ∧
        parseRuleText entry.metadata.ruleId text = some patterns ∧
        rule = ⟨entry.metadata.ruleId, patterns, 1⟩ := by
    simp only [compileFields]
    constructor
    · intro h
      obtain ⟨shape, h⟩ := Option.ite_none_left_eq_some.mp h
      obtain ⟨size, h⟩ := Option.ite_none_left_eq_some.mp h
      obtain ⟨bound, h⟩ := Option.ite_none_left_eq_some.mp h
      split at h
      · cases h
      rename_i text isText
      obtain ⟨patterns, isPatterns, rfl⟩ := Option.map_eq_some_iff.mp h
      simp only [not_or, not_not] at shape size bound
      exact ⟨shape, ⟨List.length_pos_iff.mpr size.1, Nat.not_lt.mp size.2⟩, bound, text, patterns,
        isText, isPatterns, rfl⟩
    · rintro ⟨shape, size, bound, text, patterns, isText, isPatterns, rfl⟩
      rw [if_neg (by simpa only [not_or, not_not] using shape),
        if_neg (not_or.mpr ⟨List.length_pos_iff.mp size.1, Nat.not_lt.mpr size.2⟩),
        if_neg (not_not.mpr bound), isText]
      exact Option.map_eq_some_iff.mpr ⟨patterns, isPatterns, rfl⟩
  rw [fields]
  constructor
  · rintro ⟨⟨active, yara, ruleId⟩, size, bound, text, patterns, isText, isPatterns, rfl⟩
    obtain ⟨declared, isRule, rfl⟩ := (parseRuleText_iff ruleId text).mp isPatterns
    exact ⟨declared, active, yara, ruleId, size, bound, ⟨text, isText, isRule⟩, rfl⟩
  · rintro ⟨declared, h⟩
    obtain ⟨text, isText, isRule⟩ := h.text
    exact ⟨⟨h.active, h.yara, h.ruleId⟩, h.content, h.bound, text, _, isText,
      (parseRuleText_iff h.ruleId text).mpr ⟨declared, isRule, rfl⟩, h.rule⟩

theorem RuleText.literals {ruleId text : Str} {declared : List (Str × Str)}
    (h : RuleText ruleId declared text) :
    declared ≠ [] ∧ ∀ d ∈ declared, IsLiteral d.2 := by
  obtain ⟨_, _, strings, _, _, _, -, -, -, matched, -, -, -, ⟨some', -⟩, -⟩ := h
  exact ⟨List.length_pos_iff.mp some', literals_of_strings matched⟩

/-- A rule compiled from an accepted text is valid. -/
theorem Accepted.valid {declared : List (Str × Str)} (h : Accepted codec entry declared rule) :
    validateRule rule = true ∧ rule.name = entry.metadata.ruleId := by
  obtain ⟨text, -, isRule⟩ := h.text
  obtain ⟨some', literals⟩ := isRule.literals
  obtain rfl := h.rule
  have named : entry.metadata.ruleId.isEmpty = false := by
    have valid := h.ruleId
    simp only [validateRuleId, Bool.and_eq_true, Bool.not_eq_true'] at valid
    exact valid.1.1
  have counted : 1 ≤ (declared.map fun d => encodeAscii d.2).length := by
    rw [List.length_map]
    exact List.length_pos_iff.mpr some'
  refine ⟨?_, rfl⟩
  simp only [validateRule, Bool.and_eq_true, Bool.not_eq_true', List.all_eq_true,
    decide_eq_true_eq]
  refine ⟨⟨⟨⟨named, ?_⟩, ?_⟩, by decide⟩, counted⟩
  · rw [List.isEmpty_eq_false_iff]
    exact List.length_pos_iff.mp counted
  · rintro p hp
    obtain ⟨d, hd, rfl⟩ := List.mem_map.mp hp
    rw [List.isEmpty_eq_false_iff, encodeAscii, Ne, List.map_eq_nil_iff]
    exact (literals d hd).1

/-- The rules compiled from a snapshot are a valid set. -/
theorem validateRuleSet_of_compiled (h : compileEntries codec entries [] = some rules) :
    validateRuleSet rules = true := by
  obtain ⟨compiled, fresh⟩ := compileEntries_eq_some.mp h
  have names : rules.map CompiledRule.name = entries.map fun entry => entry.metadata.ruleId := by
    clear fresh h
    induction compiled with
    | nil => rfl
    | cons isCompiled _ ih =>
      obtain ⟨declared, accepted⟩ := compileFields_iff.mp isCompiled
      rw [List.map_cons, List.map_cons, accepted.valid.2, ih]
  have valid : ∀ rule ∈ rules, validateRule rule = true := by
    clear fresh h names
    induction compiled with
    | nil => simp
    | cons isCompiled _ ih =>
      obtain ⟨declared, accepted⟩ := compileFields_iff.mp isCompiled
      exact List.forall_mem_cons.mpr ⟨accepted.valid.1, ih⟩
  rw [validateRuleSet, Bool.and_eq_true, List.all_eq_true, decide_eq_true_eq, names]
  exact ⟨valid, fresh_iff.mp fresh⟩

/-- A snapshot that is accepted as a whole, with its rules. -/
structure Ingestible (codec : RuleCodec) (entries : List RuleMetadataSnapshotEntry)
    (rules : List CompiledRule) : Prop where
  bounded : entries.length ≤ maxRulesPerSnapshot
  accepted : List.Forall₂ (fun entry rule => ∃ declared, Accepted codec entry declared rule)
    entries rules
  distinct : (entries.map fun entry => entry.metadata.ruleId).Nodup

/-- The rules are replaced by those of an acceptable snapshot, and otherwise stay. -/
theorem compileAndReplace_iff {out : Bool × YaraScanner} :
    compileAndReplace codec entries scanner = out ↔
      (∃ rules, Ingestible codec entries rules ∧ out = (true, ⟨rules⟩)) ∨
        (∀ rules, ¬ Ingestible codec entries rules) ∧ out = (false, scanner) := by
  have ingestible : ∀ rules, Ingestible codec entries rules ↔
      ¬ maxRulesPerSnapshot < entries.length ∧ compileEntries codec entries [] = some rules := by
    intro rules
    rw [compileEntries_eq_some, fresh_iff]
    simp only [compileFields_iff, Nat.not_lt]
    exact ⟨fun h => ⟨h.bounded, h.accepted, h.distinct⟩, fun h => ⟨h.1, h.2.1, h.2.2⟩⟩
  rw [compileAndReplace]
  simp only [ingestible]
  by_cases large : maxRulesPerSnapshot < entries.length
  · simp [large, eq_comm]
  · cases compiled : compileEntries codec entries [] with
    | none => simp [large, eq_comm]
    | some rules =>
      simp [large, YaraScanner.replaceRules, validateRuleSet_of_compiled compiled, eq_comm]

/-- An ingestion that returned an error has changed nothing; one that succeeded has installed the
rules of its snapshot. -/
structure Atomic (codec : RuleCodec) (entries : List RuleMetadataSnapshotEntry)
    (scanner : YaraScanner) (out : Bool × YaraScanner) : Prop where
  failed : out.1 = false → out.2 = scanner
  installed : out.1 = true → Ingestible codec entries out.2.rules
  refused : (∀ rules, ¬ Ingestible codec entries rules) → out.1 = false

theorem compileAndReplace_atomic :
    Atomic codec entries scanner (compileAndReplace codec entries scanner) := by
  rcases compileAndReplace_iff.mp (rfl : compileAndReplace codec entries scanner = _) with
    ⟨rules, ingestible, out⟩ | ⟨none, out⟩
  · rw [out]
    exact ⟨fun failed => (Bool.noConfusion failed), fun _ => ingestible,
      fun none => absurd ingestible (none rules)⟩
  · rw [out]
    exact ⟨fun _ => rfl, fun installed => Bool.noConfusion installed, fun _ => rfl⟩

theorem Atomic.gated {out : Bool × YaraScanner} (h : Atomic codec entries scanner out)
    (allowed : Bool) : Atomic codec entries scanner (if allowed then out else (false, scanner)) := by
  cases allowed with
  | true => exact h
  | false => exact ⟨fun _ => rfl, fun installed => Bool.noConfusion installed, fun _ => rfl⟩

/-- Crates that decode no CID. -/
def sampleHash : RuleCodec := ⟨fun _ => Vector.replicate 32 0, fun _ => none, fun _ => []⟩

/-- `memchr_single`. -/
def memchrSingle (needle : UInt8) (haystack : Bytes) : Option Nat :=
  haystack.findIdx? fun b => b = needle

theorem memchrSingle_lt {needle : UInt8} {haystack : Bytes} {offset : Nat}
    (h : memchrSingle needle haystack = some offset) : offset < haystack.length :=
  (List.findIdx?_eq_some_iff_getElem.mp h).1

/-- The `while let` loop of `count_pattern_matches` for one pattern, from `start` on. -/
def searchFrom (pattern : Bytes) (first : UInt8) (data : Bytes) (start : Nat) : Bool :=
  match h : memchrSingle first (data.drop start) with
  | none => false
  | some offset =>
    let pos := start + offset
    if pos + pattern.length > data.length then false
    else if (data.drop pos).take pattern.length = pattern then true
    else searchFrom pattern first data (pos + 1)
termination_by data.length - start
decreasing_by
  have inside := memchrSingle_lt h
  rw [List.length_drop] at inside
  omega

/-- The closure of `count_pattern_matches`. -/
def matchesPattern (data pattern : Bytes) : Bool :=
  match pattern with
  | [] => false
  | first :: _ =>
    if pattern.length > data.length then false else searchFrom pattern first data 0

/-- `count_pattern_matches`. -/
def countPatternMatches (patterns : List Bytes) (data : Bytes) : Nat :=
  (patterns.filter (matchesPattern data)).length

/-- `ScanResult`, without its confidence. -/
structure ScanResult where
  matchedRules : List Bytes
  isThreat : Bool
  fileHash : Vector UInt8 32
  deriving DecidableEq

/-- `scan_bytes`. -/
def YaraScanner.scanBytes (codec : RuleCodec) (scanner : YaraScanner) (data : Bytes) : ScanResult :=
  let matchedRules := scanner.rules.foldl (fun matched rule =>
    if countPatternMatches rule.patterns data ≥ rule.requiredMatches then matched ++ [rule.name]
    else matched) []
  ⟨matchedRules, !matchedRules.isEmpty, codec.sha256 data⟩

/-- The pattern stands in the data at a position. -/
def At (pattern data : Bytes) (pos : Nat) : Prop :=
  pos + pattern.length ≤ data.length ∧ (data.drop pos).take pattern.length = pattern

theorem infix_iff_at {pattern data : Bytes} : pattern <:+: data ↔ ∃ pos, At pattern data pos := by
  constructor
  · rintro ⟨before, after, rfl⟩
    refine ⟨before.length, by simp only [List.length_append]; omega, ?_⟩
    rw [List.append_assoc, List.drop_left, List.take_left]
  · rintro ⟨pos, -, same⟩
    refine ⟨data.take pos, (data.drop pos).drop pattern.length, ?_⟩
    have rest := List.take_append_drop pattern.length (data.drop pos)
    rw [same] at rest
    rw [List.append_assoc, rest, List.take_append_drop]

/-- A pattern starts with its first byte wherever it stands. -/
theorem At.first {first : UInt8} {rest data : Bytes} {pos : Nat} (h : At (first :: rest) data pos) :
    data[pos]? = some first := by
  have same := congrArg (fun l => l[0]?) h.2
  simp only [List.length_cons, List.getElem?_take, List.getElem?_drop] at same
  simpa using same

/-- No byte before the one that `memchr_single` finds is the one sought. -/
theorem memchrSingle_spec {needle : UInt8} {data : Bytes} {start : Nat} :
    (∀ offset, memchrSingle needle (data.drop start) = some offset →
      ∀ pos, start ≤ pos → data[pos]? = some needle → start + offset ≤ pos) ∧
    (memchrSingle needle (data.drop start) = none →
      ∀ pos, start ≤ pos → data[pos]? ≠ some needle) := by
  constructor
  · intro offset found pos after isNeedle
    by_contra before
    obtain ⟨_, _, earlier⟩ := List.findIdx?_eq_some_iff_getElem.mp found
    have other := earlier (pos - start) (by omega)
    obtain ⟨inside, same⟩ := List.getElem?_eq_some_iff.mp isNeedle
    have within : pos - start < (data.drop start).length := by rw [List.length_drop]; omega
    have index : (data.drop start).get ⟨pos - start, within⟩ = needle := by
      rw [List.get_eq_getElem, List.getElem_drop]
      simp only [Nat.add_sub_cancel' after, same]
    exact other (by simpa using index)
  · intro none pos after isNeedle
    obtain ⟨inside, same⟩ := List.getElem?_eq_some_iff.mp isNeedle
    have other := List.findIdx?_eq_none_iff.mp none data[pos]
      (List.mem_drop_iff_getElem.mpr ⟨pos - start, by omega, by simp [Nat.add_sub_cancel' after]⟩)
    simp [same] at other

/-- The loop finds the pattern wherever it stands from `start` on. -/
theorem searchFrom_iff {first : UInt8} {rest data : Bytes} {start : Nat} :
    searchFrom (first :: rest) first data start = true ↔
      ∃ pos, start ≤ pos ∧ At (first :: rest) data pos := by
  fun_induction searchFrom (first :: rest) first data start with
  | case1 start none =>
    constructor
    · intro found
      cases found
    · rintro ⟨pos, after, isAt⟩
      exact absurd isAt.first (memchrSingle_spec.2 none pos after)
  | case2 start offset found pos short =>
    constructor
    · intro found
      cases found
    · rintro ⟨pos', after, isAt⟩
      have later := memchrSingle_spec.1 offset found pos' after isAt.first
      have inside := isAt.1
      omega
  | case3 start offset found pos inside same =>
    exact iff_of_true rfl ⟨pos, Nat.le_add_right _ _, Nat.not_lt.mp inside, same⟩
  | case4 start offset found pos inside differs ih =>
    rw [ih]
    constructor
    · rintro ⟨pos', after, isAt⟩
      exact ⟨pos', by omega, isAt⟩
    · rintro ⟨pos', after, isAt⟩
      have later := memchrSingle_spec.1 offset found pos' after isAt.first
      refine ⟨pos', ?_, isAt⟩
      have other : pos' ≠ pos := by
        rintro rfl
        exact differs isAt.2
      omega

/-- A pattern of a valid rule matches when it is a part of the data. -/
theorem matchesPattern_iff {pattern data : Bytes} (some' : pattern ≠ []) :
    matchesPattern data pattern = true ↔ pattern <:+: data := by
  obtain ⟨first, rest, rfl⟩ := List.exists_cons_of_ne_nil some'
  rw [infix_iff_at, matchesPattern]
  split
  · constructor
    · intro found
      cases found
    · rintro ⟨pos, inside, -⟩
      omega
  · rw [searchFrom_iff]
    simp

/-- How many of the patterns are parts of the data. -/
def occurrences (patterns : List Bytes) (data : Bytes) : Nat :=
  patterns.countP fun pattern => decide (pattern <:+: data)

theorem countPatternMatches_eq {patterns : List Bytes} (some' : ∀ p ∈ patterns, p ≠ [])
    (data : Bytes) : countPatternMatches patterns data = occurrences patterns data := by
  rw [countPatternMatches, ← List.countP_eq_length_filter, occurrences]
  refine List.countP_congr fun p hp => ?_
  rw [matchesPattern_iff (some' p hp), decide_eq_true_eq]

/-- The loop of `scan_bytes` collects the names in order. -/
theorem foldl_names (rules : List CompiledRule) (found : CompiledRule → Bool) (names : List Bytes) :
    rules.foldl (fun matched rule => if found rule = true then matched ++ [rule.name] else matched)
        names = names ++ (rules.filter found).map CompiledRule.name := by
  induction rules generalizing names with
  | nil => simp
  | cons rule rules ih =>
    rw [List.foldl_cons, ih]
    by_cases isFound : found rule = true
    · rw [if_pos isFound, List.filter_cons_of_pos isFound, List.map_cons, List.append_assoc]
      rfl
    · rw [if_neg isFound, List.filter_cons_of_neg isFound]

theorem nonempty_of_validRuleSet (valid : validateRuleSet rules = true) :
    ∀ rule ∈ rules, ∀ p ∈ rule.patterns, p ≠ [] := by
  intro rule hrule p hp
  rw [validateRuleSet, Bool.and_eq_true, List.all_eq_true] at valid
  have isRule := valid.1 rule hrule
  simp only [validateRule, Bool.and_eq_true, List.all_eq_true, Bool.not_eq_true'] at isRule
  exact List.isEmpty_eq_false_iff.mp (isRule.1.1.2 p hp)

/-- A scan with a valid rule set reports, in order, the rules with enough patterns in the data. -/
theorem scanBytes_matchedRules (valid : validateRuleSet scanner.rules = true) (data : Bytes) :
    (scanner.scanBytes codec data).matchedRules = (scanner.rules.filter fun rule =>
      decide (rule.requiredMatches ≤ occurrences rule.patterns data)).map CompiledRule.name := by
  have whole := foldl_names scanner.rules (fun rule => decide (countPatternMatches rule.patterns
    data ≥ rule.requiredMatches)) []
  simp only [decide_eq_true_eq, List.nil_append] at whole
  rw [YaraScanner.scanBytes]
  refine whole.trans (congrArg _ (List.filter_congr fun rule hrule => ?_))
  rw [countPatternMatches_eq (nonempty_of_validRuleSet valid rule hrule)]

/-- A literal of the entry's text is a part of the data. -/
def Occurs (entry : RuleMetadataSnapshotEntry) (data : Bytes) : Prop :=
  ∃ text declared, fromUtf8 entry.content = some text ∧
    RuleText (entry.metadata.ruleId.map UInt8.toNat) declared text ∧
    ∃ d ∈ declared, encodeAscii d.2 <:+: data

theorem Accepted.occurs {declared : List (Str × Str)} (h : Accepted codec entry declared rule)
    (data : Bytes) : rule.requiredMatches ≤ occurrences rule.patterns data ↔ Occurs entry data := by
  obtain ⟨text, isText, isRule⟩ := h.text
  obtain rfl := h.rule
  rw [occurrences, show (1 ≤ _) = (0 < _) from rfl, List.countP_pos_iff]
  simp only [List.mem_map, decide_eq_true_eq]
  constructor
  · rintro ⟨_, ⟨d, hd, rfl⟩, occurs⟩
    exact ⟨text, declared, isText, isRule, d, hd, occurs⟩
  · rintro ⟨text', declared', isText', isRule', d, hd, occurs⟩
    -- the text decides its literals
    obtain rfl := Option.some.inj (isText.symm.trans isText')
    have same := (parseRuleText_iff h.ruleId text).mpr ⟨declared, isRule, rfl⟩
    have same' := (parseRuleText_iff h.ruleId text).mpr ⟨declared', isRule', rfl⟩
    have patterns := Option.some.inj (same'.symm.trans same)
    have isPattern : encodeAscii d.2 ∈ declared.map fun d => encodeAscii d.2 :=
      patterns ▸ List.mem_map_of_mem hd
    obtain ⟨d', hd', isPattern⟩ := List.mem_map.mp isPattern
    exact ⟨_, ⟨d', hd', rfl⟩, isPattern ▸ occurs⟩

/-- With the rules of a snapshot, a scan reports the entries that have a literal in the data. -/
theorem Ingestible.reported (h : Ingestible codec entries rules) (data : Bytes) (ruleId : Bytes) :
    ruleId ∈ ((⟨rules⟩ : YaraScanner).scanBytes codec data).matchedRules ↔
      ∃ entry ∈ entries, entry.metadata.ruleId = ruleId ∧ Occurs entry data := by
  have valid : validateRuleSet rules = true := by
    have compiled : compileEntries codec entries [] = some rules := compileEntries_eq_some.mpr
      ⟨h.accepted.imp fun _ _ accepted => compileFields_iff.mpr accepted, fresh_iff.mpr h.distinct⟩
    exact validateRuleSet_of_compiled compiled
  rw [scanBytes_matchedRules valid]
  simp only [List.mem_map, List.mem_filter, decide_eq_true_eq]
  constructor
  · rintro ⟨rule, ⟨hrule, enough⟩, rfl⟩
    obtain ⟨entry, hentry, declared, accepted⟩ := exists_of_mem_right h.accepted hrule
    exact ⟨entry, hentry, accepted.valid.2.symm, (accepted.occurs data).mp enough⟩
  · rintro ⟨entry, hentry, rfl, occurs⟩
    obtain ⟨rule, hrule, declared, accepted⟩ := exists_of_mem_left h.accepted hentry
    exact ⟨rule, ⟨hrule, (accepted.occurs data).mpr occurs⟩, accepted.valid.2⟩

theorem ingestible_of_prepare (h : prepare codec entries = some rules) :
    Ingestible codec entries rules := by
  rw [prepare] at h
  obtain ⟨bounded, h⟩ := Option.ite_none_left_eq_some.mp h
  split at h
  · cases h
  rename_i compiled isCompiled
  obtain ⟨-, h⟩ := Option.ite_none_right_eq_some.mp h
  obtain rfl := Option.some.inj h
  obtain ⟨accepted, fresh⟩ := compileEntries_eq_some.mp isCompiled
  exact ⟨Nat.not_lt.mp bounded, accepted.imp fun _ _ isRule => compileFields_iff.mp isRule,
    fresh_iff.mp fresh⟩

/-- A scan reports a rule of the entries exactly when one of its literals is a part of the data. -/
def Reports (codec : RuleCodec) (entries : List RuleMetadataSnapshotEntry) (scanner : YaraScanner) :
    Prop :=
  ∀ data ruleId, ruleId ∈ (scanner.scanBytes codec data).matchedRules ↔
    ∃ entry ∈ entries, entry.metadata.ruleId = ruleId ∧ Occurs entry data

/-- Counting patterns is counting the entries of the list that are parts of the data; a scan reports
in order the rules that reach their number; and after a snapshot was ingested these are the rules
with a literal in the data. -/
theorem pattern_scan (codec : RuleCodec) :
    (∀ rules, validateRuleSet rules = true → ∀ data,
      (∀ rule ∈ rules, countPatternMatches rule.patterns data =
        rule.patterns.countP fun pattern => decide (pattern <:+: data)) ∧
      ((⟨rules⟩ : YaraScanner).scanBytes codec data).matchedRules = (rules.filter fun rule =>
        decide (rule.requiredMatches ≤ rule.patterns.countP fun pattern =>
          decide (pattern <:+: data))).map CompiledRule.name) ∧
    (∀ entries rules, prepare codec entries = some rules → Reports codec entries ⟨rules⟩) ∧
    ∀ (scanner scanner' : YaraScanner) (stubAllowed modeAllowed : Bool),
      (∀ snapshot,
        scanner.ingestRuleSnapshot codec stubAllowed snapshot = (true, scanner') ∨
          scanner.ingestRuleSnapshotForMode codec stubAllowed modeAllowed snapshot =
            (true, scanner') →
        Reports codec (snapshot.map RuleSnapshotEntry.fields) scanner') ∧
      ∀ snapshot,
        scanner.ingestRuleStateSnapshot codec stubAllowed snapshot = (true, scanner') ∨
          scanner.ingestRuleStateSnapshotForMode codec stubAllowed modeAllowed snapshot =
            (true, scanner') →
        Reports codec snapshot scanner' := by
  refine ⟨fun rules valid data => ⟨fun rule hrule => ?_, ?_⟩,
    fun entries rules h data ruleId => (ingestible_of_prepare h).reported data ruleId,
    fun scanner scanner' stubAllowed modeAllowed => ?_⟩
  · exact countPatternMatches_eq (nonempty_of_validRuleSet valid rule hrule) data
  · exact @scanBytes_matchedRules codec ⟨rules⟩ valid data
  have reports {entries : List RuleMetadataSnapshotEntry} {result : Bool × YaraScanner}
      (atomic : Atomic codec entries scanner result) (h : result = (true, scanner')) :
      Reports codec entries scanner' := by
    subst h
    exact fun data ruleId => (atomic.installed rfl).reported data ruleId
  constructor
  · rintro snapshot (h | h)
    · exact reports (compileAndReplace_atomic.gated stubAllowed) h
    · exact reports (compileAndReplace_atomic.gated (stubAllowed && modeAllowed)) h
  · rintro snapshot (h | h)
    · exact reports (compileAndReplace_atomic.gated stubAllowed) h
    · exact reports (compileAndReplace_atomic.gated (stubAllowed && modeAllowed)) h

/-- An occurrence that overlaps a false start, one at the end, and none. -/
theorem pattern_scan_overlapping :
    ((⟨[⟨ascii "A", [ascii "aab"], 1⟩, ⟨ascii "B", [ascii "ba", ascii "aaa"], 2⟩,
      ⟨ascii "C", [ascii "bac"], 1⟩]⟩ : YaraScanner).scanBytes sampleHash
        (ascii "aaabba")).matchedRules = [ascii "A", ascii "B"] :=
  ((pattern_scan sampleHash).1 _ (by decide) (ascii "aaabba")).2.trans (by decide)

end Prometheus.Client
