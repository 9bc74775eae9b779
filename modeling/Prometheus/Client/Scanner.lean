import Prometheus.Client.RuleIngest

/-!
# The two rule parsers of the client

`parse_simple_yara_rule` of `modules/client/src/security/scanner.rs` beside `parse_rule_text` of
`blockchain/rule_ingest.rs`. Both go through the lines with the same stages and hold the same
patterns. They part on one thing: `rule_ingest` trims an identifier on both sides, the scanner only
at its end, so whitespace after the `$` is accepted by the first and refused by the second.
-/

namespace Prometheus.Client.Scanner

open Prometheus.Codec

/-! ## Texts -/

/-- `str::trim_start`. -/
def trimStart (s : Str) : Str := s.dropWhile isWhitespace

/-- `str::trim_end`. -/
def trimEnd (s : Str) : Str := (s.reverse.dropWhile isWhitespace).reverse

/-- `str::split_once` of one character. -/
def splitOnce (s : Str) (c : Nat) : Option (Str × Str) :=
  match s.findIdx? fun d => d = c with
  | some i => some (s.take i, s.drop (i + 1))
  | none => none

/-- `str::strip_prefix` of one character. -/
def stripPrefix (s : Str) (c : Nat) : Option Str :=
  if s.head? = some c then some (s.drop 1) else none

/-- `str::strip_suffix` of one character. -/
def stripSuffix (s : Str) (c : Nat) : Option Str :=
  if s.getLast? = some c then some s.dropLast else none

/-! ## The parser of the scanner -/

/-- `is_identifier`. -/
def isIdentifier (id : Str) : Bool :=
  id != [] && decide (id.length ≤ 32) && id.all fun c => isAsciiAlphanumeric c || c == 95

/-- `parse_string_line`. -/
def parseStringLine (line : Str) : Except String (Str × Bytes) :=
  match (stripPrefix line 36).bind fun rest => splitOnce rest 61 with
  | none => .error "unsupported string definition"
  | some (id, rest) =>
    let id := trimEnd id
    if ¬ isIdentifier id then .error "unsupported string definition"
    else
      match (stripPrefix (trimStart rest) 34).bind fun r => stripSuffix r 34 with
      | none => .error "unsupported string definition"
      | some literal =>
        if literal ≠ [] ∧
            literal.all fun c => decide (0x20 ≤ c) && decide (c ≤ 0x7e) && c != 34 && c != 92 then
          .ok (id, encodeAscii literal)
        else .error "unsupported string definition"

/-- The loop of `is_any_of_condition` over the tokens from the `i`-th on. -/
def chainNames (ids : List Str) : Nat → List Str → List Str → Option (List Str)
  | _, [], referenced => some referenced
  | i, token :: tokens, referenced =>
    if i % 2 = 1 then
      if token ≠ str "or" then none else chainNames ids (i + 1) tokens referenced
    else
      match stripPrefix token 36 with
      | some id =>
        if id ∈ ids ∧ id ∉ referenced then chainNames ids (i + 1) tokens (referenced ++ [id])
        else none
      | none => none

/-- `is_any_of_condition`. A rule that reaches its condition declares a string, so the subtraction
does not wrap. -/
def isAnyOfCondition (condition : Str) (ids : List Str) : Bool :=
  let tokens := splitWhitespace condition
  if tokens = [str "any", str "of", str "them"] then true
  else if tokens.length ≠ ids.length * 2 - 1 then false
  else
    match chainNames ids 0 tokens [] with
    | some referenced => referenced.length == ids.length
    | none => false

/-- The variables of the loop. -/
structure ScanParse where
  stage : RuleStage
  ids : List Str
  patterns : List Bytes
  deriving DecidableEq, Repr

/-- One line of `parse_simple_yara_rule`. -/
def parseLine (name : Bytes) (parse : ScanParse) (rawLine : Str) : Except String ScanParse :=
  let line := trim rawLine
  if line = [] then .ok parse
  else
    match parse.stage with
    | .header =>
      if splitWhitespace line ≠ [str "rule", name.map UInt8.toNat, [123]] then
        .error "unsupported rule header"
      else .ok { parse with stage := .stringsMarker }
    | .stringsMarker =>
      if line = str "strings:" then .ok { parse with stage := .stringLines }
      else .error "malformed rule"
    | .stringLines =>
      if line = str "condition:" then
        if parse.patterns = [] then .error "rule must contain nonempty patterns"
        else .ok { parse with stage := .conditionValue }
      else
        match parseStringLine line with
        | .error e => .error e
        | .ok (id, literal) =>
          if id ∈ parse.ids ∨ literal ∈ parse.patterns then
            .error "duplicate string identifier or literal"
          else
            .ok { parse with ids := parse.ids ++ [id], patterns := parse.patterns ++ [literal] }
    | .conditionValue =>
      if isAnyOfCondition line parse.ids then .ok { parse with stage := .closingBrace }
      else .error "unsupported rule condition"
    | .closingBrace =>
      if line = [125] then .ok { parse with stage := .closed } else .error "malformed rule"
    | .closed => .error "malformed rule"

/-- `parse_simple_yara_rule`. -/
def parseSimpleYaraRule (name : Bytes) (ruleText : Str) : Except String CompiledRule :=
  match (lines ruleText).foldlM (parseLine name) ⟨.header, [], []⟩ with
  | .error e => .error e
  | .ok parse =>
    if parse.stage ≠ .closed then .error "malformed rule"
    else .ok ⟨name, parse.patterns, 1⟩

/-! ## Trimmed texts -/

theorem getLast?_reverse_dropWhile (s : Str) {c : Nat}
    (h : (s.reverse.dropWhile isWhitespace).reverse.getLast? = some c) : isWhitespace c = false := by
  rw [List.getLast?_reverse] at h
  have := List.head?_dropWhile_not isWhitespace s.reverse
  rw [h] at this
  simpa using this

/-- A trimmed text does not end with whitespace. -/
theorem getLast?_trim {s : Str} {c : Nat} (h : (trim s).getLast? = some c) :
    isWhitespace c = false :=
  getLast?_reverse_dropWhile _ h

theorem trimEnd_eq_self {s : Str} (h : ∀ c, s.getLast? = some c → isWhitespace c = false) :
    trimEnd s = s := by
  rw [trimEnd, List.reverse_eq_iff]
  cases last : s.reverse with
  | nil => rfl
  | cons c rest =>
    have isLast : s.getLast? = some c := by
      rw [← List.head?_reverse, last]
      rfl
    rw [List.dropWhile_cons_of_neg (by simp [h c isLast])]

theorem trim_eq_trimEnd {s : Str} (h : ∀ c, s.head? = some c → isWhitespace c = false) :
    trim s = trimEnd s := by
  rw [trim, trimEnd]
  cases s with
  | nil => rfl
  | cons c s => rw [List.dropWhile_cons_of_neg (by simp [h c rfl])]

theorem trim_eq_trimStart {s : Str} (h : ∀ c, s.getLast? = some c → isWhitespace c = false) :
    trim s = trimStart s := by
  refine trimEnd_eq_self (s := s.dropWhile isWhitespace) fun c isLast => h c ?_
  obtain ⟨start, whole⟩ := List.dropWhile_suffix isWhitespace (l := s)
  rw [← whole, List.getLast?_append, isLast]
  rfl

/-- The first token of a text that does not begin with whitespace begins with its first
character. -/
theorem head_splitWhitespace {c : Nat} (s : Str) (h : isWhitespace c = false) :
    ∃ token tokens, splitWhitespace (c :: s) = (c :: token) :: tokens := by
  have pieces : (c :: s).splitOnP isWhitespace =
      (s.splitOnP isWhitespace).modifyHead (List.cons c) := by
    rw [List.splitOnP_cons_eq_if_modifyHead, if_neg (by simp [h])]
  cases rest : s.splitOnP isWhitespace with
  | nil => exact absurd rest (List.splitOnP_ne_nil isWhitespace s)
  | cons token tokens =>
    refine ⟨token, tokens.filter fun token => token ≠ [], ?_⟩
    rw [splitWhitespace, pieces, rest]
    simp

theorem isPrefix_trimEnd (s : Str) : trimEnd s <+: s := by
  have suffix := List.dropWhile_suffix isWhitespace (l := s.reverse)
  simpa [trimEnd] using List.reverse_prefix.mpr suffix

theorem isIdentifier_letters {id : Str} (identifier : isIdentifier id = true) :
    id ≠ [] ∧ ∀ c ∈ id, (isAsciiAlphanumeric c || c == 95) = true := by
  rw [isIdentifier, Bool.and_eq_true, Bool.and_eq_true] at identifier
  exact ⟨by simpa using identifier.1.1, List.all_eq_true.mp identifier.2⟩

/-- No character of an identifier is whitespace. -/
theorem isWhitespace_identifier {c : Nat} (h : (isAsciiAlphanumeric c || c == 95) = true) :
    isWhitespace c = false := by
  simp only [isAsciiAlphanumeric, Bool.or_eq_true, Bool.and_eq_true, decide_eq_true_eq,
    beq_iff_eq] at h
  simp only [isWhitespace, Bool.or_eq_false_iff, Bool.and_eq_false_iff, decide_eq_false_iff_not,
    beq_eq_false_iff_ne]
  omega

/-! ## One line -/

/-- A trimmed line begins with a `$` and whitespace. -/
def isSpaced (line : Str) : Bool :=
  match line with
  | 36 :: c :: _ => isWhitespace c
  | _ => false

/-- What `rule_ingest` reads of a string line, the scanner reads unless the identifier is preceded
by whitespace. -/
theorem parseStringLine_agrees {line id : Str} {literal : Bytes}
    (ends : ∀ c, line.getLast? = some c → isWhitespace c = false)
    (h : Client.parseStringLine line = some (id, literal)) (tight : isSpaced line = false) :
    parseStringLine line = .ok (id, literal) := by
  unfold Client.parseStringLine at h
  split at h
  case h_2 => cases h
  rename_i rest
  cases found : rest.findIdx? fun c => c = 61 with
  | none => rw [found] at h; cases h
  | some eq =>
    rw [found] at h
    dsimp only at h
    split at h
    · cases h
    rename_i isId
    replace isId := not_not.mp isId
    split at h
    · cases h
    rename_i quoted
    split at h
    case isFalse => cases h
    rename_i isLiteral
    obtain ⟨rfl, rfl⟩ := Prod.mk.inj (Option.some.inj h)
    -- the identifier has no whitespace before it
    have idStart : ∀ c, (rest.take eq).head? = some c → isWhitespace c = false := by
      intro c isHead
      cases rest with
      | nil => simp at isHead
      | cons d rest =>
        cases eq with
        | zero => simp at isHead
        | succ n =>
          obtain rfl := Option.some.inj isHead
          exact tight
    -- the value ends where the line does
    have valueEnd : ∀ c, (rest.drop (eq + 1)).getLast? = some c → isWhitespace c = false := by
      intro c isLast
      refine ends c ?_
      rw [← List.take_append_drop (eq + 1) rest, ← List.cons_append, List.getLast?_append, isLast]
      rfl
    rw [trim_eq_trimEnd idStart] at isId ⊢
    rw [trim_eq_trimStart valueEnd] at quoted isLiteral ⊢
    simp only [not_or, not_lt, ne_eq, not_not] at quoted
    obtain ⟨long, first, last⟩ := quoted
    have suffix : ((trimStart (rest.drop (eq + 1))).drop 1).getLast? = some 34 := by
      rw [List.getLast?_drop, if_neg (by omega), last]
    have identifier : isIdentifier (trimEnd (rest.take eq)) = true := by
      rw [isIdentifier, Bool.and_eq_true, Bool.and_eq_true]
      exact ⟨⟨by simpa using isId.1, by simpa using isId.2.1⟩, isId.2.2⟩
    have named : ((stripPrefix (36 :: rest) 36).bind fun rest => splitOnce rest 61) =
        some (rest.take eq, rest.drop (eq + 1)) := by
      simp [stripPrefix, splitOnce, found]
    have opened : stripPrefix (trimStart (rest.drop (eq + 1))) 34 =
        some ((trimStart (rest.drop (eq + 1))).drop 1) := if_pos first
    have closed : stripSuffix ((trimStart (rest.drop (eq + 1))).drop 1) 34 =
        some ((trimStart (rest.drop (eq + 1))).drop 1).dropLast := if_pos suffix
    rw [parseStringLine, named]
    dsimp only
    rw [if_neg (not_not.mpr identifier), opened, Option.bind_some, closed]
    dsimp only
    rw [if_pos ⟨isLiteral.1, isLiteral.2.2⟩]

/-- The scanner refuses a string line whose identifier is preceded by whitespace. -/
theorem parseStringLine_spaced {line : Str} (spaced : isSpaced line = true) :
    ∃ e, parseStringLine line = .error e := by
  unfold isSpaced at spaced
  split at spaced
  case h_2 => cases spaced
  rename_i c rest
  have stripped : stripPrefix (36 :: c :: rest) 36 = some (c :: rest) := if_pos rfl
  cases found : (c :: rest).findIdx? fun d => d = 61 with
  | none =>
    refine ⟨"unsupported string definition", ?_⟩
    simp [parseStringLine, stripped, splitOnce, found]
  | some eq =>
    have named : ((stripPrefix (36 :: c :: rest) 36).bind fun rest => splitOnce rest 61) =
        some ((c :: rest).take eq, (c :: rest).drop (eq + 1)) := by
      rw [stripped]
      simp only [Option.bind_some, splitOnce, found]
    have refused : ¬ isIdentifier (trimEnd ((c :: rest).take eq)) = true := by
      intro identifier
      obtain ⟨d, letters, isId⟩ := List.exists_cons_of_ne_nil (isIdentifier_letters identifier).1
      have letter := (isIdentifier_letters identifier).2 d (by rw [isId]; exact List.mem_cons_self)
      have isPrefix := (isPrefix_trimEnd ((c :: rest).take eq)).trans (List.take_prefix eq _)
      rw [isId] at isPrefix
      obtain rfl := (List.cons_prefix_cons.mp isPrefix).1
      rw [isWhitespace_identifier letter] at spaced
      cases spaced
    refine ⟨"unsupported string definition", ?_⟩
    rw [parseStringLine, named]
    dsimp only
    rw [if_pos refused]

/-! ## The whole text -/

/-- The two parsers hold the same. -/
structure Agrees (parse : RuleParse) (scan : ScanParse) : Prop where
  stage : scan.stage = parse.stage
  patterns : scan.patterns = parse.patterns
  ids : ∀ id, id ∈ scan.ids ↔ id ∈ parse.stringIds

/-- A line that `rule_ingest` accepts is accepted by the scanner, to the same effect, unless an
identifier is preceded by whitespace. -/
theorem parseLine_agrees {name : Bytes} {parse parse' : RuleParse} {scan : ScanParse}
    {rawLine : Str} (agrees : Agrees parse scan)
    (h : parseRuleLine name parse rawLine = some parse') (tight : isSpaced (trim rawLine) = false) :
    ∃ scan', parseLine name scan rawLine = .ok scan' ∧ Agrees parse' scan' := by
  obtain ⟨stage, patterns, stringIds⟩ := parse
  obtain ⟨scanStage, ids, scanPatterns⟩ := scan
  obtain ⟨rfl, rfl, sameIds⟩ := agrees
  unfold parseRuleLine at h
  unfold parseLine
  dsimp only at h sameIds ⊢
  by_cases blank : trim rawLine = []
  · rw [if_pos blank] at h ⊢
    obtain rfl := Option.some.inj h
    exact ⟨_, rfl, rfl, rfl, sameIds⟩
  rw [if_neg blank] at h ⊢
  cases scanStage with
  | header =>
    dsimp only at h ⊢
    obtain ⟨isHeader, h⟩ := Option.ite_none_right_eq_some.mp h
    obtain rfl := Option.some.inj h
    exact ⟨_, if_neg (not_not.mpr isHeader), rfl, rfl, sameIds⟩
  | stringsMarker =>
    dsimp only at h ⊢
    obtain ⟨isMarker, h⟩ := Option.ite_none_right_eq_some.mp h
    obtain rfl := Option.some.inj h
    exact ⟨_, if_pos isMarker, rfl, rfl, sameIds⟩
  | stringLines =>
    dsimp only at h ⊢
    by_cases isCondition : trim rawLine = str "condition:"
    · rw [if_pos isCondition] at h ⊢
      obtain ⟨some_, h⟩ := Option.ite_none_left_eq_some.mp h
      obtain rfl := Option.some.inj h
      exact ⟨_, if_neg some_, rfl, rfl, sameIds⟩
    · rw [if_neg isCondition] at h ⊢
      cases parsed : Client.parseStringLine (trim rawLine) with
      | none => rw [parsed] at h; cases h
      | some found =>
        obtain ⟨id, literal⟩ := found
        rw [parsed] at h
        dsimp only at h
        obtain ⟨fresh, h⟩ := Option.ite_none_left_eq_some.mp h
        obtain ⟨-, h⟩ := Option.ite_none_left_eq_some.mp h
        obtain rfl := Option.some.inj h
        rw [parseStringLine_agrees (fun c => getLast?_trim) parsed tight]
        dsimp only
        rw [if_neg (by rwa [sameIds])]
        refine ⟨_, rfl, rfl, rfl, fun other => ?_⟩
        simp [sameIds, or_comm]
  | conditionValue =>
    dsimp only at h ⊢
    obtain ⟨isCondition, h⟩ := Option.ite_none_right_eq_some.mp h
    obtain rfl := Option.some.inj h
    have anyOf : isAnyOfCondition (trim rawLine) ids = true := by
      have tokens : splitWhitespace (str "any of them") = [str "any", str "of", str "them"] := by
        decide
      rw [isCondition, isAnyOfCondition, if_pos tokens]
    exact ⟨_, if_pos anyOf, rfl, rfl, sameIds⟩
  | closingBrace =>
    dsimp only at h ⊢
    obtain ⟨isBrace, h⟩ := Option.ite_none_right_eq_some.mp h
    obtain rfl := Option.some.inj h
    exact ⟨_, if_pos isBrace, rfl, rfl, sameIds⟩
  | closed => cases h

/-- A spaced line that `rule_ingest` accepts is a string line, and the scanner refuses it. -/
theorem parseLine_spaced {name : Bytes} {parse parse' : RuleParse} {scan : ScanParse}
    {rawLine : Str} (agrees : Agrees parse scan)
    (h : parseRuleLine name parse rawLine = some parse') (spaced : isSpaced (trim rawLine) = true) :
    ∃ e, parseLine name scan rawLine = .error e := by
  obtain ⟨stage, patterns, stringIds⟩ := parse
  obtain ⟨scanStage, ids, scanPatterns⟩ := scan
  obtain ⟨rfl, rfl, sameIds⟩ := agrees
  obtain ⟨rest, isLine⟩ : ∃ rest, trim rawLine = 36 :: rest := by
    unfold isSpaced at spaced
    split at spaced
    · exact ⟨_, ‹_›⟩
    · cases spaced
  have notText (text : Str) (other : text.head? ≠ some 36) : trim rawLine ≠ text := by
    rintro rfl
    exact other (by rw [isLine]; rfl)
  have notBlank : trim rawLine ≠ [] := notText [] (by simp)
  unfold parseRuleLine at h
  unfold parseLine
  dsimp only at h ⊢
  rw [if_neg notBlank] at h ⊢
  cases scanStage with
  | header =>
    dsimp only at h
    obtain ⟨isHeader, -⟩ := Option.ite_none_right_eq_some.mp h
    obtain ⟨token, tokens, split⟩ := head_splitWhitespace rest (show isWhitespace 36 = false by rfl)
    rw [isLine, split] at isHeader
    have first := (List.cons.inj isHeader).1
    have other : (str "rule").head? ≠ some 36 := by decide
    exact absurd (congrArg List.head? first).symm other
  | stringsMarker =>
    dsimp only at h
    exact absurd (Option.ite_none_right_eq_some.mp h).1 (notText _ (by decide))
  | stringLines =>
    dsimp only
    rw [if_neg (notText _ (by decide))]
    obtain ⟨e, refused⟩ := parseStringLine_spaced spaced
    exact ⟨e, by rw [refused]⟩
  | conditionValue =>
    dsimp only at h
    exact absurd (Option.ite_none_right_eq_some.mp h).1 (notText _ (by decide))
  | closingBrace =>
    dsimp only at h
    exact absurd (Option.ite_none_right_eq_some.mp h).1 (notText _ (by decide))
  | closed => cases h

/-- The scanner goes through accepted lines as `rule_ingest` does when none of them is spaced. -/
theorem lines_agree {name : Bytes} {rawLines : List Str} {parse parse' : RuleParse}
    {scan : ScanParse} (agrees : Agrees parse scan)
    (h : rawLines.foldlM (parseRuleLine name) parse = some parse')
    (tight : ∀ line ∈ rawLines, isSpaced (trim line) = false) :
    ∃ scan', rawLines.foldlM (parseLine name) scan = .ok scan' ∧ Agrees parse' scan' := by
  induction rawLines generalizing parse scan with
  | nil =>
    obtain rfl := Option.some.inj h
    exact ⟨scan, rfl, agrees⟩
  | cons line rawLines ih =>
    obtain ⟨next, accepted, h⟩ := Option.bind_eq_some_iff.mp h
    obtain ⟨scanNext, scanned, agrees⟩ :=
      parseLine_agrees agrees accepted (tight line List.mem_cons_self)
    obtain ⟨scan', rest, agrees⟩ :=
      ih agrees h fun line hline => tight line (List.mem_cons_of_mem _ hline)
    refine ⟨scan', ?_, agrees⟩
    rw [List.foldlM_cons, scanned]
    exact rest

/-- The scanner stops at the first spaced line. -/
theorem lines_spaced {name : Bytes} {rawLines : List Str} {parse parse' : RuleParse}
    {scan : ScanParse} (agrees : Agrees parse scan)
    (h : rawLines.foldlM (parseRuleLine name) parse = some parse')
    (spaced : ∃ line ∈ rawLines, isSpaced (trim line) = true) :
    ∃ e, rawLines.foldlM (parseLine name) scan = .error e := by
  induction rawLines generalizing parse scan with
  | nil =>
    obtain ⟨line, hline, -⟩ := spaced
    cases hline
  | cons line rawLines ih =>
    obtain ⟨next, accepted, h⟩ := Option.bind_eq_some_iff.mp h
    by_cases first : isSpaced (trim line) = true
    · obtain ⟨e, refused⟩ := parseLine_spaced agrees accepted first
      refine ⟨e, ?_⟩
      rw [List.foldlM_cons, refused]
      rfl
    · obtain ⟨scanNext, scanned, agrees⟩ :=
        parseLine_agrees agrees accepted (Bool.eq_false_iff.mpr first)
      have later : ∃ line ∈ rawLines, isSpaced (trim line) = true := by
        obtain ⟨other, isOther, spaced⟩ := spaced
        rcases List.mem_cons.mp isOther with rfl | isOther
        · exact absurd spaced first
        · exact ⟨other, isOther, spaced⟩
      obtain ⟨e, refused⟩ := ih agrees h later
      refine ⟨e, ?_⟩
      rw [List.foldlM_cons, scanned]
      exact refused

/-- Of a text that `rule_ingest` accepts, the scanner compiles the same rule exactly when no
identifier is preceded by whitespace; otherwise it refuses the text. -/
theorem parsers_agree_iff (ruleId : Bytes) (text : Str) (patterns : List Bytes)
    (_valid : validateRuleId ruleId = true) (accepted : parseRuleText ruleId text = some patterns) :
    (parseSimpleYaraRule ruleId text = .ok ⟨ruleId, patterns, 1⟩ ↔
        ∀ line ∈ lines text, isSpaced (trim line) = false) ∧
      ((∃ line ∈ lines text, isSpaced (trim line) = true) →
        ∃ e, parseSimpleYaraRule ruleId text = .error e) := by
  have start : Agrees ⟨.header, [], []⟩ ⟨.header, [], []⟩ := ⟨rfl, rfl, fun _ => Iff.rfl⟩
  unfold parseRuleText at accepted
  cases parsed : (lines text).foldlM (parseRuleLine ruleId) ⟨.header, [], []⟩ with
  | none => rw [parsed] at accepted; cases accepted
  | some parse =>
    rw [parsed] at accepted
    obtain ⟨closed, isPatterns⟩ := Option.ite_none_right_eq_some.mp accepted
    obtain rfl := Option.some.inj isPatterns
    have refuses (spaced : ∃ line ∈ lines text, isSpaced (trim line) = true) :
        ∃ e, parseSimpleYaraRule ruleId text = .error e := by
      obtain ⟨e, refused⟩ := lines_spaced start parsed spaced
      exact ⟨e, by rw [parseSimpleYaraRule, refused]⟩
    refine ⟨⟨fun same line hline => ?_, fun tight => ?_⟩, refuses⟩
    · by_contra spaced
      obtain ⟨e, refused⟩ := refuses ⟨line, hline, by simpa using spaced⟩
      rw [same] at refused
      cases refused
    · obtain ⟨scan, scanned, agrees⟩ := lines_agree start parsed tight
      rw [parseSimpleYaraRule, scanned]
      dsimp only
      rw [if_neg (by rw [agrees.stage]; exact not_not.mpr closed), agrees.patterns]

/-- A rule of one string, with the text of its line. -/
def sampleRule (stringLine : String) : Str :=
  str ("rule R \x7b\nstrings:\n" ++ stringLine ++ "\ncondition:\nany of them\n\x7d")

theorem parsers_agree_iff_sample :
    parseSimpleYaraRule (ascii "R") (sampleRule "$a = \"X\"") = .ok ⟨ascii "R", [ascii "X"], 1⟩ := by
  have accepted : parseRuleText (ascii "R") (sampleRule "$a = \"X\"") = some [ascii "X"] := by
    decide
  have tight : ∀ line ∈ lines (sampleRule "$a = \"X\""), isSpaced (trim line) = false := by
    decide
  exact (parsers_agree_iff _ _ _ (by decide) accepted).1.mpr tight

/-- With a space after the `$` the text is accepted by `rule_ingest` only. -/
theorem parsers_disagree :
    validateRuleId (ascii "R") = true ∧
      parseRuleText (ascii "R") (sampleRule "$ a = \"X\"") = some [ascii "X"] ∧
      parseSimpleYaraRule (ascii "R") (sampleRule "$ a = \"X\"") =
        .error "unsupported string definition" := by
  have refused : parseSimpleYaraRule (ascii "R") (sampleRule "$ a = \"X\"") =
      .error "unsupported string definition" := by
    rfl
  exact ⟨by decide, by decide, refused⟩

end Prometheus.Client.Scanner
