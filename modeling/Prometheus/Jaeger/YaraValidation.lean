import Prometheus.Jaeger.Ensemble
import Prometheus.Machine.Lexer

/-!
# The boundary of a candidate rule

`modules/guardian-node/jaeger/yara_validation.py`: the scanner of the top level of a source, and the
check of a candidate. The compiler is a parameter. The scanner reads the words that a lexer with the
scanner's own idea of a regex literal and of a hex string reads at top level.
-/

namespace Prometheus.Jaeger.YaraValidation

open Prometheus.Codec Prometheus.Machine

/-- `MAX_YARA_SOURCE_BYTES`. -/
def maxYaraSourceBytes : Nat := 65536

/-- `MAX_YARA_RULE_NAME_LENGTH`. -/
def maxYaraRuleNameLength : Nat := 128

/-- `_DIRECTIVE_TOKENS`. -/
def directiveTokens : List Str := [str "import", str "include"]

/-- `_RULE_TOKEN`. -/
def ruleToken : Str := str "rule"

/-- `_IDENTIFIER_START_CHARS`. -/
def isIdentifierStart (c : Nat) : Bool := isAsciiLetter c || c == 95

/-- `_IDENTIFIER_CHARS`. -/
def isIdentifierChar (c : Nat) : Bool := isAsciiLetter c || isAsciiDigit c || c == 95

/-- The modes of the scanner. -/
inductive Mode
  | normal
  | lineComment
  | blockComment
  | quoted
  | regex
  | hex
  deriving DecidableEq, Repr

/-- `_LexResult`. -/
structure LexResult where
  ruleCount : Nat
  ruleName : Option Str
  directiveFound : Bool
  terminated : Bool
  deriving DecidableEq, Repr

/-- `_TopLevelScanner`; its source from its index on is a text of its own. -/
structure TopLevelScanner where
  mode : Mode
  inRegexClass : Bool
  depth : Nat
  expectingRuleName : Bool
  result : LexResult
  deriving DecidableEq, Repr

namespace TopLevelScanner

/-- `__init__`. -/
def start : TopLevelScanner where
  mode := .normal
  inRegexClass := false
  depth := 0
  expectingRuleName := false
  result := ⟨0, none, false, false⟩

/-- `_step_regex`. -/
def stepRegex (s : TopLevelScanner) (char : Nat) (rest : Str) : TopLevelScanner × Str :=
  if char = 92 then (s, rest.tail)
  else if char = 91 then ({ s with inRegexClass := true }, rest)
  else if char = 93 then ({ s with inRegexClass := false }, rest)
  else if char = 47 ∧ s.inRegexClass = false then ({ s with mode := .normal }, rest)
  else (s, rest)

/-- `_step_region`. -/
def stepRegion (s : TopLevelScanner) (char : Nat) (rest : Str) : TopLevelScanner × Str :=
  match s.mode with
  | .lineComment => if char = 10 then ({ s with mode := .normal }, rest) else (s, rest)
  | .blockComment =>
    if char = 42 ∧ rest.head? = some 47 then ({ s with mode := .normal }, rest.tail) else (s, rest)
  | .quoted =>
    if char = 92 then (s, rest.tail)
    else if char = 34 then ({ s with mode := .normal }, rest)
    else (s, rest)
  | .regex => s.stepRegex char rest
  | .normal | .hex => if char = 125 then ({ s with mode := .normal }, rest) else (s, rest)

/-- `_read_identifier`. -/
def readIdentifier (s : TopLevelScanner) (char : Nat) (rest : Str) : TopLevelScanner × Str :=
  let token := char :: rest.takeWhile isIdentifierChar
  let left := rest.dropWhile isIdentifierChar
  if s.depth ≠ 0 then (s, left)
  else if token ∈ directiveTokens then
    ({ s with result := { s.result with directiveFound := true } }, left)
  else if token = ruleToken then
    ({ s with
        expectingRuleName := true
        result := { s.result with ruleCount := s.result.ruleCount + 1 } }, left)
  else if s.expectingRuleName then
    ({ s with expectingRuleName := false, result := { s.result with ruleName := some token } }, left)
  else (s, left)

/-- `_step_normal`. -/
def stepNormal (s : TopLevelScanner) (char : Nat) (rest : Str) : TopLevelScanner × Str :=
  if char = 47 ∧ rest.head? = some 47 then ({ s with mode := .lineComment }, rest.tail)
  else if char = 47 ∧ rest.head? = some 42 then ({ s with mode := .blockComment }, rest.tail)
  else if char = 34 then ({ s with mode := .quoted }, rest)
  else if char = 47 then ({ s with mode := .regex, inRegexClass := false }, rest)
  else if s.depth = 0 ∧ char = 123 then ({ s with depth := 1 }, rest)
  else if s.depth = 1 ∧ char = 123 then ({ s with mode := .hex }, rest)
  else if s.depth = 1 ∧ char = 125 then ({ s with depth := 0 }, rest)
  else if isIdentifierStart char then s.readIdentifier char rest
  else (s, rest)

/-- One turn of the loop of `scan`, with the index moved on. -/
def step (s : TopLevelScanner) (char : Nat) (rest : Str) : TopLevelScanner × Str :=
  if s.mode = .normal then s.stepNormal char rest else s.stepRegion char rest

/-- The loop of `scan`; each turn takes a character at least. -/
def loop : Nat → TopLevelScanner → Str → TopLevelScanner
  | 0, s, _ => s
  | _ + 1, s, [] => s
  | turns + 1, s, char :: rest => loop turns (s.step char rest).1 (s.step char rest).2

/-- The scanner ended outside a region and outside a body. -/
def isTerminated (s : TopLevelScanner) : Bool :=
  (s.mode == .normal || s.mode == .lineComment) && s.depth == 0

end TopLevelScanner

/-- `scan`. -/
def scan (source : Str) : LexResult :=
  let s := TopLevelScanner.start.loop source.length source
  { s.result with terminated := s.isTerminated }

/-- `validate_candidate_rule_source` of a text; `compilesClean` is `_compiles_clean`. -/
def validateCandidateRuleSource (compilesClean : Str → Bool) (source : Str) : Bool :=
  if source = [] then false
  else if ¬ (∀ c ∈ source, c < 128) ∨ 0 ∈ source then false
  else if maxYaraSourceBytes < source.length then false
  else if (scan source).terminated = false ∨ (scan source).directiveFound = true ∨
      (scan source).ruleCount ≠ 1 then false
  else
    match (scan source).ruleName with
    | none => false
    | some ruleName =>
      if maxYaraRuleNameLength < ruleName.length then false
      else if ruleName.any fun c => !isIdentifierChar c then false
      else compilesClean source

end Prometheus.Jaeger.YaraValidation
