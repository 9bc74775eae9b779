import Prometheus.Jaeger.YaraValidation

/-!
# One rule at the boundary

The lexical grammar of YARA and the scanner's reading of it. The two part at a hex string with a
closing brace in a comment, and at a regex literal that ends where a character class is open.
-/

namespace Prometheus.Jaeger.YaraValidation

open Prometheus.Codec Prometheus.Machine

/-! ## The grammar -/

/-- What a lexer keeps of a source: the words at top level, and the texts of the literals that the
two lexers may read apart. -/
inductive Token
  | word (text : Str)
  | regex (text : Str)
  | hex (text : Str)
  deriving DecidableEq, Repr

/-- A line comment ends with its line, or with the source. -/
def afterLine : Str → Str
  | [] => []
  | c :: text => if c = 10 then text else afterLine text

/-- A block comment after its opening; the state is whether the last character was a star. -/
def blockComment : Region Bool Nat where
  start := false
  step star c := if c = 42 then some true else if c = 47 ∧ star = true then none else some false

/-- A string after its quote; the state is whether the next character is escaped. -/
def quotedString : Region Bool Nat where
  start := false
  step escaped c :=
    if escaped then some false else if c = 92 then some true else if c = 34 then none else some false

/-- A regex literal after its slash, up to the next slash that is not escaped. -/
def regexLiteral : Region Bool Nat where
  start := false
  step escaped c :=
    if escaped then some false else if c = 92 then some true else if c = 47 then none else some false

/-- Where in a hex string a character stands. -/
inductive HexPlace
  | code
  | slash
  | line
  | block
  | star
  deriving DecidableEq, Repr

/-- A hex string after its brace, up to the next closing brace outside a comment. -/
def hexString : Region HexPlace Nat where
  start := .code
  step place c :=
    match place with
    | .code => if c = 125 then none else if c = 47 then some .slash else some .code
    | .slash =>
      if c = 125 then none
      else if c = 47 then some .line
      else if c = 42 then some .block
      else some .code
    | .line => if c = 10 then some .code else some .line
    | .block => if c = 42 then some .star else some .block
    | .star => if c = 47 then some .code else if c = 42 then some .star else some .block

/-- A lexer of sources, by its readers of regex literals and hex strings. The state is whether it is
in the body of a rule, where a brace opens a hex string. -/
def lexeme (readRegex readHex : Str → Option (Str × Str)) (inBody : Bool) (c : Nat) (rest : Str) :
    Option (Option Token × Bool × Str) :=
  if c = 47 ∧ rest.head? = some 47 then some (none, inBody, afterLine rest.tail)
  else if c = 47 ∧ rest.head? = some 42 then
    (blockComment.read rest.tail).map fun r => (none, inBody, r.2)
  else if c = 34 then (quotedString.read rest).map fun r => (none, inBody, r.2)
  else if c = 47 then (readRegex rest).map fun r => (some (.regex r.1), inBody, r.2)
  else if c = 123 then
    if inBody then (readHex rest).map fun r => (some (.hex r.1), inBody, r.2)
    else some (none, true, rest)
  else if c = 125 then some (none, false, rest)
  else if isIdentifierStart c then
    some (if inBody then none else some (.word (c :: rest.takeWhile isIdentifierChar)), inBody,
      rest.dropWhile isIdentifierChar)
  else some (none, inBody, rest)

/-- The lexical grammar of YARA. -/
def yara : Lexer Bool Nat Token where
  next := lexeme regexLiteral.read hexString.read
  accepts inBody := !inBody

/-- The tokens of a source in the grammar; `none` where it ends within a region or a body. -/
def yaraTokens (source : Str) : Option (List Token) := yara.tokens false source

/-- The source declares one rule at top level and has no directive there. -/
def OneRule (source : Str) : Prop :=
  ∃ tokens, yaraTokens source = some tokens ∧ tokens.count (.word ruleToken) = 1 ∧
    ∀ directive ∈ directiveTokens, .word directive ∉ tokens

/-- Literals of a source stand in its rules. -/
def Token.isLiteral : Token → Bool
  | .word _ => false
  | .regex _ | .hex _ => true

/-- A source of the grammar, with no literal before its first rule. -/
def IsGrammatical (source : Str) : Prop :=
  ∃ tokens, yaraTokens source = some tokens ∧
    ∀ token ∈ tokens.takeWhile (· ≠ .word ruleToken), token.isLiteral = false

/-! ## The scanner's reading -/

/-- A regex literal as the scanner reads it: the state is whether the next character is escaped, and
whether a class is open. -/
def classRegex : Region (Bool × Bool) Nat where
  start := (false, false)
  step state c :=
    if state.1 then some (false, state.2)
    else if c = 92 then some (true, state.2)
    else if c = 91 then some (false, true)
    else if c = 93 then some (false, false)
    else if c = 47 ∧ state.2 = false then none
    else some (false, state.2)

/-- A hex string as the scanner reads it, up to the next closing brace. -/
def bareHex : Region Unit Nat where
  start := ()
  step _ c := if c = 125 then none else some ()

/-- The lexer that the scanner is. -/
def boundary : Lexer Bool Nat Token where
  next := lexeme classRegex.read bareHex.read
  accepts inBody := !inBody

/-- Whether the next character of a regex literal is escaped, and whether a class is open. -/
def classStep (state : Bool × Bool) (c : Nat) : Bool × Bool :=
  if state.1 then (false, state.2)
  else if c = 92 then (true, state.2)
  else (false, if c = 91 then true else if c = 93 then false else state.2)

/-- A class is open at the end of the text of a regex literal. -/
def leavesClassOpen (text : Str) : Bool := (text.foldl classStep (false, false)).2

/-- The literals that the scanner reads otherwise: a hex string with a closing brace in a comment,
and a regex literal that leaves a class open. -/
def Token.parts : Token → Bool
  | .word _ => false
  | .regex text => leavesClassOpen text
  | .hex text => decide (125 ∈ text)

/-- No rule and no directive at top level after the first literal that the scanner reads otherwise. -/
def NothingAfterParting (source : Str) : Prop :=
  ∀ tokens, yaraTokens source = some tokens → ∀ text ∈ ruleToken :: directiveTokens,
    .word text ∉ tokens.dropWhile fun token => !token.parts

/-! ## Where the two agree -/

theorem classRegex_step {state : Bool × Bool} {c : Nat} {escaped : Bool}
    (passes : regexLiteral.step state.1 c = some escaped) :
    classRegex.step state c = some (classStep state c) ∧ (classStep state c).1 = escaped := by
  obtain ⟨isEscaped, inClass⟩ := state
  cases isEscaped with
  | true =>
    obtain rfl := Option.some.inj passes
    exact ⟨rfl, rfl⟩
  | false =>
    by_cases backslash : c = 92
    · subst backslash
      obtain rfl := Option.some.inj passes
      exact ⟨rfl, rfl⟩
    · by_cases slash : c = 47
      · subst slash
        cases passes
      · simp only [regexLiteral, Bool.false_eq_true, if_false, if_neg backslash, if_neg slash,
          Option.some.injEq] at passes
        subst passes
        by_cases opens : c = 91
        · subst opens
          exact ⟨rfl, rfl⟩
        · by_cases closes : c = 93
          · subst closes
            exact ⟨rfl, rfl⟩
          · simp [classRegex, classStep, backslash, slash, opens, closes]

theorem classRegex_passes {text : Str} {state : Bool × Bool} {escaped : Bool}
    (passes : text.foldlM regexLiteral.step state.1 = some escaped) :
    text.foldlM classRegex.step state = some (text.foldl classStep state) ∧
      (text.foldl classStep state).1 = escaped := by
  induction text generalizing state with
  | nil => exact ⟨rfl, Option.some.inj passes⟩
  | cons c text ih =>
    rw [List.foldlM_cons] at passes
    obtain ⟨next, isNext, rest⟩ := Option.bind_eq_some_iff.mp passes
    obtain ⟨follows, rfl⟩ := classRegex_step isNext
    rw [List.foldlM_cons, follows, List.foldl_cons]
    exact ih rest

/-- A literal that leaves no class open ends where the scanner ends it. -/
theorem classRegex_read {text body rest : Str} (isRead : regexLiteral.read text = some (body, rest))
    (closed : leavesClassOpen body = false) : classRegex.read text = some (body, rest) := by
  obtain ⟨c, escaped, isText, passes, ends⟩ := Region.readFrom_some.mp isRead
  obtain ⟨follows, rfl⟩ := @classRegex_passes _ (false, false) _ passes
  refine Region.readFrom_some.mpr ⟨c, _, isText, follows, ?_⟩
  rw [leavesClassOpen] at closed
  generalize body.foldl classStep (false, false) = state at closed ends
  obtain ⟨isEscaped, inClass⟩ := state
  obtain rfl : inClass = false := closed
  cases isEscaped with
  | true => cases ends
  | false =>
    by_cases backslash : c = 92
    · subst backslash
      cases ends
    · by_cases slash : c = 47
      · subst slash
        rfl
      · simp [regexLiteral, backslash, slash] at ends

theorem hexString_ends {place : HexPlace} {c : Nat} (ends : hexString.step place c = none) :
    c = 125 := by
  by_contra other
  cases place with
  | code | slash => simp only [hexString, if_neg other] at ends; grind
  | line | block | star => simp only [hexString] at ends; grind

theorem bareHex_passes {text : Str} (bare : 125 ∉ text) :
    text.foldlM bareHex.step () = some () := by
  induction text with
  | nil => rfl
  | cons c text ih =>
    rw [List.mem_cons, not_or] at bare
    have passes : bareHex.step () c = some () := if_neg (Ne.symm bare.1)
    rw [List.foldlM_cons, passes]
    exact ih bare.2

theorem bareHex_read {text body rest : Str} (isRead : hexString.read text = some (body, rest))
    (bare : 125 ∉ body) : bareHex.read text = some (body, rest) := by
  obtain ⟨c, place, isText, -, ends⟩ := Region.readFrom_some.mp isRead
  refine Region.readFrom_some.mpr ⟨c, (), isText, bareHex_passes bare, ?_⟩
  rw [hexString_ends ends]
  rfl

/-- The scanner's lexer follows the grammar up to the first literal that parts them. -/
theorem yara_follows : yara.Follows boundary Token.parts where
  accepts := rfl
  next {inBody c rest token inBody' rest'} isNext agrees := by
    simp only [yara, boundary] at isNext ⊢
    unfold lexeme at isNext ⊢
    split
    · rwa [if_pos ‹_›] at isNext
    · rw [if_neg ‹_›] at isNext
      split
      · rwa [if_pos ‹_›] at isNext
      · rw [if_neg ‹_›] at isNext
        split
        · rwa [if_pos ‹_›] at isNext
        · rw [if_neg ‹_›] at isNext
          split
          · rw [if_pos ‹_›] at isNext
            obtain ⟨⟨body, left⟩, isRead, same⟩ := Option.map_eq_some_iff.mp isNext
            obtain ⟨rfl, -⟩ := Prod.mk.inj same
            rw [classRegex_read isRead (agrees _ rfl), Option.map_some, same]
          · rw [if_neg ‹_›] at isNext
            split
            · rw [if_pos ‹_›] at isNext
              split
              · rw [if_pos ‹_›] at isNext
                obtain ⟨⟨body, left⟩, isRead, same⟩ := Option.map_eq_some_iff.mp isNext
                obtain ⟨rfl, -⟩ := Prod.mk.inj same
                have bare : 125 ∉ body := of_decide_eq_false (agrees _ rfl)
                rw [bareHex_read isRead bare, Option.map_some, same]
              · rwa [if_neg ‹_›] at isNext
            · rwa [if_neg ‹_›] at isNext

/-! ## The scanner is a lexer -/

theorem stepRegex_length (s : TopLevelScanner) (char : Nat) (rest : Str) :
    (s.stepRegex char rest).2.length ≤ rest.length := by
  unfold TopLevelScanner.stepRegex
  split_ifs <;> simp

theorem stepRegion_length (s : TopLevelScanner) (char : Nat) (rest : Str) :
    (s.stepRegion char rest).2.length ≤ rest.length := by
  unfold TopLevelScanner.stepRegion
  cases s.mode with
  | regex => exact stepRegex_length s char rest
  | normal | lineComment | blockComment | quoted | hex => dsimp only; split_ifs <;> simp

theorem readIdentifier_left (s : TopLevelScanner) (char : Nat) (rest : Str) :
    (s.readIdentifier char rest).2 = rest.dropWhile isIdentifierChar := by
  unfold TopLevelScanner.readIdentifier
  dsimp only
  split_ifs <;> rfl

theorem length_dropWhile_le (rest : Str) (p : Nat → Bool) :
    (rest.dropWhile p).length ≤ rest.length := (List.dropWhile_suffix p).length_le

theorem stepNormal_length (s : TopLevelScanner) (char : Nat) (rest : Str) :
    (s.stepNormal char rest).2.length ≤ rest.length := by
  unfold TopLevelScanner.stepNormal
  split_ifs <;> simp [readIdentifier_left, length_dropWhile_le]

theorem step_length (s : TopLevelScanner) (char : Nat) (rest : Str) :
    (s.step char rest).2.length ≤ rest.length := by
  unfold TopLevelScanner.step
  split_ifs
  · exact stepNormal_length s char rest
  · exact stepRegion_length s char rest

/-- The turns that the text has room for are enough. -/
theorem loop_enough {turns : Nat} {s : TopLevelScanner} {text : Str} (enough : text.length ≤ turns) :
    s.loop turns text = s.loop text.length text := by
  induction turns using Nat.strong_induction_on generalizing s text with
  | _ turns ih =>
    cases turns with
    | zero =>
      rw [Nat.le_zero.mp enough]
    | succ turns =>
      cases text with
      | nil => rfl
      | cons char rest =>
        rw [List.length_cons] at enough ⊢
        have short := step_length s char rest
        rw [TopLevelScanner.loop, TopLevelScanner.loop,
          ih turns (by omega) (by omega), ← ih rest.length (by omega) short]

/-! ### Regions -/

/-- What the scanner reports of the text that is left: its count of rules and whether it found a
directive, or `none` where it does not terminate. -/
def reported (s : TopLevelScanner) (text : Str) : Option (Nat × Bool) :=
  let s := s.loop text.length text
  if s.isTerminated then some (s.result.ruleCount, s.result.directiveFound) else none

theorem reported_cons (s : TopLevelScanner) (char : Nat) (rest : Str) :
    reported s (char :: rest) = reported (s.step char rest).1 (s.step char rest).2 := by
  rw [reported, reported, List.length_cons, TopLevelScanner.loop,
    loop_enough (step_length s char rest)]

theorem reported_region {s : TopLevelScanner} (isRegion : s.mode ≠ .normal) (char : Nat)
    (rest : Str) :
    reported s (char :: rest) =
      reported (s.stepRegion char rest).1 (s.stepRegion char rest).2 := by
  rw [reported_cons, TopLevelScanner.step, if_neg isRegion]

/-- The scanner after a region. -/
def TopLevelScanner.leave (s : TopLevelScanner) : TopLevelScanner := { s with mode := .normal }

theorem reported_nil_none {s : TopLevelScanner} (isRegion : s.mode ≠ .normal)
    (noLine : s.mode ≠ .lineComment) : reported s [] = none := by
  rw [reported]
  refine if_neg ?_
  simp [TopLevelScanner.loop, TopLevelScanner.isTerminated, isRegion, noLine]

theorem reported_line {s : TopLevelScanner} (isLine : s.mode = .lineComment) (text : Str) :
    reported s text = reported s.leave (afterLine text) := by
  have isRegion : s.mode ≠ .normal := by rw [isLine]; nofun
  induction text with
  | nil => simp [reported, TopLevelScanner.loop, TopLevelScanner.isTerminated,
      TopLevelScanner.leave, isLine, afterLine]
  | cons c text ih =>
    rw [reported_region isRegion, TopLevelScanner.stepRegion, isLine, afterLine]
    by_cases ends : c = 10
    · simp only [if_pos ends]
      rfl
    · simp only [if_neg ends]
      exact ih

/-- After a star, a slash ends the comment and any other character is read as without the star. -/
theorem blockComment_star (text : Str) :
    blockComment.readFrom true text =
      if text.head? = some 47 then some ([], text.tail) else blockComment.readFrom false text := by
  cases text with
  | nil => rfl
  | cons c text =>
    by_cases slash : c = 47
    · subst slash
      rfl
    · by_cases star : c = 42
      · subst star
        rfl
      · simp [Region.readFrom, blockComment, slash, star]

theorem reported_block {s : TopLevelScanner} (isBlock : s.mode = .blockComment) (text : Str) :
    reported s text = (blockComment.read text).bind fun r => reported s.leave r.2 := by
  have isRegion : s.mode ≠ .normal := by rw [isBlock]; nofun
  show _ = (blockComment.readFrom false text).bind _
  induction text with
  | nil => exact reported_nil_none isRegion (by rw [isBlock]; nofun)
  | cons c text ih =>
    rw [reported_region isRegion, TopLevelScanner.stepRegion, isBlock]
    by_cases star : c = 42
    · subst star
      have isRead : blockComment.readFrom false (42 :: text) =
          (blockComment.readFrom true text).map fun r => (42 :: r.1, r.2) := rfl
      rw [isRead, blockComment_star]
      by_cases slash : text.head? = some 47
      · simp only [slash, and_self, if_true]
        rfl
      · simp only [slash, and_false, if_false, Option.bind_map]
        exact ih
    · have isRead : blockComment.readFrom false (c :: text) =
          (blockComment.readFrom false text).map fun r => (c :: r.1, r.2) := by
        simp [Region.readFrom, blockComment, star]
      simp only [isRead, star, false_and, if_false, Option.bind_map]
      exact ih

theorem reported_quoted {s : TopLevelScanner} (isQuoted : s.mode = .quoted) :
    ∀ text : Str, reported s text = (quotedString.read text).bind fun r => reported s.leave r.2
  | [] => reported_nil_none (by rw [isQuoted]; nofun) (by rw [isQuoted]; nofun)
  | [c] => by
    rw [reported_region (by rw [isQuoted]; nofun), TopLevelScanner.stepRegion, isQuoted]
    have none := reported_nil_none (s := s) (by rw [isQuoted]; nofun) (by rw [isQuoted]; nofun)
    by_cases escape : c = 92
    · subst escape
      exact none
    · by_cases quote : c = 34
      · subst quote
        rfl
      · simp [Region.read, Region.readFrom, quotedString, escape, quote, none]
  | c :: d :: text => by
    rw [reported_region (by rw [isQuoted]; nofun), TopLevelScanner.stepRegion, isQuoted]
    by_cases escape : c = 92
    · subst escape
      have isRead : quotedString.read (92 :: d :: text) =
          (quotedString.read text).map fun r => (92 :: d :: r.1, r.2) := by
        simp [Region.read, Region.readFrom, quotedString, Function.comp_def]
      rw [isRead, Option.bind_map]
      exact reported_quoted isQuoted text
    · by_cases quote : c = 34
      · subst quote
        rfl
      · have isRead : quotedString.read (c :: d :: text) =
            (quotedString.read (d :: text)).map fun r => (c :: r.1, r.2) := by
          simp [Region.read, Region.readFrom, quotedString, escape, quote]
        simp only [if_neg escape, if_neg quote, isRead, Option.bind_map]
        exact reported_quoted isQuoted (d :: text)

theorem reported_hex {s : TopLevelScanner} (isHex : s.mode = .hex) (text : Str) :
    reported s text = (bareHex.read text).bind fun r => reported s.leave r.2 := by
  have isRegion : s.mode ≠ .normal := by rw [isHex]; nofun
  induction text with
  | nil => exact reported_nil_none isRegion (by rw [isHex]; nofun)
  | cons c text ih =>
    rw [reported_region isRegion, TopLevelScanner.stepRegion, isHex]
    by_cases ends : c = 125
    · subst ends
      rfl
    · have isRead : bareHex.read (c :: text) =
          (bareHex.read text).map fun r => (c :: r.1, r.2) := by
        simp [Region.read, Region.readFrom, bareHex, ends]
      simp only [if_neg ends, isRead, Option.bind_map]
      exact ih

/-- A character of a regex literal that is neither escaped nor a backslash. -/
theorem classRegex_cons {inClass : Bool} {c : Nat} (text : Str) (plain : c ≠ 92) :
    classRegex.readFrom (false, inClass) (c :: text) =
      if c = 47 ∧ inClass = false then some ([], text)
      else (classRegex.readFrom (false, if c = 91 then true else if c = 93 then false else inClass)
        text).map fun r => (c :: r.1, r.2) := by
  by_cases opens : c = 91
  · subst opens
    rfl
  · by_cases closes : c = 93
    · subst closes
      rfl
    · by_cases ends : c = 47 ∧ inClass = false <;>
        simp [Region.readFrom, classRegex, plain, opens, closes, ends]

theorem reported_regex : ∀ (text : Str) {s : TopLevelScanner}, s.mode = .regex →
    reported s text = (classRegex.readFrom (false, s.inRegexClass) text).bind fun r =>
      reported { s with mode := .normal, inRegexClass := false } r.2
  | [], s, isRegex =>
    reported_nil_none (s := s) (by simp [isRegex]) (by simp [isRegex])
  | c :: text, s, isRegex => by
    rw [reported_region (by simp [isRegex]), TopLevelScanner.stepRegion, isRegex]
    simp only [TopLevelScanner.stepRegex]
    by_cases escape : c = 92
    · subst escape
      cases text with
      | nil => exact reported_nil_none (by simp [isRegex]) (by simp [isRegex])
      | cons d text =>
        have isRead : classRegex.readFrom (false, s.inRegexClass) (92 :: d :: text) =
            (classRegex.readFrom (false, s.inRegexClass) text).map
              fun r => (92 :: d :: r.1, r.2) := by
          simp [Region.readFrom, classRegex, Function.comp_def]
        rw [isRead, Option.bind_map]
        exact reported_regex text isRegex
    · rw [classRegex_cons text escape]
      by_cases opens : c = 91
      · subst opens
        have notEnd : ¬ (91 = 47 ∧ s.inRegexClass = false) := by simp
        simp only [if_neg notEnd, Option.bind_map]
        exact reported_regex text (s := { s with inRegexClass := true }) isRegex
      · by_cases closes : c = 93
        · subst closes
          have notEnd : ¬ (93 = 47 ∧ s.inRegexClass = false) := by simp
          simp only [if_neg notEnd, Option.bind_map]
          exact reported_regex text (s := { s with inRegexClass := false }) isRegex
        · by_cases ends : c = 47 ∧ s.inRegexClass = false
          · simp only [if_neg escape, if_neg opens, if_neg closes, if_pos ends, Option.bind_some]
            rw [ends.2]
          · simp only [if_neg escape, if_neg opens, if_neg closes, if_neg ends, Option.bind_map]
            exact reported_regex text isRegex

/-! ### Lexemes -/

/-- What the tokens of the text that is left add to a report. -/
def addTokens (s : TopLevelScanner) (tokens : List Token) : Nat × Bool :=
  (s.result.ruleCount + tokens.count (.word ruleToken),
    s.result.directiveFound || tokens.any fun token =>
      decide (token ∈ directiveTokens.map Token.word))

/-- The scanner's depth is one in a body. -/
def depthOf (inBody : Bool) : Nat := if inBody then 1 else 0

/-- The scanner stands between two lexemes. -/
structure Between (s : TopLevelScanner) (inBody : Bool) : Prop where
  mode : s.mode = .normal
  depth : s.depth = depthOf inBody

/-- What a word adds to a report. -/
theorem readIdentifier_adds {s : TopLevelScanner} {inBody : Bool} (between : Between s inBody)
    (char : Nat) (rest : Str) :
    Between (s.readIdentifier char rest).1 inBody ∧ ∀ tokens,
      addTokens (s.readIdentifier char rest).1 tokens =
        addTokens s ((if inBody then none
          else some (Token.word (char :: rest.takeWhile isIdentifierChar))).toList ++ tokens) := by
  obtain ⟨mode, depth⟩ := between
  unfold TopLevelScanner.readIdentifier
  cases inBody with
  | true =>
    rw [if_pos (by rw [depth]; decide)]
    exact ⟨⟨mode, depth⟩, fun _ => rfl⟩
  | false =>
    rw [if_neg (by rw [depth]; decide)]
    generalize char :: rest.takeWhile isIdentifierChar = token
    have distinct : ruleToken ∉ directiveTokens := by decide
    split
    · rename_i isDirective
      have notRule : token ≠ ruleToken := fun same => distinct (same ▸ isDirective)
      refine ⟨⟨mode, depth⟩, fun tokens => ?_⟩
      simp [addTokens, notRule, isDirective]
    · rename_i notDirective
      split
      · rename_i isRule
        refine ⟨⟨mode, depth⟩, fun tokens => ?_⟩
        simp [addTokens, isRule, distinct]
        omega
      · rename_i notRule
        have same (s' : TopLevelScanner) (count : s'.result.ruleCount = s.result.ruleCount)
            (found : s'.result.directiveFound = s.result.directiveFound) (tokens : List Token) :
            addTokens s' tokens = addTokens s ([Token.word token] ++ tokens) := by
          simp [addTokens, notRule, notDirective, count, found]
        split
        · exact ⟨⟨mode, depth⟩, same _ rfl rfl⟩
        · exact ⟨⟨mode, depth⟩, same _ rfl rfl⟩

theorem afterLine_length (text : Str) : (afterLine text).length ≤ text.length := by
  induction text with
  | nil => exact le_refl _
  | cons c text ih =>
    rw [afterLine, List.length_cons]
    split <;> omega

theorem reported_nil {s : TopLevelScanner} {inBody : Bool} (between : Between s inBody)
    (turns : Nat) : reported s [] = (boundary.run turns inBody []).map (addTokens s) := by
  have isTerminated : s.isTerminated = !inBody := by
    rw [TopLevelScanner.isTerminated, between.mode, between.depth]
    cases inBody <;> rfl
  have accepts : boundary.run turns inBody [] = if (!inBody) = true then some [] else none := by
    cases turns <;> rfl
  rw [accepts, reported]
  simp only [List.length_nil, TopLevelScanner.loop, isTerminated]
  cases inBody with
  | true => rfl
  | false => simp [addTokens]

/-- The scanner's report is that of the tokens of its lexer. -/
theorem reported_run {turns : Nat} {s : TopLevelScanner} {inBody : Bool} {text : Str}
    (between : Between s inBody) (enough : text.length ≤ turns) :
    reported s text = (boundary.run turns inBody text).map (addTokens s) := by
  induction turns generalizing s inBody text with
  | zero =>
    obtain rfl := List.length_eq_zero_iff.mp (Nat.le_zero.mp enough)
    exact reported_nil between 0
  | succ turns ih =>
    cases text with
    | nil => exact reported_nil between (turns + 1)
    | cons c text =>
      rw [List.length_cons] at enough
      have tail : text.tail.length ≤ turns := by rw [List.length_tail]; omega
      -- The scanner after a lexeme, with the lexeme's token.
      have advance {s' : TopLevelScanner} {inBody' : Bool} {rest : Str} (token : Option Token)
          (between' : Between s' inBody') (short : rest.length ≤ turns)
          (adds : ∀ tokens, addTokens s' tokens = addTokens s (token.toList ++ tokens)) :
          reported s' rest = ((boundary.run turns inBody' rest).map (token.toList ++ ·)).map
            (addTokens s) := by
        rw [ih between' short, Option.map_map]
        exact Option.map_congr fun tokens _ => adds tokens
      have region {κ : Type} {area : Region κ Nat} {k : κ} {rest : Str} {s' : TopLevelScanner}
          (token : Str → Option Token) (between' : Between s' inBody) (short : rest.length ≤ turns)
          (adds : ∀ body tokens, addTokens s' tokens = addTokens s ((token body).toList ++ tokens)) :
          ((area.readFrom k rest).bind fun r => reported s' r.2) =
            ((area.readFrom k rest).bind fun r =>
              (boundary.run turns inBody r.2).map ((token r.1).toList ++ ·)).map (addTokens s) := by
        cases isRead : area.readFrom k rest with
        | none => rfl
        | some r =>
          have left := le_trans (Region.length_rest isRead) short
          exact advance (token r.1) between' left (adds r.1)
      obtain ⟨mode, depth⟩ := between
      rw [reported_cons, TopLevelScanner.step, if_pos mode, Lexer.run_cons]
      show _ = ((lexeme classRegex.read bareHex.read inBody c text).bind _).map _
      unfold lexeme TopLevelScanner.stepNormal
      by_cases isLine : c = 47 ∧ text.head? = some 47
      · simp only [if_pos isLine, Option.bind_some]
        rw [reported_line rfl]
        exact advance none ⟨rfl, depth⟩ (le_trans (afterLine_length text.tail) tail) fun _ => rfl
      · simp only [if_neg isLine]
        by_cases isBlock : c = 47 ∧ text.head? = some 42
        · simp only [if_pos isBlock, Option.bind_map]
          rw [reported_block rfl]
          exact region (fun _ => none) ⟨rfl, depth⟩ tail fun _ _ => rfl
        · simp only [if_neg isBlock]
          by_cases isQuote : c = 34
          · simp only [if_pos isQuote, Option.bind_map]
            rw [reported_quoted rfl]
            exact region (fun _ => none) ⟨rfl, depth⟩ (by omega) fun _ _ => rfl
          · simp only [if_neg isQuote]
            by_cases isRegex : c = 47
            · simp only [if_pos isRegex, Option.bind_map]
              rw [reported_regex text rfl]
              exact region (fun body => some (.regex body)) ⟨rfl, depth⟩ (by omega)
                fun _ _ => by simp [addTokens]
            · simp only [if_neg isRegex]
              by_cases isOpen : c = 123
              · subst isOpen
                cases inBody with
                | false =>
                  have atTop : s.depth = 0 := depth
                  simp only [atTop, and_self, if_true, Bool.false_eq_true, if_false,
                    Option.bind_some]
                  exact advance none ⟨mode, rfl⟩ (by omega) fun _ => rfl
                | true =>
                  have inside : s.depth = 1 := depth
                  simp only [inside, and_self, if_true, Option.bind_map, one_ne_zero, false_and,
                    if_false]
                  rw [reported_hex rfl]
                  exact region (fun body => some (.hex body)) ⟨rfl, rfl⟩ (by omega)
                    fun _ _ => by simp [addTokens, TopLevelScanner.leave]
              · simp only [isOpen, and_false, if_false]
                by_cases isClose : c = 125
                · subst isClose
                  cases inBody with
                  | false =>
                    have atTop : s.depth = 0 := depth
                    have noWord : isIdentifierStart 125 = false := rfl
                    simp only [atTop, zero_ne_one, false_and, if_false, noWord, Bool.false_eq_true,
                      if_true, Option.bind_some]
                    exact advance none ⟨mode, atTop⟩ (by omega) fun _ => rfl
                  | true =>
                    have inside : s.depth = 1 := depth
                    simp only [inside, and_self, if_true, Option.bind_some]
                    exact advance none ⟨mode, rfl⟩ (by omega) fun _ => rfl
                · simp only [isClose, and_false, if_false]
                  by_cases isWord : isIdentifierStart c = true
                  · simp only [if_pos isWord, Option.bind_some]
                    obtain ⟨between', adds⟩ := readIdentifier_adds ⟨mode, depth⟩ c text
                    have left := readIdentifier_left s c text
                    rw [left]
                    exact advance _ between'
                      (le_trans (length_dropWhile_le text _) (by omega)) adds
                  · simp only [if_neg isWord, Option.bind_some]
                    exact advance none ⟨mode, depth⟩ (by omega) fun _ => rfl

/-! ## One rule -/

variable {compilesClean : Str → Bool} {source : Str}

/-- An accepted source has one rule and no directive in the scanner's reading. -/
theorem accepted_tokens (accepted : validateCandidateRuleSource compilesClean source = true) :
    compilesClean source = true ∧ ∃ tokens, boundary.tokens false source = some tokens ∧
      tokens.count (.word ruleToken) = 1 ∧ ∀ directive ∈ directiveTokens, .word directive ∉ tokens := by
  unfold validateCandidateRuleSource at accepted
  split at accepted
  · cases accepted
  · split at accepted
    · cases accepted
    · split at accepted
      · cases accepted
      · split at accepted
        · cases accepted
        · rename_i isOne
          have compiles : compilesClean source = true := by
            split at accepted
            · cases accepted
            · split at accepted
              · cases accepted
              · split at accepted
                · cases accepted
                · exact accepted
          simp only [not_or, Bool.not_eq_false, Bool.not_eq_true, not_not, ne_eq] at isOne
          obtain ⟨isTerminated, noDirective, isRule⟩ := isOne
          have between : Between TopLevelScanner.start false := ⟨rfl, rfl⟩
          have report := reported_run between (le_refl source.length)
          have scanned : reported TopLevelScanner.start source = some (1, false) := by
            simp only [scan] at isTerminated noDirective isRule
            simp only [reported, isTerminated, if_true, noDirective, isRule]
          rw [scanned] at report
          obtain ⟨tokens, isTokens, adds⟩ := Option.map_eq_some_iff.mp report.symm
          obtain ⟨count, found⟩ := Prod.mk.inj adds
          refine ⟨compiles, tokens, isTokens, (Nat.zero_add _).symm.trans count, ?_⟩
          intro directive isDirective isToken
          rw [TopLevelScanner.start, Bool.false_or, List.any_eq_false] at found
          exact found _ isToken (decide_eq_true (List.mem_map_of_mem isDirective))

theorem literal_of_parts {token : Token} (isPart : token.parts = true) : token.isLiteral = true := by
  cases token with
  | word _ => cases isPart
  | regex _ | hex _ => rfl

/-- In a source of the grammar a rule comes before the literals that part the two lexers. -/
theorem rule_before_parting {tokens : List Token}
    (inRules : ∀ token ∈ tokens.takeWhile (· ≠ .word ruleToken), token.isLiteral = false)
    (parted : ∃ token ∈ tokens, token.parts = true) :
    .word ruleToken ∈ tokens.takeWhile fun token => !token.parts := by
  induction tokens with
  | nil =>
    obtain ⟨_, isToken, -⟩ := parted
    cases isToken
  | cons first tokens ih =>
    by_cases isRule : first = .word ruleToken
    · rw [isRule, List.takeWhile_cons_of_pos rfl]
      exact List.mem_cons_self
    · rw [List.takeWhile_cons_of_pos (by simpa using isRule), List.forall_mem_cons] at inRules
      have noPart : first.parts = false := by
        by_contra isPart
        have isLiteral := literal_of_parts (Bool.not_eq_false _ ▸ isPart)
        rw [inRules.1] at isLiteral
        cases isLiteral
      obtain ⟨token, isToken, isPart⟩ := parted
      rw [List.takeWhile_cons_of_pos (by rw [noPart]; rfl)]
      refine List.mem_cons_of_mem _ (ih inRules.2 ⟨token, ?_, isPart⟩)
      rcases List.mem_cons.mp isToken with rfl | later
      · rw [noPart] at isPart
        cases isPart
      · exact later

/-- The tokens up to the first literal that parts the lexers, and those from it on. -/
theorem tokens_split (tokens : List Token) :
    tokens = (tokens.takeWhile fun token => !token.parts) ++
      tokens.dropWhile fun token => !token.parts := List.takeWhile_append_dropWhile.symm

theorem parted_of_after {tokens : List Token} {token : Token}
    (isAfter : token ∈ tokens.dropWhile fun token => !token.parts) :
    ∃ token ∈ tokens, token.parts = true := by
  by_contra unparted
  have whole : tokens.dropWhile (fun token => !token.parts) = [] :=
    List.dropWhile_eq_nil_iff.mpr fun token isToken => by
      by_contra isPart
      exact unparted ⟨token, isToken, by simpa using isPart⟩
  rw [whole] at isAfter
  cases isAfter

/-- An accepted source declares one rule and no directive exactly where nothing of these comes after
the first literal that the scanner reads otherwise. -/
theorem one_rule_iff (grammatical : ∀ text, compilesClean text = true → IsGrammatical text)
    (accepted : validateCandidateRuleSource compilesClean source = true) :
    OneRule source ↔ NothingAfterParting source := by
  obtain ⟨compiles, scanned, isScanned, scannedOne, scannedNone⟩ := accepted_tokens accepted
  obtain ⟨tokens, isTokens, inRules⟩ := grammatical source compiles
  obtain ⟨before, same⟩ := yara_follows.run isTokens isScanned
  have split := tokens_split tokens
  constructor
  · rintro ⟨others, isOthers, one, none⟩ others' isOthers' text isText isAfter
    obtain rfl : others = tokens := Option.some.inj (isOthers.symm.trans isTokens)
    obtain rfl : others' = others := Option.some.inj (isOthers'.symm.trans isTokens)
    have isToken : Token.word text ∈ others' := by
      rw [split]
      exact List.mem_append_right _ isAfter
    rcases List.mem_cons.mp isText with rfl | isDirective
    · have isBefore := List.count_pos_iff.mpr (rule_before_parting inRules (parted_of_after isAfter))
      have isLater := List.count_pos_iff.mpr isAfter
      rw [split, List.count_append] at one
      omega
    · exact none text isDirective isToken
  · intro nothing
    have after := nothing tokens isTokens
    by_cases parted : ∃ token ∈ tokens, token.parts = true
    · have isBefore := List.count_pos_iff.mpr (rule_before_parting inRules parted)
      have atMost := before.sublist.count_le (.word ruleToken)
      have isLater : (tokens.dropWhile fun token => !token.parts).count (.word ruleToken) = 0 :=
        List.count_eq_zero_of_not_mem (after ruleToken List.mem_cons_self)
      refine ⟨tokens, isTokens, ?_, fun directive isDirective isToken => ?_⟩
      · rw [split, List.count_append]
        omega
      · rw [split, List.mem_append] at isToken
        rcases isToken with isBefore | isAfter
        · exact scannedNone directive isDirective (before.subset isBefore)
        · exact after directive (List.mem_cons_of_mem _ isDirective) isAfter
    · have unparted : ∀ token ∈ tokens, token.parts = false := by
        intro token isToken
        by_contra isPart
        exact parted ⟨token, isToken, by simpa using isPart⟩
      obtain rfl := same unparted
      exact ⟨tokens, isTokens, scannedOne, scannedNone⟩

/-! ### The sample of the tests, and a rule behind a comment -/

/-- `VALID_HEX_RULE`. -/
def validHexRule : Str :=
  str "rule HexRule \x7b\n    strings:\n        $a = \x7b 4D 5A 90 00 \x7d\n" ++
    str "    condition:\n        $a\n\x7d"

/-- Two rules, the second in what the scanner takes for a string. -/
def hiddenRule : Str :=
  str "rule a \x7b strings: $h = \x7b 7A 12 F3 88 /* \x7d \" */ 9C 41 B7 5E \x7d condition: $h \x7d " ++
    str "rule b \x7b condition: filesize > 99 \x7d //\" \x7d"

/-- A compiler that accepts one source. -/
def compilesOnly (source : Str) : Str → Bool := fun text => decide (text = source)

theorem compilesOnly_grammatical {source : Str} (isGrammatical : IsGrammatical source) :
    ∀ text, compilesOnly source text = true → IsGrammatical text := by
  intro text compiles
  rw [of_decide_eq_true compiles]
  exact isGrammatical

theorem one_rule_iff_validHexRule :
    validateCandidateRuleSource (compilesOnly validHexRule) validHexRule = true ∧
      OneRule validHexRule := by
  have accepted : validateCandidateRuleSource (compilesOnly validHexRule) validHexRule = true := by
    decide
  have tokens : yaraTokens validHexRule =
      some [.word (str "rule"), .word (str "HexRule"), .hex (str " 4D 5A 90 00 ")] := by
    decide
  have grammatical : IsGrammatical validHexRule := ⟨_, tokens, by decide⟩
  refine ⟨accepted, (one_rule_iff (compilesOnly_grammatical grammatical) accepted).mpr ?_⟩
  intro tokens' isTokens' text _
  rw [tokens] at isTokens'
  obtain rfl := Option.some.inj isTokens'
  exact List.not_mem_nil

/-- The compiler takes both rules. -/
theorem rule_hidden :
    (∀ text, compilesOnly hiddenRule text = true → IsGrammatical text) ∧
      validateCandidateRuleSource (compilesOnly hiddenRule) hiddenRule = true ∧
      ¬ OneRule hiddenRule := by
  have tokens : yaraTokens hiddenRule = some [.word (str "rule"), .word (str "a"),
      .hex (str " 7A 12 F3 88 /* \x7d \" */ 9C 41 B7 5E "), .word (str "rule"),
      .word (str "b")] := by
    decide
  refine ⟨compilesOnly_grammatical ⟨_, tokens, by decide⟩, by decide, ?_⟩
  rintro ⟨tokens', isTokens', one, -⟩
  rw [tokens] at isTokens'
  obtain rfl := Option.some.inj isTokens'
  revert one
  decide

end Prometheus.Jaeger.YaraValidation
