import Prometheus.Client.Scanner

/-!
# The grammar of rule texts

The grammar that the documentation of `parse_rule_text` gives, stated on texts without the parser:
which lines there are, what may stand between their words, and the limits. `parseRuleText` accepts
exactly the texts of the grammar, with the literals written in them. A snapshot of such texts is
compiled as a whole or not at all.
-/

namespace Prometheus.Client

open Prometheus.Codec
open Scanner (getLast?_trim trimEnd trimEnd_eq_self isWhitespace_identifier)

/-! ## The grammar -/

/-- Whitespace only. -/
def Blank (s : Str) : Prop := ∀ c ∈ s, isWhitespace c = true

/-- The content with whitespace around it, or nothing. -/
def Around (content line : Str) : Prop :=
  ∃ before after, Blank before ∧ Blank after ∧ line = before ++ content ++ after

/-- Whitespace, and at least one character of it. -/
def Gap (s : Str) : Prop := s ≠ [] ∧ Blank s

/-- `rule <rule_id> {`. -/
def HeaderLine (ruleId line : Str) : Prop :=
  ∃ gap gap', Gap gap ∧ Gap gap' ∧ Around (str "rule" ++ gap ++ ruleId ++ gap' ++ [123]) line

/-- A string's name: 1 to 32 ASCII letters, digits or underscores. -/
def IsStringName (name : Str) : Prop :=
  name ≠ [] ∧ name.length ≤ 32 ∧ ∀ c ∈ name, (isAsciiAlphanumeric c || c == 95) = true

/-- A literal: 1 to 1024 printable ASCII characters, neither quotes nor backslashes. -/
def IsLiteral (literal : Str) : Prop :=
  literal ≠ [] ∧ literal.length ≤ maxPatternBytes ∧
    ∀ c ∈ literal, 0x20 ≤ c ∧ c ≤ 0x7e ∧ c ≠ 34 ∧ c ≠ 92

/-- `$id = "literal"`. -/
def StringLine (name literal line : Str) : Prop :=
  IsStringName name ∧ IsLiteral literal ∧ ∃ gap gap' gap'', Blank gap ∧ Blank gap' ∧ Blank gap'' ∧
    Around ([36] ++ gap ++ name ++ gap' ++ [61] ++ gap'' ++ [34] ++ literal ++ [34]) line

/-- The lines of a text, without those that are blank. -/
def ruleLines (text : Str) : List Str :=
  (text.splitOn 10).filter fun line => !line.all isWhitespace

/-- A rule text that declares these names and literals. -/
def RuleText (ruleId : Str) (declared : List (Str × Str)) (text : Str) : Prop :=
  ∃ header marker strings condition anyOf brace,
    ruleLines text = header :: marker :: (strings ++ [condition, anyOf, brace]) ∧
    HeaderLine ruleId header ∧ Around (str "strings:") marker ∧
    List.Forall₂ (fun line d => StringLine d.1 d.2 line) strings declared ∧
    Around (str "condition:") condition ∧ Around (str "any of them") anyOf ∧ Around [125] brace ∧
    (1 ≤ declared.length ∧ declared.length ≤ maxPatternsPerRule) ∧
    (declared.map Prod.fst).Nodup ∧ (declared.map Prod.snd).Nodup

/-! ## Trimmed lines -/

/-- Neither end is whitespace. -/
def Tight (s : Str) : Prop :=
  (∀ c, s.head? = some c → isWhitespace c = false) ∧
    ∀ c, s.getLast? = some c → isWhitespace c = false

variable {s content line : Str}

theorem dropWhile_blank {gap : Str} (blank : Blank gap) (rest : Str) :
    (gap ++ rest).dropWhile isWhitespace = rest.dropWhile isWhitespace := by
  induction gap with
  | nil => rfl
  | cons c gap ih =>
    rw [List.cons_append, List.dropWhile_cons_of_pos (blank c List.mem_cons_self)]
    exact ih fun d hd => blank d (List.mem_cons_of_mem _ hd)

theorem Blank.reverse {gap : Str} (blank : Blank gap) : Blank gap.reverse :=
  fun c hc => blank c (List.mem_reverse.mp hc)

theorem blank_takeWhile (s : Str) : Blank (s.takeWhile isWhitespace) :=
  fun _ hc => List.mem_takeWhile_imp hc

theorem dropWhile_tight (h : ∀ c, s.head? = some c → isWhitespace c = false) :
    s.dropWhile isWhitespace = s := by
  cases s with
  | nil => rfl
  | cons c s => rw [List.dropWhile_cons_of_neg (by simp [h c rfl])]

theorem tight_trim (s : Str) : Tight (trim s) := by
  refine ⟨fun c isHead => ?_, fun c => getLast?_trim⟩
  -- what trimming the end leaves is a prefix of what trimming the start left
  have isPrefix : trim s <+: s.dropWhile isWhitespace := Scanner.isPrefix_trimEnd _
  obtain ⟨rest, whole⟩ := isPrefix
  have start : (s.dropWhile isWhitespace).head? = some c := by
    rw [← whole, List.head?_append, isHead]
    rfl
  have stopped := List.head?_dropWhile_not isWhitespace s
  rw [start] at stopped
  simpa using stopped

/-- A line is what is left of it with whitespace around. -/
theorem around_trim (line : Str) : Around (trim line) line := by
  refine ⟨line.takeWhile isWhitespace,
    ((line.dropWhile isWhitespace).reverse.takeWhile isWhitespace).reverse, blank_takeWhile line,
    (blank_takeWhile _).reverse, ?_⟩
  have ends : trim line ++ ((line.dropWhile isWhitespace).reverse.takeWhile isWhitespace).reverse =
      line.dropWhile isWhitespace := by
    rw [trim, ← List.reverse_append, List.takeWhile_append_dropWhile, List.reverse_reverse]
  rw [List.append_assoc, ends, List.takeWhile_append_dropWhile]

theorem trim_of_around (tight : Tight content) (around : Around content line) :
    trim line = content := by
  obtain ⟨before, after, blank, blank', rfl⟩ := around
  cases content with
  | nil =>
    rw [List.append_nil, trim, dropWhile_blank blank, ← List.append_nil after,
      dropWhile_blank blank']
    rfl
  | cons c content =>
    have start : ((c :: content) ++ after).dropWhile isWhitespace = (c :: content) ++ after :=
      dropWhile_tight fun d isHead => tight.1 d isHead
    have finish := trimEnd_eq_self tight.2
    rw [trim, List.append_assoc, dropWhile_blank blank, start, List.reverse_append,
      dropWhile_blank blank'.reverse]
    exact finish

theorem trim_eq_iff : trim line = content ↔ Tight content ∧ Around content line := by
  constructor
  · rintro rfl
    exact ⟨tight_trim line, around_trim line⟩
  · rintro ⟨tight, around⟩
    exact trim_of_around tight around

theorem trim_trim (s : Str) : trim (trim s) = trim s :=
  trim_of_around (tight_trim s) ⟨[], [], by simp [Blank], by simp [Blank], by simp⟩

theorem trim_eq_nil_iff : trim line = [] ↔ Blank line := by
  rw [trim_eq_iff]
  constructor
  · rintro ⟨-, before, after, blank, blank', rfl⟩ c hc
    rw [List.append_nil] at hc
    exact (List.mem_append.mp hc).elim (blank c) (blank' c)
  · intro blank
    exact ⟨⟨by simp, by simp⟩, line, [], blank, by simp [Blank], by simp⟩

/-! ## The lines of a text -/

/-- The trimmed lines of a text. -/
def contents (rawLines : List Str) : List Str := (rawLines.map trim).filter fun line => line ≠ []

theorem trim_stripCarriageReturn (line : Str) : trim (stripCarriageReturn line) = trim line := by
  unfold stripCarriageReturn
  split
  · rename_i ends
    have whole : line = line.dropLast ++ [13] := by
      obtain ⟨start, rfl⟩ := List.getLast?_eq_some_iff.mp ends
      rw [List.dropLast_concat]
    obtain ⟨before, after, blank, blank', inner⟩ := around_trim line.dropLast
    refine (trim_of_around (tight_trim line.dropLast) ⟨before, after ++ [13], blank, ?_, ?_⟩).symm
    · intro c hc
      rcases List.mem_append.mp hc with old | new
      · exact blank' c old
      · rw [List.mem_singleton.mp new]
        decide
    · rw [← List.append_assoc, ← inner]
      exact whole
  · rfl

/-- The parser sees the trimmed lines of the text. -/
theorem contents_lines (text : Str) : contents (lines text) = contents (text.splitOn 10) := by
  have pieces := List.dropLast_concat_getLast (List.splitOn_ne_nil 10 text)
  have last := List.getLast?_eq_some_getLast (List.splitOn_ne_nil 10 text)
  have carriage : ((text.splitOn 10).dropLast.map stripCarriageReturn).map trim =
      (text.splitOn 10).dropLast.map trim := by
    rw [List.map_map]
    exact List.map_congr_left fun line _ => trim_stripCarriageReturn line
  generalize (text.splitOn 10).getLast (List.splitOn_ne_nil 10 text) = final at pieces last
  rw [contents, lines, last, List.map_append, carriage, contents]
  conv_rhs => rw [← pieces]
  rw [List.map_append, List.filter_append, List.filter_append]
  congr 1
  by_cases empty : final = []
  · subst empty
    rfl
  · simp [empty]

theorem contents_eq_map (rawLines : List Str) :
    contents rawLines = (rawLines.filter fun line => !line.all isWhitespace).map trim := by
  induction rawLines with
  | nil => rfl
  | cons line rawLines ih =>
    have blank : trim line = [] ↔ line.all isWhitespace = true := by
      rw [trim_eq_nil_iff, List.all_eq_true]
      rfl
    rw [contents, List.map_cons]
    by_cases isBlank : line.all isWhitespace = true
    · rw [List.filter_cons_of_neg (by simp [blank.mpr isBlank]),
        List.filter_cons_of_neg (by simp [isBlank])]
      exact ih
    · rw [List.filter_cons_of_pos (by simpa using fun empty => isBlank (blank.mp empty)),
        List.filter_cons_of_pos (by simp [isBlank]), List.map_cons]
      exact congrArg (trim line :: ·) ih

/-! ## Words -/

/-- A word: it has characters and none of them is whitespace. -/
def Word (s : Str) : Prop := s ≠ [] ∧ ∀ c ∈ s, isWhitespace c = false

theorem Word.tight {word : Str} (h : Word word) : Tight word :=
  ⟨fun c isHead => h.2 c (List.mem_of_head? isHead), fun c isLast => h.2 c (List.mem_of_getLast? isLast)⟩

theorem splitWhitespace_at {c : Nat} (isSpace : isWhitespace c = true) (s rest : Str) :
    splitWhitespace (s ++ c :: rest) = splitWhitespace s ++ splitWhitespace rest := by
  rw [splitWhitespace, List.splitOnP_append_cons _ _ isSpace, List.filter_append]
  rfl

theorem splitWhitespace_gap {gap : Str} (blank : Blank gap) (rest : Str) :
    splitWhitespace (gap ++ rest) = splitWhitespace rest := by
  induction gap with
  | nil => rfl
  | cons c gap ih =>
    have first := splitWhitespace_at (blank c List.mem_cons_self) [] (gap ++ rest)
    exact first.trans (ih fun d hd => blank d (List.mem_cons_of_mem _ hd))

theorem splitWhitespace_blank {gap : Str} (blank : Blank gap) : splitWhitespace gap = [] := by
  have same := splitWhitespace_gap blank []
  rw [List.append_nil] at same
  exact same

theorem splitWhitespace_word {word : Str} (h : Word word) : splitWhitespace word = [word] := by
  rw [splitWhitespace, List.splitOnP_eq_singleton h.2, List.filter_cons_of_pos (by simpa using h.1)]
  rfl

/-- A gap separates words. -/
theorem splitWhitespace_append {gap : Str} (isGap : Gap gap) (s rest : Str) :
    splitWhitespace (s ++ gap ++ rest) = splitWhitespace s ++ splitWhitespace rest := by
  obtain ⟨c, gap', rfl⟩ := List.exists_cons_of_ne_nil isGap.1
  rw [List.append_assoc, List.cons_append, splitWhitespace_at (isGap.2 c List.mem_cons_self),
    splitWhitespace_gap fun d hd => isGap.2 d (List.mem_cons_of_mem _ hd)]

/-- A text with words is a first word with whitespace before it, and a rest that starts with
whitespace. -/
theorem splitWhitespace_cons {s word : Str} {words : List Str}
    (h : splitWhitespace s = word :: words) :
    ∃ gap rest, Blank gap ∧ s = gap ++ word ++ rest ∧
      (∀ c, rest.head? = some c → isWhitespace c = true) ∧ splitWhitespace rest = words := by
  have start := List.takeWhile_append_dropWhile (p := isWhitespace) (l := s)
  have stopped := List.head?_dropWhile_not isWhitespace s
  generalize s.dropWhile isWhitespace = u at start stopped
  have same := splitWhitespace_gap (blank_takeWhile s) u
  rw [start, h] at same
  have whole := List.takeWhile_append_dropWhile (p := fun c => !isWhitespace c) (l := u)
  have ended := List.head?_dropWhile_not (fun c => !isWhitespace c) u
  have letters : ∀ c ∈ u.takeWhile fun c => !isWhitespace c, isWhitespace c = false := by
    intro c hc
    simpa using List.mem_takeWhile_imp hc
  have nonempty : (u.takeWhile fun c => !isWhitespace c) ≠ [] := by
    cases u with
    | nil => cases same
    | cons c u =>
      have isLetter : isWhitespace c = false := by simpa using stopped
      rw [List.takeWhile_cons_of_pos (by simp [isLetter])]
      exact List.cons_ne_nil _ _
  generalize u.takeWhile (fun c => !isWhitespace c) = first at whole letters nonempty
  generalize u.dropWhile (fun c => !isWhitespace c) = rest at whole ended
  have isFirst := splitWhitespace_word ⟨nonempty, letters⟩
  have restSpace : ∀ c, rest.head? = some c → isWhitespace c = true := by
    intro c isHead
    rw [isHead] at ended
    simpa using ended
  have words' : splitWhitespace u = first :: splitWhitespace rest := by
    cases rest with
    | nil =>
      rw [List.append_nil] at whole
      rw [← whole, isFirst]
      rfl
    | cons c rest =>
      have isSpace := restSpace c rfl
      have after := splitWhitespace_at isSpace [] rest
      rw [List.nil_append] at after
      rw [← whole, splitWhitespace_at isSpace, isFirst, after]
      rfl
  obtain ⟨rfl, rfl⟩ := List.cons.inj (same.trans words')
  exact ⟨s.takeWhile isWhitespace, rest, blank_takeWhile s, by rw [List.append_assoc, whole, start],
    restSpace, rfl⟩

theorem blank_of_splitWhitespace {s : Str} (h : splitWhitespace s = []) : Blank s := by
  by_contra inked
  have start := List.takeWhile_append_dropWhile (p := isWhitespace) (l := s)
  have stopped := List.head?_dropWhile_not isWhitespace s
  cases rest : s.dropWhile isWhitespace with
  | nil =>
    rw [rest, List.append_nil] at start
    exact inked (start ▸ blank_takeWhile s)
  | cons c u =>
    rw [rest] at start stopped
    obtain ⟨word, words, isWords⟩ :=
      Scanner.head_splitWhitespace (c := c) u (by simpa using stopped)
    have same := splitWhitespace_gap (blank_takeWhile s) (c :: u)
    rw [start, h, isWords] at same
    cases same

/-- The words of a header line. -/
theorem headerLine_iff {ruleId : Str} (isWord : Word ruleId) :
    splitWhitespace line = [str "rule", ruleId, [123]] ↔ HeaderLine ruleId line := by
  have keyword : Word (str "rule") := by
    constructor
    · decide
    · show ∀ c ∈ str "rule", isWhitespace c = false
      decide
  have brace : Word [123] := by
    constructor
    · decide
    · show ∀ c ∈ [123], isWhitespace c = false
      decide
  -- a rest that starts with whitespace and goes on with a word starts with a gap
  have gapped {gap word rest : Str} (blank : Blank gap) (hword : Word word)
      (starts : ∀ c, (gap ++ word ++ rest).head? = some c → isWhitespace c = true) : Gap gap := by
    refine ⟨?_, blank⟩
    rintro rfl
    obtain ⟨c, tail, rfl⟩ := List.exists_cons_of_ne_nil hword.1
    have isSpace := starts c rfl
    rw [hword.2 c List.mem_cons_self] at isSpace
    cases isSpace
  constructor
  · intro h
    obtain ⟨before, rest, blank, rfl, starts, h⟩ := splitWhitespace_cons h
    obtain ⟨gap, rest', blank', rfl, starts', h⟩ := splitWhitespace_cons h
    obtain ⟨gap', after, blank'', rfl, -, h⟩ := splitWhitespace_cons h
    refine ⟨gap, gap', gapped blank' isWord starts, gapped blank'' brace starts', before, after,
      blank, blank_of_splitWhitespace h, ?_⟩
    simp only [List.append_assoc]
  · rintro ⟨gap, gap', isGap, isGap', before, after, blank, blank', rfl⟩
    have last : splitWhitespace ([123] ++ after) = [[123]] := by
      cases after with
      | nil => exact splitWhitespace_word brace
      | cons c after =>
        rw [splitWhitespace_at (blank' c List.mem_cons_self), splitWhitespace_word brace,
          splitWhitespace_blank fun d hd => blank' d (List.mem_cons_of_mem _ hd)]
        rfl
    have shape : before ++ (str "rule" ++ gap ++ ruleId ++ gap' ++ [123]) ++ after =
        before ++ (str "rule" ++ gap ++ (ruleId ++ gap' ++ ([123] ++ after))) := by
      simp only [List.append_assoc]
    rw [shape, splitWhitespace_gap blank, splitWhitespace_append isGap, splitWhitespace_append isGap',
      splitWhitespace_word keyword, splitWhitespace_word isWord, last]
    rfl

/-! ## String lines -/

/-- `str::find` of a character finds the first one. -/
theorem findIdx?_split {c : Nat} {s rest : Str} (absent : c ∉ s) :
    (s ++ c :: rest).findIdx? (fun d => d = c) = some s.length := by
  have none : s.findIdx? (fun d => d = c) = none := by
    rw [List.findIdx?_eq_none_iff]
    rintro d hd
    exact decide_eq_false fun same => absent (same ▸ hd)
  simp [List.findIdx?_append, List.findIdx?_cons, none]

theorem exists_split {c eq : Nat} {s : Str} (h : s.findIdx? (fun d => d = c) = some eq) :
    s = s.take eq ++ c :: s.drop (eq + 1) := by
  obtain ⟨bound, isChar, -⟩ := List.findIdx?_eq_some_iff_getElem.mp h
  have same : s[eq] = c := by simpa using isChar
  rw [← same, List.cons_getElem_drop_succ, List.take_append_drop]

/-- A text between two quotes. -/
theorem quoted_iff {value literal : Str} :
    (2 ≤ value.length ∧ value.head? = some 34 ∧ value.getLast? = some 34) ∧
        (value.drop 1).dropLast = literal ↔ value = [34] ++ literal ++ [34] := by
  constructor
  · rintro ⟨⟨long, first, last⟩, rfl⟩
    cases value with
    | nil => cases first
    | cons c rest =>
      obtain rfl := Option.some.inj first
      cases rest with
      | nil => simp at long
      | cons d rest =>
        rw [List.getLast?_cons_cons] at last
        obtain ⟨inner, isInner⟩ := List.getLast?_eq_some_iff.mp last
        rw [List.drop_one, List.tail_cons, isInner, List.dropLast_concat]
        rfl
  · rintro rfl
    refine ⟨⟨by simp, rfl, ?_⟩, ?_⟩
    · rw [List.getLast?_append]
      rfl
    · rw [List.append_assoc, List.singleton_append, List.drop_one, List.tail_cons,
        List.dropLast_concat]

theorem isWhitespace_of_name {c : Nat} {name : Str} (isName : IsStringName name) (hc : c ∈ name) :
    isWhitespace c = false ∧ c ≠ 61 := by
  have letter := isName.2.2 c hc
  refine ⟨isWhitespace_identifier letter, ?_⟩
  rintro rfl
  revert letter
  decide

theorem IsStringName.word {name : Str} (isName : IsStringName name) : Word name :=
  ⟨isName.1, fun _ hc => (isWhitespace_of_name isName hc).1⟩

theorem isLiteral_iff {literal : Str} :
    (literal ≠ [] ∧ literal.length ≤ maxPatternBytes ∧
        (literal.all fun c => decide (0x20 ≤ c) && decide (c ≤ 0x7e) && c != 34 && c != 92) = true) ↔
      IsLiteral literal := by
  simp only [IsLiteral, List.all_eq_true, Bool.and_eq_true, decide_eq_true_eq, bne_iff_ne, and_assoc]

theorem tight_stringLine {rest : Str} : Tight ([36] ++ rest ++ [34]) := by
  refine ⟨fun c isHead => ?_, fun c isLast => ?_⟩
  · obtain rfl := Option.some.inj isHead
    decide
  · rw [List.getLast?_append] at isLast
    obtain rfl := Option.some.inj isLast
    decide

/-- What the parser reads of a trimmed line is the grammar's reading of it. -/
theorem parseStringLine_iff {name : Str} {pattern : Bytes} :
    parseStringLine (trim line) = some (name, pattern) ↔
      ∃ literal, StringLine name literal line ∧ pattern = encodeAscii literal := by
  constructor
  · intro h
    unfold parseStringLine at h
    split at h
    case h_2 => cases h
    rename_i rest isLine
    split at h
    · cases h
    rename_i eq found
    dsimp only at h
    split at h
    · cases h
    rename_i isName
    split at h
    · cases h
    rename_i isQuoted
    split at h
    case isFalse => cases h
    rename_i isLiteral
    obtain ⟨rfl, rfl⟩ := Prod.mk.inj (Option.some.inj h)
    rw [not_not] at isName
    simp only [not_or, not_lt, ne_eq, not_not] at isQuoted
    have value := quoted_iff.mp ⟨isQuoted, rfl⟩
    obtain ⟨before, after, blank, blank', whole⟩ := around_trim line
    obtain ⟨gap, gap', isGap, isGap', name⟩ := around_trim (rest.take eq)
    obtain ⟨gap'', last, isGap'', isLast, quoted⟩ := around_trim (rest.drop (eq + 1))
    refine ⟨_, ⟨⟨isName.1, isName.2.1, List.all_eq_true.mp isName.2.2⟩, isLiteral_iff.mp isLiteral,
      gap, gap', gap'', isGap, isGap', isGap'', before, last ++ after, blank, ?_, ?_⟩, rfl⟩
    · intro c hc
      exact (List.mem_append.mp hc).elim (isLast c) (blank' c)
    · conv_lhs => rw [whole, isLine, exists_split found, name, quoted, value]
      simp only [List.append_assoc, List.cons_append, List.nil_append]
  · rintro ⟨literal, ⟨isName, isLiteral, gap, gap', gap'', isGap, isGap', isGap'', around⟩, rfl⟩
    have trimmed := trim_of_around (by
      have tight := @tight_stringLine (gap ++ name ++ gap' ++ [61] ++ gap'' ++ [34] ++ literal)
      simpa only [List.append_assoc] using tight) around
    have absent : 61 ∉ gap ++ name ++ gap' := by
      have apart {g : Str} (blank : Blank g) : 61 ∉ g := fun hc => by
        have isSpace := blank 61 hc
        revert isSpace
        decide
      simp only [List.mem_append, not_or]
      exact ⟨⟨apart isGap, fun hc => (isWhitespace_of_name isName hc).2 rfl⟩, apart isGap'⟩
    have shape : [36] ++ gap ++ name ++ gap' ++ [61] ++ gap'' ++ [34] ++ literal ++ [34] =
        36 :: ((gap ++ name ++ gap') ++ 61 :: (gap'' ++ ([34] ++ literal ++ [34]))) := by
      simp only [List.append_assoc, List.cons_append, List.nil_append]
    have isValue : trim (gap'' ++ ([34] ++ literal ++ [34])) = [34] ++ literal ++ [34] := by
      refine trim_of_around ⟨fun c isHead => ?_, fun c isLast => ?_⟩
        ⟨gap'', [], isGap'', by simp [Blank], by simp⟩
      · obtain rfl := Option.some.inj isHead
        decide
      · rw [List.getLast?_append] at isLast
        obtain rfl := Option.some.inj isLast
        decide
    have isId : trim (gap ++ name ++ gap') = name :=
      trim_of_around isName.word.tight ⟨gap, gap', isGap, isGap', rfl⟩
    obtain ⟨⟨long, first, last⟩, inner⟩ := (@quoted_iff ([34] ++ literal ++ [34]) literal).mpr rfl
    generalize [34] ++ literal ++ [34] = value at *
    have taken : (gap ++ name ++ gap' ++ 61 :: (gap'' ++ value)).take (gap ++ name ++ gap').length =
        gap ++ name ++ gap' := List.take_left
    have dropped : (gap ++ name ++ gap' ++ 61 :: (gap'' ++ value)).drop
        ((gap ++ name ++ gap').length + 1) = gap'' ++ value := by
      rw [← List.drop_drop, List.drop_left]
      rfl
    rw [trimmed, shape, parseStringLine]
    simp only [findIdx?_split absent, taken, dropped, isId, isValue, inner]
    rw [if_neg (not_not.mpr ⟨isName.1, isName.2.1, List.all_eq_true.mpr isName.2.2⟩),
      if_neg (by simp only [not_or, not_lt, ne_eq, not_not]; exact ⟨long, first, last⟩),
      if_pos (isLiteral_iff.mpr isLiteral)]

/-! ## The parser -/

/-- None of the values was seen, and none is repeated. -/
def Fresh {α : Type} (seen xs : List α) : Prop := xs.Nodup ∧ ∀ x ∈ xs, x ∉ seen

theorem fresh_nil {α : Type} (seen : List α) : Fresh seen [] := ⟨List.nodup_nil, by simp⟩

theorem fresh_cons {α : Type} {seen xs : List α} {x : α} :
    Fresh seen (x :: xs) ↔ x ∉ seen ∧ Fresh (x :: seen) xs := by
  rw [Fresh, Fresh, List.nodup_cons, List.forall_mem_cons]
  constructor
  · rintro ⟨⟨new, nodup⟩, unseen, others⟩
    refine ⟨unseen, nodup, fun y hy seen => ?_⟩
    rcases List.mem_cons.mp seen with rfl | seen
    · exact new hy
    · exact others y hy seen
  · rintro ⟨unseen, nodup, others⟩
    refine ⟨⟨fun hx => others x hx List.mem_cons_self, nodup⟩, unseen, fun y hy seen => ?_⟩
    exact others y hy (List.mem_cons_of_mem _ seen)

theorem fresh_iff {α : Type} {xs : List α} : Fresh [] xs ↔ xs.Nodup := by simp [Fresh]

/-- Whether a value was seen does not depend on where. -/
theorem fresh_concat {α : Type} {seen xs : List α} {x : α} :
    Fresh (seen ++ [x]) xs ↔ Fresh (x :: seen) xs := by
  simp [Fresh, or_comm]

variable {ruleId : Bytes} {parse parse' : RuleParse} {out : List Bytes} {cs : List Str}

/-- The lines lead from the variables of the loop to a closed rule with these patterns. -/
def Closes (ruleId : Bytes) (cs : List Str) (parse : RuleParse) (out : List Bytes) : Prop :=
  ∃ last, cs.foldlM (parseRuleLine ruleId) parse = some last ∧ last.stage = .closed ∧
    last.patterns = out

theorem closes_nil : Closes ruleId [] parse out ↔ parse.stage = .closed ∧ parse.patterns = out := by
  constructor
  · rintro ⟨last, isLast, rest⟩
    obtain rfl := Option.some.inj isLast
    exact rest
  · intro rest
    exact ⟨parse, rfl, rest⟩

theorem closes_cons {c : Str} : Closes ruleId (c :: cs) parse out ↔
    ∃ next, parseRuleLine ruleId parse c = some next ∧ Closes ruleId cs next out := by
  constructor
  · rintro ⟨last, isLast, rest⟩
    obtain ⟨next, isNext, isLast⟩ := Option.bind_eq_some_iff.mp isLast
    exact ⟨next, isNext, last, isLast, rest⟩
  · rintro ⟨next, isNext, last, isLast, rest⟩
    exact ⟨last, Option.bind_eq_some_iff.mpr ⟨next, isNext, isLast⟩, rest⟩

/-- Blank lines are skipped, and of the others the parser sees what is left by trimming. -/
theorem foldlM_contents (rawLines : List Str) (parse : RuleParse) :
    rawLines.foldlM (parseRuleLine ruleId) parse =
      (contents rawLines).foldlM (parseRuleLine ruleId) parse := by
  induction rawLines generalizing parse with
  | nil => rfl
  | cons line rawLines ih =>
    rw [contents, List.map_cons]
    by_cases blank : trim line = []
    · have skipped : parseRuleLine ruleId parse line = some parse := by
        simp only [parseRuleLine, blank, if_true]
      rw [List.filter_cons_of_neg (by simp [blank]), List.foldlM_cons, skipped]
      exact ih parse
    · have same : parseRuleLine ruleId parse (trim line) = parseRuleLine ruleId parse line := by
        simp only [parseRuleLine, trim_trim]
      rw [List.filter_cons_of_pos (by simpa using blank), List.foldlM_cons, List.foldlM_cons, same]
      exact congrArg _ (funext ih)

/-- What the loop is given after trimming. -/
def Trimmed (cs : List Str) : Prop := ∀ c ∈ cs, trim c = c ∧ c ≠ []

theorem trimmed_contents (rawLines : List Str) : Trimmed (contents rawLines) := by
  intro c hc
  obtain ⟨isTrimmed, nonempty⟩ := List.mem_filter.mp hc
  obtain ⟨line, -, rfl⟩ := List.mem_map.mp isTrimmed
  exact ⟨trim_trim line, by simpa using nonempty⟩

/-- What the parser does with one of those lines. -/
theorem parseRuleLine_trimmed {c : Str} (trimmed : trim c = c ∧ c ≠ []) (parse : RuleParse) :
    parseRuleLine ruleId parse c =
      match parse.stage with
      | .header =>
        if splitWhitespace c = [str "rule", ruleId.map UInt8.toNat, [123]] then
          some { parse with stage := .stringsMarker }
        else none
      | .stringsMarker =>
        if c = str "strings:" then some { parse with stage := .stringLines } else none
      | .stringLines =>
        if c = str "condition:" then
          if parse.patterns = [] then none else some { parse with stage := .conditionValue }
        else
          match parseStringLine c with
          | none => none
          | some (id, literal) =>
            if id ∈ parse.stringIds ∨ literal ∈ parse.patterns then none
            else if maxPatternsPerRule < parse.patterns.length + 1 then none
            else some { parse with
              patterns := parse.patterns ++ [literal]
              stringIds := id :: parse.stringIds }
      | .conditionValue =>
        if c = str "any of them" then some { parse with stage := .closingBrace } else none
      | .closingBrace => if c = [125] then some { parse with stage := .closed } else none
      | .closed => none := by
  rw [parseRuleLine]
  simp only [trimmed.1, if_neg trimmed.2]
  all_goals rfl

theorem trimmed_cons {c : Str} :
    Trimmed (c :: cs) ↔ (trim c = c ∧ c ≠ []) ∧ Trimmed cs := List.forall_mem_cons

/-- After the brace nothing may follow. -/
theorem closes_closed {patterns : List Bytes} {ids : List Str} (trimmed : Trimmed cs) :
    Closes ruleId cs ⟨.closed, patterns, ids⟩ out ↔ cs = [] ∧ patterns = out := by
  cases cs with
  | nil => simp [closes_nil]
  | cons c cs =>
    rw [closes_cons, parseRuleLine_trimmed (trimmed_cons.mp trimmed).1]
    simp

/-- A stage that one line of the text ends. -/
theorem closes_literal {stage next : RuleStage} {patterns : List Bytes} {ids : List Str}
    {literal : Str} (open' : stage ≠ .closed)
    (line : ∀ c, trim c = c ∧ c ≠ [] → parseRuleLine ruleId ⟨stage, patterns, ids⟩ c =
      if c = literal then some ⟨next, patterns, ids⟩ else none) (trimmed : Trimmed cs) :
    Closes ruleId cs ⟨stage, patterns, ids⟩ out ↔
      ∃ rest, cs = literal :: rest ∧ Closes ruleId rest ⟨next, patterns, ids⟩ out := by
  cases cs with
  | nil => simp [closes_nil, open']
  | cons c cs =>
    rw [closes_cons, line c (trimmed_cons.mp trimmed).1]
    by_cases same : c = literal
    · subst same
      simp
    · simp [same]

theorem closes_closingBrace {patterns : List Bytes} {ids : List Str} (trimmed : Trimmed cs) :
    Closes ruleId cs ⟨.closingBrace, patterns, ids⟩ out ↔ cs = [[125]] ∧ patterns = out := by
  rw [closes_literal (by decide) (fun c hc => parseRuleLine_trimmed hc _) trimmed]
  constructor
  · rintro ⟨rest, rfl, closes⟩
    obtain ⟨rfl, same⟩ := (closes_closed (trimmed_cons.mp trimmed).2).mp closes
    exact ⟨rfl, same⟩
  · rintro ⟨rfl, same⟩
    exact ⟨[], rfl, (closes_closed (trimmed_cons.mp trimmed).2).mpr ⟨rfl, same⟩⟩

theorem closes_conditionValue {patterns : List Bytes} {ids : List Str} (trimmed : Trimmed cs) :
    Closes ruleId cs ⟨.conditionValue, patterns, ids⟩ out ↔
      cs = [str "any of them", [125]] ∧ patterns = out := by
  rw [closes_literal (by decide) (fun c hc => parseRuleLine_trimmed hc _) trimmed]
  constructor
  · rintro ⟨rest, rfl, closes⟩
    obtain ⟨rfl, same⟩ := (closes_closingBrace (trimmed_cons.mp trimmed).2).mp closes
    exact ⟨rfl, same⟩
  · rintro ⟨rfl, same⟩
    exact ⟨[[125]], rfl, (closes_closingBrace (trimmed_cons.mp trimmed).2).mpr ⟨rfl, same⟩⟩

/-- The lines that end every rule. -/
def ruleEnd : List Str := [str "condition:", str "any of them", [125]]

/-- A string line is not the line that ends the strings. -/
theorem ne_condition {c name : Str} {pattern : Bytes} (h : parseStringLine c = some (name, pattern)) :
    c ≠ str "condition:" := by
  rintro rfl
  cases h

/-- The string lines, each with a new name and a new literal, up to the condition. -/
theorem closes_stringLines {patterns : List Bytes} {ids : List Str} (trimmed : Trimmed cs)
    (few : patterns.length ≤ maxPatternsPerRule) :
    Closes ruleId cs ⟨.stringLines, patterns, ids⟩ out ↔
      ∃ strings declared, cs = strings ++ ruleEnd ∧
        List.Forall₂ (fun c d => parseStringLine c = some d) strings declared ∧
        Fresh ids (declared.map Prod.fst) ∧ Fresh patterns (declared.map Prod.snd) ∧
        out = patterns ++ declared.map Prod.snd ∧ out ≠ [] ∧ out.length ≤ maxPatternsPerRule := by
  induction cs generalizing patterns ids with
  | nil =>
    rw [closes_nil]
    constructor
    · rintro ⟨closed, -⟩
      cases closed
    · rintro ⟨strings, -, whole, -⟩
      cases strings <;> cases whole
  | cons c cs ih =>
    obtain ⟨isTrimmed, rest⟩ := trimmed_cons.mp trimmed
    rw [closes_cons, parseRuleLine_trimmed isTrimmed]
    dsimp only
    by_cases ends : c = str "condition:"
    · rw [if_pos ends]
      constructor
      · rintro ⟨next, isNext, closes⟩
        obtain ⟨some', isNext⟩ := Option.ite_none_left_eq_some.mp isNext
        obtain rfl := Option.some.inj isNext
        obtain ⟨rfl, rfl⟩ := (closes_conditionValue rest).mp closes
        exact ⟨[], [], by rw [ends]; rfl, .nil, fresh_nil _, fresh_nil _, by simp, some', few⟩
      · rintro ⟨strings, declared, whole, matched, -, -, isOut, some', -⟩
        cases strings with
        | nil =>
          obtain rfl := List.forall₂_nil_left_iff.mp matched
          obtain ⟨-, rfl⟩ := List.cons.inj whole
          obtain rfl : out = patterns := by simpa using isOut
          exact ⟨_, if_neg some', (closes_conditionValue rest).mpr ⟨rfl, rfl⟩⟩
        | cons c' strings =>
          obtain ⟨d, declared', isString, -, rfl⟩ := List.forall₂_cons_left_iff.mp matched
          obtain ⟨rfl, -⟩ := List.cons.inj whole
          exact absurd ends (ne_condition isString)
    · rw [if_neg ends]
      constructor
      · rintro ⟨next, isNext, closes⟩
        split at isNext
        · cases isNext
        rename_i name literal isString
        obtain ⟨unseen, isNext⟩ := Option.ite_none_left_eq_some.mp isNext
        obtain ⟨room, isNext⟩ := Option.ite_none_left_eq_some.mp isNext
        obtain rfl := Option.some.inj isNext
        obtain ⟨strings, declared, rfl, matched, names, literals, isOut, some', fits⟩ :=
          (ih rest (by simpa using room)).mp closes
        rw [not_or] at unseen
        exact ⟨c :: strings, (name, literal) :: declared, rfl, .cons isString matched,
          fresh_cons.mpr ⟨unseen.1, names⟩, fresh_cons.mpr ⟨unseen.2, fresh_concat.mp literals⟩,
          by simpa using isOut, some', fits⟩
      · rintro ⟨strings, declared, whole, matched, names, literals, isOut, some', fits⟩
        cases strings with
        | nil => exact absurd (List.cons.inj whole).1 ends
        | cons c' strings =>
          obtain ⟨⟨name, literal⟩, declared', isString, tail, rfl⟩ :=
            List.forall₂_cons_left_iff.mp matched
          obtain ⟨rfl, rfl⟩ := List.cons.inj whole
          obtain ⟨newName, names⟩ := fresh_cons.mp names
          obtain ⟨newLiteral, literals⟩ := fresh_cons.mp literals
          have lengths := congrArg List.length isOut
          simp only [List.length_append, List.map_cons, List.length_cons] at lengths
          have room : patterns.length + 1 ≤ maxPatternsPerRule := by omega
          refine ⟨⟨.stringLines, patterns ++ [literal], name :: ids⟩, ?_,
            (ih rest (by simpa using room)).mpr ⟨strings, declared', rfl, tail, names,
              fresh_concat.mpr literals, by simpa using isOut, some', fits⟩⟩
          simp only [isString]
          rw [if_neg (not_or.mpr ⟨newName, newLiteral⟩), if_neg (Nat.not_lt.mpr room)]

/-- The trimmed lines of a rule. -/
theorem closes_header (trimmed : Trimmed cs) : Closes ruleId cs ⟨.header, [], []⟩ out ↔
    ∃ header strings declared, cs = header :: str "strings:" :: (strings ++ ruleEnd) ∧
      splitWhitespace header = [str "rule", ruleId.map UInt8.toNat, [123]] ∧
      List.Forall₂ (fun c d => parseStringLine c = some d) strings declared ∧
      (declared.map Prod.fst).Nodup ∧ (declared.map Prod.snd).Nodup ∧
      out = declared.map Prod.snd ∧ out ≠ [] ∧ out.length ≤ maxPatternsPerRule := by
  have marker {cs : List Str} (trimmed : Trimmed cs) :
      Closes ruleId cs ⟨.stringsMarker, [], []⟩ out ↔
        ∃ rest, cs = str "strings:" :: rest ∧ Closes ruleId rest ⟨.stringLines, [], []⟩ out :=
    closes_literal (by decide) (fun c hc => parseRuleLine_trimmed hc _) trimmed
  cases cs with
  | nil => simp [closes_nil]
  | cons c cs =>
    obtain ⟨isTrimmed, rest⟩ := trimmed_cons.mp trimmed
    rw [closes_cons, parseRuleLine_trimmed isTrimmed]
    dsimp only
    constructor
    · rintro ⟨next, isNext, closes⟩
      obtain ⟨isHeader, isNext⟩ := Option.ite_none_right_eq_some.mp isNext
      obtain rfl := Option.some.inj isNext
      obtain ⟨others, rfl, closes⟩ := (marker rest).mp closes
      obtain ⟨strings, declared, rfl, matched, names, literals, isOut, bounds⟩ :=
        (closes_stringLines (trimmed_cons.mp rest).2 (by decide)).mp closes
      exact ⟨c, strings, declared, rfl, isHeader, matched, fresh_iff.mp names,
        fresh_iff.mp literals, isOut, bounds⟩
    · rintro ⟨header, strings, declared, whole, isHeader, matched, names, literals, isOut, bounds⟩
      obtain ⟨rfl, rfl⟩ := List.cons.inj whole
      refine ⟨_, if_pos isHeader, (marker rest).mpr ⟨_, rfl, ?_⟩⟩
      exact (closes_stringLines (trimmed_cons.mp rest).2 (by decide)).mpr ⟨strings, declared, rfl,
        matched, fresh_iff.mpr names, fresh_iff.mpr literals, isOut, bounds⟩

/-! ## What is accepted -/

theorem encodeAscii_literal_inj {literal literal' : Str} (h : IsLiteral literal)
    (h' : IsLiteral literal') (same : encodeAscii literal = encodeAscii literal') :
    literal = literal' := by
  refine encodeAscii_inj (fun c hc => ?_) (fun c hc => ?_) same
  · have := (h.2.2 c hc).2.1
    omega
  · have := (h'.2.2 c hc).2.1
    omega

/-- The string lines of a text, as the parser reads them and as the grammar does. -/
theorem strings_iff {strings : List Str} {read : List (Str × Bytes)} :
    List.Forall₂ (fun c d => parseStringLine c = some d) (strings.map trim) read ↔
      ∃ declared : List (Str × Str),
        List.Forall₂ (fun line d => StringLine d.1 d.2 line) strings declared ∧
          read = declared.map fun d => (d.1, encodeAscii d.2) := by
  induction strings generalizing read with
  | nil =>
    rw [List.map_nil, List.forall₂_nil_left_iff]
    constructor
    · rintro rfl
      exact ⟨[], .nil, rfl⟩
    · rintro ⟨declared, matched, rfl⟩
      rw [List.forall₂_nil_left_iff.mp matched]
      rfl
  | cons line strings ih =>
    rw [List.map_cons]
    constructor
    · intro matched
      obtain ⟨⟨name, pattern⟩, read', isString, tail, rfl⟩ := List.forall₂_cons_left_iff.mp matched
      obtain ⟨literal, isLine, rfl⟩ := parseStringLine_iff.mp isString
      obtain ⟨declared, rest, rfl⟩ := ih.mp tail
      exact ⟨(name, literal) :: declared, .cons isLine rest, rfl⟩
    · rintro ⟨declared, matched, rfl⟩
      obtain ⟨d, declared', isLine, tail, rfl⟩ := List.forall₂_cons_left_iff.mp matched
      exact .cons (parseStringLine_iff.mpr ⟨d.2, isLine, rfl⟩) (ih.mpr ⟨declared', tail, rfl⟩)

theorem literals_of_strings {strings : List Str} {declared : List (Str × Str)}
    (h : List.Forall₂ (fun line d => StringLine d.1 d.2 line) strings declared) :
    ∀ d ∈ declared, IsLiteral d.2 := by
  induction h with
  | nil => simp
  | cons isLine _ ih => exact List.forall_mem_cons.mpr ⟨isLine.2.1, ih⟩

/-- Literals are repeated exactly when their bytes are. -/
theorem nodup_literals {declared : List (Str × Str)} (literals : ∀ d ∈ declared, IsLiteral d.2) :
    (declared.map fun d => encodeAscii d.2).Nodup ↔ (declared.map Prod.snd).Nodup := by
  have whole : (declared.map fun d => encodeAscii d.2) =
      (declared.map Prod.snd).map encodeAscii := by
    rw [List.map_map]
    rfl
  rw [whole]
  constructor
  · exact List.Nodup.of_map _
  · intro nodup
    refine nodup.map_on ?_
    intro a ha b hb same
    obtain ⟨d, hd, rfl⟩ := List.mem_map.mp ha
    obtain ⟨d', hd', rfl⟩ := List.mem_map.mp hb
    exact encodeAscii_literal_inj (literals d hd) (literals d' hd') same

theorem tight_words : Tight (str "strings:") ∧ Tight (str "condition:") ∧
    Tight (str "any of them") ∧ Tight [125] := by
  have ends {s : Str} {c d : Nat} (first : s.head? = some c) (last : s.getLast? = some d)
      (letter : isWhitespace c = false) (letter' : isWhitespace d = false) : Tight s :=
    ⟨fun e isHead => Option.some.inj (first.symm.trans isHead) ▸ letter,
      fun e isLast => Option.some.inj (last.symm.trans isLast) ▸ letter'⟩
  exact ⟨ends rfl rfl rfl rfl, ends rfl rfl rfl rfl, ends rfl rfl rfl rfl, ends rfl rfl rfl rfl⟩

theorem trim_iff_around (tight : Tight content) : trim line = content ↔ Around content line := by
  rw [trim_eq_iff]
  exact and_iff_right tight

theorem word_ruleId (valid : validateRuleId ruleId = true) : Word (ruleId.map UInt8.toNat) := by
  simp only [validateRuleId, Bool.and_eq_true, Bool.not_eq_true', List.isEmpty_eq_false_iff,
    List.all_eq_true, Bool.or_eq_true, beq_iff_eq] at valid
  refine ⟨by simpa using valid.1.1, ?_⟩
  intro c hc
  obtain ⟨b, hb, rfl⟩ := List.mem_map.mp hc
  rcases valid.2 b hb with (letter | rfl) | rfl
  · exact isWhitespace_identifier (by rw [letter]; rfl)
  · decide
  · decide

theorem splitWhitespace_trim (line : Str) : splitWhitespace (trim line) = splitWhitespace line := by
  obtain ⟨before, after, blank, blank', whole⟩ := around_trim line
  generalize trim line = inner at whole
  rw [whole, List.append_assoc, splitWhitespace_gap blank]
  cases after with
  | nil => rw [List.append_nil]
  | cons c after =>
    rw [splitWhitespace_at (blank' c List.mem_cons_self),
      splitWhitespace_blank fun d hd => blank' d (List.mem_cons_of_mem _ hd), List.append_nil]

/-- The parser accepts the texts of the grammar and returns the literals they declare. -/
theorem parseRuleText_iff (valid : validateRuleId ruleId = true) (text : Str) :
    parseRuleText ruleId text = some out ↔
      ∃ declared, RuleText (ruleId.map UInt8.toNat) declared text ∧
        out = declared.map fun d => encodeAscii d.2 := by
  have closes : parseRuleText ruleId text = some out ↔
      Closes ruleId ((ruleLines text).map trim) ⟨.header, [], []⟩ out := by
    rw [parseRuleText, foldlM_contents, contents_lines, contents_eq_map]
    show _ ↔ Closes ruleId ((ruleLines text).map trim) _ _
    unfold Closes ruleLines
    cases ((text.splitOn 10).filter fun line => !line.all isWhitespace).map trim |>.foldlM
      (parseRuleLine ruleId) ⟨.header, [], []⟩ with
    | none => simp
    | some last => simp
  have trimmed : Trimmed ((ruleLines text).map trim) := by
    rw [ruleLines, ← contents_eq_map]
    exact trimmed_contents _
  obtain ⟨tightStrings, tightCondition, tightAnyOf, tightBrace⟩ := tight_words
  rw [closes, closes_header trimmed]
  constructor
  · rintro ⟨header, strings, read, whole, isHeader, matched, names, literals, rfl, some', few⟩
    generalize isLines : ruleLines text = rawLines at whole
    obtain ⟨headerLine, others, rfl, rfl, fromMarker⟩ := List.map_eq_cons_iff.mp whole
    obtain ⟨marker, others, rfl, isMarker, fromStrings⟩ := List.map_eq_cons_iff.mp fromMarker
    obtain ⟨stringLines, ending, rfl, rfl, fromEnd⟩ := List.map_eq_append_iff.mp fromStrings
    obtain ⟨condition, ending, rfl, isCondition, fromAnyOf⟩ := List.map_eq_cons_iff.mp fromEnd
    obtain ⟨anyOf, ending, rfl, isAnyOf, fromBrace⟩ := List.map_eq_cons_iff.mp fromAnyOf
    obtain ⟨brace, ending, rfl, isBrace, nothing⟩ := List.map_eq_cons_iff.mp fromBrace
    obtain rfl := List.map_eq_nil_iff.mp nothing
    obtain ⟨declared, areLines, rfl⟩ := strings_iff.mp matched
    rw [splitWhitespace_trim] at isHeader
    simp only [List.map_map, Function.comp_def, List.length_map] at names literals few some' ⊢
    refine ⟨declared, ⟨headerLine, marker, stringLines, condition, anyOf, brace, isLines,
      (headerLine_iff (word_ruleId valid)).mp isHeader, (trim_iff_around tightStrings).mp isMarker,
      areLines, (trim_iff_around tightCondition).mp isCondition,
      (trim_iff_around tightAnyOf).mp isAnyOf, (trim_iff_around tightBrace).mp isBrace, ⟨?_, few⟩,
      names, (nodup_literals (literals_of_strings areLines)).mp literals⟩, rfl⟩
    exact List.length_pos_iff.mpr fun empty => some' (by rw [empty]; rfl)
  · rintro ⟨declared, ⟨header, marker, strings, condition, anyOf, brace, isLines, isHeader, isMarker,
      matched, isCondition, isAnyOf, isBrace, ⟨some', few⟩, names, literals⟩, rfl⟩
    refine ⟨trim header, strings.map trim, declared.map fun d => (d.1, encodeAscii d.2), ?_, ?_,
      strings_iff.mpr ⟨declared, matched, rfl⟩, ?_, ?_, ?_, ?_, by simpa using few⟩
    · rw [isLines, List.map_cons, List.map_cons, List.map_append,
        (trim_iff_around tightStrings).mpr isMarker]
      simp only [List.map_cons, List.map_nil, (trim_iff_around tightCondition).mpr isCondition,
        (trim_iff_around tightAnyOf).mpr isAnyOf, (trim_iff_around tightBrace).mpr isBrace, ruleEnd]
    · rw [splitWhitespace_trim]
      exact (headerLine_iff (word_ruleId valid)).mpr isHeader
    · rw [List.map_map]
      exact names
    · rw [List.map_map]
      exact (nodup_literals (literals_of_strings matched)).mpr literals
    · rw [List.map_map]
      rfl
    · intro empty
      rw [List.map_eq_nil_iff.mp empty] at some'
      cases some'

end Prometheus.Client
