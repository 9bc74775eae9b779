import Prometheus.Jaeger.SemanticDraft
import Prometheus.Jaeger.SemanticDraftScan
import Prometheus.ThreatHint.ObservableAgreement

/-!
# The semantic draft is one rule from which its patterns can be read

A valid observable passes the checks of the draft, and its value cannot end the literal it is written
into. The lines of a draft contain no line feed, so the source splits into them again.
-/

namespace Prometheus.Jaeger.SemanticDraft

open Prometheus.Codec Prometheus.Machine Prometheus.ThreatHint
open Prometheus.Jaeger.YaraValidation
open Prometheus.ThreatHint.Python (Observable ObservableBundle)

/-! ## A valid observable passes the checks -/

theorem mem_hexDigits {c : Nat} (h : isLowerHex c = true) : c ∈ hexDigits := by
  have each : ∀ c < 128, isLowerHex c = true → c ∈ hexDigits := by decide +kernel
  refine each c ?_ h
  simp only [isLowerHex, Bool.or_eq_true, Bool.and_eq_true, decide_eq_true_eq] at h
  omega

theorem small_of_isImportChar {c : Nat} (h : Python.isImportChar c = true) : c < 128 := by
  simp only [Python.isImportChar, Bool.or_eq_true, Bool.and_eq_true, decide_eq_true_eq,
    beq_iff_eq] at h
  omega

theorem mem_apiImportChars {c : Nat} (h : Python.isImportChar c = true) : c ∈ apiImportChars := by
  have each : ∀ c < 128, Python.isImportChar c = true → c ∈ apiImportChars := by decide +kernel
  exact each c (small_of_isImportChar h) h

theorem mem_apiImportStartChars {c : Nat} (h : Python.isImportStart c = true) :
    c ∈ apiImportStartChars := by
  have each : ∀ c < 128, Python.isImportStart c = true → c ∈ apiImportStartChars := by
    decide +kernel
  exact each c (small_of_isImportChar (isImportChar_of_start h)) h

theorem checkFileSha256_of_valid {value : Str} (h : Python.validateFileSha256 value = .ok ()) :
    checkFileSha256 value = .ok () := by
  rw [Python.validateFileSha256, ite_error_eq_ok, ite_error_eq_ok, not_not] at h
  refine if_neg (not_or.mpr ⟨not_not.mpr h.1, ?_⟩)
  rintro ⟨c, hc, notHex⟩
  exact notHex (mem_hexDigits (List.all_eq_true.mp (not_not.mp h.2.1).2 c hc))

/-- What an import is. -/
theorem import_of_valid {value : Str} (h : Python.validateApiImport value = .ok ()) :
    ∃ first rest, value = first :: rest ∧ Python.isImportStart first = true ∧
      (∀ c ∈ value, Python.isImportChar c = true) ∧ value.length ≤ maxApiImportLen := by
  rw [Python.validateApiImport, ite_error_eq_ok, ite_error_eq_ok, not_lt, not_not] at h
  obtain ⟨short, isMatch, -⟩ := h
  cases value with
  | nil => cases isMatch
  | cons first rest =>
    simp only [Python.matchesApiImport, Bool.and_eq_true] at isMatch
    refine ⟨first, rest, rfl, isMatch.1.1, ?_, short⟩
    exact List.forall_mem_cons.mpr
      ⟨isImportChar_of_start isMatch.1.1, List.all_eq_true.mp isMatch.1.2⟩

theorem checkApiImport_of_valid {value : Str} (h : Python.validateApiImport value = .ok ()) :
    checkApiImport value = .ok () := by
  obtain ⟨first, rest, rfl, isStart, chars, short⟩ := import_of_valid h
  have length : 1 ≤ (first :: rest).length ∧ (first :: rest).length ≤ maxApiImportLen :=
    ⟨Nat.succ_le_succ (Nat.zero_le _), short⟩
  have start : ∃ c ∈ (first :: rest).head?, c ∈ apiImportStartChars :=
    ⟨first, rfl, mem_apiImportStartChars isStart⟩
  rw [checkApiImport, if_neg (not_not.mpr length), if_neg (not_not.mpr start), if_neg]
  rintro ⟨c, hc, notChar⟩
  exact notChar (mem_apiImportChars (chars c hc))

theorem countFixed_of_valid {tokens : List Str} {fixed count : Nat}
    (h : Python.countFixed fixed tokens = .ok count) : countFixed fixed tokens = .ok count := by
  induction tokens generalizing fixed with
  | nil => cases h; rfl
  | cons token tokens ih =>
    rw [Python.countFixed, ite_error_eq_ok] at h
    have isWild : token = str "??" ↔ token = [63, 63] := Iff.rfl
    rw [countFixed]
    by_cases wild : token = [63, 63]
    · rw [if_pos wild] at h
      rw [if_pos (isWild.mpr wild)]
      exact ih h.2
    · rw [if_neg wild, ite_error_eq_ok, not_not] at h
      obtain ⟨-, ⟨length, isHex⟩, rest⟩ := h
      rw [if_neg (isWild.not.mpr wild), if_neg]
      · exact ih rest
      · rintro (long | ⟨c, hc, notHex⟩)
        · exact long length
        · exact notHex (mem_hexDigits (List.all_eq_true.mp isHex c hc))

/-- Every token of a counted pattern is a wildcard or a byte. -/
theorem token_of_counted {tokens : List Str} {fixed count : Nat}
    (h : Python.countFixed fixed tokens = .ok count) :
    ∀ token ∈ tokens, token = [63, 63] ∨ (token.length = 2 ∧ token.all isLowerHex = true) := by
  induction tokens generalizing fixed with
  | nil => exact List.forall_mem_nil _
  | cons token tokens ih =>
    rw [Python.countFixed, ite_error_eq_ok] at h
    by_cases wild : token = [63, 63]
    · rw [if_pos wild] at h
      exact List.forall_mem_cons.mpr ⟨.inl wild, ih h.2⟩
    · rw [if_neg wild, ite_error_eq_ok, not_not] at h
      exact List.forall_mem_cons.mpr ⟨.inr h.2.1, ih h.2.2⟩

/-- What a byte pattern is. -/
theorem pattern_of_valid {value : Str} (h : Python.validateBytePattern value = .ok ()) :
    (∀ c ∈ value, c < 128) ∧
      (minBytePatternTokens ≤ (value.splitOn 32).length ∧
        (value.splitOn 32).length ≤ maxBytePatternTokens) ∧
      ∃ count, Python.countFixed 0 (value.splitOn 32) = .ok count ∧ minBytePatternTokens ≤ count := by
  rw [Python.validateBytePattern, ite_error_eq_ok, ite_error_eq_ok, not_not] at h
  obtain ⟨isAscii, -, h⟩ := h
  rw [ite_error_eq_ok, not_or, not_lt, not_lt] at h
  obtain ⟨range, h⟩ := h
  refine ⟨fun c hc => of_decide_eq_true (List.all_eq_true.mp isAscii c hc), range, ?_⟩
  split at h
  · cases h
  · rename_i count isCount
    exact ⟨count, isCount, not_lt.mp (ite_error_eq_ok.mp h).1⟩

theorem checkBytePattern_of_valid {value : Str} (h : Python.validateBytePattern value = .ok ()) :
    checkBytePattern value = .ok () := by
  obtain ⟨isAscii, range, count, isCount, enough⟩ := pattern_of_valid h
  have noLarge : ¬ ∃ char ∈ value, ¬ char < 128 := by
    rintro ⟨c, hc, large⟩
    exact large (isAscii c hc)
  rw [checkBytePattern, if_neg noLarge]
  simp only [if_neg (not_not.mpr range), countFixed_of_valid isCount, if_neg (not_lt.mpr enough)]

theorem checkedObservable_of_valid {observable : Observable}
    (h : Python.validateObservable observable.kind observable.value = .ok ()) :
    checkedObservable observable = .ok (observable.kind, observable.value) := by
  obtain ⟨kind, value⟩ := observable
  cases kind with
  | fileSha256 => simp only [checkedObservable, checkFileSha256_of_valid h]; rfl
  | apiImport => simp only [checkedObservable, checkApiImport_of_valid h]; rfl
  | bytePattern => simp only [checkedObservable, checkBytePattern_of_valid h]; rfl

/-- The patterns of a bundle, in their order. -/
def patternsOf (observables : List Observable) : List Pattern :=
  (observables.filter fun o => decide (o.kind ≠ .fileSha256)).map fun o => (o.kind, o.value)

/-- How many observables are of a kind. -/
def countOf (kind : ObservableKind) (observables : List Observable) : Nat :=
  observables.countP fun o => decide (o.kind = kind)

theorem collect_of_valid {observables : List Observable} {count : Nat} {patterns : List Pattern}
    (h : ∀ o ∈ observables, Python.validateObservable o.kind o.value = .ok ()) :
    collect count patterns observables =
      .ok (count + countOf .fileSha256 observables, patterns ++ patternsOf observables) := by
  induction observables generalizing count patterns with
  | nil => simp [collect, countOf, patternsOf]
  | cons o observables ih =>
    obtain ⟨valid, others⟩ := List.forall_mem_cons.mp h
    rw [collect, checkedObservable_of_valid valid]
    by_cases isDigest : o.kind = .fileSha256
    · simp only [if_pos isDigest, ih others, countOf, patternsOf]
      rw [List.countP_cons_of_pos (by simpa using isDigest),
        List.filter_cons_of_neg (by simpa using isDigest)]
      simp only [Except.ok.injEq, Prod.mk.injEq, and_true]
      omega
    · simp only [if_neg isDigest, ih others, countOf, patternsOf]
      rw [List.countP_cons_of_neg (by simpa using isDigest),
        List.filter_cons_of_pos (by simpa using isDigest)]
      simp

theorem countOf_cons (kind : ObservableKind) (o : Observable) (observables : List Observable) :
    countOf kind (o :: observables) =
      countOf kind observables + if o.kind = kind then 1 else 0 := by
  simp [countOf, List.countP_cons]

/-- The kinds of the patterns are counted as those of the observables. -/
theorem count_patternsOf (observables : List Observable) :
    (patternsOf observables).countP (fun pattern => decide (pattern.1 = .apiImport)) =
        countOf .apiImport observables ∧
      (patternsOf observables).length =
        countOf .apiImport observables + countOf .bytePattern observables := by
  induction observables with
  | nil => exact ⟨rfl, rfl⟩
  | cons o observables ih =>
    obtain ⟨imports, all⟩ := ih
    obtain ⟨kind, value⟩ := o
    rw [countOf_cons, countOf_cons]
    cases kind with
    | fileSha256 => exact ⟨imports, all⟩
    | apiImport =>
      have split : patternsOf (⟨.apiImport, value⟩ :: observables) =
          (.apiImport, value) :: patternsOf observables := rfl
      rw [split, List.countP_cons_of_pos (by rfl), List.length_cons, imports, all]
      simp only [if_true, reduceCtorEq, if_false, true_and]
      omega
    | bytePattern =>
      have split : patternsOf (⟨.bytePattern, value⟩ :: observables) =
          (.bytePattern, value) :: patternsOf observables := rfl
      rw [split, List.countP_cons_of_neg (by simp), List.length_cons, imports, all]
      simp only [if_true, reduceCtorEq, if_false, Nat.add_zero, true_and]
      omega

/-! ## Values that cannot end their literal -/

/-- A short ASCII text without a line feed and without what ends or escapes in a literal. -/
structure Inert (value : Str) : Prop where
  chars : ∀ c ∈ value, c < 128 ∧ c ≠ 10 ∧ c ≠ 34 ∧ c ≠ 92 ∧ c ≠ 125
  short : value.length ≤ 192

/-- A text is made of its pieces and the separators. -/
theorem mem_of_splitOn {text : Str} {separator c : Nat} (mem : c ∈ text) :
    c = separator ∨ ∃ piece ∈ text.splitOn separator, c ∈ piece := by
  have joined : [separator].intercalate (text.splitOn separator) = text :=
    List.intercalate_splitOn separator
  rw [← joined] at mem
  exact mem_intercalate mem

theorem length_le_of_splitOn {text : Str} {separator width : Nat}
    (narrow : ∀ piece ∈ text.splitOn separator, piece.length ≤ width) :
    text.length ≤ (width + 1) * (text.splitOn separator).length := by
  have joined : [separator].intercalate (text.splitOn separator) = text :=
    List.intercalate_splitOn separator
  conv_lhs => rw [← joined]
  generalize text.splitOn separator = pieces at narrow
  cases pieces with
  | nil => simp [List.intercalate]
  | cons piece pieces =>
    rw [intercalate_cons, List.length_append, List.length_flatMap]
    have first := narrow piece List.mem_cons_self
    have rest : (pieces.map fun p => (separator :: p).length).sum ≤ pieces.length • (width + 1) := by
      rw [← List.length_map (f := fun p => (separator :: p).length)]
      refine List.sum_le_card_nsmul _ _ fun n hn => ?_
      obtain ⟨p, hp, rfl⟩ := List.mem_map.mp hn
      exact Nat.succ_le_succ (narrow p (List.mem_cons_of_mem piece hp))
    rw [smul_eq_mul] at rest
    rw [List.length_cons, Nat.mul_succ, Nat.mul_comm]
    omega

theorem Inert.of_import {value : Str} (h : Python.validateApiImport value = .ok ()) :
    Inert value := by
  obtain ⟨first, rest, rfl, -, chars, short⟩ := import_of_valid h
  refine ⟨fun c hc => ?_, short.trans (by decide)⟩
  have isChar := chars c hc
  simp only [Python.isImportChar, Bool.or_eq_true, Bool.and_eq_true, decide_eq_true_eq,
    beq_iff_eq] at isChar
  omega

theorem Inert.of_pattern {value : Str} (h : Python.validateBytePattern value = .ok ()) :
    Inert value := by
  obtain ⟨-, range, count, isCount, -⟩ := pattern_of_valid h
  have tokens := token_of_counted isCount
  constructor
  · intro c hc
    rcases @mem_of_splitOn _ 32 _ hc with rfl | ⟨token, isToken, hc⟩
    · decide
    · rcases tokens token isToken with rfl | ⟨-, isHex⟩
      · simp only [List.mem_cons, List.not_mem_nil, or_false, or_self] at hc
        omega
      · have digit := List.all_eq_true.mp isHex c hc
        simp only [isLowerHex, Bool.or_eq_true, Bool.and_eq_true, decide_eq_true_eq] at digit
        omega
  · have narrow : ∀ token ∈ value.splitOn 32, token.length ≤ 2 := by
      intro token isToken
      rcases tokens token isToken with rfl | ⟨length, -⟩
      · exact le_refl 2
      · exact length.le
    have length := length_le_of_splitOn narrow
    have limit : 3 * maxBytePatternTokens = 192 := rfl
    have upper := range.2
    omega

/-- A pattern of a bundle. -/
structure IsPattern (pattern : Pattern) : Prop where
  kind : pattern.1 = .apiImport ∨ pattern.1 = .bytePattern
  inert : Inert pattern.2

theorem isPattern_of_valid {observables : List Observable}
    (h : ∀ o ∈ observables, Python.validateObservable o.kind o.value = .ok ()) :
    ∀ pattern ∈ patternsOf observables, IsPattern pattern := by
  intro pattern mem
  obtain ⟨o, isPattern, rfl⟩ := List.mem_map.mp mem
  obtain ⟨ho, notDigest⟩ := List.mem_filter.mp isPattern
  have valid := h o ho
  obtain ⟨kind, value⟩ := o
  cases kind with
  | fileSha256 => exact absurd rfl (of_decide_eq_true notDigest)
  | apiImport => exact ⟨.inl rfl, .of_import valid⟩
  | bytePattern => exact ⟨.inr rfl, .of_pattern valid⟩

/-! ## The source -/

/-- The first line. -/
def headLine : Str := str "rule " ++ ruleName ++ str " \x7b"

/-- The lines between the first and the last. -/
def bodyLines (patterns : List Pattern) : List Str :=
  if patterns ≠ [] then
    [str "    strings:"] ++ patternLines 0 patterns ++
      [str "    condition:", str "        any of them"]
  else [str "    condition:", str "        filesize == 0 and filesize > 0"]

theorem render_eq (patterns : List Pattern) :
    renderCandidateSource patterns = List.intercalate [10] (headLine :: bodyLines patterns ++ [[125]]) :=
  rfl

theorem render_split (patterns : List Pattern) :
    renderCandidateSource patterns =
      headLine ++ ((bodyLines patterns).flatMap (fun line => 10 :: line) ++ [10, 125]) := by
  rw [render_eq, List.cons_append, intercalate_cons, List.flatMap_append]
  rfl

/-- Every line between the first and the last is a fixed one or that of a pattern. -/
theorem mem_bodyLines {patterns : List Pattern} {line : Str} (mem : line ∈ bodyLines patterns) :
    line ∈ [str "    strings:", str "    condition:", str "        any of them",
        str "        filesize == 0 and filesize > 0"] ∨
      ∃ index, ∃ pattern ∈ patterns, index < patterns.length ∧ line = patternLine index pattern := by
  have each : ∀ (start : Nat) (patterns : List Pattern) (line : Str),
      line ∈ patternLines start patterns →
        ∃ index, ∃ pattern ∈ patterns, index < start + patterns.length ∧
          line = patternLine index pattern := by
    intro start patterns
    induction patterns generalizing start with
    | nil => exact fun line mem => nomatch mem
    | cons pattern patterns ih =>
      intro line mem
      rcases List.mem_cons.mp mem with rfl | mem
      · exact ⟨start, pattern, List.mem_cons_self, by rw [List.length_cons]; omega, rfl⟩
      · obtain ⟨index, next, isNext, small, isLine⟩ := ih (start + 1) line mem
        rw [List.length_cons]
        exact ⟨index, next, List.mem_cons_of_mem pattern isNext, by omega, isLine⟩
  unfold bodyLines at mem
  split_ifs at mem with nonempty
  · simp only [List.mem_append, List.mem_cons, List.not_mem_nil, or_false] at mem ⊢
    rcases mem with (mem | mem) | mem | mem
    · exact .inl (.inl mem)
    · obtain ⟨index, pattern, isPattern, small, isLine⟩ := each 0 patterns line mem
      exact .inr ⟨index, pattern, isPattern, by omega, isLine⟩
    · exact .inl (.inr (.inl mem))
    · exact .inl (.inr (.inr (.inl mem)))
  · simp only [List.mem_cons, List.not_mem_nil, or_false] at mem ⊢
    rcases mem with mem | mem
    · exact .inl (.inr (.inl mem))
    · exact .inl (.inr (.inr (.inr mem)))

/-- The two parts of a pattern's line: a plain text and a literal. -/
theorem patternLine_eq {pattern : Pattern} (h : IsPattern pattern) (index : Nat) :
    ∃ literal, patternLine index pattern = str "        $p" ++ decimal index ++ str " = " ++ literal ∧
      ((pattern.1 = .apiImport ∧ literal = 34 :: pattern.2 ++ [34]) ∨
        (pattern.1 = .bytePattern ∧ literal = 123 :: (32 :: pattern.2 ++ [32]) ++ [125])) := by
  obtain ⟨kind, value⟩ := pattern
  have equals : str " = \"" = str " = " ++ [34] := rfl
  have opens : str " = \x7b " = str " = " ++ [123, 32] := rfl
  rcases h.kind with isImport | isPattern
  · cases isImport
    refine ⟨34 :: value ++ [34], ?_, .inl ⟨rfl, rfl⟩⟩
    rw [patternLine, if_pos rfl, equals]
    simp only [List.append_assoc]
    rfl
  · cases isPattern
    refine ⟨123 :: (32 :: value ++ [32]) ++ [125], ?_, .inr ⟨rfl, rfl⟩⟩
    rw [patternLine, if_neg nofun, opens]
    simp only [List.append_assoc, List.cons_append]
    rfl

theorem isPlain_label (index : Nat) :
    ∀ c ∈ str "        $p" ++ decimal index ++ str " = ", IsPlain c := by
  have fixed : ∀ c ∈ str "        $p" ++ str " = ", IsPlain c := by decide
  intro c hc
  rw [List.mem_append, List.mem_append] at hc
  rcases hc with (hc | hc) | hc
  · exact fixed c (List.mem_append_left _ hc)
  · have digit := mem_decimal hc
    unfold IsPlain
    omega
  · exact fixed c (List.mem_append_right _ hc)

theorem passes_patternLine {s : TopLevelScanner} (inBody : InBody s) {pattern : Pattern}
    (h : IsPattern pattern) (index : Nat) : Passes s (patternLine index pattern) := by
  obtain ⟨literal, isLine, ⟨-, rfl⟩ | ⟨-, rfl⟩⟩ := patternLine_eq h index
  · rw [isLine]
    refine (Passes.plain inBody (isPlain_label index)).append (Passes.quoted inBody fun c hc => ?_)
    have inert := h.inert.chars c hc
    exact ⟨inert.2.2.1, inert.2.2.2.1⟩
  · rw [isLine]
    refine (Passes.plain inBody (isPlain_label index)).append (Passes.hex inBody fun c hc => ?_)
    rw [List.cons_append, List.mem_cons, List.mem_append, List.mem_singleton] at hc
    rcases hc with rfl | hc | rfl
    · decide
    · exact (h.inert.chars c hc).2.2.2.2
    · decide

/-- The scanner leaves the body as it entered it. -/
theorem passes_body {s : TopLevelScanner} (inBody : InBody s) {patterns : List Pattern}
    (h : ∀ pattern ∈ patterns, IsPattern pattern) :
    Passes s ((bodyLines patterns).flatMap fun line => 10 :: line) := by
  have fixed : ∀ line ∈ [str "    strings:", str "    condition:", str "        any of them",
      str "        filesize == 0 and filesize > 0"], ∀ c ∈ line, IsPlain c := by
    decide
  have feed : ∀ c ∈ [10], IsPlain c := by decide
  rw [List.flatMap_def]
  refine .flatten fun text isText => ?_
  obtain ⟨line, isLine, rfl⟩ := List.mem_map.mp isText
  have newline : Passes _ [10] := .plain inBody feed
  refine newline.append ?_
  rcases mem_bodyLines isLine with isFixed | ⟨index, pattern, isPattern, -, rfl⟩
  · exact .plain inBody (fixed line isFixed)
  · exact passes_patternLine inBody (h pattern isPattern) index

/-- The scanner finds one rule with the fixed name. -/
theorem scan_render {patterns : List Pattern} (h : ∀ pattern ∈ patterns, IsPattern pattern) :
    scan (renderCandidateSource patterns) = ⟨1, some ruleName, false, true⟩ := by
  obtain ⟨c, word, isName⟩ : ∃ c word, ruleName = c :: word := ⟨_, _, rfl⟩
  have isWord : ∀ b ∈ ruleName, isIdentifierChar b = true := by decide
  have notKeyword : ruleName ∉ directiveTokens ∧ ruleName ≠ ruleToken := by decide
  have isStart : ∀ b ∈ ruleName.head?, isIdentifierStart b = true := by decide
  rw [isName] at isWord notKeyword isStart
  have ends : run .start (renderCandidateSource patterns) =
      { inRule ruleName with depth := 0 } := by
    rw [render_split, headLine, isName, run_head (isStart c rfl)
      (fun b hb => isWord b (List.mem_cons_of_mem c hb)) notKeyword,
      passes_body (inBody_inRule _) h]
    have newline : Passes _ [10] := .plain (inBody_inRule (c :: word)) (by decide)
    exact newline [125]
  rw [scan]
  show { (run .start (renderCandidateSource patterns)).result with
    terminated := (run .start (renderCandidateSource patterns)).isTerminated } = _
  rw [ends]
  rfl

/-! ## Its size and its characters -/

/-- A line of the source: ASCII without a line feed, and not too long. -/
structure IsLine (line : Str) : Prop where
  chars : ∀ c ∈ line, c < 128 ∧ c ≠ 10
  short : line.length ≤ 256

theorem isLine_patternLine {pattern : Pattern} (h : IsPattern pattern) {index : Nat}
    (small : index < 10 ^ 20) : IsLine (patternLine index pattern) := by
  obtain ⟨literal, isLine, isLiteral⟩ := patternLine_eq h index
  have fixed : ∀ c ∈ str "        $p" ++ str " = ", c < 128 ∧ c ≠ 10 := by decide
  have digits : (decimal index).length ≤ 20 := by
    rw [decimal, List.length_map]
    exact Nat.toDigits_length 10 index 20 (by decide) small
  have value := h.inert.short
  have inside : (∀ c ∈ literal, c < 128 ∧ c ≠ 10) ∧ literal.length ≤ pattern.2.length + 4 := by
    have chars : ∀ c ∈ pattern.2, c < 128 ∧ c ≠ 10 :=
      fun c hc => ⟨(h.inert.chars c hc).1, (h.inert.chars c hc).2.1⟩
    rcases isLiteral with ⟨-, rfl⟩ | ⟨-, rfl⟩
    · constructor
      · intro c hc
        rw [List.cons_append, List.mem_cons, List.mem_append, List.mem_singleton] at hc
        rcases hc with rfl | hc | rfl
        · decide
        · exact chars c hc
        · decide
      · simp
    · constructor
      · intro c hc
        simp only [List.cons_append, List.append_assoc, List.nil_append, List.mem_cons,
          List.mem_append, List.not_mem_nil, or_false] at hc
        rcases hc with rfl | rfl | hc | rfl | rfl
        · decide
        · decide
        · exact chars c hc
        · decide
        · decide
      · simp
  constructor
  · intro c hc
    rw [isLine, List.mem_append, List.mem_append, List.mem_append] at hc
    rcases hc with ((hc | hc) | hc) | hc
    · exact fixed c (List.mem_append_left _ hc)
    · have digit := mem_decimal hc
      omega
    · exact fixed c (List.mem_append_right _ hc)
    · exact inside.1 c hc
  · have label : (str "        $p").length = 10 ∧ (str " = ").length = 3 := by decide
    rw [isLine, List.length_append, List.length_append, List.length_append, label.1, label.2]
    have literal := inside.2
    omega

theorem isLine_bodyLines {patterns : List Pattern} (h : ∀ pattern ∈ patterns, IsPattern pattern)
    (few : patterns.length ≤ 16) : ∀ line ∈ bodyLines patterns, IsLine line := by
  have fixed : ∀ line ∈ [str "    strings:", str "    condition:", str "        any of them",
      str "        filesize == 0 and filesize > 0"],
      (∀ c ∈ line, c < 128 ∧ c ≠ 10) ∧ line.length ≤ 256 := by
    decide
  intro line isLine
  rcases mem_bodyLines isLine with isFixed | ⟨index, pattern, isPattern, small, rfl⟩
  · exact ⟨(fixed line isFixed).1, (fixed line isFixed).2⟩
  · exact isLine_patternLine (h pattern isPattern) (by omega)

theorem isLine_headLine : IsLine headLine := by
  have fixed : (∀ c ∈ headLine, c < 128 ∧ c ≠ 10) ∧ headLine.length ≤ 256 := by decide
  exact ⟨fixed.1, fixed.2⟩

theorem length_bodyLines (patterns : List Pattern) :
    (bodyLines patterns).length ≤ patterns.length + 3 := by
  have lines : ∀ start, (patternLines start patterns).length = patterns.length := by
    induction patterns with
    | nil => exact fun _ => rfl
    | cons pattern patterns ih => exact fun start => congrArg Nat.succ (ih (start + 1))
  unfold bodyLines
  split_ifs
  · simp only [List.length_append, List.length_cons, List.length_nil, lines]
    omega
  · simp

theorem isAscii_render {patterns : List Pattern} (h : ∀ pattern ∈ patterns, IsPattern pattern)
    (few : patterns.length ≤ 16) : IsAscii (renderCandidateSource patterns) := by
  have lines := isLine_bodyLines h few
  intro c hc
  rw [render_split, List.mem_append, List.mem_append, List.mem_flatMap] at hc
  rcases hc with hc | ⟨line, isLine, hc⟩ | hc
  · exact (isLine_headLine.chars c hc).1
  · rcases List.mem_cons.mp hc with rfl | hc
    · decide
    · exact ((lines line isLine).chars c hc).1
  · simp only [List.mem_cons, List.not_mem_nil, or_false] at hc
    omega

theorem length_render {patterns : List Pattern} (h : ∀ pattern ∈ patterns, IsPattern pattern)
    (few : patterns.length ≤ 16) :
    (renderCandidateSource patterns).length ≤ maxYaraSourceBytes := by
  have lines := isLine_bodyLines h few
  have head := isLine_headLine.short
  have count := length_bodyLines patterns
  have body : ((bodyLines patterns).flatMap fun line => 10 :: line).length ≤
      (bodyLines patterns).length * 257 := by
    rw [List.length_flatMap]
    refine (List.sum_le_card_nsmul _ 257 fun n hn => ?_).trans ?_
    · obtain ⟨line, isLine, rfl⟩ := List.mem_map.mp hn
      exact Nat.succ_le_succ (lines line isLine).short
    · rw [List.length_map, smul_eq_mul]
  have limit : maxYaraSourceBytes = 65536 := rfl
  rw [render_split, List.length_append, List.length_append]
  have ends : [10, 125].length = 2 := rfl
  omega

/-! ## The patterns are read from the source -/

/-- The pattern of a line: the kind by the character after the equals sign. -/
def readLine (line : Str) : Option Pattern :=
  match (line.dropWhile (· ≠ 61)).drop 2 with
  | 34 :: text => some (.apiImport, text.dropLast)
  | 123 :: 32 :: text => some (.bytePattern, text.dropLast.dropLast)
  | _ => none

/-- The patterns of a source: the lines without the first two and the last three. -/
def readPatterns (source : Str) : Option (List Pattern) :=
  (((source.splitOn 10).drop 2).dropLast.dropLast.dropLast).mapM readLine

theorem readLine_patternLine {pattern : Pattern} (h : IsPattern pattern) (index : Nat) :
    readLine (patternLine index pattern) = some pattern := by
  obtain ⟨literal, isLine, isLiteral⟩ := patternLine_eq h index
  have noEquals : ∀ c ∈ str "        $p" ++ decimal index ++ [32], decide (c ≠ 61) = true := by
    have fixed : ∀ c ∈ str "        $p", c ≠ 61 := by decide
    intro c hc
    rw [List.mem_append, List.mem_append, List.mem_singleton] at hc
    rcases hc with (hc | hc) | rfl
    · exact decide_eq_true (fixed c hc)
    · have digit := mem_decimal hc
      exact decide_eq_true (by omega)
    · decide
  have split : patternLine index pattern =
      (str "        $p" ++ decimal index ++ [32]) ++ 61 :: 32 :: literal := by
    rw [isLine]
    simp only [List.append_assoc]
    rfl
  have after : ((patternLine index pattern).dropWhile (· ≠ 61)).drop 2 = literal := by
    rw [split, List.dropWhile_append_of_pos noEquals, List.dropWhile_cons_of_neg (by decide)]
    rfl
  obtain ⟨kind, value⟩ := pattern
  rw [readLine, after]
  rcases isLiteral with ⟨isImport, rfl⟩ | ⟨isPattern, rfl⟩
  · cases isImport
    simp
  · cases isPattern
    simp only [List.cons_append, Option.some.injEq, Prod.mk.injEq, true_and]
    simp

theorem readLines {patterns : List Pattern} (h : ∀ pattern ∈ patterns, IsPattern pattern) :
    ∀ start, (patternLines start patterns).mapM readLine = some patterns := by
  induction patterns with
  | nil => exact fun _ => rfl
  | cons pattern patterns ih =>
    intro start
    rw [patternLines, List.mapM_cons, readLine_patternLine (h pattern List.mem_cons_self),
      ih (fun p hp => h p (List.mem_cons_of_mem pattern hp)) (start + 1)]
    rfl

theorem readPatterns_render {patterns : List Pattern}
    (h : ∀ pattern ∈ patterns, IsPattern pattern) (few : patterns.length ≤ 16) :
    readPatterns (renderCandidateSource patterns) = some patterns := by
  have noFeed : ∀ line ∈ headLine :: bodyLines patterns ++ [[125]], 10 ∉ line := by
    intro line isLine feed
    rw [List.cons_append, List.mem_cons, List.mem_append, List.mem_singleton] at isLine
    rcases isLine with rfl | isLine | rfl
    · exact (isLine_headLine.chars 10 feed).2 rfl
    · exact ((isLine_bodyLines h few line isLine).chars 10 feed).2 rfl
    · exact absurd feed (by decide)
  rw [readPatterns, render_eq, List.splitOn_intercalate 10 noFeed (by simp)]
  unfold bodyLines
  by_cases empty : patterns = []
  · subst empty
    rfl
  · rw [if_pos empty]
    have middle : ((headLine :: ([str "    strings:"] ++ patternLines 0 patterns ++
        [str "    condition:", str "        any of them"]) ++ [[125]]).drop
          2).dropLast.dropLast.dropLast = patternLines 0 patterns := by
      have split : (headLine :: ([str "    strings:"] ++ patternLines 0 patterns ++
          [str "    condition:", str "        any of them"]) ++ [[125]]).drop 2 =
          patternLines 0 patterns ++ [str "    condition:"] ++ [str "        any of them"] ++
            [[125]] := by
        simp
      rw [split, List.dropLast_concat, List.dropLast_concat, List.dropLast_concat]
    rw [middle, readLines h]

/-! ## The draft -/

/-- What the derivation needs of a bundle that the parser accepts. -/
theorem checked_of_accepted {floatRepr : Str → Str} {wire : Bytes} {bundle : ObservableBundle}
    (accepted : ObservableBundle.parseCanonical floatRepr wire = .ok bundle) :
    (∀ o ∈ bundle.observables, Python.validateObservable o.kind o.value = .ok ()) ∧
      bundle.observables ≠ [] ∧ bundle.observables.length ≤ 16 ∧
      ∃ canonical, bundle.canonicalBytes = .ok canonical := by
  have isCanonical := Python.ObservableBundle.canonical floatRepr
  have valid := isCanonical.valid (toOption_eq_some.mpr accepted)
  have count := valid.checked.count
  refine ⟨fun o ho => (valid.checked.admissible o ho).grammar, ?_, count.2, _,
    Python.ObservableBundle.canonicalBytes_iff.mpr ⟨valid.checked, valid.bounded, rfl⟩⟩
  intro empty
  rw [empty] at count
  exact absurd count.1 (by decide)

theorem patterns_of_accepted {floatRepr : Str → Str} {wire : Bytes} {bundle : ObservableBundle}
    (accepted : ObservableBundle.parseCanonical floatRepr wire = .ok bundle) :
    (∀ pattern ∈ patternsOf bundle.observables, IsPattern pattern) ∧
      (patternsOf bundle.observables).length ≤ 16 := by
  obtain ⟨valid, -, few, -⟩ := checked_of_accepted accepted
  refine ⟨isPattern_of_valid valid, ?_⟩
  rw [patternsOf, List.length_map]
  exact (List.length_filter_le _ _).trans few

/-- The derivation does not raise, whatever the boundary answers. -/
theorem derive_of_accepted {floatRepr : Str → Str} {wire : Bytes} {bundle : ObservableBundle}
    (accepted : ObservableBundle.parseCanonical floatRepr wire = .ok bundle)
    (sha256 : Bytes → Bytes) {validate : Str → Option Bool} {verdict : Bool}
    (answers : validate (renderCandidateSource (patternsOf bundle.observables)) = some verdict) :
    deriveSemanticDraft sha256 validate bundle = .ok
      { fileSha256Count := countOf .fileSha256 bundle.observables
        apiImportCount := countOf .apiImport bundle.observables
        bytePatternCount := countOf .bytePattern bundle.observables
        candidateRuleSha256 :=
          sha256 (encodeAscii (renderCandidateSource (patternsOf bundle.observables)))
        ruleCompileOk := verdict } := by
  obtain ⟨valid, nonempty, -, canonical, isCanonical⟩ := checked_of_accepted accepted
  obtain ⟨isPattern, few⟩ := patterns_of_accepted accepted
  obtain ⟨imports, all⟩ := count_patternsOf bundle.observables
  have noLarge : ¬ ∃ char ∈ renderCandidateSource (patternsOf bundle.observables), ¬ char < 128 := by
    rintro ⟨c, hc, large⟩
    exact large (isAscii_render isPattern few c hc)
  have short : ¬ maxYaraSourceBytes <
      (encodeAscii (renderCandidateSource (patternsOf bundle.observables))).length := by
    rw [encodeAscii, List.length_map]
    exact not_lt.mpr (length_render isPattern few)
  rw [deriveSemanticDraft, isCanonical]
  simp only [if_neg nonempty, collect_of_valid valid, Nat.zero_add, List.nil_append, if_neg noLarge,
    if_neg short, answers, imports, all, Nat.add_sub_cancel_left]

theorem semantic_draft_faithful {floatRepr : Str → Str} {wire : Bytes} {bundle : ObservableBundle}
    (accepted : ObservableBundle.parseCanonical floatRepr wire = .ok bundle)
    (sha256 : Bytes → Bytes) :
    (∀ validate verdict,
      validate (renderCandidateSource (patternsOf bundle.observables)) = some verdict →
        deriveSemanticDraft sha256 validate bundle = .ok
          { fileSha256Count := countOf .fileSha256 bundle.observables
            apiImportCount := countOf .apiImport bundle.observables
            bytePatternCount := countOf .bytePattern bundle.observables
            candidateRuleSha256 :=
              sha256 (encodeAscii (renderCandidateSource (patternsOf bundle.observables)))
            ruleCompileOk := verdict }) ∧
    IsAscii (renderCandidateSource (patternsOf bundle.observables)) ∧
    (renderCandidateSource (patternsOf bundle.observables)).length ≤ maxYaraSourceBytes ∧
    scan (renderCandidateSource (patternsOf bundle.observables)) = ⟨1, some ruleName, false, true⟩ ∧
    readPatterns (renderCandidateSource (patternsOf bundle.observables)) =
      some (patternsOf bundle.observables) ∧
    ∀ wire' bundle', ObservableBundle.parseCanonical floatRepr wire' = .ok bundle' →
      patternsOf bundle'.observables ≠ patternsOf bundle.observables →
        renderCandidateSource (patternsOf bundle'.observables) ≠
          renderCandidateSource (patternsOf bundle.observables) := by
  obtain ⟨isPattern, few⟩ := patterns_of_accepted accepted
  have isRead := readPatterns_render isPattern few
  refine ⟨fun validate verdict answers => derive_of_accepted accepted sha256 answers,
    isAscii_render isPattern few, length_render isPattern few, scan_render isPattern, isRead, ?_⟩
  intro wire' bundle' accepted' different same
  obtain ⟨isPattern', few'⟩ := patterns_of_accepted accepted'
  have isRead' := readPatterns_render isPattern' few'
  rw [same, isRead] at isRead'
  exact different (Option.some.inj isRead').symm

theorem semantic_draft_faithful_base :
    deriveSemanticDraft sha256 (fun _ => some true) baseBundle.toPython = .ok
      { fileSha256Count := 0
        apiImportCount := 1
        bytePatternCount := 1
        candidateRuleSha256 :=
          sha256 (encodeAscii (renderCandidateSource (patternsOf baseBundle.toPython.observables)))
        ruleCompileOk := true } ∧
    readPatterns (renderCandidateSource (patternsOf baseBundle.toPython.observables)) =
      some [(.apiImport, str "CreateRemoteThread"),
        (.bytePattern, str "4d 5a ?? 90 00 03 00 00 ff")] := by
  have isValid : baseBundle.validate.toOption = some () := by decide
  have bounded : baseBundle.toVec.length ≤ maxCanonicalObservableBundleBytes := by decide +kernel
  rw [Rust.ObservableBundle.toVec_eq] at bounded
  have checked := Rust.ObservableBundle.validate_iff.mp (toOption_eq_some.mp isValid)
  have accepted := toOption_eq_some.mp ((Python.ObservableBundle.canonical id).parse_encode
    (a := baseBundle.toPython) ⟨checked, bounded⟩)
  have faithful := semantic_draft_faithful accepted sha256
  exact ⟨faithful.1 _ true rfl, faithful.2.2.2.2.1⟩

end Prometheus.Jaeger.SemanticDraft
