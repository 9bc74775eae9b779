import Prometheus.Jaeger.YaraBoundary

/-!
# What the scanner passes over

In the body of a rule the scanner passes over every text that opens neither a literal nor a comment,
and over a literal whose text cannot end it. After the head of a rule it is in the body of that rule.
-/

namespace Prometheus.Jaeger.YaraValidation

open Prometheus.Codec

/-! ## What the scanner passes over in a body -/

/-- The scanner after a text. -/
def run (s : TopLevelScanner) (text : Str) : TopLevelScanner := s.loop text.length text

theorem run_cons (s : TopLevelScanner) (char : Nat) (rest : Str) :
    run s (char :: rest) = run (s.step char rest).1 (s.step char rest).2 := by
  rw [run, run, List.length_cons, TopLevelScanner.loop, loop_enough (step_length s char rest)]

/-- The scanner is in the body of a rule, outside of its literals. -/
structure InBody (s : TopLevelScanner) : Prop where
  normal : s.mode = .normal
  depth : s.depth = 1

/-- A character that opens nothing in a body and does not close it. -/
def IsPlain (c : Nat) : Prop := c ≠ 47 ∧ c ≠ 34 ∧ c ≠ 123 ∧ c ≠ 125

instance (c : Nat) : Decidable (IsPlain c) := inferInstanceAs (Decidable (_ ∧ _))

theorem isPlain_of_identifier {c : Nat} (h : isIdentifierChar c = true) : IsPlain c := by
  simp only [isIdentifierChar, isAsciiLetter, isAsciiDigit, Bool.or_eq_true, Bool.and_eq_true,
    decide_eq_true_eq, beq_iff_eq] at h
  unfold IsPlain
  omega

/-- A text that the scanner leaves as it was. -/
def Passes (s : TopLevelScanner) (text : Str) : Prop := ∀ rest, run s (text ++ rest) = run s rest

section Body

variable {s : TopLevelScanner}

theorem Passes.nil : Passes s [] := fun _ => rfl

theorem Passes.append {text text' : Str} (h : Passes s text) (h' : Passes s text') :
    Passes s (text ++ text') := by
  intro rest
  rw [List.append_assoc, h, h']

theorem Passes.flatten {texts : List Str} (h : ∀ text ∈ texts, Passes s text) :
    Passes s texts.flatten := by
  induction texts with
  | nil => exact .nil
  | cons text texts ih =>
    exact (h text List.mem_cons_self).append (ih fun t ht => h t (List.mem_cons_of_mem text ht))

/-- A plain character, where an identifier at the front of the rest can be left out. -/
theorem run_plain_of_identifier (inBody : InBody s) {c : Nat} (plain : IsPlain c) {rest : Str}
    (skips : run s (rest.dropWhile isIdentifierChar) = run s rest) :
    run s (c :: rest) = run s rest := by
  obtain ⟨slash, quote, opens, closes⟩ := plain
  have deep : ¬ s.depth = 0 := by rw [inBody.depth]; decide
  rw [run_cons, TopLevelScanner.step, if_pos inBody.normal, TopLevelScanner.stepNormal]
  simp only [slash, quote, opens, closes, deep, false_and, and_false, if_false]
  by_cases isStart : isIdentifierStart c = true
  · simp only [isStart, if_true, TopLevelScanner.readIdentifier, deep, ne_eq, not_false_eq_true]
    exact skips
  · simp only [isStart, if_false, Bool.false_eq_true]

/-- In a body identifiers mean nothing. -/
theorem run_dropWhile (inBody : InBody s) (rest : Str) :
    run s (rest.dropWhile isIdentifierChar) = run s rest := by
  induction rest with
  | nil => rfl
  | cons c rest ih =>
    by_cases isChar : isIdentifierChar c = true
    · rw [List.dropWhile_cons_of_pos isChar, ih]
      exact (run_plain_of_identifier inBody (isPlain_of_identifier isChar) ih).symm
    · rw [List.dropWhile_cons_of_neg isChar]

theorem Passes.plain (inBody : InBody s) {text : Str} (plain : ∀ c ∈ text, IsPlain c) :
    Passes s text := by
  intro rest
  induction text with
  | nil => rfl
  | cons c text ih =>
    rw [List.cons_append, run_plain_of_identifier inBody (plain c List.mem_cons_self)
      (run_dropWhile inBody _)]
    exact ih fun d hd => plain d (List.mem_cons_of_mem c hd)

/-- The scanner in a literal. -/
def enter (s : TopLevelScanner) (mode : Mode) : TopLevelScanner := { s with mode := mode }

theorem run_leave (inBody : InBody s) (mode : Mode) (rest : Str) :
    run { enter s mode with mode := .normal } rest = run s rest := by
  have same : { enter s mode with mode := .normal } = s := by
    rw [enter, ← inBody.normal]
  rw [same]

theorem run_quoted (inBody : InBody s) {text : Str} (inert : ∀ c ∈ text, c ≠ 34 ∧ c ≠ 92)
    (rest : Str) : run (enter s .quoted) (text ++ 34 :: rest) = run s rest := by
  induction text with
  | nil =>
    rw [List.nil_append, run_cons]
    exact run_leave inBody .quoted rest
  | cons c text ih =>
    obtain ⟨quote, escape⟩ := inert c List.mem_cons_self
    have stays : (enter s .quoted).step c (text ++ 34 :: rest) =
        (enter s .quoted, text ++ 34 :: rest) := by
      simp [TopLevelScanner.step, TopLevelScanner.stepRegion, enter, quote, escape]
    rw [List.cons_append, run_cons, stays]
    exact ih fun d hd => inert d (List.mem_cons_of_mem c hd)

theorem run_hex (inBody : InBody s) {text : Str} (inert : ∀ c ∈ text, c ≠ 125) (rest : Str) :
    run (enter s .hex) (text ++ 125 :: rest) = run s rest := by
  induction text with
  | nil =>
    rw [List.nil_append, run_cons]
    exact run_leave inBody .hex rest
  | cons c text ih =>
    have stays : (enter s .hex).step c (text ++ 125 :: rest) =
        (enter s .hex, text ++ 125 :: rest) := by
      simp [TopLevelScanner.step, TopLevelScanner.stepRegion, enter, inert c List.mem_cons_self]
    rw [List.cons_append, run_cons, stays]
    exact ih fun d hd => inert d (List.mem_cons_of_mem c hd)

/-- A quoted string whose text has neither a quote nor a backslash. -/
theorem Passes.quoted (inBody : InBody s) {text : Str} (inert : ∀ c ∈ text, c ≠ 34 ∧ c ≠ 92) :
    Passes s (34 :: text ++ [34]) := by
  intro rest
  have opens : s.step 34 (text ++ 34 :: rest) = (enter s .quoted, text ++ 34 :: rest) := by
    simp [TopLevelScanner.step, TopLevelScanner.stepNormal, inBody.normal, enter]
  rw [List.append_assoc, List.cons_append, run_cons, List.singleton_append, opens]
  exact run_quoted inBody inert rest

/-- A hex string whose text has no closing brace. -/
theorem Passes.hex (inBody : InBody s) {text : Str} (inert : ∀ c ∈ text, c ≠ 125) :
    Passes s (123 :: text ++ [125]) := by
  intro rest
  have opens : s.step 123 (text ++ 125 :: rest) = (enter s .hex, text ++ 125 :: rest) := by
    simp [TopLevelScanner.step, TopLevelScanner.stepNormal, inBody.normal, inBody.depth, enter]
  rw [List.append_assoc, List.cons_append, run_cons, List.singleton_append, opens]
  exact run_hex inBody inert rest

end Body

/-! ## The head of a rule -/

theorem takeWhile_word {d : Nat} {word : Str} (chars : ∀ b ∈ word, isIdentifierChar b = true)
    (ends : isIdentifierChar d = false) (rest : Str) :
    (word ++ d :: rest).takeWhile isIdentifierChar = word := by
  rw [List.takeWhile_append_of_pos chars, List.takeWhile_cons_of_neg (by rw [ends]; decide),
    List.append_nil]

/-- A word before another character. -/
theorem run_word {s : TopLevelScanner} (normal : s.mode = .normal) {c d : Nat} {word : Str}
    (isStart : isIdentifierStart c = true) (chars : ∀ b ∈ word, isIdentifierChar b = true)
    (ends : isIdentifierChar d = false) (rest : Str) :
    run s (c :: word ++ d :: rest) = run (s.readIdentifier c word).1 (d :: rest) := by
  have isChar : isIdentifierChar c = true := by
    rw [isIdentifierStart, Bool.or_eq_true] at isStart
    rw [isIdentifierChar, Bool.or_eq_true, Bool.or_eq_true]
    exact isStart.imp_left .inl
  obtain ⟨slash, quote, opens, closes⟩ := isPlain_of_identifier isChar
  have left : (word ++ d :: rest).dropWhile isIdentifierChar = d :: rest := by
    rw [List.dropWhile_append_of_pos chars, List.dropWhile_cons_of_neg (by rw [ends]; decide)]
  have token : word.takeWhile isIdentifierChar = word := List.takeWhile_eq_self_iff.mpr chars
  have same : (s.readIdentifier c (word ++ d :: rest)).1 = (s.readIdentifier c word).1 := by
    simp only [TopLevelScanner.readIdentifier, takeWhile_word chars ends, token]
    split_ifs <;> rfl
  rw [List.cons_append, run_cons, TopLevelScanner.step, if_pos normal, TopLevelScanner.stepNormal]
  simp only [slash, quote, opens, closes, false_and, and_false, if_false, isStart, if_true,
    readIdentifier_left, left, same]

theorem run_space {s : TopLevelScanner} (normal : s.mode = .normal) (rest : Str) :
    run s (32 :: rest) = run s rest := by
  have stays : s.step 32 rest = (s, rest) := by
    simp [TopLevelScanner.step, TopLevelScanner.stepNormal, normal, isIdentifierStart, isAsciiLetter]
  rw [run_cons, stays]

/-- The scanner in the body of the first rule. -/
def inRule (name : Str) : TopLevelScanner :=
  { TopLevelScanner.start with depth := 1, result := ⟨1, some name, false, false⟩ }

theorem inBody_inRule (name : Str) : InBody (inRule name) := ⟨rfl, rfl⟩

/-- The head of a rule whose name is a word of its own. -/
theorem run_head {c : Nat} {word : Str} (isStart : isIdentifierStart c = true)
    (chars : ∀ b ∈ word, isIdentifierChar b = true)
    (notKeyword : (c :: word) ∉ directiveTokens ∧ (c :: word) ≠ ruleToken) (rest : Str) :
    run .start (str "rule " ++ (c :: word) ++ str " \x7b" ++ rest) = run (inRule (c :: word)) rest := by
  have split : str "rule " ++ (c :: word) ++ str " \x7b" ++ rest =
      114 :: str "ule" ++ 32 :: (c :: word ++ 32 :: 123 :: rest) := by
    show (_ :: _ :: _ :: _ :: _ :: _) ++ (_ :: _ :: []) ++ rest = _ :: _ :: _ :: _ :: _ :: _
    simp
  have isWord : ∀ b ∈ str "ule", isIdentifierChar b = true := by decide
  have token : word.takeWhile isIdentifierChar = word := List.takeWhile_eq_self_iff.mpr chars
  obtain ⟨noDirective, notRule⟩ := notKeyword
  rw [split, run_word rfl (by decide) isWord (by decide)]
  have afterRule : (TopLevelScanner.start.readIdentifier 114 (str "ule")).1 =
      { TopLevelScanner.start with
        expectingRuleName := true
        result := ⟨1, none, false, false⟩ } := by
    decide
  rw [afterRule, run_space rfl, run_word rfl isStart chars (by decide)]
  have afterName : ({ TopLevelScanner.start with
      expectingRuleName := true
      result := ⟨1, none, false, false⟩ } : TopLevelScanner).readIdentifier c word =
      ({ TopLevelScanner.start with result := ⟨1, some (c :: word), false, false⟩ },
        word.dropWhile isIdentifierChar) := by
    simp [TopLevelScanner.readIdentifier, TopLevelScanner.start, token, noDirective, notRule]
  rw [afterName, run_space rfl]
  exact run_cons _ _ _

end Prometheus.Jaeger.YaraValidation
