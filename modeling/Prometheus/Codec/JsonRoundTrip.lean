import Prometheus.Codec.JsonRead

/-!
# What is written is read back

`json.loads` returns the value whose text `json.dumps(…, separators=(",", ":"),
ensure_ascii=False)` wrote. The induction is on the value; a value is read up to the comma or the
bracket that follows it.
-/

namespace Prometheus.Codec

/-! ## String literals -/

theorem hexDigitValue_hexDigit {n : Nat} (h : n < 16) : hexDigitValue (hexDigit n) = some n := by
  unfold hexDigitValue hexDigit
  by_cases small : n < 10
  · rw [if_pos small, if_pos (by omega)]
    simp
  · rw [if_neg small, if_neg (by omega), if_pos (by omega)]
    simp

theorem hexUnit_escape {c : Nat} (h : c < 0x10000) :
    hexUnit (hexDigit (c / 4096 % 16)) (hexDigit (c / 256 % 16)) (hexDigit (c / 16 % 16))
      (hexDigit (c % 16)) = some c := by
  unfold hexUnit
  rw [hexDigitValue_hexDigit (by omega), hexDigitValue_hexDigit (by omega),
    hexDigitValue_hexDigit (by omega), hexDigitValue_hexDigit (by omega)]
  show some _ = some c
  congr 1
  omega

/-- A unit that is written as an escape is a control character. -/
def Unpaired (unit : Bool × Nat) : Prop := unit.1 = true → unit.2 < 32

theorem scanUnits_escapeRaw (c : Nat) {rest after : Str} {units : List (Bool × Nat)}
    (h : scanUnits rest = some (units, after)) :
    ∃ unit, Unpaired unit ∧ unit.2 = c ∧
      scanUnits (escapeRaw c ++ rest) = some (unit :: units, after) := by
  unfold escapeRaw
  split
  · exact ⟨(false, c), by simp [Unpaired], rfl, by subst c; simp [scanUnits, escapeValue, h]⟩
  split
  · exact ⟨(false, c), by simp [Unpaired], rfl, by subst c; simp [scanUnits, escapeValue, h]⟩
  split
  · exact ⟨(false, c), by simp [Unpaired], rfl, by subst c; simp [scanUnits, escapeValue, h]⟩
  split
  · exact ⟨(false, c), by simp [Unpaired], rfl, by subst c; simp [scanUnits, escapeValue, h]⟩
  split
  · exact ⟨(false, c), by simp [Unpaired], rfl, by subst c; simp [scanUnits, escapeValue, h]⟩
  split
  · exact ⟨(false, c), by simp [Unpaired], rfl, by subst c; simp [scanUnits, escapeValue, h]⟩
  split
  · exact ⟨(false, c), by simp [Unpaired], rfl, by subst c; simp [scanUnits, escapeValue, h]⟩
  split
  · rename_i control
    refine ⟨(true, c), fun _ => control, rfl, ?_⟩
    simp [escapeUnit, scanUnits, hexUnit_escape (show c < 0x10000 by omega), h]
  · rename_i notQuote notBackslash _ _ _ _ _ printable
    refine ⟨(false, c), by simp [Unpaired], rfl, ?_⟩
    rw [List.singleton_append, scanUnits]
    · rw [if_neg (by omega), h]
    all_goals
      intros
      omega

theorem scanUnits_flatMap (s rest : Str) :
    ∃ units, (∀ unit ∈ units, Unpaired unit) ∧ units.map Prod.snd = s ∧
      scanUnits (s.flatMap escapeRaw ++ 34 :: rest) = some (units, rest) := by
  induction s with
  | nil => exact ⟨[], by simp, rfl, by simp [scanUnits]⟩
  | cons c s ih =>
    obtain ⟨units, unpaired, isText, scanned⟩ := ih
    obtain ⟨unit, isUnpaired, rfl, scanned'⟩ := scanUnits_escapeRaw c scanned
    refine ⟨unit :: units, ?_, by simp [isText], ?_⟩
    · intro other hother
      rcases List.mem_cons.mp hother with rfl | hother
      · exact isUnpaired
      · exact unpaired other hother
    · rw [List.flatMap_cons, List.append_assoc]
      exact scanned'

theorem joinSurrogates_unpaired {units : List (Bool × Nat)} (h : ∀ unit ∈ units, Unpaired unit) :
    joinSurrogates units = units.map Prod.snd := by
  fun_induction joinSurrogates units with
  | case1 high low units pair =>
    have small : high < 32 := h (true, high) (by simp) rfl
    omega
  | case2 high low units notPair ih =>
    rw [ih fun unit hunit => h unit (List.mem_cons_of_mem _ hunit)]
    rfl
  | case3 flag unit units notPair ih =>
    rw [ih fun unit hunit => h unit (List.mem_cons_of_mem _ hunit)]
    rfl
  | case4 => rfl

theorem scanString_quoteRaw (s rest : Str) :
    scanString (s.flatMap escapeRaw ++ 34 :: rest) = some (s, rest) := by
  obtain ⟨units, unpaired, isText, scanned⟩ := scanUnits_flatMap s rest
  rw [scanString, scanned, Option.map_some, joinSurrogates_unpaired unpaired, isText]

/-! ## Numbers -/

/-- The text after a value ends it: nothing, a comma or a closing bracket. -/
def Ends (rest : Str) : Prop := ∀ c, rest.head? = some c → c = 44 ∨ c = 93 ∨ c = 125

theorem ends_nil : Ends [] := by
  intro c h
  cases h

theorem ends_cons {c : Nat} {rest : Str} (h : c = 44 ∨ c = 93 ∨ c = 125) : Ends (c :: rest) := by
  intro d hd
  obtain rfl := Option.some.inj hd
  exact h

theorem Ends.cases {rest : Str} (h : Ends rest) :
    rest = [] ∨ ∃ c rest', rest = c :: rest' ∧ (c = 44 ∨ c = 93 ∨ c = 125) := by
  cases rest with
  | nil => exact .inl rfl
  | cons c rest => exact .inr ⟨c, rest, rfl, h c rfl⟩

theorem isDigit_decimal {n c : Nat} (h : c ∈ decimal n) : isDigit c = true := by
  obtain ⟨low, high⟩ := mem_decimal h
  simp [isDigit, low, high]

theorem takeWhile_digits {digits rest : Str} (h : ∀ c ∈ digits, isDigit c = true)
    (ends : Ends rest) :
    (digits ++ rest).takeWhile isDigit = digits ∧ (digits ++ rest).dropWhile isDigit = rest := by
  rw [List.takeWhile_append_of_pos h, List.dropWhile_append_of_pos h]
  rcases ends.cases with rfl | ⟨c, rest, rfl, closes⟩
  · simp
  · have notDigit : isDigit c = false := by
      simp only [isDigit, Bool.and_eq_false_iff, decide_eq_false_iff_not]
      omega
    simp [notDigit]

theorem decimal_succ {n : Nat} (h : 10 ≤ n) :
    decimal n = decimal (n / 10) ++ [48 + n % 10] := by
  have digit : ∀ d < 10, (Nat.digitChar d).toNat = 48 + d := by decide
  rw [decimal, Nat.toDigits_of_base_le (by decide) h, List.map_append, List.map_singleton,
    digit _ (Nat.mod_lt _ (by decide)), decimal]

theorem decimal_digit {n : Nat} (h : n < 10) : decimal n = [48 + n] := by
  have digit : ∀ d < 10, (Nat.digitChar d).toNat = 48 + d := by decide
  rw [decimal, Nat.toDigits_of_lt_base h, List.map_singleton, digit n h]

theorem digitsValue_decimal (n : Nat) : digitsValue (decimal n) = n := by
  induction n using Nat.strongRecOn with
  | _ n ih =>
    by_cases small : n < 10
    · rw [decimal_digit small, digitsValue]
      simp
    · have smaller := ih (n / 10) (by omega)
      rw [digitsValue] at smaller ⊢
      rw [decimal_succ (by omega), List.foldl_append, smaller, List.foldl_cons, List.foldl_nil]
      omega

/-- The digits of a number do not start with a zero, unless they are one. -/
theorem decimal_head (n : Nat) :
    decimal n = [48] ∨ ∃ c rest, decimal n = c :: rest ∧ c ≠ 48 := by
  induction n using Nat.strongRecOn with
  | _ n ih =>
    by_cases small : n < 10
    · rw [decimal_digit small]
      by_cases zero : n = 0
      · exact .inl (by rw [zero])
      · exact .inr ⟨48 + n, [], rfl, by omega⟩
    · right
      rw [decimal_succ (by omega)]
      rcases ih (n / 10) (by omega) with isZero | ⟨c, rest, isDigits, notZero⟩
      · have value := digitsValue_decimal (n / 10)
        rw [isZero] at value
        simp only [digitsValue, List.foldl_cons, List.foldl_nil] at value
        omega
      · exact ⟨c, rest ++ [48 + n % 10], by rw [isDigits]; rfl, notZero⟩

theorem integerPart_decimal (n : Nat) {rest : Str} (ends : Ends rest) :
    integerPart (decimal n ++ rest) = some (decimal n, rest) := by
  rcases decimal_head n with isZero | ⟨c, digits, isDigits, notZero⟩
  · rw [isZero]
    simp [integerPart]
  · have all : ∀ d ∈ c :: digits, isDigit d = true := by
      intro d hd
      exact isDigit_decimal (n := n) (isDigits ▸ hd)
    obtain ⟨taken, dropped⟩ := takeWhile_digits
      (fun d hd => all d (List.mem_cons_of_mem _ hd)) ends
    rw [isDigits, List.cons_append, integerPart, if_neg notZero, if_pos (all c (by simp)), taken,
      dropped]

theorem fractionPart_ends {rest : Str} (ends : Ends rest) : fractionPart rest = ([], rest) := by
  rcases ends.cases with rfl | ⟨c, rest, rfl, rfl | rfl | rfl⟩ <;> rfl

theorem exponentPart_ends {rest : Str} (ends : Ends rest) : exponentPart rest = ([], rest) := by
  rcases ends.cases with rfl | ⟨c, rest, rfl, closes⟩
  · rfl
  · have notExponent : ¬ (c = 101 ∨ c = 69) := by omega
    simp [exponentPart, notExponent]

theorem scanUnsigned_decimal (floatRepr : Str → Str) (negative : Bool) {n : Nat} {rest : Str}
    (short : (decimal n).length ≤ maxStrDigits) (ends : Ends rest) :
    scanUnsigned floatRepr negative (decimal n ++ rest) =
      .ok (.int (if negative then -(n : Int) else n), rest) := by
  simp only [scanUnsigned, integerPart_decimal n ends, fractionPart_ends ends,
    exponentPart_ends ends]
  rw [if_neg (by simp), if_neg (Nat.not_lt.mpr short), digitsValue_decimal]

/-! ## Values -/

mutual

/-- The values that are read back: no floats, and no integers with too many digits. -/
def Json.Exact : Json → Prop
  | .int i => (decimal i.natAbs).length ≤ maxStrDigits
  | .float _ => False
  | .array items => AllExact items
  | .object fields => FieldsExact fields
  | _ => True

def AllExact : List Json → Prop
  | [] => True
  | item :: items => item.Exact ∧ AllExact items

def FieldsExact : List (Str × Json) → Prop
  | [] => True
  | (_, value) :: fields => value.Exact ∧ FieldsExact fields

end

theorem str_atoms : str "null" = [110, 117, 108, 108] ∧ str "true" = [116, 114, 117, 101] ∧
    str "false" = [102, 97, 108, 115, 101] ∧ str "NaN" = [78, 97, 78] ∧
    str "Infinity" = [73, 110, 102, 105, 110, 105, 116, 121] ∧
    str "-Infinity" = [45, 73, 110, 102, 105, 110, 105, 116, 121] := by
  decide

/-- A number is none of the words. -/
theorem scanAtom_digit (floatRepr : Str → Str) {c : Nat} {text : Str} (h : isDigit c = true) :
    scanAtom floatRepr (c :: text) = scanUnsigned floatRepr false (c :: text) := by
  obtain ⟨isNull, isTrue, isFalse, isNan, isInfinity, isMinus⟩ := str_atoms
  simp only [isDigit, Bool.and_eq_true, decide_eq_true_eq] at h
  have ne (d : Nat) (far : d < 48 ∨ 57 < d) : (d == c) = false := by
    rw [beq_eq_false_iff_ne]
    omega
  unfold scanAtom
  rw [isNull, isTrue, isFalse, isNan, isInfinity, isMinus]
  simp only [List.isPrefixOf, ne 110 (by omega), ne 116 (by omega), ne 102 (by omega),
    ne 78 (by omega), ne 73 (by omega), ne 45 (by omega), Bool.false_and, Bool.false_eq_true,
    if_false]
  split
  · rename_i same
    have := (List.cons.inj same).1
    omega
  · rfl

theorem scanAtom_minus (floatRepr : Str → Str) {c : Nat} {text : Str} (h : isDigit c = true) :
    scanAtom floatRepr (45 :: c :: text) = scanUnsigned floatRepr true (c :: text) := by
  obtain ⟨isNull, isTrue, isFalse, isNan, isInfinity, isMinus⟩ := str_atoms
  simp only [isDigit, Bool.and_eq_true, decide_eq_true_eq] at h
  have ne : (73 == c) = false := by
    rw [beq_eq_false_iff_ne]
    omega
  rw [scanAtom, isNull, isTrue, isFalse, isNan, isInfinity, isMinus]
  simp [List.isPrefixOf, ne]

theorem decimal_cons (n : Nat) : ∃ c rest, decimal n = c :: rest ∧ isDigit c = true := by
  rcases decimal_head n with isZero | ⟨c, rest, isDigits, -⟩
  · exact ⟨48, [], isZero, rfl⟩
  · exact ⟨c, rest, isDigits, isDigit_decimal (n := n) (isDigits ▸ List.mem_cons_self)⟩

/-! ## Texts with other literals

The texts are written by a function `literal`, whose literals may be read back for some texts only.
-/

/-- The literal of this text is read as it, whatever follows. -/
def IsLiteral (literal : Str → Str) (s : Str) : Prop :=
  ∃ body, literal s = 34 :: body ∧ ∀ rest, scanString (body ++ rest) = some (s, rest)

theorem isLiteral_quoteRaw (s : Str) : IsLiteral quoteRaw s := by
  refine ⟨s.flatMap escapeRaw ++ [34], rfl, fun rest => ?_⟩
  rw [List.append_assoc, List.singleton_append]
  exact scanString_quoteRaw s rest

mutual

/-- An exact value whose texts have literals that are read back. -/
def Json.Written (literal : Str → Str) : Json → Prop
  | .int i => (decimal i.natAbs).length ≤ maxStrDigits
  | .float _ => False
  | .string s => IsLiteral literal s
  | .array items => AllWritten literal items
  | .object fields => FieldsWritten literal fields
  | _ => True

def AllWritten (literal : Str → Str) : List Json → Prop
  | [] => True
  | item :: items => item.Written literal ∧ AllWritten literal items

def FieldsWritten (literal : Str → Str) : List (Str × Json) → Prop
  | [] => True
  | (key, value) :: fields =>
    IsLiteral literal key ∧ value.Written literal ∧ FieldsWritten literal fields

end

mutual

theorem Json.Exact.written : ∀ {value : Json}, value.Exact → value.Written quoteRaw
  | .null, _ => trivial
  | .bool _, _ => trivial
  | .int _, exact => exact
  | .float _, exact => exact
  | .string s, _ => isLiteral_quoteRaw s
  | .array _, exact => allWritten_of_exact exact
  | .object _, exact => fieldsWritten_of_exact exact

theorem allWritten_of_exact : ∀ {items : List Json}, AllExact items → AllWritten quoteRaw items
  | [], _ => trivial
  | _ :: _, exact => ⟨exact.1.written, allWritten_of_exact exact.2⟩

theorem fieldsWritten_of_exact :
    ∀ {fields : List (Str × Json)}, FieldsExact fields → FieldsWritten quoteRaw fields
  | [], _ => trivial
  | (key, _) :: _, exact =>
    ⟨isLiteral_quoteRaw key, exact.1.written, fieldsWritten_of_exact exact.2⟩

end

section

variable {literal : Str → Str}

/-- A value does not start with a space or with what ends a value. -/
theorem compact_cons {value : Json} (written : value.Written literal) :
    ∃ c rest, value.compact literal = c :: rest ∧ (c ≠ 32 ∧ c ≠ 9 ∧ c ≠ 10 ∧ c ≠ 13) ∧ c ≠ 93 ∧
      c ≠ 125 ∧ c ≠ 0xFEFF := by
  obtain ⟨isNull, isTrue, isFalse, -⟩ := str_atoms
  cases value with
  | null => exact ⟨110, [117, 108, 108], by rw [Json.compact, isNull], by decide⟩
  | bool b =>
    cases b with
    | false => exact ⟨102, [97, 108, 115, 101], by rw [Json.compact, isFalse], by decide⟩
    | true => exact ⟨116, [114, 117, 101], by rw [Json.compact, isTrue], by decide⟩
  | float repr => exact written.elim
  | string s =>
    obtain ⟨body, isBody, -⟩ := written
    exact ⟨34, body, isBody, by decide⟩
  | array items => exact ⟨91, _, rfl, by decide⟩
  | object fields => exact ⟨123, _, rfl, by decide⟩
  | int i =>
    cases i with
    | negSucc n => exact ⟨45, decimal (n + 1), rfl, by decide⟩
    | ofNat n =>
      obtain ⟨c, rest, isDigits, digit⟩ := decimal_cons n
      simp only [isDigit, Bool.and_eq_true, decide_eq_true_eq] at digit
      refine ⟨c, rest, by rw [Json.compact, decimalInt, isDigits], ?_⟩
      omega

theorem intercalate_cons_cons (a b : Str) (items : List Str) :
    List.intercalate [44] (a :: b :: items) = a ++ 44 :: List.intercalate [44] (b :: items) := by
  simp [List.intercalate]

theorem intercalate_singleton (a : Str) : List.intercalate [44] [a] = a := by
  simp [List.intercalate]

theorem scanValue_int (floatRepr : Str → Str) {i : Int} {fuel : Nat} {rest : Str}
    (exact : (Json.int i).Exact) (ends : Ends rest) :
    scanValue floatRepr (fuel + 1) (decimalInt i ++ rest) = .ok (.int i, rest) := by
  cases i with
  | ofNat n =>
    have read := scanUnsigned_decimal floatRepr false (n := n) exact ends
    obtain ⟨c, digits, isDigits, digit⟩ := decimal_cons n
    rw [decimalInt, isDigits, List.cons_append]
    rw [isDigits, List.cons_append] at read
    rw [scanValue, scanAtom_digit floatRepr digit, read]
    · rfl
    all_goals
      intro _ same
      obtain rfl := (List.cons.inj same).1
      exact absurd digit (by decide)
  | negSucc n =>
    have read := scanUnsigned_decimal floatRepr true (n := n + 1) exact ends
    obtain ⟨c, digits, isDigits, digit⟩ := decimal_cons (n + 1)
    rw [decimalInt, isDigits, List.cons_append, List.cons_append]
    rw [isDigits, List.cons_append] at read
    rw [scanValue, scanAtom_minus floatRepr digit, read]
    · rfl
    all_goals
      intro _ same
      exact absurd (List.cons.inj same).1 (by decide)

theorem scanValue_word (floatRepr : Str → Str) {fuel : Nat} {rest : Str} :
    scanValue floatRepr (fuel + 1) (str "null" ++ rest) = .ok (.null, rest) ∧
      scanValue floatRepr (fuel + 1) (str "true" ++ rest) = .ok (.bool true, rest) ∧
      scanValue floatRepr (fuel + 1) (str "false" ++ rest) = .ok (.bool false, rest) := by
  obtain ⟨isNull, isTrue, isFalse, -⟩ := str_atoms
  refine ⟨?_, ?_, ?_⟩ <;> simp [scanValue, scanAtom, isNull, isTrue, isFalse, List.isPrefixOf]

theorem scanValue_literal (floatRepr : Str → Str) {s : Str} (isLiteral : IsLiteral literal s)
    {fuel : Nat} {rest : Str} :
    scanValue floatRepr (fuel + 1) (literal s ++ rest) = .ok (.string s, rest) := by
  obtain ⟨body, isBody, read⟩ := isLiteral
  rw [isBody, List.cons_append, scanValue, read]

/-- A field is its literal, a colon and the text of its value. -/
theorem field_text {key : Str} {value : Json} (isLiteral : IsLiteral literal key)
    (written : value.Written literal) (after : Str) :
    ∃ text c start, literal key ++ [58] ++ value.compact literal ++ after = 34 :: text ∧
      scanString text = some (key, 58 :: c :: start) ∧ value.compact literal ++ after = c :: start ∧
      (c ≠ 32 ∧ c ≠ 9 ∧ c ≠ 10 ∧ c ≠ 13) := by
  obtain ⟨body, isBody, read⟩ := isLiteral
  obtain ⟨c, start, isStart, notSpace, -⟩ := compact_cons written
  refine ⟨body ++ 58 :: c :: (start ++ after), c, start ++ after, ?_, read _, ?_, notSpace⟩
  · rw [isBody, isStart]
    simp
  · rw [isStart, List.cons_append]

theorem items_text {item : Json} (items : List Json) (written : item.Written literal)
    (after : Str) : ∃ c start, List.intercalate [44]
        (Json.compact.compactItems literal (item :: items)) ++ after = c :: start ∧
      (c ≠ 32 ∧ c ≠ 9 ∧ c ≠ 10 ∧ c ≠ 13) ∧ c ≠ 93 := by
  obtain ⟨c, start, isStart, notSpace, notClosed, -⟩ := compact_cons written
  cases items with
  | nil =>
    refine ⟨c, start ++ after, ?_, notSpace, notClosed⟩
    rw [Json.compact.compactItems, Json.compact.compactItems, intercalate_singleton, isStart,
      List.cons_append]
  | cons second items =>
    rw [Json.compact.compactItems, Json.compact.compactItems, intercalate_cons_cons, isStart]
    exact ⟨c, _, rfl, notSpace, notClosed⟩

theorem fields_text {key : Str} (value : Json) (fields : List (Str × Json))
    (isLiteral : IsLiteral literal key) (after : Str) :
    ∃ start, List.intercalate [44]
        (Json.compact.compactFields literal ((key, value) :: fields)) ++ after = 34 :: start := by
  obtain ⟨body, isBody, -⟩ := isLiteral
  cases fields with
  | nil =>
    rw [Json.compact.compactFields, Json.compact.compactFields, intercalate_singleton, isBody]
    exact ⟨_, rfl⟩
  | cons second fields =>
    rw [Json.compact.compactFields, Json.compact.compactFields, intercalate_cons_cons, isBody]
    exact ⟨_, rfl⟩

mutual

/-- A value is read up to what ends it. -/
theorem scanValue_compact (floatRepr : Str → Str) :
    ∀ (value : Json) (fuel : Nat) (rest : Str), value.Written literal → Ends rest →
      (value.compact literal).length < fuel →
        scanValue floatRepr fuel (value.compact literal ++ rest) = .ok (value, rest)
  | _, 0, _, _, _, enough => absurd enough (Nat.not_lt_zero _)
  | .null, _ + 1, _, _, _, _ => (scanValue_word floatRepr).1
  | .bool true, _ + 1, _, _, _, _ => (scanValue_word floatRepr).2.1
  | .bool false, _ + 1, _, _, _, _ => (scanValue_word floatRepr).2.2
  | .int _, _ + 1, _, written, ends, _ => scanValue_int floatRepr written ends
  | .float _, _ + 1, _, written, _, _ => written.elim
  | .string _, _ + 1, _, written, _, _ => scanValue_literal floatRepr written
  | .array [], _ + 1, rest, _, _, _ => by
    simp [Json.compact, Json.compact.compactItems, scanValue, skipSpace]
  | .array (item :: items), fuel + 1, rest, written, _, enough => by
    simp only [Json.compact, List.length_append, List.length_singleton] at enough
    have all : AllWritten literal (item :: items) := written
    have read := scanItems_compact floatRepr item items fuel rest all (by omega)
    obtain ⟨c, start, isStart, notSpace, notClosed⟩ := items_text items all.1 (93 :: rest)
    rw [isStart] at read
    rw [Json.compact, List.append_assoc, List.append_assoc, List.singleton_append,
      List.singleton_append, isStart]
    exact scanValue_array notSpace notClosed read
  | .object [], _ + 1, rest, _, _, _ => by
    simp [Json.compact, Json.compact.compactFields, scanValue, skipSpace]
  | .object ((key, value) :: fields), fuel + 1, rest, written, _, enough => by
    simp only [Json.compact, List.length_append, List.length_singleton] at enough
    have all : FieldsWritten literal ((key, value) :: fields) := written
    have read := scanFields_compact floatRepr key value fields fuel rest all (by omega)
    obtain ⟨start, isStart⟩ := fields_text value fields all.1 (125 :: rest)
    rw [isStart] at read
    rw [Json.compact, List.append_assoc, List.append_assoc, List.singleton_append,
      List.singleton_append, isStart]
    exact scanValue_object read

theorem scanItems_compact (floatRepr : Str → Str) :
    ∀ (item : Json) (items : List Json) (fuel : Nat) (rest : Str),
      AllWritten literal (item :: items) →
      (List.intercalate [44] (Json.compact.compactItems literal (item :: items))).length + 1 <
          fuel →
        scanItems floatRepr fuel (List.intercalate [44]
          (Json.compact.compactItems literal (item :: items)) ++ 93 :: rest) =
            .ok (item :: items, rest)
  | _, _, 0, _, _, enough => absurd enough (Nat.not_lt_zero _)
  | item, [], fuel + 1, rest, written, enough => by
    simp only [Json.compact.compactItems, intercalate_singleton] at enough ⊢
    exact scanItems_close (scanValue_compact floatRepr item fuel (93 :: rest) written.1
      (ends_cons (by simp)) (by omega))
  | item, second :: items, fuel + 1, rest, written, enough => by
    rw [Json.compact.compactItems, Json.compact.compactItems, intercalate_cons_cons,
      ← Json.compact.compactItems, List.length_append, List.length_cons] at enough
    have others := scanItems_compact floatRepr second items fuel rest written.2 (by omega)
    obtain ⟨c, start, isStart, notSpace, -⟩ := items_text items written.2.1 (93 :: rest)
    have read := scanValue_compact floatRepr item fuel (44 :: c :: start) written.1
      (ends_cons (by simp)) (by omega)
    rw [isStart] at others
    rw [Json.compact.compactItems, Json.compact.compactItems, intercalate_cons_cons,
      ← Json.compact.compactItems, List.append_assoc, List.cons_append, isStart]
    exact scanItems_comma notSpace read others

theorem scanFields_compact (floatRepr : Str → Str) :
    ∀ (key : Str) (value : Json) (fields : List (Str × Json)) (fuel : Nat) (rest : Str),
      FieldsWritten literal ((key, value) :: fields) →
      (List.intercalate [44]
        (Json.compact.compactFields literal ((key, value) :: fields))).length + 1 < fuel →
        scanFields floatRepr fuel (List.intercalate [44]
          (Json.compact.compactFields literal ((key, value) :: fields)) ++ 125 :: rest) =
            .ok ((key, value) :: fields, rest)
  | _, _, _, 0, _, _, enough => absurd enough (Nat.not_lt_zero _)
  | key, value, [], fuel + 1, rest, written, enough => by
    simp only [Json.compact.compactFields, intercalate_singleton, List.length_append] at enough ⊢
    have read := scanValue_compact floatRepr value fuel (125 :: rest) written.2.1
      (ends_cons (by simp)) (by omega)
    obtain ⟨text, c, start, isField, isKey, isStart, notSpace⟩ :=
      field_text written.1 written.2.1 (125 :: rest)
    rw [isStart] at read
    rw [isField]
    exact scanFields_close isKey notSpace read
  | key, value, (key', value') :: fields, fuel + 1, rest, written, enough => by
    rw [Json.compact.compactFields, Json.compact.compactFields, intercalate_cons_cons,
      ← Json.compact.compactFields, List.length_append, List.length_cons, List.length_append,
      List.length_append] at enough
    have others := scanFields_compact floatRepr key' value' fields fuel rest written.2.2 (by omega)
    obtain ⟨more, isMore⟩ := fields_text value' fields written.2.2.1 (125 :: rest)
    have read := scanValue_compact floatRepr value fuel (44 :: 34 :: more) written.2.1
      (ends_cons (by simp)) (by omega)
    obtain ⟨text, c, start, isField, isKey, isStart, notSpace⟩ :=
      field_text written.1 written.2.1 (44 :: 34 :: more)
    rw [isMore] at others
    rw [isStart] at read
    rw [Json.compact.compactFields, Json.compact.compactFields, intercalate_cons_cons,
      ← Json.compact.compactFields, List.append_assoc, List.cons_append, isMore, isField]
    exact scanFields_comma isKey notSpace read others

end

/-- `json.loads` reads back a text with such literals. -/
theorem Json.loads_written (floatRepr : Str → Str) {value : Json}
    (written : value.Written literal) :
    Json.loads floatRepr (value.compact literal) = .ok value := by
  have read := scanValue_compact floatRepr value ((value.compact literal).length + 1) [] written
    ends_nil (Nat.lt_succ_self _)
  obtain ⟨c, start, isStart, notSpace, -, -, notMark⟩ := compact_cons written
  rw [List.append_nil] at read
  have unspaced : skipSpace (value.compact literal) = value.compact literal := by
    rw [isStart, skipSpace_cons notSpace]
  have noMark : (value.compact literal).head? ≠ some 0xFEFF := by
    rw [isStart]
    exact fun same => notMark (Option.some.inj same)
  rw [Json.loads, if_neg noMark, unspaced, read]
  rfl

end

/-- `json.loads` reads back what `json.dumps` wrote. -/
theorem Json.loads_compact (floatRepr : Str → Str) {value : Json} (exact : value.Exact) :
    Json.loads floatRepr (value.compact quoteRaw) = .ok value :=
  Json.loads_written floatRepr exact.written

end Prometheus.Codec
