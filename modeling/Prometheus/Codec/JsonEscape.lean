import Prometheus.Codec.JsonRoundTrip

/-!
# What `ensure_ascii=True` writes is determined

An escaped literal is read up to its closing quote, and as the text it was written for when that has
no surrogate: a surrogate pair is written like the character it stands for. A decimal integer is
read up to the comma or brace that follows it. So an encoder that writes fixed members in a fixed
order determines them, member after member.
-/

namespace Prometheus.Codec

/-- A code point that UTF-8 can encode: it is not a surrogate. -/
def isScalar (c : Nat) : Bool :=
  decide (c < 0xD800) || (decide (0xE000 ≤ c) && decide (c < 0x110000))

theorem isScalar_iff {c : Nat} : isScalar c = true ↔ c < 0xD800 ∨ 0xE000 ≤ c ∧ c < 0x110000 := by
  simp [isScalar]

/-! ## String literals -/

theorem scanUnits_escapeUnit (c : Nat) {rest after : Str} {units : List (Bool × Nat)}
    (scanned : scanUnits rest = some (units, after)) :
    scanUnits (escapeUnit c ++ rest) = some ((true, c % 0x10000) :: units, after) := by
  have digits := hexUnit_escape (c := c % 0x10000) (by omega)
  rw [show c % 0x10000 / 4096 % 16 = c / 4096 % 16 by omega,
    show c % 0x10000 / 256 % 16 = c / 256 % 16 by omega,
    show c % 0x10000 / 16 % 16 = c / 16 % 16 by omega,
    show c % 0x10000 % 16 = c % 16 by omega] at digits
  simp [escapeUnit, scanUnits, digits, scanned]

/-- The units of one escaped character; one that is not a surrogate is joined from them. -/
theorem scanUnits_escapeChar (c : Nat) {rest after : Str} {units : List (Bool × Nat)}
    (h : scanUnits rest = some (units, after)) :
    ∃ units', scanUnits (escapeChar c ++ rest) = some (units', after) ∧
      (isScalar c = true → joinSurrogates units' = c :: joinSurrogates units) := by
  have plain (flag : Bool) (scalar : isScalar c = true) :
      joinSurrogates ((flag, c) :: units) = c :: joinSurrogates units := by
    rw [isScalar_iff] at scalar
    cases flag with
    | false => simp [joinSurrogates]
    | true =>
      cases units with
      | nil => simp [joinSurrogates]
      | cons unit units =>
        obtain ⟨flag, unit⟩ := unit
        cases flag with
        | false => simp [joinSurrogates]
        | true =>
          rw [joinSurrogates, if_neg (by omega)]
  unfold escapeChar
  split
  · exact ⟨(false, c) :: units, by subst c; simp [scanUnits, escapeValue, h], plain _⟩
  split
  · exact ⟨(false, c) :: units, by subst c; simp [scanUnits, escapeValue, h], plain _⟩
  split
  · exact ⟨(false, c) :: units, by subst c; simp [scanUnits, escapeValue, h], plain _⟩
  split
  · exact ⟨(false, c) :: units, by subst c; simp [scanUnits, escapeValue, h], plain _⟩
  split
  · exact ⟨(false, c) :: units, by subst c; simp [scanUnits, escapeValue, h], plain _⟩
  split
  · exact ⟨(false, c) :: units, by subst c; simp [scanUnits, escapeValue, h], plain _⟩
  split
  · exact ⟨(false, c) :: units, by subst c; simp [scanUnits, escapeValue, h], plain _⟩
  split
  · refine ⟨(false, c) :: units, ?_, plain _⟩
    rw [List.singleton_append, scanUnits]
    · rw [if_neg (by omega), h]
    all_goals
      intros
      omega
  split
  · rename_i small
    have scanned := scanUnits_escapeUnit c h
    rw [Nat.mod_eq_of_lt small] at scanned
    exact ⟨(true, c) :: units, scanned, plain _⟩
  · -- a character outside the basic plane is written as a surrogate pair
    rw [List.append_assoc]
    refine ⟨_, scanUnits_escapeUnit _ (scanUnits_escapeUnit _ h), ?_⟩
    intro scalar
    rw [isScalar_iff] at scalar
    obtain ⟨high, low, isHigh, isLow, highRange, lowRange, isChar⟩ :
        ∃ high low, (0xD800 + (c - 0x10000) / 1024) % 0x10000 = high ∧
          (0xDC00 + (c - 0x10000) % 1024) % 0x10000 = low ∧
          (0xD800 ≤ high ∧ high < 0xDC00) ∧ (0xDC00 ≤ low ∧ low < 0xE000) ∧
          0x10000 + (high - 0xD800) * 1024 + (low - 0xDC00) = c :=
      ⟨_, _, rfl, rfl, by omega, by omega, by omega⟩
    rw [isHigh, isLow, joinSurrogates, if_pos ⟨highRange.1, highRange.2, lowRange⟩, isChar]

/-- A literal is read up to its closing quote; without surrogates it is read as what it says. -/
theorem scanString_quote (s rest : Str) :
    ∃ t, scanString (s.flatMap escapeChar ++ 34 :: rest) = some (t, rest) ∧
      (s.all isScalar = true → t = s) := by
  have scanned : ∃ units, scanUnits (s.flatMap escapeChar ++ 34 :: rest) = some (units, rest) ∧
      (s.all isScalar = true → joinSurrogates units = s) := by
    induction s with
    | nil => exact ⟨[], by simp [scanUnits], fun _ => rfl⟩
    | cons c s ih =>
      obtain ⟨units, isUnits, joined⟩ := ih
      obtain ⟨units', isUnits', joined'⟩ := scanUnits_escapeChar c isUnits
      refine ⟨units', ?_, ?_⟩
      · rw [List.flatMap_cons, List.append_assoc]
        exact isUnits'
      · intro scalar
        rw [List.all_cons, Bool.and_eq_true] at scalar
        rw [joined' scalar.1, joined scalar.2]
  obtain ⟨units, isUnits, joined⟩ := scanned
  exact ⟨joinSurrogates units, by rw [scanString, isUnits, Option.map_some], joined⟩

/-- A literal ends where it ends, and says what it says. -/
theorem quote_append_inj {s t rest rest' : Str} (h : quote s ++ rest = quote t ++ rest') :
    rest = rest' ∧ (s.all isScalar = true → t.all isScalar = true → s = t) := by
  have same : s.flatMap escapeChar ++ 34 :: rest = t.flatMap escapeChar ++ 34 :: rest' := by
    simpa [quote] using h
  have read := congrArg scanString same
  obtain ⟨s', readS, isS⟩ := scanString_quote s rest
  obtain ⟨t', readT, isT⟩ := scanString_quote t rest'
  rw [readS, readT] at read
  obtain ⟨rfl, rfl⟩ := Prod.mk.inj (Option.some.inj read)
  exact ⟨rfl, fun scalarS scalarT => (isS scalarS).symm.trans (isT scalarT)⟩

theorem isAscii_quote (s : Str) : ∀ c ∈ quote s, c < 256 := by
  have digit (n : Nat) (hn : n < 16) : hexDigit n < 256 := by
    unfold hexDigit
    split <;> omega
  have unit (n : Nat) : ∀ c ∈ escapeUnit n, c < 256 := by
    intro c hc
    simp only [escapeUnit, List.mem_cons, List.not_mem_nil, or_false] at hc
    rcases hc with rfl | rfl | rfl | rfl | rfl | rfl
    · decide
    · decide
    · exact digit _ (by omega)
    · exact digit _ (by omega)
    · exact digit _ (by omega)
    · exact digit _ (by omega)
  have char (n : Nat) : ∀ c ∈ escapeChar n, c < 256 := by
    intro c hc
    unfold escapeChar at hc
    split_ifs at hc
    all_goals first
      | exact unit _ c hc
      | (simp only [List.mem_cons, List.not_mem_nil, or_false] at hc; omega)
      | exact (List.mem_append.mp hc).elim (unit _ c) (unit _ c)
  intro c hc
  simp only [quote, List.mem_append, List.mem_singleton, List.mem_flatMap] at hc
  rcases hc with (rfl | ⟨n, -, hc⟩) | rfl
  · decide
  · exact char n c hc
  · decide

/-! ## Integers -/

/-- A character of a decimal integer. -/
def isDecimal (c : Nat) : Bool := isDigit c || c == 45

theorem isDecimal_of_mem {i : Int} {c : Nat} (h : c ∈ decimalInt i) : isDecimal c = true := by
  cases i with
  | ofNat n =>
    rw [isDecimal, isDigit_decimal h, Bool.true_or]
  | negSucc n =>
    rcases List.mem_cons.mp h with rfl | h
    · rfl
    · rw [isDecimal, isDigit_decimal h, Bool.true_or]

theorem decimalInt_inj {i j : Int} (h : decimalInt i = decimalInt j) : i = j := by
  have minus (m n : Nat) : decimal m ≠ 45 :: decimal (n + 1) := by
    intro same
    have := mem_decimal (n := m) (c := 45) (by rw [same]; exact List.mem_cons_self)
    omega
  cases i with
  | ofNat m =>
    cases j with
    | ofNat n => exact congrArg Int.ofNat (decimal_inj h)
    | negSucc n => exact absurd h (minus m n)
  | negSucc m =>
    cases j with
    | ofNat n => exact absurd h.symm (minus n m)
    | negSucc n =>
      have same := decimal_inj (List.cons.inj h).2
      rw [Nat.succ.inj same]

/-- An integer ends where another character follows. -/
theorem decimalInt_append_inj {i j : Int} {c : Nat} {rest rest' : Str}
    (ends : isDecimal c = false) (h : decimalInt i ++ c :: rest = decimalInt j ++ c :: rest') :
    i = j ∧ rest = rest' := by
  have number (i : Int) (rest : Str) :
      (decimalInt i ++ c :: rest).takeWhile isDecimal = decimalInt i ∧
        (decimalInt i ++ c :: rest).dropWhile isDecimal = c :: rest := by
    rw [List.takeWhile_append_of_pos fun _ => isDecimal_of_mem,
      List.dropWhile_append_of_pos fun _ => isDecimal_of_mem]
    simp [ends]
  have digits := congrArg (List.takeWhile isDecimal) h
  have after := congrArg (List.dropWhile isDecimal) h
  rw [(number i rest).1, (number j rest').1] at digits
  rw [(number i rest).2, (number j rest').2] at after
  exact ⟨decimalInt_inj digits, (List.cons.inj after).2⟩

/-! ## Objects -/

/-- Members that a schema declares alike: both integers or both texts, under one key. -/
inductive Alike : Str × Json → Str × Json → Prop
  | int (key : Str) (i j : Int) : Alike (key, .int i) (key, .int j)
  | string (key s t : Str) : Alike (key, .string s) (key, .string t)

/-- Members that say the same; two texts may still differ in surrogates. -/
inductive Agree : Str × Json → Str × Json → Prop
  | int (key : Str) (i : Int) : Agree (key, .int i) (key, .int i)
  | string (key : Str) {s t : Str}
      (same : s.all isScalar = true → t.all isScalar = true → s = t) :
      Agree (key, .string s) (key, .string t)

theorem agree_int {key : Str} {i j : Int} : Agree (key, .int i) (key, .int j) ↔ i = j := by
  constructor
  · intro h
    cases h
    rfl
  · rintro rfl
    exact .int key i

theorem agree_string {key s t : Str} : Agree (key, .string s) (key, .string t) ↔
    (s.all isScalar = true → t.all isScalar = true → s = t) := by
  constructor
  · intro h
    cases h with
    | string _ same => exact same
  · exact .string key

variable {f g : Str × Json} {fields fields' : List (Str × Json)}

theorem Alike.symm (h : Alike f g) : Alike g f := by
  cases h with
  | int key i j => exact .int key j i
  | string key s t => exact .string key t s

theorem exists_alike (h : List.Forall₂ Alike fields fields') :
    ∀ f ∈ fields, ∃ g, Alike f g := by
  induction h with
  | nil => simp
  | cons alike rest ih =>
    intro f isField
    rcases List.mem_cons.mp isField with rfl | isField
    · exact ⟨_, alike⟩
    · exact ih f isField

/-- The text of one member. -/
def memberText (f : Str × Json) : Str := quote f.1 ++ [58] ++ f.2.compact quote

theorem compactFields_quote (fields : List (Str × Json)) :
    Json.compact.compactFields quote fields = fields.map memberText := by
  induction fields with
  | nil => rfl
  | cons f fields ih => rw [Json.compact.compactFields, ih, List.map_cons, memberText]

theorem Alike.agree (h : Alike f g) {c : Nat} (ends : isDecimal c = false) {rest rest' : Str}
    (same : memberText f ++ c :: rest = memberText g ++ c :: rest') : Agree f g ∧ rest = rest' := by
  cases h with
  | int key i j =>
    simp only [memberText, Json.compact, List.append_assoc, List.append_cancel_left_eq] at same
    obtain ⟨rfl, rfl⟩ := decimalInt_append_inj ends same
    exact ⟨.int key i, rfl⟩
  | string key s t =>
    simp only [memberText, Json.compact, List.append_assoc, List.append_cancel_left_eq] at same
    obtain ⟨after, agree⟩ := quote_append_inj same
    exact ⟨.string key agree, (List.cons.inj after).2⟩

/-- Objects of one schema with the same text say the same. -/
theorem fields_agree (h : List.Forall₂ Alike fields fields')
    (same : List.intercalate [44] (fields.map memberText) ++ [125] =
      List.intercalate [44] (fields'.map memberText) ++ [125]) :
    List.Forall₂ Agree fields fields' := by
  induction h with
  | nil => exact .nil
  | @cons f g fields fields' alike rest ih =>
    cases rest with
    | nil =>
      simp only [List.map_cons, List.map_nil, intercalate_singleton] at same
      exact .cons (alike.agree (by decide) same).1 .nil
    | cons alike' rest =>
      simp only [List.map_cons, intercalate_cons_cons, List.append_assoc] at same
      obtain ⟨agree, after⟩ := alike.agree (by decide) same
      exact .cons agree (ih (by simpa using after))

theorem memberText_small (h : Alike f g) : ∀ c ∈ memberText f, c < 256 := by
  intro c hc
  simp only [memberText, List.mem_append, List.mem_singleton] at hc
  rcases hc with (hc | rfl) | hc
  · exact isAscii_quote _ c hc
  · decide
  · cases h with
    | int key i j =>
      have decimal := isDecimal_of_mem hc
      simp only [isDecimal, isDigit, Bool.or_eq_true, Bool.and_eq_true, decide_eq_true_eq,
        beq_iff_eq] at decimal
      omega
    | string key s t => exact isAscii_quote _ c hc

theorem mem_intercalate {items : List Str} {c : Nat} (h : c ∈ List.intercalate [44] items) :
    c = 44 ∨ ∃ item ∈ items, c ∈ item := by
  induction items with
  | nil => cases h
  | cons item items ih =>
    cases items with
    | nil =>
      rw [intercalate_singleton] at h
      exact .inr ⟨item, List.mem_cons_self, h⟩
    | cons next items =>
      rw [intercalate_cons_cons] at h
      rcases List.mem_append.mp h with h | h
      · exact .inr ⟨item, List.mem_cons_self, h⟩
      · rcases List.mem_cons.mp h with h | h
        · exact .inl h
        · rcases ih h with h | ⟨other, isOther, h⟩
          · exact .inl h
          · exact .inr ⟨other, List.mem_cons_of_mem _ isOther, h⟩

/-- `json.dumps(…, separators=(",", ":"), ensure_ascii=True).encode("ascii")` in the order of
insertion. -/
def dumpsOrdered (value : Json) : Bytes := encodeAscii (value.compact quote)

theorem dumpsOrdered_agree (h : List.Forall₂ Alike fields fields')
    (same : dumpsOrdered (.object fields) = dumpsOrdered (.object fields')) :
    List.Forall₂ Agree fields fields' := by
  have small {fields : List (Str × Json)} (h : ∀ f ∈ fields, ∃ g, Alike f g) :
      ∀ c ∈ [123] ++ List.intercalate [44] (fields.map memberText) ++ [125], c < 256 := by
    intro c hc
    simp only [List.mem_append, List.mem_singleton] at hc
    rcases hc with (rfl | hc) | rfl
    · decide
    · rcases mem_intercalate hc with rfl | ⟨text, isText, hc⟩
      · decide
      · obtain ⟨f, isField, rfl⟩ := List.mem_map.mp isText
        obtain ⟨g, alike⟩ := h f isField
        exact memberText_small alike c hc
    · decide
  rw [dumpsOrdered, dumpsOrdered, Json.compact, Json.compact, compactFields_quote,
    compactFields_quote] at same
  have reverse : List.Forall₂ Alike fields' fields :=
    (h.imp fun _ _ alike => alike.symm).flip
  have texts := encodeAscii_inj (small (exists_alike h)) (small (exists_alike reverse)) same
  exact fields_agree h (List.append_cancel_left (by simpa only [List.append_assoc] using texts))

end Prometheus.Codec
