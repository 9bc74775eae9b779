import Prometheus.Codec.Frame
import Prometheus.Codec.JsonEscape
import Prometheus.Codec.JsonHook

/-!
# Flat objects with `ensure_ascii=True`

An object of integers and texts in the order of its keys, as `json.dumps` with `sort_keys=True`
writes it. It is read back unless a text has two code points that are a surrogate pair, which are
written like the one character they stand for.
-/

namespace Prometheus.Codec

/-! ## Texts without surrogate pairs -/

/-- The first half of a surrogate pair. -/
def IsHigh (c : Nat) : Prop := 0xD800 ≤ c ∧ c < 0xDC00

/-- The second half of a surrogate pair. -/
def IsLow (c : Nat) : Prop := 0xDC00 ≤ c ∧ c < 0xE000

instance (c : Nat) : Decidable (IsHigh c) := inferInstanceAs (Decidable (_ ∧ _))
instance (c : Nat) : Decidable (IsLow c) := inferInstanceAs (Decidable (_ ∧ _))

/-- A text of code points, of which no two neighbours are a surrogate pair. -/
structure IsText (s : Str) : Prop where
  points : ∀ c ∈ s, c < 0x110000
  unpaired : s.IsChain fun a b => ¬ (IsHigh a ∧ IsLow b)

/-- The units start with the second half of a pair. -/
def StartsLow : List (Bool × Nat) → Prop
  | (true, unit) :: _ => IsLow unit
  | _ => False

theorem joinSurrogates_cons {flag : Bool} {c : Nat} {units : List (Bool × Nat)}
    (unpaired : ¬ (IsHigh c ∧ StartsLow units)) :
    joinSurrogates ((flag, c) :: units) = c :: joinSurrogates units := by
  cases flag with
  | false => simp [joinSurrogates]
  | true =>
    cases units with
    | nil => simp [joinSurrogates]
    | cons unit units =>
      obtain ⟨escaped, unit⟩ := unit
      cases escaped with
      | false => simp [joinSurrogates]
      | true =>
        rw [joinSurrogates, if_neg]
        exact fun pair => unpaired ⟨⟨pair.1, pair.2.1⟩, pair.2.2⟩

/-- The units of one escaped character: its own, or the pair that it is written as. -/
theorem scanUnits_char (c : Nat) (point : c < 0x110000) {rest after : Str}
    {units : List (Bool × Nat)} (h : scanUnits rest = some (units, after)) :
    ∃ units', scanUnits (escapeChar c ++ rest) = some (units', after) ∧
      (¬ (IsHigh c ∧ StartsLow units) → joinSurrogates units' = c :: joinSurrogates units) ∧
      (StartsLow units' → IsLow c) := by
  have single (flag : Bool) :
      (¬ (IsHigh c ∧ StartsLow units) →
        joinSurrogates ((flag, c) :: units) = c :: joinSurrogates units) ∧
      (StartsLow ((flag, c) :: units) → IsLow c) := by
    refine ⟨joinSurrogates_cons, fun low => ?_⟩
    cases flag with
    | false => exact low.elim
    | true => exact low
  unfold escapeChar
  split
  · exact ⟨(false, c) :: units, by subst c; simp [scanUnits, escapeValue, h], single _⟩
  split
  · exact ⟨(false, c) :: units, by subst c; simp [scanUnits, escapeValue, h], single _⟩
  split
  · exact ⟨(false, c) :: units, by subst c; simp [scanUnits, escapeValue, h], single _⟩
  split
  · exact ⟨(false, c) :: units, by subst c; simp [scanUnits, escapeValue, h], single _⟩
  split
  · exact ⟨(false, c) :: units, by subst c; simp [scanUnits, escapeValue, h], single _⟩
  split
  · exact ⟨(false, c) :: units, by subst c; simp [scanUnits, escapeValue, h], single _⟩
  split
  · exact ⟨(false, c) :: units, by subst c; simp [scanUnits, escapeValue, h], single _⟩
  split
  · refine ⟨(false, c) :: units, ?_, single _⟩
    rw [List.singleton_append, scanUnits]
    · rw [if_neg (by omega), h]
    all_goals
      intros
      omega
  split
  · rename_i small
    have scanned := scanUnits_escapeUnit c h
    rw [Nat.mod_eq_of_lt small] at scanned
    exact ⟨(true, c) :: units, scanned, single _⟩
  · -- a character outside the basic plane is written as a surrogate pair
    rw [List.append_assoc]
    obtain ⟨high, low, isHigh, isLow, highRange, lowRange, isChar⟩ :
        ∃ high low, (0xD800 + (c - 0x10000) / 1024) % 0x10000 = high ∧
          (0xDC00 + (c - 0x10000) % 1024) % 0x10000 = low ∧
          (0xD800 ≤ high ∧ high < 0xDC00) ∧ (0xDC00 ≤ low ∧ low < 0xE000) ∧
          0x10000 + (high - 0xD800) * 1024 + (low - 0xDC00) = c :=
      ⟨_, _, rfl, rfl, by omega, by omega, by omega⟩
    refine ⟨_, scanUnits_escapeUnit _ (scanUnits_escapeUnit _ h), ?_, ?_⟩
    · intro _
      rw [isHigh, isLow, joinSurrogates, if_pos ⟨highRange.1, highRange.2, lowRange⟩, isChar]
    · intro startsLow
      rw [isHigh] at startsLow
      exact absurd startsLow.1 (by omega)

/-- A literal of a text is read as the text. -/
theorem scanString_text {s : Str} (text : IsText s) (rest : Str) :
    scanString (s.flatMap escapeChar ++ 34 :: rest) = some (s, rest) := by
  have scanned : ∃ units, scanUnits (s.flatMap escapeChar ++ 34 :: rest) = some (units, rest) ∧
      joinSurrogates units = s ∧ (StartsLow units → ∃ c, s.head? = some c ∧ IsLow c) := by
    obtain ⟨points, unpaired⟩ := text
    induction s with
    | nil => exact ⟨[], by simp [scanUnits], rfl, False.elim⟩
    | cons c s ih =>
      rw [List.forall_mem_cons] at points
      rw [List.isChain_cons] at unpaired
      obtain ⟨units, isUnits, joined, starts⟩ := ih points.2 unpaired.2
      obtain ⟨units', isUnits', joined', starts'⟩ := scanUnits_char c points.1 isUnits
      refine ⟨units', ?_, ?_, fun low => ⟨c, rfl, starts' low⟩⟩
      · rw [List.flatMap_cons, List.append_assoc]
        exact isUnits'
      · have apart : ¬ (IsHigh c ∧ StartsLow units) := by
          rintro ⟨high, low⟩
          obtain ⟨d, isHead, isLow⟩ := starts low
          exact unpaired.1 d isHead ⟨high, isLow⟩
        rw [joined' apart, joined]
  obtain ⟨units, isUnits, joined, -⟩ := scanned
  rw [scanString, isUnits, Option.map_some, joined]

/-! ## Flat objects -/

/-- An integer with no more digits than are read, or a text. -/
def Json.IsFlat : Json → Prop
  | .int i => (decimal i.natAbs).length ≤ maxStrDigits
  | .string s => IsText s
  | _ => False

/-- The fields of a flat object. -/
def AreFlat (fields : List (Str × Json)) : Prop := ∀ f ∈ fields, IsText f.1 ∧ f.2.IsFlat

theorem isLiteral_quote {s : Str} (text : IsText s) : IsLiteral quote s := by
  refine ⟨s.flatMap escapeChar ++ [34], rfl, fun rest => ?_⟩
  rw [List.append_assoc, List.singleton_append]
  exact scanString_text text rest

theorem scanValue_flat (floatRepr : Str → Str) {value : Json} (flat : value.IsFlat) {fuel : Nat}
    {rest : Str} (ends : Ends rest) :
    scanValue floatRepr (fuel + 1) (value.text ++ rest) = .ok (value, rest) := by
  cases value with
  | int i => exact scanValue_int floatRepr flat ends
  | string s => exact scanValue_literal floatRepr (isLiteral_quote flat)
  | _ => exact flat.elim

/-- The text of a value starts with a quote, a digit or a sign. -/
theorem text_cons {value : Json} (flat : value.IsFlat) :
    ∃ c start, value.text = c :: start ∧ (c ≠ 32 ∧ c ≠ 9 ∧ c ≠ 10 ∧ c ≠ 13) := by
  cases value with
  | string s => exact ⟨34, _, rfl, by decide⟩
  | int i =>
    cases i with
    | ofNat n =>
      obtain ⟨c, digits, isDigits, digit⟩ := decimal_cons n
      refine ⟨c, digits, isDigits, ?_⟩
      rw [isDigit, Bool.and_eq_true, decide_eq_true_eq, decide_eq_true_eq] at digit
      omega
    | negSucc n => exact ⟨45, _, rfl, by decide⟩
  | _ => exact flat.elim

/-- The text of a field. -/
def fieldText (f : Str × Json) : Str := quote f.1 ++ [58] ++ f.2.text

/-- Its key is read up to the colon, and its value starts without a space. -/
theorem fieldText_append {f : Str × Json} (isKey : IsText f.1) (flat : f.2.IsFlat) (after : Str) :
    ∃ text c start, fieldText f ++ after = 34 :: text ∧
      scanString text = some (f.1, 58 :: c :: start) ∧ f.2.text ++ after = c :: start ∧
      (c ≠ 32 ∧ c ≠ 9 ∧ c ≠ 10 ∧ c ≠ 13) := by
  obtain ⟨body, isBody, read⟩ := isLiteral_quote isKey
  obtain ⟨c, start, isStart, notSpace⟩ := text_cons flat
  refine ⟨body ++ 58 :: c :: (start ++ after), c, start ++ after, ?_, read _, ?_, notSpace⟩
  · rw [fieldText, isBody, isStart]
    simp
  · rw [isStart, List.cons_append]

/-- The texts of fields start with the quote of the first key. -/
theorem fieldTexts_append (f : Str × Json) (fields : List (Str × Json)) (after : Str) :
    ∃ more, List.intercalate [44] ((f :: fields).map fieldText) ++ after = 34 :: more := by
  cases fields with
  | nil => exact ⟨_, rfl⟩
  | cons second fields =>
    rw [List.map_cons, List.map_cons, intercalate_cons_cons]
    exact ⟨_, rfl⟩

/-- The fields of a flat object are read up to its brace. -/
theorem scanFields_flat (floatRepr : Str → Str) :
    ∀ (f : Str × Json) (fields : List (Str × Json)) (fuel : Nat) (rest : Str),
      AreFlat (f :: fields) → fields.length + 1 < fuel →
        scanFields floatRepr fuel
          (List.intercalate [44] ((f :: fields).map fieldText) ++ 125 :: rest) =
            .ok (f :: fields, rest)
  | _, _, 0, _, _, enough => absurd enough (Nat.not_lt_zero _)
  | f, [], fuel + 2, rest, flat, _ => by
    obtain ⟨isKey, isFlat⟩ := flat f List.mem_cons_self
    obtain ⟨text, c, start, isField, key, isStart, notSpace⟩ :=
      fieldText_append isKey isFlat (125 :: rest)
    have read : scanValue floatRepr (fuel + 1) (f.2.text ++ 125 :: rest) =
        .ok (f.2, 125 :: rest) := scanValue_flat floatRepr isFlat (ends_cons (by decide))
    rw [isStart] at read
    rw [List.map_singleton, intercalate_singleton, isField]
    exact scanFields_close key notSpace read
  | f, next :: fields, fuel + 2, rest, flat, enough => by
    obtain ⟨⟨isKey, isFlat⟩, others⟩ := List.forall_mem_cons.mp flat
    rw [List.length_cons] at enough
    have readOthers := scanFields_flat floatRepr next fields (fuel + 1) rest others (by omega)
    obtain ⟨more, isMore⟩ := fieldTexts_append next fields (125 :: rest)
    obtain ⟨text, c, start, isField, key, isStart, notSpace⟩ :=
      fieldText_append isKey isFlat (44 :: 34 :: more)
    have read : scanValue floatRepr (fuel + 1) (f.2.text ++ 44 :: 34 :: more) =
        .ok (f.2, 44 :: 34 :: more) := scanValue_flat floatRepr isFlat (ends_cons (by decide))
    rw [isStart] at read
    rw [isMore] at readOthers
    rw [List.map_cons, List.map_cons, intercalate_cons_cons, ← List.map_cons, List.append_assoc,
      List.cons_append, isMore, isField]
    exact scanFields_comma key notSpace read readOthers

/-! ### What such an object is -/

theorem isAscii_escapeChar (c : Nat) : IsAscii (escapeChar c) := by
  unfold escapeChar
  repeat' split
  case isFalse.isFalse.isFalse.isFalse.isFalse.isFalse.isFalse.isTrue printable =>
    intro d hd
    obtain rfl := List.mem_singleton.mp hd
    omega
  all_goals first
    | exact isAscii_escapeUnit c
    | exact isAscii_append.mpr ⟨isAscii_escapeUnit _, isAscii_escapeUnit _⟩
    | simp [IsAscii]

theorem isAscii_quoted (s : Str) : IsAscii (quote s) := by
  rw [quote, isAscii_append, isAscii_append]
  refine ⟨⟨by simp [IsAscii], fun c hc => ?_⟩, by simp [IsAscii]⟩
  obtain ⟨d, -, isChar⟩ := List.mem_flatMap.mp hc
  exact isAscii_escapeChar d c isChar

theorem isAscii_fieldText {f : Str × Json} (flat : f.2.IsFlat) : IsAscii (fieldText f) := by
  rw [fieldText, isAscii_append, isAscii_append]
  refine ⟨⟨isAscii_quoted f.1, by simp [IsAscii]⟩, ?_⟩
  obtain ⟨key, value⟩ := f
  cases value with
  | int i =>
    cases i with
    | ofNat n => exact isAscii_decimal n
    | negSucc n => exact isAscii_cons.mpr ⟨by decide, isAscii_decimal (n + 1)⟩
  | string s => exact isAscii_quoted s
  | _ => exact flat.elim

theorem nesting_flat {fields : List (Str × Json)} (flat : ∀ f ∈ fields, f.2.IsFlat) :
    (Json.object fields).nesting ≤ 1 := by
  have inside : Json.nesting.nestingFields fields ≤ 0 := by
    induction fields with
    | nil => exact le_refl 0
    | cons f fields ih =>
      obtain ⟨key, value⟩ := f
      rw [List.forall_mem_cons] at flat
      have leaf : value.nesting ≤ 0 := by
        cases value with
        | int _ | string _ => exact le_refl 0
        | _ => exact flat.1.elim
      exact max_le leaf (ih flat.2)
  exact Nat.succ_le_succ inside

theorem unique_flat {fields : List (Str × Json)} (flat : ∀ f ∈ fields, f.2.IsFlat)
    (distinct : (fields.map Prod.fst).Nodup) : (Json.object fields).uniqueKeys = true := by
  have inside : Json.uniqueKeys.fieldsUnique fields = true := by
    clear distinct
    induction fields with
    | nil => rfl
    | cons f fields ih =>
      obtain ⟨key, value⟩ := f
      rw [List.forall_mem_cons] at flat
      have leaf : value.uniqueKeys = true := by
        cases value with
        | int _ | string _ => rfl
        | _ => exact flat.1.elim
      rw [Json.uniqueKeys.fieldsUnique, leaf, ih flat.2]
      rfl
  rw [Json.uniqueKeys, inside, decide_eq_true distinct]
  rfl

/-! ### The order of the keys -/

theorem fieldTexts_eq_map (fields : List (Str × Json)) :
    Json.text.fieldTexts fields = fields.map fun f => (f.1, f.2.text) := by
  induction fields with
  | nil => rfl
  | cons f fields ih => rw [Json.text.fieldTexts, ih, List.map_cons]

theorem text_object (fields : List (Str × Json)) :
    (Json.object fields).text =
      [123] ++ List.intercalate [44] ((sortFields fields).map fieldText) ++ [125] := by
  have sorted : (sortFields fields).map (fun f => (f.1, f.2.text)) =
      sortFields (fields.map fun f => (f.1, f.2.text)) :=
    List.map_insertionSort _ _ _ _ fun _ _ _ _ => Iff.rfl
  rw [Json.text, fieldTexts_eq_map, ← sorted, List.map_map]
  rfl

theorem sortFields_perm (fields : List (Str × Json)) : (sortFields fields).Perm fields :=
  List.perm_insertionSort _ _

theorem sortFields_idem (fields : List (Str × Json)) :
    sortFields (sortFields fields) = sortFields fields :=
  List.Pairwise.insertionSort_eq (List.pairwise_insertionSort _ _)

/-- The fields of two objects with the same fields are sorted alike. -/
theorem sortFields_eq {fields others : List (Str × Json)} (perm : fields.Perm others)
    (distinct : (fields.map Prod.fst).Nodup) : sortFields fields = sortFields others := by
  have same := (sortFields_perm fields).trans (perm.trans (sortFields_perm others).symm)
  refine same.eq_of_pairwise (fun a b isA isB le ge => ?_) (List.pairwise_insertionSort _ _)
    (List.pairwise_insertionSort _ _)
  have sameKey : a.1 = b.1 := le_antisymm le ge
  have isA' := (sortFields_perm fields).mem_iff.mp isA
  have isB' := perm.mem_iff.mpr ((sortFields_perm others).mem_iff.mp isB)
  exact List.inj_on_of_nodup_map distinct isA' isB' sameKey

theorem isAscii_object {fields : List (Str × Json)} (flat : ∀ f ∈ fields, f.2.IsFlat) :
    IsAscii (Json.object fields).text := by
  rw [text_object, isAscii_append, isAscii_append]
  refine ⟨⟨by simp [IsAscii], isAscii_intercalate fun text isText => ?_⟩, by simp [IsAscii]⟩
  obtain ⟨f, isField, rfl⟩ := List.mem_map.mp isText
  exact isAscii_fieldText (flat f ((sortFields_perm fields).mem_iff.mp isField))

theorem dumps_perm {fields others : List (Str × Json)} (perm : fields.Perm others)
    (distinct : (fields.map Prod.fst).Nodup) :
    (Json.object fields).dumps = (Json.object others).dumps := by
  rw [Json.dumps, Json.dumps, text_object, text_object, sortFields_eq perm distinct]

theorem field_perm {fields others : List (Str × Json)} (perm : fields.Perm others)
    (distinct : (fields.map Prod.fst).Nodup) (key : Str) :
    Json.field fields key = Json.field others key := by
  by_cases isKey : key ∈ fields.map Prod.fst
  · obtain ⟨⟨_, value⟩, isField, rfl⟩ := List.mem_map.mp isKey
    have distinct' := (perm.map Prod.fst).nodup_iff.mp distinct
    rw [field_of_nodup distinct isField, field_of_nodup distinct' (perm.mem_iff.mp isField)]
  · have isOther : key ∉ others.map Prod.fst := fun h => isKey ((perm.map Prod.fst).mem_iff.mpr h)
    have none {list : List (Str × Json)} (h : key ∉ list.map Prod.fst) :
        Json.field list key = none := by
      rw [Json.field, List.find?_eq_none.mpr, Option.map_none]
      intro f isField same
      exact h (of_decide_eq_true same ▸ List.mem_map_of_mem isField)
    rw [none isKey, none isOther]

theorem length_fields_le (fields : List (Str × Json)) :
    fields.length ≤ (List.intercalate [44] (fields.map fieldText)).length := by
  induction fields with
  | nil => exact Nat.zero_le _
  | cons f fields ih =>
    have one : 1 ≤ (fieldText f).length := by simp [fieldText, quote]
    cases fields with
    | nil => rwa [List.map_singleton, intercalate_singleton]
    | cons g fields =>
      rw [List.map_cons, List.map_cons, intercalate_cons_cons, ← List.map_cons, List.length_append,
        List.length_cons (a := 44), List.length_cons]
      omega

/-- `json.loads` reads a flat object back, in the order of its keys. -/
theorem Json.loads_flat (floatRepr : Str → Str) {fields : List (Str × Json)}
    (nonempty : fields ≠ []) (flat : AreFlat fields) :
    Json.loads floatRepr (Json.object fields).text = .ok (.object (sortFields fields)) := by
  have perm := sortFields_perm fields
  rw [text_object]
  cases isSorted : sortFields fields with
  | nil =>
    rw [isSorted] at perm
    exact absurd perm.nil_eq.symm nonempty
  | cons f sorted =>
    have flat' : AreFlat (f :: sorted) := fun g isField =>
      flat g (perm.mem_iff.mp (isSorted ▸ isField))
    have bound := length_fields_le (f :: sorted)
    rw [List.length_cons] at bound
    obtain ⟨start, isStart⟩ := fieldTexts_append f sorted [125]
    have length : (List.intercalate [44] ((f :: sorted).map fieldText)).length + 1 =
        start.length + 1 := by
      simpa using congrArg List.length isStart
    have read := scanFields_flat floatRepr f sorted (start.length + 2) [] flat' (by omega)
    rw [isStart] at read
    have value := scanValue_object read
    have shape : [123] ++ List.intercalate [44] ((f :: sorted).map fieldText) ++ [125] =
        123 :: 34 :: start := by
      rw [List.append_assoc, isStart, List.singleton_append]
    rw [shape, Json.loads, if_neg (by simp), skipSpace_cons (by decide)]
    simp only [List.length_cons, value]
    rfl

end Prometheus.Codec
