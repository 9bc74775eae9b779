import Prometheus.Codec.Bytes

/-!
# JSON as Python writes it

The values `json.loads` returns and the text `json.dumps(…, sort_keys=True, separators=(",", ":"),
ensure_ascii=True)` writes for them. An object keeps its fields as the list of pairs that
`object_pairs_hook` receives, so that a repeated key can still be seen. A float is kept as the text
Python writes for it.
-/

namespace Prometheus.Codec

inductive Json
  | null
  | bool (b : Bool)
  | int (i : Int)
  | float (repr : Str)
  | string (s : Str)
  | array (items : List Json)
  | object (fields : List (Str × Json))

/-- The decimal digits of a number. -/
def decimal (n : Nat) : Str := (Nat.toDigits 10 n).map Char.toNat

theorem decimal_inj {m n : Nat} (h : decimal m = decimal n) : m = n := by
  have digits : Nat.toDigits 10 m = Nat.toDigits 10 n :=
    List.map_injective_iff.mpr (fun a b hab => Char.toNat_inj.mp hab) h
  rw [← Nat.ofDigitChars_ten_toDigits (n := m), digits, Nat.ofDigitChars_ten_toDigits]

theorem mem_decimal {n c : Nat} (h : c ∈ decimal n) : 48 ≤ c ∧ c ≤ 57 := by
  obtain ⟨digit, isDigit, rfl⟩ := List.mem_map.mp h
  have between := Nat.isDigit_of_mem_toDigits (by omega) (by omega) isDigit
  simp only [Char.isDigit, Bool.and_eq_true, decide_eq_true_eq, ge_iff_le,
    UInt32.le_iff_toNat_le] at between
  exact between

theorem encodeAscii_decimal_inj {m n : Nat} (h : encodeAscii (decimal m) = encodeAscii (decimal n)) :
    m = n := by
  refine decimal_inj (encodeAscii_inj (fun c hc => ?_) (fun c hc => ?_) h)
  · have := mem_decimal hc
    omega
  · have := mem_decimal hc
    omega

theorem colon_not_mem_decimal (n : Nat) : (58 : UInt8) ∉ encodeAscii (decimal n) := by
  intro h
  obtain ⟨c, isDigit, isColon⟩ := List.mem_map.mp h
  have between := mem_decimal isDigit
  have same := congrArg UInt8.toNat isColon
  rw [UInt8.toNat_ofNat_of_lt' (by show c < 256; omega)] at same
  change c = 58 at same
  omega

/-- `str(i)`. -/
def decimalInt : Int → Str
  | .ofNat n => decimal n
  | .negSucc n => 45 :: decimal (n + 1)

/-- `\uXXXX`. -/
def escapeUnit (c : Nat) : Str :=
  [92, 117, hexDigit (c / 4096 % 16), hexDigit (c / 256 % 16), hexDigit (c / 16 % 16),
    hexDigit (c % 16)]

/-- One character of a string literal. -/
def escapeChar (c : Nat) : Str :=
  if c = 34 then [92, 34]
  else if c = 92 then [92, 92]
  else if c = 10 then [92, 110]
  else if c = 13 then [92, 114]
  else if c = 9 then [92, 116]
  else if c = 12 then [92, 102]
  else if c = 8 then [92, 98]
  else if 32 ≤ c ∧ c ≤ 126 then [c]
  else if c < 0x10000 then escapeUnit c
  else escapeUnit (0xD800 + (c - 0x10000) / 1024) ++ escapeUnit (0xDC00 + (c - 0x10000) % 1024)

/-- A string literal. -/
def quote (s : Str) : Str := [34] ++ s.flatMap escapeChar ++ [34]

/-- Fields in the order of their keys. -/
def sortFields {α : Type} (fields : List (Str × α)) : List (Str × α) :=
  fields.insertionSort fun a b => a.1 ≤ b.1

/-- `json.dumps`, as code points. -/
def Json.text : Json → Str
  | .null => str "null"
  | .bool true => str "true"
  | .bool false => str "false"
  | .int i => decimalInt i
  | .float repr => repr
  | .string s => quote s
  | .array items => [91] ++ List.intercalate [44] (texts items) ++ [93]
  | .object fields =>
    [123] ++ List.intercalate [44]
      ((sortFields (fieldTexts fields)).map fun f => quote f.1 ++ [58] ++ f.2) ++ [125]
where
  texts : List Json → List Str
    | [] => []
    | item :: items => item.text :: texts items
  fieldTexts : List (Str × Json) → List (Str × Str)
    | [] => []
    | (key, value) :: fields => (key, value.text) :: fieldTexts fields

theorem intercalate_concat (sep : Str) (items : List Str) (item : Str) :
    ∃ start, List.intercalate sep (items ++ [item]) = start ++ item := by
  induction items with
  | nil => exact ⟨[], by simp [List.intercalate]⟩
  | cons first items ih =>
    obtain ⟨start, ih⟩ := ih
    cases items with
    | nil => exact ⟨first ++ sep, by simp [List.intercalate]⟩
    | cons second items =>
      refine ⟨first ++ sep ++ start, ?_⟩
      simp only [List.append_assoc, ← ih]
      simp [List.intercalate]

theorem Json.text.fieldTexts_append (fields fields' : List (Str × Json)) :
    fieldTexts (fields ++ fields') = fieldTexts fields ++ fieldTexts fields' := by
  induction fields with
  | nil => rfl
  | cons field fields ih => rw [List.cons_append, fieldTexts, ih]; rfl

/-- The text of an object whose fields are in order ends with the text of the last one. -/
theorem Json.text_object_last {fields : List (Str × Json)} {key : Str} {value : Json}
    (sorted : sortFields (Json.text.fieldTexts fields) = Json.text.fieldTexts fields)
    (isLast : fields.getLast? = some (key, value)) :
    ∃ start, (Json.object fields).text = start ++ 58 :: (value.text ++ [125]) := by
  obtain ⟨front, rfl⟩ := List.getLast?_eq_some_iff.mp isLast
  obtain ⟨start, ends⟩ := intercalate_concat [44]
    ((Json.text.fieldTexts front).map fun f => quote f.1 ++ [58] ++ f.2)
    (quote key ++ [58] ++ value.text)
  refine ⟨123 :: (start ++ quote key), ?_⟩
  rw [Json.text, sorted, Json.text.fieldTexts_append, List.map_append, Json.text.fieldTexts,
    Json.text.fieldTexts, List.map_singleton, ends]
  simp

/-- `json.dumps(…).encode("ascii")`. -/
def Json.dumps (value : Json) : Bytes := encodeAscii value.text

/-- No object in the value repeats a key. -/
def Json.uniqueKeys : Json → Bool
  | .array items => allUnique items
  | .object fields => decide (fields.map Prod.fst).Nodup && fieldsUnique fields
  | _ => true
where
  allUnique : List Json → Bool
    | [] => true
    | item :: items => item.uniqueKeys && allUnique items
  fieldsUnique : List (Str × Json) → Bool
    | [] => true
    | (_, value) :: fields => value.uniqueKeys && fieldsUnique fields

/-- `decoded[key]` of an object with unique keys. -/
def Json.field (fields : List (Str × Json)) (key : Str) : Option Json :=
  (fields.find? fun f => f.1 = key).map Prod.snd

/-- A value of exact type `str`. -/
def Json.asString : Json → Option Str
  | .string s => some s
  | _ => none

/-- A value of type `int` that is not a `bool`. -/
def Json.asInt : Json → Option Int
  | .int i => some i
  | _ => none

/-- `data[key]` where it is of exact type `str`. -/
def Json.textAt (fields : List (Str × Json)) (key : String) : Option Str :=
  (Json.field fields (str key)).bind Json.asString

/-- `data[key]` where it is of exact type `int`. -/
def Json.intAt (fields : List (Str × Json)) (key : String) : Option Int :=
  (Json.field fields (str key)).bind Json.asInt

/-- What `json.loads` raises: a `JSONDecodeError` or `UnicodeDecodeError`; the `ValueError` of an
integer with too many digits; a `RecursionError`. -/
inductive LoadError
  | decodeError
  | valueError
  | recursionError
  deriving DecidableEq, Repr

example : Json.dumps (.object [(str "b", .array [.int (-5), .bool true]),
    (str "a", .string (str "x\"y" ++ [233, 0x1F600]))]) =
      ascii "\x7b\"a\":\"x\\\"y\\u00e9\\ud83d\\ude00\",\"b\":[-5,true]\x7d" := by
  decide

end Prometheus.Codec
