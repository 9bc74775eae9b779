import Prometheus.Codec.Canonical
import Prometheus.Codec.JsonEscape

/-!
# The two canonical forms of a deploy request

`canonical_json` of `modules/silverc-deployer/src/lib.rs` and `canonical_json_bytes` of
`scripts/smoke_silverc_artifacts.py`. The first writes a string as `serde_json` does, the second
with `ensure_ascii`: the bytes differ as soon as a string or a key has a character from DEL on.
-/

namespace Prometheus.Deployer

open Prometheus.Codec

/-! ## The value of `serde_json` -/

/-- A `serde_json` number without a fraction: an `i64` or a `u64`. -/
structure Number where
  val : Int
  lower : -2 ^ 63 ≤ val
  upper : val < 2 ^ 64

/-- `serde_json::Value` without floating-point numbers. A string is its UTF-8 bytes. -/
inductive Value
  | null
  | bool (b : Bool)
  | number (n : Number)
  | string (s : Bytes)
  | array (values : List Value)
  | object (fields : List (Bytes × Value))

/-- `keys.sort_unstable()`, each key with what belongs to it. -/
def sortKeys {α : Type} (fields : List (Bytes × α)) : List (Bytes × α) :=
  fields.insertionSort fun a b => a.1 ≤ b.1

/-- `canonical_json`. -/
def canonicalJson : Value → Bytes
  | .null => ascii "null"
  | .bool true => ascii "true"
  | .bool false => ascii "false"
  | .number n => encodeAscii (decimalInt n.val)
  | .string s => serdeString s
  | .array values => [91] ++ List.intercalate [44] (writeValues values) ++ [93]
  | .object fields =>
    [123] ++ List.intercalate [44]
      ((sortKeys (writeFields fields)).map fun f => serdeString f.1 ++ [58] ++ f.2) ++ [125]
where
  writeValues : List Value → List Bytes
    | [] => []
    | value :: values => canonicalJson value :: writeValues values
  writeFields : List (Bytes × Value) → List (Bytes × Bytes)
    | [] => []
    | (key, value) :: fields => (key, canonicalJson value) :: writeFields fields

/-- `canonical_json_bytes`. -/
def canonicalJsonBytes (value : Json) : Bytes := value.dumps

/-! ## One value on both sides -/

/-- A Python integer as a number of `serde_json`; one that does not fit is a float there. -/
def toNumber (i : Int) : Option Number :=
  if h : -2 ^ 63 ≤ i ∧ i < 2 ^ 64 then some ⟨i, h.1, h.2⟩ else none

mutual

/-- What `serde_json` holds for a JSON value of Python: a text is its UTF-8 bytes, and a float or a
text with a surrogate has no counterpart. -/
def toValue : Json → Option Value
  | .null => some .null
  | .bool b => some (.bool b)
  | .int i => (toNumber i).map .number
  | .float _ => none
  | .string s => (encodeUtf8 s).map .string
  | .array items => (toValues items).map .array
  | .object fields =>
    if (fields.map Prod.fst).Nodup then (toFields fields).map .object else none

def toValues : List Json → Option (List Value)
  | [] => some []
  | item :: items => do
    let value ← toValue item
    let values ← toValues items
    pure (value :: values)

def toFields : List (Str × Json) → Option (List (Bytes × Value))
  | [] => some []
  | (key, item) :: fields => do
    let name ← encodeUtf8 key
    let value ← toValue item
    let rest ← toFields fields
    pure ((name, value) :: rest)

end

/-- Every character of a text is below DEL. -/
def isPlainText (s : Str) : Bool := s.all fun c => c < 127

theorem isPlainText_iff {s : Str} : isPlainText s = true ↔ ∀ c ∈ s, c < 127 := by
  simp [isPlainText]

/-- Every character of every text and every key is below DEL. -/
def isPlain : Json → Bool
  | .string s => isPlainText s
  | .array items => allPlain items
  | .object fields => fieldsPlain fields
  | _ => true
where
  allPlain : List Json → Bool
    | [] => true
    | item :: items => isPlain item && allPlain items
  fieldsPlain : List (Str × Json) → Bool
    | [] => true
    | (key, value) :: fields => isPlainText key && isPlain value && fieldsPlain fields

/-! ## Texts below DEL -/

/-- Every byte is below DEL. -/
def BelowDel (bytes : Bytes) : Prop := ∀ b ∈ bytes, b.toNat < 127

theorem belowDel_append {a b : Bytes} : BelowDel (a ++ b) ↔ BelowDel a ∧ BelowDel b := by
  simp [BelowDel, or_imp, forall_and]

theorem belowDel_encodeAscii {s : Str} (h : ∀ c ∈ s, c < 127) : BelowDel (encodeAscii s) := by
  intro b hb
  obtain ⟨c, hc, rfl⟩ := List.mem_map.mp hb
  have small := h c hc
  rw [UInt8.toNat_ofNat_of_lt' (by show c < 256; omega)]
  exact small

theorem hexDigit_below {n : Nat} (h : n < 16) : hexDigit n < 127 := by
  unfold hexDigit
  split <;> omega

theorem escapeUnit_below (c : Nat) : ∀ d ∈ escapeUnit c, d < 127 := by
  simp [escapeUnit, hexDigit_below (Nat.mod_lt _ (show 0 < 16 by decide))]

/-- `ensure_ascii` leaves no character from DEL on. -/
theorem escapeChar_below (c : Nat) : ∀ d ∈ escapeChar c, d < 127 := by
  intro d hd
  unfold escapeChar at hd
  repeat' split at hd
  all_goals first
    | exact escapeUnit_below _ d hd
    | (rcases List.mem_append.mp hd with hd | hd <;> exact escapeUnit_below _ d hd)
    | (simp only [List.mem_cons, List.not_mem_nil, or_false] at hd; omega)

theorem quote_below (s : Str) : ∀ d ∈ quote s, d < 127 := by
  intro d hd
  simp only [quote, List.mem_append, List.mem_singleton, List.mem_flatMap] at hd
  rcases hd with (rfl | ⟨c, -, hd⟩) | rfl
  · decide
  · exact escapeChar_below c d hd
  · decide

theorem decimalInt_below (i : Int) : ∀ d ∈ decimalInt i, d < 127 := by
  intro d hd
  cases i with
  | ofNat n =>
    have := mem_decimal hd
    omega
  | negSucc n =>
    rcases List.mem_cons.mp hd with rfl | hd
    · decide
    · have := mem_decimal hd
      omega

theorem intercalate_below {items : List Str} (h : ∀ item ∈ items, ∀ d ∈ item, d < 127) :
    ∀ d ∈ List.intercalate [44] items, d < 127 := by
  intro d hd
  rcases mem_intercalate hd with rfl | ⟨item, hitem, hd⟩
  · decide
  · exact h item hitem d hd

mutual

/-- What Python writes of a value without floats is below DEL. -/
theorem text_below : ∀ (value : Json) {v : Value}, toValue value = some v →
    ∀ d ∈ value.text, d < 127
  | .null, _, _ => by decide
  | .bool true, _, _ => by decide
  | .bool false, _, _ => by decide
  | .int i, _, _ => decimalInt_below i
  | .float _, _, h => by cases h
  | .string s, _, _ => quote_below s
  | .array items, _, h => by
    obtain ⟨values, isValues, -⟩ := Option.map_eq_some_iff.mp h
    have items_below := intercalate_below (texts_below items isValues)
    intro d hd
    simp only [Json.text, List.mem_append, List.mem_singleton] at hd
    rcases hd with (rfl | hd) | rfl
    · decide
    · exact items_below d hd
    · decide
  | .object fields, _, h => by
    rw [toValue] at h
    obtain ⟨-, h⟩ := Option.ite_none_right_eq_some.mp h
    obtain ⟨values, isValues, -⟩ := Option.map_eq_some_iff.mp h
    have members := fieldTexts_below fields isValues
    intro d hd
    simp only [Json.text, List.mem_append, List.mem_singleton] at hd
    rcases hd with (rfl | hd) | rfl
    · decide
    · refine intercalate_below (fun item hitem => ?_) d hd
      obtain ⟨field, isField, rfl⟩ := List.mem_map.mp hitem
      have below := members field ((List.mem_insertionSort _).mp isField)
      intro d hd
      simp only [List.mem_append, List.mem_singleton] at hd
      rcases hd with (hd | rfl) | hd
      · exact quote_below _ d hd
      · decide
      · exact below d hd
    · decide

theorem texts_below : ∀ (items : List Json) {values : List Value}, toValues items = some values →
    ∀ text ∈ Json.text.texts items, ∀ d ∈ text, d < 127
  | [], _, _, text, htext => by cases htext
  | item :: items, _, h, text, htext => by
    obtain ⟨value, isValue, h⟩ := Option.bind_eq_some_iff.mp h
    obtain ⟨values, isValues, -⟩ := Option.bind_eq_some_iff.mp h
    rcases List.mem_cons.mp htext with rfl | htext
    · exact text_below item isValue
    · exact texts_below items isValues text htext

theorem fieldTexts_below : ∀ (fields : List (Str × Json)) {values : List (Bytes × Value)},
    toFields fields = some values →
    ∀ field ∈ Json.text.fieldTexts fields, ∀ d ∈ field.2, d < 127
  | [], _, _, field, hfield => by cases hfield
  | (key, item) :: fields, _, h, field, hfield => by
    obtain ⟨name, -, h⟩ := Option.bind_eq_some_iff.mp h
    obtain ⟨value, isValue, h⟩ := Option.bind_eq_some_iff.mp h
    obtain ⟨values, isValues, -⟩ := Option.bind_eq_some_iff.mp h
    rcases List.mem_cons.mp hfield with rfl | hfield
    · exact text_below item isValue
    · exact fieldTexts_below fields isValues field hfield

end

theorem belowDel_canonicalJsonBytes {value : Json} {v : Value} (h : toValue value = some v) :
    BelowDel (canonicalJsonBytes value) :=
  belowDel_encodeAscii (text_below value h)

/-! ## Only a plain value is written below DEL -/

theorem serdeByte_large {b : UInt8} (h : 127 ≤ b.toNat) : serdeByte b = [b] := by
  have each : ∀ n < 256, 127 ≤ n → serdeByte (UInt8.ofNat n) = [UInt8.ofNat n] := by
    decide +kernel
  simpa using each b.toNat b.toNat_lt h

theorem isPlainText_of_serdeString {s : Str} {bytes : Bytes} (encoded : encodeUtf8 s = some bytes)
    (below : BelowDel (serdeString bytes)) : isPlainText s = true := by
  have bytesBelow : BelowDel bytes := by
    intro b hb
    by_contra large
    have written : b ∈ serdeByte b := by
      rw [serdeByte_large (by omega)]
      exact List.mem_singleton_self b
    refine large (below b ?_)
    simp only [serdeString, List.mem_append, List.mem_flatMap]
    exact .inl (.inr ⟨b, hb, written⟩)
  obtain ⟨ascii, rfl⟩ := ascii_of_encodeUtf8 encoded fun b hb => by
    have := bytesBelow b hb
    omega
  refine isPlainText_iff.mpr fun c hc => ?_
  have small := bytesBelow (UInt8.ofNat c) (List.mem_map_of_mem hc)
  have := ascii c hc
  rwa [UInt8.toNat_ofNat_of_lt' (by show c < 256; omega)] at small

theorem belowDel_of_intercalate {items : List Bytes} (h : BelowDel (List.intercalate [44] items)) :
    ∀ item ∈ items, BelowDel item := by
  induction items with
  | nil => simp
  | cons item items ih =>
    cases items with
    | nil => simpa [List.intercalate] using h
    | cons next items =>
      have split : List.intercalate [44] (item :: next :: items) =
          item ++ ([44] ++ List.intercalate [44] (next :: items)) := by
        simp [List.intercalate]
      rw [split, belowDel_append, belowDel_append] at h
      intro other isOther
      rcases List.mem_cons.mp isOther with rfl | isOther
      · exact h.1
      · exact ih h.2.2 other isOther

mutual

theorem isPlain_of_belowDel : ∀ (value : Json) {v : Value}, toValue value = some v →
    BelowDel (canonicalJson v) → isPlain value = true
  | .null, _, _, _ => rfl
  | .bool _, _, _, _ => rfl
  | .int _, _, _, _ => rfl
  | .float _, _, _, _ => rfl
  | .string s, _, h, below => by
    obtain ⟨bytes, encoded, rfl⟩ := Option.map_eq_some_iff.mp h
    exact isPlainText_of_serdeString encoded below
  | .array items, _, h, below => by
    obtain ⟨values, isValues, rfl⟩ := Option.map_eq_some_iff.mp h
    rw [canonicalJson, belowDel_append, belowDel_append] at below
    exact allPlain_of_belowDel items isValues (belowDel_of_intercalate below.1.2)
  | .object fields, _, h, below => by
    rw [toValue] at h
    obtain ⟨-, h⟩ := Option.ite_none_right_eq_some.mp h
    obtain ⟨values, isValues, rfl⟩ := Option.map_eq_some_iff.mp h
    rw [canonicalJson, belowDel_append, belowDel_append] at below
    refine fieldsPlain_of_belowDel fields isValues fun field isField => ?_
    have member := belowDel_of_intercalate below.1.2 (serdeString field.1 ++ [58] ++ field.2)
      (List.mem_map_of_mem ((List.mem_insertionSort _).mpr isField))
    rw [belowDel_append, belowDel_append] at member
    exact ⟨member.1.1, member.2⟩

theorem allPlain_of_belowDel : ∀ (items : List Json) {values : List Value},
    toValues items = some values →
    (∀ text ∈ canonicalJson.writeValues values, BelowDel text) → isPlain.allPlain items = true
  | [], _, _, _ => rfl
  | item :: items, _, h, below => by
    obtain ⟨value, isValue, h⟩ := Option.bind_eq_some_iff.mp h
    obtain ⟨values, isValues, h⟩ := Option.bind_eq_some_iff.mp h
    obtain rfl := Option.some.inj h
    have first := isPlain_of_belowDel item isValue (below _ List.mem_cons_self)
    have rest := allPlain_of_belowDel items isValues fun text htext =>
      below text (List.mem_cons_of_mem _ htext)
    simp [isPlain.allPlain, first, rest]

theorem fieldsPlain_of_belowDel : ∀ (fields : List (Str × Json)) {values : List (Bytes × Value)},
    toFields fields = some values →
    (∀ field ∈ canonicalJson.writeFields values,
      BelowDel (serdeString field.1) ∧ BelowDel field.2) → isPlain.fieldsPlain fields = true
  | [], _, _, _ => rfl
  | (key, item) :: fields, _, h, below => by
    obtain ⟨name, encoded, h⟩ := Option.bind_eq_some_iff.mp h
    obtain ⟨value, isValue, h⟩ := Option.bind_eq_some_iff.mp h
    obtain ⟨values, isValues, h⟩ := Option.bind_eq_some_iff.mp h
    obtain rfl := Option.some.inj h
    have first := below _ List.mem_cons_self
    have keyPlain := isPlainText_of_serdeString encoded first.1
    have valuePlain := isPlain_of_belowDel item isValue first.2
    have rest := fieldsPlain_of_belowDel fields isValues fun field isField =>
      below field (List.mem_cons_of_mem _ isField)
    simp [isPlain.fieldsPlain, keyPlain, valuePlain, rest]

end

/-! ## A plain value is written alike -/

theorem escapeRaw_eq_escapeChar {c : Nat} (h : c < 127) : escapeRaw c = escapeChar c := by
  have each : ∀ n < 127, escapeRaw n = escapeChar n := by decide
  exact each c h

/-- A plain text is one literal on both sides. -/
theorem serdeString_plain {s : Str} (plain : isPlainText s = true) :
    encodeUtf8 s = some (encodeAscii s) ∧ serdeString (encodeAscii s) = encodeAscii (quote s) := by
  have below := isPlainText_iff.mp plain
  have ascii : IsAscii s := fun c hc => by
    have := below c hc
    omega
  have same : s.flatMap escapeRaw = s.flatMap escapeChar :=
    List.flatMap_congr fun c hc => escapeRaw_eq_escapeChar (below c hc)
  refine ⟨encodeUtf8_of_ascii ascii, ?_⟩
  rw [serdeString_eq, map_toNat_encodeAscii ascii.small, Json.compact, quoteRaw, same, quote]

/-- The bytes of ASCII keys are ordered as their characters. -/
theorem encodeAscii_lt_iff {s t : Str} (hs : IsAscii s) (ht : IsAscii t) :
    encodeAscii s < encodeAscii t ↔ s < t := by
  induction s generalizing t with
  | nil =>
    cases t with
    | nil => simp [encodeAscii]
    | cons d t => simp [encodeAscii]
  | cons c s ih =>
    cases t with
    | nil => simp [encodeAscii]
    | cons d t =>
      obtain ⟨hc, hs⟩ := isAscii_cons.mp hs
      obtain ⟨hd, ht⟩ := isAscii_cons.mp ht
      have least : UInt8.ofNat c < UInt8.ofNat d ↔ c < d := by
        rw [UInt8.lt_iff_toNat_lt, UInt8.toNat_ofNat_of_lt' (by show c < 256; omega),
          UInt8.toNat_ofNat_of_lt' (by show d < 256; omega)]
      have equal : UInt8.ofNat c = UInt8.ofNat d ↔ c = d := by
        rw [← UInt8.toNat_inj, UInt8.toNat_ofNat_of_lt' (by show c < 256; omega),
          UInt8.toNat_ofNat_of_lt' (by show d < 256; omega)]
      have rest := ih hs ht
      simp only [encodeAscii, List.map_cons, List.cons_lt_cons_iff] at rest ⊢
      rw [least, equal, rest]

theorem encodeAscii_le_iff {s t : Str} (hs : IsAscii s) (ht : IsAscii t) :
    encodeAscii s ≤ encodeAscii t ↔ s ≤ t := by
  rw [← List.not_lt, ← not_lt, encodeAscii_lt_iff ht hs]

/-- Sorting ASCII keys gives one order on both sides. -/
theorem sortKeys_encodeAscii {fields : List (Str × Str)} (h : ∀ f ∈ fields, IsAscii f.1) :
    sortKeys (fields.map fun f => (encodeAscii f.1, encodeAscii f.2)) =
      (sortFields fields).map fun f => (encodeAscii f.1, encodeAscii f.2) := by
  have order := List.map_insertionSort (fun a b : Str × Str => a.1 ≤ b.1)
    (fun a b : Bytes × Bytes => a.1 ≤ b.1) (fun f => (encodeAscii f.1, encodeAscii f.2)) fields
    fun a ha b hb => (encodeAscii_le_iff (h a ha) (h b hb)).symm
  exact order.symm

mutual

theorem canonicalJson_plain : ∀ (value : Json) {v : Value}, toValue value = some v →
    isPlain value = true → canonicalJson v = encodeAscii value.text
  | .null, _, h, _ => by
    obtain rfl := Option.some.inj h
    rfl
  | .bool true, _, h, _ => by
    obtain rfl := Option.some.inj h
    rfl
  | .bool false, _, h, _ => by
    obtain rfl := Option.some.inj h
    rfl
  | .int i, _, h, _ => by
    obtain ⟨n, isNumber, rfl⟩ := Option.map_eq_some_iff.mp h
    rw [toNumber, Option.dite_none_right_eq_some] at isNumber
    obtain ⟨fits, isNumber⟩ := isNumber
    obtain rfl := Option.some.inj isNumber
    rfl
  | .float _, _, h, _ => by cases h
  | .string s, _, h, plain => by
    obtain ⟨bytes, encoded, rfl⟩ := Option.map_eq_some_iff.mp h
    obtain ⟨isAscii, same⟩ := serdeString_plain plain
    rw [isAscii] at encoded
    obtain rfl := Option.some.inj encoded
    exact same
  | .array items, _, h, plain => by
    obtain ⟨values, isValues, rfl⟩ := Option.map_eq_some_iff.mp h
    rw [canonicalJson, writeValues_plain items isValues plain, Json.text, encodeAscii_append,
      encodeAscii_append, encodeAscii_intercalate]
    rfl
  | .object fields, _, h, plain => by
    rw [toValue] at h
    obtain ⟨-, h⟩ := Option.ite_none_right_eq_some.mp h
    obtain ⟨values, isValues, rfl⟩ := Option.map_eq_some_iff.mp h
    obtain ⟨members, keys⟩ := writeFields_plain fields isValues plain
    have ascii : ∀ f ∈ Json.text.fieldTexts fields, IsAscii f.1 := by
      intro f hf c hc
      have := isPlainText_iff.mp (keys f hf) c hc
      omega
    have each : ∀ f ∈ sortFields (Json.text.fieldTexts fields),
        serdeString (encodeAscii f.1) ++ [58] ++ encodeAscii f.2 =
          encodeAscii (quote f.1 ++ [58] ++ f.2) := by
      intro f hf
      have plainKey := keys f ((List.mem_insertionSort _).mp hf)
      rw [(serdeString_plain plainKey).2, encodeAscii_append, encodeAscii_append]
      rfl
    rw [canonicalJson, members, sortKeys_encodeAscii ascii, Json.text, encodeAscii_append,
      encodeAscii_append, encodeAscii_intercalate, List.map_map, List.map_map]
    congr 3
    exact List.map_congr_left each

theorem writeValues_plain : ∀ (items : List Json) {values : List Value},
    toValues items = some values → isPlain.allPlain items = true →
    canonicalJson.writeValues values = (Json.text.texts items).map encodeAscii
  | [], _, h, _ => by
    obtain rfl := Option.some.inj h
    rfl
  | item :: items, _, h, plain => by
    obtain ⟨value, isValue, h⟩ := Option.bind_eq_some_iff.mp h
    obtain ⟨values, isValues, h⟩ := Option.bind_eq_some_iff.mp h
    obtain rfl := Option.some.inj h
    rw [isPlain.allPlain, Bool.and_eq_true] at plain
    rw [canonicalJson.writeValues, canonicalJson_plain item isValue plain.1,
      writeValues_plain items isValues plain.2]
    rfl

theorem writeFields_plain : ∀ (fields : List (Str × Json)) {values : List (Bytes × Value)},
    toFields fields = some values → isPlain.fieldsPlain fields = true →
    canonicalJson.writeFields values =
        (Json.text.fieldTexts fields).map (fun f => (encodeAscii f.1, encodeAscii f.2)) ∧
      ∀ f ∈ Json.text.fieldTexts fields, isPlainText f.1 = true
  | [], _, h, _ => by
    obtain rfl := Option.some.inj h
    exact ⟨rfl, fun f hf => by cases hf⟩
  | (key, item) :: fields, _, h, plain => by
    obtain ⟨name, encoded, h⟩ := Option.bind_eq_some_iff.mp h
    obtain ⟨value, isValue, h⟩ := Option.bind_eq_some_iff.mp h
    obtain ⟨values, isValues, h⟩ := Option.bind_eq_some_iff.mp h
    obtain rfl := Option.some.inj h
    rw [isPlain.fieldsPlain, Bool.and_eq_true, Bool.and_eq_true] at plain
    rw [(serdeString_plain plain.1.1).1] at encoded
    obtain rfl := Option.some.inj encoded
    obtain ⟨rest, keys⟩ := writeFields_plain fields isValues plain.2
    refine ⟨?_, fun f hf => ?_⟩
    · rw [canonicalJson.writeFields, canonicalJson_plain item isValue plain.1.2, rest]
      rfl
    · rcases List.mem_cons.mp hf with rfl | hf
      · exact plain.1.1
      · exact keys f hf

end

/-- The two forms of a value are the same bytes exactly when it is plain. -/
theorem canonicalJson_eq_iff {value : Json} {v : Value} (h : toValue value = some v) :
    canonicalJson v = canonicalJsonBytes value ↔ isPlain value = true := by
  constructor
  · intro same
    exact isPlain_of_belowDel value h (same ▸ belowDel_canonicalJsonBytes h)
  · exact canonicalJson_plain value h

end Prometheus.Deployer
