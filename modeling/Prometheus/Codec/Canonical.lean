import Prometheus.Codec.JsonRoundTrip
import Prometheus.Codec.Serde
import Prometheus.Codec.Utf8

/-!
# Canonical formats

A parser is canonical for an encoding when it accepts exactly the encodings of the valid values,
each as its value. Two canonical parsers agree on every input as soon as their valid values
correspond and are encoded alike, whatever they do with the inputs they refuse.

The encodings here are JSON as `serde_json` and as Python's `json` write it. On what they both
write they write the same bytes.
-/

namespace Prometheus.Codec

/-! ## Agreement of parsers -/

/-- A parser accepts the encodings of the valid values and nothing else. -/
def Canonical {α : Type} (parse : Bytes → Option α) (Valid : α → Prop) (encode : α → Bytes) :
    Prop :=
  ∀ bytes a, parse bytes = some a ↔ Valid a ∧ encode a = bytes

namespace Canonical

variable {α β : Type} {parse : Bytes → Option α} {Valid : α → Prop} {encode : α → Bytes}

/-- An accepted input is the encoding of its value. -/
theorem encode_eq (h : Canonical parse Valid encode) {bytes : Bytes} {a : α}
    (accepted : parse bytes = some a) : encode a = bytes :=
  ((h bytes a).mp accepted).2

theorem valid (h : Canonical parse Valid encode) {bytes : Bytes} {a : α}
    (accepted : parse bytes = some a) : Valid a :=
  ((h bytes a).mp accepted).1

/-- The encoding of a valid value is accepted. -/
theorem parse_encode (h : Canonical parse Valid encode) {a : α} (isValid : Valid a) :
    parse (encode a) = some a :=
  (h (encode a) a).mpr ⟨isValid, rfl⟩

/-- Two canonical parsers whose valid values correspond agree on every input. -/
theorem agree {parse' : Bytes → Option β} {Valid' : β → Prop} {encode' : β → Bytes}
    (h : Canonical parse Valid encode) (h' : Canonical parse' Valid' encode') (f : α → β)
    (maps : ∀ a, Valid a → Valid' (f a) ∧ encode' (f a) = encode a)
    (onto : ∀ b, Valid' b → ∃ a, Valid a ∧ f a = b) (bytes : Bytes) :
    parse' bytes = (parse bytes).map f := by
  cases accepted : parse bytes with
  | some a =>
    obtain ⟨isValid, rfl⟩ := (h bytes a).mp accepted
    obtain ⟨isValid', same⟩ := maps a isValid
    exact (h' _ _).mpr ⟨isValid', same⟩
  | none =>
    rw [Option.map_none, Option.eq_none_iff_forall_ne_some]
    intro b accepted'
    obtain ⟨isValid', rfl⟩ := (h' bytes b).mp accepted'
    obtain ⟨a, isValid, rfl⟩ := onto b isValid'
    rw [(maps a isValid).2, h.parse_encode isValid] at accepted
    cases accepted

/-- A reader reads back what the writer wrote of every checked value. -/
def ReadsBack (read : Bytes → Option α) (Check : α → Prop) (write : α → Bytes) : Prop :=
  ∀ a, Check a → read (write a) = some a

/-- A parser is canonical when it keeps what its reader reads only where writing it again gives the
input. -/
theorem of_readsBack {read : Bytes → Option α} {Check : α → Prop}
    (reads : ReadsBack read Check encode) (checked : ∀ a, Valid a → Check a)
    (accepts : ∀ bytes a, parse bytes = some a ↔
      read bytes = some a ∧ Valid a ∧ encode a = bytes) :
    Canonical parse Valid encode := by
  intro bytes a
  rw [accepts]
  constructor
  · rintro ⟨-, isValid, same⟩
    exact ⟨isValid, same⟩
  · rintro ⟨isValid, rfl⟩
    exact ⟨reads a (checked a isValid), isValid, rfl⟩

end Canonical

/-! ## Parsers that name their errors -/

theorem bind_eq_ok {ε α β : Type} {x : Except ε α} {f : α → Except ε β} {b : β} :
    (x >>= f) = .ok b ↔ ∃ a, x = .ok a ∧ f a = .ok b := by
  cases x with
  | error e => simp [bind, Except.bind]
  | ok a => simp [bind, Except.bind]

theorem bind_eq_error {ε α β : Type} {x : Except ε α} {f : α → Except ε β} {e : ε} :
    (x >>= f) = .error e ↔ x = .error e ∨ ∃ a, x = .ok a ∧ f a = .error e := by
  cases x with
  | error e' => simp [bind, Except.bind]
  | ok a => simp [bind, Except.bind]

theorem ite_error_eq_ok {ε α : Type} {p : Prop} [Decidable p] {e : ε} {x : Except ε α} {a : α} :
    (if p then .error e else x) = .ok a ↔ ¬ p ∧ x = .ok a := by
  by_cases h : p <;> simp [h]

theorem ite_error_eq_error {ε α : Type} {p : Prop} [Decidable p] {e e' : ε} {x : Except ε α} :
    (if p then .error e else x) = .error e' ↔ (p ∧ e = e') ∨ (¬ p ∧ x = .error e') := by
  by_cases h : p <;> simp [h]

theorem toOption_eq_some {ε α : Type} {x : Except ε α} {a : α} :
    x.toOption = some a ↔ x = .ok a := by
  cases x <;> simp [Except.toOption]

/-! ## The two writers -/

theorem encodeAscii_append (s t : Str) : encodeAscii (s ++ t) = encodeAscii s ++ encodeAscii t :=
  List.map_append

theorem encodeAscii_toNat (b : Bytes) : encodeAscii (b.map UInt8.toNat) = b := by
  rw [encodeAscii, List.map_map]
  have same : ∀ x ∈ b, (UInt8.ofNat ∘ UInt8.toNat) x = x := fun x _ => UInt8.ofNat_toNat
  exact (List.map_congr_left same).trans b.map_id

theorem encodeAscii_eq_iff {s : Str} {b : Bytes} (h : IsAscii s) :
    encodeAscii s = b ↔ s = b.map UInt8.toNat := by
  constructor
  · rintro rfl
    exact (map_toNat_encodeAscii h.small).symm
  · rintro rfl
    exact encodeAscii_toNat b

theorem serdeByte_eq (b : UInt8) : serdeByte b = encodeAscii (escapeRaw b.toNat) := by
  have each : ∀ n < 256, serdeByte (UInt8.ofNat n) = encodeAscii (escapeRaw n) := by decide +kernel
  simpa using each b.toNat b.toNat_lt

/-- A string literal of `serde_json` is one of Python with `ensure_ascii=False`. -/
theorem serdeString_eq (b : Bytes) :
    serdeString b = encodeAscii ((Json.string (b.map UInt8.toNat)).compact quoteRaw) := by
  have body : b.flatMap serdeByte = encodeAscii ((b.map UInt8.toNat).flatMap escapeRaw) := by
    induction b with
    | nil => rfl
    | cons x b ih =>
      rw [List.flatMap_cons, List.map_cons, List.flatMap_cons, encodeAscii_append, serdeByte_eq, ih]
  rw [serdeString, Json.compact, quoteRaw, encodeAscii_append, encodeAscii_append, body]
  rfl

theorem serdeNat_eq (n : Nat) : serdeNat n = encodeAscii ((Json.int n).compact quoteRaw) := rfl

theorem encodeAscii_intercalate (items : List Str) :
    encodeAscii (List.intercalate [44] items) = List.intercalate [44] (items.map encodeAscii) := by
  induction items with
  | nil => rfl
  | cons a items ih =>
    cases items with
    | nil => simp [List.intercalate]
    | cons b items =>
      rw [intercalate_cons_cons, encodeAscii_append, ← List.singleton_append, encodeAscii_append,
        ih]
      simp [List.intercalate, encodeAscii]

theorem compactItems_eq_map (items : List Json) :
    Json.compact.compactItems quoteRaw items = items.map (Json.compact quoteRaw) := by
  induction items with
  | nil => rfl
  | cons item items ih => rw [Json.compact.compactItems, ih]; rfl

theorem compactFields_eq_map (fields : List (Str × Json)) :
    Json.compact.compactFields quoteRaw fields =
      fields.map fun f => quoteRaw f.1 ++ [58] ++ f.2.compact quoteRaw := by
  induction fields with
  | nil => rfl
  | cons field fields ih => rw [Json.compact.compactFields, ih]; rfl

theorem serdeArray_eq (items : List Json) :
    serdeArray (items.map fun item => encodeAscii (item.compact quoteRaw)) =
      encodeAscii ((Json.array items).compact quoteRaw) := by
  rw [serdeArray, Json.compact, encodeAscii_append, encodeAscii_append, encodeAscii_intercalate,
    compactItems_eq_map, List.map_map]
  rfl

/-- A struct is an object with its fields in the order of their declaration. -/
theorem serdeStruct_eq (fields : List (String × Json)) :
    serdeStruct (fields.map fun f => (f.1, encodeAscii (f.2.compact quoteRaw))) =
      encodeAscii ((Json.object (fields.map fun f => (str f.1, f.2))).compact quoteRaw) := by
  have each (f : String × Json) :
      serdeString (ascii f.1) ++ [58] ++ encodeAscii (f.2.compact quoteRaw) =
        encodeAscii (quoteRaw (str f.1) ++ [58] ++ f.2.compact quoteRaw) := by
    rw [serdeString_eq, encodeAscii_append, encodeAscii_append]
    rfl
  rw [serdeStruct, Json.compact, encodeAscii_append, encodeAscii_append, encodeAscii_intercalate,
    compactFields_eq_map, List.map_map, List.map_map, List.map_map]
  simp only [Function.comp_def, each]
  rfl

/-! ## Texts of ASCII values -/

mutual

/-- Every string in the value is ASCII, and so is every number. -/
def Json.AsciiText : Json → Prop
  | .float repr => IsAscii repr
  | .string s => IsAscii s
  | .array items => AllAscii items
  | .object fields => FieldsAscii fields
  | _ => True

def AllAscii : List Json → Prop
  | [] => True
  | item :: items => item.AsciiText ∧ AllAscii items

def FieldsAscii : List (Str × Json) → Prop
  | [] => True
  | (key, value) :: fields => IsAscii key ∧ value.AsciiText ∧ FieldsAscii fields

end

theorem isAscii_escapeUnit (c : Nat) : IsAscii (escapeUnit c) := by
  have digit (n : Nat) (hn : n < 16) : hexDigit n < 128 := by
    unfold hexDigit
    split <;> omega
  simp [IsAscii, escapeUnit, digit _ (Nat.mod_lt _ (by decide))]

theorem isAscii_escapeRaw {c : Nat} (h : c < 128) : IsAscii (escapeRaw c) := by
  unfold escapeRaw
  repeat' split
  all_goals first
    | exact isAscii_escapeUnit c
    | simp [IsAscii, h]

theorem isAscii_quoteRaw {s : Str} (h : IsAscii s) : IsAscii (quoteRaw s) := by
  rw [quoteRaw, isAscii_append, isAscii_append]
  refine ⟨⟨by simp [IsAscii], ?_⟩, by simp [IsAscii]⟩
  intro c hc
  obtain ⟨d, hd, hc⟩ := List.mem_flatMap.mp hc
  exact isAscii_escapeRaw (h d hd) c hc

theorem isAscii_decimal (n : Nat) : IsAscii (decimal n) := by
  intro c hc
  have := mem_decimal hc
  omega

theorem isAscii_intercalate {items : List Str} (h : ∀ item ∈ items, IsAscii item) :
    IsAscii (List.intercalate [44] items) := by
  induction items with
  | nil => simp [List.intercalate, IsAscii]
  | cons a items ih =>
    cases items with
    | nil => rw [intercalate_singleton]; exact h a (by simp)
    | cons b items =>
      rw [intercalate_cons_cons, isAscii_append, isAscii_cons]
      exact ⟨h a (by simp), by decide, ih fun item hitem => h item (List.mem_cons_of_mem _ hitem)⟩

mutual

theorem isAscii_compact : ∀ value : Json, value.AsciiText → IsAscii (value.compact quoteRaw)
  | .null, _ => by
    rw [Json.compact, str_atoms.1]
    simp [IsAscii]
  | .bool true, _ => by
    rw [Json.compact, str_atoms.2.1]
    simp [IsAscii]
  | .bool false, _ => by
    rw [Json.compact, str_atoms.2.2.1]
    simp [IsAscii]
  | .int (.ofNat n), _ => isAscii_decimal n
  | .int (.negSucc n), _ => isAscii_cons.mpr ⟨by decide, isAscii_decimal (n + 1)⟩
  | .float _, h => h
  | .string _, h => isAscii_quoteRaw h
  | .array items, h => by
    rw [Json.compact, isAscii_append, isAscii_append]
    exact ⟨⟨by simp [IsAscii], isAscii_intercalate (isAscii_compactItems items h)⟩,
      by simp [IsAscii]⟩
  | .object fields, h => by
    rw [Json.compact, isAscii_append, isAscii_append]
    exact ⟨⟨by simp [IsAscii], isAscii_intercalate (isAscii_compactFields fields h)⟩,
      by simp [IsAscii]⟩

theorem isAscii_compactItems : ∀ items : List Json, AllAscii items →
    ∀ text ∈ Json.compact.compactItems quoteRaw items, IsAscii text
  | [], _, text, htext => by simp [Json.compact.compactItems] at htext
  | item :: items, h, text, htext => by
    rcases List.mem_cons.mp htext with rfl | htext
    · exact isAscii_compact item h.1
    · exact isAscii_compactItems items h.2 text htext

theorem isAscii_compactFields : ∀ fields : List (Str × Json), FieldsAscii fields →
    ∀ text ∈ Json.compact.compactFields quoteRaw fields, IsAscii text
  | [], _, text, htext => by simp [Json.compact.compactFields] at htext
  | (key, value) :: fields, h, text, htext => by
    rcases List.mem_cons.mp htext with rfl | htext
    · rw [isAscii_append, isAscii_append]
      exact ⟨⟨isAscii_quoteRaw h.1, by simp [IsAscii]⟩, isAscii_compact value h.2.1⟩
    · exact isAscii_compactFields fields h.2.2 text htext

end

/-! ## What Python reads -/

/-- `json.loads(wire.decode("utf-8"))`; `none` where it raises. -/
def loadsUtf8 (floatRepr : Str → Str) (wire : Bytes) : Option Json :=
  match fromUtf8 wire with
  | none => none
  | some text =>
    match Json.loads floatRepr text with
    | .error _ => none
    | .ok value => some value

/-- `json.dumps(value, separators=(",", ":"), ensure_ascii=False).encode("utf-8")`; `none` where it
raises. -/
def dumpsUtf8 (value : Json) : Option Bytes := encodeUtf8 (value.compact quoteRaw)

theorem dumpsUtf8_ascii {value : Json} (h : value.AsciiText) :
    dumpsUtf8 value = some (encodeAscii (value.compact quoteRaw)) :=
  encodeUtf8_of_ascii (isAscii_compact value h)

theorem loadsUtf8_compact (floatRepr : Str → Str) {value : Json} (exact : value.Exact)
    (ascii : value.AsciiText) :
    loadsUtf8 floatRepr (encodeAscii (value.compact quoteRaw)) = some value := by
  rw [loadsUtf8, fromUtf8_encodeAscii (isAscii_compact value ascii)]
  simp only [Json.loads_compact floatRepr exact]

/-- The digits of an integer of `width` decimal digits are not too many. -/
theorem decimal_short {n width : Nat} (h : n < 10 ^ width) (positive : 0 < width)
    (small : width ≤ maxStrDigits) : (decimal n).length ≤ maxStrDigits := by
  rw [decimal, List.length_map]
  exact (Nat.toDigits_length 10 n width positive h).trans small

/-- A 64-bit integer is written exactly. -/
theorem exact_int {n : Nat} (h : n < 2 ^ 64) : (Json.int n).Exact :=
  decimal_short (show n < 10 ^ 20 by omega) (by decide) (by decide)

end Prometheus.Codec
