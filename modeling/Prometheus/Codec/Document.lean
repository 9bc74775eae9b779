import Prometheus.Codec.Canonical

/-!
# Documents

An object with a fixed sequence of keys, whose values are numbers of 64 bits, ASCII texts, arrays
and documents: what Python reads back from its text, and how long the text is.
-/

namespace Prometheus.Codec

/-- `U64_MAX`. -/
def u64Max : Int := 2 ^ 64 - 1

/-- A `u64`. -/
def IsU64 (i : Int) : Prop := 0 ≤ i ∧ i ≤ u64Max

theorem IsU64.of_le {i : Int} (positive : 0 ≤ i) (small : i ≤ 2 ^ 63) : IsU64 i := by
  refine ⟨positive, ?_⟩
  rw [u64Max]
  omega

/-- An object with the fields in this order. -/
def document (fields : List (String × Json)) : Json :=
  .object (fields.map fun f => (str f.1, f.2))

/-- The bytes that both languages write for it. -/
def dump (fields : List (String × Json)) : Bytes :=
  encodeAscii ((document fields).compact quoteRaw)

/-- The value of a field among unique keys. -/
theorem field_of_nodup {fields : List (Str × Json)} {key : Str} {value : Json}
    (unique : (fields.map Prod.fst).Nodup) (h : (key, value) ∈ fields) :
    Json.field fields key = some value := by
  induction fields with
  | nil => cases h
  | cons f fields ih =>
    rw [List.map_cons, List.nodup_cons] at unique
    rw [Json.field, List.find?_cons]
    rcases List.mem_cons.mp h with rfl | h
    · simp
    · have differs : f.1 ≠ key := by
        rintro rfl
        exact unique.1 (List.mem_map.mpr ⟨(f.1, value), h, rfl⟩)
      rw [decide_eq_false differs]
      exact ih unique.2 h

theorem keys_document (fields : List (String × Json)) :
    (fields.map fun f => (str f.1, f.2)).map Prod.fst = (fields.map Prod.fst).map str := by
  rw [List.map_map, List.map_map]
  rfl

theorem field_document {fields : List (String × Json)} {key : String} {value : Json}
    (unique : ((fields.map Prod.fst).map str).Nodup) (h : (key, value) ∈ fields) :
    Json.field (fields.map fun f => (str f.1, f.2)) (str key) = some value :=
  field_of_nodup (by rwa [keys_document]) (List.mem_map.mpr ⟨(key, value), h, rfl⟩)

theorem textAt_eq_some {decoded : List (Str × Json)} {key : String} {s : Str} :
    Json.textAt decoded key = some s ↔ Json.field decoded (str key) = some (.string s) := by
  rw [Json.textAt, Option.bind_eq_some_iff]
  constructor
  · rintro ⟨value, found, isString⟩
    cases value <;> simp_all [Json.asString]
  · exact fun found => ⟨_, found, rfl⟩

theorem intAt_eq_some {decoded : List (Str × Json)} {key : String} {i : Int} :
    Json.intAt decoded key = some i ↔ Json.field decoded (str key) = some (.int i) := by
  rw [Json.intAt, Option.bind_eq_some_iff]
  constructor
  · rintro ⟨value, found, isInt⟩
    cases value <;> simp_all [Json.asInt]
  · exact fun found => ⟨_, found, rfl⟩

/-- An object is the document with its keys and values. -/
theorem eq_document {decoded : List (Str × Json)} {fields : List (String × Json)}
    (keys : decoded.map Prod.fst = (fields.map Prod.fst).map str)
    (unique : ((fields.map Prod.fst).map str).Nodup)
    (values : ∀ f ∈ fields, Json.field decoded (str f.1) = some f.2) :
    decoded = fields.map fun f => (str f.1, f.2) := by
  induction fields generalizing decoded with
  | nil => exact List.map_eq_nil_iff.mp keys
  | cons f fields ih =>
    cases decoded with
    | nil => cases keys
    | cons d decoded =>
      obtain ⟨key, keys⟩ := List.cons.inj keys
      rw [List.map_cons, List.map_cons, List.nodup_cons] at unique
      rw [List.forall_mem_cons] at values
      have first : d = (str f.1, f.2) := by
        have found := values.1
        rw [Json.field, List.find?_cons_of_pos (by simpa using key)] at found
        exact Prod.ext key (Option.some.inj found)
      rw [List.map_cons, first, ih keys unique.2 fun g isField => ?_]
      have differs : d.1 ≠ str g.1 := by
        rw [key]
        exact fun same => unique.1 (same ▸ List.mem_map_of_mem (List.mem_map_of_mem isField))
      have found := values.2 g isField
      rwa [Json.field, List.find?_cons_of_neg (by simpa using differs)] at found

/-! ## Reading a document back -/

/-- No control characters. -/
def IsPrintable (s : Str) : Prop := ∀ c ∈ s, 32 ≤ c

theorem isPrintable_append {s t : Str} : IsPrintable (s ++ t) ↔ IsPrintable s ∧ IsPrintable t := by
  simp [IsPrintable, or_imp, forall_and]

theorem isPrintable_escapeRaw (c : Nat) : IsPrintable (escapeRaw c) := by
  have digit (n : Nat) : 32 ≤ hexDigit n := by
    unfold hexDigit
    split <;> omega
  unfold escapeRaw
  repeat' split
  case isFalse.isFalse.isFalse.isFalse.isFalse.isFalse.isFalse.isTrue =>
    simp [IsPrintable, escapeUnit, digit]
  all_goals simp [IsPrintable]
  omega

theorem isPrintable_quoteRaw (s : Str) : IsPrintable (quoteRaw s) := by
  rw [quoteRaw, isPrintable_append, isPrintable_append]
  refine ⟨⟨by simp [IsPrintable], ?_⟩, by simp [IsPrintable]⟩
  intro c hc
  obtain ⟨d, -, hc⟩ := List.mem_flatMap.mp hc
  exact isPrintable_escapeRaw d c hc

theorem isPrintable_intercalate {items : List Str} (h : ∀ item ∈ items, IsPrintable item) :
    IsPrintable (List.intercalate [44] items) := by
  induction items with
  | nil => simp [List.intercalate, IsPrintable]
  | cons a items ih =>
    cases items with
    | nil =>
      rw [intercalate_singleton]
      exact h a (by simp)
    | cons b items =>
      rw [intercalate_cons_cons, isPrintable_append]
      refine ⟨h a (by simp), ?_⟩
      intro c hc
      rcases List.mem_cons.mp hc with rfl | hc
      · decide
      · exact ih (fun item hitem => h item (List.mem_cons_of_mem _ hitem)) c hc

/-- A value that Python reads back from its own text. -/
structure Readable (value : Json) : Prop where
  exact : value.Exact
  ascii : value.AsciiText
  unique : value.uniqueKeys = true
  printable : IsPrintable (value.compact quoteRaw)

theorem readable_int {i : Int} (h : IsU64 i) : Readable (.int i) := by
  obtain ⟨n, rfl⟩ := Int.eq_ofNat_of_zero_le h.1
  refine ⟨exact_int ?_, trivial, rfl, fun c hc => ?_⟩
  · have := h.2
    rw [u64Max] at this
    omega
  · have := mem_decimal hc
    omega

theorem readable_bool (b : Bool) : Readable (.bool b) := by
  refine ⟨trivial, trivial, rfl, ?_⟩
  cases b with
  | false =>
    rw [Json.compact, str_atoms.2.2.1]
    simp [IsPrintable]
  | true =>
    rw [Json.compact, str_atoms.2.1]
    simp [IsPrintable]

theorem readable_string {s : Str} (h : IsAscii s) : Readable (.string s) :=
  ⟨trivial, h, rfl, isPrintable_quoteRaw s⟩

theorem readable_array {items : List Json} (h : ∀ item ∈ items, Readable item) :
    Readable (.array items) := by
  have all : AllExact items ∧ AllAscii items ∧ Json.uniqueKeys.allUnique items = true := by
    induction items with
    | nil => exact ⟨trivial, trivial, rfl⟩
    | cons item items ih =>
      obtain ⟨exact, ascii, unique⟩ := ih fun other hother => h other (List.mem_cons_of_mem _ hother)
      have first := h item List.mem_cons_self
      refine ⟨⟨first.exact, exact⟩, ⟨first.ascii, ascii⟩, ?_⟩
      rw [Json.uniqueKeys.allUnique, first.unique, unique]
      rfl
  refine ⟨all.1, all.2.1, all.2.2, ?_⟩
  rw [Json.compact, compactItems_eq_map, isPrintable_append, isPrintable_append]
  refine ⟨⟨by simp [IsPrintable], isPrintable_intercalate ?_⟩, by simp [IsPrintable]⟩
  exact List.forall_mem_map.mpr fun item hitem => (h item hitem).printable

/-- A document with unique keys in ASCII is read back if its values are. -/
theorem readable_document {fields : List (String × Json)} {keys : List String}
    (same : fields.map Prod.fst = keys) (unique : (keys.map str).Nodup)
    (ascii : ∀ key ∈ keys, IsAscii (str key)) (values : ∀ f ∈ fields, Readable f.2) :
    Readable (document fields) := by
  subst same
  have all : FieldsExact (fields.map fun f => (str f.1, f.2)) ∧
      FieldsAscii (fields.map fun f => (str f.1, f.2)) ∧
      Json.uniqueKeys.fieldsUnique (fields.map fun f => (str f.1, f.2)) = true := by
    clear unique
    induction fields with
    | nil => exact ⟨trivial, trivial, rfl⟩
    | cons f fields ih =>
      obtain ⟨exact, isAscii, unique⟩ :=
        ih (fun g hg => values g (List.mem_cons_of_mem _ hg))
          fun key hkey => ascii key (List.mem_cons_of_mem _ hkey)
      have first := values f List.mem_cons_self
      refine ⟨⟨first.exact, exact⟩, ⟨ascii f.1 List.mem_cons_self, first.ascii, isAscii⟩, ?_⟩
      rw [List.map_cons, Json.uniqueKeys.fieldsUnique, first.unique, unique]
      rfl
  refine ⟨all.1, all.2.1, ?_, ?_⟩
  · rw [document, Json.uniqueKeys, keys_document, decide_eq_true unique, all.2.2]
    rfl
  · rw [document, Json.compact, compactFields_eq_map, List.map_map, isPrintable_append,
      isPrintable_append]
    refine ⟨⟨by simp [IsPrintable], isPrintable_intercalate ?_⟩, by simp [IsPrintable]⟩
    refine List.forall_mem_map.mpr fun f hf => ?_
    show IsPrintable (quoteRaw (str f.1) ++ [58] ++ f.2.compact quoteRaw)
    rw [isPrintable_append, isPrintable_append]
    exact ⟨⟨isPrintable_quoteRaw _, by simp [IsPrintable]⟩, (values f hf).printable⟩

theorem dumpsUtf8_document {fields : List (String × Json)} (h : Readable (document fields)) :
    dumpsUtf8 (document fields) = some (dump fields) :=
  dumpsUtf8_ascii h.ascii

theorem isAscii_dump {fields : List (String × Json)} (h : Readable (document fields)) :
    IsAscii ((dump fields).map UInt8.toNat) := by
  have text := isAscii_compact _ h.ascii
  rw [dump, map_toNat_encodeAscii text.small]
  exact text

theorem dump_ne_nil (fields : List (String × Json)) : dump fields ≠ [] := by
  simp [dump, document, Json.compact, encodeAscii]

/-- A struct is dumped as the document with its fields. -/
theorem serdeStruct_dump (fields : List (String × Json)) :
    serdeStruct (fields.map fun f => (f.1, encodeAscii (f.2.compact quoteRaw))) = dump fields :=
  serdeStruct_eq fields

/-! ## The length of a document -/

theorem length_intercalate_le (items : List Str) :
    (List.intercalate [44] items).length ≤ (items.map fun item => item.length + 1).sum := by
  induction items with
  | nil => simp [List.intercalate]
  | cons a items ih =>
    cases items with
    | nil => simp
    | cons b items =>
      rw [intercalate_cons_cons, List.length_append, List.length_cons, List.map_cons, List.sum_cons]
      omega

/-- The length of a document comes from its keys and its values. -/
theorem length_dump_le {fields : List (String × Json)} {keys : List String}
    (same : fields.map Prod.fst = keys) :
    (dump fields).length ≤ (keys.map fun key => (quoteRaw (str key)).length + 2).sum +
      (fields.map fun f => (f.2.compact quoteRaw).length).sum + 2 := by
  subst same
  have joined := length_intercalate_le
    (Json.compact.compactFields quoteRaw (fields.map fun f => (str f.1, f.2)))
  have total : ((Json.compact.compactFields quoteRaw (fields.map fun f => (str f.1, f.2))).map
      fun item => item.length + 1).sum =
      ((fields.map Prod.fst).map fun key => (quoteRaw (str key)).length + 2).sum +
        (fields.map fun f => (f.2.compact quoteRaw).length).sum := by
    clear joined
    induction fields with
    | nil => rfl
    | cons f fields ih =>
      simp only [List.map_cons, Json.compact.compactFields, List.sum_cons, List.length_append,
        List.length_cons, List.length_nil, ih]
      omega
  rw [dump, encodeAscii, List.length_map, document, Json.compact]
  simp only [List.length_append, List.length_cons, List.length_nil]
  omega

theorem length_int_le {i : Int} (h : IsU64 i) : ((Json.int i).compact quoteRaw).length ≤ 20 := by
  obtain ⟨n, rfl⟩ := Int.eq_ofNat_of_zero_le h.1
  have small := h.2
  rw [u64Max] at small
  show (decimal n).length ≤ 20
  rw [decimal, List.length_map]
  exact Nat.toDigits_length 10 n 20 (by decide) (by omega)

/-- At most every character of a printable text is escaped with one more. -/
theorem length_quoteRaw_le {s : Str} (h : IsPrintable s) :
    (quoteRaw s).length ≤ 2 * s.length + 2 := by
  have each {c : Nat} (hc : 32 ≤ c) : (escapeRaw c).length ≤ 2 := by
    unfold escapeRaw
    repeat' split
    all_goals first
      | omega
      | simp
  have body : (s.flatMap escapeRaw).length ≤ 2 * s.length := by
    induction s with
    | nil => simp
    | cons c s ih =>
      have first := each (h c List.mem_cons_self)
      have rest := ih fun d hd => h d (List.mem_cons_of_mem _ hd)
      rw [List.flatMap_cons, List.length_append, List.length_cons]
      omega
  simp only [quoteRaw, List.length_append, List.length_cons, List.length_nil]
  omega

/-- A text without quotes, backslashes and control characters is written as it is. -/
theorem length_quoteRaw {s : Str} (h : ∀ c ∈ s, 32 ≤ c ∧ c ≠ 34 ∧ c ≠ 92) :
    (quoteRaw s).length = s.length + 2 := by
  have body : s.flatMap escapeRaw = s := by
    induction s with
    | nil => rfl
    | cons c s ih =>
      obtain ⟨printable, notQuote, notBackslash⟩ := h c List.mem_cons_self
      have first : escapeRaw c = [c] := by
        unfold escapeRaw
        repeat' split
        all_goals first
          | rfl
          | omega
      rw [List.flatMap_cons, first, ih fun d hd => h d (List.mem_cons_of_mem _ hd)]
      rfl
  simp [quoteRaw, body]

end Prometheus.Codec
