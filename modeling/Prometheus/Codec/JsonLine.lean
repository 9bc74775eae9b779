import Prometheus.Codec.JsonFlat

/-!
# A document on a line of its own

What `json.dumps` writes with `ensure_ascii=True` for a value without floats is printable ASCII, so
that a newline behind it is the only one. `json.loads` skips the newline and reads the document back
when the literals of its texts are read back.
-/

namespace Prometheus.Codec

/-! ## The characters of a document -/

theorem isPlainText_append {s t : Str} : IsPlainText (s ++ t) ↔ IsPlainText s ∧ IsPlainText t :=
  List.forall_mem_append

theorem isPlainText_cons {c : Nat} {s : Str} :
    IsPlainText (c :: s) ↔ (32 ≤ c ∧ c ≤ 126) ∧ IsPlainText s :=
  List.forall_mem_cons

theorem isPlainText_nil : IsPlainText [] := by
  simp [IsPlainText]

theorem isPlainText_escapeUnit (c : Nat) : IsPlainText (escapeUnit c) := by
  have digit (n : Nat) (hn : n < 16) : 32 ≤ hexDigit n ∧ hexDigit n ≤ 126 := by
    unfold hexDigit
    split <;> omega
  simp [IsPlainText, escapeUnit, digit _ (Nat.mod_lt _ (by decide))]

theorem isPlainText_escapeChar (c : Nat) : IsPlainText (escapeChar c) := by
  unfold escapeChar
  repeat' split
  case isFalse.isFalse.isFalse.isFalse.isFalse.isFalse.isFalse.isTrue printable =>
    exact isPlainText_cons.mpr ⟨printable, isPlainText_nil⟩
  all_goals first
    | exact isPlainText_escapeUnit c
    | exact isPlainText_append.mpr ⟨isPlainText_escapeUnit _, isPlainText_escapeUnit _⟩
    | simp [IsPlainText]

theorem isPlainText_quote (s : Str) : IsPlainText (quote s) := by
  rw [quote, isPlainText_append, isPlainText_append]
  refine ⟨⟨by simp [IsPlainText], fun c hc => ?_⟩, by simp [IsPlainText]⟩
  obtain ⟨d, -, isChar⟩ := List.mem_flatMap.mp hc
  exact isPlainText_escapeChar d c isChar

theorem isPlainText_decimal (n : Nat) : IsPlainText (decimal n) := by
  intro c hc
  have := mem_decimal hc
  omega

theorem isPlainText_intercalate {items : List Str} (h : ∀ item ∈ items, IsPlainText item) :
    IsPlainText (List.intercalate [44] items) := by
  intro c hc
  rcases mem_intercalate hc with rfl | ⟨item, isItem, hc⟩
  · decide
  · exact h item isItem c hc

mutual

theorem isPlainText_compact : ∀ {value : Json},
    value.Written quote → IsPlainText (value.compact quote)
  | .null, _ => by
    rw [Json.compact, str_atoms.1]
    simp [IsPlainText]
  | .bool true, _ => by
    rw [Json.compact, str_atoms.2.1]
    simp [IsPlainText]
  | .bool false, _ => by
    rw [Json.compact, str_atoms.2.2.1]
    simp [IsPlainText]
  | .int (.ofNat n), _ => isPlainText_decimal n
  | .int (.negSucc n), _ => isPlainText_cons.mpr ⟨by decide, isPlainText_decimal (n + 1)⟩
  | .float _, written => written.elim
  | .string s, _ => isPlainText_quote s
  | .array _, written => by
    rw [Json.compact, isPlainText_append, isPlainText_append]
    exact ⟨⟨by simp [IsPlainText], isPlainText_intercalate (isPlainText_compactItems written)⟩,
      by simp [IsPlainText]⟩
  | .object _, written => by
    rw [Json.compact, isPlainText_append, isPlainText_append]
    exact ⟨⟨by simp [IsPlainText], isPlainText_intercalate (isPlainText_compactFields written)⟩,
      by simp [IsPlainText]⟩

theorem isPlainText_compactItems : ∀ {items : List Json}, AllWritten quote items →
    ∀ text ∈ Json.compact.compactItems quote items, IsPlainText text
  | [], _, text, isText => by simp [Json.compact.compactItems] at isText
  | _ :: _, written, text, isText => by
    rcases List.mem_cons.mp isText with rfl | isText
    · exact isPlainText_compact written.1
    · exact isPlainText_compactItems written.2 text isText

theorem isPlainText_compactFields : ∀ {fields : List (Str × Json)}, FieldsWritten quote fields →
    ∀ text ∈ Json.compact.compactFields quote fields, IsPlainText text
  | [], _, text, isText => by simp [Json.compact.compactFields] at isText
  | (key, _) :: _, written, text, isText => by
    rcases List.mem_cons.mp isText with rfl | isText
    · rw [isPlainText_append, isPlainText_append]
      exact ⟨⟨isPlainText_quote key, by simp [IsPlainText]⟩, isPlainText_compact written.2.1⟩
    · exact isPlainText_compactFields written.2.2 text isText

end

/-! ## Lines -/

/-- `json.dumps(…, separators=(",", ":"), ensure_ascii=True).encode("ascii") + b"\n"` -/
def dumpsLine (value : Json) : Bytes := dumpsOrdered value ++ [10]

/-- The text of a line. -/
def lineText (value : Json) : Str := value.compact quote ++ [10]

theorem isAscii_lineText {value : Json} (written : value.Written quote) :
    IsAscii (lineText value) :=
  isAscii_append.mpr ⟨isAscii_of_plain (isPlainText_compact written), by simp [IsAscii]⟩

theorem dumpsLine_eq (value : Json) : dumpsLine value = encodeAscii (lineText value) := by
  rw [dumpsLine, lineText, encodeAscii_append, dumpsOrdered]
  rfl

theorem decodeAscii_dumpsLine {value : Json} (written : value.Written quote) :
    decodeAscii (dumpsLine value) = some (lineText value) := by
  have ascii := isAscii_lineText written
  have bytes : (dumpsLine value).all (fun b => decide (b < 128)) = true := by
    rw [List.all_eq_true]
    intro b hb
    rw [dumpsLine_eq] at hb
    have small := ascii_encodeAscii ascii b hb
    exact decide_eq_true (UInt8.lt_iff_toNat_lt.mpr small)
  rw [decodeAscii, if_pos bytes, dumpsLine_eq, map_toNat_encodeAscii ascii.small]

/-- A line has one newline, at its end. -/
theorem count_newline_dumpsLine {value : Json} (written : value.Written quote) :
    (dumpsLine value).count 10 = 1 := by
  have none : (10 : UInt8) ∉ dumpsOrdered value := by
    intro h
    obtain ⟨c, isChar, isNewline⟩ := List.mem_map.mp h
    have printable := isPlainText_compact written c isChar
    have same := congrArg UInt8.toNat isNewline
    rw [UInt8.toNat_ofNat_of_lt' (by show c < 256; omega)] at same
    change c = 10 at same
    omega
  rw [dumpsLine, List.count_append, List.count_eq_zero_of_not_mem none]
  rfl

theorem getLast_dumpsLine (value : Json) : (dumpsLine value).getLast? = some 10 :=
  List.getLast?_concat

/-! ## Reading a line -/

section

variable {literal : Str → Str}

theorem scanValue_objectBefore (floatRepr : Str → Str) {fields : List (Str × Json)}
    (written : FieldsWritten literal fields) (rest : Str) (fuel : Nat)
    (enough : ((Json.object fields).compact literal).length < fuel + 1) :
    scanValue floatRepr (fuel + 1) ((Json.object fields).compact literal ++ rest) =
      .ok (.object fields, rest) := by
  cases fields with
  | nil => simp [Json.compact, Json.compact.compactFields, scanValue, skipSpace]
  | cons field fields =>
    obtain ⟨key, value⟩ := field
    simp only [Json.compact, List.length_append, List.length_singleton] at enough
    have read := scanFields_compact floatRepr key value fields fuel rest written (by omega)
    obtain ⟨start, isStart⟩ := fields_text value fields written.1 (125 :: rest)
    rw [isStart] at read
    rw [Json.compact, List.append_assoc, List.append_assoc, List.singleton_append,
      List.singleton_append, isStart]
    exact scanValue_object read

/-- `json.loads` of an object on a line. -/
theorem Json.loads_line (floatRepr : Str → Str) {fields : List (Str × Json)}
    (written : FieldsWritten quote fields) :
    Json.loads floatRepr (lineText (.object fields)) = .ok (.object fields) := by
  obtain ⟨start, isStart⟩ : ∃ start, (Json.object fields).compact quote = 123 :: start := ⟨_, rfl⟩
  have unspaced : skipSpace (lineText (.object fields)) = lineText (.object fields) := by
    rw [lineText, isStart, List.cons_append, skipSpace_cons (by decide)]
  have noMark : (lineText (.object fields)).head? ≠ some 0xFEFF := by
    rw [lineText, isStart, List.cons_append, List.head?_cons]
    decide
  have read : scanValue floatRepr ((lineText (.object fields)).length + 1)
      (lineText (.object fields)) = .ok (.object fields, [10]) := by
    refine scanValue_objectBefore floatRepr written [10] _ ?_
    rw [lineText, List.length_append]
    omega
  rw [Json.loads, if_neg noMark, unspaced, read]
  rfl

end

end Prometheus.Codec
