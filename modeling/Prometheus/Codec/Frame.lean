import Prometheus.Codec.Document
import Prometheus.Codec.JsonEscape

/-!
# Frames

Integers read from their big-endian bytes, slices and bodies behind their length, the documents
whose text is the same with and without `ensure_ascii`, and the nesting of documents.
-/

namespace Prometheus.Codec

/-- `int.from_bytes(bytes, "big")`. -/
def fromBytesBig (bytes : Bytes) : Nat := bytes.foldl (fun n b => 256 * n + b.toNat) 0

theorem fromBytesBig_concat (bytes : Bytes) (b : UInt8) :
    fromBytesBig (bytes ++ [b]) = 256 * fromBytesBig bytes + b.toNat := by
  simp [fromBytesBig]

theorem fromBytesBig_toBytesBig {w n : Nat} (h : n < 256 ^ w) :
    fromBytesBig (toBytesBig w n) = n := by
  induction w generalizing n with
  | zero =>
    rw [pow_zero] at h
    simp [toBytesBig, fromBytesBig]
    omega
  | succ w ih =>
    have quotient : n / 256 < 256 ^ w := by
      rw [pow_succ] at h
      omega
    have digit : (UInt8.ofNat (n % 256)).toNat = n % 256 :=
      UInt8.toNat_ofNat_of_lt' (by show n % 256 < 256; omega)
    rw [toBytesBig, fromBytesBig_concat, ih quotient, digit]
    omega

theorem toBytesBig_fromBytesBig (bytes : Bytes) :
    toBytesBig bytes.length (fromBytesBig bytes) = bytes := by
  induction bytes using List.reverseRecOn with
  | nil => rfl
  | append_singleton bytes b ih =>
    have small := b.toNat_lt
    have quotient : (256 * fromBytesBig bytes + b.toNat) / 256 = fromBytesBig bytes := by omega
    have digit : (256 * fromBytesBig bytes + b.toNat) % 256 = b.toNat := by omega
    rw [List.length_append, List.length_singleton, fromBytesBig_concat, toBytesBig, quotient,
      digit, ih, UInt8.ofNat_toNat]

/-! ## Slices -/

/-- `bytes[start:end]`. -/
def slice (bytes : Bytes) (first last : Nat) : Bytes := (bytes.drop first).take (last - first)

/-- The slices on both sides of an offset. -/
theorem drop_eq_slice_append (bytes : Bytes) {first last : Nat} (h : first ≤ last) :
    bytes.drop first = slice bytes first last ++ bytes.drop last := by
  have rest : (bytes.drop first).drop (last - first) = bytes.drop last := by
    rw [List.drop_drop, Nat.add_sub_cancel' h]
  rw [slice, ← rest, List.take_append_drop]

theorem length_slice {bytes : Bytes} {first last : Nat} (h : last ≤ bytes.length) :
    (slice bytes first last).length = last - first := by
  rw [slice, List.length_take, List.length_drop]
  omega

/-- The slice between two offsets, and what is behind it. -/
theorem slice_of_drop {bytes body rest : Bytes} {first : Nat} (last : Nat)
    (h : bytes.drop first = body ++ rest) (size : first + body.length = last) :
    slice bytes first last = body ∧ bytes.drop last = rest := by
  subst size
  constructor
  · rw [slice, h, List.take_left' (by omega)]
  · rw [← List.drop_drop, h, List.drop_left' rfl]

/-! ## A body behind its length -/

/-- A body behind its length in four bytes. -/
def frame (body : Bytes) : Bytes := toBytesBig 4 body.length ++ body

/-- The one frame of a stream whose body is not empty and not longer than `limit`. -/
def readFrame (limit : Nat) (stream : Bytes) : Option Bytes :=
  if stream.length < 4 then none
  else
    let length := fromBytesBig (stream.take 4)
    if length = 0 ∨ limit < length then none
    else if (stream.drop 4).length ≠ length then none
    else some (stream.drop 4)

theorem readFrame_iff {limit : Nat} (small : limit < 2 ^ 32) {stream body : Bytes} :
    readFrame limit stream = some body ↔
      stream = frame body ∧ 0 < body.length ∧ body.length ≤ limit := by
  unfold readFrame
  simp only [Option.ite_none_left_eq_some, not_lt, not_not, not_or, Option.some.injEq, ne_eq]
  constructor
  · rintro ⟨long, ⟨positive, bounded⟩, exact, rfl⟩
    have prefixLength : (stream.take 4).length = 4 := by
      rw [List.length_take]
      omega
    refine ⟨?_, by omega, by omega⟩
    have back := toBytesBig_fromBytesBig (stream.take 4)
    rw [prefixLength] at back
    rw [frame, exact, back, List.take_append_drop]
  · rintro ⟨rfl, positive, bounded⟩
    have fits : body.length < 256 ^ 4 := by omega
    have isPrefix : (frame body).take 4 = toBytesBig 4 body.length :=
      List.take_left' (length_toBytesBig 4 _)
    have rest : (frame body).drop 4 = body := List.drop_left' (length_toBytesBig 4 _)
    rw [isPrefix, rest, fromBytesBig_toBytesBig fits, frame, List.length_append, length_toBytesBig]
    exact ⟨by omega, ⟨by omega, bounded⟩, rfl, rfl⟩

/-! ## Plain texts -/

/-- Printable ASCII, which is written alike with and without `ensure_ascii`. -/
def IsPlainText (s : Str) : Prop := ∀ c ∈ s, 32 ≤ c ∧ c ≤ 126

theorem quote_eq_quoteRaw {s : Str} (h : IsPlainText s) : quote s = quoteRaw s := by
  have each {c : Nat} (hc : 32 ≤ c ∧ c ≤ 126) : escapeChar c = escapeRaw c := by
    unfold escapeChar escapeRaw
    repeat' split
    all_goals first
      | rfl
      | omega
  have body : s.flatMap escapeChar = s.flatMap escapeRaw := by
    induction s with
    | nil => rfl
    | cons c s ih =>
      rw [List.flatMap_cons, List.flatMap_cons, each (h c List.mem_cons_self),
        ih fun d hd => h d (List.mem_cons_of_mem _ hd)]
  rw [quote, quoteRaw, body]

theorem isPlainText_of_lowerHex {s : Str} (h : ∀ c ∈ s, isLowerHex c = true) : IsPlainText s := by
  intro c hc
  have hexDigit := h c hc
  simp only [isLowerHex, Bool.or_eq_true, Bool.and_eq_true, decide_eq_true_eq] at hexDigit
  omega

theorem isAscii_of_plain {s : Str} (h : IsPlainText s) : IsAscii s := fun c hc => by
  have := h c hc
  omega

/-- Of a document whose values are written alike with and without `ensure_ascii`, so is the text. -/
theorem compact_document {fields : List (String × Json)}
    (keys : ∀ f ∈ fields, IsPlainText (str f.1))
    (values : ∀ f ∈ fields, f.2.compact quote = f.2.compact quoteRaw) :
    (document fields).compact quote = (document fields).compact quoteRaw := by
  have same : Json.compact.compactFields quote (fields.map fun f => (str f.1, f.2)) =
      Json.compact.compactFields quoteRaw (fields.map fun f => (str f.1, f.2)) := by
    induction fields with
    | nil => rfl
    | cons f fields ih =>
      have rest := ih (fun g hg => keys g (List.mem_cons_of_mem _ hg))
        fun g hg => values g (List.mem_cons_of_mem _ hg)
      rw [List.map_cons, Json.compact.compactFields, Json.compact.compactFields, rest,
        quote_eq_quoteRaw (keys f List.mem_cons_self), values f List.mem_cons_self]
  rw [document, Json.compact, Json.compact, same]

theorem compact_array {items : List Json}
    (values : ∀ item ∈ items, item.compact quote = item.compact quoteRaw) :
    (Json.array items).compact quote = (Json.array items).compact quoteRaw := by
  have same : Json.compact.compactItems quote items = Json.compact.compactItems quoteRaw items := by
    induction items with
    | nil => rfl
    | cons item items ih =>
      rw [Json.compact.compactItems, Json.compact.compactItems, values item List.mem_cons_self,
        ih fun other hother => values other (List.mem_cons_of_mem _ hother)]
  rw [Json.compact, Json.compact, same]

/-- A value without nested values whose text, if it is one, is plain. -/
inductive IsPlainValue : Json → Prop
  | int (i : Int) : IsPlainValue (.int i)
  | string {s : Str} (plain : IsPlainText s) : IsPlainValue (.string s)

theorem IsPlainValue.compact_eq {value : Json} (h : IsPlainValue value) :
    value.compact quote = value.compact quoteRaw := by
  cases h with
  | int i => rfl
  | string plain => exact quote_eq_quoteRaw plain

theorem IsPlainValue.text_eq {value : Json} (h : IsPlainValue value) :
    value.text = value.compact quoteRaw := by
  cases h with
  | int i => rfl
  | string plain => exact quote_eq_quoteRaw plain

/-- On a document of plain values `ensure_ascii` makes no difference. -/
theorem dumpsOrdered_document {fields : List (String × Json)}
    (keys : ∀ f ∈ fields, IsPlainText (str f.1)) (values : ∀ f ∈ fields, IsPlainValue f.2) :
    dumpsOrdered (document fields) = dump fields :=
  congrArg encodeAscii (compact_document keys fun f hf => (values f hf).compact_eq)

/-- With its keys in order, `sort_keys` makes no difference either. -/
theorem dumps_document {fields : List (String × Json)}
    (sorted : (fields.map fun f => str f.1).Pairwise (· ≤ ·))
    (keys : ∀ f ∈ fields, IsPlainText (str f.1)) (values : ∀ f ∈ fields, IsPlainValue f.2) :
    (document fields).dumps = dump fields := by
  have texts : Json.text.fieldTexts (fields.map fun f => (str f.1, f.2)) =
      fields.map fun f => (str f.1, f.2.compact quoteRaw) := by
    clear sorted keys
    induction fields with
    | nil => rfl
    | cons f fields ih =>
      rw [List.map_cons, Json.text.fieldTexts, ih fun g hg => values g (List.mem_cons_of_mem _ hg),
        List.map_cons, (values f List.mem_cons_self).text_eq]
  have inOrder : sortFields (fields.map fun f => (str f.1, f.2.compact quoteRaw)) =
      fields.map fun f => (str f.1, f.2.compact quoteRaw) :=
    List.Pairwise.insertionSort_eq (by
      rw [List.pairwise_map] at sorted ⊢
      exact sorted)
  have members : (fields.map fun f => (str f.1, f.2.compact quoteRaw)).map
      (fun f => quote f.1 ++ [58] ++ f.2) =
        Json.compact.compactFields quoteRaw (fields.map fun f => (str f.1, f.2)) := by
    rw [compactFields_eq_map, List.map_map, List.map_map]
    exact List.map_congr_left fun f hf => by
      rw [Function.comp_apply, Function.comp_apply, quote_eq_quoteRaw (keys f hf)]
  rw [Json.dumps, dump, document, Json.text, Json.compact, texts, inOrder, members]

/-! ## Nesting -/

/-- How deep arrays and objects nest. -/
def Json.nesting : Json → Nat
  | .array items => nestingItems items + 1
  | .object fields => nestingFields fields + 1
  | _ => 0
where
  nestingItems : List Json → Nat
    | [] => 0
    | item :: items => max item.nesting (nestingItems items)
  nestingFields : List (Str × Json) → Nat
    | [] => 0
    | (_, value) :: fields => max value.nesting (nestingFields fields)

theorem nesting_array {items : List Json} {n : Nat} (h : ∀ item ∈ items, item.nesting ≤ n) :
    (Json.array items).nesting ≤ n + 1 := by
  have inside : Json.nesting.nestingItems items ≤ n := by
    induction items with
    | nil => exact Nat.zero_le n
    | cons item items ih =>
      rw [List.forall_mem_cons] at h
      exact max_le h.1 (ih h.2)
  exact Nat.succ_le_succ inside

theorem nesting_document {fields : List (String × Json)} {n : Nat}
    (h : ∀ f ∈ fields, f.2.nesting ≤ n) : (document fields).nesting ≤ n + 1 := by
  have inside : Json.nesting.nestingFields (fields.map fun f => (str f.1, f.2)) ≤ n := by
    induction fields with
    | nil => exact Nat.zero_le n
    | cons f fields ih =>
      rw [List.forall_mem_cons] at h
      exact max_le h.1 (ih h.2)
  exact Nat.succ_le_succ inside

end Prometheus.Codec
