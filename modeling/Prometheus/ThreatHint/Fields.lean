import Prometheus.Codec.Document
import Prometheus.ThreatHint.NetworkId

/-!
# The fields of a canonical document

What the parsers of the two languages do with one field is the same code in every module: the fixed
hex fields, the integers up to `U64_MAX`, the exact texts and the framing of a digest.
-/

namespace Prometheus.ThreatHint

open Prometheus.Codec

/-- 64 lower-case hex digits. -/
def isHash (s : Str) : Bool := decide (s.length = 64) && s.all isLowerHex

/-- The frame of a digest: a domain, the length of the canonical bytes in four bytes and the bytes
themselves. -/
def digestFrame (domain canonical : Bytes) : Bytes :=
  domain ++ toBytesBig 4 canonical.length ++ canonical

/-- Names that a reader tells apart and that are printed as they are. -/
structure Plain (names : List String) : Prop where
  distinct : (names.map str).Nodup
  ascii : ∀ name ∈ names, IsAscii (str name)

instance (names : List String) : Decidable (Plain names) :=
  decidable_of_iff ((names.map str).Nodup ∧ ∀ name ∈ names, ∀ c ∈ str name, c < 128)
    ⟨fun h => ⟨h.1, h.2⟩, fun h => ⟨h.distinct, h.ascii⟩⟩

theorem Plain.nodup {α : Type} (value : α → String) {values : List α}
    (h : Plain (values.map value)) : (values.map fun v => str (value v)).Nodup := by
  have distinct := h.distinct
  rw [List.map_map] at distinct
  exact distinct

theorem Plain.isAscii {α : Type} {value : α → String} {values : List α}
    (h : Plain (values.map value)) {v : α} (hv : v ∈ values) : IsAscii (str (value v)) :=
  h.ascii _ (List.mem_map_of_mem hv)

namespace Rust

/-- `is_fixed_lower_hex`. -/
def isFixedLowerHex (value : Bytes) : Bool :=
  decide (value.length = 64) && value.all fun b => isLowerHex b.toNat

end Rust

namespace Python

/-- `_reject_duplicate_keys` on the document, which must be an object. -/
def readObject (floatRepr : Str → Str) (wire : Bytes) : Option (List (Str × Json)) :=
  match loadsUtf8 floatRepr wire with
  | some (.object fields) => if (Json.object fields).uniqueKeys then some fields else none
  | _ => none

/-- `_exact_int`. -/
def exactInt (value : Option Json) : Option Int :=
  (value.bind Json.asInt).filter fun n => decide (0 ≤ n) && decide (n ≤ u64Max)

/-- `_fixed_lower_hex`. -/
def fixedLowerHex (value : Option Json) : Option Str :=
  (value.bind Json.asString).filter isHash

/-- `_exact_string` and `_exact_identifier`. -/
def exactString (value : Option Json) (expected : Str) : Option Str :=
  (value.bind Json.asString).filter fun s => s = expected

/-- `_validate_network_id` of a value. -/
def networkIdField (value : Option Json) : Option Str :=
  (value.bind Json.asString).filter matchesNetworkId

/-- `Enum(value)` of a `str` enumeration with these members. -/
def enumValue {α : Type} (text : α → String) (members : List α) (value : Option Json) : Option α :=
  (value.bind Json.asString).bind fun s => members.find? fun m => str (text m) = s

end Python

/-! ## Reading the fields -/

namespace Python

theorem asInt_some {value : Option Json} {n : Int} :
    value.bind Json.asInt = some n ↔ value = some (.int n) := by
  constructor
  · intro h
    obtain ⟨json, rfl, isInt⟩ := Option.bind_eq_some_iff.mp h
    cases json <;> simp_all [Json.asInt]
  · rintro rfl
    rfl

theorem exactInt_some {value : Option Json} {n : Int} :
    exactInt value = some n ↔ value = some (.int n) ∧ IsU64 n := by
  rw [exactInt, Option.filter_eq_some_iff, asInt_some, Bool.and_eq_true, decide_eq_true_eq,
    decide_eq_true_eq]
  exact Iff.rfl

theorem asString_some {value : Option Json} {s : Str} :
    value.bind Json.asString = some s ↔ value = some (.string s) := by
  constructor
  · intro h
    obtain ⟨json, rfl, isString⟩ := Option.bind_eq_some_iff.mp h
    cases json <;> simp_all [Json.asString]
  · rintro rfl
    rfl

theorem fixedLowerHex_some {value : Option Json} {s : Str} :
    fixedLowerHex value = some s ↔ value = some (.string s) ∧ isHash s = true := by
  rw [fixedLowerHex, Option.filter_eq_some_iff, asString_some]

theorem exactString_some {value : Option Json} {expected s : Str} :
    exactString value expected = some s ↔ value = some (.string s) ∧ s = expected := by
  rw [exactString, Option.filter_eq_some_iff, asString_some, decide_eq_true_eq]

theorem networkIdField_some {value : Option Json} {s : Str} :
    networkIdField value = some s ↔ value = some (.string s) ∧ IsNetworkId s := by
  rw [networkIdField, Option.filter_eq_some_iff, asString_some, matchesNetworkId_iff]

/-- A member of an enumeration is found under its text. -/
theorem enumValue_text {α : Type} {text : α → String} {members : List α}
    (unique : (members.map fun m => str (text m)).Nodup) {m : α} (h : m ∈ members) :
    enumValue text members (some (.string (str (text m)))) = some m := by
  rw [enumValue, asString_some.mpr rfl, Option.bind_some]
  induction members with
  | nil => cases h
  | cons n members ih =>
    rw [List.map_cons, List.nodup_cons] at unique
    rw [List.find?_cons]
    rcases List.mem_cons.mp h with rfl | h
    · simp
    · have differs : str (text n) ≠ str (text m) := by
        intro same
        exact unique.1 (List.mem_map.mpr ⟨m, h, same.symm⟩)
      rw [decide_eq_false differs]
      exact ih unique.2 h

section

variable {fields : List (String × Json)} (unique : ((fields.map Prod.fst).map str).Nodup)
  (key : String)

include unique

theorem exactInt_document {i : Int} (h : (key, Json.int i) ∈ fields) (small : IsU64 i) :
    exactInt (Json.field (fields.map fun f => (str f.1, f.2)) (str key)) = some i :=
  exactInt_some.mpr ⟨field_document unique h, small⟩

theorem fixedLowerHex_document {s : Str} (h : (key, Json.string s) ∈ fields)
    (isHex : isHash s = true) :
    fixedLowerHex (Json.field (fields.map fun f => (str f.1, f.2)) (str key)) = some s :=
  fixedLowerHex_some.mpr ⟨field_document unique h, isHex⟩

theorem exactString_document {s : Str} (h : (key, Json.string s) ∈ fields) :
    exactString (Json.field (fields.map fun f => (str f.1, f.2)) (str key)) s = some s :=
  exactString_some.mpr ⟨field_document unique h, rfl⟩

theorem networkIdField_document {s : Str} (h : (key, Json.string s) ∈ fields)
    (isNetwork : IsNetworkId s) :
    networkIdField (Json.field (fields.map fun f => (str f.1, f.2)) (str key)) = some s :=
  networkIdField_some.mpr ⟨field_document unique h, isNetwork⟩

theorem enumValue_document {α : Type} {text : α → String} {members : List α}
    (distinct : (members.map fun m => str (text m)).Nodup) {m : α} (isMember : m ∈ members)
    (h : (key, Json.string (str (text m))) ∈ fields) :
    enumValue text members (Json.field (fields.map fun f => (str f.1, f.2)) (str key)) =
      some m := by
  rw [field_document unique h]
  exact enumValue_text distinct isMember

end

end Python

theorem readObject_document (floatRepr : Str → Str) {fields : List (String × Json)}
    (h : Readable (document fields)) :
    Python.readObject floatRepr (dump fields) = some (fields.map fun f => (str f.1, f.2)) := by
  rw [Python.readObject, dump, loadsUtf8_compact floatRepr h.exact h.ascii]
  exact if_pos h.unique

theorem length_hash {s : Str} (h : isHash s = true) :
    ((Json.string s).compact quoteRaw).length = 66 := by
  rw [isHash, Bool.and_eq_true, decide_eq_true_eq, List.all_eq_true] at h
  rw [Json.compact, length_quoteRaw, h.1]
  intro c hc
  have hexDigit := h.2 c hc
  simp only [isLowerHex, Bool.or_eq_true, Bool.and_eq_true, decide_eq_true_eq] at hexDigit
  omega

theorem isHash_hex {digest : Bytes} (h : digest.length = 32) : isHash (hex digest) = true := by
  rw [isHash, Bool.and_eq_true, decide_eq_true_eq, length_hex, h, List.all_eq_true]
  exact ⟨rfl, fun c hc => isLowerHex_of_mem_hex hc⟩

theorem length_networkId_le {s : Str} (h : IsNetworkId s) :
    ((Json.string s).compact quoteRaw).length ≤ 66 := by
  have long := h.length.2
  rw [maxNetworkLen] at long
  rw [Json.compact, length_quoteRaw]
  · omega
  intro c hc
  have isChar := h.chars c hc
  simp only [isNetworkChar, isAlnum, Bool.or_eq_true, Bool.and_eq_true, decide_eq_true_eq,
    beq_iff_eq] at isChar
  omega

/-! ## The two languages -/

theorem isFixedLowerHex_eq (value : Bytes) :
    Rust.isFixedLowerHex value = isHash (value.map UInt8.toNat) := by
  rw [Rust.isFixedLowerHex, isHash, toNat_all isLowerHex, List.length_map]

theorem isAscii_of_isHash {s : Str} (h : isHash s = true) : IsAscii s := by
  rw [isHash, Bool.and_eq_true, List.all_eq_true] at h
  intro c hc
  have := h.2 c hc
  simp only [isLowerHex, Bool.or_eq_true, Bool.and_eq_true, decide_eq_true_eq] at this
  omega

theorem toNat_eq_16 {a b : UInt16} : a = b ↔ (a.toNat : Int) = b.toNat := by
  rw [← UInt16.toNat_inj, Int.ofNat_inj]

theorem toNat_eq_64 {a b : UInt64} : a = b ↔ (a.toNat : Int) = b.toNat := by
  rw [← UInt64.toNat_inj, Int.ofNat_inj]

theorem toNat_ofNat_16 {i : Int} (positive : 0 ≤ i) (small : i < 2 ^ 16) :
    ((UInt16.ofNat i.toNat).toNat : Int) = i := by
  rw [UInt16.toNat_ofNat_of_lt' (by show _ < 2 ^ 16; omega)]
  omega

theorem toNat_ofNat_64 {i : Int} (h : IsU64 i) : ((UInt64.ofNat i.toNat).toNat : Int) = i := by
  obtain ⟨positive, small⟩ := h
  rw [u64Max] at small
  rw [UInt64.toNat_ofNat_of_lt' (by show _ < 2 ^ 64; omega)]
  omega

theorem encodeUtf8_toNat {bytes : Bytes} (h : IsAscii (bytes.map UInt8.toNat)) :
    encodeUtf8 (bytes.map UInt8.toNat) = some bytes := by
  rw [encodeUtf8_of_ascii h, encodeAscii_toNat]

/-- A text that both languages hold: where either side is ASCII, its bytes are its characters. -/
theorem toNat_encodeUtf8 {s : Str} {bytes : Bytes} (h : encodeUtf8 s = some bytes)
    (isAscii : IsAscii (bytes.map UInt8.toNat) ∨ IsAscii s) : bytes.map UInt8.toNat = s := by
  rcases isAscii with isAscii | isAscii
  · obtain ⟨ascii, rfl⟩ := ascii_of_encodeUtf8 h fun b hb =>
      isAscii _ (List.mem_map_of_mem hb)
    exact map_toNat_encodeAscii ascii.small
  · rw [encodeUtf8_of_ascii isAscii] at h
    obtain rfl := Option.some.inj h
    exact map_toNat_encodeAscii isAscii.small

/-- Two byte strings of one network. -/
theorem eq_encodeUtf8 {network : Str} {bytes value : Bytes} (h : encodeUtf8 network = some bytes)
    (isNetwork : IsNetworkId (value.map UInt8.toNat)) (same : value.map UInt8.toNat = network) :
    value = bytes := by
  rw [← same, encodeUtf8_toNat isNetwork.isAscii] at h
  exact Option.some.inj h

end Prometheus.ThreatHint
