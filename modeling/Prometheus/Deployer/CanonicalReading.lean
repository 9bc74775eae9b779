import Prometheus.Deployer.CanonicalJson
import Prometheus.Codec.Document

/-!
# Canonical JSON says what it was written for

`canonical_json` writes the compact text of a JSON value whose keys are in order. That text is read
back as this value, so two values are written alike only if they are the same up to the order of
their fields.
-/

namespace Prometheus.Deployer

open Prometheus.Codec

/-- The characters of a byte string of Rust. -/
def toStr (s : Bytes) : Str := s.map UInt8.toNat

theorem toStr_inj {s t : Bytes} : toStr s = toStr t ↔ s = t :=
  (List.map_injective_iff.mpr fun _ _ => UInt8.toNat_inj.mp).eq_iff

mutual

/-- The value with its keys in order. -/
def sortedJson : Value → Json
  | .null => .null
  | .bool b => .bool b
  | .number n => .int n.val
  | .string s => .string (toStr s)
  | .array values => .array (sortedItems values)
  | .object fields => .object ((sortKeys (sortedFields fields)).map fun f => (toStr f.1, f.2))

def sortedItems : List Value → List Json
  | [] => []
  | value :: values => sortedJson value :: sortedItems values

def sortedFields : List (Bytes × Value) → List (Bytes × Json)
  | [] => []
  | (key, value) :: fields => (key, sortedJson value) :: sortedFields fields

end

/-! ## What is written -/

theorem toStr_append (s t : Bytes) : toStr (s ++ t) = toStr s ++ toStr t := List.map_append

theorem toStr_encodeAscii_decimalInt (i : Int) : toStr (encodeAscii (decimalInt i)) = decimalInt i :=
  map_toNat_encodeAscii fun c hc => by
    have := decimalInt_below i c hc
    omega

theorem toStr_serdeString (s : Bytes) : toStr (serdeString s) = quoteRaw (toStr s) := by
  have each : ∀ n < 256, toStr (serdeByte (UInt8.ofNat n)) = escapeRaw n := by decide +kernel
  have body : toStr (s.flatMap serdeByte) = (toStr s).flatMap escapeRaw := by
    induction s with
    | nil => rfl
    | cons b s ih =>
      have first : toStr (serdeByte b) = escapeRaw b.toNat := by
        simpa using each b.toNat b.toNat_lt
      rw [List.flatMap_cons, toStr_append, first, ih]
      rfl
  rw [serdeString, toStr_append, toStr_append, body]
  rfl

theorem toStr_intercalate (items : List Bytes) :
    toStr (List.intercalate [44] items) = List.intercalate [44] (items.map toStr) := by
  induction items with
  | nil => rfl
  | cons item items ih =>
    cases items with
    | nil => simp [List.intercalate]
    | cons next items =>
      have apart : List.intercalate [(44 : UInt8)] (item :: next :: items) =
          item ++ ([44] ++ List.intercalate [44] (next :: items)) := by
        simp [List.intercalate]
      rw [apart, toStr_append, toStr_append, ih]
      simp only [List.map_cons, intercalate_cons_cons]
      rfl

/-- Sorting by the keys leaves the values alone. -/
theorem sortKeys_map {α β : Type} (g : α → β) (fields : List (Bytes × α)) :
    sortKeys (fields.map fun f => (f.1, g f.2)) = (sortKeys fields).map fun f => (f.1, g f.2) :=
  (List.map_insertionSort (fun a b : Bytes × α => a.1 ≤ b.1) (fun a b : Bytes × β => a.1 ≤ b.1)
    (fun f : Bytes × α => (f.1, g f.2)) fields fun _ _ _ _ => Iff.rfl).symm

mutual

/-- `canonical_json` writes the compact text of the sorted value. -/
theorem toStr_canonicalJson : ∀ value : Value,
    toStr (canonicalJson value) = (sortedJson value).compact quoteRaw
  | .null => by decide
  | .bool true => by decide
  | .bool false => by decide
  | .number n => toStr_encodeAscii_decimalInt n.val
  | .string s => toStr_serdeString s
  | .array values => by
    rw [canonicalJson, toStr_append, toStr_append, toStr_intercalate, toStr_writeValues, sortedJson,
      Json.compact]
    rfl
  | .object fields => by
    have texts : ((sortKeys (canonicalJson.writeFields fields)).map fun f =>
        serdeString f.1 ++ [58] ++ f.2).map toStr =
          Json.compact.compactFields quoteRaw
            ((sortKeys (sortedFields fields)).map fun f => (toStr f.1, f.2)) := by
      have written : (canonicalJson.writeFields fields).map (fun f => (f.1, toStr f.2)) =
          (sortedFields fields).map fun f => (f.1, f.2.compact quoteRaw) := toStr_writeFields fields
      have sorted := congrArg sortKeys written
      rw [sortKeys_map, sortKeys_map] at sorted
      rw [compactFields_eq_map, List.map_map, List.map_map]
      have members := congrArg
        (List.map fun f : Bytes × Str => quoteRaw (toStr f.1) ++ [58] ++ f.2) sorted
      rw [List.map_map, List.map_map] at members
      refine Eq.trans (List.map_congr_left fun f _ => ?_) members
      simp only [Function.comp_apply, toStr_append, toStr_serdeString]
      rfl
    rw [canonicalJson, toStr_append, toStr_append, toStr_intercalate, texts, sortedJson,
      Json.compact]
    rfl

theorem toStr_writeValues : ∀ values : List Value,
    (canonicalJson.writeValues values).map toStr =
      Json.compact.compactItems quoteRaw (sortedItems values)
  | [] => rfl
  | value :: values => by
    rw [canonicalJson.writeValues, List.map_cons, toStr_canonicalJson value,
      toStr_writeValues values, sortedItems, Json.compact.compactItems]

theorem toStr_writeFields : ∀ fields : List (Bytes × Value),
    (canonicalJson.writeFields fields).map (fun f => (f.1, toStr f.2)) =
      (sortedFields fields).map fun f => (f.1, f.2.compact quoteRaw)
  | [] => rfl
  | (key, value) :: fields => by
    rw [canonicalJson.writeFields, List.map_cons, toStr_canonicalJson value,
      toStr_writeFields fields, sortedFields, List.map_cons]

end

/-! ## What is read back -/

theorem fieldsExact_iff {fields : List (Str × Json)} :
    FieldsExact fields ↔ ∀ f ∈ fields, f.2.Exact := by
  induction fields with
  | nil => exact ⟨fun _ => nofun, fun _ => trivial⟩
  | cons f fields ih => rw [List.forall_mem_cons, ← ih]; rfl

mutual

theorem exact_sortedJson : ∀ value : Value, (sortedJson value).Exact
  | .null => trivial
  | .bool _ => trivial
  | .number n => by
    have lower := n.lower
    have upper := n.upper
    exact decimal_short (show n.val.natAbs < 10 ^ 20 by omega) (by decide) (by decide)
  | .string _ => trivial
  | .array values => allExact_sortedItems values
  | .object fields => by
    refine fieldsExact_iff.mpr fun f isField => ?_
    obtain ⟨g, isSorted, rfl⟩ := List.mem_map.mp isField
    exact exact_sortedFields fields g ((List.mem_insertionSort _).mp isSorted)

theorem allExact_sortedItems : ∀ values : List Value, AllExact (sortedItems values)
  | [] => trivial
  | value :: values => ⟨exact_sortedJson value, allExact_sortedItems values⟩

theorem exact_sortedFields : ∀ (fields : List (Bytes × Value)),
    ∀ f ∈ sortedFields fields, f.2.Exact
  | [], f, isField => nomatch isField
  | (_, value) :: fields, f, isField => by
    rcases List.mem_cons.mp isField with rfl | isField
    · exact exact_sortedJson value
    · exact exact_sortedFields fields f isField

end

/-- Values that are written alike are the same up to the order of their fields. -/
theorem canonicalJson_inj {v w : Value} (same : canonicalJson v = canonicalJson w) :
    sortedJson v = sortedJson w := by
  have texts : (sortedJson v).compact quoteRaw = (sortedJson w).compact quoteRaw := by
    rw [← toStr_canonicalJson, ← toStr_canonicalJson, same]
  have read := Json.loads_compact id (exact_sortedJson v)
  rw [texts, Json.loads_compact id (exact_sortedJson w)] at read
  exact (Except.ok.inj read).symm

/-! ## Objects with the same keys -/

theorem keys_sortedFields (fields : List (Bytes × Value)) :
    (sortedFields fields).map Prod.fst = fields.map Prod.fst := by
  induction fields with
  | nil => rfl
  | cons f fields ih => rw [sortedFields, List.map_cons, List.map_cons, ih]

/-- A permutation that keeps distinct keys in place keeps everything. -/
theorem eq_of_perm_of_keys {α : Type} {fields fields' : List (Bytes × α)}
    (perm : fields.Perm fields') (keys : fields.map Prod.fst = fields'.map Prod.fst)
    (distinct : (fields.map Prod.fst).Nodup) : fields = fields' := by
  induction fields generalizing fields' with
  | nil => exact perm.nil_eq
  | cons f fields ih =>
    cases fields' with
    | nil => cases keys
    | cons f' fields' =>
      obtain ⟨-, others⟩ := List.cons.inj keys
      rw [List.map_cons, List.nodup_cons] at distinct
      have first : f = f' := by
        rcases List.mem_cons.mp (perm.mem_iff.mp List.mem_cons_self) with same | later
        · exact same
        · exact absurd (others ▸ List.mem_map_of_mem later) distinct.1
      subst first
      rw [ih (List.perm_cons f |>.mp perm) others distinct.2]

/-- Objects with the same distinct keys that are written alike have the same fields. -/
theorem sortedFields_eq {fields fields' : List (Bytes × Value)}
    (same : canonicalJson (.object fields) = canonicalJson (.object fields'))
    (keys : fields.map Prod.fst = fields'.map Prod.fst)
    (distinct : (fields.map Prod.fst).Nodup) : sortedFields fields = sortedFields fields' := by
  have sorted := canonicalJson_inj same
  rw [sortedJson, sortedJson] at sorted
  have injective : Function.Injective fun f : Bytes × Json => (toStr f.1, f.2) := by
    intro f g h
    obtain ⟨isKey, isValue⟩ := Prod.mk.inj h
    exact Prod.ext (toStr_inj.mp isKey) isValue
  have inOrder := List.map_injective_iff.mpr injective (Json.object.inj sorted)
  have perm : (sortedFields fields).Perm (sortedFields fields') := by
    have before : (sortKeys (sortedFields fields)).Perm (sortedFields fields) :=
      List.perm_insertionSort _ _
    have after : (sortKeys (sortedFields fields')).Perm (sortedFields fields') :=
      List.perm_insertionSort _ _
    exact before.symm.trans (inOrder ▸ after)
  refine eq_of_perm_of_keys perm ?_ ?_
  · rw [keys_sortedFields, keys_sortedFields, keys]
  · rwa [keys_sortedFields]

/-- The fields of an object whose keys are in order already. -/
theorem sortedJson_inOrder {fields : List (Bytes × Value)}
    (inOrder : (fields.map Prod.fst).Pairwise (· < ·)) :
    sortedJson (.object fields) =
      .object ((sortedFields fields).map fun f => (toStr f.1, f.2)) := by
  have sorted : sortKeys (sortedFields fields) = sortedFields fields := by
    refine List.Pairwise.insertionSort_eq (List.pairwise_map.mp ?_)
    rw [keys_sortedFields]
    exact inOrder.imp List.le_of_lt
  rw [sortedJson, sorted]

end Prometheus.Deployer
