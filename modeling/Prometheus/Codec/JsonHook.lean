import Prometheus.Codec.JsonRoundTrip

/-!
# JSON read with a hook against duplicate keys

`json.loads(text, object_pairs_hook=…)` with a hook that raises for a repeated key. The hook is
called at the end of each object, so that its error and an error of the scanner come in the order of
the text.
-/

namespace Prometheus.Codec

/-- What `json.loads` raises: an error of its own, or the one of the hook. -/
inductive HookedError
  | load (error : LoadError)
  | duplicate
  deriving DecidableEq, Repr

mutual

/-- `scan_once` with the hook. -/
def scanValueHooked (floatRepr : Str → Str) : Nat → Str → Except HookedError (Json × Str)
  | 0, _ => .error (.load .decodeError)
  | fuel + 1, text =>
    match text with
    | 34 :: rest =>
      match scanString rest with
      | some (s, rest) => .ok (.string s, rest)
      | none => .error (.load .decodeError)
    | 91 :: rest =>
      match skipSpace rest with
      | 93 :: rest => .ok (.array [], rest)
      | rest =>
        match scanItemsHooked floatRepr fuel rest with
        | .ok (items, rest) => .ok (.array items, rest)
        | .error e => .error e
    | 123 :: rest =>
      match skipSpace rest with
      | 125 :: rest => .ok (.object [], rest)
      | rest =>
        match scanFieldsHooked floatRepr fuel rest with
        | .ok (fields, rest) =>
          if (fields.map Prod.fst).Nodup then .ok (.object fields, rest) else .error .duplicate
        | .error e => .error e
    | _ => (scanAtom floatRepr text).mapError .load

/-- `JSONArray` at an item. -/
def scanItemsHooked (floatRepr : Str → Str) : Nat → Str → Except HookedError (List Json × Str)
  | 0, _ => .error (.load .decodeError)
  | fuel + 1, text =>
    match scanValueHooked floatRepr fuel text with
    | .error e => .error e
    | .ok (item, rest) =>
      match skipSpace rest with
      | 93 :: rest => .ok ([item], rest)
      | 44 :: rest =>
        match scanItemsHooked floatRepr fuel (skipSpace rest) with
        | .ok (items, rest) => .ok (item :: items, rest)
        | .error e => .error e
      | _ => .error (.load .decodeError)

/-- `JSONObject` at a key. -/
def scanFieldsHooked (floatRepr : Str → Str) :
    Nat → Str → Except HookedError (List (Str × Json) × Str)
  | 0, _ => .error (.load .decodeError)
  | fuel + 1, text =>
    match text with
    | 34 :: rest =>
      match scanString rest with
      | none => .error (.load .decodeError)
      | some (key, rest) =>
        match skipSpace rest with
        | 58 :: rest =>
          match scanValueHooked floatRepr fuel (skipSpace rest) with
          | .error e => .error e
          | .ok (value, rest) =>
            match skipSpace rest with
            | 125 :: rest => .ok ([(key, value)], rest)
            | 44 :: rest =>
              match scanFieldsHooked floatRepr fuel (skipSpace rest) with
              | .ok (fields, rest) => .ok ((key, value) :: fields, rest)
              | .error e => .error e
            | _ => .error (.load .decodeError)
        | _ => .error (.load .decodeError)
    | _ => .error (.load .decodeError)

end

/-- `json.loads` on a text, with the hook and with a recursion limit that some texts exceed. -/
def Json.loadsHooked (tooDeep : Str → Bool) (floatRepr : Str → Str) (text : Str) :
    Except HookedError Json :=
  if tooDeep text then .error (.load .recursionError)
  else if text.head? = some 0xFEFF then .error (.load .decodeError)
  else
    match scanValueHooked floatRepr (text.length + 1) (skipSpace text) with
    | .error e => .error e
    | .ok (value, rest) =>
      if skipSpace rest = [] then .ok value else .error (.load .decodeError)

/-! ## The values that the hook lets pass -/

section

variable {floatRepr : Str → Str}

mutual

theorem scanValueHooked_of_unique : ∀ {fuel : Nat} {text rest : Str} {value : Json},
    scanValue floatRepr fuel text = .ok (value, rest) → value.uniqueKeys = true →
      scanValueHooked floatRepr fuel text = .ok (value, rest)
  | 0, _, _, _, read, _ => by
    rw [scanValue] at read
    cases read
  | fuel + 1, text, rest, value, read, unique => by
    unfold scanValue at read
    unfold scanValueHooked
    split at read
    · split at read
      · rename_i isString
        obtain ⟨rfl, rfl⟩ := Prod.mk.inj (Except.ok.inj read)
        simp only [isString]
      · cases read
    · split at read
      · rename_i closed
        obtain ⟨rfl, rfl⟩ := Prod.mk.inj (Except.ok.inj read)
        simp only [closed]
      · split at read
        · rename_i isItems
          obtain ⟨rfl, rfl⟩ := Prod.mk.inj (Except.ok.inj read)
          have hooked := scanItemsHooked_of_unique isItems unique
          simp only [hooked]
        · cases read
    · split at read
      · rename_i closed
        obtain ⟨rfl, rfl⟩ := Prod.mk.inj (Except.ok.inj read)
        simp only [closed]
      · split at read
        · rename_i isFields
          obtain ⟨rfl, rfl⟩ := Prod.mk.inj (Except.ok.inj read)
          rw [Json.uniqueKeys, Bool.and_eq_true, decide_eq_true_eq] at unique
          have hooked := scanFieldsHooked_of_unique isFields unique.2
          simp only [hooked, if_pos unique.1]
        · cases read
    · rename_i notString notArray notObject
      have atom : (scanAtom floatRepr text).mapError HookedError.load = .ok (value, rest) := by
        rw [read]
        rfl
      -- The two functions match alike, so the first split may have decided this one too.
      first
        | exact atom
        | split
          · exact absurd rfl (notString _)
          · exact absurd rfl (notArray _)
          · exact absurd rfl (notObject _)
          · exact atom

theorem scanItemsHooked_of_unique : ∀ {fuel : Nat} {text rest : Str} {items : List Json},
    scanItems floatRepr fuel text = .ok (items, rest) → Json.uniqueKeys.allUnique items = true →
      scanItemsHooked floatRepr fuel text = .ok (items, rest)
  | 0, _, _, _, read, _ => by
    rw [scanItems] at read
    cases read
  | fuel + 1, text, rest, items, read, unique => by
    unfold scanItems at read
    unfold scanItemsHooked
    split at read
    · cases read
    · rename_i isItem
      split at read
      · rename_i closed
        obtain ⟨rfl, rfl⟩ := Prod.mk.inj (Except.ok.inj read)
        rw [Json.uniqueKeys.allUnique, Bool.and_eq_true] at unique
        rw [scanValueHooked_of_unique isItem unique.1]
        simp only [closed]
      · rename_i more
        split at read
        · rename_i isItems
          obtain ⟨rfl, rfl⟩ := Prod.mk.inj (Except.ok.inj read)
          rw [Json.uniqueKeys.allUnique, Bool.and_eq_true] at unique
          rw [scanValueHooked_of_unique isItem unique.1]
          simp only [more, scanItemsHooked_of_unique isItems unique.2]
        · cases read
      · cases read

theorem scanFieldsHooked_of_unique : ∀ {fuel : Nat} {text rest : Str} {fields : List (Str × Json)},
    scanFields floatRepr fuel text = .ok (fields, rest) →
      Json.uniqueKeys.fieldsUnique fields = true →
        scanFieldsHooked floatRepr fuel text = .ok (fields, rest)
  | 0, _, _, _, read, _ => by
    rw [scanFields] at read
    cases read
  | fuel + 1, text, rest, fields, read, unique => by
    unfold scanFields at read
    unfold scanFieldsHooked
    split at read
    · split at read
      · cases read
      · rename_i isKey
        split at read
        · rename_i colon
          split at read
          · cases read
          · rename_i isValue
            split at read
            · rename_i closed
              obtain ⟨rfl, rfl⟩ := Prod.mk.inj (Except.ok.inj read)
              rw [Json.uniqueKeys.fieldsUnique, Bool.and_eq_true] at unique
              simp only [isKey, colon, scanValueHooked_of_unique isValue unique.1, closed]
            · rename_i more
              split at read
              · rename_i isFields
                obtain ⟨rfl, rfl⟩ := Prod.mk.inj (Except.ok.inj read)
                rw [Json.uniqueKeys.fieldsUnique, Bool.and_eq_true] at unique
                simp only [isKey, colon, scanValueHooked_of_unique isValue unique.1, more,
                  scanFieldsHooked_of_unique isFields unique.2]
              · cases read
            · cases read
        · cases read
    · cases read

end

/-- A text that is read without the hook as a value with unique keys is read with it. -/
theorem Json.loadsHooked_of_loads {tooDeep : Str → Bool} {text : Str} {value : Json}
    (shallow : tooDeep text = false) (read : Json.loads floatRepr text = .ok value)
    (unique : value.uniqueKeys = true) : Json.loadsHooked tooDeep floatRepr text = .ok value := by
  unfold Json.loads at read
  unfold Json.loadsHooked
  rw [if_neg (by rw [shallow]; exact Bool.false_ne_true)]
  split at read
  · cases read
  · rename_i noMark
    rw [if_neg noMark]
    split at read
    · cases read
    · rename_i isValue
      split at read
      · rename_i ended
        obtain rfl := Except.ok.inj read
        rw [scanValueHooked_of_unique isValue unique]
        exact if_pos ended
      · cases read

theorem unique_of_scanAtom {text : Str} {scanned : Json × Str}
    (read : scanAtom floatRepr text = .ok scanned) : scanned.1.uniqueKeys = true := by
  have unsigned {negative : Bool} {text : Str} {scanned : Json × Str}
      (read : scanUnsigned floatRepr negative text = .ok scanned) :
      scanned.1.uniqueKeys = true := by
    unfold scanUnsigned at read
    split at read
    · cases read
    · simp only [] at read
      split at read
      · obtain rfl := Except.ok.inj read
        rfl
      · split at read
        · cases read
        · obtain rfl := Except.ok.inj read
          rfl
  unfold scanAtom at read
  split at read
  · obtain rfl := Except.ok.inj read
    rfl
  split at read
  · obtain rfl := Except.ok.inj read
    rfl
  split at read
  · obtain rfl := Except.ok.inj read
    rfl
  split at read
  · obtain rfl := Except.ok.inj read
    rfl
  split at read
  · obtain rfl := Except.ok.inj read
    rfl
  split at read
  · obtain rfl := Except.ok.inj read
    rfl
  split at read
  · exact unsigned read
  · exact unsigned read

mutual

theorem unique_of_scanValueHooked : ∀ {fuel : Nat} {text rest : Str} {value : Json},
    scanValueHooked floatRepr fuel text = .ok (value, rest) → value.uniqueKeys = true
  | 0, _, _, _, read => by
    rw [scanValueHooked] at read
    cases read
  | fuel + 1, text, rest, value, read => by
    unfold scanValueHooked at read
    split at read
    · split at read
      · obtain ⟨rfl, rfl⟩ := Prod.mk.inj (Except.ok.inj read)
        rfl
      · cases read
    · split at read
      · obtain ⟨rfl, rfl⟩ := Prod.mk.inj (Except.ok.inj read)
        rfl
      · split at read
        · rename_i isItems
          obtain ⟨rfl, rfl⟩ := Prod.mk.inj (Except.ok.inj read)
          exact unique_of_scanItemsHooked isItems
        · cases read
    · split at read
      · obtain ⟨rfl, rfl⟩ := Prod.mk.inj (Except.ok.inj read)
        rfl
      · split at read
        · rename_i isFields
          split at read
          · rename_i distinct
            obtain ⟨rfl, rfl⟩ := Prod.mk.inj (Except.ok.inj read)
            rw [Json.uniqueKeys, Bool.and_eq_true, decide_eq_true_eq]
            exact ⟨distinct, unique_of_scanFieldsHooked isFields⟩
          · cases read
        · cases read
    · cases isAtom : scanAtom floatRepr text with
      | error e =>
        rw [isAtom] at read
        cases read
      | ok scanned =>
        rw [isAtom] at read
        obtain rfl := Except.ok.inj read
        exact unique_of_scanAtom isAtom

theorem unique_of_scanItemsHooked : ∀ {fuel : Nat} {text rest : Str} {items : List Json},
    scanItemsHooked floatRepr fuel text = .ok (items, rest) →
      Json.uniqueKeys.allUnique items = true
  | 0, _, _, _, read => by
    rw [scanItemsHooked] at read
    cases read
  | fuel + 1, text, rest, items, read => by
    unfold scanItemsHooked at read
    split at read
    · cases read
    · rename_i isItem
      have first := unique_of_scanValueHooked isItem
      split at read
      · obtain ⟨rfl, rfl⟩ := Prod.mk.inj (Except.ok.inj read)
        rw [Json.uniqueKeys.allUnique, first, Json.uniqueKeys.allUnique]
        rfl
      · split at read
        · rename_i isItems
          obtain ⟨rfl, rfl⟩ := Prod.mk.inj (Except.ok.inj read)
          rw [Json.uniqueKeys.allUnique, first, unique_of_scanItemsHooked isItems]
          rfl
        · cases read
      · cases read

theorem unique_of_scanFieldsHooked : ∀ {fuel : Nat} {text rest : Str} {fields : List (Str × Json)},
    scanFieldsHooked floatRepr fuel text = .ok (fields, rest) →
      Json.uniqueKeys.fieldsUnique fields = true
  | 0, _, _, _, read => by
    rw [scanFieldsHooked] at read
    cases read
  | fuel + 1, text, rest, fields, read => by
    unfold scanFieldsHooked at read
    split at read
    · split at read
      · cases read
      · split at read
        · split at read
          · cases read
          · rename_i isValue
            have first := unique_of_scanValueHooked isValue
            split at read
            · obtain ⟨rfl, rfl⟩ := Prod.mk.inj (Except.ok.inj read)
              rw [Json.uniqueKeys.fieldsUnique, first, Json.uniqueKeys.fieldsUnique]
              rfl
            · split at read
              · rename_i isFields
                obtain ⟨rfl, rfl⟩ := Prod.mk.inj (Except.ok.inj read)
                rw [Json.uniqueKeys.fieldsUnique, first, unique_of_scanFieldsHooked isFields]
                rfl
              · cases read
            · cases read
        · cases read
    · cases read

end

/-- What is read with the hook has unique keys. -/
theorem Json.unique_of_loadsHooked {tooDeep : Str → Bool} {text : Str} {value : Json}
    (read : Json.loadsHooked tooDeep floatRepr text = .ok value) : value.uniqueKeys = true := by
  unfold Json.loadsHooked at read
  split at read
  · cases read
  split at read
  · cases read
  split at read
  · cases read
  · rename_i isValue
    split at read
    · obtain rfl := Except.ok.inj read
      exact unique_of_scanValueHooked isValue
    · cases read

end

end Prometheus.Codec
