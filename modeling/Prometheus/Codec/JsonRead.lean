import Prometheus.Codec.Json

/-!
# JSON as Python reads it

`json.loads` on a text, after the documentation of the `json` module: the scanner of values with
its strict string literals, numbers and nesting. Whatever the scanner reads from a text that
`json.dumps(…, separators=(",", ":"), ensure_ascii=False)` wrote is the value that was written.

The interpreter's recursion limit is left out: it turns one exception of a text that nests deeply
into another. `float.__repr__` on the text of a number is a parameter.
-/

namespace Prometheus.Codec

/-! ## Writing in the order of insertion -/

/-- One character of a string literal with `ensure_ascii=False`. -/
def escapeRaw (c : Nat) : Str :=
  if c = 34 then [92, 34]
  else if c = 92 then [92, 92]
  else if c = 10 then [92, 110]
  else if c = 13 then [92, 114]
  else if c = 9 then [92, 116]
  else if c = 12 then [92, 102]
  else if c = 8 then [92, 98]
  else if c < 32 then escapeUnit c
  else [c]

/-- A string literal with `ensure_ascii=False`. -/
def quoteRaw (s : Str) : Str := [34] ++ s.flatMap escapeRaw ++ [34]

/-- `json.dumps(…, separators=(",", ":"))`, with the string literals that `ensure_ascii` asks for
(`quote` or `quoteRaw`). -/
def Json.compact (literal : Str → Str) : Json → Str
  | .null => str "null"
  | .bool true => str "true"
  | .bool false => str "false"
  | .int i => decimalInt i
  | .float repr => repr
  | .string s => literal s
  | .array items => [91] ++ List.intercalate [44] (compactItems literal items) ++ [93]
  | .object fields => [123] ++ List.intercalate [44] (compactFields literal fields) ++ [125]
where
  compactItems (literal : Str → Str) : List Json → List Str
    | [] => []
    | item :: items => item.compact literal :: compactItems literal items
  compactFields (literal : Str → Str) : List (Str × Json) → List Str
    | [] => []
    | (key, value) :: fields =>
      (literal key ++ [58] ++ value.compact literal) :: compactFields literal fields

/-! ## String literals -/

/-- The value of a hex digit of either case. -/
def hexDigitValue (c : Nat) : Option Nat :=
  if 48 ≤ c ∧ c ≤ 57 then some (c - 48)
  else if 97 ≤ c ∧ c ≤ 102 then some (c - 87)
  else if 65 ≤ c ∧ c ≤ 70 then some (c - 55)
  else none

/-- The value of four hex digits. -/
def hexUnit (a b c d : Nat) : Option Nat :=
  match hexDigitValue a, hexDigitValue b, hexDigitValue c, hexDigitValue d with
  | some a, some b, some c, some d => some (((a * 16 + b) * 16 + c) * 16 + d)
  | _, _, _, _ => none

/-- The character of a two-character escape. -/
def escapeValue (c : Nat) : Option Nat :=
  if c = 34 ∨ c = 92 ∨ c = 47 then some c
  else if c = 98 then some 8
  else if c = 102 then some 12
  else if c = 110 then some 10
  else if c = 114 then some 13
  else if c = 116 then some 9
  else none

/-- The units of a literal after its opening quote, each with whether it was written `\uXXXX`, and
the text after its closing quote. -/
def scanUnits : Str → Option (List (Bool × Nat) × Str)
  | [] => none
  | 34 :: rest => some ([], rest)
  | 92 :: 117 :: a :: b :: c :: d :: rest =>
    match hexUnit a b c d, scanUnits rest with
    | some unit, some (units, rest) => some ((true, unit) :: units, rest)
    | _, _ => none
  | 92 :: c :: rest =>
    match escapeValue c, scanUnits rest with
    | some unit, some (units, rest) => some ((false, unit) :: units, rest)
    | _, _ => none
  | c :: rest =>
    if c < 32 ∨ c = 92 then none
    else
      match scanUnits rest with
      | some (units, rest) => some ((false, c) :: units, rest)
      | none => none

/-- Two escapes that are a surrogate pair are one character. -/
def joinSurrogates : List (Bool × Nat) → Str
  | (true, high) :: (true, low) :: units =>
    if 0xD800 ≤ high ∧ high < 0xDC00 ∧ 0xDC00 ≤ low ∧ low < 0xE000 then
      (0x10000 + (high - 0xD800) * 1024 + (low - 0xDC00)) :: joinSurrogates units
    else high :: joinSurrogates ((true, low) :: units)
  | (_, unit) :: units => unit :: joinSurrogates units
  | [] => []

/-- `scanstring`: a literal after its opening quote. -/
def scanString (text : Str) : Option (Str × Str) :=
  (scanUnits text).map fun scanned => (joinSurrogates scanned.1, scanned.2)

/-! ## Numbers -/

def isDigit (c : Nat) : Bool := decide (48 ≤ c) && decide (c ≤ 57)

/-- The number that decimal digits write. -/
def digitsValue (digits : Str) : Nat := digits.foldl (fun n d => 10 * n + (d - 48)) 0

/-- `sys.get_int_max_str_digits()`. -/
def maxStrDigits : Nat := 4300

/-- `0`, or digits that do not start with `0`. -/
def integerPart : Str → Option (Str × Str)
  | [] => none
  | c :: rest =>
    if c = 48 then some ([c], rest)
    else if isDigit c then some (c :: rest.takeWhile isDigit, rest.dropWhile isDigit)
    else none

/-- A point with digits after it, if there is one. -/
def fractionPart : Str → Str × Str
  | 46 :: rest =>
    if rest.takeWhile isDigit = [] then ([], 46 :: rest)
    else (46 :: rest.takeWhile isDigit, rest.dropWhile isDigit)
  | text => ([], text)

/-- The sign of an exponent. -/
def exponentSign : Str → Str × Str
  | c :: rest => if c = 43 ∨ c = 45 then ([c], rest) else ([], c :: rest)
  | [] => ([], [])

/-- An exponent with at least one digit, if there is one. -/
def exponentPart : Str → Str × Str
  | c :: rest =>
    let (sign, digits) := exponentSign rest
    if (c = 101 ∨ c = 69) ∧ digits.takeWhile isDigit ≠ [] then
      (c :: sign ++ digits.takeWhile isDigit, digits.dropWhile isDigit)
    else ([], c :: rest)
  | [] => ([], [])

/-- A number after its sign. -/
def scanUnsigned (floatRepr : Str → Str) (negative : Bool) (text : Str) :
    Except LoadError (Json × Str) :=
  match integerPart text with
  | none => .error .decodeError
  | some (digits, rest) =>
    let (fraction, rest) := fractionPart rest
    let (exponent, rest) := exponentPart rest
    if fraction ≠ [] ∨ exponent ≠ [] then
      .ok (.float (floatRepr ((if negative then [45] else []) ++ digits ++ fraction ++ exponent)),
        rest)
    else if maxStrDigits < digits.length then .error .valueError
    else
      let value : Int := digitsValue digits
      .ok (.int (if negative then -value else value), rest)

/-! ## Values -/

/-- `WHITESPACE.match`. -/
def skipSpace (text : Str) : Str := text.dropWhile fun c => c == 32 || c == 9 || c == 10 || c == 13

/-- A value that is neither a string, an array nor an object. -/
def scanAtom (floatRepr : Str → Str) (text : Str) : Except LoadError (Json × Str) :=
  if (str "null").isPrefixOf text then .ok (.null, text.drop 4)
  else if (str "true").isPrefixOf text then .ok (.bool true, text.drop 4)
  else if (str "false").isPrefixOf text then .ok (.bool false, text.drop 5)
  else if (str "NaN").isPrefixOf text then .ok (.float (str "NaN"), text.drop 3)
  else if (str "Infinity").isPrefixOf text then .ok (.float (str "Infinity"), text.drop 8)
  else if (str "-Infinity").isPrefixOf text then .ok (.float (str "-Infinity"), text.drop 9)
  else
    match text with
    | 45 :: rest => scanUnsigned floatRepr true rest
    | _ => scanUnsigned floatRepr false text

mutual

/-- `scan_once`. Every call reads at least one character, so the length of the text is fuel enough. -/
def scanValue (floatRepr : Str → Str) : Nat → Str → Except LoadError (Json × Str)
  | 0, _ => .error .decodeError
  | fuel + 1, text =>
    match text with
    | 34 :: rest =>
      match scanString rest with
      | some (s, rest) => .ok (.string s, rest)
      | none => .error .decodeError
    | 91 :: rest =>
      match skipSpace rest with
      | 93 :: rest => .ok (.array [], rest)
      | rest =>
        match scanItems floatRepr fuel rest with
        | .ok (items, rest) => .ok (.array items, rest)
        | .error e => .error e
    | 123 :: rest =>
      match skipSpace rest with
      | 125 :: rest => .ok (.object [], rest)
      | rest =>
        match scanFields floatRepr fuel rest with
        | .ok (fields, rest) => .ok (.object fields, rest)
        | .error e => .error e
    | _ => scanAtom floatRepr text

/-- `JSONArray` at an item. -/
def scanItems (floatRepr : Str → Str) : Nat → Str → Except LoadError (List Json × Str)
  | 0, _ => .error .decodeError
  | fuel + 1, text =>
    match scanValue floatRepr fuel text with
    | .error e => .error e
    | .ok (item, rest) =>
      match skipSpace rest with
      | 93 :: rest => .ok ([item], rest)
      | 44 :: rest =>
        match scanItems floatRepr fuel (skipSpace rest) with
        | .ok (items, rest) => .ok (item :: items, rest)
        | .error e => .error e
      | _ => .error .decodeError

/-- `JSONObject` at a key. -/
def scanFields (floatRepr : Str → Str) : Nat → Str → Except LoadError (List (Str × Json) × Str)
  | 0, _ => .error .decodeError
  | fuel + 1, text =>
    match text with
    | 34 :: rest =>
      match scanString rest with
      | none => .error .decodeError
      | some (key, rest) =>
        match skipSpace rest with
        | 58 :: rest =>
          match scanValue floatRepr fuel (skipSpace rest) with
          | .error e => .error e
          | .ok (value, rest) =>
            match skipSpace rest with
            | 125 :: rest => .ok ([(key, value)], rest)
            | 44 :: rest =>
              match scanFields floatRepr fuel (skipSpace rest) with
              | .ok (fields, rest) => .ok ((key, value) :: fields, rest)
              | .error e => .error e
            | _ => .error .decodeError
        | _ => .error .decodeError
    | _ => .error .decodeError

end

/-- `json.loads` on a text, with the pairs of each object. -/
def Json.loads (floatRepr : Str → Str) (text : Str) : Except LoadError Json :=
  if text.head? = some 0xFEFF then .error .decodeError
  else
    match scanValue floatRepr (text.length + 1) (skipSpace text) with
    | .error e => .error e
    | .ok (value, rest) => if skipSpace rest = [] then .ok value else .error .decodeError

/-- `json.loads` in an interpreter with a recursion limit, which the nesting of some texts exceeds. -/
def Json.loadsBounded (tooDeep : Str → Bool) (floatRepr : Str → Str) (text : Str) :
    Except LoadError Json :=
  if tooDeep text then .error .recursionError else Json.loads floatRepr text

/-! ## Reading what follows -/

section

variable {floatRepr : Str → Str} {fuel : Nat} {text start rest : Str} {c : Nat}

theorem skipSpace_cons (h : c ≠ 32 ∧ c ≠ 9 ∧ c ≠ 10 ∧ c ≠ 13) :
    skipSpace (c :: rest) = c :: rest := by
  simp [skipSpace, h]

/-- An array whose items can be read. -/
theorem scanValue_array {items : List Json} (notSpace : c ≠ 32 ∧ c ≠ 9 ∧ c ≠ 10 ∧ c ≠ 13)
    (notClosed : c ≠ 93) (read : scanItems floatRepr fuel (c :: start) = .ok (items, rest)) :
    scanValue floatRepr (fuel + 1) (91 :: c :: start) = .ok (.array items, rest) := by
  rw [scanValue, skipSpace_cons notSpace]
  split
  · rename_i same
    exact absurd (List.cons.inj same).1 notClosed
  · rw [read]

/-- An object whose fields can be read. -/
theorem scanValue_object {fields : List (Str × Json)}
    (read : scanFields floatRepr fuel (34 :: start) = .ok (fields, rest)) :
    scanValue floatRepr (fuel + 1) (123 :: 34 :: start) = .ok (.object fields, rest) := by
  rw [scanValue, skipSpace_cons (by decide)]
  split
  · rename_i same
    exact absurd (List.cons.inj same).1 (by decide)
  · rw [read]

/-- The last item of an array. -/
theorem scanItems_close {item : Json}
    (isItem : scanValue floatRepr fuel text = .ok (item, 93 :: rest)) :
    scanItems floatRepr (fuel + 1) text = .ok ([item], rest) := by
  rw [scanItems, isItem]
  simp only [skipSpace_cons (show (93 : Nat) ≠ 32 ∧ 93 ≠ 9 ∧ 93 ≠ 10 ∧ 93 ≠ 13 by decide)]

/-- An item that another one follows. -/
theorem scanItems_comma {item : Json} {items : List Json}
    (notSpace : c ≠ 32 ∧ c ≠ 9 ∧ c ≠ 10 ∧ c ≠ 13)
    (isItem : scanValue floatRepr fuel text = .ok (item, 44 :: c :: start))
    (others : scanItems floatRepr fuel (c :: start) = .ok (items, rest)) :
    scanItems floatRepr (fuel + 1) text = .ok (item :: items, rest) := by
  rw [scanItems, isItem]
  simp only [skipSpace_cons (show (44 : Nat) ≠ 32 ∧ 44 ≠ 9 ∧ 44 ≠ 10 ∧ 44 ≠ 13 by decide),
    skipSpace_cons notSpace, others]

/-- The last field of an object. -/
theorem scanFields_close {key : Str} {value : Json}
    (isKey : scanString text = some (key, 58 :: c :: start))
    (notSpace : c ≠ 32 ∧ c ≠ 9 ∧ c ≠ 10 ∧ c ≠ 13)
    (isValue : scanValue floatRepr fuel (c :: start) = .ok (value, 125 :: rest)) :
    scanFields floatRepr (fuel + 1) (34 :: text) = .ok ([(key, value)], rest) := by
  rw [scanFields, isKey]
  simp only [skipSpace_cons (show (58 : Nat) ≠ 32 ∧ 58 ≠ 9 ∧ 58 ≠ 10 ∧ 58 ≠ 13 by decide),
    skipSpace_cons notSpace, isValue]
  rw [skipSpace_cons (by decide)]
  rfl

/-- A field that another one follows. -/
theorem scanFields_comma {key more : Str} {value : Json} {fields : List (Str × Json)}
    (isKey : scanString text = some (key, 58 :: c :: start))
    (notSpace : c ≠ 32 ∧ c ≠ 9 ∧ c ≠ 10 ∧ c ≠ 13)
    (isValue : scanValue floatRepr fuel (c :: start) = .ok (value, 44 :: 34 :: more))
    (others : scanFields floatRepr fuel (34 :: more) = .ok (fields, rest)) :
    scanFields floatRepr (fuel + 1) (34 :: text) = .ok ((key, value) :: fields, rest) := by
  rw [scanFields, isKey]
  simp only [skipSpace_cons (show (58 : Nat) ≠ 32 ∧ 58 ≠ 9 ∧ 58 ≠ 10 ∧ 58 ≠ 13 by decide),
    skipSpace_cons notSpace, isValue]
  rw [skipSpace_cons (by decide)]
  simp only [skipSpace_cons (show (34 : Nat) ≠ 32 ∧ 34 ≠ 9 ∧ 34 ≠ 10 ∧ 34 ≠ 13 by decide), others]

end

end Prometheus.Codec
