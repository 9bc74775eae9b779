import Prometheus.Codec.Bytes

/-!
# JSON as `serde_json` writes it

A Rust `String` is its UTF-8 bytes. `serde_json::to_vec` writes a struct's fields in the order of
their declaration and escapes a string byte by byte.
-/

namespace Prometheus.Codec

/-- `serde_json` on one byte of a string. -/
def serdeByte (b : UInt8) : Bytes :=
  if b = 34 then [92, 34]
  else if b = 92 then [92, 92]
  else if b = 8 then [92, 98]
  else if b = 9 then [92, 116]
  else if b = 10 then [92, 110]
  else if b = 12 then [92, 102]
  else if b = 13 then [92, 114]
  else if b < 32 then ascii "\\u00" ++ encodeAscii (hex [b])
  else [b]

/-- A string literal. -/
def serdeString (s : Bytes) : Bytes := [34] ++ s.flatMap serdeByte ++ [34]

/-- A `u64` or `u32`. -/
def serdeNat (n : Nat) : Bytes := encodeAscii ((Nat.toDigits 10 n).map Char.toNat)

/-- An `Option<u64>`. -/
def serdeOption (n : Option Nat) : Bytes := (n.map serdeNat).getD (ascii "null")

/-- A `Vec`. -/
def serdeArray (items : List Bytes) : Bytes := [91] ++ List.intercalate [44] items ++ [93]

/-- A struct: the names of its fields, each with the text of its value. -/
def serdeStruct (fields : List (String × Bytes)) : Bytes :=
  [123] ++ List.intercalate [44] (fields.map fun f => serdeString (ascii f.1) ++ [58] ++ f.2) ++ [125]

example : serdeStruct [("a", serdeNat 10), ("b", serdeString (ascii "x\"\n")),
    ("c", serdeArray [serdeOption none])] =
      ascii "\x7b\"a\":10,\"b\":\"x\\\"\\n\",\"c\":[null]\x7d" := by
  decide

end Prometheus.Codec
