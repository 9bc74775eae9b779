import Mathlib

/-!
# Byte strings and texts

`Bytes` is Python's `bytes` and Rust's `[u8]`. `Str` is Python's `str`: a sequence of code points,
which unlike Lean's `String` may hold lone surrogates. The encodings here (fixed-width integers,
length prefixes, lower-case hex) are the ones the digests of the repository are built from, each
with the lemma that it can be undone.
-/

namespace Prometheus.Codec

abbrev Bytes := List UInt8

/-- A Python text: its code points. -/
abbrev Str := List Nat

/-- Membership is decided alike wherever it is asked. -/
instance : LawfulBEq Bytes := inferInstance
instance : LawfulBEq Str := inferInstance
instance : LawfulBEq (Bytes × UInt32) := inferInstance
instance : LawfulBEq (Bytes × Bytes × Bytes) := inferInstance

/-- The bytes of an ASCII literal. -/
def ascii (s : String) : Bytes := s.toByteArray.data.toList

/-- The code points of an ASCII literal. -/
def str (s : String) : Str := (ascii s).map UInt8.toNat

/-- `str.encode("ascii")` of a text whose characters are ASCII. -/
def encodeAscii (s : Str) : Bytes := s.map UInt8.ofNat

theorem map_toNat_encodeAscii {s : Str} (hs : ∀ c ∈ s, c < 256) :
    (encodeAscii s).map UInt8.toNat = s := by
  rw [encodeAscii, List.map_map]
  exact (List.map_congr_left fun c hc => UInt8.toNat_ofNat_of_lt' (hs c hc)).trans s.map_id

theorem encodeAscii_inj {s t : Str} (hs : ∀ c ∈ s, c < 256) (ht : ∀ c ∈ t, c < 256)
    (h : encodeAscii s = encodeAscii t) : s = t := by
  rw [← map_toNat_encodeAscii hs, h, map_toNat_encodeAscii ht]

/-- What follows the last occurrence of a value is determined. -/
theorem eq_after_last {α : Type} {x : α} {a b c d : List α} (hb : x ∉ b) (hd : x ∉ d)
    (h : a ++ x :: b = c ++ x :: d) : b = d := by
  rcases List.append_eq_append_iff.mp h with ⟨as, -, rest⟩ | ⟨as, -, rest⟩
  · cases as with
    | nil => exact (List.cons.inj rest).2
    | cons y as => exact absurd (by simp [(List.cons.inj rest).2]) hb
  · cases as with
    | nil => exact ((List.cons.inj rest).2).symm
    | cons y as => exact absurd (by simp [(List.cons.inj rest).2]) hd

/-- A pair of inputs is not a collision of a hash. -/
def NoCollision (hash : Bytes → Bytes) (a b : Bytes) : Prop := hash a = hash b → a = b

/-- One code point in UTF-8; `none` for a surrogate, which has no encoding. -/
def encodeUtf8Char (c : Nat) : Option Bytes :=
  if c < 0x80 then some [UInt8.ofNat c]
  else if c < 0x800 then some [UInt8.ofNat (0xC0 + c / 64), UInt8.ofNat (0x80 + c % 64)]
  else if 0xD800 ≤ c ∧ c < 0xE000 then none
  else if c < 0x10000 then
    some [UInt8.ofNat (0xE0 + c / 4096), UInt8.ofNat (0x80 + c / 64 % 64),
      UInt8.ofNat (0x80 + c % 64)]
  else
    some [UInt8.ofNat (0xF0 + c / 262144), UInt8.ofNat (0x80 + c / 4096 % 64),
      UInt8.ofNat (0x80 + c / 64 % 64), UInt8.ofNat (0x80 + c % 64)]

/-- `str.encode("utf-8")`; `none` where it raises `UnicodeEncodeError`. -/
def encodeUtf8 (s : Str) : Option Bytes := (s.mapM encodeUtf8Char).map List.flatten

/-- `str::from_utf8` and `bytes.decode("utf-8")`: the code points, unless the bytes are not UTF-8. -/
def fromUtf8 : Bytes → Option Str
  | [] => some []
  | a :: rest =>
    let a := a.toNat
    let tail (b : UInt8) : Bool := decide (0x80 ≤ b.toNat) && decide (b.toNat < 0xC0)
    if a < 0x80 then (fromUtf8 rest).map fun s => a :: s
    else
      match rest with
      | b :: rest =>
        if 0xC2 ≤ a ∧ a < 0xE0 ∧ tail b then
          (fromUtf8 rest).map fun s => ((a - 0xC0) * 64 + (b.toNat - 0x80)) :: s
        else
          match rest with
          | c :: rest =>
            let c3 := ((a - 0xE0) * 64 + (b.toNat - 0x80)) * 64 + (c.toNat - 0x80)
            if 0xE0 ≤ a ∧ a < 0xF0 ∧ tail b ∧ tail c ∧ 0x800 ≤ c3 ∧
                ¬ (0xD800 ≤ c3 ∧ c3 < 0xE000) then
              (fromUtf8 rest).map fun s => c3 :: s
            else
              match rest with
              | d :: rest =>
                let c4 := (((a - 0xF0) * 64 + (b.toNat - 0x80)) * 64 + (c.toNat - 0x80)) * 64 +
                  (d.toNat - 0x80)
                if 0xF0 ≤ a ∧ a < 0xF5 ∧ tail b ∧ tail c ∧ tail d ∧ 0x10000 ≤ c4 ∧
                    c4 < 0x110000 then
                  (fromUtf8 rest).map fun s => c4 :: s
                else none
              | [] => none
          | [] => none
      | [] => none

/-- `bytes.decode("ascii")`; `none` where it raises `UnicodeDecodeError`. -/
def decodeAscii (b : Bytes) : Option Str :=
  if b.all fun c => c < 128 then some (b.map UInt8.toNat) else none

/-- `int.to_bytes(width, "big")`. -/
def toBytesBig : Nat → Nat → Bytes
  | 0, _ => []
  | w + 1, n => toBytesBig w (n / 256) ++ [UInt8.ofNat (n % 256)]

/-- `to_le_bytes` of an integer of `width` bytes. -/
def toBytesLittle : Nat → Nat → Bytes
  | 0, _ => []
  | w + 1, n => UInt8.ofNat (n % 256) :: toBytesLittle w (n / 256)

@[simp] theorem length_toBytesBig (w n : Nat) : (toBytesBig w n).length = w := by
  induction w generalizing n with
  | zero => rfl
  | succ w ih => simp [toBytesBig, ih]

@[simp] theorem length_toBytesLittle (w n : Nat) : (toBytesLittle w n).length = w := by
  induction w generalizing n with
  | zero => rfl
  | succ w ih => simp [toBytesLittle, ih]

theorem ofNat_mod_inj {m n : Nat} (h : UInt8.ofNat (m % 256) = UInt8.ofNat (n % 256)) :
    m % 256 = n % 256 := by
  have := congrArg UInt8.toNat h
  simpa using this

theorem toBytesBig_inj {w m n : Nat} (hm : m < 256 ^ w) (hn : n < 256 ^ w)
    (h : toBytesBig w m = toBytesBig w n) : m = n := by
  induction w generalizing m n with
  | zero => simp at hm hn; omega
  | succ w ih =>
    obtain ⟨hq, hr⟩ := List.append_inj' h rfl
    have hr' : m % 256 = n % 256 := ofNat_mod_inj (by simpa using hr)
    have hq' := ih (by rw [pow_succ] at hm; omega) (by rw [pow_succ] at hn; omega) hq
    omega

theorem toBytesLittle_inj {w m n : Nat} (hm : m < 256 ^ w) (hn : n < 256 ^ w)
    (h : toBytesLittle w m = toBytesLittle w n) : m = n := by
  induction w generalizing m n with
  | zero => simp at hm hn; omega
  | succ w ih =>
    obtain ⟨hr, hq⟩ := List.cons.inj h
    have hr' : m % 256 = n % 256 := ofNat_mod_inj hr
    have hq' := ih (by rw [pow_succ] at hm; omega) (by rw [pow_succ] at hn; omega) hq
    omega

/-- One lower-case hex digit. -/
def hexDigit (n : Nat) : Nat := if n < 10 then 48 + n else 87 + n

/-- `bytes.hex()`. -/
def hex (b : Bytes) : Str := b.flatMap fun x => [hexDigit (x.toNat / 16), hexDigit (x.toNat % 16)]

@[simp] theorem length_hex (b : Bytes) : (hex b).length = 2 * b.length := by
  induction b with
  | nil => rfl
  | cons x b ih =>
    rw [hex, List.flatMap_cons, List.length_append, ← hex, ih, List.length_cons]
    simp
    omega

/-- Whether a character is one of `0123456789abcdef`. -/
def isLowerHex (c : Nat) : Bool := (decide (48 ≤ c) && decide (c ≤ 57)) ||
  (decide (97 ≤ c) && decide (c ≤ 102))

/-- The value of a lower-case hex digit. -/
def hexValue (c : Nat) : Nat := if c < 97 then c - 48 else c - 87

/-- `bytes.fromhex` of a text of lower-case hex digits. -/
def fromHex : Str → Bytes
  | a :: b :: rest => UInt8.ofNat (16 * hexValue a + hexValue b) :: fromHex rest
  | _ => []

theorem isLowerHex_of_mem_hex {b : Bytes} {c : Nat} (h : c ∈ hex b) : isLowerHex c = true := by
  have digit (n : Nat) (hn : n < 16) : isLowerHex (hexDigit n) = true := by
    unfold hexDigit
    split <;> simp [isLowerHex] <;> omega
  obtain ⟨x, -, hc⟩ := List.mem_flatMap.mp h
  have hx := x.toNat_lt
  simp only [List.mem_cons, List.not_mem_nil, or_false] at hc
  rcases hc with rfl | rfl
  · exact digit _ (by omega)
  · exact digit _ (by omega)

theorem hexValue_hexDigit {n : Nat} (h : n < 16) : hexValue (hexDigit n) = n := by
  unfold hexValue hexDigit
  split <;> split <;> omega

theorem fromHex_hex (b : Bytes) : fromHex (hex b) = b := by
  induction b with
  | nil => rfl
  | cons x b ih =>
    have small := x.toNat_lt
    have byte : 16 * (x.toNat / 16) + x.toNat % 16 = x.toNat := by omega
    rw [hex, List.flatMap_cons, List.cons_append, List.cons_append, List.nil_append, ← hex, fromHex,
      hexValue_hexDigit (by omega), hexValue_hexDigit (by omega), byte, ih, UInt8.ofNat_toNat]

theorem hex_inj {a b : Bytes} (h : hex a = hex b) : a = b := by
  have same := congrArg fromHex h
  rwa [fromHex_hex, fromHex_hex] at same

end Prometheus.Codec
