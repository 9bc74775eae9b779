import Prometheus.ThreatHint.ObservableBundle

/-!
# The grammars of observables agree

Hex digests, imports and byte patterns are checked byte by byte in the crate and by regular
expressions in Python. On the same text both give the same answer.
-/

namespace Prometheus.ThreatHint

open Prometheus.Codec

/-! ## Hex -/

theorem decodeHexNibble_eq (b : UInt8) :
    Rust.decodeHexNibble b =
      if isLowerHex b.toNat then some (UInt8.ofNat (hexValue b.toNat)) else none := by
  have each : ∀ n < 256, Rust.decodeHexNibble (UInt8.ofNat n) =
      if isLowerHex n then some (UInt8.ofNat (hexValue n)) else none := by
    decide +kernel
  simpa using each b.toNat b.toNat_lt

theorem hexValue_lt {c : Nat} (h : isLowerHex c = true) : hexValue c < 16 := by
  simp only [isLowerHex, Bool.or_eq_true, Bool.and_eq_true, decide_eq_true_eq] at h
  unfold hexValue
  split <;> omega

theorem nibbles_eq {m n : Nat} (hm : m < 16) (hn : n < 16) :
    UInt8.ofNat m <<< 4 ||| UInt8.ofNat n = UInt8.ofNat (16 * m + n) := by
  have each : ∀ m < 16, ∀ n < 16,
      UInt8.ofNat m <<< 4 ||| UInt8.ofNat n = UInt8.ofNat (16 * m + n) := by
    decide
  exact each m hm n hn

/-- The crate decodes what `bytes.fromhex` does. -/
theorem decodeChunks_eq : ∀ value : Bytes, value.length % 2 = 0 →
    Rust.decodeChunks value =
      if (value.map UInt8.toNat).all isLowerHex then some (fromHex (value.map UInt8.toNat))
      else none
  | [], _ => rfl
  | [_], h => by simp at h
  | hi :: lo :: rest, h => by
    have ih := decodeChunks_eq rest (by simp only [List.length_cons] at h; omega)
    rw [Rust.decodeChunks, decodeHexNibble_eq, decodeHexNibble_eq, ih]
    simp only [List.map_cons, List.all_cons, fromHex]
    by_cases high : isLowerHex hi.toNat = true
    · by_cases low : isLowerHex lo.toNat = true
      · by_cases others : (rest.map UInt8.toNat).all isLowerHex = true
        · simp [high, low, others, nibbles_eq (hexValue_lt high) (hexValue_lt low)]
        · simp [high, low, others]
      · simp [low]
    · simp [high]

theorem decodeHex_eq {value : Bytes} (even : value.length % 2 = 0) :
    Rust.decodeHex value =
      if (value.map UInt8.toNat).all isLowerHex then some (fromHex (value.map UInt8.toNat))
      else none := by
  rw [Rust.decodeHex, if_neg (not_not.mpr even), decodeChunks_eq value even]

theorem length_fromHex : ∀ s : Str, (fromHex s).length = s.length / 2
  | [] => rfl
  | [_] => by simp [fromHex]
  | _ :: _ :: rest => by
    rw [fromHex, List.length_cons, length_fromHex rest, List.length_cons, List.length_cons]
    omega

theorem validateFileSha256_eq (value : Bytes) :
    Rust.validateFileSha256 value = Python.validateFileSha256 (value.map UInt8.toNat) := by
  unfold Rust.validateFileSha256 Python.validateFileSha256
  rw [List.length_map]
  by_cases length : value.length = 64
  · rw [if_neg (not_not.mpr length), if_neg (not_not.mpr length), decodeHex_eq (by rw [length])]
    by_cases digits : (value.map UInt8.toNat).all isLowerHex = true
    · have size : (fromHex (value.map UInt8.toNat)).length = nonceBytes := by
        rw [length_fromHex, List.length_map, length]
        rfl
      rw [if_pos digits, if_neg (not_not.mpr ⟨length, digits⟩)]
      exact if_neg (not_not.mpr size)
    · rw [if_neg digits, if_pos fun both => digits both.2]
  · rw [if_pos length, if_pos length]

/-! ## Imports -/

theorem isImportStart_eq (b : UInt8) : Rust.isImportStart b = Python.isImportStart b.toNat := by
  have each : ∀ n < 256, Rust.isImportStart (UInt8.ofNat n) = Python.isImportStart n := by
    decide +kernel
  simpa using each b.toNat b.toNat_lt

theorem isImportByte_eq (b : UInt8) : Rust.isImportByte b = Python.isImportChar b.toNat := by
  have each : ∀ n < 256, Rust.isImportByte (UInt8.ofNat n) = Python.isImportChar n := by
    decide +kernel
  simpa using each b.toNat b.toNat_lt

theorem isImportChar_of_start {c : Nat} (h : Python.isImportStart c = true) :
    Python.isImportChar c = true := by
  simp only [Python.isImportStart, Python.isImportChar, Bool.or_eq_true] at h ⊢
  tauto

theorem validateApiImport_eq (value : Bytes) :
    Rust.validateApiImport value = Python.validateApiImport (value.map UInt8.toNat) := by
  unfold Rust.validateApiImport Python.validateApiImport
  rw [List.length_map]
  cases value with
  | nil => rfl
  | cons first rest =>
    have others : (rest.all Rust.isImportByte) = (rest.map UInt8.toNat).all Python.isImportChar := by
      rw [List.all_map]
      congr 1
      exact funext isImportByte_eq
    by_cases long : maxApiImportLen < (first :: rest).length
    · rw [if_pos (.inr long), if_pos long]
    · rw [if_neg (by simpa using long), if_neg long]
      have short : decide (rest.length ≤ 95) = true := by
        simp only [List.length_cons, maxApiImportLen] at long
        exact decide_eq_true (by omega)
      simp only [List.head?_cons, Option.any_some, List.all_cons, List.map_cons,
        Python.matchesApiImport, List.length_map, short, Bool.and_true, isImportStart_eq,
        isImportByte_eq, others]
      by_cases isStart : Python.isImportStart first.toNat = true
      · simp [isStart, isImportChar_of_start isStart]
      · simp [isStart]

/-! ## Byte patterns -/

theorem splitOn_map_toNat (value : Bytes) (separator : UInt8) :
    (value.map UInt8.toNat).splitOn separator.toNat =
      (value.splitOn separator).map fun token => token.map UInt8.toNat := by
  induction value with
  | nil => rfl
  | cons b value ih =>
    have same : (b.toNat == separator.toNat) = (b == separator) := by
      rw [Bool.eq_iff_iff, beq_iff_eq, beq_iff_eq, UInt8.toNat_inj]
    simp only [List.splitOn] at ih ⊢
    rw [List.map_cons, List.splitOnP_cons_eq_if_modifyHead, List.splitOnP_cons_eq_if_modifyHead,
      ih, same]
    by_cases h : (b == separator) = true
    · rw [if_pos h, if_pos h]
      rfl
    · rw [if_neg h, if_neg h]
      cases value.splitOnP (· == separator) <;> rfl

theorem countFixed_eq (fixed : Nat) (tokens : List Bytes) :
    Rust.countFixed fixed tokens =
      Python.countFixed fixed (tokens.map fun token => token.map UInt8.toNat) := by
  induction tokens generalizing fixed with
  | nil => rfl
  | cons token tokens ih =>
    have wildcard : token.map UInt8.toNat = [63, 63] ↔ token = [63, 63] := by
      rw [show ([63, 63] : Str) = ([63, 63] : Bytes).map UInt8.toNat from rfl,
        List.map_inj_right fun a b => UInt8.toNat_inj.mp]
    rw [List.map_cons, Rust.countFixed, Python.countFixed, ih, ih, toNat_all isLowerHex,
      List.length_map]
    simp only [List.map_eq_nil_iff, wildcard]
    by_cases empty : token = []
    · rw [if_pos empty, if_pos empty]
    rw [if_neg empty, if_neg empty]
    by_cases isWild : token = [63, 63]
    · rw [if_pos isWild, if_pos isWild]
    rw [if_neg isWild, if_neg isWild]
    by_cases length : token.length = 2
    · rw [if_neg (not_not.mpr length)]
      simp only [length, true_and]
    · rw [if_pos length, if_pos fun both => length both.1]

theorem validateBytePattern_eq (value : Bytes) :
    Rust.validateBytePattern value = Python.validateBytePattern (value.map UInt8.toNat) := by
  have ascii : (value.all fun b => decide (b < 128)) =
      (value.map UInt8.toNat).all fun c => decide (c < 128) := by
    rw [List.all_map]
    rfl
  have first : value.head? = some 32 ↔ (value.map UInt8.toNat).head? = some 32 := by
    cases value with
    | nil => simp
    | cons b value => simp [← UInt8.toNat_inj]
  have last : value.getLast? = some 32 ↔ (value.map UInt8.toNat).getLast? = some 32 := by
    rw [List.getLast?_map]
    cases value.getLast? with
    | none => simp
    | some b => simp [← UInt8.toNat_inj]
  have tokens : (value.map UInt8.toNat).splitOn 32 =
      (value.splitOn 32).map fun token => token.map UInt8.toNat :=
    splitOn_map_toNat value 32
  unfold Rust.validateBytePattern Python.validateBytePattern
  simp only [ascii, first, last, tokens, List.map_eq_nil_iff, List.length_map, countFixed_eq,
    not_and_or, not_le]
  rfl

/-- On one text the two languages give one answer. -/
theorem validateObservable_eq (kind : ObservableKind) (value : Bytes) :
    Rust.validateObservable kind value =
      Python.validateObservable kind (value.map UInt8.toNat) := by
  cases kind with
  | fileSha256 => exact validateFileSha256_eq value
  | apiImport => exact validateApiImport_eq value
  | bytePattern => exact validateBytePattern_eq value

end Prometheus.ThreatHint
