import Prometheus.Codec.Utf8

/-!
# Network identifiers

The grammar of a network identifier is written four times: `validate_network_id` of
`threat-hint/src/observable_bundle.rs`, `is_valid_network_id` of
`threat-proof/src/relation_manifest_v2.rs`, `validate_network_id` of `threat_observable.py` and the
pattern `_NETWORK_RE` of the other Python modules. A Rust `&str` is its UTF-8 bytes.
-/

namespace Prometheus.ThreatHint

open Prometheus.Codec

/-- `0`..`9` or `a`..`z`. -/
def isAlnum (c : Nat) : Bool :=
  (decide (48 ≤ c) && decide (c ≤ 57)) || (decide (97 ≤ c) && decide (c ≤ 122))

/-- `is_ascii_alphanumeric`. -/
def isAsciiAlphanumeric (c : Nat) : Bool := isAlnum c || (decide (65 ≤ c) && decide (c ≤ 90))

/-- The characters of an identifier. -/
def isNetworkChar (c : Nat) : Bool := c == 45 || isAlnum c

/-- `MIN_NETWORK_LEN`. -/
def minNetworkLen : Nat := 2

/-- `MAX_NETWORK_LEN`. -/
def maxNetworkLen : Nat := 64

namespace Rust

/-- `validate_network_id`. -/
def validateNetworkId (networkId : Bytes) : Bool :=
  if networkId.length < minNetworkLen ∨ maxNetworkLen < networkId.length then false
  else if ¬ networkId.head?.any (fun b => isAlnum b.toNat) ∨
      ¬ networkId.getLast?.any (fun b => isAlnum b.toNat) then false
  else networkId.all fun b => isNetworkChar b.toNat

/-- `is_valid_network_id` of the relation manifest. -/
def isValidNetworkId (value : Bytes) : Bool :=
  (decide (minNetworkLen ≤ value.length) && decide (value.length ≤ maxNetworkLen)) &&
    value.all (fun b => isNetworkChar b.toNat) &&
    value.head?.any (fun b => isAsciiAlphanumeric b.toNat) &&
    value.getLast?.any (fun b => isAsciiAlphanumeric b.toNat)

end Rust

namespace Python

/-- `validate_network_id`; `false` where it raises. -/
def validateNetworkId (networkId : Str) : Bool :=
  if networkId.length < minNetworkLen ∨ maxNetworkLen < networkId.length then false
  else if networkId.head? = some 45 ∨ networkId.getLast? = some 45 then false
  else
    match encodeUtf8 networkId with
    | none => false
    | some bytes => bytes.all fun b => isNetworkChar b.toNat

/-- `_validate_network_id` of the modules with a pattern: two to 64 characters that match
`[a-z0-9][a-z0-9-]{0,62}[a-z0-9]`. -/
def matchesNetworkId (value : Str) : Bool :=
  (decide (minNetworkLen ≤ value.length) && decide (value.length ≤ maxNetworkLen)) &&
    match value with
    | first :: rest =>
      isAlnum first && rest.getLast?.any isAlnum && rest.dropLast.all isNetworkChar &&
        decide (rest.dropLast.length ≤ 62)
    | [] => false

end Python

/-! ## One grammar -/

/-- The identifiers that all four accept. -/
structure IsNetworkId (s : Str) : Prop where
  length : minNetworkLen ≤ s.length ∧ s.length ≤ maxNetworkLen
  chars : ∀ c ∈ s, isNetworkChar c = true
  first : ∀ c, s.head? = some c → c ≠ 45
  last : ∀ c, s.getLast? = some c → c ≠ 45

theorem isNetworkChar_lt {c : Nat} (h : isNetworkChar c = true) : c < 128 := by
  simp only [isNetworkChar, isAlnum, Bool.or_eq_true, Bool.and_eq_true, decide_eq_true_eq,
    beq_iff_eq] at h
  omega

theorem isAlnum_iff {c : Nat} : isAlnum c = true ↔ isNetworkChar c = true ∧ c ≠ 45 := by
  simp only [isNetworkChar, isAlnum, Bool.or_eq_true, Bool.and_eq_true, decide_eq_true_eq,
    beq_iff_eq]
  omega

theorem IsNetworkId.isAscii {s : Str} (h : IsNetworkId s) : IsAscii s :=
  fun c hc => isNetworkChar_lt (h.chars c hc)

theorem toNat_all {bytes : Bytes} (p : Nat → Bool) :
    (bytes.all fun b => p b.toNat) = (bytes.map UInt8.toNat).all p := by
  rw [List.all_map]
  rfl

/-- The ends of an identifier are its characters. -/
theorem any_isAlnum {s : Str} {o : Option Nat} (mem : ∀ c, o = some c → c ∈ s) (found : o ≠ none)
    (chars : ∀ c ∈ s, isNetworkChar c = true) :
    o.any isAlnum = true ↔ ∀ c, o = some c → c ≠ 45 := by
  cases o with
  | none => exact absurd rfl found
  | some c => simp [isAlnum_iff, chars c (mem c rfl)]

theorem ends_of_length {s : Str} (h : minNetworkLen ≤ s.length) :
    s.head? ≠ none ∧ s.getLast? ≠ none := by
  have nonempty : s ≠ [] := by
    rintro rfl
    cases h
  simp [nonempty]

/-- What the byte checks of the two crates come to. -/
theorem isNetworkId_of_checks {s : Str} (length : minNetworkLen ≤ s.length ∧ s.length ≤ maxNetworkLen)
    (chars : s.all isNetworkChar = true) (first : s.head?.any isAlnum = true)
    (last : s.getLast?.any isAlnum = true) : IsNetworkId s := by
  rw [List.all_eq_true] at chars
  obtain ⟨hasFirst, hasLast⟩ := ends_of_length length.1
  exact ⟨length, chars,
    (any_isAlnum (fun c hc => List.mem_of_mem_head? hc) hasFirst chars).mp first,
    (any_isAlnum (fun c hc => List.mem_of_getLast? hc) hasLast chars).mp last⟩

theorem IsNetworkId.checks {s : Str} (h : IsNetworkId s) :
    s.all isNetworkChar = true ∧ s.head?.any isAlnum = true ∧ s.getLast?.any isAlnum = true := by
  obtain ⟨hasFirst, hasLast⟩ := ends_of_length h.length.1
  exact ⟨List.all_eq_true.mpr h.chars,
    (any_isAlnum (fun c hc => List.mem_of_mem_head? hc) hasFirst h.chars).mpr h.first,
    (any_isAlnum (fun c hc => List.mem_of_getLast? hc) hasLast h.chars).mpr h.last⟩

/-- Among the characters of an identifier there are no capitals. -/
theorem any_isAsciiAlphanumeric {bytes : Bytes} {o : Option UInt8} (mem : ∀ b, o = some b → b ∈ bytes)
    (chars : (bytes.all fun b => isNetworkChar b.toNat) = true) :
    (o.any fun b => isAsciiAlphanumeric b.toNat) = o.any fun b => isAlnum b.toNat := by
  rw [List.all_eq_true] at chars
  cases o with
  | none => rfl
  | some b =>
    have isChar := chars b (mem b rfl)
    have capital : (decide (65 ≤ b.toNat) && decide (b.toNat ≤ 90)) = false := by
      simp only [isNetworkChar, isAlnum, Bool.or_eq_true, Bool.and_eq_true, decide_eq_true_eq,
        beq_iff_eq] at isChar
      simp only [Bool.and_eq_false_iff, decide_eq_false_iff_not]
      omega
    rw [Option.any_some, Option.any_some, isAsciiAlphanumeric, capital, Bool.or_false]

/-- The two crates make the same checks. -/
theorem Rust.validateNetworkId_eq (value : Bytes) :
    Rust.validateNetworkId value = Rust.isValidNetworkId value := by
  unfold Rust.validateNetworkId Rust.isValidNetworkId
  by_cases length : value.length < minNetworkLen ∨ maxNetworkLen < value.length
  · rw [if_pos length]
    rcases length with short | long
    · simp [Nat.not_le.mpr short]
    · simp [Nat.not_le.mpr long]
  · rw [if_neg length]
    simp only [not_or, Nat.not_lt] at length
    simp only [length, decide_true, Bool.true_and]
    cases chars : value.all fun b => isNetworkChar b.toNat with
    | false => simp
    | true =>
      rw [any_isAsciiAlphanumeric (fun b hb => List.mem_of_mem_head? hb) chars,
        any_isAsciiAlphanumeric (fun b hb => List.mem_of_getLast? hb) chars]
      generalize value.head?.any (fun b => isAlnum b.toNat) = first
      generalize value.getLast?.any (fun b => isAlnum b.toNat) = last
      cases first <;> cases last <;> simp

theorem Rust.validateNetworkId_iff {value : Bytes} :
    Rust.validateNetworkId value = true ↔ IsNetworkId (value.map UInt8.toNat) := by
  have first : (value.head?.any fun b => isAlnum b.toNat) =
      (value.map UInt8.toNat).head?.any isAlnum := by
    cases value <;> rfl
  have last : (value.getLast?.any fun b => isAlnum b.toNat) =
      (value.map UInt8.toNat).getLast?.any isAlnum := by
    rw [List.getLast?_map, Option.any_map]
  unfold Rust.validateNetworkId
  rw [first, last, toNat_all isNetworkChar]
  constructor
  · intro h
    split at h
    · cases h
    rename_i length
    split at h
    · cases h
    rename_i ends
    simp only [not_or, not_not] at ends
    exact isNetworkId_of_checks (by simpa using length) h ends.1 ends.2
  · intro h
    obtain ⟨chars, isFirst, isLast⟩ := h.checks
    have length := h.length
    rw [List.length_map] at length
    rw [if_neg (by omega), if_neg (fun ends => ends.elim (· isFirst) (· isLast))]
    exact chars

theorem Rust.isValidNetworkId_iff {value : Bytes} :
    Rust.isValidNetworkId value = true ↔ IsNetworkId (value.map UInt8.toNat) := by
  rw [← Rust.validateNetworkId_eq, Rust.validateNetworkId_iff]

theorem Python.validateNetworkId_iff {s : Str} :
    Python.validateNetworkId s = true ↔ IsNetworkId s := by
  unfold Python.validateNetworkId
  constructor
  · intro h
    split at h
    · cases h
    rename_i length
    split at h
    · cases h
    rename_i ends
    split at h
    · cases h
    rename_i bytes isBytes
    rw [List.all_eq_true] at h
    obtain ⟨ascii, rfl⟩ := ascii_of_encodeUtf8 isBytes fun b hb => isNetworkChar_lt (h b hb)
    rw [← List.all_eq_true, toNat_all isNetworkChar, map_toNat_encodeAscii ascii.small,
      List.all_eq_true] at h
    refine ⟨by omega, h, ?_, ?_⟩
    · rintro c isFirst rfl
      exact ends (.inl isFirst)
    · rintro c isLast rfl
      exact ends (.inr isLast)
  · intro h
    rw [if_neg (by have := h.length; omega), if_neg, encodeUtf8_of_ascii h.isAscii]
    · show ((encodeAscii s).all fun b => isNetworkChar b.toNat) = true
      rw [toNat_all isNetworkChar, map_toNat_encodeAscii h.isAscii.small]
      exact h.checks.1
    · rintro (first | last)
      · exact h.first _ first rfl
      · exact h.last _ last rfl

theorem Python.matchesNetworkId_iff {s : Str} :
    Python.matchesNetworkId s = true ↔ IsNetworkId s := by
  unfold Python.matchesNetworkId
  cases s with
  | nil => simpa using fun h : IsNetworkId [] => absurd h.length.1 (by decide)
  | cons first rest =>
    simp only [Bool.and_eq_true, decide_eq_true_eq]
    constructor
    · rintro ⟨length, ⟨⟨isFirst, isLast⟩, middle⟩, -⟩
      obtain ⟨last, hasLast, lastAlnum⟩ := (Option.any_eq_true _ _).mp isLast
      have whole : rest = rest.dropLast ++ [last] :=
        (List.dropLast_append_getLast? last hasLast).symm
      have isLast' : (first :: rest).getLast? = some last := by
        rw [whole, ← List.cons_append, List.getLast?_concat]
      refine isNetworkId_of_checks length ?_ (by simpa using isFirst)
        (by rw [isLast']; simpa using lastAlnum)
      rw [whole, List.all_cons, List.all_append, middle]
      simp [(isAlnum_iff.mp isFirst).1, (isAlnum_iff.mp lastAlnum).1]
    · intro h
      obtain ⟨chars, isFirst, isLast⟩ := h.checks
      have length := h.length
      have nonempty : rest ≠ [] := by
        rintro rfl
        simp [minNetworkLen] at length
      rw [List.getLast?_cons_of_ne_nil nonempty] at isLast
      refine ⟨length, ⟨⟨by simpa using isFirst, isLast⟩, ?_⟩, ?_⟩
      · rw [List.all_eq_true] at chars ⊢
        intro c hc
        exact chars c (List.mem_cons_of_mem _ (List.mem_of_mem_dropLast hc))
      · simp only [List.length_cons, maxNetworkLen] at length
        rw [List.length_dropLast]
        omega

end Prometheus.ThreatHint
