import Prometheus.Codec.Bytes

/-!
# ASCII in UTF-8

A text of ASCII characters is written byte for byte, and nothing else is written with ASCII bytes.
-/

namespace Prometheus.Codec

/-- Every character is ASCII. -/
def IsAscii (s : Str) : Prop := ∀ c ∈ s, c < 128

theorem IsAscii.small {s : Str} (h : IsAscii s) : ∀ c ∈ s, c < 256 := by
  intro c hc
  have := h c hc
  omega

theorem isAscii_append {s t : Str} : IsAscii (s ++ t) ↔ IsAscii s ∧ IsAscii t := by
  simp [IsAscii, or_imp, forall_and]

theorem isAscii_cons {c : Nat} {s : Str} : IsAscii (c :: s) ↔ c < 128 ∧ IsAscii s := by
  simp [IsAscii]

theorem isAscii_nil : IsAscii [] := by
  simp [IsAscii]

theorem isAscii_hex (b : Bytes) : IsAscii (hex b) := by
  intro c hc
  have hexDigit := isLowerHex_of_mem_hex hc
  simp only [isLowerHex, Bool.or_eq_true, Bool.and_eq_true, decide_eq_true_eq] at hexDigit
  omega

theorem encodeUtf8_of_ascii {s : Str} (h : IsAscii s) : encodeUtf8 s = some (encodeAscii s) := by
  have each : s.mapM encodeUtf8Char = some (s.map fun c => [UInt8.ofNat c]) := by
    induction s with
    | nil => rfl
    | cons c s ih =>
      have first : encodeUtf8Char c = some [UInt8.ofNat c] := by
        rw [encodeUtf8Char, if_pos (h c List.mem_cons_self)]
      rw [List.mapM_cons, first, ih (isAscii_cons.mp h).2]
      rfl
  have joined (t : Str) : (t.map fun c => [UInt8.ofNat c]).flatten = t.map UInt8.ofNat := by
    induction t with
    | nil => rfl
    | cons c t ih => rw [List.map_cons, List.flatten_cons, ih]; rfl
  rw [encodeUtf8, each, Option.map_some, joined, encodeAscii]

/-- A character that is not ASCII has a byte that is not. -/
theorem encodeUtf8Char_large {c : Nat} {bytes : Bytes} (large : 128 ≤ c)
    (h : encodeUtf8Char c = some bytes) : ∃ b ∈ bytes, 128 ≤ b.toNat := by
  have last : 128 ≤ (UInt8.ofNat (0x80 + c % 64)).toNat := by
    rw [UInt8.toNat_ofNat_of_lt' (by show _ < 256; omega)]
    omega
  unfold encodeUtf8Char at h
  split at h
  · omega
  split at h
  · obtain rfl := Option.some.inj h
    exact ⟨_, by simp, last⟩
  split at h
  · cases h
  split at h
  · obtain rfl := Option.some.inj h
    exact ⟨_, by simp, last⟩
  · obtain rfl := Option.some.inj h
    exact ⟨_, by simp, last⟩

theorem mapM_mem {α β : Type} {f : α → Option β} {as : List α} {bs : List β}
    (h : as.mapM f = some bs) : ∀ a ∈ as, ∃ b ∈ bs, f a = some b := by
  induction as generalizing bs with
  | nil => simp
  | cons a as ih =>
    rw [List.mapM_cons] at h
    obtain ⟨b, isFirst, h⟩ := Option.bind_eq_some_iff.mp h
    obtain ⟨rest, isRest, h⟩ := Option.bind_eq_some_iff.mp h
    obtain rfl := Option.some.inj h
    intro x hx
    rcases List.mem_cons.mp hx with rfl | hx
    · exact ⟨b, List.mem_cons_self, isFirst⟩
    · obtain ⟨y, hy, same⟩ := ih isRest x hx
      exact ⟨y, List.mem_cons_of_mem _ hy, same⟩

/-- A text that is encoded with ASCII bytes is these bytes. -/
theorem ascii_of_encodeUtf8 {s : Str} {bytes : Bytes}
    (h : encodeUtf8 s = some bytes) (ascii : ∀ b ∈ bytes, b.toNat < 128) :
    IsAscii s ∧ bytes = encodeAscii s := by
  have isAscii : IsAscii s := by
    obtain ⟨pieces, isPieces, rfl⟩ := Option.map_eq_some_iff.mp h
    intro c hc
    by_contra large
    obtain ⟨piece, hpiece, isPiece⟩ := mapM_mem isPieces c hc
    obtain ⟨b, hb, notAscii⟩ := encodeUtf8Char_large (by omega) isPiece
    have := ascii b (List.mem_flatten.mpr ⟨piece, hpiece, hb⟩)
    omega
  refine ⟨isAscii, ?_⟩
  rw [encodeUtf8_of_ascii isAscii] at h
  exact (Option.some.inj h).symm

theorem fromUtf8_of_ascii {bytes : Bytes} (h : ∀ b ∈ bytes, b.toNat < 128) :
    fromUtf8 bytes = some (bytes.map UInt8.toNat) := by
  induction bytes with
  | nil => rfl
  | cons b bytes ih =>
    have first := h b List.mem_cons_self
    unfold fromUtf8
    dsimp only
    rw [if_pos first, ih fun x hx => h x (List.mem_cons_of_mem _ hx)]
    rfl

theorem ascii_encodeAscii {s : Str} (h : IsAscii s) : ∀ b ∈ encodeAscii s, b.toNat < 128 := by
  intro b hb
  obtain ⟨c, hc, rfl⟩ := List.mem_map.mp hb
  have := h c hc
  rw [UInt8.toNat_ofNat_of_lt' (by show c < 256; omega)]
  exact this

theorem fromUtf8_encodeAscii {s : Str} (h : IsAscii s) : fromUtf8 (encodeAscii s) = some s := by
  rw [fromUtf8_of_ascii (ascii_encodeAscii h), map_toNat_encodeAscii h.small]

end Prometheus.Codec
