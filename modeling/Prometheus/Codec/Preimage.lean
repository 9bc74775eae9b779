import Prometheus.Codec.Frame

/-!
# Fields at the front of a preimage

A number of known width, or a text behind its own length, can be read off the front of a
concatenation whatever follows it. A preimage made of such fields is taken apart by these rules one
field after the other.
-/

namespace Prometheus.Codec

variable {w m n : Nat} {a b x y : Bytes}

theorem toBytesBig_append_inj (hm : m < 256 ^ w) (hn : n < 256 ^ w)
    (h : toBytesBig w m ++ x = toBytesBig w n ++ y) : m = n ∧ x = y := by
  obtain ⟨numbers, rest⟩ := List.append_inj h (by rw [length_toBytesBig, length_toBytesBig])
  exact ⟨toBytesBig_inj hm hn numbers, rest⟩

/-- A text behind its length in `w` bytes. -/
theorem sized_append_inj (ha : a.length < 256 ^ w) (hb : b.length < 256 ^ w)
    (h : toBytesBig w a.length ++ (a ++ x) = toBytesBig w b.length ++ (b ++ y)) :
    a = b ∧ x = y := by
  obtain ⟨lengths, rest⟩ := toBytesBig_append_inj ha hb h
  exact List.append_inj rest lengths

/-- A text behind its length in one byte. -/
theorem sizedByte_append_inj (ha : a.length < 256) (hb : b.length < 256)
    (h : UInt8.ofNat a.length :: (a ++ x) = UInt8.ofNat b.length :: (b ++ y)) :
    a = b ∧ x = y := by
  obtain ⟨lengthByte, rest⟩ := List.cons.inj h
  have lengths := congrArg UInt8.toNat lengthByte
  rw [UInt8.toNat_ofNat_of_lt' ha, UInt8.toNat_ofNat_of_lt' hb] at lengths
  exact List.append_inj rest lengths

/-! ## Numbers read from a digest -/

theorem fromBytesBig_lt (bytes : Bytes) : fromBytesBig bytes < 256 ^ bytes.length := by
  induction bytes using List.reverseRecOn with
  | nil => exact Nat.one_pos
  | append_singleton bytes b ih =>
    have small := b.toNat_lt
    rw [fromBytesBig_concat, List.length_append, List.length_singleton, pow_succ]
    omega

theorem fromBytesBig_inj (lengths : a.length = b.length) (h : fromBytesBig a = fromBytesBig b) :
    a = b := by
  rw [← toBytesBig_fromBytesBig a, ← toBytesBig_fromBytesBig b, lengths, h]

end Prometheus.Codec
