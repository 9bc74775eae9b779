import Prometheus.Codec.Bytes

/-!
# SHA-256

`hashlib.sha256(…).digest()` and `Sha256::digest`, over natural numbers below `2 ^ 32`. The results
of this development hold for any hash function; this one makes their example runs concrete.
-/

namespace Prometheus.Codec

namespace Sha256

/-- The round constants. -/
def roundConstants : List Nat :=
  [0x428a2f98, 0x71374491, 0xb5c0fbcf, 0xe9b5dba5, 0x3956c25b, 0x59f111f1, 0x923f82a4, 0xab1c5ed5,
   0xd807aa98, 0x12835b01, 0x243185be, 0x550c7dc3, 0x72be5d74, 0x80deb1fe, 0x9bdc06a7, 0xc19bf174,
   0xe49b69c1, 0xefbe4786, 0x0fc19dc6, 0x240ca1cc, 0x2de92c6f, 0x4a7484aa, 0x5cb0a9dc, 0x76f988da,
   0x983e5152, 0xa831c66d, 0xb00327c8, 0xbf597fc7, 0xc6e00bf3, 0xd5a79147, 0x06ca6351, 0x14292967,
   0x27b70a85, 0x2e1b2138, 0x4d2c6dfc, 0x53380d13, 0x650a7354, 0x766a0abb, 0x81c2c92e, 0x92722c85,
   0xa2bfe8a1, 0xa81a664b, 0xc24b8b70, 0xc76c51a3, 0xd192e819, 0xd6990624, 0xf40e3585, 0x106aa070,
   0x19a4c116, 0x1e376c08, 0x2748774c, 0x34b0bcb5, 0x391c0cb3, 0x4ed8aa4a, 0x5b9cca4f, 0x682e6ff3,
   0x748f82ee, 0x78a5636f, 0x84c87814, 0x8cc70208, 0x90befffa, 0xa4506ceb, 0xbef9a3f7, 0xc67178f2]

/-- The initial hash value. -/
def initialState : List Nat :=
  [0x6a09e667, 0xbb67ae85, 0x3c6ef372, 0xa54ff53a, 0x510e527f, 0x9b05688c, 0x1f83d9ab, 0x5be0cd19]

def rotateRight (x n : Nat) : Nat := (x >>> n) ||| ((x <<< (32 - n)) % 2 ^ 32)

/-- The message, a one bit, zeros, and the length in bits, in whole blocks of 64 bytes. -/
def pad (message : Bytes) : Bytes :=
  message ++ [128] ++ List.replicate ((119 - message.length % 64) % 64) 0 ++
    toBytesBig 8 (8 * message.length)

/-- The big-endian words of a block. -/
def words : Bytes → List Nat
  | a :: b :: c :: d :: rest =>
    (((a.toNat * 256 + b.toNat) * 256 + c.toNat) * 256 + d.toNat) :: words rest
  | _ => []

/-- Extend a message schedule, latest word first, by `n` words. -/
def extendSchedule : Nat → List Nat → List Nat
  | 0, w => w
  | n + 1, w =>
    let w2 := w.getD 1 0
    let w15 := w.getD 14 0
    let s1 := rotateRight w2 17 ^^^ rotateRight w2 19 ^^^ (w2 >>> 10)
    let s0 := rotateRight w15 7 ^^^ rotateRight w15 18 ^^^ (w15 >>> 3)
    extendSchedule n ((s1 + w.getD 6 0 + s0 + w.getD 15 0) % 2 ^ 32 :: w)

/-- One round for the round constant and schedule word `k` and `w`. -/
def round (state : List Nat) (kw : Nat × Nat) : List Nat :=
  match state with
  | [a, b, c, d, e, f, g, h] =>
    let s1 := rotateRight e 6 ^^^ rotateRight e 11 ^^^ rotateRight e 25
    let ch := (e &&& f) ^^^ ((2 ^ 32 - 1 - e) &&& g)
    let t1 := h + s1 + ch + kw.1 + kw.2
    let s0 := rotateRight a 2 ^^^ rotateRight a 13 ^^^ rotateRight a 22
    let maj := (a &&& b) ^^^ (a &&& c) ^^^ (b &&& c)
    [(t1 + s0 + maj) % 2 ^ 32, a, b, c, (d + t1) % 2 ^ 32, e, f, g]
  | _ => state

/-- Absorb one block. -/
def compress (state : List Nat) (block : Bytes) : List Nat :=
  let schedule := (extendSchedule 48 (words block).reverse).reverse
  let rounds := (roundConstants.zip schedule).foldl round state
  List.zipWith (fun x y => (x + y) % 2 ^ 32) state rounds

/-- Absorb the first `n` blocks of 64 bytes. -/
def absorb : Nat → List Nat → Bytes → List Nat
  | 0, state, _ => state
  | n + 1, state, message => absorb n (compress state (message.take 64)) (message.drop 64)

end Sha256

/-- SHA-256. -/
def sha256 (message : Bytes) : Bytes :=
  let padded := Sha256.pad message
  (Sha256.absorb (padded.length / 64) Sha256.initialState padded).flatMap (toBytesBig 4)

namespace Sha256

theorem length_round (state : List Nat) (kw : Nat × Nat) :
    (round state kw).length = state.length := by
  unfold round
  split <;> rfl

theorem length_compress (state : List Nat) (block : Bytes) :
    (compress state block).length = state.length := by
  have rounds (pairs : List (Nat × Nat)) (start : List Nat) :
      (pairs.foldl round start).length = start.length := by
    induction pairs generalizing start with
    | nil => rfl
    | cons kw pairs ih => rw [List.foldl_cons, ih, length_round]
  rw [compress, List.length_zipWith, rounds, Nat.min_self]

theorem length_absorb (n : Nat) (state : List Nat) (message : Bytes) :
    (absorb n state message).length = state.length := by
  induction n generalizing state message with
  | zero => rfl
  | succ n ih => rw [absorb, ih, length_compress]

end Sha256

/-- A digest has 32 bytes. -/
theorem length_sha256 (message : Bytes) : (sha256 message).length = 32 := by
  have words (state : List Nat) : (state.flatMap (toBytesBig 4)).length = 4 * state.length := by
    induction state with
    | nil => rfl
    | cons word state ih =>
      rw [List.flatMap_cons, List.length_append, length_toBytesBig, ih, List.length_cons]
      omega
  rw [sha256, words, Sha256.length_absorb]
  rfl

example : hex (sha256 (ascii "abc")) =
    str "ba7816bf8f01cfea414140de5dae2223b00361a396177a9cb410ff61f20015ad" := by
  decide

end Prometheus.Codec
