import Prometheus.Codec.Sha256
import Prometheus.Machine.Runs

/-!
# The structural triage of a byte input

`client/src/security/heuristic.rs`: one pass over the bytes and a search for magic prefixes give the
reasons of a report and its score. The counters are machine integers: an operation whose result does
not fit its type is an overflow.
-/

namespace Prometheus.Client.Heuristic

open Prometheus.Codec

/-- `MAX_INPUT_LEN`. -/
def maxInputLen : Nat := 16 * 1024 * 1024

/-- `MAX_SCORE_BP`. -/
def maxScoreBp : Nat := 10000

/-- `BYTE_DIVERSITY_THRESHOLD`. -/
def byteDiversityThreshold : Nat := 200

/-- `NULL_DENSITY_NUMERATOR`, `NULL_DENSITY_DENOMINATOR`. -/
def nullDensityNumerator : Nat := 1
def nullDensityDenominator : Nat := 4

/-- `NON_PRINTABLE_NUMERATOR`, `NON_PRINTABLE_DENOMINATOR`. -/
def nonPrintableNumerator : Nat := 3
def nonPrintableDenominator : Nat := 5

/-- `UNIFORM_RUN_THRESHOLD`. -/
def uniformRunThreshold : Nat := 4096

inductive TriageReason
  | executableMagicAtStart
  | embeddedExecutableMagic
  | highByteDiversity
  | highNullByteDensity
  | highNonPrintableDensity
  | longUniformRun
  deriving DecidableEq, Repr

/-- `weight_bp`. -/
def TriageReason.weightBp : TriageReason → Nat
  | .executableMagicAtStart => 4000
  | .embeddedExecutableMagic => 2000
  | .highByteDiversity => 2000
  | .highNullByteDensity => 1500
  | .highNonPrintableDensity => 1500
  | .longUniformRun => 500

structure TriageReport where
  scoreBp : Nat
  reasons : List TriageReason
  sha256 : Bytes
  inputLen : Nat
  deriving DecidableEq, Repr

/-- What a call can end in without a report. -/
inductive TriageFailure
  | bail (message : String)
  | overflow
  deriving DecidableEq, Repr

/-- An addition in a type with the given largest value. -/
def checkedAdd (limit a b : Nat) : Except TriageFailure Nat :=
  if limit < a + b then .error .overflow else .ok (a + b)

/-- A multiplication in a type with the given largest value. -/
def checkedMul (limit a b : Nat) : Except TriageFailure Nat :=
  if limit < a * b then .error .overflow else .ok (a * b)

/-- `usize::MAX`, `u32::MAX` and `u16::MAX`. -/
def usizeMax : Nat := 2 ^ 64 - 1
def u32Max : Nat := 2 ^ 32 - 1
def u16Max : Nat := 2 ^ 16 - 1

/-- `MAGIC_PREFIXES`. -/
def magicPrefixes : List Bytes :=
  [[77, 90], [0x7f, 69, 76, 70], [35, 33], [0xfe, 0xed, 0xfa, 0xce], [0xce, 0xfa, 0xed, 0xfe],
    [0xfe, 0xed, 0xfa, 0xcf], [0xcf, 0xfa, 0xed, 0xfe]]

/-- `starts_with_magic`. -/
def startsWithMagic (data : Bytes) : Bool :=
  magicPrefixes.any fun magic => magic.isPrefixOf data

/-- The match of `has_embedded_magic` on a byte; `data` starts at the byte's offset. -/
def dispatch (byte : UInt8) (data : Bytes) : Bool :=
  if byte = 77 then List.isPrefixOf [77, 90] data
  else if byte = 0x7f then List.isPrefixOf [0x7f, 69, 76, 70] data
  else if byte = 35 then List.isPrefixOf [35, 33] data
  else if byte = 0xfe ∨ byte = 0xce ∨ byte = 0xcf then
    (magicPrefixes.drop 3).any fun magic => magic.isPrefixOf data
  else false

/-- `has_embedded_magic`. -/
def hasEmbeddedMagic (data : Bytes) : Bool :=
  (data.zipIdx.drop 1).any fun (byte, offset) => dispatch byte (data.drop offset)

/-- `is_printable`. -/
def isPrintable (byte : UInt8) : Bool :=
  (decide (0x20 ≤ byte) && decide (byte ≤ 0x7e)) || byte == 9 || byte == 13 || byte == 10

/-- The variables of the loop over the bytes. -/
structure Counters where
  distinct : Vector Bool 256
  nullCount : Nat
  nonPrintableCount : Nat
  maxRun : Nat
  currentRun : Nat
  previousByte : Option UInt8

/-- The variables before the loop. -/
def Counters.start : Counters where
  distinct := Vector.replicate 256 false
  nullCount := 0
  nonPrintableCount := 0
  maxRun := 0
  currentRun := 0
  previousByte := none

/-- One turn of the loop. -/
def Counters.count (c : Counters) (byte : UInt8) : Except TriageFailure Counters := do
  let distinct := c.distinct.set byte.toNat true byte.toNat_lt
  let nullCount ← (if byte = 0 then checkedAdd usizeMax c.nullCount 1 else .ok c.nullCount)
  let nonPrintableCount ←
    (if ¬ isPrintable byte then checkedAdd usizeMax c.nonPrintableCount 1
    else .ok c.nonPrintableCount)
  let currentRun ←
    (if c.previousByte = some byte then checkedAdd usizeMax c.currentRun 1 else .ok 1)
  let previousByte := if c.previousByte = some byte then c.previousByte else some byte
  let maxRun := if c.maxRun < currentRun then currentRun else c.maxRun
  .ok { distinct, nullCount, nonPrintableCount, maxRun, currentRun, previousByte }

/-- The fold over the weights. -/
def sumWeights : Nat → List TriageReason → Except TriageFailure Nat
  | acc, [] => .ok acc
  | acc, reason :: reasons => do
    let acc ← checkedAdd u32Max acc reason.weightBp
    sumWeights acc reasons

/-- `reasons.push(reason)` under a condition. -/
def push (reasons : List TriageReason) (condition : Bool) (reason : TriageReason) :
    List TriageReason :=
  if condition then reasons ++ [reason] else reasons

def triageBytes (sha256 : Bytes → Bytes) (data : Bytes) : Except TriageFailure TriageReport :=
  if data = [] then .error (.bail "heuristic input must not be empty")
  else if maxInputLen < data.length then
    .error (.bail "heuristic input exceeds the 16 MiB limit")
  else do
    let digest := sha256 data
    let reasons := push [] (startsWithMagic data) .executableMagicAtStart
    let reasons := push reasons (hasEmbeddedMagic data) .embeddedExecutableMagic
    let c ← data.foldlM Counters.count Counters.start
    let distinctCount := c.distinct.countP fun seen => seen
    let reasons := push reasons (byteDiversityThreshold ≤ distinctCount) .highByteDiversity
    let nulls ← checkedMul usizeMax c.nullCount nullDensityDenominator
    let nullLimit ← checkedMul usizeMax data.length nullDensityNumerator
    let reasons := push reasons (nullLimit < nulls) .highNullByteDensity
    let nonPrintables ← checkedMul usizeMax c.nonPrintableCount nonPrintableDenominator
    let nonPrintableLimit ← checkedMul usizeMax data.length nonPrintableNumerator
    let reasons := push reasons (nonPrintableLimit < nonPrintables) .highNonPrintableDensity
    let reasons := push reasons (uniformRunThreshold ≤ c.maxRun) .longUniformRun
    let total ← sumWeights 0 reasons
    -- The cast to `u16` keeps the value only if it fits.
    let scoreBp := min total maxScoreBp % (u16Max + 1)
    .ok { scoreBp, reasons, sha256 := digest, inputLen := data.length }

end Prometheus.Client.Heuristic
