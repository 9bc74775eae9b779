import Prometheus.Codec.Canonical
import Prometheus.Jaeger.ThreatHintReplay.Ledger
import Prometheus.Machine.Calibration
import Prometheus.ThreatHint.NetworkId

/-!
# The confidence evaluation

`evaluate_confidence` of `confidence_calibration.py`: a corpus of labelled cases, one prediction for
each, and the pinned policy give a report of exact sums, rounded metrics, ten calibration bins and
the gate. Every refusal is the one `ConfidenceEvaluationError`.
-/

namespace Prometheus.Jaeger.ConfidenceCalibration

open Prometheus.Codec Prometheus.Machine
open Prometheus.Jaeger.ThreatHintReplay (isHex32)
open Prometheus.ThreatHint (isAlnum isAsciiAlphanumeric)

/-- `ConfidenceEvaluationError` carries nothing but its fixed text. -/
inductive ConfidenceEvaluationError
  | invalid
  deriving DecidableEq, Repr

/-! ## Evidence -/

structure BenchmarkCase where
  caseId : Str
  category : Str
  threatDescription : Str
  yaraRule : Str
  expectedAcceptable : Bool
  deriving DecidableEq, Repr

structure BenchmarkCorpus where
  corpusId : Str
  cases : List BenchmarkCase
  sha256 : Str
  deriving DecidableEq, Repr

structure ConfidencePrediction where
  caseId : Str
  confidenceBps : Int
  deriving DecidableEq, Repr

structure PredictionSet where
  evaluationMode : Str
  corpusSha256 : Str
  subjectId : Str
  subjectSha256 : Str
  promptSha256 : Str
  predictions : List ConfidencePrediction
  sha256 : Str
  deriving DecidableEq, Repr

structure GatePolicy where
  thresholdBps : Int
  calibrationBinWidthBps : Int
  minimumCases : Int
  minimumClassCases : Int
  minimumPrecisionBps : Int
  minimumRecallBps : Int
  maximumBrierScorePpm : Int
  maximumExpectedCalibrationErrorBps : Int
  sha256 : Str
  deriving DecidableEq, Repr

def schemaVersion : Int := 1

def evaluatorVersion : Str := str "guardian-confidence-eval-v1"

def nonAuthorityDisclaimer : Str :=
  str "Synthetic offline evaluation only; not live-model quality, production calibration, or authorization."

def localModelNonAuthorityDisclaimer : Str :=
  str "Local model candidate evaluation only; development metrics are not production calibration, quality certification, or authorization."

/-- `EVALUATION_INPUT_DOMAIN`. -/
def evaluationInputDomain : Bytes := ascii "prometheus-guardian-confidence-evaluation-v1" ++ [0]

def submissionThresholdBps : Int := 8500

def calibrationBinWidthBps : Int := 1000

def calibrationBinCount : Nat := 10

def minCases : Int := 20

def minClassCases : Int := 8

def minPrecisionBps : Int := 9000

def minRecallBps : Int := 8000

def maxBrierPpm : Int := 150000

def maxEceBps : Int := 1000

/-- `EVALUATION_MODE`. -/
def evaluationMode : Str := str "synthetic_ci"

def localModelEvaluationMode : Str := str "local_model_candidate"

/-! ## Validation -/

/-- `raise ConfidenceEvaluationError()` unless the condition holds. -/
def require (p : Prop) [Decidable p] : Except ConfidenceEvaluationError Unit :=
  if ¬ p then .error .invalid else .ok ()

/-- `_identifier`; the pattern is `[a-z0-9][a-z0-9._-]*`. -/
def identifier (value : Str) (maximumLength : Nat) : Except ConfidenceEvaluationError Str := do
  require (3 ≤ value.length ∧ value.length ≤ maximumLength)
  require (value.head?.any isAlnum ∧ value.all fun c => isAlnum c || c == 46 || c == 95 || c == 45)
  return value

/-- `_subject_identifier`; the pattern is a letter or digit, then these, dots, slashes and dashes. -/
def subjectIdentifier (value : Str) (maximumLength : Nat) : Except ConfidenceEvaluationError Str := do
  require (1 ≤ value.length ∧ value.length ≤ maximumLength)
  require (value.head?.any isAsciiAlphanumeric ∧
    value.all fun c => isAsciiAlphanumeric c || c == 46 || c == 95 || c == 47 || c == 45)
  require ((value.splitOn 47).all fun component =>
    component != [] && component != str "." && component != str "..")
  return value

/-- `_bounded_ascii_text`. -/
def boundedAsciiText (value : Str) (maximumLength : Nat) : Except ConfidenceEvaluationError Str := do
  require (value ≠ [] ∧ value.length ≤ maximumLength ∧
    value.all fun c => c == 10 || c == 13 || c == 9 || (decide (32 ≤ c) && decide (c ≤ 126)))
  return value

/-- `_lower_hex_32`. -/
def lowerHex32 (value : Str) : Except ConfidenceEvaluationError Str := do
  require (isHex32 value)
  return value

/-- `_nonzero_lower_hex_32`. -/
def nonzeroLowerHex32 (value : Str) : Except ConfidenceEvaluationError Str := do
  let parsed ← lowerHex32 value
  require (parsed ≠ List.replicate 64 48)
  return parsed

/-- The loop's body of `_validate_evaluation_inputs`. -/
def validateCase (pair : BenchmarkCase × ConfidencePrediction) :
    Except ConfidenceEvaluationError Unit := do
  let _ ← identifier pair.1.caseId 64
  let _ ← identifier pair.1.category 64
  let _ ← boundedAsciiText pair.1.threatDescription 2048
  let _ ← boundedAsciiText pair.1.yaraRule 4096
  require (0 ≤ pair.2.confidenceBps ∧ pair.2.confidenceBps ≤ 10000 ∧
    pair.2.caseId = pair.1.caseId)

/-- The conditions on the policy. -/
def IsPinned (policy : GatePolicy) : Prop :=
  policy.thresholdBps = submissionThresholdBps ∧
  policy.calibrationBinWidthBps = calibrationBinWidthBps ∧
  policy.minimumCases = minCases ∧
  policy.minimumClassCases = minClassCases ∧
  policy.minimumPrecisionBps = minPrecisionBps ∧
  policy.minimumRecallBps = minRecallBps ∧
  policy.maximumBrierScorePpm = maxBrierPpm ∧
  policy.maximumExpectedCalibrationErrorBps = maxEceBps

instance (policy : GatePolicy) : Decidable (IsPinned policy) := by
  unfold IsPinned
  infer_instance

/-- `_validate_evaluation_inputs`. -/
def validateEvaluationInputs (corpus : BenchmarkCorpus) (predictionSet : PredictionSet)
    (policy : GatePolicy) : Except ConfidenceEvaluationError Unit := do
  let corpusSha256 ← lowerHex32 corpus.sha256
  require (corpusSha256 = predictionSet.corpusSha256)
  let _ ← lowerHex32 predictionSet.sha256
  let _ ← nonzeroLowerHex32 predictionSet.subjectSha256
  let _ ← nonzeroLowerHex32 predictionSet.promptSha256
  require (predictionSet.evaluationMode ∈ [evaluationMode, localModelEvaluationMode])
  let _ ← subjectIdentifier predictionSet.subjectId 128
  require (IsPinned policy)
  let _ ← lowerHex32 policy.sha256
  let pairs := corpus.cases.zip predictionSet.predictions
  pairs.forM validateCase
  let caseIds : List Str := pairs.map fun pair => pair.1.caseId
  let predictionIds : List Str := pairs.map fun pair => pair.2.caseId
  require (caseIds = caseIds.insertionSort (· ≤ ·))
  require caseIds.Nodup
  require (predictionIds = caseIds)
  require (minClassCases ≤ corpus.cases.countP fun case => case.expectedAcceptable)
  require (minClassCases ≤ corpus.cases.countP fun case => !case.expectedAcceptable)

/-! ## Metrics -/

/-- `_round_ratio`. -/
def roundRatio (numerator denominator : Int) : Except ConfidenceEvaluationError Int := do
  require (0 < denominator ∧ 0 ≤ numerator)
  return (2 * numerator + denominator) / (2 * denominator)

/-- `_ratio_bps`. -/
def ratioBps (numerator denominator : Int) : Except ConfidenceEvaluationError (Option Int) :=
  if denominator = 0 then return none
  else return some (← roundRatio (numerator * 10000) denominator)

/-- The tally of one bin. -/
structure Bin where
  count : Int
  positiveCount : Int
  confidenceSumBps : Int
  deriving DecidableEq, Repr

/-- The accumulators of the loop. -/
structure Totals where
  truePositive : Int
  falsePositive : Int
  trueNegative : Int
  falseNegative : Int
  squaredErrorSum : Int
  bins : List Bin
  deriving DecidableEq, Repr

def Totals.zero : Totals := ⟨0, 0, 0, 0, 0, List.replicate calibrationBinCount ⟨0, 0, 0⟩⟩

/-- `bin_index`; a validated confidence is not negative. -/
def binIndex (confidenceBps : Int) : Nat :=
  (min (confidenceBps / calibrationBinWidthBps) (calibrationBinCount - 1)).toNat

/-- The increments of `bins[bin_index]`. -/
def Bin.add (bin : Bin) (pair : BenchmarkCase × ConfidencePrediction) : Bin where
  count := bin.count + 1
  positiveCount := bin.positiveCount + (if pair.1.expectedAcceptable then 1 else 0)
  confidenceSumBps := bin.confidenceSumBps + pair.2.confidenceBps

/-- The branches that count one case. -/
def Totals.classify (totals : Totals) (expectedAcceptable predictedAcceptable : Bool) : Totals :=
  if expectedAcceptable && predictedAcceptable then
    { totals with truePositive := totals.truePositive + 1 }
  else if expectedAcceptable then { totals with falseNegative := totals.falseNegative + 1 }
  else if predictedAcceptable then { totals with falsePositive := totals.falsePositive + 1 }
  else { totals with trueNegative := totals.trueNegative + 1 }

/-- The distance that is squared. -/
def errorBps (pair : BenchmarkCase × ConfidencePrediction) : Int :=
  pair.2.confidenceBps - (if pair.1.expectedAcceptable then 10000 else 0)

/-- The body of the loop. -/
def Totals.step (policy : GatePolicy) (totals : Totals) (pair : BenchmarkCase × ConfidencePrediction) :
    Except ConfidenceEvaluationError Totals := do
  require (pair.1.caseId = pair.2.caseId)
  let counted := totals.classify pair.1.expectedAcceptable
    (decide (policy.thresholdBps ≤ pair.2.confidenceBps))
  return { counted with
    squaredErrorSum := counted.squaredErrorSum + errorBps pair ^ 2
    bins := counted.bins.modify (binIndex pair.2.confidenceBps) fun bin => bin.add pair }

/-- A row of `calibration_bins`. -/
structure CalibrationBin where
  index : Int
  lowerBps : Int
  upperBps : Int
  count : Int
  positiveCount : Int
  meanConfidenceBps : Option Int
  observedPositiveBps : Option Int
  absoluteGapBps : Option Int
  absoluteGapSumBps : Int
  deriving DecidableEq, Repr

def Bin.gap (bin : Bin) : Int := |bin.confidenceSumBps - bin.positiveCount * 10000|

/-- The loop's body of `_build_calibration_bins`. -/
def buildCalibrationBin (indexed : Bin × Nat) : Except ConfidenceEvaluationError CalibrationBin := do
  let (bin, index) := indexed
  let lowerBps := index * calibrationBinWidthBps
  let upperBps :=
    if index = calibrationBinCount - 1 then 10000 else lowerBps + calibrationBinWidthBps - 1
  if bin.count = 0 then
    return ⟨index, lowerBps, upperBps, bin.count, bin.positiveCount, none, none, none, bin.gap⟩
  else
    let meanConfidenceBps ← roundRatio bin.confidenceSumBps bin.count
    let observedPositiveBps ← ratioBps bin.positiveCount bin.count
    let absoluteGapBps ← roundRatio bin.gap bin.count
    return ⟨index, lowerBps, upperBps, bin.count, bin.positiveCount, some meanConfidenceBps,
      observedPositiveBps, some absoluteGapBps, bin.gap⟩

/-- `_build_calibration_bins`; its `absolute_gap_sum` leaves the empty bins out. -/
def buildCalibrationBins (bins : List Bin) (sampleCount : Int) :
    Except ConfidenceEvaluationError (List CalibrationBin × Int) := do
  let output ← bins.zipIdx.mapM buildCalibrationBin
  let absoluteGapSum := ((bins.filter fun bin => bin.count ≠ 0).map Bin.gap).sum
  return (output, ← roundRatio absoluteGapSum sampleCount)

/-! ## The report -/

structure ConfusionMatrix where
  truePositive : Int
  falsePositive : Int
  trueNegative : Int
  falseNegative : Int
  deriving DecidableEq, Repr

/-- `precision` and `recall`. -/
structure Ratio where
  numerator : Int
  denominator : Int
  bps : Option Int
  deriving DecidableEq, Repr

structure BrierScore where
  sumSquaredErrorBps2 : Int
  sampleCount : Int
  ppm : Int
  deriving DecidableEq, Repr

structure ExpectedCalibrationError where
  absoluteGapSumBps : Int
  sampleCount : Int
  bps : Int
  deriving DecidableEq, Repr

structure Metrics where
  precision : Ratio
  recallRatio : Ratio
  brierScore : BrierScore
  expectedCalibrationError : ExpectedCalibrationError
  deriving DecidableEq, Repr

/-- `policy` of the report. -/
structure PolicyBounds where
  minimumCases : Int
  minimumClassCases : Int
  minimumPrecisionBps : Int
  minimumRecallBps : Int
  maximumBrierScorePpm : Int
  maximumExpectedCalibrationErrorBps : Int
  deriving DecidableEq, Repr

def GatePolicy.bounds (policy : GatePolicy) : PolicyBounds :=
  ⟨policy.minimumCases, policy.minimumClassCases, policy.minimumPrecisionBps,
    policy.minimumRecallBps, policy.maximumBrierScorePpm, policy.maximumExpectedCalibrationErrorBps⟩

structure Checks where
  minimumSampleCount : Bool
  minimumClassCount : Bool
  minimumPrecision : Bool
  minimumRecall : Bool
  maximumBrierScore : Bool
  maximumExpectedCalibrationError : Bool
  deriving DecidableEq, Repr

/-- `all(checks.values())`. -/
def Checks.all (checks : Checks) : Bool :=
  checks.minimumSampleCount && checks.minimumClassCount && checks.minimumPrecision &&
    checks.minimumRecall && checks.maximumBrierScore && checks.maximumExpectedCalibrationError

structure Report where
  schemaVersion : Int
  evaluatorVersion : Str
  evidenceClass : Str
  productionAuthorized : Bool
  disclaimer : Str
  corpusId : Str
  corpusSha256 : Str
  predictionsSha256 : Str
  policySha256 : Str
  evaluationInputDigest : Str
  evaluationMode : Str
  subjectId : Str
  subjectSha256 : Str
  promptSha256 : Str
  sampleCount : Int
  thresholdBps : Int
  confusionMatrix : ConfusionMatrix
  metrics : Metrics
  calibrationBins : List CalibrationBin
  policy : PolicyBounds
  checks : Checks
  gatePass : Bool
  deriving DecidableEq, Repr

/-- The six comparisons of the gate. -/
def gateChecks (policy : GatePolicy) (totals : Totals) (sampleCount absoluteGapSum : Int) : Checks where
  minimumSampleCount := decide (policy.minimumCases ≤ sampleCount)
  minimumClassCount :=
    decide (policy.minimumClassCases ≤ totals.truePositive + totals.falseNegative) &&
      decide (policy.minimumClassCases ≤ totals.trueNegative + totals.falsePositive)
  minimumPrecision :=
    decide (0 < totals.truePositive + totals.falsePositive) &&
      decide (policy.minimumPrecisionBps * (totals.truePositive + totals.falsePositive) ≤
        totals.truePositive * 10000)
  minimumRecall :=
    decide (0 < totals.truePositive + totals.falseNegative) &&
      decide (policy.minimumRecallBps * (totals.truePositive + totals.falseNegative) ≤
        totals.truePositive * 10000)
  maximumBrierScore :=
    decide (totals.squaredErrorSum ≤ policy.maximumBrierScorePpm * sampleCount * 100)
  maximumExpectedCalibrationError :=
    decide (absoluteGapSum ≤ policy.maximumExpectedCalibrationErrorBps * sampleCount)

/-- The class and the disclaimer of an evaluation mode. -/
def evidence (mode : Str) : Except ConfidenceEvaluationError (Str × Str) :=
  if mode = evaluationMode then .ok (str "synthetic_ci_only", nonAuthorityDisclaimer)
  else if mode = localModelEvaluationMode then
    .ok (str "local_model_candidate_only", localModelNonAuthorityDisclaimer)
  else .error .invalid

/-- `evaluate_confidence`. -/
def evaluateConfidence (sha256 : Bytes → Bytes) (corpus : BenchmarkCorpus)
    (predictionSet : PredictionSet) (policy : GatePolicy) :
    Except ConfidenceEvaluationError Report := do
  require (predictionSet.corpusSha256 = corpus.sha256)
  require (corpus.cases.length = predictionSet.predictions.length)
  validateEvaluationInputs corpus predictionSet policy
  let (evidenceClass, disclaimer) ← evidence predictionSet.evaluationMode
  let totals ← (corpus.cases.zip predictionSet.predictions).foldlM (Totals.step policy) .zero
  let sampleCount : Int := corpus.cases.length
  let precisionDenominator := totals.truePositive + totals.falsePositive
  let recallDenominator := totals.truePositive + totals.falseNegative
  let precisionBps ← ratioBps totals.truePositive precisionDenominator
  let recallBps ← ratioBps totals.truePositive recallDenominator
  let brierPpm ← roundRatio totals.squaredErrorSum (sampleCount * 100)
  let (calibrationBins, eceBps) ← buildCalibrationBins totals.bins sampleCount
  let absoluteGapSum := (calibrationBins.map CalibrationBin.absoluteGapSumBps).sum
  let checks := gateChecks policy totals sampleCount absoluteGapSum
  let inputDigest := hex (sha256 (evaluationInputDomain ++ fromHex corpus.sha256 ++
    fromHex predictionSet.sha256 ++ fromHex policy.sha256))
  return {
    schemaVersion := schemaVersion
    evaluatorVersion := evaluatorVersion
    evidenceClass := evidenceClass
    productionAuthorized := false
    disclaimer := disclaimer
    corpusId := corpus.corpusId
    corpusSha256 := corpus.sha256
    predictionsSha256 := predictionSet.sha256
    policySha256 := policy.sha256
    evaluationInputDigest := inputDigest
    evaluationMode := predictionSet.evaluationMode
    subjectId := predictionSet.subjectId
    subjectSha256 := predictionSet.subjectSha256
    promptSha256 := predictionSet.promptSha256
    sampleCount := sampleCount
    thresholdBps := policy.thresholdBps
    confusionMatrix := ⟨totals.truePositive, totals.falsePositive, totals.trueNegative,
      totals.falseNegative⟩
    metrics := ⟨⟨totals.truePositive, precisionDenominator, precisionBps⟩,
      ⟨totals.truePositive, recallDenominator, recallBps⟩,
      ⟨totals.squaredErrorSum, sampleCount, brierPpm⟩, ⟨absoluteGapSum, sampleCount, eceBps⟩⟩
    calibrationBins := calibrationBins
    policy := policy.bounds
    checks := checks
    gatePass := checks.all }

end Prometheus.Jaeger.ConfidenceCalibration
