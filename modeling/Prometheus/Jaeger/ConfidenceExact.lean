import Prometheus.Codec.Sha256
import Prometheus.Jaeger.ConfidenceCalibration

/-!
# The metrics are exact

What the loop accumulates are the counts and sums of the sample, a bin holds the cases whose
confidence is in its interval, and the gate compares the exact rational metrics with the policy.
-/

namespace Prometheus.Jaeger.ConfidenceCalibration

open Prometheus.Codec Prometheus.Machine

/-- A case with its prediction. -/
abbrev Pair := BenchmarkCase × ConfidencePrediction

/-! ## The functions that may raise -/

@[simp] theorem require_ok {p : Prop} [Decidable p] {u : Unit} : require p = .ok u ↔ p := by
  rw [require, ite_error_eq_ok, not_not]
  exact and_iff_left rfl

theorem pure_ok {α : Type} {a b : α} : (pure a : Except ConfidenceEvaluationError α) = .ok b ↔ a = b :=
  ⟨Except.ok.inj, congrArg _⟩

theorem mapM_ok {α β : Type} {f : α → Except ConfidenceEvaluationError β} {l : List α} {ys : List β} :
    l.mapM f = .ok ys → List.Forall₂ (fun x y => f x = .ok y) l ys := by
  induction l generalizing ys with
  | nil =>
    intro h
    rw [List.mapM_nil, pure_ok] at h
    subst h
    exact .nil
  | cons x l ih =>
    intro h
    rw [List.mapM_cons, bind_eq_ok] at h
    obtain ⟨y, first, h⟩ := h
    rw [bind_eq_ok] at h
    obtain ⟨ys', rest, h⟩ := h
    rw [pure_ok] at h
    subst h
    exact .cons first (ih rest)

/-! ## What the inputs promise -/

/-- The facts about accepted inputs that the metrics rest on. -/
structure Accepted (corpus : BenchmarkCorpus) (predictionSet : PredictionSet) (policy : GatePolicy) :
    Prop where
  length : corpus.cases.length = predictionSet.predictions.length
  bounded : ∀ pair ∈ corpus.cases.zip predictionSet.predictions,
    0 ≤ pair.2.confidenceBps ∧ pair.2.confidenceBps ≤ 10000
  pinned : IsPinned policy
  positive : minClassCases ≤ (corpus.cases.countP fun case => case.expectedAcceptable : Nat)

theorem forM_ok {α : Type} {f : α → Except ConfidenceEvaluationError Unit} {l : List α} {u : Unit} :
    l.forM f = .ok u → ∀ x ∈ l, f x = .ok () := by
  induction l with
  | nil => simp
  | cons x l ih =>
    intro h
    obtain ⟨_, first, rest⟩ := bind_eq_ok.mp h
    exact List.forall_mem_cons.mpr ⟨first, ih rest⟩

theorem validateCase_ok {pair : Pair} {u : Unit} (h : validateCase pair = .ok u) :
    0 ≤ pair.2.confidenceBps ∧ pair.2.confidenceBps ≤ 10000 := by
  simp only [validateCase, bind_eq_ok, require_ok] at h
  obtain ⟨_, -, _, -, _, -, _, -, low, high, -⟩ := h
  exact ⟨low, high⟩

theorem validateEvaluationInputs_ok {corpus : BenchmarkCorpus} {predictionSet : PredictionSet}
    {policy : GatePolicy} {u : Unit} (length : corpus.cases.length = predictionSet.predictions.length)
    (h : validateEvaluationInputs corpus predictionSet policy = .ok u) :
    Accepted corpus predictionSet policy := by
  simp only [validateEvaluationInputs, bind_eq_ok, require_ok] at h
  obtain ⟨_, -, _, -, _, -, _, -, _, -, _, -, _, -, _, pinned, _, -, _, cases, _, -, _, -, _, -, _,
    positive, -⟩ := h
  exact ⟨length, fun pair isPair => validateCase_ok (forM_ok cases pair isPair), pinned, positive⟩

/-! ## The loop -/

section Loop

variable {policy : GatePolicy} {totals totals' : Totals} {pair : Pair} {pairs : List Pair}

/-- The prediction of a case reaches the threshold. -/
def predicted (policy : GatePolicy) (pair : Pair) : Bool :=
  decide (policy.thresholdBps ≤ pair.2.confidenceBps)

def pairBin (pair : Pair) : Nat := binIndex pair.2.confidenceBps

theorem step_ok (h : totals.step policy pair = .ok totals') :
    totals' = { totals.classify pair.1.expectedAcceptable (predicted policy pair) with
      squaredErrorSum := totals.squaredErrorSum + errorBps pair ^ 2
      bins := totals.bins.modify (pairBin pair) fun bin => bin.add pair } := by
  simp only [Totals.step, bind_eq_ok, require_ok, pure_ok] at h
  obtain ⟨_, -, rfl⟩ := h
  have rest : ∀ expected predicted, (totals.classify expected predicted).squaredErrorSum =
      totals.squaredErrorSum ∧ (totals.classify expected predicted).bins = totals.bins := by
    intro expected predicted
    cases expected <;> cases predicted <;> exact ⟨rfl, rfl⟩
  rw [(rest _ _).1, (rest _ _).2]
  rfl

/-- What the loop has added. -/
structure Added (policy : GatePolicy) (totals totals' : Totals) (pairs : List Pair) : Prop where
  truePositive : totals'.truePositive = totals.truePositive +
    (pairs.countP fun pair => pair.1.expectedAcceptable && predicted policy pair : Nat)
  falsePositive : totals'.falsePositive = totals.falsePositive +
    (pairs.countP fun pair => !pair.1.expectedAcceptable && predicted policy pair : Nat)
  trueNegative : totals'.trueNegative = totals.trueNegative +
    (pairs.countP fun pair => !pair.1.expectedAcceptable && !predicted policy pair : Nat)
  falseNegative : totals'.falseNegative = totals.falseNegative +
    (pairs.countP fun pair => pair.1.expectedAcceptable && !predicted policy pair : Nat)
  squaredErrorSum : totals'.squaredErrorSum =
    totals.squaredErrorSum + (pairs.map fun pair => errorBps pair ^ 2).sum
  bins : totals'.bins = tally pairBin Bin.add totals.bins pairs

theorem foldlM_step (h : pairs.foldlM (Totals.step policy) totals = .ok totals') :
    Added policy totals totals' pairs := by
  induction pairs generalizing totals with
  | nil =>
    rw [List.foldlM_nil, pure_ok] at h
    subst h
    exact ⟨by simp, by simp, by simp, by simp, by simp, rfl⟩
  | cons pair pairs ih =>
    rw [List.foldlM_cons, bind_eq_ok] at h
    obtain ⟨next, first, rest⟩ := h
    obtain ⟨tp, fp, tn, fn, errors, bins⟩ := ih rest
    have isNext := step_ok first
    rw [isNext] at tp fp tn fn errors bins
    have sums : totals'.squaredErrorSum = totals.squaredErrorSum +
        ((pair :: pairs).map fun pair => errorBps pair ^ 2).sum := by
      rw [List.map_cons, List.sum_cons, errors]
      exact add_assoc _ _ _
    refine ⟨?_, ?_, ?_, ?_, sums, bins⟩
    all_goals
      simp only [List.countP_cons]
      cases expected : pair.1.expectedAcceptable <;> cases reached : predicted policy pair <;>
        simp only [expected, reached, Totals.classify] at tp fp tn fn ⊢ <;> simp at tp fp tn fn ⊢ <;>
        omega

end Loop

/-! ## The bins -/

/-- What a bin has tallied. -/
theorem foldl_binAdd (bin : Bin) (pairs : List Pair) :
    pairs.foldl Bin.add bin =
      ⟨bin.count + pairs.length,
        bin.positiveCount + (pairs.countP fun pair => pair.1.expectedAcceptable : Nat),
        bin.confidenceSumBps + (pairs.map fun pair => pair.2.confidenceBps).sum⟩ := by
  induction pairs generalizing bin with
  | nil => simp
  | cons pair pairs ih =>
    rw [List.foldl_cons, ih, List.countP_cons, List.map_cons, List.sum_cons, List.length_cons]
    refine Bin.mk.injEq .. |>.mpr ⟨?_, ?_, ?_⟩
    · simp only [Bin.add]
      omega
    · cases expected : pair.1.expectedAcceptable with
      | false => simp [Bin.add, expected]
      | true =>
        simp only [Bin.add, expected, if_true, Nat.cast_add, Nat.cast_one]
        omega
    · simp only [Bin.add]
      omega

/-- The cases of a bin. -/
def part (pairs : List Pair) (i : Nat) : List Pair := pairs.filter fun pair => pairBin pair == i

/-- A bin of the finished loop. -/
def partBin (pairs : List Pair) (i : Nat) : Bin where
  count := (part pairs i).length
  positiveCount := ((part pairs i).countP fun pair => pair.1.expectedAcceptable : Nat)
  confidenceSumBps := ((part pairs i).map fun pair => pair.2.confidenceBps).sum

theorem bins_eq (pairs : List Pair) :
    tally pairBin Bin.add Totals.zero.bins pairs =
      (List.range calibrationBinCount).map (partBin pairs) := by
  refine List.ext_getElem? fun i => ?_
  rw [getElem?_tally, List.getElem?_map]
  by_cases inRange : i < calibrationBinCount
  · rw [List.getElem?_range inRange, Totals.zero, List.getElem?_replicate, if_pos inRange,
      Option.map_some, Option.map_some, foldl_binAdd]
    simp [partBin, part]
  · have outside : calibrationBinCount ≤ i := Nat.not_lt.mp inRange
    have noBin : Totals.zero.bins[i]? = none :=
      List.getElem?_eq_none (by simpa [Totals.zero] using outside)
    rw [noBin, List.getElem?_eq_none (by simpa using outside)]
    rfl

/-- The interval of a bin. -/
def lowerBps (index : Nat) : Int := index * calibrationBinWidthBps

def upperBps (index : Nat) : Int :=
  if index = calibrationBinCount - 1 then 10000
  else index * calibrationBinWidthBps + calibrationBinWidthBps - 1

/-- A confidence is in the interval of its own bin and of no other. -/
theorem binIndex_eq_iff {confidenceBps : Int} (low : 0 ≤ confidenceBps) (high : confidenceBps ≤ 10000)
    {index : Nat} (inRange : index < calibrationBinCount) :
    lowerBps index ≤ confidenceBps ∧ confidenceBps ≤ upperBps index ↔
      binIndex confidenceBps = index := by
  by_cases last : index = calibrationBinCount - 1
  · rw [upperBps, if_pos last, lowerBps, binIndex]
    simp only [calibrationBinWidthBps, calibrationBinCount] at last inRange ⊢
    omega
  · rw [upperBps, if_neg last, lowerBps, binIndex]
    simp only [calibrationBinWidthBps, calibrationBinCount] at last inRange ⊢
    omega

theorem binIndex_lt (confidenceBps : Int) : binIndex confidenceBps < calibrationBinCount := by
  simp only [binIndex, calibrationBinWidthBps, calibrationBinCount]
  omega

/-- The row that is built from a bin. -/
theorem buildCalibrationBin_ok {bin : Bin} {index : Nat} {row : CalibrationBin}
    (h : buildCalibrationBin (bin, index) = .ok row) :
    row.index = index ∧ row.lowerBps = lowerBps index ∧ row.upperBps = upperBps index ∧
      row.count = bin.count ∧ row.positiveCount = bin.positiveCount ∧
      row.absoluteGapSumBps = bin.gap := by
  simp only [buildCalibrationBin] at h
  split at h
  · rw [pure_ok] at h
    subst h
    exact ⟨rfl, rfl, rfl, rfl, rfl, rfl⟩
  · simp only [bind_eq_ok, pure_ok] at h
    obtain ⟨_, -, _, -, _, -, rfl⟩ := h
    exact ⟨rfl, rfl, rfl, rfl, rfl, rfl⟩

/-- Each row of the report is built from the bin of its index. -/
theorem buildCalibrationBins_ok {bins : List Bin} {sampleCount eceBps : Int}
    {rows : List CalibrationBin} (h : buildCalibrationBins bins sampleCount = .ok (rows, eceBps)) :
    List.Forall₂ (fun indexed row => buildCalibrationBin indexed = .ok row) bins.zipIdx rows := by
  simp only [buildCalibrationBins, bind_eq_ok, pure_ok] at h
  obtain ⟨_, isRows, _, -, same⟩ := h
  cases same
  exact mapM_ok isRows

/-! ## The report -/

/-- What an accepted evaluation has computed. -/
structure Evaluated (corpus : BenchmarkCorpus) (predictionSet : PredictionSet) (policy : GatePolicy)
    (pairs : List Pair) (totals : Totals) (report : Report) : Prop where
  accepted : Accepted corpus predictionSet policy
  isPairs : pairs = corpus.cases.zip predictionSet.predictions
  added : Added policy .zero totals pairs
  rows : List.Forall₂ (fun indexed row => buildCalibrationBin indexed = .ok row)
    totals.bins.zipIdx report.calibrationBins
  sampleCount : report.sampleCount = corpus.cases.length
  matrix : report.confusionMatrix = ⟨totals.truePositive, totals.falsePositive,
    totals.trueNegative, totals.falseNegative⟩
  gate : report.gatePass = (gateChecks policy totals corpus.cases.length
    (report.calibrationBins.map CalibrationBin.absoluteGapSumBps).sum).all

theorem evaluateConfidence_ok {sha256 : Bytes → Bytes} {corpus : BenchmarkCorpus}
    {predictionSet : PredictionSet} {policy : GatePolicy} {report : Report}
    (h : evaluateConfidence sha256 corpus predictionSet policy = .ok report) :
    ∃ totals, Evaluated corpus predictionSet policy (corpus.cases.zip predictionSet.predictions)
      totals report := by
  simp only [evaluateConfidence, bind_eq_ok, require_ok, pure_ok] at h
  obtain ⟨_, -, _, length, _, valid, _, -, totals, counted, _, -, _, -, _, -, ⟨rows, eceBps⟩, built,
    rfl⟩ := h
  exact ⟨totals, validateEvaluationInputs_ok length valid, rfl, foldlM_step counted,
    buildCalibrationBins_ok built, rfl, rfl, rfl⟩

section Evaluated

variable {corpus : BenchmarkCorpus} {predictionSet : PredictionSet} {policy : GatePolicy}
  {pairs : List Pair} {totals : Totals} {report : Report}

/-- The bins of the report are those of the cases. -/
theorem Evaluated.row (evaluated : Evaluated corpus predictionSet policy pairs totals report)
    {i : Nat} {row : CalibrationBin} (isRow : report.calibrationBins[i]? = some row) :
    i < calibrationBinCount ∧ row.index = i ∧ row.lowerBps = lowerBps i ∧
      row.upperBps = upperBps i ∧ row.count = (partBin pairs i).count ∧
      row.positiveCount = (partBin pairs i).positiveCount ∧
      row.absoluteGapSumBps = (partBin pairs i).gap := by
  have bins : totals.bins = (List.range calibrationBinCount).map (partBin pairs) :=
    evaluated.added.bins.trans (bins_eq pairs)
  have rows := evaluated.rows
  rw [bins, List.forall₂_iff_get] at rows
  obtain ⟨sameLength, built⟩ := rows
  obtain ⟨inRange, isGet⟩ := List.getElem?_eq_some_iff.mp isRow
  have bound : i < calibrationBinCount := by
    rw [← sameLength] at inRange
    simpa using inRange
  have fromBin := built i (by simpa using bound) inRange
  simp only [List.get_eq_getElem, List.getElem_zipIdx, List.getElem_map, List.getElem_range,
    Nat.zero_add, isGet] at fromBin
  exact ⟨bound, buildCalibrationBin_ok fromBin⟩

theorem Evaluated.length (evaluated : Evaluated corpus predictionSet policy pairs totals report) :
    report.calibrationBins.length = calibrationBinCount := by
  have bins : totals.bins = (List.range calibrationBinCount).map (partBin pairs) :=
    evaluated.added.bins.trans (bins_eq pairs)
  rw [← evaluated.rows.length_eq, bins]
  simp

/-- The gaps of all bins. -/
theorem Evaluated.map_row (evaluated : Evaluated corpus predictionSet policy pairs totals report)
    {α : Type} {f : CalibrationBin → α} {g : Nat → α}
    (agree : ∀ i row, report.calibrationBins[i]? = some row → f row = g i) :
    report.calibrationBins.map f = (List.range calibrationBinCount).map g := by
  refine List.ext_getElem? fun i => ?_
  rw [List.getElem?_map, List.getElem?_map]
  cases isRow : report.calibrationBins[i]? with
  | none =>
    have outside := List.getElem?_eq_none_iff.mp isRow
    rw [evaluated.length] at outside
    rw [List.getElem?_eq_none (by simpa using outside)]
    rfl
  | some row =>
    rw [List.getElem?_range (evaluated.row isRow).1, Option.map_some, Option.map_some,
      agree i row isRow]

end Evaluated

/-! ## The sample -/

/-- A case with its confidence as a score between 0 and 1. -/
def scored (pair : Pair) : Scored := ⟨pair.2.confidenceBps / 10000, pair.1.expectedAcceptable⟩

def threshold (policy : GatePolicy) : ℚ := policy.thresholdBps / 10000

theorem predicted_eq (policy : GatePolicy) (pair : Pair) :
    decide (threshold policy ≤ (scored pair).score) = predicted policy pair := by
  have same : threshold policy ≤ (scored pair).score ↔
      policy.thresholdBps ≤ pair.2.confidenceBps := by
    rw [threshold, scored, div_le_div_iff_of_pos_right (by norm_num), Int.cast_le]
  rw [predicted]
  exact decide_eq_decide.mpr same

theorem matrix_eq {policy : GatePolicy} {totals : Totals} {pairs : List Pair}
    (added : Added policy .zero totals pairs) :
    totals.truePositive = Scored.truePositives (threshold policy) (pairs.map scored) ∧
      totals.falsePositive = Scored.falsePositives (threshold policy) (pairs.map scored) ∧
      totals.trueNegative = Scored.trueNegatives (threshold policy) (pairs.map scored) ∧
      totals.falseNegative = Scored.falseNegatives (threshold policy) (pairs.map scored) := by
  simp only [Scored.truePositives, Scored.falsePositives, Scored.trueNegatives,
    Scored.falseNegatives, List.countP_map, Function.comp_def, predicted_eq]
  exact ⟨added.truePositive.trans (zero_add _), added.falsePositive.trans (zero_add _),
    added.trueNegative.trans (zero_add _), added.falseNegative.trans (zero_add _)⟩

theorem brier_eq {policy : GatePolicy} {totals : Totals} {pairs : List Pair}
    (added : Added policy .zero totals pairs) :
    Scored.brierScore (pairs.map scored) = totals.squaredErrorSum / 10 ^ 8 / pairs.length := by
  have squares : ∀ pair : Pair, ((scored pair).score - (scored pair).target) ^ 2 =
      ((errorBps pair ^ 2 : Int) : ℚ) / 10 ^ 8 := by
    intro pair
    rw [scored, Scored.target, errorBps]
    cases pair.1.expectedAcceptable <;> push_cast <;> simp <;> ring
  rw [Scored.brierScore, List.map_map, List.length_map, added.squaredErrorSum]
  congr 1
  simp only [Function.comp_def, squares, div_eq_mul_inv, List.sum_map_mul_right]
  simp [Totals.zero, Function.comp_def]

/-- The bin of a case is that of its score. -/
theorem widthBin_eq (pair : Pair) :
    Scored.widthBin calibrationBinCount (scored pair) = pairBin pair := by
  have floor : ⌊(scored pair).score * (calibrationBinCount : ℚ)⌋ = pair.2.confidenceBps / 1000 := by
    have same : (scored pair).score * (calibrationBinCount : ℚ) =
        (pair.2.confidenceBps : ℚ) / (1000 : Nat) := by
      rw [scored, calibrationBinCount]
      push_cast
      ring
    rw [same, Rat.floor_intCast_div_natCast]
    rfl
  rw [Scored.widthBin, floor, pairBin, binIndex]
  simp only [calibrationBinWidthBps, calibrationBinCount]
  omega

theorem gap_eq (pairs : List Pair) (i : Nat) :
    |(((part pairs i).map scored).map Scored.score).sum -
        ((part pairs i).map scored).countP Scored.positive| =
      ((partBin pairs i).gap : ℚ) / 10000 := by
  have sums : (((part pairs i).map scored).map Scored.score).sum =
      ((((part pairs i).map fun pair => pair.2.confidenceBps).sum : Int) : ℚ) / 10000 := by
    simp only [List.map_map, Function.comp_def, scored, div_eq_mul_inv, List.sum_map_mul_right]
    simp [Function.comp_def]
  have counts : ((part pairs i).map scored).countP Scored.positive =
      (part pairs i).countP fun pair => pair.1.expectedAcceptable := by
    rw [List.countP_map]
    rfl
  rw [sums, counts, Bin.gap, partBin]
  have scale : ∀ x : ℚ, |x| / 10000 = |x / 10000| := by
    intro x
    have positive : (0 : ℚ) < 10000 := by norm_num
    rw [abs_div, abs_of_pos positive]
  push_cast
  rw [scale]
  congr 1
  field_simp

theorem calibrationError_bins (pairs : List Pair) :
    Scored.calibrationError (Scored.widthBin calibrationBinCount) calibrationBinCount
        (pairs.map scored) =
      ((((List.range calibrationBinCount).map fun i => (partBin pairs i).gap).sum : Int) : ℚ) /
        10000 / pairs.length := by
  have parts : ∀ i, (pairs.map scored).filter
      (fun s => Scored.widthBin calibrationBinCount s == i) = (part pairs i).map scored := by
    intro i
    rw [part, List.filter_map]
    congr 1
    refine List.filter_congr fun pair _ => ?_
    rw [Function.comp_apply, widthBin_eq]
  rw [Scored.calibrationError_eq, List.length_map]
  congr 1
  simp only [parts, gap_eq, div_eq_mul_inv, List.sum_map_mul_right]
  simp [Function.comp_def]

/-! ## The gate -/

/-- The inequalities of the policy on the exact metrics of a sample. -/
@[mk_iff] structure PassesGate (policy : GatePolicy) (sample : List Scored) : Prop where
  minimumCases : policy.minimumCases ≤ sample.length
  minimumPositive : policy.minimumClassCases ≤ sample.countP Scored.positive
  minimumNegative : policy.minimumClassCases ≤ sample.countP fun s => !s.positive
  somePredicted : 0 < Scored.truePositives (threshold policy) sample +
    Scored.falsePositives (threshold policy) sample
  minimumPrecision :
    (policy.minimumPrecisionBps : ℚ) / 10000 ≤ Scored.precision (threshold policy) sample
  somePositive : 0 < Scored.truePositives (threshold policy) sample +
    Scored.falseNegatives (threshold policy) sample
  minimumRecall :
    (policy.minimumRecallBps : ℚ) / 10000 ≤ Scored.sensitivity (threshold policy) sample
  maximumBrierScore : Scored.brierScore sample ≤ (policy.maximumBrierScorePpm : ℚ) / 10 ^ 6
  maximumCalibrationError : Scored.calibrationError (Scored.widthBin calibrationBinCount)
    calibrationBinCount sample ≤ (policy.maximumExpectedCalibrationErrorBps : ℚ) / 10000

/-- A ratio reaches a bound in basis points exactly if it does so multiplied out. -/
theorem bps_le_iff (bound : Int) (n d : Nat) :
    0 < (d : Int) ∧ bound * d ≤ n * 10000 ↔ 0 < d ∧ (bound : ℚ) / 10000 ≤ n / d := by
  rw [Nat.cast_pos]
  refine and_congr_right fun some => ?_
  have positive : (0 : ℚ) < d := Nat.cast_pos.mpr some
  rw [div_le_div_iff₀ (by norm_num) positive]
  exact_mod_cast Iff.rfl

theorem positives_eq (threshold : ℚ) (sample : List Scored) :
    Scored.truePositives threshold sample + Scored.falseNegatives threshold sample =
        sample.countP Scored.positive ∧
      Scored.trueNegatives threshold sample + Scored.falsePositives threshold sample =
        sample.countP fun s => !s.positive := by
  simp only [Scored.truePositives, Scored.falseNegatives, Scored.trueNegatives,
    Scored.falsePositives]
  induction sample with
  | nil => exact ⟨rfl, rfl⟩
  | cons s sample ih =>
    simp only [List.countP_cons]
    cases s.positive <;> cases decide (threshold ≤ s.score) <;> simp <;> omega

/-- The gate compares what the loop has summed exactly as the policy bounds the exact metrics. -/
theorem Evaluated.gate_iff {corpus : BenchmarkCorpus} {predictionSet : PredictionSet}
    {policy : GatePolicy} {pairs : List Pair} {totals : Totals} {report : Report}
    (evaluated : Evaluated corpus predictionSet policy pairs totals report) :
    report.gatePass = true ↔ PassesGate policy (pairs.map scored) := by
  have gaps : (report.calibrationBins.map CalibrationBin.absoluteGapSumBps) =
      (List.range calibrationBinCount).map fun i => (partBin pairs i).gap :=
    evaluated.map_row fun i row isRow => (evaluated.row isRow).2.2.2.2.2.2
  have samples : corpus.cases.length = (pairs.map scored).length := by
    rw [evaluated.isPairs, List.length_map, List.length_zip, ← evaluated.accepted.length, min_self]
  have some : 0 < (pairs.map scored).length := by
    have positive := evaluated.accepted.positive
    have fewer : (corpus.cases.countP fun case => case.expectedAcceptable) ≤ corpus.cases.length :=
      List.countP_le_length
    rw [minClassCases] at positive
    omega
  have positive : (0 : ℚ) < (pairs.map scored).length := Nat.cast_pos.mpr some
  obtain ⟨tp, fp, tn, fn⟩ := matrix_eq evaluated.added
  obtain ⟨positives, negatives⟩ := positives_eq (threshold policy) (pairs.map scored)
  have brier : Scored.brierScore (pairs.map scored) ≤ (policy.maximumBrierScorePpm : ℚ) / 10 ^ 6 ↔
      totals.squaredErrorSum ≤ policy.maximumBrierScorePpm * (pairs.map scored).length * 100 := by
    rw [brier_eq evaluated.added, ← List.length_map (f := scored), div_div,
      div_le_div_iff₀ (by positivity) (by norm_num)]
    rw [← Int.cast_le (R := ℚ)]
    push_cast
    constructor <;> intro h <;> linarith
  have error : Scored.calibrationError (Scored.widthBin calibrationBinCount) calibrationBinCount
        (pairs.map scored) ≤ (policy.maximumExpectedCalibrationErrorBps : ℚ) / 10000 ↔
      ((List.range calibrationBinCount).map fun i => (partBin pairs i).gap).sum ≤
        policy.maximumExpectedCalibrationErrorBps * (pairs.map scored).length := by
    rw [calibrationError_bins, ← List.length_map (f := scored), div_div,
      div_le_div_iff₀ (by positivity) (by norm_num)]
    rw [← Int.cast_le (R := ℚ)]
    push_cast
    constructor <;> intro h <;> linarith
  have precise := bps_le_iff policy.minimumPrecisionBps
    (Scored.truePositives (threshold policy) (pairs.map scored))
    (Scored.truePositives (threshold policy) (pairs.map scored) +
      Scored.falsePositives (threshold policy) (pairs.map scored))
  have sensitive := bps_le_iff policy.minimumRecallBps
    (Scored.truePositives (threshold policy) (pairs.map scored))
    (Scored.truePositives (threshold policy) (pairs.map scored) +
      Scored.falseNegatives (threshold policy) (pairs.map scored))
  rw [evaluated.gate, gaps, samples, passesGate_iff, brier, error, ← positives, ← negatives]
  simp only [Checks.all, gateChecks, tp, fp, tn, fn, ← Nat.cast_add, Bool.and_eq_true,
    decide_eq_true_iff]
  rw [precise, sensitive]
  simp only [Scored.precision, Scored.sensitivity, and_assoc]

/-! ## The claims of a report -/

/-- A confidence is in the interval of a row. -/
def CalibrationBin.Holds (row : CalibrationBin) (confidenceBps : Int) : Prop :=
  row.lowerBps ≤ confidenceBps ∧ confidenceBps ≤ row.upperBps

instance (row : CalibrationBin) (confidenceBps : Int) : Decidable (row.Holds confidenceBps) := by
  unfold CalibrationBin.Holds
  infer_instance

theorem Evaluated.holds_iff {corpus : BenchmarkCorpus} {predictionSet : PredictionSet}
    {policy : GatePolicy} {pairs : List Pair} {totals : Totals} {report : Report}
    (evaluated : Evaluated corpus predictionSet policy pairs totals report) {i : Nat}
    {row : CalibrationBin} (isRow : report.calibrationBins[i]? = some row) {pair : Pair}
    (isPair : pair ∈ pairs) : row.Holds pair.2.confidenceBps ↔ pairBin pair = i := by
  obtain ⟨inRange, -, lower, upper, -⟩ := evaluated.row isRow
  have bounded := evaluated.accepted.bounded pair (evaluated.isPairs ▸ isPair)
  rw [CalibrationBin.Holds, lower, upper]
  exact binIndex_eq_iff bounded.1 bounded.2 inRange

theorem Evaluated.part_eq {corpus : BenchmarkCorpus} {predictionSet : PredictionSet}
    {policy : GatePolicy} {pairs : List Pair} {totals : Totals} {report : Report}
    (evaluated : Evaluated corpus predictionSet policy pairs totals report) {i : Nat}
    {row : CalibrationBin} (isRow : report.calibrationBins[i]? = some row) :
    part pairs i = pairs.filter fun pair => decide (row.Holds pair.2.confidenceBps) := by
  refine List.filter_congr fun pair isPair => ?_
  rw [Bool.eq_iff_iff, beq_iff_eq, decide_eq_true_iff]
  exact (evaluated.holds_iff isRow isPair).symm

/-- Every report is exact: its confusion matrix counts every case once, its ten rows split the cases
by their intervals, each case in that of its own bin, with exact counts, and the gate passes exactly
if the rational metrics of the sample satisfy the policy. -/
theorem calibration_metrics_exact {sha256 : Bytes → Bytes} {corpus : BenchmarkCorpus}
    {predictionSet : PredictionSet} {policy : GatePolicy} {report : Report}
    (isReport : evaluateConfidence sha256 corpus predictionSet policy = .ok report) :
    let pairs := corpus.cases.zip predictionSet.predictions
    let sample := pairs.map scored
    let matrix := report.confusionMatrix
    (matrix.truePositive = Scored.truePositives (threshold policy) sample ∧
      matrix.falsePositive = Scored.falsePositives (threshold policy) sample ∧
      matrix.trueNegative = Scored.trueNegatives (threshold policy) sample ∧
      matrix.falseNegative = Scored.falseNegatives (threshold policy) sample ∧
      matrix.truePositive + matrix.falsePositive + matrix.trueNegative + matrix.falseNegative =
        corpus.cases.length) ∧
    (report.calibrationBins.length = calibrationBinCount ∧
      (∀ pair ∈ pairs, ∃ row, report.calibrationBins[pairBin pair]? = some row ∧
        row.Holds pair.2.confidenceBps) ∧
      (∀ i row, report.calibrationBins[i]? = some row →
        (∀ pair ∈ pairs, row.Holds pair.2.confidenceBps → pairBin pair = i) ∧
        row.count = ((pairs.countP fun pair => row.Holds pair.2.confidenceBps : Nat) : Int) ∧
        row.positiveCount = ((pairs.countP fun pair =>
          pair.1.expectedAcceptable && row.Holds pair.2.confidenceBps : Nat) : Int)) ∧
      (report.calibrationBins.map CalibrationBin.count).sum = corpus.cases.length) ∧
    (report.gatePass = true ↔ PassesGate policy sample) := by
  intro pairs sample matrix
  obtain ⟨totals, evaluated⟩ := evaluateConfidence_ok isReport
  have samples : sample.length = corpus.cases.length := by
    rw [List.length_map, List.length_zip, ← evaluated.accepted.length, min_self]
  obtain ⟨tp, fp, tn, fn⟩ := matrix_eq evaluated.added
  have isMatrix : matrix = _ := evaluated.matrix
  refine ⟨?_, ⟨evaluated.length, ?_, ?_, ?_⟩, evaluated.gate_iff⟩
  · rw [isMatrix]
    refine ⟨tp, fp, tn, fn, ?_⟩
    have total := Scored.confusion_total (threshold policy) sample
    rw [tp, fp, tn, fn, ← samples, ← total]
    push_cast
    rfl
  · intro pair isPair
    have inRange : pairBin pair < report.calibrationBins.length :=
      evaluated.length ▸ binIndex_lt pair.2.confidenceBps
    have isRow := List.getElem?_eq_getElem inRange
    exact ⟨_, isRow, (evaluated.holds_iff isRow isPair).mpr rfl⟩
  · intro i row isRow
    obtain ⟨-, -, -, -, count, positiveCount, -⟩ := evaluated.row isRow
    refine ⟨fun pair isPair => (evaluated.holds_iff isRow isPair).mp, ?_, ?_⟩
    · rw [count, List.countP_eq_length_filter, ← evaluated.part_eq isRow]
      rfl
    · rw [positiveCount, ← List.countP_filter, ← evaluated.part_eq isRow]
      rfl
  · have counts : report.calibrationBins.map CalibrationBin.count =
        (List.range calibrationBinCount).map fun i => ((part pairs i).length : Int) :=
      evaluated.map_row fun i row isRow => (evaluated.row isRow).2.2.2.2.1
    have total := sum_filter_length pairBin pairs calibrationBinCount fun pair _ =>
      binIndex_lt pair.2.confidenceBps
    rw [counts, ← samples, List.length_map, ← total]
    push_cast
    rw [List.map_map]
    rfl

/-! ### Twenty cases, with scores on the edges of their bins -/

def edgeCorpus : BenchmarkCorpus where
  corpusId := str "edge-corpus"
  cases := (List.range 20).map fun i =>
    ⟨str "case-" ++ [97 + i], str "edges", str "a score on an edge", str "rule edge",
      decide (10 ≤ i)⟩
  sha256 := List.replicate 64 97

/-- The even acceptable cases score 10000, the even others 1000. -/
def edgePredictions : PredictionSet where
  evaluationMode := evaluationMode
  corpusSha256 := edgeCorpus.sha256
  subjectId := str "local/subject"
  subjectSha256 := List.replicate 64 98
  promptSha256 := List.replicate 64 99
  predictions := (List.range 20).map fun i =>
    ⟨str "case-" ++ [97 + i], if 10 ≤ i then (if i % 2 = 0 then 10000 else 9000)
      else if i % 2 = 0 then 1000 else 0⟩
  sha256 := List.replicate 64 100

def pinnedPolicy : GatePolicy where
  thresholdBps := submissionThresholdBps
  calibrationBinWidthBps := ConfidenceCalibration.calibrationBinWidthBps
  minimumCases := minCases
  minimumClassCases := minClassCases
  minimumPrecisionBps := minPrecisionBps
  minimumRecallBps := minRecallBps
  maximumBrierScorePpm := maxBrierPpm
  maximumExpectedCalibrationErrorBps := maxEceBps
  sha256 := List.replicate 64 101

theorem calibration_metrics_exact_edges :
    ∃ report, evaluateConfidence sha256 edgeCorpus edgePredictions pinnedPolicy = .ok report ∧
      report.calibrationBins.map CalibrationBin.count = [5, 5, 0, 0, 0, 0, 0, 0, 0, 10] ∧
      PassesGate pinnedPolicy ((edgeCorpus.cases.zip edgePredictions.predictions).map scored) := by
  have evaluated : (evaluateConfidence sha256 edgeCorpus edgePredictions pinnedPolicy).toOption.map
      (fun report => (report.calibrationBins.map CalibrationBin.count, report.gatePass)) =
        some ([5, 5, 0, 0, 0, 0, 0, 0, 0, 10], true) := by
    decide +kernel
  obtain ⟨report, isSome, facts⟩ := Option.map_eq_some_iff.mp evaluated
  have isReport := toOption_eq_some.mp isSome
  obtain ⟨counts, passes⟩ := Prod.mk.inj facts
  exact ⟨report, isReport, counts, (calibration_metrics_exact isReport).2.2.mp passes⟩

end Prometheus.Jaeger.ConfidenceCalibration
