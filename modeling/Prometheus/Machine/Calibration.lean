import Mathlib

/-!
# Scored samples and their calibration

A sample of scores with labels: how a threshold classifies it, its Brier score, and its calibration
error over numbered bins, all as rationals. A computation that tallies one item after the other has
in each bin the tally of that bin's items.
-/

namespace Prometheus.Machine

/-! ## Tallies -/

section Tally

variable {α β : Type} (index : α → Nat) (add : β → α → β)

/-- Add each item to the tally at its index. -/
def tally (bins : List β) (items : List α) : List β :=
  items.foldl (fun bins item => bins.modify (index item) fun bin => add bin item) bins

theorem tally_cons (bins : List β) (item : α) (items : List α) :
    tally index add bins (item :: items) =
      tally index add (bins.modify (index item) fun bin => add bin item) items := rfl

/-- A tally holds the items of its index. -/
theorem getElem?_tally (bins : List β) (items : List α) (i : Nat) :
    (tally index add bins items)[i]? =
      bins[i]?.map fun bin => (items.filter fun item => index item == i).foldl add bin := by
  induction items generalizing bins with
  | nil => simp [tally]
  | cons item items ih =>
    rw [tally_cons, ih, List.getElem?_modify]
    by_cases here : index item = i
    · rw [List.filter_cons_of_pos (by simpa using here)]
      cases bins[i]? <;> simp [here]
    · rw [List.filter_cons_of_neg (by simpa using here)]
      cases bins[i]? <;> simp [here]

theorem sum_range_ite (n k : Nat) :
    ((List.range n).map fun i => if k = i then 1 else 0).sum = if k < n then 1 else 0 := by
  induction n with
  | zero => rfl
  | succ n ih =>
    rw [List.range_succ, List.map_append, List.sum_append, ih]
    by_cases last : k = n
    · simp [last]
    · by_cases before : k < n
      · simp [last, before, Nat.lt_succ_of_lt before]
      · have beyond : ¬ k < n + 1 := by omega
        simp [last, before, beyond]

/-- Items whose indices are all in range are split among the bins. -/
theorem sum_filter_length (items : List α) (n : Nat) (inRange : ∀ item ∈ items, index item < n) :
    ((List.range n).map fun i => (items.filter fun item => index item == i).length).sum =
      items.length := by
  induction items with
  | nil => simp
  | cons item items ih =>
    rw [List.forall_mem_cons] at inRange
    have counted := sum_range_ite n (index item)
    rw [if_pos inRange.1] at counted
    have split : ∀ i, ((item :: items).filter fun item => index item == i).length =
        (if index item = i then 1 else 0) + (items.filter fun item => index item == i).length := by
      intro i
      by_cases here : index item = i
      · rw [List.filter_cons_of_pos (by simpa using here), if_pos here, List.length_cons, Nat.add_comm]
      · rw [List.filter_cons_of_neg (by simpa using here), if_neg here, Nat.zero_add]
    simp only [split, List.sum_map_add, counted, ih inRange.2, List.length_cons, Nat.add_comm]

end Tally

/-! ## Scored samples -/

/-- A score and whether its item is positive. -/
structure Scored where
  score : ℚ
  positive : Bool

namespace Scored

def target (s : Scored) : ℚ := if s.positive then 1 else 0

def truePositives (threshold : ℚ) (sample : List Scored) : Nat :=
  sample.countP fun s => s.positive && decide (threshold ≤ s.score)

def falseNegatives (threshold : ℚ) (sample : List Scored) : Nat :=
  sample.countP fun s => s.positive && !decide (threshold ≤ s.score)

def falsePositives (threshold : ℚ) (sample : List Scored) : Nat :=
  sample.countP fun s => !s.positive && decide (threshold ≤ s.score)

def trueNegatives (threshold : ℚ) (sample : List Scored) : Nat :=
  sample.countP fun s => !s.positive && !decide (threshold ≤ s.score)

/-- Every item is in exactly one cell of the confusion matrix. -/
theorem confusion_total (threshold : ℚ) (sample : List Scored) :
    truePositives threshold sample + falsePositives threshold sample +
      trueNegatives threshold sample + falseNegatives threshold sample = sample.length := by
  induction sample with
  | nil => rfl
  | cons s sample ih =>
    simp only [truePositives, falsePositives, trueNegatives, falseNegatives, List.countP_cons,
      List.length_cons] at ih ⊢
    cases s.positive <;> cases decide (threshold ≤ s.score) <;> simp <;> omega

/-- Of the items at or above the threshold, the share that is positive. -/
def precision (threshold : ℚ) (sample : List Scored) : ℚ :=
  truePositives threshold sample /
    ((truePositives threshold sample + falsePositives threshold sample : Nat) : ℚ)

/-- The recall: of the positive items, the share at or above the threshold. -/
def sensitivity (threshold : ℚ) (sample : List Scored) : ℚ :=
  truePositives threshold sample /
    ((truePositives threshold sample + falseNegatives threshold sample : Nat) : ℚ)

/-- The mean squared distance of score and label. -/
def brierScore (sample : List Scored) : ℚ :=
  (sample.map fun s => (s.score - s.target) ^ 2).sum / sample.length

def meanScore (sample : List Scored) : ℚ := (sample.map score).sum / sample.length

def positiveRate (sample : List Scored) : ℚ := sample.countP positive / sample.length

/-- The bin of a score in `[0, 1]` among `n` bins of one width; the maximal score is in the last. -/
def widthBin (n : Nat) (s : Scored) : Nat := min ⌊s.score * n⌋.toNat (n - 1)

/-- The expected calibration error: the gap of each bin, weighted by its share of the sample. -/
def calibrationError (bin : Scored → Nat) (n : Nat) (sample : List Scored) : ℚ :=
  ((List.range n).map fun i =>
    let part := sample.filter fun s => bin s == i
    (part.length : ℚ) / sample.length * |meanScore part - positiveRate part|).sum

/-- The weighted gap of a bin is the gap of its sums, of an empty bin too. -/
theorem weighted_gap (part : List Scored) (n : Nat) :
    (part.length : ℚ) / n * |meanScore part - positiveRate part| =
      |(part.map score).sum - part.countP positive| / n := by
  by_cases empty : part = []
  · subst empty
    simp
  · have some : (0 : ℚ) < part.length := by
      exact_mod_cast List.length_pos_of_ne_nil empty
    rw [meanScore, positiveRate, ← sub_div, abs_div, abs_of_pos some]
    field_simp

theorem calibrationError_eq (bin : Scored → Nat) (n : Nat) (sample : List Scored) :
    calibrationError bin n sample =
      ((List.range n).map fun i =>
        |((sample.filter fun s => bin s == i).map score).sum -
          (sample.filter fun s => bin s == i).countP positive|).sum / sample.length := by
  simp only [calibrationError, weighted_gap]
  simp only [div_eq_mul_inv, List.sum_map_mul_right]

end Scored

end Prometheus.Machine
