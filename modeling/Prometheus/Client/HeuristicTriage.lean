import Mathlib.Data.Rat.Floor
import Mathlib.Tactic.FieldSimp
import Prometheus.Client.Heuristic

/-!
# What a triage report says

Each reason is reported exactly if the predicate that defines it holds of the bytes. The pass over
the bytes keeps the counts of its prefix; the search looks at every offset because a magic prefix can
only start with a byte that the dispatch knows.
-/

namespace Prometheus.Client.Heuristic

open Prometheus.Codec Prometheus.Machine

/-! ## The definition of a report -/

/-- The printable bytes: from space to tilde, tab, line feed and carriage return. -/
def IsPrintable (byte : UInt8) : Prop :=
  (32 ≤ byte.toNat ∧ byte.toNat ≤ 126) ∨ byte.toNat ∈ [9, 10, 13]

instance (byte : UInt8) : Decidable (IsPrintable byte) := inferInstanceAs (Decidable (_ ∨ _))

/-- What a reason stands for. -/
def TriageReason.Holds (data : Bytes) : TriageReason → Prop
  | .executableMagicAtStart => ∃ magic ∈ magicPrefixes, magic <+: data
  | .embeddedExecutableMagic =>
    ∃ offset, 0 < offset ∧ ∃ magic ∈ magicPrefixes, magic <+: data.drop offset
  | .highByteDiversity => 200 ≤ data.toFinset.card
  | .highNullByteDensity => (1 / 4 : ℚ) < data.count 0 / data.length
  | .highNonPrintableDensity =>
    (3 / 5 : ℚ) < data.countP (fun byte => ¬ IsPrintable byte) / data.length
  | .longUniformRun => ∃ front n byte back, 4096 ≤ n ∧ IsMaximalRun data front n byte back

/-- The reasons in the order of a report. -/
def allReasons : List TriageReason :=
  [.executableMagicAtStart, .embeddedExecutableMagic, .highByteDiversity, .highNullByteDensity,
    .highNonPrintableDensity, .longUniformRun]

/-! ## The searches -/

theorem startsWithMagic_iff {data : Bytes} :
    startsWithMagic data = true ↔ TriageReason.executableMagicAtStart.Holds data := by
  rw [startsWithMagic, List.any_eq_true]
  simp only [List.isPrefixOf_iff_prefix, TriageReason.Holds]

/-- On the byte at its front, the dispatch looks at every magic prefix. -/
theorem dispatch_eq (byte : UInt8) (rest : Bytes) :
    dispatch byte (byte :: rest) = startsWithMagic (byte :: rest) := by
  unfold dispatch startsWithMagic magicPrefixes
  split_ifs with isMz isElf isScript isMachO
  · subst isMz
    simp [List.isPrefixOf]
  · subst isElf
    simp [List.isPrefixOf]
  · subst isScript
    simp [List.isPrefixOf]
  · rcases isMachO with rfl | rfl | rfl <;> simp [List.isPrefixOf]
  · simp only [not_or] at isMachO
    obtain ⟨first, second, third⟩ := isMachO
    simp [List.isPrefixOf, Ne.symm isMz, Ne.symm isElf, Ne.symm isScript, Ne.symm first,
      Ne.symm second, Ne.symm third]

/-- The dispatch search finds what the naive search finds. -/
theorem hasEmbeddedMagic_iff {data : Bytes} :
    hasEmbeddedMagic data = true ↔ TriageReason.embeddedExecutableMagic.Holds data := by
  rw [hasEmbeddedMagic, List.any_eq_true]
  constructor
  · rintro ⟨⟨byte, offset⟩, mem, found⟩
    obtain ⟨i, inRange, isEntry⟩ := List.mem_iff_getElem.mp mem
    rw [List.getElem_drop, List.getElem_zipIdx] at isEntry
    obtain ⟨rfl, rfl⟩ := Prod.mk.inj isEntry
    rw [List.length_drop, List.length_zipIdx] at inRange
    have split : data.drop (0 + (1 + i)) = data[1 + i] :: data.drop (1 + i + 1) := by
      rw [Nat.zero_add]
      exact List.drop_eq_getElem_cons (by omega)
    have found : dispatch data[1 + i] (data.drop (0 + (1 + i))) = true := found
    rw [split, dispatch_eq, ← split, startsWithMagic_iff] at found
    exact ⟨0 + (1 + i), by omega, found⟩
  · rintro ⟨offset, positive, magic, isMagic, isPrefix⟩
    have nonempty : ∀ magic ∈ magicPrefixes, magic ≠ [] := by decide
    have inRange : offset < data.length := by
      by_contra beyond
      rw [List.drop_eq_nil_of_le (not_lt.mp beyond), List.prefix_nil] at isPrefix
      exact nonempty magic isMagic isPrefix
    have split := List.drop_eq_getElem_cons inRange
    refine ⟨(data[offset], offset), ?_, ?_⟩
    · refine List.mem_iff_getElem.mpr ⟨offset - 1, ?_, ?_⟩
      · rw [List.length_drop, List.length_zipIdx]
        omega
      · rw [List.getElem_drop, List.getElem_zipIdx]
        simp only [Nat.add_sub_cancel' positive, Nat.zero_add]
    · show dispatch data[offset] (data.drop offset) = true
      rw [split, dispatch_eq, ← split]
      exact startsWithMagic_iff.mpr ⟨magic, isMagic, isPrefix⟩

/-! ## The pass -/

theorem isPrintable_iff {byte : UInt8} : isPrintable byte = true ↔ IsPrintable byte := by
  have each : ∀ n < 256, isPrintable (UInt8.ofNat n) = true ↔ IsPrintable (UInt8.ofNat n) := by
    decide +kernel
  have here := each byte.toNat byte.toNat_lt
  rwa [UInt8.ofNat_toNat] at here

/-- The entry of a byte in the table of the seen ones. -/
def seenIn (distinct : Vector Bool 256) (byte : UInt8) : Bool :=
  distinct.get ⟨byte.toNat, byte.toNat_lt⟩

theorem seenIn_set (distinct : Vector Bool 256) (byte other : UInt8) :
    seenIn (distinct.set byte.toNat true byte.toNat_lt) other =
      if other = byte then true else seenIn distinct other := by
  simp only [seenIn, Vector.get_eq_getElem, Vector.getElem_set, UInt8.toNat_inj, eq_comm]

theorem countP_set (distinct : Vector Bool 256) (byte : UInt8) :
    (distinct.set byte.toNat true byte.toNat_lt).countP (fun seen => seen) =
      distinct.countP (fun seen => seen) + if seenIn distinct byte then 0 else 1 := by
  by_cases seen : seenIn distinct byte = true
  · have same : distinct.set byte.toNat true byte.toNat_lt = distinct := by
      refine Vector.ext fun i inRange => ?_
      rw [Vector.getElem_set]
      split_ifs with isByte
      · subst isByte
        rw [seenIn, Vector.get_eq_getElem] at seen
        exact seen.symm
      · rfl
    rw [same, if_pos seen, Nat.add_zero]
  · rw [Vector.countP_set, if_neg seen]
    simp only [seenIn, Vector.get_eq_getElem] at seen
    rw [if_neg seen]
    rfl

/-- The variables of the loop after the bytes of a prefix. -/
structure Counted (c : Counters) (seen : Bytes) : Prop where
  distinct : ∀ byte, seenIn c.distinct byte = true ↔ byte ∈ seen
  distinctCount : (c.distinct.countP fun seen => seen) = seen.toFinset.card
  nullCount : c.nullCount = seen.count 0
  nonPrintableCount : c.nonPrintableCount = seen.countP fun byte => decide (¬ IsPrintable byte)
  run : (⟨c.previousByte, c.currentRun, c.maxRun⟩ : RunCount UInt8).Counts seen

theorem counted_start : Counted .start [] where
  distinct byte := by simp [Counters.start, seenIn, Vector.get_eq_getElem]
  distinctCount := by decide +kernel
  nullCount := rfl
  nonPrintableCount := rfl
  run := RunCount.counts_start

/-- The run that ends a text is not longer than the text. -/
theorem current_le {c : Counters} {seen : Bytes} (h : Counted c seen) {byte : UInt8}
    (isLast : c.previousByte = some byte) : c.currentRun ≤ seen.length := by
  cases length : c.currentRun with
  | zero => exact Nat.zero_le _
  | succ n =>
    have isSuffix := (h.run.current n byte).mpr ⟨isLast, length.ge⟩
    simpa using isSuffix.length_le

/-- One turn of the loop counts the byte, and nothing overflows. -/
theorem Counted.count {c : Counters} {seen : Bytes} (h : Counted c seen) (byte : UInt8)
    (short : seen.length < usizeMax) : ∃ c', c.count byte = .ok c' ∧ Counted c' (seen ++ [byte]) := by
  have nulls : (if byte = 0 then checkedAdd usizeMax c.nullCount 1 else .ok c.nullCount) =
      .ok ((seen ++ [byte]).count 0) := by
    have bound := List.count_le_length (a := (0 : UInt8)) (l := seen)
    rw [h.nullCount, List.count_append, List.count_singleton]
    by_cases isNull : byte = 0
    · rw [if_pos isNull, checkedAdd, if_neg (by omega), isNull]
      rfl
    · rw [if_neg isNull, if_neg (by simpa using isNull), Nat.add_zero]
  have nonPrintables : (if ¬ isPrintable byte then checkedAdd usizeMax c.nonPrintableCount 1
      else .ok c.nonPrintableCount) =
      .ok ((seen ++ [byte]).countP fun byte => decide (¬ IsPrintable byte)) := by
    have bound := List.countP_le_length (p := fun byte => decide (¬ IsPrintable byte)) (l := seen)
    rw [h.nonPrintableCount, List.countP_append, List.countP_singleton]
    by_cases printable : IsPrintable byte
    · rw [if_neg (not_not.mpr (isPrintable_iff.mpr printable)), if_neg (by simpa using printable), Nat.add_zero]
    · rw [if_pos (mt isPrintable_iff.mp printable), checkedAdd, if_neg (by omega),
        if_pos (by simpa using printable)]
  have current : (if c.previousByte = some byte then checkedAdd usizeMax c.currentRun 1
      else .ok 1 : Except TriageFailure Nat) =
      .ok ((⟨c.previousByte, c.currentRun, c.maxRun⟩ : RunCount UInt8).next byte).current := by
    by_cases repeated : c.previousByte = some byte
    · have bound := current_le h repeated
      rw [if_pos repeated, checkedAdd, if_neg (by omega)]
      simp only [RunCount.next, if_pos repeated]
    · rw [if_neg repeated]
      simp only [RunCount.next, if_neg repeated]
  have previous : (if c.previousByte = some byte then c.previousByte else some byte) = some byte := by
    split_ifs with repeated
    · exact repeated
    · rfl
  let run := (⟨c.previousByte, c.currentRun, c.maxRun⟩ : RunCount UInt8).next byte
  refine ⟨⟨c.distinct.set byte.toNat true byte.toNat_lt, (seen ++ [byte]).count 0,
    (seen ++ [byte]).countP fun byte => decide (¬ IsPrintable byte), run.longest, run.current,
    some byte⟩, ?_, ?_, ?_, rfl, rfl, h.run.next byte⟩
  · rw [Counters.count, nulls, nonPrintables, current, previous]
    rfl
  · intro other
    rw [seenIn_set, List.mem_append, List.mem_singleton, ← h.distinct]
    by_cases same : other = byte
    · simp [same]
    · simp [same]
  · rw [countP_set, h.distinctCount, List.toFinset_append]
    by_cases old : byte ∈ seen
    · rw [if_pos ((h.distinct byte).mpr old), Nat.add_zero]
      congr 1
      ext a
      rw [Finset.mem_union, List.mem_toFinset, List.mem_toFinset, List.mem_singleton]
      constructor
      · exact .inl
      · rintro (mem | rfl)
        · exact mem
        · exact old
    · have disjoint : Disjoint seen.toFinset [byte].toFinset := by simpa using old
      rw [if_neg (mt (h.distinct byte).mp old), Finset.card_union_of_disjoint disjoint]
      rfl

theorem counted_foldlM {data seen : Bytes} {c : Counters} (h : Counted c seen)
    (short : seen.length + data.length ≤ usizeMax) :
    ∃ c', data.foldlM Counters.count c = .ok c' ∧ Counted c' (seen ++ data) := by
  induction data generalizing seen c with
  | nil => exact ⟨c, rfl, by rwa [List.append_nil]⟩
  | cons byte data ih =>
    rw [List.length_cons] at short
    obtain ⟨next, isNext, counted⟩ := h.count byte (by omega)
    obtain ⟨last, isLast, done⟩ := ih counted (by
      rw [List.length_append, List.length_singleton]
      omega)
    refine ⟨last, ?_, by rwa [List.append_assoc] at done⟩
    rw [List.foldlM_cons, isNext]
    exact isLast

/-! ## The thresholds -/

/-- A share is above a ratio exactly if the products say so. -/
theorem ratio_lt_iff {part whole : Nat} (numerator denominator : Nat) (positive : 0 < whole)
    (positive' : 0 < denominator) :
    (numerator / denominator : ℚ) < part / whole ↔ whole * numerator < part * denominator := by
  rw [div_lt_div_iff₀ (by exact_mod_cast positive') (by exact_mod_cast positive),
    mul_comm (numerator : ℚ)]
  exact_mod_cast Iff.rfl

theorem highNullByteDensity_iff {data : Bytes} (nonempty : data ≠ []) :
    TriageReason.highNullByteDensity.Holds data ↔
      data.length * nullDensityNumerator < data.count 0 * nullDensityDenominator := by
  have positive := List.length_pos_iff.mpr nonempty
  exact_mod_cast ratio_lt_iff 1 4 positive (by decide)

theorem highNonPrintableDensity_iff {data : Bytes} (nonempty : data ≠ []) :
    TriageReason.highNonPrintableDensity.Holds data ↔
      data.length * nonPrintableNumerator <
        data.countP (fun byte => decide (¬ IsPrintable byte)) * nonPrintableDenominator := by
  have positive := List.length_pos_iff.mpr nonempty
  exact_mod_cast ratio_lt_iff 3 5 positive (by decide)

theorem longUniformRun_iff {data : Bytes} {c : Counters} (counted : Counted c data) :
    TriageReason.longUniformRun.Holds data ↔ uniformRunThreshold ≤ c.maxRun := by
  have longest : (∃ byte, List.replicate 4096 byte <:+: data) ↔ uniformRunThreshold ≤ c.maxRun :=
    counted.run.longest 4095
  rw [← longest]
  constructor
  · rintro ⟨front, n, byte, back, long, isRun⟩
    exact ⟨byte, exists_maximalRun_iff.mpr ⟨front, n, back, long, isRun⟩⟩
  · rintro ⟨byte, isRun⟩
    obtain ⟨front, n, back, long, isMaximal⟩ := exists_maximalRun_iff.mp isRun
    exact ⟨front, n, byte, back, long, isMaximal⟩

/-! ## The report -/

/-- The condition under which a reason is pushed. -/
def isFound (data : Bytes) (c : Counters) : TriageReason → Bool
  | .executableMagicAtStart => startsWithMagic data
  | .embeddedExecutableMagic => hasEmbeddedMagic data
  | .highByteDiversity => byteDiversityThreshold ≤ c.distinct.countP fun seen => seen
  | .highNullByteDensity =>
    data.length * nullDensityNumerator < c.nullCount * nullDensityDenominator
  | .highNonPrintableDensity =>
    data.length * nonPrintableNumerator < c.nonPrintableCount * nonPrintableDenominator
  | .longUniformRun => uniformRunThreshold ≤ c.maxRun

theorem isFound_iff {data : Bytes} (nonempty : data ≠ []) {c : Counters} (counted : Counted c data)
    (reason : TriageReason) : isFound data c reason = true ↔ reason.Holds data := by
  cases reason with
  | executableMagicAtStart => exact startsWithMagic_iff
  | embeddedExecutableMagic => exact hasEmbeddedMagic_iff
  | highByteDiversity =>
    rw [isFound, decide_eq_true_iff, counted.distinctCount]
    exact Iff.rfl
  | highNullByteDensity =>
    rw [isFound, decide_eq_true_iff, counted.nullCount, highNullByteDensity_iff nonempty]
  | highNonPrintableDensity =>
    rw [isFound, decide_eq_true_iff, counted.nonPrintableCount, highNonPrintableDensity_iff nonempty]
  | longUniformRun => rw [isFound, decide_eq_true_iff, longUniformRun_iff counted]

/-- A push goes on with the filter of the reasons so far. -/
theorem push_filter (reasons : List TriageReason) (found : TriageReason → Bool)
    (reason : TriageReason) :
    push (reasons.filter found) (found reason) reason = (reasons ++ [reason]).filter found := by
  rw [push, List.filter_append, List.filter_singleton]
  cases found reason with
  | false => simp
  | true => rfl

theorem sumWeights_eq (acc : Nat) (reasons : List TriageReason)
    (small : acc + (reasons.map TriageReason.weightBp).sum ≤ u32Max) :
    sumWeights acc reasons = .ok (acc + (reasons.map TriageReason.weightBp).sum) := by
  induction reasons generalizing acc with
  | nil => rfl
  | cons reason reasons ih =>
    rw [List.map_cons, List.sum_cons, ← Nat.add_assoc] at small ⊢
    rw [sumWeights, checkedAdd, if_neg (by omega)]
    exact ih _ small

/-- All weights together fit. -/
theorem sum_weights_le {reasons : List TriageReason} (isPart : reasons.Sublist allReasons) :
    (reasons.map TriageReason.weightBp).sum ≤ 11500 := by
  have whole : (allReasons.map TriageReason.weightBp).sum = 11500 := rfl
  rw [← whole]
  exact (isPart.map _).sum_le_sum fun _ _ => Nat.zero_le _

/-- The products of the density comparisons fit. -/
theorem checkedMul_eq {a b : Nat} (small : a ≤ maxInputLen) (factor : b ≤ 5) :
    checkedMul usizeMax a b = .ok (a * b) := by
  have bound : a * b ≤ maxInputLen * 5 := Nat.mul_le_mul small factor
  have room : maxInputLen * 5 ≤ usizeMax := by decide
  rw [checkedMul, if_neg (by omega)]

theorem triageBytes_eq (sha256 : Bytes → Bytes) {data : Bytes} (nonempty : data ≠ [])
    (bounded : data.length ≤ maxInputLen) :
    ∃ c, Counted c data ∧ triageBytes sha256 data = .ok
      { scoreBp := min ((allReasons.filter (isFound data c)).map TriageReason.weightBp).sum maxScoreBp
        reasons := allReasons.filter (isFound data c)
        sha256 := sha256 data
        inputLen := data.length } := by
  have room : maxInputLen ≤ usizeMax := by decide
  have fits : ([] : Bytes).length + data.length ≤ usizeMax := by
    rw [List.length_nil]
    omega
  obtain ⟨c, passed, counted⟩ := counted_foldlM counted_start fits
  rw [List.nil_append] at counted
  have nulls : c.nullCount ≤ maxInputLen := by
    rw [counted.nullCount]
    exact List.count_le_length.trans bounded
  have nonPrintables : c.nonPrintableCount ≤ maxInputLen := by
    rw [counted.nonPrintableCount]
    exact List.countP_le_length.trans bounded
  have pushed : push (push (push (push (push (push [] (isFound data c .executableMagicAtStart)
      .executableMagicAtStart) (isFound data c .embeddedExecutableMagic) .embeddedExecutableMagic)
      (isFound data c .highByteDiversity) .highByteDiversity)
      (isFound data c .highNullByteDensity) .highNullByteDensity)
      (isFound data c .highNonPrintableDensity) .highNonPrintableDensity)
      (isFound data c .longUniformRun) .longUniformRun = allReasons.filter (isFound data c) := by
    have empty : ([] : List TriageReason) = [].filter (isFound data c) := rfl
    rw [empty, push_filter, push_filter, push_filter, push_filter, push_filter, push_filter]
    rfl
  have weights := sum_weights_le (List.filter_sublist (p := isFound data c) (l := allReasons))
  have total := sumWeights_eq 0 (allReasons.filter (isFound data c)) (by
    have wide : 11500 ≤ u32Max := by decide
    omega)
  have score : ∀ n, min n maxScoreBp % (u16Max + 1) = min n maxScoreBp := by
    intro n
    have limit : maxScoreBp < u16Max + 1 := by decide
    exact Nat.mod_eq_of_lt ((Nat.min_le_right _ _).trans_lt limit)
  refine ⟨c, counted, ?_⟩
  rw [Nat.zero_add] at total
  have nullProduct : checkedMul usizeMax c.nullCount nullDensityDenominator =
      .ok (c.nullCount * nullDensityDenominator) := checkedMul_eq nulls (by decide)
  have nullLimit : checkedMul usizeMax data.length nullDensityNumerator =
      .ok (data.length * nullDensityNumerator) := checkedMul_eq bounded (by decide)
  have otherProduct : checkedMul usizeMax c.nonPrintableCount nonPrintableDenominator =
      .ok (c.nonPrintableCount * nonPrintableDenominator) := checkedMul_eq nonPrintables (by decide)
  have otherLimit : checkedMul usizeMax data.length nonPrintableNumerator =
      .ok (data.length * nonPrintableNumerator) := checkedMul_eq bounded (by decide)
  rw [triageBytes, if_neg nonempty, if_neg (not_lt.mpr bounded), passed]
  simp only [bind, Except.bind, nullProduct, nullLimit, otherProduct, otherLimit]
  refine (congrArg (fun reasons => sumWeights 0 reasons >>= fun total =>
    (.ok ⟨min total maxScoreBp % (u16Max + 1), reasons, sha256 data, data.length⟩ :
      Except TriageFailure TriageReport)) pushed).trans ?_
  rw [total]
  exact congrArg (fun n => Except.ok (TriageReport.mk n _ _ _)) (score _)

/-- Each reason is reported exactly if it holds, once and in the fixed order, and the score is the
capped sum of the weights. -/
theorem triage_exact (sha256 : Bytes → Bytes) {data : Bytes} (nonempty : data ≠ [])
    (bounded : data.length ≤ maxInputLen) :
    ∃ report, triageBytes sha256 data = .ok report ∧
      (∀ reason, reason ∈ report.reasons ↔ reason.Holds data) ∧
      report.reasons.Sublist allReasons ∧ report.reasons.Nodup ∧
      report.scoreBp = min (report.reasons.map TriageReason.weightBp).sum 10000 ∧
      report.sha256 = sha256 data ∧ report.inputLen = data.length := by
  obtain ⟨c, counted, isReport⟩ := triageBytes_eq sha256 nonempty bounded
  have distinct : allReasons.Nodup := by decide
  refine ⟨_, isReport, fun reason => ?_, List.filter_sublist, distinct.filter _, rfl, rfl, rfl⟩
  have isReason : reason ∈ allReasons := by
    cases reason <;> decide
  rw [List.mem_filter, isFound_iff nonempty counted]
  exact and_iff_right isReason

theorem triage_exact_script :
    ∃ report, triageBytes sha256 (ascii "#!/bin/sh\nMZ") = .ok report ∧
      TriageReason.executableMagicAtStart ∈ report.reasons ∧
      TriageReason.embeddedExecutableMagic ∈ report.reasons ∧
      TriageReason.highByteDiversity ∉ report.reasons := by
  have nonempty : ascii "#!/bin/sh\nMZ" ≠ [] := by decide
  obtain ⟨report, isReport, reasons, -⟩ := triage_exact sha256 nonempty (by decide)
  refine ⟨report, isReport, (reasons _).mpr ?_, (reasons _).mpr ?_, fun mem => ?_⟩
  · exact ⟨[35, 33], by decide, by decide⟩
  · exact ⟨10, by decide, [77, 90], by decide, by decide⟩
  · exact absurd ((reasons _).mp mem) (by
      show ¬ 200 ≤ _
      decide)

end Prometheus.Client.Heuristic
