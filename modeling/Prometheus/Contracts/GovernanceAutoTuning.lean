import Prometheus.Contracts.Covenant

/-!
# The auto-tuning covenant

`GovernanceAutoTuningState`: an oracle reports metrics and anyone may tune three parameters by at
most one step each, once an interval. Every tuned parameter is lowered to a floor or raised to a
ceiling, so `lowerTo` and `raiseTo` carry the bounds; `TUNING_INTERVAL_BLOCKS` is the only thing that
limits when the covenant can be tuned next.
-/

namespace Prometheus.Contracts.GovernanceAutoTuning

def tuningIntervalBlocks : I64 := 604800
def minStakeKasFloor : I64 := 1000
def minStakeKasCeiling : I64 := 100000
def confidenceFloor : I64 := 5000
def confidenceCeiling : I64 := 9900
def rewardFloor : I64 := 10
def rewardCeiling : I64 := 1000
def targetValidatorsMin : I64 := 50
def targetValidatorsMax : I64 := 200
def targetFpRateMax : I64 := 50
def maxFpRate : I64 := 10000
def stepStake : I64 := 500
def stepConfidence : I64 := 100
def stepReward : I64 := 10

structure State (PubKey : Type) where
  metricsOraclePk : PubKey
  minStakeKas : I64
  minGuardianRep : I64
  minConfidenceKi : I64
  validatorConsensus : I64
  rewardBase : I64
  lastTuningBlock : I64
  activeValidators : I64
  activeGuardians : I64
  proposalsPerDay : I64
  fpRate : I64
  lastMetricsBlock : I64
  deriving DecidableEq

/-- One step down, not below the floor. -/
def lowerTo (floor step value : I64) : Option I64 := do
  let lowered ← value.sub step
  return if lowered < floor then floor else lowered

/-- One step up, not above the ceiling. -/
def raiseTo (ceiling step value : I64) : Option I64 := do
  let raised ← value.add step
  return if raised > ceiling then ceiling else raised

section Entrypoints

variable {PubKey Sig : Type} (checkSig : Sig → PubKey → Bool)

def reportMetrics (prev : State PubKey) (newActiveValidators newActiveGuardians newProposalsPerDay
    newFpRate blockHeight : I64) (oracleSig : Sig) : Option (State PubKey) := do
  require (newActiveValidators ≥ 0)
  require (newActiveGuardians ≥ 0)
  require (newProposalsPerDay ≥ 0)
  require (newFpRate ≥ 0)
  require (newFpRate ≤ maxFpRate)
  require (blockHeight ≥ prev.lastMetricsBlock)
  require (checkSig oracleSig prev.metricsOraclePk = true)
  return { prev with
    activeValidators := newActiveValidators
    activeGuardians := newActiveGuardians
    proposalsPerDay := newProposalsPerDay
    fpRate := newFpRate
    lastMetricsBlock := blockHeight }

def nextMinStakeKas (prev : State PubKey) : Option I64 :=
  if prev.activeValidators < targetValidatorsMin then
    lowerTo minStakeKasFloor stepStake prev.minStakeKas
  else if prev.activeValidators > targetValidatorsMax then
    raiseTo minStakeKasCeiling stepStake prev.minStakeKas
  else some prev.minStakeKas

def nextMinConfidenceKi (prev : State PubKey) : Option I64 :=
  if prev.fpRate > targetFpRateMax then
    raiseTo confidenceCeiling stepConfidence prev.minConfidenceKi
  else if prev.fpRate = 0 ∧ prev.minConfidenceKi > confidenceFloor then
    lowerTo confidenceFloor stepConfidence prev.minConfidenceKi
  else some prev.minConfidenceKi

def nextRewardBase (prev : State PubKey) : Option I64 :=
  if prev.proposalsPerDay < 100 then
    raiseTo rewardCeiling stepReward prev.rewardBase
  else if prev.proposalsPerDay > 200 then
    lowerTo rewardFloor stepReward prev.rewardBase
  else some prev.rewardBase

/-- Anyone may call it. -/
def autoTune (prev : State PubKey) (blockHeight : I64) : Option (State PubKey) := do
  let due ← prev.lastTuningBlock.add tuningIntervalBlocks
  require (blockHeight ≥ due)
  require (prev.minStakeKas ≥ minStakeKasFloor)
  require (prev.minStakeKas ≤ minStakeKasCeiling)
  require (prev.minConfidenceKi ≥ confidenceFloor)
  require (prev.minConfidenceKi ≤ confidenceCeiling)
  require (prev.rewardBase ≥ rewardFloor)
  require (prev.rewardBase ≤ rewardCeiling)
  require (prev.activeValidators ≥ 0)
  require (prev.activeGuardians ≥ 0)
  require (prev.proposalsPerDay ≥ 0)
  require (prev.fpRate ≥ 0)
  require (prev.fpRate ≤ maxFpRate)
  let minStakeKas ← nextMinStakeKas prev
  let minConfidenceKi ← nextMinConfidenceKi prev
  let rewardBase ← nextRewardBase prev
  return { prev with
    minStakeKas := minStakeKas
    minConfidenceKi := minConfidenceKi
    rewardBase := rewardBase
    lastTuningBlock := blockHeight }

end Entrypoints

/-! ## The machine -/

inductive Call (Sig : Type) where
  | reportMetrics (newActiveValidators newActiveGuardians newProposalsPerDay newFpRate
      blockHeight : I64) (sig : Sig)
  | autoTune (blockHeight : I64)

variable {PubKey Sig : Type} {checkSig : Sig → PubKey → Bool} {s t : State PubKey}
variable {h : List (Transition (State PubKey) (Call Sig))}

def step (checkSig : Sig → PubKey → Bool) : Call Sig → State PubKey → Option (State PubKey)
  | .reportMetrics validators guardians proposals fpRate height sig, s =>
    reportMetrics checkSig s validators guardians proposals fpRate height sig
  | .autoTune height, s => autoTune s height

/-! ## One step within the bounds -/

/-- The tuned parameters are within their bounds. -/
structure InBounds (s : State PubKey) : Prop where
  stake : 1000 ≤ s.minStakeKas.val ∧ s.minStakeKas.val ≤ 100000
  confidence : 5000 ≤ s.minConfidenceKi.val ∧ s.minConfidenceKi.val ≤ 9900
  reward : 10 ≤ s.rewardBase.val ∧ s.rewardBase.val ≤ 1000

/-- The reported metrics are ones a report may carry. -/
structure Reported (s : State PubKey) : Prop where
  validators : 0 ≤ s.activeValidators.val
  guardians : 0 ≤ s.activeGuardians.val
  proposals : 0 ≤ s.proposalsPerDay.val
  fpRate : 0 ≤ s.fpRate.val ∧ s.fpRate.val ≤ 10000

/-- `value` moved by at most `step`. -/
def Moved (step : Int) (value next : I64) : Prop :=
  value.val - step ≤ next.val ∧ next.val ≤ value.val + step

theorem lowerTo_some {floor step value next : I64} :
    lowerTo floor step value = some next ↔
      (-2 ^ 63 ≤ value.val - step.val ∧ value.val - step.val < 2 ^ 63) ∧
        next.val = max floor.val (value.val - step.val) := by
  simp only [lowerTo, line_bind, I64.sub_eq_some, pure, Option.some.injEq, I64.lt_iff]
  constructor
  · intro hl
    obtain ⟨lowered, hlowered, rfl⟩ := hl
    have := lowered.bounds
    refine ⟨by omega, ?_⟩
    by_cases low : lowered.val < floor.val
    · rw [if_pos low]
      omega
    · rw [if_neg low]
      omega
  · intro hl
    obtain ⟨lowered, hlowered⟩ := I64.exists_val.2 hl.1
    refine ⟨lowered, hlowered, ?_⟩
    rw [I64.eq_iff, hl.2]
    by_cases low : lowered.val < floor.val
    · rw [if_pos low]
      omega
    · rw [if_neg low]
      omega

theorem raiseTo_some {ceiling step value next : I64} :
    raiseTo ceiling step value = some next ↔
      (-2 ^ 63 ≤ value.val + step.val ∧ value.val + step.val < 2 ^ 63) ∧
        next.val = min ceiling.val (value.val + step.val) := by
  simp only [raiseTo, line_bind, I64.add_eq_some, pure, Option.some.injEq, gt_iff_lt, I64.lt_iff]
  constructor
  · intro hr
    obtain ⟨raised, hraised, rfl⟩ := hr
    have := raised.bounds
    refine ⟨by omega, ?_⟩
    by_cases high : ceiling.val < raised.val
    · rw [if_pos high]
      omega
    · rw [if_neg high]
      omega
  · intro hr
    obtain ⟨raised, hraised⟩ := I64.exists_val.2 hr.1
    refine ⟨raised, hraised, ?_⟩
    rw [I64.eq_iff, hr.2]
    by_cases high : ceiling.val < raised.val
    · rw [if_pos high]
      omega
    · rw [if_neg high]
      omega

/-- A step down from within the bounds is accepted and stays within them. -/
theorem lowerTo_within {floor step value next : I64} {ceiling : Int}
    (hv : floor.val ≤ value.val ∧ value.val ≤ ceiling) (hstep : 0 ≤ step.val)
    (hl : lowerTo floor step value = some next) :
    (floor.val ≤ next.val ∧ next.val ≤ ceiling) ∧ Moved step.val value next := by
  have := (lowerTo_some.1 hl).2
  unfold Moved
  omega

/-- A step up from within the bounds is accepted and stays within them. -/
theorem raiseTo_within {ceiling step value next : I64} {floor : Int}
    (hv : floor ≤ value.val ∧ value.val ≤ ceiling.val) (hstep : 0 ≤ step.val)
    (hr : raiseTo ceiling step value = some next) :
    (floor ≤ next.val ∧ next.val ≤ ceiling.val) ∧ Moved step.val value next := by
  have := (raiseTo_some.1 hr).2
  unfold Moved
  omega

theorem same_within {floor ceiling step : Int} {value next : I64}
    (hv : floor ≤ value.val ∧ value.val ≤ ceiling) (hstep : 0 ≤ step)
    (hs : some value = some next) :
    (floor ≤ next.val ∧ next.val ≤ ceiling) ∧ Moved step value next := by
  cases hs
  unfold Moved
  omega

theorem nextMinStakeKas_within (inv : InBounds s) {next : I64}
    (hn : nextMinStakeKas s = some next) :
    (1000 ≤ next.val ∧ next.val ≤ 100000) ∧ Moved 500 s.minStakeKas next := by
  unfold nextMinStakeKas at hn
  by_cases few : s.activeValidators < targetValidatorsMin
  · rw [if_pos few] at hn
    exact lowerTo_within inv.stake (by decide) hn
  · rw [if_neg few] at hn
    by_cases many : s.activeValidators > targetValidatorsMax
    · rw [if_pos many] at hn
      exact raiseTo_within inv.stake (by decide) hn
    · rw [if_neg many] at hn
      exact same_within inv.stake (by decide) hn

theorem nextMinConfidenceKi_within (inv : InBounds s) {next : I64}
    (hn : nextMinConfidenceKi s = some next) :
    (5000 ≤ next.val ∧ next.val ≤ 9900) ∧ Moved 100 s.minConfidenceKi next := by
  unfold nextMinConfidenceKi at hn
  by_cases wrong : s.fpRate > targetFpRateMax
  · rw [if_pos wrong] at hn
    exact raiseTo_within inv.confidence (by decide) hn
  · rw [if_neg wrong] at hn
    by_cases clean : s.fpRate = 0 ∧ s.minConfidenceKi > confidenceFloor
    · rw [if_pos clean] at hn
      exact lowerTo_within inv.confidence (by decide) hn
    · rw [if_neg clean] at hn
      exact same_within inv.confidence (by decide) hn

theorem nextRewardBase_within (inv : InBounds s) {next : I64}
    (hn : nextRewardBase s = some next) :
    (10 ≤ next.val ∧ next.val ≤ 1000) ∧ Moved 10 s.rewardBase next := by
  unfold nextRewardBase at hn
  by_cases few : s.proposalsPerDay < 100
  · rw [if_pos few] at hn
    exact raiseTo_within inv.reward (by decide) hn
  · rw [if_neg few] at hn
    by_cases many : s.proposalsPerDay > 200
    · rw [if_pos many] at hn
      exact lowerTo_within inv.reward (by decide) hn
    · rw [if_neg many] at hn
      exact same_within inv.reward (by decide) hn

/-- Within the bounds no step of the three leaves the range of a script integer. -/
theorem next_exists (inv : InBounds s) :
    (∃ next, nextMinStakeKas s = some next) ∧ (∃ next, nextMinConfidenceKi s = some next) ∧
      ∃ next, nextRewardBase s = some next := by
  have lowers : ∀ floor step value : I64, 0 ≤ floor.val → 0 ≤ step.val → step.val ≤ 1000 →
      0 ≤ value.val → ∃ next, lowerTo floor step value = some next := by
    intro floor step value hfloor hstep hsmall hvalue
    have := value.upper
    have := floor.upper
    obtain ⟨next, hnext⟩ : ∃ next : I64, next.val = max floor.val (value.val - step.val) := by
      apply I64.exists_val.2
      omega
    exact ⟨next, lowerTo_some.2 ⟨by omega, hnext⟩⟩
  have raises : ∀ ceiling step value : I64, 0 ≤ step.val → step.val ≤ 1000 →
      0 ≤ value.val → value.val ≤ 100000 → 0 ≤ ceiling.val →
      ∃ next, raiseTo ceiling step value = some next := by
    intro ceiling step value hstep hsmall hvalue hhigh hceiling
    obtain ⟨next, hnext⟩ : ∃ next : I64, next.val = min ceiling.val (value.val + step.val) := by
      apply I64.exists_val.2
      omega
    exact ⟨next, raiseTo_some.2 ⟨by omega, hnext⟩⟩
  have stake := inv.stake
  have confidence := inv.confidence
  have reward := inv.reward
  refine ⟨?_, ?_, ?_⟩
  · unfold nextMinStakeKas
    by_cases few : s.activeValidators < targetValidatorsMin
    · rw [if_pos few]
      exact lowers _ _ _ (by decide) (by decide) (by decide) (by omega)
    · rw [if_neg few]
      by_cases many : s.activeValidators > targetValidatorsMax
      · rw [if_pos many]
        exact raises _ _ _ (by decide) (by decide) (by omega) (by omega) (by decide)
      · rw [if_neg many]
        exact ⟨_, rfl⟩
  · unfold nextMinConfidenceKi
    by_cases wrong : s.fpRate > targetFpRateMax
    · rw [if_pos wrong]
      exact raises _ _ _ (by decide) (by decide) (by omega) (by omega) (by decide)
    · rw [if_neg wrong]
      by_cases clean : s.fpRate = 0 ∧ s.minConfidenceKi > confidenceFloor
      · rw [if_pos clean]
        exact lowers _ _ _ (by decide) (by decide) (by decide) (by omega)
      · rw [if_neg clean]
        exact ⟨_, rfl⟩
  · unfold nextRewardBase
    by_cases few : s.proposalsPerDay < 100
    · rw [if_pos few]
      exact raises _ _ _ (by decide) (by decide) (by omega) (by omega) (by decide)
    · rw [if_neg few]
      by_cases many : s.proposalsPerDay > 200
      · rw [if_pos many]
        exact lowers _ _ _ (by decide) (by decide) (by decide) (by omega)
      · rw [if_neg many]
        exact ⟨_, rfl⟩

/-! ## What each entrypoint does -/

theorem reportMetrics_some {validators guardians proposals fpRate height : I64} {sig : Sig} :
    reportMetrics checkSig s validators guardians proposals fpRate height sig = some t ↔
      0 ≤ validators.val ∧ 0 ≤ guardians.val ∧ 0 ≤ proposals.val ∧ 0 ≤ fpRate.val ∧
      fpRate.val ≤ 10000 ∧ s.lastMetricsBlock.val ≤ height.val ∧
      checkSig sig s.metricsOraclePk = true ∧
      t = { s with
        activeValidators := validators, activeGuardians := guardians, proposalsPerDay := proposals,
        fpRate := fpRate, lastMetricsBlock := height } := by
  simp only [reportMetrics, line_bind, require_eq_some, exists_const, pure, Option.some.injEq,
    ge_iff_le, I64.le_iff, I64.val_zero, maxFpRate, I64.val_ofNat]
  norm_num only
  simp only [eq_comm (b := t)]

theorem autoTune_some {height : I64} :
    autoTune s height = some t ↔
      s.lastTuningBlock.val + 604800 < 2 ^ 63 ∧ s.lastTuningBlock.val + 604800 ≤ height.val ∧
      InBounds s ∧ Reported s ∧
      ∃ stake confidence reward, nextMinStakeKas s = some stake ∧
        nextMinConfidenceKi s = some confidence ∧ nextRewardBase s = some reward ∧
        t = { s with
          minStakeKas := stake, minConfidenceKi := confidence, rewardBase := reward,
          lastTuningBlock := height } := by
  simp only [autoTune, line_bind, require_eq_some, exists_const, pure, Option.some.injEq,
    I64.add_eq_some, ge_iff_le, I64.le_iff, I64.val_zero, tuningIntervalBlocks, minStakeKasFloor,
    minStakeKasCeiling, confidenceFloor, confidenceCeiling, rewardFloor, rewardCeiling, maxFpRate,
    I64.val_ofNat]
  norm_num only
  constructor
  · intro hc
    obtain ⟨due, hdue, hh, s1, s2, c1, c2, r1, r2, v, g, p, f1, f2, stake, hstake, confidence,
      hconfidence, reward, hreward, rfl⟩ := hc
    have := due.upper
    exact ⟨by omega, by omega, ⟨⟨s1, s2⟩, ⟨c1, c2⟩, ⟨r1, r2⟩⟩, ⟨v, g, p, f1, f2⟩, stake, confidence,
      reward, hstake, hconfidence, hreward, rfl⟩
  · intro hc
    obtain ⟨fits, hh, ⟨⟨s1, s2⟩, ⟨c1, c2⟩, ⟨r1, r2⟩⟩, ⟨v, g, p, f1, f2⟩, stake, confidence, reward,
      hstake, hconfidence, hreward, rfl⟩ := hc
    obtain ⟨due, hdue⟩ : ∃ due : I64, due.val = s.lastTuningBlock.val + 604800 := by
      have := s.lastTuningBlock.lower
      apply I64.exists_val.2
      omega
    exact ⟨due, hdue, by omega, s1, s2, c1, c2, r1, r2, v, g, p, f1, f2, stake, hstake, confidence,
      hconfidence, reward, hreward, rfl⟩

/-! ## Runs -/

theorem InBounds.step {c : Call Sig} (inv : InBounds s) (hc : step checkSig c s = some t) :
    InBounds t := by
  cases c with
  | reportMetrics validators guardians proposals fpRate height sig =>
    obtain ⟨_, _, _, _, _, _, _, rfl⟩ := reportMetrics_some.1 hc
    exact ⟨inv.stake, inv.confidence, inv.reward⟩
  | autoTune height =>
    obtain ⟨_, _, _, _, stake, confidence, reward, hstake, hconfidence, hreward, rfl⟩ :=
      autoTune_some.1 hc
    constructor
    · exact (nextMinStakeKas_within inv hstake).1
    · exact (nextMinConfidenceKi_within inv hconfidence).1
    · exact (nextRewardBase_within inv hreward).1

theorem Reported.step {c : Call Sig} (rep : Reported s) (hc : step checkSig c s = some t) :
    Reported t := by
  cases c with
  | reportMetrics validators guardians proposals fpRate height sig =>
    obtain ⟨v, g, p, f1, f2, _, _, rfl⟩ := reportMetrics_some.1 hc
    exact ⟨v, g, p, f1, f2⟩
  | autoTune height =>
    obtain ⟨_, _, _, _, _, _, _, _, _, _, rfl⟩ := autoTune_some.1 hc
    exact ⟨rep.validators, rep.guardians, rep.proposals, rep.fpRate⟩

/-- Each parameter moves by at most its step. -/
theorem step_moved {c : Call Sig} (inv : InBounds s) (hc : step checkSig c s = some t) :
    Moved 500 s.minStakeKas t.minStakeKas ∧ Moved 100 s.minConfidenceKi t.minConfidenceKi ∧
      Moved 10 s.rewardBase t.rewardBase := by
  cases c with
  | reportMetrics validators guardians proposals fpRate height sig =>
    obtain ⟨_, _, _, _, _, _, _, rfl⟩ := reportMetrics_some.1 hc
    simp only [Moved]
    omega
  | autoTune height =>
    obtain ⟨_, _, _, _, stake, confidence, reward, hstake, hconfidence, hreward, rfl⟩ :=
      autoTune_some.1 hc
    exact ⟨(nextMinStakeKas_within inv hstake).2, (nextMinConfidenceKi_within inv hconfidence).2,
      (nextRewardBase_within inv hreward).2⟩

/-- The latest tuning, when there was one, is recorded in `last_tuning_block`, and no earlier one
    is later. -/
theorem tuned_by (r : Run (step checkSig) s h t) :
    ∀ x ∈ h, ∀ height, x.call = .autoTune height → height.val ≤ t.lastTuningBlock.val := by
  induction r with
  | genesis => simp
  | accept c r' hc ih =>
    cases c with
    | reportMetrics validators guardians proposals fpRate height sig =>
      obtain ⟨_, _, _, _, _, _, _, rfl⟩ := reportMetrics_some.1 hc
      intro x hx height hcall
      cases hx with
      | head => cases hcall
      | tail _ hx => exact ih x hx height hcall
    | autoTune latest =>
      obtain ⟨_, due, _, _, _, _, _, _, _, _, rfl⟩ := autoTune_some.1 hc
      intro x hx height hcall
      cases hx with
      | head =>
        cases hcall
        exact le_refl _
      | tail _ hx =>
        have := ih x hx height hcall
        simp only
        omega

/-- Two tunings are an interval apart. -/
def Apart (later earlier : Transition (State PubKey) (Call Sig)) : Prop :=
  ∀ a b, later.call = .autoTune a → earlier.call = .autoTune b → b.val + 604800 ≤ a.val

theorem tunings_apart (r : Run (step checkSig) s h t) : h.Pairwise Apart := by
  induction r with
  | genesis => exact List.Pairwise.nil
  | accept c r' hc ih =>
    apply List.Pairwise.cons _ ih
    intro x hx a b ha hb
    have earlier := tuned_by r' x hx b hb
    simp only at ha
    rw [ha] at hc
    obtain ⟨_, due, _⟩ := autoTune_some.1 hc
    omega

/-- From valid metrics within the bounds, the covenant can be tuned at some height from `now` on
    exactly when the interval after the last tuning still ends. -/
theorem tunable_iff (inv : InBounds s) (rep : Reported s) (now : I64) :
    (∃ height t, now.val ≤ height.val ∧ autoTune s height = some t) ↔
      s.lastTuningBlock.val + 604800 < 2 ^ 63 := by
  constructor
  · intro ht
    obtain ⟨height, t, _, hc⟩ := ht
    exact (autoTune_some.1 hc).1
  · intro fits
    obtain ⟨⟨stake, hstake⟩, ⟨confidence, hconfidence⟩, ⟨reward, hreward⟩⟩ := next_exists inv
    have := now.bounds
    obtain ⟨height, hheight⟩ :
        ∃ height : I64, height.val = max now.val (s.lastTuningBlock.val + 604800) := by
      apply I64.exists_val.2
      omega
    have hc : autoTune s height = some { s with
        minStakeKas := stake, minConfidenceKi := confidence, rewardBase := reward,
        lastTuningBlock := height } := by
      apply autoTune_some.2
      exact ⟨fits, by omega, inv, rep, stake, confidence, reward, hstake, hconfidence, hreward, rfl⟩
    exact ⟨height, _, by omega, hc⟩

/-- On every run from parameters within their bounds: the bounds hold, no call moves a parameter by
    more than its step, tunings are an interval apart, and from valid metrics some height from any
    block on can be tuned at exactly when the last tuning leaves room for the interval. -/
theorem autoTuning_bounded (hs : InBounds s) (r : Run (step checkSig) s h t) :
    InBounds t ∧
      (∀ x ∈ h, Moved 500 x.pre.minStakeKas x.post.minStakeKas ∧
        Moved 100 x.pre.minConfidenceKi x.post.minConfidenceKi ∧
        Moved 10 x.pre.rewardBase x.post.rewardBase) ∧
      h.Pairwise Apart ∧
      (Reported s → ∀ now : I64,
        (∃ height u, now.val ≤ height.val ∧ autoTune t height = some u) ↔
          t.lastTuningBlock.val + 604800 < 2 ^ 63) := by
  have inv : InBounds t := r.invariant hs (fun _ _ _ inv hc => inv.step hc)
  refine ⟨inv, ?_, tunings_apart r, ?_⟩
  · intro x hx
    obtain ⟨before, hc⟩ := r.steps hs (fun _ _ _ inv hc => inv.step hc) x hx
    exact step_moved before hc
  · intro rep now
    have rep' : Reported t := r.invariant rep (fun _ _ _ rep hc => rep.step hc)
    exact tunable_iff inv rep' now

/-! ## Examples -/

/-- Parameters in the middle of their bounds, quiet metrics, tuned last at `block`. -/
def exampleTuning (block : I64) : State Nat where
  metricsOraclePk := 1
  minStakeKas := 10000
  minGuardianRep := 1000
  minConfidenceKi := 8500
  validatorConsensus := 6700
  rewardBase := 100
  lastTuningBlock := block
  activeValidators := 100
  activeGuardians := 300
  proposalsPerDay := 150
  fpRate := 10
  lastMetricsBlock := 0

/-- Keys sign with themselves in the examples. -/
def exampleSig (sig pk : Nat) : Bool := sig == pk

theorem exampleTuning_inBounds {block : I64} : InBounds (exampleTuning block) := by
  constructor <;> simp [exampleTuning]

theorem exampleTuning_reported {block : I64} : Reported (exampleTuning block) := by
  constructor <;> simp [exampleTuning]

theorem example_autoTune (height : I64) (hh : 604800 ≤ height.val) :
    step exampleSig (.autoTune height) (exampleTuning 0) = some (exampleTuning height) := by
  apply autoTune_some.2
  exact ⟨by decide, hh, exampleTuning_inBounds, exampleTuning_reported, _, _, _, rfl, rfl, rfl, rfl⟩

/-- After a tuning at height one million the covenant can be tuned again. -/
theorem autoTuning_bounded_million :
    ∃ height t, (2000000 : I64).val ≤ height.val ∧
      autoTune (exampleTuning 1000000) height = some t := by
  have r := Run.single (example_autoTune 1000000 (by decide))
  have all := autoTuning_bounded exampleTuning_inBounds r
  exact (all.2.2.2 exampleTuning_reported 2000000).2 (by decide)

/-- A tuning at the largest height is accepted, and no later height ever is. -/
theorem tuned_at_last_height :
    ¬ ∀ (s t : State Nat) (h : List (Transition (State Nat) (Call Nat))), InBounds s →
      Reported s → Run (step exampleSig) s h t → ∃ height u, autoTune t height = some u := by
  intro claim
  have r := Run.single (example_autoTune 9223372036854775807 (by decide))
  obtain ⟨height, u, hu⟩ := claim _ _ _ exampleTuning_inBounds exampleTuning_reported r
  exact absurd (autoTune_some.1 hu).1 (by decide)

end Prometheus.Contracts.GovernanceAutoTuning
