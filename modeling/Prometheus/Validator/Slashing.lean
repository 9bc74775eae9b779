import Prometheus.Validator.CommitReveal

/-!
# Slashing

`SlashingEngine` of `modules/validator-node/src/slashing/mod.rs` computes a slash with saturating
64-bit arithmetic; `slash` of `ValidatorStaking.ss` computes it in the contract. They are compared
along runs, where each slash leaves a smaller stake and a larger count for the next.
-/

namespace Prometheus.Slashing

open Prometheus.Contracts (require require_eq_some line_bind)
open Prometheus.Validator.CommitReveal (saturatingMul)

/-- `MIN_STAKE_KAS`, in the engine and in the contract. -/
def minStakeKas : UInt64 := 10000

/-! ## The engine -/

/-- `u64::saturating_sub`. -/
def saturatingSub (a b : UInt64) : UInt64 := if b ≤ a then a - b else 0

/-- `+`, which panics where the sum does not fit. -/
def plainAdd (a b : UInt64) : Option UInt64 :=
  if a.toNat + b.toNat < 2 ^ 64 then some (a + b) else none

/-- `calculate_penalty`; `none` where it panics. -/
def calculatePenalty (stake percent count : UInt64) : Option UInt64 := do
  let escalated ← plainAdd (count / 3) 1
  let multiplier := min 3 escalated
  let rawPenalty := saturatingMul (saturatingMul stake percent) multiplier / 100
  return min rawPenalty stake

/-- `should_deactivate`. -/
def shouldDeactivate (remainingStake : UInt64) : Bool := decide (remainingStake < minStakeKas)

/-- `execute`: the penalty, the remaining stake and whether to deactivate. -/
def execute (stake percent count : UInt64) : Option (UInt64 × UInt64 × Bool) := do
  let penalty ← calculatePenalty stake percent count
  let remaining := saturatingSub stake penalty
  return (penalty, remaining, shouldDeactivate remaining)

/-- The engine's results for the percentages of a run. Each slash starts from what the one before
left, with the count incremented. -/
def executeAll (stake count : UInt64) : List UInt64 → Option (List (UInt64 × UInt64 × Bool))
  | [] => some []
  | percent :: percents => do
    let result ← execute stake percent count
    let results ← executeAll result.2.1 (count + 1) percents
    return result :: results

/-! ## The contract -/

/-- `Validator`. -/
structure Validator where
  pubkey : Vector UInt8 32
  stakeKas : UInt64
  active : Bool
  joinedAt : UInt64
  reputation : UInt64
  slashingCount : UInt64
  lastVoteBlock : UInt64
  deriving DecidableEq

/-- The state variables that `slash` reads. -/
structure StakingState (Address : Type) where
  validators : Address → Validator
  governanceContract : Address
  ruleStorageContract : Address

/-- A slash: who sends it, the validator and the percentage. -/
structure SlashCall (Address : Type) where
  sender : Address
  validatorAddr : Address
  percent : UInt64

/-- A result of `uint64` arithmetic. What happens to one that does not fit is a parameter. -/
def uint64 (excess : Int → Option UInt64) (n : Int) : Option UInt64 :=
  if 0 ≤ n ∧ n < 2 ^ 64 then some (UInt64.ofNat n.toNat) else excess n

section

variable {Address : Type} [DecidableEq Address] (excess : Int → Option UInt64)

/-- The `penalty` of `slash`, with its `multiplier`. -/
def slashPenalty (stake percent count : UInt64) : Option UInt64 := do
  let escalated ← uint64 excess ((count / 3).toNat + 1)
  let multiplier := min 3 escalated
  let scaled ← uint64 excess (stake.toNat * percent.toNat)
  let multiplied ← uint64 excess (scaled.toNat * multiplier.toNat)
  return min (multiplied / 100) stake

/-- `slash`: the penalty it returns and the state it leaves, unless it reverts. -/
def slash (call : SlashCall Address) (state : StakingState Address) :
    Option (UInt64 × StakingState Address) := do
  require (call.sender = state.governanceContract ∨ call.sender = state.ruleStorageContract)
  let validator := state.validators call.validatorAddr
  require (validator.active = true)
  require (call.percent > 0 ∧ call.percent ≤ 100)
  let penalty ← slashPenalty excess validator.stakeKas call.percent validator.slashingCount
  let stakeKas ← uint64 excess (validator.stakeKas.toNat - penalty.toNat)
  let slashingCount ← uint64 excess (validator.slashingCount.toNat + 1)
  let slashed := { validator with
    stakeKas := stakeKas
    slashingCount := slashingCount
    active := if stakeKas < minStakeKas then false else validator.active }
  return (penalty,
    { state with validators := Function.update state.validators call.validatorAddr slashed })

/-- A run of slashes: the validator of each, with the penalty, the stake it leaves and whether it
deactivates, and the last state. -/
def slashAll : List (SlashCall Address) → StakingState Address →
    Option (List (Address × UInt64 × UInt64 × Bool) × StakingState Address)
  | [], state => some ([], state)
  | call :: calls, state => do
    let (penalty, next) ← slash excess call state
    let validator := next.validators call.validatorAddr
    let (results, last) ← slashAll calls next
    return ((call.validatorAddr, penalty, validator.stakeKas, !validator.active) :: results, last)

end

/-! ## What the engine computes -/

/-- `min(3, count / 3 + 1)`. -/
def multiplierOf (count : Nat) : Nat := min 3 (count / 3 + 1)

/-- The product of a slash fits. -/
def Fits (stake percent count : UInt64) : Prop :=
  stake.toNat * percent.toNat * multiplierOf count.toNat < 2 ^ 64

variable {stake percent count stake' percent' count' : UInt64}

theorem toNat_saturatingMul (a b : UInt64) :
    (saturatingMul a b).toNat = min (a.toNat * b.toNat) (2 ^ 64 - 1) := by
  by_cases fits : a.toNat * b.toNat < 2 ^ 64
  · rw [saturatingMul, if_pos fits, UInt64.toNat_mul, Nat.mod_eq_of_lt fits,
      min_eq_left (by omega)]
  · rw [saturatingMul, if_neg fits, min_eq_right (by omega)]
    rfl

theorem toNat_saturatingSub (a b : UInt64) : (saturatingSub a b).toNat = a.toNat - b.toNat := by
  by_cases le : b ≤ a
  · rw [saturatingSub, if_pos le, UInt64.toNat_sub_of_le _ _ le]
  · rw [saturatingSub, if_neg le]
    rw [UInt64.le_iff_toNat_le] at le
    show 0 = _
    omega

theorem toNat_min (a b : UInt64) : (min a b).toNat = min a.toNat b.toNat := by
  show (if a ≤ b then a else b).toNat = _
  by_cases le : a ≤ b
  · rw [if_pos le, min_eq_left (UInt64.le_iff_toNat_le.mp le)]
  · rw [if_neg le]
    rw [UInt64.le_iff_toNat_le] at le
    exact (min_eq_right (by omega)).symm

theorem toNat_third (count : UInt64) : (count / 3).toNat = count.toNat / 3 := UInt64.toNat_div _ _

theorem toNat_percent (n : UInt64) : (n / 100).toNat = n.toNat / 100 := UInt64.toNat_div _ _

/-- The escalation never overflows. -/
theorem plainAdd_third (count : UInt64) :
    plainAdd (count / 3) 1 = some (count / 3 + 1) ∧
      (min 3 (count / 3 + 1)).toNat = multiplierOf count.toNat := by
  have bound := count.toNat_lt
  have third := toNat_third count
  have fits : (count / 3).toNat + 1 < 2 ^ 64 := by omega
  refine ⟨if_pos fits, ?_⟩
  have added : (count / 3 + 1).toNat = count.toNat / 3 + 1 := by
    rw [UInt64.toNat_add, third]
    exact Nat.mod_eq_of_lt (by rw [third] at fits; exact fits)
  rw [toNat_min, added]
  rfl

/-- The penalty with both products saturated. -/
def saturatedPenalty (stake percent count : Nat) : Nat :=
  min (min (min (stake * percent) (2 ^ 64 - 1) * multiplierOf count) (2 ^ 64 - 1) / 100) stake

theorem calculatePenalty_some (stake percent count : UInt64) :
    ∃ penalty, calculatePenalty stake percent count = some penalty ∧
      penalty.toNat = saturatedPenalty stake.toNat percent.toNat count.toNat := by
  obtain ⟨added, multiplier⟩ := plainAdd_third count
  refine ⟨_, by rw [calculatePenalty, added]; rfl, ?_⟩
  rw [toNat_min, toNat_percent, toNat_saturatingMul, toNat_saturatingMul, multiplier]
  rfl

/-- The engine always returns, and splits the stake into the penalty and the rest. -/
theorem execute_some (stake percent count : UInt64) :
    ∃ penalty remaining, execute stake percent count =
        some (penalty, remaining, decide (remaining < minStakeKas)) ∧
      penalty.toNat = saturatedPenalty stake.toNat percent.toNat count.toNat ∧
      penalty.toNat + remaining.toNat = stake.toNat := by
  obtain ⟨penalty, isPenalty, value⟩ := calculatePenalty_some stake percent count
  have capped : penalty.toNat ≤ stake.toNat := by
    rw [value]
    exact min_le_right _ _
  refine ⟨penalty, saturatingSub stake penalty, ?_, value, ?_⟩
  · rw [execute, isPenalty]
    rfl
  · rw [toNat_saturatingSub]
    omega

theorem multiplierOf_mono {m n : Nat} (h : m ≤ n) : multiplierOf m ≤ multiplierOf n := by
  unfold multiplierOf
  omega

theorem multiplierOf_pos (count : Nat) : 1 ≤ multiplierOf count := by
  unfold multiplierOf
  omega

theorem saturatedPenalty_mono {s s' p p' c c' : Nat} (hs : s ≤ s') (hp : p ≤ p') (hc : c ≤ c') :
    saturatedPenalty s p c ≤ saturatedPenalty s' p' c' := by
  unfold saturatedPenalty
  have multiplier := multiplierOf_mono hc
  gcongr

/-- A product that fits is not saturated, and neither is its first factor. -/
theorem saturatedPenalty_of_fits {s p c : Nat} (fits : s * p * multiplierOf c < 2 ^ 64) :
    saturatedPenalty s p c = min (s * p * multiplierOf c / 100) s := by
  have first : s * p ≤ s * p * multiplierOf c := Nat.le_mul_of_pos_right _ (multiplierOf_pos c)
  rw [saturatedPenalty, min_eq_left (show s * p ≤ 2 ^ 64 - 1 by omega),
    min_eq_left (show s * p * multiplierOf c ≤ 2 ^ 64 - 1 by omega)]

/-! ## What the contract computes -/

section

variable {Address : Type} [DecidableEq Address] {excess : Int → Option UInt64}
  {call : SlashCall Address} {state state' next : StakingState Address} {penalty : UInt64}

theorem uint64_of_fits {n : Nat} (fits : n < 2 ^ 64) :
    uint64 excess n = some (UInt64.ofNat n) ∧ (UInt64.ofNat n).toNat = n := by
  refine ⟨?_, UInt64.toNat_ofNat_of_lt' fits⟩
  rw [uint64, if_pos (by omega), Int.toNat_natCast]

/-- What the contract requires of a slash. -/
structure Permitted (state : StakingState Address) (call : SlashCall Address) : Prop where
  sender : call.sender = state.governanceContract ∨ call.sender = state.ruleStorageContract
  active : (state.validators call.validatorAddr).active = true
  percent : call.percent > 0 ∧ call.percent ≤ 100

/-- The validator after a slash with a result of the engine. -/
def Validator.slashed (validator : Validator) (remaining : UInt64) (deactivate : Bool) : Validator :=
  { validator with
    stakeKas := remaining
    slashingCount := validator.slashingCount + 1
    active := !deactivate }

theorem Validator.slashed_eq (validator : Validator) {remaining : UInt64}
    (active : validator.active = true) :
    validator.slashed remaining (decide (remaining < minStakeKas)) =
      { validator with
        stakeKas := remaining
        slashingCount := validator.slashingCount + 1
        active := if remaining < minStakeKas then false else validator.active } := by
  rw [Validator.slashed, active]
  by_cases low : remaining < minStakeKas
  · rw [if_pos low, decide_eq_true low, Bool.not_true]
  · rw [if_neg low, decide_eq_false low, Bool.not_false]

/-- The state after a slash with a result of the engine. -/
def StakingState.slashed (state : StakingState Address) (addr : Address) (remaining : UInt64)
    (deactivate : Bool) : StakingState Address :=
  { state with
    validators := Function.update state.validators addr
      ((state.validators addr).slashed remaining deactivate) }

/-- Where the product fits, the contract's penalty is the engine's. -/
theorem slashPenalty_of_fits (fits : Fits stake percent count) :
    slashPenalty excess stake percent count = calculatePenalty stake percent count := by
  obtain ⟨computed, isComputed, value⟩ := calculatePenalty_some stake percent count
  rw [saturatedPenalty_of_fits fits] at value
  have bound := count.toNat_lt
  have third := toNat_third count
  have product : stake.toNat * percent.toNat < 2 ^ 64 :=
    lt_of_le_of_lt (Nat.le_mul_of_pos_right _ (multiplierOf_pos _)) fits
  obtain ⟨escalates, escalated⟩ := @uint64_of_fits excess ((count / 3).toNat + 1) (by omega)
  obtain ⟨scales, scaled⟩ := @uint64_of_fits excess _ product
  have multiplier : (min 3 (UInt64.ofNat ((count / 3).toNat + 1))).toNat =
      multiplierOf count.toNat := by
    rw [toNat_min, escalated, third]
    rfl
  obtain ⟨multiplies, multiplied⟩ := @uint64_of_fits excess _ fits
  have returned : slashPenalty excess stake percent count = some (min (UInt64.ofNat
      (stake.toNat * percent.toNat * multiplierOf count.toNat) / 100) stake) := by
    simp only [slashPenalty, line_bind]
    refine ⟨_, escalates, _, scales, _, ?_, rfl⟩
    rw [scaled, multiplier]
    exact multiplies
  rw [returned, isComputed, Option.some.injEq, ← UInt64.toNat_inj, toNat_min, toNat_percent,
    multiplied, value]

/-- The new stake and the new count fit. -/
theorem slash_updates {validator : Validator} {remaining : UInt64}
    (counted : validator.slashingCount.toNat + 1 < 2 ^ 64)
    (split : penalty.toNat + remaining.toNat = validator.stakeKas.toNat) :
    uint64 excess (validator.stakeKas.toNat - penalty.toNat) = some remaining ∧
      uint64 excess (validator.slashingCount.toNat + 1) = some (validator.slashingCount + 1) := by
  have stake : (validator.stakeKas.toNat : Int) - penalty.toNat = (remaining.toNat : Int) := by
    omega
  have count : UInt64.ofNat (validator.slashingCount.toNat + 1) = validator.slashingCount + 1 := by
    rw [UInt64.ofNat_add, UInt64.ofNat_toNat]
    rfl
  rw [stake, (@uint64_of_fits excess _ remaining.toNat_lt).1, UInt64.ofNat_toNat]
  exact ⟨rfl, (@uint64_of_fits excess _ counted).1.trans (congrArg some count)⟩

/-- Within the width, a slash that the contract permits has the engine's result, whatever the
contract makes of results that do not fit. -/
theorem slash_eq_some
    (fits : Fits (state.validators call.validatorAddr).stakeKas call.percent
      (state.validators call.validatorAddr).slashingCount)
    (counted : (state.validators call.validatorAddr).slashingCount.toNat + 1 < 2 ^ 64) :
    slash excess call state = some (penalty, next) ↔
      Permitted state call ∧ ∃ remaining deactivate,
        execute (state.validators call.validatorAddr).stakeKas call.percent
            (state.validators call.validatorAddr).slashingCount =
          some (penalty, remaining, deactivate) ∧
        next = state.slashed call.validatorAddr remaining deactivate := by
  generalize isValidator : state.validators call.validatorAddr = validator at fits counted
  obtain ⟨computed, remaining, isResult, value, split⟩ :=
    execute_some validator.stakeKas call.percent validator.slashingCount
  obtain ⟨computed', isPenalty, -⟩ :=
    calculatePenalty_some validator.stakeKas call.percent validator.slashingCount
  obtain rfl : computed' = computed := by
    rw [execute, isPenalty] at isResult
    exact congrArg Prod.fst (Option.some.inj isResult)
  obtain ⟨isStake, isCount⟩ := @slash_updates excess computed' validator remaining counted split
  have returns : (slash excess call state = some (penalty, next)) ↔ Permitted state call ∧
      penalty = computed' ∧ next = state.slashed call.validatorAddr remaining
        (decide (remaining < minStakeKas)) := by
    simp only [slash, line_bind, require_eq_some, isValidator, exists_const,
      slashPenalty_of_fits fits, isPenalty, isStake, isCount, Option.some.injEq,
      exists_eq_left']
    constructor
    · rintro ⟨sender, active, percent, isNext⟩
      obtain ⟨rfl, rfl⟩ := Prod.mk.inj (Option.some.inj isNext)
      refine ⟨⟨sender, by rw [isValidator, active], percent⟩, rfl, ?_⟩
      rw [StakingState.slashed, isValidator, validator.slashed_eq active]
    · rintro ⟨permitted, rfl, rfl⟩
      have active := isValidator ▸ permitted.active
      refine ⟨permitted.sender, active, permitted.percent, ?_⟩
      rw [StakingState.slashed, isValidator, validator.slashed_eq active]
      rfl
  rw [returns]
  constructor
  · rintro ⟨permitted, rfl, rfl⟩
    exact ⟨permitted, _, _, isResult, rfl⟩
  · rintro ⟨permitted, remaining', deactivate, isExecuted, rfl⟩
    rw [isResult] at isExecuted
    cases isExecuted
    exact ⟨permitted, rfl, rfl⟩

/-! ## Runs -/

/-- Every product of the run fits, and so does every incremented count. -/
def AllFit (excess : Int → Option UInt64) :
    List (SlashCall Address) → StakingState Address → Prop
  | [], _ => True
  | call :: calls, state =>
    let validator := state.validators call.validatorAddr
    Fits validator.stakeKas call.percent validator.slashingCount ∧
      validator.slashingCount.toNat + 1 < 2 ^ 64 ∧
      ∀ penalty next, slash excess call state = some (penalty, next) → AllFit excess calls next

/-- The percentages of the slashes of one validator. -/
def percentsOf (addr : Address) (calls : List (SlashCall Address)) : List UInt64 :=
  (calls.filter fun call => call.validatorAddr = addr).map SlashCall.percent

/-- The results of the slashes of one validator. -/
def resultsOf (addr : Address) (results : List (Address × UInt64 × UInt64 × Bool)) :
    List (UInt64 × UInt64 × Bool) :=
  (results.filter fun result => result.1 = addr).map Prod.snd

theorem slashAll_cons {calls : List (SlashCall Address)} {last : StakingState Address}
    {results : List (Address × UInt64 × UInt64 × Bool)} :
    slashAll excess (call :: calls) state = some (results, last) ↔
      ∃ penalty next rest, slash excess call state = some (penalty, next) ∧
        slashAll excess calls next = some (rest, last) ∧
        results = (call.validatorAddr, penalty, (next.validators call.validatorAddr).stakeKas,
          !(next.validators call.validatorAddr).active) :: rest := by
  rw [slashAll, line_bind]
  constructor
  · rintro ⟨⟨penalty, next⟩, isSlash, h⟩
    obtain ⟨⟨rest, last'⟩, isRest, isResult⟩ := line_bind.mp h
    obtain ⟨rfl, rfl⟩ := Prod.mk.inj (Option.some.inj isResult)
    exact ⟨penalty, next, rest, isSlash, isRest, rfl⟩
  · rintro ⟨penalty, next, rest, isSlash, isRest, rfl⟩
    exact ⟨(penalty, next), isSlash, line_bind.mpr ⟨(rest, last), isRest, rfl⟩⟩

theorem executeAll_cons {percents : List UInt64} {penalty remaining : UInt64} {deactivate : Bool}
    (isResult : execute stake percent count = some (penalty, remaining, deactivate))
    {results : List (UInt64 × UInt64 × Bool)}
    (isRest : executeAll remaining (count + 1) percents = some results) :
    executeAll stake count (percent :: percents) =
      some ((penalty, remaining, deactivate) :: results) := by
  simp only [executeAll, isResult, isRest, Option.bind_eq_bind, Option.bind_some]
  rfl

theorem validators_slashed (addr other : Address) {remaining : UInt64} {deactivate : Bool} :
    (state.slashed addr remaining deactivate).validators other =
      if other = addr then (state.validators addr).slashed remaining deactivate
      else state.validators other := by
  exact Function.update_apply _ _ _ _

/-- For each validator the engine has the results of the contract's run. -/
theorem executeAll_of_slashAll {calls : List (SlashCall Address)} {last : StakingState Address}
    {results : List (Address × UInt64 × UInt64 × Bool)}
    (fits : AllFit excess calls state) (h : slashAll excess calls state = some (results, last))
    (addr : Address) :
    executeAll (state.validators addr).stakeKas (state.validators addr).slashingCount
      (percentsOf addr calls) = some (resultsOf addr results) := by
  induction calls generalizing state results with
  | nil =>
    obtain ⟨rfl, rfl⟩ := Prod.mk.inj (Option.some.inj h)
    rfl
  | cons call calls ih =>
    obtain ⟨penalty, next, rest, isSlash, isRest, rfl⟩ := slashAll_cons.mp h
    obtain ⟨product, counted, later⟩ := fits
    have rests := ih (later penalty next isSlash) isRest
    obtain ⟨-, remaining, deactivate, isResult, rfl⟩ :=
      (slash_eq_some product counted).mp isSlash
    rw [validators_slashed] at rests
    by_cases same : call.validatorAddr = addr
    · subst same
      rw [if_pos rfl] at rests
      rw [percentsOf, List.filter_cons_of_pos (by simp), List.map_cons, resultsOf,
        List.filter_cons_of_pos (by simp), List.map_cons, validators_slashed, if_pos rfl]
      simp only [Validator.slashed, Bool.not_not]
      exact executeAll_cons isResult rests
    · rw [if_neg (Ne.symm same)] at rests
      rw [percentsOf, List.filter_cons_of_neg (by simpa using same), resultsOf,
        List.filter_cons_of_neg (by simpa using same)]
      exact rests

/-- The slashes of one validator that the contract permits: it stays active up to the last. -/
def Admissible (stake count : UInt64) : List UInt64 → Prop
  | [] => True
  | percent :: percents =>
    (percent > 0 ∧ percent ≤ 100) ∧ Fits stake percent count ∧ count.toNat + 1 < 2 ^ 64 ∧
      ∀ penalty remaining deactivate,
        execute stake percent count = some (penalty, remaining, deactivate) →
          (percents ≠ [] → deactivate = false) ∧ Admissible remaining (count + 1) percents

/-- The contract accepts every run of slashes of an active validator that the engine does not
deactivate before the last one. -/
theorem slashAll_of_admissible {percents : List UInt64} {sender addr : Address}
    (permitted : sender = state.governanceContract ∨ sender = state.ruleStorageContract)
    (active : percents ≠ [] → (state.validators addr).active = true)
    (admissible : Admissible (state.validators addr).stakeKas
      (state.validators addr).slashingCount percents) :
    ∃ results last,
      slashAll excess (percents.map fun percent => ⟨sender, addr, percent⟩) state =
          some (results, last) ∧
        AllFit excess (percents.map fun percent => ⟨sender, addr, percent⟩) state := by
  induction percents generalizing state with
  | nil => exact ⟨[], state, rfl, trivial⟩
  | cons percent percents ih =>
    obtain ⟨bounds, fits, counted, later⟩ := admissible
    obtain ⟨penalty, remaining, isResult, -⟩ := execute_some (state.validators addr).stakeKas
      percent (state.validators addr).slashingCount
    obtain ⟨stays, rest⟩ := later _ _ _ isResult
    have isSlash : slash excess ⟨sender, addr, percent⟩ state = some (penalty,
        state.slashed addr remaining (decide (remaining < minStakeKas))) :=
      (slash_eq_some fits counted).mpr ⟨⟨permitted, active (List.cons_ne_nil _ _), bounds⟩, _, _,
        isResult, rfl⟩
    have slashed : (state.slashed addr remaining (decide (remaining < minStakeKas))).validators
        addr = (state.validators addr).slashed remaining (decide (remaining < minStakeKas)) := by
      rw [validators_slashed, if_pos rfl]
    obtain ⟨results, last, isRest, allFit⟩ :=
      @ih (state.slashed addr remaining (decide (remaining < minStakeKas))) permitted
        (fun more => by rw [slashed, Validator.slashed, stays more]; rfl)
        (by rw [slashed]; exact rest)
    refine ⟨_, last, slashAll_cons.mpr ⟨penalty, _, results, isSlash, isRest, rfl⟩, fits, counted,
      ?_⟩
    intro _ next isNext
    obtain ⟨-, rfl⟩ := Prod.mk.inj (Option.some.inj (isSlash.symm.trans isNext))
    exact allFit

theorem percentsOf_map (sender addr : Address) (percents : List UInt64) :
    percentsOf addr (percents.map fun percent => ⟨sender, addr, percent⟩) = percents := by
  induction percents with
  | nil => rfl
  | cons percent percents ih =>
    rw [List.map_cons, percentsOf, List.filter_cons_of_pos (by simp), List.map_cons]
    exact congrArg (percent :: ·) ih

end

/-- The engine always returns, splits the stake into a penalty and a rest, and takes no less for
more; where the product fits, the penalty is the exact one. Along every run of the contract whose
products and counts fit, the engine has the contract's results for each validator; and the contract
accepts every such run of permitted slashes that the engine does not deactivate before its end. -/
theorem slashing_arithmetic :
    (∀ stake percent count, ∃ penalty remaining,
      execute stake percent count =
          some (penalty, remaining, decide (remaining < minStakeKas)) ∧
        penalty ≤ stake ∧ penalty.toNat + remaining.toNat = stake.toNat ∧
        (Fits stake percent count → penalty.toNat =
          min (stake.toNat * percent.toNat * min 3 (count.toNat / 3 + 1) / 100) stake.toNat)) ∧
    (∀ stake stake' percent percent' count count' result result',
      stake ≤ stake' → percent ≤ percent' → count ≤ count' →
      execute stake percent count = some result → execute stake' percent' count' = some result' →
      result.1 ≤ result'.1) ∧
    ∀ (Address : Type) [DecidableEq Address] (excess : Int → Option UInt64)
      (state : StakingState Address),
      (∀ calls results last, slashAll excess calls state = some (results, last) →
        AllFit excess calls state → ∀ addr,
          executeAll (state.validators addr).stakeKas (state.validators addr).slashingCount
            (percentsOf addr calls) = some (resultsOf addr results)) ∧
      ∀ sender addr percents,
        (sender = state.governanceContract ∨ sender = state.ruleStorageContract) →
        (percents ≠ [] → (state.validators addr).active = true) →
        Admissible (state.validators addr).stakeKas (state.validators addr).slashingCount
          percents →
        ∃ results last,
          slashAll excess (percents.map fun percent => ⟨sender, addr, percent⟩) state =
              some (results, last) ∧
            executeAll (state.validators addr).stakeKas (state.validators addr).slashingCount
              percents = some (resultsOf addr results) := by
  refine ⟨fun stake percent count => ?_, ?_, fun Address _ excess state => ⟨?_, ?_⟩⟩
  · obtain ⟨penalty, remaining, isResult, value, split⟩ := execute_some stake percent count
    refine ⟨penalty, remaining, isResult, UInt64.le_iff_toNat_le.mpr (by omega), split, ?_⟩
    intro fits
    exact value.trans (saturatedPenalty_of_fits fits)
  · intro stake stake' percent percent' count count' result result' hs hp hc isResult isResult'
    obtain ⟨penalty, remaining, returned, value, -⟩ := execute_some stake percent count
    obtain ⟨penalty', remaining', returned', value', -⟩ := execute_some stake' percent' count'
    obtain rfl := Option.some.inj (returned.symm.trans isResult)
    obtain rfl := Option.some.inj (returned'.symm.trans isResult')
    rw [UInt64.le_iff_toNat_le] at hs hp hc ⊢
    show penalty.toNat ≤ penalty'.toNat
    rw [value, value']
    exact saturatedPenalty_mono hs hp hc
  · exact fun calls results last h fits addr => executeAll_of_slashAll fits h addr
  · intro sender addr percents permitted active admissible
    obtain ⟨results, last, isRun, fits⟩ :=
      @slashAll_of_admissible Address _ excess state percents sender addr permitted active admissible
    have engine := executeAll_of_slashAll fits isRun addr
    rw [percentsOf_map] at engine
    exact ⟨results, last, isRun, engine⟩

/-! ### A run -/

/-- A validator with a stake, run by the second address. -/
def sampleStaking (stakeKas : UInt64) : StakingState Bool where
  validators _ := ⟨Vector.replicate 32 0, stakeKas, true, 0, 10000, 0, 0⟩
  governanceContract := true
  ruleStorageContract := true

/-- Two slashes, the second of which deactivates the validator. -/
theorem slashing_arithmetic_deactivated :
    executeAll 12000 0 [5, 20] = some [(600, 11400, false), (2280, 9120, true)] ∧
      ∃ results last,
        slashAll (fun _ => none) ([5, 20].map fun percent => ⟨true, false, percent⟩)
            (sampleStaking 12000) = some (results, last) ∧
          executeAll 12000 0 [5, 20] = some (resultsOf false results) := by
  have first : execute 12000 5 0 = some (600, 11400, false) := by decide
  refine ⟨by decide, (slashing_arithmetic.2.2 Bool (fun _ => none) (sampleStaking 12000)).2 true false
    [5, 20] (.inl rfl) (fun _ => rfl) ⟨by decide, ?_, by decide, ?_⟩⟩
  · show 12000 * 5 * 1 < 2 ^ 64
    decide
  · intro penalty remaining deactivate isResult
    cases first.symm.trans isResult
    refine ⟨fun _ => rfl, by decide, ?_, by decide, fun _ _ _ _ => ⟨fun more => absurd rfl more, trivial⟩⟩
    show 11400 * 20 * 1 < 2 ^ 64
    decide

end Prometheus.Slashing
