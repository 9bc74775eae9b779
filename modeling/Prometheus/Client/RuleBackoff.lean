import Prometheus.Client.RuleCoordinator

/-!
# The back-off of the rule sync coordinator

What the first run on a coordinator does after any sequence of attempt results: the delay before the
next attempt, and the counters of the status. A history keeps what each step found, so the results
that the run has recorded are read off it.
-/

namespace Prometheus.Client.RuleCoordinator

open Prometheus.Machine

/-! ## The results of a run -/

/-- The result that the step of a call at this point records. -/
def outcomeAt : RunPoint → Action → Option AttemptResult
  | .attempted result _, .advance => some result
  | _, _ => none

/-- The step drops the attempt that is running. -/
def cancelsAt : RunPoint → Action → Bool
  | .attempting _, .leave => true
  | _, _ => false

def outcomeOf (id : Nat) (e : Event State (Nat × Action) Unit) : Option AttemptResult :=
  if e.input.1 = id then outcomeAt (e.pre.calls id) e.input.2 else none

def cancels (id : Nat) (e : Event State (Nat × Action) Unit) : Bool :=
  decide (e.input.1 = id) && cancelsAt (e.pre.calls id) e.input.2

/-- The results that call `id` has recorded, oldest first. -/
def outcomes (id : Nat) (h : History) : List AttemptResult := h.filterMap (outcomeOf id)

/-- No call but `id` has run in `h`: others were refused, or have not begun. -/
def FirstRun (id : Nat) (h : History) : Prop :=
  ∀ e ∈ h, ∀ other, (e.post.calls other).Active → other = id

/-- The number of failures since the last success. -/
def failedInARow (results : List AttemptResult) : Nat :=
  (results.reverse.takeWhile fun result => decide (result ≠ .succeeded)).length

/-- An attempt is running, or its result is not recorded yet. -/
def RunPoint.attemptInProgress : RunPoint → Bool
  | .attempting _ | .attempted _ _ => true
  | _ => false

/-- One for an attempt that has begun and will record no result or has not recorded it. -/
def openAttempts (cancelled : Bool) (point : RunPoint) : Nat :=
  if point.attemptInProgress || cancelled then 1 else 0

/-! ## What the loop holds -/

/-- The delay that follows `k + 1` failures in a row, as a multiple that is capped. -/
def cappedBackoff (config : RuleCoordinatorConfig) (k : Nat) : Duration :=
  min (config.initialFailureBackoff * 2 ^ k) config.maxFailureBackoff

/-- The delay before the next attempt: none before the first. -/
def nextDelay (config : RuleCoordinatorConfig) (results : List AttemptResult) : Duration :=
  if results = [] then 0
  else if failedInARow results = 0 then config.successInterval
  else cappedBackoff config (failedInARow results - 1)

/-- The variables of the loop are those that the results so far call for. -/
def Resumes (config : RuleCoordinatorConfig) (results : List AttemptResult) : RunPoint → Prop
  | .created => results = []
  | .loopTop delay backoff =>
    delay = nextDelay config results ∧ backoff = cappedBackoff config (failedInARow results)
  | .sleeping backoff | .checking backoff | .starting backoff | .attempting backoff
  | .attempted _ backoff => backoff = cappedBackoff config (failedInARow results)
  | .dropping | .released | .finished => True

/-- The run is over but for its guard. -/
def RunPoint.Ended : RunPoint → Prop
  | .dropping | .released | .finished => True
  | _ => False

/-- A counter that has been incremented `n` times. -/
def saturated (n : Nat) : UInt64 := UInt64.ofNat (min n (2 ^ 64 - 1))

/-- The counters are those of the results and of the attempt that has none. -/
structure Counts (results : List AttemptResult) (unrecorded : Nat) (status : RuleCoordinatorStatus) :
    Prop where
  attempts : status.attempts = saturated (results.length + unrecorded)
  successes : status.successes = saturated (results.countP fun result => result = .succeeded)
  failures : status.failures = saturated (results.countP fun result => result ≠ .succeeded)
  consecutive : status.consecutiveFailures = saturated (failedInARow results)

structure Tracks (config : RuleCoordinatorConfig) (results : List AttemptResult) (cancelled : Bool)
    (point : RunPoint) (status : RuleCoordinatorStatus) : Prop where
  resumes : Resumes config results point
  counts : Counts results (openAttempts cancelled point) status
  ended : cancelled = true → point.Ended

/-! ## Counters and delays -/

theorem toNat_saturated {n : Nat} (h : n < 2 ^ 64) : (saturated n).toNat = n := by
  rw [saturated, Nat.min_eq_left (by omega)]
  exact UInt64.toNat_ofNat_of_lt' h

theorem saturatingSucc_saturated (n : Nat) : saturatingSucc (saturated n) = saturated (n + 1) := by
  unfold saturatingSucc
  by_cases full : 2 ^ 64 - 1 ≤ n
  · rw [saturated, saturated, Nat.min_eq_right full, Nat.min_eq_right (by omega)]
    rfl
  · have below : (saturated n).toNat = n := toNat_saturated (by omega)
    have room : saturated n ≠ 18446744073709551615 := by
      intro same
      rw [same] at below
      exact full below.le
    rw [if_neg room, ← UInt64.toNat_inj, UInt64.toNat_add, below, toNat_saturated (by omega)]
    exact Nat.mod_eq_of_lt (by show n + 1 < 2 ^ 64; omega)

theorem failedInARow_concat (results : List AttemptResult) (result : AttemptResult) :
    failedInARow (results ++ [result]) =
      if result = .succeeded then 0 else failedInARow results + 1 := by
  by_cases succeeded : result = .succeeded <;>
    simp [failedInARow, succeeded]

variable {config : RuleCoordinatorConfig}

/-- What `RuleCoordinatorConfig::new` makes sure of. -/
structure Bounded (config : RuleCoordinatorConfig) : Prop where
  initial : config.initialFailureBackoff ≤ config.maxFailureBackoff
  doubles : config.maxFailureBackoff * 2 ≤ durationMax

theorem bounded_of_new {successInterval initial largest attemptTimeout : Duration}
    (h : RuleCoordinatorConfig.new successInterval initial largest attemptTimeout = some config) :
    Bounded config ∧ config = ⟨successInterval, initial, largest, attemptTimeout⟩ := by
  obtain ⟨⟨-, -, ⟨-, small⟩, -, ordered⟩, rfl⟩ := Option.ite_none_right_eq_some.mp h |>.imp_right
    fun same => (Option.some.inj same).symm
  have doubles : RuleCoordinator.maxFailureBackoff * 2 ≤ durationMax := by decide
  exact ⟨⟨ordered, (Nat.mul_le_mul_right 2 small).trans doubles⟩, rfl⟩

theorem cappedBackoff_zero (bounded : Bounded config) :
    cappedBackoff config 0 = config.initialFailureBackoff := by
  rw [cappedBackoff, pow_zero, Nat.mul_one, Nat.min_eq_left bounded.initial]

/-- `checked_mul(2)` never overflows on a back-off of the loop. -/
theorem cappedBackoff_doubles (bounded : Bounded config) (k : Nat) :
    cappedBackoff config k * 2 ≤ durationMax :=
  (Nat.mul_le_mul_right 2 (Nat.min_le_right _ _)).trans bounded.doubles

theorem doubledBackoff_capped (bounded : Bounded config) (k : Nat) :
    doubledBackoff (cappedBackoff config k) config.maxFailureBackoff =
      cappedBackoff config (k + 1) := by
  rw [doubledBackoff, if_pos (cappedBackoff_doubles bounded k), cappedBackoff, cappedBackoff,
    pow_succ, ← Nat.mul_assoc]
  have caps (uncapped maximum : Nat) :
      min (min uncapped maximum * 2) maximum = min (uncapped * 2) maximum := by
    omega
  exact caps _ _

/-! ## One step of the run -/

section Step

variable {results : List AttemptResult} {cancelled : Bool} {point : RunPoint} {s : Shared}
  {action : Action}

/-- Results, cancellation, point and status after the step. -/
def TracksStep (config : RuleCoordinatorConfig) (results : List AttemptResult) (cancelled : Bool)
    (point : RunPoint) (s : Shared) (action : Action) : Prop :=
  Tracks config (results ++ (outcomeAt point action).toList) (cancelled || cancelsAt point action)
    (stepCall config action point s).1 (stepCall config action point s).2.status

/-- A step that the call does not take. -/
theorem Tracks.stay (tracks : Tracks config results cancelled point s.status)
    (same : stepCall config action point s = (point, s)) (records : outcomeAt point action = none)
    (continues : cancelsAt point action = false) :
    TracksStep config results cancelled point s action := by
  rw [TracksStep, same, records, continues, Option.toList_none, List.append_nil, Bool.or_false]
  exact tracks

theorem Tracks.running (tracks : Tracks config results cancelled point s.status)
    (continues : ¬ point.Ended) : cancelled = false := by
  cases cancelled with
  | false => rfl
  | true => exact absurd (tracks.ended rfl) continues

/-- A step that records no result and does not touch the counters. -/
theorem Tracks.move {point' : RunPoint} {s' : Shared}
    (tracks : Tracks config results cancelled point s.status)
    (moves : stepCall config action point s = (point', s'))
    (resumes : Resumes config results point')
    (unchanged : ∀ n, Counts results n s.status → Counts results n s'.status)
    (records : outcomeAt point action = none)
    (unrecorded : openAttempts (cancelled || cancelsAt point action) point' =
      openAttempts cancelled point)
    (ended : (cancelled || cancelsAt point action) = true → point'.Ended) :
    TracksStep config results cancelled point s action := by
  rw [TracksStep, moves, records, Option.toList_none, List.append_nil]
  refine ⟨resumes, ?_, ended⟩
  rw [unrecorded]
  exact unchanged _ tracks.counts

theorem Counts.record (counts : Counts results 1 s.status) {result : AttemptResult}
    {status : RuleCoordinatorStatus} (attempts : status.attempts = s.status.attempts)
    (recorded : if result = .succeeded then
        status.successes = saturatingSucc s.status.successes ∧
          status.failures = s.status.failures ∧ status.consecutiveFailures = 0
      else status.successes = s.status.successes ∧
        status.failures = saturatingSucc s.status.failures ∧
          status.consecutiveFailures = saturatingSucc s.status.consecutiveFailures) :
    Counts (results ++ [result]) 0 status := by
  by_cases succeeded : result = .succeeded
  · rw [if_pos succeeded] at recorded
    obtain ⟨successes, failures, consecutive⟩ := recorded
    refine ⟨?_, ?_, ?_, ?_⟩
    · rw [attempts, counts.attempts, List.length_append, List.length_singleton, Nat.add_zero]
    · rw [successes, counts.successes, saturatingSucc_saturated, List.countP_append]
      simp [succeeded]
    · rw [failures, counts.failures, List.countP_append]
      simp [succeeded]
    · rw [consecutive, failedInARow_concat, if_pos succeeded]
      rfl
  · rw [if_neg succeeded] at recorded
    obtain ⟨successes, failures, consecutive⟩ := recorded
    refine ⟨?_, ?_, ?_, ?_⟩
    · rw [attempts, counts.attempts, List.length_append, List.length_singleton, Nat.add_zero]
    · rw [successes, counts.successes, List.countP_append]
      simp [succeeded]
    · rw [failures, counts.failures, saturatingSucc_saturated, List.countP_append]
      simp [succeeded]
    · rw [consecutive, counts.consecutive, saturatingSucc_saturated, failedInARow_concat,
        if_neg succeeded]

theorem Tracks.step (bounded : Bounded config)
    (tracks : Tracks config results cancelled point s.status) :
    TracksStep config results cancelled point s action := by
  have resumes := tracks.resumes
  cases point with
  | created =>
    have running := tracks.running id
    have none : results = [] := resumes
    subst running none
    cases action with
    | enter allowed =>
      have refused : Tracks config [] false .finished s.status :=
        ⟨trivial, tracks.counts, nofun⟩
      have begun : Tracks config [] false (.loopTop 0 config.initialFailureBackoff) s.status :=
        ⟨⟨rfl, (cappedBackoff_zero bounded).symm⟩, tracks.counts, nofun⟩
      cases allowed with
      | false => exact refused
      | true =>
        by_cases taken : s.running
        · rw [TracksStep, show stepCall config (.enter true) .created s = (.finished, s) from
            if_pos taken]
          exact refused
        · rw [TracksStep, show stepCall config (.enter true) .created s =
            (.loopTop 0 config.initialFailureBackoff, { s with running := true }) from if_neg taken]
          exact begun
    | _ => exact tracks.stay rfl rfl rfl
  | loopTop delay backoff =>
    have running := tracks.running id
    subst running
    cases action with
    | advance =>
      by_cases wait : delay ≠ 0
      · exact tracks.move (if_pos wait) resumes.2 (fun _ counts => ⟨counts.1, counts.2, counts.3, counts.4⟩)
          rfl rfl nofun
      · exact tracks.move (if_neg wait) resumes.2 (fun _ counts => counts) rfl rfl nofun
    | _ => exact tracks.stay rfl rfl rfl
  | sleeping backoff =>
    have running := tracks.running id
    subst running
    cases action with
    | elapse => exact tracks.move rfl resumes (fun _ counts => counts) rfl rfl nofun
    | leave => exact tracks.move rfl trivial (fun _ counts => counts) rfl rfl (fun _ => trivial)
    | _ => exact tracks.stay rfl rfl rfl
  | checking backoff =>
    have running := tracks.running id
    subst running
    cases action with
    | borrow shutdown =>
      cases shutdown with
      | true => exact tracks.move rfl trivial (fun _ counts => counts) rfl rfl (fun _ => trivial)
      | false => exact tracks.move rfl resumes (fun _ counts => counts) rfl rfl nofun
    | _ => exact tracks.stay rfl rfl rfl
  | starting backoff =>
    have running := tracks.running id
    subst running
    cases action with
    | advance =>
      have counts := tracks.counts
      -- the one counter that this step increments
      have attempts : saturatingSucc s.status.attempts = saturated (results.length + 1) := by
        rw [counts.attempts, saturatingSucc_saturated]
        rfl
      rw [TracksStep, show outcomeAt (.starting backoff) .advance = none from rfl,
        Option.toList_none, List.append_nil]
      exact ⟨resumes, ⟨attempts, counts.successes, counts.failures, counts.consecutive⟩, nofun⟩
    | _ => exact tracks.stay rfl rfl rfl
  | attempting backoff =>
    have running := tracks.running id
    subst running
    cases action with
    | resolve result => exact tracks.move rfl resumes (fun _ counts => counts) rfl rfl nofun
    | leave => exact tracks.move rfl trivial (fun _ counts => counts) rfl rfl (fun _ => trivial)
    | _ => exact tracks.stay rfl rfl rfl
  | attempted result backoff =>
    have running := tracks.running id
    subst running
    cases action with
    | advance =>
      have counts : Counts results 1 s.status := tracks.counts
      have backoffIs : backoff = cappedBackoff config (failedInARow results) := resumes
      cases result with
      | succeeded =>
        refine ⟨⟨?_, ?_⟩, counts.record rfl ⟨rfl, rfl, rfl⟩, nofun⟩
        · simp [nextDelay, failedInARow_concat, outcomeAt]
        · simp [failedInARow_concat, outcomeAt, cappedBackoff_zero bounded]
      | failed =>
        refine ⟨⟨?_, ?_⟩, counts.record rfl ⟨rfl, rfl, rfl⟩, nofun⟩
        · simp [nextDelay, failedInARow_concat, outcomeAt, backoffIs]
        · simp [failedInARow_concat, outcomeAt, backoffIs, doubledBackoff_capped bounded]
      | timedOut =>
        refine ⟨⟨?_, ?_⟩, counts.record rfl ⟨rfl, rfl, rfl⟩, nofun⟩
        · simp [nextDelay, failedInARow_concat, outcomeAt, backoffIs]
        · simp [failedInARow_concat, outcomeAt, backoffIs, doubledBackoff_capped bounded]
    | _ => cases result <;> exact tracks.stay rfl rfl rfl
  | dropping =>
    cases action with
    | advance =>
      exact tracks.move rfl trivial (fun _ counts => counts) rfl
        (by simp [openAttempts, cancelsAt, RunPoint.attemptInProgress]) (fun _ => trivial)
    | _ => exact tracks.stay rfl rfl rfl
  | released =>
    cases action with
    | advance =>
      exact tracks.move rfl trivial (fun _ counts => ⟨counts.1, counts.2, counts.3, counts.4⟩) rfl
        (by simp [openAttempts, cancelsAt, RunPoint.attemptInProgress]) (fun _ => trivial)
    | _ => exact tracks.stay rfl rfl rfl
  | finished => cases action <;> exact tracks.stay rfl rfl rfl

end Step

/-! ## The first run -/

theorem FirstRun.prefix {id : Nat} {h h' : History} (first : FirstRun id (h ++ h')) :
    FirstRun id h := fun e he => first e (List.mem_append_left _ he)

theorem outcomes_concat (id : Nat) (h : History) (e : Event State (Nat × Action) Unit) :
    outcomes id (h ++ [e]) = outcomes id h ++ (outcomeOf id e).toList := by
  cases isOutcome : outcomeOf id e <;> simp [outcomes, isOutcome]

/-- A call that has not begun is refused if it does not take the flag. -/
theorem stepCall_refused {action : Action} {point : RunPoint} {s : Shared}
    (idle : point = .created ∨ point = .finished)
    (quiet : ¬ (stepCall config action point s).1.Active) :
    ((stepCall config action point s).1 = .created ∨ (stepCall config action point s).1 = .finished) ∧
      (stepCall config action point s).2.status = s.status := by
  rcases idle with rfl | rfl
  · cases action with
    | enter allowed =>
      cases allowed with
      | false => exact ⟨.inr rfl, rfl⟩
      | true =>
        by_cases taken : s.running
        · rw [show stepCall config (.enter true) .created s = (.finished, s) from if_pos taken]
          exact ⟨.inr rfl, rfl⟩
        · rw [show stepCall config (.enter true) .created s =
            (.loopTop 0 config.initialFailureBackoff, { s with running := true }) from
              if_neg taken] at quiet
          exact absurd trivial quiet
    | _ => exact ⟨.inl rfl, rfl⟩
  · cases action <;> exact ⟨.inr rfl, rfl⟩

/-- In the first run the status tracks the results of its call, and the other calls have not begun
    or were refused. -/
theorem tracks_run (bounded : Bounded config) {id : Nat} {h : History} {s : State}
    (r : Run (step config) Built h s) (first : FirstRun id h) :
    Tracks config (outcomes id h) (h.any (cancels id)) (s.calls id) s.shared.status ∧
      ∀ other, other ≠ id → s.calls other = .created ∨ s.calls other = .finished := by
  induction r with
  | start s built =>
    rw [built]
    exact ⟨⟨rfl, ⟨rfl, rfl, rfl, rfl⟩, nofun⟩, fun _ _ => .inl rfl⟩
  | @call h s i r ih =>
    obtain ⟨tracks, others⟩ := ih first.prefix
    have onlyHere := first _ (List.mem_append_right _ List.mem_cons_self)
    rw [outcomes_concat, List.any_append]
    by_cases own : i.1 = id
    · subst own
      constructor
      · have stepped : TracksStep config _ _ _ _ i.2 := tracks.step bounded
        simpa [TracksStep, outcomeOf, cancels, callEvent] using stepped
      · intro other differs
        rw [step_calls_other differs]
        exact others other differs
    · -- another call can only be refused
      have apart : outcomeOf id (callEvent (step config) s i) = none := if_neg own
      have goesOn : cancels id (callEvent (step config) s i) = false := by
        simp [cancels, callEvent, own]
      have quiet : ¬ (stepCall config i.2 (s.calls i.1) s.shared).1.Active := by
        intro active
        rw [← step_calls_self] at active
        exact own (onlyHere i.1 active)
      obtain ⟨stays, status⟩ := stepCall_refused (others i.1 own) quiet
      rw [apart, List.any_cons, List.any_nil, goesOn, Option.toList_none, List.append_nil,
        Bool.or_false, Bool.or_false, step_shared, status, step_calls_other (Ne.symm own)]
      refine ⟨tracks, fun other differs => ?_⟩
      by_cases stepped : other = i.1
      · rw [stepped, step_calls_self]
        exact stays
      · rw [step_calls_other stepped]
        exact others other differs

/-! ## The back-off -/

/-- What a status and a program point of the first run say, when `results` were recorded. -/
structure BacksOff (config : RuleCoordinatorConfig) (results : List AttemptResult)
    (cancelled : Bool) (point : RunPoint) (status : RuleCoordinatorStatus) : Prop where
  /-- the delay after the last result, in the loop of the run -/
  delay : ∀ delay backoff, point = .loopTop delay backoff → results ≠ [] →
    delay = if failedInARow results = 0 then config.successInterval
      else min (config.initialFailureBackoff * 2 ^ (failedInARow results - 1))
        config.maxFailureBackoff
  /-- doubling the back-off that the loop holds does not overflow -/
  doubles : ∀ result backoff, point = .attempted result backoff → backoff * 2 ≤ durationMax
  /-- the counters, while they are below `2 ^ 64` -/
  counters : results.length + 1 < 2 ^ 64 →
    status.attempts.toNat = status.successes.toNat + status.failures.toNat +
        (if point.attemptInProgress || cancelled then 1 else 0) ∧
      status.successes.toNat = (results.countP fun result => result = .succeeded) ∧
      status.failures.toNat = (results.countP fun result => result ≠ .succeeded) ∧
      status.consecutiveFailures.toNat = failedInARow results

theorem failedInARow_le (results : List AttemptResult) : failedInARow results ≤ results.length := by
  have shorter := (List.takeWhile_prefix
    (l := results.reverse) fun result => decide (result ≠ AttemptResult.succeeded)).length_le
  rwa [List.length_reverse] at shorter

theorem Tracks.backsOff {results : List AttemptResult} {cancelled : Bool} {point : RunPoint}
    {status : RuleCoordinatorStatus} (bounded : Bounded config)
    (tracks : Tracks config results cancelled point status) :
    BacksOff config results cancelled point status := by
  constructor
  · rintro delay backoff rfl some
    obtain ⟨isDelay, -⟩ := tracks.resumes
    rw [isDelay, nextDelay, if_neg some]
    rfl
  · rintro result backoff rfl
    have isBackoff : backoff = _ := tracks.resumes
    rw [isBackoff]
    exact cappedBackoff_doubles bounded _
  · intro small
    have counts := tracks.counts
    have unrecorded : openAttempts cancelled point ≤ 1 := by
      unfold openAttempts
      split <;> omega
    have inARow := failedInARow_le results
    have parts := @List.length_eq_countP_add_countP _ (fun result => decide (result = .succeeded))
      results
    simp only [decide_eq_true_eq, ← ne_eq] at parts
    rw [counts.attempts, counts.successes, counts.failures, counts.consecutive,
      toNat_saturated (by omega), toNat_saturated (by omega), toNat_saturated (by omega),
      toNat_saturated (by omega)]
    refine ⟨?_, rfl, rfl, rfl⟩
    show results.length + openAttempts cancelled point = _
    rw [parts]
    rfl

/-- At every moment of a history in which only call `id` has run, whatever its attempts gave. -/
theorem rule_backoff {successInterval initial largest attemptTimeout : Duration}
    (valid : RuleCoordinatorConfig.new successInterval initial largest attemptTimeout = some config)
    {id : Nat} {h : History} {s : State} (r : Run (step config) Built h s) (first : FirstRun id h) :
    BacksOff config (outcomes id h) (h.any (cancels id)) (s.calls id) s.shared.status :=
  (tracks_run (bounded_of_new valid).1 r first).1.backsOff (bounded_of_new valid).1

/-- Other calls do not run where they take no step. -/
theorem firstRun_of_alone {id : Nat} {h : History} {s : State} (r : Run (step config) Built h s)
    (alone : ∀ e ∈ h, e.input.1 = id) :
    FirstRun id h ∧ ∀ other, other ≠ id → s.calls other = .created := by
  induction r with
  | start s built =>
    rw [built]
    exact ⟨fun e he => absurd he List.not_mem_nil, fun _ _ => rfl⟩
  | @call h s i r ih =>
    obtain ⟨first, others⟩ := ih fun e he => alone e (List.mem_append_left _ he)
    have own : i.1 = id := alone _ (List.mem_append_right _ List.mem_cons_self)
    have created : ∀ other, other ≠ id → (step config i s).2.calls other = .created := by
      intro other differs
      rw [step_calls_other (own ▸ differs)]
      exact others other differs
    refine ⟨fun e he other active => ?_, created⟩
    rcases List.mem_append.mp he with before | last
    · exact first e before other active
    · rw [List.mem_singleton.mp last] at active
      by_contra differs
      have idle : (callEvent (step config) s i).post.calls other = .created := created other differs
      rw [idle] at active
      exact active

/-- A failed attempt, one that timed out, and the loop before the third. -/
def twoFailures : List (Nat × Action) :=
  [(0, .enter true), (0, .advance), (0, .borrow false), (0, .advance), (0, .resolve .failed),
    (0, .advance), (0, .advance), (0, .elapse), (0, .borrow false), (0, .advance),
    (0, .resolve .timedOut), (0, .advance)]

theorem rule_backoff_two :
    ∃ h s config, Run (step config) Built h s ∧ outcomes 0 h = [.failed, .timedOut] ∧
      s.calls 0 = .loopTop 200000000 300000000 ∧
      BacksOff config (outcomes 0 h) (h.any (cancels 0)) (s.calls 0) s.shared.status := by
  have valid : RuleCoordinatorConfig.new 1000000000 100000000 300000000 100000000 = some _ := rfl
  have built : Built ⟨⟨false, default⟩, fun _ => .created⟩ := rfl
  have r : Run (step ⟨1000000000, 100000000, 300000000, 100000000⟩) Built _ _ :=
    Run.of_execute built twoFailures
  exact ⟨_, _, _, r, by decide, by decide,
    rule_backoff valid r (firstRun_of_alone r (by decide)).1⟩

end Prometheus.Client.RuleCoordinator
