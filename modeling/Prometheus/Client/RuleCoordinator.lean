import Prometheus.Machine.Trace

/-!
# The rule sync coordinator

`RuleCoordinator::run` claims the `running` flag, attempts and sleeps in turn, and gives the flag
back when its future ends or is dropped. The flag and the status are shared by all `run` calls on
one coordinator; each swap or store of the flag and each update of the status under its lock is one
step, and the steps of different calls interleave freely.

`RunGuard::drop` gives the flag back first and rewrites the status afterwards, so another call can
begin its run in between. `status_truthful` says that this is the only way in which the status can
be wrong about the run that is active.
-/

namespace Prometheus.Client.RuleCoordinator

open Prometheus.Machine

/-! ## The coordinator -/

/-- A `Duration`, in nanoseconds. -/
abbrev Duration := Nat

/-- `Duration::MAX`. -/
def durationMax : Duration := 18446744073709551615999999999

structure RuleCoordinatorConfig where
  successInterval : Duration
  initialFailureBackoff : Duration
  maxFailureBackoff : Duration
  attemptTimeout : Duration

def minSuccessInterval : Duration := 1000000000
def maxSuccessInterval : Duration := 86400000000000
def minFailureBackoff : Duration := 100000000
def maxFailureBackoff : Duration := 3600000000000
def minAttemptTimeout : Duration := 100000000
def maxAttemptTimeout : Duration := 60000000000

/-- `RuleCoordinatorConfig::new`. -/
def RuleCoordinatorConfig.new (successInterval initialFailureBackoff largestBackoff
    attemptTimeout : Duration) : Option RuleCoordinatorConfig :=
  if (minSuccessInterval ≤ successInterval ∧ successInterval ≤ maxSuccessInterval) ∧
      (minFailureBackoff ≤ initialFailureBackoff ∧ initialFailureBackoff ≤ RuleCoordinator.maxFailureBackoff) ∧
      (minFailureBackoff ≤ largestBackoff ∧ largestBackoff ≤ RuleCoordinator.maxFailureBackoff) ∧
      (minAttemptTimeout ≤ attemptTimeout ∧ attemptTimeout ≤ maxAttemptTimeout) ∧
      initialFailureBackoff ≤ largestBackoff then
    some ⟨successInterval, initialFailureBackoff, largestBackoff, attemptTimeout⟩
  else none

inductive RuleCoordinatorPhase where
  | idle
  | attempting
  | sleeping
  deriving DecidableEq

inductive RuleCoordinatorOutcome where
  | succeeded
  | failed
  | timedOut
  | cancelled
  deriving DecidableEq

structure RuleCoordinatorStatus where
  attempts : UInt64
  successes : UInt64
  failures : UInt64
  consecutiveFailures : UInt64
  phase : RuleCoordinatorPhase
  lastOutcome : Option RuleCoordinatorOutcome
  deriving DecidableEq

instance : Inhabited RuleCoordinatorStatus := ⟨0, 0, 0, 0, .idle, none⟩

/-- `saturating_add(1)`. -/
def saturatingSucc (n : UInt64) : UInt64 := if n = 18446744073709551615 then n else n + 1

def doubledBackoff (current maximum : Duration) : Duration :=
  if current * 2 ≤ durationMax then min (current * 2) maximum else maximum

/-- What `timeout(attempt_timeout, attempt).await` gives. -/
inductive AttemptResult where
  | succeeded
  | failed
  | timedOut
  deriving DecidableEq

/-- Where a `run` call is: its program point and the two variables of its loop. -/
inductive RunPoint where
  | created
  | loopTop (delay failureBackoff : Duration)
  | sleeping (failureBackoff : Duration)
  | checking (failureBackoff : Duration)
  | starting (failureBackoff : Duration)
  | attempting (failureBackoff : Duration)
  | attempted (result : AttemptResult) (failureBackoff : Duration)
  | dropping
  | released
  | finished
  deriving DecidableEq

/-- What the world gives a step of a call. -/
inductive Action where
  /-- the call is polled for the first time; may a stub run in this mode? -/
  | enter (stubAllowed : Bool)
  /-- the next statement that does not wait -/
  | advance
  /-- `sleep(delay)` is over -/
  | elapse
  /-- `*shutdown.borrow()` -/
  | borrow (shutdown : Bool)
  /-- the attempt is over -/
  | resolve (result : AttemptResult)
  /-- at an await: shutdown wins the selection, or the future is dropped -/
  | leave
  deriving DecidableEq

/-- The two shared variables. -/
structure Shared where
  running : Bool
  status : RuleCoordinatorStatus
  deriving DecidableEq

/-- The atomics and the locked updates, one call's next step. A step that the call cannot take
    where it is changes nothing. -/
def stepCall (config : RuleCoordinatorConfig) (action : Action) (point : RunPoint) (s : Shared) :
    RunPoint × Shared :=
  match point, action with
  | .created, .enter false => (.finished, s)
  | .created, .enter true =>
    -- `running.swap(true)`
    if s.running then (.finished, s)
    else (.loopTop 0 config.initialFailureBackoff, { s with running := true })
  | .loopTop delay backoff, .advance =>
    if delay ≠ 0 then
      (.sleeping backoff, { s with status := { s.status with phase := .sleeping } })
    else (.checking backoff, s)
  | .sleeping backoff, .elapse => (.checking backoff, s)
  | .sleeping _, .leave => (.dropping, s)
  | .checking backoff, .borrow shutdown =>
    (if shutdown then .dropping else .starting backoff, s)
  | .starting backoff, .advance =>
    (.attempting backoff, { s with status := { s.status with
      phase := .attempting
      attempts := saturatingSucc s.status.attempts } })
  | .attempting backoff, .resolve result => (.attempted result backoff, s)
  | .attempting _, .leave => (.dropping, s)
  | .attempted .succeeded _, .advance =>
    (.loopTop config.successInterval config.initialFailureBackoff, { s with status := { s.status with
      successes := saturatingSucc s.status.successes
      consecutiveFailures := 0
      lastOutcome := some .succeeded } })
  | .attempted .failed backoff, .advance =>
    (.loopTop backoff (doubledBackoff backoff config.maxFailureBackoff),
      { s with status := recordFailure .failed s.status })
  | .attempted .timedOut backoff, .advance =>
    (.loopTop backoff (doubledBackoff backoff config.maxFailureBackoff),
      { s with status := recordFailure .timedOut s.status })
  -- `RunGuard::drop`
  | .dropping, .advance => (.released, { s with running := false })
  | .released, .advance => (.finished, { s with status := rewriteStatus s.status })
  | point, _ => (point, s)
where
  recordFailure (outcome : RuleCoordinatorOutcome) (status : RuleCoordinatorStatus) :
      RuleCoordinatorStatus :=
    { status with
      failures := saturatingSucc status.failures
      consecutiveFailures := saturatingSucc status.consecutiveFailures
      lastOutcome := some outcome }
  rewriteStatus (status : RuleCoordinatorStatus) : RuleCoordinatorStatus :=
    { status with
      phase := .idle
      lastOutcome :=
        if status.phase = .attempting then some .cancelled else status.lastOutcome }

/-- All `run` calls on one coordinator, by number. -/
structure State where
  shared : Shared
  calls : Nat → RunPoint

/-- A call takes a step. -/
def step (config : RuleCoordinatorConfig) (i : Nat × Action) (s : State) : Unit × State :=
  let next := stepCall config i.2 (s.calls i.1) s.shared
  ((), ⟨next.2, Function.update s.calls i.1 next.1⟩)

/-- `RuleCoordinator::build`; no call has been polled. -/
def Built (s : State) : Prop := s = ⟨⟨false, default⟩, fun _ => .created⟩

abbrev History := List (Event State (Nat × Action) Unit)

/-! ## What the status is about -/

/-- The call holds the flag: from its swap until the guard stores `false`. -/
def RunPoint.Active : RunPoint → Prop
  | .created | .released | .finished => False
  | _ => True

instance (point : RunPoint) : Decidable point.Active := by
  cases point <;> unfold RunPoint.Active <;> infer_instance

/-- The event is a recorded start of an attempt by call `id`. -/
def StartsAttempt (id : Nat) (e : Event State (Nat × Action) Unit) : Prop :=
  e.input = (id, .advance) ∧ ∃ backoff, e.pre.calls id = .starting backoff

/-- After `h`, call `id` is a run from its first attempt on that has not ended. -/
def Underway (h : History) (s : State) (id : Nat) : Prop :=
  (∃ e ∈ h, StartsAttempt id e) ∧ (s.calls id).Active

/-- The event is a guard's update of the status, the last step of a run. -/
def RewritesStatus (e : Event State (Nat × Action) Unit) : Prop :=
  e.input.2 = .advance ∧ e.pre.calls e.input.1 = .released

/-- At every moment of `h` the phase tells of the run that is underway, and no other call's step
    changes the last outcome. -/
structure Truthful (config : RuleCoordinatorConfig) (h : History) : Prop where
  phase : ∀ h₁ h₂ s id, h = h₁ ++ h₂ → Run (step config) Built h₁ s → Underway h₁ s id →
    s.shared.status.phase = .attempting ∨ s.shared.status.phase = .sleeping
  lastOutcome : ∀ h₁ e h₂ id, h = h₁ ++ e :: h₂ → Underway h₁ e.pre id → e.input.1 ≠ id →
    e.post.shared.status.lastOutcome = e.pre.shared.status.lastOutcome

/-- No guard updates the status while another call's run is underway. -/
def UndisturbedBy (h : History) (e : Event State (Nat × Action) Unit) : Prop :=
  RewritesStatus e → ∀ id, ¬ Underway h e.pre id

def Undisturbed (h : History) : Prop :=
  ∀ h₁ e h₂, h = h₁ ++ e :: h₂ → UndisturbedBy h₁ e

/-! ## One step -/

section Step

variable (config : RuleCoordinatorConfig) (action : Action) {point : RunPoint} (s : Shared)

/-- A call that does not hold the flag takes it when it is free, or rewrites the status at the end
    of its guard, or touches nothing. -/
theorem stepCall_inactive (inactive : ¬ point.Active) :
    (¬ (stepCall config action point s).1.Active ∧ (stepCall config action point s).2 = s) ∨
      (point = .created ∧ s.running = false ∧
        (stepCall config action point s).2 = { s with running := true }) ∨
      (point = .released ∧ action = .advance ∧
        stepCall config action point s =
          (.finished, { s with status := stepCall.rewriteStatus s.status })) := by
  cases point with
  | created =>
    cases action with
    | enter allowed =>
      cases allowed with
      | false => exact Or.inl ⟨id, rfl⟩
      | true =>
        cases free : s.running with
        | true =>
          have refused : stepCall config (.enter true) .created s = (.finished, s) := if_pos free
          rw [refused]
          exact Or.inl ⟨id, rfl⟩
        | false =>
          have taken : stepCall config (.enter true) .created s =
              (.loopTop 0 config.initialFailureBackoff, { s with running := true }) :=
            if_neg (by simp [free])
          rw [taken]
          exact Or.inr (Or.inl ⟨rfl, rfl, rfl⟩)
    | advance => exact Or.inl ⟨id, rfl⟩
    | elapse => exact Or.inl ⟨id, rfl⟩
    | borrow shutdown => exact Or.inl ⟨id, rfl⟩
    | resolve result => exact Or.inl ⟨id, rfl⟩
    | leave => exact Or.inl ⟨id, rfl⟩
  | released =>
    by_cases advance : action = .advance
    · rw [advance]
      exact Or.inr (Or.inr ⟨rfl, rfl, rfl⟩)
    · cases action with
      | advance => exact absurd rfl advance
      | _ => exact Or.inl ⟨id, rfl⟩
  | finished => cases action <;> exact Or.inl ⟨id, rfl⟩
  | _ => exact absurd trivial inactive

/-- A call that holds the flag keeps it until its guard is dropped, and never sets the phase to
    `idle` before. -/
theorem stepCall_active (active : point.Active) :
    ((stepCall config action point s).1.Active ∧
        (stepCall config action point s).2.running = s.running ∧
        ((stepCall config action point s).2.status.phase = s.status.phase ∨
          (stepCall config action point s).2.status.phase = .attempting ∨
          (stepCall config action point s).2.status.phase = .sleeping)) ∨
      (point = .dropping ∧ stepCall config action point s = (.released, { s with running := false })) := by
  cases point with
  | created => exact active.elim
  | released => exact active.elim
  | finished => exact active.elim
  | loopTop delay backoff =>
    left
    cases action with
    | advance =>
      by_cases first : delay = 0
      · simp [stepCall, first, RunPoint.Active]
      · simp [stepCall, first, RunPoint.Active]
    | _ => exact ⟨trivial, rfl, Or.inl rfl⟩
  | dropping =>
    cases action with
    | advance => exact Or.inr ⟨rfl, rfl⟩
    | _ => exact Or.inl ⟨trivial, rfl, Or.inl rfl⟩
  | checking backoff =>
    left
    cases action with
    | borrow shutdown => cases shutdown <;> exact ⟨trivial, rfl, Or.inl rfl⟩
    | _ => exact ⟨trivial, rfl, Or.inl rfl⟩
  | starting backoff =>
    left
    cases action with
    | advance => exact ⟨trivial, rfl, Or.inr (Or.inl rfl)⟩
    | _ => exact ⟨trivial, rfl, Or.inl rfl⟩
  | attempted result backoff =>
    left
    cases action with
    | advance => cases result <;> exact ⟨trivial, rfl, Or.inl rfl⟩
    | _ => cases result <;> exact ⟨trivial, rfl, Or.inl rfl⟩
  | sleeping backoff =>
    left
    cases action <;> exact ⟨trivial, rfl, Or.inl rfl⟩
  | attempting backoff =>
    left
    cases action <;> exact ⟨trivial, rfl, Or.inl rfl⟩

end Step

variable {config : RuleCoordinatorConfig} {h : History} {s : State} {i : Nat × Action}

@[simp] theorem step_calls_self :
    (step config i s).2.calls i.1 = (stepCall config i.2 (s.calls i.1) s.shared).1 := by
  simp [step]

theorem step_calls_other {id : Nat} (other : id ≠ i.1) :
    (step config i s).2.calls id = s.calls id := by
  simp [step, other]

@[simp] theorem step_shared :
    (step config i s).2.shared = (stepCall config i.2 (s.calls i.1) s.shared).2 := rfl

/-! ## One run at a time -/

/-- The flag is set while a call holds it, and one call holds it. -/
structure Exclusive (s : State) : Prop where
  flag : ∀ id, (s.calls id).Active → s.shared.running = true
  one : ∀ id other, (s.calls id).Active → (s.calls other).Active → id = other

theorem Built.exclusive (built : Built s) : Exclusive s := by
  rw [built]
  exact ⟨fun _ active => active.elim, fun _ _ active => active.elim⟩

/-- Only one call can hold the flag, and then it is set. -/
theorem Exclusive.of_owner (owner : Nat) (only : ∀ id, (s.calls id).Active → id = owner)
    (flag : (s.calls owner).Active → s.shared.running = true) : Exclusive s := by
  constructor
  · intro id held
    rw [only id held] at held
    exact flag held
  · intro id other held held'
    rw [only id held, only other held']

/-- Nobody has taken the flag, and it is as it was. -/
theorem Exclusive.of_fewer {t : State} (exclusive : Exclusive s)
    (before : ∀ id, (t.calls id).Active → (s.calls id).Active)
    (running : t.shared.running = s.shared.running) : Exclusive t := by
  constructor
  · intro id held
    rw [running]
    exact exclusive.flag id (before id held)
  · intro id other held held'
    exact exclusive.one id other (before id held) (before other held')

/-- A step that leaves its call without the flag gives it to nobody else. -/
theorem active_before (inactive : ¬ (stepCall config i.2 (s.calls i.1) s.shared).1.Active) :
    ∀ id, ((step config i s).2.calls id).Active → (s.calls id).Active := by
  intro id held
  by_cases own : id = i.1
  · rw [own, step_calls_self] at held
    exact absurd held inactive
  · rwa [step_calls_other own] at held

theorem Exclusive.step (exclusive : Exclusive s) : Exclusive (step config i s).2 := by
  by_cases active : (s.calls i.1).Active
  · apply Exclusive.of_owner i.1
    · intro id held
      by_contra other
      rw [step_calls_other other] at held
      exact other (exclusive.one id i.1 held active)
    · intro held
      obtain ⟨-, running, -⟩ | ⟨-, dropped⟩ := stepCall_active config i.2
        s.shared active
      · rw [step_shared, running]
        exact exclusive.flag i.1 active
      · rw [step_calls_self, dropped] at held
        exact held.elim
  · obtain ⟨inactive, same⟩ | ⟨-, free, taken⟩ | ⟨-, -, rewritten⟩ :=
      stepCall_inactive config i.2 s.shared active
    · apply exclusive.of_fewer (active_before inactive)
      rw [step_shared, same]
    · -- the flag was free, so nobody held it
      apply Exclusive.of_owner i.1
      · intro id held
        by_contra other
        rw [step_calls_other other] at held
        rw [exclusive.flag id held] at free
        cases free
      · intro _
        rw [step_shared, taken]
    · apply exclusive.of_fewer
      · apply active_before
        rw [rewritten]
        exact id
      · rw [step_shared, rewritten]

theorem exclusive_run (r : Run (step config) Built h s) : Exclusive s :=
  r.invariant Exclusive (fun _ built => built.exclusive) (fun _ _ exclusive => exclusive.step)

/-! ## The status of the active run -/

theorem stepCall_created {action : Action} {point : RunPoint} {s : Shared}
    (created : (stepCall config action point s).1 = .created) : point = .created := by
  by_cases active : point.Active
  · obtain ⟨stays, -⟩ | ⟨-, dropped⟩ := stepCall_active config action s active
    · rw [created] at stays
      exact stays.elim
    · rw [dropped] at created
      cases created
  · cases point with
    | created => rfl
    | released => cases action <;> cases created
    | finished => cases action <;> cases created
    | _ => exact absurd trivial active

/-- A call that has started an attempt has entered. -/
theorem entered_of_startsAttempt (r : Run (step config) Built h s) {id : Nat} :
    ∀ e ∈ h, StartsAttempt id e → s.calls id ≠ .created := by
  refine @Run.mark _ _ _ _ _ _ _ r (fun _ => True) (fun _ _ => trivial) (fun _ _ _ => trivial)
    (fun e s => StartsAttempt id e → s.calls id ≠ .created) ?_ ?_
  · intro s i _ starts
    obtain ⟨isInput, backoff, isStarting⟩ := starts
    have input : i = (id, .advance) := isInput
    have pre : s.calls id = .starting backoff := isStarting
    rw [input]
    have after : (step config (id, .advance) s).2.calls id = .attempting backoff := by
      simp [step, pre, stepCall]
    rw [after]
    intro created
    cases created
  · intro e s i _ kept starts created
    by_cases own : id = i.1
    · rw [own, step_calls_self] at created
      apply kept starts
      rw [own]
      exact stepCall_created created
    · rw [step_calls_other own] at created
      exact kept starts created

/-- A call underway after a step was underway before it, or the step started its attempt. -/
theorem Underway.before (r : Run (step config) Built h s) {id : Nat}
    (underway : Underway (h ++ [callEvent (step config) s i]) (step config i s).2 id) :
    Underway h s id ∨ StartsAttempt id (callEvent (step config) s i) := by
  obtain ⟨⟨e, he, starts⟩, active⟩ := underway
  rcases List.mem_append.1 he with he | he
  · left
    refine ⟨⟨e, he, starts⟩, ?_⟩
    by_contra inactive
    by_cases own : id = i.1
    · have entered := entered_of_startsAttempt r e he starts
      rw [own] at inactive entered
      rw [own, step_calls_self] at active
      obtain ⟨stays, -⟩ | ⟨created, -⟩ | ⟨-, -, rewritten⟩ :=
        stepCall_inactive config i.2 s.shared inactive
      · exact stays active
      · exact entered created
      · rw [rewritten] at active
        exact active
    · rw [step_calls_other own] at active
      exact inactive active
  · rw [List.mem_singleton.1 he] at starts
    exact Or.inr starts

/-- The step of a call that does not hold the flag leaves the status alone, unless it is its
    guard's update. -/
theorem status_of_inactive (inactive : ¬ (s.calls i.1).Active)
    (quiet : ¬ RewritesStatus (callEvent (step config) s i)) :
    (step config i s).2.shared.status = s.shared.status := by
  rw [step_shared]
  obtain ⟨-, same⟩ | ⟨-, -, taken⟩ | ⟨released, advance, -⟩ :=
    stepCall_inactive config i.2 s.shared inactive
  · rw [same]
  · rw [taken]
  · exact absurd ⟨advance, released⟩ quiet

/-- While a run is underway the other calls do not hold the flag. -/
theorem Underway.others_inactive (r : Run (step config) Built h s) {id other : Nat}
    (underway : Underway h s id) (differ : other ≠ id) : ¬ (s.calls other).Active := by
  intro held
  exact differ ((exclusive_run r).one other id held underway.2)

theorem Undisturbed.prefix {h' : History} (undisturbed : Undisturbed (h ++ h')) :
    Undisturbed h := by
  intro h₁ e h₂ split
  apply undisturbed h₁ e (h₂ ++ h')
  rw [split, List.append_assoc, List.cons_append]

theorem phase_of_undisturbed (r : Run (step config) Built h s) (undisturbed : Undisturbed h)
    {id : Nat} (underway : Underway h s id) :
    s.shared.status.phase = .attempting ∨ s.shared.status.phase = .sleeping := by
  induction r with
  | start s _ =>
    obtain ⟨⟨_, he, _⟩, _⟩ := underway
    cases he
  | @call h s i r ih =>
    rcases underway.before r with before | ⟨isInput, backoff, isStarting⟩
    · have told := ih undisturbed.prefix before
      by_cases own : i.1 = id
      · rw [step_shared]
        have active := before.2
        rw [← own] at active
        obtain ⟨-, -, same | attempting | sleeping⟩ | ⟨-, dropped⟩ :=
          stepCall_active config i.2 s.shared active
        · rw [same]
          exact told
        · exact Or.inl attempting
        · exact Or.inr sleeping
        · rw [dropped]
          exact told
      · have quiet : ¬ RewritesStatus (callEvent (step config) s i) := fun rewrites =>
          undisturbed h _ [] rfl rewrites id before
        rw [status_of_inactive (before.others_inactive r own) quiet]
        exact told
    · have input : i = (id, .advance) := isInput
      have pre : s.calls id = .starting backoff := isStarting
      left
      rw [input, step_shared]
      simp [pre, stepCall]

/-- At most one call holds the flag, and the status is truthful in exactly the runs in which no
    guard rewrites it under another call's run. -/
theorem status_truthful (r : Run (step config) Built h s) :
    (∀ id other, (s.calls id).Active → (s.calls other).Active → id = other) ∧
      (Truthful config h ↔ Undisturbed h) := by
  refine ⟨(exclusive_run r).one, ?_, ?_⟩
  · intro truthful h₁ e h₂ split rewrites id underway
    rw [split] at r
    obtain ⟨before, isStep⟩ := r.before
    have after := before.call e.input
    rw [← isStep] at after
    -- the guard's call is not the one underway, and leaves the phase idle
    have differ : id ≠ e.input.1 := by
      intro own
      have active := underway.2
      rw [own, rewrites.2] at active
      exact active
    have still : Underway (h₁ ++ [e]) (step config e.input e.pre).2 id := by
      obtain ⟨⟨start, inHistory, starts⟩, active⟩ := underway
      refine ⟨⟨start, List.mem_append_left _ inHistory, starts⟩, ?_⟩
      rw [step_calls_other differ]
      exact active
    have idle : (step config e.input e.pre).2.shared.status.phase = .idle := by
      rw [step_shared, rewrites.1, rewrites.2]
      rfl
    have told := truthful.phase (h₁ ++ [e]) h₂ _ id (by simp [split]) after still
    rw [idle] at told
    rcases told with told | told <;> cases told
  · intro undisturbed
    constructor
    · intro h₁ h₂ t id split r' underway
      rw [split] at undisturbed
      exact phase_of_undisturbed r' undisturbed.prefix underway
    · intro h₁ e h₂ id split underway differ
      have quiet : ¬ RewritesStatus e := fun rewrites =>
        undisturbed h₁ e h₂ split rewrites id underway
      rw [split] at r
      obtain ⟨before, isStep⟩ := r.before
      have post : e.post = (step config e.input e.pre).2 := congrArg Event.post isStep
      rw [isStep] at quiet
      rw [post, status_of_inactive (underway.others_inactive before differ) quiet]

/-! ## Two runs in turn -/

def sampleConfig : RuleCoordinatorConfig := ⟨1000000000, 100000000, 100000000, 100000000⟩

/-- Call 0 is dropped in its first attempt; between the two steps of its guard call 1 begins a run
    and starts an attempt. -/
def overtakenGuard : List (Nat × Action) :=
  [(0, .enter true), (0, .advance), (0, .borrow false), (0, .advance), (0, .leave), (0, .advance),
    (1, .enter true), (1, .advance), (1, .borrow false), (1, .advance), (0, .advance)]

/-- After `overtakenGuard` the status says that the coordinator is idle and its last run cancelled,
    while call 1 is in its first attempt. -/
theorem status_overwritten :
    RuleCoordinatorConfig.new 1000000000 100000000 100000000 100000000 = some sampleConfig ∧
      ¬ ∀ h s, Run (step sampleConfig) Built h s → Truthful sampleConfig h := by
  refine ⟨rfl, ?_⟩
  intro claim
  have built : Built ⟨⟨false, default⟩, fun _ => .created⟩ := rfl
  have r : Run (step sampleConfig) Built _ _ := Run.of_execute built overtakenGuard
  have truthful := (claim _ _ r).phase _ [] _ 1 (List.append_nil _).symm r
  have underway : Underway (execute (step sampleConfig) overtakenGuard
      ⟨⟨false, default⟩, fun _ => .created⟩).1 (execute (step sampleConfig) overtakenGuard
      ⟨⟨false, default⟩, fun _ => .created⟩).2 1 := by
    refine ⟨⟨_, List.mem_of_getElem? (i := 9) rfl, rfl, 100000000, by decide⟩, by decide⟩
  rcases truthful underway with told | told
  · exact absurd told (by decide)
  · exact absurd told (by decide)

/-- A run of one call, in its first attempt. -/
theorem status_truthful_single :
    ∃ h s, Run (step sampleConfig) Built h s ∧ s.shared.status.phase = .attempting ∧
      (Truthful sampleConfig h ↔ Undisturbed h) := by
  have built : Built ⟨⟨false, default⟩, fun _ => .created⟩ := rfl
  have r : Run (step sampleConfig) Built _ _ := Run.of_execute built
    [(0, .enter true), (0, .advance), (0, .borrow false), (0, .advance)]
  exact ⟨_, _, r, by decide, (status_truthful r).2⟩

end Prometheus.Client.RuleCoordinator
