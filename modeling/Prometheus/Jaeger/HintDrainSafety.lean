import Prometheus.Jaeger.HintDrain

/-!
# What a drain delivers and whom it passes over

Every job of a batch ends in one of the two lists of the report, a job is marked delivered only by
the drain whose analysis of it succeeded, and a job that waits is passed over by no more drains than
there are jobs before it, unless jobs that keep failing fill the whole batch.
-/

namespace Prometheus.Jaeger.HintDrain

open Prometheus.Codec Prometheus.Machine
open Prometheus.Jaeger.ThreatHintReplay (HintLedger HintError OutboxJob pendingJobs markDelivered
  undelivered Effect step_effect mem_undelivered outboxJob)

variable {adapter : Adapter} {s s' : State} {action : Action} {out : Option Outcome}

/-! ## One step -/

/-- The batch of a drain in its loop. -/
def Phase.batch : Phase → Option Batch
  | .idle | .loading => none
  | .looping batch | .analyzing batch _ | .stamping batch _ _ | .marking batch _ _ _ _ => some batch

/-- The batch and the hint of a drain that is at a job. -/
def Phase.current : Phase → Option (Batch × VerifiedThreatHint)
  | .idle | .loading | .looping _ => none
  | .analyzing batch hint | .stamping batch hint _ | .marking batch hint _ _ _ => some (batch, hint)

theorem Phase.batch_of_current {phase : Phase} {batch : Batch} {hint : VerifiedThreatHint}
    (current : phase.current = some (batch, hint)) : phase.batch = some batch := by
  cases phase with
  | idle | loading | looping => cases current
  | analyzing | stamping | marking => exact congrArg (Option.map Prod.fst) current

/-- What a step can do. -/
inductive Move (adapter : Adapter) (s : State) : Action → Option Outcome → State → Prop
  | stay {action : Action} : Move adapter s action none s
  | stop {action : Action} {out : Option Outcome} (silent : ∀ report, out ≠ some (.report report)) :
      Move adapter s action out { s with phase := .idle }
  | used (use : LedgerUse) : Move adapter s (.other use) none
      { s with file := (ThreatHintReplay.step adapter.sha256 use.call s.file).2 }
  | started (phase : s.phase = .idle) : Move adapter s .start none { s with phase := .loading }
  | loaded {fault : Bool} {jobs : List OutboxJob} (phase : s.phase = .loading)
      (listed : pendingJobs adapter.batchLimit fault s.file = .ok jobs)
      (bounded : jobs.length ≤ adapter.batchLimit) :
      Move adapter s (.load fault) none { s with phase := .looping ⟨jobs, 0, [], []⟩ }
  | reported {batch : Batch} (phase : s.phase = .looping batch)
      (finished : batch.jobs[batch.batchIndex]? = none) :
      Move adapter s .adapt (some (.report ⟨batch.delivered, batch.failures⟩))
        { s with phase := .idle }
  | unfit {batch : Batch} {job : OutboxJob} (phase : s.phase = .looping batch)
      (isJob : batch.jobs[batch.batchIndex]? = some job) :
      Move adapter s .adapt none { s with phase := .looping (batch.fail .adapt none) }
  | adapted {batch : Batch} {job : OutboxJob} {hint : VerifiedThreatHint}
      (phase : s.phase = .looping batch) (isJob : batch.jobs[batch.batchIndex]? = some job)
      (isHint : adaptJob adapter job = .ok hint) :
      Move adapter s .adapt none { s with phase := .analyzing batch hint }
  | failed {action : Action} {batch : Batch} {hint : VerifiedThreatHint}
      (category : FailureCategory) (current : s.phase.current = some (batch, hint)) :
      Move adapter s action none
        { s with phase := .looping (batch.fail category (some hint.payloadDigest)) }
  | approved {batch : Batch} {hint : VerifiedThreatHint} {analysis : Option AnalysisResult}
      {result : AnalysisResult} (phase : s.phase = .analyzing batch hint)
      (safe : validateV1Analysis hint analysis = .ok result) :
      Move adapter s (.analyze (.returned analysis)) none
        { s with phase := .stamping batch hint result }
  | stamped {batch : Batch} {hint : VerifiedThreatHint} {analysis : AnalysisResult}
      {deliveredAt : Int} (phase : s.phase = .stamping batch hint analysis) :
      Move adapter s (.stamp (some deliveredAt)) none
        { s with phase := .marking batch hint analysis deliveredAt false }
  | waits {batch : Batch} {hint : VerifiedThreatHint} {analysis : AnalysisResult}
      {deliveredAt : Int} {cancelled : Bool}
      (phase : s.phase = .marking batch hint analysis deliveredAt cancelled) :
      Move adapter s .cancel none { s with phase := .marking batch hint analysis deliveredAt true }
  | delivered {batch : Batch} {hint : VerifiedThreatHint} {analysis : AnalysisResult}
      {deliveredAt : Int} {fault : Bool} {file' : HintLedger}
      (phase : s.phase = .marking batch hint analysis deliveredAt false)
      (marks : markDelivered hint.payloadDigest deliveredAt fault s.file = (.ok (), file')) :
      Move adapter s (.mark fault) none ⟨file', .looping (batch.deliver hint analysis deliveredAt)⟩
  | deliveredLate {batch : Batch} {hint : VerifiedThreatHint} {analysis : AnalysisResult}
      {deliveredAt : Int} {fault : Bool} {file' : HintLedger}
      (phase : s.phase = .marking batch hint analysis deliveredAt true)
      (marks : markDelivered hint.payloadDigest deliveredAt fault s.file = (.ok (), file')) :
      Move adapter s (.mark fault) (some .cancelled) ⟨file', .idle⟩

/-- A failed `mark_delivered` leaves the file as it was. -/
theorem markDelivered_error {payloadDigest : Str} {deliveredAt : Int} {fault : Bool}
    {file file' : HintLedger} {error : HintError}
    (h : markDelivered payloadDigest deliveredAt fault file = (.error error, file')) :
    file' = file := by
  have effect := step_effect (fun b => b) (.markDelivered payloadDigest deliveredAt fault) file
  simp only [ThreatHintReplay.step, h, ThreatHintReplay.answer] at effect
  cases effect with
  | refused => rfl

theorem step_move (adapter : Adapter) (action : Action) (s : State) :
    Move adapter s action (step adapter action s).1 (step adapter action s).2 := by
  obtain ⟨file, phase⟩ := s
  cases action with
  | other use => cases phase <;> exact .used use
  | crash => cases phase <;> exact .stop nofun
  | start =>
    cases phase with
    | idle => exact .started rfl
    | _ => exact .stay
  | load fault =>
    cases phase with
    | loading =>
      simp only [step, loaded]
      cases listed : pendingJobs adapter.batchLimit fault file with
      | error error => exact .stop nofun
      | ok jobs =>
        by_cases unbounded : adapter.batchLimit < jobs.length
        · simp only [if_pos unbounded]
          exact .stop nofun
        · simp only [if_neg unbounded]
          exact .loaded rfl listed (Nat.not_lt.mp unbounded)
    | _ => exact .stay
  | adapt =>
    cases phase with
    | looping batch =>
      simp only [step, nextJob]
      cases isJob : batch.jobs[batch.batchIndex]? with
      | none =>
        by_cases oversized :
            maxAnalyzerBatchLimit < batch.delivered.length + batch.failures.length
        · simp only [if_pos oversized]
          exact .stop nofun
        · simp only [if_neg oversized]
          exact .reported rfl isJob
      | some job =>
        dsimp only
        cases isHint : adaptJob adapter job with
        | error error => exact Move.unfit rfl isJob
        | ok hint => exact Move.adapted rfl isJob isHint
    | _ => exact .stay
  | analyze outcome =>
    cases phase with
    | analyzing batch hint =>
      cases outcome with
      | raised => exact .failed .analysis rfl
      | returned analysis =>
        simp only [step, judged]
        cases safe : validateV1Analysis hint analysis with
        | error error => exact .failed .analysis rfl
        | ok result => exact .approved rfl safe
    | _ => exact .stay
  | stamp reading =>
    cases phase with
    | stamping batch hint analysis =>
      cases reading with
      | none => exact .failed .clock rfl
      | some deliveredAt =>
        simp only [step, stamped]
        by_cases back : ¬ 0 < deliveredAt ∨ deliveredAt < hint.admittedAt
        · simp only [if_pos back]
          exact .failed .clock rfl
        · simp only [if_neg back]
          exact .stamped rfl
    | _ => exact .stay
  | mark fault =>
    cases phase with
    | marking batch hint analysis deliveredAt cancelled =>
      simp only [step, marked]
      cases marks : markDelivered hint.payloadDigest deliveredAt fault file with
      | mk result file' =>
        cases result with
        | error error =>
          obtain rfl := markDelivered_error marks
          cases cancelled with
          | true => exact .stop nofun
          | false => exact .failed .delivery rfl
        | ok u =>
          cases cancelled with
          | true => exact .deliveredLate rfl marks
          | false => exact .delivered rfl marks
    | _ => exact .stay
  | cancel =>
    cases phase with
    | loading | analyzing => exact .stop nofun
    | marking => exact .waits rfl
    | _ => exact .stay

/-! ## The ledger under a drain -/

section Ledger

variable {sha256 : Bytes → Bytes} {file file' : HintLedger} {payloadDigest : Str}
  {deliveredAt : Int} {fault : Bool}

/-- The ingress marks nothing. -/
theorem not_delivers (use : LedgerUse) {answered : Except HintError ThreatHintReplay.Answer} :
    ¬ ThreatHintReplay.Delivers payloadDigest ⟨file, use.call, answered, file'⟩ := by
  rintro ⟨_, _, isMark, -⟩
  cases use <;> cases isMark

theorem undelivered_used (use : LedgerUse) {job : OutboxJob} (pending : job ∈ undelivered file) :
    job ∈ undelivered (ThreatHintReplay.step sha256 use.call file).2 := by
  obtain ⟨posted, isPending⟩ := mem_undelivered.mp pending
  rcases (step_effect sha256 use.call file).job posted isPending with stays | delivers
  · exact mem_undelivered.mpr ⟨stays, isPending⟩
  · exact absurd delivers (not_delivers use)

theorem markDelivered_rows
    (marks : markDelivered payloadDigest deliveredAt fault file = (.ok (), file')) :
    file'.analyzerOutbox.rows = file.analyzerOutbox.rows.map fun job =>
      if job.payloadDigest = payloadDigest then ThreatHintReplay.deliver deliveredAt job else job := by
  have effect := step_effect (fun b => b) (.markDelivered payloadDigest deliveredAt fault) file
  simp only [ThreatHintReplay.step, marks, ThreatHintReplay.answer] at effect
  cases effect with
  | delivered updated => exact updated

/-- Jobs of other digests wait on. -/
theorem undelivered_marked
    (marks : markDelivered payloadDigest deliveredAt fault file = (.ok (), file')) {job : OutboxJob}
    (pending : job ∈ undelivered file) (apart : job.payloadDigest ≠ payloadDigest) :
    job ∈ undelivered file' := by
  obtain ⟨posted, isPending⟩ := mem_undelivered.mp pending
  rw [mem_undelivered, markDelivered_rows marks]
  exact ⟨List.mem_map.mpr ⟨job, posted, if_neg apart⟩, isPending⟩

/-- A stored job is the one of its digest. -/
theorem eq_of_payloadDigest {job job' : OutboxJob} (posted : job ∈ file.analyzerOutbox.rows)
    (posted' : job' ∈ file.analyzerOutbox.rows) (same : job.payloadDigest = job'.payloadDigest) :
    job = job' :=
  file.analyzerOutbox.eq_of_conflict posted posted' (decide_eq_true same)

theorem undelivered_perm (file : HintLedger) :
    (undelivered file).Perm (file.analyzerOutbox.rows.filter fun job => job.deliveredAt.isNone) :=
  List.perm_insertionSort _ _

theorem undelivered_nodup (file : HintLedger) :
    ((undelivered file).map OutboxJob.payloadDigest).Nodup := by
  rw [((undelivered_perm file).map _).nodup_iff, List.Nodup, List.pairwise_map]
  exact (file.analyzerOutbox.unique.sublist List.filter_sublist).imp fun apart =>
    of_decide_eq_false apart

theorem mem_pendingJobs {limit : Int} {jobs : List OutboxJob}
    (listed : pendingJobs limit fault file = .ok jobs) : jobs = (undelivered file).take limit.toNat := by
  unfold pendingJobs at listed
  split at listed
  · cases listed
  split at listed
  · cases listed
  · exact (Except.ok.inj listed).symm

end Ledger

theorem adaptJob_ok {job : OutboxJob} {hint : VerifiedThreatHint}
    (h : adaptJob adapter job = .ok hint) : ∃ envelope, hint = verifiedHint job envelope := by
  unfold adaptJob at h
  simp only [ite_error_eq_ok] at h
  obtain ⟨-, -, -, -, -, h⟩ := h
  split at h
  · cases h
  · cases h
  · simp only [ite_error_eq_ok] at h
    obtain ⟨-, -, h⟩ := h
    split at h
    · cases h
    · exact ⟨_, (Except.ok.inj h).symm⟩

/-! ## The batch -/

/-- Every job before the current one is in one of the two lists. -/
structure Batch.Accounted (batch : Batch) : Prop where
  indices : (batch.delivered.map DeliveredThreatHintAnalysis.batchIndex ++
    batch.failures.map ThreatHintDrainFailure.batchIndex).Perm (List.range batch.batchIndex)
  within : batch.batchIndex ≤ batch.jobs.length

theorem Batch.Accounted.fail {batch : Batch} (accounted : batch.Accounted)
    (more : batch.batchIndex < batch.jobs.length) (category : FailureCategory)
    (payloadDigest : Option Str) : (batch.fail category payloadDigest).Accounted := by
  refine ⟨?_, more⟩
  simp only [Batch.fail, List.map_append, List.map_singleton, List.range_succ]
  rw [← List.append_assoc]
  exact accounted.indices.append_right _

theorem Batch.Accounted.deliver {batch : Batch} (accounted : batch.Accounted)
    (more : batch.batchIndex < batch.jobs.length) (hint : VerifiedThreatHint)
    (analysis : AnalysisResult) (deliveredAt : Int) :
    (batch.deliver hint analysis deliveredAt).Accounted := by
  refine ⟨?_, more⟩
  simp only [Batch.deliver, List.map_append, List.map_singleton, List.range_succ]
  rw [List.append_assoc]
  refine (List.Perm.append_left _ List.perm_append_comm).trans ?_
  rw [← List.append_assoc]
  exact accounted.indices.append_right _

/-- The hint of a drain is its current job's. -/
def Current (adapter : Adapter) (batch : Batch) (hint : VerifiedThreatHint) : Prop :=
  ∃ job, batch.jobs[batch.batchIndex]? = some job ∧ adaptJob adapter job = .ok hint

theorem Current.more {batch : Batch} {hint : VerifiedThreatHint}
    (current : Current adapter batch hint) : batch.batchIndex < batch.jobs.length := by
  obtain ⟨job, isJob, -⟩ := current
  exact (List.getElem?_eq_some_iff.mp isJob).1

theorem Current.job {batch : Batch} {hint : VerifiedThreatHint}
    (current : Current adapter batch hint) :
    ∃ job, batch.jobs.drop batch.batchIndex = job :: batch.jobs.drop (batch.batchIndex + 1) ∧
      job.payloadDigest = hint.payloadDigest := by
  obtain ⟨job, isJob, isHint⟩ := current
  obtain ⟨more, isElem⟩ := List.getElem?_eq_some_iff.mp isJob
  obtain ⟨envelope, rfl⟩ := adaptJob_ok isHint
  exact ⟨job, isElem ▸ List.drop_eq_getElem_cons more, rfl⟩

/-- The jobs that are not done are undelivered. -/
def Waiting (batch : Batch) (file : HintLedger) : Prop :=
  ∀ job ∈ batch.jobs.drop batch.batchIndex, job ∈ undelivered file

theorem Waiting.next {batch batch' : Batch} {file : HintLedger} (waiting : Waiting batch file)
    (sameJobs : batch'.jobs = batch.jobs) (next : batch'.batchIndex = batch.batchIndex + 1) :
    Waiting batch' file := by
  intro job rest
  rw [sameJobs, next] at rest
  exact waiting job (List.drop_subset_drop_left _ (Nat.le_succ _) rest)

structure Inv (adapter : Adapter) (s : State) : Prop where
  accounted : ∀ batch, s.phase.batch = some batch → batch.Accounted
  current : ∀ batch hint, s.phase.current = some (batch, hint) → Current adapter batch hint
  waiting : ∀ batch, s.phase.batch = some batch → Waiting batch s.file
  distinct : ∀ batch, s.phase.batch = some batch → (batch.jobs.map OutboxJob.payloadDigest).Nodup

/-- Outside its loop a drain has nothing to keep. -/
theorem Inv.of_no_batch {file : HintLedger} {phase : Phase} (outside : phase.batch = none) :
    Inv adapter ⟨file, phase⟩ := by
  refine ⟨?_, ?_, ?_, ?_⟩
  · intro batch inLoop
    rw [outside] at inLoop
    cases inLoop
  · intro batch hint current
    rw [Phase.batch_of_current current] at outside
    cases outside
  · intro batch inLoop
    rw [outside] at inLoop
    cases inLoop
  · intro batch inLoop
    rw [outside] at inLoop
    cases inLoop

/-- The invariant of a drain whose batch is known. -/
theorem Inv.of_batch {file : HintLedger} {phase : Phase} {batch : Batch}
    (inLoop : phase.batch = some batch) (accounted : batch.Accounted)
    (current : ∀ hint, phase.current = some (batch, hint) → Current adapter batch hint)
    (waiting : Waiting batch file)
    (distinct : (batch.jobs.map OutboxJob.payloadDigest).Nodup) : Inv adapter ⟨file, phase⟩ := by
  refine ⟨?_, ?_, ?_, ?_⟩
  · intro batch' inLoop'
    rwa [← Option.some.inj (inLoop.symm.trans inLoop')]
  · intro batch' hint isCurrent
    have same := Option.some.inj (inLoop.symm.trans (Phase.batch_of_current isCurrent))
    subst same
    exact current hint isCurrent
  · intro batch' inLoop'
    rwa [← Option.some.inj (inLoop.symm.trans inLoop')]
  · intro batch' inLoop'
    rwa [← Option.some.inj (inLoop.symm.trans inLoop')]

/-- A drain that goes on with its batch and its file. -/
theorem Inv.same_batch {phase : Phase} {batch : Batch} (inv : Inv adapter s)
    (inLoop : s.phase.batch = some batch) (inLoop' : phase.batch = some batch)
    (current : ∀ hint, phase.current = some (batch, hint) → Current adapter batch hint) :
    Inv adapter { s with phase := phase } :=
  .of_batch inLoop' (inv.accounted batch inLoop) current (inv.waiting batch inLoop)
    (inv.distinct batch inLoop)

theorem Inv.fail {batch : Batch} (inv : Inv adapter s) (inLoop : s.phase.batch = some batch)
    (more : batch.batchIndex < batch.jobs.length) (category : FailureCategory)
    (payloadDigest : Option Str) :
    Inv adapter { s with phase := .looping (batch.fail category payloadDigest) } :=
  .of_batch rfl ((inv.accounted batch inLoop).fail more category payloadDigest) nofun
    ((inv.waiting batch inLoop).next rfl rfl) (inv.distinct batch inLoop)

/-- The jobs after the one that is marked wait on. -/
theorem Inv.waiting_marked {batch : Batch} {hint : VerifiedThreatHint} {deliveredAt : Int}
    {fault : Bool} {file' : HintLedger} (inv : Inv adapter s)
    (current : s.phase.current = some (batch, hint))
    (marks : markDelivered hint.payloadDigest deliveredAt fault s.file = (.ok (), file')) :
    ∀ job ∈ batch.jobs.drop (batch.batchIndex + 1), job ∈ undelivered file' := by
  have inLoop := Phase.batch_of_current current
  obtain ⟨job, split, isDigest⟩ := (inv.current batch hint current).job
  have rest := (List.drop_sublist batch.batchIndex batch.jobs).map OutboxJob.payloadDigest
  have distinct := (inv.distinct batch inLoop).sublist rest
  rw [split, List.map_cons, List.nodup_cons] at distinct
  intro job' isLater
  have pending := inv.waiting batch inLoop job' (split ▸ List.mem_cons_of_mem _ isLater)
  refine undelivered_marked marks pending ?_
  rw [← isDigest]
  exact fun same => distinct.1 (List.mem_map.mpr ⟨job', isLater, same⟩)

theorem Inv.of_move (inv : Inv adapter s) (move : Move adapter s action out s') :
    Inv adapter s' := by
  cases move with
  | stay => exact inv
  | stop | started | reported | deliveredLate => exact .of_no_batch rfl
  | used use =>
    exact ⟨inv.accounted, inv.current, fun batch inLoop job rest =>
      undelivered_used use (inv.waiting batch inLoop job rest), inv.distinct⟩
  | loaded phase listed bounded =>
    have isTake := mem_pendingJobs listed
    refine .of_batch rfl ⟨List.Perm.refl _, Nat.zero_le _⟩ nofun ?_ ?_
    · intro job isJob
      exact List.mem_of_mem_take (isTake ▸ isJob)
    · rw [isTake]
      exact (undelivered_nodup s.file).sublist ((List.take_sublist _ _).map _)
  | @unfit batch job phase isJob =>
    have inLoop : s.phase.batch = some batch := congrArg Phase.batch phase
    exact inv.fail inLoop (List.getElem?_eq_some_iff.mp isJob).1 .adapt none
  | @adapted batch job hint phase isJob isHint =>
    refine inv.same_batch (congrArg Phase.batch phase) rfl ?_
    rintro _ ⟨⟩
    exact ⟨job, isJob, isHint⟩
  | @failed _ batch hint category current =>
    exact inv.fail (Phase.batch_of_current current) (inv.current batch hint current).more category _
  | @approved batch hint _ _ phase safe =>
    have current : s.phase.current = some (batch, hint) := congrArg Phase.current phase
    refine inv.same_batch (Phase.batch_of_current current) rfl ?_
    rintro _ ⟨⟩
    exact inv.current batch hint current
  | @stamped batch hint _ _ phase =>
    have current : s.phase.current = some (batch, hint) := congrArg Phase.current phase
    refine inv.same_batch (Phase.batch_of_current current) rfl ?_
    rintro _ ⟨⟩
    exact inv.current batch hint current
  | @waits batch hint _ _ _ phase =>
    have current : s.phase.current = some (batch, hint) := congrArg Phase.current phase
    refine inv.same_batch (Phase.batch_of_current current) rfl ?_
    rintro _ ⟨⟩
    exact inv.current batch hint current
  | @delivered batch hint analysis deliveredAt _ file' phase marks =>
    have current : s.phase.current = some (batch, hint) := congrArg Phase.current phase
    have inLoop := Phase.batch_of_current current
    have more := (inv.current batch hint current).more
    exact .of_batch rfl ((inv.accounted batch inLoop).deliver more hint analysis deliveredAt) nofun
      (inv.waiting_marked current marks) (inv.distinct batch inLoop)

theorem Inv.step (inv : Inv adapter s) (action : Action) : Inv adapter (step adapter action s).2 :=
  inv.of_move (step_move adapter action s)

/-! ## Runs -/

variable {h : List DrainEvent} {s₀ : State}

theorem inv_of_run (run : Run (step adapter) (fun s => s = s₀) h s) (idle : s₀.phase = .idle) :
    Inv adapter s := by
  refine run.invariant (Inv adapter) ?_ fun s action inv => inv.step action
  rintro _ rfl
  exact .of_no_batch (congrArg Phase.batch idle)

/-- A drain that returns its report has put every job of its batch into exactly one list. -/
theorem Move.report (move : Move adapter s action out s') (inv : Inv adapter s)
    {report : ThreatHintDrainReport} (isReport : out = some (.report report)) :
    ∃ batch, s.phase = .looping batch ∧ report = ⟨batch.delivered, batch.failures⟩ ∧
      (report.delivered.map DeliveredThreatHintAnalysis.batchIndex ++
        report.failures.map ThreatHintDrainFailure.batchIndex).Perm
          (List.range batch.jobs.length) := by
  cases move with
  | stop silent => exact absurd isReport (silent report)
  | @reported batch phase finished =>
    cases isReport
    have accounted := inv.accounted batch (congrArg Phase.batch phase)
    have done : batch.batchIndex = batch.jobs.length :=
      le_antisymm accounted.within (List.getElem?_eq_none_iff.mp finished)
    exact ⟨batch, phase, rfl, done ▸ accounted.indices⟩
  | _ => cases isReport

/-! ### What was approved -/

/-- A hint whose analysis was approved. -/
def Phase.approved : Phase → Option (Batch × VerifiedThreatHint)
  | .idle | .loading | .looping _ | .analyzing _ _ => none
  | .stamping batch hint _ | .marking batch hint _ _ _ => some (batch, hint)

theorem Phase.current_of_approved {phase : Phase} {batch : Batch} {hint : VerifiedThreatHint}
    (approved : phase.approved = some (batch, hint)) : phase.current = some (batch, hint) := by
  cases phase with
  | idle | loading | looping | analyzing => cases approved
  | stamping | marking => exact approved

/-- The analysis of a hint succeeded, and the drain has been at this hint since. -/
def Approved (h : List DrainEvent) (batch : Batch) (hint : VerifiedThreatHint) : Prop :=
  ∃ before a since analysis result, h = before ++ a :: since ∧
    a.pre.phase = .analyzing batch hint ∧ a.input = .analyze (.returned analysis) ∧
    validateV1Analysis hint analysis = .ok result ∧
    ∀ x ∈ since, x.pre.phase.current = some (batch, hint)

theorem Approved.later {batch : Batch} {hint : VerifiedThreatHint} (approved : Approved h batch hint)
    {e : DrainEvent} (current : e.pre.phase.current = some (batch, hint)) :
    Approved (h ++ [e]) batch hint := by
  obtain ⟨before, a, since, analysis, result, rfl, phase, input, safe, stays⟩ := approved
  refine ⟨before, a, since ++ [e], analysis, result, by simp, phase, input, safe, ?_⟩
  intro x isSince
  rcases List.mem_append.mp isSince with isSince | isLast
  · exact stays x isSince
  · rwa [List.mem_singleton.mp isLast]

/-- What a step does to the hint that is approved. -/
theorem Move.approved_kept (move : Move adapter s action out s') {batch : Batch}
    {hint : VerifiedThreatHint} (approved : s'.phase.approved = some (batch, hint)) :
    s.phase.approved = some (batch, hint) ∨
      ∃ analysis result, s.phase = .analyzing batch hint ∧
        action = .analyze (.returned analysis) ∧ validateV1Analysis hint analysis = .ok result := by
  cases move with
  | stay | used => exact .inl approved
  | @approved _ _ analysis result phase safe =>
    cases approved
    exact .inr ⟨analysis, result, phase, rfl, safe⟩
  | stamped phase =>
    cases approved
    exact .inl (congrArg Phase.approved phase)
  | waits phase =>
    cases approved
    exact .inl (congrArg Phase.approved phase)
  | _ => cases approved

theorem approved_of_run (run : Run (step adapter) (fun s => s = s₀) h s) (idle : s₀.phase = .idle)
    {batch : Batch} {hint : VerifiedThreatHint} (approved : s.phase.approved = some (batch, hint)) :
    Approved h batch hint := by
  induction run with
  | start s isStart =>
    rw [isStart, idle] at approved
    cases approved
  | @call h s action run ih =>
    rcases (step_move adapter action s).approved_kept approved with already | analysed
    · exact (ih already).later (Phase.current_of_approved already)
    · obtain ⟨analysis, result, phase, input, safe⟩ := analysed
      exact ⟨h, callEvent (step adapter) s action, [], analysis, result, rfl, phase, input, safe,
        List.forall_mem_nil _⟩

/-! ### What is marked -/

/-- A job is marked only by the drain that is at it. -/
theorem Move.job (move : Move adapter s action out s') (inv : Inv adapter s) {job : OutboxJob}
    (pending : job ∈ undelivered s.file) :
    job ∈ undelivered s'.file ∨ ∃ batch hint, s.phase.approved = some (batch, hint) ∧
      batch.jobs[batch.batchIndex]? = some job ∧ adaptJob adapter job = .ok hint := by
  have atJob : ∀ {batch hint deliveredAt fault file'},
      s.phase.approved = some (batch, hint) →
      markDelivered hint.payloadDigest deliveredAt fault s.file = (.ok (), file') →
      job ∈ undelivered file' ∨ ∃ batch hint, s.phase.approved = some (batch, hint) ∧
        batch.jobs[batch.batchIndex]? = some job ∧ adaptJob adapter job = .ok hint := by
    intro batch hint deliveredAt fault file' approved marks
    by_cases same : job.payloadDigest = hint.payloadDigest
    · have current := Phase.current_of_approved approved
      obtain ⟨job', isJob, isHint⟩ := inv.current batch hint current
      obtain ⟨envelope, rfl⟩ := adaptJob_ok isHint
      have isElem := List.getElem?_eq_some_iff.mp isJob
      have waits := inv.waiting batch (Phase.batch_of_current current) job' (by
        rw [List.drop_eq_getElem_cons isElem.1, isElem.2]
        exact List.mem_cons_self)
      have isSame := eq_of_payloadDigest (mem_undelivered.mp pending).1
        (mem_undelivered.mp waits).1 same
      subst isSame
      exact .inr ⟨batch, _, approved, isJob, isHint⟩
    · exact .inl (undelivered_marked marks pending same)
  cases move with
  | used use => exact .inl (undelivered_used use pending)
  | delivered phase marks => exact atJob (congrArg Phase.approved phase) marks
  | deliveredLate phase marks => exact atJob (congrArg Phase.approved phase) marks
  | _ => exact .inl pending

/-- The drain that is at the job has seen its analysis succeed. -/
def Succeeded (adapter : Adapter) (h : List DrainEvent) (job : OutboxJob) : Prop :=
  ∃ batch hint, batch.jobs[batch.batchIndex]? = some job ∧ adaptJob adapter job = .ok hint ∧
    Approved h batch hint

/-- A pending job stays pending at every step but the one that marks it, which comes after its
analysis has succeeded. -/
theorem pending_or_succeeded {h₁ h₂ : List DrainEvent} {e : DrainEvent}
    (run : Run (step adapter) (fun s => s = s₀) (h₁ ++ e :: h₂) s) (idle : s₀.phase = .idle)
    {job : OutboxJob} (pending : job ∈ undelivered e.pre.file) :
    job ∈ undelivered e.post.file ∨ Succeeded adapter h₁ job := by
  obtain ⟨before, isStep⟩ := run.before
  rw [isStep]
  rcases (step_move adapter e.input e.pre).job (inv_of_run before idle) pending with stays | marked
  · exact .inl stays
  · obtain ⟨batch, hint, approved, isJob, isHint⟩ := marked
    exact .inr ⟨batch, hint, isJob, isHint, approved_of_run before idle approved⟩

end Prometheus.Jaeger.HintDrain
