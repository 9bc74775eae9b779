import Prometheus.Jaeger.HintDrainSafety
import Prometheus.Machine.Queue

/-!
# Whom a drain selects

A batch is the front of the queue of undelivered jobs. A job is passed over by no more drains than
there are jobs ahead of it, unless jobs that keep failing fill the whole batch.
-/

namespace Prometheus.Jaeger.HintDrain

open Prometheus.Codec Prometheus.Machine
open Prometheus.Jaeger.ThreatHintReplay (HintLedger HintError OutboxJob pendingJobs markDelivered
  undelivered Effect step_effect mem_undelivered outboxJob Admitted prune recordedHint)

variable {adapter : Adapter} {s s' : State} {action : Action} {out : Option Outcome}
  {file file' : HintLedger} {job : OutboxJob}

/-! ## The queue -/

/-- `ORDER BY admitted_at, payload_digest`. -/
def place (job : OutboxJob) : Int ×ₗ Str := toLex (job.admittedAt, job.payloadDigest)

/-- How many undelivered jobs come before a job. -/
def jobsAhead (file : HintLedger) (job : OutboxJob) : Nat := ahead place (undelivered file) job

theorem undelivered_sorted (file : HintLedger) :
    (undelivered file).Pairwise fun a b => place a ≤ place b := by
  have total : Std.Total fun a b : OutboxJob => place a ≤ place b := ⟨fun a b => le_total _ _⟩
  have trans : IsTrans OutboxJob fun a b => place a ≤ place b := ⟨fun _ _ _ => le_trans⟩
  exact List.pairwise_insertionSort (fun a b : OutboxJob => place a ≤ place b) _

/-- Two undelivered jobs never have one place. -/
theorem eq_of_place (pending : job ∈ undelivered file) {other : OutboxJob}
    (isOther : other ∈ undelivered file) (same : place other = place job) : other = job :=
  eq_of_payloadDigest (mem_undelivered.mp isOther).1 (mem_undelivered.mp pending).1
    (congrArg Prod.snd (toLex.injective same))

theorem undelivered_admitted {sha256 : Bytes → Bytes} {envelope : ThreatHintReplay.CanonicalThreatHint}
    {wire : Bytes} {networkId : Str} {nowSeconds : Int}
    (committed : Admitted sha256 envelope wire networkId nowSeconds file file') :
    (undelivered file').Perm (undelivered file ++ [outboxJob sha256 wire networkId nowSeconds]) := by
  have rows := (Table.insert_eq_some.mp committed.job).2.2
  refine (undelivered_perm file').trans (.trans ?_ ((undelivered_perm file).symm.append_right _))
  rw [rows, List.filter_append, prune, ThreatHintReplay.deleteExpired,
    ThreatHintReplay.deleteDelivered, Table.rows_delete, List.filter_filter]
  refine List.Perm.append (List.Perm.of_eq (List.filter_congr fun row _ => ?_)) (List.Perm.refl _)
  cases row.deliveredAt <;> rfl

theorem fresh_of_admitted {sha256 : Bytes → Bytes} {envelope : ThreatHintReplay.CanonicalThreatHint}
    {wire : Bytes} {networkId : Str} {nowSeconds : Int}
    (committed : Admitted sha256 envelope wire networkId nowSeconds file file') :
    outboxJob sha256 wire networkId nowSeconds ∉ undelivered file := by
  intro pending
  have nodup := (undelivered_nodup file').of_map
  rw [(undelivered_admitted committed).nodup_iff, List.nodup_append] at nodup
  exact nodup.2.2 _ pending _ List.mem_cons_self rfl

theorem jobsAhead_marked {payloadDigest : Str} {deliveredAt : Int} {fault : Bool}
    (marks : markDelivered payloadDigest deliveredAt fault file = (.ok (), file'))
    {marked : OutboxJob} (pending : marked ∈ undelivered file)
    (isMarked : marked.payloadDigest = payloadDigest) (before : place marked < place job) :
    jobsAhead file' job < jobsAhead file job := by
  rw [jobsAhead, jobsAhead, ahead_perm (undelivered_perm file'), ahead_perm (undelivered_perm file),
    markDelivered_rows marks, ahead, ahead, List.countP_filter, List.countP_filter, List.countP_map]
  refine countP_lt_countP ?_ (mem_undelivered.mp pending).1 ?_ ?_
  · intro row posted counts
    dsimp only [Function.comp_apply] at counts
    by_cases same : row.payloadDigest = payloadDigest
    · rw [if_pos same] at counts
      simp [ThreatHintReplay.deliver] at counts
    · rwa [if_neg same] at counts
  · simp [isMarked, ThreatHintReplay.deliver]
  · simp [before, (mem_undelivered.mp pending).2]

/-- A new job came in ahead of a job. -/
def overtakes (job : OutboxJob) (e : DrainEvent) : Bool :=
  (undelivered e.post.file).any fun other =>
    decide (other ∉ undelivered e.pre.file) && decide (place other < place job)

theorem jobsAhead_used {sha256 : Bytes → Bytes} (use : LedgerUse) {phase phase' : Phase}
    (isUsed : (ThreatHintReplay.step sha256 use.call file).2 = file') :
    jobsAhead file' job ≤ jobsAhead file job +
      (overtakes job ⟨⟨file, phase⟩, action, out, ⟨file', phase'⟩⟩).toNat := by
  have unchanged : ∀ {file' : HintLedger}, file'.analyzerOutbox = file.analyzerOutbox →
      jobsAhead file' job = jobsAhead file job := by
    intro file' same
    rw [jobsAhead, jobsAhead, undelivered, undelivered, same]
  have effect := step_effect sha256 use.call file
  rw [isUsed] at effect
  generalize isCall : use.call = call at effect
  generalize (ThreatHintReplay.step sha256 call file).1 = answered at effect
  cases effect with
  | refused | conflicted | listed => exact Nat.le_add_right _ _
  | opened _ _ outbox => exact (unchanged outbox).le.trans (Nat.le_add_right _ _)
  | @delivered payloadDigest =>
    have never : ¬ ThreatHintReplay.Delivers payloadDigest ⟨file, use.call, .ok .delivered, file'⟩ :=
      not_delivers use
    exact absurd ⟨_, _, isCall, rfl⟩ never
  | admitted isWire isFresh committed =>
    have counted : jobsAhead file' job = jobsAhead file job + _ :=
      (ahead_perm (undelivered_admitted committed)).trans (ahead_append _ _ job)
    rw [counted, ahead, List.countP_singleton]
    refine Nat.add_le_add_left ?_ _
    split
    · rename_i before
      have comes : overtakes job ⟨⟨file, phase⟩, action, out, ⟨file', phase'⟩⟩ = true := by
        refine List.any_eq_true.mpr ⟨_, (undelivered_admitted committed).mem_iff.mpr
          (List.mem_append_right _ List.mem_cons_self), ?_⟩
        rw [Bool.and_eq_true, decide_eq_true_iff]
        exact ⟨fresh_of_admitted committed, before⟩
      rw [comes]
      exact le_rfl
    · exact Nat.zero_le _

/-! ## What a drain selects -/

/-- The drain that loads its batch selects a job. -/
def Selects (job : OutboxJob) (e : DrainEvent) : Prop :=
  e.pre.phase = .loading ∧ ∃ batch, e.post.phase = .looping batch ∧ job ∈ batch.jobs

/-- A drain that loads its batch selects a pending job exactly if fewer jobs than the batch limit
are ahead of it. -/
theorem Move.selects (move : Move adapter s action out s') (loading : s.phase = .loading)
    {batch : Batch} (loaded : s'.phase = .looping batch) (pending : job ∈ undelivered s.file) :
    job ∈ batch.jobs ↔ jobsAhead s.file job < adapter.batchLimit := by
  cases move with
  | loaded phase listed bounded =>
    cases loaded
    rw [mem_pendingJobs listed]
    exact mem_take_iff (undelivered_sorted s.file) pending fun other => eq_of_place pending
  | stay | used =>
    rw [loading] at loaded
    cases loaded
  | unfit phase | reported phase | adapted phase | approved phase | stamped phase | waits phase
  | delivered phase | deliveredLate phase =>
    rw [loading] at phase
    cases phase
  | failed _ current =>
    rw [loading] at current
    cases current
  | stop | started => cases loaded

/-- The jobs of a batch stay those it was loaded with. -/
theorem Move.jobs (move : Move adapter s action out s') {batch' : Batch}
    (inLoop' : s'.phase.batch = some batch') :
    (∃ batch, s.phase.batch = some batch ∧ batch'.jobs = batch.jobs) ∨
      s.phase = .loading ∧ s'.phase = .looping batch' ∧
        batch'.jobs = (undelivered s.file).take adapter.batchLimit := by
  cases move with
  | stay | used => exact .inl ⟨batch', inLoop', rfl⟩
  | stop | started | reported | deliveredLate => cases inLoop'
  | loaded phase listed bounded =>
    cases inLoop'
    exact .inr ⟨phase, rfl, mem_pendingJobs listed⟩
  | unfit phase | adapted phase | approved phase | stamped phase | waits phase
  | delivered phase =>
    cases inLoop'
    exact .inl ⟨_, congrArg Phase.batch phase, rfl⟩
  | failed category current =>
    cases inLoop'
    exact .inl ⟨_, Phase.batch_of_current current, rfl⟩

/-! ## Whom drains pass over -/

/-- The job is pending, and the batch, which passed it over, is full of jobs ahead of it. -/
structure Passed (adapter : Adapter) (job : OutboxJob) (s : State) : Prop where
  inv : Inv adapter s
  pending : job ∈ undelivered s.file
  full : ∀ batch, s.phase.batch = some batch → batch.jobs.length = adapter.batchLimit
  before : ∀ batch, s.phase.batch = some batch → ∀ other ∈ batch.jobs, place other < place job

theorem Passed.of_move (passed : Passed adapter job s) (move : Move adapter s action out s')
    (skipped : ¬ Selects job ⟨s, action, out, s'⟩) : Passed adapter job s' := by
  have batches : ∀ batch', s'.phase.batch = some batch' →
      batch'.jobs.length = adapter.batchLimit ∧ ∀ other ∈ batch'.jobs, place other < place job := by
    intro batch' inLoop'
    rcases move.jobs inLoop' with ⟨batch, inLoop, same⟩ | ⟨loading, loaded, isTake⟩
    · rw [same]
      exact ⟨passed.full batch inLoop, passed.before batch inLoop⟩
    · have notTaken : job ∉ (undelivered s.file).take adapter.batchLimit := fun taken =>
        skipped ⟨loading, batch', loaded, isTake ▸ taken⟩
      rw [isTake]
      exact full_of_not_mem_take (undelivered_sorted s.file) passed.pending
        (fun other => eq_of_place passed.pending) notTaken
  refine ⟨passed.inv.of_move move, ?_, fun batch' inLoop' => (batches batch' inLoop').1,
    fun batch' inLoop' => (batches batch' inLoop').2⟩
  rcases move.job passed.inv passed.pending with stays | ⟨batch, hint, approved, isJob, -⟩
  · exact stays
  · have inLoop := Phase.batch_of_current (Phase.current_of_approved approved)
    exact absurd (passed.before batch inLoop job (List.mem_of_getElem? isJob)) (lt_irrefl _)

/-- What the current batch has paid: it has delivered a job. -/
def Phase.credit (phase : Phase) : Nat :=
  match phase.batch with
  | none => 0
  | some batch => min 1 batch.delivered.length

/-- What bounds how often drains still pass a job over. -/
def potential (job : OutboxJob) (s : State) : Nat := jobsAhead s.file job + s.phase.credit

/-- The drain reports with fewer failures than a batch can have. -/
def reportsProgress (adapter : Adapter) (e : DrainEvent) : Bool :=
  match e.output with
  | some (.report report) => decide (report.failures.length < adapter.batchLimit)
  | _ => false

theorem Phase.credit_le (phase : Phase) : phase.credit ≤ 1 := by
  unfold Phase.credit
  split
  · exact Nat.zero_le 1
  · exact min_le_left _ _

theorem Phase.credit_of_batch {phase : Phase} {batch : Batch} (inLoop : phase.batch = some batch) :
    phase.credit = min 1 batch.delivered.length := by
  rw [Phase.credit, inLoop]

/-- A drain that goes on without a delivery. -/
theorem potential_le {phase : Phase} {batch batch' : Batch} (inLoop : s.phase.batch = some batch)
    (inLoop' : phase.batch = some batch') (same : batch'.delivered = batch.delivered) :
    potential job { s with phase := phase } ≤ potential job s := by
  rw [potential, potential, Phase.credit_of_batch inLoop, Phase.credit_of_batch inLoop', same]

/-- The jobs that leave the queue ahead of the job pay the step that marks them. -/
theorem Passed.marked (passed : Passed adapter job s) {batch : Batch} {hint : VerifiedThreatHint}
    {deliveredAt : Int} {fault : Bool} {phase : Phase}
    (current : s.phase.current = some (batch, hint))
    (marks : markDelivered hint.payloadDigest deliveredAt fault s.file = (.ok (), file')) :
    potential job ⟨file', phase⟩ ≤ potential job s := by
  have inLoop := Phase.batch_of_current current
  obtain ⟨marked, split, isDigest⟩ := (passed.inv.current batch hint current).job
  have rest : marked ∈ batch.jobs.drop batch.batchIndex := split ▸ List.mem_cons_self
  have fewer := jobsAhead_marked marks (passed.inv.waiting batch inLoop marked rest) isDigest
    (passed.before batch inLoop marked (List.mem_of_mem_drop rest))
  have credit := phase.credit_le
  rw [potential, potential]
  dsimp only
  omega

/-- A report that passed the job over is paid by a delivery, unless the whole batch failed. -/
theorem Passed.reported (passed : Passed adapter job s) {batch : Batch}
    (phase : s.phase = .looping batch) (finished : batch.jobs[batch.batchIndex]? = none)
    (few : batch.failures.length < adapter.batchLimit) : s.phase.credit = 1 := by
  have inLoop : s.phase.batch = some batch := congrArg Phase.batch phase
  have accounted := passed.inv.accounted batch inLoop
  have full := passed.full batch inLoop
  have counted := accounted.indices.length_eq
  have within := accounted.within
  rw [List.getElem?_eq_none_iff] at finished
  simp only [List.length_append, List.length_map, List.length_range] at counted
  rw [Phase.credit_of_batch inLoop]
  omega

/-- Every drain that passes a job over is paid by a job that left the queue ahead of it. -/
theorem Passed.charge (passed : Passed adapter job s) (move : Move adapter s action out s') :
    (reportsProgress adapter ⟨s, action, out, s'⟩).toNat + potential job s' ≤
      potential job s + (overtakes job ⟨s, action, out, s'⟩).toNat := by
  have quiet : ∀ action out s', reportsProgress adapter ⟨s, action, out, s'⟩ = false →
      potential job s' ≤ potential job s →
      (reportsProgress adapter ⟨s, action, out, s'⟩).toNat + potential job s' ≤
        potential job s + (overtakes job ⟨s, action, out, s'⟩).toNat := by
    intro action out s' silent le
    rw [silent, Bool.toNat_false, Nat.zero_add]
    exact le.trans (Nat.le_add_right _ _)
  have idle : potential job { s with phase := .idle } ≤ potential job s := Nat.le_add_right _ _
  cases move with
  | stay => exact quiet _ _ _ rfl le_rfl
  | stop silent =>
    cases out with
    | none => exact quiet _ _ _ rfl idle
    | some outcome =>
      cases outcome with
      | report report => exact absurd rfl (silent report)
      | raised | cancelled => exact quiet _ _ _ rfl idle
  | used use =>
    have grows : jobsAhead (ThreatHintReplay.step adapter.sha256 use.call s.file).2 job ≤
        jobsAhead s.file job + (overtakes job ⟨s, .other use, none,
          ⟨(ThreatHintReplay.step adapter.sha256 use.call s.file).2, s.phase⟩⟩).toNat :=
      jobsAhead_used use rfl
    rw [reportsProgress, Bool.toNat_false, Nat.zero_add, potential, potential, Nat.add_right_comm]
    exact Nat.add_le_add_right grows _
  | started | loaded => exact quiet _ _ _ rfl (Nat.le_add_right _ _)
  | @reported batch phase finished =>
    have isCredit := passed.reported phase finished
    have rest : potential job { s with phase := .idle } = jobsAhead s.file job := rfl
    rw [rest, potential, reportsProgress]
    dsimp only
    by_cases few : batch.failures.length < adapter.batchLimit
    · rw [isCredit few, decide_eq_true few, Bool.toNat_true]
      omega
    · rw [decide_eq_false few, Bool.toNat_false]
      omega
  | unfit phase => exact quiet _ _ _ rfl (potential_le (congrArg Phase.batch phase) rfl rfl)
  | adapted phase => exact quiet _ _ _ rfl (potential_le (congrArg Phase.batch phase) rfl rfl)
  | failed category current =>
    exact quiet _ _ _ rfl (potential_le (Phase.batch_of_current current) rfl rfl)
  | approved phase => exact quiet _ _ _ rfl (potential_le (congrArg Phase.batch phase) rfl rfl)
  | stamped phase => exact quiet _ _ _ rfl (potential_le (congrArg Phase.batch phase) rfl rfl)
  | waits phase => exact quiet _ _ _ rfl (potential_le (congrArg Phase.batch phase) rfl rfl)
  | delivered phase marks =>
    exact quiet _ _ _ rfl (passed.marked (congrArg Phase.current phase) marks)
  | deliveredLate phase marks =>
    exact quiet _ _ _ rfl (passed.marked (congrArg Phase.current phase) marks)

/-- A job that no drain of a run selects. -/
theorem passed_over {h : List DrainEvent} {s₀ : State}
    (run : Run (step adapter) (fun s => s = s₀) h s) (idle : s₀.phase = .idle)
    (pending : job ∈ undelivered s₀.file) (skipped : ∀ e ∈ h, ¬ Selects job e) :
    h.countP (reportsProgress adapter) ≤ jobsAhead s₀.file job + h.countP (overtakes job) := by
  have outside : s₀.phase.batch = none := congrArg Phase.batch idle
  have start : ∀ s, s = s₀ → Passed adapter job s ∧ potential job s ≤ jobsAhead s₀.file job := by
    rintro _ rfl
    refine ⟨⟨.of_no_batch outside, pending, ?_, ?_⟩, ?_⟩
    · intro batch inLoop
      rw [outside] at inLoop
      cases inLoop
    · intro batch inLoop
      rw [outside] at inLoop
      cases inLoop
    · rw [potential, Phase.credit, outside]
      exact le_rfl
  have charged := run.charge (Passed adapter job) (fun e => ¬ Selects job e) (potential job)
    (reportsProgress adapter) (overtakes job) start
    (fun s action passed skipped => passed.of_move (step_move adapter action s) skipped)
    (fun s action passed _ => passed.charge (step_move adapter action s)) skipped
  exact (Nat.le_add_right _ _).trans charged.2

/-! ## The laws of the drain -/

/-- In every run of an adapter that starts between two drains: a report puts every job of the batch
into exactly one of its lists; a pending job stays pending at every step but a mark that comes after
the success of its analysis; a batch selects a pending job exactly if fewer jobs than the batch
limit are ahead of it; and drains that report fewer failures than that pass a job over at most as
often as jobs are ahead of it or come in ahead of it. -/
theorem hint_drain {h : List DrainEvent} {s₀ : State}
    (run : Run (step adapter) (fun s => s = s₀) h s) (idle : s₀.phase = .idle) :
    (∀ e ∈ h, ∀ report, e.output = some (.report report) →
      ∃ batch, e.pre.phase = .looping batch ∧ report = ⟨batch.delivered, batch.failures⟩ ∧
        (report.delivered.map DeliveredThreatHintAnalysis.batchIndex ++
          report.failures.map ThreatHintDrainFailure.batchIndex).Perm
            (List.range batch.jobs.length)) ∧
    (∀ h₁ e h₂, h = h₁ ++ e :: h₂ → ∀ job ∈ undelivered e.pre.file,
      job ∈ undelivered e.post.file ∨ Succeeded adapter h₁ job) ∧
    (∀ e ∈ h, ∀ batch, e.pre.phase = .loading → e.post.phase = .looping batch →
      ∀ job ∈ undelivered e.pre.file,
        (job ∈ batch.jobs ↔ jobsAhead e.pre.file job < adapter.batchLimit)) ∧
    (∀ job ∈ undelivered s₀.file, (∀ e ∈ h, ¬ Selects job e) →
      h.countP (reportsProgress adapter) ≤ jobsAhead s₀.file job + h.countP (overtakes job)) := by
  have outside : ∀ s, s = s₀ → Inv adapter s := by
    rintro _ rfl
    exact .of_no_batch (congrArg Phase.batch idle)
  refine ⟨?_, ?_, ?_, fun job pending skipped => passed_over run idle pending skipped⟩
  · exact run.events (Inv adapter) outside (fun s action inv => inv.step action)
      fun s action inv report isReport => (step_move adapter action s).report inv isReport
  · rintro h₁ e h₂ rfl job pending
    exact pending_or_succeeded run idle pending
  · exact run.events (Inv adapter) outside (fun s action inv => inv.step action)
      fun s action _ batch loading loaded job pending =>
        (step_move adapter action s).selects loading loaded pending

/-! ### Two hints and batches of one -/

def laterHint : ThreatHintReplay.CanonicalThreatHint :=
  { recordedHint with
    threatHash := List.replicate 64 100
    reportNonce := List.replicate 64 102 }

def olderJob : OutboxJob := outboxJob sha256 recordedHint.toWire (str "testnet-10") 1000

def youngerJob : OutboxJob := outboxJob sha256 laterHint.toWire (str "testnet-10") 1001

/-- The ledger after both hints were admitted. -/
@[irreducible] def queueFile : HintLedger :=
  (execute (ThreatHintReplay.step sha256) [.openLedger none,
    .admitHint recordedHint recordedHint.toWire (str "testnet-10") 1000 false false,
    .admitHint laterHint laterHint.toWire (str "testnet-10") 1001 false false]
    HintLedger.fresh).2

def singleAdapter : Adapter where
  sha256 := sha256
  tooDeep _ := false
  floatRepr := id
  expectedNetworkId := str "testnet-10"
  batchLimit := 1
  limit := by decide

def safeAnalysis (threatHash : Str) : AnalysisResult where
  threatHash := threatHash
  yaraRule := none
  confidence := .float true true
  shouldSubmit := false
  analysisNotes := str "observed"

theorem queueFile_jobs : undelivered queueFile = [olderJob, youngerJob] := by decide +kernel

theorem jobs_adapted :
    (adaptJob singleAdapter olderJob).toOption = some (verifiedHint olderJob recordedHint) ∧
      (adaptJob singleAdapter youngerJob).toOption = some (verifiedHint youngerJob laterHint) := by
  decide +kernel

theorem verifiedHint_payloadDigest (job : OutboxJob)
    (envelope : ThreatHintReplay.CanonicalThreatHint) :
    (verifiedHint job envelope).payloadDigest = job.payloadDigest := rfl

theorem jobs_apart : olderJob.payloadDigest ≠ youngerJob.payloadDigest := by
  have nodup := undelivered_nodup queueFile
  rw [queueFile_jobs] at nodup
  simpa using nodup

theorem pendingJobs_one {jobs : List OutboxJob} (queue : undelivered file = job :: jobs) :
    pendingJobs 1 false file = .ok [job] := by
  rw [pendingJobs, queue]
  rfl

/-- A drain of one job, whose analysis raises. -/
def failingDrain : List Action := [.start, .load false, .adapt, .analyze .raised, .adapt]

def loadedBatch (job : OutboxJob) : Batch := ⟨[job], 0, [], []⟩

def failedBatch (job : OutboxJob) (hint : VerifiedThreatHint) : Batch :=
  (loadedBatch job).fail .analysis (some hint.payloadDigest)

theorem execute_failingDrain {hint : VerifiedThreatHint}
    (listed : pendingJobs adapter.batchLimit false file = .ok [job])
    (adapted : adaptJob adapter job = .ok hint) :
    execute (step adapter) failingDrain ⟨file, .idle⟩ =
      ([⟨⟨file, .idle⟩, .start, none, ⟨file, .loading⟩⟩,
        ⟨⟨file, .loading⟩, .load false, none, ⟨file, .looping (loadedBatch job)⟩⟩,
        ⟨⟨file, .looping (loadedBatch job)⟩, .adapt, none,
          ⟨file, .analyzing (loadedBatch job) hint⟩⟩,
        ⟨⟨file, .analyzing (loadedBatch job) hint⟩, .analyze .raised, none,
          ⟨file, .looping (failedBatch job hint)⟩⟩,
        ⟨⟨file, .looping (failedBatch job hint)⟩, .adapt,
          some (.report ⟨[], [⟨0, .analysis, some hint.payloadDigest⟩]⟩), ⟨file, .idle⟩⟩],
        ⟨file, .idle⟩) := by
  have started : step adapter .start ⟨file, .idle⟩ = (none, ⟨file, .loading⟩) := rfl
  have loads : step adapter (.load false) ⟨file, .loading⟩ =
      (none, ⟨file, .looping (loadedBatch job)⟩) := by
    simp only [step, loaded, listed, List.length_singleton,
      if_neg (Nat.not_lt.mpr adapter.limit.1), loadedBatch]
  have adapts : step adapter .adapt ⟨file, .looping (loadedBatch job)⟩ =
      (none, ⟨file, .analyzing (loadedBatch job) hint⟩) := by
    simp only [step, nextJob, loadedBatch, List.getElem?_cons_zero, adapted]
  have fails : step adapter (.analyze .raised) ⟨file, .analyzing (loadedBatch job) hint⟩ =
      (none, ⟨file, .looping (failedBatch job hint)⟩) := rfl
  have reports : step adapter .adapt ⟨file, .looping (failedBatch job hint)⟩ =
      (some (.report ⟨[], [⟨0, .analysis, some hint.payloadDigest⟩]⟩), ⟨file, .idle⟩) := rfl
  simp only [failingDrain, execute, callEvent, started, loads, adapts, fails, reports]

/-- A drain that returned its report. -/
def completes (e : DrainEvent) : Bool :=
  match e.output with
  | some (.report _) => true
  | _ => false

/-- The analysis of a hint, where a drain awaits it, succeeds. -/
def SucceedsIn (hint : VerifiedThreatHint) (e : DrainEvent) : Prop :=
  ∀ batch outcome, e.pre.phase = .analyzing batch hint → e.input = .analyze outcome →
    ∃ analysis result, outcome = .returned analysis ∧ validateV1Analysis hint analysis = .ok result

theorem failingDrain_skips {hint hint' : VerifiedThreatHint} {other : OutboxJob}
    (listed : pendingJobs adapter.batchLimit false file = .ok [job])
    (adapted : adaptJob adapter job = .ok hint) (apart : other ≠ job)
    (apart' : hint.payloadDigest ≠ hint'.payloadDigest) :
    ∀ e ∈ (execute (step adapter) failingDrain ⟨file, .idle⟩).1,
      ¬ Selects other e ∧ SucceedsIn hint' e := by
  rw [execute_failingDrain listed adapted]
  intro e isEvent
  simp only [List.mem_cons, List.not_mem_nil, or_false] at isEvent
  refine ⟨?_, ?_⟩
  · rintro ⟨loading, batch, loaded, isJob⟩
    rcases isEvent with rfl | rfl | rfl | rfl | rfl <;> cases loading
    cases loaded
    exact apart (List.mem_singleton.mp isJob)
  · intro batch outcome analyzing _
    rcases isEvent with rfl | rfl | rfl | rfl | rfl <;> cases analyzing
    exact absurd rfl apart'

/-- A job that fails, drain after drain, keeps a batch of one from every other job. -/
theorem failing_drains {hint hint' : VerifiedThreatHint} {other : OutboxJob}
    (listed : pendingJobs adapter.batchLimit false file = .ok [job])
    (adapted : adaptJob adapter job = .ok hint) (apart : other ≠ job)
    (apart' : hint.payloadDigest ≠ hint'.payloadDigest) (n : Nat) :
    ∃ h, Run (step adapter) (fun s => s = ⟨file, .idle⟩) h ⟨file, .idle⟩ ∧
      n ≤ h.countP completes ∧ ∀ e ∈ h, ¬ Selects other e ∧ SucceedsIn hint' e := by
  induction n with
  | zero => exact ⟨[], .start _ rfl, Nat.zero_le _, List.forall_mem_nil _⟩
  | succ n ih =>
    obtain ⟨h, run, many, skips⟩ := ih
    have skipsAgain := failingDrain_skips listed adapted apart apart'
    have next := run.append failingDrain
    rw [execute_failingDrain listed adapted] at next skipsAgain
    refine ⟨_, next, ?_, List.forall_mem_append.mpr ⟨skips, skipsAgain⟩⟩
    rw [List.countP_append]
    exact Nat.add_le_add_right many 1

/-- A job whose analysis would succeed need not be selected, however many drains complete. -/
theorem failing_batch_starves :
    ¬ ∀ (adapter : Adapter) (s₀ : State) (job : OutboxJob) (hint : VerifiedThreatHint),
      s₀.phase = .idle → job ∈ undelivered s₀.file → (adaptJob adapter job).toOption = some hint →
      ∃ n, ∀ h s, Run (step adapter) (fun s => s = s₀) h s → (∀ e ∈ h, SucceedsIn hint e) →
        n ≤ h.countP completes → ∃ e ∈ h, Selects job e := by
  intro claimed
  have pending : youngerJob ∈ undelivered queueFile := by
    rw [queueFile_jobs]
    exact List.mem_cons_of_mem _ List.mem_cons_self
  have listed : pendingJobs singleAdapter.batchLimit false queueFile = .ok [olderJob] :=
    pendingJobs_one queueFile_jobs
  obtain ⟨adapted, adapted'⟩ := jobs_adapted
  obtain ⟨n, selected⟩ := claimed singleAdapter ⟨queueFile, .idle⟩ youngerJob _ rfl pending adapted'
  have apart : youngerJob ≠ olderJob := fun same => jobs_apart (same ▸ rfl)
  cases isHint : adaptJob singleAdapter olderJob with
  | error error =>
    rw [isHint] at adapted
    cases adapted
  | ok hint =>
    rw [isHint] at adapted
    obtain rfl := Option.some.inj adapted
    have apart' : (verifiedHint olderJob recordedHint).payloadDigest ≠
        (verifiedHint youngerJob laterHint).payloadDigest := by
      rw [verifiedHint_payloadDigest, verifiedHint_payloadDigest]
      exact jobs_apart
    obtain ⟨h, run, many, skips⟩ := failing_drains listed isHint apart apart' n
    obtain ⟨e, isEvent, selects⟩ := selected h _ run (fun e isEvent => (skips e isEvent).2) many
    exact (skips e isEvent).1 selects

/-- The older job is delivered, and the next drain selects the younger one. -/
theorem hint_drain_two :
    let run := execute (step singleAdapter) [.start, .load false, .adapt,
      .analyze (.returned (some (safeAnalysis recordedHint.threatHash))), .stamp (some 1002),
      .mark false, .adapt, .start, .load false] ⟨queueFile, .idle⟩
    run.1.countP (reportsProgress singleAdapter) = 1 ∧
      (∀ job ∈ undelivered queueFile, (∀ e ∈ run.1, ¬ Selects job e) →
        run.1.countP (reportsProgress singleAdapter) ≤
          jobsAhead queueFile job + run.1.countP (overtakes job)) := by
  intro run
  have begun : Run (step singleAdapter) (fun s => s = ⟨queueFile, .idle⟩) run.1 run.2 := by
    refine Run.of_execute ?_ _
    rfl
  refine ⟨by decide +kernel, ?_⟩
  obtain ⟨-, -, -, passed⟩ := hint_drain begun rfl
  exact passed

end Prometheus.Jaeger.HintDrain
