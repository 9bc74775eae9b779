import Prometheus.Deployer.BroadcastSafety

/-!
# A journal that can be resumed

A journal on disk is resumable when `validate_broadcast_journal_binding` accepts it for a broadcast
that wrote it. Every write keeps that except for the order of the times: `mark_submission_in_progress`
and `finalize_broadcast_journal` stamp the clock without looking at `created_at_unix_seconds`, and the
validation refuses a stamp before it. So the proof follows the last reading of the clock beside the
world, and asks at each write of the journal that this reading is not before the creation.
-/

namespace Prometheus.Deployer

open Prometheus.Machine Prometheus.Machine.Program

/-! ## Resumable journals -/

/-- `validate_broadcast_journal_binding` accepts the journal for this broadcast, at any time. -/
structure BroadcastJournal.Resumes (journal : BroadcastJournal) (input : Broadcast) : Prop where
  bound : ∀ now, isJournalBound journal (expectedJournal input now) = true
  state : isJournalState journal = true

/-- The journal on disk resumes a broadcast that is known. -/
def Resumable (known : Broadcast → Prop) (w : World) : Prop :=
  ∀ journal, w.journal = some journal → ∃ input, known input ∧ journal.Resumes input

variable {kaspa : Kaspa} {input : Broadcast} {journal : BroadcastJournal}

theorem BroadcastJournal.Resumes.validates (resumes : journal.Resumes input) (now : Nat) :
    validateJournal journal (expectedJournal input now) = pure () := by
  rw [validateJournal, resumes.bound, resumes.state]
  rfl

/-- What a resumable journal says of its times. -/
theorem BroadcastJournal.Resumes.started_le (resumes : journal.Resumes input) :
    journal.submissionStartedAtUnixSeconds.all
      (fun started => decide (journal.createdAtUnixSeconds ≤ started)) = true := by
  have bound := resumes.bound 0
  rw [isJournalBound, Bool.and_eq_true] at bound
  exact bound.2

theorem expectedJournal_resumes (input : Broadcast) (now : Nat) :
    (expectedJournal input now).Resumes input := by
  refine ⟨fun later => ?_, ?_⟩
  · simp [isJournalBound, expectedJournal]
  · simp [isJournalState, expectedJournal]

/-- A journal whose times are replaced by times that are not before the creation is still bound. -/
theorem isJournalBound_stamped {expected : BroadcastJournal} {status : String} {updated : Nat}
    {started : Option Nat} {result : Option BroadcastResult}
    (bound : isJournalBound journal expected = true)
    (ordered : journal.createdAtUnixSeconds ≤ updated)
    (starts : started.all (fun s => decide (journal.createdAtUnixSeconds ≤ s)) = true) :
    isJournalBound { journal with
      status, updatedAtUnixSeconds := updated, submissionStartedAtUnixSeconds := started,
      result } expected = true := by
  simp only [isJournalBound, Bool.and_eq_true, decide_eq_true_eq] at bound ⊢
  exact ⟨⟨bound.1.1, ordered⟩, starts⟩

theorem BroadcastJournal.Resumes.updated (resumes : journal.Resumes input) :
    journal.createdAtUnixSeconds ≤ journal.updatedAtUnixSeconds := by
  have bound := resumes.bound 0
  simp only [isJournalBound, Bool.and_eq_true, decide_eq_true_eq] at bound
  exact bound.1.2

/-- Marking the journal keeps it resumable exactly when the stamp is not before its creation. -/
theorem startedJournal_resumes_iff (resumes : journal.Resumes input)
    (private' : journal.result = none) {now : Nat} :
    (startedJournal journal now).Resumes input ↔ journal.createdAtUnixSeconds ≤ now := by
  refine ⟨fun marked => marked.updated, fun ordered => ⟨fun later => ?_, ?_⟩⟩
  · exact isJournalBound_stamped (resumes.bound later) ordered (by simpa using ordered)
  · simp [isJournalState, startedJournal, private']

/-- So does recording a bound result. -/
theorem recordedJournal_resumes_iff (resumes : journal.Resumes input) {result : BroadcastResult}
    (isBound : isResultBound result journal = true) {now : Nat} :
    (recordedJournal journal result now).Resumes input ↔ journal.createdAtUnixSeconds ≤ now := by
  refine ⟨fun recorded => recorded.updated, fun ordered => ⟨fun later => ?_, ?_⟩⟩
  · exact isJournalBound_stamped (resumes.bound later) ordered resumes.started_le
  · have same : isResultBound result (recordedJournal journal result now) = true := isBound
    cases started : journal.submissionStartedAtUnixSeconds <;>
      simp [isJournalState, recordedJournal, started] <;> exact same

/-! ## The clock beside the world -/

/-- A world and the last reading of the clock. -/
abbrev Timed := World × Option Nat

/-- The time a statement reads. -/
def clockReading (op : Op) (c : Choice) : Option Nat :=
  match op with
  | .unixSeconds => c.reply (some c.seconds)
  | _ => none

/-- `exec`, remembering the clock. -/
def execTimed (op : Op) (c : Choice) (s : Timed) : Timed × Option op.Answer :=
  (((exec op c s.1).1, (clockReading op c).orElse fun _ => s.2), (exec op c s.1).2)

/-- The last reading is not before the creation of the journal on disk. -/
def InOrder (s : Timed) : Prop :=
  ∀ journal now, s.1.journal = some journal → s.2 = some now → journal.createdAtUnixSeconds ≤ now

/-- What every statement keeps, as long as the clock is in order. -/
def KeepsResumable (known : Broadcast → Prop) (s s' : Timed) : Prop :=
  Resumable known s.1 → InOrder s → Resumable known s'.1

variable {known : Broadcast → Prop} {s : Timed}

/-- Every statement of the program keeps the journal resumable, and when it returns the
postcondition holds. -/
abbrev Resuming (known : Broadcast → Prop) {α : Type} (p : Process α) (post : α → Timed → Prop)
    (s : Timed) : Prop :=
  CrashOk execTimed (KeepsResumable known) p post s

/-- A statement that leaves the journal as it is. -/
theorem Resuming.quiet {op : Op} {post : op.Answer → Timed → Prop}
    (unchanged : ∀ c, (exec op c s.1).1.journal = s.1.journal)
    (returned : ∀ c answer s', (exec op c s.1).2 = some answer → s'.1 = (exec op c s.1).1 →
      s'.2 = (clockReading op c).orElse (fun _ => s.2) → post answer s') :
    Resuming known (request op) post s := by
  refine crash_request (fun c => ?_) fun c answer reply => returned c answer _ reply rfl rfl
  intro resumable _ journal held
  exact resumable journal ((unchanged c).symm.trans held)

/-- A reading of the clock leaves the world and is remembered. -/
theorem Resuming.clock {post : Nat → Timed → Prop} (returned : ∀ now, post now (s.1, some now)) :
    Resuming known (request .unixSeconds) post s := by
  apply Resuming.quiet (fun _ => rfl)
  intro c now s' reply sameWorld isClock
  obtain ⟨outcome, isNow⟩ := reply_eq_some reply
  have read : clockReading .unixSeconds c = some now := by
    rw [clockReading, Choice.reply, if_pos outcome]
    exact isNow
  rw [read] at isClock
  have same : s' = (s.1, some now) := Prod.ext sameWorld isClock
  rw [same]
  exact returned now

/-- Replacing the journal by one that is resumable while the clock is in order. -/
theorem Resuming.write {next : BroadcastJournal} {post : Unit → Timed → Prop}
    (kept : Resumable known s.1 → InOrder s → ∃ input, known input ∧ next.Resumes input)
    (returned : post () ({ s.1 with journal := some next }, s.2)) :
    Resuming known (request (.writeJournal next)) post s := by
  refine crash_request (fun c => ?_) fun c answer reply => ?_
  · intro resumable inOrder journal held
    simp only [execTimed, exec, Choice.effect] at held
    split at held
    · exact resumable journal held
    · obtain rfl := Option.some.inj held
      exact kept resumable inOrder
  · obtain ⟨outcome, -⟩ := reply_eq_some reply
    have replaced : (execTimed (.writeJournal next) c s).1 =
        ({ s.1 with journal := some next }, s.2) := by
      simp [execTimed, exec, Choice.effect, outcome, clockReading]
    rw [replaced]
    exact returned

/-! ## The parts of the command -/

theorem prepareBroadcastJournal_resuming {post : BroadcastJournal → Timed → Prop}
    (returned : ∀ now, post (expectedJournal input now) (s.1, some now)) :
    Resuming known (prepareBroadcastJournal kaspa input) post s := by
  apply CrashOk.bind
  apply crash_ensure
  intro _
  apply CrashOk.bind
  apply crash_ensure
  intro _
  apply CrashOk.bind
  apply Resuming.clock
  intro now
  exact CrashOk.pure (returned now)

theorem validateJournal_resuming {expected : BroadcastJournal} {post : Unit → Timed → Prop}
    (returned : post () s) : Resuming known (validateJournal journal expected) post s := by
  apply CrashOk.bind
  apply crash_ensure
  intro _
  apply crash_ensure
  intro _
  exact returned

/-- After the journal is opened it is the one on disk. -/
theorem openJournal_resuming (isKnown : known input) (now : Nat)
    {post : BroadcastJournal → Timed → Prop}
    (returned : ∀ journal s, s.1.journal = some journal → post journal s) :
    Resuming known (openJournal (expectedJournal input now)) post s := by
  apply CrashOk.bind
  refine crash_request (fun c => ?_) fun c created reply => ?_
  · intro resumable _ journal held
    cases onDisk : s.1.journal with
    | none =>
      simp only [execTimed, exec, onDisk, Choice.effect] at held
      split at held
      · rw [onDisk] at held
        cases held
      · obtain rfl := Option.some.inj held
        exact ⟨input, isKnown, expectedJournal_resumes input now⟩
    | some old =>
      simp only [execTimed, exec, onDisk] at held
      exact resumable journal (onDisk.trans held)
  · cases onDisk : s.1.journal with
    | none =>
      simp only [execTimed, exec, onDisk] at reply
      obtain ⟨outcome, isTrue⟩ := reply_eq_some reply
      obtain rfl : true = created := Option.some.inj isTrue
      apply CrashOk.pure
      apply returned
      simp [execTimed, exec, onDisk, Choice.effect, outcome]
    | some old =>
      simp only [execTimed, exec, onDisk] at reply
      obtain ⟨-, isFalse⟩ := reply_eq_some reply
      obtain rfl : false = created := Option.some.inj isFalse
      apply CrashOk.bind
      apply Resuming.quiet (fun _ => rfl)
      intro c' journal s' reply' sameWorld _
      obtain ⟨-, isRead⟩ := reply_eq_some reply'
      apply CrashOk.bind
      apply validateJournal_resuming
      apply CrashOk.pure
      apply returned
      rw [sameWorld]
      exact isRead

theorem loadBroadcastResult_resuming {post : BroadcastResult → Timed → Prop}
    (returned : ∀ result s', s'.1 = s.1 → post result s') :
    Resuming known (loadBroadcastResult journal) post s := by
  apply CrashOk.bind
  apply Resuming.quiet (fun _ => rfl)
  intro c result s' _ sameWorld _
  apply CrashOk.bind
  apply crash_ensure
  intro _
  exact CrashOk.pure (returned result s' sameWorld)

theorem publishRecorded_resuming {recorded : BroadcastResult} :
    Resuming known (publishRecorded journal recorded) (fun _ _ => True) s := by
  apply CrashOk.bind
  apply Resuming.quiet (fun _ => rfl)
  intro c isPublic s' _ _ _
  cases isPublic with
  | true =>
    apply CrashOk.bind
    apply loadBroadcastResult_resuming
    intro result s' _
    apply crash_ensure
    intro _
    trivial
  | false =>
    apply Resuming.quiet
    · intro c
      simp only [exec, Choice.effect]
      split <;> rfl
    · intros
      trivial

/-- A result is recorded with the time that was read just before. -/
theorem finalizeBroadcastJournal_resuming {result : BroadcastResult}
    {post : BroadcastJournal → Timed → Prop}
    (returned : ∀ now, isResultBound result journal = true →
      post (recordedJournal journal result now) (s.1, some now)) :
    Resuming known (finalizeBroadcastJournal journal result) post s := by
  apply CrashOk.bind
  apply crash_ensure
  intro isBound
  apply CrashOk.bind
  apply Resuming.clock
  intro now
  exact CrashOk.pure (returned now isBound)

theorem writeRecorded_resuming (held : s.1.journal = some journal) {result : BroadcastResult}
    (isBound : isResultBound result journal = true) {now : Nat} {post : Unit → Timed → Prop}
    (returned : ∀ s', post () s') :
    Resuming known (request (.writeJournal (recordedJournal journal result now))) post
      (s.1, some now) := by
  apply Resuming.write
  · intro resumable inOrder
    obtain ⟨input, isKnown, resumes⟩ := resumable journal held
    have ordered := inOrder journal now held rfl
    exact ⟨input, isKnown, (recordedJournal_resumes_iff resumes isBound).mpr ordered⟩
  · exact returned _

/-- The journal is marked with the time that was read just before. -/
theorem markSubmissionInProgress_resuming (held : s.1.journal = some journal)
    {post : Nat × BroadcastJournal → Timed → Prop}
    (returned : ∀ r s, s.1.journal = some r.2 → post r s) :
    Resuming known (markSubmissionInProgress journal) post s := by
  apply CrashOk.bind
  apply crash_ensure
  intro isFirst
  have private' : journal.result = none := by
    simp only [Bool.and_eq_true, Option.isNone_iff_eq_none] at isFirst
    exact isFirst.2
  apply CrashOk.bind
  apply Resuming.clock
  intro now
  apply CrashOk.bind
  apply Resuming.write
  · intro resumable inOrder
    obtain ⟨input, isKnown, resumes⟩ := resumable journal held
    have ordered := inOrder journal now held rfl
    exact ⟨input, isKnown, (startedJournal_resumes_iff resumes private').mpr ordered⟩
  · exact CrashOk.pure (returned _ _ rfl)

theorem submitVerifiedTransaction_resuming (held : s.1.journal = some journal)
    {post : BroadcastResult × BroadcastJournal → Timed → Prop}
    (returned : ∀ r s, s.1.journal = some r.2 → post r s) :
    Resuming known (submitVerifiedTransaction input journal) post s := by
  apply CrashOk.bind
  apply CrashOk.bind
  apply crash_ensure
  intro _
  apply crash_ensure
  intro _
  apply CrashOk.bind
  apply Resuming.quiet (fun _ => rfl)
  intro _ _ s₁ _ world₁ _
  apply CrashOk.bind
  apply markSubmissionInProgress_resuming (by rw [world₁]; exact held)
  intro marked s₂ held₂
  apply CrashOk.bind
  apply Resuming.quiet (fun _ => rfl)
  intro c submittedId s₃ _ world₃ _
  apply CrashOk.bind
  apply crash_ensure
  intro _
  apply CrashOk.pure
  apply returned
  rw [world₃]
  exact held₂

theorem broadcastVerifiedTransaction_resuming (held : s.1.journal = some journal)
    {post : BroadcastResult × BroadcastJournal → Timed → Prop}
    (returned : ∀ r s, s.1.journal = some r.2 → post r s) :
    Resuming known (broadcastVerifiedTransaction kaspa input journal) post s := by
  apply CrashOk.bind
  apply prepareBroadcastJournal_resuming
  intro now
  apply CrashOk.bind
  apply validateJournal_resuming
  apply CrashOk.bind
  apply Resuming.quiet (fun _ => rfl)
  intro _ _ s₁ _ world₁ _
  have held₁ : s₁.1.journal = some journal := by
    rw [world₁]
    exact held
  apply CrashOk.bind
  apply Resuming.quiet (fun _ => rfl)
  intro _ deployed s₂ _ world₂ _
  have held₂ : s₂.1.journal = some journal := by
    rw [world₂]
    exact held₁
  cases deployed with
  | true => exact CrashOk.pure (returned _ _ held₂)
  | false =>
    apply CrashOk.bind
    apply Resuming.quiet (fun _ => rfl)
    intro _ pending s₃ _ world₃ _
    have held₃ : s₃.1.journal = some journal := by
      rw [world₃]
      exact held₂
    cases pending with
    | true => exact CrashOk.pure (returned _ _ held₃)
    | false => exact submitVerifiedTransaction_resuming held₃ returned

/-- The whole command keeps the journal resumable, wherever it is killed. -/
theorem broadcast_resuming (isKnown : known input) :
    Resuming known (broadcast kaspa input) (fun _ _ => True) s := by
  apply CrashOk.bind
  apply prepareBroadcastJournal_resuming
  intro now
  apply CrashOk.bind
  apply openJournal_resuming isKnown
  intro journal s held
  cases recorded : journal.result with
  | some result => exact publishRecorded_resuming
  | none =>
    apply CrashOk.bind
    apply Resuming.quiet (fun _ => rfl)
    intro c isPublic s₁ _ world₁ _
    have held₁ : s₁.1.journal = some journal := by
      rw [world₁]
      exact held
    cases isPublic with
    | true =>
      apply CrashOk.bind
      apply loadBroadcastResult_resuming
      intro result s₂ world₂
      have held₂ : s₂.1.journal = some journal := by
        rw [world₂]
        exact held₁
      apply CrashOk.bind
      apply finalizeBroadcastJournal_resuming
      intro later isBound
      exact writeRecorded_resuming held₂ isBound fun _ => trivial
    | false =>
      apply CrashOk.bind
      apply broadcastVerifiedTransaction_resuming held₁
      intro r s₂ held₂
      apply CrashOk.bind
      apply finalizeBroadcastJournal_resuming
      intro later isBound
      apply CrashOk.bind
      apply writeRecorded_resuming held₂ isBound
      intro s₃
      apply Resuming.quiet
      · intro c
        simp only [exec, Choice.effect]
        split <;> rfl
      · intros
        trivial

/-! ## Runs of the machine -/

/-- The time an event reads. -/
def reading (e : DeployEvent) : Option Nat :=
  match e.input, e.output with
  | .next c, some op => clockReading op c
  | _, _ => none

/-- The last time that was read. -/
def lastReading (h : List DeployEvent) : Option Nat := (h.filterMap reading).getLast?

/-- Whenever the journal is written, the time read last is not before the creation of the journal on
disk: no stamp that is taken is earlier than the journal. -/
def ClockInOrder (h : List DeployEvent) : Prop :=
  ∀ before e later, h = before ++ e :: later → (∃ next, e.output = some (.writeJournal next)) →
    InOrder (e.pre.world, lastReading before)

/-- A broadcast that was started. -/
def Started (h : List DeployEvent) (input : Broadcast) : Prop := ∃ e ∈ h, e.input = .start input

theorem lastReading_append (h : List DeployEvent) (e : DeployEvent) :
    lastReading (h ++ [e]) = (reading e).orElse fun _ => lastReading h := by
  rw [lastReading, List.filterMap_append]
  cases read : reading e with
  | none => simp [read, lastReading]
  | some now => simp [read, lastReading]

/-- Only a write of the journal changes a journal that exists. -/
theorem exec_journal (op : Op) (c : Choice) (w : World) :
    (exec op c w).1.journal = w.journal ∨ w.journal = none ∨ ∃ next, op = .writeJournal next := by
  cases op with
  | createJournal next =>
    cases held : w.journal with
    | none => exact .inr (.inl rfl)
    | some journal => simp [exec, held]
  | writeJournal next => exact .inr (.inr ⟨next, rfl⟩)
  | writeResult result =>
    refine .inl ?_
    simp only [exec, Choice.effect]
    split <;> rfl
  | _ => exact .inl rfl

/-- Between two signals the journal is resumable, and a running broadcast keeps it so. -/
def Steadily (known : Broadcast → Prop) (h : List DeployEvent) (host : DeployHost) : Prop :=
  Resumable known host.world ∧ ∀ p, host.running = some p →
    p.Crash execTimed (KeepsResumable known) (fun _ _ => True) (host.world, lastReading h)

theorem steadily_call {h : List DeployEvent} {host : DeployHost} (steadily : Steadily known h host)
    (signal : Signal Broadcast Choice) (isKnown : ∀ input, signal = .start input → known input)
    (inOrder : (∃ next, (step kaspa signal host).1 = some (.writeJournal next)) →
      InOrder (host.world, lastReading h)) :
    Steadily known (h ++ [callEvent (step kaspa) host signal]) (step kaspa signal host).2 := by
  obtain ⟨world, running⟩ := host
  obtain ⟨resumable, keeps⟩ := steadily
  rw [Steadily, lastReading_append]
  cases signal with
  | start input =>
    cases running with
    | none =>
      refine ⟨resumable, fun p isRunning => ?_⟩
      obtain rfl := Option.some.inj isRunning
      exact Crash.mono (broadcast_resuming (isKnown input rfl)) fun _ _ _ => trivial
    | some p => exact ⟨resumable, keeps⟩
  | kill =>
    refine ⟨?_, fun p isRunning => ?_⟩
    · cases running <;> exact resumable
    · cases running <;> cases isRunning
  | next c =>
    cases running with
    | none =>
      refine ⟨resumable, fun p isRunning => ?_⟩
      cases isRunning
    | some p =>
      cases p with
      | ret a =>
        refine ⟨resumable, fun p isRunning => ?_⟩
        cases isRunning
      | call op next =>
        obtain ⟨kept, rest⟩ := keeps _ rfl c
        refine ⟨?_, fun p isRunning => ?_⟩
        · rcases exec_journal op c world with same | absent | isWrite
          · intro journal held
            exact resumable journal (same.symm.trans held)
          · refine kept resumable fun journal now held _ => ?_
            rw [absent] at held
            cases held
          · obtain ⟨journal, rfl⟩ := isWrite
            exact kept resumable (inOrder ⟨journal, rfl⟩)
        · obtain rfl := Option.some.inj isRunning
          exact rest

theorem steadily_of_run {h : List DeployEvent} {host : DeployHost}
    (run : Run (step kaspa) Unused h host) (isKnown : ∀ input, Started h input → known input)
    (inOrder : ClockInOrder h) : Steadily known h host := by
  induction run with
  | start host unused =>
    have same : host = ⟨⟨none, none, []⟩, none⟩ := unused
    subst same
    refine ⟨fun journal held => ?_, fun p isRunning => ?_⟩
    · cases held
    · cases isRunning
  | @call h host signal run ih =>
    have before : Steadily known h host := by
      refine ih (fun input started => isKnown input ?_) fun first e later split isWrite => ?_
      · obtain ⟨e, he, isStart⟩ := started
        exact ⟨e, List.mem_append_left _ he, isStart⟩
      · refine inOrder first e (later ++ [callEvent (step kaspa) host signal]) ?_ isWrite
        rw [split]
        simp
    refine steadily_call before signal (fun input isStart => isKnown input ?_) fun isWrite => ?_
    · exact ⟨callEvent (step kaspa) host signal, by simp, isStart⟩
    · exact inOrder h (callEvent (step kaspa) host signal) [] rfl isWrite

/-- In every run in which no stamp is earlier than the journal, the journal on disk is accepted, at
any later time, for a broadcast that was started: `load_broadcast_journal` returns it. -/
theorem journal_resumable (kaspa : Kaspa) {h : List DeployEvent} {host : DeployHost}
    (run : Run (step kaspa) Unused h host) (inOrder : ClockInOrder h) :
    ∀ journal, host.world.journal = some journal → ∃ input, Started h input ∧
      ∀ now, validateJournal journal (expectedJournal input now) = pure () := by
  intro journal held
  have steadily := steadily_of_run run (fun _ started => started) inOrder
  obtain ⟨input, started, resumes⟩ := steadily.1 journal held
  exact ⟨input, started, resumes.validates⟩

/-! ## A clock that steps back -/

/-- A write of the journal finds the clock in order. -/
def stampInOrder (last : Option Nat) (e : DeployEvent) : Bool :=
  match e.output, e.pre.world.journal, last with
  | some (.writeJournal _), some journal, some now => decide (journal.createdAtUnixSeconds ≤ now)
  | _, _, _ => true

/-- `ClockInOrder`, computed along the run with the time read last. -/
def checkClock : Option Nat → List DeployEvent → Bool
  | _, [] => true
  | last, e :: later =>
    stampInOrder last e && checkClock ((reading e).orElse fun _ => last) later

theorem clockInOrder_of_checkClock {first h : List DeployEvent}
    (checked : checkClock (lastReading first) h = true) :
    ∀ before e later, h = before ++ e :: later → (∃ next, e.output = some (.writeJournal next)) →
      InOrder (e.pre.world, lastReading (first ++ before)) := by
  induction h generalizing first with
  | nil =>
    intro before e later split
    cases before <;> cases split
  | cons event h ih =>
    rw [checkClock, Bool.and_eq_true, ← lastReading_append] at checked
    intro before e later split isWrite
    cases before with
    | nil =>
      obtain ⟨rfl, rfl⟩ := List.cons.inj split
      obtain ⟨next, isWrite⟩ := isWrite
      intro journal now held read
      rw [List.append_nil] at read
      have ordered := checked.1
      dsimp only at held read
      simpa [stampInOrder, isWrite, held, read] using ordered
    | cons event' before =>
      obtain ⟨rfl, rest⟩ := List.cons.inj split
      have found := ih checked.2 before e later rest isWrite
      rwa [List.append_assoc] at found

/-- A run is killed when the node has the transaction. -/
def submittedSignals (created stamped : Nat) : List (Signal Broadcast Choice) :=
  [.start sampleBroadcast, .next ⟨.returns, created, false, "cc"⟩] ++
    List.replicate 10 (.next ⟨.returns, stamped, false, "cc"⟩) ++ [.kill]

theorem journal_resumable_submitted :
    let r := execute (step sampleKaspa) (submittedSignals 5 5) ⟨⟨none, none, []⟩, none⟩
    r.2.world.submissions.length = 1 ∧ ∃ journal input, r.2.world.journal = some journal ∧
      journal.status = "submission_in_progress" ∧
      ∀ now, validateJournal journal (expectedJournal input now) = pure () := by
  intro r
  have unused : Unused ⟨⟨none, none, []⟩, none⟩ := rfl
  have run : Run (step sampleKaspa) Unused r.1 r.2 := Run.of_execute unused (submittedSignals 5 5)
  have inOrder : ClockInOrder r.1 :=
    @clockInOrder_of_checkClock [] _ (by decide)
  have held : r.2.world.journal =
      some (startedJournal (expectedJournal sampleBroadcast 5) 5) := by rfl
  obtain ⟨input, -, validates⟩ := journal_resumable sampleKaspa run inOrder _ held
  exact ⟨by rfl, _, input, held, rfl, validates⟩

/-- The clock steps back by a second between the creation of the journal and the submission: the
transaction is sent, and the journal is refused from then on. -/
theorem journal_stranded :
    let r := execute (step sampleKaspa) (submittedSignals 5 4) ⟨⟨none, none, []⟩, none⟩
    Run (step sampleKaspa) Unused r.1 r.2 ∧ r.2.world.submissions.length = 1 ∧
      ∃ journal, r.2.world.journal = some journal ∧
        ∀ input now, validateJournal journal (expectedJournal input now) =
          throw .journalBinding := by
  intro r
  have unused : Unused ⟨⟨none, none, []⟩, none⟩ := rfl
  refine ⟨Run.of_execute unused (submittedSignals 5 4), by rfl,
    startedJournal (expectedJournal sampleBroadcast 5) 4, by rfl, fun input now => ?_⟩
  have refused : isJournalBound (startedJournal (expectedJournal sampleBroadcast 5) 4)
      (expectedJournal input now) = false := by
    simp [isJournalBound, startedJournal, expectedJournal]
  rw [validateJournal, refused]
  rfl

end Prometheus.Deployer
