import Prometheus.Jaeger.ThreatHintReplay.Suppression

/-!
# The laws of the replay ledger

No wire is accepted twice, an answer is `duplicate` exactly for a stored wire, the clock never goes
back, and an accepted hint has its job in the outbox until the analyzer's delivery is marked.
-/

namespace Prometheus.Jaeger.ThreatHintReplay

open Prometheus.Codec Prometheus.Machine

variable {sha256 : Bytes → Bytes} {file file' : HintLedger} {call : Call}
  {out : Except HintError Answer}

/-! ## Jobs -/

theorem mem_undelivered {job : OutboxJob} :
    job ∈ undelivered file ↔ job ∈ file.analyzerOutbox.rows ∧ job.deliveredAt = none := by
  simp [undelivered, List.mem_insertionSort]

/-- A batch that is not cut short lists every undelivered job. -/
theorem pendingJobs_all {limit : Int} {fault : Bool} {jobs : List OutboxJob}
    (listed : pendingJobs limit fault file = .ok jobs)
    (whole : (undelivered file).length ≤ limit.toNat) : jobs = undelivered file := by
  unfold pendingJobs at listed
  split at listed
  · cases listed
  split at listed
  · cases listed
  · rw [← Except.ok.inj listed, List.take_of_length_le whole]

/-- The call marked the delivery of a job. -/
def Delivers (payloadDigest : Str) (e : HintEvent) : Prop :=
  ∃ deliveredAt fault, e.input = .markDelivered payloadDigest deliveredAt fault ∧
    e.output = .ok .delivered

/-- An undelivered job stays as it is unless the call marks its delivery. -/
theorem Effect.job (effect : Effect sha256 file call out file') {job : OutboxJob}
    (posted : job ∈ file.analyzerOutbox.rows) (pending : job.deliveredAt = none) :
    job ∈ file'.analyzerOutbox.rows ∨ Delivers job.payloadDigest ⟨file, call, out, file'⟩ := by
  cases effect with
  | refused | conflicted | listed => exact .inl posted
  | opened answered admissions outbox state => exact .inl (outbox ▸ posted)
  | admitted isWire fresh committed =>
    left
    rw [(Table.insert_eq_some.mp committed.job).2.2]
    refine List.mem_append_left _ (Table.mem_delete.mpr ⟨posted, ?_⟩)
    rw [pending, Option.isSome_none, Bool.false_and]
  | @delivered payloadDigest deliveredAt fault _ updated admissions state =>
    by_cases same : job.payloadDigest = payloadDigest
    · exact .inr ⟨deliveredAt, fault, by rw [same], rfl⟩
    · left
      rw [updated]
      exact List.mem_map.mpr ⟨job, posted, if_neg same⟩

/-- The job of a hint, as `admit` posts it. -/
def jobOf (sha256 : Bytes → Bytes) (hint : Hint) : OutboxJob :=
  outboxJob sha256 hint.wire hint.networkId hint.nowSeconds

theorem Effect.posted (effect : Effect sha256 file call out file') {hint : Hint}
    (accepted : admissionOf ⟨file, call, out, file'⟩ = some (hint, .accepted)) :
    jobOf sha256 hint ∈ file'.analyzerOutbox.rows := by
  rcases (effect.answered accepted).outcome with ⟨-, committed⟩ | ⟨isStatus, -⟩
  · rw [(Table.insert_eq_some.mp committed.job).2.2]
    exact List.mem_append_right _ List.mem_cons_self
  · exact absurd isStatus.symm conflictStatus_ne_accepted

/-- The job of an accepted hint is undelivered until a later call marks its delivery. -/
theorem pending_until_delivered {h₁ h₂ : List HintEvent} {e : HintEvent}
    (run : Run (step sha256) Unused (h₁ ++ e :: h₂) file) {hint : Hint}
    (accepted : admissionOf e = some (hint, .accepted)) :
    jobOf sha256 hint ∈ undelivered file ∨
      ∃ e' ∈ h₂, Delivers (jobOf sha256 hint).payloadDigest e' := by
  have isStep := run.before.2
  have pending : jobOf sha256 hint ∈ file.analyzerOutbox.rows ∨
      ∃ e' ∈ h₂, Delivers (jobOf sha256 hint).payloadDigest e' := by
    refine run.since (fun _ => True) (fun _ _ => trivial) (fun _ _ _ => trivial)
      (fun later s => jobOf sha256 hint ∈ s.analyzerOutbox.rows ∨
        ∃ e' ∈ later, Delivers (jobOf sha256 hint).payloadDigest e') ?_ ?_
    · intro _
      rw [isStep] at accepted ⊢
      exact .inl ((step_effect sha256 e.input e.pre).posted accepted)
    · intro later s i _ soFar
      rcases soFar with posted | ⟨e', isLater, delivers⟩
      · rcases (step_effect sha256 i s).job posted rfl with posted | delivers
        · exact .inl posted
        · exact .inr ⟨_, List.mem_append_right _ List.mem_cons_self, delivers⟩
      · exact .inr ⟨e', List.mem_append_left _ isLater, delivers⟩
  rcases pending with posted | delivers
  · exact .inl (mem_undelivered.mpr ⟨posted, rfl⟩)
  · exact .inr delivers

/-! ## The laws -/

/-- Two hints that were accepted have different wires, and different digests unless the wires are a
collision. -/
def AcceptedApart (sha256 : Bytes → Bytes) (e e' : HintEvent) : Prop :=
  ∀ hint hint', admissionOf e = some (hint, .accepted) → admissionOf e' = some (hint', .accepted) →
    hint'.wire ≠ hint.wire ∧
      (NoCollision sha256 hint'.wire hint.wire → sha256 hint'.wire ≠ sha256 hint.wire)

theorem Suppresses.acceptedApart {e e' : HintEvent} (suppresses : Suppresses sha256 e e') :
    AcceptedApart sha256 e e' := by
  intro hint hint' accepted accepted'
  have apart : hint'.wire ≠ hint.wire := by
    intro same
    have duplicate := (suppresses hint hint' .accepted accepted accepted').1 same
    cases duplicate
  exact ⟨apart, fun noCollision same => apart (noCollision same)⟩

/-- In every run no wire is accepted twice, the clock never goes back, an answer is `duplicate`
exactly when its wire is stored, the job of an accepted hint stays undelivered with its wire until
its delivery is marked, and an accepted hint suppresses its replay, delivered or not. -/
theorem hint_replay_laws {h : List HintEvent} (run : Run (step sha256) Unused h file) :
    h.Pairwise (AcceptedApart sha256) ∧
    (∀ e ∈ h, ClockLe e.pre.highWaterSeconds e.post.highWaterSeconds) ∧
    (h.Pairwise fun e e' => ClockLe e.post.highWaterSeconds e'.pre.highWaterSeconds) ∧
    (∀ e ∈ h, ∀ hint status, admissionOf e = some (hint, status) →
      (status = .duplicate ↔ Stored hint.wire e.pre)) ∧
    (∀ h₁ e h₂, h = h₁ ++ e :: h₂ → ∀ hint, admissionOf e = some (hint, .accepted) →
      jobOf sha256 hint ∈ undelivered file ∨
        ∃ e' ∈ h₂, Delivers (jobOf sha256 hint).payloadDigest e') ∧
    h.Pairwise (Suppresses sha256) := by
  have start : ∀ s, Unused s → RowsCanonical sha256 s := fun s => rowsCanonical_of_unused
  have kept : ∀ s i, RowsCanonical sha256 s → RowsCanonical sha256 (step sha256 i s).2 :=
    fun s i canonical => (step_effect sha256 i s).rowsCanonical canonical
  have suppresses : h.Pairwise (Suppresses sha256) :=
    run.pairwise (RowsCanonical sha256) start kept (fun s i _ => acceptedMark_left s i)
      (fun e s i _ => acceptedMark_kept e s i) fun e s i => acceptedMark_found e s i
  refine ⟨suppresses.imp fun s => s.acceptedApart, ?_, ?_, ?_, ?_, suppresses⟩
  · exact run.events (RowsCanonical sha256) start kept fun s i _ => (step_effect sha256 i s).clock
  · exact run.pairwise (RowsCanonical sha256) start kept (fun s i _ => ClockLe.refl _)
      (fun e s i _ (mark : ClockMark e s) => mark.trans (step_effect sha256 i s).clock)
      fun e s i _ mark => mark
  · exact run.events (RowsCanonical sha256) start kept fun s i canonical hint status answer =>
      ((step_effect sha256 i s).answered answer).duplicate_iff canonical
  · rintro h₁ e h₂ rfl hint accepted
    exact pending_until_delivered run accepted

/-! ### A hint and its replays -/

def recordedHint : CanonicalThreatHint where
  schemaVersion := 1
  threatHash := List.replicate 64 99
  confidenceBps := 9000
  indicatorType := str "file_hash"
  proofSystem := str "groth16_kip16_v1"
  proof := str "aa"
  reportNonce := List.replicate 64 101
  observedAt := 1000

/-- The digest of the hint's wire. -/
def recordedDigest : Str :=
  hex (toBytesBig 32 0x9ebf5151bfe0b05d4c1dc475a3cd53310483459af5d7a70403b3502fc94e2ed0)

/-- `hashlib.sha256` on the hint's wire. -/
def recordedSha256 (input : Bytes) : Bytes :=
  if input = recordedHint.toWire then fromHex recordedDigest else []

def admitRecorded (nowSeconds : Int) : Call :=
  .admitHint recordedHint recordedHint.toWire (str "testnet-10") nowSeconds false false

/-- The hint is accepted, tried again, delivered, and tried again until and after it expires. -/
def replayCalls : List Call :=
  [.openLedger none, admitRecorded 1000, admitRecorded 1001, .pendingJobs 16 false,
    .markDelivered recordedDigest 1002 false, .openLedger none, admitRecorded 1300,
    admitRecorded 1301, admitRecorded 999]

theorem hint_replay_laws_replayed :
    let run := execute (step recordedSha256) replayCalls HintLedger.fresh
    run.1.map (fun e => (e.output.toOption, e.post.analyzerOutbox.count)) =
      [(some .opened, 0), (some (.admitted .accepted), 1), (some (.admitted .duplicate), 1),
        (some (.jobs [⟨recordedDigest, recordedHint.toWire, str "testnet-10", 1000, none⟩]), 1),
        (some .delivered, 1), (some .opened, 1), (some (.admitted .duplicate), 1), (none, 1),
        (none, 1)] ∧
      run.1.Pairwise (Suppresses recordedSha256) := by
  have unused : Unused HintLedger.fresh := ⟨rfl, rfl⟩
  refine ⟨by decide +kernel, ?_⟩
  exact (hint_replay_laws (Run.of_execute unused replayCalls)).2.2.2.2.2

/-- At a time behind the clock the ledger raises for a stored wire and answers nothing. -/
theorem behind_the_clock_no_answer :
    ¬ ∀ (sha256 : Bytes → Bytes) (h : List HintEvent) (file : HintLedger),
      Run (step sha256) Unused h file →
      ∀ e ∈ h, ∀ envelope wire networkId nowSeconds,
        e.input = .admitHint envelope wire networkId nowSeconds false false →
          (e.output = .ok (.admitted .duplicate) ↔ Stored wire e.pre) := by
  intro claim
  let calls := [.openLedger none, admitRecorded 1000, admitRecorded 999]
  have unused : Unused HintLedger.fresh := ⟨rfl, rfl⟩
  have facts : (execute (step recordedSha256) calls HintLedger.fresh).1.map
      (fun e => (e.output, e.pre.hintAdmissions.rows.map HintAdmission.wire)) =
      [(.ok .opened, []), (.ok (.admitted .accepted), []),
        (.error .replay, [recordedHint.toWire])] := by
    decide +kernel
  have events := List.map_eq_cons_iff.mp facts
  obtain ⟨opening, _, isCalls, -, rest⟩ := events
  obtain ⟨acceptance, _, rfl, -, rest⟩ := List.map_eq_cons_iff.mp rest
  obtain ⟨replay, _, rfl, isReplay, -⟩ := List.map_eq_cons_iff.mp rest
  obtain ⟨raised, stored⟩ := Prod.mk.inj isReplay
  have isCall : replay.input = admitRecorded 999 := by
    have inputs : (execute (step recordedSha256) calls HintLedger.fresh).1.map Event.input =
        calls := rfl
    rw [isCalls] at inputs
    exact (List.cons.inj (List.cons.inj (List.cons.inj inputs).2).2).1
  have answers := claim recordedSha256 _ _ (Run.of_execute unused calls) replay
    (by rw [isCalls]; simp) _ _ _ _ isCall
  have isStored : Stored recordedHint.toWire replay.pre :=
    List.mem_map.mp (by rw [stored]; exact List.mem_cons_self)
  rw [answers.mpr isStored] at raised
  cases raised

end Prometheus.Jaeger.ThreatHintReplay
