import Prometheus.Jaeger.ThreatHintReplay.Ledger
import Prometheus.Machine.Clock

/-!
# An accepted hint suppresses its replay

An accepted hint leaves a row that outlives its freshness: a later call prunes it only at a time
past its expiry, and that time becomes the clock, behind which no call is accepted. Until then the
row answers the same wire as a duplicate, also after its job has been delivered.
-/

namespace Prometheus.Jaeger.ThreatHintReplay

open Prometheus.Codec Prometheus.Machine

variable {sha256 : Bytes → Bytes} {file file' : HintLedger} {call : Call}
  {out : Except HintError Answer} {envelope envelope' : CanonicalThreatHint} {wire : Bytes}
  {networkId : Str} {nowSeconds : Int}

/-! ## Wires -/

/-- The identities of a hint can be bound. -/
def Bindable (envelope : CanonicalThreatHint) : Prop :=
  isBindableText envelope.reportNonce = true ∧ isBindableText envelope.threatHash = true

/-- A wire determines when its hint was observed, and the identities `sqlite3` could bind. -/
theorem wire_determines (same : envelope.toWire = envelope'.toWire) :
    envelope.observedAt = envelope'.observedAt ∧
      (Bindable envelope → Bindable envelope' →
        envelope.reportNonce = envelope'.reportNonce ∧ envelope.threatHash = envelope'.threatHash) := by
  have alike : List.Forall₂ Alike envelope.payload envelope'.payload := by
    simp only [CanonicalThreatHint.payload, List.forall₂_cons, List.forall₂_nil_left_iff]
    exact ⟨.int _ _ _, .string _ _ _, .int _ _ _, .string _ _ _, .string _ _ _, .string _ _ _,
      .string _ _ _, .int _ _ _, trivial⟩
  have agree := dumpsOrdered_agree alike same
  simp only [CanonicalThreatHint.payload, List.forall₂_cons, List.forall₂_nil_left_iff, agree_int,
    agree_string] at agree
  obtain ⟨-, threatHash, -, -, -, -, reportNonce, observedAt, -⟩ := agree
  exact ⟨observedAt, fun bindable bindable' =>
    ⟨reportNonce bindable.1 bindable'.1, threatHash bindable.2 bindable'.2⟩⟩

/-! ## What a call does -/

/-- The clock accepts the time. -/
def ClockAccepts (nowSeconds : Int) (file : HintLedger) : Prop :=
  ∃ stored, file.highWaterSeconds = some stored ∧ stored ≤ nowSeconds

theorem advanceTime_ok {u : Unit} :
    advanceTime nowSeconds file = .ok (u, file') ↔
      ClockAccepts nowSeconds file ∧ file' = { file with highWaterSeconds := some nowSeconds } := by
  simp only [advanceTime, Tx.bind_ok, Tx.query_ok, Tx.orRaise_ok, Tx.ensure_ok, Tx.modify_ok,
    decide_eq_true_eq]
  constructor
  · rintro ⟨_, _, ⟨isRow, isFile⟩, stored, _, ⟨isStored, isFile'⟩, _, _, ⟨notEarlier, isFile''⟩, rest⟩
    subst isRow isFile isFile' isFile''
    exact ⟨⟨stored, isStored, notEarlier⟩, rest⟩
  · rintro ⟨⟨stored, isStored, notEarlier⟩, rest⟩
    exact ⟨_, _, ⟨rfl, rfl⟩, stored, _, ⟨isStored, rfl⟩, (), _, ⟨notEarlier, rfl⟩, rest⟩

theorem advanceTime_error {e : HintError} (h : advanceTime nowSeconds file = .error e) :
    e = .ingress ∨ e = .replay := by
  simp only [advanceTime, Tx.bind_error, Tx.query_error, Tx.orRaise_error, Tx.ensure_error,
    Tx.modify_error, false_or] at h
  obtain ⟨_, _, _, ⟨-, rfl⟩ | ⟨_, _, _, ⟨-, rfl⟩ | ⟨_, _, _, impossible⟩⟩⟩ := h
  · exact .inl rfl
  · exact .inr rfl
  · exact impossible.elim

/-- What a committed admission has done: it moved the clock, pruned, and stored a row and a job. -/
structure Admitted (sha256 : Bytes → Bytes) (envelope : CanonicalThreatHint) (wire : Bytes)
    (networkId : Str) (nowSeconds : Int) (file file' : HintLedger) : Prop where
  clock : ClockAccepts nowSeconds file
  advanced : file'.highWaterSeconds = some nowSeconds
  bindable : Bindable envelope
  admission : (prune nowSeconds file).hintAdmissions.insert
    (admissionRow sha256 envelope wire nowSeconds) = some file'.hintAdmissions
  job : (prune nowSeconds file).analyzerOutbox.insert (outboxJob sha256 wire networkId nowSeconds) =
    some file'.analyzerOutbox

theorem admission_ok {u : Unit}
    (h : admission sha256 envelope wire networkId nowSeconds file = .ok (u, file')) :
    Admitted sha256 envelope wire networkId nowSeconds file file' := by
  simp only [admission, insertAdmission, insertJob, Tx.bind_ok, Tx.modify_ok, Tx.ensure_ok,
    Tx.query_ok, Tx.orRaise_ok, Bool.and_eq_true] at h
  obtain ⟨_, _, time, _, _, isPruned, _, _, ⟨_, _, ⟨bindable, isFile⟩, _, _, ⟨isRow, isFile'⟩, _, _,
    ⟨row, isFile''⟩, stored⟩, _, _, ⟨-, same⟩, _, _, ⟨isJob, same'⟩, _, _, ⟨job, same''⟩,
    posted⟩ := h
  obtain ⟨clock, isTime⟩ := advanceTime_ok.mp time
  subst isFile'' isRow isFile' isFile isPruned isTime
  subst same'' isJob same' same stored
  rw [posted]
  exact ⟨clock, rfl, ⟨bindable.1.1.1, bindable.1.1.2⟩, row, job⟩

/-- An `IntegrityError` is raised at a time the clock accepts, for identities that can be bound. -/
theorem admission_integrity
    (h : admission sha256 envelope wire networkId nowSeconds file = .error .integrity) :
    ClockAccepts nowSeconds file ∧ Bindable envelope := by
  simp only [admission, insertAdmission, insertJob, Tx.bind_error, Tx.bind_ok, Tx.modify_ok,
    Tx.modify_error, Tx.ensure_error, Tx.ensure_ok, Tx.query_ok, Tx.query_error, Tx.orRaise_ok,
    Tx.orRaise_error, Bool.and_eq_true, reduceCtorEq, and_false, false_or] at h
  rcases h with raised | ⟨_, _, time, _, _, -, insertion⟩
  · rcases advanceTime_error raised with impossible | impossible <;> cases impossible
  · refine ⟨(advanceTime_ok.mp time).1, ?_⟩
    rcases insertion with ⟨_, _, ⟨bindable, -⟩, -⟩ | ⟨_, _, ⟨_, _, ⟨bindable, -⟩, -⟩, -⟩
    · exact ⟨bindable.1.1.1, bindable.1.1.2⟩
    · exact ⟨bindable.1.1.1, bindable.1.1.2⟩

/-- What a call may do: every refusal but that of a constructor leaves the file alone. -/
inductive Effect (sha256 : Bytes → Bytes) (file : HintLedger) :
    Call → Except HintError Answer → HintLedger → Prop
  | refused {call : Call} (error : HintError) : Effect sha256 file call (.error error) file
  | opened {fault : Option OpenFault} {out : Except HintError Answer} {file' : HintLedger}
      (answered : out = .ok .opened ∨ out = .error .sqlite)
      (admissions : file'.hintAdmissions = file.hintAdmissions)
      (outbox : file'.analyzerOutbox = file.analyzerOutbox)
      (state : file'.highWaterSeconds = some (file.highWaterSeconds.getD 0)) :
      Effect sha256 file (.openLedger fault) out file'
  | admitted {envelope : CanonicalThreatHint} {wire : Bytes} {networkId : Str} {nowSeconds : Int}
      {fault lookupFault : Bool} {file' : HintLedger} (isWire : envelope.toWire = wire)
      (fresh : isFresh envelope nowSeconds = true)
      (committed : Admitted sha256 envelope wire networkId nowSeconds file file') :
      Effect sha256 file (.admitHint envelope wire networkId nowSeconds fault lookupFault)
        (.ok (.admitted .accepted)) file'
  | conflicted {envelope : CanonicalThreatHint} {wire : Bytes} {networkId : Str} {nowSeconds : Int}
      {fault lookupFault : Bool} (isWire : envelope.toWire = wire)
      (fresh : isFresh envelope nowSeconds = true) (clock : ClockAccepts nowSeconds file)
      (bindable : Bindable envelope) :
      Effect sha256 file (.admitHint envelope wire networkId nowSeconds fault lookupFault)
        (.ok (.admitted (conflictStatus sha256 envelope wire file))) file
  | listed {limit : Int} {fault : Bool} {jobs : List OutboxJob}
      (isJobs : pendingJobs limit fault file = .ok jobs) :
      Effect sha256 file (.pendingJobs limit fault) (.ok (.jobs jobs)) file
  | delivered {payloadDigest : Str} {deliveredAt : Int} {fault : Bool} {file' : HintLedger}
      (updated : file'.analyzerOutbox.rows = file.analyzerOutbox.rows.map fun job =>
        if job.payloadDigest = payloadDigest then deliver deliveredAt job else job)
      (admissions : file'.hintAdmissions = file.hintAdmissions)
      (state : file'.highWaterSeconds = file.highWaterSeconds) :
      Effect sha256 file (.markDelivered payloadDigest deliveredAt fault) (.ok .delivered) file'

theorem runTransaction_error {α : Type} {fault : Bool} {body : Tx HintLedger HintError α}
    {e : HintError} (h : runTransaction fault body file = (.error e, file')) :
    file' = file ∧ (body file = .error e ∨ e = .sqlite) := by
  unfold runTransaction at h
  by_cases faulty : fault = true
  · rw [if_pos faulty] at h
    obtain ⟨isError, isFile⟩ := Prod.mk.inj h
    cases isError
    exact ⟨isFile.symm, .inr rfl⟩
  · rw [if_neg faulty] at h
    refine ⟨transact_error h, .inl ?_⟩
    unfold transact at h
    cases ran : body file with
    | ok r =>
      rw [ran] at h
      cases (Prod.mk.inj h).1
    | error e' =>
      rw [ran] at h
      cases (Prod.mk.inj h).1
      rfl

theorem runTransaction_ok {α : Type} {fault : Bool} {body : Tx HintLedger HintError α} {a : α}
    (h : runTransaction fault body file = (.ok a, file')) : body file = .ok (a, file') := by
  unfold runTransaction at h
  by_cases faulty : fault = true
  · rw [if_pos faulty] at h
    cases (Prod.mk.inj h).1
  · rw [if_neg faulty] at h
    exact transact_ok.mp h

theorem admit_effect (sha256 : Bytes → Bytes) (envelope : CanonicalThreatHint) (wire : Bytes)
    (networkId : Str) (nowSeconds : Int) (fault lookupFault : Bool) (file : HintLedger) :
    Effect sha256 file (.admitHint envelope wire networkId nowSeconds fault lookupFault)
      (step sha256 (.admitHint envelope wire networkId nowSeconds fault lookupFault) file).1
      (step sha256 (.admitHint envelope wire networkId nowSeconds fault lookupFault) file).2 := by
  simp only [step, admitHint, answer]
  split
  · exact .refused _
  split
  · exact .refused _
  split
  · exact .refused _
  rename_i isCanonical
  rw [not_or, not_not, not_not] at isCanonical
  obtain ⟨isWire, fresh⟩ := isCanonical
  split
  · rename_i committed
    exact .admitted isWire fresh (admission_ok (runTransaction_ok committed))
  · rename_i raised
    obtain ⟨rfl, body | impossible⟩ := runTransaction_error raised
    · split
      · exact .refused _
      · obtain ⟨clock, bindable⟩ := admission_integrity body
        exact .conflicted isWire fresh clock bindable
    · cases impossible
  · rename_i raised
    obtain ⟨rfl, -⟩ := runTransaction_error raised
    exact .refused _

theorem markDelivered_effect (sha256 : Bytes → Bytes) (payloadDigest : Str) (deliveredAt : Int)
    (fault : Bool) (file : HintLedger) :
    Effect sha256 file (.markDelivered payloadDigest deliveredAt fault)
      (step sha256 (.markDelivered payloadDigest deliveredAt fault) file).1
      (step sha256 (.markDelivered payloadDigest deliveredAt fault) file).2 := by
  simp only [step, markDelivered, answer]
  split
  · exact .refused _
  split
  · exact .refused _
  generalize outcome : runTransaction fault _ file = result
  obtain ⟨out, file'⟩ := result
  cases out with
  | error e =>
    obtain ⟨rfl, -⟩ := runTransaction_error outcome
    exact .refused e
  | ok u =>
    have committed := runTransaction_ok outcome
    simp only [Tx.bind_ok, Tx.query_ok, Tx.orRaise_ok, Tx.modify_ok, Tx.ensure_ok] at committed
    obtain ⟨_, _, ⟨-, same⟩, _, _, ⟨isUpdate, same'⟩, _, _, ⟨updated, same''⟩, _, _, stored, -,
      isFile⟩ := committed
    subst same'' isUpdate same' same stored isFile
    exact .delivered (by simpa using Table.update_eq_some updated) rfl rfl

theorem step_effect (sha256 : Bytes → Bytes) (call : Call) (file : HintLedger) :
    Effect sha256 file call (step sha256 call file).1 (step sha256 call file).2 := by
  cases call with
  | openLedger fault =>
    simp only [step, openLedger]
    split
    · exact .refused _
    · split
      · exact .refused _
      · exact .opened (.inr rfl) rfl rfl rfl
      · exact .opened (.inl rfl) rfl rfl rfl
  | admitHint envelope wire networkId nowSeconds fault lookupFault =>
    exact admit_effect sha256 envelope wire networkId nowSeconds fault lookupFault file
  | pendingJobs limit fault =>
    simp only [step, answer]
    cases isJobs : pendingJobs limit fault file with
    | error e => exact .refused e
    | ok jobs => exact .listed isJobs
  | markDelivered payloadDigest deliveredAt fault =>
    exact markDelivered_effect sha256 payloadDigest deliveredAt fault file

/-! ## The clock -/

theorem Effect.clock (effect : Effect sha256 file call out file') :
    ClockLe file.highWaterSeconds file'.highWaterSeconds := by
  cases effect with
  | opened answered admissions outbox state =>
    rw [state]
    exact ClockLe.getD _ _
  | admitted isWire fresh committed => exact ClockLe.of_advanced committed.clock committed.advanced
  | delivered updated admissions state =>
    rw [state]
    exact ClockLe.refl _
  | refused | conflicted | listed => exact ClockLe.refl _

/-- The clock has not gone back since an event. -/
def ClockMark (e : HintEvent) (file : HintLedger) : Prop :=
  ClockLe e.post.highWaterSeconds file.highWaterSeconds

/-! ## Stored hints -/

/-- Each row is that of a hint with its wire, whose identities could be bound. -/
def RowsCanonical (sha256 : Bytes → Bytes) (file : HintLedger) : Prop :=
  ∀ row ∈ file.hintAdmissions.rows, ∃ envelope, Bindable envelope ∧ envelope.toWire = row.wire ∧
    row = admissionRow sha256 envelope row.wire row.admittedAt

theorem rowsCanonical_of_unused (unused : Unused file) : RowsCanonical sha256 file := by
  intro row stored
  rw [unused.1] at stored
  cases stored

theorem mem_prune {row : HintAdmission}
    (stored : row ∈ (prune nowSeconds file).hintAdmissions.rows) :
    row ∈ file.hintAdmissions.rows :=
  (Table.mem_delete.mp stored).1

theorem Effect.rowsCanonical (effect : Effect sha256 file call out file')
    (canonical : RowsCanonical sha256 file) : RowsCanonical sha256 file' := by
  intro row stored
  cases effect with
  | refused | conflicted | listed => exact canonical row stored
  | opened answered admissions outbox state => exact canonical row (admissions ▸ stored)
  | delivered updated admissions state => exact canonical row (admissions ▸ stored)
  | @admitted envelope wire networkId nowSeconds _ _ _ isWire fresh committed =>
    rw [(Table.insert_eq_some.mp committed.admission).2.2] at stored
    rcases List.mem_append.mp stored with old | new
    · exact canonical row (mem_prune old)
    · rw [List.mem_singleton.mp new]
      exact ⟨envelope, committed.bindable, isWire, rfl⟩

/-- The file holds a row with the wire. -/
def Stored (wire : Bytes) (file : HintLedger) : Prop :=
  ∃ row ∈ file.hintAdmissions.rows, row.wire = wire

theorem admissionSchema_conflict {a b : HintAdmission} :
    admissionSchema.conflict a b = false ↔
      a.reportNonce ≠ b.reportNonce ∧ a.threatHash ≠ b.threatHash ∧
        a.payloadDigest ≠ b.payloadDigest := by
  simp only [admissionSchema, Bool.or_eq_false_iff, decide_eq_false_iff_not, and_assoc, ne_eq]

/-- An unexpired row survives the `DELETE` statements. -/
theorem mem_prune_of_unexpired {row : HintAdmission} (stored : row ∈ file.hintAdmissions.rows)
    (unexpired : nowSeconds ≤ row.expiresAt) :
    row ∈ (prune nowSeconds file).hintAdmissions.rows := by
  refine Table.mem_delete.mpr ⟨stored, ?_⟩
  rw [decide_eq_false (not_lt.mpr unexpired), Bool.false_and]

theorem isFresh_iff : isFresh envelope nowSeconds = true ↔
    (isTimestamp nowSeconds = true ∧ envelope.observedAt ≤ nowSeconds + maxFutureSkewSeconds) ∧
      nowSeconds ≤ envelope.observedAt + maxHintAgeSeconds := by
  simp only [isFresh, Bool.and_eq_true, decide_eq_true_eq]

/-- A hint that is accepted shares no identity with an unexpired row. -/
theorem Admitted.apart (committed : Admitted sha256 envelope wire networkId nowSeconds file file')
    {row : HintAdmission} (stored : row ∈ file.hintAdmissions.rows)
    (unexpired : nowSeconds ≤ row.expiresAt) :
    row.reportNonce ≠ envelope.reportNonce ∧ row.threatHash ≠ envelope.threatHash ∧
      row.payloadDigest ≠ hex (sha256 wire) :=
  admissionSchema_conflict.mp ((Table.insert_eq_some.mp committed.admission).2.1 row
    (mem_prune_of_unexpired stored unexpired))

/-- The row of the same wire is the only one the lookup can find. -/
theorem conflictStatus_stored (canonical : RowsCanonical sha256 file) (bindable : Bindable envelope)
    (isWire : envelope.toWire = wire) (stored : Stored wire file) :
    conflictStatus sha256 envelope wire file = .duplicate := by
  obtain ⟨row, isRow, rfl⟩ := stored
  obtain ⟨envelope', bindable', isWire', isAdmission⟩ := canonical row isRow
  obtain ⟨-, identities⟩ := wire_determines (isWire'.trans isWire.symm)
  obtain ⟨sameNonce, sameHash⟩ := identities bindable' bindable
  have isNonce : row.reportNonce = envelope.reportNonce := by
    rw [isAdmission]
    exact sameNonce
  have isHash : row.threatHash = envelope.threatHash := by
    rw [isAdmission]
    exact sameHash
  have isDigest : row.payloadDigest = hex (sha256 row.wire) := by
    rw [isAdmission]
    rfl
  have found : conflictingRow sha256 envelope row.wire file = some row := by
    cases isFound : conflictingRow sha256 envelope row.wire file with
    | none =>
      have notFound := Table.select_none.mp isFound row isRow
      simp [isNonce] at notFound
    | some other =>
      obtain ⟨isOther, shares⟩ := Table.select_some isFound
      rw [← isNonce, ← isHash, ← isDigest] at shares
      rw [file.hintAdmissions.eq_of_conflict isOther isRow shares]
  rw [conflictStatus, found]
  exact if_pos ⟨isDigest, rfl⟩

theorem stored_of_duplicate (duplicate : conflictStatus sha256 envelope wire file = .duplicate) :
    Stored wire file := by
  unfold conflictStatus at duplicate
  split at duplicate
  · rename_i row isFound
    split at duplicate
    · rename_i same
      exact ⟨row, (Table.select_some isFound).1, same.2⟩
    · cases duplicate
  · cases duplicate

theorem conflictStatus_ne_accepted : conflictStatus sha256 envelope wire file ≠ .accepted := by
  unfold conflictStatus
  split
  · split <;> simp
  · simp

/-! ## Admissions of a run -/

/-- What a call of `admit` was given. -/
structure Hint where
  envelope : CanonicalThreatHint
  wire : Bytes
  networkId : Str
  nowSeconds : Int

/-- The hint and the status of a call of `admit` that answered. -/
def admissionOf (e : HintEvent) : Option (Hint × AdmissionStatus) :=
  match e.input, e.output with
  | .admitHint envelope wire networkId nowSeconds _ _, .ok (.admitted status) =>
    some (⟨envelope, wire, networkId, nowSeconds⟩, status)
  | _, _ => none

/-- What an answer of `admit` has established. -/
structure Answered (sha256 : Bytes → Bytes) (hint : Hint) (status : AdmissionStatus)
    (file file' : HintLedger) : Prop where
  isWire : hint.envelope.toWire = hint.wire
  fresh : isFresh hint.envelope hint.nowSeconds = true
  clock : ClockAccepts hint.nowSeconds file
  bindable : Bindable hint.envelope
  outcome : (status = .accepted ∧
      Admitted sha256 hint.envelope hint.wire hint.networkId hint.nowSeconds file file') ∨
    status = conflictStatus sha256 hint.envelope hint.wire file ∧ file' = file

theorem Effect.answered (effect : Effect sha256 file call out file') {hint : Hint}
    {status : AdmissionStatus} (admission : admissionOf ⟨file, call, out, file'⟩ = some (hint, status)) :
    Answered sha256 hint status file file' := by
  cases effect with
  | admitted isWire fresh committed =>
    obtain ⟨rfl, rfl⟩ := Prod.mk.inj (Option.some.inj admission)
    exact ⟨isWire, fresh, committed.clock, committed.bindable, .inl ⟨rfl, committed⟩⟩
  | conflicted isWire fresh clock bindable =>
    obtain ⟨rfl, rfl⟩ := Prod.mk.inj (Option.some.inj admission)
    exact ⟨isWire, fresh, clock, bindable, .inr ⟨rfl, rfl⟩⟩
  | refused error => simp [admissionOf] at admission
  | opened answered => rcases answered with rfl | rfl <;> cases admission
  | listed | delivered => cases admission

/-- An answer is `duplicate` exactly when the wire is stored. -/
theorem Answered.duplicate_iff {hint : Hint} {status : AdmissionStatus}
    (answered : Answered sha256 hint status file file') (canonical : RowsCanonical sha256 file) :
    status = .duplicate ↔ Stored hint.wire file := by
  constructor
  · intro duplicate
    rcases answered.outcome with ⟨accepted, -⟩ | ⟨isStatus, -⟩
    · rw [accepted] at duplicate
      cases duplicate
    · exact stored_of_duplicate (isStatus.symm.trans duplicate)
  · intro stored
    rcases answered.outcome with ⟨-, committed⟩ | ⟨isStatus, -⟩
    · -- a stored wire is of the same time, so its row is unexpired and its digest taken
      obtain ⟨row, isRow, sameWire⟩ := stored
      obtain ⟨envelope', -, isWire', isAdmission⟩ := canonical row isRow
      have sameTime := (wire_determines (isWire'.trans (sameWire.trans answered.isWire.symm))).1
      have expires : row.expiresAt = hint.envelope.observedAt + maxHintAgeSeconds := by
        rw [isAdmission, ← sameTime]
        rfl
      have digest : row.payloadDigest = hex (sha256 hint.wire) := by
        rw [isAdmission, sameWire]
        rfl
      have unexpired := (isFresh_iff.mp answered.fresh).2
      exact absurd digest (committed.apart isRow (expires ▸ unexpired)).2.2
    · rw [isStatus]
      exact conflictStatus_stored canonical answered.bindable answered.isWire stored

/-- The file still holds the row of an accepted hint, or its clock is past the hint's expiry. -/
def Kept (sha256 : Bytes → Bytes) (hint : Hint) (file : HintLedger) : Prop :=
  admissionRow sha256 hint.envelope hint.wire hint.nowSeconds ∈ file.hintAdmissions.rows ∨
    ∃ t, file.highWaterSeconds = some t ∧ hint.envelope.observedAt + maxHintAgeSeconds < t

theorem Kept.step {hint : Hint} (kept : Kept sha256 hint file)
    (effect : Effect sha256 file call out file') : Kept sha256 hint file' := by
  rcases kept with stored | ⟨t, isClock, expired⟩
  · cases effect with
    | refused | conflicted | listed => exact .inl stored
    | opened answered admissions outbox state => exact .inl (admissions ▸ stored)
    | delivered updated admissions state => exact .inl (admissions ▸ stored)
    | @admitted _ _ _ nowSeconds _ _ _ isWire fresh committed =>
      by_cases expired : hint.envelope.observedAt + maxHintAgeSeconds < nowSeconds
      · exact .inr ⟨nowSeconds, committed.advanced, expired⟩
      · left
        rw [(Table.insert_eq_some.mp committed.admission).2.2]
        exact List.mem_append_left _ (mem_prune_of_unexpired stored (not_lt.mp expired))
  · obtain ⟨t', isLater, later⟩ := effect.clock t isClock
    exact .inr ⟨t', isLater, lt_of_lt_of_le expired later⟩

/-- What an accepted hint leaves in the file. -/
def AcceptedMark (sha256 : Bytes → Bytes) (e : HintEvent) (file : HintLedger) : Prop :=
  ∀ hint, admissionOf e = some (hint, .accepted) →
    hint.envelope.toWire = hint.wire ∧ Kept sha256 hint file

theorem acceptedMark_left (file : HintLedger) (call : Call) :
    AcceptedMark sha256 (callEvent (step sha256) file call) (step sha256 call file).2 := by
  intro hint accepted
  have answered := (step_effect sha256 call file).answered accepted
  refine ⟨answered.isWire, .inl ?_⟩
  rcases answered.outcome with ⟨-, committed⟩ | ⟨isStatus, -⟩
  · rw [(Table.insert_eq_some.mp committed.admission).2.2]
    exact List.mem_append_right _ List.mem_cons_self
  · exact absurd isStatus.symm conflictStatus_ne_accepted

theorem acceptedMark_kept (e : HintEvent) (file : HintLedger) (call : Call)
    (mark : AcceptedMark sha256 e file) : AcceptedMark sha256 e (step sha256 call file).2 := by
  intro hint accepted
  obtain ⟨isWire, kept⟩ := mark hint accepted
  exact ⟨isWire, kept.step (step_effect sha256 call file)⟩

/-- After a hint has been accepted, an answer to its wire is `duplicate`, and until its expiry no
hint that shares an identity with it is accepted. -/
def Suppresses (sha256 : Bytes → Bytes) (e e' : HintEvent) : Prop :=
  ∀ hint hint' status, admissionOf e = some (hint, .accepted) →
    admissionOf e' = some (hint', status) →
      (hint'.wire = hint.wire → status = .duplicate) ∧
      (hint'.nowSeconds ≤ hint.envelope.observedAt + maxHintAgeSeconds →
        (hint'.envelope.reportNonce = hint.envelope.reportNonce ∨
          hint'.envelope.threatHash = hint.envelope.threatHash ∨
          sha256 hint'.wire = sha256 hint.wire) → status ≠ .accepted)

theorem acceptedMark_found (e : HintEvent) (file : HintLedger) (call : Call)
    (canonical : RowsCanonical sha256 file) (mark : AcceptedMark sha256 e file) :
    Suppresses sha256 e (callEvent (step sha256) file call) := by
  intro hint hint' status accepted answer
  obtain ⟨isWire, kept⟩ := mark hint accepted
  have answered := (step_effect sha256 call file).answered answer
  -- no later time that the clock accepts is up to the expiry once the row is gone
  have isStored (early : hint'.nowSeconds ≤ hint.envelope.observedAt + maxHintAgeSeconds) :
      admissionRow sha256 hint.envelope hint.wire hint.nowSeconds ∈ file.hintAdmissions.rows := by
    rcases kept with stored | ⟨t, isClock, expired⟩
    · exact stored
    · obtain ⟨stored, isTime, notEarlier⟩ := answered.clock
      have same : stored = t := Option.some.inj (isTime.symm.trans isClock)
      omega
  constructor
  · intro sameWire
    have sameTime := (wire_determines (answered.isWire.trans (sameWire.trans isWire.symm))).1
    have early := (isFresh_iff.mp answered.fresh).2
    rw [sameTime] at early
    exact (answered.duplicate_iff canonical).mpr ⟨_, isStored early, sameWire.symm⟩
  · intro early shares isAccepted
    rcases answered.outcome with ⟨-, committed⟩ | ⟨isStatus, -⟩
    · obtain ⟨nonce, hash, digest⟩ := committed.apart (isStored early) early
      rcases shares with same | same | same
      · exact nonce same.symm
      · exact hash same.symm
      · exact digest (congrArg hex same.symm)
    · exact conflictStatus_ne_accepted (isStatus.symm.trans isAccepted)

end Prometheus.Jaeger.ThreatHintReplay
