import Prometheus.Jaeger.ApprovalLedger.Lease

/-!
# Results and retries

What an accepted completion proves about every later completion call of the same run, and the
theorem that collects the lease and completion rules of the outbox.
-/

namespace Prometheus.Jaeger.ApprovalLedger

open Prometheus.Codec Prometheus.Machine

variable {codec : WireCodec} {db db' : Db} {call : Call} {out : Except ConsumptionError Answer}

/-- The checks `complete` makes before it opens a transaction. -/
structure CompletionChecked (codec : WireCodec) (arguments : CompleteArguments) : Prop where
  approvalId : isFixedBytes arguments.approvalId = true
  leaseToken : isFixedBytes arguments.leaseToken = true
  completionToken : isFixedBytes arguments.completionToken = true
  inputIdentity : isFixedBytes arguments.inputIdentity = true
  currentTime : isTimestamp arguments.currentTime = true
  wire : validateAnalysisResultWire codec arguments.resultWire arguments.approvalId
    arguments.inputIdentity none none = true

theorem completionChecked_of_accepted (outbox : OutboxObject) {arguments : CompleteArguments}
    (io : Io) (db : Db)
    (returned : accepted (step codec (.complete outbox (some arguments) io) db).1 = true) :
    CompletionChecked codec arguments := by
  simp only [step, answer, complete] at returned
  split at returned
  · rename_i checks
    exact ⟨checks.1, checks.2.1, checks.2.2.1, checks.2.2.2.1, checks.2.2.2.2.1, checks.2.2.2.2.2⟩
  · simp [accepted, Except.map, Except.isOk, Except.toBool] at returned

/-- The stored row is the result these arguments recorded, and the receipt is its receipt. -/
structure Receipted (codec : WireCodec) (arguments : CompleteArguments)
    (completion : AnalysisCompletion) (row : ResultRow) : Prop where
  approval : row.approvalId = arguments.approvalId
  wire : row.resultWire = arguments.resultWire
  identity : row.inputIdentity = arguments.inputIdentity
  tokens : row.completionTokenDigest =
    completionTokenDigest codec arguments.completionToken arguments.leaseToken
  valid : validateCompletionRetryRow codec row arguments.approvalId = .ok ()
  completion : completion = ⟨arguments.approvalId, row.resultDigest, arguments.inputIdentity,
    row.completedAt, row.retentionDeadline⟩

/-- The row a first completion stores passes the checks of a retry. -/
theorem Recorded.valid {networkId : Str} {arguments : CompleteArguments} {row : OutboxRow}
    {leaseExpiresAt : Int} {completion : AnalysisCompletion}
    (recorded : Recorded codec networkId arguments row leaseExpiresAt completion db db')
    (checked : CompletionChecked codec arguments) :
    validateCompletionRetryRow codec
      (arguments.resultRow codec completion.resultDigest row.retentionDeadline)
      arguments.approvalId = .ok () := by
  have digest := recorded.digest
  unfold analysisResultRecordDigest at digest
  split at digest
  · rename_i conditions
    obtain ⟨nonempty, short, completedAt, deadline, ordered⟩ := conditions
    have stored := (Table.insert_eq_some.mp recorded.inserted).1
    simp only [resultSchema, CompleteArguments.resultRow, Bool.and_eq_true] at stored
    obtain ⟨⟨⟨⟨⟨⟨⟨-, -⟩, fixedDigest⟩, -⟩, fixedTokens⟩, -⟩, -⟩, -⟩ := stored
    have recomputed := recorded.digest
    simp only [validateCompletionRetryRow, CompleteArguments.resultRow, validateStoredResult,
      checkResultDigest, recomputed, checked.wire, checked.inputIdentity, fixedDigest, fixedTokens,
      completedAt, deadline, nonempty, short, ordered, decide_true, Bool.and_self, if_true]
    exact if_pos rfl
  · cases digest

/-- A completion that returned left, or found, the result its receipt is about. -/
theorem Effect.receipted {outbox : OutboxObject} {arguments : CompleteArguments} {io : Io}
    (effect : Effect codec db (.complete outbox (some arguments) io) out db')
    (checked : CompletionChecked codec arguments) {completion : AnalysisCompletion}
    (returned : out = .ok (.completed completion)) :
    db'.version = .governed ∧ NoPending arguments.approvalId db' ∧
      ∃ row ∈ db'.observableAnalysisResults.rows, Receipted codec arguments completion row := by
  cases effect with
  | raised e => cases returned
  | @retried _ _ _ row _ _ retried =>
    cases returned
    rw [retried.pruned]
    exact ⟨retried.governed, retried.absent, row,
      mem_prunedResults.mpr ⟨retried.stored, retried.retained⟩, retried.approval, retried.wire,
      retried.identity, retried.tokens, retried.valid, retried.completion⟩
  | recorded recorded =>
    cases returned
    refine ⟨?_, fun r pending => ?_, _, (Table.insert_eq_some.mp recorded.inserted).2.2 ▸
      List.mem_append_right _ (List.mem_singleton_self _), rfl, rfl, rfl, rfl,
      recorded.valid checked, recorded.completion⟩
    · rw [recorded.frame]
      exact recorded.governed
    · rw [recorded.outbox] at pending
      simpa using (List.mem_filter.mp pending).2

/-- A governed file stays governed. -/
theorem Effect.version (effect : Effect codec db call out db') (governed : db.version = .governed) :
    db'.version = .governed := by
  cases effect with
  | raised e => exact governed
  | opened opened => exact opened.version governed
  | consumed consumed untouched => exact consumed.version.trans governed
  | governed consumed outbox => exact consumed.version.trans governed
  | unclaimed _ => exact governed
  | leased live leased => rw [leased.frame]; exact governed
  | retried retried => rw [retried.pruned]; exact governed
  | recorded recorded => rw [recorded.frame]; exact governed
  | read _ => exact governed

/-- The state of an approval ever after a completion that left the result `row`. -/
structure Completed (later : List LedgerEvent) (row : ResultRow) (db : Db) : Prop where
  version : db.version = .governed
  consumed : IsConsumed row.approvalId db
  noPending : NoPending row.approvalId db
  only : ∀ other ∈ db.observableAnalysisResults.rows, other.approvalId = row.approvalId → other = row
  retained : row ∈ db.observableAnalysisResults.rows ∨
    ∃ e ∈ later, Passes e.input e.output row.retentionDeadline

theorem Effect.completed (inv : OutboxInv db) (effect : Effect codec db call out db')
    {later : List LedgerEvent} {row : ResultRow} (h : Completed later row db) :
    Completed (later ++ [⟨db, call, out, db'⟩]) row db' where
  version := effect.version h.version
  consumed := h.consumed.kept effect
  noPending := effect.noPending h.consumed h.noPending
  only := by
    intro other stored same
    rcases effect.result_origin other stored with old | ⟨⟨source, pending, isSource⟩, -⟩
    · exact h.only other old same
    · exact absurd (isSource.trans same) (h.noPending source pending)
  retained := by
    rcases h.retained with stored | ⟨e, he, passes⟩
    · rcases effect.result_fate inv row stored with kept | ⟨-, passes⟩
      · exact .inl kept
      · exact .inr ⟨_, List.mem_append_right _ List.mem_cons_self, passes⟩
    · exact .inr ⟨e, List.mem_append_left _ he, passes⟩

/-- The event is a completion call with the given arguments that returned the given receipt. -/
def CompletesWith (e : LedgerEvent) (arguments : CompleteArguments)
    (completion : AnalysisCompletion) : Prop :=
  ∃ outbox io, e.input = .complete outbox (some arguments) io ∧
    e.output = .ok (.completed completion)

theorem completed_since {h₁ h₂ : List LedgerEvent} {e : LedgerEvent}
    (run : Run (step codec) Unused (h₁ ++ e :: h₂) db) {arguments : CompleteArguments}
    {completion : AnalysisCompletion} (completes : CompletesWith e arguments completion) :
    CompletionChecked codec arguments ∧
      ∃ row, Receipted codec arguments completion row ∧ Completed h₂ row db := by
  obtain ⟨outbox, io, isCall, returned⟩ := completes
  have he : e ∈ h₁ ++ e :: h₂ := List.mem_append_right _ List.mem_cons_self
  have effect := event_effect run he
  have isStep := run.steps e he
  have checked : CompletionChecked codec arguments := by
    have sameOut : e.output = (step codec e.input e.pre).1 := congrArg Event.output isStep
    rw [isCall, returned] at sameOut
    exact completionChecked_of_accepted outbox io e.pre (sameOut ▸ rfl)
  rw [isCall] at effect
  obtain ⟨governed, noPending, row, stored, receipted⟩ := effect.receipted checked returned
  refine ⟨checked, row, receipted, ?_⟩
  refine run.since OutboxInv (fun _ => outboxInv_of_unused)
    (fun s i inv => outboxInv_step codec s i inv) (fun later s => Completed later row s) ?_ ?_
  · intro inv
    have inv' := effect.outboxInv inv
    refine ⟨governed, inv'.results row stored, receipted.approval ▸ noPending,
      fun other isOther same => ?_, .inl stored⟩
    exact e.post.observableAnalysisResults.eq_of_conflict isOther stored
      (by simpa [resultSchema] using same)
  · intro later s i inv completed
    exact (step_effect codec i s).completed inv completed

/-! ## Retries -/

theorem runTransaction_ok {α : Type} {fault : Option Bool} {body : LedgerTx α}
    {handler : TxError → ConsumptionError} {a : α} (noFault : fault = none)
    (returned : body db = .ok (a, db')) : runTransaction fault body handler db = (.ok a, db') := by
  have isTransact : transactIo fault body db = (.ok a, db') := transactIo_ok.mpr ⟨noFault, returned⟩
  rw [runTransaction, isTransact]
  rfl

/-- The retry of a completion whose result is still there returns its receipt. -/
theorem complete_again {outbox : OutboxObject} {arguments : CompleteArguments} {io : Io}
    {completion : AnalysisCompletion} {row : ResultRow} (noFault : io.transaction = none)
    (checked : CompletionChecked codec arguments)
    (receipted : Receipted codec arguments completion row) (governed : db.version = .governed)
    (noPending : NoPending row.approvalId db) (stored : row ∈ db.observableAnalysisResults.rows)
    (retained : arguments.currentTime < row.retentionDeadline) :
    (complete codec outbox (some arguments) io db).1 = .ok completion := by
  have bounds : -2 ^ 63 ≤ arguments.currentTime ∧ arguments.currentTime < 2 ^ 63 := by
    have positive := (isTimestamp_iff.mp checked.currentTime).1
    have columns := db.observableAnalysisResults.checked row stored
    simp only [resultSchema, isInteger, Bool.and_eq_true, decide_eq_true_eq] at columns
    omega
  have notPending : (db.pruned arguments.currentTime).approvalOutbox.select
      (fun r => r.approvalId = arguments.approvalId) = none :=
    Table.select_none.mpr fun r pending => by
      simpa [receipted.approval] using noPending r (mem_prunedOutbox.mp pending).1
  have found : (db.pruned arguments.currentTime).observableAnalysisResults.select
      (fun r => r.approvalId = arguments.approvalId) = some row :=
    (Table.select_eq_some _ fun a b ha hb => by simp_all [resultSchema]).mpr
      ⟨mem_prunedResults.mpr ⟨stored, retained⟩, by simpa using receipted.approval⟩
  have retry : retryCompletion codec arguments (db.pruned arguments.currentTime) =
      .ok (completion, db.pruned arguments.currentTime) := by
    simp only [retryCompletion, Tx.bind_ok, Tx.query_ok, Tx.orRaise_ok, Tx.lift_ok, Tx.ensure_ok,
      Tx.pure_ok, Bool.and_eq_true, decide_eq_true_eq]
    exact ⟨_, _, ⟨rfl, rfl⟩, row, _, ⟨found, rfl⟩, (), _, ⟨receipted.valid, rfl⟩, (), _,
      ⟨⟨⟨receipted.wire, receipted.identity⟩, receipted.tokens⟩, rfl⟩, receipted.completion, rfl⟩
  have returned : completeTransaction codec outbox.networkId arguments db =
      .ok (completion, db.pruned arguments.currentTime) := by
    refine prologue_ok.mpr ⟨governed, bounds, ?_⟩
    rw [Tx.bind_ok]
    exact ⟨none, _, Tx.query_ok.mpr ⟨notPending.symm, rfl⟩, retry⟩
  rw [complete, if_pos ⟨checked.approvalId, checked.leaseToken, checked.completionToken,
    checked.inputIdentity, checked.currentTime, checked.wire⟩, runTransaction_ok noFault returned]

/-- The bytes `complete` hashes over its two tokens. -/
def CompleteArguments.tokenPreimage (arguments : CompleteArguments) : Bytes :=
  completionTokenPreimage arguments.completionToken arguments.leaseToken

theorem completionTokenPreimage_inj {c c' l l' : Bytes} (hl : l.length = l'.length)
    (h : completionTokenPreimage c l = completionTokenPreimage c' l') : c = c' ∧ l = l' := by
  simp only [completionTokenPreimage, List.append_assoc] at h
  exact List.append_inj' (List.append_cancel_left h) hl

/-- One result wire decodes for one approval only. -/
theorem approvalId_of_wire {wire approvalId approvalId' identity identity' : Bytes}
    (h : validateAnalysisResultWire codec wire approvalId identity none none = true)
    (h' : validateAnalysisResultWire codec wire approvalId' identity' none none = true) :
    approvalId = approvalId' := by
  unfold validateAnalysisResultWire at h h'
  cases decoded : codec.decodeAnalysisResult wire with
  | none => simp [decoded] at h
  | some result =>
    simp only [decoded, Bool.and_eq_true, decide_eq_true_eq] at h h'
    exact hex_inj (h.2.1.1.1.symm.trans h'.2.1.1.1)

/-- A completion call of a completed approval that returns was made with the same arguments. -/
theorem Effect.sameArguments {outbox : OutboxObject} {arguments arguments' : CompleteArguments}
    {io : Io} {completion : AnalysisCompletion} {row : ResultRow} {later : List LedgerEvent}
    (effect : Effect codec db (.complete outbox (some arguments') io) out db')
    (checked : CompletionChecked codec arguments) (checked' : CompletionChecked codec arguments')
    (receipted : Receipted codec arguments completion row) (completed : Completed later row db)
    (same : arguments'.approvalId = arguments.approvalId ∨
      arguments'.resultWire = arguments.resultWire)
    (apart : NoCollision codec.sha256 arguments.tokenPreimage arguments'.tokenPreimage)
    (returned : accepted out = true) :
    { arguments' with currentTime := arguments.currentTime } = arguments := by
  have approval : arguments'.approvalId = arguments.approvalId := by
    rcases same with approval | wire
    · exact approval
    · exact approvalId_of_wire (wire ▸ checked'.wire) checked.wire
  cases effect with
  | raised e => simp [accepted, Except.isOk, Except.toBool] at returned
  | @retried _ _ _ found _ _ retried =>
    obtain rfl := completed.only found retried.stored
      (retried.approval.trans (approval.trans receipted.approval.symm))
    have lengths : arguments.leaseToken.length = arguments'.leaseToken.length := by
      have h := checked.leaseToken
      have h' := checked'.leaseToken
      simp only [isFixedBytes, beq_iff_eq] at h h'
      rw [h, h']
    obtain ⟨completionToken, leaseToken⟩ := completionTokenPreimage_inj lengths
      (apart (receipted.tokens.symm.trans retried.tokens))
    have wire := receipted.wire.symm.trans retried.wire
    have identity := receipted.identity.symm.trans retried.identity
    cases arguments
    cases arguments'
    simp_all
  | @recorded _ _ _ source _ _ _ recorded =>
    exact absurd (recorded.approval.trans (approval.trans receipted.approval.symm))
      (completed.noPending source recorded.stored)

/-! ## Results -/

/-- The event stored a result of the approval that was not there before. -/
def StoresResult (e : LedgerEvent) (approvalId : Bytes) : Prop :=
  ∃ row ∈ e.post.observableAnalysisResults.rows, row.approvalId = approvalId ∧
    row ∉ e.pre.observableAnalysisResults.rows

/-- After a result was stored, its approval is consumed and never pending again. -/
def ResultMark (e : LedgerEvent) (db : Db) : Prop :=
  ∀ approvalId, StoresResult e approvalId → IsConsumed approvalId db ∧ NoPending approvalId db

theorem resultMark_left (codec : WireCodec) (db : Db) (call : Call) (inv : OutboxInv db) :
    ResultMark (callEvent (step codec) db call) (step codec call db).2 := by
  rintro approvalId ⟨row, stored, rfl, new⟩
  have effect := step_effect codec call db
  rcases effect.result_origin row stored with old | ⟨-, noPending⟩
  · exact absurd old new
  · exact ⟨(effect.outboxInv inv).results row stored, noPending⟩

theorem resultMark_kept (codec : WireCodec) (e : LedgerEvent) (db : Db) (call : Call)
    (mark : ResultMark e db) : ResultMark e (step codec call db).2 := by
  intro approvalId stores
  obtain ⟨consumed, noPending⟩ := mark approvalId stores
  have effect := step_effect codec call db
  exact ⟨consumed.kept effect, effect.noPending consumed noPending⟩

theorem resultMark_found (codec : WireCodec) (e : LedgerEvent) (db : Db) (call : Call)
    (mark : ResultMark e db) (approvalId : Bytes) :
    ¬ (StoresResult e approvalId ∧ StoresResult (callEvent (step codec) db call) approvalId) := by
  rintro ⟨first, row, stored, same, new⟩
  rcases (step_effect codec call db).result_origin row stored with old | ⟨⟨source, pending, h⟩, -⟩
  · exact new old
  · exact (mark approvalId first).2 source pending (h.trans same)

/-- A first result was accepted under the latest claim of its approval. -/
theorem first_completion {h : List LedgerEvent} {outbox : OutboxObject}
    {arguments : CompleteArguments} {io : Io} {completion : AnalysisCompletion}
    (lease : LeaseInv codec h db)
    (effect : Effect codec db (.complete outbox (some arguments) io) out db')
    (returned : out = .ok (.completed completion)) (first : NoResult arguments.approvalId db) :
    ∃ row ∈ db.approvalOutbox.rows, ∃ networkId claim, row.approvalId = arguments.approvalId ∧
      lastClaim h arguments.approvalId = some (networkId, claim) ∧
      arguments.leaseToken = claim.leaseToken ∧ arguments.currentTime < claim.leaseExpiresAt ∧
      claim.leaseExpiresAt ≤ row.retentionDeadline ∧
      analysisInputIdentity codec outbox.networkId row claim.leaseToken claim.leaseExpiresAt =
        .ok arguments.inputIdentity ∧
      (networkId = outbox.networkId → arguments.inputIdentity = claim.inputIdentity) := by
  cases effect with
  | raised e => cases returned
  | @retried _ _ _ row _ _ retried => exact absurd retried.approval (first row retried.stored)
  | @recorded _ _ _ row leaseExpiresAt _ _ recorded =>
    have token := (lease.token row recorded.stored).symm.trans recorded.token
    have expiry := (lease.expiry row recorded.stored).symm.trans recorded.expiry
    have isClaim := lease.claim row recorded.stored
    rw [recorded.approval] at token expiry isClaim
    cases latest : lastClaim h arguments.approvalId with
    | none => simp [latest] at token
    | some c =>
      obtain ⟨networkId, claim⟩ := c
      simp only [latest, Option.map_some, Option.some.injEq] at token expiry
      have identity := recorded.identity
      rw [← token, ← expiry] at identity
      refine ⟨row, recorded.stored, networkId, claim, recorded.approval, rfl, token.symm,
        expiry ▸ recorded.live, ?_, identity, ?_⟩
      · exact expiry ▸ lease_within_retention db row recorded.stored _ recorded.expiry
      · rintro rfl
        rw [isClaim _ _ latest]
        unfold analysisInputIdentity at identity
        split at identity
        · exact (Except.ok.inj identity).symm
        · cases identity

/-! ## Runs -/

/-- The output of an event is what its call answers. -/
theorem event_output {init : Db → Prop} {h : List LedgerEvent} (run : Run (step codec) init h db)
    {e : LedgerEvent} (he : e ∈ h) : e.output = (step codec e.input e.pre).1 :=
  congrArg Event.output (run.steps e he)

theorem identical_retry {h₁ h₂ h₃ : List LedgerEvent} {e e' : LedgerEvent}
    (run : Run (step codec) Unused ((h₁ ++ e :: h₂) ++ e' :: h₃) db) {arguments : CompleteArguments}
    {completion : AnalysisCompletion} {outbox : OutboxObject} {io : Io} {time : Int}
    (completes : CompletesWith e arguments completion)
    (isCall : e'.input = .complete outbox (some { arguments with currentTime := time }) io)
    (noFault : io.transaction = none) (isTime : isTimestamp time = true)
    (retained : time < completion.retentionDeadline)
    (unexpired : ∀ m ∈ h₂, ¬ Passes m.input m.output completion.retentionDeadline) :
    e'.output = .ok (.completed completion) := by
  have before := run.before.1
  obtain ⟨checked, row, receipted, completed⟩ := completed_since before completes
  have deadline : completion.retentionDeadline = row.retentionDeadline := by
    rw [receipted.completion]
  rw [deadline] at retained unexpired
  have stored : row ∈ e'.pre.observableAnalysisResults.rows := by
    rcases completed.retained with stored | ⟨m, hm, passes⟩
    · exact stored
    · exact absurd passes (unexpired m hm)
  have again : (complete codec outbox (some { arguments with currentTime := time }) io e'.pre).1 =
      .ok completion :=
    complete_again noFault
      ⟨checked.approvalId, checked.leaseToken, checked.completionToken, checked.inputIdentity,
        isTime, checked.wire⟩
      ⟨receipted.approval, receipted.wire, receipted.identity, receipted.tokens, receipted.valid,
        receipted.completion⟩
      completed.version completed.noPending stored retained
  rw [event_output run (List.mem_append_right _ List.mem_cons_self), isCall]
  simp only [step, answer, again, Except.map]

theorem differing_retry {h₁ h₂ h₃ : List LedgerEvent} {e e' : LedgerEvent}
    (run : Run (step codec) Unused ((h₁ ++ e :: h₂) ++ e' :: h₃) db)
    {arguments arguments' : CompleteArguments} {completion : AnalysisCompletion}
    {outbox : OutboxObject} {io : Io} (completes : CompletesWith e arguments completion)
    (isCall : e'.input = .complete outbox (some arguments') io)
    (same : arguments'.approvalId = arguments.approvalId ∨
      arguments'.resultWire = arguments.resultWire)
    (differs : { arguments' with currentTime := arguments.currentTime } ≠ arguments)
    (apart : NoCollision codec.sha256 arguments.tokenPreimage arguments'.tokenPreimage) :
    (∃ error, e'.output = .error error) ∧ e'.post = e'.pre := by
  have he : e' ∈ (h₁ ++ e :: h₂) ++ e' :: h₃ := List.mem_append_right _ List.mem_cons_self
  obtain ⟨checked, row, receipted, completed⟩ := completed_since run.before.1 completes
  have effect := event_effect run he
  have output := event_output run he
  rw [isCall] at effect output
  have refused : accepted e'.output ≠ true := by
    intro returned
    have checked' := completionChecked_of_accepted outbox io e'.pre (output ▸ returned)
    exact differs (effect.sameArguments checked checked' receipted completed same apart returned)
  generalize e'.output = out' at effect refused ⊢
  generalize e'.post = after at effect ⊢
  cases effect with
  | raised error => exact ⟨⟨error, rfl⟩, rfl⟩
  | retried retried => exact absurd rfl refused
  | recorded recorded => exact absurd rfl refused

/-- Over any run of calls on one file that starts with empty outbox tables:
a claim is returned only when every earlier lease of its record is over;
a pending record carries exactly the lease of the latest claim of its approval, which ends within
its retention;
a first result is accepted only with the latest token, before its lease expires and with the
identity of that lease;
at most one result of an approval is ever stored;
the same completion call made again while its result is retained returns the same receipt;
and a call that repeats its approval or its result but differs in another argument raises and
changes nothing, as long as the digest of its two tokens does not collide. -/
theorem lease_exclusion {h : List LedgerEvent} (run : Run (step codec) Unused h db) :
    (h.Pairwise fun e e' => ∀ approvalId first second time,
      claimOf approvalId e = some first → claimOf approvalId e' = some second →
        e'.input.suppliedTime = some time → first.2.leaseExpiresAt ≤ time) ∧
    (∀ row ∈ db.approvalOutbox.rows,
      row.leaseToken = (lastClaim h row.approvalId).map (fun c => c.2.leaseToken) ∧
      row.leaseExpiresAt = (lastClaim h row.approvalId).map (fun c => c.2.leaseExpiresAt) ∧
      ∀ expiry, row.leaseExpiresAt = some expiry → expiry ≤ row.retentionDeadline) ∧
    (∀ (h₁ h₂ : List LedgerEvent) (e : LedgerEvent), h = h₁ ++ e :: h₂ →
      ∀ (outbox : OutboxObject) (arguments : CompleteArguments) (io : Io)
        (completion : AnalysisCompletion),
      e.input = .complete outbox (some arguments) io → e.output = .ok (.completed completion) →
      NoResult arguments.approvalId e.pre →
      ∃ row ∈ e.pre.approvalOutbox.rows, ∃ networkId claim,
        row.approvalId = arguments.approvalId ∧
        lastClaim h₁ arguments.approvalId = some (networkId, claim) ∧
        arguments.leaseToken = claim.leaseToken ∧ arguments.currentTime < claim.leaseExpiresAt ∧
        claim.leaseExpiresAt ≤ row.retentionDeadline ∧
        analysisInputIdentity codec outbox.networkId row claim.leaseToken claim.leaseExpiresAt =
          .ok arguments.inputIdentity ∧
        (networkId = outbox.networkId → arguments.inputIdentity = claim.inputIdentity)) ∧
    (h.Pairwise fun e e' => ∀ approvalId,
      ¬ (StoresResult e approvalId ∧ StoresResult e' approvalId)) ∧
    (∀ (h₁ h₂ h₃ : List LedgerEvent) (e e' : LedgerEvent), h = (h₁ ++ e :: h₂) ++ e' :: h₃ →
      ∀ (arguments : CompleteArguments) (completion : AnalysisCompletion) (outbox : OutboxObject)
        (io : Io) (time : Int), CompletesWith e arguments completion →
      e'.input = .complete outbox (some { arguments with currentTime := time }) io →
      io.transaction = none → isTimestamp time = true → time < completion.retentionDeadline →
      (∀ m ∈ h₂, ¬ Passes m.input m.output completion.retentionDeadline) →
        e'.output = .ok (.completed completion)) ∧
    (∀ (h₁ h₂ h₃ : List LedgerEvent) (e e' : LedgerEvent), h = (h₁ ++ e :: h₂) ++ e' :: h₃ →
      ∀ (arguments arguments' : CompleteArguments) (completion : AnalysisCompletion)
        (outbox : OutboxObject) (io : Io), CompletesWith e arguments completion →
      e'.input = .complete outbox (some arguments') io →
      (arguments'.approvalId = arguments.approvalId ∨
        arguments'.resultWire = arguments.resultWire) →
      { arguments' with currentTime := arguments.currentTime } ≠ arguments →
      NoCollision codec.sha256 arguments.tokenPreimage arguments'.tokenPreimage →
        (∃ error, e'.output = .error error) ∧ e'.post = e'.pre) := by
  have start := fun (s : Db) (unused : Unused s) => outboxInv_of_unused unused
  have keeps := fun (s : Db) (i : Call) (inv : OutboxInv s) => outboxInv_step codec s i inv
  have lease := leaseInv_run run
  refine ⟨?_, ?_, ?_, ?_, ?_, ?_⟩
  · refine run.pairwise OutboxInv start keeps (fun s i inv => leaseMark_left codec s i inv)
      (fun e s i _ => leaseMark_kept codec e s i) ?_
    intro e s i _ mark approvalId first second time isFirst isSecond isTime
    exact leaseMark_found codec e s i mark isFirst isSecond isTime
  · exact fun row stored =>
      ⟨lease.token row stored, lease.expiry row stored, lease_within_retention db row stored⟩
  · rintro h₁ h₂ e rfl outbox arguments io completion isCall returned first
    have effect := event_effect run (List.mem_append_right _ List.mem_cons_self)
    rw [isCall] at effect
    exact first_completion (leaseInv_run run.before.1) effect returned first
  · refine run.pairwise OutboxInv start keeps (fun s i inv => resultMark_left codec s i inv)
      (fun e s i _ => resultMark_kept codec e s i) ?_
    exact fun e s i _ mark => resultMark_found codec e s i mark
  · rintro h₁ h₂ h₃ e e' rfl arguments completion outbox io time completes isCall noFault isTime
      retained unexpired
    exact identical_retry run completes isCall noFault isTime retained unexpired
  · rintro h₁ h₂ h₃ e e' rfl arguments arguments' completion outbox io completes isCall same differs
      apart
    exact differing_retry run completes isCall same differs apart

/-- A lease is taken over, the late worker is refused, the new one completes, an identical retry
succeeds and one with another completion token fails. -/
def takeoverCalls : List Call :=
  let late := sampleCompletion 1 6 10 22 23
  let second := sampleCompletion 1 7 10 32 25
  [.openLedger outboxLedger .none, sampleEnqueue 1 10, sampleClaim 6 12, sampleClaim 9 13,
    sampleClaim 7 22, .complete sampleOutbox (some late) .none,
    .complete sampleOutbox (some second) .none,
    .complete sampleOutbox (some { second with currentTime := 40 }) .none,
    .complete sampleOutbox (some { second with completionToken := List.replicate 32 5 }) .none]

theorem lease_exclusion_takeover :
    let run := execute (step sampleCodec) takeoverCalls Db.fresh
    run.1.map (fun e => accepted e.output) =
      [true, true, true, true, true, false, true, true, false] ∧
    (run.1.Pairwise fun e e' => ∀ approvalId first second time,
      claimOf approvalId e = some first → claimOf approvalId e' = some second →
        e'.input.suppliedTime = some time → first.2.leaseExpiresAt ≤ time) ∧
    (run.1.Pairwise fun e e' => ∀ approvalId,
      ¬ (StoresResult e approvalId ∧ StoresResult e' approvalId)) := by
  have unused : Unused Db.fresh := ⟨rfl, rfl, rfl⟩
  have rules := lease_exclusion (Run.of_execute unused takeoverCalls : Run (step sampleCodec) _ _ _)
  exact ⟨by decide +kernel, rules.1, rules.2.2.2.1⟩

end Prometheus.Jaeger.ApprovalLedger
