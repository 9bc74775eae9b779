import Prometheus.Jaeger.ApprovalLedger.OneTime

/-!
# How records move between the tables

Where a pending record or a stored result can come from and where it can go in one call, and the
invariant `OutboxInv` that makes these moves meaningful: a file that is not governed yet has empty
outbox tables, every record belongs to a consumed approval, and no approval has both a pending
record and a result.
-/

namespace Prometheus.Jaeger.ApprovalLedger

open Prometheus.Codec Prometheus.Machine

variable {codec : WireCodec} {db db' : Db} {call : Call} {out : Except ConsumptionError Answer}

/-- The record without its lease. -/
def OutboxRow.unleased (row : OutboxRow) : OutboxRow :=
  { row with leaseToken := none, leaseExpiresAt := none }

/-- No table holds a record or a result of the approval. -/
def NoPending (approvalId : Bytes) (db : Db) : Prop :=
  ∀ row ∈ db.approvalOutbox.rows, row.approvalId ≠ approvalId

@[inherit_doc NoPending] def NoResult (approvalId : Bytes) (db : Db) : Prop :=
  ∀ row ∈ db.observableAnalysisResults.rows, row.approvalId ≠ approvalId

/-- The approval has a row in `approval_consumptions`. -/
def IsConsumed (approvalId : Bytes) (db : Db) : Prop :=
  ∃ row ∈ db.approvalConsumptions.rows, row.approvalId = approvalId

structure OutboxInv (db : Db) : Prop where
  ungoverned : db.version ≠ .governed → db.approvalOutbox.rows = [] ∧
    db.observableAnalysisResults.rows = [] ∧ db.threatHintV2Pairings.rows = []
  pending : ∀ row ∈ db.approvalOutbox.rows, IsConsumed row.approvalId db
  results : ∀ row ∈ db.observableAnalysisResults.rows, IsConsumed row.approvalId db
  apart : ∀ row ∈ db.approvalOutbox.rows, NoResult row.approvalId db

/-- The call returned, and was given a time at or past the deadline. -/
def Passes (call : Call) (out : Except ConsumptionError Answer) (deadline : Int) : Prop :=
  accepted out = true ∧ ∃ time, call.suppliedTime = some time ∧ deadline ≤ time

/-- The call is a completion of the approval that stored its result. -/
def Completes (call : Call) (out : Except ConsumptionError Answer) (approvalId : Bytes) : Prop :=
  ∃ outbox arguments io completion, call = .complete outbox (some arguments) io ∧
    out = .ok (.completed completion) ∧ arguments.approvalId = approvalId

@[simp] theorem unleased_withLease (row : OutboxRow) (leaseToken : Bytes) (leaseExpiresAt : Int) :
    (row.withLease leaseToken leaseExpiresAt).unleased = row.unleased := rfl

theorem approvalId_of_unleased {a b : OutboxRow} (h : a.unleased = b.unleased) :
    a.approvalId = b.approvalId := by
  have same : a.unleased.approvalId = b.unleased.approvalId := by rw [h]
  exact same

theorem IsConsumed.kept {approvalId : Bytes} (effect : Effect codec db call out db')
    (h : IsConsumed approvalId db) : IsConsumed approvalId db' :=
  let ⟨row, stored, same⟩ := h
  ⟨row, effect.consumptions.subset stored, same⟩

/-- A consumption finds its approval unconsumed. -/
theorem Consumed.fresh {verified : VerifiedApproval} {consumedAt : Int}
    {governance : Option GovernanceBinding} (consumed : Consumed verified consumedAt governance db db') :
    ¬ IsConsumed verified.approvalId db := by
  rintro ⟨row, stored, same⟩
  have apart := (Table.insert_eq_some.mp consumed.inserted).2.1 _ stored
  simp [consumptionSchema, VerifiedApproval.consumptionRow, same] at apart

theorem Consumed.isConsumed {verified : VerifiedApproval} {consumedAt : Int}
    {governance : Option GovernanceBinding} (consumed : Consumed verified consumedAt governance db db') :
    IsConsumed verified.approvalId db' := by
  refine ⟨verified.consumptionRow consumedAt, ?_, rfl⟩
  rw [(Table.insert_eq_some.mp consumed.inserted).2.2]
  exact List.mem_append_right _ (List.mem_singleton_self _)

theorem isConsumed_iff {approvalId : Bytes} :
    consumed db approvalId = true ↔ IsConsumed approvalId db := by
  simp [consumed, IsConsumed]

/-! ## Origins -/

/-- The call enqueued the record. -/
def Posts (codec : WireCodec) (call : Call) (row : OutboxRow) (db db' : Db) : Prop :=
  ∃ ledger verified consumedAt arguments io wires statementDigest retention,
    call = .consumeGoverned ledger (some verified) (some consumedAt) ledger.governance arguments io ∧
      Consumed verified consumedAt ledger.governance db db' ∧
      Enqueued codec verified wires statementDigest consumedAt retention db db' ∧
      row = pendingRow verified wires statementDigest consumedAt
        (consumedAt + retention.maxRetentionSeconds)

/-- A pending record was pending before, lease aside, or is the one this call enqueued. -/
theorem Effect.outbox_source (effect : Effect codec db call out db') :
    ∀ row ∈ db'.approvalOutbox.rows,
      (∃ old ∈ db.approvalOutbox.rows, old.unleased = row.unleased) ∨
        Posts codec call row db db' := by
  intro row stored
  cases effect with
  | raised e => exact .inl ⟨row, stored, rfl⟩
  | opened opened =>
    rcases opened.tables with untouched | ⟨-, empty, -⟩
    · exact .inl ⟨row, untouched.outbox ▸ stored, rfl⟩
    · simp [empty] at stored
  | consumed consumed untouched => exact .inl ⟨row, untouched.outbox ▸ stored, rfl⟩
  | @governed ledger verified consumedAt arguments io _ consumed outbox =>
    unfold OutboxEffect at outbox
    split at outbox
    · exact .inl ⟨row, outbox.outbox ▸ stored, rfl⟩
    · split at outbox
      · obtain ⟨wires, statementDigest, -, enqueued⟩ := outbox
        rw [(Table.insert_eq_some.mp enqueued.outbox).2.2] at stored
        rcases List.mem_append.mp stored with old | new
        · exact .inl ⟨row, (mem_prunedOutbox.mp old).1, rfl⟩
        · exact .inr ⟨ledger, verified, consumedAt, arguments, io, wires, statementDigest, _, rfl,
            consumed, enqueued, List.mem_singleton.mp new⟩
      · exact .inl ⟨row, outbox.outbox ▸ stored, rfl⟩
  | unclaimed governed => exact .inl ⟨row, (mem_prunedOutbox.mp stored).1, rfl⟩
  | @leased _ _ _ _ target _ _ live leased =>
    rw [leased.outbox] at stored
    obtain ⟨old, pruned, rfl⟩ := List.mem_map.mp stored
    refine .inl ⟨old, (mem_prunedOutbox.mp pruned).1, ?_⟩
    split <;> rfl
  | retried retried =>
    rw [retried.pruned] at stored
    exact .inl ⟨row, (mem_prunedOutbox.mp stored).1, rfl⟩
  | recorded recorded =>
    rw [recorded.outbox] at stored
    exact .inl ⟨row, (mem_prunedOutbox.mp (List.mem_filter.mp stored).1).1, rfl⟩
  | read governed => exact .inl ⟨row, stored, rfl⟩

/-- A pending record was pending before, lease aside, or belongs to an approval this call consumed. -/
theorem Effect.outbox_origin (effect : Effect codec db call out db') :
    ∀ row ∈ db'.approvalOutbox.rows,
      (∃ old ∈ db.approvalOutbox.rows, old.unleased = row.unleased) ∨
        ¬ IsConsumed row.approvalId db ∧ IsConsumed row.approvalId db' := by
  intro row stored
  rcases effect.outbox_source row stored with old | posts
  · exact .inl old
  · obtain ⟨_, _, _, _, _, _, _, _, -, consumed, -, rfl⟩ := posts
    exact .inr ⟨consumed.fresh, consumed.isConsumed⟩

/-- A result that a call leaves was there before, or is the one that a completion recorded. -/
theorem Effect.result_recorded (effect : Effect codec db call out db') :
    ∀ row ∈ db'.observableAnalysisResults.rows,
      row ∈ db.observableAnalysisResults.rows ∨
        ∃ outbox arguments io source leaseExpiresAt completion,
          call = .complete outbox (some arguments) io ∧
          Recorded codec outbox.networkId arguments source leaseExpiresAt completion db db' ∧
          row = arguments.resultRow codec completion.resultDigest source.retentionDeadline := by
  intro row stored
  cases effect with
  | raised e => exact .inl stored
  | opened opened =>
    rcases opened.tables with untouched | ⟨-, -, empty, -⟩
    · exact .inl (untouched.results ▸ stored)
    · simp [empty] at stored
  | consumed consumed untouched => exact .inl (untouched.results ▸ stored)
  | governed consumed outbox =>
    unfold OutboxEffect at outbox
    split at outbox
    · exact .inl (outbox.results ▸ stored)
    · split at outbox
      · obtain ⟨wires, statementDigest, -, enqueued⟩ := outbox
        rw [enqueued.results] at stored
        exact .inl (mem_prunedResults.mp stored).1
      · exact .inl (outbox.results ▸ stored)
  | unclaimed governed => exact .inl (mem_prunedResults.mp stored).1
  | leased live leased =>
    rw [leased.results] at stored
    exact .inl (mem_prunedResults.mp stored).1
  | retried retried =>
    rw [retried.pruned] at stored
    exact .inl (mem_prunedResults.mp stored).1
  | recorded recorded =>
    rw [(Table.insert_eq_some.mp recorded.inserted).2.2] at stored
    rcases List.mem_append.mp stored with old | new
    · exact .inl (mem_prunedResults.mp old).1
    · exact .inr ⟨_, _, _, _, _, _, rfl, recorded, List.mem_singleton.mp new⟩
  | read governed => exact .inl (mem_prunedResults.mp stored).1

/-- A result was stored before, or this call completed its pending record. -/
theorem Effect.result_origin (effect : Effect codec db call out db') :
    ∀ row ∈ db'.observableAnalysisResults.rows,
      row ∈ db.observableAnalysisResults.rows ∨
        (∃ old ∈ db.approvalOutbox.rows, old.approvalId = row.approvalId) ∧
          NoPending row.approvalId db' := by
  intro row stored
  rcases effect.result_recorded row stored with
    old | ⟨_, _, _, source, _, _, -, recorded, rfl⟩
  · exact .inl old
  · refine .inr ⟨⟨source, recorded.stored, recorded.approval⟩, fun other pending => ?_⟩
    rw [recorded.outbox] at pending
    simpa [CompleteArguments.resultRow] using (List.mem_filter.mp pending).2

/-! ## Fates -/

/-- Retention of the pending records: what was pending stays, or is past its deadline and gone. -/
theorem pruned_fate {now : Int} {row : OutboxRow} (stored : row ∈ db.approvalOutbox.rows) :
    row ∈ (prunedOutbox now db).rows ∨
      row.retentionDeadline ≤ now ∧ ∀ r ∈ (prunedOutbox now db).rows, r.approvalId ≠ row.approvalId := by
  rcases lt_or_ge now row.retentionDeadline with retained | expired
  · exact .inl (mem_prunedOutbox.mpr ⟨stored, retained⟩)
  · refine .inr ⟨expired, fun r kept same => ?_⟩
    obtain ⟨old, retained⟩ := mem_prunedOutbox.mp kept
    rw [outboxRow_unique _ old stored same] at retained
    exact absurd expired (not_le.mpr retained)

/-- An approval with a pending record has no result, and retention does not add one. -/
theorem OutboxInv.noResult_pruned (inv : OutboxInv db) {now : Int} {row : OutboxRow}
    (stored : row ∈ db.approvalOutbox.rows) :
    ∀ r ∈ (prunedResults now db).rows, r.approvalId ≠ row.approvalId :=
  fun r kept => inv.apart row stored r (mem_prunedResults.mp kept).1

/-- A pending record stays pending, lease aside; or it is gone, because this call passed its
deadline, or because this call completed it and stored its result. -/
theorem Effect.outbox_fate (inv : OutboxInv db) (effect : Effect codec db call out db') :
    ∀ row ∈ db.approvalOutbox.rows,
      (∃ kept ∈ db'.approvalOutbox.rows, kept.unleased = row.unleased) ∨
      NoPending row.approvalId db' ∧
        (NoResult row.approvalId db' ∧ Passes call out row.retentionDeadline ∨
          Completes call out row.approvalId ∧ ∃ result ∈ db'.observableAnalysisResults.rows,
            result.approvalId = row.approvalId ∧
              result.retentionDeadline = row.retentionDeadline) := by
  intro row stored
  cases effect with
  | raised e => exact .inl ⟨row, stored, rfl⟩
  | opened opened =>
    rcases opened.tables with untouched | ⟨ungoverned, -⟩
    · exact .inl ⟨row, untouched.outbox ▸ stored, rfl⟩
    · simp [(inv.ungoverned ungoverned).1] at stored
  | consumed consumed untouched => exact .inl ⟨row, untouched.outbox ▸ stored, rfl⟩
  | governed consumed outbox =>
    unfold OutboxEffect at outbox
    split at outbox
    · exact .inl ⟨row, outbox.outbox ▸ stored, rfl⟩
    · split at outbox
      · obtain ⟨wires, statementDigest, -, enqueued⟩ := outbox
        have rows := (Table.insert_eq_some.mp enqueued.outbox).2.2
        rcases pruned_fate stored with kept | ⟨expired, gone⟩
        · exact .inl ⟨row, rows ▸ List.mem_append_left _ kept, rfl⟩
        · refine .inr ⟨fun r pending same => ?_, .inl ⟨?_, rfl, _, rfl, expired⟩⟩
          · rw [rows] at pending
            rcases List.mem_append.mp pending with old | new
            · exact gone r old same
            · rw [List.mem_singleton.mp new] at same
              have already := inv.pending row stored
              rw [← same] at already
              exact consumed.fresh already
          · rw [NoResult, enqueued.results]
            exact inv.noResult_pruned stored
      · exact .inl ⟨row, outbox.outbox ▸ stored, rfl⟩
  | unclaimed governed =>
    rcases pruned_fate stored with kept | ⟨expired, gone⟩
    · exact .inl ⟨row, kept, rfl⟩
    · exact .inr ⟨gone, .inl ⟨inv.noResult_pruned stored, rfl, _, rfl, expired⟩⟩
  | leased live leased =>
    rcases pruned_fate stored with kept | ⟨expired, gone⟩
    · refine .inl ⟨_, leased.outbox ▸ List.mem_map.mpr ⟨row, kept, rfl⟩, ?_⟩
      split <;> rfl
    · refine .inr ⟨fun r pending same => ?_, .inl ⟨?_, rfl, _, rfl, expired⟩⟩
      · rw [leased.outbox] at pending
        obtain ⟨old, pruned, rfl⟩ := List.mem_map.mp pending
        refine gone old pruned (Eq.trans ?_ same)
        split <;> rfl
      · rw [NoResult, leased.results]
        exact inv.noResult_pruned stored
  | retried retried =>
    rcases pruned_fate stored with kept | ⟨expired, gone⟩
    · exact .inl ⟨row, retried.pruned ▸ kept, rfl⟩
    · rw [retried.pruned]
      exact .inr ⟨gone, .inl ⟨inv.noResult_pruned stored, rfl, _, rfl, expired⟩⟩
  | @recorded _ arguments _ source _ _ _ recorded =>
    have rows := (Table.insert_eq_some.mp recorded.inserted).2.2
    rcases pruned_fate stored with kept | ⟨expired, gone⟩
    · by_cases same : row.approvalId = arguments.approvalId
      · obtain rfl := outboxRow_unique _ stored recorded.stored (same.trans recorded.approval.symm)
        refine .inr ⟨fun r pending => ?_, .inr ⟨⟨_, _, _, _, rfl, rfl, same.symm⟩, _,
          rows ▸ List.mem_append_right _ (List.mem_singleton_self _), same.symm, rfl⟩⟩
        rw [recorded.outbox] at pending
        simpa [same] using (List.mem_filter.mp pending).2
      · exact .inl ⟨row, recorded.outbox ▸ List.mem_filter.mpr ⟨kept, by simpa using same⟩, rfl⟩
    · refine .inr ⟨fun r pending => ?_, .inl ⟨fun r result same => ?_, rfl, _, rfl, expired⟩⟩
      · rw [recorded.outbox] at pending
        exact gone r (List.mem_filter.mp pending).1
      · rw [rows] at result
        rcases List.mem_append.mp result with old | new
        · exact inv.noResult_pruned stored r old same
        -- the completed record is within its retention, so it is not the expired one
        · rw [List.mem_singleton.mp new] at same
          have isSource := outboxRow_unique _ recorded.stored stored (recorded.approval.trans same)
          exact absurd expired (not_le.mpr (isSource ▸ recorded.retained))
  | read governed => exact .inl ⟨row, stored, rfl⟩

theorem prunedResults_fate {now : Int} {row : ResultRow}
    (stored : row ∈ db.observableAnalysisResults.rows) :
    row ∈ (prunedResults now db).rows ∨
      row.retentionDeadline ≤ now ∧
        ∀ r ∈ (prunedResults now db).rows, r.approvalId ≠ row.approvalId := by
  rcases lt_or_ge now row.retentionDeadline with retained | expired
  · exact .inl (mem_prunedResults.mpr ⟨stored, retained⟩)
  · refine .inr ⟨expired, fun r kept same => ?_⟩
    obtain ⟨old, retained⟩ := mem_prunedResults.mp kept
    have : r = row := db.observableAnalysisResults.eq_of_conflict old stored
      (by simpa [resultSchema] using same)
    rw [this] at retained
    exact absurd expired (not_le.mpr retained)

/-- A stored result stays as it is, or is gone because this call passed its deadline. -/
theorem Effect.result_fate (inv : OutboxInv db) (effect : Effect codec db call out db') :
    ∀ row ∈ db.observableAnalysisResults.rows,
      row ∈ db'.observableAnalysisResults.rows ∨
        NoResult row.approvalId db' ∧ Passes call out row.retentionDeadline := by
  intro row stored
  cases effect with
  | raised e => exact .inl stored
  | opened opened =>
    rcases opened.tables with untouched | ⟨ungoverned, -⟩
    · exact .inl (untouched.results ▸ stored)
    · simp [(inv.ungoverned ungoverned).2.1] at stored
  | consumed consumed untouched => exact .inl (untouched.results ▸ stored)
  | governed consumed outbox =>
    unfold OutboxEffect at outbox
    split at outbox
    · exact .inl (outbox.results ▸ stored)
    · split at outbox
      · obtain ⟨wires, statementDigest, -, enqueued⟩ := outbox
        rcases prunedResults_fate stored with kept | ⟨expired, gone⟩
        · exact .inl (enqueued.results ▸ kept)
        · exact .inr ⟨by rw [NoResult, enqueued.results]; exact gone, rfl, _, rfl, expired⟩
      · exact .inl (outbox.results ▸ stored)
  | unclaimed governed =>
    rcases prunedResults_fate stored with kept | ⟨expired, gone⟩
    · exact .inl kept
    · exact .inr ⟨gone, rfl, _, rfl, expired⟩
  | leased live leased =>
    rcases prunedResults_fate stored with kept | ⟨expired, gone⟩
    · exact .inl (leased.results ▸ kept)
    · exact .inr ⟨by rw [NoResult, leased.results]; exact gone, rfl, _, rfl, expired⟩
  | retried retried =>
    rcases prunedResults_fate stored with kept | ⟨expired, gone⟩
    · exact .inl (retried.pruned ▸ kept)
    · exact .inr ⟨by rw [retried.pruned]; exact gone, rfl, _, rfl, expired⟩
  | @recorded _ arguments _ source _ _ _ recorded =>
    have rows := (Table.insert_eq_some.mp recorded.inserted).2.2
    rcases prunedResults_fate stored with kept | ⟨expired, gone⟩
    · exact .inl (rows ▸ List.mem_append_left _ kept)
    · refine .inr ⟨fun r kept same => ?_, rfl, _, rfl, expired⟩
      rw [rows] at kept
      rcases List.mem_append.mp kept with old | new
      · exact gone r old same
      -- the completed record was pending, so its approval had no result before
      · rw [List.mem_singleton.mp new] at same
        exact inv.apart source recorded.stored row stored (same.symm.trans recorded.approval.symm)
  | read governed =>
    rcases prunedResults_fate stored with kept | ⟨expired, gone⟩
    · exact .inl kept
    · exact .inr ⟨gone, rfl, _, rfl, expired⟩

/-- Pairings are never changed or removed. -/
theorem Effect.pairings (inv : OutboxInv db) (effect : Effect codec db call out db') :
    db.threatHintV2Pairings.rows <+: db'.threatHintV2Pairings.rows := by
  cases effect with
  | raised e => exact List.prefix_refl _
  | opened opened =>
    rcases opened.tables with untouched | ⟨ungoverned, -⟩
    · rw [untouched.pairings]
    · rw [(inv.ungoverned ungoverned).2.2]; exact List.nil_prefix
  | consumed consumed untouched => rw [untouched.pairings]
  | governed consumed outbox =>
    unfold OutboxEffect at outbox
    split at outbox
    · rw [outbox.pairings]
    · split at outbox
      · obtain ⟨wires, statementDigest, -, enqueued⟩ := outbox
        exact ⟨_, (Table.insert_eq_some.mp enqueued.pairings).2.2.symm⟩
      · rw [outbox.pairings]
  | unclaimed governed => exact List.prefix_refl _
  | leased live leased => rw [leased.frame]
  | retried retried => rw [retried.pruned]; exact List.prefix_refl _
  | recorded recorded => rw [recorded.frame]
  | read governed => exact List.prefix_refl _

/-- The outbox tables of a file that is not governed stay empty. -/
theorem Effect.ungoverned (inv : OutboxInv db) (effect : Effect codec db call out db')
    (ungoverned : db'.version ≠ .governed) : db'.approvalOutbox.rows = [] ∧
      db'.observableAnalysisResults.rows = [] ∧ db'.threatHintV2Pairings.rows = [] := by
  cases effect with
  | raised e => exact inv.ungoverned ungoverned
  | opened opened =>
    rcases opened.tables with untouched | ⟨-, outbox, results, pairings⟩
    · have before := inv.ungoverned fun governed => ungoverned (opened.version governed)
      rw [untouched.outbox, untouched.results, untouched.pairings]
      exact before
    · simp [outbox, results, pairings]
  | consumed consumed untouched =>
    rw [untouched.outbox, untouched.results, untouched.pairings]
    exact inv.ungoverned (consumed.version ▸ ungoverned)
  | governed consumed outbox =>
    unfold OutboxEffect at outbox
    split at outbox
    · rw [outbox.outbox, outbox.results, outbox.pairings]
      exact inv.ungoverned (consumed.version ▸ ungoverned)
    · rename_i governance
      exact absurd (consumed.governed (by simp [governance])) (consumed.version ▸ ungoverned)
  | unclaimed governed => exact absurd governed ungoverned
  | leased live leased =>
    have version : db'.version = db.version := by rw [leased.frame]
    exact absurd (version.trans leased.governed) ungoverned
  | retried retried =>
    have version : db'.version = db.version := by rw [retried.pruned]; rfl
    exact absurd (version.trans retried.governed) ungoverned
  | recorded recorded =>
    have version : db'.version = db.version := by rw [recorded.frame]
    exact absurd (version.trans recorded.governed) ungoverned
  | read governed => exact absurd governed ungoverned

/-- Every call keeps the invariant. -/
theorem Effect.outboxInv (inv : OutboxInv db) (effect : Effect codec db call out db') :
    OutboxInv db' where
  ungoverned := effect.ungoverned inv
  pending := by
    intro row stored
    rcases effect.outbox_origin row stored with ⟨old, pending, same⟩ | ⟨-, consumed⟩
    · exact approvalId_of_unleased same ▸ (inv.pending old pending).kept effect
    · exact consumed
  results := by
    intro row stored
    rcases effect.result_origin row stored with old | ⟨⟨source, pending, same⟩, -⟩
    · exact (inv.results row old).kept effect
    · exact same ▸ (inv.pending source pending).kept effect
  apart := by
    intro row pending result stored same
    rcases effect.result_origin result stored with old | ⟨-, none⟩
    · rcases effect.outbox_origin row pending with ⟨before, wasPending, unleased⟩ | ⟨fresh, -⟩
      · exact inv.apart before wasPending result old
          (same.trans (approvalId_of_unleased unleased).symm)
      · exact fresh (same ▸ inv.results result old)
    · exact none row pending same.symm

end Prometheus.Jaeger.ApprovalLedger
