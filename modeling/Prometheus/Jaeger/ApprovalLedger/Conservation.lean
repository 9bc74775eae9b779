import Prometheus.Codec.Sha256
import Prometheus.Jaeger.ApprovalLedger.Movement

/-!
# Outbox conservation

Every approval a run enqueues is, at every later moment, in exactly one place: a pending record, a
stored result, or retired by a call whose time passed its retention deadline. Its pairing is never
changed or removed, and the pending records never exceed the configured maximum.
-/

namespace Prometheus.Jaeger.ApprovalLedger

open Prometheus.Codec Prometheus.Machine

variable {codec : WireCodec} {db db' : Db} {call : Call} {out : Except ConsumptionError Answer}

/-- A file whose outbox tables are empty or not created yet. -/
def Unused (db : Db) : Prop :=
  db.approvalOutbox.rows = [] ∧ db.observableAnalysisResults.rows = [] ∧
    db.threatHintV2Pairings.rows = []

/-- The call is made with the given ledger object, where it is made with one. -/
def Call.on (ledger : LedgerObject) : Call → Prop
  | .openLedger other _ => other = ledger
  | .consume other _ _ _ => other = ledger
  | .consumeGoverned other _ _ _ _ _ => other = ledger
  | _ => True

/-- The event is a governed consumption that returned on a ledger with the durable outbox. -/
def Enqueues (e : LedgerEvent) (verified : VerifiedApproval) (consumedAt : Int)
    (retention : RetentionPolicy) : Prop :=
  ∃ ledger governance arguments io,
    e.input = .consumeGoverned ledger (some verified) (some consumedAt) (some governance) arguments io ∧
      ledger.outboxEnabled = true ∧ accepted e.output = true ∧ governance.retention = retention

/-- Where an enqueued record is after the calls in `later`: pending and without a result, or
completed into a result and not pending, or in neither table, retired by a call that passed its
deadline. -/
def Custody (later : List LedgerEvent) (row : OutboxRow) (db : Db) : Prop :=
  ((∃ pending ∈ db.approvalOutbox.rows, pending.unleased = row.unleased) ∧
    NoResult row.approvalId db) ∨
  (NoPending row.approvalId db ∧ ∃ result ∈ db.observableAnalysisResults.rows,
    result.approvalId = row.approvalId ∧ result.retentionDeadline = row.retentionDeadline) ∨
  (NoPending row.approvalId db ∧ NoResult row.approvalId db ∧
    ∃ e ∈ later, Passes e.input e.output row.retentionDeadline)

/-- The number of records the ledger is configured to hold at once. -/
def LedgerObject.capacity (ledger : LedgerObject) : Int :=
  match ledger.governance with
  | none => 0
  | some governance => max 0 governance.retention.maxPendingRecords

theorem outboxInv_of_unused (h : Unused db) : OutboxInv db where
  ungoverned _ := h
  pending := by simp [h.1]
  results := by simp [h.2.1]
  apart := by simp [h.1]

theorem outboxInv_step (codec : WireCodec) (db : Db) (call : Call) (inv : OutboxInv db) :
    OutboxInv (step codec call db).2 :=
  (step_effect codec call db).outboxInv inv

/-- The record and the pairing an enqueueing call leaves. -/
theorem Effect.enqueued (effect : Effect codec db call out db') {ledger : LedgerObject}
    {verified : VerifiedApproval} {consumedAt : Int} {governance : GovernanceBinding}
    {arguments : OutboxArguments} {io : Io}
    (isCall : call = .consumeGoverned ledger (some verified) (some consumedAt) (some governance)
      arguments io)
    (enabled : ledger.outboxEnabled = true) (returned : accepted out = true) :
    Consumed verified consumedAt (some governance) db db' ∧ ∃ wires statementDigest,
      arguments.wires = some wires ∧
        Enqueued codec verified wires statementDigest consumedAt governance.retention db db' := by
  cases effect with
  | raised e => simp [accepted, Except.isOk, Except.toBool] at returned
  | governed consumed outbox =>
    injection isCall with h1 h2 h3 h4 h5 h6
    cases h1; cases h2; cases h3; cases h5
    rw [h4] at consumed outbox
    simp only [OutboxEffect, enabled, if_true] at outbox
    exact ⟨consumed, outbox⟩
  | _ => cases isCall

/-- No call makes a consumed approval pending again. -/
theorem Effect.noPending (effect : Effect codec db call out db') {approvalId : Bytes}
    (consumed : IsConsumed approvalId db) (none : NoPending approvalId db) :
    NoPending approvalId db' := by
  intro row stored same
  rcases effect.outbox_origin row stored with ⟨old, pending, unleased⟩ | ⟨fresh, -⟩
  · exact none old pending ((approvalId_of_unleased unleased).trans same)
  · exact fresh (same ▸ consumed)

/-- An approval that is not pending gets no result. -/
theorem Effect.noResult (effect : Effect codec db call out db') {approvalId : Bytes}
    (noPending : NoPending approvalId db) (none : NoResult approvalId db) :
    NoResult approvalId db' := by
  intro row stored same
  rcases effect.result_origin row stored with old | ⟨⟨source, pending, isSource⟩, -⟩
  · exact none row old same
  · exact noPending source pending (isSource.trans same)

/-- A call keeps an enqueued record in custody. -/
theorem Effect.custody (inv : OutboxInv db) (effect : Effect codec db call out db')
    {later : List LedgerEvent} {row : OutboxRow} (consumed : IsConsumed row.approvalId db)
    (custody : Custody later row db) : Custody (later ++ [⟨db, call, out, db'⟩]) row db' := by
  have now : (⟨db, call, out, db'⟩ : LedgerEvent) ∈ later ++ [⟨db, call, out, db'⟩] :=
    List.mem_append_right _ List.mem_cons_self
  rcases custody with ⟨⟨pending, stored, same⟩, -⟩ | ⟨noPending, result, stored, same, deadline⟩ |
    ⟨noPending, noResult, e, he, passes⟩
  · have approval := approvalId_of_unleased same
    have retention : pending.unleased.retentionDeadline = row.unleased.retentionDeadline := by
      rw [same]
    have retention : pending.retentionDeadline = row.retentionDeadline := retention
    have fate := effect.outbox_fate inv pending stored
    rw [approval, retention] at fate
    rcases fate with ⟨kept, isKept, unleased⟩ |
      ⟨noPending, ⟨noResult, passes⟩ | ⟨-, completed⟩⟩
    · refine .inl ⟨⟨kept, isKept, unleased.trans same⟩, ?_⟩
      rw [← approval, ← approvalId_of_unleased unleased]
      exact (effect.outboxInv inv).apart kept isKept
    · exact .inr (.inr ⟨noPending, noResult, _, now, passes⟩)
    · exact .inr (.inl ⟨noPending, completed⟩)
  · have fate := effect.result_fate inv result stored
    rw [same, deadline] at fate
    rcases fate with kept | ⟨noResult, passes⟩
    · exact .inr (.inl ⟨effect.noPending consumed noPending, result, kept, same, deadline⟩)
    · exact .inr (.inr ⟨effect.noPending consumed noPending, noResult, _, now, passes⟩)
  · exact .inr (.inr ⟨effect.noPending consumed noPending, effect.noResult noPending noResult, e,
      List.mem_append_left _ he, passes⟩)

/-! ## Capacity -/

theorem capacity_nonneg (ledger : LedgerObject) : 0 ≤ ledger.capacity := by
  unfold LedgerObject.capacity
  split
  · exact le_refl _
  · exact le_max_left _ _

/-- The number of pending records grows only by an enqueueing call, which checked the capacity. -/
theorem Effect.count (effect : Effect codec db call out db') {ledger : LedgerObject}
    (one : call.on ledger) (bounded : (db.approvalOutbox.count : Int) ≤ ledger.capacity) :
    (db'.approvalOutbox.count : Int) ≤ ledger.capacity := by
  have pruned : ∀ now, ((prunedOutbox now db).count : Int) ≤ ledger.capacity := fun now =>
    le_trans (Int.ofNat_le.mpr (List.length_filter_le _ _)) bounded
  cases effect with
  | raised e => exact bounded
  | opened opened =>
    rcases opened.tables with untouched | ⟨-, empty, -⟩
    · rw [untouched.outbox]; exact bounded
    · rw [empty]; exact capacity_nonneg ledger
  | consumed consumed untouched => rw [untouched.outbox]; exact bounded
  | governed consumed outbox =>
    obtain rfl : _ = ledger := one
    unfold OutboxEffect at outbox
    split at outbox
    · rw [outbox.outbox]; exact bounded
    · rename_i governance isGovernance
      split at outbox
      · obtain ⟨wires, statementDigest, -, enqueued⟩ := outbox
        have full := enqueued.capacity
        rw [Table.count, (Table.insert_eq_some.mp enqueued.outbox).2.2, List.length_append,
          List.length_singleton]
        rw [Table.count] at full
        simp only [LedgerObject.capacity, isGovernance]
        omega
      · rw [outbox.outbox]; exact bounded
  | @unclaimed _ arguments _ _ governed => exact pruned arguments.currentTime
  | @leased _ arguments _ _ _ _ _ live leased =>
    rw [Table.count, leased.outbox, List.length_map]
    exact pruned arguments.currentTime
  | @retried _ arguments _ _ _ _ retried => rw [retried.pruned]; exact pruned arguments.currentTime
  | @recorded _ arguments _ _ _ _ _ recorded =>
    rw [Table.count, recorded.outbox]
    exact le_trans (Int.ofNat_le.mpr (List.length_filter_le _ _)) (pruned arguments.currentTime)
  | read governed => exact bounded

/-! ## Runs -/

/-- The event left a pending record for its approval, with the policy's deadline, and its pairing. -/
def LeftRecord (e : LedgerEvent) (verified : VerifiedApproval) (consumedAt : Int)
    (retention : RetentionPolicy) (row : OutboxRow) (pairing : PairingRow) : Prop :=
  row ∈ e.post.approvalOutbox.rows ∧ row.approvalId = verified.approvalId ∧
    row.observableCommitment = verified.observableCommitment ∧
    row.retentionDeadline = consumedAt + retention.maxRetentionSeconds ∧
    pairing = pairingRow verified row.statementDigest consumedAt

theorem custody_of_enqueues {h₁ h₂ : List LedgerEvent} {e : LedgerEvent}
    (run : Run (step codec) Unused (h₁ ++ e :: h₂) db) {verified : VerifiedApproval}
    {consumedAt : Int} {retention : RetentionPolicy}
    (enqueues : Enqueues e verified consumedAt retention) :
    ∃ row pairing, LeftRecord e verified consumedAt retention row pairing ∧ Custody h₂ row db ∧
      pairing ∈ db.threatHintV2Pairings.rows := by
  obtain ⟨ledger, governance, arguments, io, isCall, enabled, returned, rfl⟩ := enqueues
  have effect := event_effect run (List.mem_append_right _ List.mem_cons_self)
  obtain ⟨consumed, wires, statementDigest, -, enqueued⟩ := effect.enqueued isCall enabled returned
  let row := pendingRow verified wires statementDigest consumedAt
    (consumedAt + governance.retention.maxRetentionSeconds)
  let pairing := pairingRow verified statementDigest consumedAt
  have pending : row ∈ e.post.approvalOutbox.rows := by
    rw [(Table.insert_eq_some.mp enqueued.outbox).2.2]
    exact List.mem_append_right _ (List.mem_singleton_self _)
  have paired : pairing ∈ e.post.threatHintV2Pairings.rows := by
    rw [(Table.insert_eq_some.mp enqueued.pairings).2.2]
    exact List.mem_append_right _ (List.mem_singleton_self _)
  refine ⟨row, pairing, ⟨pending, rfl, rfl, rfl, rfl⟩, ?_⟩
  have since := run.since OutboxInv (fun _ => outboxInv_of_unused)
    (fun s i inv => outboxInv_step codec s i inv)
    (fun later s => IsConsumed row.approvalId s ∧ Custody later row s ∧
      pairing ∈ s.threatHintV2Pairings.rows) ?_ ?_
  · exact since.2
  · intro inv
    exact ⟨consumed.isConsumed, .inl ⟨⟨row, pending, rfl⟩, (effect.outboxInv inv).apart row pending⟩,
      paired⟩
  · intro later s i inv kept
    have effect := step_effect codec i s
    exact ⟨kept.1.kept effect, effect.custody inv kept.1 kept.2.1,
      (effect.pairings inv).subset kept.2.2⟩

/-- Over any run on one ledger that starts with empty outbox tables:
every enqueued record is in custody ever after, and its pairing stays;
no approval has both a pending record and a result;
a pending record disappears in a call only when that call passed its deadline or completed it;
pairings are only ever added, and any key of a pairing determines it;
and the pending records never exceed the configured number. -/
theorem outbox_conserved {ledger : LedgerObject} {h : List LedgerEvent}
    (run : Run (step codec) Unused h db) (one : ∀ e ∈ h, e.input.on ledger) :
    (∀ (h₁ h₂ : List LedgerEvent) (e : LedgerEvent), h = h₁ ++ e :: h₂ →
      ∀ verified consumedAt retention,
      Enqueues e verified consumedAt retention →
        ∃ row pairing, LeftRecord e verified consumedAt retention row pairing ∧
          Custody h₂ row db ∧ pairing ∈ db.threatHintV2Pairings.rows) ∧
    (∀ row ∈ db.approvalOutbox.rows, NoResult row.approvalId db) ∧
    (∀ e ∈ h, ∀ row ∈ e.pre.approvalOutbox.rows,
      (∃ kept ∈ e.post.approvalOutbox.rows, kept.unleased = row.unleased) ∨
      NoPending row.approvalId e.post ∧
        (NoResult row.approvalId e.post ∧ Passes e.input e.output row.retentionDeadline ∨
          Completes e.input e.output row.approvalId ∧
            ∃ result ∈ e.post.observableAnalysisResults.rows,
              result.approvalId = row.approvalId ∧
                result.retentionDeadline = row.retentionDeadline)) ∧
    (∀ e ∈ h, e.pre.threatHintV2Pairings.rows <+: e.post.threatHintV2Pairings.rows) ∧
    (∀ p ∈ db.threatHintV2Pairings.rows, ∀ q ∈ db.threatHintV2Pairings.rows,
      (p.statementDigest = q.statementDigest ∨ p.approvalId = q.approvalId ∨
        p.observableCommitment = q.observableCommitment) → p = q) ∧
    (db.approvalOutbox.count : Int) ≤ ledger.capacity := by
  have start := fun (s : Db) (unused : Unused s) => outboxInv_of_unused unused
  have keeps := fun (s : Db) (i : Call) (inv : OutboxInv s) => outboxInv_step codec s i inv
  refine ⟨?_, (run.invariant OutboxInv start keeps).apart, ?_, ?_, ?_, ?_⟩
  · rintro h₁ h₂ e rfl verified consumedAt retention enqueues
    exact custody_of_enqueues run enqueues
  · exact run.events OutboxInv start keeps fun s i inv => (step_effect codec i s).outbox_fate inv
  · exact run.events OutboxInv start keeps fun s i inv => (step_effect codec i s).pairings inv
  · intro p hp q hq shared
    refine db.threatHintV2Pairings.eq_of_conflict hp hq ?_
    simpa [pairingSchema, or_assoc] using shared
  · induction run with
    | start s unused =>
      rw [Table.count, unused.1]
      exact capacity_nonneg ledger
    | call i run ih =>
      have before := ih fun e he => one e (List.mem_append_left _ he)
      exact (step_effect codec i _).count
        (one _ (List.mem_append_right _ List.mem_cons_self)) before

/-! ### A run -/

/-- A codec whose wires are the bound values one after the other. -/
def sampleCodec : WireCodec where
  sha256 := sha256
  parseStatement wire _ :=
    if wire.length = 64 then .ok ⟨hex (wire.take 32), hex (wire.drop 32), sha256 wire⟩
    else .error .valueError
  bundleCommitment wire _ _ := .ok (wire.take 32)
  decodeAnalysisResult wire :=
    if wire.length = 128 then
      some ⟨hex (wire.take 32), hex ((wire.drop 32).take 32), hex ((wire.drop 64).take 32),
        hex (wire.drop 96)⟩
    else none

/-- The wires that bind the sample approval of an identity. -/
def sampleWires (identity : UInt8) : OutboxWires where
  bundleWire := List.replicate 32 identity
  statementWire := List.replicate 32 identity ++ List.replicate 32 8
  reportNonce := List.replicate 32 8

/-- A governed consumption of the sample approval of an identity. -/
def sampleEnqueue (identity : UInt8) (consumedAt : Int) : Call :=
  .consumeGoverned outboxLedger (some (sampleApproval identity identity)) (some consumedAt)
    outboxLedger.governance
    ⟨some (sampleWires identity).bundleWire, some (some (sampleWires identity).statementWire),
      some (sampleWires identity).reportNonce⟩ .none

/-- The record that call leaves. -/
def sampleRow (identity : UInt8) (consumedAt : Int) : OutboxRow :=
  pendingRow (sampleApproval identity identity) (sampleWires identity)
    (sha256 (sampleWires identity).statementWire) consumedAt (consumedAt + 50)

/-- Claim at a time for ten seconds; the token is filled with one byte. -/
def sampleClaim (token : UInt8) (currentTime : Int) : Call :=
  .claim sampleOutbox (some ⟨currentTime, 10⟩) (List.replicate 32 token) .none

/-- The arguments that complete the record of an identity under a lease. -/
def sampleCompletion (identity token : UInt8) (consumedAt leaseExpiresAt currentTime : Int) :
    CompleteArguments :=
  let row := sampleRow identity consumedAt
  let inputIdentity := sha256 (analysisInputPreimage (str "testnet-10") row
    (List.replicate 32 token) leaseExpiresAt)
  { approvalId := row.approvalId
    leaseToken := List.replicate 32 token
    completionToken := List.replicate 32 6
    inputIdentity := inputIdentity
    resultWire := row.approvalId ++ inputIdentity ++ row.statementDigest ++
      row.observableCommitment
    currentTime := currentTime }

/-- Enqueue two approvals, complete the first, and let the second and then the result expire. -/
def conservationCalls : List Call :=
  [.openLedger outboxLedger .none, sampleEnqueue 1 10, sampleClaim 6 12,
    .complete sampleOutbox (some (sampleCompletion 1 6 10 22 15)) .none, sampleEnqueue 2 20,
    .result (some ⟨List.replicate 32 1, 62⟩) .none, sampleClaim 7 80]

theorem outbox_conserved_expiring :
    let run := execute (step sampleCodec) conservationCalls Db.fresh
    run.1.map (fun e => (accepted e.output, e.post.approvalOutbox.count,
        e.post.observableAnalysisResults.count, e.post.threatHintV2Pairings.count)) =
      [(true, 0, 0, 0), (true, 1, 0, 1), (true, 1, 0, 1), (true, 0, 1, 1), (true, 1, 1, 2),
        (true, 1, 0, 2), (true, 0, 0, 2)] ∧
      (∀ (h₁ h₂ : List LedgerEvent) (e : LedgerEvent), run.1 = h₁ ++ e :: h₂ →
        ∀ verified consumedAt retention,
        Enqueues e verified consumedAt retention →
          ∃ row pairing, LeftRecord e verified consumedAt retention row pairing ∧
            Custody h₂ row run.2 ∧ pairing ∈ run.2.threatHintV2Pairings.rows) := by
  have unused : Unused Db.fresh := ⟨rfl, rfl, rfl⟩
  have one : ∀ e ∈ (execute (step sampleCodec) conservationCalls Db.fresh).1,
      e.input.on outboxLedger := by
    simp [execute, conservationCalls, callEvent, sampleEnqueue, sampleClaim, Call.on]
  exact ⟨by decide +kernel,
    (outbox_conserved (Run.of_execute unused conservationCalls) one).1⟩

end Prometheus.Jaeger.ApprovalLedger
