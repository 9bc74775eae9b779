import Prometheus.Jaeger.ApprovalLedger.OutboxEffects

/-!
# One-time consumption

Over any run of calls on one ledger file, failing calls and reopening included, no approval and no
nonce of an approver is consumed twice, and the clock only moves forward. The clock is moved by
consumptions alone: a claim, a completion or a lookup may be accepted at a later time and leave it
where it was.
-/

namespace Prometheus.Jaeger.ApprovalLedger

open Prometheus.Codec Prometheus.Machine

variable {codec : WireCodec} {db db' : Db} {call : Call} {out : Except ConsumptionError Answer}

/-- The approval and the time of a consumption call. -/
def Call.consumption : Call → Option (VerifiedApproval × Int)
  | .consume _ (some verified) (some consumedAt) _ => some (verified, consumedAt)
  | .consumeGoverned _ (some verified) (some consumedAt) _ _ _ => some (verified, consumedAt)
  | _ => none

/-- The time a caller supplies. -/
def Call.suppliedTime : Call → Option Int
  | .openLedger _ _ => none
  | .consume _ _ consumedAt _ => consumedAt
  | .consumeGoverned _ _ consumedAt _ _ _ => consumedAt
  | .claim _ arguments _ _ => arguments.map ClaimArguments.currentTime
  | .complete _ arguments _ => arguments.map CompleteArguments.currentTime
  | .result arguments _ => arguments.map ResultArguments.currentTime

/-- Whether a call returned rather than raised. -/
def accepted (out : Except ConsumptionError Answer) : Bool := out.isOk

/-- The event is a consumption of `verified` at `consumedAt` that returned. -/
def Consumes (e : LedgerEvent) (verified : VerifiedApproval) (consumedAt : Int) : Prop :=
  e.input.consumption = some (verified, consumedAt) ∧ accepted e.output = true

/-- The two keys of `approval_consumptions` a consumption uses up. -/
def SharesKey (a b : VerifiedApproval) : Prop :=
  a.approvalId = b.approvalId ∨
    a.approverXonlyPublicKey = b.approverXonlyPublicKey ∧ a.approvalNonce = b.approvalNonce

/-- A consumption that returned had the effect of one. -/
theorem Effect.consumed_of_accepted {verified : VerifiedApproval} {consumedAt : Int}
    (effect : Effect codec db call out db') (isCall : call.consumption = some (verified, consumedAt))
    (returned : accepted out = true) :
    ∃ governance, Consumed verified consumedAt governance db db' := by
  cases effect with
  | raised e => simp [accepted, Except.isOk, Except.toBool] at returned
  | consumed consumed untouched =>
    obtain ⟨rfl, rfl⟩ := Prod.mk.inj (Option.some.inj isCall)
    exact ⟨_, consumed⟩
  | governed consumed outbox =>
    obtain ⟨rfl, rfl⟩ := Prod.mk.inj (Option.some.inj isCall)
    exact ⟨_, consumed⟩
  | _ => simp [Call.consumption] at isCall

/-- Consumption rows are never changed or removed. -/
theorem Effect.consumptions (effect : Effect codec db call out db') :
    db.approvalConsumptions.rows <+: db'.approvalConsumptions.rows := by
  cases effect with
  | raised e => exact List.prefix_refl _
  | opened opened => rw [opened.consumptions]
  | consumed consumed untouched => exact ⟨_, (Table.insert_eq_some.mp consumed.inserted).2.2.symm⟩
  | governed consumed outbox => exact ⟨_, (Table.insert_eq_some.mp consumed.inserted).2.2.symm⟩
  | unclaimed governed => exact List.prefix_refl _
  | leased live leased => rw [leased.frame]
  | retried retried => rw [retried.pruned]; exact List.prefix_refl _
  | recorded recorded => rw [recorded.frame]
  | read governed => exact List.prefix_refl _

/-- The clock never goes back. -/
theorem Effect.clock (effect : Effect codec db call out db') {before : Int}
    (h : db.ledgerState = some before) : ∃ after, db'.ledgerState = some after ∧ before ≤ after := by
  cases effect with
  | raised e => exact ⟨before, h, le_refl _⟩
  | opened opened =>
    rcases opened.clock with kept | created
    · exact ⟨before, kept.trans h, le_refl _⟩
    · exact ⟨before, by rw [created, h]; rfl, le_refl _⟩
  | consumed consumed untouched =>
    obtain ⟨stored, isStored, notEarlier⟩ := consumed.highWater
    obtain rfl := Option.some.inj (h.symm.trans isStored)
    exact ⟨_, consumed.advanced, notEarlier⟩
  | governed consumed outbox =>
    obtain ⟨stored, isStored, notEarlier⟩ := consumed.highWater
    obtain rfl := Option.some.inj (h.symm.trans isStored)
    exact ⟨_, consumed.advanced, notEarlier⟩
  | unclaimed governed => exact ⟨before, h, le_refl _⟩
  | leased live leased => exact ⟨before, by rw [leased.frame]; exact h, le_refl _⟩
  | retried retried => exact ⟨before, by rw [retried.pruned]; exact h, le_refl _⟩
  | recorded recorded => exact ⟨before, by rw [recorded.frame]; exact h, le_refl _⟩
  | read governed => exact ⟨before, h, le_refl _⟩

/-- What an accepted consumption leaves in the file for good: its row, and a clock at or after its
time. -/
def ConsumptionMark (e : LedgerEvent) (db : Db) : Prop :=
  ∀ verified consumedAt, Consumes e verified consumedAt →
    verified.consumptionRow consumedAt ∈ db.approvalConsumptions.rows ∧
      ∃ highWater, db.ledgerState = some highWater ∧ consumedAt ≤ highWater

theorem consumptionMark_left (codec : WireCodec) (db : Db) (call : Call) :
    ConsumptionMark (callEvent (step codec) db call) (step codec call db).2 := by
  rintro verified consumedAt ⟨isCall, returned⟩
  obtain ⟨governance, consumed⟩ := (step_effect codec call db).consumed_of_accepted isCall returned
  refine ⟨?_, _, consumed.advanced, le_refl _⟩
  rw [(Table.insert_eq_some.mp consumed.inserted).2.2]
  exact List.mem_append_right _ (List.mem_singleton_self _)

theorem consumptionMark_kept (codec : WireCodec) (e : LedgerEvent) (db : Db) (call : Call)
    (mark : ConsumptionMark e db) : ConsumptionMark e (step codec call db).2 := by
  intro verified consumedAt consumes
  obtain ⟨stored, highWater, isHighWater, reached⟩ := mark verified consumedAt consumes
  have effect := step_effect codec call db
  obtain ⟨after, isAfter, notEarlier⟩ := effect.clock isHighWater
  exact ⟨effect.consumptions.subset stored, after, isAfter, le_trans reached notEarlier⟩

/-- A consumption that finds the row of an earlier one shares no key with it. -/
theorem consumed_apart {verified verified' : VerifiedApproval} {consumedAt consumedAt' : Int}
    {governance : Option GovernanceBinding}
    (stored : verified.consumptionRow consumedAt ∈ db.approvalConsumptions.rows)
    (consumed : Consumed verified' consumedAt' governance db db') :
    ¬ SharesKey verified verified' := by
  have apart := (Table.insert_eq_some.mp consumed.inserted).2.1 _ stored
  simp only [consumptionSchema, VerifiedApproval.consumptionRow, Bool.or_eq_false_iff,
    Bool.and_eq_false_iff, decide_eq_false_iff_not] at apart
  rintro (sameId | ⟨sameKey, sameNonce⟩)
  · exact apart.1 sameId
  · rcases apart.2 with keys | nonces
    · exact keys sameKey
    · exact nonces sameNonce

/-- The events of a run have the effects of their calls. -/
theorem event_effect {init : Db → Prop} {h : List LedgerEvent} (run : Run (step codec) init h db)
    {e : LedgerEvent} (he : e ∈ h) : Effect codec e.pre e.input e.output e.post := by
  have isStep := run.steps e he
  have effect := step_effect codec e.input e.pre
  rw [isStep]
  exact effect

/-- Over any run on a ledger file, whatever it holds at the start: two accepted consumptions share
neither the approval nor the approver's nonce; no call moves the clock back; and each consumption
was accepted within its window, at or after the clock it found, and the clock is at or after its
time ever since. -/
theorem consumption_once {h : List LedgerEvent} (run : Run (step codec) (fun _ => True) h db) :
    (h.Pairwise fun e e' => ∀ verified verified' consumedAt consumedAt',
      Consumes e verified consumedAt → Consumes e' verified' consumedAt' →
        ¬ SharesKey verified verified') ∧
    (∀ e ∈ h, ∀ before, e.pre.ledgerState = some before →
      ∃ after, e.post.ledgerState = some after ∧ before ≤ after) ∧
    (∀ e ∈ h, ∀ verified consumedAt, Consumes e verified consumedAt →
      verified.notBefore ≤ consumedAt ∧ consumedAt ≤ verified.expiresAt ∧
      (∃ highWater, e.pre.ledgerState = some highWater ∧ highWater ≤ consumedAt) ∧
      ∃ highWater, db.ledgerState = some highWater ∧ consumedAt ≤ highWater) := by
  have left := fun s i (_ : True) => consumptionMark_left codec s i
  have kept := fun e s i (_ : True) => consumptionMark_kept codec e s i
  refine ⟨?_, ?_, ?_⟩
  · refine run.pairwise (fun _ => True) (fun _ _ => trivial) (fun _ _ _ => trivial) left kept ?_
    intro e s i _ mark verified verified' consumedAt consumedAt' first second
    obtain ⟨governance, consumed⟩ :=
      (step_effect codec i s).consumed_of_accepted second.1 second.2
    exact consumed_apart (mark verified consumedAt first).1 consumed
  · intro e he before isBefore
    exact (event_effect run he).clock isBefore
  · intro e he verified consumedAt consumes
    obtain ⟨governance, consumed⟩ :=
      (event_effect run he).consumed_of_accepted consumes.1 consumes.2
    have marks := run.mark (fun _ => True) (fun _ _ => trivial) (fun _ _ _ => trivial) left kept
    exact ⟨consumed.window.2.1, consumed.window.2.2, consumed.highWater,
      (marks e he verified consumedAt consumes).2⟩

/-! ### Two runs

The codec of these runs refuses every wire; neither run reaches one. -/

/-- A codec that refuses every wire. -/
def refusingCodec : WireCodec :=
  ⟨id, fun _ _ => .error .valueError, fun _ _ _ => .error .valueError, fun _ => none⟩

/-- An ungoverned ledger object. -/
def plainLedger : LedgerObject := ⟨none, false, by simp⟩

/-- An approval whose identity and nonce are filled with two given bytes. -/
def sampleApproval (identity nonce : UInt8) : VerifiedApproval where
  approvalId := List.replicate 32 identity
  observableCommitment := List.replicate 32 identity
  approverXonlyPublicKey := List.replicate 32 7
  recipientScope := List.replicate 32 9
  approvalNonce := List.replicate 32 nonce
  networkId := str "testnet-10"
  notBefore := 1
  expiresAt := 100

/-- Consume, reopen, replay the approval, then its nonce, then go back in time, then consume anew. -/
def replayCalls : List Call :=
  [.openLedger plainLedger .none,
    .consume plainLedger (some (sampleApproval 1 1)) (some 10) .none,
    .openLedger plainLedger .none,
    .consume plainLedger (some (sampleApproval 1 2)) (some 11) .none,
    .consume plainLedger (some (sampleApproval 2 1)) (some 11) .none,
    .consume plainLedger (some (sampleApproval 3 3)) (some 9) .none,
    .consume plainLedger (some (sampleApproval 3 3)) (some 12) .none]

theorem consumption_once_replayed :
    let run := execute (step refusingCodec) replayCalls Db.fresh
    run.1.map (fun e => accepted e.output) = [true, true, true, false, false, false, true] ∧
      (run.1.Pairwise fun e e' => ∀ verified verified' consumedAt consumedAt',
        Consumes e verified consumedAt → Consumes e' verified' consumedAt' →
          ¬ SharesKey verified verified') :=
  ⟨by decide, (consumption_once (Run.of_execute trivial replayCalls)).1⟩

/-- A governance snapshot for the sample approvals. -/
def sampleGovernance : GovernanceBinding where
  objectId := 0
  policy :=
    { networkId := str "testnet-10", approverXonlyPublicKey := List.replicate 32 7
      recipientScope := List.replicate 32 9, authorityEpoch := 1, authorityNotBefore := 1
      authorityNotAfter := 1000, policySha256 := List.replicate 32 3 }
  retention :=
    { maxPendingRecords := 2, maxRetentionSeconds := 50, policySha256 := List.replicate 32 4 }
  promotionPolicySha256 := List.replicate 32 5

/-- A governed ledger object with the durable outbox. -/
def outboxLedger : LedgerObject := ⟨some sampleGovernance, true, by simp⟩

/-- An outbox object on the sample network. -/
def sampleOutbox : OutboxObject := ⟨str "testnet-10", by decide⟩

/-- Open a governed ledger and claim from its empty outbox. -/
def emptyClaimCalls : List Call :=
  [.openLedger outboxLedger .none, .claim sampleOutbox (some ⟨5, 10⟩) (List.replicate 32 1) .none]

/-- A claim is accepted at a later time than the clock it leaves behind. -/
theorem clock_behind_accepted_claim :
    ¬ ∀ (codec : WireCodec) (h : List LedgerEvent) (db : Db),
      Run (step codec) (fun _ => True) h db → ∀ e ∈ h, ∀ time, accepted e.output = true →
        e.input.suppliedTime = some time →
          ∃ highWater, e.post.ledgerState = some highWater ∧ time ≤ highWater := by
  intro claim
  let opened := (step refusingCodec (.openLedger outboxLedger .none) Db.fresh).2
  let event := callEvent (step refusingCodec) opened
    (.claim sampleOutbox (some ⟨5, 10⟩) (List.replicate 32 1) .none)
  have found : event ∈ (execute (step refusingCodec) emptyClaimCalls Db.fresh).1 :=
    List.mem_cons_of_mem _ List.mem_cons_self
  obtain ⟨highWater, isHighWater, reached⟩ := claim refusingCodec _ _
    (Run.of_execute trivial emptyClaimCalls) event found 5 (by decide) rfl
  have zero : event.post.ledgerState = some 0 := by decide
  obtain rfl := Option.some.inj (zero.symm.trans isHighWater)
  exact absurd reached (by decide)

end Prometheus.Jaeger.ApprovalLedger
