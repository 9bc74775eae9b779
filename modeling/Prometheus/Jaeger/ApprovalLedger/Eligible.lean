import Prometheus.Jaeger.ApprovalLedger.Conservation

/-!
# A claim never trips over a stored record

What the enqueue checked of a record under its network is what the claim checks of it again, and no
call changes it in between. A claim of that network therefore leases the oldest eligible record, or
returns `None` because there is none.
-/

namespace Prometheus.Jaeger.ApprovalLedger

open Prometheus.Codec Prometheus.Machine

variable {codec : WireCodec} {db db' : Db} {call : Call} {out : Except ConsumptionError Answer}
  {networkId : Str}

/-! ## Records that pass their checks again -/

/-- The record passes every check of `claim`. -/
structure PassesAgain (codec : WireCodec) (networkId : Str) (row : OutboxRow) : Prop where
  valid : validateOutboxRow row = true
  statement : validateOutboxStatement codec row.statementWire networkId row.observableCommitment
    row.reportNonce = .ok row.statementDigest
  bundle : checkBundle codec row.bundleWire networkId row.reportNonce row.observableCommitment =
    .ok ()

theorem PassesAgain.revalidated {row : OutboxRow} (passes : PassesAgain codec networkId row) :
    revalidateOutboxRow codec row networkId = .ok () := by
  rw [revalidateOutboxRow, if_pos passes.valid, passes.statement, passes.bundle]
  simp only [bind, Except.bind, if_true]

/-- The checks do not read the lease. -/
theorem PassesAgain.of_unleased {old row : OutboxRow} (passes : PassesAgain codec networkId old)
    (same : old.unleased = row.unleased) : PassesAgain codec networkId row := by
  obtain ⟨approvalId, commitment, bundle, statement, digest, nonce, enqueuedAt, deadline, token,
    expiry⟩ := row
  obtain ⟨rfl, rfl, rfl, rfl, rfl, rfl, rfl, rfl, -, -⟩ := OutboxRow.mk.inj same
  exact ⟨passes.valid, passes.statement, passes.bundle⟩

/-- What the enqueue checked is what the claim checks. -/
theorem Enqueued.passesAgain {verified : VerifiedApproval} {wires : OutboxWires}
    {statementDigest : Bytes} {consumedAt : Int} {retention : RetentionPolicy}
    (enqueued : Enqueued codec verified wires statementDigest consumedAt retention db db') :
    PassesAgain codec verified.networkId (pendingRow verified wires statementDigest consumedAt
      (consumedAt + retention.maxRetentionSeconds)) := by
  have checked := (Table.insert_eq_some.mp enqueued.outbox).1
  have statement := enqueued.statement
  unfold validateOutboxStatement at statement
  split at statement
  · rename_i sizes
    refine ⟨?_, enqueued.statement, enqueued.bundle⟩
    simp only [outboxSchema, pendingRow, Bool.and_eq_true, decide_eq_true_eq] at checked
    have positive : 1 ≤ consumedAt + retention.maxRetentionSeconds := by omega
    simp [validateOutboxRow, pendingRow, checked, sizes, enqueued.bundleLength, positive]
  · cases statement

/-- An approval that a call enqueues is one of this network. -/
def Call.OnNetwork (networkId : Str) : Call → Prop
  | .consumeGoverned _ (some verified) _ _ _ _ => verified.networkId = networkId
  | _ => True

theorem Effect.passesAgain (effect : Effect codec db call out db') (on : call.OnNetwork networkId)
    (passes : ∀ row ∈ db.approvalOutbox.rows, PassesAgain codec networkId row) :
    ∀ row ∈ db'.approvalOutbox.rows, PassesAgain codec networkId row := by
  intro row stored
  rcases effect.outbox_source row stored with ⟨old, wasStored, same⟩ | posts
  · exact (passes old wasStored).of_unleased same
  · obtain ⟨ledger, verified, consumedAt, arguments, io, wires, statementDigest, retention, isCall, -,
      enqueued, rfl⟩ := posts
    rw [isCall] at on
    have sameNetwork : verified.networkId = networkId := on
    exact sameNetwork ▸ enqueued.passesAgain

theorem passesAgain_of_run {h : List LedgerEvent} (run : Run (step codec) Unused h db)
    (on : ∀ e ∈ h, e.input.OnNetwork networkId) :
    ∀ row ∈ db.approvalOutbox.rows, PassesAgain codec networkId row := by
  induction run with
  | start s unused =>
    intro row stored
    rw [unused.1] at stored
    cases stored
  | call i run ih =>
    have before := ih fun e he => on e (List.mem_append_left _ he)
    exact (step_effect codec i _).passesAgain
      (on _ (List.mem_append_right _ List.mem_cons_self)) before

/-! ## The oldest record -/

theorem oldest_eq_none {rows : List OutboxRow} : oldest rows = none ↔ rows = [] := by
  cases rows with
  | nil => simp [oldest]
  | cons row rest =>
    cases found : oldest rest with
    | none => simp [oldest, found]
    | some other =>
      simp only [oldest, found, reduceCtorEq, iff_false]
      split <;> simp

theorem orderedBefore_iff {a b : OutboxRow} :
    orderedBefore a b = true ↔
      a.enqueuedAt < b.enqueuedAt ∨ a.enqueuedAt = b.enqueuedAt ∧ a.approvalId < b.approvalId := by
  rw [orderedBefore, Bool.or_eq_true, Bool.and_eq_true, decide_eq_true_iff, decide_eq_true_iff,
    decide_eq_true_iff]

theorem orderedBefore_irrefl (a : OutboxRow) : ¬ orderedBefore a a = true := by
  rw [orderedBefore_iff]
  rintro (before | ⟨-, before⟩)
  · exact lt_irrefl _ before
  · exact List.lt_irrefl _ before

theorem orderedBefore_asymm {a b : OutboxRow} (h : orderedBefore a b = true) :
    ¬ orderedBefore b a = true := by
  rw [orderedBefore_iff] at h ⊢
  rintro (late | ⟨same, late⟩)
  · rcases h with early | ⟨same, -⟩ <;> omega
  · rcases h with early | ⟨-, early⟩
    · omega
    · exact List.lt_irrefl _ (List.lt_trans early late)

/-- A record between two others is before the later or after the earlier one. -/
theorem orderedBefore_or {a c : OutboxRow} (h : orderedBefore a c = true) (b : OutboxRow) :
    orderedBefore a b = true ∨ orderedBefore b c = true := by
  rw [orderedBefore_iff] at h ⊢
  rw [orderedBefore_iff]
  rcases lt_trichotomy a.enqueuedAt b.enqueuedAt with earlier | same | later
  · exact .inl (.inl earlier)
  · rcases Std.lt_trichotomy a.approvalId b.approvalId with before | sameId | after
    · exact .inl (.inr ⟨same, before⟩)
    · rw [same, sameId] at h
      exact .inr h
    · right
      rw [← same]
      exact h.imp id fun ⟨sameTime, before⟩ => ⟨sameTime, List.lt_trans after before⟩
  · right
    left
    rcases h with before | ⟨sameTime, -⟩ <;> omega

theorem orderedBefore_total {a b : OutboxRow} (apart : a.approvalId ≠ b.approvalId) :
    orderedBefore a b = true ∨ orderedBefore b a = true := by
  rw [orderedBefore_iff, orderedBefore_iff]
  rcases lt_trichotomy a.enqueuedAt b.enqueuedAt with earlier | same | later
  · exact .inl (.inl earlier)
  · rcases Std.lt_trichotomy a.approvalId b.approvalId with before | sameId | after
    · exact .inl (.inr ⟨same, before⟩)
    · exact absurd sameId apart
    · exact .inr (.inr ⟨same.symm, after⟩)
  · exact .inr (.inl later)

/-- No record comes before the oldest one. -/
theorem oldest_first {rows : List OutboxRow} {row : OutboxRow} (h : oldest rows = some row) :
    ∀ other ∈ rows, ¬ orderedBefore other row = true := by
  induction rows generalizing row with
  | nil => cases h
  | cons first rest ih =>
    cases found : oldest rest with
    | none =>
      simp only [oldest, found, Option.some.injEq] at h
      rw [oldest_eq_none.mp found]
      subst h
      exact List.forall_mem_singleton.mpr (orderedBefore_irrefl _)
    | some least =>
      have isLeast := ih found
      simp only [oldest, found] at h
      by_cases before : orderedBefore least first = true
      · rw [if_pos before] at h
        obtain rfl := Option.some.inj h
        exact List.forall_mem_cons.mpr ⟨orderedBefore_asymm before, isLeast⟩
      · rw [if_neg before] at h
        obtain rfl := Option.some.inj h
        refine List.forall_mem_cons.mpr ⟨orderedBefore_irrefl _, fun other isRest after => ?_⟩
        exact (orderedBefore_or after least).elim (isLeast other isRest) before

/-! ## A claim -/

/-- An update that keeps the checks and the keys of its rows is not refused. -/
theorem update_some {Row : Type} {sch : Schema Row} {t : Table sch} {p : Row → Bool} {f : Row → Row}
    (checked : ∀ r ∈ t.rows, p r = true → sch.check (f r) = true)
    (keys : ∀ a b, sch.conflict (if p a then f a else a) (if p b then f b else b) = sch.conflict a b) :
    ∃ t', t.update p f = some t' := by
  have fits : (∀ r ∈ t.rows.map fun r => if p r then f r else r, sch.check r = true) ∧
      (t.rows.map fun r => if p r then f r else r).Pairwise fun a b => sch.conflict a b = false := by
    refine ⟨?_, ?_⟩
    · intro r isRow
      obtain ⟨old, stored, rfl⟩ := List.mem_map.mp isRow
      split
      · rename_i selected
        exact checked old stored selected
      · exact t.checked old stored
    · rw [List.pairwise_map]
      exact t.unique.imp fun {a b} apart => (keys a b).trans apart
  exact ⟨_, dif_pos fits⟩

theorem check_withLease {row : OutboxRow} {leaseToken : Bytes} {leaseExpiresAt : Int}
    (checked : outboxSchema.check row = true) (token : isFixedBytes leaseToken = true)
    (starts : 1 ≤ leaseExpiresAt) (ends : leaseExpiresAt ≤ row.retentionDeadline) :
    outboxSchema.check (row.withLease leaseToken leaseExpiresAt) = true := by
  simp only [outboxSchema, OutboxRow.withLease, Bool.and_eq_true, decide_eq_true_eq,
    Option.all_some] at checked ⊢
  exact ⟨⟨⟨⟨⟨checked.1.1.1.1.1, token⟩, starts⟩, rfl⟩, ends⟩, checked.2⟩

theorem writeLease_total {row : OutboxRow} {leaseToken : Bytes} {leaseExpiresAt now : Int}
    (stored : row ∈ db.approvalOutbox.rows) (expired : leaseOver now row = true)
    (token : isFixedBytes leaseToken = true) (starts : 1 ≤ leaseExpiresAt)
    (ends : leaseExpiresAt ≤ row.retentionDeadline) (time : -2 ^ 63 ≤ now ∧ now < 2 ^ 63) :
    ∃ db', writeLease row.approvalId leaseToken leaseExpiresAt now db = .ok ((), db') := by
  let matches' := fun r : OutboxRow => decide (r.approvalId = row.approvalId) && leaseOver now r
  have isRow : ∀ r ∈ db.approvalOutbox.rows, matches' r = true → r = row := by
    intro r isStored selected
    rw [Bool.and_eq_true, decide_eq_true_iff] at selected
    exact outboxRow_unique _ isStored stored selected.1
  have selectsRow : matches' row = true := by
    rw [Bool.and_eq_true, decide_eq_true_iff]
    exact ⟨rfl, expired⟩
  have keepsId : ∀ r : OutboxRow, (if matches' r then r.withLease leaseToken leaseExpiresAt
      else r).approvalId = r.approvalId := by
    intro r
    split <;> rfl
  have keepsChecks : ∀ r ∈ db.approvalOutbox.rows, matches' r = true →
      outboxSchema.check (r.withLease leaseToken leaseExpiresAt) = true := by
    intro r isStored selected
    obtain rfl := isRow r isStored selected
    exact check_withLease (db.approvalOutbox.checked r stored) token starts ends
  obtain ⟨outbox', updated⟩ := update_some keepsChecks fun a b => by
    simp only [outboxSchema, keepsId]
  have one : db.approvalOutbox.rows.filter matches' = [row] := by
    refine db.approvalOutbox.filter_eq_singleton stored selectsRow fun x selected => ?_
    rw [Bool.and_eq_true, decide_eq_true_iff] at selected
    exact decide_eq_true selected.1
  have deadline := db.approvalOutbox.checked row stored
  simp only [outboxSchema, isInteger, Bool.and_eq_true, decide_eq_true_eq] at deadline
  have bindable : -2 ^ 63 ≤ leaseExpiresAt ∧ leaseExpiresAt < 2 ^ 63 := by omega
  refine ⟨{ db with approvalOutbox := outbox' }, ?_⟩
  simp only [writeLease, Tx.bind_ok, Tx.query_ok, Tx.orRaise_ok, Tx.ensure_ok, bindInteger_ok,
    Tx.modify_ok]
  have single : (db.approvalOutbox.rows.filter matches').length == 1 := by
    rw [one]
    rfl
  exact ⟨(), db, ⟨bindable, rfl⟩, (), db, ⟨time, rfl⟩, db.approvalOutbox, db, ⟨rfl, rfl⟩, outbox', db,
    ⟨updated, rfl⟩, (), _, rfl, single, rfl⟩

/-- Arguments that `claim` accepts. -/
def ClaimArguments.Valid (arguments : ClaimArguments) : Prop :=
  isTimestamp arguments.currentTime = true ∧ 1 ≤ arguments.leaseSeconds ∧
    arguments.leaseSeconds ≤ maxOutboxLeaseSeconds ∧
    arguments.currentTime + arguments.leaseSeconds ≤ uint64Max

/-- The records that `claim` may lease. -/
def candidates (now : Int) (db : Db) : List OutboxRow :=
  db.approvalOutbox.rows.filter (eligible now)

theorem candidates_pruned (now : Int) (db : Db) : candidates now (db.pruned now) = candidates now db := by
  simp only [candidates, Db.pruned, prunedOutbox, Table.rows_delete, List.filter_filter]
  refine List.filter_congr fun row _ => ?_
  by_cases later : now < row.retentionDeadline
  · simp [eligible, later, not_le.mpr later]
  · simp [eligible, later]

theorem claimTransaction_total {now leaseEnd : Int} {leaseToken : Bytes}
    (governed : db.version = .governed) (time : -2 ^ 63 ≤ now ∧ now < 2 ^ 63) (starts : 1 ≤ leaseEnd)
    (token : isFixedBytes leaseToken = true)
    (passes : ∀ row ∈ db.approvalOutbox.rows, PassesAgain codec networkId row) :
    (∃ db', claimTransaction codec networkId now leaseEnd leaseToken db =
      .ok ((oldest (candidates now db)).map fun row => (row, min leaseEnd row.retentionDeadline),
        db')) := by
  cases found : oldest (candidates now db) with
  | none =>
    refine ⟨db.pruned now, prologue_ok.mpr ⟨governed, time, ?_⟩⟩
    simp only [Tx.bind_ok, Tx.query_ok]
    refine ⟨_, _, ⟨rfl, rfl⟩, ?_⟩
    have same : oldest ((db.pruned now).approvalOutbox.rows.filter (eligible now)) = none :=
      (congrArg oldest (candidates_pruned now db)).trans found
    rw [same]
    exact Tx.pure_ok.mpr ⟨rfl, rfl⟩
  | some row =>
    have isCandidate : row ∈ candidates now (db.pruned now) :=
      candidates_pruned now db ▸ oldest_mem found
    obtain ⟨stored, selected⟩ := List.mem_filter.mp isCandidate
    rw [eligible, Bool.and_eq_true, decide_eq_true_iff] at selected
    have passed := passes row (mem_prunedOutbox.mp stored).1
    have deadline : 1 ≤ row.retentionDeadline := by
      have valid := passed.valid
      simp only [validateOutboxRow, Bool.and_eq_true, decide_eq_true_eq] at valid
      exact valid.2
    obtain ⟨db', written⟩ := writeLease_total stored selected.2 token (le_min starts deadline)
      (min_le_right leaseEnd _) time
    refine ⟨db', prologue_ok.mpr ⟨governed, time, ?_⟩⟩
    simp only [Tx.bind_ok, Tx.query_ok]
    refine ⟨_, _, ⟨rfl, rfl⟩, ?_⟩
    have same : oldest ((db.pruned now).approvalOutbox.rows.filter (eligible now)) = some row :=
      (congrArg oldest (candidates_pruned now db)).trans found
    rw [same]
    simp only [Tx.bind_ok, Tx.ensure_ok, Tx.lift_ok, Tx.pure_ok, Option.map_some]
    exact ⟨(), _, ⟨passed.valid, rfl⟩, (), _, ⟨passed.revalidated, rfl⟩, (), db', written, trivial, rfl⟩

/-- The claim of an outbox whose records pass their checks again, when the engine does not interfere:
`None` if no record is eligible, else a lease of the oldest eligible record. -/
theorem claim_total {outbox : OutboxObject} {arguments : ClaimArguments} {leaseToken : Bytes}
    (governed : db.version = .governed) (valid : arguments.Valid)
    (stored : arguments.currentTime < 2 ^ 63) (token : isFixedBytes leaseToken = true)
    (passes : ∀ row ∈ db.approvalOutbox.rows, PassesAgain codec outbox.networkId row) :
    (step codec (.claim outbox (some arguments) leaseToken .none) db).1 =
      .ok (.claimed ((oldest (candidates arguments.currentTime db)).map fun row =>
        leasedClaim codec outbox.networkId row leaseToken
          (min (arguments.currentTime + arguments.leaseSeconds) row.retentionDeadline))) := by
  obtain ⟨time, positive, short, fits⟩ := valid
  have time' := isTimestamp_iff.mp time
  have ends : 1 ≤ arguments.currentTime + arguments.leaseSeconds := by omega
  obtain ⟨db', claimed⟩ :=
    claimTransaction_total governed ⟨by omega, stored⟩ ends token passes
  have ran : runTransaction none (claimTransaction codec outbox.networkId arguments.currentTime
      (arguments.currentTime + arguments.leaseSeconds) leaseToken) raiseOutboxError db =
        (.ok ((oldest (candidates arguments.currentTime db)).map fun row =>
          (row, min (arguments.currentTime + arguments.leaseSeconds) row.retentionDeadline)), db') := by
    rw [runTransaction, transactIo_ok.mpr ⟨rfl, claimed⟩]
    rfl
  obtain ⟨currentTime, leaseSeconds⟩ := arguments
  simp only [step, answer, claim, Io.none]
  rw [if_pos ⟨time, positive, short, fits⟩, ran]
  cases found : oldest (candidates currentTime db) with
  | none => rfl
  | some row =>
    rcases claimTransaction_ok claimed with ⟨isNone, -⟩ | ⟨row', expiry, isSome, leased⟩
    · rw [found] at isNone
      cases isNone
    · rw [found] at isSome
      obtain ⟨rfl, rfl⟩ := Prod.mk.inj (Option.some.inj isSome)
      simp only [Option.map_some]
      rw [buildOutboxClaim_leased outbox.valid time leased]
      rfl

/-- In every run on an unused ledger whose approvals are of the outbox's network, a claim at a time
that SQLite can store leases the oldest eligible record, which passes all its checks again, or
returns `None` because there is none. -/
theorem claim_oldest_eligible {h : List LedgerEvent} (run : Run (step codec) Unused h db)
    {outbox : OutboxObject} (on : ∀ e ∈ h, e.input.OnNetwork outbox.networkId)
    (governed : db.version = .governed) {arguments : ClaimArguments} (valid : arguments.Valid)
    (stored : arguments.currentTime < 2 ^ 63) {leaseToken : Bytes}
    (token : isFixedBytes leaseToken = true) :
    let eligibles := candidates arguments.currentTime db
    let answered := (step codec (.claim outbox (some arguments) leaseToken .none) db).1
    (eligibles = [] ∧ answered = .ok (.claimed none)) ∨
      ∃ row ∈ eligibles, (∀ other ∈ eligibles, other ≠ row → orderedBefore row other = true) ∧
        answered = .ok (.claimed (some (leasedClaim codec outbox.networkId row leaseToken
          (min (arguments.currentTime + arguments.leaseSeconds) row.retentionDeadline)))) ∧
        PassesAgain codec outbox.networkId row := by
  intro eligibles answered
  have passes := passesAgain_of_run run on
  have isAnswer : answered = _ := claim_total governed valid stored token passes
  cases found : oldest eligibles with
  | none =>
    refine .inl ⟨oldest_eq_none.mp found, ?_⟩
    rw [isAnswer, found]
    rfl
  | some row =>
    have isEligible := oldest_mem found
    have isStored := (List.mem_filter.mp isEligible).1
    refine .inr ⟨row, isEligible, ?_, ?_, passes row isStored⟩
    · intro other isOther apart
      have notBefore := oldest_first found other isOther
      have apartId : other.approvalId ≠ row.approvalId := fun same =>
        apart (outboxRow_unique _ (List.mem_filter.mp isOther).1 isStored same)
      exact (orderedBefore_total apartId).resolve_left notBefore
    · rw [isAnswer, found]
      rfl

/-! ### Two pending records -/

/-- Enqueue two approvals and lease the first. -/
def pendingCalls : List Call :=
  [.openLedger outboxLedger .none, sampleEnqueue 1 10, sampleEnqueue 2 20, sampleClaim 6 22]

/-- The second record is the oldest one that is eligible while the first is leased. -/
theorem claim_oldest_eligible_second :
    let db := (execute (step sampleCodec) pendingCalls Db.fresh).2
    (candidates 25 db).map OutboxRow.approvalId = [List.replicate 32 2] ∧
      ∃ row ∈ candidates 25 db,
        (∀ other ∈ candidates 25 db, other ≠ row → orderedBefore row other = true) ∧
        (step sampleCodec (.claim sampleOutbox (some ⟨25, 10⟩) (List.replicate 32 7) .none) db).1 =
          .ok (.claimed (some (leasedClaim sampleCodec sampleOutbox.networkId row
            (List.replicate 32 7) (min 35 row.retentionDeadline)))) ∧
        PassesAgain sampleCodec sampleOutbox.networkId row := by
  intro db
  have facts : (candidates 25 db).map OutboxRow.approvalId = [List.replicate 32 2] ∧
      db.version = .governed := by
    decide +kernel
  have unused : Unused Db.fresh := ⟨rfl, rfl, rfl⟩
  have on : ∀ e ∈ (execute (step sampleCodec) pendingCalls Db.fresh).1,
      e.input.OnNetwork sampleOutbox.networkId := by
    simp [execute, pendingCalls, callEvent, sampleEnqueue, sampleClaim, Call.OnNetwork, sampleOutbox,
      sampleApproval]
  have valid : ClaimArguments.Valid ⟨25, 10⟩ := by
    simp [ClaimArguments.Valid, isTimestamp, uint64Max, maxOutboxLeaseSeconds]
  have early : (25 : Int) < 2 ^ 63 := by decide
  have token : isFixedBytes (List.replicate 32 7) = true := by decide
  rcases claim_oldest_eligible (Run.of_execute unused pendingCalls) on facts.2 valid early token
    with ⟨empty, -⟩ | leases
  · rw [empty] at facts
    cases facts.1
  · exact ⟨facts.1, leases⟩

/-- A claim at a time that passes its checks and that SQLite cannot store raises. -/
theorem late_claim_raises :
    ¬ ∀ (codec : WireCodec) (h : List LedgerEvent) (db : Db), Run (step codec) Unused h db →
      ∀ outbox : OutboxObject, (∀ e ∈ h, e.input.OnNetwork outbox.networkId) →
        db.version = .governed → ∀ arguments : ClaimArguments, arguments.Valid →
          (∀ highWater, db.ledgerState = some highWater → highWater ≤ arguments.currentTime) →
            ∀ leaseToken, isFixedBytes leaseToken = true →
              ∃ claimed, (step codec (.claim outbox (some arguments) leaseToken .none) db).1 =
                .ok (.claimed claimed) := by
  intro claimed
  let run := execute (step sampleCodec) [.openLedger outboxLedger .none] Db.fresh
  have facts : run.2.version = .governed ∧ run.2.ledgerState = some 0 ∧
      (step sampleCodec (.claim sampleOutbox (some ⟨2 ^ 63, 10⟩) (List.replicate 32 7) .none)
        run.2).1 = .error .outbox := by
    decide +kernel
  have unused : Unused Db.fresh := ⟨rfl, rfl, rfl⟩
  have on : ∀ e ∈ run.1, e.input.OnNetwork sampleOutbox.networkId := by
    simp [run, execute, callEvent, Call.OnNetwork]
  have valid : ClaimArguments.Valid ⟨2 ^ 63, 10⟩ := by
    simp [ClaimArguments.Valid, isTimestamp, uint64Max, maxOutboxLeaseSeconds]
  obtain ⟨answer, answered⟩ := claimed sampleCodec run.1 run.2 (Run.of_execute unused _) sampleOutbox
    on facts.1 ⟨2 ^ 63, 10⟩ valid (by rw [facts.2.1]; simp) (List.replicate 32 7) rfl
  rw [facts.2.2] at answered
  cases answered

end Prometheus.Jaeger.ApprovalLedger
