import Prometheus.Jaeger.ApprovalLedger.Conservation

/-!
# Leases and completions

A lease of a record is granted only when the one before it is over, so of all claims of a record at
most one is unexpired; a first result is accepted only under the latest of them. After an accepted
completion its approval has no pending record and no other result, which settles what any later
completion of it can do: the same call returns the same receipt while the result is retained, any
other call raises.
-/

namespace Prometheus.Jaeger.ApprovalLedger

open Prometheus.Codec Prometheus.Machine

variable {codec : WireCodec} {db db' : Db} {call : Call} {out : Except ConsumptionError Answer}

/-! ## Claims of a run -/

/-- The claim of an approval that an event returned, and the network of its outbox object. -/
def claimOf (approvalId : Bytes) (e : LedgerEvent) : Option (Str × OutboxClaim) :=
  match e.input, e.output with
  | .claim outbox _ _ _, .ok (.claimed (some claim)) =>
    if claim.approvalId = approvalId then some (outbox.networkId, claim) else none
  | _, _ => none

/-- The latest claim of an approval in a history. -/
def lastClaim (h : List LedgerEvent) (approvalId : Bytes) : Option (Str × OutboxClaim) :=
  h.reverse.findSome? (claimOf approvalId)

@[simp] theorem lastClaim_nil (approvalId : Bytes) : lastClaim [] approvalId = none := rfl

theorem lastClaim_append (h : List LedgerEvent) (e : LedgerEvent) (approvalId : Bytes) :
    lastClaim (h ++ [e]) approvalId = (claimOf approvalId e).or (lastClaim h approvalId) := by
  simp only [lastClaim, List.reverse_append, List.reverse_singleton, List.singleton_append,
    List.findSome?_cons]
  cases claimOf approvalId e <;> rfl

/-- A pending record is as it was, or new, or this call leased it when its lease was over. -/
theorem Effect.lease_origin (effect : Effect codec db call out db') :
    ∀ row ∈ db'.approvalOutbox.rows,
      row ∈ db.approvalOutbox.rows ∧ claimOf row.approvalId ⟨db, call, out, db'⟩ = none ∨
      ¬ IsConsumed row.approvalId db ∧ row.leaseToken = none ∧ row.leaseExpiresAt = none ∧
        claimOf row.approvalId ⟨db, call, out, db'⟩ = none ∨
      ∃ old ∈ db.approvalOutbox.rows, ∃ networkId leaseToken leaseExpiresAt time,
        row = old.withLease leaseToken leaseExpiresAt ∧ call.suppliedTime = some time ∧
        leaseOver time old = true ∧ time < leaseExpiresAt ∧
        claimOf row.approvalId ⟨db, call, out, db'⟩ =
          some (networkId, leasedClaim codec networkId old leaseToken leaseExpiresAt) := by
  intro row stored
  cases effect with
  | raised e => exact .inl ⟨stored, by cases call <;> rfl⟩
  | opened opened =>
    rcases opened.tables with untouched | ⟨-, empty, -⟩
    · exact .inl ⟨untouched.outbox ▸ stored, rfl⟩
    · simp [empty] at stored
  | consumed consumed untouched => exact .inl ⟨untouched.outbox ▸ stored, rfl⟩
  | governed consumed outbox =>
    unfold OutboxEffect at outbox
    split at outbox
    · exact .inl ⟨outbox.outbox ▸ stored, rfl⟩
    · split at outbox
      · obtain ⟨wires, statementDigest, -, enqueued⟩ := outbox
        rw [(Table.insert_eq_some.mp enqueued.outbox).2.2] at stored
        rcases List.mem_append.mp stored with old | new
        · exact .inl ⟨(mem_prunedOutbox.mp old).1, rfl⟩
        · rw [List.mem_singleton.mp new]
          exact .inr (.inl ⟨consumed.fresh, rfl, rfl, rfl⟩)
      · exact .inl ⟨outbox.outbox ▸ stored, rfl⟩
  | unclaimed governed => exact .inl ⟨(mem_prunedOutbox.mp stored).1, rfl⟩
  | @leased outbox arguments leaseToken _ target leaseExpiresAt _ live leased =>
    rw [leased.outbox] at stored
    obtain ⟨old, pruned, rfl⟩ := List.mem_map.mp stored
    have wasStored := (mem_prunedOutbox.mp pruned).1
    by_cases same : old.approvalId = target.approvalId
    · obtain rfl := outboxRow_unique _ wasStored leased.stored same
      have later : arguments.currentTime < leaseExpiresAt := by
        rw [leased.expiry]
        exact lt_min (by omega) leased.retained
      refine .inr (.inr ⟨old, wasStored, outbox.networkId, leaseToken, leaseExpiresAt,
        arguments.currentTime, by simp, rfl, leased.leaseOver, later, ?_⟩)
      simp [claimOf, leasedClaim, OutboxRow.withLease]
    · refine .inl ⟨by simpa [same] using wasStored, ?_⟩
      simp [claimOf, leasedClaim, same, Ne.symm same]
  | retried retried =>
    rw [retried.pruned] at stored
    exact .inl ⟨(mem_prunedOutbox.mp stored).1, rfl⟩
  | recorded recorded =>
    rw [recorded.outbox] at stored
    exact .inl ⟨(mem_prunedOutbox.mp (List.mem_filter.mp stored).1).1, rfl⟩
  | read governed => exact .inl ⟨stored, rfl⟩

/-- A claim that returned leased a pending record. -/
theorem Effect.claimed (effect : Effect codec db call out db') {approvalId : Bytes} {networkId : Str}
    {claim : OutboxClaim} (h : claimOf approvalId ⟨db, call, out, db'⟩ = some (networkId, claim)) :
    claim.approvalId = approvalId ∧ ∃ row ∈ db.approvalOutbox.rows, ∃ time,
      row.approvalId = approvalId ∧ call.suppliedTime = some time ∧ leaseOver time row = true ∧
      row.withLease claim.leaseToken claim.leaseExpiresAt ∈ db'.approvalOutbox.rows := by
  cases effect with
  | @leased outbox arguments leaseToken _ row leaseExpiresAt _ live leased =>
    simp only [claimOf] at h
    split at h
    · rename_i same
      obtain ⟨rfl, rfl⟩ := Prod.mk.inj (Option.some.inj h)
      refine ⟨same, row, leased.stored, _, same, rfl, leased.leaseOver, ?_⟩
      rw [leased.outbox]
      exact List.mem_map.mpr ⟨row, mem_prunedOutbox.mpr ⟨leased.stored, leased.retained⟩,
        by simp [leasedClaim]⟩
    · cases h
  | raised e => cases call <;> cases h
  | _ => cases h

/-- Each pending record carries the lease of the latest claim of its approval, or none. -/
structure LeaseInv (codec : WireCodec) (h : List LedgerEvent) (db : Db) : Prop where
  token : ∀ row ∈ db.approvalOutbox.rows,
    row.leaseToken = (lastClaim h row.approvalId).map fun c => c.2.leaseToken
  expiry : ∀ row ∈ db.approvalOutbox.rows,
    row.leaseExpiresAt = (lastClaim h row.approvalId).map fun c => c.2.leaseExpiresAt
  claim : ∀ row ∈ db.approvalOutbox.rows, ∀ networkId claim,
    lastClaim h row.approvalId = some (networkId, claim) →
      claim = leasedClaim codec networkId row claim.leaseToken claim.leaseExpiresAt
  consumed : ∀ approvalId networkId claim, lastClaim h approvalId = some (networkId, claim) →
    IsConsumed approvalId db

theorem Effect.leaseInv (inv : OutboxInv db) (effect : Effect codec db call out db')
    {h : List LedgerEvent} (lease : LeaseInv codec h db) :
    LeaseInv codec (h ++ [⟨db, call, out, db'⟩]) db' := by
  -- the three facts about a row of the new outbox, by its origin
  have rows : ∀ row ∈ db'.approvalOutbox.rows,
      row.leaseToken = (lastClaim (h ++ [⟨db, call, out, db'⟩]) row.approvalId).map
        (fun c => c.2.leaseToken) ∧
      row.leaseExpiresAt = (lastClaim (h ++ [⟨db, call, out, db'⟩]) row.approvalId).map
        (fun c => c.2.leaseExpiresAt) ∧
      ∀ networkId claim,
        lastClaim (h ++ [⟨db, call, out, db'⟩]) row.approvalId = some (networkId, claim) →
          claim = leasedClaim codec networkId row claim.leaseToken claim.leaseExpiresAt := by
    intro row stored
    rw [lastClaim_append]
    rcases effect.lease_origin row stored with ⟨old, unclaimed⟩ |
      ⟨fresh, noToken, noExpiry, unclaimed⟩ |
      ⟨old, wasStored, networkId, leaseToken, leaseExpiresAt, time, rfl, -, -, -, claimed⟩
    · rw [unclaimed, Option.none_or]
      exact ⟨lease.token row old, lease.expiry row old, lease.claim row old⟩
    · have never : lastClaim h row.approvalId = none := by
        cases found : lastClaim h row.approvalId with
        | none => rfl
        | some c => exact absurd (lease.consumed _ c.1 c.2 found) fresh
      rw [unclaimed, never]
      exact ⟨noToken, noExpiry, fun _ _ isClaim => by cases isClaim⟩
    · rw [claimed]
      refine ⟨rfl, rfl, fun networkId' claim isClaim => ?_⟩
      obtain ⟨rfl, rfl⟩ := Prod.mk.inj (Option.some.inj isClaim)
      rfl
  refine ⟨fun row stored => (rows row stored).1, fun row stored => (rows row stored).2.1,
    fun row stored => (rows row stored).2.2, fun approvalId networkId claim isClaim => ?_⟩
  rw [lastClaim_append] at isClaim
  cases claimed : claimOf approvalId ⟨db, call, out, db'⟩ with
  | none =>
    rw [claimed, Option.none_or] at isClaim
    exact (lease.consumed _ _ _ isClaim).kept effect
  | some c =>
    obtain ⟨-, row, stored, -, same, -⟩ := effect.claimed claimed
    exact same ▸ (inv.pending row stored).kept effect

theorem leaseInv_run {h : List LedgerEvent} (run : Run (step codec) Unused h db) :
    LeaseInv codec h db := by
  induction run with
  | start s unused =>
    exact ⟨by simp [unused.1], by simp [unused.1], by simp [unused.1], by simp⟩
  | @call h s i run ih =>
    exact (step_effect codec i s).leaseInv
      (run.invariant OutboxInv (fun _ => outboxInv_of_unused)
        (fun s i inv => outboxInv_step codec s i inv)) ih

/-- A granted lease is over, or is followed by a later one, as long as its record is pending. -/
def LeaseMark (e : LedgerEvent) (db : Db) : Prop :=
  ∀ approvalId networkId claim, claimOf approvalId e = some (networkId, claim) →
    IsConsumed approvalId db ∧ ∀ row ∈ db.approvalOutbox.rows, row.approvalId = approvalId →
      ∃ expiry, row.leaseExpiresAt = some expiry ∧ claim.leaseExpiresAt ≤ expiry

theorem leaseMark_left (codec : WireCodec) (db : Db) (call : Call) (inv : OutboxInv db) :
    LeaseMark (callEvent (step codec) db call) (step codec call db).2 := by
  intro approvalId networkId claim isClaim
  have effect := step_effect codec call db
  obtain ⟨-, row, stored, time, same, -, -, leased⟩ := effect.claimed isClaim
  refine ⟨same ▸ (inv.pending row stored).kept effect, fun other pending isApproval => ?_⟩
  rw [outboxRow_unique _ pending leased (isApproval.trans same.symm)]
  exact ⟨_, rfl, le_refl _⟩

theorem leaseMark_kept (codec : WireCodec) (e : LedgerEvent) (db : Db) (call : Call)
    (mark : LeaseMark e db) : LeaseMark e (step codec call db).2 := by
  intro approvalId networkId claim isClaim
  obtain ⟨consumed, pending⟩ := mark approvalId networkId claim isClaim
  have effect := step_effect codec call db
  refine ⟨consumed.kept effect, fun row stored same => ?_⟩
  rcases effect.lease_origin row stored with ⟨old, -⟩ | ⟨fresh, -⟩ |
    ⟨old, wasStored, _, leaseToken, leaseExpiresAt, time, rfl, -, expired, later, -⟩
  · exact pending row old same
  · exact absurd (same ▸ consumed) fresh
  · obtain ⟨expiry, isExpiry, bound⟩ := pending old wasStored same
    simp only [leaseOver, isExpiry, Option.all_some, decide_eq_true_eq] at expired
    exact ⟨leaseExpiresAt, rfl, le_trans bound (le_trans expired (le_of_lt later))⟩

/-- A claim finds every earlier lease of its record over. -/
theorem leaseMark_found (codec : WireCodec) (e : LedgerEvent) (db : Db) (call : Call)
    (mark : LeaseMark e db) {approvalId : Bytes} {first second : Str × OutboxClaim} {time : Int}
    (isFirst : claimOf approvalId e = some first)
    (isSecond : claimOf approvalId (callEvent (step codec) db call) = some second)
    (isTime : call.suppliedTime = some time) : first.2.leaseExpiresAt ≤ time := by
  obtain ⟨-, row, stored, time', same, supplied, expired, -⟩ :=
    (step_effect codec call db).claimed isSecond
  obtain ⟨expiry, isExpiry, bound⟩ := (mark approvalId first.1 first.2 isFirst).2 row stored same
  obtain rfl := Option.some.inj (supplied.symm.trans isTime)
  simp only [leaseOver, isExpiry, Option.all_some, decide_eq_true_eq] at expired
  exact le_trans bound expired

/-- No pending record is leased past its retention deadline. -/
theorem lease_within_retention (db : Db) :
    ∀ row ∈ db.approvalOutbox.rows, ∀ expiry, row.leaseExpiresAt = some expiry →
      expiry ≤ row.retentionDeadline := by
  intro row stored expiry isExpiry
  have checked := db.approvalOutbox.checked row stored
  simp only [outboxSchema, isExpiry, Option.all_some, Bool.and_eq_true, decide_eq_true_eq]
    at checked
  exact checked.1.2

end Prometheus.Jaeger.ApprovalLedger
