import Prometheus.Jaeger.ApprovalLedger.OneTime

/-!
# The authority pin

`authority_state` holds the snapshot of the latest authority epoch. A governed consumption is
compared with it by `_validate_authority_snapshot` (`:716-760`) and replaces it by
`_apply_authority_snapshot` (`:763-826`) when its epoch is higher. The comparison with the pin is all
there is: what was pinned before the pin is gone, and an approver key that comes back is compared
with the key that replaced it.
-/

namespace Prometheus.Jaeger.ApprovalLedger

open Prometheus.Codec Prometheus.Machine

variable {codec : WireCodec} {db db' : Db} {call : Call}

/-- `MAX_AUTHORITY_INSTANT` of the policy loader. -/
def maxAuthorityInstant : Int := 2 ^ 64 - 1

/-- `_parse_bounded_int` of an exact `int`. -/
def parseBoundedInt (value maximum : Int) : Option Int :=
  if value < 1 ∨ maximum < value then none else some value

/-- `_parse_authority_window` of the policy loader. -/
def parseAuthorityWindow (notBefore notAfter : Int) : Option (Int × Int) := do
  let before ← parseBoundedInt notBefore maxAuthorityInstant
  let after ← parseBoundedInt notAfter maxAuthorityInstant
  if after ≤ before then none else some (before, after)

/-- The window of a policy that the loader returned. -/
def GovernancePolicy.IsLoaded (policy : GovernancePolicy) : Prop :=
  parseAuthorityWindow policy.authorityNotBefore policy.authorityNotAfter =
    some (policy.authorityNotBefore, policy.authorityNotAfter)

theorem GovernancePolicy.IsLoaded.window {policy : GovernancePolicy} (h : policy.IsLoaded) :
    policy.authorityNotBefore < policy.authorityNotAfter := by
  simp only [IsLoaded, parseAuthorityWindow, parseBoundedInt, Option.bind_eq_bind,
    Option.bind_eq_some_iff, Option.ite_none_left_eq_some, Option.some.injEq] at h
  obtain ⟨before, ⟨-, rfl⟩, after, ⟨-, rfl⟩, nonempty, -⟩ := h
  omega

/-- The approver key and the recipient scope of two rows are the same. -/
def AuthorityRow.SameIdentity (row row' : AuthorityRow) : Prop :=
  row.approverXonlyPublicKey = row'.approverXonlyPublicKey ∧ row.recipientScope = row'.recipientScope

instance (row row' : AuthorityRow) : Decidable (row.SameIdentity row') :=
  inferInstanceAs (Decidable (_ ∧ _))

/-! ## One call -/

/-- The snapshot that a call consumes under. -/
def Call.snapshot : Call → Option GovernanceBinding
  | .consumeGoverned _ _ _ governance _ _ => governance
  | _ => none

/-- The row that an event pins, or confirms. -/
def pinned (e : LedgerEvent) : Option AuthorityRow :=
  if accepted e.output then e.input.snapshot.map GovernanceBinding.authorityRow else none

theorem applyAuthoritySnapshot_valid {governance : GovernanceBinding} {u : Unit}
    (h : applyAuthoritySnapshot governance db = .ok (u, db')) {row : AuthorityRow}
    (isStored : db.authorityState = some row) : validateAuthorityRow row governance = true := by
  simp only [applyAuthoritySnapshot, Tx.bind_ok, Tx.query_ok, Tx.ensure_ok] at h
  obtain ⟨_, _, ⟨rfl, rfl⟩, _, _, ⟨-, rfl⟩, stored, _, ⟨rfl, rfl⟩, _, _, ⟨valid, rfl⟩, -⟩ := h
  rw [isStored] at valid
  exact valid

theorem consumeTransaction_valid {ledger : LedgerObject} {verified : VerifiedApproval}
    {consumedAt : Int} {governance : GovernanceBinding} {arguments : OutboxArguments} {u : Unit}
    (h : consumeTransaction codec ledger verified consumedAt (some governance) arguments db =
      .ok (u, db')) {row : AuthorityRow} (isStored : db.authorityState = some row) :
    validateAuthorityRow row governance = true := by
  unfold consumeTransaction at h
  obtain ⟨_, _, applied, -⟩ := Tx.bind_ok.mp h
  exact applyAuthoritySnapshot_valid applied isStored

/-- A governed consumption that returned passed the comparison with the pin. -/
theorem consumeGoverned_valid {ledger : LedgerObject} {verified : Option VerifiedApproval}
    {consumedAt : Option Int} {governance : GovernanceBinding} {arguments : OutboxArguments}
    {io : Io} (returned : (consumeGoverned codec ledger verified consumedAt (some governance)
      arguments io db).1.isOk = true) {row : AuthorityRow}
    (isStored : db.authorityState = some row) : validateAuthorityRow row governance = true := by
  unfold consumeGoverned at returned
  split at returned
  · cases returned
  split at returned
  · cases returned
  unfold consumeShared at returned
  split at returned
  · split at returned
    · rename_i verified consumedAt _
      rcases outcome : runTransaction io.transaction
        (consumeTransaction codec ledger verified consumedAt (some governance) arguments)
        (raiseConsumeError codec ledger verified (some governance) arguments io db) db with
        ⟨result, after⟩
      rcases runTransaction_cases outcome with ⟨e, rfl, -⟩ | ⟨_, rfl, committed⟩
      · rw [outcome] at returned
        cases returned
      · exact consumeTransaction_valid committed isStored
    · cases returned
  · cases returned

/-- A call without a snapshot leaves the pin alone. -/
theorem Effect.authority {out : Except ConsumptionError Answer}
    (effect : Effect codec db call out db') (without : call.snapshot = none) :
    db'.authorityState = db.authorityState := by
  cases effect with
  | raised e => rfl
  | opened opened => exact opened.authority
  | consumed consumed untouched => rw [consumed.pin, Option.map_none, Option.none_or]
  | @governed ledger _ _ _ _ _ consumed outbox =>
    have ungoverned : ledger.governance = none := without
    rw [consumed.pin, ungoverned, Option.map_none, Option.none_or]
  | unclaimed governed => rfl
  | leased live leased => rw [leased.frame]
  | retried retried => rw [retried.pruned]; rfl
  | recorded recorded => rw [recorded.frame]
  | read governed => rfl

/-- A governed consumption raises and changes nothing, or its snapshot passed the comparison with
the pin and is the pin now. -/
theorem snapshot_cases {governance : GovernanceBinding} (codec : WireCodec) (db : Db) (call : Call)
    (isSnapshot : call.snapshot = some governance) :
    (∃ e, (step codec call db).1 = .error e ∧ (step codec call db).2 = db) ∨
      accepted (step codec call db).1 = true ∧
      (step codec call db).2.authorityState = some governance.authorityRow ∧
      ∀ row, db.authorityState = some row → validateAuthorityRow row governance = true := by
  cases call with
  | consumeGoverned ledger verified consumedAt given arguments io =>
    have same : given = some governance := isSnapshot
    subst same
    rcases outcome : consumeGoverned codec ledger verified consumedAt (some governance) arguments
      io db with ⟨out, after⟩
    simp only [step, answer, outcome]
    rcases consumeGoverned_cases outcome with
      ⟨e, rfl, rfl⟩ | ⟨v, t, -, -, -, rfl, consumed, -⟩
    · exact .inl ⟨e, rfl, rfl⟩
    · refine .inr ⟨rfl, consumed.pin, ?_⟩
      intro row isStored
      have returned : (consumeGoverned codec ledger verified consumedAt (some governance) arguments
          io db).1.isOk = true := by
        rw [outcome]
        rfl
      exact consumeGoverned_valid returned isStored
  | _ => cases isSnapshot

/-- What an event does to the pin: nothing, or the snapshot it was given passed the comparison and
is the pin now. -/
theorem step_pin (codec : WireCodec) (db : Db) (call : Call) :
    pinned (callEvent (step codec) db call) = none ∧
        (step codec call db).2.authorityState = db.authorityState ∨
      ∃ governance, call.snapshot = some governance ∧
        pinned (callEvent (step codec) db call) = some governance.authorityRow ∧
        (step codec call db).2.authorityState = some governance.authorityRow ∧
        ∀ row, db.authorityState = some row → validateAuthorityRow row governance = true := by
  cases isSnapshot : call.snapshot with
  | none =>
    refine .inl ⟨?_, (step_effect codec call db).authority isSnapshot⟩
    simp [pinned, callEvent, isSnapshot]
  | some governance =>
    rcases snapshot_cases codec db call isSnapshot with ⟨e, raised, unchanged⟩ |
      ⟨returned, isPinned, valid⟩
    · refine .inl ⟨?_, by rw [unchanged]⟩
      simp [pinned, callEvent, raised, accepted, Except.isOk, Except.toBool]
    · refine .inr ⟨governance, rfl, ?_, isPinned, valid⟩
      simp [pinned, callEvent, isSnapshot, returned]

/-! ## The discipline of the pin -/

/-- How a pin may be followed by a later one. -/
structure AuthorityRow.Keeps (row later : AuthorityRow) : Prop where
  epoch : row.authorityEpoch ≤ later.authorityEpoch
  network : later.networkId = row.networkId
  binding : later.authorityEpoch = row.authorityEpoch → later = row

theorem AuthorityRow.Keeps.refl (row : AuthorityRow) : row.Keeps row :=
  ⟨le_refl _, rfl, fun _ => rfl⟩

theorem AuthorityRow.Keeps.trans {row later last : AuthorityRow} (h : row.Keeps later)
    (h' : later.Keeps last) : row.Keeps last := by
  refine ⟨h.epoch.trans h'.epoch, h'.network.trans h.network, ?_⟩
  intro same
  have first := h.epoch
  have second := h'.epoch
  rw [h'.binding (by omega), h.binding (by omega)]

/-- A snapshot that passed the comparison keeps the discipline. -/
theorem keeps_of_valid {row : AuthorityRow} {governance : GovernanceBinding}
    (valid : validateAuthorityRow row governance = true) : row.Keeps governance.authorityRow := by
  have checks := valid
  simp only [validateAuthorityRow, Bool.and_eq_true, Bool.not_eq_true', Bool.or_eq_false_iff,
    decide_eq_false_iff_not, not_not, not_lt] at checks
  obtain ⟨⟨⟨-, epoch, network⟩, -⟩, -⟩ := checks
  refine ⟨epoch, network, ?_⟩
  intro same
  have notHigher : ¬ governance.policy.authorityEpoch > row.authorityEpoch := by
    show ¬ governance.authorityRow.authorityEpoch > row.authorityEpoch
    omega
  exact authorityRow_of_sameEpoch valid notHigher

/-- An identity that is pinned again under a higher epoch starts after its pinned window. -/
theorem after_of_valid {row : AuthorityRow} {governance : GovernanceBinding}
    (valid : validateAuthorityRow row governance = true)
    (same : row.SameIdentity governance.authorityRow) :
    governance.authorityRow = row ∨
      row.authorityNotAfter < governance.authorityRow.authorityNotBefore := by
  by_cases higher : governance.policy.authorityEpoch > row.authorityEpoch
  · simp only [validateAuthorityRow, Bool.and_eq_true, Bool.not_eq_true',
      Bool.and_eq_false_iff, decide_eq_false_iff_not] at valid
    rcases valid.2 with ((notHigher | otherKey) | otherScope) | after
    · exact absurd higher notHigher
    · exact absurd same.1.symm otherKey
    · exact absurd same.2.symm otherScope
    · exact .inr (not_le.mp after)
  · exact .inl (authorityRow_of_sameEpoch valid higher)

/-- The pin after a step keeps the discipline with the one before. -/
theorem step_keeps (codec : WireCodec) (db : Db) (call : Call) {row : AuthorityRow}
    (isPinned : db.authorityState = some row) :
    ∃ later, (step codec call db).2.authorityState = some later ∧ row.Keeps later := by
  rcases step_pin codec db call with ⟨-, same⟩ | ⟨governance, -, -, after, valid⟩
  · exact ⟨row, same.trans isPinned, .refl row⟩
  · exact ⟨_, after, keeps_of_valid (valid row isPinned)⟩

/-- What a pinned row leaves behind: a pin that keeps the discipline with it. -/
def PinMark (e : LedgerEvent) (db : Db) : Prop :=
  ∀ row, e.post.authorityState = some row →
    ∃ later, db.authorityState = some later ∧ row.Keeps later

theorem pinMark_kept (codec : WireCodec) (e : LedgerEvent) (db : Db) (call : Call)
    (mark : PinMark e db) : PinMark e (step codec call db).2 := by
  intro row isPinned
  obtain ⟨later, isLater, keeps⟩ := mark row isPinned
  obtain ⟨last, isLast, keeps'⟩ := step_keeps codec db call isLater
  exact ⟨last, isLast, keeps.trans keeps'⟩

/-- Over any run on a ledger file, whatever it holds at the start and whichever calls fail: the pin
stays, its epoch never decreases, its network never changes and each epoch has one row; and a
governed consumption under a lower epoch, or under the pinned epoch with any other value, raises and
leaves every table as it was. -/
theorem authority_pin_discipline {h : List LedgerEvent}
    (run : Run (step codec) (fun _ => True) h db) :
    (∀ e ∈ h, ∀ row, e.pre.authorityState = some row →
      ∃ later, e.post.authorityState = some later ∧ row.Keeps later) ∧
    (h.Pairwise fun e e' => ∀ row, e.post.authorityState = some row →
      ∃ later, e'.post.authorityState = some later ∧ row.Keeps later) ∧
    (∀ e ∈ h, ∀ row governance, e.pre.authorityState = some row →
      e.input.snapshot = some governance →
      (governance.policy.authorityEpoch < row.authorityEpoch ∨
        governance.policy.authorityEpoch = row.authorityEpoch ∧ governance.authorityRow ≠ row) →
      (∃ error, e.output = .error error) ∧ e.post = e.pre) := by
  refine ⟨?_, ?_, ?_⟩
  · intro e isEvent row isPinned
    rw [run.steps e isEvent]
    exact step_keeps codec e.pre e.input isPinned
  · have kept := fun e s i (_ : True) => pinMark_kept codec e s i
    refine run.pairwise (fun _ => True) (fun _ _ => trivial) (fun _ _ _ => trivial) ?_ kept kept
    intro s i _ row isPinned
    exact ⟨row, isPinned, .refl row⟩
  · intro e isEvent row governance isPinned isSnapshot refused
    rw [run.steps e isEvent]
    rcases snapshot_cases codec e.pre e.input isSnapshot with
      ⟨error, raised, unchanged⟩ | ⟨-, -, valid⟩
    · exact ⟨⟨error, raised⟩, unchanged⟩
    · have keeps := keeps_of_valid (valid row isPinned)
      rcases refused with lower | ⟨same, differs⟩
      · exact absurd keeps.epoch (not_le.mpr lower)
      · exact absurd (keeps.binding same) differs

/-- The next policy of the owner of the sample approvals. -/
def nextGovernance : GovernanceBinding :=
  { sampleGovernance with
    objectId := 1
    policy := { sampleGovernance.policy with
      authorityEpoch := 2
      authorityNotBefore := 1001
      authorityNotAfter := 2000
      policySha256 := List.replicate 32 6 } }

/-- A governed ledger object without the durable outbox. -/
def governedLedger (governance : GovernanceBinding) : LedgerObject :=
  ⟨some governance, false, governed_of_no_outbox⟩

/-- A governed consumption of a sample approval at a time. -/
def governedCall (governance : GovernanceBinding) (identity : UInt8) (consumedAt : Int) : Call :=
  .consumeGoverned (governedLedger governance) (some (sampleApproval identity identity))
    (some consumedAt) (some governance) ⟨none, none, none⟩ .none

/-- The next policy replaces the first one, which then comes back. -/
def rolledBackCalls : List Call :=
  [.openLedger (governedLedger sampleGovernance) .none, governedCall sampleGovernance 1 10,
    governedCall nextGovernance 2 11, governedCall sampleGovernance 3 12]

theorem authority_pin_discipline_rolled_back :
    let run := execute (step refusingCodec) rolledBackCalls Db.fresh
    run.1.map (fun e => accepted e.output) = [true, true, true, false] ∧
      (∀ e ∈ run.1, ∀ row, e.pre.authorityState = some row →
        ∃ later, e.post.authorityState = some later ∧ row.Keeps later) :=
  ⟨by decide,
    (authority_pin_discipline (Run.of_execute trivial rolledBackCalls)).1⟩

/-! ## Windows of one identity -/

/-- A file without a pin. -/
def Unpinned (db : Db) : Prop := db.authorityState = none

/-- The rows that a run pinned, in their order. -/
def pins (h : List LedgerEvent) : List AuthorityRow := h.filterMap pinned

/-- The latest of these rows that has the identity of a row. -/
def latestPin (rows : List AuthorityRow) (row : AuthorityRow) : Option AuthorityRow :=
  rows.reverse.find? fun earlier => decide (earlier.SameIdentity row)

/-- The snapshot of an event comes from the loader, and if it was accepted it would also pass the
comparison with the latest row of its own identity, wherever that is in the run. -/
def ReturnsAt (before : List LedgerEvent) (e : LedgerEvent) : Prop :=
  ∀ governance ∈ e.input.snapshot, accepted e.output = true → governance.policy.IsLoaded ∧
    ∀ row ∈ latestPin (pins before) governance.authorityRow,
      validateAuthorityRow row governance = true

instance (policy : GovernancePolicy) : Decidable policy.IsLoaded :=
  inferInstanceAs (Decidable (_ = _))

instance (before : List LedgerEvent) (e : LedgerEvent) : Decidable (ReturnsAt before e) :=
  inferInstanceAs (Decidable (∀ governance ∈ e.input.snapshot, _))

/-- Every event of a run meets the condition after the events before it. -/
def Returning (h : List LedgerEvent) : Prop :=
  ∀ before e later, h = before ++ e :: later → ReturnsAt before e

theorem returning_iff (h : List LedgerEvent) :
    Returning h ↔ ∀ i : Fin h.length, ReturnsAt (h.take i) h[i] := by
  constructor
  · intro returning i
    apply returning _ _ (h.drop (i + 1))
    simp
  · intro each before e later split
    subst split
    have at' := each ⟨before.length, by simp⟩
    simpa using at'

instance (h : List LedgerEvent) : Decidable (Returning h) :=
  decidable_of_iff _ (returning_iff h).symm

/-- Two windows have no instant in common. -/
def AuthorityRow.Disjoint (row row' : AuthorityRow) : Prop :=
  row.authorityNotAfter < row'.authorityNotBefore ∨ row'.authorityNotAfter < row.authorityNotBefore

instance (row row' : AuthorityRow) : Decidable (row.Disjoint row') :=
  inferInstanceAs (Decidable (_ ∨ _))

/-- Rows of one identity are one row or follow each other. -/
def Successive (row later : AuthorityRow) : Prop :=
  row.SameIdentity later → later = row ∨ row.authorityNotAfter < later.authorityNotBefore

/-- Rows of one identity are one row or have disjoint windows. -/
def Apart (row row' : AuthorityRow) : Prop := row.SameIdentity row' → row = row' ∨ row.Disjoint row'

instance : Std.Symm Apart where
  symm row row' apart same := by
    rcases apart ⟨same.1.symm, same.2.symm⟩ with rfl | before | after
    · exact .inl rfl
    · exact .inr (.inr before)
    · exact .inr (.inl after)

theorem apart_of_successive {row later : AuthorityRow} (h : Successive row later) :
    Apart row later := by
  intro same
  rcases h same with rfl | after
  · exact .inl rfl
  · exact .inr (.inl after)

/-- The rows pinned so far, and the pin that is the last of them. -/
structure Windows (rows : List AuthorityRow) (db : Db) : Prop where
  pin : db.authorityState = rows.getLast?
  nonempty : ∀ row ∈ rows, row.authorityNotBefore < row.authorityNotAfter
  successive : rows.Pairwise Successive

/-- A row that is successive to the latest one of its identity is successive to all of them. -/
theorem successive_of_latest {rows : List AuthorityRow} {row : AuthorityRow}
    (nonempty : ∀ earlier ∈ rows, earlier.authorityNotBefore < earlier.authorityNotAfter)
    (successive : rows.Pairwise Successive)
    (latest : ∀ earlier, latestPin rows row = some earlier → Successive earlier row) :
    ∀ earlier ∈ rows, Successive earlier row := by
  intro earlier isEarlier same
  cases found : latestPin rows row with
  | none =>
    have differs := List.find?_eq_none.mp found earlier (List.mem_reverse.mpr isEarlier)
    exact absurd (decide_eq_true same) differs
  | some last =>
    obtain ⟨isLast, after, before, split, others⟩ := List.find?_eq_some_iff_append.mp found
    have lastSame : last.SameIdentity row := of_decide_eq_true isLast
    have rowsEq : rows = before.reverse ++ last :: after.reverse := by
      rw [← List.reverse_reverse rows, split]
      simp
    have fromLast : row = last ∨ last.authorityNotAfter < row.authorityNotBefore :=
      latest last found lastSame
    rw [rowsEq] at isEarlier successive nonempty
    rcases List.mem_append.mp isEarlier with isBefore | isRest
    · have apart := (List.pairwise_append.mp successive).2.2 earlier isBefore last (by simp)
      have window := nonempty last (by simp)
      have toLast := apart ⟨same.1.trans lastSame.1.symm, same.2.trans lastSame.2.symm⟩
      rcases toLast with rfl | toLast
      · exact fromLast
      · rcases fromLast with rfl | fromLast
        · exact .inr toLast
        · exact .inr (by omega)
    · rcases List.mem_cons.mp isRest with rfl | isAfter
      · exact fromLast
      · have differs := others earlier (List.mem_reverse.mp isAfter)
        simp [same] at differs

theorem pins_append (h : List LedgerEvent) (e : LedgerEvent) :
    pins (h ++ [e]) = pins h ++ (pinned e).toList := by
  rw [pins, List.filterMap_append]
  cases isPinned : pinned e <;> simp [pins, isPinned]

/-- A step under the condition keeps the windows of an identity apart. -/
theorem windows_call {h : List LedgerEvent} (call : Call) (windows : Windows (pins h) db)
    (returning : Returning (h ++ [callEvent (step codec) db call])) :
    Windows (pins (h ++ [callEvent (step codec) db call])) (step codec call db).2 := by
  rw [pins_append]
  rcases step_pin codec db call with ⟨unpinned, same⟩ | ⟨governance, isSnapshot, isPinned, after, -⟩
  · rw [unpinned, Option.toList_none, List.append_nil]
    exact ⟨same.trans windows.pin, windows.nonempty, windows.successive⟩
  · have returned : accepted (callEvent (step codec) db call).output = true := by
      by_contra raised
      simp [pinned, raised] at isPinned
    obtain ⟨loaded, latest⟩ := returning h _ [] rfl governance isSnapshot returned
    rw [isPinned, Option.toList_some]
    refine ⟨?_, ?_, ?_⟩
    · rw [after, List.getLast?_concat]
    · intro row isRow
      rcases List.mem_append.mp isRow with isEarlier | isNew
      · exact windows.nonempty row isEarlier
      · rw [List.mem_singleton.mp isNew]
        exact loaded.window
    · refine List.pairwise_append.mpr ⟨windows.successive, List.pairwise_singleton _ _, ?_⟩
      intro earlier isEarlier row isNew
      rw [List.mem_singleton.mp isNew]
      apply successive_of_latest windows.nonempty windows.successive ?_ earlier isEarlier
      intro last isLatest same
      exact after_of_valid (latest last isLatest) same

theorem Returning.before {h h' : List LedgerEvent} (returning : Returning (h ++ h')) :
    Returning h := by
  intro before e later split
  apply returning before e (later ++ h')
  rw [split, List.append_assoc, List.cons_append]

/-- Every pinned state of a run is one of its pinned rows. -/
structure Witnessed (h : List LedgerEvent) (db : Db) : Prop where
  windows : Windows (pins h) db
  posts : ∀ e ∈ h, ∀ row, e.post.authorityState = some row → row ∈ pins h

theorem witnessed {h : List LedgerEvent}
    (run : Run (step codec) Unpinned h db)
    (returning : Returning h) : Witnessed h db := by
  induction run with
  | start db unpinned => exact ⟨⟨unpinned, by simp [pins], by simp [pins]⟩, by simp⟩
  | @call h db call run ih =>
    obtain ⟨windows, posts⟩ := ih returning.before
    have next := windows_call call windows returning
    refine ⟨next, ?_⟩
    intro e isEvent row isPinned
    rcases List.mem_append.mp isEvent with isEarlier | isNew
    · rw [pins_append]
      exact List.mem_append_left _ (posts e isEarlier row isPinned)
    · rw [List.mem_singleton.mp isNew] at isPinned
      have isLast : some row = (pins (h ++ [callEvent (step codec) db call])).getLast? :=
        isPinned.symm.trans next.pin
      exact List.mem_of_getLast? isLast.symm

/-- In every run on a file without a pin in which a snapshot that comes back to an earlier identity
would pass the comparison with that identity's latest row: snapshots of one identity that were
pinned under different epochs have disjoint windows. -/
theorem reissued_windows_disjoint {h : List LedgerEvent}
    (run : Run (step codec) Unpinned h db)
    (returning : Returning h) :
    ∀ e ∈ h, ∀ e' ∈ h, ∀ row row', e.post.authorityState = some row →
      e'.post.authorityState = some row' → row.authorityEpoch ≠ row'.authorityEpoch →
      row.SameIdentity row' → row.Disjoint row' := by
  intro e isEvent e' isEvent' row row' isPinned isPinned' epochs same
  obtain ⟨windows, posts⟩ := witnessed run returning
  have isRow := posts e isEvent row isPinned
  have isRow' := posts e' isEvent' row' isPinned'
  have apart : row = row' ∨ row.Disjoint row' :=
    (windows.successive.imp apart_of_successive).forall_of_forall
      (fun row _ _ => .inl rfl) isRow isRow' same
  rcases apart with rfl | disjoint
  · exact absurd rfl epochs
  · exact disjoint

/-- Another approver takes over under the second epoch. -/
def otherGovernance : GovernanceBinding :=
  { sampleGovernance with
    objectId := 2
    policy := { sampleGovernance.policy with
      approverXonlyPublicKey := List.replicate 32 8
      authorityEpoch := 2
      policySha256 := List.replicate 32 10 } }

/-- The first approver comes back under the third epoch, in a window that starts at a time. -/
def returningGovernance (notBefore : Int) : GovernanceBinding :=
  { sampleGovernance with
    objectId := 3
    policy := { sampleGovernance.policy with
      authorityEpoch := 3
      authorityNotBefore := notBefore
      authorityNotAfter := 3000
      policySha256 := List.replicate 32 11 } }

/-- An approval of the other approver. -/
def otherApproval : VerifiedApproval :=
  { sampleApproval 2 2 with approverXonlyPublicKey := List.replicate 32 8 }

/-- The approver of the first epoch is replaced and comes back. -/
def returningCalls (notBefore : Int) : List Call :=
  [.openLedger (governedLedger sampleGovernance) .none, governedCall sampleGovernance 1 10,
    .consumeGoverned (governedLedger otherGovernance) (some otherApproval) (some 11)
      (some otherGovernance) ⟨none, none, none⟩ .none,
    governedCall (returningGovernance notBefore) 3 12]

/-- The key that comes back is accepted with a window that overlaps its first one. -/
theorem reissued_windows_overlap :
    ¬ ∀ (codec : WireCodec) (h : List LedgerEvent) (db : Db),
      Run (step codec) Unpinned h db →
      (∀ e ∈ h, ∀ governance, e.input.snapshot = some governance → governance.policy.IsLoaded) →
      ∀ e ∈ h, ∀ e' ∈ h, ∀ row row', e.post.authorityState = some row →
        e'.post.authorityState = some row' → row.authorityEpoch ≠ row'.authorityEpoch →
        row.SameIdentity row' → row.Disjoint row' := by
  intro claim
  let run := execute (step refusingCodec) (returningCalls 500) Db.fresh
  have loaded : ∀ e ∈ run.1, ∀ governance ∈ e.input.snapshot, governance.policy.IsLoaded := by
    decide
  have overlap : ∃ e ∈ run.1, ∃ e' ∈ run.1, ∃ row ∈ e.post.authorityState,
      ∃ row' ∈ e'.post.authorityState, row.authorityEpoch ≠ row'.authorityEpoch ∧
        row.SameIdentity row' ∧ ¬ row.Disjoint row' := by
    decide
  obtain ⟨e, isEvent, e', isEvent', row, isPinned, row', isPinned', epochs, same, meet⟩ := overlap
  have unpinned : Unpinned Db.fresh := rfl
  exact meet (claim _ _ _ (Run.of_execute unpinned (returningCalls 500)) loaded e isEvent e'
    isEvent' row row' isPinned isPinned' epochs same)

theorem reissued_windows_disjoint_returned :
    let run := execute (step refusingCodec) (returningCalls 1001) Db.fresh
    run.1.map (fun e => accepted e.output) = [true, true, true, true] ∧
      ∀ e ∈ run.1, ∀ e' ∈ run.1, ∀ row row', e.post.authorityState = some row →
        e'.post.authorityState = some row' → row.authorityEpoch ≠ row'.authorityEpoch →
        row.SameIdentity row' → row.Disjoint row' := by
  intro run
  have unpinned : Unpinned Db.fresh := rfl
  exact ⟨by decide,
    reissued_windows_disjoint (Run.of_execute unpinned (returningCalls 1001)) (by decide)⟩

end Prometheus.Jaeger.ApprovalLedger
