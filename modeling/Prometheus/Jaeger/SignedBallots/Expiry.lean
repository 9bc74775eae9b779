import Prometheus.Jaeger.SignedBallots.Replay

/-!
# Evaluation and the ledger's clock

`evaluate` re-verifies the stored envelopes at the time it is given and never reads the ledger's
clock. A decision relies on every ballot stored for its session, so it relies on an expired one
exactly when the call's time is behind all of their expiries and the clock is not.
-/

namespace Prometheus.Jaeger.SignedBallots

open Prometheus.Codec Prometheus.Machine

variable {codec : BallotCodec} {file file' : ReplayLedger} {call : Call}
  {out : Except BallotError Answer}

/-- Each row is the row of the envelope its frame parses to. -/
def RowsParsed (codec : BallotCodec) (file : ReplayLedger) : Prop :=
  ∀ row ∈ file.acceptedBallots.rows, ∃ envelope,
    fromWire codec row.wire = .ok (some envelope) ∧ envelope.expiresAtMs = row.expiresAtMs

theorem Effect.rowsParsed (effect : Effect codec file call out file')
    (parsed : RowsParsed codec file) : RowsParsed codec file' := by
  intro row stored
  cases effect with
  | refused | contained | evaluated => exact parsed row stored
  | opened answered tables state => exact parsed row (tables ▸ stored)
  | @accepted wire _ _ session nowMs _ _ envelope isParsed verified advanced inserted =>
    rw [(Table.insert_eq_some.mp inserted).2.2] at stored
    rcases List.mem_append.mp stored with old | new
    · exact parsed row old
    · rw [List.mem_singleton.mp new]
      exact ⟨envelope, isParsed, rfl⟩
  | pruned rows advanced deleted =>
    rw [deleted] at stored
    exact parsed row (Table.mem_delete.mp stored).1

theorem rowsParsed_of_unused (unused : Unused file) : RowsParsed codec file := by
  intro row stored
  rw [show file.acceptedBallots.rows = [] from unused] at stored
  cases stored

theorem mem_sessionRows {sessionId : Str} {row : AcceptedBallot} :
    row ∈ sessionRows sessionId file ↔
      row ∈ file.acceptedBallots.rows ∧ row.sessionId = sessionId := by
  simp [sessionRows, List.mem_insertionSort]

/-! ## What an approved decision relies on -/

/-- The call returned an approved decision. -/
def Approves (e : BallotEvent) : Prop :=
  ∃ decision, e.output = .ok (.decision decision) ∧ decision.approved = true

/-- The envelopes whose votes a call's decision counts. -/
def reliedOn (codec : BallotCodec) (e : BallotEvent) : List SignedGuardianBallot :=
  match e.input with
  | .evaluate _ _ session _ _ =>
    (sessionRows session.sessionId e.pre).filterMap fun row =>
      match fromWire codec row.wire with
      | .ok envelope => envelope
      | .error _ => none
  | _ => []

variable {candidate : EnsembleCandidate} {snapshot : MembershipSnapshot} {session : BallotSession}
  {nowMs : Int} {fault : Bool}

theorem reverify_ok {wires : List Bytes} {votes : List GuardianVote}
    (h : reverify codec candidate snapshot session nowMs wires = .ok votes) :
    ∀ wire ∈ wires, ∃ result, verifyWire codec wire candidate snapshot session nowMs = .ok result := by
  induction wires generalizing votes with
  | nil => simp
  | cons first wires ih =>
    rw [reverify] at h
    cases verified : verifyWire codec first candidate snapshot session nowMs with
    | error e => rw [verified] at h; cases h
    | ok result =>
      cases rest : reverify codec candidate snapshot session nowMs wires with
      | error e => rw [verified, rest] at h; cases h
      | ok votes' =>
        intro wire isWire
        rcases List.mem_cons.mp isWire with rfl | isWire
        · exact ⟨result, verified⟩
        · exact ih rest wire isWire

theorem storedVotes_ok {votes : List GuardianVote}
    (h : storedVotes codec candidate snapshot session nowMs fault file = .ok votes) :
    ∀ row ∈ sessionRows session.sessionId file, ∃ result,
      verifyWire codec row.wire candidate snapshot session nowMs = .ok result := by
  intro row stored
  unfold storedVotes at h
  split at h
  · cases h
  · rename_i wires isWires
    have isRows : wires = (sessionRows session.sessionId file).map AcceptedBallot.wire := by
      unfold sessionWires at isWires
      split at isWires
      · cases isWires
      split at isWires
      · cases isWires
      exact (Except.ok.inj isWires).symm
    exact reverify_ok h row.wire (isRows ▸ List.mem_map_of_mem stored)

/-- A decision that approves was made on verified envelopes only. -/
theorem evaluate_approved {decision : EnsembleDecision}
    (h : evaluate codec candidate snapshot session nowMs fault file = .ok decision)
    (approved : decision.approved = true) :
    ∀ row ∈ sessionRows session.sessionId file, ∃ result,
      verifyWire codec row.wire candidate snapshot session nowMs = .ok result := by
  have notEmpty : decision ≠ ensembleEvaluate codec.sha256 candidate snapshot [] := by
    rintro rfl
    rw [ensembleEvaluate_nil] at approved
    cases approved
  unfold evaluate at h
  split at h
  · exact absurd (Except.ok.inj h).symm notEmpty
  · cases stored : storedVotes codec candidate snapshot session nowMs fault file with
    | ok votes => exact storedVotes_ok stored
    | error e =>
      rw [stored] at h
      dsimp only at h
      split at h
      · exact absurd (Except.ok.inj h).symm notEmpty
      · cases h

/-- An approving call relies on the stored ballots of one session, all unexpired at its time. -/
theorem Effect.approved (effect : Effect codec file call out file') (parsed : RowsParsed codec file)
    (approves : Approves ⟨file, call, out, file'⟩) :
    ∃ candidate snapshot session nowMs fault,
      call = .evaluate candidate snapshot session nowMs fault ∧
      (∀ row ∈ sessionRows session.sessionId file, nowMs < row.expiresAtMs) ∧
      ∀ envelope ∈ reliedOn codec ⟨file, call, out, file'⟩,
        ∃ row ∈ sessionRows session.sessionId file, row.expiresAtMs = envelope.expiresAtMs := by
  obtain ⟨decision, isDecision, approved⟩ := approves
  cases effect with
  | @evaluated candidate snapshot session nowMs fault _ decided =>
    obtain rfl : _ = decision := by simpa using isDecision
    refine ⟨candidate, snapshot, session, nowMs, fault, rfl, fun row stored => ?_, ?_⟩
    · obtain ⟨result, verified⟩ := evaluate_approved decided approved row stored
      obtain ⟨envelope, isParsed, sameExpiry⟩ := parsed row (mem_sessionRows.mp stored).1
      obtain ⟨isResult, checks, -⟩ := verifyWire_ok verified
      obtain rfl : envelope = result.1 := by simpa using isParsed.symm.trans isResult
      exact sameExpiry ▸ checks.window.1
    · intro envelope isRelied
      obtain ⟨row, stored, isEnvelope⟩ := List.mem_filterMap.mp isRelied
      obtain ⟨envelope', isParsed, sameExpiry⟩ := parsed row (mem_sessionRows.mp stored).1
      rw [isParsed] at isEnvelope
      obtain rfl := Option.some.inj isEnvelope
      exact ⟨row, stored, sameExpiry.symm⟩
  | opened answered => rcases answered with rfl | rfl <;> cases isDecision
  | refused | contained | pruned | accepted => cases isDecision

/-- When a ballot stored for the session has expired at the ledger's clock, one has expired at the
time the call is given. -/
def InTime (e : BallotEvent) : Prop :=
  ∀ candidate snapshot session nowMs fault,
    e.input = .evaluate candidate snapshot session nowMs fault →
    ∀ t, e.pre.highWaterMs = some t →
      (∃ row ∈ sessionRows session.sessionId e.pre, row.expiresAtMs ≤ t) →
        ∃ row ∈ sessionRows session.sessionId e.pre, row.expiresAtMs ≤ nowMs

/-- An evaluation's time is not behind the ledger's clock. -/
def notBehind (e : BallotEvent) : Bool :=
  match e.input with
  | .evaluate _ _ _ nowMs _ => e.pre.highWaterMs.all fun t => t ≤ nowMs
  | _ => true

theorem inTime_of_notBehind {e : BallotEvent} (h : notBehind e = true) : InTime e := by
  rintro candidate snapshot session nowMs fault isCall t isClock ⟨row, stored, expired⟩
  rw [notBehind, isCall, isClock] at h
  exact ⟨row, stored, le_trans expired (by simpa using h)⟩

/-- An approving call in time relies on no ballot that has expired at the clock. -/
theorem Effect.unexpired (effect : Effect codec file call out file') (parsed : RowsParsed codec file)
    (inTime : InTime ⟨file, call, out, file'⟩) (approves : Approves ⟨file, call, out, file'⟩)
    {t : Int} (isClock : file.highWaterMs = some t) :
    ∀ envelope ∈ reliedOn codec ⟨file, call, out, file'⟩, t < envelope.expiresAtMs := by
  intro envelope isRelied
  obtain ⟨candidate, snapshot, session, nowMs, fault, isCall, live, relied⟩ :=
    effect.approved parsed approves
  obtain ⟨row, stored, sameExpiry⟩ := relied envelope isRelied
  by_contra expired
  obtain ⟨row', stored', expired'⟩ :=
    inTime _ _ _ _ _ isCall t isClock ⟨row, stored, by omega⟩
  have := live row' stored'
  omega

/-- In every run whose evaluations are in time, an approved decision relies on no ballot that had
expired at a time the ledger's clock has reached. -/
theorem rollback_reopens_nothing {h : List BallotEvent} (run : Run (step codec) Unused h file)
    (inTime : ∀ e ∈ h, InTime e) :
    h.Pairwise fun e e' => ∀ reached, e.post.highWaterMs = some reached → ∀ t ≤ reached,
      Approves e' → ∀ envelope ∈ reliedOn codec e', t < envelope.expiresAtMs := by
  have unexpired : ∀ e ∈ h, InTime e → Approves e → ∀ t, e.pre.highWaterMs = some t →
      ∀ envelope ∈ reliedOn codec e, t < envelope.expiresAtMs := by
    refine run.events (RowsParsed codec) (fun s => rowsParsed_of_unused) ?_ ?_
    · exact fun s i parsed => (step_effect codec i s).rowsParsed parsed
    · exact fun s i parsed inTime approves t isClock =>
        (step_effect codec i s).unexpired parsed inTime approves isClock
  refine (clock_monotone run).2.imp_of_mem ?_
  intro e e' _ he' clock reached isReached t before approves envelope isRelied
  obtain ⟨t', isClock, later⟩ := clock reached isReached
  have := unexpired e' he' (inTime e' he') approves t' isClock envelope isRelied
  omega

/-! ### Two runs -/

/-- Whether a call returned an approved decision. -/
def approves (e : BallotEvent) : Bool :=
  match e.output with
  | .ok (.decision decision) => decision.approved
  | _ => false

theorem approves_iff {e : BallotEvent} : approves e = true ↔ Approves e := by
  unfold approves Approves
  constructor
  · intro h
    split at h
    · exact ⟨_, by assumption, h⟩
    · cases h
  · rintro ⟨decision, isDecision, approved⟩
    rw [isDecision]
    exact approved

/-- All five Guardians approve for a minute. -/
def votingCalls : List Call :=
  [.openLedger none, acceptRecorded 0 1000, acceptRecorded 1 1000, acceptRecorded 2 1000,
    acceptRecorded 3 1000, acceptRecorded 4 1000]

def evaluateRecorded (nowMs : Int) : Call :=
  .evaluate recordedCandidate recordedSnapshot recordedSession nowMs false

/-- Evaluate the vote, let the clock reach the minute, and evaluate it again. -/
def expiringCalls : List Call :=
  votingCalls ++ [evaluateRecorded 2000, .pruneExpired 61000 false, evaluateRecorded 61000]

/-- The same vote, with the clock at the minute before it is evaluated. -/
def rollingCalls : List Call :=
  votingCalls ++ [.pruneExpired 61000 false, evaluateRecorded 2000]

/-- What the two runs do; they share the votes. -/
theorem recorded_runs :
    ((execute (step recordedCodec) expiringCalls ReplayLedger.fresh).1.map approves =
        [false, false, false, false, false, false, true, false, false] ∧
      ∀ e ∈ (execute (step recordedCodec) expiringCalls ReplayLedger.fresh).1,
        notBehind e = true) ∧
    ((execute (step recordedCodec) rollingCalls ReplayLedger.fresh).1.drop 6).map
        (fun e => (e.post.highWaterMs, approves e, (reliedOn recordedCodec e).map
          SignedGuardianBallot.expiresAtMs)) =
      [(some 61000, false, []), (some 61000, true, List.replicate 5 61000)] := by
  decide +kernel

theorem rollback_reopens_nothing_expiring :
    let run := execute (step recordedCodec) expiringCalls ReplayLedger.fresh
    run.1.map approves = [false, false, false, false, false, false, true, false, false] ∧
      run.1.Pairwise fun e e' => ∀ reached, e.post.highWaterMs = some reached → ∀ t ≤ reached,
        Approves e' → ∀ envelope ∈ reliedOn recordedCodec e', t < envelope.expiresAtMs := by
  have unused : Unused ReplayLedger.fresh := rfl
  exact ⟨recorded_runs.1.1, rollback_reopens_nothing (Run.of_execute unused expiringCalls)
    fun e he => inTime_of_notBehind (recorded_runs.1.2 e he)⟩

/-- The vote of a run whose clock has reached the minute, evaluated at a time before it. -/
theorem rolled_back_evaluation_approves :
    ¬ ∀ (codec : BallotCodec) (h : List BallotEvent) (file : ReplayLedger),
      Run (step codec) Unused h file →
      h.Pairwise fun e e' => ∀ reached, e.post.highWaterMs = some reached → ∀ t ≤ reached,
        Approves e' → ∀ envelope ∈ reliedOn codec e', t < envelope.expiresAtMs := by
  intro claim
  have unused : Unused ReplayLedger.fresh := rfl
  have pairs := (claim recordedCodec _ _ (Run.of_execute unused rollingCalls)).drop (i := 6)
  obtain ⟨prune, _, isCalls, pruned, rest⟩ := List.map_eq_cons_iff.mp recorded_runs.2
  obtain ⟨evaluation, _, rfl, evaluated, -⟩ := List.map_eq_cons_iff.mp rest
  rw [isCalls] at pairs
  have reopened := List.rel_of_pairwise_cons pairs List.mem_cons_self 61000
    (congrArg Prod.fst pruned) 61000 (le_refl _)
    (approves_iff.mp (congrArg (fun x => x.2.1) evaluated))
  have expiries : (reliedOn recordedCodec evaluation).map SignedGuardianBallot.expiresAtMs =
      List.replicate 5 61000 := congrArg (fun x => x.2.2) evaluated
  obtain ⟨envelope, _, isRelied, expiry, -⟩ := List.map_eq_cons_iff.mp expiries
  have := reopened envelope (isRelied ▸ List.mem_cons_self)
  omega

end Prometheus.Jaeger.SignedBallots
