import Prometheus.Contracts.CommunityDonations
import Prometheus.Contracts.DevIncentivePool
import Prometheus.Contracts.RuleStorage

/-!
# How an item is voted on and leaves its slot

Each of the three covenants with a slot counts one vote for every accepted vote call, whatever keys
sign them, and lets an item out of `STATUS_PENDING` only by the call that settles it. `Settleable`
says of a pending state when that call is accepted; there is no other way out.
-/

namespace Prometheus.Contracts

namespace RuleStorage

variable {PubKey Sig : Type} {checkSig : Sig → PubKey → Bool} {s t : State PubKey}
variable {h : List (Transition (State PubKey) (Call PubKey Sig))}

theorem pending_ne_accepted : statusPending ≠ statusAccepted := by decide

theorem finalized_status {height approval count : I64} :
    (finalized s height approval count).status =
      if 6700 ≤ approval.val then statusAccepted else statusRejected := by
  unfold finalized
  by_cases quorum : 6700 ≤ approval.val <;> simp [quorum]

/-- An accepted proposal that was submitted in the run reached the quorum. -/
theorem accepted_quorum (r : Run (step checkSig) s h t)
    (item : ∃ x ∈ h, effect x.call = .submit) (accepted : t.status = statusAccepted) :
    6700 * (t.votesFor.val + t.votesAgainst.val) ≤ t.votesFor.val * 10000 := by
  induction r with
  | genesis => simp at item
  | @accept k u v c r' hc ih =>
    cases c with
    | submitProposal pk hash type cid confidence height sig =>
      obtain ⟨_, _, _, _, _, _, _, _, _, _, _, _, _, _, _, _, _, rfl⟩ := submitProposal_some.1 hc
      exact absurd accepted pending_ne_accepted
    | voteOnProposal support height sig pk =>
      obtain ⟨pending, _, _, _, _, _, _, _, rfl⟩ := voteOnProposal_some.1 hc
      simp only [pending] at accepted
      exact absurd accepted (by decide)
    | finalizeProposal height sig =>
      obtain ⟨_, _, _, total, scaled, approval, ht, positive, hs, ha, count, _, rfl⟩ :=
        finalizeProposal_some.1 hc
      rw [finalized_status] at accepted
      by_cases quorum : 6700 ≤ approval.val
      · rw [ha, hs, quorum_le_iff positive (by decide), ht] at quorum
        rw [finalized_votes.1, finalized_votes.2]
        exact quorum
      · rw [if_neg quorum] at accepted
        exact absurd accepted (by decide)
    | deactivateRule sig =>
      obtain ⟨before, _, _, rfl⟩ := deactivateRule_some.1 hc
      apply ih _ before
      obtain ⟨x, hx, hsubmit⟩ := item
      cases hx with
      | head => cases hsubmit
      | tail _ hx => exact ⟨x, hx, hsubmit⟩

end RuleStorage

namespace DevIncentivePool

variable {PubKey Sig : Type} {checkSig : Sig → PubKey → Bool} {s t : State PubKey}
variable {h : List (Transition (State PubKey) (Call PubKey Sig))}

theorem executed_ne_pending : statusExecuted ≠ statusPending := by decide

/-- An executed grant that was proposed in the run reached the quorum. -/
theorem executed_quorum (r : Run (step checkSig) s h t)
    (item : ∃ x ∈ h, effect x.call = .submit) (done : t.status = statusExecuted) :
    10 ≤ t.votesFor.val + t.votesAgainst.val ∧
      6700 * (t.votesFor.val + t.votesAgainst.val) ≤ t.votesFor.val * 10000 := by
  cases r with
  | genesis => simp at item
  | accept c r' hc =>
    cases c with
    | proposeGrant developer contribution description lines complexity amount height sig pk =>
      obtain ⟨_, _, _, _, _, _, _, _, _, _, _, _, _, _, _, rfl⟩ := proposeGrant_some.1 hc
      exact absurd done.symm executed_ne_pending
    | voteGrant support height sig pk =>
      obtain ⟨pending, _, _, _, _, _, _, _, _, _, rfl⟩ := voteGrant_some.1 hc
      simp only [pending] at done
      exact absurd done (by decide)
    | executeGrant height =>
      obtain ⟨_, _, _, _, total, _, ht, enough, _, quorum, _, _, _, rfl⟩ := executeGrant_some.1 hc
      rw [ht] at enough quorum
      exact ⟨enough, quorum⟩

end DevIncentivePool

namespace CommunityDonations

variable {PubKey Sig : Type} {checkSig : Sig → PubKey → Bool} {s t : State PubKey}
variable {h : List (Transition (State PubKey) (Call PubKey Sig))}

/-- The ballots on the disbursement let it be executed. -/
structure Approved (s : State PubKey) : Prop where
  fresh : s.executed = false
  voted : 10 ≤ s.votesFor.val + s.votesAgainst.val
  total : s.votesFor.val + s.votesAgainst.val < 2 ^ 63
  scaled : s.votesFor.val * 10000 < 2 ^ 63
  quorum : 6700 * (s.votesFor.val + s.votesAgainst.val) ≤ s.votesFor.val * 10000

theorem executed_ne_pending : statusExecuted ≠ statusPending := by decide

/-- An executed disbursement that was proposed in the run reached the quorum. -/
theorem executed_quorum (r : Run (step checkSig) s h t)
    (item : ∃ x ∈ h, effect x.call = .submit) (done : t.status = statusExecuted) :
    10 ≤ t.votesFor.val + t.votesAgainst.val ∧
      6700 * (t.votesFor.val + t.votesAgainst.val) ≤ t.votesFor.val * 10000 := by
  induction r with
  | genesis => simp at item
  | @accept k u v c r' hc ih =>
    cases c with
    | donateKas donor amount message height sig =>
      obtain ⟨_, _, _, _, _, _, _, _, _, _, _, _, rfl⟩ := donateKas_some.1 hc
      apply ih _ done
      obtain ⟨x, hx, hsubmit⟩ := item
      cases hx with
      | head => cases hsubmit
      | tail _ hx => exact ⟨x, hx, hsubmit⟩
    | proposeDisbursement recipient amount purpose height sig pk =>
      obtain ⟨_, _, _, _, _, _, _, _, _, _, rfl⟩ := proposeDisbursement_some.1 hc
      exact absurd done.symm executed_ne_pending
    | voteDisbursement support height sig pk =>
      obtain ⟨pending, _, _, _, _, _, _, _, _, rfl⟩ := voteDisbursement_some.1 hc
      simp only [pending] at done
      exact absurd done (by decide)
    | executeDisbursement height sig =>
      obtain ⟨_, _, _, _, total, _, ht, enough, _, quorum, _, _, _, rfl⟩ :=
        executeDisbursement_some.1 hc
      rw [ht] at enough quorum
      exact ⟨enough, quorum⟩

end CommunityDonations

variable {PubKey Sig : Type}

/-- In every run each covenant counts the accepted votes on the item since it was submitted, one for
    each vote call and each under the key that signed it; and an accepted, paid or executed item had
    67 percent of the votes counted. -/
theorem ballots_counted (checkSig : Sig → PubKey → Bool) :
    (∀ s t h, Run (RuleStorage.step checkSig) s h t →
      (∃ x ∈ h, RuleStorage.effect x.call = .submit) →
      t.votesFor.val + t.votesAgainst.val = (Poll.ballots RuleStorage.effect h).length ∧
        t.votesFor.val = Poll.side true (Poll.ballots RuleStorage.effect h) ∧
        (∀ x ∈ h, ∀ support height sig pk, x.call = .voteOnProposal support height sig pk →
          checkSig sig pk = true) ∧
        (t.status = RuleStorage.statusAccepted →
          6700 * (t.votesFor.val + t.votesAgainst.val) ≤ t.votesFor.val * 10000)) ∧
    (∀ s t h, Run (DevIncentivePool.step checkSig) s h t →
      (∃ x ∈ h, DevIncentivePool.effect x.call = .submit) →
      t.votesFor.val + t.votesAgainst.val = (Poll.ballots DevIncentivePool.effect h).length ∧
        t.votesFor.val = Poll.side true (Poll.ballots DevIncentivePool.effect h) ∧
        (∀ x ∈ h, ∀ support height sig pk, x.call = .voteGrant support height sig pk →
          checkSig sig pk = true) ∧
        (t.status = DevIncentivePool.statusExecuted →
          10 ≤ t.votesFor.val + t.votesAgainst.val ∧
            6700 * (t.votesFor.val + t.votesAgainst.val) ≤ t.votesFor.val * 10000)) ∧
    (∀ s t h, Run (CommunityDonations.step checkSig) s h t →
      (∃ x ∈ h, CommunityDonations.effect x.call = .submit) →
      t.votesFor.val + t.votesAgainst.val = (Poll.ballots CommunityDonations.effect h).length ∧
        t.votesFor.val = Poll.side true (Poll.ballots CommunityDonations.effect h) ∧
        (∀ x ∈ h, ∀ support height sig pk, x.call = .voteDisbursement support height sig pk →
          checkSig sig pk = true) ∧
        (t.status = CommunityDonations.statusExecuted →
          10 ≤ t.votesFor.val + t.votesAgainst.val ∧
            6700 * (t.votesFor.val + t.votesAgainst.val) ≤ t.votesFor.val * 10000)) := by
  refine ⟨?_, ?_, ?_⟩
  · intro s t h r item
    refine ⟨(RuleStorage.poll checkSig).votes_eq r item,
      ((RuleStorage.poll checkSig).tally r item).1, ?_, RuleStorage.accepted_quorum r item⟩
    intro x hx support height sig pk hcall
    have hc := r.accepted x hx
    rw [hcall] at hc
    exact (RuleStorage.voteOnProposal_some.1 hc).2.2.2.1
  · intro s t h r item
    refine ⟨(DevIncentivePool.poll checkSig).votes_eq r item,
      ((DevIncentivePool.poll checkSig).tally r item).1, ?_,
      DevIncentivePool.executed_quorum r item⟩
    intro x hx support height sig pk hcall
    have hc := r.accepted x hx
    rw [hcall] at hc
    exact (DevIncentivePool.voteGrant_some.1 hc).2.2.2.2.2.1
  · intro s t h r item
    refine ⟨(CommunityDonations.poll checkSig).votes_eq r item,
      ((CommunityDonations.poll checkSig).tally r item).1, ?_,
      CommunityDonations.executed_quorum r item⟩
    intro x hx support height sig pk hcall
    have hc := r.accepted x hx
    rw [hcall] at hc
    exact (CommunityDonations.voteDisbursement_some.1 hc).2.2.2.2.1

/-! ## Examples -/

namespace RuleStorage

/-- A rule storage that never held a proposal, governed by key `9`. -/
def exampleGenesis : State Nat where
  governancePk := 9
  nextProposalId := 0
  proposalId := 0
  guardianPk := 0
  threatHash := emptyThreatHash
  ruleType := 0
  ruleContentIpfs := Vector.replicate 36 0
  confidence := 0
  submittedAtBlock := 0
  votesFor := 0
  votesAgainst := 0
  votingEndBlock := 0
  status := statusEmpty
  ruleCount := 0
  countInWindow := 0
  lastCountResetBlock := 0
  consensusScore := 0
  storedAtBlock := 0
  active := false
  guardianReputationEvent := guardianEventNone

/-- Keys sign with themselves in the examples. -/
def exampleSig (sig pk : Nat) : Bool := sig == pk

/-- A proposal by key `1`. -/
def exampleSubmission : Call Nat Nat :=
  .submitProposal 1 (Vector.replicate 32 7) 0 (Vector.replicate 36 8) 9000 5 1

/-- The proposal, and two votes for it under key `2`. -/
def exampleVotes : List (Call Nat Nat) :=
  [exampleSubmission, .voteOnProposal true 6 2 2, .voteOnProposal true 7 2 2]

end RuleStorage

/-- The two votes under one key are two ballots. -/
theorem ballots_counted_two : ∃ h t,
    Run (RuleStorage.step RuleStorage.exampleSig) RuleStorage.exampleGenesis h t ∧
      (Poll.ballots RuleStorage.effect h).length = 2 ∧
      t.votesFor.val + t.votesAgainst.val = 2 := by
  have ran : (replay (RuleStorage.step RuleStorage.exampleSig) RuleStorage.exampleVotes []
      RuleStorage.exampleGenesis).map (fun p => ((Poll.ballots RuleStorage.effect p.1).length,
        p.1.any fun x => match RuleStorage.effect x.call with | .submit => true | _ => false)) =
      some (2, true) := by decide
  obtain ⟨⟨h, t⟩, hr, hp⟩ := Option.map_eq_some_iff.1 ran
  have r := Run.genesis.of_replay hr
  rw [Prod.mk.injEq] at hp
  obtain ⟨x, hx, hsubmit⟩ := List.any_eq_true.1 hp.2
  have item : ∃ x ∈ h, RuleStorage.effect x.call = .submit := by
    refine ⟨x, hx, ?_⟩
    cases he : RuleStorage.effect x.call with
    | submit => rfl
    | vote voter support => simp [he] at hsubmit
    | keep => simp [he] at hsubmit
  have all := (ballots_counted RuleStorage.exampleSig).1 _ _ _ r item
  rw [hp.1] at all
  exact ⟨h, t, r, hp.1, all.1⟩

/-- One key votes twice and both votes count. -/
theorem one_key_votes_twice :
    ¬ ∀ (s t : RuleStorage.State Nat)
      (h : List (Transition (RuleStorage.State Nat) (RuleStorage.Call Nat Nat))),
      s.status = RuleStorage.statusEmpty → Run (RuleStorage.step RuleStorage.exampleSig) s h t →
      t.votesFor.val + t.votesAgainst.val =
        ((Poll.ballots RuleStorage.effect h).map Prod.fst).dedup.length := by
  intro claim
  have ran : (replay (RuleStorage.step RuleStorage.exampleSig) RuleStorage.exampleVotes []
      RuleStorage.exampleGenesis).map (fun p => (p.2.votesFor.val + p.2.votesAgainst.val,
        ((Poll.ballots RuleStorage.effect p.1).map Prod.fst).dedup.length)) = some (2, 1) := by
    decide
  obtain ⟨⟨h, t⟩, hr, hp⟩ := Option.map_eq_some_iff.1 ran
  have r := Run.genesis.of_replay hr
  have equal := claim _ _ _ rfl r
  rw [Prod.mk.injEq] at hp
  rw [hp.1, hp.2] at equal
  exact absurd equal (by decide)

end Prometheus.Contracts
