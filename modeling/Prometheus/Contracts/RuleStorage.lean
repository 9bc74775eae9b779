import Prometheus.Contracts.Poll

/-!
# The rule storage covenant

`RuleStorageState`: one rule proposal at a time. A guardian submits, validators vote until
`voting_end_block`, governance finalizes, and an accepted rule can later be deactivated.
-/

namespace Prometheus.Contracts.RuleStorage

def minConfidence : I64 := 8500
def validatorQuorum : I64 := 6700
def votingBlocks : I64 := 864000
def ruleTypeYara : I64 := 0
def ruleTypeSigma : I64 := 2
def statusEmpty : I64 := 0
def statusPending : I64 := 1
def statusAccepted : I64 := 2
def statusRejected : I64 := 3
def guardianEventNone : I64 := 0
def guardianEventAccepted : I64 := 1
def guardianEventRejected : I64 := 2

structure State (PubKey : Type) where
  governancePk : PubKey
  nextProposalId : I64
  proposalId : I64
  guardianPk : PubKey
  threatHash : Vector UInt8 32
  ruleType : I64
  ruleContentIpfs : Vector UInt8 36
  confidence : I64
  submittedAtBlock : I64
  votesFor : I64
  votesAgainst : I64
  votingEndBlock : I64
  status : I64
  ruleCount : I64
  countInWindow : I64
  lastCountResetBlock : I64
  consensusScore : I64
  storedAtBlock : I64
  active : Bool
  guardianReputationEvent : I64
  deriving DecidableEq

def emptyThreatHash : Vector UInt8 32 := Vector.replicate 32 0

section Entrypoints

variable {PubKey Sig : Type} (checkSig : Sig → PubKey → Bool)

/-- The submission counter and the block it was last reset at, once `blockHeight` is reached. -/
def countWindow (prev : State PubKey) (blockHeight : I64) : Option (I64 × I64) := do
  let windowEnd ← prev.lastCountResetBlock.add votingBlocks
  return if blockHeight > windowEnd then (0, blockHeight)
    else (prev.countInWindow, prev.lastCountResetBlock)

def submitProposal (prev : State PubKey) (newGuardianPk : PubKey) (newThreatHash : Vector UInt8 32)
    (newRuleType : I64) (newRuleContentIpfs : Vector UInt8 36) (newConfidence blockHeight : I64)
    (guardianSig : Sig) : Option (State PubKey) := do
  require (prev.status ≠ statusPending)
  require (newConfidence ≥ minConfidence)
  require (newConfidence ≤ 10000)
  require (newRuleType ≥ ruleTypeYara)
  require (newRuleType ≤ ruleTypeSigma)
  require (newThreatHash ≠ emptyThreatHash)
  require (blockHeight ≥ 0)
  require (prev.nextProposalId ≥ 0)
  require (checkSig guardianSig newGuardianPk = true)
  let window ← countWindow prev blockHeight
  let nextProposalId ← prev.nextProposalId.add 1
  let votingEndBlock ← blockHeight.add votingBlocks
  let countInWindow ← window.1.add 1
  return {
    governancePk := prev.governancePk
    nextProposalId := nextProposalId
    proposalId := prev.nextProposalId
    guardianPk := newGuardianPk
    threatHash := newThreatHash
    ruleType := newRuleType
    ruleContentIpfs := newRuleContentIpfs
    confidence := newConfidence
    submittedAtBlock := blockHeight
    votesFor := 0
    votesAgainst := 0
    votingEndBlock := votingEndBlock
    status := statusPending
    ruleCount := prev.ruleCount
    countInWindow := countInWindow
    lastCountResetBlock := window.2
    consensusScore := 0
    storedAtBlock := 0
    active := false
    guardianReputationEvent := guardianEventNone }

def voteOnProposal (prev : State PubKey) (support : Bool) (blockHeight : I64) (validatorSig : Sig)
    (validatorPk : PubKey) : Option (State PubKey) := do
  require (prev.status = statusPending)
  require (blockHeight ≥ 0)
  require (blockHeight < prev.votingEndBlock)
  require (checkSig validatorSig validatorPk = true)
  let nextVotes ← countVote support prev.votesFor prev.votesAgainst
  return { prev with votesFor := nextVotes.1, votesAgainst := nextVotes.2 }

def finalizeProposal (prev : State PubKey) (blockHeight : I64) (governanceSig : Sig) :
    Option (State PubKey) := do
  require (prev.status = statusPending)
  require (blockHeight ≥ prev.votingEndBlock)
  require (checkSig governanceSig prev.governancePk = true)
  let totalVotes ← prev.votesFor.add prev.votesAgainst
  require (totalVotes > 0)
  let scaled ← prev.votesFor.mul 10000
  let approval ← scaled.div totalVotes
  if approval ≥ validatorQuorum then do
    let nextRuleCount ← prev.ruleCount.add 1
    return { prev with
      status := statusAccepted
      ruleCount := nextRuleCount
      consensusScore := approval
      storedAtBlock := blockHeight
      active := true
      guardianReputationEvent := guardianEventAccepted }
  else
    return { prev with
      status := statusRejected
      consensusScore := approval
      active := false
      guardianReputationEvent := guardianEventRejected }

def deactivateRule (prev : State PubKey) (governanceSig : Sig) : Option (State PubKey) := do
  require (prev.status = statusAccepted)
  require (prev.active = true)
  require (checkSig governanceSig prev.governancePk = true)
  return { prev with active := false }

end Entrypoints

/-! ## The machine -/

inductive Call (PubKey Sig : Type) where
  | submitProposal (newGuardianPk : PubKey) (newThreatHash : Vector UInt8 32) (newRuleType : I64)
      (newRuleContentIpfs : Vector UInt8 36) (newConfidence blockHeight : I64) (sig : Sig)
  | voteOnProposal (support : Bool) (blockHeight : I64) (sig : Sig) (validatorPk : PubKey)
  | finalizeProposal (blockHeight : I64) (sig : Sig)
  | deactivateRule (sig : Sig)

/-- The block height a call supplies, if it supplies one. -/
def Call.height? {PubKey Sig : Type} : Call PubKey Sig → Option I64
  | .submitProposal _ _ _ _ _ height _ => some height
  | .voteOnProposal _ height _ _ => some height
  | .finalizeProposal height _ => some height
  | .deactivateRule _ => none

variable {PubKey Sig : Type} {checkSig : Sig → PubKey → Bool} {s t : State PubKey}
variable {h : List (Transition (State PubKey) (Call PubKey Sig))}

def step (checkSig : Sig → PubKey → Bool) :
    Call PubKey Sig → State PubKey → Option (State PubKey)
  | .submitProposal pk hash type cid confidence height sig, s =>
    submitProposal checkSig s pk hash type cid confidence height sig
  | .voteOnProposal support height sig pk, s => voteOnProposal checkSig s support height sig pk
  | .finalizeProposal height sig, s => finalizeProposal checkSig s height sig
  | .deactivateRule sig, s => deactivateRule checkSig s sig

/-! ## What each entrypoint does -/

theorem submitProposal_some {pk : PubKey} {hash : Vector UInt8 32} {type : I64}
    {cid : Vector UInt8 36} {confidence height : I64} {sig : Sig} :
    submitProposal checkSig s pk hash type cid confidence height sig = some t ↔
      s.status ≠ statusPending ∧ 8500 ≤ confidence.val ∧ confidence.val ≤ 10000 ∧
      0 ≤ type.val ∧ type.val ≤ 2 ∧ hash ≠ emptyThreatHash ∧ 0 ≤ height.val ∧
      0 ≤ s.nextProposalId.val ∧ checkSig sig pk = true ∧
      ∃ window next votingEnd count, countWindow s height = some window ∧
        next.val = s.nextProposalId.val + 1 ∧ votingEnd.val = height.val + 864000 ∧
        count.val = window.1.val + 1 ∧
        t = {
          governancePk := s.governancePk, nextProposalId := next, proposalId := s.nextProposalId,
          guardianPk := pk, threatHash := hash, ruleType := type, ruleContentIpfs := cid,
          confidence := confidence, submittedAtBlock := height, votesFor := 0, votesAgainst := 0,
          votingEndBlock := votingEnd, status := statusPending, ruleCount := s.ruleCount,
          countInWindow := count, lastCountResetBlock := window.2, consensusScore := 0,
          storedAtBlock := 0, active := false, guardianReputationEvent := guardianEventNone } := by
  simp only [submitProposal, line_bind, require_eq_some, exists_const, pure, Option.some.injEq,
    I64.add_eq_some, ge_iff_le, I64.le_iff, I64.val_zero, I64.val_one, minConfidence, ruleTypeYara,
    ruleTypeSigma, votingBlocks, I64.val_ofNat]
  norm_num only
  constructor
  · intro hc
    obtain ⟨s1, c1, c2, t1, t2, hne, hh, hn, hsig, window, hw, next, hnext, votingEnd, hv, count,
      hcount, rfl⟩ := hc
    exact ⟨s1, c1, c2, t1, t2, hne, hh, hn, hsig, window, next, votingEnd, count, hw, hnext, hv,
      hcount, rfl⟩
  · intro hc
    obtain ⟨s1, c1, c2, t1, t2, hne, hh, hn, hsig, window, next, votingEnd, count, hw, hnext, hv,
      hcount, rfl⟩ := hc
    exact ⟨s1, c1, c2, t1, t2, hne, hh, hn, hsig, window, hw, next, hnext, votingEnd, hv, count,
      hcount, rfl⟩

theorem voteOnProposal_some {support : Bool} {height : I64} {sig : Sig} {pk : PubKey} :
    voteOnProposal checkSig s support height sig pk = some t ↔
      s.status = statusPending ∧ 0 ≤ height.val ∧ height.val < s.votingEndBlock.val ∧
      checkSig sig pk = true ∧
      ∃ f a : I64, f.val = s.votesFor.val + tick support true ∧
        a.val = s.votesAgainst.val + tick support false ∧
        t = { s with votesFor := f, votesAgainst := a } := by
  simp only [voteOnProposal, line_bind, require_eq_some, exists_const, pure, Option.some.injEq,
    countVote_some, ge_iff_le, I64.le_iff, I64.lt_iff, I64.val_zero]
  constructor
  · intro hc
    obtain ⟨pending, low, high, hsig, votes, ⟨hf, ha⟩, rfl⟩ := hc
    exact ⟨pending, low, high, hsig, votes.1, votes.2, hf, ha, rfl⟩
  · intro hc
    obtain ⟨pending, low, high, hsig, f, a, hf, ha, rfl⟩ := hc
    exact ⟨pending, low, high, hsig, (f, a), ⟨hf, ha⟩, rfl⟩

/-- The state a finalization at `height` with the given approval and rule count leaves. -/
def finalized (s : State PubKey) (height approval count : I64) : State PubKey :=
  if 6700 ≤ approval.val then
    { s with
      status := statusAccepted, ruleCount := count, consensusScore := approval,
      storedAtBlock := height, active := true, guardianReputationEvent := guardianEventAccepted }
  else
    { s with
      status := statusRejected, consensusScore := approval, active := false,
      guardianReputationEvent := guardianEventRejected }

theorem finalizeProposal_some {height : I64} {sig : Sig} :
    finalizeProposal checkSig s height sig = some t ↔
      s.status = statusPending ∧ s.votingEndBlock.val ≤ height.val ∧
      checkSig sig s.governancePk = true ∧
      ∃ total scaled approval : I64, total.val = s.votesFor.val + s.votesAgainst.val ∧
        0 < total.val ∧ scaled.val = s.votesFor.val * 10000 ∧
        approval.val = scaled.val.tdiv total.val ∧
        ∃ count : I64, (6700 ≤ approval.val → count.val = s.ruleCount.val + 1) ∧
          t = finalized s height approval count := by
  simp only [finalizeProposal, line_bind, require_eq_some, exists_const, pure, I64.add_eq_some,
    I64.mul_eq_some, I64.div_eq_some, ge_iff_le, gt_iff_lt, I64.le_iff, I64.lt_iff, I64.val_zero,
    validatorQuorum, I64.val_ofNat]
  norm_num only
  constructor
  · intro hc
    obtain ⟨pending, late, hsig, total, ht, positive, scaled, hs, approval, ⟨_, ha⟩, hc⟩ := hc
    refine ⟨pending, late, hsig, total, scaled, approval, ht, positive, hs, ha, ?_⟩
    by_cases quorum : 6700 ≤ approval.val
    · rw [if_pos quorum] at hc
      simp only [line_bind, I64.add_eq_some, Option.some.injEq, I64.val_one] at hc
      obtain ⟨count, hcount, rfl⟩ := hc
      exact ⟨count, fun _ => hcount, by rw [finalized, if_pos quorum]⟩
    · rw [if_neg quorum] at hc
      cases hc
      exact ⟨0, fun reached => absurd reached quorum, by rw [finalized, if_neg quorum]⟩
  · intro hc
    obtain ⟨pending, late, hsig, total, scaled, approval, ht, positive, hs, ha, count, hcount,
      rfl⟩ := hc
    refine ⟨pending, late, hsig, total, ht, positive, scaled, hs, approval, ⟨by omega, ha⟩, ?_⟩
    by_cases quorum : 6700 ≤ approval.val
    · rw [if_pos quorum, finalized, if_pos quorum]
      simp only [line_bind, I64.add_eq_some, Option.some.injEq, I64.val_one]
      exact ⟨count, hcount quorum, rfl⟩
    · rw [if_neg quorum, finalized, if_neg quorum]

theorem deactivateRule_some {sig : Sig} :
    deactivateRule checkSig s sig = some t ↔
      s.status = statusAccepted ∧ s.active = true ∧ checkSig sig s.governancePk = true ∧
      t = { s with active := false } := by
  simp only [deactivateRule, line_bind, require_eq_some, exists_const, pure, Option.some.injEq]
  simp only [eq_comm (b := t)]

theorem countWindow_some {height : I64} {window : I64 × I64} :
    countWindow s height = some window ↔
      s.lastCountResetBlock.val + 864000 < 2 ^ 63 ∧
        window = if s.lastCountResetBlock.val + 864000 < height.val then (0, height)
          else (s.countInWindow, s.lastCountResetBlock) := by
  simp only [countWindow, line_bind, I64.add_eq_some, pure, Option.some.injEq, gt_iff_lt, I64.lt_iff,
    votingBlocks, I64.val_ofNat]
  norm_num only
  constructor
  · intro hc
    obtain ⟨windowEnd, he, rfl⟩ := hc
    have := windowEnd.upper
    rw [he]
    exact ⟨by omega, rfl⟩
  · intro hc
    obtain ⟨fits, rfl⟩ := hc
    obtain ⟨windowEnd, he⟩ : ∃ e : I64, e.val = s.lastCountResetBlock.val + 864000 := by
      have := s.lastCountResetBlock.lower
      apply I64.exists_val.2
      omega
    exact ⟨windowEnd, he, by rw [he]⟩

@[simp] theorem finalized_votes {height approval count : I64} :
    (finalized s height approval count).votesFor = s.votesFor ∧
      (finalized s height approval count).votesAgainst = s.votesAgainst := by
  unfold finalized
  by_cases quorum : 6700 ≤ approval.val <;> simp [quorum]

/-! ## The poll -/

def effect : Call PubKey Sig → Effect PubKey
  | .submitProposal _ _ _ _ _ _ _ => .submit
  | .voteOnProposal support _ _ pk => .vote pk support
  | .finalizeProposal _ _ => .keep
  | .deactivateRule _ => .keep

/-- The proposal in the slot is polled. -/
def poll (checkSig : Sig → PubKey → Bool) : Poll (State PubKey) (Call PubKey Sig) PubKey where
  step := step checkSig
  effect := effect
  votesFor s := s.votesFor.val
  votesAgainst s := s.votesAgainst.val
  submitted := by
    intro c s t he hc
    cases c with
    | submitProposal pk hash type cid confidence height sig =>
      obtain ⟨_, _, _, _, _, _, _, _, _, _, _, _, _, _, _, _, _, rfl⟩ := submitProposal_some.1 hc
      exact ⟨rfl, rfl⟩
    | voteOnProposal support height sig pk => cases he
    | finalizeProposal height sig => cases he
    | deactivateRule sig => cases he
  voted := by
    intro c s t voter support he hc
    cases c with
    | submitProposal pk hash type cid confidence height sig => cases he
    | voteOnProposal support height sig pk =>
      cases he
      obtain ⟨_, _, _, _, f, a, hf, ha, rfl⟩ := voteOnProposal_some.1 hc
      exact ⟨hf, ha⟩
    | finalizeProposal height sig => cases he
    | deactivateRule sig => cases he
  kept := by
    intro c s t he hc
    cases c with
    | submitProposal pk hash type cid confidence height sig => cases he
    | voteOnProposal support height sig pk => cases he
    | finalizeProposal height sig =>
      obtain ⟨_, _, _, _, _, _, _, _, _, _, _, _, rfl⟩ := finalizeProposal_some.1 hc
      simp
    | deactivateRule sig =>
      obtain ⟨_, _, _, rfl⟩ := deactivateRule_some.1 hc
      exact ⟨rfl, rfl⟩

end Prometheus.Contracts.RuleStorage
