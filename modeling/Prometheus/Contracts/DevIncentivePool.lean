import Prometheus.Contracts.Fund
import Prometheus.Contracts.Poll

/-!
# The developer incentive pool covenant

`DevIncentivePoolState`: a pool that pays grants. Anyone proposes a grant within the pool, validators
vote until `voting_end_block`, and an approved grant is paid out of the pool. `step_fund` shows that
it is a `Fund`.
-/

namespace Prometheus.Contracts.DevIncentivePool

def maxGrantProm : I64 := 100000
def grantVotingBlocks : I64 := 604800
def minComplexity : I64 := 1
def maxComplexity : I64 := 10
def quorumVotes : I64 := 10
def validatorQuorum : I64 := 6700
def statusNone : I64 := 0
def statusPending : I64 := 1
def statusExecuted : I64 := 2

structure State (PubKey : Type) where
  nextGrantId : I64
  poolBalanceProm : I64
  grantId : I64
  developerPk : PubKey
  contributionHash : Vector UInt8 32
  descriptionHash : Vector UInt8 32
  linesOfCode : I64
  complexity : I64
  requestedAmountProm : I64
  votesFor : I64
  votesAgainst : I64
  votingEndBlock : I64
  executed : Bool
  paid : Bool
  status : I64
  lastProposerPk : PubKey
  deriving DecidableEq

section Entrypoints

variable {PubKey Sig : Type} (checkSig : Sig → PubKey → Bool)

def proposeGrant (prev : State PubKey) (newDeveloperPk : PubKey)
    (newContributionHash newDescriptionHash : Vector UInt8 32)
    (lines requestedComplexity amount blockHeight : I64) (proposerSig : Sig) (proposerPk : PubKey) :
    Option (State PubKey) := do
  require (prev.status ≠ statusPending)
  require (prev.nextGrantId ≥ 0)
  require (prev.poolBalanceProm ≥ 0)
  require (lines ≥ 0)
  require (requestedComplexity ≥ minComplexity)
  require (requestedComplexity ≤ maxComplexity)
  require (amount > 0)
  require (amount ≤ maxGrantProm)
  require (amount ≤ prev.poolBalanceProm)
  require (blockHeight ≥ 0)
  require (checkSig proposerSig proposerPk = true)
  let nextGrantId ← prev.nextGrantId.add 1
  let votingEndBlock ← blockHeight.add grantVotingBlocks
  return {
    nextGrantId := nextGrantId
    poolBalanceProm := prev.poolBalanceProm
    grantId := prev.nextGrantId
    developerPk := newDeveloperPk
    contributionHash := newContributionHash
    descriptionHash := newDescriptionHash
    linesOfCode := lines
    complexity := requestedComplexity
    requestedAmountProm := amount
    votesFor := 0
    votesAgainst := 0
    votingEndBlock := votingEndBlock
    executed := false
    paid := false
    status := statusPending
    lastProposerPk := proposerPk }

def voteGrant (prev : State PubKey) (support : Bool) (blockHeight : I64) (validatorSig : Sig)
    (validatorPk : PubKey) : Option (State PubKey) := do
  require (prev.status = statusPending)
  require (prev.executed = false)
  require (prev.paid = false)
  require (blockHeight ≥ 0)
  require (blockHeight < prev.votingEndBlock)
  require (checkSig validatorSig validatorPk = true)
  let nextVotes ← countVote support prev.votesFor prev.votesAgainst
  return { prev with votesFor := nextVotes.1, votesAgainst := nextVotes.2 }

/-- Anyone may call it. -/
def executeGrant (prev : State PubKey) (blockHeight : I64) : Option (State PubKey) := do
  require (prev.status = statusPending)
  require (prev.executed = false)
  require (prev.paid = false)
  require (blockHeight ≥ prev.votingEndBlock)
  let totalVotes ← prev.votesFor.add prev.votesAgainst
  require (totalVotes ≥ quorumVotes)
  let scaled ← prev.votesFor.mul 10000
  let approval ← scaled.div totalVotes
  require (approval ≥ validatorQuorum)
  require (prev.poolBalanceProm ≥ prev.requestedAmountProm)
  let poolBalanceProm ← prev.poolBalanceProm.sub prev.requestedAmountProm
  return { prev with
    poolBalanceProm := poolBalanceProm
    executed := true
    paid := true
    status := statusExecuted }

end Entrypoints

/-! ## The machine -/

inductive Call (PubKey Sig : Type) where
  | proposeGrant (newDeveloperPk : PubKey) (newContributionHash newDescriptionHash : Vector UInt8 32)
      (lines requestedComplexity amount blockHeight : I64) (sig : Sig) (proposerPk : PubKey)
  | voteGrant (support : Bool) (blockHeight : I64) (sig : Sig) (validatorPk : PubKey)
  | executeGrant (blockHeight : I64)

def Call.isExecute {PubKey Sig : Type} : Call PubKey Sig → Bool
  | .proposeGrant _ _ _ _ _ _ _ _ _ => false
  | .voteGrant _ _ _ _ => false
  | .executeGrant _ => true

/-- The block height a call supplies. -/
def Call.height {PubKey Sig : Type} : Call PubKey Sig → I64
  | .proposeGrant _ _ _ _ _ _ height _ _ => height
  | .voteGrant _ height _ _ => height
  | .executeGrant height => height

variable {PubKey Sig : Type} {checkSig : Sig → PubKey → Bool} {s t : State PubKey}
variable {h : List (Transition (State PubKey) (Call PubKey Sig))}

def step (checkSig : Sig → PubKey → Bool) :
    Call PubKey Sig → State PubKey → Option (State PubKey)
  | .proposeGrant developer contribution description lines complexity amount height sig pk, s =>
    proposeGrant checkSig s developer contribution description lines complexity amount height sig pk
  | .voteGrant support height sig pk, s => voteGrant checkSig s support height sig pk
  | .executeGrant height, s => executeGrant s height

/-! ## What each entrypoint does -/

theorem proposeGrant_some {developer pk : PubKey} {contribution description : Vector UInt8 32}
    {lines complexity amount height : I64} {sig : Sig} :
    proposeGrant checkSig s developer contribution description lines complexity amount height sig pk
        = some t ↔
      s.status ≠ statusPending ∧ 0 ≤ s.nextGrantId.val ∧ 0 ≤ s.poolBalanceProm.val ∧
      0 ≤ lines.val ∧ 1 ≤ complexity.val ∧ complexity.val ≤ 10 ∧ 0 < amount.val ∧
      amount.val ≤ 100000 ∧ amount.val ≤ s.poolBalanceProm.val ∧ 0 ≤ height.val ∧
      checkSig sig pk = true ∧
      ∃ next votingEnd : I64, next.val = s.nextGrantId.val + 1 ∧
        votingEnd.val = height.val + 604800 ∧
        t = {
          nextGrantId := next, poolBalanceProm := s.poolBalanceProm, grantId := s.nextGrantId,
          developerPk := developer, contributionHash := contribution, descriptionHash := description,
          linesOfCode := lines, complexity := complexity, requestedAmountProm := amount,
          votesFor := 0, votesAgainst := 0, votingEndBlock := votingEnd, executed := false,
          paid := false, status := statusPending, lastProposerPk := pk } := by
  simp only [proposeGrant, line_bind, require_eq_some, exists_const, pure, Option.some.injEq,
    I64.add_eq_some, ge_iff_le, gt_iff_lt, I64.le_iff, I64.lt_iff, I64.val_zero, I64.val_one,
    minComplexity, maxComplexity, maxGrantProm, grantVotingBlocks, I64.val_ofNat]
  norm_num only
  constructor
  · intro hc
    obtain ⟨s1, n, p, l, c1, c2, a1, a2, a3, hh, hsig, next, hnext, votingEnd, hv, rfl⟩ := hc
    exact ⟨s1, n, p, l, c1, c2, a1, a2, a3, hh, hsig, next, votingEnd, hnext, hv, rfl⟩
  · intro hc
    obtain ⟨s1, n, p, l, c1, c2, a1, a2, a3, hh, hsig, next, votingEnd, hnext, hv, rfl⟩ := hc
    exact ⟨s1, n, p, l, c1, c2, a1, a2, a3, hh, hsig, next, hnext, votingEnd, hv, rfl⟩

theorem voteGrant_some {support : Bool} {height : I64} {sig : Sig} {pk : PubKey} :
    voteGrant checkSig s support height sig pk = some t ↔
      s.status = statusPending ∧ s.executed = false ∧ s.paid = false ∧ 0 ≤ height.val ∧
      height.val < s.votingEndBlock.val ∧ checkSig sig pk = true ∧
      ∃ f a : I64, f.val = s.votesFor.val + tick support true ∧
        a.val = s.votesAgainst.val + tick support false ∧
        t = { s with votesFor := f, votesAgainst := a } := by
  simp only [voteGrant, line_bind, require_eq_some, exists_const, pure, Option.some.injEq,
    countVote_some, ge_iff_le, I64.le_iff, I64.lt_iff, I64.val_zero]
  constructor
  · intro hc
    obtain ⟨pending, fresh, unpaid, low, high, hsig, votes, ⟨hf, ha⟩, rfl⟩ := hc
    exact ⟨pending, fresh, unpaid, low, high, hsig, votes.1, votes.2, hf, ha, rfl⟩
  · intro hc
    obtain ⟨pending, fresh, unpaid, low, high, hsig, f, a, hf, ha, rfl⟩ := hc
    exact ⟨pending, fresh, unpaid, low, high, hsig, (f, a), ⟨hf, ha⟩, rfl⟩

theorem executeGrant_some {height : I64} :
    executeGrant s height = some t ↔
      s.status = statusPending ∧ s.executed = false ∧ s.paid = false ∧
      s.votingEndBlock.val ≤ height.val ∧
      ∃ total scaled : I64, total.val = s.votesFor.val + s.votesAgainst.val ∧ 10 ≤ total.val ∧
        scaled.val = s.votesFor.val * 10000 ∧ 6700 * total.val ≤ s.votesFor.val * 10000 ∧
        s.requestedAmountProm.val ≤ s.poolBalanceProm.val ∧
        ∃ pool : I64, pool.val = s.poolBalanceProm.val - s.requestedAmountProm.val ∧
          t = { s with
            poolBalanceProm := pool, executed := true, paid := true, status := statusExecuted } := by
  simp only [executeGrant, line_bind, require_eq_some, exists_const, pure, Option.some.injEq,
    I64.add_eq_some, I64.mul_eq_some, I64.div_eq_some, I64.sub_eq_some, ge_iff_le, I64.le_iff,
    quorumVotes, validatorQuorum, I64.val_ofNat]
  norm_num only
  constructor
  · intro hc
    obtain ⟨pending, fresh, unpaid, late, total, ht, enough, scaled, hs, approval, ⟨_, ha⟩, quorum,
      covers, pool, hp, rfl⟩ := hc
    rw [ha, hs, quorum_le_iff (by omega) (by decide)] at quorum
    exact ⟨pending, fresh, unpaid, late, total, scaled, ht, enough, hs, quorum, covers, pool, hp,
      rfl⟩
  · intro hc
    obtain ⟨pending, fresh, unpaid, late, total, scaled, ht, enough, hs, quorum, covers, pool, hp,
      rfl⟩ := hc
    have positive : 0 < total.val := by omega
    obtain ⟨approval, ha⟩ := scaled.exists_tdiv positive
    refine ⟨pending, fresh, unpaid, late, total, ht, enough, scaled, hs, approval, ⟨by omega, ha⟩,
      ?_, covers, pool, hp, rfl⟩
    rw [ha, hs, quorum_le_iff positive (by decide)]
    exact quorum

/-! ## The poll -/

def effect : Call PubKey Sig → Effect PubKey
  | .proposeGrant _ _ _ _ _ _ _ _ _ => .submit
  | .voteGrant support _ _ pk => .vote pk support
  | .executeGrant _ => .keep

/-- The grant in the slot is polled. -/
def poll (checkSig : Sig → PubKey → Bool) : Poll (State PubKey) (Call PubKey Sig) PubKey where
  step := step checkSig
  effect := effect
  votesFor s := s.votesFor.val
  votesAgainst s := s.votesAgainst.val
  submitted := by
    intro c s t he hc
    cases c with
    | proposeGrant developer contribution description lines complexity amount height sig pk =>
      obtain ⟨_, _, _, _, _, _, _, _, _, _, _, _, _, _, _, rfl⟩ := proposeGrant_some.1 hc
      exact ⟨rfl, rfl⟩
    | voteGrant support height sig pk => cases he
    | executeGrant height => cases he
  voted := by
    intro c s t voter support he hc
    cases c with
    | proposeGrant developer contribution description lines complexity amount height sig pk =>
      cases he
    | voteGrant support height sig pk =>
      cases he
      obtain ⟨_, _, _, _, _, _, f, a, hf, ha, rfl⟩ := voteGrant_some.1 hc
      exact ⟨hf, ha⟩
    | executeGrant height => cases he
  kept := by
    intro c s t he hc
    cases c with
    | proposeGrant developer contribution description lines complexity amount height sig pk =>
      cases he
    | voteGrant support height sig pk => cases he
    | executeGrant height =>
      obtain ⟨_, _, _, _, _, _, _, _, _, _, _, _, _, rfl⟩ := executeGrant_some.1 hc
      exact ⟨rfl, rfl⟩

/-! ## The fund -/

/-- Ten votes, 67 percent of them for. -/
def rules : Fund.Rules := ⟨10, 6700⟩

/-- The grant in the slot. -/
def item (s : State PubKey) : Item :=
  ⟨⟨s.grantId.val, s.requestedAmountProm.val, s.votingEndBlock.val⟩, s.votesFor.val,
    s.votesAgainst.val⟩

/-- The pool as a fund: the grant is pending while its status says so. -/
def fund (s : State PubKey) : Fund where
  balance := s.poolBalanceProm.val
  nextId := s.nextGrantId.val
  pending := if s.status = statusPending then some (item s) else none

def move : Call PubKey Sig → Fund.Move
  | .proposeGrant _ _ _ _ _ amount height _ _ => .propose amount.val (height.val + 604800)
  | .voteGrant support _ _ _ => .vote (tick support true) (tick support false)
  | .executeGrant height => .pay height.val

/-- The pool follows the rules of a fund. -/
theorem step_fund {c : Call PubKey Sig} (hc : step checkSig c s = some t) :
    Fund.step rules (move c) (fund s) = some (fund t) := by
  cases c with
  | proposeGrant developer contribution description lines complexity amount height sig pk =>
    obtain ⟨idle, _, _, _, _, _, positive, _, within, _, _, next, votingEnd, hn, hv, rfl⟩ :=
      proposeGrant_some.1 hc
    simp [Fund.step, move, fund, item, idle, positive, within, hn, hv]
  | voteGrant support height sig pk =>
    obtain ⟨pending, _, _, _, _, _, f, a, hf, ha, rfl⟩ := voteGrant_some.1 hc
    simp [Fund.step, move, fund, item, pending, hf, ha]
  | executeGrant height =>
    obtain ⟨pending, _, _, late, total, _, ht, enough, _, quorum, covers, pool, hp, rfl⟩ :=
      executeGrant_some.1 hc
    rw [ht] at enough quorum
    have moved : (statusExecuted = statusPending) = False := by decide
    simp [Fund.step, Fund.Carried, move, fund, item, rules, pending, late, enough, quorum, covers, hp,
      moved]

end Prometheus.Contracts.DevIncentivePool
