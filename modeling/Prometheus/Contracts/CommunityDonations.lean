import Prometheus.Contracts.Fund
import Prometheus.Contracts.Poll

/-!
# The community donations covenant

`CommunityDonationsState`: donations raise a pool and a running total; a disbursement from the pool
is proposed, voted on and executed by governance. `step_fund` shows that it is a `Fund`, and
`step_totalDonated` that the total is what the fund received.
-/

namespace Prometheus.Contracts.CommunityDonations

def minDonationKas : I64 := 1
def disbursementVotingBlocks : I64 := 604800
def disbursementQuorum : I64 := 10
def validatorQuorum : I64 := 6700
def statusNone : I64 := 0
def statusPending : I64 := 1
def statusExecuted : I64 := 2

structure State (PubKey : Type) where
  governancePk : PubKey
  donationCount : I64
  totalDonatedKas : I64
  poolBalanceKas : I64
  nextDisbursementId : I64
  disbursementId : I64
  recipientPk : PubKey
  amountKas : I64
  purposeHash : Vector UInt8 32
  votesFor : I64
  votesAgainst : I64
  votingEndBlock : I64
  status : I64
  executed : Bool
  lastDonorPk : PubKey
  lastMessageHash : Vector UInt8 32
  lastDonationBlock : I64
  deriving DecidableEq

section Entrypoints

variable {PubKey Sig : Type} (checkSig : Sig → PubKey → Bool)

def donateKas (prev : State PubKey) (donorPk : PubKey) (amount : I64)
    (messageHash : Vector UInt8 32) (blockHeight : I64) (donorSig : Sig) :
    Option (State PubKey) := do
  require (amount ≥ minDonationKas)
  require (blockHeight ≥ 0)
  require (prev.donationCount ≥ 0)
  require (prev.totalDonatedKas ≥ 0)
  require (prev.poolBalanceKas ≥ 0)
  require (checkSig donorSig donorPk = true)
  let donationCount ← prev.donationCount.add 1
  let totalDonatedKas ← prev.totalDonatedKas.add amount
  let poolBalanceKas ← prev.poolBalanceKas.add amount
  return { prev with
    donationCount := donationCount
    totalDonatedKas := totalDonatedKas
    poolBalanceKas := poolBalanceKas
    lastDonorPk := donorPk
    lastMessageHash := messageHash
    lastDonationBlock := blockHeight }

def proposeDisbursement (prev : State PubKey) (newRecipientPk : PubKey) (amount : I64)
    (newPurposeHash : Vector UInt8 32) (blockHeight : I64) (proposerSig : Sig)
    (proposerPk : PubKey) : Option (State PubKey) := do
  require (prev.status ≠ statusPending)
  require (amount > 0)
  require (amount ≤ prev.poolBalanceKas)
  require (blockHeight ≥ 0)
  require (prev.nextDisbursementId ≥ 0)
  require (checkSig proposerSig proposerPk = true)
  let nextDisbursementId ← prev.nextDisbursementId.add 1
  let votingEndBlock ← blockHeight.add disbursementVotingBlocks
  return { prev with
    nextDisbursementId := nextDisbursementId
    disbursementId := prev.nextDisbursementId
    recipientPk := newRecipientPk
    amountKas := amount
    purposeHash := newPurposeHash
    votesFor := 0
    votesAgainst := 0
    votingEndBlock := votingEndBlock
    status := statusPending
    executed := false }

def voteDisbursement (prev : State PubKey) (support : Bool) (blockHeight : I64)
    (validatorSig : Sig) (validatorPk : PubKey) : Option (State PubKey) := do
  require (prev.status = statusPending)
  require (prev.executed = false)
  require (blockHeight ≥ 0)
  require (blockHeight < prev.votingEndBlock)
  require (checkSig validatorSig validatorPk = true)
  let nextVotes ← countVote support prev.votesFor prev.votesAgainst
  return { prev with votesFor := nextVotes.1, votesAgainst := nextVotes.2 }

def executeDisbursement (prev : State PubKey) (blockHeight : I64) (governanceSig : Sig) :
    Option (State PubKey) := do
  require (prev.status = statusPending)
  require (prev.executed = false)
  require (blockHeight ≥ prev.votingEndBlock)
  require (checkSig governanceSig prev.governancePk = true)
  let totalVotes ← prev.votesFor.add prev.votesAgainst
  require (totalVotes ≥ disbursementQuorum)
  let scaled ← prev.votesFor.mul 10000
  let approval ← scaled.div totalVotes
  require (approval ≥ validatorQuorum)
  require (prev.poolBalanceKas ≥ prev.amountKas)
  let poolBalanceKas ← prev.poolBalanceKas.sub prev.amountKas
  return { prev with poolBalanceKas := poolBalanceKas, status := statusExecuted, executed := true }

end Entrypoints

/-! ## The machine -/

inductive Call (PubKey Sig : Type) where
  | donateKas (donorPk : PubKey) (amount : I64) (messageHash : Vector UInt8 32) (blockHeight : I64)
      (sig : Sig)
  | proposeDisbursement (newRecipientPk : PubKey) (amount : I64) (newPurposeHash : Vector UInt8 32)
      (blockHeight : I64) (sig : Sig) (proposerPk : PubKey)
  | voteDisbursement (support : Bool) (blockHeight : I64) (sig : Sig) (validatorPk : PubKey)
  | executeDisbursement (blockHeight : I64) (sig : Sig)

def Call.isExecute {PubKey Sig : Type} : Call PubKey Sig → Bool
  | .donateKas _ _ _ _ _ => false
  | .proposeDisbursement _ _ _ _ _ _ => false
  | .voteDisbursement _ _ _ _ => false
  | .executeDisbursement _ _ => true

/-- The block height a call supplies. -/
def Call.height {PubKey Sig : Type} : Call PubKey Sig → I64
  | .donateKas _ _ _ height _ => height
  | .proposeDisbursement _ _ _ height _ _ => height
  | .voteDisbursement _ height _ _ => height
  | .executeDisbursement height _ => height

variable {PubKey Sig : Type} {checkSig : Sig → PubKey → Bool} {s t : State PubKey}
variable {h : List (Transition (State PubKey) (Call PubKey Sig))}

def step (checkSig : Sig → PubKey → Bool) :
    Call PubKey Sig → State PubKey → Option (State PubKey)
  | .donateKas donor amount message height sig, s =>
    donateKas checkSig s donor amount message height sig
  | .proposeDisbursement recipient amount purpose height sig pk, s =>
    proposeDisbursement checkSig s recipient amount purpose height sig pk
  | .voteDisbursement support height sig pk, s => voteDisbursement checkSig s support height sig pk
  | .executeDisbursement height sig, s => executeDisbursement checkSig s height sig

/-! ## What each entrypoint does -/

theorem donateKas_some {donor : PubKey} {amount height : I64} {message : Vector UInt8 32}
    {sig : Sig} :
    donateKas checkSig s donor amount message height sig = some t ↔
      1 ≤ amount.val ∧ 0 ≤ height.val ∧ 0 ≤ s.donationCount.val ∧ 0 ≤ s.totalDonatedKas.val ∧
      0 ≤ s.poolBalanceKas.val ∧ checkSig sig donor = true ∧
      ∃ count total pool : I64, count.val = s.donationCount.val + 1 ∧
        total.val = s.totalDonatedKas.val + amount.val ∧
        pool.val = s.poolBalanceKas.val + amount.val ∧
        t = { s with
          donationCount := count, totalDonatedKas := total, poolBalanceKas := pool,
          lastDonorPk := donor, lastMessageHash := message, lastDonationBlock := height } := by
  simp only [donateKas, line_bind, require_eq_some, exists_const, pure, Option.some.injEq,
    I64.add_eq_some, ge_iff_le, I64.le_iff, I64.val_zero, I64.val_one, minDonationKas]
  constructor
  · intro hc
    obtain ⟨a, hh, c, d, p, hsig, count, hcount, total, htotal, pool, hpool, rfl⟩ := hc
    exact ⟨a, hh, c, d, p, hsig, count, total, pool, hcount, htotal, hpool, rfl⟩
  · intro hc
    obtain ⟨a, hh, c, d, p, hsig, count, total, pool, hcount, htotal, hpool, rfl⟩ := hc
    exact ⟨a, hh, c, d, p, hsig, count, hcount, total, htotal, pool, hpool, rfl⟩

theorem proposeDisbursement_some {recipient pk : PubKey} {amount height : I64}
    {purpose : Vector UInt8 32} {sig : Sig} :
    proposeDisbursement checkSig s recipient amount purpose height sig pk = some t ↔
      s.status ≠ statusPending ∧ 0 < amount.val ∧ amount.val ≤ s.poolBalanceKas.val ∧
      0 ≤ height.val ∧ 0 ≤ s.nextDisbursementId.val ∧ checkSig sig pk = true ∧
      ∃ next votingEnd : I64, next.val = s.nextDisbursementId.val + 1 ∧
        votingEnd.val = height.val + 604800 ∧
        t = { s with
          nextDisbursementId := next, disbursementId := s.nextDisbursementId,
          recipientPk := recipient, amountKas := amount, purposeHash := purpose, votesFor := 0,
          votesAgainst := 0, votingEndBlock := votingEnd, status := statusPending,
          executed := false } := by
  simp only [proposeDisbursement, line_bind, require_eq_some, exists_const, pure, Option.some.injEq,
    I64.add_eq_some, ge_iff_le, gt_iff_lt, I64.le_iff, I64.lt_iff, I64.val_zero, I64.val_one,
    disbursementVotingBlocks, I64.val_ofNat]
  norm_num only
  constructor
  · intro hc
    obtain ⟨s1, a1, a2, hh, n, hsig, next, hnext, votingEnd, hv, rfl⟩ := hc
    exact ⟨s1, a1, a2, hh, n, hsig, next, votingEnd, hnext, hv, rfl⟩
  · intro hc
    obtain ⟨s1, a1, a2, hh, n, hsig, next, votingEnd, hnext, hv, rfl⟩ := hc
    exact ⟨s1, a1, a2, hh, n, hsig, next, hnext, votingEnd, hv, rfl⟩

theorem voteDisbursement_some {support : Bool} {height : I64} {sig : Sig} {pk : PubKey} :
    voteDisbursement checkSig s support height sig pk = some t ↔
      s.status = statusPending ∧ s.executed = false ∧ 0 ≤ height.val ∧
      height.val < s.votingEndBlock.val ∧ checkSig sig pk = true ∧
      ∃ f a : I64, f.val = s.votesFor.val + tick support true ∧
        a.val = s.votesAgainst.val + tick support false ∧
        t = { s with votesFor := f, votesAgainst := a } := by
  simp only [voteDisbursement, line_bind, require_eq_some, exists_const, pure, Option.some.injEq,
    countVote_some, ge_iff_le, I64.le_iff, I64.lt_iff, I64.val_zero]
  constructor
  · intro hc
    obtain ⟨pending, fresh, low, high, hsig, votes, ⟨hf, ha⟩, rfl⟩ := hc
    exact ⟨pending, fresh, low, high, hsig, votes.1, votes.2, hf, ha, rfl⟩
  · intro hc
    obtain ⟨pending, fresh, low, high, hsig, f, a, hf, ha, rfl⟩ := hc
    exact ⟨pending, fresh, low, high, hsig, (f, a), ⟨hf, ha⟩, rfl⟩

theorem executeDisbursement_some {height : I64} {sig : Sig} :
    executeDisbursement checkSig s height sig = some t ↔
      s.status = statusPending ∧ s.executed = false ∧ s.votingEndBlock.val ≤ height.val ∧
      checkSig sig s.governancePk = true ∧
      ∃ total scaled : I64, total.val = s.votesFor.val + s.votesAgainst.val ∧ 10 ≤ total.val ∧
        scaled.val = s.votesFor.val * 10000 ∧ 6700 * total.val ≤ s.votesFor.val * 10000 ∧
        s.amountKas.val ≤ s.poolBalanceKas.val ∧
        ∃ pool : I64, pool.val = s.poolBalanceKas.val - s.amountKas.val ∧
          t = { s with
            poolBalanceKas := pool, status := statusExecuted, executed := true } := by
  simp only [executeDisbursement, line_bind, require_eq_some, exists_const, pure, Option.some.injEq,
    I64.add_eq_some, I64.mul_eq_some, I64.div_eq_some, I64.sub_eq_some, ge_iff_le, I64.le_iff,
    disbursementQuorum, validatorQuorum, I64.val_ofNat]
  norm_num only
  constructor
  · intro hc
    obtain ⟨pending, fresh, late, hsig, total, ht, enough, scaled, hs, approval, ⟨_, ha⟩, quorum,
      covers, pool, hp, rfl⟩ := hc
    rw [ha, hs, quorum_le_iff (by omega) (by decide)] at quorum
    exact ⟨pending, fresh, late, hsig, total, scaled, ht, enough, hs, quorum, covers, pool, hp, rfl⟩
  · intro hc
    obtain ⟨pending, fresh, late, hsig, total, scaled, ht, enough, hs, quorum, covers, pool, hp,
      rfl⟩ := hc
    have positive : 0 < total.val := by omega
    obtain ⟨approval, ha⟩ := scaled.exists_tdiv positive
    refine ⟨pending, fresh, late, hsig, total, ht, enough, scaled, hs, approval, ⟨by omega, ha⟩, ?_,
      covers, pool, hp, rfl⟩
    rw [ha, hs, quorum_le_iff positive (by decide)]
    exact quorum

/-! ## The poll -/

def effect : Call PubKey Sig → Effect PubKey
  | .donateKas _ _ _ _ _ => .keep
  | .proposeDisbursement _ _ _ _ _ _ => .submit
  | .voteDisbursement support _ _ pk => .vote pk support
  | .executeDisbursement _ _ => .keep

/-- The disbursement in the slot is polled. -/
def poll (checkSig : Sig → PubKey → Bool) : Poll (State PubKey) (Call PubKey Sig) PubKey where
  step := step checkSig
  effect := effect
  votesFor s := s.votesFor.val
  votesAgainst s := s.votesAgainst.val
  submitted := by
    intro c s t he hc
    cases c with
    | donateKas donor amount message height sig => cases he
    | proposeDisbursement recipient amount purpose height sig pk =>
      obtain ⟨_, _, _, _, _, _, _, _, _, _, rfl⟩ := proposeDisbursement_some.1 hc
      exact ⟨rfl, rfl⟩
    | voteDisbursement support height sig pk => cases he
    | executeDisbursement height sig => cases he
  voted := by
    intro c s t voter support he hc
    cases c with
    | donateKas donor amount message height sig => cases he
    | proposeDisbursement recipient amount purpose height sig pk => cases he
    | voteDisbursement support height sig pk =>
      cases he
      obtain ⟨_, _, _, _, _, f, a, hf, ha, rfl⟩ := voteDisbursement_some.1 hc
      exact ⟨hf, ha⟩
    | executeDisbursement height sig => cases he
  kept := by
    intro c s t he hc
    cases c with
    | donateKas donor amount message height sig =>
      obtain ⟨_, _, _, _, _, _, _, _, _, _, _, _, rfl⟩ := donateKas_some.1 hc
      exact ⟨rfl, rfl⟩
    | proposeDisbursement recipient amount purpose height sig pk => cases he
    | voteDisbursement support height sig pk => cases he
    | executeDisbursement height sig =>
      obtain ⟨_, _, _, _, _, _, _, _, _, _, _, _, _, rfl⟩ := executeDisbursement_some.1 hc
      exact ⟨rfl, rfl⟩

/-! ## The fund -/

/-- Ten votes, 67 percent of them for. -/
def rules : Fund.Rules := ⟨10, 6700⟩

/-- The disbursement in the slot. -/
def item (s : State PubKey) : Item :=
  ⟨⟨s.disbursementId.val, s.amountKas.val, s.votingEndBlock.val⟩, s.votesFor.val,
    s.votesAgainst.val⟩

/-- The pool as a fund: the disbursement is pending while its status says so. -/
def fund (s : State PubKey) : Fund where
  balance := s.poolBalanceKas.val
  nextId := s.nextDisbursementId.val
  pending := if s.status = statusPending then some (item s) else none

def move : Call PubKey Sig → Fund.Move
  | .donateKas _ amount _ _ _ => .deposit amount.val
  | .proposeDisbursement _ amount _ height _ _ => .propose amount.val (height.val + 604800)
  | .voteDisbursement support _ _ _ => .vote (tick support true) (tick support false)
  | .executeDisbursement height _ => .pay height.val

/-- The pool follows the rules of a fund. -/
theorem step_fund {c : Call PubKey Sig} (hc : step checkSig c s = some t) :
    Fund.step rules (move c) (fund s) = some (fund t) := by
  cases c with
  | donateKas donor amount message height sig =>
    obtain ⟨least, _, _, _, _, _, count, total, pool, _, _, hp, rfl⟩ := donateKas_some.1 hc
    have positive : 0 < amount.val := by omega
    simp [Fund.step, move, fund, item, positive, hp]
  | proposeDisbursement recipient amount purpose height sig pk =>
    obtain ⟨idle, positive, within, _, _, _, next, votingEnd, hn, hv, rfl⟩ :=
      proposeDisbursement_some.1 hc
    simp [Fund.step, move, fund, item, idle, positive, within, hn, hv]
  | voteDisbursement support height sig pk =>
    obtain ⟨pending, _, _, _, _, f, a, hf, ha, rfl⟩ := voteDisbursement_some.1 hc
    simp [Fund.step, move, fund, item, pending, hf, ha]
  | executeDisbursement height sig =>
    obtain ⟨pending, _, late, _, total, _, ht, enough, _, quorum, covers, pool, hp, rfl⟩ :=
      executeDisbursement_some.1 hc
    rw [ht] at enough quorum
    have moved : (statusExecuted = statusPending) = False := by decide
    simp [Fund.step, Fund.Carried, move, fund, item, rules, pending, late, enough, quorum, covers, hp,
      moved]

/-- What a call donates. -/
def donated : Call PubKey Sig → Int
  | .donateKas _ amount _ _ _ => amount.val
  | .proposeDisbursement _ _ _ _ _ _ => 0
  | .voteDisbursement _ _ _ _ => 0
  | .executeDisbursement _ _ => 0

theorem step_totalDonated {c : Call PubKey Sig} (hc : step checkSig c s = some t) :
    t.totalDonatedKas.val = s.totalDonatedKas.val + donated c := by
  cases c with
  | donateKas donor amount message height sig =>
    obtain ⟨_, _, _, _, _, _, count, total, pool, _, ht, _, rfl⟩ := donateKas_some.1 hc
    exact ht
  | proposeDisbursement recipient amount purpose height sig pk =>
    obtain ⟨_, _, _, _, _, _, _, _, _, _, rfl⟩ := proposeDisbursement_some.1 hc
    simp [donated]
  | voteDisbursement support height sig pk =>
    obtain ⟨_, _, _, _, _, _, _, _, _, rfl⟩ := voteDisbursement_some.1 hc
    simp [donated]
  | executeDisbursement height sig =>
    obtain ⟨_, _, _, _, _, _, _, _, _, _, _, _, _, rfl⟩ := executeDisbursement_some.1 hc
    simp [donated]

end Prometheus.Contracts.CommunityDonations
