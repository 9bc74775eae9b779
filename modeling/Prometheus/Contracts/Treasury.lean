import Prometheus.Contracts.CommunityDonations
import Prometheus.Contracts.DevIncentivePool

/-!
# What the two treasuries pay

Both pools follow a `Fund`, so the books of the fund are theirs: what came in is what is there and
what was paid, every identifier is paid at most once, and each payment is one that was proposed with
that amount, voted for by enough ballots, and made after its voting ended.
-/

namespace Prometheus.Contracts

namespace CommunityDonations

variable {PubKey Sig : Type} {checkSig : Sig → PubKey → Bool} {s t : State PubKey}
variable {h : List (Transition (State PubKey) (Call PubKey Sig))}

/-- A donations covenant at its start. -/
structure ZeroGenesis (s : State PubKey) : Prop where
  donationCount : s.donationCount = 0
  totalDonatedKas : s.totalDonatedKas = 0
  poolBalanceKas : s.poolBalanceKas = 0
  nextDisbursementId : s.nextDisbursementId = 0
  disbursementId : s.disbursementId = 0
  amountKas : s.amountKas = 0
  votesFor : s.votesFor = 0
  votesAgainst : s.votesAgainst = 0
  votingEndBlock : s.votingEndBlock = 0
  status : s.status = statusNone
  executed : s.executed = false
  lastDonationBlock : s.lastDonationBlock = 0

/-- The executed disbursements of a run, latest first. -/
def executions (h : List (Transition (State PubKey) (Call PubKey Sig))) :
    List (Transition (State PubKey) (Call PubKey Sig)) :=
  h.filter fun x => x.call.isExecute

/-- An execution after the history `before` keeps the rules of a disbursement. -/
structure Lawful (before : List (Transition (State PubKey) (Call PubKey Sig)))
    (x : Transition (State PubKey) (Call PubKey Sig)) : Prop where
  votes : 10 ≤ x.pre.votesFor.val + x.pre.votesAgainst.val
  quorum : 6700 * (x.pre.votesFor.val + x.pre.votesAgainst.val) ≤ x.pre.votesFor.val * 10000
  late : x.pre.votingEndBlock.val ≤ x.call.height.val
  paid : x.pre.poolBalanceKas.val - x.post.poolBalanceKas.val = x.pre.amountKas.val
  proposed : ∃ p ∈ before, ∃ recipient purpose height sig pk,
    p.call = .proposeDisbursement recipient x.pre.amountKas purpose height sig pk ∧
      p.pre.nextDisbursementId = x.pre.disbursementId ∧
      x.pre.votingEndBlock.val = height.val + 604800
  kept : ∀ p ∈ before, ∀ recipient amount purpose height sig pk,
    p.call = .proposeDisbursement recipient amount purpose height sig pk →
      p.pre.nextDisbursementId = x.pre.disbursementId → amount = x.pre.amountKas

theorem follows (r : Run (step checkSig) s h t) :
    Run (Fund.step rules) (fund s) (Fund.follow fund move h) (fund t) :=
  r.simulated fun _ _ _ hc => step_fund hc

theorem ZeroGenesis.books (hs : ZeroGenesis s) (r : Run (step checkSig) s h t) :
    Fund.Books rules (Fund.follow fund move h) (fund t) := by
  have idle : s.status ≠ statusPending := by
    rw [hs.status]
    decide
  apply Fund.books _ _ (follows r)
  · simp [fund, hs.poolBalanceKas]
  · simp [fund, idle]

theorem payments_eq (r : Run (step checkSig) s h t) :
    Fund.payments (Fund.follow fund move h) = (executions h).map fun x => item x.pre := by
  apply Fund.payments_follow
  · intro x hx hpays
    have hc := r.accepted x hx
    cases hcall : x.call with
    | executeDisbursement height sig =>
      rw [hcall] at hc
      have pending := (executeDisbursement_some.1 hc).1
      exact ⟨⟨height.val, rfl⟩, by simp [fund, pending]⟩
    | donateKas donor amount message height sig => simp [hcall, Call.isExecute] at hpays
    | proposeDisbursement recipient amount purpose height sig pk =>
      simp [hcall, Call.isExecute] at hpays
    | voteDisbursement support height sig pk => simp [hcall, Call.isExecute] at hpays
  · intro x _ hpays height
    cases hcall : x.call with
    | executeDisbursement height sig => simp [hcall, Call.isExecute] at hpays
    | donateKas donor amount message height sig => simp [move]
    | proposeDisbursement recipient amount purpose height sig pk => simp [move]
    | voteDisbursement support height sig pk => simp [move]

/-- What was donated is in the pool or was disbursed. -/
theorem donations_conserved (hs : ZeroGenesis s) (r : Run (step checkSig) s h t) :
    t.totalDonatedKas.val =
      t.poolBalanceKas.val + ((executions h).map fun x => x.pre.amountKas.val).sum := by
  have balance := Fund.conserved (follows r)
  have total : t.totalDonatedKas.val =
      s.totalDonatedKas.val + (h.map fun x => donated x.call).sum := by
    apply r.measure
    intro c t u hc
    exact step_totalDonated hc
  have gifts : Fund.deposited (Fund.follow fund move h) = (h.map fun x => donated x.call).sum := by
    apply Fund.deposited_follow donated
    intro c
    cases c <;> rfl
  rw [payments_eq r, gifts, List.map_map] at balance
  simp only [fund, Function.comp_def, item, hs.poolBalanceKas, I64.val_zero] at balance
  rw [hs.totalDonatedKas, I64.val_zero] at total
  omega

theorem executions_once (hs : ZeroGenesis s) (r : Run (step checkSig) s h t) :
    ((executions h).map fun x => x.pre.disbursementId).Nodup := by
  have once := (hs.books r).once
  rw [payments_eq r, List.pairwise_map] at once
  rw [List.Nodup, List.pairwise_map]
  apply once.imp
  intro later earlier less same
  simp only [item, same] at less
  exact absurd less (lt_irrefl _)

theorem execution_lawful (hs : ZeroGenesis s)
    {before : List (Transition (State PubKey) (Call PubKey Sig))}
    {x : Transition (State PubKey) (Call PubKey Sig)} (r : Run (step checkSig) s before x.pre)
    (hc : step checkSig x.call x.pre = some x.post) (hx : x.call.isExecute = true) :
    Lawful before x := by
  have books := hs.books r
  cases hcall : x.call with
  | donateKas donor amount message height sig => simp [hcall, Call.isExecute] at hx
  | proposeDisbursement recipient amount purpose height sig pk =>
    simp [hcall, Call.isExecute] at hx
  | voteDisbursement support height sig pk => simp [hcall, Call.isExecute] at hx
  | executeDisbursement height sig =>
    rw [hcall] at hc
    obtain ⟨pending, _, late, _, total, _, ht, enough, _, quorum, _, pool, hp, hpost⟩ :=
      executeDisbursement_some.1 hc
    have tabled := books.tabled (item x.pre) (by simp [fund, pending])
    constructor
    · omega
    · omega
    · rw [hcall]
      exact late
    · rw [hpost]
      simp only
      omega
    · obtain ⟨p, hp, amount, votingEnd, hmove, hterms⟩ := Fund.mem_proposals_follow.1 tabled
      simp only [item, fund, Terms.mk.injEq] at hterms
      obtain ⟨hid, hamount, hend⟩ := hterms
      cases hproposal : p.call with
      | proposeDisbursement recipient amount' purpose height' sig' pk =>
        rw [hproposal, move, Fund.Move.propose.injEq] at hmove
        have same : x.pre.amountKas = amount' := by
          rw [I64.eq_iff]
          omega
        refine ⟨p, hp, recipient, purpose, height', sig', pk, ?_, ?_, by omega⟩
        · rw [hproposal, same]
        · rw [I64.eq_iff]
          exact hid.symm
      | donateKas donor amount' message height' sig' =>
        rw [hproposal] at hmove
        cases hmove
      | voteDisbursement support height' sig' pk =>
        rw [hproposal] at hmove
        cases hmove
      | executeDisbursement height' sig' =>
        rw [hproposal] at hmove
        cases hmove
    · intro p hp recipient amount purpose height' sig' pk hproposal hid
      have mine : (⟨p.pre.nextDisbursementId.val, amount.val, height'.val + 604800⟩ : Terms) ∈
          Fund.proposals (Fund.follow fund move before) := by
        apply Fund.mem_proposals_follow.2
        refine ⟨p, hp, amount.val, height'.val + 604800, ?_, rfl⟩
        rw [hproposal]
        rfl
      have same := books.unique mine tabled (by simp [item, hid])
      rw [I64.eq_iff]
      exact congrArg Terms.amount same

end CommunityDonations

namespace DevIncentivePool

variable {PubKey Sig : Type} {checkSig : Sig → PubKey → Bool} {s t : State PubKey}
variable {h : List (Transition (State PubKey) (Call PubKey Sig))}

/-- A grant pool at its start: funded, with no grant in the slot. -/
structure Genesis (s : State PubKey) : Prop where
  poolBalanceProm : 0 ≤ s.poolBalanceProm.val
  status : s.status ≠ statusPending

/-- The paid grants of a run, latest first. -/
def executions (h : List (Transition (State PubKey) (Call PubKey Sig))) :
    List (Transition (State PubKey) (Call PubKey Sig)) :=
  h.filter fun x => x.call.isExecute

/-- An execution after the history `before` keeps the rules of a grant. -/
structure Lawful (before : List (Transition (State PubKey) (Call PubKey Sig)))
    (x : Transition (State PubKey) (Call PubKey Sig)) : Prop where
  votes : 10 ≤ x.pre.votesFor.val + x.pre.votesAgainst.val
  quorum : 6700 * (x.pre.votesFor.val + x.pre.votesAgainst.val) ≤ x.pre.votesFor.val * 10000
  late : x.pre.votingEndBlock.val ≤ x.call.height.val
  paid : x.pre.poolBalanceProm.val - x.post.poolBalanceProm.val = x.pre.requestedAmountProm.val
  proposed : ∃ p ∈ before, ∃ developer contribution description lines complexity height sig pk,
    p.call = .proposeGrant developer contribution description lines complexity
        x.pre.requestedAmountProm height sig pk ∧
      p.pre.nextGrantId = x.pre.grantId ∧ x.pre.votingEndBlock.val = height.val + 604800
  kept : ∀ p ∈ before, ∀ developer contribution description lines complexity amount height sig pk,
    p.call = .proposeGrant developer contribution description lines complexity amount height sig
        pk →
      p.pre.nextGrantId = x.pre.grantId → amount = x.pre.requestedAmountProm

theorem follows (r : Run (step checkSig) s h t) :
    Run (Fund.step rules) (fund s) (Fund.follow fund move h) (fund t) :=
  r.simulated fun _ _ _ hc => step_fund hc

theorem Genesis.books (hs : Genesis s) (r : Run (step checkSig) s h t) :
    Fund.Books rules (Fund.follow fund move h) (fund t) := by
  apply Fund.books _ _ (follows r)
  · exact hs.poolBalanceProm
  · simp [fund, hs.status]

theorem payments_eq (r : Run (step checkSig) s h t) :
    Fund.payments (Fund.follow fund move h) = (executions h).map fun x => item x.pre := by
  apply Fund.payments_follow
  · intro x hx hpays
    have hc := r.accepted x hx
    cases hcall : x.call with
    | executeGrant height =>
      rw [hcall] at hc
      have pending := (executeGrant_some.1 hc).1
      exact ⟨⟨height.val, rfl⟩, by simp [fund, pending]⟩
    | proposeGrant developer contribution description lines complexity amount height sig pk =>
      simp [hcall, Call.isExecute] at hpays
    | voteGrant support height sig pk => simp [hcall, Call.isExecute] at hpays
  · intro x _ hpays height
    cases hcall : x.call with
    | executeGrant height => simp [hcall, Call.isExecute] at hpays
    | proposeGrant developer contribution description lines complexity amount height sig pk =>
      simp [move]
    | voteGrant support height sig pk => simp [move]

/-- What the genesis pool held is in the pool or was paid. -/
theorem grants_conserved (r : Run (step checkSig) s h t) :
    t.poolBalanceProm.val + ((executions h).map fun x => x.pre.requestedAmountProm.val).sum =
      s.poolBalanceProm.val := by
  have balance := Fund.conserved (follows r)
  have none : Fund.deposited (Fund.follow fund move h) =
      (h.map fun _ => (0 : Int)).sum := by
    apply Fund.deposited_follow fun _ => 0
    intro c
    cases c <;> rfl
  rw [payments_eq r, none, List.map_map] at balance
  simpa [fund, Function.comp_def, item] using balance

theorem executions_once (hs : Genesis s) (r : Run (step checkSig) s h t) :
    ((executions h).map fun x => x.pre.grantId).Nodup := by
  have once := (hs.books r).once
  rw [payments_eq r, List.pairwise_map] at once
  rw [List.Nodup, List.pairwise_map]
  apply once.imp
  intro later earlier less same
  simp only [item, same] at less
  exact absurd less (lt_irrefl _)

theorem execution_lawful (hs : Genesis s)
    {before : List (Transition (State PubKey) (Call PubKey Sig))}
    {x : Transition (State PubKey) (Call PubKey Sig)} (r : Run (step checkSig) s before x.pre)
    (hc : step checkSig x.call x.pre = some x.post) (hx : x.call.isExecute = true) :
    Lawful before x := by
  have books := hs.books r
  cases hcall : x.call with
  | proposeGrant developer contribution description lines complexity amount height sig pk =>
    simp [hcall, Call.isExecute] at hx
  | voteGrant support height sig pk => simp [hcall, Call.isExecute] at hx
  | executeGrant height =>
    rw [hcall] at hc
    obtain ⟨pending, _, _, late, total, _, ht, enough, _, quorum, _, pool, hp, hpost⟩ :=
      executeGrant_some.1 hc
    have tabled := books.tabled (item x.pre) (by simp [fund, pending])
    constructor
    · omega
    · omega
    · rw [hcall]
      exact late
    · rw [hpost]
      simp only
      omega
    · obtain ⟨p, hp, amount, votingEnd, hmove, hterms⟩ := Fund.mem_proposals_follow.1 tabled
      simp only [item, fund, Terms.mk.injEq] at hterms
      obtain ⟨hid, hamount, hend⟩ := hterms
      cases hproposal : p.call with
      | proposeGrant developer contribution description lines complexity amount' height' sig pk =>
        rw [hproposal, move, Fund.Move.propose.injEq] at hmove
        have same : x.pre.requestedAmountProm = amount' := by
          rw [I64.eq_iff]
          omega
        refine ⟨p, hp, developer, contribution, description, lines, complexity, height', sig, pk, ?_,
          ?_, by omega⟩
        · rw [hproposal, same]
        · rw [I64.eq_iff]
          exact hid.symm
      | voteGrant support height' sig pk =>
        rw [hproposal] at hmove
        cases hmove
      | executeGrant height' =>
        rw [hproposal] at hmove
        cases hmove
    · intro p hp developer contribution description lines complexity amount height' sig pk hproposal
        hid
      have mine : (⟨p.pre.nextGrantId.val, amount.val, height'.val + 604800⟩ : Terms) ∈
          Fund.proposals (Fund.follow fund move before) := by
        apply Fund.mem_proposals_follow.2
        refine ⟨p, hp, amount.val, height'.val + 604800, ?_, rfl⟩
        rw [hproposal]
        rfl
      have same := books.unique mine tabled (by simp [item, hid])
      rw [I64.eq_iff]
      exact congrArg Terms.amount same

end DevIncentivePool

/-- Both treasuries account for what they hold. A donations covenant from its zero genesis holds what
    was donated less what it disbursed, a grant pool what it held less what it granted; neither is
    ever negative, no identifier is paid twice, and every payment is lawful. -/
theorem treasury_conserved {PubKey Sig : Type} (checkSig : Sig → PubKey → Bool) :
    (∀ s t h, CommunityDonations.ZeroGenesis s → Run (CommunityDonations.step checkSig) s h t →
      t.totalDonatedKas.val = t.poolBalanceKas.val +
          ((CommunityDonations.executions h).map fun x => x.pre.amountKas.val).sum ∧
        0 ≤ t.poolBalanceKas.val ∧
        ((CommunityDonations.executions h).map fun x => x.pre.disbursementId).Nodup ∧
        ∀ before x after, h = after ++ x :: before → x.call.isExecute = true →
          CommunityDonations.Lawful before x) ∧
    ∀ s t h, Run (DevIncentivePool.step checkSig) s h t →
      t.poolBalanceProm.val +
          ((DevIncentivePool.executions h).map fun x => x.pre.requestedAmountProm.val).sum =
        s.poolBalanceProm.val ∧
      (DevIncentivePool.Genesis s →
        0 ≤ t.poolBalanceProm.val ∧
        ((DevIncentivePool.executions h).map fun x => x.pre.grantId).Nodup ∧
        ∀ before x after, h = after ++ x :: before → x.call.isExecute = true →
          DevIncentivePool.Lawful before x) := by
  constructor
  · intro s t h hs r
    refine ⟨CommunityDonations.donations_conserved hs r, (hs.books r).solvent,
      CommunityDonations.executions_once hs r, ?_⟩
    intro before x after hsplit hx
    have hc := r.accepted x (by simp [hsplit])
    exact CommunityDonations.execution_lawful hs (r.upTo hsplit) hc hx
  · intro s t h r
    refine ⟨DevIncentivePool.grants_conserved r, ?_⟩
    intro hs
    refine ⟨(hs.books r).solvent, DevIncentivePool.executions_once hs r, ?_⟩
    intro before x after hsplit hx
    have hc := r.accepted x (by simp [hsplit])
    exact DevIncentivePool.execution_lawful hs (r.upTo hsplit) hc hx

/-! ## An example -/

namespace CommunityDonations

/-- A donations covenant at its start, governed by key `9`. -/
def exampleGenesis : State Nat where
  governancePk := 9
  donationCount := 0
  totalDonatedKas := 0
  poolBalanceKas := 0
  nextDisbursementId := 0
  disbursementId := 0
  recipientPk := 0
  amountKas := 0
  purposeHash := Vector.replicate 32 0
  votesFor := 0
  votesAgainst := 0
  votingEndBlock := 0
  status := statusNone
  executed := false
  lastDonorPk := 0
  lastMessageHash := Vector.replicate 32 0
  lastDonationBlock := 0

/-- Keys sign with themselves in the examples. -/
def exampleSig (sig pk : Nat) : Bool := sig == pk

/-- A donation of 100, a disbursement of 40, ten votes for it, and its execution. -/
def exampleCalls : List (Call Nat Nat) :=
  [.donateKas 1 100 (Vector.replicate 32 1) 5 1,
    .proposeDisbursement 2 40 (Vector.replicate 32 2) 6 3 3] ++
  (List.range 10).map (fun k => .voteDisbursement true 7 k k) ++
  [.executeDisbursement 604806 9]

end CommunityDonations

/-- After the example calls one disbursement was executed, and the donations are accounted for. -/
theorem treasury_conserved_forty : ∃ h t,
    Run (CommunityDonations.step CommunityDonations.exampleSig) CommunityDonations.exampleGenesis h
      t ∧ (CommunityDonations.executions h).length = 1 ∧
    t.totalDonatedKas.val = t.poolBalanceKas.val +
      ((CommunityDonations.executions h).map fun x => x.pre.amountKas.val).sum := by
  have ran : (replay (CommunityDonations.step CommunityDonations.exampleSig)
      CommunityDonations.exampleCalls [] CommunityDonations.exampleGenesis).map
        (fun p => (CommunityDonations.executions p.1).length) = some 1 := by decide
  obtain ⟨⟨h, t⟩, hr, one⟩ := Option.map_eq_some_iff.1 ran
  have r := Run.genesis.of_replay hr
  have all := (treasury_conserved CommunityDonations.exampleSig).1 _ _ _
    ⟨rfl, rfl, rfl, rfl, rfl, rfl, rfl, rfl, rfl, rfl, rfl, rfl⟩ r
  exact ⟨h, t, r, one, all.1⟩

end Prometheus.Contracts
