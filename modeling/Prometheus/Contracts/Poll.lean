import Prometheus.Contracts.Covenant

/-!
# Polls on one item

Three of the covenants hold one item at a time, a proposal, a grant or a disbursement, and two
counters of the votes on it. `Poll` says what such a covenant's calls do to the counters; then
`Poll.tally` follows them over a run: they count the ballots cast since the item was submitted.
-/

namespace Prometheus.Contracts

/-! ## Counting -/

/-- The counters after a vote. -/
def countVote (support : Bool) (votesFor votesAgainst : I64) : Option (I64 × I64) :=
  if support then do
    let nextVotesFor ← votesFor.add 1
    return (nextVotesFor, votesAgainst)
  else do
    let nextVotesAgainst ← votesAgainst.add 1
    return (votesFor, nextVotesAgainst)

/-- One on the side that was voted for. -/
def tick (support side : Bool) : Int := if support = side then 1 else 0

theorem countVote_some {support : Bool} {f a : I64} {next : I64 × I64} :
    countVote support f a = some next ↔
      next.1.val = f.val + tick support true ∧ next.2.val = a.val + tick support false := by
  obtain ⟨f', a'⟩ := next
  unfold countVote tick
  cases support with
  | true =>
    simp only [reduceIte, line_bind, I64.add_eq_some, pure, Option.some.injEq, Prod.mk.injEq,
      I64.eq_iff, I64.val_one, reduceCtorEq]
    constructor
    · intro hc
      obtain ⟨n, hn, hf, ha⟩ := hc
      omega
    · intro hc
      exact ⟨f', hc.1, rfl, by omega⟩
  | false =>
    simp only [reduceIte, line_bind, I64.add_eq_some, pure, Option.some.injEq, Prod.mk.injEq,
      I64.eq_iff, I64.val_one, reduceCtorEq]
    constructor
    · intro hc
      obtain ⟨n, hn, hf, ha⟩ := hc
      omega
    · intro hc
      exact ⟨a', hc.2, by omega, rfl⟩

/-- An approval in basis points, rounded down, reaches a quorum when the votes do. -/
theorem quorum_le_iff {votes total quorum : Int} (ht : 0 < total) (hq : 0 < quorum) :
    quorum ≤ (votes * 10000).tdiv total ↔ quorum * total ≤ votes * 10000 := by
  by_cases hv : 0 ≤ votes
  · rw [Int.tdiv_eq_ediv_of_nonneg (by omega)]
    exact Int.le_ediv_iff_mul_le ht
  · have opposite : 0 ≤ (-(votes * 10000)).tdiv total := Int.tdiv_nonneg (by omega) (by omega)
    rw [Int.neg_tdiv] at opposite
    have positive : 0 < quorum * total := Int.mul_pos hq ht
    constructor <;> intro hle <;> omega

/-! ## Ballots of a run -/

variable {σ κ PubKey : Type}

/-- What a call does to the item: submit a new one, vote on it under a key, or leave the counters
    as they are. -/
inductive Effect (PubKey : Type) where
  | submit
  | vote (voter : PubKey) (support : Bool)
  | keep

/-- A covenant with one item and two counters. -/
structure Poll (σ κ PubKey : Type) where
  step : κ → σ → Option σ
  effect : κ → Effect PubKey
  votesFor : σ → Int
  votesAgainst : σ → Int
  submitted : ∀ c s t, effect c = .submit → step c s = some t → votesFor t = 0 ∧ votesAgainst t = 0
  voted : ∀ c s t voter support, effect c = .vote voter support → step c s = some t →
    votesFor t = votesFor s + tick support true ∧ votesAgainst t = votesAgainst s + tick support false
  kept : ∀ c s t, effect c = .keep → step c s = some t →
    votesFor t = votesFor s ∧ votesAgainst t = votesAgainst s

namespace Poll

/-- The ballots cast since the last submission, latest first. -/
def ballots (effect : κ → Effect PubKey) : List (Transition σ κ) → List (PubKey × Bool)
  | [] => []
  | x :: h =>
    match effect x.call with
    | .submit => []
    | .vote voter support => (voter, support) :: ballots effect h
    | .keep => ballots effect h

/-- The ballots on one side. -/
def side (support : Bool) (b : List (PubKey × Bool)) : Nat := b.countP fun v => v.2 == support

@[simp] theorem side_nil {support : Bool} : side support ([] : List (PubKey × Bool)) = 0 := rfl

theorem side_cons {support : Bool} {v : PubKey × Bool} {b : List (PubKey × Bool)} :
    (side support (v :: b) : Int) = side support b + tick v.2 support := by
  unfold side tick
  by_cases hv : v.2 = support <;> simp [hv]

theorem side_add_side (b : List (PubKey × Bool)) : side true b + side false b = b.length := by
  have split := List.length_eq_countP_add_countP (fun v : PubKey × Bool => v.2 == true) (l := b)
  rw [split]
  simp [side]

/-- Once an item was submitted, the counters are the ballots cast on it. -/
theorem tally (p : Poll σ κ PubKey) {s t : σ} {h : List (Transition σ κ)} (r : Run p.step s h t)
    (item : ∃ x ∈ h, p.effect x.call = .submit) :
    p.votesFor t = side true (ballots p.effect h) ∧
      p.votesAgainst t = side false (ballots p.effect h) := by
  induction r with
  | genesis => simp at item
  | @accept k t u c r' hc ih =>
    have earlier : p.effect c ≠ .submit → ∃ x ∈ k, p.effect x.call = .submit := by
      intro other
      obtain ⟨x, hx, hsubmit⟩ := item
      cases hx with
      | head => exact absurd hsubmit other
      | tail _ hx => exact ⟨x, hx, hsubmit⟩
    cases he : p.effect c with
    | submit =>
      have zero := p.submitted c _ _ he hc
      simp [ballots, he, zero]
    | vote voter support =>
      have counts := p.voted c _ _ voter support he hc
      have before := ih (earlier (by simp [he]))
      simp only [ballots, he, side_cons]
      omega
    | keep =>
      have same := p.kept c _ _ he hc
      have before := ih (earlier (by simp [he]))
      simp only [ballots, he]
      omega

/-- The votes counted are the ballots cast, one for each. -/
theorem votes_eq (p : Poll σ κ PubKey) {s t : σ} {h : List (Transition σ κ)}
    (r : Run p.step s h t) (item : ∃ x ∈ h, p.effect x.call = .submit) :
    p.votesFor t + p.votesAgainst t = (ballots p.effect h).length := by
  obtain ⟨hfor, hagainst⟩ := p.tally r item
  rw [hfor, hagainst, ← side_add_side]
  exact (Int.natCast_add _ _).symm

end Poll

end Prometheus.Contracts
