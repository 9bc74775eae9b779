import Prometheus.Codec.Sha256
import Prometheus.Contracts.Covenant

/-!
# The validator staking covenant

`ValidatorStakingState`: one covenant per validator. A registered validator commits to a vote and
posts a bond, then either reveals the vote and gets the bond back or is slashed by it; or it asks to
withdraw and, a cooldown later, ends the covenant.

`Invariant` is what every accepted transition keeps. It is stated relative to the block that the
registration itself carries in `committed_at_block`, since no entrypoint checks that field.
-/

namespace Prometheus.Contracts.ValidatorStaking

open Prometheus.Codec

def minStakeKas : I64 := 10000
def bondPercent : I64 := 10
def cooldownBlocks : I64 := 100800

structure State (PubKey : Type) where
  validatorPk : PubKey
  stakeKas : I64
  active : Bool
  joinedAt : I64
  reputation : I64
  slashingCount : I64
  lastVoteBlock : I64
  commitment : Vector UInt8 32
  bondKas : I64
  committedAtBlock : I64
  withdrawRequestBlock : I64
  deriving DecidableEq

def emptyCommitment : Vector UInt8 32 := Vector.replicate 32 0

def isEmptyCommitment (value : Vector UInt8 32) : Bool := value == emptyCommitment

/-- `byte[8](n)`: eight bytes, little-endian, the sign in the top bit. The one script integer
    without such a form, `-2 ^ 63`, is never hashed: a salt and a committed height are checked to
    be at least zero. -/
def byte8 (n : I64) : Bytes :=
  toBytesLittle 8 (n.val.natAbs + if n.val < 0 then 2 ^ 63 else 0)

section Entrypoints

variable {PubKey Sig : Type} (checkSig : Sig → PubKey → Bool) (sha256 : Bytes → Vector UInt8 32)

def commitmentHash (vote : Bool) (salt blockHeight : I64) : Vector UInt8 32 :=
  let voteByte : Bytes := if vote then [1] else [0]
  sha256 (voteByte ++ byte8 salt ++ byte8 blockHeight)

def commitVote (prev : State PubKey) (newCommitment : Vector UInt8 32)
    (newBondKas blockHeight : I64) (validatorSig : Sig) : Option (State PubKey) := do
  require (prev.active = true)
  require (blockHeight ≥ 0)
  require (prev.withdrawRequestBlock = 0)
  require (isEmptyCommitment prev.commitment = true)
  require (isEmptyCommitment newCommitment = false)
  let scaled ← prev.stakeKas.mul bondPercent
  let leastBond ← scaled.div 100
  require (newBondKas ≥ leastBond)
  require (newBondKas ≤ prev.stakeKas)
  require (checkSig validatorSig prev.validatorPk = true)
  return { prev with
    commitment := newCommitment
    bondKas := newBondKas
    committedAtBlock := blockHeight }

def revealVote (prev : State PubKey) (vote : Bool) (salt revealBlockHeight : I64)
    (validatorSig : Sig) : Option (State PubKey) := do
  require (prev.active = true)
  require (salt ≥ 0)
  require (revealBlockHeight ≥ 0)
  require (isEmptyCommitment prev.commitment = false)
  require (commitmentHash sha256 vote salt prev.committedAtBlock = prev.commitment)
  require (checkSig validatorSig prev.validatorPk = true)
  return { prev with
    lastVoteBlock := revealBlockHeight
    commitment := emptyCommitment
    bondKas := 0
    committedAtBlock := 0 }

def slashInvalidReveal (prev : State PubKey) (vote : Bool) (salt : I64) (validatorSig : Sig) :
    Option (State PubKey) := do
  require (prev.active = true)
  require (salt ≥ 0)
  require (isEmptyCommitment prev.commitment = false)
  require (prev.bondKas ≤ prev.stakeKas)
  require (commitmentHash sha256 vote salt prev.committedAtBlock ≠ prev.commitment)
  require (checkSig validatorSig prev.validatorPk = true)
  let remainingStakeKas ← prev.stakeKas.sub prev.bondKas
  let nextSlashingCount ← prev.slashingCount.add 1
  return { prev with
    stakeKas := remainingStakeKas
    active := decide (remainingStakeKas ≥ minStakeKas)
    slashingCount := nextSlashingCount
    commitment := emptyCommitment
    bondKas := 0
    committedAtBlock := 0 }

def requestWithdraw (prev : State PubKey) (blockHeight : I64) (validatorSig : Sig) :
    Option (State PubKey) := do
  require (prev.stakeKas > 0)
  require (prev.active = true)
  require (blockHeight ≥ 0)
  require (prev.withdrawRequestBlock = 0)
  require (isEmptyCommitment prev.commitment = true)
  require (checkSig validatorSig prev.validatorPk = true)
  return { prev with active := false, withdrawRequestBlock := blockHeight }

/-- The one entrypoint that may end the covenant; it accepts no successor. -/
def completeWithdraw (prev : State PubKey) (nextStates : List (State PubKey)) (blockHeight : I64)
    (validatorSig : Sig) : Option (List (State PubKey)) := do
  require (prev.stakeKas > 0)
  require (prev.active = false)
  require (prev.withdrawRequestBlock > 0)
  let unlocked ← prev.withdrawRequestBlock.add cooldownBlocks
  require (blockHeight ≥ unlocked)
  require (nextStates.length = 0)
  require (checkSig validatorSig prev.validatorPk = true)
  return nextStates

end Entrypoints

/-! ## The machine -/

/-- A call of an entrypoint that leaves a successor. -/
inductive Call (Sig : Type) where
  | commitVote (newCommitment : Vector UInt8 32) (newBondKas blockHeight : I64) (sig : Sig)
  | revealVote (vote : Bool) (salt revealBlockHeight : I64) (sig : Sig)
  | slashInvalidReveal (vote : Bool) (salt : I64) (sig : Sig)
  | requestWithdraw (blockHeight : I64) (sig : Sig)

/-- The block height a call supplies, if it supplies one. -/
def Call.height? {Sig : Type} : Call Sig → Option I64
  | .commitVote _ _ height _ => some height
  | .revealVote _ _ height _ => some height
  | .slashInvalidReveal _ _ _ => none
  | .requestWithdraw height _ => some height

variable {PubKey Sig : Type} {checkSig : Sig → PubKey → Bool} {sha256 : Bytes → Vector UInt8 32}
variable {s t u : State PubKey} {h : List (Transition (State PubKey) (Call Sig))}

def step (checkSig : Sig → PubKey → Bool) (sha256 : Bytes → Vector UInt8 32) :
    Call Sig → State PubKey → Option (State PubKey)
  | .commitVote newCommitment newBondKas height sig, s =>
    commitVote checkSig s newCommitment newBondKas height sig
  | .revealVote vote salt height sig, s => revealVote checkSig sha256 s vote salt height sig
  | .slashInvalidReveal vote salt sig, s => slashInvalidReveal checkSig sha256 s vote salt sig
  | .requestWithdraw height sig, s => requestWithdraw checkSig s height sig

/-! ## What each entrypoint does -/

theorem commitVote_some {c : Vector UInt8 32} {bond height : I64} {sig : Sig} :
    commitVote checkSig s c bond height sig = some t ↔
      s.active = true ∧ 0 ≤ height.val ∧ s.withdrawRequestBlock = 0 ∧
      isEmptyCommitment s.commitment = true ∧ isEmptyCommitment c = false ∧
      (-2 ^ 63 ≤ s.stakeKas.val * 10 ∧ s.stakeKas.val * 10 < 2 ^ 63) ∧
      (s.stakeKas.val * 10).tdiv 100 ≤ bond.val ∧ bond.val ≤ s.stakeKas.val ∧
      checkSig sig s.validatorPk = true ∧
      t = { s with commitment := c, bondKas := bond, committedAtBlock := height } := by
  simp only [commitVote, line_bind, require_eq_some, exists_const, I64.mul_eq_some, I64.div_eq_some, pure,
    Option.some.injEq, ge_iff_le, I64.le_iff, I64.val_zero, bondPercent, I64.val_ofNat]
  norm_num only
  constructor
  · intro hc
    obtain ⟨active, height, idle, empty, open', scaled, hscaled, least, ⟨_, hleast⟩, hb, hmax, hsig,
      rfl⟩ := hc
    rw [← hscaled, ← hleast]
    exact ⟨active, height, idle, empty, open', scaled.bounds, hb, hmax, hsig, rfl⟩
  · intro hc
    obtain ⟨active, height, idle, empty, open', hrange, hb, hmax, hsig, rfl⟩ := hc
    obtain ⟨scaled, hscaled⟩ := I64.exists_val.2 hrange
    obtain ⟨least, hleast⟩ := scaled.exists_tdiv (n := 100) (by decide)
    refine ⟨active, height, idle, empty, open', scaled, hscaled, least, ⟨trivial, hleast⟩, ?_, hmax,
      hsig, rfl⟩
    rw [hleast, hscaled]
    exact hb

theorem revealVote_some {vote : Bool} {salt height : I64} {sig : Sig} :
    revealVote checkSig sha256 s vote salt height sig = some t ↔
      s.active = true ∧ 0 ≤ salt.val ∧ 0 ≤ height.val ∧ isEmptyCommitment s.commitment = false ∧
      commitmentHash sha256 vote salt s.committedAtBlock = s.commitment ∧
      checkSig sig s.validatorPk = true ∧
      t = { s with
        lastVoteBlock := height, commitment := emptyCommitment, bondKas := 0,
        committedAtBlock := 0 } := by
  simp only [revealVote, line_bind, require_eq_some, exists_const, pure, Option.some.injEq, ge_iff_le, I64.le_iff, I64.val_zero]
  simp only [eq_comm (b := t)]

theorem slashInvalidReveal_some {vote : Bool} {salt : I64} {sig : Sig} :
    slashInvalidReveal checkSig sha256 s vote salt sig = some t ↔
      s.active = true ∧ 0 ≤ salt.val ∧ isEmptyCommitment s.commitment = false ∧
      s.bondKas.val ≤ s.stakeKas.val ∧
      commitmentHash sha256 vote salt s.committedAtBlock ≠ s.commitment ∧
      checkSig sig s.validatorPk = true ∧
      ∃ remaining count : I64, remaining.val = s.stakeKas.val - s.bondKas.val ∧
        count.val = s.slashingCount.val + 1 ∧
        t = { s with
          stakeKas := remaining, active := decide (10000 ≤ remaining.val), slashingCount := count,
          commitment := emptyCommitment, bondKas := 0, committedAtBlock := 0 } := by
  simp only [slashInvalidReveal, line_bind, require_eq_some, exists_const, I64.sub_eq_some, I64.add_eq_some, pure,
    Option.some.injEq, ge_iff_le, I64.le_iff, I64.val_zero, I64.val_one, minStakeKas,
    I64.val_ofNat]
  norm_num only
  constructor
  · intro hc
    obtain ⟨active, salt, open', hle, hne, hsig, remaining, hr, count, hcount, rfl⟩ := hc
    exact ⟨active, salt, open', hle, hne, hsig, remaining, count, hr, hcount, rfl⟩
  · intro hc
    obtain ⟨active, salt, open', hle, hne, hsig, remaining, count, hr, hcount, rfl⟩ := hc
    exact ⟨active, salt, open', hle, hne, hsig, remaining, hr, count, hcount, rfl⟩

theorem requestWithdraw_some {height : I64} {sig : Sig} :
    requestWithdraw checkSig s height sig = some t ↔
      0 < s.stakeKas.val ∧ s.active = true ∧ 0 ≤ height.val ∧ s.withdrawRequestBlock = 0 ∧
      isEmptyCommitment s.commitment = true ∧ checkSig sig s.validatorPk = true ∧
      t = { s with active := false, withdrawRequestBlock := height } := by
  simp only [requestWithdraw, line_bind, require_eq_some, exists_const, pure, Option.some.injEq, ge_iff_le, gt_iff_lt,
    I64.le_iff, I64.lt_iff, I64.val_zero]
  simp only [eq_comm (b := t)]

theorem completeWithdraw_some {next out : List (State PubKey)} {height : I64} {sig : Sig} :
    completeWithdraw checkSig s next height sig = some out ↔
      0 < s.stakeKas.val ∧ s.active = false ∧ 0 < s.withdrawRequestBlock.val ∧
      s.withdrawRequestBlock.val + 100800 < 2 ^ 63 ∧
      s.withdrawRequestBlock.val + 100800 ≤ height.val ∧ next = [] ∧
      checkSig sig s.validatorPk = true ∧ out = next := by
  simp only [completeWithdraw, line_bind, require_eq_some, exists_const, I64.add_eq_some, pure,
    Option.some.injEq, ge_iff_le, gt_iff_lt, I64.le_iff, I64.lt_iff, I64.val_zero, cooldownBlocks,
    I64.val_ofNat, List.length_eq_zero_iff]
  norm_num only
  constructor
  · intro hc
    obtain ⟨stake, idle, asked, unlocked, hu, hh, hn, hsig, rfl⟩ := hc
    have := unlocked.upper
    exact ⟨stake, idle, asked, by omega, by omega, hn, hsig, rfl⟩
  · intro hc
    obtain ⟨stake, idle, asked, hfit, hh, hn, hsig, rfl⟩ := hc
    have fits : -2 ^ 63 ≤ s.withdrawRequestBlock.val + 100800 ∧
        s.withdrawRequestBlock.val + 100800 < 2 ^ 63 := by omega
    obtain ⟨unlocked, hu⟩ := I64.exists_val.2 fits
    exact ⟨stake, idle, asked, unlocked, hu, by omega, hn, hsig, rfl⟩

/-! ## The invariant -/

/-- A commitment is open. -/
def Open (s : State PubKey) : Prop := isEmptyCommitment s.commitment = false

/-- A valid registration. -/
structure Registered (s : State PubKey) : Prop where
  active : s.active = true
  stake : 10000 ≤ s.stakeKas.val
  empty : isEmptyCommitment s.commitment = true
  bond : s.bondKas = 0

/-- What holds of every state of a validator whose registration carried the block `registered` in
    its `committed_at_block`. -/
structure Invariant (registered : I64) (s : State PubKey) : Prop where
  stake_nonneg : 0 ≤ s.stakeKas.val
  active_stake : s.active = true → 10000 ≤ s.stakeKas.val
  open_active : Open s → s.active = true
  open_idle : Open s → s.withdrawRequestBlock = 0
  open_bond : Open s →
    s.stakeKas.val * 10 / 100 ≤ s.bondKas.val ∧ s.bondKas.val ≤ s.stakeKas.val
  closed_bond : ¬ Open s → s.bondKas = 0
  closed_block : ¬ Open s → s.committedAtBlock = 0 ∨ s.committedAtBlock = registered

@[simp] theorem isEmptyCommitment_empty : isEmptyCommitment emptyCommitment = true := by
  simp [isEmptyCommitment]

theorem Registered.invariant (hs : Registered s) : Invariant s.committedAtBlock s := by
  have shut : ¬ Open s := by simp [Open, hs.empty]
  have stake := hs.stake
  constructor
  · omega
  · intro _
    exact stake
  · intro hopen
    exact absurd hopen shut
  · intro hopen
    exact absurd hopen shut
  · intro hopen
    exact absurd hopen shut
  · intro _
    exact hs.bond
  · intro _
    exact Or.inr rfl

/-- A state whose commitment is empty keeps the invariant when its bond and height are cleared. -/
theorem Invariant.cleared {registered : I64} (empty : isEmptyCommitment t.commitment = true)
    (bond : t.bondKas = 0) (block : t.committedAtBlock = 0 ∨ t.committedAtBlock = registered)
    (stake : 0 ≤ t.stakeKas.val) (active : t.active = true → 10000 ≤ t.stakeKas.val) :
    Invariant registered t := by
  have shut : ¬ Open t := by simp [Open, empty]
  exact ⟨stake, active, fun hopen => absurd hopen shut, fun hopen => absurd hopen shut,
    fun hopen => absurd hopen shut, fun _ => bond, fun _ => block⟩

theorem Invariant.step {registered : I64} {c : Call Sig} (inv : Invariant registered s)
    (hc : step checkSig sha256 c s = some t) : Invariant registered t := by
  have stake := inv.stake_nonneg
  cases c with
  | commitVote c bond height sig =>
    obtain ⟨active, _, idle, _, open', _, least, most, _, rfl⟩ := commitVote_some.1 hc
    rw [Int.tdiv_eq_ediv_of_nonneg (by omega)] at least
    constructor
    · exact stake
    · exact inv.active_stake
    · intro _
      exact active
    · intro _
      exact idle
    · intro _
      exact ⟨least, most⟩
    · intro shut
      exact absurd open' shut
    · intro shut
      exact absurd open' shut
  | revealVote vote salt height sig =>
    obtain ⟨active, _, _, _, _, _, rfl⟩ := revealVote_some.1 hc
    exact Invariant.cleared isEmptyCommitment_empty rfl (Or.inl rfl) stake inv.active_stake
  | slashInvalidReveal vote salt sig =>
    obtain ⟨active, _, open', le, _, _, remaining, count, hr, _, rfl⟩ :=
      slashInvalidReveal_some.1 hc
    apply Invariant.cleared isEmptyCommitment_empty rfl (Or.inl rfl)
    · simp only
      omega
    · simp
  | requestWithdraw height sig =>
    obtain ⟨_, _, _, _, empty, _, rfl⟩ := requestWithdraw_some.1 hc
    have shut : ¬ Open s := by simp [Open, empty]
    refine Invariant.cleared ?_ ?_ ?_ stake ?_
    · exact empty
    · exact inv.closed_bond shut
    · exact inv.closed_block shut
    · simp

theorem Registered.run (hs : Registered s) (r : Run (step checkSig sha256) s h t) :
    Invariant s.committedAtBlock t :=
  r.invariant hs.invariant (fun _ _ _ inv hc => inv.step hc)

/-- What one transition does to the stake: only a slash takes from it, and it takes the bond. -/
theorem step_stake {c : Call Sig} (hc : step checkSig sha256 c s = some t) :
    (t.stakeKas = s.stakeKas ∧ ∀ vote salt sig, c ≠ .slashInvalidReveal vote salt sig) ∨
      (Open s ∧ t.stakeKas.val = s.stakeKas.val - s.bondKas.val) := by
  cases c with
  | commitVote c bond height sig =>
    obtain ⟨_, _, _, _, _, _, _, _, _, rfl⟩ := commitVote_some.1 hc
    exact Or.inl ⟨rfl, by simp⟩
  | revealVote vote salt height sig =>
    obtain ⟨_, _, _, _, _, _, rfl⟩ := revealVote_some.1 hc
    exact Or.inl ⟨rfl, by simp⟩
  | slashInvalidReveal vote salt sig =>
    obtain ⟨_, _, open', _, _, _, remaining, _, hr, _, rfl⟩ := slashInvalidReveal_some.1 hc
    exact Or.inr ⟨open', hr⟩
  | requestWithdraw height sig =>
    obtain ⟨_, _, _, _, _, _, rfl⟩ := requestWithdraw_some.1 hc
    exact Or.inl ⟨rfl, by simp⟩

/-- The stake never grows along a run. -/
theorem Registered.run_stake (hs : Registered s) (r : Run (step checkSig sha256) s h t) :
    t.stakeKas.val ≤ s.stakeKas.val := by
  induction r with
  | genesis => exact le_refl _
  | accept c r' hc ih =>
    have inv := hs.run r'
    cases step_stake hc with
    | inl same =>
      rw [same.1]
      exact ih
    | inr lost =>
      have bond := (inv.open_bond lost.1).1
      have := inv.stake_nonneg
      omega

/-- Every state a registered validator reaches keeps the invariant, the stake never grows and a
    slash takes exactly the open bond, and a withdrawal completes without an open commitment. -/
theorem staking_invariant (hs : Registered s) (r : Run (step checkSig sha256) s h t) :
    Invariant s.committedAtBlock t ∧ t.stakeKas.val ≤ s.stakeKas.val ∧
      (∀ x ∈ h, x.post.stakeKas.val ≤ x.pre.stakeKas.val ∧
        ∀ vote salt sig, x.call = .slashInvalidReveal vote salt sig →
          Open x.pre ∧ x.pre.stakeKas.val - x.post.stakeKas.val = x.pre.bondKas.val) ∧
      ∀ next height sig out,
        completeWithdraw checkSig t next height sig = some out → ¬ Open t := by
  have inv := hs.run r
  refine ⟨inv, hs.run_stake r, ?_, ?_⟩
  · intro x hx
    obtain ⟨inv, hc⟩ := r.steps hs.invariant (fun _ _ _ inv hc => inv.step hc) x hx
    have := inv.stake_nonneg
    cases step_stake hc with
    | inl same =>
      constructor
      · rw [same.1]
      · intro vote salt sig hslash
        exact absurd hslash (same.2 vote salt sig)
    | inr lost =>
      have bond := (inv.open_bond lost.1).1
      constructor
      · omega
      · intro _ _ _ _
        exact ⟨lost.1, by omega⟩
  · intro next height sig out hw hopen
    have active := inv.open_active hopen
    obtain ⟨_, idle, _⟩ := completeWithdraw_some.1 hw
    rw [active] at idle
    cases idle

/-! ## Example validators -/

/-- SHA-256 as the thirty-two bytes it is. -/
def sha256Digest (message : Bytes) : Vector UInt8 32 :=
  ⟨(Codec.sha256 message).toArray, by simp [length_sha256]⟩

/-- A validator whose key is `1`, registered with `stake` at block `joined`; its registration
    carries `committed` as the height of a commitment it never made. -/
def exampleValidator (stake committed : I64) : State Nat where
  validatorPk := 1
  stakeKas := stake
  active := true
  joinedAt := 5
  reputation := 0
  slashingCount := 0
  lastVoteBlock := 0
  commitment := emptyCommitment
  bondKas := 0
  committedAtBlock := committed
  withdrawRequestBlock := 0

/-- Keys sign with themselves in the examples. -/
def exampleSig (sig pk : Nat) : Bool := sig == pk

theorem exampleValidator_registered {stake committed : I64} (hs : 10000 ≤ stake.val) :
    Registered (exampleValidator stake committed) :=
  ⟨rfl, hs, isEmptyCommitment_empty, rfl⟩

/-- A run of one commitment, with a bond of a tenth of the stake. -/
theorem staking_invariant_commit :
    ∃ t, Run (step exampleSig sha256Digest) (exampleValidator 20000 0)
        [⟨exampleValidator 20000 0, .commitVote (Vector.replicate 32 7) 2000 9 1, t⟩] t ∧
      Invariant 0 t ∧ t.stakeKas.val ≤ 20000 := by
  have hc : step exampleSig sha256Digest (.commitVote (Vector.replicate 32 7) 2000 9 1)
      (exampleValidator 20000 0) = some { exampleValidator 20000 0 with
        commitment := Vector.replicate 32 7, bondKas := 2000, committedAtBlock := 9 } := by
    apply commitVote_some.2
    decide
  have r := Run.single hc
  have all := staking_invariant (exampleValidator_registered (by decide)) r
  exact ⟨_, r, all.1, all.2.1⟩

/-- Nothing checks the height a registration carries, so a validator that never committed can show
    one. -/
theorem registered_height_kept :
    ¬ ∀ (s t : State Nat) (h : List (Transition (State Nat) (Call Nat))), Registered s →
      Run (step exampleSig sha256Digest) s h t → ¬ Open t → t.committedAtBlock = 0 := by
  intro claim
  have shut : ¬ Open (exampleValidator 10000 1) := by simp [Open, exampleValidator]
  have zero := claim _ _ _ (exampleValidator_registered (by decide)) Run.genesis shut
  exact absurd zero (by decide)

end Prometheus.Contracts.ValidatorStaking
