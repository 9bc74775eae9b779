import Prometheus.Contracts.ValidatorStaking

/-!
# Which stakes can be withdrawn

A validator withdraws by asking and, `COOLDOWN_BLOCKS` later, completing; an open commitment has to
be revealed or slashed first. `Lost` describes the states from which no accepted call leads to
`completeWithdraw`, whatever heights are supplied. Every other state with a stake can be withdrawn
from any block on, and `step_lost` says which calls lead into the lost ones.
-/

namespace Prometheus.Contracts.ValidatorStaking

open Prometheus.Codec

variable {PubKey Sig : Type} {checkSig : Sig → PubKey → Bool} {sha256 : Bytes → Vector UInt8 32}
variable {s t u : State PubKey} {h : List (Transition (State PubKey) (Call Sig))} {now : I64}

/-- Some vote and salt reveal the commitment made at `height`. -/
def Revealable (sha256 : Bytes → Vector UInt8 32) (commitment : Vector UInt8 32) (height : I64) :
    Prop :=
  ∃ vote salt, 0 ≤ salt.val ∧ commitmentHash sha256 vote salt height = commitment

/-- A slash by `bond` is accepted and leaves an active validator. -/
def Slashable (s : State PubKey) (bond : I64) : Prop :=
  10000 ≤ s.stakeKas.val - bond.val ∧ s.slashingCount.val + 1 < 2 ^ 63

/-- The call does not strand the stake of the validator it is made for. -/
def Recoverable (sha256 : Bytes → Vector UInt8 32) (s : State PubKey) : Call Sig → Prop
  | .commitVote commitment bond height _ => Revealable sha256 commitment height ∨ Slashable s bond
  | .revealVote _ _ _ _ => True
  | .slashInvalidReveal _ _ _ =>
    s.stakeKas.val = s.bondKas.val ∨ 10000 ≤ s.stakeKas.val - s.bondKas.val
  | .requestWithdraw height _ => 0 < height.val ∧ height.val + 100800 < 2 ^ 63

/-- No accepted call leads from the state to a withdrawal. -/
structure Lost (sha256 : Bytes → Vector UInt8 32) (s : State PubKey) : Prop where
  /-- Inactive: only a completed request could end the covenant. -/
  inactive : s.active = false →
    s.withdrawRequestBlock.val ≤ 0 ∨ 2 ^ 63 ≤ s.withdrawRequestBlock.val + 100800
  /-- Active without a commitment: only a request could lead on. -/
  shut : s.active = true → ¬ Open s → s.withdrawRequestBlock ≠ 0
  /-- Active with a commitment: no reveal fits and a slash deactivates. -/
  opened : s.active = true → Open s → s.withdrawRequestBlock = 0 ∧
    ¬ Revealable sha256 s.commitment s.committedAtBlock ∧ ¬ Slashable s s.bondKas

/-- The validator can end the covenant, signing calls whose heights are `now` or later. -/
def Withdrawable (checkSig : Sig → PubKey → Bool) (sha256 : Bytes → Vector UInt8 32) (now : I64)
    (s : State PubKey) : Prop :=
  ∃ (h : List (Transition (State PubKey) (Call Sig))) (t : State PubKey),
    Run (step checkSig sha256) s h t ∧
      (∀ x ∈ h, ∀ height, x.call.height? = some height → now.val ≤ height.val) ∧
      ∃ (height : I64) (sig : Sig), now.val ≤ height.val ∧
        completeWithdraw checkSig t [] height sig = some []

/-! ## Lost states stay lost -/

theorem Lost.of_inactive (active : s.active = false)
    (block : s.withdrawRequestBlock.val ≤ 0 ∨ 2 ^ 63 ≤ s.withdrawRequestBlock.val + 100800) :
    Lost sha256 s := by
  constructor
  · intro _
    exact block
  · intro hactive
    rw [active] at hactive
    cases hactive
  · intro hactive
    rw [active] at hactive
    cases hactive

theorem Lost.step {c : Call Sig} (lost : Lost sha256 s)
    (hc : step checkSig sha256 c s = some t) : Lost sha256 t := by
  cases c with
  | commitVote c bond height sig =>
    obtain ⟨active, _, idle, empty, _⟩ := commitVote_some.1 hc
    have shut : ¬ Open s := by simp [Open, empty]
    exact absurd idle (lost.shut active shut)
  | revealVote vote salt height sig =>
    obtain ⟨active, hsalt, _, open', hhash, _⟩ := revealVote_some.1 hc
    exact absurd ⟨vote, salt, hsalt, hhash⟩ (lost.opened active open').2.1
  | slashInvalidReveal vote salt sig =>
    obtain ⟨active, _, open', _, _, _, remaining, count, hr, hcount, rfl⟩ :=
      slashInvalidReveal_some.1 hc
    obtain ⟨idle, _, unslashable⟩ := lost.opened active open'
    apply Lost.of_inactive
    · have := count.upper
      simp only [decide_eq_false_iff_not]
      intro enough
      apply unslashable
      constructor <;> omega
    · left
      simp only [idle]
      decide
  | requestWithdraw height sig =>
    obtain ⟨_, active, _, idle, empty, _⟩ := requestWithdraw_some.1 hc
    have shut : ¬ Open s := by simp [Open, empty]
    exact absurd idle (lost.shut active shut)

theorem Lost.not_withdrawable (lost : Lost sha256 s) : ¬ Withdrawable checkSig sha256 now s := by
  intro hw
  obtain ⟨h, t, r, _, height, sig, _, hc⟩ := hw
  have lost' : Lost sha256 t := r.invariant lost (fun _ _ _ lost hc => lost.step hc)
  obtain ⟨_, active, asked, fits, _⟩ := completeWithdraw_some.1 hc
  have := lost'.inactive active
  omega

/-! ## Every other state can be withdrawn from -/

theorem Withdrawable.step {c : Call Sig} (hc : step checkSig sha256 c s = some t)
    (hheight : ∀ height, c.height? = some height → now.val ≤ height.val)
    (hw : Withdrawable checkSig sha256 now t) : Withdrawable checkSig sha256 now s := by
  obtain ⟨h, u, r, hh, done⟩ := hw
  refine ⟨h ++ [⟨s, c, t⟩], u, (Run.single hc).trans r, ?_, done⟩
  intro x hx
  simp only [List.mem_append, List.mem_singleton] at hx
  cases hx with
  | inl hx => exact hh x hx
  | inr hx =>
    rw [hx]
    exact hheight

section Liveness

variable {sig : Sig}

theorem withdrawable_of_asked (hsig : checkSig sig s.validatorPk = true)
    (stake : 0 < s.stakeKas.val) (active : s.active = false) (asked : 0 < s.withdrawRequestBlock.val)
    (fits : s.withdrawRequestBlock.val + 100800 < 2 ^ 63) : Withdrawable checkSig sha256 now s := by
  have hrange : -2 ^ 63 ≤ max now.val (s.withdrawRequestBlock.val + 100800) ∧
      max now.val (s.withdrawRequestBlock.val + 100800) < 2 ^ 63 := by
    have := now.bounds
    omega
  obtain ⟨height, hheight⟩ := I64.exists_val.2 hrange
  have done : completeWithdraw checkSig s [] height sig = some [] := by
    apply completeWithdraw_some.2
    exact ⟨stake, active, asked, fits, by omega, rfl, hsig, rfl⟩
  exact ⟨[], s, Run.genesis, by simp, height, sig, by omega, done⟩

theorem withdrawable_of_shut (hsig : checkSig sig s.validatorPk = true)
    (stake : 0 < s.stakeKas.val) (active : s.active = true) (shut : ¬ Open s)
    (idle : s.withdrawRequestBlock = 0) (hnow : 0 < now.val) (fits : now.val + 100800 < 2 ^ 63) :
    Withdrawable checkSig sha256 now s := by
  have empty : isEmptyCommitment s.commitment = true := by simpa [Open] using shut
  have hc : step checkSig sha256 (.requestWithdraw now sig) s =
      some { s with active := false, withdrawRequestBlock := now } := by
    apply requestWithdraw_some.2
    exact ⟨stake, active, by omega, idle, empty, hsig, rfl⟩
  apply Withdrawable.step hc
  · intro height hheight
    cases hheight
    exact le_refl _
  · exact withdrawable_of_asked hsig stake rfl hnow fits

theorem withdrawable_of_revealable (hsig : checkSig sig s.validatorPk = true)
    (stake : 0 < s.stakeKas.val) (active : s.active = true) (opened : Open s)
    (idle : s.withdrawRequestBlock = 0)
    (reveals : Revealable sha256 s.commitment s.committedAtBlock) (hnow : 0 < now.val)
    (fits : now.val + 100800 < 2 ^ 63) : Withdrawable checkSig sha256 now s := by
  obtain ⟨vote, salt, hsalt, hhash⟩ := reveals
  have hc : step checkSig sha256 (.revealVote vote salt now sig) s =
      some { s with
        lastVoteBlock := now, commitment := emptyCommitment, bondKas := 0,
        committedAtBlock := 0 } := by
    apply revealVote_some.2
    exact ⟨active, hsalt, by omega, opened, hhash, hsig, rfl⟩
  apply Withdrawable.step hc
  · intro height hheight
    cases hheight
    exact le_refl _
  · refine withdrawable_of_shut hsig stake active ?_ idle hnow fits
    simp [Open]

theorem withdrawable_of_slashable (hsig : checkSig sig s.validatorPk = true)
    (active : s.active = true) (opened : Open s) (idle : s.withdrawRequestBlock = 0)
    (bond : 0 ≤ s.bondKas.val) (hidden : ¬ Revealable sha256 s.commitment s.committedAtBlock)
    (slash : Slashable s s.bondKas) (hnow : 0 < now.val) (fits : now.val + 100800 < 2 ^ 63) :
    Withdrawable checkSig sha256 now s := by
  obtain ⟨enough, counts⟩ := slash
  have hstake := s.stakeKas.bounds
  have hcount := s.slashingCount.bounds
  have fitsStake : -2 ^ 63 ≤ s.stakeKas.val - s.bondKas.val ∧
      s.stakeKas.val - s.bondKas.val < 2 ^ 63 := by omega
  have fitsCount : -2 ^ 63 ≤ s.slashingCount.val + 1 ∧ s.slashingCount.val + 1 < 2 ^ 63 := by omega
  obtain ⟨remaining, hr⟩ := I64.exists_val.2 fitsStake
  obtain ⟨count, hn⟩ := I64.exists_val.2 fitsCount
  have mismatch : commitmentHash sha256 true 0 s.committedAtBlock ≠ s.commitment := by
    intro hhash
    exact hidden ⟨true, 0, by decide, hhash⟩
  have hc : step checkSig sha256 (.slashInvalidReveal true 0 sig) s =
      some { s with
        stakeKas := remaining, active := decide (10000 ≤ remaining.val), slashingCount := count,
        commitment := emptyCommitment, bondKas := 0, committedAtBlock := 0 } := by
    apply slashInvalidReveal_some.2
    exact ⟨active, by decide, opened, by omega, mismatch, hsig, remaining, count, hr, hn, rfl⟩
  apply Withdrawable.step hc
  · intro height hheight
    cases hheight
  · refine withdrawable_of_shut hsig ?_ ?_ ?_ idle hnow fits
    · simp only
      omega
    · simp only [decide_eq_true_eq]
      omega
    · simp [Open]

end Liveness

/-- A state of a registered validator that is not lost can be withdrawn from any block on. -/
theorem withdrawable_of_not_lost {registered : I64} (inv : Invariant registered s)
    (hsig : ∃ sig, checkSig sig s.validatorPk = true) (stake : 0 < s.stakeKas.val)
    (kept : ¬ Lost sha256 s) (hnow : 0 < now.val) (fits : now.val + 100800 < 2 ^ 63) :
    Withdrawable checkSig sha256 now s := by
  obtain ⟨sig, hsig⟩ := hsig
  by_cases active : s.active = true
  · by_cases opened : Open s
    · have idle := inv.open_idle opened
      have bond := (inv.open_bond opened).1
      have settles : Revealable sha256 s.commitment s.committedAtBlock ∨ Slashable s s.bondKas := by
        by_contra hnot
        apply kept
        constructor
        · intro inactive
          rw [active] at inactive
          cases inactive
        · intro _ shut
          exact absurd opened shut
        · intro _ _
          exact ⟨idle, fun reveals => hnot (Or.inl reveals), fun slash => hnot (Or.inr slash)⟩
      by_cases reveals : Revealable sha256 s.commitment s.committedAtBlock
      · exact withdrawable_of_revealable hsig stake active opened idle reveals hnow fits
      · have slash := settles.resolve_left reveals
        apply withdrawable_of_slashable hsig active opened idle _ reveals slash hnow fits
        omega
    · have idle : s.withdrawRequestBlock = 0 := by
        by_contra asked
        apply kept
        constructor
        · intro inactive
          rw [active] at inactive
          cases inactive
        · intro _ _
          exact asked
        · intro _ hopen
          exact absurd hopen opened
      exact withdrawable_of_shut hsig stake active opened idle hnow fits
  · simp only [Bool.not_eq_true] at active
    have block : ¬ (s.withdrawRequestBlock.val ≤ 0 ∨
        2 ^ 63 ≤ s.withdrawRequestBlock.val + 100800) := fun hblock =>
      kept (Lost.of_inactive active hblock)
    exact withdrawable_of_asked hsig stake active (by omega) (by omega)

/-! ## Which calls strand a stake -/

/-- A call strands a stake exactly when it is not recoverable. -/
theorem step_lost {registered : I64} {c : Call Sig} (inv : Invariant registered s)
    (hc : step checkSig sha256 c s = some t) :
    (0 < t.stakeKas.val ∧ Lost sha256 t) ↔ ¬ Recoverable sha256 s c := by
  cases c with
  | commitVote c bond height sig =>
    obtain ⟨active, _, idle, _, open', _, _, _, _, rfl⟩ := commitVote_some.1 hc
    have stake := inv.active_stake active
    constructor
    · intro hlost recoverable
      obtain ⟨_, hidden, unslashable⟩ := hlost.2.opened active open'
      cases recoverable with
      | inl reveals => exact hidden reveals
      | inr slash => exact unslashable slash
    · intro hnot
      constructor
      · simp only
        omega
      constructor
      · intro inactive
        simp only [active] at inactive
        cases inactive
      · intro _ shut
        exact absurd open' shut
      · intro _ _
        exact ⟨idle, fun reveals => hnot (Or.inl reveals), fun slash => hnot (Or.inr slash)⟩
  | revealVote vote salt height sig =>
    obtain ⟨active, _, _, open', _, _, rfl⟩ := revealVote_some.1 hc
    have idle := inv.open_idle open'
    simp only [Recoverable, not_true_eq_false, iff_false]
    intro hlost
    exact hlost.2.shut active (by simp [Open]) idle
  | slashInvalidReveal vote salt sig =>
    obtain ⟨active, _, open', le, _, _, remaining, count, hr, hcount, rfl⟩ :=
      slashInvalidReveal_some.1 hc
    have idle := inv.open_idle open'
    simp only [Recoverable, ← hr]
    constructor
    · intro hlost recoverable
      have enough : 10000 ≤ remaining.val := by omega
      exact hlost.2.shut (by simpa using enough) (by simp [Open]) idle
    · intro hnot
      constructor
      · omega
      · apply Lost.of_inactive
        · simp only [decide_eq_false_iff_not]
          omega
        · left
          simp only [idle]
          decide
  | requestWithdraw height sig =>
    obtain ⟨stake, _, hheight, _, _, _, rfl⟩ := requestWithdraw_some.1 hc
    constructor
    · intro hlost recoverable
      obtain ⟨positive, fits⟩ := recoverable
      have block := hlost.2.inactive rfl
      simp only at block
      omega
    · intro hnot
      refine ⟨stake, Lost.of_inactive rfl ?_⟩
      by_contra hblock
      apply hnot
      simp only at hblock
      constructor <;> omega

theorem Registered.lost_iff (hs : Registered s) : Lost sha256 s ↔ s.withdrawRequestBlock ≠ 0 := by
  have shut : ¬ Open s := by simp [Open, hs.empty]
  constructor
  · intro lost
    exact lost.shut hs.active shut
  · intro asked
    constructor
    · intro inactive
      rw [hs.active] at inactive
      cases inactive
    · intro _ _
      exact asked
    · intro _ hopen
      exact absurd hopen shut

theorem step_validatorPk {c : Call Sig} (hc : step checkSig sha256 c s = some t) :
    t.validatorPk = s.validatorPk := by
  cases c with
  | commitVote c bond height sig =>
    obtain ⟨_, _, _, _, _, _, _, _, _, rfl⟩ := commitVote_some.1 hc
    rfl
  | revealVote vote salt height sig =>
    obtain ⟨_, _, _, _, _, _, rfl⟩ := revealVote_some.1 hc
    rfl
  | slashInvalidReveal vote salt sig =>
    obtain ⟨_, _, _, _, _, _, _, _, _, _, rfl⟩ := slashInvalidReveal_some.1 hc
    rfl
  | requestWithdraw height sig =>
    obtain ⟨_, _, _, _, _, _, rfl⟩ := requestWithdraw_some.1 hc
    rfl

/-- Along a run of a registered validator, every state with a stake can be withdrawn from, at any
    block that leaves room for the cooldown, if and only if the registration asked for no
    withdrawal and each accepted call was recoverable. -/
theorem withdrawable_iff (hs : Registered s) (r : Run (step checkSig sha256) s h t)
    (hsig : ∃ sig, checkSig sig s.validatorPk = true) :
    (∀ u ∈ s :: h.map Transition.post, 0 < u.stakeKas.val →
        ∀ now : I64, 0 < now.val → now.val + 100800 < 2 ^ 63 →
          Withdrawable checkSig sha256 now u) ↔
      s.withdrawRequestBlock = 0 ∧ ∀ x ∈ h, Recoverable sha256 x.pre x.call := by
  have along : ∀ x ∈ h, (Invariant s.committedAtBlock x.pre ∧ x.pre.validatorPk = s.validatorPk) ∧
      step checkSig sha256 x.call x.pre = some x.post := by
    refine r.steps (I := fun u => Invariant s.committedAtBlock u ∧ u.validatorPk = s.validatorPk)
      ⟨hs.invariant, rfl⟩ ?_
    intro c t u inv hc
    exact ⟨inv.1.step hc, (step_validatorPk hc).trans inv.2⟩
  constructor
  · intro all
    constructor
    · by_contra asked
      have stake := hs.stake
      have lost : Lost sha256 s := hs.lost_iff.2 asked
      have hw := all s (List.mem_cons_self ..) (by omega) 1 (by decide) (by decide)
      exact lost.not_withdrawable hw
    · intro x hx
      by_contra unrecoverable
      obtain ⟨⟨inv, _⟩, hc⟩ := along x hx
      obtain ⟨stake, lost⟩ := (step_lost inv hc).2 unrecoverable
      have reached : x.post ∈ s :: h.map Transition.post := by
        exact List.mem_cons_of_mem _ (List.mem_map_of_mem hx)
      have hw := all x.post reached stake 1 (by decide) (by decide)
      exact lost.not_withdrawable hw
  · rintro ⟨idle, recoverable⟩ u hu stake now hnow fits
    cases List.mem_cons.1 hu with
    | inl same =>
      rw [same] at stake ⊢
      have kept : ¬ Lost sha256 s := fun lost => hs.lost_iff.1 lost idle
      exact withdrawable_of_not_lost hs.invariant hsig stake kept hnow fits
    | inr later =>
      obtain ⟨x, hx, rfl⟩ := List.mem_map.1 later
      obtain ⟨⟨inv, pk⟩, hc⟩ := along x hx
      have kept : ¬ Lost sha256 x.post := fun lost =>
        (step_lost inv hc).1 ⟨stake, lost⟩ (recoverable x hx)
      rw [← pk, ← step_validatorPk hc] at hsig
      exact withdrawable_of_not_lost (inv.step hc) hsig stake kept hnow fits

/-! ## Examples -/

theorem example_requestWithdraw (height : I64) (hh : 0 ≤ height.val) :
    step exampleSig sha256Digest (.requestWithdraw height 1) (exampleValidator 10000 0) =
      some { exampleValidator 10000 0 with active := false, withdrawRequestBlock := height } := by
  apply requestWithdraw_some.2
  exact ⟨by decide, rfl, hh, rfl, isEmptyCommitment_empty, rfl, rfl⟩

/-- A request at height seven can be completed. -/
theorem withdrawable_iff_request :
    Withdrawable exampleSig sha256Digest 8
      { exampleValidator 10000 0 with active := false, withdrawRequestBlock := 7 } := by
  have r := Run.single (example_requestWithdraw 7 (by decide))
  have all := (withdrawable_iff (exampleValidator_registered (by decide)) r ⟨1, rfl⟩).2
    ⟨rfl, by simp [Recoverable]⟩
  exact all _ (by simp) (by decide) 8 (by decide) (by decide)

/-- A request at height zero is accepted and strands the stake. -/
theorem request_at_zero_strands :
    ¬ ∀ (s t : State Nat) (h : List (Transition (State Nat) (Call Nat))), Registered s →
      s.withdrawRequestBlock = 0 → Run (step exampleSig sha256Digest) s h t →
      0 < t.stakeKas.val → Withdrawable exampleSig sha256Digest 1 t := by
  intro claim
  have r := Run.single (example_requestWithdraw 0 (by decide))
  have hw := claim _ _ _ (exampleValidator_registered (by decide)) rfl r (by decide)
  exact (Lost.of_inactive rfl (Or.inl (by decide))).not_withdrawable hw

end Prometheus.Contracts.ValidatorStaking
