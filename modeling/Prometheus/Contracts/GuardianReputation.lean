import Prometheus.Contracts.Covenant

/-!
# The guardian reputation covenant

`GuardianReputationState`: one covenant per guardian. The guardian registers itself; governance
then raises its reputation for an accepted proposal and halves it for a rejected one.

The reputation stays in its range on every run. That a guardian registers once rests on
`registered_at` being positive afterwards, which the entrypoint leaves to its caller, and no
entrypoint counts a submitted proposal.
-/

namespace Prometheus.Contracts.GuardianReputation

def minComputeGflops : I64 := 100
def reputationStart : I64 := 1000
def reputationMax : I64 := 100000
def minReputation : I64 := 1000
def modelType70B : I64 := 0
def modelType8B : I64 := 1

structure State (PubKey : Type) where
  guardianPk : PubKey
  governancePk : PubKey
  computePowerGflops : I64
  reputation : I64
  proposalsSubmitted : I64
  proposalsAccepted : I64
  registeredAt : I64
  modelType : I64
  deriving DecidableEq

/-- One turn of the loop in `isqrt`. -/
def isqrtTurn (n : Int) (result i : Nat) : Nat := if (i : Int) * i ≤ n then i else result

/-- The loop variable runs from 1 to 1000, so its square fits. -/
def isqrt (n : I64) : Option I64 := do
  require (n ≥ 0)
  require (n < 1000000)
  let result := (List.range' 1 1000).foldl (isqrtTurn n.val) 0
  I64.ofInt? result

section Entrypoints

variable {PubKey Sig : Type} (checkSig : Sig → PubKey → Bool)

def register (prev : State PubKey) (newComputePowerGflops newRegisteredAt : I64)
    (guardianSig : Sig) : Option (State PubKey) := do
  require (prev.registeredAt = 0)
  require (newComputePowerGflops ≥ minComputeGflops)
  require (newComputePowerGflops < 1000000)
  require (newRegisteredAt ≥ 0)
  require (checkSig guardianSig prev.guardianPk = true)
  let model := if newComputePowerGflops ≥ 500 then modelType70B else modelType8B
  return { prev with
    computePowerGflops := newComputePowerGflops
    reputation := reputationStart
    proposalsSubmitted := 0
    proposalsAccepted := 0
    registeredAt := newRegisteredAt
    modelType := model }

def proposalAccepted (prev : State PubKey) (governanceSig : Sig) : Option (State PubKey) := do
  require (prev.registeredAt > 0)
  require (prev.computePowerGflops ≥ minComputeGflops)
  require (prev.computePowerGflops < 1000000)
  require (checkSig governanceSig prev.governancePk = true)
  let root ← isqrt prev.computePowerGflops
  let reputationIncrease ← root.mul 100
  let increasedReputation ← prev.reputation.add reputationIncrease
  let cappedReputation :=
    if increasedReputation > reputationMax then reputationMax else increasedReputation
  let nextAccepted ← prev.proposalsAccepted.add 1
  return { prev with reputation := cappedReputation, proposalsAccepted := nextAccepted }

def proposalRejected (prev : State PubKey) (governanceSig : Sig) : Option (State PubKey) := do
  require (prev.registeredAt > 0)
  require (checkSig governanceSig prev.governancePk = true)
  let halvedReputation ← prev.reputation.div 2
  let finalReputation := if halvedReputation < minReputation then 0 else halvedReputation
  return { prev with reputation := finalReputation }

end Entrypoints

/-! ## The machine -/

inductive Call (Sig : Type) where
  | register (newComputePowerGflops newRegisteredAt : I64) (sig : Sig)
  | proposalAccepted (sig : Sig)
  | proposalRejected (sig : Sig)

def Call.isRegister {Sig : Type} : Call Sig → Bool
  | .register _ _ _ => true
  | .proposalAccepted _ => false
  | .proposalRejected _ => false

variable {PubKey Sig : Type} {checkSig : Sig → PubKey → Bool} {s t u : State PubKey}
variable {h k : List (Transition (State PubKey) (Call Sig))}

def step (checkSig : Sig → PubKey → Bool) : Call Sig → State PubKey → Option (State PubKey)
  | .register compute height sig, s => register checkSig s compute height sig
  | .proposalAccepted sig, s => proposalAccepted checkSig s sig
  | .proposalRejected sig, s => proposalRejected checkSig s sig

/-- How often a run registered. -/
def registrations (h : List (Transition (State PubKey) (Call Sig))) : Nat :=
  h.countP fun x => x.call.isRegister

/-! ## The square root -/

theorem foldl_isqrtTurn (n k : Nat) :
    (List.range' 1 k).foldl (isqrtTurn n) 0 = min k n.sqrt := by
  induction k with
  | zero => simp
  | succ k ih =>
    have fits : ((1 + k : Nat) : Int) * (1 + k : Nat) ≤ n ↔ 1 + k ≤ n.sqrt := by
      rw [Nat.le_sqrt]
      exact_mod_cast Iff.rfl
    rw [List.range'_1_concat, List.foldl_append, ih]
    simp only [List.foldl_cons, List.foldl_nil, isqrtTurn, fits]
    by_cases hk : 1 + k ≤ n.sqrt
    · rw [if_pos hk]
      omega
    · rw [if_neg hk]
      omega

/-- On the compute powers a guardian can register, the loop is the exact integer square root. -/
theorem isqrt_some {n root : I64} :
    isqrt n = some root ↔ 0 ≤ n.val ∧ n.val < 1000000 ∧ root.val = n.val.toNat.sqrt := by
  simp only [isqrt, line_bind, require_eq_some, exists_const, I64.ofInt?_eq_some, ge_iff_le,
    I64.le_iff, I64.lt_iff, I64.val_zero, I64.val_ofNat]
  norm_num only
  constructor
  · intro hr
    obtain ⟨low, high, hr⟩ := hr
    have cast : n.val = (n.val.toNat : Int) := by omega
    have small : n.val.toNat.sqrt < 1000 := Nat.sqrt_lt'.2 (by omega)
    rw [cast, foldl_isqrtTurn] at hr
    exact ⟨low, high, by omega⟩
  · intro hr
    obtain ⟨low, high, hr⟩ := hr
    have cast : n.val = (n.val.toNat : Int) := by omega
    have small : n.val.toNat.sqrt < 1000 := Nat.sqrt_lt'.2 (by omega)
    refine ⟨low, high, ?_⟩
    rw [cast, foldl_isqrtTurn]
    omega

/-! ## What each entrypoint does -/

theorem register_some {compute height : I64} {sig : Sig} :
    register checkSig s compute height sig = some t ↔
      s.registeredAt = 0 ∧ 100 ≤ compute.val ∧ compute.val < 1000000 ∧ 0 ≤ height.val ∧
      checkSig sig s.guardianPk = true ∧
      t = { s with
        computePowerGflops := compute, reputation := 1000, proposalsSubmitted := 0,
        proposalsAccepted := 0, registeredAt := height,
        modelType := if 500 ≤ compute.val then modelType70B else modelType8B } := by
  simp only [register, line_bind, require_eq_some, exists_const, pure, Option.some.injEq, ge_iff_le,
    I64.le_iff, I64.lt_iff, I64.val_zero, minComputeGflops, reputationStart, I64.val_ofNat]
  norm_num only
  simp only [eq_comm (b := t)]

theorem proposalAccepted_some {sig : Sig} :
    proposalAccepted checkSig s sig = some t ↔
      0 < s.registeredAt.val ∧ 100 ≤ s.computePowerGflops.val ∧
      s.computePowerGflops.val < 1000000 ∧ checkSig sig s.governancePk = true ∧
      ∃ reputation accepted : I64,
        s.reputation.val + s.computePowerGflops.val.toNat.sqrt * 100 < 2 ^ 63 ∧
        reputation.val =
          min 100000 (s.reputation.val + s.computePowerGflops.val.toNat.sqrt * 100) ∧
        accepted.val = s.proposalsAccepted.val + 1 ∧
        t = { s with reputation := reputation, proposalsAccepted := accepted } := by
  simp only [proposalAccepted, line_bind, require_eq_some, exists_const, pure, Option.some.injEq,
    isqrt_some, I64.mul_eq_some, I64.add_eq_some, ge_iff_le, gt_iff_lt, I64.le_iff, I64.lt_iff,
    I64.val_zero, I64.val_one, minComputeGflops, reputationMax, I64.val_ofNat]
  norm_num only
  constructor
  · intro hc
    obtain ⟨registered, low, high, hsig, root, ⟨_, _, hroot⟩, increase, hincrease, raised, hraised,
      accepted, haccepted, rfl⟩ := hc
    have := raised.upper
    rw [hroot] at hincrease
    refine ⟨registered, low, high, hsig, _, accepted, by omega, ?_, haccepted, rfl⟩
    by_cases cap : 100000 < raised.val
    · rw [if_pos cap]
      simp only [I64.val_ofNat]
      omega
    · rw [if_neg cap]
      omega
  · intro hc
    obtain ⟨registered, low, high, hsig, reputation, accepted, fits, hrep, haccepted, rfl⟩ := hc
    have small : s.computePowerGflops.val.toNat.sqrt < 1000 := Nat.sqrt_lt'.2 (by omega)
    have := s.reputation.lower
    obtain ⟨root, hroot⟩ : ∃ root : I64, root.val = s.computePowerGflops.val.toNat.sqrt := by
      apply I64.exists_val.2
      omega
    obtain ⟨increase, hincrease⟩ : ∃ increase : I64, increase.val = root.val * 100 := by
      apply I64.exists_val.2
      omega
    obtain ⟨raised, hraised⟩ : ∃ raised : I64, raised.val = s.reputation.val + increase.val := by
      apply I64.exists_val.2
      omega
    refine ⟨registered, low, high, hsig, root, ⟨by omega, high, hroot⟩, increase, hincrease, raised,
      hraised, accepted, haccepted, ?_⟩
    have same : (if 100000 < raised.val then (100000 : I64) else raised) = reputation := by
      rw [I64.eq_iff]
      by_cases cap : 100000 < raised.val
      · rw [if_pos cap]
        simp only [I64.val_ofNat]
        omega
      · rw [if_neg cap]
        omega
    rw [same]

theorem proposalRejected_some {sig : Sig} :
    proposalRejected checkSig s sig = some t ↔
      0 < s.registeredAt.val ∧ checkSig sig s.governancePk = true ∧
      ∃ halved : I64, halved.val = s.reputation.val.tdiv 2 ∧
        t = { s with reputation := if halved.val < 1000 then 0 else halved } := by
  simp only [proposalRejected, line_bind, require_eq_some, exists_const, pure, Option.some.injEq,
    I64.div_eq_some, gt_iff_lt, I64.lt_iff, I64.val_zero, minReputation, I64.val_ofNat]
  norm_num only
  simp only [eq_comm (b := t), true_and]

/-! ## The reputation range -/

/-- A guardian that never registered: its counters are zero. -/
structure Unregistered (s : State PubKey) : Prop where
  registeredAt : s.registeredAt = 0
  submitted : s.proposalsSubmitted = 0
  accepted : s.proposalsAccepted = 0

/-- No reputation, or one that may vote. -/
def InRange (s : State PubKey) : Prop :=
  s.reputation.val = 0 ∨ 1000 ≤ s.reputation.val ∧ s.reputation.val ≤ 100000

theorem step_inRange {c : Call Sig} (hc : step checkSig c s = some t)
    (range : 0 < s.registeredAt.val → InRange s) : InRange t := by
  cases c with
  | register compute height sig =>
    obtain ⟨_, _, _, _, _, rfl⟩ := register_some.1 hc
    exact Or.inr (by simp)
  | proposalAccepted sig =>
    obtain ⟨registered, low, _, _, reputation, _, _, hrep, _, rfl⟩ := proposalAccepted_some.1 hc
    have raise : 10 ≤ s.computePowerGflops.val.toNat.sqrt := Nat.le_sqrt.2 (by omega)
    cases range registered with
    | inl none =>
      right
      simp only
      omega
    | inr some =>
      right
      simp only
      omega
  | proposalRejected sig =>
    obtain ⟨registered, _, halved, hhalved, rfl⟩ := proposalRejected_some.1 hc
    have positive : 0 ≤ s.reputation.val := by
      cases range registered with
      | inl none => omega
      | inr some => omega
    rw [Int.tdiv_eq_ediv_of_nonneg positive] at hhalved
    unfold InRange
    by_cases low : halved.val < 1000
    · simp [low]
    · simp only [if_neg low]
      cases range registered with
      | inl none => omega
      | inr some => omega

/-- Once registered, the reputation is in its range. -/
theorem Unregistered.inRange (hs : Unregistered s) (r : Run (step checkSig) s h t)
    (hreg : 0 < registrations h) : InRange t := by
  have range : (t = s ∧ registrations h = 0) ∨ InRange t := by
    clear hreg
    induction r with
    | genesis => exact Or.inl ⟨rfl, rfl⟩
    | accept c r' hc ih =>
      right
      apply step_inRange hc
      intro registered
      cases ih with
      | inl start =>
        rw [start.1, hs.registeredAt] at registered
        exact absurd registered (by decide)
      | inr range => exact range
  cases range with
  | inl start => omega
  | inr range => exact range

/-! ## Registering once, and the proposal counters -/

/-- What a guardian that registered once may rely on after the history `h`: registering is over, and
    no more proposals were accepted than submitted. -/
structure Settled (checkSig : Sig → PubKey → Bool)
    (h : List (Transition (State PubKey) (Call Sig))) (t : State PubKey) : Prop where
  once : registrations h ≤ 1
  closed : 0 < registrations h → ∀ compute height sig,
    register checkSig t compute height sig = none
  counts : t.proposalsAccepted.val ≤ t.proposalsSubmitted.val

/-- The calls that keep a guardian settled. -/
def Settles : Call Sig → Prop
  | .register _ height _ => 0 < height.val
  | .proposalAccepted _ => False
  | .proposalRejected _ => True

theorem register_eq_none {compute height : I64} {sig : Sig} (registered : s.registeredAt ≠ 0) :
    register checkSig s compute height sig = none := by
  rw [Option.eq_none_iff_forall_not_mem]
  intro t ht
  exact registered (register_some.1 ht).1

theorem Unregistered.settled (hs : Unregistered s) (r : Run (step checkSig) s h t)
    (settles : ∀ x ∈ h, Settles x.call) : Settled checkSig h t := by
  have all : (registrations h = 0 ∧ t.registeredAt = 0 ∨
      registrations h = 1 ∧ 0 < t.registeredAt.val) ∧
      t.proposalsAccepted.val ≤ t.proposalsSubmitted.val := by
    induction r with
    | genesis =>
      refine ⟨Or.inl ⟨rfl, hs.registeredAt⟩, ?_⟩
      rw [hs.submitted, hs.accepted]
    | accept c r' hc ih =>
      have this := settles _ (List.mem_cons_self ..)
      obtain ⟨before, counts⟩ := ih (fun x hx => settles x (List.mem_cons_of_mem _ hx))
      cases c with
      | register compute height sig =>
        obtain ⟨fresh, _, _, _, _, rfl⟩ := register_some.1 hc
        refine ⟨Or.inr ⟨?_, this⟩, le_refl _⟩
        cases before with
        | inl none => simpa [registrations, Call.isRegister] using none.1
        | inr some =>
          rw [fresh] at some
          exact absurd some.2 (by decide)
      | proposalAccepted sig => exact absurd this id
      | proposalRejected sig =>
        obtain ⟨_, _, _, _, rfl⟩ := proposalRejected_some.1 hc
        exact ⟨by simpa [registrations, Call.isRegister] using before, counts⟩
  obtain ⟨place, counts⟩ := all
  constructor
  · omega
  · intro some compute height sig
    apply register_eq_none
    intro zero
    rw [zero] at place
    simp only [I64.val_zero] at place
    omega
  · exact counts

theorem step_guardianPk {c : Call Sig} (hc : step checkSig c s = some t) :
    t.guardianPk = s.guardianPk := by
  cases c with
  | register compute height sig =>
    obtain ⟨_, _, _, _, _, rfl⟩ := register_some.1 hc
    rfl
  | proposalAccepted sig =>
    obtain ⟨_, _, _, _, _, _, _, _, _, rfl⟩ := proposalAccepted_some.1 hc
    rfl
  | proposalRejected sig =>
    obtain ⟨_, _, _, _, rfl⟩ := proposalRejected_some.1 hc
    rfl

/-- No entrypoint counts a submitted proposal. -/
theorem step_counts {c : Call Sig} (hc : step checkSig c s = some t)
    (counts : s.proposalsSubmitted = 0 ∧ 0 ≤ s.proposalsAccepted.val) :
    t.proposalsSubmitted = 0 ∧ 0 ≤ t.proposalsAccepted.val := by
  cases c with
  | register compute height sig =>
    obtain ⟨_, _, _, _, _, rfl⟩ := register_some.1 hc
    exact ⟨rfl, le_refl _⟩
  | proposalAccepted sig =>
    obtain ⟨_, _, _, _, _, accepted, _, _, haccepted, rfl⟩ := proposalAccepted_some.1 hc
    exact ⟨counts.1, by simp only; omega⟩
  | proposalRejected sig =>
    obtain ⟨_, _, _, _, rfl⟩ := proposalRejected_some.1 hc
    exact counts

/-- A call after which the guardian is settled keeps it so. -/
theorem Settled.settles {c : Call Sig} (hc : step checkSig c s = some t)
    (hsig : ∃ sig, checkSig sig s.guardianPk = true)
    (counts : s.proposalsSubmitted = 0 ∧ 0 ≤ s.proposalsAccepted.val)
    (done : Settled checkSig (⟨s, c, t⟩ :: h) t) : Settles c := by
  cases c with
  | register compute height sig =>
    obtain ⟨_, _, _, low, _, rfl⟩ := register_some.1 hc
    by_contra hheight
    have zero : height = 0 := by
      rw [I64.eq_iff, I64.val_zero]
      simp only [Settles] at hheight
      omega
    obtain ⟨sig', hsig'⟩ := hsig
    have closed := done.closed (by simp [registrations, Call.isRegister]) 100 0 sig'
    rw [Option.eq_none_iff_forall_ne_some] at closed
    apply closed
    apply register_some.2
    exact ⟨zero, by decide, by decide, by decide, hsig', rfl⟩
  | proposalAccepted sig =>
    obtain ⟨_, _, _, _, _, accepted, _, _, haccepted, rfl⟩ := proposalAccepted_some.1 hc
    have := done.counts
    simp only [counts.1, I64.val_zero] at this
    omega
  | proposalRejected sig => trivial

/-- On every run from an unregistered guardian the reputation keeps its range. At every moment the
    guardian is settled if and only if it registered at a positive height and no proposal was
    accepted. -/
theorem reputation_settled_iff (hs : Unregistered s) (r : Run (step checkSig) s h t)
    (hsig : ∃ sig, checkSig sig s.guardianPk = true) :
    (∀ k u, k <:+ h → Run (step checkSig) s k u → 0 < registrations k → InRange u) ∧
    ((∀ k u, k <:+ h → Run (step checkSig) s k u → Settled checkSig k u) ↔
      ∀ x ∈ h, Settles x.call) := by
  refine ⟨fun k u _ rk hreg => hs.inRange rk hreg, ?_⟩
  constructor
  · intro settled x hx
    obtain ⟨after, before, hsplit⟩ := List.append_of_mem hx
    have rb := r.upTo hsplit
    have hc := r.accepted x hx
    have here : x :: before <:+ h := ⟨after, hsplit.symm⟩
    have done := settled (x :: before) x.post here (rb.accept x.call hc)
    have keyed : x.pre.guardianPk = s.guardianPk :=
      rb.invariant (I := fun u => u.guardianPk = s.guardianPk) rfl
        (fun _ _ _ ht hu => (step_guardianPk hu).trans ht)
    have counts : x.pre.proposalsSubmitted = 0 ∧ 0 ≤ x.pre.proposalsAccepted.val :=
      rb.invariant (I := fun u => u.proposalsSubmitted = 0 ∧ 0 ≤ u.proposalsAccepted.val)
        ⟨hs.submitted, by simp [hs.accepted]⟩ (fun _ _ _ ht hu => step_counts hu ht)
    rw [← keyed] at hsig
    exact done.settles hc hsig counts
  · intro settles k u hk rk
    exact hs.settled rk (fun x hx => settles x (hk.subset hx))

/-! ## Examples -/

/-- A guardian with key `1`, governed by key `2`, as a registration with 400 GFLOPS leaves it. -/
def exampleGuardian (registeredAt : I64) : State Nat where
  guardianPk := 1
  governancePk := 2
  computePowerGflops := 400
  reputation := 1000
  proposalsSubmitted := 0
  proposalsAccepted := 0
  registeredAt := registeredAt
  modelType := modelType8B

/-- Keys sign with themselves in the examples. -/
def exampleSig (sig pk : Nat) : Bool := sig == pk

theorem example_register (height height' : I64) (fresh : height' = 0) (hh : 0 ≤ height.val) :
    step exampleSig (.register 400 height 1) (exampleGuardian height') =
      some (exampleGuardian height) := by
  apply register_some.2
  exact ⟨fresh, by decide, by decide, hh, rfl, rfl⟩

theorem exampleGuardian_unregistered : Unregistered (exampleGuardian 0) := ⟨rfl, rfl, rfl⟩

/-- A guardian registered at height five cannot register again. -/
theorem reputation_settled_iff_five :
    register exampleSig (exampleGuardian 5) 400 7 1 = none := by
  have r := Run.single (example_register 5 0 rfl (by decide))
  have all := (reputation_settled_iff exampleGuardian_unregistered r ⟨1, rfl⟩).2.2
    (by simp [Settles])
  exact (all _ _ (List.suffix_refl _) r).closed (by simp [registrations, Call.isRegister]) 400 7 1

/-- Registered at height zero, a guardian registers again. -/
theorem registers_twice_at_zero :
    ¬ ∀ (s t : State Nat) (h : List (Transition (State Nat) (Call Nat))), Unregistered s →
      Run (step exampleSig) s h t → registrations h ≤ 1 := by
  intro claim
  have again := example_register 0 0 rfl (by decide)
  have r := (Run.single again).accept _ again
  have one := claim _ _ _ exampleGuardian_unregistered r
  simp [registrations, Call.isRegister] at one

end Prometheus.Contracts.GuardianReputation
