import Mathlib

/-!
# Covenant transitions

A singleton covenant is a state record and a list of entrypoints. An entrypoint reads the previous
state and the call's arguments, checks its `require` lines and returns the next state; a failed
check, a division by zero or a sum that leaves the signed 64-bit range rejects the transition. So
an entrypoint is a function into `Option`, and a run is a list of transitions that were accepted.

`Run.invariant` and `Run.steps` turn what one transition keeps into what a run keeps, `Run.measure`
follows an integer that every transition moves by a known amount, and `Run.simulated` carries a run
over to a machine that follows every transition.
-/

namespace Prometheus.Contracts

/-! ## Script integers -/

/-- A script integer: signed, 64 bits. -/
@[ext] structure I64 where
  val : Int
  lower : -2 ^ 63 ≤ val
  upper : val < 2 ^ 63
  deriving DecidableEq

namespace I64

instance : Coe I64 Int := ⟨I64.val⟩

/-- A literal of a contract, all of which are far below `2 ^ 63`. -/
instance (n : Nat) : OfNat I64 n := ⟨⟨n % 2 ^ 63, by omega, by omega⟩⟩

instance : LE I64 := ⟨fun a b => a.val ≤ b.val⟩
instance : LT I64 := ⟨fun a b => a.val < b.val⟩

instance (a b : I64) : Decidable (a ≤ b) := inferInstanceAs (Decidable (a.val ≤ b.val))
instance (a b : I64) : Decidable (a < b) := inferInstanceAs (Decidable (a.val < b.val))

/-- An exact result, when it fits. -/
def ofInt? (n : Int) : Option I64 :=
  if h : -2 ^ 63 ≤ n ∧ n < 2 ^ 63 then some ⟨n, h.1, h.2⟩ else none

def add (a b : I64) : Option I64 := ofInt? (a.val + b.val)

def sub (a b : I64) : Option I64 := ofInt? (a.val - b.val)

def mul (a b : I64) : Option I64 := ofInt? (a.val * b.val)

/-- Division rounds towards zero. -/
def div (a b : I64) : Option I64 := if b = 0 then none else ofInt? (a.val.tdiv b.val)

variable {a b c : I64}

@[simp] theorem le_iff : a ≤ b ↔ a.val ≤ b.val := Iff.rfl

@[simp] theorem lt_iff : a < b ↔ a.val < b.val := Iff.rfl

@[simp] theorem val_zero : (0 : I64).val = 0 := rfl

@[simp] theorem val_one : (1 : I64).val = 1 := rfl

@[simp] theorem val_ofNat (n : Nat) [n.AtLeastTwo] :
    (ofNat(n) : I64).val = (ofNat(n) : Int) % 2 ^ 63 := rfl

theorem eq_iff : a = b ↔ a.val = b.val := I64.ext_iff

/-- The bounds of a script integer, where `omega` asks for them. -/
theorem bounds (a : I64) : -2 ^ 63 ≤ a.val ∧ a.val < 2 ^ 63 := ⟨a.lower, a.upper⟩

theorem exists_val {n : Int} : (∃ a : I64, a.val = n) ↔ -2 ^ 63 ≤ n ∧ n < 2 ^ 63 := by
  constructor
  · intro h
    obtain ⟨a, ha⟩ := h
    rw [← ha]
    exact a.bounds
  · intro h
    exact ⟨⟨n, h.1, h.2⟩, rfl⟩

@[simp] theorem ofInt?_eq_some {n : Int} : ofInt? n = some c ↔ c.val = n := by
  unfold ofInt?
  by_cases h : -2 ^ 63 ≤ n ∧ n < 2 ^ 63
  · rw [dif_pos h]
    simp only [Option.some.injEq, eq_iff]
    exact eq_comm
  · rw [dif_neg h]
    constructor
    · intro hn
      cases hn
    · intro hn
      rw [← hn] at h
      exact absurd c.bounds h

@[simp] theorem add_eq_some : add a b = some c ↔ c.val = a.val + b.val := ofInt?_eq_some

@[simp] theorem sub_eq_some : sub a b = some c ↔ c.val = a.val - b.val := ofInt?_eq_some

@[simp] theorem mul_eq_some : mul a b = some c ↔ c.val = a.val * b.val := ofInt?_eq_some

@[simp] theorem div_eq_some :
    div a b = some c ↔ b.val ≠ 0 ∧ c.val = a.val.tdiv b.val := by
  unfold div
  by_cases hb : b = 0
  · simp [hb]
  · rw [if_neg hb, ofInt?_eq_some]
    rw [eq_iff, val_zero] at hb
    simp [hb]

/-- A quotient by a positive number fits. -/
theorem exists_tdiv (a : I64) {n : Int} (hn : 0 < n) : ∃ q : I64, q.val = a.val.tdiv n := by
  apply exists_val.2
  have small : (a.val.tdiv n).natAbs ≤ a.val.natAbs := Int.natAbs_tdiv_le_natAbs a.val n
  have := a.bounds
  by_cases ha : 0 ≤ a.val
  · omega
  · have opposite : 0 ≤ (-a.val).tdiv n := Int.tdiv_nonneg (by omega) (by omega)
    rw [Int.neg_tdiv] at opposite
    omega

end I64

/-! ## Checks -/

/-- A `require` line. -/
def require (p : Prop) [Decidable p] : Option Unit := if p then some () else none

variable {α β σ κ : Type}

@[simp] theorem require_eq_some {p : Prop} [Decidable p] {u : Unit} : require p = some u ↔ p := by
  unfold require
  by_cases h : p <;> simp [h]

/-- An entrypoint accepts when each line does. -/
@[simp] theorem line_bind {o : Option α} {f : α → Option β} {b : β} :
    (o >>= f) = some b ↔ ∃ a, o = some a ∧ f a = some b := by
  simp only [Option.bind_eq_bind, Option.bind_eq_some_iff]

/-! ## Runs -/

/-- An accepted transition. -/
structure Transition (σ κ : Type) where
  pre : σ
  call : κ
  post : σ

/-- `Run step s h t`: the accepted transitions `h`, latest first, lead from `s` to `t`. -/
inductive Run (step : κ → σ → Option σ) (s : σ) : List (Transition σ κ) → σ → Prop
  | genesis : Run step s [] s
  | accept {h : List (Transition σ κ)} {t u : σ} (c : κ) :
      Run step s h t → step c t = some u → Run step s (⟨t, c, u⟩ :: h) u

/-- Make calls after the history `h` until one is rejected. -/
def replay (step : κ → σ → Option σ) :
    List κ → List (Transition σ κ) → σ → Option (List (Transition σ κ) × σ)
  | [], h, s => some (h, s)
  | c :: cs, h, s => (step c s).bind fun t => replay step cs (⟨s, c, t⟩ :: h) t

namespace Run

variable {step : κ → σ → Option σ} {s t u : σ} {h k : List (Transition σ κ)}

/-- Calls that are all accepted make a run. -/
theorem of_replay {cs : List κ} (r : Run step s h t)
    (hr : replay step cs h t = some (k, u)) : Run step s k u := by
  induction cs generalizing h t with
  | nil =>
    simp only [replay, Option.some.injEq, Prod.mk.injEq] at hr
    rw [← hr.1, ← hr.2]
    exact r
  | cons c cs ih =>
    simp only [replay, Option.bind_eq_some_iff] at hr
    obtain ⟨v, hc, hr⟩ := hr
    exact ih (r.accept c hc) hr

theorem trans (r : Run step s h t) (q : Run step t k u) : Run step s (k ++ h) u := by
  induction q with
  | genesis => exact r
  | accept c _ hc ih => exact ih.accept c hc

theorem single {c : κ} (hc : step c s = some t) : Run step s [⟨s, c, t⟩] t :=
  Run.genesis.accept c hc

/-- An invariant that every accepted transition of the run keeps holds where the run ends. -/
theorem invariant_of {I : σ → Prop} (r : Run step s h t) (hs : I s)
    (keeps : ∀ x ∈ h, I x.pre → step x.call x.pre = some x.post → I x.post) : I t := by
  induction r with
  | genesis => exact hs
  | accept c _ hc ih =>
    have before := ih (fun x hx => keeps x (List.mem_cons_of_mem _ hx))
    exact keeps _ (List.mem_cons_self ..) before hc

/-- An invariant that every accepted transition keeps holds in every state reached. -/
theorem invariant {I : σ → Prop} (r : Run step s h t) (hs : I s)
    (keeps : ∀ c t u, I t → step c t = some u → I u) : I t :=
  r.invariant_of hs (fun x _ hx hc => keeps x.call x.pre x.post hx hc)

/-- Each transition of a run was accepted, in a state that keeps the invariant. -/
theorem steps {I : σ → Prop} (r : Run step s h t) (hs : I s)
    (keeps : ∀ c t u, I t → step c t = some u → I u) :
    ∀ x ∈ h, I x.pre ∧ step x.call x.pre = some x.post := by
  induction r with
  | genesis => simp
  | accept c r' hc ih =>
    intro x hx
    cases hx with
    | head => exact ⟨r'.invariant hs keeps, hc⟩
    | tail _ hx => exact ih x hx

/-- Each transition of a run was accepted. -/
theorem accepted (r : Run step s h t) : ∀ x ∈ h, step x.call x.pre = some x.post := by
  intro x hx
  exact (r.steps (I := fun _ => True) trivial (fun _ _ _ _ _ => trivial) x hx).2

/-- The run up to a transition. -/
theorem upTo (r : Run step s h t) {before after : List (Transition σ κ)} {x : Transition σ κ}
    (hx : h = after ++ x :: before) : Run step s before x.pre := by
  induction r generalizing after with
  | genesis => simp at hx
  | accept c r' hc ih =>
    cases after with
    | nil =>
      cases hx
      exact r'
    | cons y after =>
      cases hx
      exact ih rfl

/-- An integer of the state that each transition moves by what `change` says of it. -/
theorem measure {value : σ → Int} {change : Transition σ κ → Int} (r : Run step s h t)
    (moves : ∀ c t u, step c t = some u → value u = value t + change ⟨t, c, u⟩) :
    value t = value s + (h.map change).sum := by
  induction r with
  | genesis => simp
  | accept c r' hc ih =>
    rw [moves c _ _ hc, ih]
    simp only [List.map_cons, List.sum_cons]
    omega

/-- A machine whose transitions another machine follows: its runs are followed too. -/
theorem simulated {τ ι : Type} {step' : ι → τ → Option τ} {view : σ → τ} {move : κ → ι}
    (r : Run step s h t)
    (follows : ∀ c t u, step c t = some u → step' (move c) (view t) = some (view u)) :
    Run step' (view s) (h.map fun x => ⟨view x.pre, move x.call, view x.post⟩) (view t) := by
  induction r with
  | genesis => exact Run.genesis
  | accept c r' hc ih => exact ih.accept (move c) (follows c _ _ hc)

end Run

end Prometheus.Contracts
