import Mathlib

/-!
# Atomic transactions

A transaction body reads and writes a working copy of the store and may raise. `transact` runs it
the way `BEGIN IMMEDIATE … COMMIT` does: the working copy becomes the store when the body returns,
and is discarded when it raises. The lemmas turn the equation `body s = .ok (a, s')` of a body
written in `do` notation into the facts its statements established, one after the other.
-/

namespace Prometheus.Machine

variable {σ ε α β : Type}

/-- The body of a transaction over a store `σ`. -/
abbrev Tx (σ ε : Type) := StateT σ (Except ε)

namespace Tx

/-- Raise unless the condition holds. -/
def ensure (c : Bool) (e : ε) : Tx σ ε Unit :=
  if c then pure () else throw e

/-- Continue with the value, or raise when there is none. -/
def orRaise (x : Option α) (e : ε) : Tx σ ε α :=
  match x with
  | some a => pure a
  | none => throw e

/-- Continue with the value of a pure computation, or raise its exception. -/
def lift {δ : Type} (wrap : δ → ε) (x : Except δ α) : Tx σ ε α :=
  match x with
  | .ok a => pure a
  | .error e => throw (wrap e)

/-- Run a statement only under a condition. -/
def onlyIf (c : Bool) (x : Tx σ ε Unit) : Tx σ ε Unit :=
  if c then x else pure ()

/-- Evaluate a query on the working copy. -/
def query (f : σ → α) : Tx σ ε α := do return f (← get)

@[simp] theorem bind_ok {x : Tx σ ε α} {f : α → Tx σ ε β} {s s'' : σ} {b : β} :
    (x >>= f) s = .ok (b, s'') ↔ ∃ a s', x s = .ok (a, s') ∧ f a s' = .ok (b, s'') := by
  constructor
  · intro h
    cases hx : x s with
    | error e => simp [bind, StateT.bind, Except.bind, hx] at h
    | ok r => exact ⟨r.1, r.2, rfl, by simpa [bind, StateT.bind, Except.bind, hx] using h⟩
  · rintro ⟨a, s', hx, hf⟩
    simp [bind, StateT.bind, Except.bind, hx, hf]

@[simp] theorem pure_ok {a b : α} {s s' : σ} :
    (pure a : Tx σ ε α) s = .ok (b, s') ↔ b = a ∧ s' = s := by
  simp [pure, StateT.pure, Except.pure, eq_comm]

@[simp] theorem throw_ok {e : ε} {b : α} {s s' : σ} :
    ¬ (throw e : Tx σ ε α) s = .ok (b, s') := by
  simp [throw, throwThe, MonadExceptOf.throw, StateT.lift, bind, Except.bind]

@[simp] theorem ensure_ok {c : Bool} {e : ε} {b : Unit} {s s' : σ} :
    (ensure c e : Tx σ ε Unit) s = .ok (b, s') ↔ c = true ∧ s' = s := by
  cases c
  · simp [ensure, throw_ok]
  · simp [ensure, pure_ok]

@[simp] theorem orRaise_ok {x : Option α} {e : ε} {b : α} {s s' : σ} :
    (orRaise x e : Tx σ ε α) s = .ok (b, s') ↔ x = some b ∧ s' = s := by
  cases x with
  | none => simp [orRaise, throw_ok]
  | some a =>
    simp only [orRaise, pure_ok, Option.some.injEq]
    exact and_congr eq_comm Iff.rfl

@[simp] theorem lift_ok {δ : Type} {wrap : δ → ε} {x : Except δ α} {b : α} {s s' : σ} :
    (lift wrap x : Tx σ ε α) s = .ok (b, s') ↔ x = .ok b ∧ s' = s := by
  cases x with
  | error e => simp [lift, throw_ok]
  | ok a =>
    simp only [lift, pure_ok, Except.ok.injEq]
    exact and_congr eq_comm Iff.rfl

@[simp] theorem onlyIf_ok {c : Bool} {x : Tx σ ε Unit} {b : Unit} {s s' : σ} :
    (onlyIf c x) s = .ok (b, s') ↔ (c = true ∧ x s = .ok (b, s')) ∨ (c = false ∧ s' = s) := by
  cases c
  · simp [onlyIf, pure_ok]
  · simp [onlyIf]

@[simp] theorem query_ok {f : σ → α} {b : α} {s s' : σ} :
    (query f : Tx σ ε α) s = .ok (b, s') ↔ b = f s ∧ s' = s := by
  simp [query, get, getThe, MonadStateOf.get, StateT.get, bind, StateT.bind, Except.bind, pure,
    StateT.pure, Except.pure, eq_comm]

@[simp] theorem modify_ok {f : σ → σ} {b : Unit} {s s' : σ} :
    (modify f : Tx σ ε Unit) s = .ok (b, s') ↔ s' = f s := by
  simp [modify, modifyGet, MonadStateOf.modifyGet, StateT.modifyGet, pure, Except.pure, eq_comm]

/-! ### Which statement raised -/

theorem bind_error {x : Tx σ ε α} {f : α → Tx σ ε β} {s : σ} {e : ε} :
    (x >>= f) s = .error e ↔ x s = .error e ∨ ∃ a s', x s = .ok (a, s') ∧ f a s' = .error e := by
  cases hx : x s with
  | error e' => simp [bind, StateT.bind, Except.bind, hx]
  | ok r =>
    obtain ⟨a, s'⟩ := r
    simp only [bind, StateT.bind, Except.bind, hx, reduceCtorEq, false_or, Except.ok.injEq]
    constructor
    · intro h
      exact ⟨a, s', rfl, h⟩
    · rintro ⟨a', s'', same, h⟩
      obtain ⟨rfl, rfl⟩ := Prod.mk.inj same
      exact h

theorem ensure_error {c : Bool} {e e' : ε} {s : σ} :
    (ensure c e : Tx σ ε Unit) s = .error e' ↔ c = false ∧ e = e' := by
  cases c
  · simp [ensure, throw, throwThe, MonadExceptOf.throw, StateT.lift, bind, Except.bind]
  · simp [ensure, pure, StateT.pure, Except.pure]

theorem orRaise_error {x : Option α} {e e' : ε} {s : σ} :
    (orRaise x e : Tx σ ε α) s = .error e' ↔ x = none ∧ e = e' := by
  cases x with
  | none => simp [orRaise, throw, throwThe, MonadExceptOf.throw, StateT.lift, bind, Except.bind]
  | some a => simp [orRaise, pure, StateT.pure, Except.pure]

theorem query_error {f : σ → α} {s : σ} {e : ε} : ¬ (query f : Tx σ ε α) s = .error e := by
  simp [query, get, getThe, MonadStateOf.get, StateT.get, bind, StateT.bind, Except.bind, pure,
    StateT.pure, Except.pure]

theorem modify_error {f : σ → σ} {s : σ} {e : ε} : ¬ (modify f : Tx σ ε Unit) s = .error e := by
  simp [modify, modifyGet, MonadStateOf.modifyGet, StateT.modifyGet, pure, Except.pure]

theorem ite_ok {c : Prop} [Decidable c] {x y : Tx σ ε α} {b : α} {s s' : σ} :
    (if c then x else y) s = .ok (b, s') ↔
      (c ∧ x s = .ok (b, s')) ∨ (¬ c ∧ y s = .ok (b, s')) := by
  by_cases hc : c <;> simp [hc]

end Tx

/-- `BEGIN IMMEDIATE`, the body, then `COMMIT`, or `ROLLBACK` if the body raised. -/
def transact (body : Tx σ ε α) (s : σ) : Except ε α × σ :=
  match body s with
  | .ok (a, s') => (.ok a, s')
  | .error e => (.error e, s)

theorem transact_ok {body : Tx σ ε α} {s s' : σ} {a : α} :
    transact body s = (.ok a, s') ↔ body s = .ok (a, s') := by
  unfold transact
  cases body s with
  | ok r => simp [Prod.ext_iff]
  | error e => simp

/-- A transaction that raises leaves the store as it was. -/
theorem transact_error {body : Tx σ ε α} {s s' : σ} {e : ε}
    (h : transact body s = (.error e, s')) : s' = s := by
  unfold transact at h
  cases hb : body s with
  | ok r => simp [hb] at h
  | error e' => simp only [hb, Prod.mk.injEq] at h; exact h.2.symm

end Prometheus.Machine
