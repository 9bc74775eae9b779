import Prometheus.Machine.Trace

/-!
# Programs that can be killed

A `Program` performs one operation after another on a world and continues with the reply. The world
is shared and survives; the program can be killed between two operations, and another one, or the
same one again, is started later. `Crash` is the weakest precondition for that setting: the
guarantee holds of every single operation, whatever the environment answers, and the
postcondition holds when the program returns. `Host` runs programs one at a time, and
`Host.invariant` turns a proof about each program into one about every run of the host.
-/

namespace Prometheus.Machine

/-- A program whose operations `op : Op` are answered by a `Reply op`. -/
inductive Program (Op : Type) (Reply : Op → Type) (α : Type)
  | ret (a : α)
  | call (op : Op) (next : Reply op → Program Op Reply α)

namespace Program

variable {Op : Type} {Reply : Op → Type} {α β : Type}

/-- Sequential composition. -/
def bind : Program Op Reply α → (α → Program Op Reply β) → Program Op Reply β
  | .ret a, f => f a
  | .call op next, f => .call op fun reply => bind (next reply) f

instance : Monad (Program Op Reply) where
  pure := .ret
  bind := bind

/-- Perform one operation. -/
def perform (op : Op) : Program Op Reply (Reply op) := .call op .ret

/-! ## Preconditions -/

variable {σ χ : Type} (exec : (op : Op) → χ → σ → σ × Reply op) (Guar : σ → σ → Prop)

/-- From the state the program keeps the guarantee at every operation and returns with the
postcondition. -/
def Crash : Program Op Reply α → (α → σ → Prop) → σ → Prop
  | .ret a, post, s => post a s
  | .call op next, post, s =>
    ∀ c, Guar s (exec op c s).1 ∧ Crash (next (exec op c s).2) post (exec op c s).1

variable {exec Guar} {s : σ}

theorem Crash.ret {a : α} {post : α → σ → Prop} (h : post a s) :
    Crash exec Guar (.ret a : Program Op Reply α) post s := h

theorem Crash.mono {p : Program Op Reply α} {post post' : α → σ → Prop}
    (h : Crash exec Guar p post s) (imp : ∀ a s, post a s → post' a s) :
    Crash exec Guar p post' s := by
  induction p generalizing s with
  | ret a => exact imp a s h
  | call op next ih =>
    intro c
    exact ⟨(h c).1, ih _ (h c).2⟩

/-- A stronger guarantee is enough. -/
theorem Crash.weaken {Guar' : σ → σ → Prop} {p : Program Op Reply α} {post : α → σ → Prop}
    (h : Crash exec Guar p post s) (imp : ∀ s s', Guar s s' → Guar' s s') :
    Crash exec Guar' p post s := by
  induction p generalizing s with
  | ret a => exact h
  | call op next ih =>
    intro c
    exact ⟨imp _ _ (h c).1, ih _ (h c).2⟩

theorem Crash.bind {p : Program Op Reply α} {f : α → Program Op Reply β} {post : β → σ → Prop}
    (h : Crash exec Guar p (fun a s => Crash exec Guar (f a) post s) s) :
    Crash exec Guar (p >>= f) post s := by
  induction p generalizing s with
  | ret a => exact h
  | call op next ih =>
    intro c
    exact ⟨(h c).1, ih _ (h c).2⟩

/-- One operation: what each answer of the environment does to the state. -/
theorem Crash.perform {op : Op} {post : Reply op → σ → Prop}
    (h : ∀ c, Guar s (exec op c s).1 ∧ post (exec op c s).2 (exec op c s).1) :
    Crash exec Guar (Program.perform op) post s := h

/-! ## Programs that raise -/

variable {ε : Type}

/-- Sequential composition of programs that may raise: an exception ends the program. -/
theorem Crash.bindExcept {p : ExceptT ε (Program Op Reply) α}
    {f : α → ExceptT ε (Program Op Reply) β} {post : Except ε β → σ → Prop}
    (h : Crash exec Guar p.run (fun r s =>
      match r with
      | .ok a => Crash exec Guar (f a).run post s
      | .error e => post (.error e) s) s) :
    Crash exec Guar (p >>= f).run post s := by
  refine Crash.bind (h.mono ?_)
  intro r s hr
  cases r with
  | ok a => exact hr
  | error e => exact hr

variable (exec Guar) in
/-- `Crash` of a program that may raise, with a postcondition for its normal return only. -/
def CrashOk (p : ExceptT ε (Program Op Reply) α) (post : α → σ → Prop) (s : σ) : Prop :=
  Crash exec Guar p.run (fun r s => ∀ a, r = .ok a → post a s) s

theorem CrashOk.pure {a : α} {post : α → σ → Prop} (h : post a s) :
    CrashOk exec Guar (Pure.pure a : ExceptT ε (Program Op Reply) α) post s := by
  intro b isReturned
  have same : a = b := Except.ok.inj isReturned
  rw [← same]
  exact h

theorem CrashOk.raise {e : ε} {post : α → σ → Prop} :
    CrashOk exec Guar (throw e : ExceptT ε (Program Op Reply) α) post s := by
  intro b isReturned
  cases isReturned

theorem CrashOk.mono {p : ExceptT ε (Program Op Reply) α} {post post' : α → σ → Prop}
    (h : CrashOk exec Guar p post s) (imp : ∀ a s, post a s → post' a s) :
    CrashOk exec Guar p post' s := by
  apply Crash.mono h
  intro r s returns a isReturned
  exact imp a s (returns a isReturned)

theorem CrashOk.bind {p : ExceptT ε (Program Op Reply) α} {f : α → ExceptT ε (Program Op Reply) β}
    {post : β → σ → Prop}
    (h : CrashOk exec Guar p (fun a s => CrashOk exec Guar (f a) post s) s) :
    CrashOk exec Guar (p >>= f) post s := by
  apply Crash.bindExcept
  apply Crash.mono h
  intro r s returns
  cases r with
  | ok a => exact returns a rfl
  | error e =>
    intro b isReturned
    cases isReturned

end Program

/-! ## Hosts -/

/-- A world and the program that is running on it. -/
structure Host (σ : Type) (Op : Type) (Reply : Op → Type) (α : Type) where
  world : σ
  running : Option (Program Op Reply α)

/-- What happens on a host: a program is started, the running one performs its next operation, or
it is killed. -/
inductive Signal (π χ : Type)
  | start (p : π)
  | next (c : χ)
  | kill

namespace Host

variable {Op : Type} {Reply : Op → Type} {α σ χ π : Type}
  (exec : (op : Op) → χ → σ → σ × Reply op) (program : π → Program Op Reply α)

/-- One signal; the output is the operation that was performed. While a program runs no other one
is started: they hold the same lock. -/
def step : Signal π χ → Host σ Op Reply α → Option Op × Host σ Op Reply α
  | .start p, ⟨world, none⟩ => (none, ⟨world, some (program p)⟩)
  | .start _, host => (none, host)
  | .next c, ⟨world, some (.call op next)⟩ =>
    (some op, ⟨(exec op c world).1, some (next (exec op c world).2)⟩)
  | .next _, ⟨world, _⟩ => (none, ⟨world, none⟩)
  | .kill, ⟨world, _⟩ => (none, ⟨world, none⟩)

/-- The invariant holds, and the running program keeps the guarantee. -/
def Guarded (Guar : σ → σ → Prop) (Inv : σ → Prop) (host : Host σ Op Reply α) : Prop :=
  Inv host.world ∧ ∀ p, host.running = some p →
    p.Crash exec Guar (fun _ _ => True) host.world

variable {exec program} {Guar : σ → σ → Prop} {Inv : σ → Prop}

/-- A signal leaves the world or changes it within the guarantee. -/
theorem Guarded.world {host : Host σ Op Reply α} (h : host.Guarded exec Guar Inv)
    (signal : Signal π χ) :
    (Host.step exec program signal host).2.world = host.world ∨
      Guar host.world (Host.step exec program signal host).2.world := by
  obtain ⟨world, running⟩ := host
  cases running with
  | none => cases signal <;> exact .inl rfl
  | some p =>
    cases p with
    | ret a => cases signal <;> exact .inl rfl
    | call op next =>
      cases signal with
      | start p => exact .inl rfl
      | next c => exact .inr (h.2 _ rfl c).1
      | kill => exact .inl rfl

theorem Guarded.step (kept : ∀ w w', Guar w w' → Inv w')
    (started : ∀ w, Inv w → ∀ p, (program p).Crash exec Guar (fun _ _ => True) w)
    {host : Host σ Op Reply α} (h : host.Guarded exec Guar Inv) (signal : Signal π χ) :
    (Host.step exec program signal host).2.Guarded exec Guar Inv := by
  obtain ⟨world, running⟩ := host
  obtain ⟨inv, safe⟩ := h
  cases signal with
  | start p =>
    cases running with
    | none =>
      refine ⟨inv, ?_⟩
      intro q isRunning
      have same : program p = q := Option.some.inj isRunning
      rw [← same]
      exact started world inv p
    | some q => exact ⟨inv, safe⟩
  | next c =>
    cases running with
    | none => exact ⟨inv, by simp [Host.step]⟩
    | some q =>
      cases q with
      | ret a => exact ⟨inv, by simp [Host.step]⟩
      | call op next =>
        have next' := safe _ rfl c
        refine ⟨kept _ _ next'.1, ?_⟩
        intro q isRunning
        have same : next (exec op c world).2 = q := Option.some.inj isRunning
        rw [← same]
        exact next'.2
  | kill => exact ⟨inv, by simp [Host.step]⟩

/-- An invariant that every program keeps holds in every state of every run. -/
theorem invariant (kept : ∀ w w', Guar w w' → Inv w')
    (started : ∀ w, Inv w → ∀ p, (program p).Crash exec Guar (fun _ _ => True) w)
    {init : Host σ Op Reply α → Prop}
    (begins : ∀ host, init host → host.running = none ∧ Inv host.world)
    {h : List (Event (Host σ Op Reply α) (Signal π χ) (Option Op))} {host : Host σ Op Reply α}
    (run : Run (Host.step exec program) init h host) : host.Guarded exec Guar Inv := by
  refine run.invariant (Guarded exec Guar Inv) ?_ fun s signal guarded =>
    guarded.step kept started signal
  intro s isInit
  obtain ⟨idle, inv⟩ := begins s isInit
  refine ⟨inv, ?_⟩
  intro p isRunning
  rw [idle] at isRunning
  cases isRunning

end Host

end Prometheus.Machine
