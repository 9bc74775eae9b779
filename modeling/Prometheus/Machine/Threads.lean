import Prometheus.Machine.Program

/-!
# Threads over a shared world

Calls run as threads that interleave operation by operation on one world, and each can be killed
between two of its operations. A thread is reasoned about alone: `Cooperates` is the weakest
precondition under interference, where between two operations the others may change the world within
the rely, and every operation of the thread stays within its guarantee. When each thread's guarantee
is within the rely of every other one, `Threads.Cooperating` is kept by every step.
-/

namespace Prometheus.Machine

variable {κ π σ χ α : Type} {Op : Type} {Reply : Op → Type}

/-! ## One thread -/

namespace Program

variable (exec : (op : Op) → χ → σ → σ × Reply op) (Rely Guar : σ → σ → Prop) (Adm : Op → σ → Prop)

/-- From the state, under interference within the rely and as long as its operations are admissible,
the program keeps the guarantee at every operation and returns with the postcondition. -/
def Cooperates : Program Op Reply α → (α → σ → Prop) → σ → Prop
  | .ret a, post, s => ∀ s', Rely s s' → post a s'
  | .call op next, post, s =>
    ∀ s', Rely s s' → Adm op s' → ∀ c,
      Guar s' (exec op c s').1 ∧ Cooperates (next (exec op c s').2) post (exec op c s').1

variable {exec Rely Guar Adm} {s s' : σ} {β : Type}

/-- Interference does not hurt. -/
theorem Cooperates.rely (trans : ∀ a b c, Rely a b → Rely b c → Rely a c)
    {p : Program Op Reply α} {post : α → σ → Prop} (h : Cooperates exec Rely Guar Adm p post s)
    (changed : Rely s s') : Cooperates exec Rely Guar Adm p post s' := by
  cases p with
  | ret a => exact fun s'' later => h s'' (trans _ _ _ changed later)
  | call op next => exact fun s'' later => h s'' (trans _ _ _ changed later)

theorem Cooperates.mono {p : Program Op Reply α} {post post' : α → σ → Prop}
    (h : Cooperates exec Rely Guar Adm p post s) (imp : ∀ a s, post a s → post' a s) :
    Cooperates exec Rely Guar Adm p post' s := by
  induction p generalizing s with
  | ret a => exact fun s' changed => imp a s' (h s' changed)
  | call op next ih =>
    intro s' changed admissible c
    obtain ⟨kept, rest⟩ := h s' changed admissible c
    exact ⟨kept, ih _ rest⟩

theorem Cooperates.bind (refl : ∀ a, Rely a a) {p : Program Op Reply α}
    {f : α → Program Op Reply β} {post : β → σ → Prop}
    (h : Cooperates exec Rely Guar Adm p
      (fun a s => Cooperates exec Rely Guar Adm (f a) post s) s) :
    Cooperates exec Rely Guar Adm (p >>= f) post s := by
  induction p generalizing s with
  | ret a => exact h s (refl s)
  | call op next ih =>
    intro s' changed admissible c
    obtain ⟨kept, rest⟩ := h s' changed admissible c
    exact ⟨kept, ih _ rest⟩

/-- Sequential composition of programs that may raise: an exception ends the program. -/
theorem Cooperates.bindExcept {ε : Type} (refl : ∀ a, Rely a a)
    {p : ExceptT ε (Program Op Reply) α} {f : α → ExceptT ε (Program Op Reply) β}
    {post : Except ε β → σ → Prop}
    (h : Cooperates exec Rely Guar Adm p.run (fun r s =>
      match r with
      | .ok a => Cooperates exec Rely Guar Adm (f a).run post s
      | .error e => ∀ s', Rely s s' → post (.error e) s') s) :
    Cooperates exec Rely Guar Adm (p >>= f).run post s := by
  refine Cooperates.bind refl (h.mono ?_)
  intro r s hr
  cases r with
  | ok a => exact hr
  | error e => exact hr

end Program

/-! ## Many threads -/

/-- A call that is running: what was called, the world it found, and what is left to do. -/
structure Thread (π σ : Type) (Op : Type) (Reply : Op → Type) (α : Type) where
  call : π
  begun : σ
  program : Program Op Reply α

/-- A world and the calls that are running on it. -/
structure Threads (κ π σ : Type) (Op : Type) (Reply : Op → Type) (α : Type) where
  world : σ
  live : κ → Option (Thread π σ Op Reply α)

/-- What happens: a call is started under a key that no running call has, a running call performs its
next operation or returns, or it is killed. -/
inductive ThreadSignal (κ π χ : Type)
  | start (k : κ) (call : π)
  | next (k : κ) (c : χ)
  | kill (k : κ)

/-- What can be seen of a step. -/
inductive ThreadOutput (κ : Type) (Op : Type) (α : Type)
  | nothing
  | performed (k : κ) (op : Op)
  | returned (k : κ) (a : α)

namespace Threads

variable [DecidableEq κ] (exec : (op : Op) → χ → σ → σ × Reply op)
  (program : κ → π → Program Op Reply α)

/-- One signal. -/
def step : ThreadSignal κ π χ → Threads κ π σ Op Reply α →
    ThreadOutput κ Op α × Threads κ π σ Op Reply α
  | .start k call, ⟨world, live⟩ =>
    match live k with
    | some _ => (.nothing, ⟨world, live⟩)
    | none => (.nothing, ⟨world, Function.update live k (some ⟨call, world, program k call⟩)⟩)
  | .next k c, ⟨world, live⟩ =>
    match live k with
    | none => (.nothing, ⟨world, live⟩)
    | some ⟨_, _, .ret a⟩ => (.returned k a, ⟨world, Function.update live k none⟩)
    | some ⟨call, begun, .call op rest⟩ =>
      (.performed k op,
        ⟨(exec op c world).1,
          Function.update live k (some ⟨call, begun, rest (exec op c world).2⟩)⟩)
  | .kill k, ⟨world, live⟩ => (.nothing, ⟨world, Function.update live k none⟩)

abbrev ThreadEvent (κ π σ χ : Type) (Op : Type) (Reply : Op → Type) (α : Type) :=
  Event (Threads κ π σ Op Reply α) (ThreadSignal κ π χ) (ThreadOutput κ Op α)

variable (Rely Guar : κ → σ → σ → Prop) (Adm : π → Op → σ → Prop)
  (post : κ → π → σ → α → σ → Prop)

/-- Every running call cooperates with the others. -/
def Cooperating (s : Threads κ π σ Op Reply α) : Prop :=
  ∀ k thread, s.live k = some thread →
    thread.program.Cooperates exec (Rely k) (Guar k) (Adm thread.call)
      (post k thread.call thread.begun) s.world

variable {exec program Rely Guar Adm post} {s : Threads κ π σ Op Reply α}

/-- An operation of a cooperating thread is within its guarantee. -/
theorem Cooperating.performs (refl : ∀ k a, Rely k a a)
    (h : s.Cooperating exec Rely Guar Adm post) {signal : ThreadSignal κ π χ} {k : κ} {op : Op}
    (performed : (step exec program signal s).1 = .performed k op)
    (admissible : ∀ thread, s.live k = some thread → Adm thread.call op s.world) :
    Guar k s.world (step exec program signal s).2.world := by
  obtain ⟨world, live⟩ := s
  cases signal with
  | start k' call =>
    cases running : live k' <;> simp [step, running] at performed
  | kill k' => simp [step] at performed
  | next k' c =>
    cases running : live k' with
    | none => simp [step, running] at performed
    | some thread =>
      obtain ⟨call, begun, p⟩ := thread
      cases p with
      | ret a => simp [step, running] at performed
      | call op' rest =>
        simp only [step, running, ThreadOutput.performed.injEq] at performed ⊢
        obtain ⟨rfl, rfl⟩ := performed
        exact (h k' _ running world (refl k' world) (admissible _ running) c).1

/-- A signal leaves the world alone, or a thread performs an operation. -/
theorem world_step (signal : ThreadSignal κ π χ) :
    (step exec program signal s).2.world = s.world ∨
      ∃ k op, (step exec program signal s).1 = .performed k op := by
  obtain ⟨world, live⟩ := s
  cases signal with
  | start k call => cases running : live k <;> simp [step, running]
  | kill k => exact .inl rfl
  | next k c =>
    cases running : live k with
    | none => exact .inl (by simp [step, running])
    | some thread =>
      obtain ⟨call, begun, p⟩ := thread
      cases p with
      | ret a => exact .inl (by simp [step, running])
      | call op rest => exact .inr ⟨k, op, by simp [step, running]⟩

/-- A cooperating thread returns with its postcondition. -/
theorem Cooperating.returns (refl : ∀ k a, Rely k a a)
    (h : s.Cooperating exec Rely Guar Adm post) {signal : ThreadSignal κ π χ} {k : κ} {a : α}
    (returned : (step exec program signal s).1 = .returned k a) :
    ∃ thread, s.live k = some thread ∧ post k thread.call thread.begun a s.world := by
  obtain ⟨world, live⟩ := s
  cases signal with
  | start k' call =>
    cases running : live k' <;> simp [step, running] at returned
  | kill k' => simp [step] at returned
  | next k' c =>
    cases running : live k' with
    | none => simp [step, running] at returned
    | some thread =>
      obtain ⟨call, begun, p⟩ := thread
      cases p with
      | call op' rest => simp [step, running] at returned
      | ret a' =>
        simp only [step, running, ThreadOutput.returned.injEq] at returned
        obtain ⟨rfl, rfl⟩ := returned
        exact ⟨_, running, h k' _ running world (refl k' world)⟩

/-- Threads whose guarantees are within each other's relies keep cooperating. -/
theorem Cooperating.step (refl : ∀ k a, Rely k a a)
    (trans : ∀ k a b c, Rely k a b → Rely k b c → Rely k a c)
    (compatible : ∀ k k' a b, k ≠ k' → Guar k a b → Rely k' a b)
    (h : s.Cooperating exec Rely Guar Adm post) (signal : ThreadSignal κ π χ)
    (started : ∀ k call, signal = .start k call → s.live k = none →
      (program k call).Cooperates exec (Rely k) (Guar k) (Adm call) (post k call s.world) s.world)
    (admissible : ∀ k op thread, (Threads.step exec program signal s).1 = .performed k op →
      s.live k = some thread → Adm thread.call op s.world) :
    (Threads.step exec program signal s).2.Cooperating exec Rely Guar Adm post := by
  obtain ⟨world, live⟩ := s
  cases signal with
  | start k call =>
    cases running : live k with
    | some thread => simpa [Threads.step, running] using h
    | none =>
      intro k' thread isThread
      simp only [Threads.step, running] at isThread ⊢
      by_cases same : k' = k
      · subst same
        rw [Function.update_self] at isThread
        obtain rfl := Option.some.inj isThread
        exact started k' call rfl running
      · rw [Function.update_of_ne same] at isThread
        exact h k' thread isThread
  | kill k =>
    intro k' thread isThread
    simp only [Threads.step] at isThread ⊢
    by_cases same : k' = k
    · subst same
      rw [Function.update_self] at isThread
      cases isThread
    · rw [Function.update_of_ne same] at isThread
      exact h k' thread isThread
  | next k c =>
    cases running : live k with
    | none => simpa [Threads.step, running] using h
    | some thread =>
      obtain ⟨call, begun, p⟩ := thread
      cases p with
      | ret a =>
        intro k' thread isThread
        simp only [Threads.step, running] at isThread ⊢
        by_cases same : k' = k
        · subst same
          rw [Function.update_self] at isThread
          cases isThread
        · rw [Function.update_of_ne same] at isThread
          exact h k' thread isThread
      | call op rest =>
        have isAdmissible : Adm call op world :=
          admissible k op _ (by simp [Threads.step, running]) running
        obtain ⟨kept, continues⟩ := h k _ running world (refl k world) isAdmissible c
        intro k' thread isThread
        simp only [Threads.step, running] at isThread ⊢
        by_cases same : k' = k
        · subst same
          rw [Function.update_self] at isThread
          obtain rfl := Option.some.inj isThread
          exact continues
        · rw [Function.update_of_ne same] at isThread
          exact (h k' thread isThread).rely (trans k')
            (compatible k k' _ _ (fun equal => same equal.symm) kept)

/-- The thread of a running call after a signal was there before, or was just started. -/
theorem live_step (signal : ThreadSignal κ π χ) {k : κ} {thread : Thread π σ Op Reply α}
    (running : (step exec program signal s).2.live k = some thread) :
    (∃ before, s.live k = some before ∧ before.call = thread.call ∧ before.begun = thread.begun) ∨
      signal = .start k thread.call ∧ s.world = thread.begun := by
  obtain ⟨world, live⟩ := s
  cases signal with
  | start k' call =>
    cases busy : live k' with
    | some _ =>
      simp only [step, busy] at running
      exact .inl ⟨thread, running, rfl, rfl⟩
    | none =>
      simp only [step, busy] at running
      by_cases same : k = k'
      · subst same
        rw [Function.update_self] at running
        obtain rfl := Option.some.inj running
        exact .inr ⟨rfl, rfl⟩
      · rw [Function.update_of_ne same] at running
        exact .inl ⟨thread, running, rfl, rfl⟩
  | kill k' =>
    simp only [step] at running
    by_cases same : k = k'
    · subst same
      rw [Function.update_self] at running
      cases running
    · rw [Function.update_of_ne same] at running
      exact .inl ⟨thread, running, rfl, rfl⟩
  | next k' c =>
    cases busy : live k' with
    | none =>
      simp only [step, busy] at running
      exact .inl ⟨thread, running, rfl, rfl⟩
    | some thread' =>
      obtain ⟨call, begun, p⟩ := thread'
      cases p with
      | ret a =>
        simp only [step, busy] at running
        by_cases same : k = k'
        · subst same
          rw [Function.update_self] at running
          cases running
        · rw [Function.update_of_ne same] at running
          exact .inl ⟨thread, running, rfl, rfl⟩
      | call op rest =>
        simp only [step, busy] at running
        by_cases same : k = k'
        · subst same
          rw [Function.update_self] at running
          obtain rfl := Option.some.inj running
          exact .inl ⟨_, busy, rfl, rfl⟩
        · rw [Function.update_of_ne same] at running
          exact .inl ⟨thread, running, rfl, rfl⟩

/-- A running call was started, in the world that it found. -/
theorem started {init : Threads κ π σ Op Reply α → Prop} {h : List (ThreadEvent κ π σ χ Op Reply α)}
    (run : Run (step exec program) init h s) (idle : ∀ s, init s → ∀ k, s.live k = none) {k : κ}
    {thread : Thread π σ Op Reply α} (running : s.live k = some thread) :
    ∃ e ∈ h, e.input = .start k thread.call ∧ e.pre.world = thread.begun := by
  induction run generalizing thread with
  | start s isInit =>
    rw [idle s isInit k] at running
    cases running
  | @call h s signal before ih =>
    rcases live_step signal running with ⟨thread', running', sameCall, sameWorld⟩ | ⟨isStart, found⟩
    · obtain ⟨e, he, isStart, found⟩ := ih running'
      rw [sameCall] at isStart
      exact ⟨e, List.mem_append_left _ he, isStart, found.trans sameWorld⟩
    · exact ⟨_, List.mem_append_right _ (List.mem_singleton.mpr rfl), isStart, found⟩

/-- A running call that is given its turn returns after finitely many operations. -/
theorem finishes (k : κ) (choices : Nat → χ) (s : Threads κ π σ Op Reply α) :
    ∃ n, (execute (Threads.step exec program)
      ((List.range n).map fun i => ThreadSignal.next k (choices i)) s).2.live k = none := by
  obtain ⟨world, live⟩ := s
  cases running : live k with
  | none => exact ⟨0, running⟩
  | some thread =>
    obtain ⟨call, begun, p⟩ := thread
    induction p generalizing world live choices with
    | ret a =>
      refine ⟨1, ?_⟩
      simp [execute, Threads.step, running]
    | call op rest ih =>
      obtain ⟨n, finished⟩ := ih (exec op (choices 0) world).2 (fun i => choices (i + 1))
        (exec op (choices 0) world).1
        (Function.update live k (some ⟨call, begun, rest (exec op (choices 0) world).2⟩))
        (Function.update_self _ _ _)
      refine ⟨n + 1, ?_⟩
      rw [List.range_succ_eq_map, List.map_cons, List.map_map, execute]
      simpa [Threads.step, running, Function.comp_def] using finished

end Threads

end Prometheus.Machine
