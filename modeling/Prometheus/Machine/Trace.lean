import Mathlib

/-!
# Runs of a step machine

A machine is a function `step : ι → σ → ο × σ`: a call `ι` on a state `σ` gives an output and the
next state. Everything that is not decided by the state (a clock reading, a random token, an
injected fault, which process calls) is part of the call. `Run` collects the calls executed so far
together with the state they left, so that a claim about every moment of a run is a claim about
every `Run`.

The rules below turn a statement about one step into one about a run: `Run.invariant` for the
state, `Run.events` for each executed call, `Run.mark` and `Run.pairwise` for what an earlier call
leaves behind for all later ones.
-/

namespace Prometheus.Machine

variable {σ ι ο : Type}

/-- One executed call: the state it found, what it was given, what it answered and what it left. -/
structure Event (σ ι ο : Type) where
  pre : σ
  input : ι
  output : ο
  post : σ

/-- An event with its call seen as another machine's. -/
def Event.mapInput {ι' : Type} (f : ι → ι') (e : Event σ ι ο) : Event σ ι' ο :=
  ⟨e.pre, f e.input, e.output, e.post⟩

/-- The event of calling `i` in state `s`. -/
def callEvent (step : ι → σ → ο × σ) (s : σ) (i : ι) : Event σ ι ο :=
  ⟨s, i, (step i s).1, (step i s).2⟩

/-- The histories a machine can produce from an initial state, oldest call first. -/
inductive Run (step : ι → σ → ο × σ) (init : σ → Prop) : List (Event σ ι ο) → σ → Prop
  | start (s : σ) : init s → Run step init [] s
  | call {h : List (Event σ ι ο)} {s : σ} (i : ι) :
      Run step init h s → Run step init (h ++ [callEvent step s i]) (step i s).2

/-- Execute a list of calls. -/
def execute (step : ι → σ → ο × σ) : List ι → σ → List (Event σ ι ο) × σ
  | [], s => ([], s)
  | i :: is, s =>
      let rest := execute step is (step i s).2
      (callEvent step s i :: rest.1, rest.2)

theorem execute_append (step : ι → σ → ο × σ) (is js : List ι) (s : σ) :
    execute step (is ++ js) s =
      ((execute step is s).1 ++ (execute step js (execute step is s).2).1,
        (execute step js (execute step is s).2).2) := by
  induction is generalizing s with
  | nil => rfl
  | cons i is ih => simp [execute, ih]

@[simp] theorem length_execute (step : ι → σ → ο × σ) (is : List ι) (s : σ) :
    (execute step is s).1.length = is.length := by
  induction is generalizing s with
  | nil => rfl
  | cons i is ih => simp [execute, ih]

namespace Run

variable {step : ι → σ → ο × σ} {init : σ → Prop}

theorem append {h : List (Event σ ι ο)} {s : σ} (r : Run step init h s) :
    ∀ is : List ι, Run step init (h ++ (execute step is s).1) (execute step is s).2 := by
  intro is
  induction is generalizing h s with
  | nil => simpa [execute] using r
  | cons i is ih =>
    have := ih (r.call i)
    simpa [execute, callEvent] using this

/-- Executing any calls from an initial state is a run. -/
theorem of_execute {s : σ} (hs : init s) (is : List ι) :
    Run step init (execute step is s).1 (execute step is s).2 := by
  have begun : Run step init [] s := .start s hs
  simpa using begun.append is

/-- An invariant of the state: it holds initially and every step keeps it. -/
theorem invariant {h : List (Event σ ι ο)} {s : σ} (r : Run step init h s) (Inv : σ → Prop)
    (hstart : ∀ s, init s → Inv s) (hcall : ∀ s i, Inv s → Inv (step i s).2) : Inv s := by
  induction r with
  | start s hs => exact hstart s hs
  | call i _ ih => exact hcall _ i ih

/-- Every event of a run is a step taken from a state that satisfies the invariant. -/
theorem events {h : List (Event σ ι ο)} {s : σ} (r : Run step init h s) (Inv : σ → Prop)
    (hstart : ∀ s, init s → Inv s) (hcall : ∀ s i, Inv s → Inv (step i s).2)
    {P : Event σ ι ο → Prop} (hevent : ∀ s i, Inv s → P (callEvent step s i)) :
    ∀ e ∈ h, P e := by
  induction r with
  | start => simp
  | call i r ih =>
    intro e he
    rcases List.mem_append.mp he with he | he
    · exact ih e he
    · rw [List.mem_singleton.mp he]
      exact hevent _ i (r.invariant Inv hstart hcall)

/-- Every event of a run is the step its input takes from the state it found. -/
theorem steps {h : List (Event σ ι ο)} {s : σ} (r : Run step init h s) :
    ∀ e ∈ h, e = callEvent step e.pre e.input :=
  r.events (fun _ => True) (fun _ _ => trivial) (fun _ _ _ => trivial) (fun _ _ _ => rfl)

/-- What an event leaves behind, and every later step keeps, holds of the current state. -/
theorem mark {h : List (Event σ ι ο)} {s : σ} (r : Run step init h s) (Inv : σ → Prop)
    (hstart : ∀ s, init s → Inv s) (hcall : ∀ s i, Inv s → Inv (step i s).2)
    {Mark : Event σ ι ο → σ → Prop}
    (hleft : ∀ s i, Inv s → Mark (callEvent step s i) (step i s).2)
    (hkept : ∀ e s i, Inv s → Mark e s → Mark e (step i s).2) : ∀ e ∈ h, Mark e s := by
  induction r with
  | start => simp
  | call i r ih =>
    have inv := r.invariant Inv hstart hcall
    intro e he
    rcases List.mem_append.mp he with he | he
    · exact hkept e _ i inv (ih e he)
    · rw [List.mem_singleton.mp he]
      exact hleft _ i inv

/-- For two events of a run, the later one finds what the earlier one left behind. -/
theorem pairwise {h : List (Event σ ι ο)} {s : σ} (r : Run step init h s) (Inv : σ → Prop)
    (hstart : ∀ s, init s → Inv s) (hcall : ∀ s i, Inv s → Inv (step i s).2)
    {Mark : Event σ ι ο → σ → Prop}
    (hleft : ∀ s i, Inv s → Mark (callEvent step s i) (step i s).2)
    (hkept : ∀ e s i, Inv s → Mark e s → Mark e (step i s).2)
    {P : Event σ ι ο → Event σ ι ο → Prop}
    (hfound : ∀ e s i, Inv s → Mark e s → P e (callEvent step s i)) : h.Pairwise P := by
  induction r with
  | start => exact List.Pairwise.nil
  | call i r ih =>
    have inv := r.invariant Inv hstart hcall
    have marks := r.mark Inv hstart hcall hleft hkept
    refine List.pairwise_append.mpr ⟨ih, List.pairwise_singleton _ _, ?_⟩
    intro e he e' he'
    rw [List.mem_singleton.mp he']
    exact hfound e _ i inv (marks e he)

/-- The last event of a run is a step from the end of the run before it. -/
theorem last {h : List (Event σ ι ο)} {e : Event σ ι ο} {s : σ} (r : Run step init (h ++ [e]) s) :
    Run step init h e.pre ∧ e = callEvent step e.pre e.input ∧ s = e.post := by
  generalize hh : h ++ [e] = h' at r
  cases r with
  | start => simp at hh
  | call i r =>
    obtain ⟨rfl, he⟩ := List.append_inj' hh rfl
    obtain rfl := List.singleton_inj.mp he
    exact ⟨r, rfl, rfl⟩

/-- The calls before an event of a run are a run that ends where the event starts. -/
theorem before {h₁ h₂ : List (Event σ ι ο)} {e : Event σ ι ο} {s : σ}
    (r : Run step init (h₁ ++ e :: h₂) s) :
    Run step init h₁ e.pre ∧ e = callEvent step e.pre e.input := by
  induction h₂ using List.reverseRecOn generalizing s with
  | nil => exact ⟨r.last.1, r.last.2.1⟩
  | append_singleton h₂ e' ih =>
    have r' : Run step init ((h₁ ++ e :: h₂) ++ [e']) s := by simpa using r
    exact ih r'.last.1

/-- What holds right after an event, and is kept by every call, holds of all calls since. -/
theorem since {h₁ h₂ : List (Event σ ι ο)} {e : Event σ ι ο} {s : σ}
    (r : Run step init (h₁ ++ e :: h₂) s) (Inv : σ → Prop) (hstart : ∀ s, init s → Inv s)
    (hcall : ∀ s i, Inv s → Inv (step i s).2) (P : List (Event σ ι ο) → σ → Prop)
    (hleft : Inv e.pre → P [] e.post)
    (hkept : ∀ later s i, Inv s → P later s → P (later ++ [callEvent step s i]) (step i s).2) :
    P h₂ s := by
  induction h₂ using List.reverseRecOn generalizing s with
  | nil =>
    obtain ⟨r', -, rfl⟩ := r.last
    exact hleft (r'.invariant Inv hstart hcall)
  | append_singleton h₂ e' ih =>
    have r' : Run step init ((h₁ ++ e :: h₂) ++ [e']) s := by simpa using r
    obtain ⟨rest, isStep, rfl⟩ := r'.last
    have kept := hkept h₂ e'.pre e'.input (rest.invariant Inv hstart hcall) (ih rest)
    rw [isStep]
    exact kept

/-- A machine whose calls are calls of another machine has only runs of that machine. -/
theorem map {ι' : Type} {step' : ι' → σ → ο × σ} (f : ι → ι')
    (hstep : ∀ i s, step i s = step' (f i) s) {h : List (Event σ ι ο)} {s : σ}
    (r : Run step init h s) : Run step' init (h.map (Event.mapInput f)) s := by
  induction r with
  | start s hs => exact .start s hs
  | @call h s i r ih =>
    have next := ih.call (f i)
    rw [List.map_append, List.map_singleton, hstep]
    have same : Event.mapInput f (callEvent step s i) = callEvent step' s (f i) := by
      simp [Event.mapInput, callEvent, hstep]
    rw [same]
    exact next

end Run

end Prometheus.Machine
