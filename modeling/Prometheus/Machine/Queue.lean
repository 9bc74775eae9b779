import Prometheus.Machine.Trace

/-!
# Waiting in a queue that is served in batches

A batch is the front of a list sorted by a key. `ahead` counts the items before a given one: it says
whether a batch selects the item, and with `Run.charge` how often batches can pass it over.
-/

namespace Prometheus.Machine

section Queue

variable {α β : Type} [LinearOrder β] (key : α → β)

/-- How many items of the queue come before an item. -/
def ahead (queue : List α) (item : α) : Nat := queue.countP fun a => decide (key a < key item)

variable {key}
variable {queue queue' : List α} {item : α} {n : Nat}

theorem ahead_perm (perm : queue.Perm queue') : ahead key queue item = ahead key queue' item :=
  perm.countP_eq _

theorem ahead_append (front back : List α) (item : α) :
    ahead key (front ++ back) item = ahead key front item + ahead key back item :=
  List.countP_append

/-- A batch selects an item of the queue exactly if fewer items are ahead of it than it has room
for. -/
theorem mem_take_iff (sorted : queue.Pairwise fun a b => key a ≤ key b) (queued : item ∈ queue)
    (distinct : ∀ a ∈ queue, key a = key item → a = item) :
    item ∈ queue.take n ↔ ahead key queue item < n := by
  have split := List.take_append_drop n queue
  have between := (List.pairwise_append.mp (split.symm ▸ sorted)).2.2
  have counted : ahead key queue item =
      ahead key (queue.take n) item + ahead key (queue.drop n) item := by
    rw [← ahead_append, split]
  constructor
  · intro selected
    have none : ahead key (queue.drop n) item = 0 := by
      refine List.countP_eq_zero.mpr fun a later => ?_
      rw [decide_eq_true_iff, not_lt]
      exact between item selected a later
    have some : ahead key (queue.take n) item < (queue.take n).length :=
      List.countP_lt_length_iff.mpr ⟨item, selected, by simp⟩
    have room := List.length_take_le n queue
    omega
  · intro few
    by_contra skipped
    have isLater : item ∈ queue.drop n :=
      (List.mem_append.mp (split.symm ▸ queued)).resolve_left skipped
    have all : ahead key (queue.take n) item = (queue.take n).length := by
      refine List.countP_eq_length.mpr fun a selected => decide_eq_true ?_
      refine lt_of_le_of_ne (between a selected item isLater) fun same => skipped ?_
      exact distinct a (List.mem_of_mem_take selected) same ▸ selected
    have full : (queue.take n).length = n := by
      have more := List.length_pos_of_mem isLater
      rw [List.length_drop] at more
      exact List.length_take_of_le (by omega)
    omega

/-- A batch that passes an item over is full, and of items ahead of it. -/
theorem full_of_not_mem_take (sorted : queue.Pairwise fun a b => key a ≤ key b)
    (queued : item ∈ queue) (distinct : ∀ a ∈ queue, key a = key item → a = item)
    (skipped : item ∉ queue.take n) :
    (queue.take n).length = n ∧ ∀ a ∈ queue.take n, key a < key item := by
  have split := List.take_append_drop n queue
  have isLater : item ∈ queue.drop n :=
    (List.mem_append.mp (split.symm ▸ queued)).resolve_left skipped
  have between := (List.pairwise_append.mp (split.symm ▸ sorted)).2.2
  have more := List.length_pos_of_mem isLater
  rw [List.length_drop] at more
  refine ⟨List.length_take_of_le (by omega), fun a selected => ?_⟩
  refine lt_of_le_of_ne (between a selected item isLater) fun same => skipped ?_
  exact distinct a (List.mem_of_mem_take selected) same ▸ selected

end Queue

/-- A count that misses an item another count has is smaller. -/
theorem countP_lt_countP {α : Type} {p q : α → Bool} {l : List α} (le : ∀ a ∈ l, p a → q a) {a : α}
    (mem : a ∈ l) (miss : p a = false) (hit : q a = true) : l.countP p < l.countP q := by
  obtain ⟨before, after, rfl⟩ := List.append_of_mem mem
  rw [List.forall_mem_append, List.forall_mem_cons] at le
  have first := List.countP_mono_left le.1
  have last := List.countP_mono_left le.2.2
  rw [List.countP_append, List.countP_append, List.countP_cons_of_neg (by simp [miss]),
    List.countP_cons_of_pos hit]
  omega

section Charge

variable {σ ι ο : Type} {step : ι → σ → ο × σ} {init : σ → Prop}

/-- Where every step's gain is paid for by the potential it lowers or by its cost, a run gains no
more than its first potential and its costs. -/
theorem Run.charge {h : List (Event σ ι ο)} {s : σ} (run : Run step init h s) (Inv : σ → Prop)
    (Allowed : Event σ ι ο → Prop) (potential : σ → Nat) (gain cost : Event σ ι ο → Bool) {first : Nat}
    (hstart : ∀ s, init s → Inv s ∧ potential s ≤ first)
    (hcall : ∀ s i, Inv s → Allowed (callEvent step s i) → Inv (step i s).2)
    (hstep : ∀ s i, Inv s → Allowed (callEvent step s i) →
      (gain (callEvent step s i)).toNat + potential (step i s).2 ≤
        potential s + (cost (callEvent step s i)).toNat)
    (allowed : ∀ e ∈ h, Allowed e) :
    Inv s ∧ h.countP gain + potential s ≤ first + h.countP cost := by
  induction run with
  | start s isStart => simpa using hstart s isStart
  | @call h s i run ih =>
    obtain ⟨inv, charged⟩ := ih fun e he => allowed e (List.mem_append_left _ he)
    have last := allowed _ (List.mem_append_right _ List.mem_cons_self)
    have paid := hstep s i inv last
    have one : ∀ p : Event σ ι ο → Bool, [callEvent step s i].countP p =
        (p (callEvent step s i)).toNat := by
      intro p
      rw [List.countP_singleton]
      cases p (callEvent step s i) <;> rfl
    refine ⟨hcall s i inv last, ?_⟩
    rw [List.countP_append, List.countP_append, one, one]
    omega

end Charge

end Prometheus.Machine
