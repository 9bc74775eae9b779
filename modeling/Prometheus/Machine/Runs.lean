import Mathlib.Data.List.Basic
import Mathlib.Data.List.Infix
import Mathlib.Data.List.DropRight

/-!
# The longest run of equal items

One pass over a list keeps the last item, the length of the run that ends in it and the length of
the longest run so far. A run is maximal if neither neighbour is equal to its items; there is a
maximal run of a length or more exactly if there is a run of that length.
-/

namespace Prometheus.Machine

section Runs

variable {α : Type}

/-- What the pass keeps. -/
structure RunCount (α : Type) where
  previous : Option α
  current : Nat
  longest : Nat

/-- Before the first item. -/
def RunCount.start : RunCount α := ⟨none, 0, 0⟩

/-- The items end in the counted run, and none is longer than the longest. -/
structure RunCount.Counts (count : RunCount α) (items : List α) : Prop where
  previous : count.previous = items.getLast?
  current : ∀ n a, List.replicate (n + 1) a <:+ items ↔
    count.previous = some a ∧ n + 1 ≤ count.current
  longest : ∀ n, (∃ a, List.replicate (n + 1) a <:+: items) ↔ n + 1 ≤ count.longest

theorem RunCount.counts_start : (RunCount.start : RunCount α).Counts [] where
  previous := rfl
  current n a := by
    rw [List.suffix_nil]
    simp [List.replicate_succ, start]
  longest n := by
    simp [List.infix_nil, List.replicate_succ, start]

theorem replicate_suffix_concat {items : List α} {a b : α} {n : Nat} :
    List.replicate (n + 1) a <:+ items ++ [b] ↔ a = b ∧ List.replicate n a <:+ items := by
  rw [List.replicate_succ', List.suffix_concat_iff]
  constructor
  · rintro (empty | ⟨rest, same, isSuffix⟩)
    · simp at empty
    · obtain ⟨rfl, last⟩ := List.append_inj' same rfl
      exact ⟨List.singleton_inj.mp last, isSuffix⟩
  · rintro ⟨rfl, isSuffix⟩
    exact .inr ⟨_, rfl, isSuffix⟩

variable [DecidableEq α]

/-- One turn of the pass. -/
def RunCount.next (count : RunCount α) (a : α) : RunCount α :=
  let current := if count.previous = some a then count.current + 1 else 1
  { previous := some a
    current
    longest := if count.longest < current then current else count.longest }

/-- A step of the pass keeps the counts. -/
theorem RunCount.Counts.next {count : RunCount α} {items : List α} (h : count.Counts items) (a : α) :
    (count.next a).Counts (items ++ [a]) := by
  have ends (n : Nat) (b : α) : List.replicate (n + 1) b <:+ items ++ [a] ↔
      b = a ∧ n + 1 ≤ (count.next a).current := by
    rw [replicate_suffix_concat]
    refine and_congr_right fun same => ?_
    subst same
    by_cases repeated : count.previous = some b
    · simp only [RunCount.next, if_pos repeated]
      cases n with
      | zero => simp
      | succ n =>
        rw [h.current n b]
        simp [repeated]
    · simp only [RunCount.next, if_neg repeated]
      cases n with
      | zero => simp
      | succ n =>
        rw [h.current n b]
        simp [repeated]
  refine ⟨?_, fun n b => ?_, fun n => ?_⟩
  · rw [List.getLast?_concat]
    rfl
  · rw [ends]
    exact and_congr_left' ⟨fun same => congrArg some same.symm, fun same => (Option.some.inj same).symm⟩
  · have grown : n + 1 ≤ (count.next a).longest ↔
        n + 1 ≤ count.longest ∨ n + 1 ≤ (count.next a).current := by
      simp only [RunCount.next]
      split_ifs <;> omega
    rw [grown, ← h.longest]
    constructor
    · rintro ⟨b, isRun⟩
      rcases List.infix_concat_iff.mp isRun with isSuffix | isInfix
      · exact .inr ((ends n b).mp isSuffix).2
      · exact .inl ⟨b, isInfix⟩
    · rintro (⟨b, isRun⟩ | long)
      · exact ⟨b, List.infix_concat_iff.mpr (.inr isRun)⟩
      · exact ⟨a, List.infix_concat_iff.mpr (.inl ((ends n a).mpr ⟨rfl, long⟩))⟩

/-- The whole pass. -/
theorem RunCount.counts_foldl (items : List α) :
    (items.foldl RunCount.next RunCount.start).Counts items := by
  induction items using List.reverseRecOn with
  | nil => exact counts_start
  | append_singleton items a ih =>
    rw [List.foldl_append]
    exact ih.next a

/-- A run of `n` equal items whose neighbours are others. -/
def IsMaximalRun (items front : List α) (n : Nat) (a : α) (back : List α) : Prop :=
  items = front ++ List.replicate n a ++ back ∧ front.getLast? ≠ some a ∧ back.head? ≠ some a

/-- A run is part of a maximal one. -/
theorem exists_maximalRun_iff {items : List α} {n : Nat} {a : α} :
    List.replicate n a <:+: items ↔ ∃ front m back, n ≤ m ∧ IsMaximalRun items front m a back := by
  constructor
  · rintro ⟨before, after, rfl⟩
    let p : α → Bool := fun b => decide (b = a)
    have left : before.rtakeWhile p = List.replicate (before.rtakeWhile p).length a :=
      List.eq_replicate_of_mem fun b hb => of_decide_eq_true (List.mem_rtakeWhile_imp (p := p) hb)
    have right : after.takeWhile p = List.replicate (after.takeWhile p).length a :=
      List.eq_replicate_of_mem fun b hb => of_decide_eq_true (List.mem_takeWhile_imp (p := p) hb)
    refine ⟨before.rdropWhile p, (before.rtakeWhile p).length + n + (after.takeWhile p).length,
      after.dropWhile p, by omega, ?_, ?_, ?_⟩
    · rw [List.replicate_add, List.replicate_add, ← left, ← right]
      simp only [List.append_assoc, List.takeWhile_append_dropWhile]
      rw [← List.append_assoc (before.rdropWhile p), List.rdropWhile_append_rtakeWhile]
    · intro last
      have nonempty : before.rdropWhile p ≠ [] := by
        intro empty
        simp [empty] at last
      have stops := List.rdropWhile_last_not p before nonempty
      rw [List.getLast?_eq_some_getLast nonempty, Option.some.injEq] at last
      exact stops (decide_eq_true last)
    · intro first
      have stops := List.head?_dropWhile_not p after
      rw [first] at stops
      exact absurd stops (by simp [p])
  · rintro ⟨front, m, back, long, rfl, -, -⟩
    have part : List.replicate n a <+: List.replicate m a :=
      ⟨List.replicate (m - n) a, by rw [← List.replicate_add, Nat.add_sub_cancel' long]⟩
    exact part.isInfix.trans ⟨front, back, rfl⟩

end Runs

end Prometheus.Machine
