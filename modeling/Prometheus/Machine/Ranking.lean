import Mathlib.Data.Finset.Card
import Mathlib.Data.List.Destutter
import Mathlib.Data.List.Sort

/-!
# The distinct items of a list in their order

Items are compared by a key that tells them apart. The rank of an item is the number of distinct
items below it. Sorting and then dropping the repeats puts every item at its rank, so that what
stands at an index depends on the set of the items alone.
-/

namespace Prometheus.Machine

section Ranking

variable {α β : Type} [LinearOrder β] (key : α → β)

/-- The items sorted by their key. -/
def sortedBy (items : List α) : List α := items.mergeSort fun a b => decide (key a ≤ key b)

theorem pairwise_sortedBy (items : List α) :
    (sortedBy key items).Pairwise fun a b => key a ≤ key b := by
  have sorted : (sortedBy key items).Pairwise fun a b => decide (key a ≤ key b) = true := by
    refine List.pairwise_mergeSort (fun a b c ab bc => ?_) (fun a b => ?_) items
    · exact decide_eq_true ((of_decide_eq_true ab).trans (of_decide_eq_true bc))
    · rw [Bool.or_eq_true, decide_eq_true_eq, decide_eq_true_eq]
      exact le_total _ _
  exact sorted.imp of_decide_eq_true

variable [DecidableEq α]

/-- The items sorted by their key, without repeats. -/
def sortedDistinct (items : List α) : List α := (sortedBy key items).destutter (· ≠ ·)

/-- How many distinct items are below the given one. -/
def rank (items : List α) (item : α) : Nat :=
  (items.toFinset.filter fun a => key a < key item).card

variable {key}

theorem sortedDistinct_eq_dedup (injective : Function.Injective key) (items : List α) :
    sortedDistinct key items = (sortedBy key items).dedup := by
  have antisymm : Std.Antisymm fun a b : α => key a ≤ key b :=
    ⟨fun _ _ ab ba => injective (le_antisymm ab ba)⟩
  exact (pairwise_sortedBy key items).destutter_eq_dedup

theorem mem_sortedDistinct (injective : Function.Injective key) {items : List α} {a : α} :
    a ∈ sortedDistinct key items ↔ a ∈ items := by
  rw [sortedDistinct_eq_dedup injective, List.mem_dedup, sortedBy, List.mem_mergeSort]

/-- The keys increase strictly. -/
theorem increasing_sortedDistinct (injective : Function.Injective key) (items : List α) :
    (sortedDistinct key items).Pairwise fun a b => key a < key b := by
  rw [sortedDistinct_eq_dedup injective]
  have sorted := (pairwise_sortedBy key items).sublist (List.dedup_sublist _)
  have distinct : ((sortedBy key items).dedup).Pairwise (· ≠ ·) := List.nodup_dedup _
  refine (sorted.and distinct).imp fun {a b} h => lt_of_le_of_ne h.1 fun same => ?_
  exact h.2 (injective same)

/-- In a list with increasing keys an item stands behind the items below it. -/
theorem getElem?_of_increasing {items : List α} (increasing : items.Pairwise (key · < key ·)) :
    ∀ (i : Nat) (item : α),
      items[i]? = some item ↔ item ∈ items ∧ items.countP (fun a => decide (key a < key item)) = i := by
  induction items with
  | nil => simp
  | cons first rest ih =>
    obtain ⟨below, increasing⟩ := List.pairwise_cons.mp increasing
    intro i item
    have none_below (h : item = first) : rest.countP (fun a => decide (key a < key item)) = 0 := by
      rw [List.countP_eq_zero]
      intro a ha
      rw [decide_eq_true_eq, h]
      exact lt_asymm (below a ha)
    cases i with
    | zero =>
      rw [List.getElem?_cons_zero, Option.some.injEq, List.countP_cons]
      constructor
      · rintro rfl
        refine ⟨List.mem_cons_self, ?_⟩
        rw [none_below rfl, if_neg (by simp)]
      · rintro ⟨mem, count⟩
        rcases List.mem_cons.mp mem with same | mem
        · exact same.symm
        · rw [if_pos (decide_eq_true (below item mem))] at count
          omega
    | succ i =>
      rw [List.getElem?_cons_succ, ih increasing, List.countP_cons]
      constructor
      · rintro ⟨mem, count⟩
        rw [if_pos (decide_eq_true (below item mem)), count]
        exact ⟨List.mem_cons_of_mem _ mem, rfl⟩
      · rintro ⟨mem, count⟩
        rcases List.mem_cons.mp mem with same | mem
        · rw [none_below same, if_neg (by simp [same])] at count
          omega
        · rw [if_pos (decide_eq_true (below item mem))] at count
          exact ⟨mem, by omega⟩

theorem toFinset_sortedDistinct (injective : Function.Injective key) (items : List α) :
    (sortedDistinct key items).toFinset = items.toFinset := by
  ext a
  rw [List.mem_toFinset, List.mem_toFinset, mem_sortedDistinct injective]

theorem nodup_sortedDistinct (injective : Function.Injective key) (items : List α) :
    (sortedDistinct key items).Nodup :=
  (increasing_sortedDistinct injective items).imp fun below same => below.ne (congrArg key same)

theorem countP_sortedDistinct (injective : Function.Injective key) (items : List α) (item : α) :
    (sortedDistinct key items).countP (fun a => decide (key a < key item)) =
      rank key items item := by
  have nodup := nodup_sortedDistinct injective items
  rw [rank, ← toFinset_sortedDistinct injective, List.countP_eq_length_filter,
    ← List.toFinset_card_of_nodup (nodup.filter _), List.toFinset_filter]
  simp only [decide_eq_true_eq]

/-- An item stands at its rank. -/
theorem getElem?_sortedDistinct (injective : Function.Injective key) {items : List α} {i : Nat}
    {item : α} :
    (sortedDistinct key items)[i]? = some item ↔ item ∈ items ∧ rank key items item = i := by
  rw [getElem?_of_increasing (increasing_sortedDistinct injective items),
    mem_sortedDistinct injective, countP_sortedDistinct injective]

theorem length_sortedDistinct (injective : Function.Injective key) (items : List α) :
    (sortedDistinct key items).length = items.toFinset.card := by
  rw [← toFinset_sortedDistinct injective,
    List.toFinset_card_of_nodup (nodup_sortedDistinct injective items)]

/-- Neither the order nor the repeats of the items matter. -/
theorem sortedDistinct_congr (injective : Function.Injective key) {items items' : List α}
    (same : ∀ a, a ∈ items ↔ a ∈ items') : sortedDistinct key items = sortedDistinct key items' := by
  have perm : (sortedDistinct key items).Perm (sortedDistinct key items') := by
    rw [List.perm_ext_iff_of_nodup (nodup_sortedDistinct injective items)
      (nodup_sortedDistinct injective items')]
    intro a
    rw [mem_sortedDistinct injective, mem_sortedDistinct injective, same]
  have antisymm : ∀ a b, key a < key b → key b < key a → a = b := fun _ _ ab ba =>
    absurd ba (lt_asymm ab)
  exact perm.eq_of_pairwise (fun a b _ _ => antisymm a b) (increasing_sortedDistinct injective items)
    (increasing_sortedDistinct injective items')

end Ranking

end Prometheus.Machine
