import Mathlib

/-!
# High-water clocks

A store keeps the latest time it has accepted, or nothing before its first write.
-/

namespace Prometheus.Machine

/-- A high-water mark is not behind an earlier one. -/
def ClockLe (earlier later : Option Int) : Prop :=
  ∀ t, earlier = some t → ∃ t', later = some t' ∧ t ≤ t'

theorem ClockLe.refl (clock : Option Int) : ClockLe clock clock :=
  fun t isClock => ⟨t, isClock, le_refl t⟩

theorem ClockLe.trans {a b c : Option Int} (hab : ClockLe a b) (hbc : ClockLe b c) :
    ClockLe a c := by
  intro t isClock
  obtain ⟨t', isLater, first⟩ := hab t isClock
  obtain ⟨t'', isLatest, second⟩ := hbc t' isLater
  exact ⟨t'', isLatest, le_trans first second⟩

/-- A clock that is set to a time not behind it. -/
theorem ClockLe.of_advanced {clock clock' : Option Int} {now : Int}
    (notBehind : ∃ stored, clock = some stored ∧ stored ≤ now) (isNow : clock' = some now) :
    ClockLe clock clock' := by
  obtain ⟨stored, isStored, notEarlier⟩ := notBehind
  intro t isClock
  obtain rfl := Option.some.inj (isStored.symm.trans isClock)
  exact ⟨now, isNow, notEarlier⟩

/-- `INSERT OR IGNORE` of a first time leaves a clock that runs. -/
theorem ClockLe.getD (clock : Option Int) (first : Int) : ClockLe clock (some (clock.getD first)) := by
  intro t isClock
  exact ⟨t, by rw [isClock]; rfl, le_refl t⟩

end Prometheus.Machine
