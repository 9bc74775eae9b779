import Mathlib

/-!
# Tables with constraints

A table holds the rows that satisfy its `CHECK` constraints, no two of which share a key declared
`PRIMARY KEY` or `UNIQUE`. Both facts are fields, so that a table that breaks its schema cannot be
built: the statements that write to a table return `none` where the engine reports a constraint
violation.
-/

namespace Prometheus.Machine

variable {Row : Type}

/-- The constraints of one table. -/
structure Schema (Row : Type) where
  /-- The `CHECK` constraints of a row. -/
  check : Row → Bool
  /-- Two rows agree on a declared key. -/
  conflict : Row → Row → Bool
  symm : ∀ a b, conflict a b = conflict b a

/-- The rows of a table, in insertion order. -/
structure Table (sch : Schema Row) where
  rows : List Row
  checked : ∀ r ∈ rows, sch.check r = true
  unique : rows.Pairwise fun a b => sch.conflict a b = false

namespace Table

variable {sch : Schema Row}

@[ext] theorem ext {t t' : Table sch} (h : t.rows = t'.rows) : t = t' := by
  cases t; cases t'; simpa using h

/-- A table with no rows. -/
def empty : Table sch := ⟨[], by simp, List.Pairwise.nil⟩

/-- The first row that satisfies a condition (`SELECT … fetchone()`). -/
def select (t : Table sch) (p : Row → Bool) : Option Row := t.rows.find? p

/-- `SELECT COUNT(*)`. -/
def count (t : Table sch) : Nat := t.rows.length

/-- `INSERT`: refused when the row breaks a `CHECK` or shares a key with a stored row. -/
def insert (t : Table sch) (r : Row) : Option (Table sch) :=
  if h : sch.check r = true ∧ ∀ x ∈ t.rows, sch.conflict x r = false then
    some ⟨t.rows ++ [r], by
      intro x hx
      rcases List.mem_append.mp hx with hx | hx
      · exact t.checked x hx
      · rw [List.mem_singleton.mp hx]; exact h.1,
      List.pairwise_append.mpr ⟨t.unique, List.pairwise_singleton _ _, by
        intro x hx y hy
        rw [List.mem_singleton.mp hy]
        exact h.2 x hx⟩⟩
  else none

/-- `DELETE … WHERE p`. -/
def delete (t : Table sch) (p : Row → Bool) : Table sch :=
  ⟨t.rows.filter (fun r => !p r), fun r hr => t.checked r (List.mem_filter.mp hr).1,
    t.unique.sublist List.filter_sublist⟩

/-- `UPDATE … SET f WHERE p`: refused when the new rows break the schema. -/
def update (t : Table sch) (p : Row → Bool) (f : Row → Row) : Option (Table sch) :=
  let rows := t.rows.map fun r => if p r then f r else r
  if h : (∀ r ∈ rows, sch.check r = true) ∧ rows.Pairwise fun a b => sch.conflict a b = false then
    some ⟨rows, h.1, h.2⟩
  else none

theorem insert_eq_some {t t' : Table sch} {r : Row} :
    t.insert r = some t' ↔
      sch.check r = true ∧ (∀ x ∈ t.rows, sch.conflict x r = false) ∧
        t'.rows = t.rows ++ [r] := by
  unfold insert
  split
  · rename_i h
    constructor
    · intro he
      obtain rfl := Option.some.inj he
      exact ⟨h.1, h.2, rfl⟩
    · rintro ⟨-, -, hr⟩
      exact congrArg some (Table.ext hr.symm)
  · rename_i h
    constructor
    · intro he; cases he
    · rintro ⟨hc, hx, -⟩; exact absurd ⟨hc, hx⟩ h

/-- A row that shares a key with a stored one is refused. -/
theorem insert_of_conflict {t : Table sch} {x r : Row} (stored : x ∈ t.rows)
    (conflict : sch.conflict x r = true) : t.insert r = none := by
  cases inserted : t.insert r with
  | none => rfl
  | some t' =>
    have apart := (insert_eq_some.mp inserted).2.1 x stored
    rw [conflict] at apart
    cases apart

theorem update_eq_some {t t' : Table sch} {p : Row → Bool} {f : Row → Row}
    (h : t.update p f = some t') : t'.rows = t.rows.map fun r => if p r then f r else r := by
  unfold update at h
  dsimp only at h
  split at h
  · obtain rfl := Option.some.inj h
    rfl
  · cases h

@[simp] theorem rows_empty : (empty : Table sch).rows = [] := rfl

@[simp] theorem rows_delete (t : Table sch) (p : Row → Bool) :
    (t.delete p).rows = t.rows.filter (fun r => !p r) := rfl

theorem mem_delete {t : Table sch} {p : Row → Bool} {r : Row} :
    r ∈ (t.delete p).rows ↔ r ∈ t.rows ∧ p r = false := by
  simp

theorem select_some {t : Table sch} {p : Row → Bool} {r : Row} (h : t.select p = some r) :
    r ∈ t.rows ∧ p r = true :=
  ⟨List.mem_of_find?_eq_some h, List.find?_some h⟩

theorem select_none {t : Table sch} {p : Row → Bool} :
    t.select p = none ↔ ∀ r ∈ t.rows, p r = false := by
  simp [select]

/-- Two stored rows that share a key are the same row. -/
theorem eq_of_conflict (t : Table sch) {a b : Row} (ha : a ∈ t.rows) (hb : b ∈ t.rows)
    (h : sch.conflict a b = true) : a = b := by
  by_contra hne
  have : Std.Symm fun a b => sch.conflict a b = false :=
    ⟨fun a b hab => (sch.symm b a).trans hab⟩
  have hab := t.unique.forall ha hb hne
  simp [hab] at h

/-- The rows that a full key selects are one row. -/
theorem filter_eq_singleton (t : Table sch) {p : Row → Bool} {r : Row} (stored : r ∈ t.rows)
    (selected : p r = true) (key : ∀ x, p x = true → sch.conflict x r = true) :
    t.rows.filter p = [r] := by
  obtain ⟨before, after, split⟩ := List.append_of_mem stored
  have unique := t.unique
  rw [split, List.pairwise_append, List.pairwise_cons] at unique
  obtain ⟨-, ⟨later, -⟩, earlier⟩ := unique
  have noneBefore : before.filter p = [] := by
    apply List.filter_eq_nil_iff.mpr
    intro x hx found
    have apart := earlier x hx r List.mem_cons_self
    rw [key x found] at apart
    cases apart
  have noneAfter : after.filter p = [] := by
    apply List.filter_eq_nil_iff.mpr
    intro x hx found
    have apart := later x hx
    rw [sch.symm, key x found] at apart
    cases apart
  rw [split, List.filter_append, List.filter_cons_of_pos selected, noneBefore, noneAfter]
  rfl

/-- A row found by a full key is the row that is stored under it. -/
theorem select_eq_some (t : Table sch) {p : Row → Bool}
    (hp : ∀ a b, p a = true → p b = true → sch.conflict a b = true) {r : Row} :
    t.select p = some r ↔ r ∈ t.rows ∧ p r = true := by
  constructor
  · exact select_some
  · rintro ⟨hr, hpr⟩
    cases hs : t.select p with
    | none => rw [select_none.mp hs r hr] at hpr; simp at hpr
    | some x =>
      obtain ⟨hx, hpx⟩ := select_some hs
      rw [t.eq_of_conflict hx hr (hp x r hpx hpr)]

end Table

end Prometheus.Machine
