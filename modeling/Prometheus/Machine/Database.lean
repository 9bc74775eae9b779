import Prometheus.Codec.Bytes
import Prometheus.Machine.Table
import Prometheus.Machine.Transaction

/-!
# Databases with a catalog

A file that a program opens without knowing which version of its tables it holds. The catalog says
of every table what `PRAGMA table_info`, `table_list`, `index_list` and `foreign_key_list` report;
the rows obey the declared constraints. The statements are transactions, so that what a transaction
created, copied or dropped is gone again when a later statement raises.

`Name` and `Col` are the names of tables and columns that the statements of the program mention.
-/

namespace Prometheus.Machine

open Prometheus.Codec

/-! ## Values and rows -/

/-- A stored value. -/
inductive Value
  | null
  | integer (i : Int)
  | text (s : Str)
  | blob (b : Bytes)
  deriving DecidableEq, Repr

/-- The declared type of a column. -/
inductive ColumnType
  | integer | text | blob
  | other (name : String)
  deriving DecidableEq, Repr

/-- A value that a `STRICT` table can hold in a column of a type. -/
def Value.hasType : Value → ColumnType → Bool
  | .integer _, .integer => true
  | .text _, .text => true
  | .blob _, .blob => true
  | _, _ => false

/-- `length(value)`; zero where SQL has none. -/
def Value.length : Value → Nat
  | .text s => s.length
  | .blob b => b.length
  | _ => 0

/-- `a <= b` of two integers. -/
def Value.le : Value → Value → Bool
  | .integer a, .integer b => decide (a ≤ b)
  | _, _ => false

/-- `a < b` of two integers. -/
def Value.lt : Value → Value → Bool
  | .integer a, .integer b => decide (a < b)
  | _, _ => false

/-- A row of `PRAGMA table_info`. -/
structure Column (Col : Type) where
  name : Col
  type : ColumnType
  notNull : Bool
  /-- The column's place in the primary key, zero when it has none. -/
  primaryKey : Nat
  deriving DecidableEq, Repr

/-- What the pragmas report of a table. -/
structure Layout (Name Col : Type) where
  columns : List (Column Col)
  /-- Not a view. -/
  isTable : Bool
  strict : Bool
  /-- The columns of each unique index that is not partial. -/
  uniqueIndexes : List (List Col)
  /-- Each foreign key: the other table, the column here and the column there. -/
  foreignKeys : List (Name × Col × Col)
  deriving DecidableEq

variable {Name Col : Type} {ε : Type}

/-- The values of a row under its columns. -/
abbrev Row (Col : Type) := Col → Value

/-- The value of a column can be stored. -/
def Column.admits (column : Column Col) (row : Row Col) : Bool :=
  (row column.name).hasType column.type ||
    (decide (row column.name = .null) && !column.notNull && decide (column.primaryKey = 0))

/-- The columns whose values two rows cannot share: those of the primary key, and those of each
unique index. -/
def Layout.keys (layout : Layout Name Col) : List (List Col) :=
  ((layout.columns.filter fun c => c.primaryKey ≠ 0).map Column.name) :: layout.uniqueIndexes

/-- Two rows agree in columns none of which is `NULL`. -/
def agreeOn (columns : List Col) (a b : Row Col) : Bool :=
  !columns.isEmpty && columns.all fun c => decide (a c = b c) && decide (a c ≠ .null)

theorem agreeOn_comm (columns : List Col) (a b : Row Col) :
    agreeOn columns a b = agreeOn columns b a := by
  unfold agreeOn
  congr 1
  apply List.all_congr rfl
  intro c
  rw [Bool.eq_iff_iff]
  simp only [Bool.and_eq_true, decide_eq_true_eq]
  constructor
  · rintro ⟨same, notNull⟩
    exact ⟨same.symm, same ▸ notNull⟩
  · rintro ⟨same, notNull⟩
    exact ⟨same.symm, same ▸ notNull⟩

/-- The constraints of a `STRICT` table with a layout and `CHECK` clauses. -/
def Layout.schema (layout : Layout Name Col) (check : Row Col → Bool) : Schema (Row Col) where
  check row := layout.columns.all (fun c => c.admits row) && check row
  conflict a b := layout.keys.any fun columns => agreeOn columns a b
  symm a b := by simp only [agreeOn_comm]

/-- A table of a file. -/
structure Relation (Name Col : Type) where
  layout : Layout Name Col
  check : Row Col → Bool
  table : Table (layout.schema check)

/-- The rows of a table. -/
def Relation.rows (relation : Relation Name Col) : List (Row Col) := relation.table.rows

/-- A table that was just created. -/
def Relation.empty (layout : Layout Name Col) (check : Row Col → Bool) : Relation Name Col :=
  ⟨layout, check, .empty⟩

/-- A database file. -/
structure Database (Name Col : Type) where
  userVersion : Int
  tables : Name → Option (Relation Name Col)
  /-- The tables under names that no statement mentions. -/
  otherTables : List (String × Relation Name Col)
  /-- The views under such names, the triggers, and the indexes made by `CREATE INDEX`. -/
  otherObjects : List String

/-- A file without any object. -/
def Database.blank : Database Name Col := ⟨0, fun _ => none, [], []⟩

/-! ## Statements -/

/-- The exceptions of the binding. -/
inductive SqlError
  | integrity
  | operational (busy : Bool)
  deriving DecidableEq, Repr

/-- What ends a transaction: an exception of the program, or one of the binding. -/
inductive Failure (ε : Type)
  | raised (e : ε)
  | sqlite (e : SqlError)
  deriving DecidableEq, Repr

/-- A transaction on a file. -/
abbrev Sql (Name Col ε : Type) := Tx (Database Name Col) (Failure ε)

namespace Database

/-- The rows of a table; a table that does not exist has none. -/
def rows (db : Database Name Col) (name : Name) : List (Row Col) :=
  ((db.tables name).map Relation.rows).getD []

/-- What the pragmas report of a table. -/
def layouts (db : Database Name Col) (name : Name) : Option (Layout Name Col) :=
  (db.tables name).map Relation.layout

/-- `PRAGMA table_info(name)`, which is empty when there is no such table. -/
def tableInfo (db : Database Name Col) (name : Name) : List (Column Col) :=
  ((db.tables name).map fun relation => relation.layout.columns).getD []

theorem rows_of_some {db : Database Name Col} {name : Name} {relation : Relation Name Col}
    (h : db.tables name = some relation) : db.rows name = relation.rows := by
  rw [rows, h]
  rfl

theorem rows_of_none {db : Database Name Col} {name : Name} (h : db.tables name = none) :
    db.rows name = [] := by
  rw [rows, h]
  rfl

/-- Only the rows of one table differ. -/
structure Writes (db db' : Database Name Col) (name : Name) (rows : List (Row Col)) : Prop where
  rows : db'.rows name = rows
  frame : ∀ other ≠ name, db'.rows other = db.rows other
  layouts : db'.layouts = db.layouts
  userVersion : db'.userVersion = db.userVersion
  otherTables : db'.otherTables = db.otherTables
  otherObjects : db'.otherObjects = db.otherObjects

theorem Writes.refl (db : Database Name Col) (name : Name) : Writes db db name (db.rows name) :=
  ⟨rfl, fun _ _ => rfl, rfl, rfl, rfl, rfl⟩

theorem Writes.trans {db db' db'' : Database Name Col} {name : Name} {rows rows' : List (Row Col)}
    (first : Writes db db' name rows) (second : Writes db' db'' name rows') :
    Writes db db'' name rows' where
  rows := second.rows
  frame other differs := (second.frame other differs).trans (first.frame other differs)
  layouts := second.layouts.trans first.layouts
  userVersion := second.userVersion.trans first.userVersion
  otherTables := second.otherTables.trans first.otherTables
  otherObjects := second.otherObjects.trans first.otherObjects

variable [DecidableEq Name]

/-- Put a table under a name, or remove it. -/
def set (db : Database Name Col) (name : Name) (relation : Option (Relation Name Col)) :
    Database Name Col :=
  { db with tables := Function.update db.tables name relation }

@[simp] theorem set_self (db : Database Name Col) (name : Name)
    (relation : Option (Relation Name Col)) : (db.set name relation).tables name = relation :=
  Function.update_self ..

theorem set_of_ne (db : Database Name Col) {name other : Name} (h : other ≠ name)
    (relation : Option (Relation Name Col)) :
    (db.set name relation).tables other = db.tables other :=
  Function.update_of_ne h ..

@[simp] theorem rows_set_self (db : Database Name Col) (name : Name)
    (relation : Option (Relation Name Col)) :
    (db.set name relation).rows name = (relation.map Relation.rows).getD [] := by
  rw [rows, set_self]

theorem rows_set_of_ne (db : Database Name Col) {name other : Name} (h : other ≠ name)
    (relation : Option (Relation Name Col)) : (db.set name relation).rows other = db.rows other := by
  rw [rows, set_of_ne db h, rows]

/-- A table without rows may come and go. -/
theorem rows_set_of_empty {db : Database Name Col} {name : Name}
    {relation : Option (Relation Name Col)} (before : db.rows name = [])
    (after : (relation.map Relation.rows).getD [] = []) (other : Name) :
    (db.set name relation).rows other = db.rows other := by
  by_cases same : other = name
  · rw [same, rows_set_self, after, before]
  · exact rows_set_of_ne db same relation

theorem layouts_set_self (db : Database Name Col) (name : Name)
    (relation : Option (Relation Name Col)) :
    (db.set name relation).layouts name = relation.map Relation.layout := by
  rw [layouts, set_self]

theorem layouts_set_of_ne (db : Database Name Col) {name other : Name} (h : other ≠ name)
    (relation : Option (Relation Name Col)) :
    (db.set name relation).layouts other = db.layouts other := by
  rw [layouts, set_of_ne db h, layouts]

@[simp] theorem userVersion_set (db : Database Name Col) (name : Name)
    (relation : Option (Relation Name Col)) : (db.set name relation).userVersion = db.userVersion :=
  rfl

/-- Other rows in a table that exists. -/
theorem writes_set {db : Database Name Col} {name : Name} {relation relation' : Relation Name Col}
    (isTable : db.tables name = some relation) (layout : relation'.layout = relation.layout) :
    Writes db (db.set name (some relation')) name relation'.rows where
  rows := rows_set_self ..
  frame _ other := rows_set_of_ne db other _
  layouts := by
    funext other
    by_cases same : other = name
    · rw [same, layouts_set_self, layouts, isTable, Option.map_some, Option.map_some, layout]
    · exact layouts_set_of_ne db same _
  userVersion := rfl
  otherTables := rfl
  otherObjects := rfl

end Database

namespace Sql

/-- `PRAGMA user_version`. -/
def userVersion : Sql Name Col ε Int := Tx.query Database.userVersion

/-- `PRAGMA user_version = version`. -/
def setUserVersion (version : Int) : Sql Name Col ε Unit :=
  modify fun db => { db with userVersion := version }

/-- The table of a name, or `no such table`. -/
def relation (name : Name) : Sql Name Col ε (Relation Name Col) := do
  let found ← Tx.query fun db => db.tables name
  Tx.orRaise found (.sqlite (.operational false))

/-- `SELECT … FROM name WHERE p`. -/
def select (name : Name) (p : Row Col → Bool) : Sql Name Col ε (List (Row Col)) := do
  let found ← relation name
  return found.rows.filter p

/-- `SELECT COUNT(*) FROM name`. -/
def count (name : Name) : Sql Name Col ε Nat := do
  let found ← relation name
  return found.table.count

variable {db db' : Database Name Col} {name other : Name}

@[simp] theorem userVersion_ok {version : Int} :
    (userVersion : Sql Name Col ε Int) db = .ok (version, db') ↔
      version = db.userVersion ∧ db' = db := by
  rw [userVersion, Tx.query_ok]

@[simp] theorem setUserVersion_ok {version : Int} {u : Unit} :
    (setUserVersion version : Sql Name Col ε Unit) db = .ok (u, db') ↔
      db' = { db with userVersion := version } := by
  rw [setUserVersion, Tx.modify_ok]

@[simp] theorem relation_ok {found : Relation Name Col} :
    (relation name : Sql Name Col ε _) db = .ok (found, db') ↔
      db.tables name = some found ∧ db' = db := by
  simp only [relation, Tx.bind_ok, Tx.query_ok, Tx.orRaise_ok]
  constructor
  · rintro ⟨_, _, ⟨rfl, rfl⟩, isTable, same⟩
    exact ⟨isTable, same⟩
  · rintro ⟨isTable, same⟩
    exact ⟨_, _, ⟨rfl, rfl⟩, isTable, same⟩

@[simp] theorem select_ok {p : Row Col → Bool} {found : List (Row Col)} :
    (select name p : Sql Name Col ε _) db = .ok (found, db') ↔
      ∃ relation, db.tables name = some relation ∧ found = relation.rows.filter p ∧ db' = db := by
  simp only [select, Tx.bind_ok, relation_ok, Tx.pure_ok]
  constructor
  · rintro ⟨relation, _, ⟨isTable, rfl⟩, isFound, same⟩
    exact ⟨relation, isTable, isFound, same⟩
  · rintro ⟨relation, isTable, isFound, same⟩
    exact ⟨relation, _, ⟨isTable, rfl⟩, isFound, same⟩

@[simp] theorem count_ok {n : Nat} :
    (count name : Sql Name Col ε _) db = .ok (n, db') ↔
      ∃ relation, db.tables name = some relation ∧ n = relation.rows.length ∧ db' = db := by
  simp only [count, Tx.bind_ok, relation_ok, Tx.pure_ok]
  constructor
  · rintro ⟨relation, _, ⟨isTable, rfl⟩, isCount, same⟩
    exact ⟨relation, isTable, isCount, same⟩
  · rintro ⟨relation, isTable, isCount, same⟩
    exact ⟨relation, _, ⟨isTable, rfl⟩, isCount, same⟩

variable [DecidableEq Name]

/-- `CREATE TABLE name`. -/
def createTable (name : Name) (layout : Layout Name Col) (check : Row Col → Bool) :
    Sql Name Col ε Unit := do
  let found ← Tx.query fun db => db.tables name
  Tx.ensure found.isNone (.sqlite (.operational false))
  modify fun db => db.set name (some (.empty layout check))

/-- `CREATE TABLE IF NOT EXISTS name`. -/
def createTableIfNotExists (name : Name) (layout : Layout Name Col) (check : Row Col → Bool) :
    Sql Name Col ε Unit :=
  modify fun db =>
    match db.tables name with
    | some _ => db
    | none => db.set name (some (.empty layout check))

/-- `DROP TABLE name`. -/
def dropTable (name : Name) : Sql Name Col ε Unit := do
  let _ ← relation name
  modify fun db => db.set name none

/-- `ALTER TABLE name RENAME TO other`. -/
def renameTable (name other : Name) : Sql Name Col ε Unit := do
  let found ← relation name
  let taken ← Tx.query fun db => db.tables other
  Tx.ensure taken.isNone (.sqlite (.operational false))
  modify fun db => (db.set name none).set other (some found)

/-- `INSERT INTO name`. -/
def insert (name : Name) (row : Row Col) : Sql Name Col ε Unit := do
  let found ← relation name
  let table ← Tx.orRaise (found.table.insert row) (.sqlite .integrity)
  modify fun db => db.set name (some ⟨found.layout, found.check, table⟩)

/-- `INSERT INTO name SELECT …`, which inserts one row after the other. -/
def insertAll (name : Name) : List (Row Col) → Sql Name Col ε Unit
  | [] => pure ()
  | row :: rows => do
    insert name row
    insertAll name rows

/-- `INSERT OR IGNORE INTO name`. -/
def insertOrIgnore (name : Name) (row : Row Col) : Sql Name Col ε Unit := do
  let found ← relation name
  match found.table.insert row with
  | none => pure ()
  | some table => modify fun db => db.set name (some ⟨found.layout, found.check, table⟩)

/-- `UPDATE name SET … WHERE p`. -/
def update (name : Name) (p : Row Col → Bool) (f : Row Col → Row Col) : Sql Name Col ε Unit := do
  let found ← relation name
  let table ← Tx.orRaise (found.table.update p f) (.sqlite .integrity)
  modify fun db => db.set name (some ⟨found.layout, found.check, table⟩)

/-! ### What a statement that returns has done -/

@[simp] theorem createTable_ok {layout : Layout Name Col} {check : Row Col → Bool} {u : Unit} :
    (createTable name layout check : Sql Name Col ε Unit) db = .ok (u, db') ↔
      db.tables name = none ∧ db' = db.set name (some (.empty layout check)) := by
  simp only [createTable, Tx.bind_ok, Tx.query_ok, Tx.ensure_ok, Tx.modify_ok,
    Option.isNone_iff_eq_none]
  constructor
  · rintro ⟨_, _, ⟨rfl, rfl⟩, _, _, ⟨isNew, rfl⟩, same⟩
    exact ⟨isNew, same⟩
  · rintro ⟨isNew, same⟩
    exact ⟨_, _, ⟨rfl, rfl⟩, (), _, ⟨isNew, rfl⟩, same⟩

/-- The table is there, and was created only if it was not. -/
theorem createTableIfNotExists_ok {layout : Layout Name Col} {check : Row Col → Bool} {u : Unit}
    (h : (createTableIfNotExists name layout check : Sql Name Col ε Unit) db = .ok (u, db')) :
    db' = db ∧ (db.tables name).isSome = true ∨
      db.tables name = none ∧ db' = db.set name (some (.empty layout check)) := by
  rw [createTableIfNotExists, Tx.modify_ok] at h
  cases found : db.tables name with
  | some relation => exact .inl ⟨by simpa [found] using h, rfl⟩
  | none => exact .inr ⟨rfl, by simpa [found] using h⟩

/-- Nothing that is stored changes when a table is created unless it exists. -/
theorem createTableIfNotExists_rows {layout : Layout Name Col} {check : Row Col → Bool} {u : Unit}
    (h : (createTableIfNotExists name layout check : Sql Name Col ε Unit) db = .ok (u, db'))
    (other : Name) : db'.rows other = db.rows other := by
  rcases createTableIfNotExists_ok h with ⟨rfl, -⟩ | ⟨isNew, rfl⟩
  · rfl
  · exact Database.rows_set_of_empty (Database.rows_of_none isNew) rfl other

/-- The other tables are left alone. -/
theorem createTableIfNotExists_frame {layout : Layout Name Col} {check : Row Col → Bool} {u : Unit}
    (h : (createTableIfNotExists name layout check : Sql Name Col ε Unit) db = .ok (u, db'))
    (differs : other ≠ name) : db'.tables other = db.tables other := by
  rcases createTableIfNotExists_ok h with ⟨rfl, -⟩ | ⟨-, rfl⟩
  · rfl
  · exact Database.set_of_ne db differs _

@[simp] theorem dropTable_ok {u : Unit} :
    (dropTable name : Sql Name Col ε Unit) db = .ok (u, db') ↔
      (∃ relation, db.tables name = some relation) ∧ db' = db.set name none := by
  simp only [dropTable, Tx.bind_ok, relation_ok, Tx.modify_ok]
  constructor
  · rintro ⟨relation, _, ⟨isTable, rfl⟩, same⟩
    exact ⟨⟨relation, isTable⟩, same⟩
  · rintro ⟨⟨relation, isTable⟩, same⟩
    exact ⟨relation, _, ⟨isTable, rfl⟩, same⟩

@[simp] theorem renameTable_ok {u : Unit} :
    (renameTable name other : Sql Name Col ε Unit) db = .ok (u, db') ↔
      ∃ relation, db.tables name = some relation ∧ db.tables other = none ∧
        db' = (db.set name none).set other (some relation) := by
  simp only [renameTable, Tx.bind_ok, relation_ok, Tx.query_ok, Tx.ensure_ok, Tx.modify_ok,
    Option.isNone_iff_eq_none]
  constructor
  · rintro ⟨relation, _, ⟨isTable, rfl⟩, _, _, ⟨rfl, rfl⟩, _, _, ⟨isFree, rfl⟩, same⟩
    exact ⟨relation, isTable, isFree, same⟩
  · rintro ⟨relation, isTable, isFree, same⟩
    exact ⟨relation, _, ⟨isTable, rfl⟩, _, _, ⟨rfl, rfl⟩, (), _, ⟨isFree, rfl⟩, same⟩

@[simp] theorem insert_ok {row : Row Col} {u : Unit} :
    (insert name row : Sql Name Col ε Unit) db = .ok (u, db') ↔
      ∃ relation table, db.tables name = some relation ∧ relation.table.insert row = some table ∧
        db' = db.set name (some ⟨relation.layout, relation.check, table⟩) := by
  simp only [insert, Tx.bind_ok, relation_ok, Tx.orRaise_ok, Tx.modify_ok]
  constructor
  · rintro ⟨relation, _, ⟨isTable, rfl⟩, table, _, ⟨inserted, rfl⟩, same⟩
    exact ⟨relation, table, isTable, inserted, same⟩
  · rintro ⟨relation, table, isTable, inserted, same⟩
    exact ⟨relation, _, ⟨isTable, rfl⟩, table, _, ⟨inserted, rfl⟩, same⟩

/-- A row that shares a key with a stored one is refused. -/
theorem insert_of_agree {row stored : Row Col} {relation : Relation Name Col} {columns : List Col}
    (isTable : db.tables name = some relation) (isStored : stored ∈ relation.rows)
    (isKey : columns ∈ relation.layout.keys) (agree : agreeOn columns stored row = true) :
    (insert name row : Sql Name Col ε Unit) db = .error (.sqlite .integrity) := by
  have conflict : (relation.layout.schema relation.check).conflict stored row = true :=
    List.any_eq_true.mpr ⟨columns, isKey, agree⟩
  have refused := Table.insert_of_conflict isStored conflict
  rw [insert, Tx.bind_error]
  refine .inr ⟨relation, db, relation_ok.mpr ⟨isTable, rfl⟩, ?_⟩
  rw [Tx.bind_error, Tx.orRaise_error]
  exact .inl ⟨refused, rfl⟩

theorem insertOrIgnore_ok {row : Row Col} {u : Unit}
    (h : (insertOrIgnore name row : Sql Name Col ε Unit) db = .ok (u, db')) :
    ∃ relation, db.tables name = some relation ∧
      (relation.table.insert row = none ∧ db' = db ∨
        ∃ table, relation.table.insert row = some table ∧
          db' = db.set name (some ⟨relation.layout, relation.check, table⟩)) := by
  obtain ⟨relation, _, isRelation, rest⟩ := Tx.bind_ok.mp h
  obtain ⟨isTable, rfl⟩ := relation_ok.mp isRelation
  refine ⟨relation, isTable, ?_⟩
  cases inserted : relation.table.insert row with
  | none =>
    rw [inserted] at rest
    exact .inl ⟨rfl, (Tx.pure_ok.mp rest).2⟩
  | some table =>
    rw [inserted] at rest
    exact .inr ⟨table, rfl, Tx.modify_ok.mp rest⟩

@[simp] theorem update_ok {p : Row Col → Bool} {f : Row Col → Row Col} {u : Unit} :
    (update name p f : Sql Name Col ε Unit) db = .ok (u, db') ↔
      ∃ relation table, db.tables name = some relation ∧ relation.table.update p f = some table ∧
        db' = db.set name (some ⟨relation.layout, relation.check, table⟩) := by
  simp only [update, Tx.bind_ok, relation_ok, Tx.orRaise_ok, Tx.modify_ok]
  constructor
  · rintro ⟨relation, _, ⟨isTable, rfl⟩, table, _, ⟨updated, rfl⟩, same⟩
    exact ⟨relation, table, isTable, updated, same⟩
  · rintro ⟨relation, table, isTable, updated, same⟩
    exact ⟨relation, _, ⟨isTable, rfl⟩, table, _, ⟨updated, rfl⟩, same⟩

/-- The row has been appended. -/
theorem insert_writes {row : Row Col} {u : Unit}
    (h : (insert name row : Sql Name Col ε Unit) db = .ok (u, db')) :
    db.Writes db' name (db.rows name ++ [row]) := by
  obtain ⟨relation, table, isTable, inserted, rfl⟩ := insert_ok.mp h
  have isRows : table.rows = relation.rows ++ [row] := (Table.insert_eq_some.mp inserted).2.2
  rw [Database.rows_of_some isTable, ← isRows]
  exact Database.writes_set isTable rfl

/-- The rows that satisfy the condition have been changed. -/
theorem update_writes {p : Row Col → Bool} {f : Row Col → Row Col} {u : Unit}
    (h : (update name p f : Sql Name Col ε Unit) db = .ok (u, db')) :
    db.Writes db' name ((db.rows name).map fun row => if p row then f row else row) := by
  obtain ⟨relation, table, isTable, updated, rfl⟩ := update_ok.mp h
  rw [Database.rows_of_some isTable, Relation.rows, ← Table.update_eq_some updated]
  exact Database.writes_set isTable rfl

/-- All rows have been appended. -/
theorem insertAll_writes {rows : List (Row Col)} {u : Unit}
    (h : (insertAll name rows : Sql Name Col ε Unit) db = .ok (u, db')) :
    db.Writes db' name (db.rows name ++ rows) := by
  induction rows generalizing db with
  | nil =>
    obtain ⟨-, rfl⟩ := Tx.pure_ok.mp h
    rw [List.append_nil]
    exact .refl db' name
  | cons row rows ih =>
    obtain ⟨_, db₁, first, rest⟩ := Tx.bind_ok.mp h
    have written := insert_writes first
    have appended := ih rest
    rw [written.rows, List.append_assoc, List.singleton_append] at appended
    exact written.trans appended

end Sql

end Prometheus.Machine
