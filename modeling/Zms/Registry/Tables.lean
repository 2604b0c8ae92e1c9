import Mathlib

/-! Tables whose rows are told apart by a key. -/

set_option autoImplicit false

namespace Zms.Registry

structure Table {Key Row : Type} (key : Row → Key) where
  rows : List Row
  keys : (rows.map key).Nodup

namespace Table
variable {Key Row : Type} [DecidableEq Key] {key : Row → Key}

/-- Rows that are written out; no rows if a key is there twice. -/
def ofList (rows : List Row) : Table key := if keys : (rows.map key).Nodup then ⟨rows, keys⟩ else ⟨[], List.nodup_nil⟩

def get (table : Table key) (sought : Key) : Option Row :=
  table.rows.find? fun row => key row = sought

/-- Changes every row by a function that keeps its key. -/
def update (table : Table key) (change : Row → Row) (keeps : ∀ row, key (change row) = key row) :
    Table key where
  rows := table.rows.map change
  keys := by
    rw [List.map_map, show key ∘ change = key from funext keeps]
    exact table.keys

/-- Deletes the rows without the property. -/
def filter (table : Table key) (keep : Row → Bool) : Table key where
  rows := table.rows.filter keep
  keys := List.Nodup.sublist (List.filter_sublist.map key) table.keys

/-- `none` where a key would be there twice: an exception of the database. -/
def insertList (table : Table key) (rows : List Row) : Option (Table key) :=
  if keys : ((table.rows ++ rows).map key).Nodup then some ⟨table.rows ++ rows, keys⟩ else none

theorem get_eq_some_iff {table : Table key} {sought : Key} {row : Row} :
    table.get sought = some row ↔ row ∈ table.rows ∧ key row = sought := by
  unfold get
  constructor
  · intro found
    have same := List.find?_some found
    exact ⟨List.mem_of_find?_eq_some found, of_decide_eq_true same⟩
  · intro ⟨member, same⟩
    subst same
    have nodup := table.keys
    revert member nodup
    induction table.rows with
    | nil => intro member; cases member
    | cons first rest ih =>
        intro member nodup
        rw [List.map_cons, List.nodup_cons] at nodup
        rw [List.find?_cons]
        obtain rfl | member := List.mem_cons.mp member
        · rw [decide_eq_true rfl]
        · have other : key first ≠ key row := fun same => nodup.1 (same ▸ List.mem_map_of_mem member)
          rw [decide_eq_false other]
          exact ih member nodup.2

theorem isSome_get_iff {table : Table key} {sought : Key} :
    (table.get sought).isSome ↔ ∃ row ∈ table.rows, key row = sought := by
  simp only [Option.isSome_iff_exists, get_eq_some_iff]

theorem rows_of_insertList {table inserted : Table key} {rows : List Row}
    (done : table.insertList rows = some inserted) : inserted.rows = table.rows ++ rows := by
  unfold insertList at done
  split at done
  · rw [← Option.some.inj done]
  · cases done

theorem get_key {table : Table key} {row : Row} (member : row ∈ table.rows) : table.get (key row) = some row :=
  get_eq_some_iff.mpr ⟨member, rfl⟩

@[simp] theorem get_update (table : Table key) (change : Row → Row) (keeps : ∀ row, key (change row) = key row)
    (sought : Key) : (table.update change keeps).get sought = (table.get sought).map change := by
  unfold get update
  rw [List.find?_map]
  congr 1
  apply congrArg (List.find? · table.rows)
  funext row
  simp only [Function.comp_apply, keeps]

omit [DecidableEq Key] in
theorem update_eq_self {table : Table key} {change : Row → Row} {keeps : ∀ row, key (change row) = key row}
    (same : ∀ row ∈ table.rows, change row = row) : table.update change keeps = table := by
  cases table with
  | mk rows keys =>
      have unchanged : rows.map change = rows := (List.map_congr_left same).trans (List.map_id rows)
      unfold update
      simp only [unchanged]

end Table

/-- Tables whose rows have a name besides the key, which is unique as well. -/
structure NamedTable {Key Name Row : Type} (key : Row → Key) (name : Row → Name) extends Table key where
  names : (rows.map name).Nodup

namespace NamedTable
variable {Key Name Row : Type} [DecidableEq Key] [DecidableEq Name] {key : Row → Key} {name : Row → Name}

/-- `none` where another row has the name: an exception of the database. -/
def ofTable (table : Table key) : Option (NamedTable key name) :=
  if names : (table.rows.map name).Nodup then some ⟨table, names⟩ else none

def ofList (rows : List Row) : NamedTable key name :=
  (ofTable (Table.ofList rows)).getD ⟨⟨[], List.nodup_nil⟩, List.nodup_nil⟩

/-- Changes the row with the key, if there is one. -/
def change (table : NamedTable key name) (sought : Key) (change : Row → Row) (keeps : ∀ row, key (change row) = key row) :
    Option (NamedTable key name) :=
  ofTable (table.toTable.update (fun row => if key row = sought then change row else row)
    (by intro row; split <;> simp only [keeps]))

def insert (table : NamedTable key name) (row : Row) : Option (NamedTable key name) :=
  (table.toTable.insertList [row]).bind ofTable

omit [DecidableEq Key] in
theorem toTable_of_ofTable {table : Table key} {named : NamedTable key name} (done : ofTable table = some named) :
    named.toTable = table := by
  unfold ofTable at done
  split at done
  · rw [← Option.some.inj done]
  · cases done

theorem get_of_change {table changed : NamedTable key name} {sought : Key} {change : Row → Row}
    {keeps : ∀ row, key (change row) = key row} (done : table.change sought change keeps = some changed) (other : Key) :
    changed.get other = (table.get other).map fun row => if key row = sought then change row else row := by
  rw [toTable_of_ofTable done, Table.get_update]

theorem get_of_insert {table inserted : NamedTable key name} {row : Row} (done : table.insert row = some inserted)
    (other : Key) : inserted.get other = (table.get other).or (if key row = other then some row else none) := by
  obtain ⟨extended, extends_, named⟩ := Option.bind_eq_some_iff.mp done
  rw [toTable_of_ofTable named]
  unfold Table.get
  rw [Table.rows_of_insertList extends_, List.find?_append]
  congr 1
  rw [List.find?_singleton]
  by_cases same : key row = other
  · simp only [same, decide_true, if_true]
  · simp only [same, decide_false, if_false, Bool.false_eq_true]

end NamedTable

end Zms.Registry
