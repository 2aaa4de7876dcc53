import Mathlib

/-!
Tables of rows with a primary key, as a database keeps them. A row of a new key is
inserted, and an update changes the rows that it selects and keeps their keys, so what an
update does to the row of a key is told from this row alone.
-/

structure Table {ρ κ : Type} (key : ρ → κ) where
  rows : List ρ
  distinct : (rows.map key).Nodup

namespace Table

variable {ρ κ : Type} {key : ρ → κ}

def empty : Table key := ⟨[], List.nodup_nil⟩

variable [DecidableEq κ]

def row? (table : Table key) (k : κ) : Option ρ := table.rows.find? fun row => key row = k

/-- There is no row of the key of the new one. -/
def insert (table : Table key) (row : ρ) : Option (Table key) :=
  if fresh : key row ∈ table.rows.map key then none
  else some
    { rows := table.rows ++ [row]
      distinct := by
        rw [List.map_append, List.nodup_append]
        refine ⟨table.distinct, List.nodup_singleton _, ?_⟩
        intro a old b new same
        rw [List.map_singleton, List.mem_singleton] at new
        exact fresh (new ▸ same ▸ old) }

omit [DecidableEq κ] in
theorem map_keys {sets : ρ → ρ} (keeps : ∀ row, key (sets row) = key row) (rows : List ρ) :
    (rows.map sets).map key = rows.map key := by
  rw [List.map_map]
  exact List.map_congr_left fun row _ => keeps row

def changed (selects : ρ → Bool) (sets : ρ → ρ) (row : ρ) : ρ :=
  if selects row then sets row else row

omit [DecidableEq κ] in
theorem key_changed {selects : ρ → Bool} {sets : ρ → ρ} (keeps : ∀ row, key (sets row) = key row)
    (row : ρ) : key (changed selects sets row) = key row := by
  unfold changed
  split
  · exact keeps row
  · rfl

/-- The number of the rows that an update selects, and the rows after it. -/
def update (table : Table key) (selects : ρ → Bool) (sets : ρ → ρ)
    (keeps : ∀ row, key (sets row) = key row) : Nat × Table key :=
  (table.rows.countP selects,
    { rows := table.rows.map (changed selects sets)
      distinct := by
        rw [map_keys (key_changed keeps)]
        exact table.distinct })

@[simp] theorem row?_empty (k : κ) : (empty : Table key).row? k = none := rfl

theorem row?_eq_none {table : Table key} {k : κ} :
    table.row? k = none ↔ k ∉ table.rows.map key := by
  rw [row?, List.find?_eq_none, List.mem_map]
  constructor
  · intro absent there
    obtain ⟨row, inside, same⟩ := there
    exact absent row inside (decide_eq_true same)
  · intro absent row inside same
    exact absent ⟨row, inside, of_decide_eq_true same⟩

theorem key_of_row? {table : Table key} {k : κ} {row : ρ} (found : table.row? k = some row) :
    key row = k := by
  simpa using List.find?_some found

theorem mem_of_row? {table : Table key} {k : κ} {row : ρ} (found : table.row? k = some row) :
    row ∈ table.rows :=
  List.mem_of_find?_eq_some found

theorem row?_insert {table after : Table key} {row : ρ} (done : table.insert row = some after) (k : κ) :
    after.row? k = if k = key row then some row else table.row? k := by
  unfold insert at done
  split at done
  · cases done
  · rename_i fresh
    cases done
    rw [row?, List.find?_append]
    split
    · rename_i same
      have absent : table.row? k = none := row?_eq_none.mpr (same ▸ fresh)
      rw [row?] at absent
      rw [absent, Option.none_or, List.find?_cons_of_pos (by simp [same])]
    · rename_i other
      rw [List.find?_cons_of_neg (by simpa using fun same => other same.symm), List.find?_nil,
        Option.or_none]
      rfl

theorem row?_update (table : Table key) (selects : ρ → Bool) (sets : ρ → ρ)
    (keeps : ∀ row, key (sets row) = key row) (k : κ) :
    (table.update selects sets keeps).2.row? k = (table.row? k).map (changed selects sets) := by
  rw [row?, update, List.find?_map]
  congr 2
  funext row
  rw [Function.comp_apply, key_changed keeps]

/-- An update that selects a row by its key selects the row of that key. -/
theorem update_selects {table : Table key} {selects : ρ → Bool} {sets : ρ → ρ}
    {keeps : ∀ row, key (sets row) = key row} {k : κ} (by_key : ∀ row, selects row = true → key row = k)
    (some_row : (table.update selects sets keeps).1 ≠ 0) :
    ∃ row, table.row? k = some row ∧ selects row = true := by
  obtain ⟨row, inside, selected⟩ := List.countP_pos_iff.mp (Nat.pos_of_ne_zero some_row)
  cases found : table.row? k with
  | none => exact absurd (by_key row selected ▸ List.mem_map_of_mem inside) (row?_eq_none.mp found)
  | some other =>
      have same : other = row :=
        List.inj_on_of_nodup_map table.distinct (mem_of_row? found) inside
          ((key_of_row? found).trans (by_key row selected).symm)
      exact ⟨other, rfl, same ▸ selected⟩

end Table
