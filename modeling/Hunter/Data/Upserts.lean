import Mathlib

/-!
Upserts into a table with a key and a unique column: the row under the key is replaced,
and a row is refused when another one has its value in the column. A table is read as
the log of its writes, in which an entry is current until its key is written again; the
writes of a sequence are all accepted exactly when each of them finds its value free or
under its own key.
-/

namespace Upserts

variable {ρ κ υ : Type} {key : ρ → κ} {value : ρ → υ} {rows links t log : List ρ} {row x y : ρ}

def upsert [DecidableEq κ] [DecidableEq υ] (key : ρ → κ) (value : ρ → υ) (rows : List ρ) (row : ρ) :
    Option (List ρ) :=
  let others := rows.filter fun other => key other ≠ key row
  if ∀ other ∈ others, value other ≠ value row then some (others ++ [row]) else none

def upserts [DecidableEq κ] [DecidableEq υ] (key : ρ → κ) (value : ρ → υ) (rows links : List ρ) : Option (List ρ) :=
  links.foldlM (upsert key value) rows

/-- The entries of a log whose key is not written again. -/
def Current (key : ρ → κ) : List ρ → ρ → Prop
  | [], _ => False
  | first :: log, row => (first = row ∧ ∀ later ∈ log, key later ≠ key row) ∨ Current key log row

/-- Each write finds its value free or under its own key. -/
def Free (key : ρ → κ) (value : ρ → υ) (log : List ρ) : List ρ → Prop
  | [] => True
  | row :: links =>
      (∀ other, Current key log other → value other = value row → key other = key row) ∧
        Free key value (log ++ [row]) links

/-- No key stands with two values. -/
def Coherent (key : ρ → κ) (value : ρ → υ) (log : List ρ) : Prop :=
  ∀ x ∈ log, ∀ y ∈ log, key x = key y → value x = value y

instance [DecidableEq κ] [DecidableEq υ] : Decidable (Coherent key value log) :=
  inferInstanceAs (Decidable (∀ x ∈ log, ∀ y ∈ log, key x = key y → value x = value y))

theorem Current.mem (current : Current key log x) : x ∈ log := by
  induction log with
  | nil => exact current.elim
  | cons first log ih =>
      rcases current with ⟨rfl, -⟩ | current
      · exact List.mem_cons_self
      · exact List.mem_cons_of_mem first (ih current)

section Writes

variable [DecidableEq κ] [DecidableEq υ]

theorem upsert_some :
    upsert key value rows row = some t ↔
      (∀ other ∈ rows, value other = value row → key other = key row) ∧
        t = rows.filter (fun other => key other ≠ key row) ++ [row] := by
  have fits : (∀ other ∈ rows.filter (fun other => key other ≠ key row), value other ≠ value row) ↔
      ∀ other ∈ rows, value other = value row → key other = key row := by
    refine ⟨fun free other there same => ?_, fun free other there same => ?_⟩
    · by_contra different
      exact free other (List.mem_filter.mpr ⟨there, decide_eq_true different⟩) same
    · obtain ⟨there, different⟩ := List.mem_filter.mp there
      exact of_decide_eq_true different (free other there same)
  unfold upsert
  dsimp only
  rw [if_congr fits rfl rfl]
  split
  · rename_i free
    rw [Option.some.injEq]
    exact ⟨fun same => ⟨free, same.symm⟩, fun holds => holds.2.symm⟩
  · rename_i taken
    exact ⟨fun none => (Option.some_ne_none _ none.symm).elim, fun holds => absurd holds.1 taken⟩

theorem upsert_nodup (nodup : (rows.map key).Nodup) (done : upsert key value rows row = some t) :
    (t.map key).Nodup := by
  rw [(upsert_some.mp done).2, List.map_append]
  refine List.nodup_append.mpr ⟨nodup.sublist (List.filter_sublist.map key), List.nodup_singleton _, ?_⟩
  intro k there last only
  obtain ⟨other, inside, rfl⟩ := List.mem_map.mp there
  rw [List.mem_singleton.mp only]
  exact of_decide_eq_true (List.mem_filter.mp inside).2

/-- Distinct keys stay distinct. -/
theorem upserts_nodup (nodup : (rows.map key).Nodup) (done : upserts key value rows links = some t) :
    (t.map key).Nodup := by
  induction links generalizing rows with
  | nil =>
      cases done
      exact nodup
  | cons row links ih =>
      unfold upserts at done
      rw [List.foldlM_cons] at done
      obtain ⟨after, first, rest⟩ := Option.bind_eq_some_iff.mp done
      exact ih (upsert_nodup nodup first) rest

end Writes

theorem Coherent.mono (coherent : Coherent key value log) (inside : ∀ x ∈ rows, x ∈ log) :
    Coherent key value rows :=
  fun x there y other => coherent x (inside x there) y (inside y other)

/-- Two sequences of writes can be made one after the other as well as the second alone:
a value stands under one key; where a key stands with two values, the order tells. -/
def Settled [DecidableEq κ] [DecidableEq υ] (key : ρ → κ) (value : ρ → υ) (log first second : List ρ) :
    Prop :=
  if Coherent key value (log ++ (first ++ second)) then
    ∀ x ∈ first ++ second, ∀ y ∈ log ++ (first ++ second), value y = value x → key y = key x
  else Free key value log second ∧ Free key value log (first ++ second)

end Upserts
