import Mathlib

/-!
Dictionaries that remember the order in which their keys were first set. Setting
a key that is there replaces its value in place; a new key goes to the end.
-/

structure Dict (κ β : Type) [DecidableEq κ] where
  entries : List (κ × β)
  nodup : (entries.map Prod.fst).Nodup

namespace Dict

variable {κ β : Type} [DecidableEq κ]

def empty : Dict κ β := ⟨[], List.nodup_nil⟩

def keys (d : Dict κ β) : List κ := d.entries.map Prod.fst

def values (d : Dict κ β) : List β := d.entries.map Prod.snd

def find (key : κ) : List (κ × β) → Option β
  | [] => none
  | (k, v) :: entries => if k = key then some v else find key entries

def get? (d : Dict κ β) (key : κ) : Option β := find key d.entries

def put (key : κ) (value : β) : List (κ × β) → List (κ × β)
  | [] => [(key, value)]
  | (k, v) :: entries => if k = key then (k, value) :: entries else (k, v) :: put key value entries

theorem keys_put (key : κ) (value : β) (entries : List (κ × β)) :
    (put key value entries).map Prod.fst =
      if key ∈ entries.map Prod.fst then entries.map Prod.fst
      else entries.map Prod.fst ++ [key] := by
  induction entries with
  | nil => rfl
  | cons entry entries ih =>
      obtain ⟨k, v⟩ := entry
      by_cases h : k = key
      · simp [put, h]
      · have h' : key ≠ k := fun e => h e.symm
        by_cases m : key ∈ entries.map Prod.fst
        · simp only [put, h, if_false, List.map_cons, ih, m, if_true, List.mem_cons, or_true]
        · simp only [put, h, if_false, List.map_cons, ih, m, List.mem_cons, or_false, h',
            List.cons_append]

theorem put_nodup {key : κ} {value : β} {entries : List (κ × β)}
    (nodup : (entries.map Prod.fst).Nodup) : ((put key value entries).map Prod.fst).Nodup := by
  rw [keys_put]
  split
  · exact nodup
  · rename_i absent
    refine List.nodup_append.mpr ⟨nodup, List.nodup_singleton key, ?_⟩
    intro a ha b hb e
    rw [List.mem_singleton] at hb
    exact absent (hb ▸ e ▸ ha)

def set (d : Dict κ β) (key : κ) (value : β) : Dict κ β where
  entries := put key value d.entries
  nodup := put_nodup d.nodup

@[simp] theorem get?_empty (key : κ) : (empty : Dict κ β).get? key = none := rfl

@[simp] theorem keys_empty : (empty : Dict κ β).keys = [] := rfl

theorem find_put (a key : κ) (value : β) (entries : List (κ × β)) :
    find a (put key value entries) = if a = key then some value else find a entries := by
  induction entries with
  | nil => by_cases h : a = key <;> simp [put, find, h, Ne.symm]
  | cons entry entries ih =>
      obtain ⟨k, v⟩ := entry
      by_cases hk : k = key
      · subst hk
        by_cases ha : a = k
        · simp [put, find, ha]
        · have ha' : k ≠ a := fun e => ha e.symm
          simp [put, find, ha, ha']
      · by_cases ha : k = a
        · subst ha; simp [put, find, hk]
        · simp [put, find, hk, ha, ih]

@[simp] theorem get?_set (d : Dict κ β) (a key : κ) (value : β) :
    (d.set key value).get? a = if a = key then some value else d.get? a :=
  find_put a key value d.entries

theorem keys_set (d : Dict κ β) (key : κ) (value : β) :
    (d.set key value).keys = if key ∈ d.keys then d.keys else d.keys ++ [key] :=
  keys_put key value d.entries

theorem put_of_notMem {key : κ} (value : β) {entries : List (κ × β)}
    (absent : key ∉ entries.map Prod.fst) : put key value entries = entries ++ [(key, value)] := by
  induction entries with
  | nil => rfl
  | cons entry entries ih =>
      rw [List.map_cons, List.mem_cons, not_or] at absent
      rw [put, if_neg (Ne.symm absent.1), ih absent.2]
      rfl

theorem values_set_of_notMem {d : Dict κ β} {key : κ} {value : β} (absent : key ∉ d.keys) :
    (d.set key value).values = d.values ++ [value] := by
  show (put key value d.entries).map Prod.snd = _
  rw [put_of_notMem value absent, List.map_append]
  rfl

theorem find_isSome_iff (key : κ) (entries : List (κ × β)) :
    (find key entries).isSome ↔ key ∈ entries.map Prod.fst := by
  induction entries with
  | nil => simp [find]
  | cons entry entries ih =>
      obtain ⟨k, v⟩ := entry
      by_cases h : k = key
      · simp [find, h]
      · have h' : key ≠ k := fun e => h e.symm
        simp [find, h, h', ih]

theorem find_append (key : κ) (front back : List (κ × β)) :
    find key (front ++ back) = (find key front).or (find key back) := by
  induction front with
  | nil => rfl
  | cons entry front ih =>
      rw [List.cons_append, find, find]
      split
      · rfl
      · exact ih

theorem mem_of_find {key : κ} {value : β} {entries : List (κ × β)}
    (found : find key entries = some value) : (key, value) ∈ entries := by
  induction entries with
  | nil => cases found
  | cons entry entries ih =>
      rw [find] at found
      split at found
      · rename_i same
        cases found
        exact same ▸ List.mem_cons_self
      · exact List.mem_cons_of_mem _ (ih found)

theorem get?_isSome_iff (d : Dict κ β) (key : κ) : (d.get? key).isSome ↔ key ∈ d.keys :=
  find_isSome_iff key d.entries

theorem mem_keys_of_get? {d : Dict κ β} {key : κ} {value : β} (h : d.get? key = some value) :
    key ∈ d.keys := by
  rw [← get?_isSome_iff, h]; rfl

theorem get?_eq_some_iff (d : Dict κ β) (key : κ) (value : β) :
    d.get? key = some value ↔ (key, value) ∈ d.entries := by
  obtain ⟨entries, nodup⟩ := d
  simp only [get?]
  induction entries with
  | nil => simp [find]
  | cons entry entries ih =>
      obtain ⟨k, v⟩ := entry
      rw [List.map_cons, List.nodup_cons] at nodup
      rw [List.mem_cons, ← ih nodup.2, find]
      by_cases same : k = key
      · have later : find key entries = none := by
          rw [← Option.not_isSome_iff_eq_none, find_isSome_iff, ← same]
          exact nodup.1
        simp [same, later, eq_comm]
      · simp [same, Ne.symm same]

theorem find_of_mem {key : κ} {value : β} {entries : List (κ × β)}
    (nodup : (entries.map Prod.fst).Nodup) (inside : (key, value) ∈ entries) :
    find key entries = some value :=
  (get?_eq_some_iff ⟨entries, nodup⟩ key value).mpr inside

theorem mem_values_iff (d : Dict κ β) (value : β) :
    value ∈ d.values ↔ ∃ key, d.get? key = some value := by
  obtain ⟨entries, nodup⟩ := d
  simp only [values, get?]
  induction entries with
  | nil => simp [find]
  | cons entry entries ih =>
      obtain ⟨k, v⟩ := entry
      rw [List.map_cons, List.nodup_cons] at nodup
      rw [List.map_cons, List.mem_cons, ih nodup.2]
      constructor
      · rintro (rfl | ⟨key, found⟩)
        · exact ⟨k, by simp [find]⟩
        · refine ⟨key, ?_⟩
          have other : k ≠ key := by
            rintro rfl
            refine nodup.1 ((find_isSome_iff k entries).mp ?_)
            rw [found]
            rfl
          simp [find, other, found]
      · rintro ⟨key, found⟩
        by_cases same : k = key
        · simp only [find, same, if_true, Option.some.injEq] at found
          exact .inl found.symm
        · simp only [find, same, if_false] at found
          exact .inr ⟨key, found⟩

/-- A sum over the values changes by the value that is set and the one it replaces. -/
theorem sum_values_set (d : Dict κ β) (f : β → Nat) (key : κ) (value : β) :
    ((d.set key value).values.map f).sum + (d.get? key).elim 0 f =
      (d.values.map f).sum + f value := by
  obtain ⟨entries, nodup⟩ := d
  simp only [values, get?, set]
  clear nodup
  induction entries with
  | nil => simp [put, find]
  | cons entry entries ih =>
      obtain ⟨k, v⟩ := entry
      by_cases same : k = key
      · simp only [put, find, same, if_true, List.map_cons, List.sum_cons, Option.elim_some]
        omega
      · simp only [put, find, same, if_false, List.map_cons, List.sum_cons]
        omega

end Dict
