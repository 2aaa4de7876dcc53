import Mathlib

/-!
Sorting by a linear order, stated for the sort of the core library: the result is in
order, and depends on the items only up to their order.
-/

namespace Sorting

variable {α : Type} [LinearOrder α]

def sorted (items : List α) : List α := items.mergeSort fun a b => a ≤ b

theorem sorted_perm (items : List α) : (sorted items).Perm items := List.mergeSort_perm items _

theorem le_trans_by {β : Type} (key : β → α) (a b c : β) (ab : decide (key a ≤ key b) = true)
    (bc : decide (key b ≤ key c) = true) : decide (key a ≤ key c) = true :=
  decide_eq_true (le_trans (of_decide_eq_true ab) (of_decide_eq_true bc))

theorem le_total_by {β : Type} (key : β → α) (a b : β) :
    (decide (key a ≤ key b) || decide (key b ≤ key a)) = true := by
  simpa using le_total (key a) (key b)

theorem pairwise_by {β : Type} (key : β → α) (items : List β) :
    (items.mergeSort fun a b => key a ≤ key b).Pairwise fun a b => key a ≤ key b := by
  have order : (items.mergeSort fun a b => key a ≤ key b).Pairwise
      fun a b => decide (key a ≤ key b) = true :=
    List.pairwise_mergeSort (le_trans_by key) (le_total_by key) items
  exact order.imp fun below => of_decide_eq_true below

theorem sorted_pairwise (items : List α) : (sorted items).Pairwise (· ≤ ·) :=
  pairwise_by id items

/-- The sort is stable: items of one key keep their order. -/
theorem filter_of_key {β : Type} (key : β → α) {p : β → Bool} (same : ∀ x y, p x → p y → key x = key y)
    (items : List β) : (items.mergeSort fun a b => key a ≤ key b).filter p = items.filter p := by
  have level : (items.filter p).Pairwise fun a b => decide (key a ≤ key b) = true := by
    refine List.pairwise_of_forall_mem_list fun x first y second => decide_eq_true (le_of_eq ?_)
    exact same x y (List.mem_filter.mp first).2 (List.mem_filter.mp second).2
  have inside : (items.filter p).Sublist (items.mergeSort fun a b => key a ≤ key b) :=
    List.sublist_mergeSort (le_trans_by key) (le_total_by key) level List.filter_sublist
  have kept := inside.filter p
  rw [List.filter_filter] at kept
  simp only [Bool.and_self] at kept
  exact (kept.eq_of_length ((List.mergeSort_perm items _).filter p).length_eq.symm).symm

/-- In a list sorted by a key an item that is smaller comes first. -/
theorem idxOf_lt {β : Type} [BEq β] [LawfulBEq β] {key : β → α} {items : List β} {x y : β}
    (order : items.Pairwise fun a b => key a ≤ key b) (inside : x ∈ items) (below : key x < key y) :
    items.idxOf x < items.idxOf y := by
  by_contra above
  have reached : items.idxOf x < items.length := List.idxOf_lt_length_iff.mpr inside
  rcases Nat.lt_or_eq_of_le (Nat.le_of_not_lt above) with before | same
  · have sorted := List.pairwise_iff_getElem.mp order _ _ (Nat.lt_trans before reached) reached before
    rw [List.getElem_idxOf, List.getElem_idxOf] at sorted
    exact absurd below (not_lt.mpr sorted)
  · rw [(List.idxOf_inj inside).mp same.symm] at below
    exact absurd below (lt_irrefl _)

/-- A list in order is the sorted form of its permutations. -/
theorem sorted_eq {items result : List α} (perm : items.Perm result)
    (order : result.Pairwise (· ≤ ·)) : sorted items = result :=
  ((sorted_perm items).trans perm).eq_of_pairwise (fun _ _ _ _ => le_antisymm)
    (sorted_pairwise items) order

theorem sorted_congr {items others : List α} (perm : items.Perm others) :
    sorted items = sorted others :=
  sorted_eq (perm.trans (sorted_perm others).symm) (sorted_pairwise others)

end Sorting
