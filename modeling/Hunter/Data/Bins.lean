import Mathlib

/-!
Grouping the items of a list. Groups that each item belongs to exactly one of take the list
apart. The intervals between edges that rise are such groups for what lies between the outer
edges, where every interval holds its lower edge and the last one holds its upper edge too.
-/

namespace Bins

variable {ι α : Type}

/-- Groups that no two of share an item and that leave out no item are the list again. -/
theorem flatMap_filter_perm {groups : List ι} {items : List α} (inside : ι → α → Bool)
    (covers : ∀ x ∈ items, ∃ i ∈ groups, inside i x = true)
    (apart : groups.Pairwise fun i j => ∀ x ∈ items, inside i x = true → inside j x = false) :
    (groups.flatMap fun i => items.filter (inside i)).Perm items := by
  induction groups generalizing items with
  | nil =>
      cases items with
      | nil => exact List.Perm.nil
      | cons x rest =>
          obtain ⟨i, there, -⟩ := covers x List.mem_cons_self
          exact absurd there List.not_mem_nil
  | cons i groups ih =>
      obtain ⟨first, others⟩ := List.pairwise_cons.mp apart
      -- the later groups lie in what the first one leaves
      have later : (groups.flatMap fun j => items.filter (inside j)) =
          groups.flatMap fun j => (items.filter fun x => !inside i x).filter (inside j) := by
        refine List.flatMap_congr fun j there => ?_
        rw [List.filter_filter]
        refine List.filter_congr fun x member => ?_
        cases held : inside i x with
        | false => rw [Bool.not_false, Bool.and_true]
        | true => rw [first j there x member held, Bool.false_and]
      rw [List.flatMap_cons, later]
      refine (List.Perm.append_left _ (ih ?_ ?_)).trans (List.filter_append_perm _ _)
      · intro x member
        obtain ⟨kept, left⟩ := List.mem_filter.mp member
        obtain ⟨j, there, held⟩ := covers x kept
        cases List.mem_cons.mp there with
        | inl same =>
            rw [same] at held
            rw [held] at left
            cases left
        | inr behind => exact ⟨j, behind, held⟩
      · exact others.imp fun separate x member => separate x (List.mem_of_mem_filter member)

variable [LinearOrder α]

/-- From one edge to the next, which belongs to the last interval only. -/
def inBin (edges : ℕ → α) (last index : ℕ) (x : α) : Bool :=
  edges index ≤ x && if index = last then x ≤ edges (index + 1) else x < edges (index + 1)

theorem inBin_true {edges : ℕ → α} {last index : ℕ} {x : α} : inBin edges last index x = true ↔
    edges index ≤ x ∧ (x < edges (index + 1) ∨ index = last ∧ x ≤ edges (index + 1)) := by
  unfold inBin
  by_cases final : index = last
  · rw [if_pos final, Bool.and_eq_true, decide_eq_true_eq, decide_eq_true_eq]
    refine and_congr_right fun _ => ⟨fun upper => Or.inr ⟨final, upper⟩, fun upper => ?_⟩
    exact upper.elim le_of_lt And.right
  · rw [if_neg final, Bool.and_eq_true, decide_eq_true_eq, decide_eq_true_eq]
    exact and_congr_right fun _ => ⟨Or.inl, fun upper => upper.resolve_right fun ended => final ended.1⟩

/-- Some interval holds what lies between the outer edges. -/
theorem covered {edges : ℕ → α} {last : ℕ} {x : α} (lower : edges 0 ≤ x) (upper : x ≤ edges (last + 1)) :
    ∃ index ∈ List.range (last + 1), inBin edges last index x = true := by
  -- the first edge above `x`, if one is
  by_cases above : ∃ index ≤ last, x < edges (index + 1)
  · classical
    obtain ⟨index, ⟨bound, high⟩, least⟩ : ∃ index, (index ≤ last ∧ x < edges (index + 1)) ∧
        ∀ before < index, ¬(before ≤ last ∧ x < edges (before + 1)) :=
      ⟨Nat.find above, Nat.find_spec above, fun _ => Nat.find_min above⟩
    refine ⟨index, List.mem_range.mpr (Nat.lt_succ_of_le bound), inBin_true.mpr ⟨?_, Or.inl high⟩⟩
    cases index with
    | zero => exact lower
    | succ before => exact not_lt.mp fun high => least before (Nat.lt_succ_self before) ⟨by omega, high⟩
  · refine ⟨last, List.mem_range.mpr (Nat.lt_succ_self last), inBin_true.mpr ⟨?_, Or.inr ⟨rfl, upper⟩⟩⟩
    cases last with
    | zero => exact lower
    | succ before => exact not_lt.mp fun high => above ⟨before, Nat.le_succ before, high⟩

/-- Of two intervals the later one is above the earlier one. -/
theorem separate {edges : ℕ → α} {last i j : ℕ} {x : α}
    (rising : ∀ index ≤ last, edges index ≤ edges (index + 1)) (before : i < j) (bound : j ≤ last)
    (held : inBin edges last i x = true) : inBin edges last j x = false := by
  have climbs : ∀ k, i + 1 + k ≤ last + 1 → edges (i + 1) ≤ edges (i + 1 + k) := by
    intro k
    induction k with
    | zero => exact fun _ => le_refl _
    | succ k ih => exact fun within => (ih (by omega)).trans (rising (i + 1 + k) (by omega))
  have reaches := climbs (j - (i + 1)) (by omega)
  rw [show i + 1 + (j - (i + 1)) = j by omega] at reaches
  rw [Bool.eq_false_iff]
  intro again
  cases (inBin_true.mp held).2 with
  | inl high => exact absurd (lt_of_lt_of_le high (reaches.trans (inBin_true.mp again).1)) (lt_irrefl x)
  | inr final => omega

/-- The intervals between rising edges take the list apart. -/
theorem bins_perm {β : Type} {edges : ℕ → α} {last : ℕ} {items : List β} (value : β → α) {lower upper : α}
    (start : edges 0 = lower) (ending : edges (last + 1) = upper)
    (rising : ∀ index ≤ last, edges index ≤ edges (index + 1))
    (bounded : ∀ item ∈ items, lower ≤ value item ∧ value item ≤ upper) :
    ((List.range (last + 1)).flatMap fun index => items.filter fun item => inBin edges last index (value item)).Perm
      items := by
  refine flatMap_filter_perm (fun index item => inBin edges last index (value item)) (fun item member => ?_) ?_
  · rw [← start, ← ending] at bounded
    exact covered (bounded item member).1 (bounded item member).2
  · refine List.pairwise_lt_range.imp_of_mem fun {i j} _ behind before item _ => ?_
    exact separate rising before (Nat.le_of_lt_succ (List.mem_range.mp behind))

end Bins
