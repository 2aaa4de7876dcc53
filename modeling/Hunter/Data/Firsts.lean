import Mathlib

/-!
The first item of each key in a list. In a sorted list it is the least of its key, so the
items that are kept depend on the members of the list only, and not on their order or on
how often one is repeated.
-/

namespace Firsts

variable {α κ : Type} [DecidableEq κ] (key : α → κ)

/-- The items whose key has not come before. -/
def firsts : List α → List α
  | [] => []
  | a :: items => a :: (firsts items).filter fun b => key b ≠ key a

variable {key}

theorem firsts_sublist (items : List α) : (firsts key items).Sublist items := by
  induction items with
  | nil => exact List.Sublist.slnil
  | cons a items ih => exact (List.filter_sublist.trans ih).cons_cons a

theorem firsts_distinct (items : List α) : ((firsts key items).map key).Nodup := by
  induction items with
  | nil => exact List.nodup_nil
  | cons a items ih =>
      rw [firsts, List.map_cons, List.nodup_cons]
      refine ⟨fun again => ?_, ih.sublist (List.filter_sublist.map key)⟩
      obtain ⟨b, inside, same⟩ := List.mem_map.mp again
      have other := (List.mem_filter.mp inside).2
      exact absurd same (of_decide_eq_true other)

theorem exists_first {items : List α} {a : α} (member : a ∈ items) :
    ∃ b ∈ firsts key items, key b = key a := by
  induction items with
  | nil => exact absurd member List.not_mem_nil
  | cons c items ih =>
      by_cases same : key c = key a
      · exact ⟨c, List.mem_cons_self, same⟩
      · have later : a ∈ items := by
          cases List.mem_cons.mp member with
          | inl here => exact absurd (congrArg key here.symm) same
          | inr there => exact there
        obtain ⟨b, inside, equal⟩ := ih later
        have other : decide (key b ≠ key c) = true := by
          rw [equal]
          exact decide_eq_true (Ne.symm same)
        exact ⟨b, List.mem_cons_of_mem c (List.mem_filter.mpr ⟨inside, other⟩), equal⟩

section

variable {le : α → α → Prop} (refl : ∀ a, le a a)
include refl

/-- The item that is kept of a key is the least of them. -/
theorem le_of_first {items : List α} {a b : α} (sorted : items.Pairwise le)
    (first : a ∈ firsts key items) (member : b ∈ items) (same : key b = key a) : le a b := by
  induction items with
  | nil => exact absurd member List.not_mem_nil
  | cons c items ih =>
      obtain ⟨below, sorted⟩ := List.pairwise_cons.mp sorted
      cases List.mem_cons.mp first with
      | inl here =>
          rw [here]
          cases List.mem_cons.mp member with
          | inl too => exact too ▸ refl b
          | inr later => exact below b later
      | inr later =>
          obtain ⟨inside, other⟩ := List.mem_filter.mp later
          cases List.mem_cons.mp member with
          | inl here => exact absurd (here ▸ same.symm) (of_decide_eq_true other)
          | inr there => exact ih sorted inside there

theorem mem_firsts {items : List α} {a : α} (sorted : items.Pairwise le)
    (antisymm : ∀ b ∈ items, ∀ c ∈ items, le b c → le c b → b = c) :
    a ∈ firsts key items ↔ a ∈ items ∧ ∀ b ∈ items, key b = key a → le a b := by
  constructor
  · intro first
    exact ⟨(firsts_sublist items).subset first, fun b member same =>
      le_of_first refl sorted first member same⟩
  · rintro ⟨member, least⟩
    obtain ⟨b, first, same⟩ : ∃ b ∈ firsts key items, key b = key a := exists_first member
    have inside := (firsts_sublist items).subset first
    have below := le_of_first refl sorted first member same.symm
    exact antisymm a member b inside (least b inside same) below ▸ first

/-- Two sorted lists of the same members keep the same. -/
theorem firsts_congr {items others : List α} (sorted : items.Pairwise le) (sorted' : others.Pairwise le)
    (antisymm : ∀ b ∈ items, ∀ c ∈ items, le b c → le c b → b = c)
    (same : ∀ a, a ∈ items ↔ a ∈ others) : firsts key items = firsts key others := by
  have antisymm' : ∀ b ∈ others, ∀ c ∈ others, le b c → le c b → b = c := fun b b_in c c_in =>
    antisymm b ((same b).mpr b_in) c ((same c).mpr c_in)
  have members : ∀ a, a ∈ firsts key items ↔ a ∈ firsts key others := by
    intro a
    rw [mem_firsts refl sorted antisymm, mem_firsts refl sorted' antisymm']
    simp only [same]
  have perm : (firsts key items).Perm (firsts key others) :=
    (List.perm_ext_iff_of_nodup (firsts_distinct items).of_map (firsts_distinct others).of_map).mpr members
  refine List.Perm.eq_of_pairwise ?_ (sorted.sublist (firsts_sublist items))
    (sorted'.sublist (firsts_sublist others)) perm
  intro a b a_in b_in
  have inside := (firsts_sublist others).subset b_in
  exact antisymm a ((firsts_sublist items).subset a_in) b ((same b).mpr inside)

end

end Firsts
