import Mathlib

/-!
Edits of a sequence at the items that have a property: items with it are added and removed, and so
changed, and the others stay in their order. What is made of the other items alone does not notice.
-/

variable {α : Type}

inductive Edits (late : α → Prop) : List α → List α → Prop where
  | nil : Edits late [] []
  | keep (item : α) {items others : List α} (rest : Edits late items others) :
      Edits late (item :: items) (item :: others)
  | remove {item : α} {items others : List α} (there : late item) (rest : Edits late items others) :
      Edits late (item :: items) others
  | add {item : α} {items others : List α} (there : late item) (rest : Edits late items others) :
      Edits late items (item :: others)

namespace Edits

variable {late : α → Prop} {items others : List α}

theorem refl (items : List α) : Edits late items items := by
  induction items with
  | nil => exact .nil
  | cons item items ih => exact .keep item ih

/-- A filter that lets none of the edited items through. -/
theorem filter (edits : Edits late items others) {p : α → Bool} (hidden : ∀ item, late item → p item = false) :
    items.filter p = others.filter p := by
  induction edits with
  | nil => rfl
  | keep item _ ih => simp only [List.filter_cons, ih]
  | remove there _ ih => rw [List.filter_cons_of_neg (by simp [hidden _ there]), ih]
  | add there _ ih => rw [List.filter_cons_of_neg (by simp [hidden _ there]), ih]

end Edits
