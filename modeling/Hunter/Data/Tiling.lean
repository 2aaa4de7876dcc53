import Mathlib

/-!
Periods that follow one another from a start to a finish, each beginning where the one before
it ends. Every time from the start up to the finish is then in one of them and in no other.
-/

namespace Tiling

variable {τ : Type} [LinearOrder τ]

/-- The periods go from the start to the finish, one after another. -/
def Tiles (finish : τ) : τ → List (τ × τ) → Prop
  | start, [] => start = finish
  | start, period :: periods => period.1 = start ∧ Tiles finish period.2 periods

variable {start finish : τ} {periods : List (τ × τ)}

theorem Tiles.le (tiles : Tiles finish start periods) (forward : ∀ period ∈ periods, period.1 ≤ period.2) :
    start ≤ finish ∧ ∀ period ∈ periods, start ≤ period.1 ∧ period.2 ≤ finish := by
  induction periods generalizing start with
  | nil => exact ⟨le_of_eq tiles, fun period member => absurd member List.not_mem_nil⟩
  | cons first rest ih =>
      obtain ⟨rfl, tiles⟩ := tiles
      obtain ⟨whole, inside⟩ := ih tiles fun period member => forward period (List.mem_cons_of_mem _ member)
      have ahead := forward first List.mem_cons_self
      refine ⟨ahead.trans whole, fun period member => ?_⟩
      cases List.mem_cons.mp member with
      | inl here =>
          rw [here]
          exact ⟨le_refl _, whole⟩
      | inr later => exact ⟨ahead.trans (inside period later).1, (inside period later).2⟩

theorem Tiles.covers (tiles : Tiles finish start periods)
    (forward : ∀ period ∈ periods, period.1 ≤ period.2) (time : τ) :
    (∃ period ∈ periods, time ∈ Set.Ico period.1 period.2) ↔ time ∈ Set.Ico start finish := by
  induction periods generalizing start with
  | nil =>
      cases tiles
      simp
  | cons first rest ih =>
      obtain ⟨rfl, tiles⟩ := tiles
      have later := fun period member => forward period (List.mem_cons_of_mem first member)
      have ahead := forward first List.mem_cons_self
      have whole := (tiles.le later).1
      simp only [List.mem_cons, exists_eq_or_imp]
      rw [ih tiles later, ← Set.mem_union, Set.Ico_union_Ico_eq_Ico ahead whole]

theorem Tiles.disjoint (tiles : Tiles finish start periods)
    (forward : ∀ period ∈ periods, period.1 ≤ period.2) :
    periods.Pairwise fun a b => Disjoint (Set.Ico a.1 a.2) (Set.Ico b.1 b.2) := by
  induction periods generalizing start with
  | nil => exact List.Pairwise.nil
  | cons first rest ih =>
      obtain ⟨-, tiles⟩ := tiles
      have later := fun period member => forward period (List.mem_cons_of_mem first member)
      refine List.pairwise_cons.mpr ⟨fun period member => ?_, ih tiles later⟩
      refine Set.disjoint_left.mpr fun time inside other => ?_
      have after := ((tiles.le later).2 period member).1
      exact absurd (inside.2.trans_le after) (not_lt.mpr other.1)

/-- A period that lasts and is within the tiles meets one of them. -/
theorem Tiles.meets (tiles : Tiles finish start periods) (forward : ∀ period ∈ periods, period.1 ≤ period.2)
    {first last : τ} (lasts : first < last) (after : start ≤ first) (before : last ≤ finish) :
    ∃ period ∈ periods, first < period.2 ∧ period.1 < last := by
  have inside : first ∈ Set.Ico start finish := ⟨after, lasts.trans_le before⟩
  obtain ⟨period, member, begun, ongoing⟩ := (tiles.covers forward first).mpr inside
  exact ⟨period, member, ongoing, begun.trans_lt lasts⟩

omit [LinearOrder τ] in
/-- Tiles that do not last can be left out. -/
theorem Tiles.filter {α : Type} {window : α → τ × τ} {items : List α} {keep : α → Bool}
    (tiles : Tiles finish start (items.map window))
    (instant : ∀ a ∈ items, keep a = false → (window a).1 = (window a).2) :
    Tiles finish start ((items.filter keep).map window) := by
  induction items generalizing start with
  | nil => exact tiles
  | cons a items ih =>
      obtain ⟨here, tiles⟩ := tiles
      have rest := ih tiles fun b member => instant b (List.mem_cons_of_mem a member)
      cases kept : keep a with
      | true =>
          rw [List.filter_cons_of_pos kept]
          exact ⟨here, rest⟩
      | false =>
          rw [List.filter_cons_of_neg (by simp [kept]), ← here, instant a List.mem_cons_self kept]
          exact rest

end Tiling
