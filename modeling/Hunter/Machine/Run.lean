import Mathlib

/-!
Runs of a labelled step relation, with the labels kept in order. A run is built
at its end, so an invariant may speak of the whole history that led to a state,
and it splits at every label.
-/

inductive Run {σ α : Type} (step : σ → α → σ → Prop) (start : σ) : List α → σ → Prop where
  | nil : Run step start [] start
  | snoc {labels : List α} {s t : σ} {label : α} :
      Run step start labels s → step s label t → Run step start (labels ++ [label]) t

namespace Run

variable {σ α : Type} {step : σ → α → σ → Prop}

theorem trans {s t u : σ} {xs ys : List α} (first : Run step s xs t) (second : Run step t ys u) :
    Run step s (xs ++ ys) u := by
  induction second with
  | nil => simpa using first
  | snoc _ last ih => rw [← List.append_assoc]; exact ih.snoc last

theorem cons {s t u : σ} {label : α} {labels : List α} (first : step s label t)
    (rest : Run step t labels u) : Run step s (label :: labels) u :=
  trans (nil.snoc first : Run step s ([] ++ [label]) t) rest

theorem nil_inv {s t : σ} (h : Run step s [] t) : t = s := by
  generalize eq : ([] : List α) = labels at h
  cases h with
  | nil => rfl
  | snoc _ _ => simp at eq

theorem cons_inv {s u : σ} {label : α} {labels : List α} (h : Run step s (label :: labels) u) :
    ∃ t, step s label t ∧ Run step t labels u := by
  generalize eq : label :: labels = all at h
  induction h generalizing labels with
  | nil => cases eq
  | @snoc before s' t' last run last_step ih =>
      cases before with
      | nil =>
          simp only [List.nil_append, List.cons.injEq] at eq
          obtain ⟨rfl, rfl⟩ := eq
          cases nil_inv run
          exact ⟨t', last_step, nil⟩
      | cons first before =>
          simp only [List.cons_append, List.cons.injEq] at eq
          obtain ⟨rfl, rfl⟩ := eq
          obtain ⟨t, first_step, rest⟩ := ih rfl
          exact ⟨t, first_step, rest.snoc last_step⟩

theorem append_inv {s u : σ} {xs ys : List α} (h : Run step s (xs ++ ys) u) :
    ∃ t, Run step s xs t ∧ Run step t ys u := by
  induction xs generalizing s with
  | nil => exact ⟨s, nil, h⟩
  | cons x xs ih =>
      obtain ⟨t, first, rest⟩ := cons_inv h
      obtain ⟨m, front, back⟩ := ih rest
      exact ⟨m, cons first front, back⟩

/-- A run splits around each of its labels. -/
theorem split_at {s u : σ} {labels : List α} {i : Nat} {label : α} (h : Run step s labels u)
    (at_ : labels[i]? = some label) :
    ∃ before after, Run step s (labels.take i) before ∧ step before label after ∧
      Run step after (labels.drop (i + 1)) u := by
  obtain ⟨bound, rfl⟩ := List.getElem?_eq_some_iff.mp at_
  have parts : labels = labels.take i ++ labels[i] :: labels.drop (i + 1) := by
    rw [List.getElem_cons_drop, List.take_append_drop]
  rw [parts] at h
  obtain ⟨before, front, back⟩ := append_inv h
  obtain ⟨after, middle, back⟩ := cons_inv back
  exact ⟨before, after, front, middle, back⟩

/-- An invariant of the history and the state that every step keeps. -/
theorem invariant {start s : σ} {labels : List α} (P : List α → σ → Prop) (init : P [] start)
    (keep : ∀ labels s label t, Run step start labels s → P labels s → step s label t →
      P (labels ++ [label]) t)
    (h : Run step start labels s) : P labels s := by
  induction h with
  | nil => exact init
  | snoc run last ih => exact keep _ _ _ _ run ih last

/-- A property of the state that every step keeps. -/
theorem preserves {start s : σ} {labels : List α} (P : σ → Prop)
    (keep : ∀ s label t, P s → step s label t → P t) (h : Run step start labels s)
    (init : P start) : P s :=
  invariant (fun _ => P) init (fun _ _ _ _ _ => keep _ _ _) h

theorem imp {step' : σ → α → σ → Prop} {s t : σ} {labels : List α} (h : Run step s labels t)
    (weaker : ∀ s a t, step s a t → step' s a t) : Run step' s labels t := by
  induction h with
  | nil => exact nil
  | snoc _ last ih => exact ih.snoc (weaker _ _ _ last)

/-- Steps under other labels make a run under the other labels. -/
theorem relabel {β : Type} {step' : σ → β → σ → Prop} {R : α → β → Prop} {start s : σ}
    {labels : List α} (h : Run step start labels s)
    (steps : ∀ s a t, step s a t → ∃ b, R a b ∧ step' s b t) :
    ∃ labels', List.Forall₂ R labels labels' ∧ Run step' start labels' s := by
  induction h with
  | nil => exact ⟨[], List.Forall₂.nil, nil⟩
  | snoc _ last ih =>
      obtain ⟨before, related, run⟩ := ih
      obtain ⟨b, r, next⟩ := steps _ _ _ last
      exact ⟨before ++ [b], List.rel_append related (List.Forall₂.cons r List.Forall₂.nil),
        run.snoc next⟩

/-- A fold that may fail is a run of its step. -/
theorem of_foldlM {ε : Type} {f : σ → α → Except ε σ} {labels : List α} {start s : σ}
    (h : labels.foldlM f start = .ok s) : Run (fun s a t => f s a = .ok t) start labels s := by
  induction labels generalizing start with
  | nil =>
      cases h
      exact nil
  | cons a labels ih =>
      rw [List.foldlM_cons] at h
      cases first : f start a with
      | error e => rw [first] at h; cases h
      | ok t =>
          rw [first] at h
          exact cons first (ih h)

end Run
