import Mathlib

/-!
Texts joined by a separator of one character. The parts can be read off the joined text again if
the separator is in none of them but the last.
-/

namespace Joined

/-- A list up to the first separator. -/
theorem append_cons_inj {α : Type} {c : α} {xs ys rest rest' : List α} (plain : c ∉ xs) (plain' : c ∉ ys)
    (same : xs ++ c :: rest = ys ++ c :: rest') : xs = ys ∧ rest = rest' := by
  induction xs generalizing ys with
  | nil =>
      cases ys with
      | nil => exact ⟨rfl, (List.cons.inj same).2⟩
      | cons y ys => exact absurd (List.mem_cons.mpr (Or.inl (List.cons.inj same).1)) plain'
  | cons x xs ih =>
      cases ys with
      | nil => exact absurd (List.mem_cons.mpr (Or.inl (List.cons.inj same).1.symm)) plain
      | cons y ys =>
          obtain ⟨head, tail⟩ := List.cons.inj same
          obtain ⟨equal, ending⟩ := ih (fun there => plain (List.mem_cons_of_mem _ there))
            (fun there => plain' (List.mem_cons_of_mem _ there)) tail
          exact ⟨by rw [head, equal], ending⟩

/-- Two joined texts of as many parts are of the same parts. -/
theorem intercalate_inj {separator : String} {c : Char} (single : separator.toList = [c])
    {parts others : List String} {last final : String} (plain : ∀ part ∈ parts, c ∉ part.toList)
    (plain' : ∀ part ∈ others, c ∉ part.toList) (lengths : parts.length = others.length)
    (same : separator.intercalate (parts ++ [last]) = separator.intercalate (others ++ [final])) :
    parts = others ∧ last = final := by
  induction parts generalizing others with
  | nil =>
      cases others with
      | nil =>
          rw [List.nil_append, List.nil_append, String.intercalate_singleton, String.intercalate_singleton] at same
          exact ⟨rfl, same⟩
      | cons other others => cases lengths
  | cons part parts ih =>
      cases others with
      | nil => cases lengths
      | cons other others =>
          have apart : parts ++ [last] ≠ [] ∧ others ++ [final] ≠ [] := by
            simp
          rw [List.cons_append, List.cons_append, String.intercalate_cons_of_ne_nil apart.1,
            String.intercalate_cons_of_ne_nil apart.2] at same
          have chars := congrArg String.toList same
          simp only [String.toList_append, single, List.append_assoc, List.singleton_append] at chars
          obtain ⟨first, rest⟩ :=
            append_cons_inj (plain part List.mem_cons_self) (plain' other List.mem_cons_self) chars
          obtain ⟨equal, ending⟩ := ih (fun part there => plain part (List.mem_cons_of_mem _ there))
            (fun part there => plain' part (List.mem_cons_of_mem _ there)) (Nat.succ.inj lengths)
            (String.toList_inj.mp rest)
          exact ⟨by rw [String.toList_inj.mp first, equal], ending⟩

end Joined
