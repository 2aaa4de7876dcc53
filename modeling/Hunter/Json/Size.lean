import Hunter.Json.Text

/-!
A bound on the bytes of a dump that does not look at the characters of its texts:
no character takes more than six bytes, escaped or encoded.
-/

namespace Json

mutual
def weight : Json → Nat
  | .null | .bool _ => 5
  | .int n => 4 * (renderInt n).length
  | .float text => 4 * text.val.length
  | .str s => 6 * s.scalars.length + 2
  | .arr items => weightItems items + 2
  | .obj fields => weightFields fields + 2
def weightItems : List Json → Nat
  | [] => 0
  | j :: items => weight j + 1 + weightItems items
def weightFields : List (String × Json) → Nat
  | [] => 0
  | (k, v) :: fields => 6 * k.scalars.length + 4 + weight v + weightFields fields
end

/-- The keys of an object weigh on their own, whatever stands under them. -/
def keyWeight (keys : List String) : Nat := (keys.map fun key => 6 * key.scalars.length + 4).sum

theorem weightFields_eq (fields : List (String × Json)) :
    weightFields fields = keyWeight (fields.map Prod.fst) + (fields.map fun f => weight f.2).sum := by
  induction fields with
  | nil => rfl
  | cons field fields ih =>
      simp only [weightFields, ih, keyWeight, List.map_cons, List.sum_cons]
      omega

theorem weight_obj (fields : List (String × Json)) : weight (.obj fields) =
    keyWeight (fields.map Prod.fst) + (fields.map fun f => weight f.2).sum + 2 := by
  rw [weight, weightFields_eq]

theorem weightFields_append (before after : List (String × Json)) :
    weightFields (before ++ after) = weightFields before + weightFields after := by
  induction before with
  | nil => simp [weightFields]
  | cons field before ih =>
      simp only [List.cons_append, weightFields, ih]
      omega

theorem weight_str (s : String) : weight (.str s) = 6 * s.scalars.length + 2 := by
  rw [weight]

def bytes (text : List Char) : Nat := (Chars.encode text).length

theorem bytes_append (a b : List Char) : bytes (a ++ b) = bytes a + bytes b := by
  simp [bytes, Chars.encode]

theorem bytes_cons (c : Char) (text : List Char) : bytes (c :: text) = bytes [c] + bytes text :=
  bytes_append [c] text

theorem bytes_char (c : Char) : bytes [c] ≤ 4 := by
  simp only [bytes, Chars.encode, List.flatMap_cons, List.flatMap_nil, List.append_nil,
    String.utf8EncodeChar]
  split
  · simp
  · split
    · simp
    · split <;> simp

theorem bytes_le (text : List Char) : bytes text ≤ 4 * text.length := by
  induction text with
  | nil => exact Nat.le_refl _
  | cons c text ih =>
      have first := bytes_char c
      rw [bytes_cons, List.length_cons]
      omega

theorem bytes_escapeChar (c : Char) : bytes (escapeChar c) ≤ 6 := by
  have short : ∀ entry ∈ shortEscapes, bytes ['\\', entry.2] ≤ 6 := by decide
  have digit : ∀ d < 16, bytes [Nat.digitChar d] = 1 := by decide
  unfold escapeChar
  split
  · rename_i e found
    obtain ⟨k, listed⟩ : ∃ k, (k, e) ∈ shortEscapes := by
      revert found
      generalize shortEscapes = entries
      intro found
      obtain ⟨before, after, rfl, -⟩ := List.lookup_eq_some_iff.mp found
      exact ⟨c, by simp⟩
    exact short _ listed
  · split
    · rename_i small
      have escape : bytes ['\\', 'u', '0', '0'] = 4 := by decide
      have high := digit (c.toNat / 16) (by omega)
      have low := digit (c.toNat % 16) (Nat.mod_lt _ (by decide))
      change bytes (['\\', 'u', '0', '0'] ++ ([(c.toNat / 16).digitChar] ++ [(c.toNat % 16).digitChar])) ≤ 6
      rw [bytes_append, bytes_append, escape, high, low]
    · exact Nat.le_trans (bytes_char c) (by decide)

theorem bytes_renderString (s : String) : bytes (renderString s) ≤ 6 * s.scalars.length + 2 := by
  have quote : bytes [quotationMark] = 1 := by decide
  have inner : bytes (s.scalars.flatMap escapeChar) ≤ 6 * s.scalars.length := by
    induction s.scalars with
    | nil => exact Nat.le_refl _
    | cons c text ih =>
        have first := bytes_escapeChar c
        rw [List.flatMap_cons, bytes_append, List.length_cons]
        omega
  rw [renderString, bytes_cons, bytes_append, quote]
  omega

theorem bytes_comma {α : Type} (items : List α) : bytes (comma items) ≤ 1 := by
  have one : bytes [','] = 1 := by decide
  cases items with
  | nil => exact Nat.zero_le _
  | cons a items => exact Nat.le_of_eq one

theorem bytes_render (j : Json) : bytes (render j) ≤ weight j := by
  have bracket : bytes ['['] = 1 ∧ bytes [']'] = 1 := by decide
  have brace : bytes ['{'] = 1 ∧ bytes ['}'] = 1 := by decide
  induction j with
  | null => exact (show bytes ['n', 'u', 'l', 'l'] ≤ 5 by decide)
  | bool b =>
      cases b with
      | true => exact (show bytes ['t', 'r', 'u', 'e'] ≤ 5 by decide)
      | false => exact (show bytes ['f', 'a', 'l', 's', 'e'] ≤ 5 by decide)
  | int n => exact bytes_le _
  | float text => exact bytes_le _
  | str s => exact bytes_renderString s
  | arr items ih =>
      have each : bytes (renderItems items) ≤ weightItems items + 1 := by
        induction items with
        | nil => exact Nat.le_of_eq bracket.2
        | cons j items rest =>
            have first := ih j (by simp)
            have others := rest fun item member => ih item (by simp [member])
            have separator := bytes_comma items
            simp only [renderItems, weightItems, bytes_append]
            omega
      simp only [render, weight]
      rw [bytes_cons, bracket.1]
      omega
  | obj fields ih =>
      have each : bytes (renderFields fields) ≤ weightFields fields + 1 := by
        induction fields with
        | nil => exact Nat.le_of_eq brace.2
        | cons field fields rest =>
            obtain ⟨k, v⟩ := field
            have value : bytes (render v) ≤ weight v := ih (k, v) (by simp)
            have others := rest fun field member => ih field (by simp [member])
            have separator := bytes_comma fields
            have key := bytes_renderString k
            have colon : bytes [':'] = 1 := by decide
            simp only [renderFields, weightFields, bytes_append]
            rw [bytes_cons, bytes_append, bytes_append, colon]
            omega
      simp only [render, weight]
      rw [bytes_cons, brace.1]
      omega

theorem weightFields_insertField (k : String) (v : Json) (fields : List (String × Json)) :
    weightFields (insertField k v fields) ≤ 6 * k.scalars.length + 4 + weight v + weightFields fields := by
  induction fields with
  | nil => exact Nat.le_refl _
  | cons field fields ih =>
      obtain ⟨k', v'⟩ := field
      simp only [insertField]
      split
      · exact Nat.le_refl _
      · split
        · simp only [weightFields]
          omega
        · simp only [weightFields]
          omega

theorem weight_canon (j : Json) : weight j.canon ≤ weight j := by
  induction j with
  | null | bool _ | int _ | float _ | str _ => exact Nat.le_refl _
  | arr items ih =>
      have each : weightItems (canonItems items) ≤ weightItems items := by
        induction items with
        | nil => exact Nat.le_refl _
        | cons j items rest =>
            have first := ih j (by simp)
            have others := rest fun item member => ih item (by simp [member])
            simp only [canonItems, weightItems]
            omega
      simp only [canon, weight]
      omega
  | obj fields ih =>
      have each : weightFields (canonFields fields) ≤ weightFields fields := by
        induction fields with
        | nil => exact Nat.le_refl _
        | cons field fields rest =>
            obtain ⟨k, v⟩ := field
            have value : weight v.canon ≤ weight v := ih (k, v) (by simp)
            have others := rest fun field member => ih field (by simp [member])
            have inserted := weightFields_insertField k (canon v) (canonFields fields)
            simp only [canonFields, weightFields]
            omega
      simp only [canon, weight]
      omega

/-- The bytes of a dump are bounded by the weight of the value. -/
theorem bytes_dump_le (j : Json) : (Chars.encode (render j.canon)).length ≤ weight j :=
  Nat.le_trans (bytes_render j.canon) (weight_canon j)

end Json
