import Hunter.Execution.Canonical
import Hunter.Json.RoundTrip

/-!
The dump of a value in ASCII, with every other character as its UTF-16 escapes. Reading
it gives the canonical value back as reading the plain dump does.
-/

namespace Json

open Hunter.Execution.Canonical (asciiChar hex4)

/-- `json.dumps(value, sort_keys=True, separators=(",", ":"))`. -/
def asciiDumps (j : Json) : String := String.ofList ((render j.canon).flatMap asciiChar)

def asciiEscape (c : Char) : List Char := (escapeChar c).flatMap asciiChar

theorem asciiChar_of_lt {c : Char} (low : c.toNat < 0x7f) : asciiChar c = [c] := if_pos low

theorem flatMap_asciiChar {text : List Char} (low : ∀ c ∈ text, c.toNat < 0x7f) :
    text.flatMap asciiChar = text := by
  induction text with
  | nil => rfl
  | cons c text ih =>
      rw [List.flatMap_cons, asciiChar_of_lt (low c List.mem_cons_self),
        ih fun d there => low d (List.mem_cons_of_mem c there)]
      rfl

theorem hexValue_digitChar {d : Nat} (small : d < 16) : hexValue d.digitChar = some d := by
  revert d
  decide

theorem hex4_eq (n : Nat) : hex4 n =
    [(n / 16 / 16 / 16 % 16).digitChar, (n / 16 / 16 % 16).digitChar, (n / 16 % 16).digitChar,
      (n % 16).digitChar] := rfl

theorem hexCode_digits {n : Nat} (small : n < 0x10000) :
    hexCode (n / 16 / 16 / 16 % 16).digitChar (n / 16 / 16 % 16).digitChar (n / 16 % 16).digitChar
      (n % 16).digitChar = some n := by
  have whole : ((n / 16 / 16 / 16 % 16 * 16 + n / 16 / 16 % 16) * 16 + n / 16 % 16) * 16 + n % 16 = n := by
    omega
  simp only [hexCode, hexValue_digitChar (Nat.mod_lt _ (by decide : 0 < 16)), Option.bind_eq_bind,
    Option.bind_some, pure, whole]

theorem parseString_unit {n : Nat} (small : n < 0x10000) (single : n < 0xd800 ∨ 0xdfff < n)
    (text : List Char) :
    parseString ('\\' :: 'u' :: hex4 n ++ text) =
      (parseString text).map fun (tail, rest) => (Char.ofNat n :: tail, rest) := by
  have slash : '\\' ≠ quotationMark := by decide
  have high : ¬(0xd800 ≤ n ∧ n < 0xdc00) := by omega
  have low : ¬(0xdc00 ≤ n ∧ n < 0xe000) := by omega
  rw [hex4_eq]
  simp only [List.cons_append, List.nil_append]
  rw [parseString.eq_def]
  simp only [slash, if_false, if_true, hexCode_digits small, Option.bind_eq_bind, Option.bind_some, high,
    low]
  cases parseString text <;> rfl

theorem parseString_pair {high low : Nat} (first : 0xd800 ≤ high ∧ high < 0xdc00)
    (second : 0xdc00 ≤ low ∧ low < 0xe000) (text : List Char) :
    parseString ('\\' :: 'u' :: hex4 high ++ '\\' :: 'u' :: hex4 low ++ text) =
      (parseString text).map fun (tail, rest) =>
        (Char.ofNat (0x10000 + (high - 0xd800) * 0x400 + (low - 0xdc00)) :: tail, rest) := by
  have slash : '\\' ≠ quotationMark := by decide
  rw [hex4_eq, hex4_eq]
  simp only [List.cons_append, List.nil_append]
  rw [parseString.eq_def]
  simp only [slash, if_false, if_true, hexCode_digits (show high < 0x10000 by omega),
    hexCode_digits (show low < 0x10000 by omega), Option.bind_eq_bind, Option.bind_some, first, second,
    and_self]
  cases parseString text <;> rfl

theorem lookup_shortEscapes {c e : Char} (found : shortEscapes.lookup c = some e) :
    c.toNat < 0x7f ∧ e.toNat < 0x7f := by
  have member : (c, e) ∈ shortEscapes := by
    obtain ⟨before, after, split, _⟩ := List.lookup_eq_some_iff.mp found
    simp [split]
  have all : ∀ pair ∈ shortEscapes, pair.1.toNat < 0x7f ∧ pair.2.toNat < 0x7f := by decide
  exact all (c, e) member

theorem escapeChar_low {c : Char} (low : c.toNat < 0x7f) : ∀ d ∈ escapeChar c, d.toNat < 0x7f := by
  intro d there
  unfold escapeChar at there
  split at there
  · rename_i e found
    rcases List.mem_cons.mp there with rfl | there
    · decide
    · exact List.mem_singleton.mp there ▸ (lookup_shortEscapes found).2
  · split at there
    · rename_i control
      have digit : ∀ n < 16, n.digitChar.toNat < 0x7f := by decide
      simp only [List.mem_cons, List.not_mem_nil, or_false] at there
      rcases there with rfl | rfl | rfl | rfl | rfl | rfl
      · decide
      · decide
      · decide
      · decide
      · exact digit _ (by omega)
      · exact digit _ (Nat.mod_lt _ (by decide))
    · exact List.mem_singleton.mp there ▸ low

theorem escapeChar_high {c : Char} (high : ¬c.toNat < 0x7f) : escapeChar c = [c] := by
  unfold escapeChar
  split
  · rename_i e found
    exact absurd (lookup_shortEscapes found).1 high
  · exact if_neg (by omega)

theorem escapes_asciiEscape : Escapes asciiEscape := by
  constructor
  intro c text
  by_cases low : c.toNat < 0x7f
  · rw [asciiEscape, flatMap_asciiChar (escapeChar_low low), parseString_escapeChar]
  · have valid : c.toNat < 0xd800 ∨ 0xdfff < c.toNat ∧ c.toNat < 0x110000 := c.valid
    rw [asciiEscape, escapeChar_high low, List.flatMap_singleton, asciiChar, if_neg low]
    split
    · rename_i unit
      rw [parseString_unit unit (by omega), Char.ofNat_toNat]
    · rename_i wide
      have whole : 0x10000 + (0xd800 + (c.toNat - 0x10000) / 0x400 - 0xd800) * 0x400 +
          (0xdc00 + (c.toNat - 0x10000) % 0x400 - 0xdc00) = c.toNat := by
        omega
      rw [parseString_pair (by omega) (by omega), whole, Char.ofNat_toNat]

theorem numberChar_low {text : List Char} (all : text.all numberChar = true) :
    text.flatMap asciiChar = text := by
  refine flatMap_asciiChar fun c there => ?_
  have number : numberChar c = true := List.all_eq_true.mp all c there
  simp only [numberChar, Bool.or_eq_true, beq_iff_eq, Char.isDigit, Bool.and_eq_true,
    decide_eq_true_eq] at number
  rcases number with ((((digit | rfl) | rfl) | rfl) | rfl) | rfl
  · exact Nat.lt_of_le_of_lt digit.2 (by decide)
  · decide
  · decide
  · decide
  · decide
  · decide

theorem comma_low {α : Type} (items : List α) : (comma items).flatMap asciiChar = comma items := by
  cases items with
  | nil => rfl
  | cons _ _ => rfl

theorem renderStringWith_asciiEscape (s : String) :
    renderStringWith asciiEscape s = (renderString s).flatMap asciiChar := by
  rw [renderStringWith, renderString, List.flatMap_cons, List.flatMap_append, List.flatMap_assoc]
  rfl

theorem renderWith_asciiEscape (j : Json) : renderWith asciiEscape j = (render j).flatMap asciiChar := by
  induction j with
  | null => rfl
  | bool b => cases b <;> rfl
  | int n => exact (numberChar_low (renderInt_all n)).symm
  | float text => exact (numberChar_low (floatText_all text.property)).symm
  | str s => exact renderStringWith_asciiEscape s
  | arr items ih =>
      have all : renderItemsWith asciiEscape items = (renderItems items).flatMap asciiChar := by
        induction items with
        | nil => rfl
        | cons j items tail =>
            rw [renderItemsWith, renderItems, List.flatMap_append, List.flatMap_append, comma_low,
              ih j List.mem_cons_self, tail fun item m => ih item (List.mem_cons_of_mem j m)]
      rw [renderWith, render, all]
      rfl
  | obj fields ih =>
      have all : renderFieldsWith asciiEscape fields = (renderFields fields).flatMap asciiChar := by
        induction fields with
        | nil => rfl
        | cons field fields tail =>
            obtain ⟨k, v⟩ := field
            rw [renderFieldsWith, renderFields, List.flatMap_append, List.flatMap_cons,
              List.flatMap_append, List.flatMap_append, comma_low, renderStringWith_asciiEscape,
              ih (k, v) List.mem_cons_self,
              tail fun field m => ih field (List.mem_cons_of_mem (k, v) m)]
            rfl
      rw [renderWith, render, all]
      rfl

theorem loads_asciiDumps (j : Json) : loads (asciiDumps j) = some j.canon := by
  rw [asciiDumps, ← renderWith_asciiEscape]
  exact loads_renderWith escapes_asciiEscape j

theorem asciiDumps_canon (j : Json) : asciiDumps j.canon = asciiDumps j := by
  rw [asciiDumps, asciiDumps, canon_canon]

end Json
