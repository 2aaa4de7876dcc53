import Hunter.Json.Grammar
import Hunter.ResponseValidator.Runtime

/-!
The depth guard beside the grammar. The scan of a token changes the depth as a parser
opens and closes containers, and a quoted string is passed over as a whole; so over any
text that a parser can descend the scan stops exactly where too many containers are open.
-/

namespace Hunter.ResponseValidator

open Json

variable {maximum : Nat} {rest : List Char}

/-- The scan outside of a string. -/
def scan (maximum depth : Nat) (text : List Char) : Bool :=
  jsonNestingExceeds maximum depth false false text

theorem scan_plain {token : List Char} (depth : Nat) (plain : ∀ c ∈ token, ¬bracket c) :
    scan maximum depth (token ++ rest) = scan maximum depth rest := by
  induction token with
  | nil => rfl
  | cons c token ih =>
      obtain ⟨first, others⟩ := List.forall_mem_cons.mp plain
      simp only [bracket, quotationMark, List.mem_cons, List.not_mem_nil, or_false, not_or] at first
      obtain ⟨quote, square, curly, squareEnd, curlyEnd⟩ := first
      rw [← ih others, List.cons_append, scan, jsonNestingExceeds, if_neg quote, if_neg (by simp [square, curly]),
        if_neg (by simp [squareEnd, curlyEnd])]
      rfl

theorem hexValue_inside {c : Char} (hex : (hexValue c).isSome) : c ≠ '"' ∧ c ≠ '\\' := by
  refine ⟨?_, ?_⟩
  · rintro rfl
    exact absurd hex (by decide)
  · rintro rfl
    exact absurd hex (by decide)

theorem hexCode_digits {a b c d : Char} (hex : (hexCode a b c d).isSome) :
    ∀ digit ∈ [a, b, c, d], (hexValue digit).isSome := by
  unfold hexCode at hex
  cases first : hexValue a with
  | none => simp [first] at hex
  | some _ =>
    cases second : hexValue b with
    | none => simp [first, second] at hex
    | some _ =>
      cases third : hexValue c with
      | none => simp [first, second, third] at hex
      | some _ =>
        cases fourth : hexValue d with
        | none => simp [first, second, third, fourth] at hex
        | some _ => simp [first, second, third, fourth]

theorem scan_inside {c : Char} (depth : Nat) (text : List Char) (inside : c ≠ '"' ∧ c ≠ '\\') :
    jsonNestingExceeds maximum depth true false (c :: text) =
      jsonNestingExceeds maximum depth true false text := by
  rw [jsonNestingExceeds, decide_eq_true inside.1, decide_eq_false inside.2]

theorem scan_body {body : List Char} (depth : Nat) (string : StringBody body) :
    jsonNestingExceeds maximum depth true false (body ++ ([quotationMark] ++ rest)) =
      scan maximum depth rest := by
  induction string with
  | nil => rfl
  | plain quote backslash _ _ ih =>
      rw [List.cons_append, scan_inside depth _ ⟨quote, backslash⟩, ih]
  | short _ _ ih => exact ih
  | @unicode a b c d body hex _ ih =>
      have digits := hexCode_digits hex
      simp only [List.forall_mem_cons] at digits
      obtain ⟨first, second, third, fourth, -⟩ := digits
      show jsonNestingExceeds maximum depth true false (a :: b :: c :: d :: (body ++ _)) = _
      rw [scan_inside depth _ (hexValue_inside first), scan_inside depth _ (hexValue_inside second),
        scan_inside depth _ (hexValue_inside third), scan_inside depth _ (hexValue_inside fourth), ih]

theorem scan_quoted {body : List Char} (depth : Nat) (string : StringBody body) :
    scan maximum depth (quoted body ++ rest) = scan maximum depth rest := by
  have inside : scan maximum depth (quoted body ++ rest) =
      jsonNestingExceeds maximum depth true false ((body ++ [quotationMark]) ++ rest) := rfl
  rw [inside, List.append_assoc, scan_body depth string]

/-- A token opens a container, closes one, or leaves the depth as it is. -/
theorem scan_step {s t : Descent} {token : List Char} (step : Json.Step s token t)
    (shallow : s.opened.length ≤ maximum) :
    scan maximum s.opened.length (token ++ rest) =
      if maximum < t.opened.length then true else scan maximum t.opened.length rest := by
  cases step with
  | space blank =>
      rw [if_neg (Nat.not_lt.mpr shallow)]
      exact scan_plain _ (List.forall_mem_singleton.mpr (space_plain blank))
  | scalar _ token =>
      rw [if_neg (Nat.not_lt.mpr shallow)]
      rcases token.cases_plain with ⟨body, string, rfl⟩ | plain
      · exact scan_quoted _ string
      · exact scan_plain _ plain
  | openArray _ => rfl
  | openObject _ => rfl
  | nextItem =>
      rw [if_neg (Nat.not_lt.mpr shallow)]
      rfl
  | closeArray _ =>
      rw [if_neg (Nat.not_lt.mpr (Nat.le_of_succ_le shallow))]
      rfl
  | key _ string =>
      rw [if_neg (Nat.not_lt.mpr shallow)]
      exact scan_quoted _ string
  | colon =>
      rw [if_neg (Nat.not_lt.mpr shallow)]
      rfl
  | nextMember =>
      rw [if_neg (Nat.not_lt.mpr shallow)]
      rfl
  | closeObject _ =>
      rw [if_neg (Nat.not_lt.mpr (Nat.le_of_succ_le shallow))]
      rfl

/-- The scan of a text that a parser reads exceeds the bound where the descent does. -/
theorem scan_descends {s t : Descent} {text : List Char} {peak : Nat} (descends : Descends s text t peak)
    (shallow : s.opened.length ≤ maximum) :
    scan maximum s.opened.length (text ++ rest) =
      if maximum < peak then true else scan maximum t.opened.length rest := by
  induction descends with
  | nil s => exact (if_neg (Nat.not_lt.mpr shallow)).symm
  | @cons s t u token text peak step descends ih =>
      have deepest : maximum < max s.opened.length peak ↔ maximum < peak := by omega
      rw [List.append_assoc, scan_step step shallow, if_congr deepest rfl rfl]
      by_cases deep : maximum < t.opened.length
      · rw [if_pos deep, if_pos (Nat.lt_of_lt_of_le deep descends.start)]
      · rw [if_neg deep, ih (Nat.not_lt.mp deep)]

/-- The guard agrees with the grammar: over a text it is true exactly when the parse tree is
deeper than the bound, and where it is false no parser opens more containers over any prefix. -/
theorem nestingExceeds_agrees (text : List Char) (maximum : Nat) :
    (∀ tree, Derives (.element tree) text →
      (jsonNestingExceeds maximum 0 false false text = true ↔ maximum < tree.depth)) ∧
    (jsonNestingExceeds maximum 0 false false text = false →
      ∀ front rest t peak, text = front ++ rest → Descends .start front t peak → peak ≤ maximum) := by
  refine ⟨fun tree derives => ?_, fun fits front rest t peak split descends => ?_⟩
  · have whole : scan maximum 0 (text ++ []) = if maximum < tree.depth then true else false :=
      scan_descends derives.descends (Nat.zero_le maximum)
    rw [List.append_nil, scan] at whole
    rw [whole]
    simp
  · have part : scan maximum 0 (front ++ rest) =
        if maximum < peak then true else scan maximum t.opened.length rest :=
      scan_descends descends (Nat.zero_le maximum)
    rw [← split, scan, fits] at part
    by_contra deep
    rw [if_pos (Nat.not_le.mp deep)] at part
    cases part

/-- An array in an array, before an unfinished text. -/
theorem nestingExceeds_agrees_sample :
    (∃ tree, Derives (.element tree) ['[', '[', ']', ']'] ∧ tree.depth = 2 ∧
      jsonNestingExceeds 1 0 false false ['[', '[', ']', ']'] = true) ∧
    ∀ front rest t peak, ['[', '[', ']', ']', ',', ']', '['] = front ++ rest →
      Descends .start front t peak → peak ≤ 2 := by
  have none : Spaces [] := fun _ there => absurd there List.not_mem_nil
  have inner : Derives (.element (.array [])) ['[', ']'] := .emptyArray none none none
  have outer : Derives (.element (.array [.array []])) ['[', '[', ']', ']'] :=
    .array none (.lastItem inner) none
  refine ⟨⟨_, outer, rfl, ?_⟩, ?_⟩
  · exact ((nestingExceeds_agrees _ 1).1 _ outer).mpr (by decide)
  · exact (nestingExceeds_agrees _ 2).2 (by decide)

end Hunter.ResponseValidator
