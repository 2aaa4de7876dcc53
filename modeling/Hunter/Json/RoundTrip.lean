import Mathlib
import Hunter.Json.Text

/-!
Reading a dump gives the canonical value back, and so equal dumps come from
values that are equal up to the order of their members.
-/

namespace Json

private theorem hexCode_low : ∀ n, n < 32 →
    hexCode '0' '0' (n / 16).digitChar (n % 16).digitChar = some n := by
  decide

theorem parseString_escapeChar (c : Char) (text : List Char) :
    parseString (escapeChar c ++ text) =
      (parseString text).map fun (tail, rest) => (c :: tail, rest) := by
  unfold escapeChar
  split
  · rename_i e h
    have member : (c, e) ∈ shortEscapes := by
      obtain ⟨before, after, h, _⟩ := List.lookup_eq_some_iff.mp h
      simp [h]
    simp only [shortEscapes, List.mem_cons, Prod.mk.injEq, List.not_mem_nil, or_false] at member
    rcases member with ⟨rfl, rfl⟩ | ⟨rfl, rfl⟩ | ⟨rfl, rfl⟩ | ⟨rfl, rfl⟩ | ⟨rfl, rfl⟩ |
      ⟨rfl, rfl⟩ | ⟨rfl, rfl⟩ <;>
    · simp only [List.cons_append, List.nil_append]
      cases h : parseString text <;>
        simp [parseString, longEscape, shortEscapes, quotationMark, h]
  · rename_i h
    split
    · rename_i low
      have code := hexCode_low c.toNat low
      have high : ¬ 0xD800 ≤ c.toNat := by omega
      have high' : ¬ 0xDC00 ≤ c.toNat := by omega
      simp only [List.cons_append, List.nil_append]
      rw [parseString]
      simp [quotationMark, code, high, high', Char.ofNat_toNat]
      cases parseString text <;> rfl
    · rename_i low
      have plain : c ≠ quotationMark ∧ c ≠ '\\' := by
        constructor <;> (rintro rfl; revert h; decide)
      rw [List.singleton_append, parseString.eq_def]
      simp only [plain.1, plain.2, low, if_false]
      cases parseString text <;> rfl

/-- How a character is written in a string. -/
structure Escapes (escape : Char → List Char) : Prop where
  reads : ∀ c text, parseString (escape c ++ text) =
    (parseString text).map fun (tail, rest) => (c :: tail, rest)

def renderStringWith (escape : Char → List Char) (s : String) : List Char :=
  quotationMark :: (s.scalars.flatMap escape ++ [quotationMark])

mutual
/-- The dump of a value whose strings are escaped in another way. -/
def renderWith (escape : Char → List Char) : Json → List Char
  | .null => ['n', 'u', 'l', 'l']
  | .bool true => ['t', 'r', 'u', 'e']
  | .bool false => ['f', 'a', 'l', 's', 'e']
  | .int n => renderInt n
  | .float text => text.val
  | .str s => renderStringWith escape s
  | .arr items => '[' :: renderItemsWith escape items
  | .obj fields => '{' :: renderFieldsWith escape fields
def renderItemsWith (escape : Char → List Char) : List Json → List Char
  | [] => [']']
  | j :: items => renderWith escape j ++ (comma items ++ renderItemsWith escape items)
def renderFieldsWith (escape : Char → List Char) : List (String × Json) → List Char
  | [] => ['}']
  | (k, v) :: fields =>
      renderStringWith escape k ++
        ':' :: (renderWith escape v ++ (comma fields ++ renderFieldsWith escape fields))
end

theorem renderWith_escapeChar (j : Json) : renderWith escapeChar j = render j := by
  induction j with
  | null => rfl
  | bool b => cases b <;> rfl
  | int n => rfl
  | float text => rfl
  | str s => rfl
  | arr items ih =>
      have all : renderItemsWith escapeChar items = renderItems items := by
        induction items with
        | nil => rfl
        | cons j items tail =>
            rw [renderItemsWith, renderItems, ih j List.mem_cons_self,
              tail fun item m => ih item (List.mem_cons_of_mem j m)]
      rw [renderWith, render, all]
  | obj fields ih =>
      have all : renderFieldsWith escapeChar fields = renderFields fields := by
        induction fields with
        | nil => rfl
        | cons field fields tail =>
            obtain ⟨k, v⟩ := field
            rw [renderFieldsWith, renderFields, ih (k, v) List.mem_cons_self,
              tail fun field m => ih field (List.mem_cons_of_mem (k, v) m)]
            rfl
      rw [renderWith, render, all]

theorem escapes_escapeChar : Escapes escapeChar := ⟨parseString_escapeChar⟩

variable {escape : Char → List Char}

theorem parseString_renderString (escapes : Escapes escape) (s : String) (rest : List Char) :
    parseString (s.scalars.flatMap escape ++ quotationMark :: rest) = some (s.scalars, rest) := by
  induction s.scalars with
  | nil => rw [List.flatMap_nil, List.nil_append, parseString.eq_def]; simp
  | cons c chars ih =>
      simp only [List.flatMap_cons, List.append_assoc, escapes.reads, ih]
      rfl

/-- A number token ends where the text after it starts. -/
def NumberEnds (rest : List Char) : Prop := ∀ c ∈ rest.head?, numberChar c = false

theorem numberEnds_nil : NumberEnds [] := by simp [NumberEnds]

theorem numberEnds_cons {c : Char} {rest : List Char} (h : numberChar c = false) :
    NumberEnds (c :: rest) := by simpa [NumberEnds] using h

theorem token_append {token rest : List Char} (h : token.all numberChar = true)
    (ends : NumberEnds rest) :
    (token ++ rest).takeWhile numberChar = token ∧
      (token ++ rest).dropWhile numberChar = rest := by
  have all : ∀ c ∈ token, numberChar c = true := by simpa using h
  rw [List.takeWhile_append_of_pos all, List.dropWhile_append_of_pos all]
  cases rest with
  | nil => simp
  | cons c rest =>
      have hc : numberChar c = false := ends c (by simp)
      simp [hc]

theorem numberChar_of_isDigit {c : Char} (h : c.isDigit = true) : numberChar c = true := by
  simp [numberChar, h]

theorem toDigits_head (n : Nat) :
    (Nat.toDigits 10 n).length = 1 ∨ (Nat.toDigits 10 n).head? ≠ some '0' := by
  induction n using Nat.strongRecOn with
  | ind n ih =>
      by_cases small : n < 10
      · left; rw [Nat.toDigits_of_lt_base small]; rfl
      · right
        rw [Nat.toDigits_of_base_le (by decide) (by omega)]
        rw [List.head?_append_of_ne_nil _ Nat.toDigits_ne_nil]
        cases ih (n / 10) (by omega) with
        | inr h => exact h
        | inl h =>
            have tiny : n / 10 < 10 := by
              have short : (Nat.toDigits 10 (n / 10)).length ≤ 1 := by omega
              rw [Nat.length_toDigits_le_iff (by decide) (by decide)] at short
              omega
            have positive : 0 < n / 10 := by omega
            rw [Nat.toDigits_of_lt_base tiny]
            generalize n / 10 = d at tiny positive
            revert d
            decide

theorem natToken_toDigits (n : Nat) : natToken (Nat.toDigits 10 n) = some n := by
  have digits : (Nat.toDigits 10 n).all Char.isDigit = true := by
    simp only [List.all_eq_true]
    exact fun c h => Nat.isDigit_of_mem_toDigits (by decide) (by decide) h
  simp only [natToken, ne_eq, Nat.toDigits_ne_nil, not_false_iff, digits, toDigits_head, and_self,
    if_true, Nat.ofDigitChars_ten_toDigits]

theorem intToken_of_ne_minus {digits : List Char} (h : digits.head? ≠ some '-') :
    intToken digits = (natToken digits).map fun n : Nat => (n : Int) := by
  unfold intToken
  split
  · simp at h
  · rfl

theorem intToken_renderInt (n : Int) : intToken (renderInt n) = some n := by
  unfold renderInt
  split
  · simp only [intToken, natToken_toDigits, Option.map_some]
    congr 1
    omega
  · have minus : (Nat.toDigits 10 n.natAbs).head? ≠ some '-' := by
      intro h
      have digit : '-'.isDigit = true :=
        Nat.isDigit_of_mem_toDigits (by decide) (by decide) (List.mem_of_mem_head? h)
      exact absurd digit (by decide)
    rw [intToken_of_ne_minus minus, natToken_toDigits]
    simp only [Option.map_some]
    congr 1
    omega

theorem renderInt_all (n : Int) : (renderInt n).all numberChar = true := by
  have digits : ∀ c ∈ Nat.toDigits 10 n.natAbs, numberChar c = true := fun c h =>
    numberChar_of_isDigit (Nat.isDigit_of_mem_toDigits (by decide) (by decide) h)
  unfold renderInt
  split
  · simpa [numberChar] using digits
  · simpa using digits

theorem natToken_some {text : List Char} {n : Nat} (h : natToken text = some n) :
    ∀ c ∈ text, c.isDigit = true := by
  unfold natToken at h
  split at h
  · rename_i facts
    simpa using facts.2.1
  · cases h

/-- A number with a fraction or an exponent is not read as an integer. -/
theorem intToken_floatText {text : List Char} (h : floatText text = true) :
    intToken text = none := by
  have open_ (digits : List Char) (n : Nat) (hd : natToken digits = some n) :
      digits.dropWhile Char.isDigit = [] :=
    List.dropWhile_eq_nil_iff.mpr (natToken_some hd)
  unfold floatText at h
  cases text with
  | nil => simp at h
  | cons c text =>
      by_cases minus : c = '-'
      · subst minus
        simp only [intToken]
        cases hd : natToken text with
        | none => rfl
        | some n => simp [open_ text n hd] at h
      · rw [intToken_of_ne_minus (by simpa using minus)]
        cases hd : natToken (c :: text) with
        | none => rfl
        | some n => simp [minus, open_ _ n hd] at h

theorem floatText_all {text : List Char} (h : floatText text = true) :
    text.all numberChar = true := by
  unfold floatText at h
  simp only [Bool.and_eq_true] at h
  exact h.1.1.1.1.1

theorem parseNumber_renderInt (n : Int) {rest : List Char} (ends : NumberEnds rest) :
    parseNumber (renderInt n ++ rest) = some (.int n, rest) := by
  obtain ⟨take, drop⟩ := token_append (renderInt_all n) ends
  simp only [parseNumber, take, drop, intToken_renderInt]

theorem parseNumber_float (text : { text : List Char // floatText text = true })
    {rest : List Char} (ends : NumberEnds rest) :
    parseNumber (text.val ++ rest) = some (.float text, rest) := by
  obtain ⟨take, drop⟩ := token_append (floatText_all text.property) ends
  simp only [parseNumber, take, drop, intToken_floatText text.property, text.property, dif_pos]

/-- No dump starts with a space or with the end of an array or an object. -/
theorem render_head (escape : Char → List Char) (j : Json) :
    ∃ c text, renderWith escape j = c :: text ∧ space c = false ∧ c ≠ ']' ∧ c ≠ '}' := by
  have number {text : List Char} (ne : text ≠ []) (h : text.all numberChar = true) :
      ∃ c rest, text = c :: rest ∧ space c = false ∧ c ≠ ']' ∧ c ≠ '}' := by
    obtain ⟨c, rest, rfl⟩ := List.exists_cons_of_ne_nil ne
    have hc : numberChar c = true := by simp at h; exact h.1
    refine ⟨c, rest, rfl, ?_, ?_, ?_⟩
    · cases hs : space c with
      | false => rfl
      | true =>
          simp only [space, Bool.or_eq_true, beq_iff_eq] at hs
          rcases hs with ((rfl | rfl) | rfl) | rfl <;> revert hc <;> decide
    · rintro rfl; revert hc; decide
    · rintro rfl; revert hc; decide
  cases j with
  | null => exact ⟨'n', ['u', 'l', 'l'], rfl, by decide⟩
  | bool b =>
      cases b with
      | false => exact ⟨'f', ['a', 'l', 's', 'e'], rfl, by decide⟩
      | true => exact ⟨'t', ['r', 'u', 'e'], rfl, by decide⟩
  | int n =>
      refine number ?_ (renderInt_all n)
      simp only [renderWith, renderInt]
      split <;> simp [Nat.toDigits_ne_nil]
  | float text =>
      refine number ?_ (floatText_all text.property)
      intro h
      have := text.property
      simp [renderWith] at h
      simp [h, floatText] at this
  | str s => exact ⟨quotationMark, _, rfl, by decide⟩
  | arr items => exact ⟨'[', _, rfl, by decide⟩
  | obj fields => exact ⟨'{', _, rfl, by decide⟩

theorem skip_cons {c : Char} {text : List Char} (h : space c = false) :
    skip (c :: text) = c :: text := by
  simp [skip, h]

theorem parseValue_number {c : Char} (fuel : Nat) (text : List Char) (h : numberChar c = true) :
    parseValue (fuel + 1) (c :: text) = parseNumber (c :: text) := by
  have plain : space c = false := by
    cases hs : space c with
    | false => rfl
    | true =>
        simp only [space, Bool.or_eq_true, beq_iff_eq] at hs
        rcases hs with ((rfl | rfl) | rfl) | rfl <;> revert h <;> decide
  have differs (d : Char) (hd : numberChar d = false) : c ≠ d := by
    rintro rfl; rw [h] at hd; cases hd
  rw [parseValue, skip_cons plain]
  simp only [differs 'n' (by decide), differs 't' (by decide), differs 'f' (by decide),
    differs quotationMark (by decide), differs '[' (by decide), differs '{' (by decide), if_false]

/-- The reader gives back one dumped value, whatever text follows it. -/
def ReadsWith (escape : Char → List Char) (j : Json) : Prop :=
  ∀ fuel rest, (renderWith escape j).length < fuel → NumberEnds rest →
    parseValue fuel (renderWith escape j ++ rest) = some (j, rest)

theorem reads_number {j : Json} (ne : renderWith escape j ≠ []) (all : (renderWith escape j).all numberChar = true)
    (number : ∀ rest, NumberEnds rest → parseNumber (renderWith escape j ++ rest) = some (j, rest)) :
    ReadsWith escape j := by
  intro fuel rest enough ends
  obtain ⟨c, text, eq⟩ := List.exists_cons_of_ne_nil ne
  cases fuel with
  | zero => simp at enough
  | succ fuel =>
      have hc : numberChar c = true := by rw [eq] at all; simp at all; exact all.1
      rw [eq, List.cons_append, parseValue_number fuel _ hc, ← List.cons_append, ← eq]
      exact number rest ends

theorem parseItems_render (items : List Json) (ne : items ≠ []) (h : ∀ j ∈ items, ReadsWith escape j) :
    ∀ fuel rest, (renderItemsWith escape items).length < fuel →
      parseItems fuel (renderItemsWith escape items ++ rest) = some (items, rest) := by
  induction items with
  | nil => exact absurd rfl ne
  | cons j items ih =>
      intro fuel rest enough
      cases fuel with
      | zero => simp at enough
      | succ fuel =>
          have head := h j (by simp) fuel
          simp only [renderItemsWith, List.length_append, List.append_assoc] at enough ⊢
          cases items with
          | nil =>
              have first := head (']' :: rest) (by simp [comma, renderItemsWith] at enough; omega)
                (numberEnds_cons (by decide))
              simp only [comma, renderItemsWith, List.nil_append, List.cons_append]
              simp [parseItems, first, skip_cons (show space ']' = false by decide)]
          | cons k items =>
              simp only [comma, List.length_cons, List.length_nil] at enough
              have first := head (',' :: (renderItemsWith escape (k :: items) ++ rest)) (by omega)
                (numberEnds_cons (by decide))
              have others := ih (by simp) (fun j m => h j (by simp [m])) fuel rest (by omega)
              simp only [comma, List.cons_append, List.nil_append]
              simp [parseItems, first, others, skip_cons (show space ',' = false by decide)]

theorem parseFields_render (escapes : Escapes escape) (fields : List (String × Json)) (ne : fields ≠ [])
    (sorted : fields.Pairwise (fun a b => a.1 < b.1)) (h : ∀ field ∈ fields, ReadsWith escape field.2) :
    ∀ fuel rest, (renderFieldsWith escape fields).length < fuel →
      parseFields fuel (renderFieldsWith escape fields ++ rest) = some (fields, rest) := by
  induction fields with
  | nil => exact absurd rfl ne
  | cons field fields ih =>
      obtain ⟨k, v⟩ := field
      obtain ⟨below, sorted⟩ := List.pairwise_cons.mp sorted
      intro fuel rest enough
      cases fuel with
      | zero => simp at enough
      | succ fuel =>
          have head : ReadsWith escape v := h (k, v) (by simp)
          simp only [renderFieldsWith, renderStringWith, List.length_append, List.length_cons,
            List.append_assoc, List.cons_append, List.nil_append] at enough ⊢
          have key (text : List Char) := parseString_renderString escapes k (':' :: text)
          have mark : space quotationMark = false := by decide
          cases fields with
          | nil =>
              simp only [comma, renderFieldsWith, List.length_cons, List.length_nil] at enough
              have first := head fuel ('}' :: rest) (by omega) (numberEnds_cons (by decide))
              simp only [comma, renderFieldsWith, List.nil_append, List.cons_append]
              simp only [parseFields, skip_cons mark, if_true, key, Option.bind_eq_bind,
                Option.bind_some, skip_cons (show space ':' = false by decide), first,
                skip_cons (show space '}' = false by decide), String.ofList_scalars, pure]
          | cons next fields =>
              simp only [comma, List.length_cons, List.length_nil] at enough
              have first := head fuel (',' :: (renderFieldsWith escape (next :: fields) ++ rest)) (by omega)
                (numberEnds_cons (by decide))
              have others := ih (by simp) sorted (fun field m => h field (by simp [m])) fuel rest
                (by omega)
              simp only [comma, List.cons_append, List.nil_append]
              simp only [parseFields, skip_cons mark, if_true, key, Option.bind_eq_bind,
                Option.bind_some, skip_cons (show space ':' = false by decide), first, others,
                skip_cons (show space ',' = false by decide), String.ofList_scalars,
                insertField_front k v _ below, pure]

theorem reads_of_canonical (escapes : Escapes escape) (j : Json) (h : Canonical j) : ReadsWith escape j := by
  induction j with
  | null =>
      intro fuel rest enough _
      cases fuel with
      | zero => simp at enough
      | succ fuel => simp [renderWith, parseValue, skip, space, expect]
  | bool b =>
      intro fuel rest enough _
      cases fuel with
      | zero => simp at enough
      | succ fuel => cases b <;> simp [renderWith, parseValue, skip, space, expect]
  | int n =>
      refine reads_number ?_ (renderInt_all n) fun rest ends => parseNumber_renderInt n ends
      simp only [renderWith, renderInt]
      split <;> simp [Nat.toDigits_ne_nil]
  | float text =>
      refine reads_number ?_ (floatText_all text.property) fun rest ends =>
        parseNumber_float text ends
      obtain ⟨c, rest, eq, _⟩ := render_head escape (.float text)
      simp [eq]
  | str s =>
      intro fuel rest enough _
      cases fuel with
      | zero => simp at enough
      | succ fuel =>
          have mark : space quotationMark = false := by decide
          have letter : quotationMark ≠ 'n' ∧ quotationMark ≠ 't' ∧ quotationMark ≠ 'f' := by decide
          simp only [renderWith, renderStringWith, List.cons_append, List.append_assoc, List.nil_append,
            parseValue, skip_cons mark, letter, if_false, if_true, parseString_renderString escapes,
            Option.map_some, String.ofList_scalars]
  | arr items ih =>
      intro fuel rest enough _
      simp only [Canonical, canonicalItems_iff] at h
      cases fuel with
      | zero => simp at enough
      | succ fuel =>
          have bracket : space '[' = false := by decide
          simp only [renderWith, List.length_cons] at enough
          simp only [renderWith, List.cons_append, parseValue, skip_cons bracket]
          cases items with
          | nil => simp [renderItemsWith, skip, space, quotationMark]
          | cons j items =>
              have inner := parseItems_render (j :: items) (by simp)
                (fun item m => ih item m (h item m)) fuel rest (by omega)
              obtain ⟨c, text, eq, plain, ne, _⟩ := render_head escape j
              obtain ⟨tail, start⟩ : ∃ tail, renderItemsWith escape (j :: items) ++ rest = c :: tail :=
                ⟨text ++ (comma items ++ (renderItemsWith escape items ++ rest)), by simp [renderItemsWith, eq]⟩
              have mark : '[' ≠ quotationMark := by decide
              rw [start] at inner ⊢
              simp only [skip_cons plain, mark, if_false]
              simp [ne, inner]
  | obj fields ih =>
      intro fuel rest enough _
      obtain ⟨sorted, members⟩ := h
      rw [canonicalFields_iff] at members
      cases fuel with
      | zero => simp at enough
      | succ fuel =>
          have brace : space '{' = false := by decide
          simp only [renderWith, List.length_cons] at enough
          simp only [renderWith, List.cons_append, parseValue, skip_cons brace]
          cases fields with
          | nil => simp [renderFieldsWith, skip, space, quotationMark]
          | cons field fields =>
              have inner := parseFields_render escapes (field :: fields) (by simp) sorted
                (fun field m => ih field m (members field m)) fuel rest (by omega)
              have mark : space quotationMark = false := by decide
              obtain ⟨text, eq⟩ : ∃ text, renderFieldsWith escape (field :: fields) ++ rest =
                  quotationMark :: text := ⟨_, rfl⟩
              rw [eq] at inner ⊢
              have differs : '{' ≠ quotationMark ∧ quotationMark ≠ '}' := by decide
              simp only [skip_cons mark, differs, if_false]
              simp [differs, inner]

theorem loads_renderWith (escapes : Escapes escape) (j : Json) :
    loads (String.ofList (renderWith escape j.canon)) = some j.canon := by
  have whole := reads_of_canonical escapes j.canon (canon_canonical j)
    ((renderWith escape j.canon).length + 1) [] (by omega) numberEnds_nil
  rw [List.append_nil] at whole
  simp [loads, String.scalars_ofList, whole, skip]

/-- Reading the dump of a value gives the value in canonical form. -/
theorem loads_dumps (j : Json) : loads (dumps j) = some j.canon := by
  have whole := loads_renderWith escapes_escapeChar j
  rwa [renderWith_escapeChar] at whole

theorem dumps_canon (j : Json) : dumps j.canon = dumps j := by
  simp [dumps]

/-- Equal dumps come from values that are equal in canonical form. -/
theorem dumps_inj {a b : Json} : dumps a = dumps b ↔ a.canon = b.canon := by
  constructor
  · intro h
    have values := congrArg loads h
    simpa only [loads_dumps, Option.some.injEq] using values
  · intro h
    rw [← dumps_canon a, ← dumps_canon b, h]

end Json
