import Hunter.Text.Chars

/-!
JSON values as a program that loads and dumps them sees them. An object is the
list of its members and a reader takes the last member of a key, so a list with
a repeated key denotes the same object as the list without the shadowed member.
The canonical form sorts the members by key and drops the shadowed ones at every
depth. It is what two dumps of equal values agree on.
-/

/-- The characters of a number token. -/
def Json.numberChar (c : Char) : Bool :=
  c.isDigit || c == '-' || c == '+' || c == '.' || c == 'e' || c == 'E'

/-- The text of a number that is not an integer: an optional sign, a whole part
without superfluous zeros, then a fraction, an exponent or both. -/
def Json.floatText (text : List Char) : Bool :=
  let unsigned := if text.head? = some '-' then text.tail else text
  let whole := unsigned.takeWhile Char.isDigit
  let rest := unsigned.dropWhile Char.isDigit
  let point := rest.head? == some '.'
  let fraction := if point then rest.tail.takeWhile Char.isDigit else []
  let exponent := if point then rest.tail.dropWhile Char.isDigit else rest
  let signed := exponent.tail
  let digits :=
    if signed.head? = some '-' ∨ signed.head? = some '+' then signed.tail else signed
  text.all Json.numberChar && rest != [] &&
    whole != [] && (whole.length == 1 || whole.head? != some '0') &&
    (!point || fraction != []) &&
    (exponent == [] || ((exponent.head? == some 'e' || exponent.head? == some 'E') &&
      digits != [] && digits.all Char.isDigit))

inductive Json where
  | null
  | bool (value : Bool)
  | int (value : Int)
  | float (text : { text : List Char // Json.floatText text = true })
  | str (value : String)
  | arr (items : List Json)
  | obj (fields : List (String × Json))

namespace Json

/-- Induction with the hypothesis for every item of an array and for the value
of every member of an object. -/
@[induction_eliminator]
theorem induct {motive : Json → Prop}
    (null : motive .null) (bool : ∀ b, motive (.bool b)) (int : ∀ n, motive (.int n))
    (float : ∀ t, motive (.float t)) (str : ∀ s, motive (.str s))
    (arr : ∀ items, (∀ item ∈ items, motive item) → motive (.arr items))
    (obj : ∀ fields, (∀ field ∈ fields, motive field.2) → motive (.obj fields))
    (j : Json) : motive j :=
  @Json.rec motive (fun items => ∀ item ∈ items, motive item)
    (fun fields => ∀ field ∈ fields, motive field.2) (fun field => motive field.2)
    null bool int float str arr obj
    (by simp) (fun _ _ head tail => List.forall_mem_cons.mpr ⟨head, tail⟩)
    (by simp) (fun _ _ head tail => List.forall_mem_cons.mpr ⟨head, tail⟩)
    (fun _ _ value => value) j

mutual
def decEq : (a b : Json) → Decidable (a = b)
  | .null, .null => isTrue rfl
  | .bool a, .bool b => decidable_of_iff (a = b) (by simp)
  | .int a, .int b => decidable_of_iff (a = b) (by simp)
  | .float a, .float b => decidable_of_iff (a = b) (by simp)
  | .str a, .str b => decidable_of_iff (a = b) (by simp)
  | .arr a, .arr b => @decidable_of_iff _ (a = b) (by simp) (decEqItems a b)
  | .obj a, .obj b => @decidable_of_iff _ (a = b) (by simp) (decEqFields a b)
  | .null, .bool _ | .null, .int _ | .null, .float _ | .null, .str _ | .null, .arr _
  | .null, .obj _ | .bool _, .null | .bool _, .int _ | .bool _, .float _ | .bool _, .str _
  | .bool _, .arr _ | .bool _, .obj _ | .int _, .null | .int _, .bool _ | .int _, .float _
  | .int _, .str _ | .int _, .arr _ | .int _, .obj _ | .float _, .null | .float _, .bool _
  | .float _, .int _ | .float _, .str _ | .float _, .arr _ | .float _, .obj _ | .str _, .null
  | .str _, .bool _ | .str _, .int _ | .str _, .float _ | .str _, .arr _ | .str _, .obj _
  | .arr _, .null | .arr _, .bool _ | .arr _, .int _ | .arr _, .float _ | .arr _, .str _
  | .arr _, .obj _ | .obj _, .null | .obj _, .bool _ | .obj _, .int _ | .obj _, .float _
  | .obj _, .str _ | .obj _, .arr _ => isFalse (by simp)
def decEqItems : (a b : List Json) → Decidable (a = b)
  | [], [] => isTrue rfl
  | [], _ :: _ | _ :: _, [] => isFalse (by simp)
  | a :: as, b :: bs =>
      @decidable_of_iff _ (a = b ∧ as = bs) (by simp)
        (@instDecidableAnd _ _ (decEq a b) (decEqItems as bs))
def decEqFields : (a b : List (String × Json)) → Decidable (a = b)
  | [], [] => isTrue rfl
  | [], _ :: _ | _ :: _, [] => isFalse (by simp)
  | (k, a) :: as, (l, b) :: bs =>
      @decidable_of_iff _ ((k = l ∧ a = b) ∧ as = bs) (by simp)
        (@instDecidableAnd _ _ (@instDecidableAnd _ _ inferInstance (decEq a b))
          (decEqFields as bs))
end

instance : DecidableEq Json := decEq

/-- The value of a key: the last member that carries it. -/
def lookup (key : String) : List (String × Json) → Option Json
  | [] => none
  | (k, v) :: fields => (lookup key fields).or (if k = key then some v else none)

/-- `dict.get`: a value that is not an object has no members. -/
def get? (j : Json) (key : String) : Option Json :=
  match j with
  | .obj fields => lookup key fields
  | _ => none

/-- Whether a value counts as true. -/
def truthy : Json → Bool
  | .null => false
  | .bool b => b
  | .int n => n != 0
  | .float text =>
      (text.val.takeWhile fun c => c != 'e' && c != 'E').any fun c => c.isDigit && c != '0'
  | .str s => s != ""
  | .arr items => !items.isEmpty
  | .obj fields => !fields.isEmpty

/-- `found or other`. -/
def orElse (found : Option Json) (other : Json) : Json :=
  match found with
  | some j => if j.truthy then j else other
  | none => other

/-- Put a member in its place among members already sorted by key. A member of
the same key that is already there comes later in the source text and stays. -/
def insertField (key : String) (value : Json) : List (String × Json) → List (String × Json)
  | [] => [(key, value)]
  | (k, v) :: fields =>
      if key.scalars < k.scalars then (key, value) :: (k, v) :: fields
      else if key = k then (k, v) :: fields
      else (k, v) :: insertField key value fields

mutual
def canon : Json → Json
  | .arr items => .arr (canonItems items)
  | .obj fields => .obj (canonFields fields)
  | j => j
def canonItems : List Json → List Json
  | [] => []
  | j :: items => canon j :: canonItems items
def canonFields : List (String × Json) → List (String × Json)
  | [] => []
  | (k, v) :: fields => insertField k (canon v) (canonFields fields)
end

mutual
/-- Sorted keys, each once, at every depth. -/
def Canonical : Json → Prop
  | .arr items => CanonicalItems items
  | .obj fields => fields.Pairwise (fun a b => a.1 < b.1) ∧ CanonicalFields fields
  | _ => True
def CanonicalItems : List Json → Prop
  | [] => True
  | j :: items => Canonical j ∧ CanonicalItems items
def CanonicalFields : List (String × Json) → Prop
  | [] => True
  | (_, v) :: fields => Canonical v ∧ CanonicalFields fields
end

theorem canonItems_eq_map (items : List Json) : canonItems items = items.map canon := by
  induction items with
  | nil => rfl
  | cons j items ih => simp only [canonItems, List.map_cons, ih]

theorem canonicalItems_iff (items : List Json) :
    CanonicalItems items ↔ ∀ item ∈ items, Canonical item := by
  induction items with
  | nil => simp [CanonicalItems]
  | cons j items ih => simp [CanonicalItems, ih]

theorem canonicalFields_iff (fields : List (String × Json)) :
    CanonicalFields fields ↔ ∀ field ∈ fields, Canonical field.2 := by
  induction fields with
  | nil => simp [CanonicalFields]
  | cons field fields ih => simp [CanonicalFields, ih]

theorem lookup_insertField (key k : String) (v : Json) (fields : List (String × Json)) :
    lookup key (insertField k v fields) =
      (lookup key fields).or (if k = key then some v else none) := by
  induction fields with
  | nil => simp [insertField, lookup]
  | cons field fields ih =>
      obtain ⟨k', v'⟩ := field
      simp only [insertField, String.scalars_lt]
      split
      · rfl
      · split
        · rename_i h
          subst h
          by_cases hk : k = key <;> cases hl : lookup key fields <;> simp [lookup, hk, hl]
        · rename_i h
          simp only [lookup, ih]
          by_cases hk : k = key
          · have hk' : k' ≠ key := fun e => h (hk.trans e.symm)
            simp [hk, hk']
          · simp [hk]

theorem lookup_canonFields (key : String) (fields : List (String × Json)) :
    lookup key (canonFields fields) = (lookup key fields).map canon := by
  induction fields with
  | nil => rfl
  | cons field fields ih =>
      obtain ⟨k, v⟩ := field
      simp only [canonFields, lookup_insertField, ih, lookup]
      cases lookup key fields <;> by_cases hk : k = key <;> simp [hk]

theorem lookup_append (key : String) (before after : List (String × Json)) :
    lookup key (before ++ after) = (lookup key after).or (lookup key before) := by
  induction before with
  | nil => simp [lookup]
  | cons field before ih => simp [lookup, ih, Option.or_assoc]

theorem lookup_isSome_iff (key : String) (fields : List (String × Json)) :
    (lookup key fields).isSome ↔ key ∈ fields.map Prod.fst := by
  induction fields with
  | nil => simp [lookup]
  | cons field fields ih =>
      obtain ⟨k, v⟩ := field
      by_cases hk : k = key
      · simp [lookup, hk]
      · have hk' : key ≠ k := fun e => hk e.symm
        simp [lookup, ih, hk, hk']

theorem mem_keys_canonFields (key : String) (fields : List (String × Json)) :
    key ∈ (canonFields fields).map Prod.fst ↔ key ∈ fields.map Prod.fst := by
  rw [← lookup_isSome_iff, ← lookup_isSome_iff, lookup_canonFields, Option.isSome_map]

theorem get?_canon (j : Json) (key : String) : j.canon.get? key = (j.get? key).map canon := by
  cases j with
  | obj fields => simp only [canon, get?, lookup_canonFields]
  | _ => rfl

theorem mem_insertField {key : String} {value : Json} {fields : List (String × Json)}
    {field : String × Json} (h : field ∈ insertField key value fields) :
    field = (key, value) ∨ field ∈ fields := by
  induction fields with
  | nil => simpa [insertField] using h
  | cons head fields ih =>
      obtain ⟨k, v⟩ := head
      simp only [insertField, String.scalars_lt] at h
      split at h
      · simpa using h
      · split at h
        · exact Or.inr h
        · cases List.mem_cons.mp h with
          | inl e => exact Or.inr (by simp [e])
          | inr m => exact (ih m).imp id (List.mem_cons_of_mem _)

theorem insertField_sorted (key : String) (value : Json) (fields : List (String × Json))
    (h : fields.Pairwise (fun a b => a.1 < b.1)) :
    (insertField key value fields).Pairwise (fun a b => a.1 < b.1) := by
  induction fields with
  | nil => simp [insertField]
  | cons head fields ih =>
      obtain ⟨k, v⟩ := head
      obtain ⟨below, sorted⟩ := List.pairwise_cons.mp h
      simp only [insertField, String.scalars_lt]
      split
      · rename_i hk
        refine List.pairwise_cons.mpr ⟨?_, h⟩
        intro field m
        cases List.mem_cons.mp m with
        | inl e => subst e; exact hk
        | inr m => exact lt_trans hk (below field m)
      · split
        · exact h
        · rename_i hlt hne
          refine List.pairwise_cons.mpr ⟨?_, ih sorted⟩
          intro field m
          cases mem_insertField m with
          | inl e => subst e; exact lt_of_le_of_ne (not_lt.mp hlt) (Ne.symm hne)
          | inr m => exact below field m

/-- A key below every other one goes to the front. -/
theorem insertField_front (key : String) (value : Json) (fields : List (String × Json))
    (h : ∀ field ∈ fields, key < field.1) :
    insertField key value fields = (key, value) :: fields := by
  cases fields with
  | nil => rfl
  | cons head fields =>
      have hk : key < head.1 := h head (by simp)
      simp [insertField, String.scalars_lt, hk]

theorem canonFields_sorted (fields : List (String × Json)) :
    (canonFields fields).Pairwise (fun a b => a.1 < b.1) := by
  induction fields with
  | nil => simp [canonFields]
  | cons field fields ih => exact insertField_sorted _ _ _ ih

/-- Dropping members by their keys commutes with the canonical form. -/
theorem filter_insertField (p : String → Bool) (key : String) (value : Json)
    (fields : List (String × Json)) (h : fields.Pairwise (fun a b => a.1 < b.1)) :
    (insertField key value fields).filter (fun field => p field.1) =
      if p key then insertField key value (fields.filter fun field => p field.1)
      else fields.filter fun field => p field.1 := by
  induction fields with
  | nil => cases hp : p key <;> simp [insertField, hp]
  | cons head fields ih =>
      obtain ⟨k, v⟩ := head
      obtain ⟨below, sorted⟩ := List.pairwise_cons.mp h
      simp only [insertField, String.scalars_lt]
      split
      · rename_i hk
        have front : insertField key value (((k, v) :: fields).filter fun field => p field.1) =
            (key, value) :: ((k, v) :: fields).filter fun field => p field.1 := by
          refine insertField_front _ _ _ fun field member => ?_
          cases List.mem_cons.mp (List.mem_of_mem_filter member) with
          | inl e => subst e; exact hk
          | inr m => exact lt_trans hk (below field m)
        rw [front]
        cases hp : p key <;> simp [hp]
      · split
        · rename_i same
          subst same
          cases hp : p key with
          | false => rfl
          | true => simp [hp, insertField]
        · rename_i hlt hne
          have tail := ih sorted
          cases hk : p k with
          | false => simpa [hk] using tail
          | true =>
              rw [List.filter_cons_of_pos (by exact hk), tail, List.filter_cons_of_pos (by exact hk)]
              cases hp : p key <;> simp [insertField, String.scalars_lt, hlt, hne]

theorem filter_canonFields (p : String → Bool) (fields : List (String × Json)) :
    (canonFields fields).filter (fun field => p field.1) =
      canonFields (fields.filter fun field => p field.1) := by
  induction fields with
  | nil => rfl
  | cons field fields ih =>
      obtain ⟨k, v⟩ := field
      rw [canonFields, filter_insertField p k _ _ (canonFields_sorted fields), ih]
      cases hp : p k <;> simp [hp, canonFields]

theorem canon_canonical (j : Json) : Canonical j.canon := by
  induction j with
  | null | bool _ | int _ | float _ | str _ => trivial
  | arr items ih =>
      simp only [canon, Canonical, canonicalItems_iff, canonItems_eq_map, List.mem_map]
      rintro _ ⟨item, m, rfl⟩
      exact ih item m
  | obj fields ih =>
      simp only [canon, Canonical]
      refine ⟨canonFields_sorted fields, ?_⟩
      rw [canonicalFields_iff]
      induction fields with
      | nil => simp [canonFields]
      | cons head fields ihf =>
          intro field m
          cases mem_insertField m with
          | inl e => subst e; exact ih head (by simp)
          | inr m => exact ihf (fun field hm => ih field (by simp [hm])) field m

theorem canon_of_canonical (j : Json) (h : Canonical j) : j.canon = j := by
  induction j with
  | null | bool _ | int _ | float _ | str _ => rfl
  | arr items ih =>
      simp only [Canonical, canonicalItems_iff] at h
      simp only [canon, canonItems_eq_map]
      congr 1
      exact (List.map_congr_left fun item m => ih item m (h item m)).trans (List.map_id' items)
  | obj fields ih =>
      obtain ⟨sorted, members⟩ := h
      rw [canonicalFields_iff] at members
      simp only [canon]
      congr 1
      induction fields with
      | nil => rfl
      | cons head fields ihf =>
          obtain ⟨below, sorted⟩ := List.pairwise_cons.mp sorted
          have tail := ihf (fun field hm => ih field (by simp [hm])) sorted
            (fun field hm => members field (by simp [hm]))
          have value := ih head (by simp) (members head (by simp))
          simp only [canonFields, tail, value]
          exact insertField_front _ _ _ below

@[simp] theorem canon_canon (j : Json) : j.canon.canon = j.canon :=
  canon_of_canonical _ (canon_canonical j)

/-- Assignment to a key: a key that is there keeps its place. -/
def place (key : String) (value : Json) : List (String × Json) → List (String × Json)
  | [] => [(key, value)]
  | (k, v) :: fields => if k = key then (k, value) :: fields else (k, v) :: place key value fields

theorem mem_keys_place {key k : String} {value : Json} {fields : List (String × Json)} :
    k ∈ (place key value fields).map Prod.fst ↔ k = key ∨ k ∈ fields.map Prod.fst := by
  induction fields with
  | nil => exact List.mem_cons
  | cons field fields ih =>
      rw [place]
      split
      · rename_i same
        rw [List.map_cons, List.map_cons, List.mem_cons, same]
        exact ⟨Or.inr, fun either => either.elim Or.inl id⟩
      · rw [List.map_cons, List.mem_cons, ih, List.map_cons, List.mem_cons, or_left_comm]

theorem place_nodup {key : String} {value : Json} {fields : List (String × Json)}
    (nodup : (fields.map Prod.fst).Nodup) : ((place key value fields).map Prod.fst).Nodup := by
  induction fields with
  | nil => exact List.nodup_cons.mpr ⟨List.not_mem_nil, List.nodup_nil⟩
  | cons field fields ih =>
      obtain ⟨absent, rest⟩ := List.nodup_cons.mp nodup
      rw [place]
      split
      · exact nodup
      · rename_i other
        refine List.nodup_cons.mpr ⟨fun again => ?_, ih rest⟩
        exact (mem_keys_place.mp again).elim other absent

theorem lookup_eq_none {key : String} {fields : List (String × Json)}
    (absent : key ∉ fields.map Prod.fst) : lookup key fields = none := by
  rw [← Option.not_isSome_iff_eq_none, lookup_isSome_iff]
  exact absent

theorem lookup_place {key k : String} {value : Json} {fields : List (String × Json)}
    (nodup : (fields.map Prod.fst).Nodup) :
    lookup k (place key value fields) = if key = k then some value else lookup k fields := by
  induction fields with
  | nil =>
      rw [place, lookup, lookup]
      exact Option.none_or
  | cons field fields ih =>
      obtain ⟨absent, rest⟩ := List.nodup_cons.mp nodup
      rw [place]
      split
      · rename_i same
        rw [lookup, lookup, same]
        split
        · rename_i here
          rw [lookup_eq_none (here ▸ same ▸ absent), Option.none_or]
        · rfl
      · rename_i other
        rw [lookup, ih rest, lookup]
        split
        · rename_i here
          rw [Option.some_or]
        · rfl

end Json
