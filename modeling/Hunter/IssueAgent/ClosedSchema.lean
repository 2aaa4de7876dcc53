import Hunter.IssueAgent.Exceptions
import Hunter.Json.RoundTrip
import Hunter.Text.Regex

/-!
The closed schema the ledgers validate against, read as a parser: a validator
returns what it has checked, so a later reader finds typed fields and not JSON.
The keys of an object schema are collected from its fields. Checks run in the
order of the fields and every refusal names the place it stands at.
-/

namespace Hunter.IssueAgent

/-- The canonical text in UTF-8: `json.dumps` with sorted keys and no spaces. -/
def canonicalJson (j : Json) : List UInt8 := Chars.encode (Json.render j.canon)

theorem canonicalJson_canon (j : Json) : canonicalJson j.canon = canonicalJson j := by
  rw [canonicalJson, Json.canon_canon, canonicalJson]

theorem canonicalJson_inj {a b : Json} : canonicalJson a = canonicalJson b ↔ a.canon = b.canon := by
  rw [← Json.dumps_inj, canonicalJson, canonicalJson, Chars.encode_inj, Json.dumps, Json.dumps,
    String.ofList_inj]

/-- `json.loads(canonical_json(value))`. -/
def reload (j : Json) : Py Json :=
  match Json.loads (Json.dumps j) with
  | some value => .ok value
  | none => .error .valueError

theorem reload_eq (j : Json) : reload j = .ok j.canon := by
  simp only [reload, Json.loads_dumps]

abbrev Validator (α : Type) : Type := Json → String → Py α

def fail (place why : String) : Exn := .ledgerSchemaError (place ++ ": " ++ why)

def pattern (regex : Regex) : Validator regex.Matching
  | .str s, place =>
      if h : regex.fullmatch s = true then .ok ⟨s, h⟩ else .error (fail place "malformed value")
  | _, place => .error (fail place "malformed value")

def int (minimum : Int) : Validator { n : Int // minimum ≤ n }
  | .int n, place =>
      if h : minimum ≤ n then .ok ⟨n, h⟩
      else .error (fail place ("must be an integer >= " ++ toString minimum))
  | _, place => .error (fail place ("must be an integer >= " ++ toString minimum))

/-- `_exact`: the very value, of the very type. `shown` is its Python text. -/
def exact (expected : Json) (shown : String) : Validator Unit := fun j place =>
  require (j = expected) (fail place ("must be exactly " ++ shown))

def exactText (expected : String) : Validator Unit :=
  exact (.str expected) ("'" ++ expected ++ "'")

def enum {α : Type} (text : α → String) (allowed : List α) : Validator α
  | .str s, place =>
      match allowed.find? fun a => text a == s with
      | some a => .ok a
      | none => .error (fail place "value outside the closed vocabulary")
  | _, place => .error (fail place "value outside the closed vocabulary")

def bool : Validator Bool
  | .bool b, _ => .ok b
  | _, place => .error (fail place "must be a boolean")

def optional {α : Type} (inner : Validator α) : Validator (Option α)
  | .null, _ => .ok none
  | j, place => some <$> inner j place

def validateItems {α : Type} (inner : Validator α) (place : String) : Nat → List Json → Py (List α)
  | _, [] => .ok []
  | index, j :: items => do
      let a ← inner j (place ++ "[" ++ toString index ++ "]")
      let rest ← validateItems inner place (index + 1) items
      return a :: rest

def list {α : Type} (inner : Validator α) (maximum : Nat) : Validator (List α)
  | .arr items, place => do
      require (items.length ≤ maximum) (fail place ("must be a list of at most " ++ toString maximum))
      let validated ← validateItems inner place 0 items
      require (items.map canonicalJson).Nodup (fail place "duplicate entries")
      return validated
  | _, place => .error (fail place ("must be a list of at most " ++ toString maximum))

/-- The fields of a closed object, read from the value under each key. -/
structure Schema (α : Type) where
  required : List String
  extra : List String
  read : (String → Option Json) → String → Py α

namespace Schema

def field {α : Type} (key : String) (inner : Validator α) : Schema α where
  required := [key]
  extra := []
  read get place := do
    let j ← item key (get key)
    inner j (place ++ "." ++ key)

def extraField {α : Type} (key : String) (inner : Validator α) : Schema (Option α) where
  required := []
  extra := [key]
  read get place :=
    match get key with
    | some j => some <$> inner j (place ++ "." ++ key)
    | none => .ok none

instance : Functor Schema where
  map f schema :=
    { schema with read := fun get place => f <$> schema.read get place }

instance : Seq Schema where
  seq first second :=
    let second := second ()
    { required := first.required ++ second.required
      extra := first.extra ++ second.extra
      read := fun get place => first.read get place <*> second.read get place }

/-- The first schema's value. The second one only checks. -/
instance : SeqLeft Schema where
  seqLeft first second :=
    let second := second ()
    { required := first.required ++ second.required
      extra := first.extra ++ second.extra
      read := fun get place => first.read get place <* second.read get place }

variable {α β : Type} (get : String → Option Json) (place key : String)

@[simp] theorem read_field (inner : Validator α) : (field key inner).read get place =
    (item key (get key) >>= fun j => inner j (place ++ "." ++ key)) := rfl

@[simp] theorem read_extraField (inner : Validator α) : (extraField key inner).read get place =
    match get key with
    | some j => some <$> inner j (place ++ "." ++ key)
    | none => .ok none := rfl

@[simp] theorem read_map (f : α → β) (schema : Schema α) :
    (f <$> schema).read get place = f <$> schema.read get place := rfl

@[simp] theorem read_seq (first : Schema (α → β)) (second : Schema α) :
    (first <*> second).read get place = (first.read get place <*> second.read get place) := rfl

@[simp] theorem read_seqLeft (first : Schema α) (second : Schema β) :
    (first <* second).read get place = (first.read get place <* second.read get place) := rfl

@[simp] theorem keys_field (inner : Validator α) :
    (field key inner).required = [key] ∧ (field key inner).extra = [] := ⟨rfl, rfl⟩

@[simp] theorem keys_extraField (inner : Validator α) :
    (extraField key inner).required = [] ∧ (extraField key inner).extra = [key] := ⟨rfl, rfl⟩

@[simp] theorem keys_map (f : α → β) (schema : Schema α) :
    (f <$> schema).required = schema.required ∧ (f <$> schema).extra = schema.extra := ⟨rfl, rfl⟩

@[simp] theorem keys_seq (first : Schema (α → β)) (second : Schema α) :
    (first <*> second).required = first.required ++ second.required ∧
      (first <*> second).extra = first.extra ++ second.extra := ⟨rfl, rfl⟩

@[simp] theorem keys_seqLeft (first : Schema α) (second : Schema β) :
    (first <* second).required = first.required ++ second.required ∧
      (first <* second).extra = first.extra ++ second.extra := ⟨rfl, rfl⟩

end Schema

def object {α : Type} (schema : Schema α) : Validator α
  | .obj fields, place => do
      let keys := fields.map Prod.fst
      require (schema.required ⊆ keys ∧ keys ⊆ schema.required ++ schema.extra)
        (fail place "fields differ from the closed schema")
      schema.read (fun key => Json.lookup key fields) place
  | _, place => .error (fail place "must be an object")

@[simp] theorem pattern_val {regex : Regex} (m : regex.Matching) (place : String) :
    pattern regex (.str m.val) place = .ok m := by
  obtain ⟨s, h⟩ := m
  simp only [pattern, h, dif_pos]

@[simp] theorem int_val {minimum : Int} (n : { n : Int // minimum ≤ n }) (place : String) :
    int minimum (.int n.val) place = .ok n := by
  simp [int, n.property]

theorem pattern_iff {regex : Regex} {text place : String} {m : regex.Matching} :
    pattern regex (.str text) place = .ok m ↔ text = m.val := by
  constructor
  · intro h
    simp only [pattern] at h
    split at h
    · cases h
      rfl
    · cases h
  · rintro rfl
    exact pattern_val m place

theorem int_iff {minimum n : Int} {place : String} {m : { n : Int // minimum ≤ n }} :
    int minimum (.int n) place = .ok m ↔ n = m.val := by
  constructor
  · intro h
    simp only [int] at h
    split at h
    · cases h
      rfl
    · cases h
  · rintro rfl
    exact int_val m place

@[simp] theorem exact_self (expected : Json) (shown place : String) :
    exact expected shown expected place = .ok () :=
  require_of rfl

@[simp] theorem exactText_self (expected place : String) :
    exactText expected (.str expected) place = .ok () :=
  require_of rfl

@[simp] theorem bool_val (b : Bool) (place : String) : bool (.bool b) place = .ok b := rfl

theorem enum_text {α : Type} {text : α → String} {allowed : List α} {a : α} (place : String)
    (found : (allowed.find? fun b => text b == text a) = some a) :
    enum text allowed (.str (text a)) place = .ok a := by
  simp only [enum, found]

theorem object_fields {α : Type} {schema : Schema α} {fields : List (String × Json)}
    {place : String} (required : schema.required ⊆ fields.map Prod.fst)
    (allowed : fields.map Prod.fst ⊆ schema.required ++ schema.extra) :
    object schema (.obj fields) place =
      schema.read (fun key => Json.lookup key fields) place := by
  simp only [object, require_of (And.intro required allowed), ok_bind]

theorem validateItems_map {α β : Type} {inner : Validator α} {json : β → Json} {f : β → α}
    (h : ∀ b place, inner (json b) place = .ok (f b)) (place : String) (index : Nat)
    (values : List β) : validateItems inner place index (values.map json) = .ok (values.map f) := by
  induction values generalizing index with
  | nil => rfl
  | cons b values ih => simp only [List.map_cons, validateItems, h, ok_bind, ih, pure_eq_ok]

class Stable {α : Type} (validator : Validator α) : Prop where
  canon (j : Json) (place : String) : validator j.canon place = validator j place

class Schema.Stable {α : Type} (schema : Schema α) : Prop where
  canon (get : String → Option Json) (place : String) :
    schema.read (fun key => (get key).map Json.canon) place = schema.read get place

instance (regex : Regex) : Stable (pattern regex) where
  canon j place := by cases j <;> rfl

instance (minimum : Int) : Stable (int minimum) where
  canon j place := by cases j <;> rfl

instance : Stable bool where
  canon j place := by cases j <;> rfl

instance {α : Type} (text : α → String) (allowed : List α) : Stable (enum text allowed) where
  canon j place := by cases j <;> rfl

instance (expected : String) : Stable (exactText expected) where
  canon j place := by cases j <;> simp [exactText, exact, Json.canon]

instance (n : Int) (shown : String) : Stable (exact (.int n) shown) where
  canon j place := by cases j <;> simp [exact, Json.canon]

instance (b : Bool) (shown : String) : Stable (exact (.bool b) shown) where
  canon j place := by cases j <;> simp [exact, Json.canon]

instance {α : Type} (inner : Validator α) [h : Stable inner] : Stable (optional inner) where
  canon j place := by
    cases j with
    | null => rfl
    | _ => exact congrArg (some <$> ·) (h.canon _ place)

instance {α : Type} (inner : Validator α) [h : Stable inner] (maximum : Nat) :
    Stable (list inner maximum) where
  canon j place := by
    cases j with
    | arr items =>
        have each (index : Nat) :
            validateItems inner place index (items.map Json.canon) =
              validateItems inner place index items := by
          induction items generalizing index with
          | nil => rfl
          | cons j items ih => simp only [List.map_cons, validateItems, h.canon, ih]
        have texts : (items.map Json.canon).map canonicalJson = items.map canonicalJson := by
          simp [Function.comp_def, canonicalJson_canon]
        simp only [Json.canon, Json.canonItems_eq_map, list, each, texts, List.length_map]
    | _ => rfl

instance {α : Type} (key : String) (inner : Validator α) [h : Stable inner] :
    (Schema.field key inner).Stable where
  canon get place := by
    simp only [Schema.read_field]
    cases get key with
    | none => rfl
    | some j => simp only [Option.map_some, item_some, ok_bind, h.canon]

instance {α : Type} (key : String) (inner : Validator α) [h : Stable inner] :
    (Schema.extraField key inner).Stable where
  canon get place := by
    simp only [Schema.read_extraField]
    cases get key with
    | none => rfl
    | some j => simp only [Option.map_some, h.canon]

instance {α β : Type} (f : α → β) (schema : Schema α) [h : schema.Stable] :
    (f <$> schema).Stable where
  canon get place := by rw [Schema.read_map, Schema.read_map, h.canon]

instance {α β : Type} (first : Schema (α → β)) (second : Schema α) [hf : first.Stable]
    [hs : second.Stable] : (first <*> second).Stable where
  canon get place := by rw [Schema.read_seq, Schema.read_seq, hf.canon, hs.canon]

instance {α β : Type} (first : Schema α) (second : Schema β) [hf : first.Stable]
    [hs : second.Stable] : (first <* second).Stable where
  canon get place := by rw [Schema.read_seqLeft, Schema.read_seqLeft, hf.canon, hs.canon]

theorem keys_canonFields (fields : List (String × Json)) (allowed : List String) :
    ((Json.canonFields fields).map Prod.fst ⊆ allowed ↔ fields.map Prod.fst ⊆ allowed) ∧
      (allowed ⊆ (Json.canonFields fields).map Prod.fst ↔ allowed ⊆ fields.map Prod.fst) := by
  simp only [List.subset_def, Json.mem_keys_canonFields, and_self]

instance {α : Type} (schema : Schema α) [h : schema.Stable] : Stable (object schema) where
  canon j place := by
    cases j with
    | obj fields =>
        have values : (fun key => Json.lookup key (Json.canonFields fields)) =
            fun key => (Json.lookup key fields).map Json.canon := by
          funext key
          exact Json.lookup_canonFields key fields
        simp only [Json.canon, object, keys_canonFields, values, h.canon]
    | _ => rfl

end Hunter.IssueAgent
