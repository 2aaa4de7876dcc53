import Hunter.Data.Dict
import Hunter.Data.Fallible
import Hunter.Text.Decimal
import Hunter.Text.Points

/-!
JSON values as the runtime reads them, with exact numbers and texts of code points, and output
contracts over them. A contract is a mapping of keywords. A type mismatch and a violation of the
other keywords are found by two traversals, each of which goes on into members and items by itself.
-/

namespace Hunter.ResponseValidator

open Fallible

inductive Number where
  | int (n : Int)
  | decimal (d : Decimal)
  deriving DecidableEq, Repr

namespace Number

def value : Number → ℚ
  | .int n => n
  | .decimal d => d.value

def isIntegral : Number → Bool
  | .int _ => true
  | .decimal d => d.isIntegral

end Number

/-- The members of a mapping stand in their order; a reader takes the first of a key. -/
inductive Content where
  | null
  | bool (value : Bool)
  | number (value : Number)
  | str (value : Points)
  | list (items : List Content)
  | object (fields : List (Points × Content))

/-- What stops an evaluation. -/
inductive Fault where
  | ruleUnavailable (message : String)
  | typeError
  deriving DecidableEq, Repr

namespace Content

/-- Induction with the hypothesis for every item and every member. -/
@[induction_eliminator]
theorem induct {motive : Content → Prop}
    (null : motive .null) (bool : ∀ b, motive (.bool b)) (number : ∀ n, motive (.number n))
    (str : ∀ s, motive (.str s)) (list : ∀ items, (∀ item ∈ items, motive item) → motive (.list items))
    (object : ∀ fields, (∀ field ∈ fields, motive field.2) → motive (.object fields))
    (value : Content) : motive value :=
  @Content.rec motive (fun items => ∀ item ∈ items, motive item)
    (fun fields => ∀ field ∈ fields, motive field.2) (fun field => motive field.2)
    null bool number str list object
    (by simp) (fun _ _ head tail => List.forall_mem_cons.mpr ⟨head, tail⟩)
    (by simp) (fun _ _ head tail => List.forall_mem_cons.mpr ⟨head, tail⟩)
    (fun _ _ value => value) value

theorem sizeOf_lt_of_mem {key : Points} {value : Content} {fields : List (Points × Content)}
    (inside : (key, value) ∈ fields) : sizeOf value < sizeOf (object fields) := by
  have less := List.sizeOf_lt_of_mem inside
  simp only [Prod.mk.sizeOf_spec, object.sizeOf_spec] at less ⊢
  omega

theorem sizeOf_lt_of_find {key : Points} {value : Content} {fields : List (Points × Content)}
    (found : Dict.find key fields = some value) : sizeOf value < sizeOf (object fields) :=
  sizeOf_lt_of_mem (Dict.mem_of_find found)

theorem sizeOf_lt_of_item {value : Content} {items : List Content} (inside : value ∈ items) :
    sizeOf value < sizeOf (list items) := by
  have less := List.sizeOf_lt_of_mem inside
  simp only [list.sizeOf_spec]
  omega

/-- `Mapping.get`. -/
def get? (value : Content) (key : Points) : Option Content :=
  match value with
  | .object fields => Dict.find key fields
  | _ => none

/-- `isinstance(value, Mapping)`. -/
def isMapping : Content → Bool
  | .object _ => true
  | _ => false

/-- `_json_values_equal`. -/
def jsonValuesEqual : (left right : Content) → Bool
  | .null, .null => true
  | .bool a, .bool b => a = b
  | .number a, .number b => a.value = b.value
  | .str a, .str b => a = b
  | .list a, .list b =>
      a.length = b.length && (a.attach.zip b).all fun pair => jsonValuesEqual pair.1.1 pair.2
  | .object a, .object b =>
      (a.all fun field => (Dict.find field.1 b).isSome) && (b.all fun field => (Dict.find field.1 a).isSome) &&
        a.attach.all fun field =>
          match _found : Dict.find field.1.1 a, Dict.find field.1.1 b with
          | some x, some y => jsonValuesEqual x y
          | _, _ => false
  | _, _ => false
termination_by left => sizeOf left
decreasing_by
  · exact sizeOf_lt_of_item pair.1.2
  · exact sizeOf_lt_of_find ‹_›

/-- `_SUPPORTED_OUTPUT_CONTRACT_KEYWORDS`. -/
def supportedKeywords : List Points := [
  "$schema", "$id", "title", "description", "default", "examples", "type", "properties", "required",
  "additionalProperties", "items", "enum", "const", "minimum", "maximum", "exclusiveMinimum",
  "exclusiveMaximum", "minLength", "maxLength", "minItems", "maxItems"]

def typeNames : List Points :=
  ["object", "array", "string", "number", "integer", "boolean", "null"]

/-- The members of a mapping. -/
def fields : Content → List (Points × Content)
  | .object fields => fields
  | _ => []

/-- The value of a keyword that is there and not null. -/
def keyword (schema : Content) (name : Points) : Option Content :=
  match schema.get? name with
  | some .null => none
  | found => found

theorem keyword_eq_some {schema value : Content} {name : Points} :
    schema.keyword name = some value ↔ schema.get? name = some value ∧ value ≠ .null := by
  unfold keyword
  split
  · rename_i found
    rw [found]
    exact iff_of_false nofun fun both => both.2 (Option.some.inj both.1).symm
  · rename_i present
    exact ⟨fun found => ⟨found, fun null => present (found.trans (congrArg some null))⟩, And.left⟩

/-- `_is_non_negative_json_integer`. -/
def isNonNegativeJsonInteger : Content → Bool
  | .number n => n.isIntegral && 0 ≤ n.value
  | _ => false

/-- A list or a mapping has no place in a set of texts. -/
def validateType : Option Content → Except Fault Unit
  | none => .ok ()
  | some (.str name) =>
      require (name ∈ typeNames) (.ruleUnavailable "output contract declares an unsupported type")
  | some (.list _) | some (.object _) => .error .typeError
  | some _ => .error (.ruleUnavailable "output contract declares an unsupported type")

def requiredNames : List Content → Option (List Points)
  | [] => some []
  | .str name :: items => (requiredNames items).map (name :: ·)
  | _ :: _ => none

def validateRequired : Option Content → Except Fault Unit
  | none => .ok ()
  | some (.list items) =>
      require (∃ names ∈ requiredNames items, [] ∉ names ∧ names.Nodup)
        (.ruleUnavailable "output-contract required fields are invalid")
  | some _ => .error (.ruleUnavailable "output-contract required fields are invalid")

def validateEnum : Option Content → Except Fault Unit
  | none => .ok ()
  | some (.list (_ :: _)) => .ok ()
  | some _ => .error (.ruleUnavailable "output-contract enum must be a non-empty list")

def validateBound (schema : Content) (name : String) : Except Fault Unit :=
  match schema.keyword name with
  | none | some (.number _) => .ok ()
  | some _ => .error (.ruleUnavailable ("output-contract " ++ name ++ " must be numeric"))

def validateLength (schema : Content) (name : String) : Except Fault Unit :=
  match schema.keyword name with
  | none => .ok ()
  | some value => require (value.isNonNegativeJsonInteger = true)
      (.ruleUnavailable ("output-contract " ++ name ++ " must be a non-negative integer"))

theorem sizeOf_lt_of_keyword {schema value : Content} {name : Points}
    (found : schema.keyword name = some value) : sizeOf value < sizeOf schema := by
  cases schema with
  | object fields => exact sizeOf_lt_of_find (keyword_eq_some.mp found).1
  | _ => cases found

/-- `_validate_output_contract_schema`. -/
def validateOutputContractSchema (schema : Content) : Except Fault Unit := do
  require (∀ field ∈ schema.fields, field.1 ∈ supportedKeywords)
    (.ruleUnavailable "output contract contains unsupported rule keywords")
  validateType (schema.keyword "type")
  (match _found : schema.keyword "properties" with
    | none => .ok ()
    | some (.object properties) => properties.attach.forM fun field =>
        if field.1.2.isMapping then validateOutputContractSchema field.1.2
        else .error (.ruleUnavailable "each output-contract property must be a schema")
    | some _ => .error (.ruleUnavailable "output-contract properties must be a mapping"))
  validateRequired (schema.keyword "required")
  (match _found : schema.keyword "additionalProperties" with
    | none | some (.bool _) => .ok ()
    | some (.object additional) => validateOutputContractSchema (.object additional)
    | some _ => .error (.ruleUnavailable "additionalProperties must be boolean or a schema"))
  (match _found : schema.keyword "items" with
    | none => .ok ()
    | some (.object items) => validateOutputContractSchema (.object items)
    | some _ => .error (.ruleUnavailable "output-contract items must be a schema"))
  validateEnum (schema.keyword "enum")
  ["minimum", "maximum", "exclusiveMinimum", "exclusiveMaximum"].forM schema.validateBound
  ["minLength", "maxLength", "minItems", "maxItems"].forM schema.validateLength
termination_by sizeOf schema
decreasing_by
  · exact (sizeOf_lt_of_mem field.2).trans (sizeOf_lt_of_keyword ‹_›)
  · exact sizeOf_lt_of_keyword ‹_›
  · exact sizeOf_lt_of_keyword ‹_›

/-- `_matches_json_type`. A truth value is no number here. -/
def matchesJsonType (value : Content) (declared : Points) : Bool :=
  if declared = "object" then value.isMapping
  else if declared = "array" then value matches .list _
  else if declared = "string" then value matches .str _
  else if declared = "integer" then
    match value with
    | .number n => n.isIntegral
    | _ => false
  else if declared = "number" then value matches .number _
  else if declared = "boolean" then value matches .bool _
  else if declared = "null" then value matches .null
  else false

/-- The schema declares a type and the value is not of it. A declaration that is not a text
names no type. -/
def wrongType (value schema : Content) : Bool :=
  match schema.keyword "type" with
  | none => false
  | some (.str declared) => !value.matchesJsonType declared
  | some _ => true

/-- The schemas of the named members. -/
def properties (schema : Content) : List (Points × Content) :=
  match schema.get? "properties" with
  | some (.object properties) => properties
  | _ => []

/-- `_schema_type_invalid`. -/
def schemaTypeInvalid (value schema : Content) : Bool :=
  wrongType value schema ||
    match value with
    | .object fields =>
        (schema.properties.any fun property =>
          match _found : Dict.find property.1 fields with
          | some item => property.2.isMapping && schemaTypeInvalid item property.2
          | none => false) ||
        (match schema.get? "additionalProperties" with
          | some (.object additional) => fields.attach.any fun field =>
              field.1.1 ∉ schema.properties.map Prod.fst &&
                schemaTypeInvalid field.1.2 (.object additional)
          | _ => false)
    | .list items =>
        (match schema.get? "items" with
          | some (.object each) => items.attach.any fun item => schemaTypeInvalid item.1 (.object each)
          | _ => false)
    | _ => false
termination_by sizeOf value
decreasing_by
  · exact sizeOf_lt_of_find ‹_›
  · exact sizeOf_lt_of_mem field.2
  · exact sizeOf_lt_of_item item.2

/-- The order in which a set of members is gone through. -/
structure SetOrder where
  arrange : List (Points × Content) → List (Points × Content)
  perm : ∀ members, (arrange members).Perm members

def iterated : Content → Except Fault (List Content)
  | .list items => .ok items
  | .object fields => .ok (fields.map fun field => .str field.1)
  | .str text => .ok (text.map fun c => .str [c])
  | _ => .error .typeError

def enumChecks (value schema : Content) : List (Except Fault Bool) :=
  match schema.get? "enum" with
  | none => []
  | some options => [(iterated options).map fun options => !options.any value.jsonValuesEqual]

def constChecks (value schema : Content) : List (Except Fault Bool) :=
  match schema.get? "const" with
  | none => []
  | some constant => [.ok (!value.jsonValuesEqual constant)]

/-- `item not in value`. -/
def missing (fields : List (Points × Content)) : Content → Except Fault Bool
  | .str name => .ok (Dict.find name fields).isNone
  | .list _ | .object _ => .error .typeError
  | _ => .ok true

def requiredChecks (fields : List (Points × Content)) (schema : Content) : List (Except Fault Bool) :=
  match schema.get? "required" with
  | some (.list names) => names.map (missing fields)
  | _ => []

/-- The members that no property names. -/
def extra (fields : List (Points × Content)) (schema : Content) : List (Points × Content) :=
  fields.filter fun field => field.1 ∉ schema.properties.map Prod.fst

def closedChecks (fields : List (Points × Content)) (schema : Content) : List (Except Fault Bool) :=
  match schema.get? "additionalProperties" with
  | some (.bool false) => [.ok (extra fields schema ≠ [])]
  | _ => []

/-- A truth value compares as an integer. -/
def arithmetic : Content → Except Fault ℚ
  | .number n => .ok n.value
  | .bool b => .ok (if b then 1 else 0)
  | _ => .error .typeError

def boundChecks (schema : Content) (name : String) (beyond : ℚ → Bool) : List (Except Fault Bool) :=
  match schema.get? name with
  | none => []
  | some bound => [(arithmetic bound).map beyond]

def lengthChecks (schema : Content) (low high : String) (length : Nat) : List (Except Fault Bool) :=
  schema.boundChecks low (fun bound => (length : ℚ) < bound) ++
    schema.boundChecks high (fun bound => bound < (length : ℚ))

def numberChecks (schema : Content) (n : Number) : List (Except Fault Bool) :=
  schema.boundChecks "minimum" (fun bound => n.value < bound) ++
    schema.boundChecks "maximum" (fun bound => bound < n.value) ++
    schema.boundChecks "exclusiveMinimum" (fun bound => n.value ≤ bound) ++
    schema.boundChecks "exclusiveMaximum" (fun bound => bound ≤ n.value)

/-- The conditions under which a value is invalid by itself, in their order. -/
def keywordChecks (value schema : Content) : List (Except Fault Bool) :=
  enumChecks value schema ++ constChecks value schema ++
    match value with
    | .object fields => requiredChecks fields schema ++ closedChecks fields schema
    | .list items => schema.lengthChecks "minItems" "maxItems" items.length
    | .str text => schema.lengthChecks "minLength" "maxLength" text.length
    | .number n => schema.numberChecks n
    | _ => []

/-- `_output_contract_invalid`. -/
def outputContractInvalid (order : SetOrder) (value schema : Content) : Except Fault Bool :=
  -- A type mismatch is no violation of the contract here.
  if wrongType value schema then .ok false
  else (keywordChecks value schema).anyM id <||>
    match value with
    | .object fields =>
        (schema.properties.anyM fun property =>
          match _found : Dict.find property.1 fields with
          | some item =>
              if property.2.isMapping then outputContractInvalid order item property.2 else .ok false
          | none => .ok false) <||>
        (match schema.get? "additionalProperties" with
          | some (.object additional) => (order.arrange (extra fields schema)).attach.anyM fun field =>
              outputContractInvalid order field.1.2 (.object additional)
          | _ => .ok false)
    | .list items =>
        (match schema.get? "items" with
          | some (.object each) => items.attach.anyM fun item =>
              outputContractInvalid order item.1 (.object each)
          | _ => .ok false)
    | _ => .ok false
termination_by sizeOf value
decreasing_by
  · exact sizeOf_lt_of_find ‹_›
  · exact sizeOf_lt_of_mem (List.mem_filter.mp ((order.perm _).mem_iff.mp field.2)).1
  · exact sizeOf_lt_of_item item.2

end Content

end Hunter.ResponseValidator
