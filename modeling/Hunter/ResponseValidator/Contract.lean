import Mathlib
import Hunter.ResponseValidator.Runtime

/-!
What an output contract means for a value: the types of JSON Schema, the equality of values, and the
positions that the contract reaches in the value. The first traversal tells whether a value at a
position has a wrong type; the second goes through the positions of right type in their order.
-/

namespace Hunter.ResponseValidator

open Fallible

theorem Number.isIntegral_iff {n : Number} : n.isIntegral = true ↔ ∃ z : ℤ, n.value = z := by
  cases n with
  | int n => exact iff_of_true rfl ⟨n, rfl⟩
  | decimal d =>
      refine ⟨fun whole => ⟨d.value.num, ?_⟩, fun ⟨z, same⟩ => ?_⟩
      · exact (Rat.den_eq_one_iff _).mp (of_decide_eq_true whole) |>.symm
      · refine decide_eq_true ?_
        rw [show d.value = z from same]
        rfl

namespace Content

/-- An integer is a number without a fraction. -/
inductive HasType : Content → Points → Prop
  | object (fields : List (Points × Content)) : HasType (.object fields) "object"
  | array (items : List Content) : HasType (.list items) "array"
  | string (text : Points) : HasType (.str text) "string"
  | number (n : Number) : HasType (.number n) "number"
  | integer (n : Number) (z : ℤ) (whole : n.value = z) : HasType (.number n) "integer"
  | boolean (b : Bool) : HasType (.bool b) "boolean"
  | null : HasType .null "null"

theorem matchesJsonType_iff {value : Content} {declared : Points} :
    value.matchesJsonType declared = true ↔ HasType value declared := by
  constructor
  · intro found
    unfold matchesJsonType at found
    split at found
    · rename_i named
      subst named
      cases value with
      | object fields => exact .object fields
      | _ => cases found
    split at found
    · rename_i named
      subst named
      cases value with
      | list items => exact .array items
      | _ => cases found
    split at found
    · rename_i named
      subst named
      cases value with
      | str text => exact .string text
      | _ => cases found
    split at found
    · rename_i named
      subst named
      cases value with
      | number n =>
          obtain ⟨z, whole⟩ := Number.isIntegral_iff.mp found
          exact .integer n z whole
      | _ => cases found
    split at found
    · rename_i named
      subst named
      cases value with
      | number n => exact .number n
      | _ => cases found
    split at found
    · rename_i named
      subst named
      cases value with
      | bool b => exact .boolean b
      | _ => cases found
    split at found
    · rename_i named
      subst named
      cases value with
      | null => exact .null
      | _ => cases found
    · cases found
  · intro typed
    cases typed with
    | integer n z whole => exact Number.isIntegral_iff.mpr ⟨z, whole⟩
    | _ => rfl

/-- Equality of JSON values: numbers by what they stand for, mappings by their members. -/
inductive Equal : Content → Content → Prop
  | null : Equal .null .null
  | bool (b : Bool) : Equal (.bool b) (.bool b)
  | number {a b : Number} (same : a.value = b.value) : Equal (.number a) (.number b)
  | str (text : Points) : Equal (.str text) (.str text)
  | list {a b : List Content} (same : List.Forall₂ Equal a b) : Equal (.list a) (.list b)
  | object {a b : List (Points × Content)}
      (keys : ∀ key, (Dict.find key a).isSome ↔ (Dict.find key b).isSome)
      (same : ∀ key x y, Dict.find key a = some x → Dict.find key b = some y → Equal x y) :
      Equal (.object a) (.object b)

theorem jsonValuesEqual_list (a b : List Content) :
    (list a).jsonValuesEqual (.list b) = true ↔
      a.length = b.length ∧ ∀ pair ∈ a.zip b, pair.1.jsonValuesEqual pair.2 = true := by
  rw [jsonValuesEqual, Bool.and_eq_true, decide_eq_true_iff]
  refine and_congr_right fun _ => ?_
  have zips : a.zip b = (a.attach.zip b).map fun pair => (pair.1.1, pair.2) := by
    conv_lhs => rw [← List.attach_map_subtype_val a]
    rw [List.zip_map_left]
    rfl
  rw [zips, List.forall_mem_map, List.all_eq_true]

theorem jsonValuesEqual_object (a b : List (Points × Content)) :
    (object a).jsonValuesEqual (.object b) = true ↔
      (∀ key, (Dict.find key a).isSome ↔ (Dict.find key b).isSome) ∧
        ∀ key x y, Dict.find key a = some x → Dict.find key b = some y → x.jsonValuesEqual y = true := by
  rw [jsonValuesEqual, Bool.and_eq_true, Bool.and_eq_true, List.all_eq_true, List.all_eq_true,
    List.all_eq_true]
  constructor
  · rintro ⟨⟨forth, back⟩, values⟩
    refine ⟨fun key => ⟨fun found => ?_, fun found => ?_⟩, fun key x y first second => ?_⟩
    · obtain ⟨field, inside, rfl⟩ := List.mem_map.mp ((Dict.find_isSome_iff _ _).mp found)
      exact forth field inside
    · obtain ⟨field, inside, rfl⟩ := List.mem_map.mp ((Dict.find_isSome_iff _ _).mp found)
      exact back field inside
    · have answer := values ⟨(key, x), Dict.mem_of_find first⟩ (List.mem_attach _ _)
      dsimp only at answer
      split at answer
      · rename_i found found'
        rw [first] at found
        rw [second] at found'
        cases found
        cases found'
        exact answer
      · cases answer
  · rintro ⟨keys, values⟩
    refine ⟨⟨fun field inside => ?_, fun field inside => ?_⟩, fun field _ => ?_⟩
    · exact (keys field.1).mp ((Dict.find_isSome_iff _ _).mpr (List.mem_map_of_mem inside))
    · exact (keys field.1).mpr ((Dict.find_isSome_iff _ _).mpr (List.mem_map_of_mem inside))
    · have here : (Dict.find field.1.1 a).isSome := (Dict.find_isSome_iff _ _).mpr (List.mem_map_of_mem field.2)
      obtain ⟨x, first⟩ := Option.isSome_iff_exists.mp here
      obtain ⟨y, second⟩ := Option.isSome_iff_exists.mp ((keys field.1.1).mp here)
      split
      · rename_i found found'
        exact values field.1.1 _ _ found found'
      · rename_i absent
        exact absurd second (absent x y first)

theorem jsonValuesEqual_iff {a b : Content} : a.jsonValuesEqual b = true ↔ Equal a b := by
  induction a generalizing b with
  | null =>
      cases b with
      | null => exact iff_of_true (by simp [jsonValuesEqual]) .null
      | _ => exact iff_of_false (by simp [jsonValuesEqual]) (by rintro ⟨⟩)
  | bool p =>
      cases b with
      | bool q =>
          rw [jsonValuesEqual, decide_eq_true_iff]
          refine ⟨fun same => same ▸ .bool p, fun equal => ?_⟩
          cases equal
          rfl
      | _ => exact iff_of_false (by simp [jsonValuesEqual]) (by rintro ⟨⟩)
  | number m =>
      cases b with
      | number n =>
          rw [jsonValuesEqual, decide_eq_true_iff]
          refine ⟨.number, fun equal => ?_⟩
          cases equal with
          | number same => exact same
      | _ => exact iff_of_false (by simp [jsonValuesEqual]) (by rintro ⟨⟩)
  | str s =>
      cases b with
      | str t =>
          rw [jsonValuesEqual, decide_eq_true_iff]
          refine ⟨fun same => same ▸ .str s, fun equal => ?_⟩
          cases equal
          rfl
      | _ => exact iff_of_false (by simp [jsonValuesEqual]) (by rintro ⟨⟩)
  | list items ih =>
      cases b with
      | list others =>
          rw [jsonValuesEqual_list]
          constructor
          · rintro ⟨length, values⟩
            refine .list (List.forall₂_iff_zip.mpr ⟨length, fun {x y} inside => ?_⟩)
            exact (ih x (List.of_mem_zip inside).1).mp (values (x, y) inside)
          · intro equal
            cases equal with
            | list same =>
                obtain ⟨length, values⟩ := List.forall₂_iff_zip.mp same
                exact ⟨length, fun pair inside =>
                  (ih pair.1 (List.of_mem_zip inside).1).mpr (values inside)⟩
      | _ => exact iff_of_false (by simp [jsonValuesEqual]) (by rintro ⟨⟩)
  | object fields ih =>
      cases b with
      | object others =>
          rw [jsonValuesEqual_object]
          constructor
          · rintro ⟨keys, values⟩
            refine .object keys fun key x y first second => ?_
            exact (ih (key, x) (Dict.mem_of_find first)).mp (values key x y first second)
          · intro equal
            cases equal with
            | object keys same =>
                exact ⟨keys, fun key x y first second =>
                  (ih (key, x) (Dict.mem_of_find first)).mpr (same key x y first second)⟩
      | _ => exact iff_of_false (by simp [jsonValuesEqual]) (by rintro ⟨⟩)

/-- A value and the schema that a schema has for it under another value. -/
inductive Child : (value schema item sub : Content) → Prop
  | property {fields sub : List (Points × Content)} {schema item : Content} {key : Points}
      (named : (key, .object sub) ∈ schema.properties) (found : Dict.find key fields = some item) :
      Child (.object fields) schema item (.object sub)
  | additional {fields sub : List (Points × Content)} {schema item : Content} {key : Points}
      (others : schema.get? "additionalProperties" = some (.object sub)) (inside : (key, item) ∈ fields)
      (unnamed : key ∉ schema.properties.map Prod.fst) : Child (.object fields) schema item (.object sub)
  | item {items : List Content} {sub : List (Points × Content)} {schema item : Content}
      (each : schema.get? "items" = some (.object sub)) (inside : item ∈ items) :
      Child (.list items) schema item (.object sub)

/-- The positions that a schema reaches in a value. -/
inductive Reached : (value schema item sub : Content) → Prop
  | here {value schema : Content} : Reached value schema value schema
  | step {value schema item sub inner last : Content} (child : Child value schema item sub)
      (rest : Reached item sub inner last) : Reached value schema inner last

theorem schemaTypeInvalid_child {value schema : Content} :
    schemaTypeInvalid value schema = true ↔ wrongType value schema = true ∨
      ∃ item sub, Child value schema item sub ∧ schemaTypeInvalid item sub = true := by
  rw [schemaTypeInvalid.eq_def, Bool.or_eq_true]
  refine or_congr_right ?_
  constructor
  · intro found
    split at found
    · rename_i fields
      rcases Bool.or_eq_true_iff.mp found with named | others
      · obtain ⟨⟨key, child⟩, inside, answer⟩ := List.any_eq_true.mp named
        split at answer
        · rename_i item here
          cases child with
          | object sub => exact ⟨item, .object sub, .property inside here, answer⟩
          | _ => cases answer
        · cases answer
      · split at others
        · rename_i sub given
          obtain ⟨⟨⟨key, item⟩, inside⟩, -, answer⟩ := List.any_eq_true.mp others
          obtain ⟨unnamed, invalid⟩ := Bool.and_eq_true_iff.mp answer
          exact ⟨item, .object sub, .additional given inside (of_decide_eq_true unnamed), invalid⟩
        · cases others
    · rename_i items
      split at found
      · rename_i sub given
        obtain ⟨⟨item, inside⟩, -, invalid⟩ := List.any_eq_true.mp found
        exact ⟨item, .object sub, .item given inside, invalid⟩
      · cases found
    · cases found
  · rintro ⟨item, sub, child, invalid⟩
    cases child with
    | property named here =>
        refine Bool.or_eq_true_iff.mpr (Or.inl (List.any_eq_true.mpr ⟨_, named, ?_⟩))
        split
        · rename_i other there
          cases here.symm.trans there
          exact invalid
        · rename_i absent
          cases here.symm.trans absent
    | additional others inside unnamed =>
        refine Bool.or_eq_true_iff.mpr (Or.inr ?_)
        rw [others]
        refine List.any_eq_true.mpr ⟨⟨_, inside⟩, List.mem_attach _ _, ?_⟩
        exact Bool.and_eq_true_iff.mpr ⟨decide_eq_true unnamed, invalid⟩
    | item each inside =>
        rw [each]
        exact List.any_eq_true.mpr ⟨⟨_, inside⟩, List.mem_attach _ _, invalid⟩

theorem Child.lt {value schema item sub : Content} (child : Child value schema item sub) :
    sizeOf item < sizeOf value := by
  cases child with
  | property named found => exact sizeOf_lt_of_find found
  | additional others inside unnamed => exact sizeOf_lt_of_mem inside
  | item each inside => exact sizeOf_lt_of_item inside

theorem reached_of_invalid (value schema : Content) (invalid : schemaTypeInvalid value schema = true) :
    ∃ item sub, Reached value schema item sub ∧ wrongType item sub = true := by
  rcases schemaTypeInvalid_child.mp invalid with wrong | ⟨inner, next, child, rest⟩
  · exact ⟨value, schema, .here, wrong⟩
  · have less := child.lt
    obtain ⟨item, sub, reached, wrong⟩ := reached_of_invalid inner next rest
    exact ⟨item, sub, .step child reached, wrong⟩
termination_by sizeOf value

/-- The first traversal finds the reached positions with a wrong type. -/
theorem schemaTypeInvalid_iff {value schema : Content} :
    schemaTypeInvalid value schema = true ↔
      ∃ item sub, Reached value schema item sub ∧ wrongType item sub = true := by
  constructor
  · exact reached_of_invalid value schema
  · intro ⟨item, sub, reached, wrong⟩
    induction reached with
    | here => exact schemaTypeInvalid_child.mpr (Or.inl wrong)
    | step child rest ih => exact schemaTypeInvalid_child.mpr (Or.inr ⟨_, _, child, ih wrong⟩)

/-- The positions that are gone through while the types are right. -/
def visits (order : SetOrder) (value schema : Content) : List (Content × Content) :=
  if wrongType value schema then []
  else (value, schema) ::
    match value with
    | .object fields =>
        (schema.properties.flatMap fun property =>
          match _found : Dict.find property.1 fields with
          | some item => if property.2.isMapping then visits order item property.2 else []
          | none => []) ++
        (match schema.get? "additionalProperties" with
          | some (.object additional) => (order.arrange (extra fields schema)).attach.flatMap fun field =>
              visits order field.1.2 (.object additional)
          | _ => [])
    | .list items =>
        (match schema.get? "items" with
          | some (.object each) => items.attach.flatMap fun item => visits order item.1 (.object each)
          | _ => [])
    | _ => []
termination_by sizeOf value
decreasing_by
  · exact sizeOf_lt_of_find ‹_›
  · exact sizeOf_lt_of_mem (List.mem_filter.mp ((order.perm _).mem_iff.mp field.2)).1
  · exact sizeOf_lt_of_item item.2

theorem mem_extra {fields : List (Points × Content)} {schema : Content} {field : Points × Content} :
    field ∈ extra fields schema ↔ field ∈ fields ∧ field.1 ∉ schema.properties.map Prod.fst := by
  rw [extra, List.mem_filter, decide_eq_true_iff]

theorem mem_visits {order : SetOrder} {value schema : Content} {position : Content × Content} :
    position ∈ visits order value schema ↔ wrongType value schema = false ∧
      (position = (value, schema) ∨
        ∃ item sub, Child value schema item sub ∧ position ∈ visits order item sub) := by
  rw [visits.eq_def]
  split
  · rename_i wrong
    exact iff_of_false List.not_mem_nil fun right => absurd wrong (by rw [right.1]; decide)
  · rename_i right
    rw [List.mem_cons, Bool.not_eq_true] at *
    refine Iff.trans (or_congr_right ?_) (and_iff_right right).symm
    constructor
    · intro found
      split at found
      · rename_i fields
        rcases List.mem_append.mp found with named | others
        · obtain ⟨⟨key, child⟩, inside, answer⟩ := List.mem_flatMap.mp named
          split at answer
          · rename_i item here
            cases child with
            | object sub => exact ⟨item, .object sub, .property inside here, answer⟩
            | _ => cases answer
          · cases answer
        · split at others
          · rename_i sub given
            obtain ⟨⟨⟨key, item⟩, inside⟩, -, answer⟩ := List.mem_flatMap.mp others
            obtain ⟨member, unnamed⟩ := mem_extra.mp ((order.perm _).mem_iff.mp inside)
            exact ⟨item, .object sub, .additional given member unnamed, answer⟩
          · cases others
      · split at found
        · rename_i sub given
          obtain ⟨⟨item, inside⟩, -, answer⟩ := List.mem_flatMap.mp found
          exact ⟨item, .object sub, .item given inside, answer⟩
        · cases found
      · cases found
    · intro ⟨item, sub, child, found⟩
      cases child with
      | property named here =>
          refine List.mem_append_left _ (List.mem_flatMap.mpr ⟨_, named, ?_⟩)
          split
          · rename_i other there
            cases here.symm.trans there
            exact found
          · rename_i absent
            cases here.symm.trans absent
      | additional others inside unnamed =>
          refine List.mem_append_right _ ?_
          rw [others]
          exact List.mem_flatMap.mpr ⟨⟨_, (order.perm _).mem_iff.mpr (mem_extra.mpr ⟨inside, unnamed⟩)⟩,
            List.mem_attach _ _, found⟩
      | item each inside =>
          rw [each]
          exact List.mem_flatMap.mpr ⟨⟨_, inside⟩, List.mem_attach _ _, found⟩

/-- The second traversal goes through the conditions of the positions. -/
theorem outputContractInvalid_eq (order : SetOrder) (value schema : Content) :
    outputContractInvalid order value schema =
      ((visits order value schema).flatMap fun position => keywordChecks position.1 position.2).anyM id := by
  induction value generalizing schema with
  | object fields ih =>
      rw [outputContractInvalid.eq_def, visits.eq_def]
      split
      · rfl
      · rw [List.flatMap_cons, anyM_append]
        congr 1
        dsimp only
        rw [List.flatMap_append, anyM_append]
        congr 1
        · rw [List.flatMap_assoc, anyM_flatMap]
          congr 1
          funext property
          by_cases mapping : property.2.isMapping = true
          · simp only [if_pos mapping]
            cases here : Dict.find property.1 fields with
            | some item => exact ih (property.1, item) (Dict.mem_of_find here) property.2
            | none => rfl
          · simp only [if_neg mapping]
            cases Dict.find property.1 fields <;> rfl
        · cases schema.get? "additionalProperties" with
          | none => rfl
          | some additional =>
              cases additional with
              | object sub =>
                  dsimp only
                  rw [List.flatMap_assoc, anyM_flatMap]
                  congr 1
                  funext field
                  have inside := (order.perm (extra fields schema)).mem_iff.mp field.2
                  exact ih field.1 (mem_extra.mp inside).1 (.object sub)
              | _ => rfl
  | list items ih =>
      rw [outputContractInvalid.eq_def, visits.eq_def]
      split
      · rfl
      · rw [List.flatMap_cons, anyM_append]
        congr 1
        dsimp only
        cases schema.get? "items" with
        | none => rfl
        | some each =>
            cases each with
            | object sub =>
                dsimp only
                rw [List.flatMap_assoc, anyM_flatMap]
                congr 1
                funext item
                exact ih item.1 item.2 (.object sub)
            | _ => rfl
  | _ =>
      rw [outputContractInvalid.eq_def, visits.eq_def]
      split
      · rfl
      · rw [List.flatMap_cons, anyM_append]
        rfl

/-- The keywords that a value compares with. -/
def bounds : List String := [
  "minimum", "maximum", "exclusiveMinimum", "exclusiveMaximum", "minLength", "maxLength", "minItems",
  "maxItems"]

/-- What the validation of a contract leaves known of it. -/
structure Accepted (schema : Content) : Prop where
  type_ : ∀ declared, schema.keyword "type" = some declared → ∃ name, declared = .str name
  required : ∀ items, schema.get? "required" = some (.list items) →
    ∀ item ∈ items, ∃ name, item = .str name
  enum : ∀ options, schema.keyword "enum" = some options → ∃ items, options = .list items
  bound : ∀ name ∈ bounds, ∀ limit, schema.keyword name = some limit → ∃ n, limit = .number n
  children : ∀ value item sub, Child value schema item sub → validateOutputContractSchema sub = .ok ()

theorem validateType_ok {declared : Content} (ok : validateType (some declared) = .ok ()) :
    ∃ name, declared = .str name := by
  cases declared with
  | str name => exact ⟨name, rfl⟩
  | _ => cases ok

theorem requiredNames_text {items : List Content} {names : List Points}
    (read : requiredNames items = some names) : ∀ item ∈ items, ∃ name, item = .str name := by
  induction items generalizing names with
  | nil => exact fun _ inside => absurd inside List.not_mem_nil
  | cons item items ih =>
      cases item with
      | str name =>
          obtain ⟨rest, tail, -⟩ := Option.map_eq_some_iff.mp read
          exact List.forall_mem_cons.mpr ⟨⟨name, rfl⟩, ih tail⟩
      | _ => cases read

theorem validateRequired_ok {items : List Content} (ok : validateRequired (some (.list items)) = .ok ()) :
    ∀ item ∈ items, ∃ name, item = .str name := by
  obtain ⟨names, read, -⟩ := require_ok.mp ok
  exact requiredNames_text read

theorem validateEnum_ok {options : Content} (ok : validateEnum (some options) = .ok ()) :
    ∃ items, options = .list items := by
  cases options with
  | list items => exact ⟨items, rfl⟩
  | _ => cases ok

theorem validateBound_ok {schema limit : Content} {name : String} (ok : schema.validateBound name = .ok ())
    (found : schema.keyword name = some limit) : ∃ n, limit = .number n := by
  rw [validateBound, found] at ok
  cases limit with
  | number n => exact ⟨n, rfl⟩
  | _ => cases ok

theorem validateLength_ok {schema limit : Content} {name : String}
    (ok : schema.validateLength name = .ok ()) (found : schema.keyword name = some limit) :
    ∃ n, limit = .number n := by
  rw [validateLength, found] at ok
  have natural := require_ok.mp ok
  cases limit with
  | number n => exact ⟨n, rfl⟩
  | _ => cases natural

theorem mem_properties {schema child : Content} {key : Points}
    (inside : (key, child) ∈ schema.properties) :
    ∃ properties, schema.keyword "properties" = some (.object properties) ∧ (key, child) ∈ properties := by
  unfold properties at inside
  split at inside
  · rename_i properties found
    exact ⟨properties, keyword_eq_some.mpr ⟨found, by rintro ⟨⟩⟩, inside⟩
  · cases inside

theorem accepted_of_ok {schema : Content} (ok : validateOutputContractSchema schema = .ok ()) :
    Accepted schema := by
  rw [validateOutputContractSchema.eq_def] at ok
  obtain ⟨-, ok⟩ := require_bind_ok.mp ok
  obtain ⟨typed, ok⟩ := check_ok.mp ok
  obtain ⟨named, ok⟩ := check_ok.mp ok
  obtain ⟨required, ok⟩ := check_ok.mp ok
  obtain ⟨others, ok⟩ := check_ok.mp ok
  obtain ⟨each, ok⟩ := check_ok.mp ok
  obtain ⟨enum, ok⟩ := check_ok.mp ok
  obtain ⟨limits, lengths⟩ := check_ok.mp ok
  refine ⟨fun declared found => ?_, fun items found => ?_, fun options found => ?_,
    fun name member limit found => ?_, fun value item sub child => ?_⟩
  · exact validateType_ok (found ▸ typed)
  · have keyword := keyword_eq_some.mpr ⟨found, (show Content.list items ≠ .null by rintro ⟨⟩)⟩
    exact validateRequired_ok (keyword ▸ required)
  · exact validateEnum_ok (found ▸ enum)
  · rcases List.mem_append.mp (show name ∈ ["minimum", "maximum", "exclusiveMinimum",
      "exclusiveMaximum"] ++ ["minLength", "maxLength", "minItems", "maxItems"] from member) with
      number | length
    · exact validateBound_ok (forM_ok.mp limits name number) found
    · exact validateLength_ok (forM_ok.mp lengths name length) found
  · cases child with
    | property inside found =>
        obtain ⟨properties, given, inside⟩ := mem_properties inside
        split at named
        · rename_i absent
          cases given.symm.trans absent
        · rename_i others there
          cases given.symm.trans there
          exact forM_ok.mp named ⟨_, inside⟩ (List.mem_attach _ _)
        · cases named
    | additional given inside unnamed =>
        have keyword := keyword_eq_some.mpr ⟨given, (show Content.object _ ≠ .null by rintro ⟨⟩)⟩
        split at others
        · rename_i absent
          cases keyword.symm.trans absent
        · rename_i there
          cases keyword.symm.trans there
        · rename_i there
          cases keyword.symm.trans there
          exact others
        · cases others
    | item given inside =>
        have keyword := keyword_eq_some.mpr ⟨given, (show Content.object _ ≠ .null by rintro ⟨⟩)⟩
        split at each
        · rename_i absent
          cases keyword.symm.trans absent
        · rename_i there
          cases keyword.symm.trans there
          exact each
        · cases each

end Content

end Hunter.ResponseValidator
