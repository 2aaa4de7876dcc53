import Mathlib
import Hunter.ResponseValidator.Comparisons

/-!
The reading of a contract from its text. A contract is accepted just where it is well formed at
every position, and whatever is refused is refused with one signal, except where a declared type
is a list or a mapping: to look it up among the names of types raises.
-/

namespace Hunter.ResponseValidator

open Fallible

namespace Content

/-- Every member is a schema that passes. -/
def validateProperties (check : Content → Except Fault Unit) : Option Content → Except Fault Unit
  | none => .ok ()
  | some (.object properties) => properties.forM fun field =>
      if field.2.isMapping then check field.2
      else .error (.ruleUnavailable "each output-contract property must be a schema")
  | some _ => .error (.ruleUnavailable "output-contract properties must be a mapping")

def validateAdditional (check : Content → Except Fault Unit) : Option Content → Except Fault Unit
  | none | some (.bool _) => .ok ()
  | some (.object additional) => check (.object additional)
  | some _ => .error (.ruleUnavailable "additionalProperties must be boolean or a schema")

def validateItems (check : Content → Except Fault Unit) : Option Content → Except Fault Unit
  | none => .ok ()
  | some (.object items) => check (.object items)
  | some _ => .error (.ruleUnavailable "output-contract items must be a schema")

theorem attach_forM {α ε : Type} (items : List α) (check : α → Except ε Unit) :
    items.attach.forM (fun item => check item.1) = items.forM check := by
  conv_rhs => rw [← List.attach_map_subtype_val items]
  induction items.attach with
  | nil => rfl
  | cons item rest ih =>
      show (check item.1 >>= fun _ => rest.forM fun item => check item.1) = _
      rw [ih]
      rfl

/-- The validation as a sequence of checks. -/
theorem validateOutputContractSchema_eq (schema : Content) :
    validateOutputContractSchema schema = (do
      require (∀ field ∈ schema.fields, field.1 ∈ supportedKeywords)
        (.ruleUnavailable "output contract contains unsupported rule keywords")
      validateType (schema.keyword "type")
      validateProperties validateOutputContractSchema (schema.keyword "properties")
      validateRequired (schema.keyword "required")
      validateAdditional validateOutputContractSchema (schema.keyword "additionalProperties")
      validateItems validateOutputContractSchema (schema.keyword "items")
      validateEnum (schema.keyword "enum")
      ["minimum", "maximum", "exclusiveMinimum", "exclusiveMaximum"].forM schema.validateBound
      ["minLength", "maxLength", "minItems", "maxItems"].forM schema.validateLength) := by
  rw [validateOutputContractSchema.eq_def]
  congr 1
  funext _
  congr 1
  funext _
  congr 1
  · split
    · rename_i absent
      rw [absent, validateProperties]
    · rename_i fields given
      rw [given]
      exact attach_forM fields fun field =>
        if field.2.isMapping then validateOutputContractSchema field.2
        else .error (.ruleUnavailable "each output-contract property must be a schema")
    · rename_i other properties given
      rw [given]
      cases other with
      | object fields => exact absurd rfl (properties fields)
      | _ => rfl
  · funext _
    congr 1
    funext _
    congr 1
    · split
      · rename_i absent
        rw [absent, validateAdditional]
      · rename_i given
        rw [given, validateAdditional]
      · rename_i given
        rw [given, validateAdditional]
      · rename_i other flag sub given
        rw [given]
        cases other with
        | bool b => exact absurd rfl (flag b)
        | object fields => exact absurd rfl (sub fields)
        | _ => rfl
    · funext _
      congr 1
      split
      · rename_i absent
        rw [absent, validateItems]
      · rename_i given
        rw [given, validateItems]
      · rename_i other sub given
        rw [given]
        cases other with
        | object fields => exact absurd rfl (sub fields)
        | _ => rfl

/-- The schemas that a schema holds. -/
inductive SubSchema (schema : Content) : Content → Prop
  | property {key : Points} {sub : Content} (named : (key, sub) ∈ schema.properties) :
      SubSchema schema sub
  | additional {sub : List (Points × Content)}
      (others : schema.keyword "additionalProperties" = some (.object sub)) :
      SubSchema schema (.object sub)
  | items {sub : List (Points × Content)} (each : schema.keyword "items" = some (.object sub)) :
      SubSchema schema (.object sub)

def numberKeywords : List String := ["minimum", "maximum", "exclusiveMinimum", "exclusiveMaximum"]

def lengthKeywords : List String := ["minLength", "maxLength", "minItems", "maxItems"]

def KnownKeywords (schema : Content) : Prop := ∀ field ∈ schema.fields, field.1 ∈ supportedKeywords

def TypeNamed (schema : Content) : Prop :=
  ∀ declared, schema.keyword "type" = some declared → ∃ name ∈ typeNames, declared = .str name

def PropertySchemas (schema : Content) : Prop :=
  ∀ given, schema.keyword "properties" = some given →
    ∃ fields, given = .object fields ∧ ∀ field ∈ fields, field.2.isMapping = true

def RequiredNames (schema : Content) : Prop :=
  ∀ given, schema.keyword "required" = some given →
    ∃ names : List Points, given = .list (names.map .str) ∧ [] ∉ names ∧ names.Nodup

def AdditionalSchema (schema : Content) : Prop :=
  ∀ given, schema.keyword "additionalProperties" = some given →
    (∃ b, given = .bool b) ∨ ∃ fields, given = .object fields

/-- What the keywords of a schema have to be, its own schemas apart. -/
structure WellShaped (schema : Content) : Prop where
  known : KnownKeywords schema
  type_ : TypeNamed schema
  properties : PropertySchemas schema
  required : RequiredNames schema
  additional : AdditionalSchema schema
  items : ∀ given, schema.keyword "items" = some given → ∃ fields, given = .object fields
  enum : ∀ given, schema.keyword "enum" = some given → ∃ first rest, given = .list (first :: rest)
  numbers : ∀ name ∈ numberKeywords, ∀ given, schema.keyword name = some given → ∃ n, given = .number n
  lengths : ∀ name ∈ lengthKeywords, ∀ given, schema.keyword name = some given →
    ∃ n, ∃ length : ℕ, given = .number n ∧ n.value = length

/-- A schema of known keywords, at every depth. -/
inductive WellFormed : Content → Prop
  | intro {schema : Content} (shaped : WellShaped schema)
      (children : ∀ sub, SubSchema schema sub → WellFormed sub) : WellFormed schema

theorem SubSchema.lt {schema sub : Content} (child : SubSchema schema sub) :
    sizeOf sub < sizeOf schema := by
  cases child with
  | property named =>
      obtain ⟨fields, given, inside⟩ := mem_properties named
      exact (sizeOf_lt_of_mem inside).trans (sizeOf_lt_of_keyword given)
  | additional others => exact sizeOf_lt_of_keyword others
  | items each => exact sizeOf_lt_of_keyword each

theorem validateType_iff {schema : Content} :
    validateType (schema.keyword "type") = .ok () ↔ TypeNamed schema := by
  unfold TypeNamed
  cases schema.keyword "type" with
  | none => exact iff_of_true rfl nofun
  | some declared =>
      cases declared with
      | str name =>
          rw [validateType, require_ok]
          constructor
          · intro known given same
            cases same
            exact ⟨name, known, rfl⟩
          · intro all
            obtain ⟨other, known, same⟩ := all _ rfl
            cases same
            exact known
      | _ =>
          refine iff_of_false nofun fun all => ?_
          obtain ⟨name, -, same⟩ := all _ rfl
          cases same

theorem requiredNames_iff {items : List Content} {names : List Points} :
    requiredNames items = some names ↔ items = names.map .str := by
  induction items generalizing names with
  | nil =>
      rw [requiredNames, Option.some.injEq, eq_comm, eq_comm (a := []), List.map_eq_nil_iff]
  | cons item items ih =>
      cases item with
      | str name =>
          rw [requiredNames, Option.map_eq_some_iff]
          constructor
          · intro ⟨rest, read, same⟩
            rw [← same, ih.mp read]
            rfl
          · intro same
            cases names with
            | nil => cases same
            | cons first rest =>
                cases same
                exact ⟨rest, ih.mpr rfl, rfl⟩
      | _ =>
          refine iff_of_false nofun fun same => ?_
          cases names <;> cases same

theorem validateRequired_iff {schema : Content} :
    validateRequired (schema.keyword "required") = .ok () ↔ RequiredNames schema := by
  unfold RequiredNames
  cases schema.keyword "required" with
  | none => exact iff_of_true rfl nofun
  | some given =>
      cases given with
      | list items =>
          rw [validateRequired, require_ok]
          constructor
          · intro ⟨names, read, clean⟩ given same
            cases same
            exact ⟨names, congrArg Content.list (requiredNames_iff.mp read), clean⟩
          · intro all
            obtain ⟨names, same, clean⟩ := all _ rfl
            cases same
            exact ⟨names, requiredNames_iff.mpr rfl, clean⟩
      | _ =>
          refine iff_of_false nofun fun all => ?_
          obtain ⟨names, same, -⟩ := all _ rfl
          cases same

theorem properties_of_keyword {schema : Content} {fields : List (Points × Content)}
    (given : schema.keyword "properties" = some (.object fields)) : schema.properties = fields := by
  rw [properties, (keyword_eq_some.mp given).1]

theorem properties_of_absent {schema : Content} (absent : schema.keyword "properties" = none) :
    schema.properties = [] := by
  unfold properties
  split
  · rename_i fields found
    cases absent.symm.trans (keyword_eq_some.mpr ⟨found, by rintro ⟨⟩⟩)
  · rfl

theorem validateProperties_iff {schema : Content} {check : Content → Except Fault Unit} :
    validateProperties check (schema.keyword "properties") = .ok () ↔
      PropertySchemas schema ∧ ∀ field ∈ schema.properties, check field.2 = .ok () := by
  unfold PropertySchemas
  cases given : schema.keyword "properties" with
  | none =>
      rw [properties_of_absent given]
      exact iff_of_true rfl ⟨nofun, fun _ inside => absurd inside List.not_mem_nil⟩
  | some value =>
      cases value with
      | object fields =>
          rw [properties_of_keyword given, validateProperties, forM_ok]
          constructor
          · intro all
            refine ⟨fun value same => ⟨fields, ?_, fun field inside => ?_⟩, fun field inside => ?_⟩
            · cases same
              rfl
            · by_contra other
              have passed := all field inside
              rw [if_neg other] at passed
              cases passed
            · have passed := all field inside
              split at passed
              · exact passed
              · cases passed
          · intro ⟨shaped, all⟩ field inside
            obtain ⟨others, same, mappings⟩ := shaped _ rfl
            cases same
            rw [if_pos (mappings field inside)]
            exact all field inside
      | _ =>
          refine iff_of_false nofun fun ⟨all, _⟩ => ?_
          obtain ⟨fields, same, -⟩ := all _ rfl
          cases same

theorem validateAdditional_iff {schema : Content} {check : Content → Except Fault Unit} :
    validateAdditional check (schema.keyword "additionalProperties") = .ok () ↔
      AdditionalSchema schema ∧ ∀ fields,
        schema.keyword "additionalProperties" = some (.object fields) → check (.object fields) = .ok () := by
  unfold AdditionalSchema
  cases schema.keyword "additionalProperties" with
  | none => exact iff_of_true rfl ⟨nofun, nofun⟩
  | some value =>
      cases value with
      | bool b =>
          refine iff_of_true rfl ⟨fun given same => Or.inl ⟨b, ?_⟩, nofun⟩
          cases same
          rfl
      | object fields =>
          constructor
          · intro passed
            refine ⟨fun given same => Or.inr ⟨fields, ?_⟩, fun others same => ?_⟩
            · cases same
              rfl
            · cases same
              exact passed
          · exact fun both => both.2 fields rfl
      | _ =>
          refine iff_of_false nofun fun ⟨all, _⟩ => ?_
          rcases all _ rfl with ⟨b, same⟩ | ⟨fields, same⟩ <;> cases same

theorem validateItems_iff {schema : Content} {check : Content → Except Fault Unit} :
    validateItems check (schema.keyword "items") = .ok () ↔
      (∀ given, schema.keyword "items" = some given → ∃ fields, given = .object fields) ∧
        ∀ fields, schema.keyword "items" = some (.object fields) → check (.object fields) = .ok () := by
  cases schema.keyword "items" with
  | none => exact iff_of_true rfl ⟨nofun, nofun⟩
  | some value =>
      cases value with
      | object fields =>
          constructor
          · intro passed
            refine ⟨fun given same => ⟨fields, ?_⟩, fun others same => ?_⟩
            · cases same
              rfl
            · cases same
              exact passed
          · exact fun both => both.2 fields rfl
      | _ =>
          refine iff_of_false nofun fun ⟨all, _⟩ => ?_
          obtain ⟨fields, same⟩ := all _ rfl
          cases same

theorem validateEnum_iff {given : Option Content} :
    validateEnum given = .ok () ↔
      ∀ options, given = some options → ∃ first rest, options = .list (first :: rest) := by
  cases given with
  | none => exact iff_of_true rfl nofun
  | some options =>
      cases options with
      | list items =>
          cases items with
          | nil =>
              refine iff_of_false nofun fun all => ?_
              obtain ⟨first, rest, same⟩ := all _ rfl
              cases same
          | cons first rest =>
              refine iff_of_true rfl fun options same => ⟨first, rest, ?_⟩
              cases same
              rfl
      | _ =>
          refine iff_of_false nofun fun all => ?_
          obtain ⟨first, rest, same⟩ := all _ rfl
          cases same

theorem validateBound_iff {schema : Content} {name : String} : schema.validateBound name = .ok () ↔
    ∀ given, schema.keyword name = some given → ∃ n, given = .number n := by
  rw [validateBound]
  cases schema.keyword name with
  | none => exact iff_of_true rfl (by rintro _ ⟨⟩)
  | some value =>
      cases value with
      | number n =>
          refine iff_of_true rfl fun given same => ⟨n, ?_⟩
          cases same
          rfl
      | _ =>
          refine iff_of_false (by rintro ⟨⟩) fun all => ?_
          obtain ⟨n, same⟩ := all _ rfl
          cases same

theorem isNonNegativeJsonInteger_iff {value : Content} : value.isNonNegativeJsonInteger = true ↔
    ∃ n, ∃ length : ℕ, value = .number n ∧ n.value = length := by
  cases value with
  | number n =>
      rw [isNonNegativeJsonInteger, Bool.and_eq_true, Number.isIntegral_iff, decide_eq_true_iff]
      constructor
      · intro ⟨⟨z, whole⟩, positive⟩
        rw [whole, Rat.intCast_nonneg] at positive
        obtain ⟨length, same⟩ := Int.eq_ofNat_of_zero_le positive
        exact ⟨n, length, rfl, by rw [whole, same]; rfl⟩
      · intro ⟨other, length, same, whole⟩
        cases same
        exact ⟨⟨length, whole⟩, by rw [whole]; exact Rat.natCast_nonneg⟩
  | _ => exact iff_of_false nofun fun ⟨n, length, same, _⟩ => nomatch same

theorem validateLength_iff {schema : Content} {name : String} : schema.validateLength name = .ok () ↔
    ∀ given, schema.keyword name = some given →
      ∃ n, ∃ length : ℕ, given = .number n ∧ n.value = length := by
  rw [validateLength]
  cases schema.keyword name with
  | none => exact iff_of_true rfl (by rintro _ ⟨⟩)
  | some value =>
      rw [require_ok, isNonNegativeJsonInteger_iff]
      constructor
      · intro formed given same
        cases same
        exact formed
      · exact fun all => all _ rfl

/-- A contract is accepted just where it is well formed. -/
theorem validateOutputContractSchema_iff (schema : Content) :
    validateOutputContractSchema schema = .ok () ↔ WellFormed schema := by
  have below (sub : Content) (child : SubSchema schema sub) :
      validateOutputContractSchema sub = .ok () ↔ WellFormed sub := by
    have less := child.lt
    exact validateOutputContractSchema_iff sub
  rw [validateOutputContractSchema_eq, require_bind_ok, check_ok, check_ok, check_ok, check_ok, check_ok,
    check_ok, check_ok, validateType_iff, validateProperties_iff, validateRequired_iff,
    validateAdditional_iff, validateItems_iff, validateEnum_iff, forM_ok, forM_ok]
  simp only [validateBound_iff, validateLength_iff]
  constructor
  · intro ⟨known, type_, ⟨properties, named⟩, required, ⟨additional, others⟩, ⟨items, each⟩, enum, numbers,
      lengths⟩
    refine .intro ⟨known, type_, properties, required, additional, items, enum, numbers, lengths⟩ ?_
    intro sub child
    refine (below sub child).mp ?_
    cases child with
    | property inside => exact named _ inside
    | additional given => exact others _ given
    | items given => exact each _ given
  · intro formed
    obtain ⟨shaped, children⟩ := formed
    have passed (sub : Content) (child : SubSchema schema sub) :=
      (below sub child).mpr (children sub child)
    exact ⟨shaped.known, shaped.type_, ⟨shaped.properties, fun field inside => passed _ (.property inside)⟩,
      shaped.required, ⟨shaped.additional, fun _ given => passed _ (.additional given)⟩,
      ⟨shaped.items, fun _ given => passed _ (.items given)⟩, shaped.enum, shaped.numbers, shaped.lengths⟩
termination_by sizeOf schema

/-- The checks, in their order, come to a declared type that is a list or a mapping. -/
inductive UnhashableType : Content → Prop
  | here {schema declared : Content} (known : KnownKeywords schema)
      (given : schema.keyword "type" = some declared)
      (unhashable : (∃ items, declared = .list items) ∨ ∃ fields, declared = .object fields) :
      UnhashableType schema
  | property {schema child : Content} {key : Points} {front back : List (Points × Content)}
      (known : KnownKeywords schema) (typed : TypeNamed schema)
      (given : schema.keyword "properties" = some (.object (front ++ (key, child) :: back)))
      (earlier : ∀ field ∈ front, field.2.isMapping = true ∧ WellFormed field.2)
      (inner : UnhashableType child) : UnhashableType schema
  | additional {schema : Content} {sub : List (Points × Content)}
      (known : KnownKeywords schema) (typed : TypeNamed schema) (properties : PropertySchemas schema)
      (named : ∀ field ∈ schema.properties, WellFormed field.2) (required : RequiredNames schema)
      (given : schema.keyword "additionalProperties" = some (.object sub))
      (inner : UnhashableType (.object sub)) : UnhashableType schema
  | items {schema : Content} {sub : List (Points × Content)}
      (known : KnownKeywords schema) (typed : TypeNamed schema) (properties : PropertySchemas schema)
      (named : ∀ field ∈ schema.properties, WellFormed field.2) (required : RequiredNames schema)
      (additional : AdditionalSchema schema)
      (others : ∀ fields, schema.keyword "additionalProperties" = some (.object fields) →
        WellFormed (.object fields))
      (given : schema.keyword "items" = some (.object sub)) (inner : UnhashableType (.object sub)) :
      UnhashableType schema

theorem UnhashableType.isMapping {schema : Content} (unhashable : UnhashableType schema) :
    schema.isMapping = true := by
  have mapping {name : String} {value : Content} (given : schema.keyword name = some value) :
      schema.isMapping = true := by
    cases schema with
    | object fields => rfl
    | _ => cases given
  cases unhashable with
  | here _ given => exact mapping given
  | property _ _ given => exact mapping given
  | additional _ _ _ _ _ given => exact mapping given
  | items _ _ _ _ _ _ _ given => exact mapping given

theorem validateType_typeError {given : Option Content} :
    validateType given = .error .typeError ↔ ∃ declared, given = some declared ∧
      ((∃ items, declared = .list items) ∨ ∃ fields, declared = .object fields) := by
  cases given with
  | none => exact iff_of_false nofun nofun
  | some declared =>
      cases declared with
      | list items => exact iff_of_true rfl ⟨_, rfl, Or.inl ⟨items, rfl⟩⟩
      | object fields => exact iff_of_true rfl ⟨_, rfl, Or.inr ⟨fields, rfl⟩⟩
      | str name =>
          refine iff_of_false (fun raised => nomatch (require_error.mp raised).2) ?_
          rintro ⟨declared, same, ⟨items, rfl⟩ | ⟨fields, rfl⟩⟩ <;> cases same
      | _ =>
          refine iff_of_false nofun ?_
          rintro ⟨declared, same, ⟨items, rfl⟩ | ⟨fields, rfl⟩⟩ <;> cases same

theorem validateProperties_typeError {check : Content → Except Fault Unit} {given : Option Content} :
    validateProperties check given = .error .typeError ↔ ∃ front key child back,
      given = some (.object (front ++ (key, child) :: back)) ∧
        (∀ field ∈ front, field.2.isMapping = true ∧ check field.2 = .ok ()) ∧
        child.isMapping = true ∧ check child = .error .typeError := by
  cases given with
  | none => exact iff_of_false nofun nofun
  | some value =>
      cases value with
      | object fields =>
          rw [validateProperties, forM_error]
          constructor
          · intro ⟨front, (key, child), back, same, earlier, raised⟩
            refine ⟨front, key, child, back, by rw [same], fun field inside => ?_, ?_⟩
            · have passed := earlier field inside
              split at passed
              · rename_i mapping
                exact ⟨mapping, passed⟩
              · cases passed
            · split at raised
              · rename_i mapping
                exact ⟨mapping, raised⟩
              · cases raised
          · intro ⟨front, key, child, back, same, earlier, mapping, raised⟩
            cases same
            refine ⟨front, (key, child), back, rfl, fun field inside => ?_, ?_⟩
            · rw [if_pos (earlier field inside).1]
              exact (earlier field inside).2
            · rw [if_pos mapping]
              exact raised
      | _ => exact iff_of_false nofun fun ⟨_, _, _, _, same, _⟩ => nomatch same

theorem validateRequired_typeError {given : Option Content} :
    validateRequired given ≠ .error .typeError := by
  cases given with
  | none => exact nofun
  | some value =>
      cases value with
      | list items => exact fun raised => nomatch (require_error.mp raised).2
      | _ => exact nofun

theorem validateAdditional_typeError {check : Content → Except Fault Unit} {given : Option Content} :
    validateAdditional check given = .error .typeError ↔
      ∃ fields, given = some (.object fields) ∧ check (.object fields) = .error .typeError := by
  cases given with
  | none => exact iff_of_false nofun nofun
  | some value =>
      cases value with
      | object fields =>
          refine ⟨fun raised => ⟨fields, rfl, raised⟩, fun ⟨others, same, raised⟩ => ?_⟩
          cases same
          exact raised
      | _ => exact iff_of_false nofun fun ⟨_, same, _⟩ => nomatch same

theorem validateItems_typeError {check : Content → Except Fault Unit} {given : Option Content} :
    validateItems check given = .error .typeError ↔
      ∃ fields, given = some (.object fields) ∧ check (.object fields) = .error .typeError := by
  cases given with
  | none => exact iff_of_false nofun nofun
  | some value =>
      cases value with
      | object fields =>
          refine ⟨fun raised => ⟨fields, rfl, raised⟩, fun ⟨others, same, raised⟩ => ?_⟩
          cases same
          exact raised
      | _ => exact iff_of_false nofun fun ⟨_, same, _⟩ => nomatch same

theorem validateEnum_typeError {given : Option Content} : validateEnum given ≠ .error .typeError := by
  unfold validateEnum
  split <;> exact nofun

theorem validateBounds_typeError {schema : Content} {names : List String} :
    names.forM schema.validateBound ≠ .error .typeError := by
  intro raised
  obtain ⟨-, name, -, -, -, raised⟩ := forM_error.mp raised
  unfold validateBound at raised
  split at raised <;> cases raised

theorem validateLengths_typeError {schema : Content} {names : List String} :
    names.forM schema.validateLength ≠ .error .typeError := by
  intro raised
  obtain ⟨-, name, -, -, -, raised⟩ := forM_error.mp raised
  unfold validateLength at raised
  split at raised
  · cases raised
  · cases (require_error.mp raised).2

/-- The validation raises just where its checks come to such a type. -/
theorem validateOutputContractSchema_typeError (schema : Content) :
    validateOutputContractSchema schema = .error .typeError ↔ UnhashableType schema := by
  have below {sub : Content} (child : SubSchema schema sub) :
      validateOutputContractSchema sub = .error .typeError ↔ UnhashableType sub := by
    have less := child.lt
    exact validateOutputContractSchema_typeError sub
  rw [validateOutputContractSchema_eq, check_error, check_error, check_error, check_error, check_error,
    check_error, check_error, check_error]
  simp only [require_ok, require_error, reduceCtorEq, and_false, false_or, validateType_typeError,
    validateType_iff, validateProperties_typeError, validateProperties_iff, validateRequired_typeError,
    validateRequired_iff, validateAdditional_typeError, validateAdditional_iff, validateItems_typeError,
    validateEnum_typeError, validateBounds_typeError, validateLengths_typeError, or_false,
    validateOutputContractSchema_iff]
  constructor
  · rintro ⟨known, ⟨declared, given, unhashable⟩ | ⟨typed, ⟨front, key, child, back, given, earlier, -, raised⟩ |
      ⟨⟨properties, named⟩, required, ⟨fields, given, raised⟩ | ⟨⟨additional, others⟩, fields, given, raised⟩⟩⟩⟩
    · exact .here known given unhashable
    · have inside : (key, child) ∈ schema.properties := by
        rw [properties_of_keyword given]
        exact List.mem_append_right _ List.mem_cons_self
      exact .property known typed given earlier ((below (.property inside)).mp raised)
    · exact .additional known typed properties named required given ((below (.additional given)).mp raised)
    · exact .items known typed properties named required additional others given
        ((below (.items given)).mp raised)
  · intro unhashable
    cases unhashable with
    | here known given unhashable => exact ⟨known, Or.inl ⟨_, given, unhashable⟩⟩
    | @property _ child key front back known typed given earlier inner =>
        have inside : (key, child) ∈ schema.properties := by
          rw [properties_of_keyword given]
          exact List.mem_append_right _ List.mem_cons_self
        exact ⟨known, Or.inr ⟨typed, Or.inl
          ⟨front, key, child, back, given, earlier, inner.isMapping, (below (.property inside)).mpr inner⟩⟩⟩
    | additional known typed properties named required given inner =>
        exact ⟨known, Or.inr ⟨typed, Or.inr ⟨⟨properties, named⟩, required, Or.inl
          ⟨_, given, (below (.additional given)).mpr inner⟩⟩⟩⟩
    | items known typed properties named required additional others given inner =>
        exact ⟨known, Or.inr ⟨typed, Or.inr ⟨⟨properties, named⟩, required, Or.inr
          ⟨⟨additional, others⟩, _, given, (below (.items given)).mpr inner⟩⟩⟩⟩
termination_by sizeOf schema

end Content

/-- `_AuthorizationRefusalSignal`. -/
structure RefusalSignal where
  state : ValidationState
  reasonCode : String
  availableAuthority : List (String × String)
  transientCleanupCoordinates : Option (List (String × String))
  deriving DecidableEq, Repr

/-- A refusal is a signal; a fault is another exception. -/
inductive Raised where
  | refusal (signal : RefusalSignal)
  | fault (fault : Fault)
  deriving DecidableEq, Repr

/-- `_parse_output_contract`. -/
def parseOutputContract (value : String) (availableAuthority : List (String × String))
    (maximumDepth : Nat) (transientCleanupCoordinates : Option (List (String × String))) :
    Except Raised Content :=
  let refused (reasonCode : String) : Except Raised Content :=
    .error (.refusal ⟨.ruleUnavailable, reasonCode, availableAuthority, transientCleanupCoordinates⟩)
  if jsonNestingExceeds maximumDepth 0 false false value.scalars then
    refused "REQUESTED_OUTPUT_CONTRACT_EXCEEDS_DEPTH_POLICY"
  else
    match loads value with
    | .error _ => refused "REQUESTED_OUTPUT_CONTRACT_UNREADABLE"
    | .ok parsed =>
        if parsed.isMapping = false then refused "REQUESTED_OUTPUT_CONTRACT_IS_NOT_A_SCHEMA_OBJECT"
        else
          match Content.validateOutputContractSchema parsed with
          | .ok () => .ok parsed
          | .error (.ruleUnavailable _) => refused "REQUESTED_OUTPUT_CONTRACT_RULE_UNAVAILABLE"
          | .error .typeError => .error (.fault .typeError)

/-- The mapping that a contract text holds, if it is read. -/
def contractMapping (value : String) (maximumDepth : Nat) : Option Content :=
  if jsonNestingExceeds maximumDepth 0 false false value.scalars then none
  else
    match loads value with
    | .ok parsed => if parsed.isMapping then some parsed else none
    | .error _ => none

/-- A contract text is parsed to a mapping or refused, and a parsed contract is evaluated for a
value without an exception. The first traversal answers for every contract. -/
def Executable (order : Content.SetOrder) (value : String) (availableAuthority : List (String × String))
    (maximumDepth : Nat) (cleanup : Option (List (String × String))) (decoded : Content) : Prop :=
  match parseOutputContract value availableAuthority maximumDepth cleanup with
  | .error (.fault _) => False
  | .error (.refusal signal) => signal.state = .ruleUnavailable ∧
      signal.availableAuthority = availableAuthority ∧ signal.transientCleanupCoordinates = cleanup
  | .ok contract =>
      (∃ invalid, Content.outputContractInvalid order decoded contract = .ok invalid) ∧
        ∀ inputs : EvaluationInputs, inputs.outputContract = contract →
          ∃ findings, evaluateDecoded order decoded inputs = .ok findings

theorem parse_mapping {value : String} {availableAuthority : List (String × String)} {maximumDepth : Nat}
    {cleanup : Option (List (String × String))} {parsed : Content}
    (read : contractMapping value maximumDepth = some parsed) :
    parseOutputContract value availableAuthority maximumDepth cleanup =
      match Content.validateOutputContractSchema parsed with
      | .ok () => .ok parsed
      | .error (.ruleUnavailable _) => .error (.refusal ⟨.ruleUnavailable,
          "REQUESTED_OUTPUT_CONTRACT_RULE_UNAVAILABLE", availableAuthority, cleanup⟩)
      | .error .typeError => .error (.fault .typeError) := by
  unfold contractMapping at read
  split at read
  · cases read
  · rename_i shallow
    split at read
    · rename_i content found
      split at read
      · rename_i mapping
        cases read
        rw [parseOutputContract, if_neg shallow, found]
        dsimp only
        rw [if_neg (by rw [mapping]; exact nofun)]
      · cases read
    · cases read

theorem parse_refused {value : String} {availableAuthority : List (String × String)} {maximumDepth : Nat}
    {cleanup : Option (List (String × String))} (unread : contractMapping value maximumDepth = none) :
    ∃ reasonCode, parseOutputContract value availableAuthority maximumDepth cleanup =
      .error (.refusal ⟨.ruleUnavailable, reasonCode, availableAuthority, cleanup⟩) := by
  unfold contractMapping at unread
  unfold parseOutputContract
  split at unread
  · rename_i deep
    rw [if_pos deep]
    exact ⟨_, rfl⟩
  · rename_i shallow
    rw [if_neg shallow]
    split at unread
    · rename_i content found
      split at unread
      · cases unread
      · rename_i other
        rw [found]
        dsimp only
        rw [if_pos (Bool.not_eq_true _ ▸ other)]
        exact ⟨_, rfl⟩
    · rename_i unreadable
      rw [unreadable]
      exact ⟨_, rfl⟩

theorem evaluateDecoded_ok {order : Content.SetOrder} {decoded : Content} {inputs : EvaluationInputs}
    {invalid : Bool}
    (answer : Content.outputContractInvalid order decoded inputs.outputContract = .ok invalid) :
    ∃ findings, evaluateDecoded order decoded inputs = .ok findings := by
  have computed : ∃ contract, contractFindings order decoded inputs = .ok contract := by
    unfold contractFindings
    split
    · rw [answer]
      exact ⟨_, rfl⟩
    · exact ⟨_, rfl⟩
  obtain ⟨contract, computed⟩ := computed
  exact ⟨_, by rw [evaluateDecoded, computed, ok_bind]⟩

/-- A contract text is executable for a value just where its checks come to no declared type that
is a list or a mapping and, if it is well formed, no null keyword is met before a violation. -/
theorem contract_executable (order : Content.SetOrder) (value : String)
    (availableAuthority : List (String × String)) (maximumDepth : Nat)
    (cleanup : Option (List (String × String))) (decoded : Content) :
    Executable order value availableAuthority maximumDepth cleanup decoded ↔
      ∀ contract, contractMapping value maximumDepth = some contract →
        ¬contract.UnhashableType ∧
          (contract.WellFormed → Content.NullsLate order decoded contract) := by
  unfold Executable
  cases read : contractMapping value maximumDepth with
  | none =>
      obtain ⟨reasonCode, refused⟩ := @parse_refused _ availableAuthority _ cleanup read
      rw [refused]
      exact iff_of_true ⟨rfl, rfl, rfl⟩ nofun
  | some contract =>
      rw [parse_mapping read]
      have single {P : Content → Prop} : (∀ other, some contract = some other → P other) ↔ P contract :=
        ⟨fun all => all _ rfl, fun holds other same => Option.some.inj same ▸ holds⟩
      rw [single, ← Content.validateOutputContractSchema_typeError,
        ← Content.validateOutputContractSchema_iff]
      cases passed : Content.validateOutputContractSchema contract with
      | ok _ =>
          rw [← Content.outputContractInvalid_ok passed]
          constructor
          · intro ⟨answered, _⟩
            exact ⟨nofun, fun _ => answered⟩
          · intro ⟨_, answered⟩
            obtain ⟨invalid, answer⟩ := answered rfl
            refine ⟨⟨invalid, answer⟩, fun inputs same => ?_⟩
            exact evaluateDecoded_ok (same ▸ answer)
      | error fault =>
          cases fault with
          | typeError => exact iff_of_false id fun both => both.1 rfl
          | ruleUnavailable message => exact iff_of_true ⟨rfl, rfl, rfl⟩ ⟨nofun, nofun⟩

/-- A type that is a list of names, as JSON Schema allows it, raises. -/
theorem contract_executable_fails : ¬∀ order value availableAuthority maximumDepth cleanup decoded,
    Executable order value availableAuthority maximumDepth cleanup decoded := by
  intro claim
  have executable := claim sameOrder "\x7b\"type\": [\"string\", \"null\"]\x7d" [] 64 none .null
  have loaded : loads "\x7b\"type\": [\"string\", \"null\"]\x7d" =
      .ok (.object [("type", .list [.str ("string" : String), .str ("null" : String)])]) := by rfl
  have shallow : jsonNestingExceeds 64 0 false false
      "\x7b\"type\": [\"string\", \"null\"]\x7d".scalars = false := by decide
  have read : contractMapping "\x7b\"type\": [\"string\", \"null\"]\x7d" 64 =
      some (.object [("type", .list [.str ("string" : String), .str ("null" : String)])]) := by
    rw [contractMapping, shallow, loaded]
    rfl
  have raised : Content.validateOutputContractSchema
      (.object [("type", .list [.str ("string" : String), .str ("null" : String)])]) = .error .typeError := by
    rw [Content.validateOutputContractSchema.eq_def]
    rfl
  rw [Executable, parse_mapping read, raised] at executable
  exact executable

end Hunter.ResponseValidator
