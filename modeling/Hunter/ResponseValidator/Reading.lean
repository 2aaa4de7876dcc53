import Hunter.Json.Text
import Hunter.ResponseValidator.Content

/-!
The decoder that the runtime reads a text with. The parse tree of a text keeps every member of its
mappings in the order of the text. In the value that is loaded a mapping is a dictionary: a member
is lost, with all that its value holds, where its key comes again.
-/

namespace Hunter.ResponseValidator

open Fallible

/-- The text is no JSON, or one of its numbers is beyond the decimals. -/
inductive Unread where
  | malformed
  | beyond
  deriving DecidableEq, Repr

def orMalformed {α : Type} : Option α → Except Unread α
  | some value => .ok value
  | none => .error .malformed

/-- The rest of a string whose opening quotation mark has been read. -/
def readString : List Char → Option (Points × List Char)
  | [] => none
  | c :: text =>
      if c = Json.quotationMark then some ([], text)
      else if c = '\\' then
        match text with
        | 'u' :: a :: b :: c :: d :: text => do
            let code ← Json.hexCode a b c d
            let (tail, rest) ← readString text
            -- No character is half of a pair, so the other half is an escape as well.
            return (Point.join (Fin.ofNat 0x110000 code) tail, rest)
        | e :: text => do
            let c ← Json.longEscape e
            let (tail, rest) ← readString text
            return (c.point :: tail, rest)
        | [] => none
      else if c.toNat < 0x20 then none
      else do
        let (tail, rest) ← readString text
        return (c.point :: tail, rest)

/-- `_parse_json_integer`: long integers are decimals. -/
def parseJsonInteger (n : Int) : Number :=
  if n.natAbs < 10 ^ 256 then .int n else .decimal ⟨n < 0, n.natAbs, 0⟩

def readNumber (text : List Char) : Except Unread (Content × List Char) :=
  let token := text.takeWhile Json.numberChar
  let rest := text.dropWhile Json.numberChar
  match Json.intToken token with
  | some n => .ok (.number (parseJsonInteger n), rest)
  | none =>
      if Json.floatText token then
        match Decimal.ofText token with
        | some decimal => .ok (.number (.decimal decimal), rest)
        | none => .error .beyond
      else .error .malformed

mutual
def readValue : Nat → List Char → Except Unread (Content × List Char)
  | 0, _ => .error .malformed
  | rounds + 1, text =>
      match Json.skip text with
      | [] => .error .malformed
      | c :: text =>
          if c = 'n' then do
            let rest ← orMalformed (Json.expect ['u', 'l', 'l'] text)
            .ok (.null, rest)
          else if c = 't' then do
            let rest ← orMalformed (Json.expect ['r', 'u', 'e'] text)
            .ok (.bool true, rest)
          else if c = 'f' then do
            let rest ← orMalformed (Json.expect ['a', 'l', 's', 'e'] text)
            .ok (.bool false, rest)
          else if c = Json.quotationMark then do
            let (value, rest) ← orMalformed (readString text)
            .ok (.str value, rest)
          else if c = '[' then
            match Json.skip text with
            | ']' :: rest => .ok (.list [], rest)
            | text => do
                let (items, rest) ← readItems rounds text
                .ok (.list items, rest)
          else if c = '{' then
            match Json.skip text with
            | '}' :: rest => .ok (.object [], rest)
            | text => do
                let (fields, rest) ← readFields rounds text
                .ok (.object fields, rest)
          else readNumber (c :: text)
/-- The items of a list from its first one to its closing bracket. -/
def readItems : Nat → List Char → Except Unread (List Content × List Char)
  | 0, _ => .error .malformed
  | rounds + 1, text => do
      let (item, text) ← readValue rounds text
      match Json.skip text with
      | ',' :: text =>
          let (items, rest) ← readItems rounds text
          .ok (item :: items, rest)
      | ']' :: rest => .ok ([item], rest)
      | _ => .error .malformed
/-- The members of a mapping from its first one to its closing brace. -/
def readFields : Nat → List Char → Except Unread (List (Points × Content) × List Char)
  | 0, _ => .error .malformed
  | rounds + 1, text =>
      match Json.skip text with
      | [] => .error .malformed
      | c :: text =>
          if c = Json.quotationMark then do
            let (key, text) ← orMalformed (readString text)
            match Json.skip text with
            | ':' :: text =>
                let (value, text) ← readValue rounds text
                match Json.skip text with
                | ',' :: text =>
                    let (fields, rest) ← readFields rounds text
                    .ok ((key, value) :: fields, rest)
                | '}' :: rest => .ok ([(key, value)], rest)
                | _ => .error .malformed
            | _ => .error .malformed
          else .error .malformed
end

/-- The parse tree of a text. A nested value takes two rounds and one character at least. -/
def readTree (text : String) : Except Unread Content := do
  let (value, rest) ← readValue (2 * text.scalars.length + 1) text.scalars
  if Json.skip rest = [] then .ok value else .error .malformed

namespace Content

mutual
/-- What is loaded of a parse tree. -/
def loaded : Content → Content
  | .list items => .list (loadedItems items)
  | .object fields => .object (loadedFields [] fields)
  | value => value
def loadedItems : List Content → List Content
  | [] => []
  | item :: items => loaded item :: loadedItems items
def loadedFields (placed : List (Points × Content)) : List (Points × Content) → List (Points × Content)
  | [] => placed
  | (key, value) :: fields => loadedFields (Dict.put key (loaded value) placed) fields
end

theorem loadedItems_eq_map (items : List Content) : loadedItems items = items.map loaded := by
  induction items with
  | nil => rfl
  | cons item items ih => exact congrArg (loaded item :: ·) ih

theorem loadedFields_nodup {placed fields : List (Points × Content)}
    (nodup : (placed.map Prod.fst).Nodup) : ((loadedFields placed fields).map Prod.fst).Nodup := by
  induction fields generalizing placed with
  | nil => exact nodup
  | cons field fields ih => exact ih (Dict.put_nodup nodup)

/-- The last member of a key is found. -/
theorem find_loadedFields (key : Points) (placed fields : List (Points × Content)) :
    Dict.find key (loadedFields placed fields) =
      ((Dict.find key fields.reverse).map loaded).or (Dict.find key placed) := by
  induction fields generalizing placed with
  | nil => rfl
  | cons field fields ih =>
      rw [loadedFields, ih, Dict.find_put, List.reverse_cons, Dict.find_append, Dict.find]
      cases Dict.find key fields.reverse with
      | some value => rfl
      | none =>
          simp only [Option.map_none, Option.none_or, eq_comm (a := key)]
          split <;> rfl

/-- A member anywhere in a value has a name of the kind. -/
inductive Named (kind : Points → Prop) : Content → Prop
  | name {fields : List (Points × Content)} {key : Points} {value : Content} (inside : (key, value) ∈ fields)
      (found : kind key) : Named kind (.object fields)
  | member {fields : List (Points × Content)} {key : Points} {value : Content}
      (inside : (key, value) ∈ fields) (found : Named kind value) : Named kind (.object fields)
  | item {items : List Content} {value : Content} (inside : value ∈ items) (found : Named kind value) :
      Named kind (.list items)

/-- A member that no later member of its key replaces, nor any around it, has a name of the kind. -/
inductive Exposed (kind : Points → Prop) : Content → Prop
  | name {fields : List (Points × Content)} {key : Points} {value : Content} (inside : (key, value) ∈ fields)
      (found : kind key) : Exposed kind (.object fields)
  | member {fields : List (Points × Content)} {key : Points} {value : Content}
      (last : Dict.find key fields.reverse = some value) (found : Exposed kind value) :
      Exposed kind (.object fields)
  | item {items : List Content} {value : Content} (inside : value ∈ items) (found : Exposed kind value) :
      Exposed kind (.list items)

/-- The names that are loaded are those that nothing replaces. -/
theorem named_loaded {kind : Points → Prop} (tree : Content) : Named kind tree.loaded ↔ Exposed kind tree := by
  induction tree with
  | null | bool _ | number _ | str _ => exact iff_of_false nofun nofun
  | list items ih =>
      rw [loaded, loadedItems_eq_map]
      constructor
      · intro named
        cases named with
        | item inside found =>
            obtain ⟨item, here, rfl⟩ := List.mem_map.mp inside
            exact .item here ((ih item here).mp found)
      · intro exposed
        cases exposed with
        | item inside found => exact .item (List.mem_map_of_mem inside) ((ih _ inside).mpr found)
  | object fields ih =>
      rw [loaded]
      have distinct : ((loadedFields [] fields).map Prod.fst).Nodup :=
        @loadedFields_nodup [] fields List.nodup_nil
      have looked (key : Points) : Dict.find key (loadedFields [] fields) =
          (Dict.find key fields.reverse).map loaded := by
        rw [find_loadedFields, Dict.find, Option.or_none]
      have keys (key : Points) :
          key ∈ (loadedFields [] fields).map Prod.fst ↔ key ∈ fields.map Prod.fst := by
        rw [← Dict.find_isSome_iff, looked, Option.isSome_map, Dict.find_isSome_iff, List.map_reverse,
          List.mem_reverse]
      constructor
      · intro named
        cases named with
        | name inside found =>
            obtain ⟨field, here, same⟩ := List.mem_map.mp ((keys _).mp (List.mem_map_of_mem inside))
            exact .name here (same ▸ found)
        | member inside found =>
            have kept := Dict.find_of_mem distinct inside
            obtain ⟨value, last, rfl⟩ := Option.map_eq_some_iff.mp ((looked _).symm.trans kept)
            have here := List.mem_reverse.mp (Dict.mem_of_find last)
            exact .member last ((ih (_, value) here).mp found)
      · intro exposed
        cases exposed with
        | name inside found =>
            obtain ⟨field, here, same⟩ := List.mem_map.mp ((keys _).mpr (List.mem_map_of_mem inside))
            exact .name here (same ▸ found)
        | @member _ key value last found =>
            have kept : Dict.find key (loadedFields [] fields) = some value.loaded := by
              rw [looked, last]
              rfl
            have here := List.mem_reverse.mp (Dict.mem_of_find last)
            exact .member (Dict.mem_of_find kept) ((ih (_, _) here).mpr found)

end Content

/-- `json.loads`. -/
def loads (text : String) : Except Unread Content := Content.loaded <$> readTree text

example : loads "\x7b\"a\": [1], \"\\ud800\": null, \"a\": \"\\ud83d\\ude00\"\x7d" =
    .ok (.object [("a", .str [0x1F600]), ([0xD800], .null)]) := by
  rfl

end Hunter.ResponseValidator
