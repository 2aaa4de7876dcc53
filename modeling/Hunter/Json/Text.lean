import Hunter.Json.Value

/-!
The text of a JSON value: the compact dump with sorted keys, and a reader of the
whole grammar. Reading a dump gives the canonical value back, whatever the order
of the members it was written from, so the bytes of a dump identify the value.

The reader is bounded by the length of its text. `NaN` and the infinities have no
value here, and neither has an escape that names half of a surrogate pair.
-/

namespace Json

def quotationMark : Char := '\x22'

def space (c : Char) : Bool := c == ' ' || c == '\t' || c == '\n' || c == '\r'

/-- The one-letter escapes, by the character they stand for. -/
def shortEscapes : List (Char × Char) :=
  [(quotationMark, quotationMark), ('\\', '\\'), ('\n', 'n'), ('\r', 'r'), ('\t', 't'),
    (Char.ofNat 8, 'b'), (Char.ofNat 12, 'f')]

def escapeChar (c : Char) : List Char :=
  match shortEscapes.lookup c with
  | some e => ['\\', e]
  | none =>
      if c.toNat < 0x20 then
        ['\\', 'u', '0', '0', (c.toNat / 16).digitChar, (c.toNat % 16).digitChar]
      else [c]

def renderString (s : String) : List Char :=
  quotationMark :: (s.scalars.flatMap escapeChar ++ [quotationMark])

def renderInt (n : Int) : List Char :=
  if n < 0 then '-' :: Nat.toDigits 10 n.natAbs else Nat.toDigits 10 n.natAbs

def comma {α : Type} : List α → List Char
  | [] => []
  | _ :: _ => [',']

mutual
def render : Json → List Char
  | .null => ['n', 'u', 'l', 'l']
  | .bool true => ['t', 'r', 'u', 'e']
  | .bool false => ['f', 'a', 'l', 's', 'e']
  | .int n => renderInt n
  | .float text => text.val
  | .str s => renderString s
  | .arr items => '[' :: renderItems items
  | .obj fields => '{' :: renderFields fields
def renderItems : List Json → List Char
  | [] => [']']
  | j :: items => render j ++ (comma items ++ renderItems items)
def renderFields : List (String × Json) → List Char
  | [] => ['}']
  | (k, v) :: fields =>
      renderString k ++ ':' :: (render v ++ (comma fields ++ renderFields fields))
end

def dumps (j : Json) : String := String.ofList (render j.canon)

def skip (text : List Char) : List Char := text.dropWhile space

def expect : List Char → List Char → Option (List Char)
  | [], text => some text
  | c :: word, d :: text => if c = d then expect word text else none
  | _ :: _, [] => none

def hexValue (c : Char) : Option Nat :=
  if c.isDigit then some (c.toNat - '0'.toNat)
  else if 'a' ≤ c ∧ c ≤ 'f' then some (c.toNat - 'a'.toNat + 10)
  else if 'A' ≤ c ∧ c ≤ 'F' then some (c.toNat - 'A'.toNat + 10)
  else none

def hexCode (a b c d : Char) : Option Nat := do
  let a ← hexValue a
  let b ← hexValue b
  let c ← hexValue c
  let d ← hexValue d
  return ((a * 16 + b) * 16 + c) * 16 + d

def longEscape (e : Char) : Option Char :=
  if e = '/' then some '/' else (shortEscapes.find? fun pair => pair.2 == e).map Prod.fst

/-- The rest of a string whose opening quotation mark has been read. -/
def parseString : List Char → Option (List Char × List Char)
  | [] => none
  | c :: text =>
      if c = quotationMark then some ([], text)
      else if c = '\\' then
        match text with
        | 'u' :: a :: b :: c :: d :: text => do
            let code ← hexCode a b c d
            if 0xD800 ≤ code ∧ code < 0xDC00 then
              match text with
              | '\\' :: 'u' :: a :: b :: c :: d :: text =>
                  let low ← hexCode a b c d
                  if 0xDC00 ≤ low ∧ low < 0xE000 then
                    let (tail, rest) ← parseString text
                    return (Char.ofNat (0x10000 + (code - 0xD800) * 0x400 + (low - 0xDC00)) :: tail,
                      rest)
                  else none
              | _ => none
            else if 0xDC00 ≤ code ∧ code < 0xE000 then none
            else
              let (tail, rest) ← parseString text
              return (Char.ofNat code :: tail, rest)
        | e :: text => do
            let c ← longEscape e
            let (tail, rest) ← parseString text
            return (c :: tail, rest)
        | [] => none
      else if c.toNat < 0x20 then none
      else do
        let (tail, rest) ← parseString text
        return (c :: tail, rest)

def natToken (digits : List Char) : Option Nat :=
  if digits ≠ [] ∧ digits.all Char.isDigit ∧ (digits.length = 1 ∨ digits.head? ≠ some '0') then
    some (Nat.ofDigitChars 10 digits 0)
  else none

def intToken : List Char → Option Int
  | '-' :: digits => (natToken digits).map fun n : Nat => -(n : Int)
  | digits => (natToken digits).map fun n : Nat => (n : Int)

def parseNumber (text : List Char) : Option (Json × List Char) :=
  let token := text.takeWhile numberChar
  let rest := text.dropWhile numberChar
  match intToken token with
  | some n => some (.int n, rest)
  | none => if h : floatText token = true then some (.float ⟨token, h⟩, rest) else none

mutual
def parseValue : Nat → List Char → Option (Json × List Char)
  | 0, _ => none
  | fuel + 1, text =>
      match skip text with
      | [] => none
      | c :: text =>
          if c = 'n' then (expect ['u', 'l', 'l'] text).map fun rest => (.null, rest)
          else if c = 't' then (expect ['r', 'u', 'e'] text).map fun rest => (.bool true, rest)
          else if c = 'f' then
            (expect ['a', 'l', 's', 'e'] text).map fun rest => (.bool false, rest)
          else if c = quotationMark then
            (parseString text).map fun (s, rest) => (.str (String.ofList s), rest)
          else if c = '[' then
            match skip text with
            | ']' :: rest => some (.arr [], rest)
            | text => (parseItems fuel text).map fun (items, rest) => (.arr items, rest)
          else if c = '{' then
            match skip text with
            | '}' :: rest => some (.obj [], rest)
            | text => (parseFields fuel text).map fun (fields, rest) => (.obj fields, rest)
          else parseNumber (c :: text)
/-- The items of an array from its first one to its closing bracket. -/
def parseItems : Nat → List Char → Option (List Json × List Char)
  | 0, _ => none
  | fuel + 1, text => do
      let (j, text) ← parseValue fuel text
      match skip text with
      | ',' :: text =>
          let (items, rest) ← parseItems fuel text
          return (j :: items, rest)
      | ']' :: rest => return ([j], rest)
      | _ => none
/-- The members of an object from its first one to its closing brace. -/
def parseFields : Nat → List Char → Option (List (String × Json) × List Char)
  | 0, _ => none
  | fuel + 1, text =>
      match skip text with
      | [] => none
      | c :: text =>
          if c = quotationMark then do
            let (k, text) ← parseString text
            match skip text with
            | ':' :: text =>
                let (v, text) ← parseValue fuel text
                match skip text with
                | ',' :: text =>
                    let (fields, rest) ← parseFields fuel text
                    return (insertField (String.ofList k) v fields, rest)
                | '}' :: rest => return ([(String.ofList k, v)], rest)
                | _ => none
            | _ => none
          else none
end

def loads (text : String) : Option Json :=
  match parseValue (text.scalars.length + 1) text.scalars with
  | some (j, rest) => if skip rest = [] then some j else none
  | none => none

example : (loads (dumps (.obj [("b", .arr [.int (-12), .null]), ("a", .str "x\n")]))).isSome = true := by
  decide

end Json
