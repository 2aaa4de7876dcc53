import Hunter.Digest.Sha256
import Hunter.Json.Text
import Hunter.Text.Isoformat

/-!
Canonical analytical values: every value is written as JSON that names its type,
a mapping as its items in the order of their keys, and an identity is the digest
of the ASCII text of that JSON under its namespace.
-/

namespace Hunter.Execution

open Calendar

def hashFormatVersion : String := "hash-v1"

def identitySchemaVersion : String := "analytical-identity-v1"

namespace Canonical

def tagged (type : String) (members : List (String × Json)) : Json :=
  .obj (("__type__", .str type) :: members)

/-- `_datetime_text`: the ISO text in UTC, with `Z` for the offset. -/
def datetimeText (moment : Moment) : String :=
  let seconds := moment.val / microsPerSecond
  let micros := moment.val % microsPerSecond
  String.ofList (dateText (seconds / 86400) (padded 2 (seconds / 3600 % 24) ++ ':' ::
    (padded 2 (seconds / 60 % 60) ++ ':' :: (padded 2 (seconds % 60) ++
      ((if micros = 0 then [] else '.' :: padded 6 micros) ++ ['Z'])))))

def datetime (moment : Moment) : Json :=
  tagged "datetime" [("value", .str (datetimeText moment))]

def int (n : Int) : Json := tagged "int" [("value", .str (toString n))]

def sequence (items : List Json) : Json := tagged "sequence" [("items", .arr items)]

/-- A mapping with text keys. -/
def mapping (items : List (String × Json)) : Json :=
  tagged "mapping" [("items", .arr ((Json.canonFields items).map fun (key, item) =>
    .arr [.str key, item]))]

def dataclass (name : String) (fields : List (String × Json)) : Json :=
  tagged "dataclass" [("class", .str name), ("fields", .obj fields)]

def hex4 (n : Nat) : List Char := Sha256.hexDigits 4 n

/-- `ensure_ascii`: a character outside ASCII as its UTF-16 escapes. -/
def asciiChar (c : Char) : List Char :=
  if c.toNat < 0x7f then [c]
  else if c.toNat < 0x10000 then '\\' :: 'u' :: hex4 c.toNat
  else '\\' :: 'u' :: hex4 (0xd800 + (c.toNat - 0x10000) / 0x400) ++
    '\\' :: 'u' :: hex4 (0xdc00 + (c.toNat - 0x10000) % 0x400)

def material (nameSpace : String) (payload : Json) : List Char :=
  (Json.render (mapping [("hash_format_version", .str hashFormatVersion),
    ("namespace", .str nameSpace), ("schema_version", .str identitySchemaVersion),
    ("payload", payload)]).canon).flatMap asciiChar

end Canonical

def stableDigest (nameSpace : String) (payload : Json) : String :=
  Sha256.hexdigest (Chars.encode (Canonical.material nameSpace payload))

@[irreducible] def identity (nameSpace : String) (payload : Json) : String :=
  nameSpace ++ ":" ++ identitySchemaVersion ++ ":" ++ stableDigest nameSpace payload

/-- An identity whose digest has been evaluated. -/
theorem identity_text {nameSpace digest : String} {payload : Json}
    (evaluated : stableDigest nameSpace payload = digest) :
    identity nameSpace payload = nameSpace ++ ":" ++ identitySchemaVersion ++ ":" ++ digest := by
  rw [identity, evaluated]

/-- An identity begins as its namespace does. -/
theorem identity_head {nameSpace : String} {payload : Json} {c : Char} {rest : List Char}
    (start : nameSpace.toList = c :: rest) :
    (identity nameSpace payload).toList.head? = some c := by
  rw [identity]
  simp [start]

end Hunter.Execution
