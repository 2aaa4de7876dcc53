import Hunter.Digest.Sha256
import Hunter.IssueAgent.ClosedSchema

/-!
The shapes of the texts a ledger may hold. Each shape has the type of the texts
that match it, so a field of that type needs no further check.
-/

namespace Hunter.IssueAgent

open Regex (alphanumeric concat digit lowerHex lowerWord opt printable rep text)

/-- `\d`: a decimal digit of any script. Each script has ten of them in a row. -/
def digitZeros : List Nat :=
  [0x30, 0x660, 0x6f0, 0x7c0, 0x966, 0x9e6, 0xa66, 0xae6, 0xb66, 0xbe6, 0xc66, 0xce6, 0xd66, 0xde6,
    0xe50, 0xed0, 0xf20, 0x1040, 0x1090, 0x17e0, 0x1810, 0x1946, 0x19d0, 0x1a80, 0x1a90, 0x1b50,
    0x1bb0, 0x1c40, 0x1c50, 0xa620, 0xa8d0, 0xa900, 0xa9d0, 0xa9f0, 0xaa50, 0xabf0, 0xff10, 0x104a0,
    0x10d30, 0x11066, 0x110f0, 0x11136, 0x111d0, 0x112f0, 0x11450, 0x114d0, 0x11650, 0x116c0,
    0x11730, 0x118e0, 0x11950, 0x11c50, 0x11d50, 0x11da0, 0x11f50, 0x16a60, 0x16ac0, 0x16b50,
    0x1d7ce, 0x1d7d8, 0x1d7e2, 0x1d7ec, 0x1d7f6, 0x1e140, 0x1e2f0, 0x1e4f0, 0x1e950, 0x1fbf0]

def anyDigit : Regex :=
  .one fun c => digitZeros.any fun first => first ≤ c.toNat && c.toNat < first + 10

def sha40Pattern : Regex := rep lowerHex 40 40

def sha64Pattern : Regex := rep lowerHex 64 64

def sigPattern : Regex := rep lowerHex 128 128

def authorizationIdPrefix : String := "hunter-issue-agent-authorization:"

def authorizationIdPattern : Regex := .seq (text authorizationIdPrefix) sha64Pattern

def timestampPattern : Regex :=
  concat [rep anyDigit 4 4, text "-", rep anyDigit 2 2, text "-", rep anyDigit 2 2, text "T",
    rep anyDigit 2 2, text ":", rep anyDigit 2 2, text ":", rep anyDigit 2 2,
    opt (.seq (text ".") (rep anyDigit 1 6)), text "Z"]

def loginPattern : Regex :=
  concat [alphanumeric [], rep (alphanumeric ['-']) 0 38, opt (text "[bot]")]

def identPattern : Regex :=
  .seq (alphanumeric []) (rep (alphanumeric ['.', '_', ':', '/', '#', '+', '@', '=', '-']) 0 199)

def nodeIdPattern : Regex := rep (alphanumeric ['_', '=', '-']) 1 128

def workflowPattern : Regex :=
  concat [text ".github/workflows/", rep (alphanumeric ['.', '_', '-']) 1 100, text ".y",
    opt (text "a"), text "ml"]

def jobPattern : Regex := .seq (.one Char.isLower) (rep lowerWord 0 63)

def branchPattern : Regex :=
  concat [text "issue-", .one fun c => '1' ≤ c && c ≤ '9', rep digit 0 9, text "-",
    rep lowerHex 16 16]

def artifactDigestPattern : Regex := .seq (text "sha256:") sha64Pattern

def scopePathPattern : Regex := rep (alphanumeric ['.', '_', '@', '+', '*', '/', '-']) 1 512

def branchGlobPattern : Regex := rep (alphanumeric ['.', '_', '/', '*', '-']) 1 200

def labelPattern : Regex := .seq (.one fun c => c.isLower || c.isDigit) (rep lowerWord 0 49)

def modelSlugPattern : Regex := .seq (alphanumeric []) (rep (alphanumeric ['.', '_', '-']) 0 63)

def testIdPattern : Regex :=
  concat [text "tests/", rep (alphanumeric ['_', '.', '/', '-']) 1 200, text ".py::",
    rep (alphanumeric ['_', '[', ']', '-']) 1 200]

def familyIdPattern : Regex := .seq (text "DFF-") (rep digit 3 3)

def familyTitlePattern : Regex :=
  .seq (.one fun c => c.isLower || c.isDigit) (rep lowerWord 2 99)

def familyTextPattern : Regex := rep printable 12 1000

abbrev Sha40 : Type := sha40Pattern.Matching

abbrev Sha64 : Type := sha64Pattern.Matching

abbrev Signature : Type := sigPattern.Matching

abbrev AuthorizationId : Type := authorizationIdPattern.Matching

abbrev Timestamp : Type := timestampPattern.Matching

abbrev Login : Type := loginPattern.Matching

abbrev Ident : Type := identPattern.Matching

/-- A run, a job, an artifact or any other number counted from one. -/
abbrev Positive : Type := { n : Int // 1 ≤ n }

instance (n : Nat) : OfNat Positive (n + 1) := ⟨⟨n + 1, by omega⟩⟩

abbrev sha40 : Validator Sha40 := pattern sha40Pattern

abbrev sha64 : Validator Sha64 := pattern sha64Pattern

abbrev authorizationId : Validator AuthorizationId := pattern authorizationIdPattern

abbrev timestamp : Validator Timestamp := pattern timestampPattern

abbrev ident : Validator Ident := pattern identPattern

abbrev positive : Validator Positive := int 1

/-- The parts between the slashes of a text. -/
def splitSlash : List Char → List (List Char)
  | [] => [[]]
  | '/' :: chars => [] :: splitSlash chars
  | c :: chars =>
      match splitSlash chars with
      | part :: parts => (c :: part) :: parts
      | [] => [[c]]

def scopePathConforms (value : String) : Bool :=
  let chars := value.scalars
  let trimmed := (chars.reverse.dropWhile (· == '/')).reverse
  scopePathPattern.fullmatch value && chars.head? != some '/' &&
    (splitSlash trimmed).all fun part => part != [] && part != ['.'] && part != ['.', '.']

abbrev ScopePath : Type := { value : String // scopePathConforms value = true }

def scopePath : Validator ScopePath
  | .str value, place =>
      if h : scopePathConforms value = true then .ok ⟨value, h⟩
      else .error (fail place "not a canonical repository path")
  | _, place => .error (fail place "not a canonical repository path")

instance : Stable scopePath where
  canon j place := by cases j <;> rfl

@[irreducible]
def sha256Hex (data : List UInt8) : Sha64 :=
  ⟨Sha256.hexdigest data, Sha256.hexdigest_fullmatch data⟩

theorem sha64_length (digest : Sha64) : digest.val.scalars.length = 64 := by
  obtain ⟨run, parts, -, least, most⟩ :=
    Regex.eq_append_of_mem_rests_rep_one (Regex.fullmatch_iff.mp digest.property)
  rw [parts, List.append_nil]
  omega

/-- The 64 hexadecimal digits of an authorization identity, without its prefix. -/
def authorizationDigest (id : AuthorizationId) : String :=
  String.ofList (id.val.scalars.drop authorizationIdPrefix.scalars.length)

def resultArtifactName (id : AuthorizationId) : String :=
  "hunter-ia-result-" ++ authorizationDigest id

/-- The fallback has its own result name, so neither attempt can stand in for the other. -/
def fallbackResultArtifactName (id : AuthorizationId) : String :=
  "hunter-ia-result-fb-" ++ authorizationDigest id

end Hunter.IssueAgent
