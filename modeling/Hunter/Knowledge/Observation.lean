import Hunter.Knowledge.Admission
import Hunter.Text.Words

/-!
What a reviewer wrote, read as a finding. The prose becomes one bounded sentence
without markup, links or numbers, and a tag names the family it may belong to. What
is read is evidence only after the schema of an ingested finding took it.
-/

namespace Hunter.Knowledge

open IssueAgent Chars

def maxClaimChars : Nat := 280

/-- One observation of a collector; what it lacks is `none`. -/
structure Observation where
  eventId : String
  provider : Option String
  reviewer : String
  path : Option String
  line : Option Int
  sourcePr : Option Int
  reviewedHeadSha : Option String
  reviewedBaseSha : Option String
  sourceEventHeadSha : Option String
  message : String

abbrev Match : Type := List Char → Option (List Char × List Char)

namespace Markup

/-- `<!--.*?-->` -/
def comment : Match := fun chars => do
  let rest ← dropPrefix "<!--".scalars chars
  let (_, rest) ← cutAt "-->".scalars rest
  return ([' '], rest)

/-- The text in brackets and what follows the target in parentheses. -/
def bracketed (chars : List Char) : Option (List Char × List Char) := do
  let rest ← dropPrefix ['['] chars
  let (label, rest) ← cutAt [']'] rest
  let rest ← dropPrefix ['('] rest
  let (_, rest) ← cutAt [')'] rest
  return (label, rest)

/-- `!\[[^\]]*\]\([^)]*\)` -/
def image : Match := fun chars => do
  let rest ← dropPrefix ['!'] chars
  let (_, rest) ← bracketed rest
  return ([' '], rest)

/-- `<[^>]+>` -/
def element : Match := fun chars => do
  let rest ← dropPrefix ['<'] chars
  let (name, rest) ← cutAt ['>'] rest
  if name = [] then none else return ([' '], rest)

/-- `\[([^\]]*)\]\([^)]*\)`, replaced by its label. -/
def link : Match := bracketed

/-- Three backticks, anything, three backticks. -/
def fence : Match := fun chars => do
  let ticks := List.replicate 3 (Char.ofNat 0x60)
  let rest ← dropPrefix ticks chars
  let (_, rest) ← cutAt ticks rest
  return ([' '], rest)

/-- The letter matches without regard to its case; two letters more fold to `i`. -/
def sameLetter (letter c : Char) : Bool :=
  c.toLower == letter || (letter == 'i' && (c == Char.ofNat 0x130 || c == Char.ofNat 0x131))

def dropFolded : List Char → List Char → Option (List Char)
  | [], chars => some chars
  | letter :: word, c :: chars => if sameLetter letter c then dropFolded word chars else none
  | _ :: _, [] => none

theorem familyId_digits {a b c : Char} (h : (a.isDigit && b.isDigit && c.isDigit) = true) :
    familyIdPattern.fullmatch (String.ofList ['D', 'F', 'F', '-', a, b, c]) = true := by
  have digits : [a, b, c].all Char.isDigit = true := by simpa [and_assoc] using h
  refine Regex.fullmatch_of_mem ?_
  rw [String.scalars_ofList]
  exact Regex.mem_rests_seq (Regex.mem_rests_text "DFF-" [a, b, c])
    (Regex.mem_rests_rep_one [a, b, c] [] digits (Nat.le_refl 3) (Nat.le_refl 3))

/-- A tag at the head of a text, in capital letters, and what follows it. -/
def tagAt (chars : List Char) : Option (FamilyId × List Char) := do
  match ← dropFolded "[family:dff-".scalars chars with
  | a :: b :: c :: ']' :: rest =>
      if h : (a.isDigit && b.isDigit && c.isDigit) = true then
        some (⟨String.ofList ['D', 'F', 'F', '-', a, b, c], familyId_digits h⟩, rest)
      else none
  | _ => none

def tag : Match := fun chars => (tagAt chars).map fun found => ([' '], found.2)

end Markup

open Markup

def isMark (c : Char) : Bool := ['*', '_', Char.ofNat 0x60, '#', '>', '|', '~'].contains c

def isPrintable (c : Char) : Bool := ' ' ≤ c && c ≤ '~'

/-- The first sentence of a finding, printable and bounded. -/
def normalizedClaim (message : String) : Py String := do
  let text := replaced element (replaced image (replaced comment message.scalars))
  let text := replaced tag (replaced fence (replaced link text))
  let text := respaced (text.map fun c => if isMark c then ' ' else c)
  -- a run of digits is one space, and so are several after the words are joined
  let sentence := (lower (firstSentence text)).map fun c => if c.isDigit then ' ' else c
  let sentence := sentence.map fun c => if isPrintable c then c else ' '
  let sentence := strip ((respaced sentence).take maxClaimChars)
  require (sentence ≠ []) (.findingRefused "the finding has no textual claim")
  return String.ofList sentence

/-- The tags of a text. They do not overlap: only the first character is a bracket. -/
def tagsOf : List Char → List FamilyId
  | [] => []
  | c :: chars => ((tagAt (c :: chars)).map (·.1)).toList ++ tagsOf chars

def familyTag (message : String) : Py (Option FamilyId) :=
  match (tagsOf message.scalars).dedup with
  | [] => .ok none
  | [family] => .ok (some family)
  | _ => .error (.findingRefused "a finding names more than one family")

/-- `review-comment-([1-9][0-9]{0,18})` -/
def commentPattern : Regex :=
  .concat [.text "review-comment-", .one fun c => '1' ≤ c && c ≤ '9', .rep .digit 0 18]

/-- `sonar-issue-([A-Za-z0-9_-]{1,128})` -/
def issuePattern : Regex := .seq (.text "sonar-issue-") issueKeyPattern

def decimal (digits : List Char) : Nat :=
  digits.foldl (fun n c => 10 * n + (c.toNat - '0'.toNat)) 0

/-- What an observation is of: a comment of GitHub or an issue of Sonar. -/
inductive Source where
  | comment (number : Nat)
  | issue (key : String)

def sourceOf (event : String) : Option Source :=
  if commentPattern.fullmatch event then
    some (.comment (decimal (event.scalars.drop "review-comment-".scalars.length)))
  else if issuePattern.fullmatch event then
    some (.issue (String.ofList (event.scalars.drop "sonar-issue-".scalars.length)))
  else none

/-- Comments of GitHub and issues of Sonar are numbered apart. -/
def Source.commentId : Source → Int
  | .comment number => number
  | .issue key => sonarCommentId key

def Source.issueKey : Source → Option String
  | .comment _ => none
  | .issue key => some key

def authenticated (o : Observation) : Py Source :=
  match sourceOf o.eventId with
  | some (.comment number) =>
      if o.provider = some "github-review" then .ok (.comment number)
      else .error (.findingRefused "GitHub comment identity requires GitHub provenance")
  | some (.issue key) =>
      if o.provider = some "sonar" then .ok (.issue key)
      else .error (.findingRefused "only authenticated inline reviews or Sonar issues are findings")
  | none =>
      .error (.findingRefused "only authenticated inline reviews or Sonar issues are findings")

def observedProvenance (o : Observation) (path : String) (source : Source) : List (String × Json) :=
  [("pull_request_number", optionalJson .int o.sourcePr),
    ("reviewed_head_sha", optionalJson .str o.reviewedHeadSha),
    ("reviewed_base_sha", optionalJson .str o.reviewedBaseSha),
    ("source_event_head_sha", optionalJson .str o.sourceEventHeadSha),
    ("provider", optionalJson .str o.provider), ("reviewer", .str o.reviewer),
    ("comment_id", .int source.commentId), ("path", .str path),
    ("line", optionalJson .int o.line)] ++
  extraJson "source_issue_key" .str source.issueKey

def observedFinding (o : Observation) (repositoryId : Int) (path claim : String) (source : Source) :
    List (String × Json) :=
  [("finding_id", .str (findingId repositoryId (o.sourcePr.getD 0) source.commentId).val),
    ("fingerprint", .str (fingerprint path claim).val), ("claim", .str claim),
    ("provenance", .obj (observedProvenance o path source))]

/-- A finding whose schema refuses it is malformed. -/
def malformed : Exn → Exn
  | .ledgerSchemaError message => .findingRefused ("malformed finding: " ++ message)
  | exn => exn

def namedPath (o : Observation) : Py String :=
  match o.path with
  | some path =>
      if path = "" then .error (.findingRefused "an inline finding must name its path") else .ok path
  | none => .error (.findingRefused "an inline finding must name its path")

/-- The evidence of an observation, as its schema reads it. -/
def findingFromObservation (o : Observation) (repositoryId : Int) : Py FindingIngested := do
  let source ← authenticated o
  require (strip o.reviewer.scalars ≠ [])
    (.findingRefused "an inline finding must identify its author")
  let path ← namedPath o
  let claim ← normalizedClaim o.message
  reraise malformed
    (findingIngested (.obj (observedFinding o repositoryId path claim source)) "finding")

end Hunter.Knowledge
