import Hunter.IssueAgent.ClosedSchema

/-!
The branch a ledger is kept on. A git object name stands for what it names, so a
commit is given by its own files, message and time after those of its history. A
push is leased on the commit it was built on.
-/

namespace Hunter.IssueAgent

structure Node where
  files : List (String × List UInt8)
  message : String
  timestamp : String
  deriving DecidableEq

/-- A commit with its history, oldest first. There is no commit on an empty branch. -/
abbrev Branch : Type := List Node

/-- `json.loads` of a blob. Bytes that are not UTF-8 are no JSON either. -/
def loadBlob (blob : List UInt8) : Option Json :=
  let text := Chars.decode blob
  if Chars.encode text = blob then Json.loads (String.ofList text) else none

theorem loadBlob_canonicalJson (j : Json) : loadBlob (canonicalJson j) = some j.canon := by
  simp only [loadBlob, canonicalJson, Chars.decode_encode, if_true]
  exact Json.loads_dumps j

/-- `read_files`: every commit of the chain holds exactly the named files. -/
def readFiles (branch : Branch) (names : List String) : Py (List (List (String × List UInt8))) :=
  branch.mapM fun node => do
    require (node.files.map Prod.fst ⊆ names ∧ names ⊆ node.files.map Prod.fst)
      (.ledgerCorruptError "ledger commit tree differs from the closed layout")
    return node.files

theorem readFiles_ok {branch : Branch} {names : List String}
    {entries : List (List (String × List UInt8))} (h : readFiles branch names = .ok entries) :
    entries = branch.map (·.files) := by
  induction branch generalizing entries with
  | nil =>
      cases h
      rfl
  | cons node branch ih =>
      simp only [readFiles, List.mapM_cons, bind_ok, pure_eq_ok, Except.ok.injEq] at h
      obtain ⟨_, ⟨_, -, rfl⟩, rest, others, rfl⟩ := h
      rw [ih others, List.map_cons]

theorem readFiles_snoc {branch : Branch} {node : Node} {names : List String}
    {entries : List (List (String × List UInt8))} (h : readFiles branch names = .ok entries)
    (layout : node.files.map Prod.fst = names) :
    readFiles (branch ++ [node]) names = .ok (entries ++ [node.files]) := by
  have whole : names ⊆ names ∧ names ⊆ names := ⟨List.Subset.refl _, List.Subset.refl _⟩
  rw [readFiles] at h ⊢
  rw [List.mapM_append, h]
  simp only [ok_bind, List.mapM_cons, List.mapM_nil, layout, require_of whole, pure_eq_ok]

/-- What becomes of one push: it lands and is read back, it lands but its run ends
before it knows, or it never lands and its run ends. -/
inductive Fate where
  | acknowledged
  | lost (exn : Exn)
  | refused (exn : Exn)

/-- `append_files` on the head the run has seen. If another writer moved the branch
the push is refused. -/
def appendFiles (branch : Branch) (node : Node) : Fate → Branch × Py Branch
  | .acknowledged => (branch ++ [node], .ok (branch ++ [node]))
  | .lost exn => (branch ++ [node], .error exn)
  | .refused exn => (branch, .error exn)

end Hunter.IssueAgent
