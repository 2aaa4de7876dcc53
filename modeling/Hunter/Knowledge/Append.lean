import Hunter.IssueAgent.Lifecycle
import Hunter.IssueAgent.Store
import Hunter.Knowledge.Writing

/-!
Appending a batch to the knowledge ledger. A write that is recorded already with the
same evidence is skipped, so a batch that was cut short anywhere is completed by
running it again: what the first run committed is just what the second one skips.
-/

namespace Hunter.Knowledge

open IssueAgent

section Store

variable [Ed25519] (trust : TrustRoots) (provenance : ProvenanceCheck)

def recordFile : String := "record.json"

def loadRecord (files : List (String × List UInt8)) : Py Json :=
  match (files.lookup recordFile).bind loadBlob with
  | some record => .ok record
  | none => .error (refusal "knowledge record is not JSON")

def read (branch : Branch) : Py KnowledgeView := do
  let entries ← readFiles branch [recordFile]
  entries.foldlM (fun view files => do apply trust provenance view (← loadRecord files))
    (.empty trust.repositoryId)

/-- The commit of one record. -/
def recordNode (view : KnowledgeView) (job : Job) (write : Write) (record : Json) : Node :=
  ⟨[(recordFile, canonicalJson record)],
    "knowledge " ++ toString view.nextSeq ++ " " ++ write.kind.text, job.recordedAt⟩

variable (job : Job)

/-- The loop of `append`: the branch it leaves, and how it ends. -/
def appendWrites : List Write → List Fate → Branch → KnowledgeView → Nat →
    Branch × Py (Branch × KnowledgeView × Nat)
  | [], _, branch, view, written => (branch, .ok (branch, view, written))
  | write :: writes, fates, branch, view, written =>
      match recordKey write.kind write.json with
      | .error exn => (branch, .error exn)
      | .ok key =>
          match view.keys.get? (write.kind, key) with
          | some existing =>
              if existing = evidenceDigest write.json then
                appendWrites writes fates branch view written
              else (branch, .error (refusal (write.kind.text ++ " " ++
                String.ofList (key.scalars.take 12) ++ " is already recorded with different evidence")))
          | none =>
              let record := signedRecord trust.repositoryId view job write key
              match apply trust provenance view record with
              | .error exn => (branch, .error exn)
              | .ok next =>
                  match appendFiles branch (recordNode view job write record)
                      (fates.headD .acknowledged) with
                  | (branch, .error exn) => (branch, .error exn)
                  | (_, .ok branch) => appendWrites writes fates.tail branch next (written + 1)

/-- Append each write once. The result is the head, the view and how many records
were written. -/
def append (writes : List Write) (fates : List Fate) (branch : Branch) :
    Branch × Py (Branch × KnowledgeView × Nat) :=
  match read trust provenance branch with
  | .error exn => (branch, .error exn)
  | .ok view => appendWrites trust provenance job writes fates branch view 0

end Store

/-- What is under each kind and key: the digest of an evidence. -/
abbrev Slots : Type := Kind × String → Option Sha64

def Slots.put (slots : Slots) (slot : Kind × String) (evidence : Json) : Slots :=
  Function.update slots slot (some (evidenceDigest evidence))

/-- The writes whose keys are not taken yet, each for the first time. -/
def pendingWrites : Slots → List Write → List Write
  | _, [] => []
  | slots, write :: writes =>
      match recordKey write.kind write.json with
      | .error _ => []
      | .ok key =>
          if (slots (write.kind, key)).isSome then pendingWrites slots writes
          else write :: pendingWrites (slots.put (write.kind, key) write.json) writes

/-- The slots after some writes were recorded under their keys. -/
def Slots.record : Slots → List Write → Slots
  | slots, [] => slots
  | slots, write :: writes =>
      match recordKey write.kind write.json with
      | .error _ => slots
      | .ok key => (slots.put (write.kind, key) write.json).record writes

theorem Slots.put_isSome {slots : Slots} {slot other : Kind × String} {evidence : Json}
    (h : (slots other).isSome) : (slots.put slot evidence other).isSome := by
  rw [Slots.put, Function.update_apply]
  split
  · rfl
  · exact h

theorem Slots.record_isSome {slots : Slots} {slot : Kind × String} (h : (slots slot).isSome)
    (writes : List Write) : (slots.record writes slot).isSome := by
  induction writes generalizing slots with
  | nil => exact h
  | cons write writes ih =>
      rw [Slots.record]
      cases recordKey write.kind write.json with
      | error exn => exact h
      | ok key => exact ih (Slots.put_isSome h)

/-- A batch of which a part was recorded has the rest still to write. -/
theorem pendingWrites_record (slots : Slots) (writes : List Write) (k : Nat) :
    pendingWrites (slots.record ((pendingWrites slots writes).take k)) writes =
      (pendingWrites slots writes).drop k := by
  induction writes generalizing slots k with
  | nil => simp [pendingWrites]
  | cons write writes ih =>
      cases named : recordKey write.kind write.json with
      | error exn => simp [pendingWrites, named]
      | ok key =>
          by_cases taken : (slots (write.kind, key)).isSome
          · have still := Slots.record_isSome taken ((pendingWrites slots writes).take k)
            have here : pendingWrites slots (write :: writes) = pendingWrites slots writes := by
              simp [pendingWrites, named, taken]
            rw [here, pendingWrites, named]
            simp only [still, if_true]
            exact ih slots k
          · have here : pendingWrites slots (write :: writes) =
                write :: pendingWrites (slots.put (write.kind, key) write.json) writes := by
              simp [pendingWrites, named, taken]
            cases k with
            | zero => simp [Slots.record]
            | succ k =>
                have put : (slots.put (write.kind, key) write.json (write.kind, key)).isSome := by
                  simp [Slots.put]
                have still := Slots.record_isSome put
                  ((pendingWrites (slots.put (write.kind, key) write.json) writes).take k)
                rw [here, List.take_succ_cons, List.drop_succ_cons, Slots.record, named,
                  pendingWrites, named]
                simp only [still, if_true]
                exact ih _ k

section Commits

variable [Ed25519] (trust : TrustRoots) (provenance : ProvenanceCheck) (job : Job)

/-- The writes are committed one after the other, each under a key that is free. -/
inductive Commits : Branch → KnowledgeView → List Write → Branch → KnowledgeView → Prop where
  | nil {branch : Branch} {view : KnowledgeView} : Commits branch view [] branch view
  | cons {branch branch' : Branch} {view next view' : KnowledgeView} {write : Write}
      {writes : List Write} {key : String}
      (named : recordKey write.kind write.json = .ok key)
      (untaken : view.keys.get? (write.kind, key) = none)
      (applied : apply trust provenance view
        (signedRecord trust.repositoryId view job write key) = .ok next)
      (rest : Commits (branch ++ [recordNode view job write
        (signedRecord trust.repositoryId view job write key)]) next writes branch' view') :
      Commits branch view (write :: writes) branch' view'

variable {trust provenance job}

theorem keys_of_apply {view view' : KnowledgeView} {write : Write} {key : String}
    (named : recordKey write.kind write.json = .ok key)
    (applied : apply trust provenance view
      (signedRecord trust.repositoryId view job write key) = .ok view') :
    view'.keys.get? = Slots.put view.keys.get? (write.kind, key) write.json := by
  obtain ⟨record, -, extended, slot, evidence⟩ := apply_signed_extends named applied
  funext other
  rw [extended.keys, Dict.get?_set, slot, evidence, evidenceDigest_canon, Slots.put,
    Function.update_apply]

theorem Commits.slots {branch branch' : Branch} {view view' : KnowledgeView} {writes : List Write}
    (h : Commits trust provenance job branch view writes branch' view') :
    view'.keys.get? = Slots.record view.keys.get? writes := by
  induction h with
  | nil => rfl
  | cons named untaken applied rest ih =>
      rw [ih, keys_of_apply named applied, Slots.record, named]

/-- An append commits the first of the writes it still has to write, and all of them
if it comes to its end. -/
theorem appendWrites_commits {writes : List Write} {fates : List Fate} {branch branch' : Branch}
    {view : KnowledgeView} {written : Nat} {outcome : Py (Branch × KnowledgeView × Nat)}
    (h : appendWrites trust provenance job writes fates branch view written = (branch', outcome)) :
    ∃ done view', Commits trust provenance job branch view done branch' view' ∧
      done <+: pendingWrites view.keys.get? writes ∧
      ∀ result, outcome = .ok result → result = (branch', view', written + done.length) ∧
        done = pendingWrites view.keys.get? writes := by
  induction writes generalizing fates branch view written with
  | nil =>
      cases h
      exact ⟨[], view, .nil, List.nil_prefix, fun result same => ⟨(Except.ok.inj same).symm, rfl⟩⟩
  | cons write writes ih =>
      simp only [appendWrites] at h
      split at h
      · cases h
        exact ⟨[], view, .nil, List.nil_prefix, nofun⟩
      · rename_i key named
        split at h
        · rename_i existing taken
          split at h
          · obtain ⟨done, view', commits, part, ends⟩ := ih h
            have here : pendingWrites view.keys.get? (write :: writes) =
                pendingWrites view.keys.get? writes := by
              simp [pendingWrites, named, taken]
            exact ⟨done, view', commits, here ▸ part, here ▸ ends⟩
          · cases h
            exact ⟨[], view, .nil, List.nil_prefix, nofun⟩
        · rename_i untaken
          split at h
          · cases h
            exact ⟨[], view, .nil, List.nil_prefix, nofun⟩
          · rename_i next applied
            have here : pendingWrites view.keys.get? (write :: writes) =
                write :: pendingWrites next.keys.get? writes := by
              simp [pendingWrites, named, untaken, keys_of_apply named applied]
            rw [here]
            cases fate : fates.headD .acknowledged with
            | acknowledged =>
                rw [fate] at h
                obtain ⟨done, view', commits, part, ends⟩ := ih h
                refine ⟨write :: done, view', .cons named untaken applied commits,
                  List.cons_prefix_cons.mpr ⟨rfl, part⟩, fun result ok => ?_⟩
                obtain ⟨same, all⟩ := ends result ok
                rw [same, all, List.length_cons, Nat.add_assoc, Nat.add_comm 1]
                exact ⟨rfl, rfl⟩
            | lost exn =>
                rw [fate] at h
                cases h
                exact ⟨[write], next, .cons named untaken applied .nil,
                  List.cons_prefix_cons.mpr ⟨rfl, List.nil_prefix⟩, nofun⟩
            | refused exn =>
                rw [fate] at h
                cases h
                exact ⟨[], view, .nil, List.nil_prefix, nofun⟩

/-- An append that comes to its end holds every write of the batch under its key. -/
theorem appendWrites_holds {writes : List Write} {fates : List Fate}
    {branch branch' head : Branch} {view view' : KnowledgeView} {written total : Nat}
    (h : appendWrites trust provenance job writes fates branch view written =
      (branch', .ok (head, view', total))) :
    (∀ slot digest, view.keys.get? slot = some digest → view'.keys.get? slot = some digest) ∧
      ∀ write ∈ writes, ∃ key, recordKey write.kind write.json = .ok key ∧
        view'.keys.get? (write.kind, key) = some (evidenceDigest write.json) := by
  induction writes generalizing fates branch view written with
  | nil =>
      cases h
      exact ⟨fun _ _ kept => kept, nofun⟩
  | cons write writes ih =>
      simp only [appendWrites] at h
      split at h
      · cases h
      · rename_i key named
        split at h
        · rename_i existing taken
          split at h
          · rename_i same
            obtain ⟨kept, held⟩ := ih h
            refine ⟨kept, List.forall_mem_cons.mpr ⟨⟨key, named, ?_⟩, held⟩⟩
            exact kept _ _ (same ▸ taken)
          · cases h
        · rename_i untaken
          split at h
          · cases h
          · rename_i next applied
            have slots := keys_of_apply named applied
            split at h
            · cases h
            · obtain ⟨kept, held⟩ := ih h
              refine ⟨fun slot digest before => kept _ _ ?_,
                List.forall_mem_cons.mpr ⟨⟨key, named, kept _ _ ?_⟩, held⟩⟩
              · rw [slots, Slots.put, Function.update_of_ne, before]
                intro same
                rw [same, untaken] at before
                cases before
              · rw [slots, Slots.put, Function.update_self]

def loadNode (node : Node) : Py Json := loadRecord node.files

theorem loadNode_recordNode (seen : KnowledgeView) (write : Write) (record : Json) :
    loadNode (recordNode seen job write record) = .ok record.canon := by
  simp [loadNode, loadRecord, recordNode, loadBlob_canonicalJson]

theorem recordNode_decodes (seen : KnowledgeView) (write : Write) {json : Json} {record : Record}
    (h : decodeRecord json = .ok record) :
    ∃ loaded, loadNode (recordNode seen job write json) = .ok loaded ∧
      decodeRecord loaded = .ok record :=
  ⟨json.canon, loadNode_recordNode seen write json, (decodeRecord_canon json).trans h⟩

/-- A committed record is read back as it was applied. -/
theorem read_snoc {branch : Branch} {view : KnowledgeView} {write : Write} {record : Json}
    (h : read trust provenance branch = .ok view) (seen : KnowledgeView) :
    read trust provenance (branch ++ [recordNode seen job write record]) =
      apply trust provenance view record := by
  rw [read] at h ⊢
  obtain ⟨entries, files, folds⟩ := bind_ok.mp h
  have blob : loadRecord (recordNode seen job write record).files = .ok record.canon :=
    loadNode_recordNode seen write record
  rw [readFiles_snoc files rfl, ok_bind, List.foldlM_append, folds, ok_bind]
  simp only [List.foldlM_cons, List.foldlM_nil, blob, ok_bind, apply_canon]
  exact bind_pure _

theorem Commits.read {branch branch' : Branch} {view view' : KnowledgeView} {writes : List Write}
    (h : Commits trust provenance job branch view writes branch' view')
    (before : read trust provenance branch = .ok view) :
    Knowledge.read trust provenance branch' = .ok view' := by
  induction h with
  | nil => exact before
  | cons named untaken applied rest ih => exact ih ((read_snoc before _).trans applied)

/-- The records on a branch, decoded in order. -/
def Holds (branch : Branch) (records : List Record) : Prop :=
  List.Forall₂ (fun node record => ∃ json, loadNode node = .ok json ∧
    decodeRecord json = .ok record) branch records

theorem read_run {branch : Branch} {view : KnowledgeView}
    (h : read trust provenance branch = .ok view) :
    ∃ records, Holds branch records ∧ Run Extends (.empty trust.repositoryId) records view := by
  rw [read] at h
  obtain ⟨entries, files, folds⟩ := bind_ok.mp h
  obtain ⟨records, each, run⟩ := (Run.of_foldlM folds).relabel fun view files view' step => by
    obtain ⟨json, loaded, applied⟩ := bind_ok.mp step
    obtain ⟨record, decoded, extended⟩ := apply_extends applied
    exact ⟨record, (⟨json, loaded, decoded⟩ : ∃ json, loadRecord files = .ok json ∧
      decodeRecord json = .ok record), extended⟩
  rw [readFiles_ok files, List.forall₂_map_left_iff] at each
  exact ⟨records, each, run⟩

/-- What a record is about: its kind and its evidence. -/
def Record.content (record : Record) : Kind × Json := (record.kind, record.rawEvidence)

def Write.content (write : Write) : Kind × Json := (write.kind, write.json.canon)

/-- The new records of a branch say what the writes say, in their order. -/
theorem Commits.holds {branch branch' : Branch} {view view' : KnowledgeView} {writes : List Write}
    {records : List Record}
    (h : Commits trust provenance job branch view writes branch' view')
    (before : Holds branch records) :
    ∃ added, Holds branch' (records ++ added) ∧
      added.map Record.content = writes.map Write.content := by
  induction h generalizing records with
  | nil => exact ⟨[], by rwa [List.append_nil], rfl⟩
  | @cons branch _ view _ _ write _ key named untaken applied rest ih =>
      obtain ⟨record, decoded, -, slot, evidence⟩ := apply_signed_extends named applied
      have one := @recordNode_decodes _ job view write _ _ decoded
      obtain ⟨added, holds, contents⟩ :=
        ih (List.rel_append before (.cons one .nil))
      refine ⟨record :: added, by simpa using holds, ?_⟩
      have kind : record.kind = write.kind := congrArg Prod.fst slot
      rw [List.map_cons, List.map_cons, contents, Record.content, Write.content, kind, evidence]

/-- One record is under the key of the write, and its evidence has the same digest. -/
def RecordedOnce (records : List Record) (write : Write) : Prop :=
  ∃ key, recordKey write.kind write.json = .ok key ∧
    ∃ record ∈ records, record.slot = (write.kind, key) ∧
      evidenceDigest record.rawEvidence = evidenceDigest write.json ∧
        ∀ other ∈ records, other.slot = (write.kind, key) → other = record

/-- The two branches hold the same evidence in the same order. -/
def SameEvidence (first second : Branch) : Prop :=
  ∃ a b, Holds first a ∧ Holds second b ∧ a.map Record.content = b.map Record.content

theorem append_ok {writes : List Write} {fates : List Fate} {branch branch' : Branch}
    {result : Branch × KnowledgeView × Nat}
    (h : append trust provenance job writes fates branch = (branch', .ok result)) :
    ∃ view, read trust provenance branch = .ok view ∧
      appendWrites trust provenance job writes fates branch view 0 = (branch', .ok result) := by
  unfold append at h
  split at h
  · cases h
  · exact ⟨_, ‹_›, h⟩

theorem appendWrites_again {write : Write} {writes : List Write} {fates : List Fate}
    {branch : Branch} {view : KnowledgeView} {written : Nat} {key : String}
    (named : recordKey write.kind write.json = .ok key)
    (taken : view.keys.get? (write.kind, key) = some (evidenceDigest write.json)) :
    appendWrites trust provenance job (write :: writes) fates branch view written =
      appendWrites trust provenance job writes fates branch view written := by
  simp only [appendWrites, named, taken, if_true]

theorem appendWrites_new {write : Write} {writes : List Write} {fates : List Fate}
    {branch : Branch} {view next : KnowledgeView} {written : Nat} {key : String}
    (named : recordKey write.kind write.json = .ok key)
    (untaken : view.keys.get? (write.kind, key) = none)
    (applied : apply trust provenance view
      (signedRecord trust.repositoryId view job write key) = .ok next) :
    appendWrites trust provenance job (write :: writes) fates branch view written =
      match appendFiles branch (recordNode view job write
          (signedRecord trust.repositoryId view job write key)) (fates.headD .acknowledged) with
      | (branch, .error exn) => (branch, .error exn)
      | (_, .ok branch) =>
          appendWrites trust provenance job writes fates.tail branch next (written + 1) := by
  simp only [appendWrites, named, untaken, applied]

/-- A batch whose writes are all held is skipped as a whole. -/
theorem appendWrites_held {writes : List Write} {fates : List Fate} {branch : Branch}
    {view : KnowledgeView} {written : Nat}
    (held : ∀ write ∈ writes, ∃ key, recordKey write.kind write.json = .ok key ∧
      view.keys.get? (write.kind, key) = some (evidenceDigest write.json)) :
    appendWrites trust provenance job writes fates branch view written =
      (branch, .ok (branch, view, written)) := by
  induction writes with
  | nil => rfl
  | cons write writes ih =>
      obtain ⟨⟨key, named, taken⟩, others⟩ := List.forall_mem_cons.mp held
      rw [appendWrites_again named taken]
      exact ih others

theorem recordedOnce_of_held {branch : Branch} {view : KnowledgeView} {writes : List Write}
    (h : read trust provenance branch = .ok view)
    (held : ∀ write ∈ writes, ∃ key, recordKey write.kind write.json = .ok key ∧
      view.keys.get? (write.kind, key) = some (evidenceDigest write.json)) :
    ∃ records, Holds branch records ∧ ∀ write ∈ writes, RecordedOnce records write := by
  obtain ⟨records, holds, run⟩ := read_run h
  obtain ⟨distinct, slots⟩ := Run.slots run
  refine ⟨records, holds, fun write member => ?_⟩
  obtain ⟨key, named, taken⟩ := held write member
  obtain ⟨record, present, slot, digest⟩ := (slots _ _).mp taken
  refine ⟨key, named, record, present, slot, digest, fun other also same => ?_⟩
  exact List.inj_on_of_nodup_map distinct also present (same.trans slot.symm)

/-- A batch that was cut short anywhere is completed by a second run, whatever other
writers recorded in between. Each write of it is then recorded once, with the evidence
it has in a run that was not cut short, and a third run writes nothing. -/
theorem append_exactly_once {first second : Job} {writes : List Write} {fates fates' : List Fate}
    {branch interrupted others final head : Branch} {outcome : Py (Branch × KnowledgeView × Nat)}
    {view : KnowledgeView} {written : Nat}
    (cut : append trust provenance first writes fates branch = (interrupted, outcome))
    (rerun : append trust provenance second writes fates' (interrupted ++ others) =
      (final, .ok (head, view, written))) :
    (∃ records, Holds final records ∧ ∀ write ∈ writes, RecordedOnce records write) ∧
      (others = [] → ∀ job fates whole result,
        append trust provenance job writes fates branch = (whole, .ok result) →
          SameEvidence whole final) ∧
      ∀ job fates, append trust provenance job writes fates final =
        (final, .ok (head, view, 0)) := by
  obtain ⟨found, seen, loop⟩ := append_ok rerun
  obtain ⟨done, view', commits, -, ends⟩ := appendWrites_commits loop
  obtain ⟨same, all⟩ := ends _ rfl
  cases same
  have readable := commits.read seen
  have held := (appendWrites_holds loop).2
  refine ⟨recordedOnce_of_held readable held, fun alone job fates whole result uncut => ?_,
    fun job fates => ?_⟩
  · subst alone
    rw [List.append_nil] at seen commits loop
    obtain ⟨start, seen_first, whole_loop⟩ := append_ok uncut
    obtain ⟨whole_done, _, whole_commits, -, whole_ends⟩ := appendWrites_commits whole_loop
    have whole_all := (whole_ends _ rfl).2
    simp only [append, seen_first] at cut
    obtain ⟨part, middle, part_commits, is_part, -⟩ := appendWrites_commits cut
    -- the second run finds what the first one committed, and commits the rest
    cases (part_commits.read seen_first).symm.trans seen
    have taken : part = (pendingWrites start.keys.get? writes).take part.length :=
      List.prefix_iff_eq_take.mp is_part
    have rest : done = (pendingWrites start.keys.get? writes).drop part.length := by
      rw [all, part_commits.slots]
      conv_lhs => rw [taken]
      exact pendingWrites_record _ _ _
    have parts : part ++ done = whole_done := by
      rw [whole_all, rest]
      conv_lhs => rw [taken]
      rw [List.length_take, Nat.min_eq_left is_part.length_le, List.take_append_drop]
    obtain ⟨records, holds, -⟩ := read_run seen_first
    obtain ⟨a, whole_holds, whole_contents⟩ := whole_commits.holds holds
    obtain ⟨b, part_holds, part_contents⟩ := part_commits.holds holds
    obtain ⟨c, final_holds, final_contents⟩ := commits.holds part_holds
    refine ⟨_, _, whole_holds, final_holds, ?_⟩
    rw [List.map_append, List.map_append, List.map_append, whole_contents, part_contents,
      final_contents, ← parts, List.map_append, List.append_assoc]
  · rw [append, readable]
    exact appendWrites_held held

end Commits

section Sample

local instance : Ed25519 := checksumScheme

def sampleRun : RecordedBy :=
  ⟨⟨".github/workflows/hunter-issue-agent-control.yml", IssueAgent.control_workflow⟩,
    IssueAgent.sampleJob, .reconcile, 9, 1, sampleControl⟩

def sampleJob : Job := ⟨(3 : Nat), (Writer.of sampleRun).recordedBy, sampleTime.val⟩

def sampleProvenance : ProvenanceCheck := fun _ _ => .ok true

theorem sample_conforms : sampleJob.Conforms sampleRun sampleTime :=
  ⟨(recordedBy_iff _).mpr (Writer.of_conforms sampleRun), rfl⟩

theorem named_of {evidence : Evidence} (writable : evidence.Writable) :
    recordKey (Write.of evidence).kind (Write.of evidence).json = .ok evidence.key.val :=
  recordKey_of_valid (evidenceSchemas_json writable "")

def sampleRecord (view : KnowledgeView) (evidence : Evidence) : Json :=
  signedRecord sampleTrust.repositoryId view sampleJob (Write.of evidence) evidence.key.val

def sampleNode (view : KnowledgeView) (evidence : Evidence) : Node :=
  recordNode view sampleJob (Write.of evidence) (sampleRecord view evidence)

/-- The view after the sample job recorded an evidence that left the view `folded`. -/
def sampleNext (view : KnowledgeView) (evidence : Evidence) (folded : KnowledgeView) :
    KnowledgeView :=
  folded.append (writtenRecord 1 view sampleJob (Write.of evidence) sampleRun sampleTime evidence)

theorem sample_fits {view : KnowledgeView} {evidence : Evidence}
    (small : Json.weight evidence.json ≤ 40000) (number : Json.weight (.int view.nextSeq) ≤ 100) :
    Fits (sampleRecord view evidence) := by
  have run := weight_recordedBy (Writer.of_conforms sampleRun)
  have clock : sampleTime.val.scalars.length ≤ 27 := sampleTime.length_le
  have units : Json.weight (.int (Writer.of sampleRun).runId) +
      Json.weight (.int (Writer.of sampleRun).runAttempt) +
      Json.weight (.int sampleTrust.repositoryId) ≤ 100 := by
    decide
  have clock_weight : Json.weight (.str sampleJob.recordedAt) =
      6 * sampleTime.val.scalars.length + 2 := Json.weight_str _
  have by_weight : sampleJob.recordedBy = (Writer.of sampleRun).recordedBy := rfl
  refine fits_signedRecord ?_
  rw [by_weight, clock_weight, Write.json, Write.of, ← Evidence.json]
  omega

theorem sample_applies {view folded : KnowledgeView} {evidence : Evidence}
    (writable : evidence.Writable) (role : Role.reconcile ∈ writerRoles evidence.kind)
    (small : Json.weight evidence.json ≤ 40000) (home : view.repositoryId = sampleTrust.repositoryId)
    (number : Json.weight (.int view.nextSeq) ≤ 100)
    (fresh : view.keys.get? (evidence.kind, evidence.key.val) = none)
    (admits : Admits view evidence folded) :
    apply sampleTrust sampleProvenance view (sampleRecord view evidence) =
      .ok (sampleNext view evidence folded) := by
  have one : sampleTrust.repositoryId = (1 : Positive).val := rfl
  refine (apply_signed (named_of writable) sample_trusted.pinned one home
    fun _ _ _ _ => rfl).mpr ⟨sample_fits small number, ?_⟩
  refine ⟨sampleRun, sampleTime, evidence, ⟨sample_conforms, evidenceSchemas_json writable _, role,
    ?_⟩, folded, admits, rfl⟩
  rw [KnowledgeView.Taken, Write.of, fresh]
  exact Bool.false_ne_true

def samplePath : RepoPath := ⟨"src/parser.py", by decide⟩

def sampleClaim : Claim := ⟨"the error path is dropped", by decide⟩

/-- A review comment of one pull request. -/
def sampleFinding (comment : Positive) : FindingIngested where
  findingId := findingId 1 4 comment.val
  fingerprint := fingerprint samplePath.val sampleClaim.val
  claim := sampleClaim
  provenance := ⟨4, sampleControl, sampleBase, none, .githubReview, sampleLogin, comment, samplePath,
    none, none⟩

def sampleFamily : FamilyId := ⟨"DFF-001", by decide⟩

def sampleMatch (id : Sha64) (family : FamilyId) : FindingClassified :=
  ⟨id, .matched, some family, none, .deterministic, [], none⟩

def sampleFirst : KnowledgeView :=
  sampleNext (.empty 1) (.findingIngested (sampleFinding 1))
    ((KnowledgeView.empty 1).setFinding (sampleFinding 1).findingId (.start (sampleFinding 1)))

def sampleSecond : KnowledgeView :=
  sampleNext sampleFirst (.findingClassified (sampleMatch (sampleFinding 1).findingId sampleFamily))
    (sampleFirst.setFinding (sampleFinding 1).findingId
      ((Finding.start (sampleFinding 1)).classify
        (sampleMatch (sampleFinding 1).findingId sampleFamily)))

theorem weight_sampleFinding {comment : Positive} (small : Json.weight (.int comment.val) ≤ 100) :
    Json.weight (Evidence.findingIngested (sampleFinding comment)).json ≤ 40000 := by
  have bound := weight_ingested (sampleFinding comment)
  have pull : Json.weight (.int (4 : Positive).val) ≤ 100 := by decide
  have numbers : numbersWeight (Evidence.findingIngested (sampleFinding comment)).numbers =
      Json.weight (.int (4 : Positive).val) + (Json.weight (.int comment.val) + 0) := rfl
  omega

theorem sample_slot {view folded : KnowledgeView} {evidence : Evidence}
    (admits : Admits view evidence folded) (slot : Kind × String) :
    (sampleNext view evidence folded).keys.get? slot =
      if slot = (evidence.kind, evidence.key.val) then some (evidenceDigest evidence.json)
      else view.keys.get? slot := by
  rw [sampleNext, KnowledgeView.get?_append_keys, admits.keys]
  exact if_congr Iff.rfl (congrArg some (evidenceDigest_canon _)) rfl

theorem sample_first_admits : Admits (.empty 1) (.findingIngested (sampleFinding 1))
    ((KnowledgeView.empty 1).setFinding (sampleFinding 1).findingId (.start (sampleFinding 1))) :=
  .finding (.ingest _ rfl rfl rfl)

theorem sample_first : apply sampleTrust sampleProvenance (.empty 1)
    (sampleRecord (.empty 1) (.findingIngested (sampleFinding 1))) = .ok sampleFirst :=
  sample_applies trivial (by decide) (weight_sampleFinding (by decide)) rfl
    (by decide) rfl sample_first_admits

theorem sample_first_slot (slot : Kind × String) : sampleFirst.keys.get? slot =
    if slot = (.findingIngested, (sampleFinding 1).findingId.val) then
      some (evidenceDigest (Evidence.findingIngested (sampleFinding 1)).json) else none :=
  sample_slot sample_first_admits slot

theorem sampleMatch_writable (id : Sha64) (family : FamilyId) :
    (Evidence.findingClassified (sampleMatch id family)).Writable :=
  ⟨Nat.zero_le _, List.nodup_nil⟩

theorem sample_second_fresh : sampleFirst.keys.get? (.findingClassified,
    (classificationKey (sampleFinding 1).findingId .deterministic).val) = none :=
  (sample_first_slot _).trans (if_neg nofun)

theorem sample_second : apply sampleTrust sampleProvenance sampleFirst
    (sampleRecord sampleFirst (.findingClassified
      (sampleMatch (sampleFinding 1).findingId sampleFamily))) = .ok sampleSecond := by
  have small := weight_classified (sampleMatch (sampleFinding 1).findingId sampleFamily)
  have found : sampleFirst.findings.get? (sampleFinding 1).findingId =
      some (.start (sampleFinding 1)) := by
    simp [sampleFirst, sampleNext]
  exact sample_applies (sampleMatch_writable _ _) (by decide) (Nat.le_trans small (by decide)) rfl
    (by decide) sample_second_fresh
    (.finding (.classify _ _ found (by decide) (by decide) rfl))

def sampleWrites : List Write :=
  [Write.of (.findingIngested (sampleFinding 1)),
    Write.of (.findingClassified (sampleMatch (sampleFinding 1).findingId sampleFamily))]

def sampleLost : Exn := .ledgerConflictError "another writer advanced the ledger; re-read and re-decide"

/-- A run that loses the lease at its second record, and the run after it. -/
theorem append_exactly_once_sample : ∃ interrupted final head view,
    append sampleTrust sampleProvenance sampleJob sampleWrites [.acknowledged, .refused sampleLost]
        [] = (interrupted, .error sampleLost) ∧
    append sampleTrust sampleProvenance sampleJob sampleWrites [] interrupted =
      (final, .ok (head, view, 1)) ∧
    (∃ records, Holds final records ∧ ∀ write ∈ sampleWrites, RecordedOnce records write) ∧
    ∀ job fates, append sampleTrust sampleProvenance job sampleWrites fates final =
      (final, .ok (head, view, 0)) := by
  have first_named := @named_of (.findingIngested (sampleFinding 1)) trivial
  have second_named := named_of (sampleMatch_writable (sampleFinding 1).findingId sampleFamily)
  have start : read sampleTrust sampleProvenance [] = .ok (.empty 1) := rfl
  let first := sampleNode (.empty 1) (.findingIngested (sampleFinding 1))
  let second := sampleNode sampleFirst (.findingClassified
    (sampleMatch (sampleFinding 1).findingId sampleFamily))
  have after_first : read sampleTrust sampleProvenance [first] = .ok sampleFirst :=
    (read_snoc start (.empty 1)).trans sample_first
  have cut : append sampleTrust sampleProvenance sampleJob sampleWrites
      [.acknowledged, .refused sampleLost] [] = ([first], .error sampleLost) := by
    rw [append, start]
    refine (appendWrites_new first_named rfl sample_first).trans ?_
    exact appendWrites_new second_named sample_second_fresh sample_second
  have rerun : append sampleTrust sampleProvenance sampleJob sampleWrites [] ([first] ++ []) =
      ([first, second], .ok ([first, second], sampleSecond, 1)) := by
    have again := (sample_first_slot _).trans (if_pos rfl)
    rw [List.append_nil, append, after_first]
    refine (appendWrites_again first_named again).trans ?_
    exact appendWrites_new second_named sample_second_fresh sample_second
  have whole := append_exactly_once cut rerun
  exact ⟨_, _, _, _, cut, rerun, whole.1, whole.2.2⟩

end Sample

end Hunter.Knowledge
