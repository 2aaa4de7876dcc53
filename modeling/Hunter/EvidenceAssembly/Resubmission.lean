import Hunter.EvidenceAssembly.AssemblyLine
import Hunter.EvidenceAssembly.Competing

/-!
Calls that are made again. The repository holds the records and the conflicts that refused calls
have left. A root is returned again as long as the window is written as before and nothing else
of its identity is stored, and a correction never is. A refused call is refused again with the
error of the assembly only where the time it is recorded at is the same.
-/

namespace Hunter.EvidenceAssembly

open Calendar Fallible
open MarketValidation (blank)
open ValueCapture (FundamentalEvidenceRecord)

structure Repository where
  records : Store
  conflicts : List AssemblyConflictRecord

def insertConflictAuthorized (conflicts : List AssemblyConflictRecord) (conflict : AssemblyConflictRecord) :
    Except AssemblyExn (List AssemblyConflictRecord) :=
  match conflicts.find? fun other => other.recordId = conflict.recordId with
  | some existing => do
      require (existing = conflict) (.persistenceError "divergent duplicate conflict identity")
      return conflicts
  | none => .ok (conflicts ++ [conflict])

/-- A call of the service and the repository that it leaves. -/
def submit (authorities : Authorities) (repository : Repository) (request : AssemblyRequest) :
    Except AssemblyExn AssembledFundamentalEvidenceRecord × Repository :=
  match assemble authorities repository.records request with
  | .ok (record, records) => (.ok record, { repository with records := records })
  | .error (.conflict conflict message) =>
      match insertConflictAuthorized repository.conflicts conflict with
      | .ok conflicts => (.error (.assemblyError message), { repository with conflicts := conflicts })
      | .error exn => (.error exn, repository)
  | .error exn => (.error exn, repository)

/-- The calls that other callers make, each with what its authorities know. -/
def submitAll (repository : Repository) (calls : List (Authorities × AssemblyRequest)) : Repository :=
  calls.foldl (fun before call => (submit call.1 before call.2).2) repository

variable {authorities : Authorities} {request repeated : AssemblyRequest} {repository before after : Repository}
  {record : AssembledFundamentalEvidenceRecord} {conflict : AssemblyConflictRecord} {message : String}

/-- A call leaves the repository as it was, adds a record, or adds a conflict. -/
inductive Grows (before : Repository) : Repository → Prop where
  | same : Grows before before
  | record {record : AssembledFundamentalEvidenceRecord} (fresh : before.records.get record.recordId = none) :
      Grows before { before with records := before.records ++ [record] }
  | conflict {conflict : AssemblyConflictRecord}
      (fresh : before.conflicts.find? (fun other => other.recordId = conflict.recordId) = none) :
      Grows before { before with conflicts := before.conflicts ++ [conflict] }

theorem insertConflictAuthorized_ok {conflicts grown : List AssemblyConflictRecord} :
    insertConflictAuthorized conflicts conflict = .ok grown ↔
      conflicts.find? (fun other => other.recordId = conflict.recordId) = some conflict ∧ grown = conflicts ∨
        conflicts.find? (fun other => other.recordId = conflict.recordId) = none ∧
          grown = conflicts ++ [conflict] := by
  unfold insertConflictAuthorized
  split
  case h_1 existing found =>
    rw [require_bind_ok, found]
    simp only [pure_eq_ok, Except.ok.injEq, Option.some.injEq, reduceCtorEq, false_and, or_false]
    exact and_congr_right fun _ => eq_comm
  case h_2 none =>
    rw [none]
    simp only [Except.ok.injEq, reduceCtorEq, false_and, false_or, true_and]
    exact eq_comm

theorem submit_grows : Grows repository (submit authorities repository request).2 := by
  unfold submit
  split
  case h_1 record records assembled =>
    obtain ⟨-, -, inserted⟩ := assemble_ok.mp assembled
    cases insertAuthorized_ok.mp inserted with
    | inl old =>
        obtain ⟨-, rfl⟩ := old
        exact .same
    | inr new =>
        obtain ⟨fresh, -, rfl⟩ := new
        exact .record fresh
  case h_2 conflict message refused =>
    split
    case h_1 conflicts inserted =>
      cases insertConflictAuthorized_ok.mp inserted with
      | inl old =>
          obtain ⟨-, rfl⟩ := old
          exact .same
      | inr new =>
          obtain ⟨fresh, rfl⟩ := new
          exact .conflict fresh
    case h_2 => exact .same
  case h_3 => exact .same

theorem Grows.get (grows : Grows before after) {id : String} (found : before.records.get id = some record) :
    after.records.get id = some record := by
  cases grows with
  | same => exact found
  | record => exact List.find?_append.trans (by rw [show List.find? _ _ = some record from found]; rfl)
  | conflict => exact found

theorem Grows.found (grows : Grows before after) {id : String}
    (found : before.conflicts.find? (fun other => other.recordId = id) = some conflict) :
    after.conflicts.find? (fun other => other.recordId = id) = some conflict := by
  cases grows with
  | same => exact found
  | record => exact found
  | conflict => rw [List.find?_append, found, Option.some_or]

/-- The conflicts have different ids. -/
def Keyed (repository : Repository) : Prop := (repository.conflicts.map (·.recordId)).Nodup

theorem Grows.keyed (grows : Grows before after) (keyed : Keyed before) : Keyed after := by
  cases grows with
  | same => exact keyed
  | record => exact keyed
  | conflict fresh =>
      rw [Keyed, List.map_append]
      refine List.nodup_append.mpr ⟨keyed, List.nodup_singleton _, fun id inside last member same => ?_⟩
      obtain ⟨other, there, rfl⟩ := List.mem_map.mp inside
      have equal : other.recordId = _ := same.trans (List.mem_singleton.mp member)
      exact absurd (decide_eq_true equal) (List.find?_eq_none.mp fresh other there)

theorem submitAll_keeps {P : Repository → Prop} (keeps : ∀ before after, Grows before after → P before → P after)
    (calls : List (Authorities × AssemblyRequest)) (holds : P repository) : P (submitAll repository calls) := by
  induction calls generalizing repository with
  | nil => exact holds
  | cons call calls ih => exact ih (keeps _ _ submit_grows holds)

/-- The same arguments, with the window perhaps written in other offsets. -/
def Repeats (request repeated : AssemblyRequest) : Prop :=
  ∃ start finish : Stamp, start.instant = request.accountingWindowStart.instant ∧
    finish.instant = request.accountingWindowEnd.instant ∧
    repeated = { request with accountingWindowStart := start, accountingWindowEnd := finish }

/-- The window is written in the same way. -/
def SameTexts (request repeated : AssemblyRequest) : Prop :=
  repeated.accountingWindowStart.text = request.accountingWindowStart.text ∧
    repeated.accountingWindowEnd.text = request.accountingWindowEnd.text

/-- Two ways to write the window are not given one digest. -/
def UncollidingTexts (authorities : Authorities) (request repeated : AssemblyRequest) : Prop :=
  ∀ contract first, fetchContract authorities request = .ok contract →
    (distinctConstituents request.constituents).head? = some first →
    digestOf (logicalBasis repeated contract first) = digestOf (logicalBasis request contract first) →
      logicalBasis repeated contract first = logicalBasis request contract first

theorem Stamp.ext {a b : Stamp} (instants : a.instant = b.instant) (texts : a.text = b.text) : a = b := by
  cases a
  cases b
  cases instants
  cases texts
  rfl

theorem Repeats.eq (repeats : Repeats request repeated) (texts : SameTexts request repeated) :
    repeated = request := by
  obtain ⟨start, finish, starts, finishes, rfl⟩ := repeats
  have begins : start = request.accountingWindowStart := Stamp.ext starts texts.1
  have ends : finish = request.accountingWindowEnd := Stamp.ext finishes texts.2
  rw [begins, ends]

theorem submit_ok : submit authorities before request = (.ok record, after) ↔
    assemble authorities before.records request = .ok (record, after.records) ∧
      after.conflicts = before.conflicts := by
  obtain ⟨records, conflicts⟩ := after
  unfold submit
  split
  case h_1 made grown assembled => simp [assembled, and_assoc, eq_comm]
  case h_2 conflict message refused =>
    rw [refused]
    split <;> simp
  case h_3 refused =>
    rw [refused]
    simp

/-- The record that a call has made is the one that its id leads to. -/
theorem submit_get (accepted : submit authorities before request = (.ok record, after)) :
    after.records.get record.recordId = some record := by
  obtain ⟨-, -, inserted⟩ := assemble_ok.mp (submit_ok.mp accepted).1
  cases insertAuthorized_ok.mp inserted with
  | inl old =>
      obtain ⟨found, same⟩ := old
      rw [same]
      exact found
  | inr new =>
      obtain ⟨fresh, -, same⟩ := new
      have none : List.find? (fun other => decide (other.recordId = record.recordId)) before.records = none :=
        fresh
      rw [same, Store.get, List.find?_append, none]
      simp

theorem construct_supersedes (constructed : construct authorities request = .ok record) :
    record.supersedesRecordId = request.supersedesRecordId := by
  obtain ⟨-, contract, registry, -, -, -, -, -, assembled⟩ := construct_iff.mp constructed
  obtain ⟨first, rest, amount, weakest, -, -, -, -, -, -, rfl, -⟩ := assembleSelected_ok assembled
  rfl

theorem construct_logicalId (constructed : construct authorities request = .ok record) :
    ∃ contract first, fetchContract authorities request = .ok contract ∧
      (distinctConstituents request.constituents).head? = some first ∧
      record.logicalId = "assembled-evidence:" ++ digestOf (logicalBasis request contract first) := by
  obtain ⟨-, contract, registry, fetched, -, -, -, -, assembled⟩ := construct_iff.mp constructed
  obtain ⟨first, rest, amount, weakest, left, -, -, -, -, -, rfl, -⟩ := assembleSelected_ok assembled
  exact ⟨contract, first, fetched, by rw [left]; rfl, rfl⟩

theorem fetchContract_repeats (repeats : Repeats request repeated) :
    fetchContract authorities repeated = fetchContract authorities request := by
  obtain ⟨start, finish, -, finishes, rfl⟩ := repeats
  simp only [fetchContract, finishes]

theorem distinctConstituents_repeats (repeats : Repeats request repeated) :
    distinctConstituents repeated.constituents = distinctConstituents request.constituents := by
  obtain ⟨start, finish, -, -, rfl⟩ := repeats
  rfl

/-- The record of a repeated call has the same logical identity where the window is written as before. -/
theorem sameTexts_of_logicalId (repeats : Repeats request repeated)
    (collisionless : UncollidingTexts authorities request repeated)
    (constructed : construct authorities request = .ok record)
    (again : construct authorities repeated = .ok record) : SameTexts request repeated := by
  obtain ⟨contract, first, fetched, leads, id⟩ := construct_logicalId constructed
  obtain ⟨contract', first', fetched', leads', id'⟩ := construct_logicalId again
  rw [fetchContract_repeats repeats, fetched, Except.ok.injEq] at fetched'
  rw [distinctConstituents_repeats repeats, leads, Option.some.injEq] at leads'
  rw [← fetched', ← leads', id] at id'
  have lists := congrArg String.toList id'
  rw [String.toList_append, String.toList_append] at lists
  have digests := String.toList_injective (List.append_cancel_left lists)
  have bases := collisionless contract first fetched leads digests.symm
  simp only [logicalBasis, Json.obj.injEq, List.cons.injEq, Prod.mk.injEq, Json.str.injEq] at bases
  obtain ⟨-, -, -, -, -, start, finish, -⟩ := bases
  exact ⟨start.2, finish.2⟩

theorem authorizeCorrection_none {stored : Store} (root : record.supersedesRecordId = none) :
    authorizeCorrection stored record = .ok () ↔
      ∀ other ∈ stored, other.logicalId = record.logicalId → other.recordId = record.recordId := by
  unfold authorizeCorrection
  simp only [root, require_ok, Store.history, List.mem_filter, decide_eq_true_eq, and_imp]

/-- A correction is refused once it is stored. -/
theorem authorizeCorrection_stored {stored : Store} (inside : record ∈ stored)
    (authorized : authorizeCorrection stored record = .ok ()) : record.supersedesRecordId = none := by
  cases names : record.supersedesRecordId with
  | none => rfl
  | some predecessorId =>
      unfold authorizeCorrection at authorized
      rw [names] at authorized
      dsimp only at authorized
      split at authorized
      case h_1 => cases authorized
      case h_2 =>
        simp only [require_bind_ok, require_ok] at authorized
        exact absurd names (Store.successor_eq_none authorized.2.2 record inside)

/-- A call that was accepted returns its record again for a root whose window is written as before
and whose identity has no other record. -/
theorem submit_again (accepted : submit authorities before request = (.ok record, after))
    (calls : List (Authorities × AssemblyRequest)) (repeats : Repeats request repeated)
    (collisionless : UncollidingTexts authorities request repeated) :
    submit authorities (submitAll after calls) repeated = (.ok record, submitAll after calls) ↔
      request.supersedesRecordId = none ∧ SameTexts request repeated ∧
        ∀ other ∈ (submitAll after calls).records, other.logicalId = record.logicalId →
          other.recordId = record.recordId := by
  have constructed := (assemble_ok.mp (submit_ok.mp accepted).1).1
  have found : (submitAll after calls).records.get record.recordId = some record :=
    submitAll_keeps (fun _ _ grows => grows.get) calls (submit_get accepted)
  constructor
  · intro again
    obtain ⟨once_more, authorized, -⟩ := assemble_ok.mp (submit_ok.mp again).1
    have root := authorizeCorrection_stored (List.mem_of_find?_eq_some found) authorized
    refine ⟨(construct_supersedes constructed).symm.trans root,
      sameTexts_of_logicalId repeats collisionless constructed once_more,
      (authorizeCorrection_none root).mp authorized⟩
  · rintro ⟨root, texts, alone⟩
    have named := (construct_supersedes constructed).trans root
    rw [repeats.eq texts, submit_ok, assemble_ok]
    exact ⟨⟨constructed, (authorizeCorrection_none named).mpr alone, insertAuthorized_ok.mpr (Or.inl ⟨found, rfl⟩)⟩,
      rfl⟩

section

variable {α β : Type}

/-- The result is not that a conflict is stored. -/
def Plain (result : Except AssemblyExn α) : Prop := ∀ conflict message, result ≠ .error (.conflict conflict message)

theorem plain_ok (value : α) : Plain (.ok value) := nofun

theorem plain_require {condition : Prop} [Decidable condition] {exn : AssemblyExn}
    (other : ∀ conflict message, exn ≠ .conflict conflict message) : Plain (require condition exn) := by
  intro conflict message refused
  exact other conflict message (require_error.mp refused).2

theorem plain_check {condition : Prop} [Decidable condition] {message : String} :
    Plain (require condition (.assemblyError message)) :=
  plain_require nofun

theorem plain_bind {first : Except AssemblyExn α} {next : α → Except AssemblyExn β} (plain : Plain first)
    (rest : ∀ value, Plain (next value)) : Plain (first >>= next) := by
  intro conflict message refused
  cases bind_error.mp refused with
  | inl raised => exact plain conflict message raised
  | inr later =>
      obtain ⟨value, -, raised⟩ := later
      exact rest value conflict message raised

theorem bind_conflict {first : Except AssemblyExn α} {next : α → Except AssemblyExn β} (plain : Plain first) :
    (first >>= next) = .error (.conflict conflict message) ↔
      ∃ value, first = .ok value ∧ next value = .error (.conflict conflict message) :=
  bind_error.trans (or_iff_right (plain conflict message))

theorem plain_forM {check : α → Except AssemblyExn Unit} {items : List α} (plain : ∀ item, Plain (check item)) :
    Plain (items.forM check) := by
  intro conflict message refused
  obtain ⟨-, item, -, -, -, raised⟩ := forM_error.mp refused
  exact plain item conflict message raised

theorem plain_foldlM {step : β → α → Except AssemblyExn β} (plain : ∀ state item, Plain (step state item))
    (items : List α) (state : β) : Plain (items.foldlM step state) := by
  induction items generalizing state with
  | nil => exact plain_ok state
  | cons item items ih =>
      rw [List.foldlM_cons]
      exact plain_bind (plain state item) ih

theorem plain_mapM {f : α → Except AssemblyExn β} (plain : ∀ item, Plain (f item)) (items : List α) :
    Plain (items.mapM f) := by
  induction items with
  | nil => exact plain_ok []
  | cons item items ih =>
      rw [List.mapM_cons]
      exact plain_bind (plain item) fun _ => plain_bind ih fun _ => plain_ok _

end

theorem plain_fetchContract : Plain (fetchContract authorities request) := by
  unfold fetchContract
  split
  case h_1 => exact nofun
  case h_2 => exact plain_bind (plain_require nofun) fun _ => plain_ok _

theorem plain_fetchRegistry : Plain (fetchRegistry authorities request) := by
  unfold fetchRegistry
  split
  case h_1 => exact nofun
  case h_2 => exact plain_bind (plain_require nofun) fun _ => plain_ok _

theorem plain_validateMethodologyContract (contract : MethodologyEvidenceInputContract) :
    Plain (validateMethodologyContract authorities contract request) := by
  unfold validateMethodologyContract
  split
  case h_1 => exact nofun
  case h_2 => repeat first | exact plain_require nofun | refine plain_bind (plain_require nofun) fun _ => ?_

theorem plain_checkSemantics {cutoff : Moment} (item : AssemblyConstituent) :
    Plain (checkSemantics authorities cutoff item) := by
  unfold checkSemantics
  split
  case h_1 => exact nofun
  case h_2 => exact plain_bind (plain_require nofun) fun _ => plain_require nofun

theorem plain_deduplicateIdentical (items : List AssemblyConstituent) : Plain (deduplicateIdentical items) := by
  refine plain_foldlM (fun kept item => ?_) items []
  unfold keep
  split
  case h_1 => exact nofun
  case h_2 => exact plain_bind (plain_require nofun) fun _ => plain_ok _

theorem plain_requireExactSumCompatible (registry : EvidenceShapeRegistry) (shapeIds : List String) :
    Plain (requireExactSumCompatible registry shapeIds) := by
  refine plain_bind (plain_mapM (fun shapeId => ?_) shapeIds) fun _ => plain_bind (plain_require nofun) fun _ =>
    plain_ok _
  unfold resolveShape
  split
  case h_1 => exact nofun
  case h_2 => exact plain_bind (plain_require nofun) fun _ => plain_bind (plain_require nofun) fun _ => plain_ok _

theorem plain_checkAuthority {cutoff : Moment} (pair : AssemblyConstituent × EvidenceShape) :
    Plain (checkAuthority cutoff pair) := by
  unfold checkAuthority
  repeat first | exact plain_require nofun | refine plain_bind (plain_require nofun) fun _ => ?_

theorem plain_validateScope (first : AssemblyConstituent) (rest : List AssemblyConstituent) :
    Plain (validateScope authorities first rest) := by
  refine plain_bind (plain_require nofun) fun _ => plain_forM fun item => ?_
  unfold checkScope
  repeat first | exact plain_require nofun | refine plain_bind (plain_require nofun) fun _ => ?_

theorem plain_checkSeries (items : List AssemblyConstituent) : Plain (checkSeries items) := by
  induction items with
  | nil => exact plain_ok ()
  | cons previous items ih =>
      cases items with
      | nil => exact plain_ok ()
      | cons current rest =>
          exact plain_bind (plain_bind (plain_require nofun) fun _ => plain_require nofun) fun _ => ih

theorem plain_validateCoverage (first : AssemblyConstituent) (rest : List AssemblyConstituent) :
    Plain (validateCoverage request first rest) :=
  plain_bind (plain_require nofun) fun _ => plain_bind (plain_require nofun) fun _ => plain_checkSeries _

theorem plain_sumAmounts (items : List AssemblyConstituent) : Plain (sumAmounts items) := by
  unfold sumAmounts
  split
  case h_1 => exact nofun
  case h_2 =>
    split
    case h_1 => exact nofun
    case h_2 => exact plain_ok _

theorem plain_weakestConfidence (first : AssemblyConstituent) (rest : List AssemblyConstituent) :
    Plain (weakestConfidence first rest) := by
  unfold weakestConfidence
  split
  case h_1 => exact plain_ok _
  case h_2 => exact nofun

theorem plain_checkRecord (record : AssembledFundamentalEvidenceRecord) : Plain (checkRecord record) := by
  unfold checkRecord
  repeat first | exact plain_require nofun | refine plain_bind (plain_require nofun) fun _ => ?_

/-- The conflict that a call leaves which is made at another time. -/
def AssemblyConflictRecord.at (conflict : AssemblyConflictRecord) (recordedAt : Moment) : AssemblyConflictRecord :=
  { conflict with recordedAt := recordedAt, knownAt := recordedAt }

theorem validateAuthoritativeUniverse_later {first : AssemblyConstituent} {rest : List AssemblyConstituent}
    (later : Moment)
    (refused : validateAuthoritativeUniverse authorities request first rest = .error (.conflict conflict message)) :
    validateAuthoritativeUniverse authorities { request with recordedAt := later } first rest =
      .error (.conflict (conflict.at later) message) := by
  unfold validateAuthoritativeUniverse at refused ⊢
  simp only [check_error, require_error, require_ok] at refused ⊢
  rcases refused with ⟨-, other⟩ | ⟨inside, ⟨native, same⟩ | ⟨none, ⟨-, other⟩ | ⟨coarse, competing, same⟩⟩⟩
  · cases other
  · cases same
    exact Or.inr ⟨inside, Or.inl ⟨native, rfl⟩⟩
  · cases other
  · cases same
    exact Or.inr ⟨inside, Or.inr ⟨none, Or.inr ⟨coarse, competing, rfl⟩⟩⟩

/-- The checks before the candidates are compared do not read the time a call is recorded at. -/
theorem assembleSelected_later {contract : MethodologyEvidenceInputContract} {registry : EvidenceShapeRegistry}
    {selected : List AssemblyConstituent} (later : Moment)
    (refused : assembleSelected authorities request contract registry selected =
      .error (.conflict conflict message)) :
    assembleSelected authorities { request with recordedAt := later } contract registry selected =
      .error (.conflict (conflict.at later) message) := by
  match selected with
  | [] | [_] => cases refused
  | first :: second :: others =>
      obtain ⟨shapes, resolved, refused⟩ := (bind_conflict (plain_requireExactSumCompatible _ _)).mp refused
      obtain ⟨⟨⟩, known, refused⟩ := (bind_conflict (plain_forM plain_checkAuthority)).mp refused
      obtain ⟨⟨⟩, scope, refused⟩ := (bind_conflict (plain_validateScope _ _)).mp refused
      refine (bind_conflict (plain_requireExactSumCompatible _ _)).mpr ⟨shapes, resolved, ?_⟩
      refine (bind_conflict (plain_forM plain_checkAuthority)).mpr ⟨(), known, ?_⟩
      refine (bind_conflict (plain_validateScope _ _)).mpr ⟨(), scope, ?_⟩
      cases check_error.mp refused with
      | inl conflicting => exact check_error.mpr (Or.inl (validateAuthoritativeUniverse_later later conflicting))
      | inr passed =>
          refine absurd passed.2 (plain_bind (plain_validateCoverage _ _) (fun _ => ?_) conflict message)
          repeat first | exact plain_ok _ | refine plain_bind plain_check fun _ => ?_ |
            refine plain_bind (plain_sumAmounts _) fun _ => ?_ |
            refine plain_bind (plain_weakestConfidence _ _) fun _ => ?_ |
            refine plain_bind (plain_checkRecord _) fun _ => ?_

/-- A call that finds a conflict finds it again at another time. -/
theorem construct_later (later : Moment)
    (refused : construct authorities request = .error (.conflict conflict message)) :
    construct authorities { request with recordedAt := later } = .error (.conflict (conflict.at later) message) := by
  obtain ⟨⟨⟩, enough, refused⟩ := (bind_conflict plain_check).mp refused
  obtain ⟨contract, fetched, refused⟩ := (bind_conflict plain_fetchContract).mp refused
  obtain ⟨registry, found, refused⟩ := (bind_conflict plain_fetchRegistry).mp refused
  obtain ⟨⟨⟩, valid, refused⟩ := (bind_conflict (plain_validateMethodologyContract contract)).mp refused
  obtain ⟨⟨⟩, known, refused⟩ := (bind_conflict (plain_forM plain_checkSemantics)).mp refused
  obtain ⟨selected, kept, refused⟩ := (bind_conflict (plain_deduplicateIdentical _)).mp refused
  refine (bind_conflict plain_check).mpr ⟨(), enough, ?_⟩
  refine (bind_conflict plain_fetchContract).mpr ⟨contract, fetched, ?_⟩
  refine (bind_conflict plain_fetchRegistry).mpr ⟨registry, found, ?_⟩
  refine (bind_conflict (plain_validateMethodologyContract contract)).mpr ⟨(), valid, ?_⟩
  refine (bind_conflict (plain_forM plain_checkSemantics)).mpr ⟨(), known, ?_⟩
  refine (bind_conflict (plain_deduplicateIdentical _)).mpr ⟨selected, kept, ?_⟩
  exact assembleSelected_later later refused

theorem construct_recordedAt (refused : construct authorities request = .error (.conflict conflict message)) :
    conflict = conflict.at request.recordedAt := by
  have again := construct_later request.recordedAt refused
  have both := refused.symm.trans again
  simpa using both

/-- The conflicts of the claim and the window that are about the same candidates and for one reason. -/
def AssemblyConflictRecord.About (conflict other : AssemblyConflictRecord) : Prop :=
  other.entityId = conflict.entityId ∧ other.economicClaimId = conflict.economicClaimId ∧
    other.accountingWindowStart = conflict.accountingWindowStart ∧
    other.accountingWindowEnd = conflict.accountingWindowEnd ∧
    other.candidateRecordIds = conflict.candidateRecordIds ∧ other.reason = conflict.reason

/-- The call is refused with the error of the assembly, and one conflict is open. -/
def RefusedAgain (result : Except AssemblyExn AssembledFundamentalEvidenceRecord × Repository)
    (conflict : AssemblyConflictRecord) (message : String) : Prop :=
  result.1 = .error (.assemblyError message) ∧
    ∃ only ∈ result.2.conflicts, conflict.About only ∧
      ∀ other ∈ result.2.conflicts, conflict.About other → other = only

theorem assemble_conflict {stored : Store}
    (refused : construct authorities request = .error (.conflict conflict message)) :
    assemble authorities stored request = .error (.conflict conflict message) := by
  rw [assemble, refused]
  rfl

theorem submit_conflict (refused : construct authorities request = .error (.conflict conflict message)) :
    submit authorities repository request =
      match insertConflictAuthorized repository.conflicts conflict with
      | .ok conflicts => (.error (.assemblyError message), { repository with conflicts := conflicts })
      | .error exn => (.error exn, repository) := by
  rw [submit, assemble_conflict refused]

theorem insertConflictAuthorized_found {conflicts : List AssemblyConflictRecord} {other : AssemblyConflictRecord}
    (found : conflicts.find? (fun other => other.recordId = conflict.recordId) = some conflict)
    (same : other.recordId = conflict.recordId) :
    insertConflictAuthorized conflicts other =
      if conflict = other then .ok conflicts
      else .error (.persistenceError "divergent duplicate conflict identity") := by
  unfold insertConflictAuthorized
  rw [same, found]
  dsimp only
  split
  case isTrue equal =>
    rw [require_of equal]
    rfl
  case isFalse differs => rw [require, if_neg differs, error_bind]

theorem insertConflictAuthorized_error {conflicts : List AssemblyConflictRecord} {exn : AssemblyExn}
    (raised : insertConflictAuthorized conflicts conflict = .error exn) :
    exn = .persistenceError "divergent duplicate conflict identity" := by
  unfold insertConflictAuthorized at raised
  split at raised
  case h_1 =>
    cases bind_error.mp raised with
    | inl differs => exact (require_error.mp differs).2.symm
    | inr done =>
        obtain ⟨-, -, impossible⟩ := done
        cases impossible
  case h_2 => cases raised

/-- The conflict that a refused call has found is the one that its id leads to. -/
theorem submit_found (refused : construct authorities request = .error (.conflict conflict message))
    (stored : submit authorities before request = (.error (.assemblyError message), after)) :
    after.conflicts.find? (fun other => other.recordId = conflict.recordId) = some conflict := by
  rw [submit_conflict refused] at stored
  split at stored
  case h_1 conflicts inserted =>
    cases stored
    cases insertConflictAuthorized_ok.mp inserted with
    | inl old =>
        obtain ⟨found, same⟩ := old
        rw [same]
        exact found
    | inr new =>
        obtain ⟨fresh, same⟩ := new
        rw [same, List.find?_append, fresh]
        simp
  case h_2 exn raised =>
    rw [insertConflictAuthorized_error raised] at stored
    cases stored

/-- A call that has found a conflict is refused again with the error of the assembly where it is
recorded at the same time, as long as the conflict has not been stored for other texts of the window. -/
theorem submit_refused_again (keyed : Keyed before)
    (refused : construct authorities request = .error (.conflict conflict message))
    (stored : submit authorities before request = (.error (.assemblyError message), after))
    (calls : List (Authorities × AssemblyRequest)) (later : Moment) :
    RefusedAgain (submit authorities (submitAll after calls) { request with recordedAt := later })
        (conflict.at later) message ↔
      later = request.recordedAt ∧ ∀ other ∈ (submitAll after calls).conflicts, conflict.About other →
        other.recordId = conflict.recordId := by
  have found : (submitAll after calls).conflicts.find? (fun other => other.recordId = conflict.recordId) =
      some conflict :=
    submitAll_keeps (fun _ _ grows => grows.found) calls (submit_found refused stored)
  have inside := List.mem_of_find?_eq_some found
  have keyed_after : Keyed after := by
    have grown : Grows before (submit authorities before request).2 := submit_grows
    rw [stored] at grown
    exact grown.keyed keyed
  have distinct : Keyed (submitAll after calls) := submitAll_keeps (fun _ _ grows => grows.keyed) calls keyed_after
  have own : conflict.recordedAt = request.recordedAt :=
    congrArg AssemblyConflictRecord.recordedAt (construct_recordedAt refused)
  have result := @submit_conflict _ _ (submitAll after calls) _ _ (construct_later later refused)
  have id : (conflict.at later).recordId = conflict.recordId := rfl
  rw [insertConflictAuthorized_found found id] at result
  by_cases same : conflict = conflict.at later
  · have time : later = request.recordedAt :=
      (congrArg AssemblyConflictRecord.recordedAt same).symm.trans own
    rw [if_pos same] at result
    rw [result]
    constructor
    · rintro ⟨-, only, -, -, all⟩
      refine ⟨time, fun other there about => ?_⟩
      rw [all other there about, all conflict inside ⟨rfl, rfl, rfl, rfl, rfl, rfl⟩]
    · rintro ⟨-, alone⟩
      refine ⟨rfl, conflict, inside, ⟨rfl, rfl, rfl, rfl, rfl, rfl⟩, fun other there about => ?_⟩
      exact List.inj_on_of_nodup_map distinct there inside (alone other there about)
  · rw [if_neg same] at result
    rw [result]
    constructor
    · rintro ⟨impossible, -⟩
      cases impossible
    · rintro ⟨time, -⟩
      rw [time, ← construct_recordedAt refused] at same
      exact absurd rfl same

/-- What becomes of a call that is made again, after any calls in between. -/
theorem retries_safe (calls : List (Authorities × AssemblyRequest)) :
    (∀ authorities before after request repeated record,
      submit authorities before request = (.ok record, after) → Repeats request repeated →
        UncollidingTexts authorities request repeated →
          (submit authorities (submitAll after calls) repeated = (.ok record, submitAll after calls) ↔
            request.supersedesRecordId = none ∧ SameTexts request repeated ∧
              ∀ other ∈ (submitAll after calls).records, other.logicalId = record.logicalId →
                other.recordId = record.recordId)) ∧
    ∀ authorities before after request conflict message, Keyed before →
      construct authorities request = .error (.conflict conflict message) →
      submit authorities before request = (.error (.assemblyError message), after) → ∀ later,
        (RefusedAgain (submit authorities (submitAll after calls) { request with recordedAt := later })
            (conflict.at later) message ↔
          later = request.recordedAt ∧ ∀ other ∈ (submitAll after calls).conflicts, conflict.About other →
            other.recordId = conflict.recordId) :=
  ⟨fun _ _ _ _ _ _ accepted repeats uncolliding => submit_again accepted calls repeats uncolliding,
    fun _ _ _ _ _ _ keyed refused stored later => submit_refused_again keyed refused stored calls later⟩

theorem native_texts : ∀ text ∈ ["n", "l", "1", "1", "s", "1", "r", "1", "n", "p", "m", "o", "1", zeros, "q"],
    blank text = false := by
  decide

theorem dawn_le_dusk : dawn ≤ dusk := by decide

/-- The native record of the whole window. -/
def nativeRecord : FundamentalEvidenceRecord :=
  { sampleRecord false "1" one_isSome with
    recordId := "n"
    extractedClaim := "n"
    accountingPeriodStart := dawn
    accountingPeriodEnd := dusk
    texts := native_texts
    period := dawn_le_dusk
    observed := (sampleRecord true "1" one_isSome).observed }

/-- Authorities that also know of the native record. -/
def nativeAuthorities : Authorities :=
  { sampleAuthorities (sampleRecords "1" "2" one_isSome two_isSome) with
    overlappingEvidence := fun _ _ _ _ _ => sampleRecords "1" "2" one_isSome two_isSome ++ [nativeRecord] }

theorem validateAuthoritativeUniverse_native {first : AssemblyConstituent} {rest : List AssemblyConstituent}
    {record : FundamentalEvidenceRecord}
    (inside : ∀ item ∈ first :: rest, item.record.recordId ∈ (candidates authorities request first).map (·.recordId))
    (competing : record ∈ omitted authorities request.replayCutoff first (first :: rest)
      (candidates authorities request first))
    (starts : record.accountingPeriodStart = request.accountingWindowStart.instant)
    (finishes : record.accountingPeriodEnd = request.accountingWindowEnd.instant) :
    validateAuthoritativeUniverse authorities request first rest =
      .error (.conflict (conflictRecord request first.record.identity
          (candidateRecordIds (candidates authorities request first))
          "qualifying native evidence takes precedence over assembly")
        "qualifying native evidence takes precedence over assembly") := by
  unfold validateAuthoritativeUniverse
  simp only [check_error, require_error, require_ok]
  exact Or.inr ⟨inside, Or.inl ⟨fun none => none record competing ⟨starts, finishes⟩, rfl⟩⟩

/-- A call that other authorities accept is refused where the candidates conflict. -/
theorem construct_conflicting {answer : String → String → Moment → Moment → Moment → List FundamentalEvidenceRecord}
    {first : AssemblyConstituent} {rest : List AssemblyConstituent}
    (constructed : construct authorities request = .ok record)
    (left : distinctConstituents request.constituents = first :: rest)
    (conflicting : validateAuthoritativeUniverse { authorities with overlappingEvidence := answer } request first
      rest = .error (.conflict conflict message)) :
    construct { authorities with overlappingEvidence := answer } request = .error (.conflict conflict message) := by
  obtain ⟨enough, contract, registry, fetched, found, valid, known, agree, assembled⟩ :=
    construct_iff.mp constructed
  rw [left] at assembled
  refine (bind_conflict plain_check).mpr ⟨(), require_of enough, ?_⟩
  refine (bind_conflict plain_fetchContract).mpr ⟨contract, fetched, ?_⟩
  refine (bind_conflict plain_fetchRegistry).mpr ⟨registry, found, ?_⟩
  refine (bind_conflict (plain_validateMethodologyContract contract)).mpr ⟨(), valid, ?_⟩
  refine (bind_conflict (plain_forM plain_checkSemantics)).mpr ⟨(), forM_ok.mpr fun item member =>
    known item (mem_sortConstituents.mp member), ?_⟩
  refine (bind_conflict (plain_deduplicateIdentical _)).mpr ⟨first :: rest, deduplicateIdentical_ok.mpr
    ⟨agree_congr (fun _ => mem_sortConstituents) agree, left⟩, ?_⟩
  cases rest with
  | nil => cases assembled
  | cons second others =>
      simp only [assembleSelected, bind_ok, exists_unit] at assembled
      obtain ⟨shapes, resolved, authorized, scope, -⟩ := assembled
      refine (bind_conflict (plain_requireExactSumCompatible _ _)).mpr ⟨shapes, resolved, ?_⟩
      refine (bind_conflict (plain_forM plain_checkAuthority)).mpr ⟨(), authorized, ?_⟩
      refine (bind_conflict (plain_validateScope _ _)).mpr ⟨(), scope, ?_⟩
      exact check_error.mpr (Or.inl conflicting)

theorem native_competes : nativeRecord ∈ omitted nativeAuthorities dusk (sampleConstituent false "1" one_isSome)
    [sampleConstituent false "1" one_isSome, sampleConstituent true "2" two_isSome]
    (sampleRecords "1" "2" one_isSome two_isSome ++ [nativeRecord]) := by
  refine mem_omitted.mpr ⟨List.mem_append_right _ (List.mem_singleton_self _), ⟨?_, rfl, rfl, le_refl dusk,
    le_refl dusk, ?_⟩, rfl⟩
  · show "n" ∉ ["a", "b"]
    decide
  · rintro ⟨item, selected, same⟩
    have claims := disclosed_claim same
    simp only [List.mem_cons, List.not_mem_nil, or_false] at selected
    cases selected with
    | inl here =>
        rw [here] at claims
        exact absurd (show "n" = "c" from claims) (by decide)
    | inr here =>
        rw [here] at claims
        exact absurd (show "n" = "c" from claims) (by decide)

/-- The conflict that the native record leaves. -/
def nativeConflict : AssemblyConflictRecord :=
  conflictRecord smallRequest sampleIdentity
    (candidateRecordIds (sampleRecords "1" "2" one_isSome two_isSome ++ [nativeRecord]))
    "qualifying native evidence takes precedence over assembly"

theorem native_refused : construct nativeAuthorities smallRequest =
    .error (.conflict nativeConflict "qualifying native evidence takes precedence over assembly") := by
  have constructed : construct (sampleAuthorities (sampleRecords "1" "2" one_isSome two_isSome)) smallRequest =
      .ok _ := sampleRoot_made false
  have left : distinctConstituents smallRequest.constituents = _ := sample_distinct
  refine construct_conflicting constructed left (validateAuthoritativeUniverse_native ?_ native_competes rfl rfl)
  intro item selected
  have there : item.record.recordId ∈ [sampleConstituent false "1" one_isSome,
      sampleConstituent true "2" two_isSome].map (·.record.recordId) := List.mem_map_of_mem selected
  exact List.mem_append_left ["n"] there

/-- The request of the sample, with the start of the window written in another offset. -/
def shiftedRequest : AssemblyRequest :=
  { smallRequest with
    accountingWindowStart := ⟨dawn, "0001-01-01T01:00:00+01:00", by decide⟩ }

theorem shifted_repeats : Repeats smallRequest shiftedRequest :=
  ⟨shiftedRequest.accountingWindowStart, smallRequest.accountingWindowEnd, rfl, rfl, rfl⟩

theorem shifted_digests : digestOf (logicalBasis shiftedRequest sampleContract
      (sampleConstituent false "1" one_isSome)) ≠
    digestOf (logicalBasis smallRequest sampleContract (sampleConstituent false "1" one_isSome)) := by
  rw [digestOf, digestOf]
  decide +kernel

theorem shifted_uncolliding : UncollidingTexts
    (sampleAuthorities (sampleRecords "1" "2" one_isSome two_isSome)) smallRequest shiftedRequest := by
  intro contract first fetched leads same
  have own : sampleContract = contract := Except.ok.inj fetched
  have left : distinctConstituents smallRequest.constituents = _ := sample_distinct
  rw [left, List.head?_cons, Option.some.injEq] at leads
  rw [← own, ← leads] at same
  exact absurd same shifted_digests

theorem small_accepted : submit (sampleAuthorities (sampleRecords "1" "2" one_isSome two_isSome)) ⟨[], []⟩
    smallRequest = (.ok (sampleRoot false), ⟨[sampleRoot false], []⟩) :=
  submit_ok.mpr ⟨assemble_ok.mpr ⟨sampleRoot_made false, rfl, rfl⟩, rfl⟩

theorem native_stored : submit nativeAuthorities ⟨[], []⟩ { smallRequest with recordedAt := noon } =
    (.error (.assemblyError "qualifying native evidence takes precedence over assembly"),
      ⟨[], [nativeConflict.at noon]⟩) :=
  submit_conflict (construct_later noon native_refused)

/-- A root is refused where the start of its window is written in another offset, and a refused call
fails otherwise when it is made again later. -/
theorem retries_safe_fails :
    submit (sampleAuthorities (sampleRecords "1" "2" one_isSome two_isSome)) ⟨[], []⟩ smallRequest =
      (.ok (sampleRoot false), ⟨[sampleRoot false], []⟩) ∧
    Repeats smallRequest shiftedRequest ∧
    submit (sampleAuthorities (sampleRecords "1" "2" one_isSome two_isSome)) ⟨[sampleRoot false], []⟩
      shiftedRequest ≠ (.ok (sampleRoot false), ⟨[sampleRoot false], []⟩) ∧
    submit nativeAuthorities ⟨[], []⟩ { smallRequest with recordedAt := noon } =
      (.error (.assemblyError "qualifying native evidence takes precedence over assembly"),
        ⟨[], [nativeConflict.at noon]⟩) ∧
    ¬RefusedAgain (submit nativeAuthorities ⟨[], [nativeConflict.at noon]⟩ { smallRequest with recordedAt := dusk })
      (nativeConflict.at dusk) "qualifying native evidence takes precedence over assembly" := by
  refine ⟨small_accepted, shifted_repeats, fun again => ?_, native_stored, fun again => ?_⟩
  · have texts := ((submit_again small_accepted [] shifted_repeats shifted_uncolliding).mp again).2.1.1
    exact absurd texts (by decide)
  · have keyed : Keyed ⟨[], []⟩ := List.nodup_nil
    have time := ((submit_refused_again keyed (construct_later noon native_refused) native_stored [] dusk).mp
      again).1
    exact absurd time (by decide)

theorem retries_safe_sample :
    submit (sampleAuthorities (sampleRecords "1" "2" one_isSome two_isSome)) ⟨[sampleRoot false], []⟩
      smallRequest = (.ok (sampleRoot false), ⟨[sampleRoot false], []⟩) := by
  have repeats : Repeats smallRequest smallRequest :=
    ⟨smallRequest.accountingWindowStart, smallRequest.accountingWindowEnd, rfl, rfl, rfl⟩
  refine ((retries_safe []).1 _ _ _ _ _ _ small_accepted repeats fun _ _ _ _ _ => rfl).mpr
    ⟨rfl, ⟨rfl, rfl⟩, fun other member _ => ?_⟩
  rw [List.mem_singleton.mp member]

end Hunter.EvidenceAssembly
