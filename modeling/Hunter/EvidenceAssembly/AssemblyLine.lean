import Hunter.Data.Supersession
import Hunter.EvidenceAssembly.Exact
import Hunter.Machine.Run

/-!
Callers that assemble at the same time. Each reads what its record would follow, and inserts the
record in a later transaction. The corrections of a logical identity form one line whatever the
order of the steps is. Two roots can only be told from each other by the reads, so there is one
line for each identity as long as no root is inserted behind another record of its identity.
-/

namespace Hunter.EvidenceAssembly

open Calendar Fallible Supersession

variable {stored after : Store} {record : AssembledFundamentalEvidenceRecord}

structure Assembling where
  stored : Store
  /-- The records of the calls that have made their reads. -/
  authorized : List AssembledFundamentalEvidenceRecord

inductive AssemblyEvent where
  | authorize (record : AssembledFundamentalEvidenceRecord)
  | insert (record : AssembledFundamentalEvidenceRecord)
  | fail

inductive AssemblyStep : Assembling → AssemblyEvent → Assembling → Prop where
  | authorize {s : Assembling} {authorities : Authorities} {request : AssemblyRequest}
      {record : AssembledFundamentalEvidenceRecord} (made : construct authorities request = .ok record)
      (authorized : authorizeCorrection s.stored record = .ok ()) :
      AssemblyStep s (.authorize record) { s with authorized := record :: s.authorized }
  | insert {s : Assembling} {record : AssembledFundamentalEvidenceRecord} {after : Store}
      (pending : record ∈ s.authorized) (inserted : insertAuthorized s.stored record = .ok after) :
      AssemblyStep s (.insert record) ⟨after, s.authorized.erase record⟩
  | refused {s : Assembling} {record : AssembledFundamentalEvidenceRecord} {exn : AssemblyExn}
      (pending : record ∈ s.authorized) (refused : insertAuthorized s.stored record = .error exn) :
      AssemblyStep s (.insert record) ⟨s.stored, s.authorized.erase record⟩
  /-- A call that ends before it has been authorized. -/
  | fail {s : Assembling} : AssemblyStep s .fail s

/-- No other record of the identity is there when a root is inserted. -/
def Assembling.Rooted (s : Assembling) : AssemblyEvent → Prop
  | .insert record => record.supersedesRecordId = none →
      ∀ other ∈ s.stored.history record.logicalId, other.recordId = record.recordId
  | _ => True

/-- A step at which no second root is inserted. -/
def RootedStep (s : Assembling) (event : AssemblyEvent) (t : Assembling) : Prop :=
  AssemblyStep s event t ∧ s.Rooted event

/-- The later one was recorded and known later. -/
def Follows (a b : AssembledFundamentalEvidenceRecord) : Prop :=
  a.recordedAt < b.recordedAt ∧ a.knownAt < b.knownAt

theorem Follows.trans {a b c : AssembledFundamentalEvidenceRecord} (ab : Follows a b) (bc : Follows b c) :
    Follows a c :=
  ⟨ab.1.trans bc.1, ab.2.trans bc.2⟩

/-- The times that a record is constructed with. -/
structure Timed (record : AssembledFundamentalEvidenceRecord) : Prop where
  recorded : record.recordedAt ≤ record.knownAt
  effective : record.effectiveAt = record.accountingWindowEnd

theorem construct_timed {authorities : Authorities} {request : AssemblyRequest}
    (made : construct authorities request = .ok record) : Timed record := by
  obtain ⟨-, contract, registry, -, -, -, -, -, selected⟩ := construct_iff.mp made
  obtain ⟨first, rest, amount, weakest, -, -, -, -, -, -, rfl, -⟩ := assembleSelected_ok selected
  exact ⟨le_max_right _ _, rfl⟩

/-- A record that corrects another one follows it. -/
def Corrects (stored : Store) (record : AssembledFundamentalEvidenceRecord) : Prop :=
  ∀ predecessorId ∈ record.supersedesRecordId, ∃ predecessor ∈ stored,
    predecessor.recordId = predecessorId ∧ predecessor.logicalId = record.logicalId ∧
      Follows predecessor record

structure Lined (s : Assembling) : Prop where
  lines : Lines AssembledFundamentalEvidenceRecord.recordId
    AssembledFundamentalEvidenceRecord.supersedesRecordId AssembledFundamentalEvidenceRecord.logicalId
    Follows s.stored
  timed : ∀ record ∈ s.stored, Timed record
  pending : ∀ record ∈ s.authorized, Timed record ∧ Corrects s.stored record

theorem Store.get_eq_none {id : String} (none : stored.get id = none) :
    id ∉ stored.map AssembledFundamentalEvidenceRecord.recordId := by
  intro member
  obtain ⟨record, inside, same⟩ := List.mem_map.mp member
  exact absurd (decide_eq_true same) (List.find?_eq_none.mp none record inside)

theorem Store.successor_eq_none {id : String} (none : stored.successor id = none) :
    ∀ record ∈ stored, record.supersedesRecordId ≠ some id := fun record inside same =>
  absurd (decide_eq_true same) (List.find?_eq_none.mp none record inside)

theorem authorizeCorrection_corrects (authorized : authorizeCorrection stored record = .ok ()) :
    Corrects stored record := by
  intro predecessorId names
  simp only [authorizeCorrection, Option.mem_def.mp names] at authorized
  cases found : stored.get predecessorId with
  | none =>
      rw [found] at authorized
      cases authorized
  | some predecessor =>
      simp only [found, require_bind_ok, require_ok] at authorized
      have id : predecessor.recordId = predecessorId := by simpa using List.find?_some found
      exact ⟨predecessor, List.mem_of_find?_eq_some found, id, authorized.1, authorized.2.1⟩

theorem insertAuthorized_ok : insertAuthorized stored record = .ok after ↔
    stored.get record.recordId = some record ∧ after = stored ∨
      stored.get record.recordId = none ∧
        (∀ predecessorId ∈ record.supersedesRecordId, stored.successor predecessorId = none) ∧
        after = stored ++ [record] := by
  unfold insertAuthorized
  cases found : stored.get record.recordId with
  | none =>
      simp only [require_bind_ok, pure_eq_ok, Except.ok.injEq, false_and, false_or, true_and, reduceCtorEq]
      exact and_congr_right' eq_comm
  | some existing =>
      simp only [require_bind_ok, pure_eq_ok, Except.ok.injEq, Option.some.injEq, reduceCtorEq, false_and,
        or_false]
      exact and_congr_right' eq_comm

theorem Corrects.mono {more : Store} (corrects : Corrects stored record) : Corrects (stored ++ more) record := by
  intro predecessorId names
  obtain ⟨predecessor, inside, rest⟩ := corrects predecessorId names
  exact ⟨predecessor, List.mem_append_left _ inside, rest⟩

/-- A record that is inserted ends the line of its identity. -/
theorem Lined.append {s : Assembling} (lined : Lined s) (pending : record ∈ s.authorized)
    (fresh : s.stored.get record.recordId = none)
    (childless : ∀ predecessorId ∈ record.supersedesRecordId, s.stored.successor predecessorId = none)
    (rooted : s.Rooted (.insert record)) :
    Lines AssembledFundamentalEvidenceRecord.recordId
      AssembledFundamentalEvidenceRecord.supersedesRecordId AssembledFundamentalEvidenceRecord.logicalId
      Follows (s.stored ++ [record]) := by
  have new := Store.get_eq_none fresh
  cases names : record.supersedesRecordId with
  | none =>
      refine lined.lines.root new names fun other inside same => ?_
      have listed : other ∈ s.stored.history record.logicalId :=
        List.mem_filter.mpr ⟨inside, decide_eq_true same⟩
      exact new (rooted names other listed ▸ List.mem_map_of_mem inside)
  | some predecessorId =>
      obtain ⟨predecessor, inside, rfl, same, follows⟩ := (lined.pending record pending).2 predecessorId names
      exact lined.lines.successor Follows.trans new inside same names
        (Store.successor_eq_none (childless _ names)) follows

theorem lined_step {s t : Assembling} {event : AssemblyEvent} (lined : Lined s)
    (step : RootedStep s event t) : Lined t ∧ ∃ more, t.stored = s.stored ++ more := by
  obtain ⟨step, rooted⟩ := step
  cases step with
  | authorize made authorized =>
      refine ⟨⟨lined.lines, lined.timed, fun other member => ?_⟩, [], (List.append_nil _).symm⟩
      cases List.mem_cons.mp member with
      | inl here =>
          rw [here]
          exact ⟨construct_timed made, authorizeCorrection_corrects authorized⟩
      | inr there => exact lined.pending other there
  | insert pending inserted =>
      cases insertAuthorized_ok.mp inserted with
      | inl old =>
          obtain ⟨-, rfl⟩ := old
          exact ⟨⟨lined.lines, lined.timed, fun other member =>
            lined.pending other (List.mem_of_mem_erase member)⟩, [], (List.append_nil _).symm⟩
      | inr new =>
          obtain ⟨fresh, childless, rfl⟩ := new
          refine ⟨⟨lined.append pending fresh childless rooted, fun other member => ?_, fun other member => ?_⟩,
            _, rfl⟩
          · cases List.mem_append.mp member with
            | inl there => exact lined.timed other there
            | inr here => exact List.mem_singleton.mp here ▸ (lined.pending _ pending).1
          · have before := lined.pending other (List.mem_of_mem_erase member)
            exact ⟨before.1, before.2.mono⟩
  | refused pending refused =>
      exact ⟨⟨lined.lines, lined.timed, fun other member =>
        lined.pending other (List.mem_of_mem_erase member)⟩, [], (List.append_nil _).symm⟩
  | fail => exact ⟨lined, [], (List.append_nil _).symm⟩

theorem lined_run {s t : Assembling} {events : List AssemblyEvent} (lined : Lined s)
    (run : Run RootedStep s events t) : Lined t ∧ ∃ more, t.stored = s.stored ++ more := by
  refine run.preserves (fun t => Lined t ∧ ∃ more, t.stored = s.stored ++ more) ?_
    ⟨lined, [], (List.append_nil _).symm⟩
  rintro now event next ⟨here, more, grown⟩ step
  obtain ⟨there, added, longer⟩ := lined_step here step
  exact ⟨there, more ++ added, by rw [longer, grown, List.append_assoc]⟩

theorem lined_empty : Lined ⟨[], []⟩ :=
  ⟨.nil, fun _ none => absurd none List.not_mem_nil, fun _ none => absurd none List.not_mem_nil⟩

/-- The last record of an identity that is known at the cutoff. -/
def lastLink (stored : Store) (logicalId : String) (knownBy : Moment) :
    Option AssembledFundamentalEvidenceRecord :=
  ((stored.history logicalId).filter fun record => record.knownAt ≤ knownBy).getLast?

theorem strictKnown_lastLink {s : Assembling} (lined : Lined s) {logicalId : String}
    {effectiveAsOf knownBy : Moment}
    (effective : ∀ record ∈ s.stored.history logicalId, record.accountingWindowEnd ≤ effectiveAsOf) :
    strictKnown s.stored logicalId effectiveAsOf knownBy = lastLink s.stored logicalId knownBy := by
  have eligible : (s.stored.history logicalId).filter (fun record => decide
      (record.effectiveAt ≤ effectiveAsOf ∧ record.recordedAt ≤ knownBy ∧ record.knownAt ≤ knownBy)) =
      (s.stored.history logicalId).filter fun record => record.knownAt ≤ knownBy := by
    refine List.filter_congr fun record member => decide_eq_decide.mpr ?_
    have timed := lined.timed record (List.mem_of_mem_filter member)
    exact ⟨fun seen => seen.2.2, fun known => ⟨timed.effective ▸ effective record member,
      timed.recorded.trans known, known⟩⟩
  have rising := lined.lines.rising logicalId
  have last := rising.head?_tips (fun below => below.2) knownBy fun a b => decide (b.rank ≤ a.rank)
  simp only [strictKnown, eligible]
  exact last

/-- What the records of each identity are after any run, and what a later run leaves of them. -/
theorem assembled_line {s t : Assembling} {events later : List AssemblyEvent}
    (run : Run RootedStep ⟨[], []⟩ events s) (more : Run RootedStep s later t) (logicalId : String) :
    Rising AssembledFundamentalEvidenceRecord.recordId
        AssembledFundamentalEvidenceRecord.supersedesRecordId Follows (s.stored.history logicalId) ∧
      ∀ effectiveAsOf knownBy,
        (∀ record ∈ t.stored.history logicalId, record.accountingWindowEnd ≤ effectiveAsOf) →
        strictKnown s.stored logicalId effectiveAsOf knownBy = lastLink s.stored logicalId knownBy ∧
        ((∀ record ∈ t.stored.history logicalId, record ∉ s.stored → knownBy < record.knownAt) →
          strictKnown t.stored logicalId effectiveAsOf knownBy =
            strictKnown s.stored logicalId effectiveAsOf knownBy) := by
  obtain ⟨lined, -⟩ := lined_run lined_empty run
  obtain ⟨lined', added, grown⟩ := lined_run lined more
  refine ⟨lined.lines.rising logicalId, fun effectiveAsOf knownBy effective => ?_⟩
  have front : ∀ record ∈ s.stored.history logicalId, record ∈ t.stored.history logicalId := by
    intro record member
    rw [grown, Store.history, List.filter_append]
    exact List.mem_append_left _ member
  have now : strictKnown s.stored logicalId effectiveAsOf knownBy = lastLink s.stored logicalId knownBy :=
    strictKnown_lastLink lined fun record member => effective record (front record member)
  refine ⟨now, fun unknown => ?_⟩
  rw [now, strictKnown_lastLink lined' effective, lastLink, lastLink, grown, Store.history, List.filter_append,
    List.filter_append]
  have hidden : (added.filter fun record => decide (record.logicalId = logicalId)).filter
      (fun record => decide (record.knownAt ≤ knownBy)) = [] := by
    refine List.filter_eq_nil_iff.mpr fun record member => ?_
    have distinct := lined'.lines.distinct
    rw [grown, List.map_append] at distinct
    have inside : record ∈ added := List.mem_of_mem_filter member
    have fresh : record ∉ s.stored := fun old => (List.nodup_append.mp distinct).2.2 _
      (List.mem_map_of_mem old) _ (List.mem_map_of_mem inside) rfl
    have listed : record ∈ t.stored.history logicalId := by
      rw [grown, Store.history, List.filter_append]
      exact List.mem_append_right _ member
    simpa using unknown record listed fresh
  rw [hidden, List.append_nil]
  rfl

/-- The root that is assembled with the first or the second version of the registry. -/
def sampleRoot (later : Bool) : AssembledFundamentalEvidenceRecord :=
  assembledRecord
    (daysRequest later [sampleConstituent false "1" one_isSome, sampleConstituent true "2" two_isSome])
    (flowRegistry later) sampleContract (sampleConstituent false "1" one_isSome)
    [sampleConstituent true "2" two_isSome] ⟨false, 3, 0⟩ ⟨false, 1, 0⟩

theorem sampleRoot_made (later : Bool) :
    construct (sampleAuthorities (sampleRecords "1" "2" one_isSome two_isSome))
      (daysRequest later [sampleConstituent false "1" one_isSome, sampleConstituent true "2" two_isSome]) =
        .ok (sampleRoot later) :=
  sample_constructs later one_parsed two_parsed small_sum

theorem sampleRoot_logicalId : (sampleRoot true).logicalId = (sampleRoot false).logicalId := rfl

theorem sampleRoot_apart : (sampleRoot true).recordId ≠ (sampleRoot false).recordId := by
  decide +kernel

theorem sample_get : Store.get [sampleRoot false] (sampleRoot true).recordId = none := by
  refine List.find?_eq_none.mpr fun other member same => ?_
  rw [List.mem_singleton.mp member] at same
  exact sampleRoot_apart (of_decide_eq_true same).symm

def sampleEvents : List AssemblyEvent :=
  [.authorize (sampleRoot false), .authorize (sampleRoot true), .insert (sampleRoot false),
    .insert (sampleRoot true)]

/-- Two roots are authorized before either is inserted. -/
theorem assembled_line_fails : ∃ s, Run AssemblyStep ⟨[], []⟩ sampleEvents s ∧
    s.stored.history (sampleRoot false).logicalId = [sampleRoot false, sampleRoot true] ∧
    ¬Rising AssembledFundamentalEvidenceRecord.recordId
      AssembledFundamentalEvidenceRecord.supersedesRecordId Follows
      (s.stored.history (sampleRoot false).logicalId) := by
  have apart : sampleRoot true ≠ sampleRoot false := fun same =>
    sampleRoot_apart (congrArg AssembledFundamentalEvidenceRecord.recordId same)
  have left : sampleRoot true ∈ [sampleRoot true, sampleRoot false].erase (sampleRoot false) :=
    (List.mem_erase_of_ne apart).mpr List.mem_cons_self
  have second : insertAuthorized [sampleRoot false] (sampleRoot true) =
      .ok [sampleRoot false, sampleRoot true] :=
    insertAuthorized_ok.mpr (Or.inr ⟨sample_get, nofun, rfl⟩)
  have listed : Store.history [sampleRoot false, sampleRoot true] (sampleRoot false).logicalId =
      [sampleRoot false, sampleRoot true] := by
    refine List.filter_eq_self.mpr fun record member => decide_eq_true ?_
    simp only [List.mem_cons, List.not_mem_nil, or_false] at member
    cases member with
    | inl here => rw [here]
    | inr here => rw [here, sampleRoot_logicalId]
  refine ⟨⟨[sampleRoot false, sampleRoot true],
    ([sampleRoot true, sampleRoot false].erase (sampleRoot false)).erase (sampleRoot true)⟩, ?_, listed, ?_⟩
  · refine Run.cons (.authorize (sampleRoot_made false) rfl) (Run.cons (.authorize (sampleRoot_made true) rfl)
      (Run.cons (.insert ?_ rfl) (Run.cons (.insert left second) .nil)))
    exact List.mem_cons_of_mem _ List.mem_cons_self
  · intro rising
    rw [listed] at rising
    have names : (sampleRoot true).supersedesRecordId = some (sampleRoot false).recordId :=
      rising.linked.2.1
    cases names

/-- The root is assembled again at night, with the second version of the registry. -/
def sampleRevision : AssembledFundamentalEvidenceRecord :=
  assembledRecord
    (correctionRequest true (some (sampleRoot false).recordId)
      [sampleConstituent false "1" one_isSome, sampleConstituent true "2" two_isSome])
    (flowRegistry true) sampleContract (sampleConstituent false "1" one_isSome)
    [sampleConstituent true "2" two_isSome] ⟨false, 3, 0⟩ ⟨false, 1, 0⟩

theorem sampleRevision_made :
    construct (sampleAuthorities (sampleRecords "1" "2" one_isSome two_isSome))
      (correctionRequest true (some (sampleRoot false).recordId)
        [sampleConstituent false "1" one_isSome, sampleConstituent true "2" two_isSome]) = .ok sampleRevision :=
  sample_corrects true _ one_parsed two_parsed small_sum

theorem sampleRevision_authorized : authorizeCorrection [sampleRoot false] sampleRevision = .ok () := by
  have found : Store.get [sampleRoot false] (sampleRoot false).recordId = some (sampleRoot false) :=
    List.find?_cons_of_pos (decide_eq_true rfl)
  have names : sampleRevision.supersedesRecordId = some (sampleRoot false).recordId := rfl
  unfold authorizeCorrection
  rw [names]
  dsimp only
  rw [found]
  dsimp only
  rw [require_bind_ok, require_bind_ok, require_ok]
  exact ⟨rfl, by decide, rfl⟩

/-- A root and its correction: each is what a reader gets from the time it was known. -/
theorem assembled_line_sample :
    strictKnown [sampleRoot false, sampleRevision] (sampleRoot false).logicalId dusk dusk =
        some (sampleRoot false) ∧
      strictKnown [sampleRoot false, sampleRevision] (sampleRoot false).logicalId dusk night =
        some sampleRevision := by
  have fresh : Store.get [sampleRoot false] sampleRevision.recordId = none := sample_get
  have revised : insertAuthorized [sampleRoot false] sampleRevision = .ok [sampleRoot false, sampleRevision] :=
    insertAuthorized_ok.mpr (Or.inr ⟨fresh, fun _ names => by cases names; rfl, rfl⟩)
  have run : Run RootedStep ⟨[], []⟩
      [.authorize (sampleRoot false), .insert (sampleRoot false), .authorize sampleRevision,
        .insert sampleRevision] ⟨[sampleRoot false, sampleRevision], _⟩ :=
    Run.cons ⟨.authorize (sampleRoot_made false) rfl, trivial⟩
      (Run.cons ⟨.insert List.mem_cons_self rfl, fun _ other member => absurd member List.not_mem_nil⟩
        (Run.cons ⟨.authorize sampleRevision_made sampleRevision_authorized, trivial⟩
          (Run.cons ⟨.insert List.mem_cons_self revised, nofun⟩ .nil)))
  have history : Store.history [sampleRoot false, sampleRevision] (sampleRoot false).logicalId =
      [sampleRoot false, sampleRevision] := by
    refine List.filter_eq_self.mpr fun record member => decide_eq_true ?_
    rcases List.mem_cons.mp member with here | here
    · rw [here]
    · rw [List.mem_singleton.mp here]
      rfl
  have replayed := (assembled_line run .nil (sampleRoot false).logicalId).2 dusk
  have ended : ∀ record ∈ Store.history [sampleRoot false, sampleRevision] (sampleRoot false).logicalId,
      record.accountingWindowEnd ≤ dusk := by
    rw [history]
    exact List.forall_mem_cons.mpr ⟨le_refl dusk, List.forall_mem_singleton.mpr (le_refl dusk)⟩
  rw [(replayed dusk ended).1, (replayed night ended).1, lastLink, lastLink, history]
  have first : (sampleRoot false).knownAt = dusk := by decide
  have second : sampleRevision.knownAt = night := by decide
  have early : dusk < night := by decide
  constructor
  · simp [first, second, early]
  · simp [first, second, early.le]

end Hunter.EvidenceAssembly
