import Hunter.Data.Lineage
import Hunter.SourceHandling.Values

/-!
The head of the authority records of a scope at a cutoff. It is the last record of a line that
holds every eligible record, and there is a head just where there is such a line. The walk from
the one record that nothing supersedes visits the line from its end.
-/

namespace Hunter.SourceHandling

open Calendar Fallible Lineage

/-- The records of the scope that are eligible at the cutoff. -/
def eligibleOf (clocks : Clocks) (cutoff : Cutoff) (scope : String) :
    List Record → Except Raised (List Record)
  | [] => .ok []
  | record :: records => do
      let inScope := match record.get? "scope" with
        | some (.text text) => decide (text = scope)
        | _ => false
      let eligible ← if inScope then strictKnownEligible clocks record cutoff else .ok false
      let others ← eligibleOf clocks cutoff scope records
      .ok (if eligible then record :: others else others)

/-- The records by their identity. -/
def byId : (seen : List (String × Record)) → List Record → Except Raised (List (String × Record))
  | seen, [] => .ok seen
  | seen, record :: records =>
      match recordId record with
      | none => .error (.blocked "strict-known authority identity is missing or duplicated")
      | some id =>
          if id ∈ seen.map Prod.fst then
            .error (.blocked "strict-known authority identity is missing or duplicated")
          else byId (seen ++ [(id, record)]) records

/-- Every predecessor that is named is there. -/
def predecessorsKnown (ids : List String) : List (String × Record) → Except Raised Unit
  | [] => .ok ()
  | (_, record) :: records =>
      match supersedesId record with
      | some predecessor =>
          if predecessor ∈ ids then predecessorsKnown ids records
          else .error (.blocked "strict-known authority predecessor is missing")
      | none => predecessorsKnown ids records

theorem unvisited_lt {records : List (String × Record)} {visited : List String} {id : String}
    {entry : String × Record} (found : (records.find? fun entry => entry.1 = id) = some entry)
    (unvisited : id ∉ visited) :
    (records.filter fun entry => entry.1 ∉ id :: visited).length <
      (records.filter fun entry => entry.1 ∉ visited).length := by
  have both : (records.filter fun entry => entry.1 ∉ id :: visited) =
      (records.filter fun entry => entry.1 ∉ visited).filter fun entry => entry.1 ≠ id := by
    rw [List.filter_filter]
    refine List.filter_congr fun entry _ => ?_
    rw [← Bool.decide_and, decide_eq_decide, List.mem_cons, not_or]
  have holds := List.find?_some found
  have same : entry.1 = id := of_decide_eq_true holds
  rw [both, List.length_filter_lt_length_iff_exists]
  refine ⟨entry, List.mem_filter.mpr ⟨List.mem_of_find?_eq_some found, decide_eq_true ?_⟩, ?_⟩
  · rwa [same]
  · exact fun holds => of_decide_eq_true holds same

/-- From a record to the one before it, and on. -/
def walk (records : List (String × Record)) (visited : List String) (cursor : Option String) :
    Except Raised (List String) :=
  match cursor with
  | none => .ok visited
  | some id =>
      if id ∈ visited then .error (.blocked "strict-known authority history contains a cycle")
      else
        match _found : records.find? fun entry => entry.1 = id with
        | none => .error .keyError
        | some (_, record) => walk records (id :: visited) (supersedesId record)
termination_by (records.filter fun entry => entry.1 ∉ visited).length
decreasing_by
  exact unvisited_lt _found ‹_›

/-- The head of the eligible records. -/
def chainHead (eligible : List Record) : Except Raised Record := do
  require (eligible.isEmpty = false) (.blocked "no strict-known authority head")
  let indexed ← byId [] eligible
  let ids := indexed.map Prod.fst
  predecessorsKnown ids indexed
  let superseded := indexed.filterMap fun entry => supersedesId entry.2
  match ids.filter fun id => id ∉ superseded with
  | [head] =>
      let visited ← walk indexed [] (some head)
      require (visited ⊆ ids ∧ ids ⊆ visited)
        (.blocked "strict-known authority history is not one complete chain")
      match indexed.find? fun entry => entry.1 = head with
      | some (_, record) => .ok record
      | none => .error .keyError
  | _ => .error (.blocked "strict-known authority history has divergent heads")

/-- `strict_known_head`. -/
def strictKnownHead (clocks : Clocks) (records : List Record) (cutoff : Cutoff) (scope : String) :
    Except Raised Record := do
  let eligible ← eligibleOf clocks cutoff scope records
  chainHead eligible

/-- The field holds an instant at or before the cutoff. -/
def KnownBy (clocks : Clocks) (record : Record) (cutoff : Cutoff) (field : String) : Prop :=
  ∃ moment instant, asDatetime clocks (record.get? field) = .ok (some moment) ∧
    cutoff.instant = some instant ∧ (moment.val : Int) ≤ instant

def InScope (scope : String) (record : Record) : Prop := record.get? "scope" = some (.text scope)

/-- A record of the scope, all of whose times are at or before the cutoff. -/
def EligibleAt (clocks : Clocks) (cutoff : Cutoff) (scope : String) (record : Record) : Prop :=
  InScope scope record ∧ ∀ field ∈ timeFields record, KnownBy clocks record cutoff field

/-- Every time that is looked at, up to the first one that is not known by the cutoff, can be
converted and compared. -/
def TimesReadable (clocks : Clocks) (record : Record) (cutoff : Cutoff) : List String → Prop
  | [] => True
  | field :: fields => ∃ time, asDatetime clocks (record.get? field) = .ok time ∧
      ∀ moment, time = some moment → ∃ instant, cutoff.instant = some instant ∧
        ((moment.val : Int) ≤ instant → TimesReadable clocks record cutoff fields)

section Eligible

variable {clocks : Clocks} {record : Record} {cutoff : Cutoff} {scope : String}

theorem asDatetime_error {value : Option Value} {raised : Raised}
    (failed : asDatetime clocks value = .error raised) (message : String) :
    raised ≠ .blocked message := by
  unfold asDatetime at failed
  split at failed
  · split at failed
    · cases failed
    · cases failed
      exact nofun
  · split at failed
    · cases failed
    · split at failed
      · cases failed
      · cases failed
      · cases failed
        exact nofun
  · cases failed

theorem timesKnown_cases (fields : List String) :
    (TimesReadable clocks record cutoff fields ∧ ∃ known,
      timesKnown clocks record cutoff fields = .ok known ∧
        (known = true ↔ ∀ field ∈ fields, KnownBy clocks record cutoff field)) ∨
    (¬TimesReadable clocks record cutoff fields ∧ ∃ raised,
      timesKnown clocks record cutoff fields = .error raised ∧
        ∀ message, raised ≠ .blocked message) := by
  induction fields with
  | nil => exact Or.inl ⟨trivial, true, rfl, iff_of_true rfl fun _ inside => absurd inside List.not_mem_nil⟩
  | cons field fields ih =>
      rw [timesKnown, TimesReadable]
      cases read : asDatetime clocks (record.get? field) with
      | error raised =>
          exact Or.inr ⟨(fun ⟨_, same, _⟩ => nomatch same), raised, rfl, asDatetime_error read⟩
      | ok time =>
          rw [ok_bind]
          cases time with
          | none =>
              refine Or.inl ⟨⟨none, rfl, nofun⟩, false, rfl, iff_of_false nofun fun all => ?_⟩
              obtain ⟨moment, instant, same, -⟩ := all field List.mem_cons_self
              cases read.symm.trans same
          | some moment =>
              dsimp only
              cases at_ : cutoff.instant with
              | none =>
                  refine Or.inr ⟨fun ⟨time, same, later⟩ => ?_, .typeError, ?_⟩
                  · cases same
                    obtain ⟨instant, same, -⟩ := later moment rfl
                    cases same
                  · rw [Cutoff.before, at_]
                    exact ⟨rfl, nofun⟩
              | some instant =>
                  rw [Cutoff.before, at_]
                  dsimp only [ok_bind]
                  by_cases late : instant < (moment.val : Int)
                  · rw [if_pos (decide_eq_true late)]
                    refine Or.inl ⟨⟨some moment, rfl, fun other same => ⟨instant, rfl, fun early => ?_⟩⟩,
                      false, rfl, iff_of_false nofun fun all => ?_⟩
                    · cases same
                      exact absurd late (Int.not_lt.mpr early)
                    · obtain ⟨other, instant', same, there, early⟩ := all field List.mem_cons_self
                      cases read.symm.trans same
                      cases at_.symm.trans there
                      exact Int.not_lt.mpr early late
                  · rw [if_neg (fun holds => late (of_decide_eq_true holds))]
                    have early := Int.not_lt.mp late
                    have here : KnownBy clocks record cutoff field := ⟨moment, instant, read, at_, early⟩
                    refine ih.imp (fun ⟨readable, known, done, all⟩ => ?_) fun ⟨unreadable, failed⟩ => ?_
                    · refine ⟨⟨some moment, rfl, fun other same => ⟨instant, rfl, fun _ => readable⟩⟩,
                        known, done, ?_⟩
                      rw [all, List.forall_mem_cons]
                      exact (and_iff_right here).symm
                    · refine ⟨fun ⟨time, same, later⟩ => ?_, failed⟩
                      cases same
                      obtain ⟨other, same, readable⟩ := later moment rfl
                      cases same
                      exact unreadable (readable early)

open Classical in
/-- What is eligible of some records. -/
noncomputable def eligibleRecords (clocks : Clocks) (cutoff : Cutoff) (scope : String)
    (records : List Record) : List Record :=
  records.filter fun record => EligibleAt clocks cutoff scope record

open Classical in
theorem eligibleRecords_pos {records : List Record} (eligible : EligibleAt clocks cutoff scope record) :
    eligibleRecords clocks cutoff scope (record :: records) =
      record :: eligibleRecords clocks cutoff scope records :=
  List.filter_cons_of_pos (decide_eq_true eligible)

open Classical in
theorem eligibleRecords_neg {records : List Record} (other : ¬EligibleAt clocks cutoff scope record) :
    eligibleRecords clocks cutoff scope (record :: records) =
      eligibleRecords clocks cutoff scope records :=
  List.filter_cons_of_neg fun holds => other (of_decide_eq_true holds)

theorem inScope_iff :
    (match record.get? "scope" with
      | some (.text text) => decide (text = scope)
      | _ => false) = true ↔ InScope scope record := by
  unfold InScope
  split
  · rename_i text given
    rw [given, decide_eq_true_iff, Option.some.injEq, Value.text.injEq]
  · rename_i other
    exact iff_of_false nofun fun given => other scope given

/-- The scan of the records ends where every record of the scope is readable. -/
theorem eligibleOf_cases (records : List Record) :
    ((∀ record ∈ records, InScope scope record →
        TimesReadable clocks record cutoff (timeFields record)) ∧
      eligibleOf clocks cutoff scope records =
        .ok (eligibleRecords clocks cutoff scope records)) ∨
    ((¬∀ record ∈ records, InScope scope record →
        TimesReadable clocks record cutoff (timeFields record)) ∧
      ∃ raised, eligibleOf clocks cutoff scope records = .error raised ∧
        ∀ message, raised ≠ .blocked message) := by
  induction records with
  | nil => exact Or.inl ⟨fun _ inside => absurd inside List.not_mem_nil, rfl⟩
  | cons record records ih =>
      rw [eligibleOf, List.forall_mem_cons]
      dsimp only
      by_cases within : InScope scope record
      · rw [if_pos (inScope_iff.mpr within), strictKnownEligible]
        rcases @timesKnown_cases clocks record cutoff (timeFields record) with
          ⟨readable, known, done, all⟩ | ⟨unreadable, raised, failed, other⟩
        · rw [done, ok_bind]
          have eligible : EligibleAt clocks cutoff scope record ↔ known = true :=
            (and_iff_right within).trans all.symm
          rcases ih with ⟨others, rest⟩ | ⟨others, raised, failed, other⟩
          · refine Or.inl ⟨⟨fun _ => readable, others⟩, ?_⟩
            rw [rest, ok_bind]
            by_cases known : known = true
            · rw [if_pos known, eligibleRecords_pos (eligible.mpr known)]
            · rw [if_neg known, eligibleRecords_neg (mt eligible.mp known)]
          · refine Or.inr ⟨fun both => others both.2, raised, ?_, other⟩
            rw [failed, error_bind]
        · refine Or.inr ⟨fun both => unreadable (both.1 within), raised, ?_, other⟩
          rw [failed, error_bind]
      · rw [if_neg (mt inScope_iff.mp within), ok_bind]
        rcases ih with ⟨others, rest⟩ | ⟨others, raised, failed, other⟩
        · refine Or.inl ⟨⟨fun inside => absurd inside within, others⟩, ?_⟩
          rw [rest, ok_bind, eligibleRecords_neg fun eligible => within eligible.1]
          rfl
        · refine Or.inr ⟨fun both => others both.2, raised, ?_, other⟩
          rw [failed, error_bind]

end Eligible

/-- The identity of a record that has one. -/
def identity (record : Record) : String := (recordId record).getD ""

def indexed (records : List Record) : List (String × Record) :=
  records.map fun record => (identity record, record)

theorem indexed_ids (records : List Record) : (indexed records).map Prod.fst = records.map identity := by
  rw [indexed, List.map_map]
  rfl

theorem byId_cases (seen : List (String × Record)) (records : List Record)
    (nodup : (seen.map Prod.fst).Nodup) :
    ((∀ record ∈ records, recordId record ≠ none) ∧
        (seen.map Prod.fst ++ records.map identity).Nodup ∧
        byId seen records = .ok (seen ++ indexed records)) ∨
      (¬((∀ record ∈ records, recordId record ≠ none) ∧
          (seen.map Prod.fst ++ records.map identity).Nodup) ∧
        ∃ message, byId seen records = .error (.blocked message)) := by
  induction records generalizing seen with
  | nil =>
      refine Or.inl ⟨fun _ inside => absurd inside List.not_mem_nil, ?_, ?_⟩
      · rwa [List.map_nil, List.append_nil]
      · rw [byId, indexed, List.map_nil, List.append_nil]
  | cons record records ih =>
      rw [byId, List.forall_mem_cons]
      cases named : recordId record with
      | none => exact Or.inr ⟨fun both => both.1.1 rfl, _, rfl⟩
      | some id =>
          have same : identity record = id := by rw [identity, named, Option.getD_some]
          dsimp only
          split
          · rename_i again
            refine Or.inr ⟨fun both => ?_, _, rfl⟩
            refine (List.nodup_append.mp both.2).2.2 id again (identity record) ?_ same.symm
            exact List.mem_cons_self
          · rename_i fresh
            have next : ((seen ++ [(id, record)]).map Prod.fst).Nodup := by
              rw [List.map_append, List.map_singleton, List.nodup_append]
              refine ⟨nodup, List.nodup_cons.mpr ⟨List.not_mem_nil, List.nodup_nil⟩, ?_⟩
              intro a old b single equal
              rw [equal, List.mem_singleton.mp single] at old
              exact fresh old
            have keys : (seen ++ [(id, record)]).map Prod.fst ++ records.map identity =
                seen.map Prod.fst ++ (record :: records).map identity := by
              rw [List.map_append, List.append_assoc, List.map_cons (f := identity), same]
              rfl
            have table : seen ++ [(id, record)] ++ indexed records = seen ++ indexed (record :: records) := by
              rw [List.append_assoc, indexed, indexed, List.map_cons, same]
              rfl
            have ih := ih _ next
            rw [keys, table] at ih
            refine ih.imp (fun ⟨others, distinct, done⟩ => ⟨⟨nofun, others⟩, distinct, done⟩) ?_
            exact fun ⟨fails, failed⟩ => ⟨fun both => fails ⟨both.1.2, both.2⟩, failed⟩

theorem predecessorsKnown_cases (ids : List String) (table : List (String × Record)) :
    ((∀ entry ∈ table, ∀ predecessor, supersedesId entry.2 = some predecessor → predecessor ∈ ids) ∧
        predecessorsKnown ids table = .ok ()) ∨
      ((¬∀ entry ∈ table, ∀ predecessor, supersedesId entry.2 = some predecessor → predecessor ∈ ids) ∧
        ∃ message, predecessorsKnown ids table = .error (.blocked message)) := by
  induction table with
  | nil => exact Or.inl ⟨fun _ inside => absurd inside List.not_mem_nil, rfl⟩
  | cons entry table ih =>
      rw [predecessorsKnown, List.forall_mem_cons]
      cases supersedesId entry.2 with
      | none =>
          refine ih.imp (fun ⟨others, done⟩ => ⟨⟨nofun, others⟩, done⟩) ?_
          exact fun ⟨fails, failed⟩ => ⟨fun both => fails both.2, failed⟩
      | some predecessor =>
          dsimp only
          split
          · rename_i known
            have here (other : String) (same : some predecessor = some other) : other ∈ ids :=
              Option.some.inj same ▸ known
            refine ih.imp (fun ⟨others, done⟩ => ⟨⟨here, others⟩, done⟩) ?_
            exact fun ⟨fails, failed⟩ => ⟨fun both => fails both.2, failed⟩
          · rename_i missing
            exact Or.inr ⟨fun both => missing (both.1 _ rfl), _, rfl⟩

section Walk

variable {records : List Record}

theorem find_indexed (distinct : (records.map identity).Nodup) {record : Record}
    (inside : record ∈ records) : ((indexed records).find? fun entry => entry.1 = identity record) =
      some (identity record, record) := by
  induction records with
  | nil => cases inside
  | cons first records ih =>
      obtain ⟨fresh, distinct⟩ := List.nodup_cons.mp distinct
      rw [indexed, List.map_cons]
      rcases List.mem_cons.mp inside with same | later
      · rw [same]
        exact List.find?_cons_of_pos (by exact decide_eq_true rfl)
      · have apart : identity first ≠ identity record :=
          fun same => fresh (same ▸ List.mem_map_of_mem later)
        refine (List.find?_cons_of_neg ?_).trans (ih distinct later)
        exact fun holds => apart (of_decide_eq_true holds)

theorem mem_indexed {entry : String × Record} (inside : entry ∈ indexed records) :
    entry.2 ∈ records ∧ entry.1 = identity entry.2 := by
  obtain ⟨record, member, rfl⟩ := List.mem_map.mp inside
  exact ⟨member, rfl⟩

/-- What a walk visits is a linked line that ends where the walk began. -/
theorem walk_sound {visited result : List String} {cursor : Option String}
    (done : walk (indexed records) visited cursor = .ok result) :
    ∃ line, (∀ record ∈ line, record ∈ records) ∧ result = line.map identity ++ visited ∧
      Linked identity supersedesId none line ∧ tip identity none line = cursor ∧
      (line.map identity).Nodup ∧ ∀ id ∈ line.map identity, id ∉ visited := by
  induction visited, cursor using walk.induct (indexed records) with
  | case1 visited =>
      rw [walk] at done
      cases done
      exact ⟨[], fun _ inside => absurd inside List.not_mem_nil, rfl, trivial, rfl, List.nodup_nil,
        fun _ inside => absurd inside List.not_mem_nil⟩
  | case2 visited id again =>
      rw [walk, if_pos again] at done
      cases done
  | case3 visited id fresh absent =>
      rw [walk, if_neg fresh] at done
      split at done
      · cases done
      · rename_i found
        cases absent.symm.trans found
  | case4 visited id fresh key record found ih =>
      rw [walk, if_neg fresh] at done
      split at done
      · rename_i absent
        cases absent.symm.trans found
      · rename_i other there
        cases found.symm.trans there
        obtain ⟨line, inside, rfl, linked, last, distinct, apart⟩ := ih done
        obtain ⟨member, named⟩ := mem_indexed (List.mem_of_find?_eq_some found)
        have holds := List.find?_some found
        have same : identity record = id := named.symm.trans (of_decide_eq_true holds)
        have own : id ∉ line.map identity := fun again => apart id again List.mem_cons_self
        refine ⟨line ++ [record], ?_, ?_, linked_snoc.mpr ⟨linked, last.symm⟩, ?_, ?_, ?_⟩
        · intro other there
          rcases List.mem_append.mp there with earlier | single
          · exact inside other earlier
          · exact List.mem_singleton.mp single ▸ member
        · rw [List.map_append, List.map_singleton, List.append_assoc, same]
          rfl
        · rw [tip_append_singleton, same]
        · rw [List.map_append, List.map_singleton, same, List.nodup_append]
          refine ⟨distinct, List.nodup_cons.mpr ⟨List.not_mem_nil, List.nodup_nil⟩, ?_⟩
          intro a there b single equal
          rw [equal, List.mem_singleton.mp single] at there
          exact own there
        · intro other there
          rw [List.map_append, List.map_singleton, same] at there
          rcases List.mem_append.mp there with earlier | single
          · exact fun again => apart other earlier (List.mem_cons_of_mem _ again)
          · exact List.mem_singleton.mp single ▸ fresh

/-- A walk back from the end of a linked line visits the line. -/
theorem walk_complete (known : (records.map identity).Nodup) {line : List Record}
    (inside : ∀ record ∈ line, record ∈ records) (linked : Linked identity supersedesId none line)
    {visited : List String} (distinct : (line.map identity ++ visited).Nodup) :
    walk (indexed records) visited (tip identity none line) = .ok (line.map identity ++ visited) := by
  induction line using List.reverseRecOn generalizing visited with
  | nil =>
      rw [tip_nil, walk]
      rfl
  | append_singleton line record ih =>
      obtain ⟨linked, named⟩ := linked_snoc.mp linked
      rw [List.map_append, List.map_singleton, List.append_assoc, List.singleton_append] at distinct
      have fresh : identity record ∉ visited :=
        (List.nodup_cons.mp (List.nodup_append.mp distinct).2.1).1
      have found := find_indexed known (inside record (List.mem_append_right _ List.mem_cons_self))
      rw [tip_append_singleton, walk, if_neg fresh]
      split
      · rename_i absent
        cases absent.symm.trans found
      · rename_i other there
        cases found.symm.trans there
        rw [named, ih (fun other there => inside other (List.mem_append_left _ there)) linked distinct,
          List.map_append, List.map_singleton, List.append_assoc, List.singleton_append]

theorem walk_error {visited : List String} {cursor : Option String} {raised : Raised}
    (closed : ∀ entry ∈ indexed records, ∀ predecessor, supersedesId entry.2 = some predecessor →
      predecessor ∈ records.map identity)
    (known : ∀ id, cursor = some id → id ∈ records.map identity)
    (failed : walk (indexed records) visited cursor = .error raised) :
    ∃ message, raised = .blocked message := by
  induction visited, cursor using walk.induct (indexed records) with
  | case1 visited =>
      rw [walk] at failed
      cases failed
  | case2 visited id again =>
      rw [walk, if_pos again] at failed
      cases failed
      exact ⟨_, rfl⟩
  | case3 visited id fresh absent =>
      rw [← indexed_ids] at known
      obtain ⟨entry, inside, same⟩ := List.mem_map.mp (known id rfl)
      exact absurd (decide_eq_true same) (List.find?_eq_none.mp absent entry inside)
  | case4 visited id fresh key record found ih =>
      rw [walk, if_neg fresh] at failed
      split at failed
      · rename_i absent
        cases absent.symm.trans found
      · rename_i other there
        cases found.symm.trans there
        exact ih (closed _ (List.mem_of_find?_eq_some found)) failed

end Walk

/-- The records have distinct identities and are one line of supersessions, and this is its last. -/
structure Heads (eligible : List Record) (head : Record) : Prop where
  named : ∀ record ∈ eligible, recordId record ≠ none
  distinct : (eligible.map identity).Nodup
  line : ∃ line, line.Perm eligible ∧ Linked identity supersedesId none line ∧ line.getLast? = some head

theorem eq_of_identity {eligible : List Record} (distinct : (eligible.map identity).Nodup)
    {a b : Record} (left : a ∈ eligible) (right : b ∈ eligible) (same : identity a = identity b) : a = b :=
  List.inj_on_of_nodup_map distinct left right same

/-- Of a line the last record alone is superseded by none. -/
theorem Heads.unsuperseded {eligible : List Record} {head : Record} (heads : Heads eligible head)
    {record : Record} (inside : record ∈ eligible) :
    (∀ other ∈ eligible, supersedesId other ≠ some (identity record)) ↔ record = head := by
  obtain ⟨line, perm, linked, last⟩ := heads.line
  obtain ⟨front, rfl⟩ := List.getLast?_eq_some_iff.mp last
  have distinct : ((front ++ [head]).map identity).Nodup :=
    (perm.map identity).nodup_iff.mpr heads.distinct
  constructor
  · intro unnamed
    rcases List.mem_append.mp (perm.mem_iff.mpr inside) with earlier | single
    · obtain ⟨before, after, rfl⟩ := List.append_of_mem earlier
      rw [List.append_assoc, List.cons_append] at linked
      obtain ⟨other, later, names⟩ :=
        linked.named_of_append (List.append_ne_nil_of_right_ne_nil _ (List.cons_ne_nil head []))
      refine absurd names (unnamed other (perm.mem_iff.mp ?_))
      rw [List.append_assoc, List.cons_append]
      exact List.mem_append_right _ (List.mem_cons_of_mem _ later)
    · exact List.mem_singleton.mp single
  · intro same other there names
    subst same
    obtain ⟨before, after, split⟩ := List.append_of_mem (perm.mem_iff.mpr there)
    rw [split] at linked distinct
    have own : supersedesId other = tip identity none before := (linked_append.mp linked).2.1
    rw [own] at names
    rcases List.eq_nil_or_concat before with rfl | ⟨earlier, previous, rfl⟩
    · cases names
    · rw [List.concat_eq_append, tip_append_singleton, Option.some.injEq] at names
      have previous_in : previous ∈ eligible := by
        refine perm.mem_iff.mp (split ▸ List.mem_append_left _ ?_)
        rw [List.concat_eq_append]
        exact List.mem_append_right _ List.mem_cons_self
      have again := eq_of_identity heads.distinct previous_in inside names
      have last' : record ∈ other :: after := by
        have there : (earlier.concat previous ++ other :: after).getLast? = some record := split ▸ last
        rw [List.getLast?_append_of_ne_nil _ (List.cons_ne_nil other after)] at there
        exact List.mem_of_getLast? there
      rw [List.map_append, List.nodup_append] at distinct
      refine distinct.2.2 (identity previous) ?_ (identity record) (List.mem_map_of_mem last') names
      rw [List.concat_eq_append, List.map_append]
      exact List.mem_append_right _ List.mem_cons_self

/-- The identities that nothing eligible supersedes. -/
def headIds (eligible : List Record) : List String :=
  (eligible.map identity).filter fun id => id ∉ (indexed eligible).filterMap fun entry => supersedesId entry.2

theorem mem_headIds {eligible : List Record} {id : String} : id ∈ headIds eligible ↔
    id ∈ eligible.map identity ∧ ∀ other ∈ eligible, supersedesId other ≠ some id := by
  rw [headIds, List.mem_filter, decide_eq_true_iff, List.mem_filterMap]
  refine and_congr_right fun _ => ?_
  constructor
  · intro unnamed other inside names
    exact unnamed ⟨(identity other, other), List.mem_map_of_mem inside, names⟩
  · intro unnamed ⟨entry, inside, names⟩
    exact unnamed entry.2 (mem_indexed inside).1 names

theorem chainHead_eq {eligible : List Record} (some_ : eligible ≠ [])
    (named : ∀ record ∈ eligible, recordId record ≠ none) (distinct : (eligible.map identity).Nodup)
    (closed : ∀ entry ∈ indexed eligible, ∀ predecessor, supersedesId entry.2 = some predecessor →
      predecessor ∈ eligible.map identity) :
    chainHead eligible = match headIds eligible with
      | [head] => do
          let visited ← walk (indexed eligible) [] (some head)
          require (visited ⊆ eligible.map identity ∧ eligible.map identity ⊆ visited)
            (.blocked "strict-known authority history is not one complete chain")
          match (indexed eligible).find? fun entry => entry.1 = head with
          | some (_, record) => .ok record
          | none => .error .keyError
      | _ => .error (.blocked "strict-known authority history has divergent heads") := by
  have table : byId [] eligible = .ok (indexed eligible) := by
    rcases byId_cases [] eligible List.nodup_nil with ⟨-, -, done⟩ | ⟨fails, -⟩
    · exact done
    · exact absurd ⟨named, distinct⟩ fails
  have known : predecessorsKnown (eligible.map identity) (indexed eligible) = .ok () := by
    rcases predecessorsKnown_cases (eligible.map identity) (indexed eligible) with ⟨-, done⟩ | ⟨fails, -⟩
    · exact done
    · exact absurd closed fails
  rw [chainHead, require_of (List.isEmpty_eq_false_iff.mpr some_), ok_bind, table, ok_bind]
  dsimp only
  rw [indexed_ids, known, ok_bind]
  rfl

theorem Heads.closed {eligible : List Record} {head : Record} (heads : Heads eligible head) :
    ∀ entry ∈ indexed eligible, ∀ predecessor, supersedesId entry.2 = some predecessor →
      predecessor ∈ eligible.map identity := by
  intro entry inside predecessor names
  obtain ⟨line, perm, linked, -⟩ := heads.line
  rcases linked.parent_mem (perm.mem_iff.mpr (mem_indexed inside).1) with root | ⟨other, there, same⟩
  · cases names.symm.trans root
  · cases names.symm.trans same
    exact List.mem_map_of_mem (perm.mem_iff.mp there)

theorem Heads.headIds {eligible : List Record} {head : Record} (heads : Heads eligible head) :
    headIds eligible = [identity head] := by
  obtain ⟨line, perm, -, last⟩ := heads.line
  have inside := perm.mem_iff.mp (List.mem_of_getLast? last)
  refine List.perm_singleton.mp ((List.perm_ext_iff_of_nodup (heads.distinct.filter _) ?_).mpr fun id => ?_)
  · exact List.nodup_cons.mpr ⟨List.not_mem_nil, List.nodup_nil⟩
  · rw [← SourceHandling.headIds, mem_headIds, List.mem_singleton]
    constructor
    · intro ⟨known, unnamed⟩
      obtain ⟨record, there, rfl⟩ := List.mem_map.mp known
      rw [(heads.unsuperseded there).mp unnamed]
    · intro same
      rw [same]
      exact ⟨List.mem_map_of_mem inside, (heads.unsuperseded inside).mpr rfl⟩

/-- A line of the eligible records gives its last one. -/
theorem chainHead_of_heads {eligible : List Record} {head : Record} (heads : Heads eligible head) :
    chainHead eligible = .ok head := by
  obtain ⟨line, perm, linked, last⟩ := heads.line
  have inside := perm.mem_iff.mp (List.mem_of_getLast? last)
  have distinct : (line.map identity ++ []).Nodup := by
    rw [List.append_nil]
    exact (perm.map identity).nodup_iff.mpr heads.distinct
  have end_ : tip identity none line = some (identity head) := by
    rw [tip, last]
    rfl
  have walked := walk_complete heads.distinct (fun record there => perm.mem_iff.mp there) linked distinct
  rw [end_, List.append_nil] at walked
  rw [chainHead_eq (List.ne_nil_of_mem inside) heads.named heads.distinct heads.closed, heads.headIds]
  dsimp only
  rw [walked, ok_bind, require_of ⟨(perm.map identity).subset, (perm.map identity).symm.subset⟩, ok_bind,
    find_indexed heads.distinct inside]

/-- A head that is returned is the last of a line of all eligible records, and what is raised
otherwise is the refusal. -/
theorem chainHead_cases (eligible : List Record) :
    (∃ head, chainHead eligible = .ok head ∧ Heads eligible head) ∨
      ∃ message, chainHead eligible = .error (.blocked message) := by
  by_cases empty : eligible = []
  · subst empty
    exact Or.inr ⟨_, rfl⟩
  have first : require (eligible.isEmpty = false)
      (Raised.blocked "no strict-known authority head") = .ok () :=
    require_of (List.isEmpty_eq_false_iff.mpr empty)
  rcases byId_cases [] eligible List.nodup_nil with ⟨named, distinct, table⟩ | ⟨-, message, failed⟩
  swap
  · refine Or.inr ⟨message, ?_⟩
    rw [chainHead, first, ok_bind, failed, error_bind]
  rcases predecessorsKnown_cases (eligible.map identity) (indexed eligible) with
    ⟨closed, known⟩ | ⟨-, message, failed⟩
  swap
  · refine Or.inr ⟨message, ?_⟩
    rw [chainHead, first, ok_bind, table, ok_bind]
    dsimp only [List.nil_append]
    rw [indexed_ids, failed, error_bind]
  have distinct : (eligible.map identity).Nodup := distinct
  rw [chainHead_eq empty named distinct closed]
  split
  · rename_i head single
    have head_in : head ∈ headIds eligible := single ▸ List.mem_cons_self
    obtain ⟨record, inside, rfl⟩ := List.mem_map.mp (mem_headIds.mp head_in).1
    cases walked : walk (indexed eligible) [] (some (identity record)) with
    | error raised =>
        obtain ⟨message, rfl⟩ := walk_error closed (fun id same => Option.some.inj same ▸
          (mem_headIds.mp head_in).1) walked
        exact Or.inr ⟨message, rfl⟩
    | ok visited =>
        rw [ok_bind, find_indexed distinct inside]
        by_cases complete : visited ⊆ eligible.map identity ∧ eligible.map identity ⊆ visited
        · rw [require_of complete, ok_bind]
          refine Or.inl ⟨record, rfl, named, distinct, ?_⟩
          obtain ⟨line, members, rfl, linked, last, own, -⟩ := walk_sound walked
          rw [List.append_nil] at complete
          have perm : line.Perm eligible := by
            refine (List.perm_ext_iff_of_nodup own.of_map distinct.of_map).mpr fun other =>
              ⟨members other, fun there => ?_⟩
            obtain ⟨same, found, equal⟩ := List.mem_map.mp (complete.2 (List.mem_map_of_mem there))
            exact eq_of_identity distinct (members same found) there equal ▸ found
          refine ⟨line, perm, linked, ?_⟩
          rw [tip, Option.or_none, Option.map_eq_some_iff] at last
          obtain ⟨end_, last, same⟩ := last
          have there := members end_ (List.mem_of_getLast? last)
          rw [last, eq_of_identity distinct there inside same]
        · exact Or.inr ⟨_, by rw [require, if_neg complete, error_bind]⟩
  · exact Or.inr ⟨_, rfl⟩

/-- In every order of the records a head is returned just of a line of the eligible ones, it is the
record that none of them supersedes, and nothing but the refusal is raised. -/
def Exact (clocks : Clocks) (records : List Record) (cutoff : Cutoff) (scope : String) : Prop :=
  ∀ arranged, arranged.Perm records →
    (∀ head, strictKnownHead clocks arranged cutoff scope = .ok head ↔
      Heads (eligibleRecords clocks cutoff scope records) head) ∧
    (∀ head, strictKnownHead clocks arranged cutoff scope = .ok head →
      ∀ record ∈ eligibleRecords clocks cutoff scope records,
        (∀ other ∈ eligibleRecords clocks cutoff scope records,
          supersedesId other ≠ some (identity record)) ↔ record = head) ∧
    ∀ raised, strictKnownHead clocks arranged cutoff scope = .error raised →
      ∃ message, raised = .blocked message

theorem Heads.perm {eligible arranged : List Record} {head : Record} (perm : arranged.Perm eligible)
    (heads : Heads arranged head) : Heads eligible head := by
  obtain ⟨line, same, linked, last⟩ := heads.line
  exact ⟨fun record inside => heads.named record (perm.mem_iff.mpr inside),
    (perm.map identity).nodup_iff.mp heads.distinct, line, same.trans perm, linked, last⟩

theorem chainHead_ok {eligible : List Record} {head : Record} :
    chainHead eligible = .ok head ↔ Heads eligible head := by
  refine ⟨fun done => ?_, chainHead_of_heads⟩
  rcases chainHead_cases eligible with ⟨other, same, heads⟩ | ⟨message, failed⟩
  · cases done.symm.trans same
    exact heads
  · cases done.symm.trans failed

/-- The head is exact just where every time that is looked at can be converted and compared. -/
theorem strictKnownHead_exact (clocks : Clocks) (records : List Record) (cutoff : Cutoff)
    (scope : String) :
    Exact clocks records cutoff scope ↔ ∀ record ∈ records, InScope scope record →
      TimesReadable clocks record cutoff (timeFields record) := by
  constructor
  · intro exact_
    rcases @eligibleOf_cases clocks cutoff scope records with
      ⟨readable, -⟩ | ⟨-, raised, failed, other⟩
    · exact readable
    · have raises : strictKnownHead clocks records cutoff scope = .error raised := by
        rw [strictKnownHead, failed, error_bind]
      obtain ⟨message, same⟩ := (exact_ records (.refl _)).2.2 raised raises
      exact absurd same (other message)
  · intro readable arranged perm
    have eligible : strictKnownHead clocks arranged cutoff scope =
        chainHead (eligibleRecords clocks cutoff scope arranged) := by
      rcases @eligibleOf_cases clocks cutoff scope arranged with
        ⟨-, done⟩ | ⟨unreadable, -⟩
      · rw [strictKnownHead, done, ok_bind]
      · exact absurd (fun record inside => readable record (perm.mem_iff.mp inside)) unreadable
    have same : (eligibleRecords clocks cutoff scope arranged).Perm
        (eligibleRecords clocks cutoff scope records) := perm.filter _
    have heads (head : Record) : strictKnownHead clocks arranged cutoff scope = .ok head ↔
        Heads (eligibleRecords clocks cutoff scope records) head := by
      rw [eligible, chainHead_ok]
      exact ⟨Heads.perm same, Heads.perm same.symm⟩
    refine ⟨heads, fun head done record inside => ((heads head).mp done).unsuperseded inside, ?_⟩
    intro raised failed
    rcases chainHead_cases (eligibleRecords clocks cutoff scope arranged) with
      ⟨head, done, -⟩ | ⟨message, refused⟩
    · rw [eligible, done] at failed
      cases failed
    · rw [eligible, refused] at failed
      exact ⟨message, (Except.error.inj failed).symm⟩

/-- A machine whose clock runs in UTC. -/
def utcClocks : Clocks := ⟨fromisoformat, .ok⟩

/-- A record whose first time lies before the calendar in UTC. -/
def earlyRecord : Record := [("id", .text "rule-1"), ("scope", .text "SOURCE_HANDLING"),
  ("effective_from", .text "0001-01-01T00:00:00+05:00")]

def sampleCutoff : Cutoff := ⟨⟨63871804800000000, by decide⟩, some 0⟩

/-- The conversion of such a time overflows, and that is not caught. -/
theorem strictKnownHead_exact_fails : ¬∀ clocks records cutoff scope,
    Exact clocks records cutoff scope := by
  intro claim
  have read : asDatetime utcClocks (some (.text "0001-01-01T00:00:00+05:00")) =
      .error (.clock .overflowError) := by decide
  have raised : strictKnownHead utcClocks [earlyRecord] sampleCutoff "SOURCE_HANDLING" =
      .error (.clock .overflowError) := by
    have times : strictKnownEligible utcClocks earlyRecord sampleCutoff = .error (.clock .overflowError) := by
      rw [strictKnownEligible, timeFields, List.cons_append, timesKnown]
      exact congrArg (· >>= _) read
    have within : (match earlyRecord.get? "scope" with
        | some (.text text) => decide (text = "SOURCE_HANDLING")
        | _ => false) = true := rfl
    rw [strictKnownHead, eligibleOf, if_pos within, times]
    rfl
  obtain ⟨message, blocked⟩ := (claim utcClocks [earlyRecord] sampleCutoff "SOURCE_HANDLING" _
    (.refl _)).2.2 _ raised
  cases blocked

end Hunter.SourceHandling
