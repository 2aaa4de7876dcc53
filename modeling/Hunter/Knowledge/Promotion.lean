import Hunter.Data.Fallible
import Hunter.Json.Text
import Hunter.Machine.Run
import Hunter.Text.Timestamp

/-!
The promotion of proven findings into the defect registry. A finding extends the evidence of a
family that is there, or founds the next family, and is recorded with the family it belongs to. A
family identity has three digits, and the one after the last of them is not recognised again.
-/

namespace Hunter.Promotion

open Calendar Fallible

inductive Raised where
  | refused (message : String)
  | indexError
  | typeError
  deriving DecidableEq, Repr

structure Provenance where
  pullRequestNumber : Int
  reviewedHeadSha : String
  reviewer : String
  commentId : Int

structure NewFamily where
  title : String
  invariant : String
  changedPaths : List String

inductive Target where
  | family (familyId : String)
  | newFamily (proposal : NewFamily)

/-- A proven finding. -/
structure Entry where
  findingId : String
  guardPath : String
  regressionTests : List String
  provenance : Provenance
  target : Target

/-- The two governed files. -/
structure Documents where
  registry : Json
  dispositions : Json
  deriving DecidableEq

/-- `_FAMILY.fullmatch`. -/
def familyNumber (id : String) : Option Nat :=
  match id.scalars with
  | ['D', 'F', 'F', '-', a, b, c] => digits? [a, b, c]
  | _ => none

/-- The number of a family. -/
def numberOf (family : Json) : Option Nat :=
  match family.get? "id" with
  | some (.str id) => familyNumber id
  | _ => none

/-- At least three digits. -/
def threeDigits (n : Nat) : List Char := if n < 1000 then padded 3 n else Nat.toDigits 10 n

def familyIdOf (n : Nat) : String := String.ofList ('D' :: 'F' :: 'F' :: '-' :: threeDigits n)

/-- `next_family_id`. -/
def nextFamilyId (families : List Json) : Except Raised String :=
  match (families.filterMap numberOf).max? with
  | some highest => .ok (familyIdOf (highest + 1))
  | none => .error (.refused "the canonical registry carries no family identity")

/-- The items of a value. -/
def iterate : Json → Except Raised (List Json)
  | .arr items => .ok items
  | .obj fields => .ok (fields.map fun field => .str field.1)
  | .str text => .ok (text.scalars.map fun c => .str (String.ofList [c]))
  | _ => .error .typeError

/-- The texts of the evidence that a family has. -/
def evidenceOf (family : Json) : Except Raised (List String) := do
  let items ← iterate (Json.orElse (family.get? "regression_evidence") (.arr []))
  .ok (items.filterMap fun item => match item with
    | .str text => some text
    | _ => none)

def texts (items : List String) : Json := .arr (items.map .str)

def isFamily (familyId : String) (family : Json) : Bool :=
  match family with
  | .obj fields => Json.lookup "id" fields = some (.str familyId)
  | _ => false

/-- `family["regression_evidence"] = evidence`. -/
def withEvidence (evidence : List String) : Json → Json
  | .obj fields => .obj (Json.place "regression_evidence" (texts evidence) fields)
  | family => family

/-- The first family of the identity with the tests that its evidence lacks. -/
def extendFamily (familyId : String) (tests : List String) : List Json → Except Raised (List Json)
  | [] => .error (.refused ("the proven family " ++ familyId ++ " does not exist at the reviewed head"))
  | family :: families =>
      if isFamily familyId family then do
        let evidence ← evidenceOf family
        .ok (withEvidence (evidence ++ tests.filter (· ∉ evidence)) family :: families)
      else (family :: ·) <$> extendFamily familyId tests families

def twelve (text : String) : String := String.ofList (text.scalars.take 12)

def sortedTexts (items : List String) : List String := items.dedup.mergeSort fun a b => a ≤ b

/-- The family that a finding founds. -/
def foundedFamily (familyId : String) (proposal : NewFamily) (entry : Entry) : Json := .obj [
  ("id", .str familyId),
  ("title", .str proposal.title),
  ("invariant", .str proposal.invariant),
  ("applicability", .obj [
    ("changed_paths", texts (sortedTexts proposal.changedPaths)),
    ("rationale", .str ("Proven by reviewer finding " ++ entry.findingId ++ " on PR " ++
      toString entry.provenance.pullRequestNumber ++ " at " ++ twelve entry.provenance.reviewedHeadSha ++
      ": the guard surface is " ++ entry.guardPath ++ "."))]),
  ("prevention", .obj [
    ("mechanism", .str ("ADR 0039 L3.2 (RD-1): the invariant is proven by a RED->GREEN regression added " ++
      "for reviewer finding " ++ entry.findingId ++ " and enforced by the ordinary pre-push safety boundary.")),
    ("boundary", .str "review")]),
  ("regression_evidence", texts entry.regressionTests),
  ("lifecycle", .str "regression-tested"),
  ("sources", .arr [.str ("PR #" ++ toString entry.provenance.pullRequestNumber ++ " " ++
    entry.provenance.reviewer ++ " finding " ++ entry.findingId ++ " (comment " ++
    toString entry.provenance.commentId ++ ") at " ++ twelve entry.provenance.reviewedHeadSha ++
    ", remediated and proven under ADR 0039.")])]

/-- `_promote_family`. -/
def promoteFamily (families : List Json) (entry : Entry) : Except Raised (List Json × String) :=
  match entry.target with
  | .family familyId => do
      let extended ← extendFamily familyId entry.regressionTests families
      .ok (extended, familyId)
  | .newFamily proposal => do
      let familyId ← nextFamilyId families
      .ok (families ++ [foundedFamily familyId proposal entry], familyId)

def classification : Target → String
  | .newFamily _ => "new_systemic_defect"
  | .family _ => "recurrence"

/-- `str(entry.get("new_family", {}).get("title") or family_id)`. -/
def familyTitle (familyId : String) : Target → String
  | .newFamily proposal => if proposal.title ≠ "" then proposal.title else familyId
  | .family _ => familyId

/-- `_append_disposition`. -/
def dispositionRecord (entry : Entry) (familyId : String) : Except Raised Json :=
  match entry.regressionTests with
  | [] => .error .indexError
  | test :: _ => .ok (.obj [
      ("id", .str ("RFD-" ++ toString entry.provenance.pullRequestNumber ++ "-" ++ twelve entry.findingId)),
      ("source_provenance", .obj [
        ("reviewer", .str entry.provenance.reviewer),
        ("pr_number", .int entry.provenance.pullRequestNumber),
        ("reference", .str ("PR #" ++ toString entry.provenance.pullRequestNumber ++ " review comment " ++
          toString entry.provenance.commentId ++ " at head " ++ entry.provenance.reviewedHeadSha))]),
      ("validation_state", .str "validated"),
      ("classification", .str (classification entry.target)),
      ("mapped_defect_id", .str familyId),
      ("mapped_defect_class", .str (familyTitle familyId entry.target)),
      ("resolution_state", .str "resolved"),
      ("permanent_disposition_evidence", .str (entry.guardPath ++ ": proven by RED->GREEN regression " ++
        ", ".intercalate entry.regressionTests ++ " under ADR 0039 L3.2 at remediated head evidence " ++
        twelve entry.provenance.reviewedHeadSha ++ ".")),
      ("guard_reference", .str entry.guardPath),
      ("test_reference", .str test)])

/-- The entries in their order, on the families and the findings. -/
def promoteEntries : (families findings : List Json) → List Entry → Except Raised (List Json × List Json)
  | families, findings, [] => .ok (families, findings)
  | families, findings, entry :: entries => do
      let (families, familyId) ← promoteFamily families entry
      let record ← dispositionRecord entry familyId
      promoteEntries families (findings ++ [record]) entries

/-- `promotion_delta`, on the documents. -/
def promotionDelta (documents : Documents) (entries : List Entry) : Except Raised Documents := do
  require (entries.isEmpty = false)
    (.refused "a promotion delta must name at least one proven finding")
  require ((entries.map Entry.findingId).Pairwise fun a b => a < b)
    (.refused "the promotion entries are not unique and sorted by finding id")
  match documents.registry, documents.dispositions with
  | .obj registry, .obj dispositions =>
      match Json.lookup "families" registry, Json.lookup "findings" dispositions with
      | some (.arr families), some (.arr findings) => do
          let (families, findings) ← promoteEntries families findings entries
          .ok ⟨.obj (Json.place "families" (.arr families) registry),
            .obj (Json.place "findings" (.arr findings) dispositions)⟩
      | _, _ => .error (.refused "the canonical promotion files do not carry the expected shapes")
  | _, _ => .error (.refused "the canonical promotion files do not carry the expected shapes")

def familyId (family : Json) : Option String :=
  match family.get? "id" with
  | some (.str id) => some id
  | _ => none

/-- Distinct identities that are recognised, on mappings as they are loaded. -/
structure WellFormed (families : List Json) : Prop where
  mappings : ∀ family ∈ families, ∃ fields, family = .obj fields ∧ (fields.map Prod.fst).Nodup
  recognised : ∀ family ∈ families, (numberOf family).isSome
  unique : (families.map familyId).Nodup

def evidenceItems (family : Json) : List Json :=
  match family.get? "regression_evidence" with
  | some (.arr items) => items
  | _ => []

/-- The evidence that counts is a list of texts. -/
def EvidenceTexts (family : Json) : Prop :=
  ∃ evidence, Json.orElse (family.get? "regression_evidence") (.arr []) = texts evidence

/-- The family that a target names. -/
def Target.names : Target → List String
  | .family id => [id]
  | .newFamily _ => []

/-- The number of families that a target founds. -/
def Target.founds : Target → Nat
  | .family _ => 0
  | .newFamily _ => 1

def named (entries : List Entry) : List String := entries.flatMap fun entry => entry.target.names

def founded (entries : List Entry) : Nat := (entries.map fun entry => entry.target.founds).sum

/-- No identity comes after the last of three digits, and the named evidence is made of texts. -/
structure Room (families : List Json) (entries : List Entry) : Prop where
  identities : ∀ n ∈ families.filterMap numberOf, n + founded entries ≤ 999
  evidence : ∀ family ∈ families, ∀ id ∈ named entries, familyId family = some id → EvidenceTexts family

/-- A family changes in its evidence only, which loses nothing, and only where it is named. -/
structure Evolves (names : List String) (old new : Json) : Prop where
  others : ∀ key, key ≠ "regression_evidence" → new.get? key = old.get? key
  unnamed : (∀ id, familyId old = some id → id ∉ names) → new = old
  kept : ∀ item ∈ evidenceItems old, item ∈ evidenceItems new

theorem Evolves.refl (names : List String) (family : Json) : Evolves names family family :=
  ⟨fun _ _ => rfl, fun _ => rfl, fun _ inside => inside⟩

theorem Evolves.familyId {names : List String} {old new : Json} (evolves : Evolves names old new) :
    familyId new = familyId old := by
  rw [Promotion.familyId, Promotion.familyId, evolves.others "id" (by decide)]

theorem Evolves.trans {names later all : List String} {a b c : Json} (first : Evolves names a b)
    (second : Evolves later b c) (left : names ⊆ all) (right : later ⊆ all) : Evolves all a c := by
  refine ⟨fun key other => (second.others key other).trans (first.others key other), fun unnamed => ?_,
    fun item inside => second.kept item (first.kept item inside)⟩
  have same := first.unnamed fun id known inside => unnamed id known (left inside)
  subst same
  exact second.unnamed fun id known inside => unnamed id known (right inside)

theorem forall₂_append_left {α β : Type} {R : α → β → Prop} {xs ys : List α} {zs : List β}
    (all : List.Forall₂ R (xs ++ ys) zs) :
    ∃ as bs, zs = as ++ bs ∧ List.Forall₂ R xs as ∧ List.Forall₂ R ys bs := by
  induction xs generalizing zs with
  | nil => exact ⟨[], zs, rfl, .nil, all⟩
  | cons x xs ih =>
      cases all with
      | cons related rest =>
          obtain ⟨as, bs, rfl, left, right⟩ := ih rest
          exact ⟨_ :: as, bs, rfl, .cons related left, right⟩

theorem forall₂_trans {names later all : List String} {xs ys zs : List Json}
    (first : List.Forall₂ (Evolves names) xs ys) (second : List.Forall₂ (Evolves later) ys zs)
    (left : names ⊆ all) (right : later ⊆ all) : List.Forall₂ (Evolves all) xs zs := by
  induction first generalizing zs with
  | nil =>
      cases second
      exact .nil
  | cons related rest ih =>
      cases second with
      | cons related' rest' => exact .cons (related.trans related' left right) (ih rest')

theorem forall₂_refl (names : List String) (families : List Json) :
    List.Forall₂ (Evolves names) families families :=
  List.forall₂_same.mpr fun family _ => .refl names family

theorem forall₂_map {β : Type} {names : List String} {xs ys : List Json} {f : Json → β}
    (respects : ∀ old new, Evolves names old new → f new = f old)
    (all : List.Forall₂ (Evolves names) xs ys) : ys.map f = xs.map f := by
  induction all with
  | nil => rfl
  | cons related rest ih => rw [List.map_cons, List.map_cons, respects _ _ related, ih]

theorem numberOf_eq (family : Json) : numberOf family = (familyId family).bind familyNumber := by
  rw [numberOf, familyId]
  split <;> rfl

theorem forall₂_ids {names : List String} {xs ys : List Json}
    (all : List.Forall₂ (Evolves names) xs ys) : ys.map familyId = xs.map familyId :=
  forall₂_map (fun _ _ evolves => evolves.familyId) all

theorem forall₂_numbers {names : List String} {xs ys : List Json}
    (all : List.Forall₂ (Evolves names) xs ys) : ys.map numberOf = xs.map numberOf := by
  refine forall₂_map (fun old new evolves => ?_) all
  rw [numberOf_eq, numberOf_eq, evolves.familyId]

theorem familyNumber_familyIdOf {n : Nat} (small : n < 1000) : familyNumber (familyIdOf n) = some n := by
  have length := padded_length 3 n
  have digits : digits? (padded 3 n) = some n := digits?_padded small
  rw [familyNumber, familyIdOf, String.scalars_ofList, threeDigits, if_pos small]
  match shape : padded 3 n, length with
  | [a, b, c], _ =>
      rw [shape] at digits
      exact digits

/-- The next identity is recognised, and no family has it. -/
theorem nextFamilyId_fresh {families : List Json} {id : String}
    (room : ∀ n ∈ families.filterMap numberOf, n + 1 ≤ 999) (next : nextFamilyId families = .ok id) :
    some id ∉ families.map familyId ∧ ∃ highest ∈ families.filterMap numberOf,
      familyNumber id = some (highest + 1) := by
  unfold nextFamilyId at next
  split at next
  · rename_i highest max
    cases next
    obtain ⟨inside, least⟩ := List.max?_eq_some_iff.mp max
    have small := room highest inside
    have number := familyNumber_familyIdOf (n := highest + 1) (by omega)
    refine ⟨fun again => ?_, highest, inside, number⟩
    obtain ⟨family, inside, same⟩ := List.mem_map.mp again
    have taken : numberOf family = some (highest + 1) := by
      rw [numberOf_eq, same]
      exact number
    have bound := least (highest + 1) (List.mem_filterMap.mpr ⟨family, inside, taken⟩)
    omega
  · cases next

theorem get?_withEvidence {fields : List (String × Json)} (nodup : (fields.map Prod.fst).Nodup)
    (evidence : List String) (key : String) : (withEvidence evidence (.obj fields)).get? key =
      if "regression_evidence" = key then some (texts evidence) else Json.lookup key fields :=
  Json.lookup_place nodup

theorem evidenceOf_texts {family : Json} {evidence : List String}
    (same : Json.orElse (family.get? "regression_evidence") (.arr []) = texts evidence) :
    evidenceOf family = .ok evidence := by
  rw [evidenceOf, same]
  refine congrArg Except.ok ?_
  rw [List.filterMap_map]
  exact List.filterMap_some

theorem evidenceTexts_of {family : Json} {evidence : List String}
    (found : family.get? "regression_evidence" = some (texts evidence)) : EvidenceTexts family := by
  refine ⟨evidence, ?_⟩
  rw [found, Json.orElse]
  cases evidence with
  | nil => rfl
  | cons text rest => rfl

theorem evidenceItems_texts {family : Json} {evidence : List String}
    (same : Json.orElse (family.get? "regression_evidence") (.arr []) = texts evidence) :
    ∀ item ∈ evidenceItems family, item ∈ evidence.map Json.str := by
  intro item inside
  unfold evidenceItems at inside
  split at inside
  · rename_i items found
    rw [found, Json.orElse] at same
    split at same
    · cases same
      exact inside
    · rename_i falsy
      cases items with
      | nil => cases inside
      | cons _ _ => exact absurd rfl falsy
  · cases inside

theorem evolves_withEvidence {id : String} {fields : List (String × Json)} {evidence added : List String}
    (nodup : (fields.map Prod.fst).Nodup) (found : isFamily id (.obj fields))
    (same : Json.orElse ((Json.obj fields).get? "regression_evidence") (.arr []) = texts evidence) :
    Evolves [id] (.obj fields) (withEvidence (evidence ++ added) (.obj fields)) := by
  refine ⟨fun key other => ?_, fun unnamed => ?_, fun item inside => ?_⟩
  · rw [get?_withEvidence nodup, if_neg (Ne.symm other), Json.get?]
  · have known : familyId (.obj fields) = some id := by
      rw [familyId, Json.get?, of_decide_eq_true found]
    exact absurd List.mem_cons_self (unnamed id known)
  · rw [evidenceItems, get?_withEvidence nodup, if_pos rfl]
    change item ∈ (evidence ++ added).map Json.str
    rw [List.map_append]
    exact List.mem_append_left _ (evidenceItems_texts same item inside)

theorem isFamily_iff {id : String} {family : Json} : isFamily id family ↔ familyId family = some id := by
  cases family with
  | obj fields =>
      rw [isFamily, familyId, Json.get?, decide_eq_true_iff]
      split
      · rename_i other found
        rw [found, Option.some_inj, Option.some_inj, Json.str.injEq]
      · rename_i absent
        exact iff_of_false (fun found => absent id found) (by rintro ⟨⟩)
  | _ => exact iff_of_false Bool.false_ne_true (by rintro ⟨⟩)

/-- The families after an entry that names one of them. -/
theorem extendFamily_ok {id : String} {tests : List String} {families result : List Json}
    (ok : extendFamily id tests families = .ok result) :
    ∃ front family back evidence, families = front ++ family :: back ∧ isFamily id family ∧
      evidenceOf family = .ok evidence ∧
      result = front ++ withEvidence (evidence ++ tests.filter (· ∉ evidence)) family :: back := by
  induction families generalizing result with
  | nil => cases ok
  | cons family families ih =>
      rw [extendFamily] at ok
      split at ok
      · rename_i found
        obtain ⟨evidence, read, ok⟩ := bind_ok.mp ok
        cases ok
        exact ⟨[], family, families, evidence, rfl, found, read, rfl⟩
      · cases later : extendFamily id tests families with
        | error raised => rw [later] at ok; cases ok
        | ok rest =>
            rw [later] at ok
            cases ok
            obtain ⟨front, found, back, evidence, rfl, is_, read, rfl⟩ := ih later
            exact ⟨family :: front, found, back, evidence, rfl, is_, read, rfl⟩

theorem WellFormed.evolve {names : List String} {xs ys : List Json} (well : WellFormed xs)
    (all : List.Forall₂ (Evolves names) xs ys)
    (mappings : ∀ family ∈ ys, ∃ fields, family = .obj fields ∧ (fields.map Prod.fst).Nodup) :
    WellFormed ys := by
  refine ⟨mappings, fun family inside => ?_, ?_⟩
  · have number : numberOf family ∈ xs.map numberOf := forall₂_numbers all ▸ List.mem_map_of_mem inside
    obtain ⟨old, inside, same⟩ := List.mem_map.mp number
    exact same ▸ well.recognised old inside
  · rw [forall₂_ids all]
    exact well.unique

/-- What one entry does to the families. -/
structure Extends (entry : Entry) (families : List Json) (id : String) (families' : List Json) : Prop where
  wellFormed : WellFormed families'
  shape : ∃ kept created, families' = kept ++ created ∧
    List.Forall₂ (Evolves entry.target.names) families kept ∧ created.length = entry.target.founds
  existing : some id ∈ families'.map familyId
  room : ∀ entries, Room families (entry :: entries) → Room families' entries

theorem extends_named {entry : Entry} {families result : List Json} {id : String} (well : WellFormed families)
    (room : Room families [entry]) (target : entry.target = .family id)
    (ok : extendFamily id entry.regressionTests families = .ok result) :
    Extends entry families id result := by
  obtain ⟨front, family, back, evidence, rfl, found, read, rfl⟩ := extendFamily_ok ok
  have inside : family ∈ front ++ family :: back := List.mem_append_right _ List.mem_cons_self
  have names : entry.target.names = [id] := by rw [target, Target.names]
  obtain ⟨items, same⟩ := room.evidence family inside id (by simp [named, names]) (isFamily_iff.mp found)
  cases (evidenceOf_texts same).symm.trans read
  obtain ⟨fields, rfl, nodup⟩ := well.mappings family inside
  have evolves : Evolves [id] (.obj fields)
      (withEvidence (evidence ++ entry.regressionTests.filter (· ∉ evidence)) (.obj fields)) :=
    evolves_withEvidence nodup found same
  have all : List.Forall₂ (Evolves [id]) (front ++ .obj fields :: back)
      (front ++ withEvidence (evidence ++ entry.regressionTests.filter (· ∉ evidence)) (.obj fields) :: back) :=
    List.rel_append (forall₂_refl _ front) (.cons evolves (forall₂_refl _ back))
  refine ⟨well.evolve all fun other inside => ?_, ⟨_, [], (List.append_nil _).symm, names ▸ all, ?_⟩, ?_,
    fun entries wide => ⟨fun n inside => ?_, fun other inside name named_ known => ?_⟩⟩
  · rcases List.mem_append.mp inside with inside | inside
    · exact well.mappings other (List.mem_append_left _ inside)
    · rcases List.mem_cons.mp inside with rfl | inside
      · exact ⟨_, rfl, Json.place_nodup nodup⟩
      · exact well.mappings other (List.mem_append_right _ (List.mem_cons_of_mem _ inside))
  · rw [target, Target.founds, List.length_nil]
  · rw [forall₂_ids all]
    exact List.mem_map.mpr ⟨_, List.mem_append_right _ List.mem_cons_self, isFamily_iff.mp found⟩
  · have numbers := forall₂_numbers all
    have before : n ∈ (front ++ Json.obj fields :: back).filterMap numberOf := by
      rw [List.mem_filterMap] at inside ⊢
      obtain ⟨other, inside, number⟩ := inside
      have member : some n ∈ (front ++ Json.obj fields :: back).map numberOf :=
        numbers ▸ List.mem_map.mpr ⟨other, inside, number⟩
      exact List.mem_map.mp member
    have bound := wide.identities n before
    simp only [founded, List.map_cons, List.sum_cons, target, Target.founds, Nat.zero_add] at bound
    exact bound
  · have later : name ∈ named (entry :: entries) := List.mem_append_right _ named_
    rcases List.mem_append.mp inside with inside | inside
    · exact wide.evidence other (List.mem_append_left _ inside) name later known
    · rcases List.mem_cons.mp inside with rfl | inside
      · exact evidenceTexts_of (get?_withEvidence nodup _ _)
      · exact wide.evidence other (List.mem_append_right _ (List.mem_cons_of_mem _ inside)) name later known

theorem founded_mapping (id : String) (proposal : NewFamily) (entry : Entry) :
    ∃ fields, foundedFamily id proposal entry = .obj fields ∧ (fields.map Prod.fst).Nodup :=
  ⟨_, rfl, by simp⟩

theorem founded_evidence (id : String) (proposal : NewFamily) (entry : Entry) :
    EvidenceTexts (foundedFamily id proposal entry) :=
  evidenceTexts_of (rfl : _ = some (texts entry.regressionTests))

theorem founded_id (id : String) (proposal : NewFamily) (entry : Entry) :
    familyId (foundedFamily id proposal entry) = some id := rfl

theorem extends_founded {entry : Entry} {proposal : NewFamily} {families : List Json} {id : String}
    (well : WellFormed families) (room : Room families [entry]) (target : entry.target = .newFamily proposal)
    (next : nextFamilyId families = .ok id) :
    Extends entry families id (families ++ [foundedFamily id proposal entry]) := by
  have one : founded [entry] = 1 := by
    simp only [founded, List.map_cons, List.map_nil, target, Target.founds, List.sum_cons, List.sum_nil,
      Nat.add_zero]
  obtain ⟨fresh, highest, top, number⟩ := nextFamilyId_fresh (fun n inside => one ▸ room.identities n inside) next
  have recognised : numberOf (foundedFamily id proposal entry) = some (highest + 1) := by
    rw [numberOf_eq, founded_id]
    exact number
  refine ⟨⟨fun family inside => ?_, fun family inside => ?_, ?_⟩,
    ⟨families, [_], rfl, forall₂_refl _ _, by rw [target]; rfl⟩,
    List.mem_map.mpr ⟨_, List.mem_append_right _ List.mem_cons_self, founded_id _ _ _⟩,
    fun entries wide => ⟨fun m inside => ?_, fun family inside name names known => ?_⟩⟩
  · rcases List.mem_append.mp inside with inside | inside
    · exact well.mappings family inside
    · exact List.mem_singleton.mp inside ▸ founded_mapping id proposal entry
  · rcases List.mem_append.mp inside with inside | inside
    · exact well.recognised family inside
    · rw [List.mem_singleton.mp inside, recognised]
      rfl
  · rw [List.map_append, List.map_singleton, founded_id]
    exact List.nodup_append.mpr ⟨well.unique, List.nodup_cons.mpr ⟨List.not_mem_nil, .nil⟩,
      fun a inside b last same => fresh (List.mem_singleton.mp last ▸ same ▸ inside)⟩
  · have bound (k : Nat) (there : k ∈ families.filterMap numberOf) : k + (1 + founded entries) ≤ 999 := by
      have bound := wide.identities k there
      simp only [founded, List.map_cons, List.sum_cons, target, Target.founds] at bound
      exact bound
    rw [List.filterMap_append] at inside
    rcases List.mem_append.mp inside with inside | inside
    · have := bound m inside
      omega
    · have bound := bound highest top
      obtain ⟨family, last, same⟩ := List.mem_filterMap.mp inside
      rw [List.mem_singleton.mp last, recognised, Option.some_inj] at same
      omega
  · rcases List.mem_append.mp inside with inside | inside
    · exact wide.evidence family inside name (List.mem_append_right _ names) known
    · exact List.mem_singleton.mp inside ▸ founded_evidence id proposal entry

theorem promoteFamily_extends {entry : Entry} {families families' : List Json} {id : String}
    (well : WellFormed families) (room : Room families [entry])
    (ok : promoteFamily families entry = .ok (families', id)) : Extends entry families id families' := by
  unfold promoteFamily at ok
  split at ok
  · rename_i name target
    obtain ⟨extended, read, ok⟩ := bind_ok.mp ok
    cases ok
    exact extends_named well room target read
  · rename_i proposal target
    obtain ⟨next, read, ok⟩ := bind_ok.mp ok
    cases ok
    exact extends_founded well room target read

theorem Room.first {families : List Json} {entry : Entry} {entries : List Entry}
    (room : Room families (entry :: entries)) : Room families [entry] := by
  refine ⟨fun n inside => ?_, fun family inside id names known => ?_⟩
  · have bound := room.identities n inside
    simp only [founded, List.map_cons, List.map_nil, List.sum_cons, List.sum_nil] at bound ⊢
    omega
  · refine room.evidence family inside id ?_ known
    rw [named, List.flatMap_cons, List.flatMap_nil, List.append_nil] at names
    exact List.mem_append_left _ names

/-- The record of a finding names a family. -/
def Recorded (families : List Json) (entry : Entry) (record : Json) : Prop :=
  ∃ id, some id ∈ families.map familyId ∧ dispositionRecord entry id = .ok record ∧
    record.get? "mapped_defect_id" = some (.str id)

theorem dispositionRecord_names {entry : Entry} {id : String} {record : Json}
    (ok : dispositionRecord entry id = .ok record) :
    record.get? "mapped_defect_id" = some (.str id) := by
  unfold dispositionRecord at ok
  split at ok
  · cases ok
  · cases ok
    rfl

/-- What some entries do to the families and to the findings. -/
structure Promotes (entries : List Entry) (families findings families' findings' : List Json) : Prop where
  wellFormed : WellFormed families'
  extended : ∃ kept created, families' = kept ++ created ∧
    List.Forall₂ (Evolves (named entries)) families kept ∧ created.length = founded entries
  recorded : ∃ records, findings' = findings ++ records ∧
    List.Forall₂ (Recorded families') entries records

theorem promoteEntries_promotes {entries : List Entry} {families findings families' findings' : List Json}
    (well : WellFormed families) (room : Room families entries)
    (ok : promoteEntries families findings entries = .ok (families', findings')) :
    Promotes entries families findings families' findings' := by
  induction entries generalizing families findings with
  | nil =>
      cases ok
      exact ⟨well, ⟨_, [], (List.append_nil _).symm, forall₂_refl _ _, rfl⟩,
        ⟨[], (List.append_nil _).symm, .nil⟩⟩
  | cons entry entries ih =>
      obtain ⟨⟨middle, id⟩, promoted, ok⟩ := bind_ok.mp ok
      obtain ⟨record, recorded, ok⟩ := bind_ok.mp ok
      have one := promoteFamily_extends well room.first promoted
      have rest := ih one.wellFormed (one.room entries room) ok
      obtain ⟨kept, created, rfl, evolved, count⟩ := one.shape
      obtain ⟨all, more, rfl, later, moreCount⟩ := rest.extended
      obtain ⟨records, rfl, each⟩ := rest.recorded
      obtain ⟨front, back, rfl, front_, back_⟩ := forall₂_append_left later
      have evolved : List.Forall₂ (Evolves (named (entry :: entries))) families front :=
        forall₂_trans evolved front_ (List.subset_append_left _ _) (List.subset_append_right _ _)
      refine ⟨rest.wellFormed, ⟨front, back ++ more, List.append_assoc _ _ _, evolved, ?_⟩,
        ⟨record :: records, List.append_assoc _ _ _, .cons ⟨id, ?_, recorded, ?_⟩ each⟩⟩
      · rw [List.length_append, ← back_.length_eq, count, moreCount]
        rfl
      · have still : some id ∈ (front ++ back).map familyId := forall₂_ids later ▸ one.existing
        rw [List.map_append]
        exact List.mem_append_left _ still
      · exact dispositionRecord_names recorded

/-- The items of a member. -/
def itemsAt (key : String) (document : Json) : List Json :=
  match document.get? key with
  | some (.arr items) => items
  | _ => []

/-- A mapping as it is loaded. -/
def Loaded (document : Json) : Prop := ∀ fields, document = .obj fields → (fields.map Prod.fst).Nodup

structure Registered (documents : Documents) : Prop where
  registry : Loaded documents.registry
  dispositions : Loaded documents.dispositions
  families : WellFormed (itemsAt "families" documents.registry)

/-- A document changes in one member only. -/
def Elsewhere (key : String) (before after : Json) : Prop :=
  ∀ other, other ≠ key → after.get? other = before.get? other

/-- What a promotion may do. -/
structure Lawful (before : Documents) (entries : List Entry) (after : Documents) : Prop where
  registered : Registered after
  promotes : Promotes entries (itemsAt "families" before.registry) (itemsAt "findings" before.dispositions)
    (itemsAt "families" after.registry) (itemsAt "findings" after.dispositions)
  registry : Elsewhere "families" before.registry after.registry
  dispositions : Elsewhere "findings" before.dispositions after.dispositions

/-- A promotion that has room. -/
def Step (before : Documents) (entries : List Entry) (after : Documents) : Prop :=
  promotionDelta before entries = .ok after ∧ Room (itemsAt "families" before.registry) entries

theorem itemsAt_place {key : String} {items : List Json} {fields : List (String × Json)}
    (nodup : (fields.map Prod.fst).Nodup) :
    itemsAt key (.obj (Json.place key (.arr items) fields)) = items := by
  rw [itemsAt, Json.get?, Json.lookup_place nodup, if_pos rfl]

theorem elsewhere_place {key : String} {value : Json} {fields : List (String × Json)}
    (nodup : (fields.map Prod.fst).Nodup) :
    Elsewhere key (.obj fields) (.obj (Json.place key value fields)) := by
  intro other different
  rw [Json.get?, Json.lookup_place nodup, if_neg (Ne.symm different), Json.get?]

theorem loaded_place {key : String} {value : Json} {fields : List (String × Json)}
    (nodup : (fields.map Prod.fst).Nodup) : Loaded (.obj (Json.place key value fields)) := by
  intro _ same
  cases same
  exact Json.place_nodup nodup

theorem step_lawful {before after : Documents} {entries : List Entry} (registered : Registered before)
    (step : Step before entries after) : Lawful before entries after := by
  have room := step.2
  have ok := (require_bind_ok.mp (require_bind_ok.mp step.1).2).2
  obtain ⟨registryOf, dispositionsOf⟩ := before
  obtain ⟨registryLoaded, dispositionsLoaded, well⟩ := registered
  dsimp only at ok registryLoaded dispositionsLoaded well room
  split at ok
  · rename_i registry dispositions
    split at ok
    · rename_i families findings familiesFound findingsFound
      obtain ⟨⟨families', findings'⟩, promoted, ok⟩ := bind_ok.mp ok
      cases ok
      have registryNodup := registryLoaded registry rfl
      have dispositionsNodup := dispositionsLoaded dispositions rfl
      have old : itemsAt "families" (.obj registry) = families := by rw [itemsAt, Json.get?, familiesFound]
      have oldFindings : itemsAt "findings" (.obj dispositions) = findings := by
        rw [itemsAt, Json.get?, findingsFound]
      rw [old] at well room
      have promotes := promoteEntries_promotes well room promoted
      refine ⟨⟨loaded_place registryNodup, loaded_place dispositionsNodup, ?_⟩, ?_,
        elsewhere_place registryNodup, elsewhere_place dispositionsNodup⟩
      · rw [itemsAt_place registryNodup]
        exact promotes.wellFormed
      · rw [old, oldFindings, itemsAt_place registryNodup, itemsAt_place dispositionsNodup]
        exact promotes
    · cases ok
  · cases ok

/-- While there is room the registry stays well formed, and every promotion obeys the law. -/
theorem promotion_wellFormed {start s : Documents} {history : List (List Entry)}
    (registered : Registered start) (run : Run Step start history s) :
    Registered s ∧ ∀ entries t, Step s entries t → Lawful s entries t := by
  have kept : Registered s := run.invariant (fun _ s => Registered s) registered
    fun _ _ _ _ _ well step => (step_lawful well step).registered
  exact ⟨kept, fun entries t step => step_lawful kept step⟩

def sampleFamily (number : Nat) : Json :=
  .obj [("id", .str (familyIdOf number)), ("regression_evidence", .arr [.str "tests/a.py"])]

def sampleDocuments (number : Nat) : Documents :=
  ⟨.obj [("families", .arr [sampleFamily number])], .obj [("findings", .arr [])]⟩

def sampleEntry (findingId : String) (target : Target) : Entry :=
  ⟨findingId, "src/a.py", ["tests/b.py"], ⟨1, "0", "reviewer", 2⟩, target⟩

theorem sample_registered (number : Nat) (small : number < 1000) : Registered (sampleDocuments number) := by
  have known : familyId (sampleFamily number) = some (familyIdOf number) := rfl
  refine ⟨?_, ?_, fun family inside => ?_, fun family inside => ?_, ?_⟩
  · intro _ same
    cases same
    exact List.nodup_cons.mpr ⟨List.not_mem_nil, .nil⟩
  · intro _ same
    cases same
    exact List.nodup_cons.mpr ⟨List.not_mem_nil, .nil⟩
  · exact List.mem_singleton.mp inside ▸ ⟨_, rfl, by simp⟩
  · rw [List.mem_singleton.mp inside, numberOf_eq, known, Option.bind_some, familyNumber_familyIdOf small]
    rfl
  · exact List.nodup_cons.mpr ⟨List.not_mem_nil, .nil⟩

def sampleProposal : Target := .newFamily ⟨"title", "invariant", ["src/a.py"]⟩

/-- One finding founds a family, and the next recurs in the family that is there. -/
def samplePromotion : List Entry :=
  [sampleEntry "a" sampleProposal, sampleEntry "b" (.family "DFF-007")]

theorem sample_room : Room (itemsAt "families" (sampleDocuments 7).registry) samplePromotion := by
  refine ⟨by decide, fun family inside _ _ _ => ?_⟩
  rw [List.mem_singleton.mp inside]
  exact ⟨["tests/a.py"], rfl⟩

theorem promotion_wellFormed_sample : ∃ t, Step (sampleDocuments 7) samplePromotion t ∧
    (itemsAt "families" t.registry).map (fun family => (familyId family, evidenceItems family)) =
      [(some "DFF-007", [.str "tests/a.py", .str "tests/b.py"]), (some "DFF-008", [.str "tests/b.py"])] ∧
    Registered t ∧ ∀ entries u, Step t entries u → Lawful t entries u := by
  have promoted : (do
      let t ← promotionDelta (sampleDocuments 7) samplePromotion
      .ok ((itemsAt "families" t.registry).map fun family => (familyId family, evidenceItems family))) =
      (.ok [(some "DFF-007", [.str "tests/a.py", .str "tests/b.py"]), (some "DFF-008", [.str "tests/b.py"])] :
        Except Raised _) := by
    decide
  obtain ⟨t, delta, evidence⟩ := bind_ok.mp promoted
  have step : Step (sampleDocuments 7) samplePromotion t := ⟨delta, sample_room⟩
  exact ⟨t, step, Except.ok.inj evidence,
    promotion_wellFormed (sample_registered 7 (by decide)) (Run.nil.snoc step)⟩

/-- The identity after the last is taken twice. -/
theorem promotion_wellFormed_fails : Registered (sampleDocuments 999) ∧
    ∃ once twice, promotionDelta (sampleDocuments 999) [sampleEntry "a" sampleProposal] = .ok once ∧
      promotionDelta once [sampleEntry "b" sampleProposal] = .ok twice ∧
      (itemsAt "families" twice.registry).map familyId =
        [some "DFF-999", some "DFF-1000", some "DFF-1000"] := by
  refine ⟨sample_registered 999 (by decide), ?_⟩
  have both : (do
      let once ← promotionDelta (sampleDocuments 999) [sampleEntry "a" sampleProposal]
      let twice ← promotionDelta once [sampleEntry "b" sampleProposal]
      .ok ((itemsAt "families" twice.registry).map familyId)) =
      (.ok [some "DFF-999", some "DFF-1000", some "DFF-1000"] : Except Raised _) := by
    decide
  obtain ⟨once, first, rest⟩ := bind_ok.mp both
  obtain ⟨twice, second, ids⟩ := bind_ok.mp rest
  exact ⟨once, twice, first, second, Except.ok.inj ids⟩

end Hunter.Promotion
