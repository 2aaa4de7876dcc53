import Mathlib
import Hunter.Data.Fallible
import Hunter.IssueAgent.Advance

/-!
The owner arms the fallback canary for one authorization by a label that comes before the
authorizing label and after the previous one. Events have the resolution of a second, so their
order within one second says nothing: what is decided depends on the events and not on how they
are listed.
-/

namespace Hunter.IssueAgent

open Calendar (Moment)

def fallbackCanaryLabel : String := "hunter-codex-fallback-canary"

structure LabelEvent where
  createdAt : Moment
  kind : String
  label : String
  actor : String
  deriving DecidableEq

/-- `(event.get(key) or {}).get(name)`. -/
def eventMember (event : Mapping) (key name : String) : Py (Option Json) :=
  match Json.orElse (Json.lookup key event) (.obj []) with
  | .obj fields => .ok (Json.lookup name fields)
  | _ => .error .attributeError

def readTexts (kind : String) (label actor created : Option Json) : Py LabelEvent :=
  match label, actor, created with
  | some (.str label), some (.str actor), some (.str created) => do
      let createdAt ← instant created
      return ⟨createdAt, kind, label, actor⟩
  | _, _, _ => .error .valueError

/-- An event of another kind is not a label event. -/
def readEvent (event : Mapping) : Py (Option LabelEvent) :=
  match Json.lookup "event" event with
  | some (.str kind) =>
      if kind = "labeled" ∨ kind = "unlabeled" then do
        let label ← eventMember event "label" "name"
        let actor ← eventMember event "actor" "login"
        let read ← readTexts kind label actor (Json.lookup "created_at" event)
        return some read
      else .ok none
  | _ => .ok none

/-- The label events in the order of their times, and of their places within one second. -/
def readEvents (events : List Mapping) : Py (List LabelEvent) := do
  let read ← events.mapM readEvent
  return read.reduceOption.mergeSort fun a b => a.createdAt ≤ b.createdAt

section

variable (ownerLogin authorizationLabel : String)

/-- The event authorizes at or before the cutoff. -/
def LabelEvent.Authorizes (cutoff : Moment) (event : LabelEvent) : Prop :=
  event.kind = "labeled" ∧ event.label = authorizationLabel ∧ event.actor = ownerLogin ∧
    event.createdAt ≤ cutoff

instance (cutoff : Moment) (event : LabelEvent) :
    Decidable (event.Authorizes ownerLogin authorizationLabel cutoff) :=
  inferInstanceAs (Decidable (_ ∧ _))

def LabelEvent.Canary (event : LabelEvent) : Prop := event.label = fallbackCanaryLabel

instance (event : LabelEvent) : Decidable event.Canary := inferInstanceAs (Decidable (_ = _))

/-- The owner arms the canary. -/
def LabelEvent.Arms (event : LabelEvent) : Prop := event.kind = "labeled" ∧ event.actor = ownerLogin

instance (event : LabelEvent) : Decidable (event.Arms ownerLogin) := inferInstanceAs (Decidable (_ ∧ _))

def authorizing (relevant : List LabelEvent) (cutoff : Moment) : List Moment :=
  (relevant.filter fun event => event.Authorizes ownerLogin authorizationLabel cutoff).map
    LabelEvent.createdAt

/-- `authorizing[-1]`. -/
def selected (relevant : List LabelEvent) (cutoff : Moment) : Option Moment :=
  (authorizing ownerLogin authorizationLabel relevant cutoff).getLast?

/-- `authorizing[-2]`. -/
def previous (relevant : List LabelEvent) (cutoff : Moment) : Option Moment :=
  (authorizing ownerLogin authorizationLabel relevant cutoff).dropLast.getLast?

def canaryEvents (relevant : List LabelEvent) : List LabelEvent :=
  relevant.filter fun event => event.Canary

def before (relevant : List LabelEvent) (current : Moment) : List LabelEvent :=
  (canaryEvents relevant).filter fun event => event.createdAt < current

/-- The second of the last canary event before the authorizing one. -/
def deciding (relevant : List LabelEvent) (current : Moment) : Option Moment :=
  (before relevant current).getLast?.map LabelEvent.createdAt

/-- A canary event shares its second with an authorizing one. -/
def Ambiguous (relevant : List LabelEvent) (current : Moment) (previous : Option Moment) : Prop :=
  ∃ event ∈ canaryEvents relevant, event.createdAt = current ∨ previous = some event.createdAt

instance (relevant : List LabelEvent) (current : Moment) (previous : Option Moment) :
    Decidable (Ambiguous relevant current previous) :=
  inferInstanceAs (Decidable (∃ _ ∈ _, _ ∨ _))

def armedBefore (relevant : List LabelEvent) (current : Moment) (previous : Option Moment) : Bool :=
  if Ambiguous relevant current previous then false
  else
    match deciding relevant current with
    | none => false
    | some last =>
        if ∃ event ∈ before relevant current, event.createdAt = last ∧ ¬event.Arms ownerLogin then false
        else previous.all fun earlier => earlier < last

def armed (relevant : List LabelEvent) (cutoff : Moment) : Bool :=
  match selected ownerLogin authorizationLabel relevant cutoff with
  | none => false
  | some current =>
      armedBefore ownerLogin relevant current (previous ownerLogin authorizationLabel relevant cutoff)

def fallbackCanaryArmed (events : List Mapping) (authorizedAt : String) : Py Bool := do
  let relevant ← readEvents events
  let cutoff ← instant authorizedAt
  return armed ownerLogin authorizationLabel relevant cutoff

end

section

variable {α : Type} [LinearOrder α] {items others : List α}

theorem getLast?_greatest (sorted : items.Pairwise (· ≤ ·)) {x : α} :
    items.getLast? = some x ↔ x ∈ items ∧ ∀ y ∈ items, y ≤ x := by
  constructor
  · intro last
    obtain ⟨front, rfl⟩ := List.getLast?_eq_some_iff.mp last
    refine ⟨List.mem_append_right _ (List.mem_singleton_self x), fun y inside => ?_⟩
    cases List.mem_append.mp inside with
    | inl earlier => exact (List.pairwise_append.mp sorted).2.2 y earlier x (List.mem_singleton_self x)
    | inr same => exact le_of_eq (List.mem_singleton.mp same)
  · intro ⟨inside, most⟩
    cases found : items.getLast? with
    | none =>
        rw [List.getLast?_eq_none_iff.mp found] at inside
        exact absurd inside List.not_mem_nil
    | some last =>
        obtain ⟨front, rfl⟩ := List.getLast?_eq_some_iff.mp found
        have below : x ≤ last := by
          cases List.mem_append.mp inside with
          | inl earlier =>
              exact (List.pairwise_append.mp sorted).2.2 x earlier last (List.mem_singleton_self last)
          | inr same => exact le_of_eq (List.mem_singleton.mp same)
        have above := most last (List.mem_append_right _ (List.mem_singleton_self last))
        rw [le_antisymm below above]

/-- What is below the last entry is at most the one before it. -/
theorem le_dropLast_getLast? (sorted : items.Pairwise (· ≤ ·)) {x last : α} (inside : x ∈ items)
    (ends : items.getLast? = some last) (below : x < last) :
    ∃ earlier, items.dropLast.getLast? = some earlier ∧ x ≤ earlier := by
  obtain ⟨front, rfl⟩ := List.getLast?_eq_some_iff.mp ends
  rw [List.dropLast_concat]
  have there : x ∈ front := by
    cases List.mem_append.mp inside with
    | inl earlier => exact earlier
    | inr same => exact absurd (List.mem_singleton.mp same) (ne_of_lt below)
  cases found : front.getLast? with
  | none =>
      rw [List.getLast?_eq_none_iff.mp found] at there
      exact absurd there List.not_mem_nil
  | some earlier =>
      exact ⟨earlier, rfl, ((getLast?_greatest (List.pairwise_append.mp sorted).1).mp found).2 x there⟩

theorem eq_of_sorted_perm (left : items.Pairwise (· ≤ ·)) (right : others.Pairwise (· ≤ ·))
    (perm : items.Perm others) : items = others :=
  perm.eq_of_pairwise (fun _ _ _ _ below above => le_antisymm below above) left right

/-- Further copies of the last entry are the one before it. -/
theorem dropLast_getLast?_of_copies (sorted : others.Pairwise (· ≤ ·)) {last : α} {copies : List α}
    (ends : items.getLast? = some last) (ends' : others.getLast? = some last)
    (perm : others.Perm (items ++ copies)) (some_copy : last ∈ copies) :
    others.dropLast.getLast? = some last := by
  obtain ⟨front, rfl⟩ := List.getLast?_eq_some_iff.mp ends
  obtain ⟨front', rfl⟩ := List.getLast?_eq_some_iff.mp ends'
  have inner : front'.Perm (front ++ copies) := by
    refine (List.perm_append_right_iff [last]).mp (perm.trans ?_)
    rw [List.append_assoc, List.append_assoc]
    exact List.perm_append_comm.append_left front
  rw [List.dropLast_concat]
  refine (getLast?_greatest (List.pairwise_append.mp sorted).1).mpr
    ⟨inner.mem_iff.mpr (List.mem_append_right _ some_copy), fun y inside => ?_⟩
  exact (List.pairwise_append.mp sorted).2.2 y inside last (List.mem_singleton_self last)

end

/-- The events are in the order of their times. -/
def Timed (relevant : List LabelEvent) : Prop :=
  relevant.Pairwise fun a b => a.createdAt ≤ b.createdAt

theorem Timed.map {relevant : List LabelEvent} (timed : Timed relevant) :
    (relevant.map LabelEvent.createdAt).Pairwise (· ≤ ·) :=
  List.pairwise_map.mpr timed

theorem Timed.filter {relevant : List LabelEvent} (timed : Timed relevant) (keep : LabelEvent → Bool) :
    Timed (relevant.filter keep) :=
  List.Pairwise.filter keep timed

section

variable {ownerLogin authorizationLabel : String} {relevant others : List LabelEvent} {cutoff : Moment}

theorem authorizing_sorted (timed : Timed relevant) :
    (authorizing ownerLogin authorizationLabel relevant cutoff).Pairwise (· ≤ ·) :=
  (timed.filter _).map

theorem mem_authorizing {at_ : Moment} :
    at_ ∈ authorizing ownerLogin authorizationLabel relevant cutoff ↔
      ∃ event ∈ relevant, event.Authorizes ownerLogin authorizationLabel cutoff ∧ event.createdAt = at_ := by
  simp only [authorizing, List.mem_map, List.mem_filter, decide_eq_true_eq, and_assoc]

theorem mem_canaryEvents {event : LabelEvent} : event ∈ canaryEvents relevant ↔ event ∈ relevant ∧ event.Canary := by
  rw [canaryEvents, List.mem_filter, decide_eq_true_eq]

theorem mem_before {current : Moment} {event : LabelEvent} :
    event ∈ before relevant current ↔ (event ∈ relevant ∧ event.Canary) ∧ event.createdAt < current := by
  rw [before, List.mem_filter, decide_eq_true_eq, mem_canaryEvents]

theorem deciding_iff (timed : Timed relevant) {current last : Moment} :
    deciding relevant current = some last ↔
      (∃ event ∈ before relevant current, event.createdAt = last) ∧
        ∀ event ∈ before relevant current, event.createdAt ≤ last := by
  have sorted : ((before relevant current).map LabelEvent.createdAt).Pairwise (· ≤ ·) :=
    ((timed.filter _).filter _).map
  rw [deciding, ← List.getLast?_map, getLast?_greatest sorted, List.mem_map, List.forall_mem_map]

/-- When the canary is armed. -/
theorem armed_iff :
    armed ownerLogin authorizationLabel relevant cutoff = true ↔
      ∃ current last, selected ownerLogin authorizationLabel relevant cutoff = some current ∧
        deciding relevant current = some last ∧
        ¬Ambiguous relevant current (previous ownerLogin authorizationLabel relevant cutoff) ∧
        (∀ event ∈ before relevant current, event.createdAt = last → event.Arms ownerLogin) ∧
        ∀ earlier ∈ previous ownerLogin authorizationLabel relevant cutoff, earlier < last := by
  rw [armed]
  cases selected ownerLogin authorizationLabel relevant cutoff with
  | none => simp only [Bool.false_eq_true, reduceCtorEq, false_and, exists_false]
  | some current =>
      simp only [Option.some.injEq, exists_and_left, exists_eq_left']
      rw [armedBefore]
      by_cases ambiguous : Ambiguous relevant current (previous ownerLogin authorizationLabel relevant cutoff)
      · rw [if_pos ambiguous]
        refine iff_of_false Bool.false_ne_true ?_
        rintro ⟨_, _, clear, _⟩
        exact clear ambiguous
      · rw [if_neg ambiguous]
        cases deciding relevant current with
        | none => simp only [Bool.false_eq_true, reduceCtorEq, false_and, exists_false]
        | some last =>
            simp only [Option.some.injEq, exists_eq_left', ambiguous, not_false_eq_true, true_and]
            by_cases other : ∃ event ∈ before relevant current,
                event.createdAt = last ∧ ¬event.Arms ownerLogin
            · rw [if_pos other]
              refine iff_of_false Bool.false_ne_true fun ⟨arms, _⟩ => ?_
              obtain ⟨event, inside, same, not_arms⟩ := other
              exact not_arms (arms event inside same)
            · rw [if_neg other, Option.all_eq_true]
              simp only [decide_eq_true_eq]
              refine (and_iff_right fun event inside same => ?_).symm
              exact Classical.byContradiction fun not_arms => other ⟨event, inside, same, not_arms⟩

theorem armed_of_perm (timed : Timed relevant) (timed' : Timed others) (perm : relevant.Perm others) :
    armed ownerLogin authorizationLabel relevant cutoff = armed ownerLogin authorizationLabel others cutoff := by
  have instants : authorizing ownerLogin authorizationLabel relevant cutoff =
      authorizing ownerLogin authorizationLabel others cutoff :=
    eq_of_sorted_perm (authorizing_sorted timed) (authorizing_sorted timed') ((perm.filter _).map _)
  have same_selected : selected ownerLogin authorizationLabel relevant cutoff =
      selected ownerLogin authorizationLabel others cutoff := congrArg List.getLast? instants
  have same_previous : previous ownerLogin authorizationLabel relevant cutoff =
      previous ownerLogin authorizationLabel others cutoff :=
    congrArg (fun instants => instants.dropLast.getLast?) instants
  have canaries {event : LabelEvent} : event ∈ canaryEvents relevant ↔ event ∈ canaryEvents others :=
    (perm.filter _).mem_iff
  have earlier {current : Moment} {event : LabelEvent} :
      event ∈ before relevant current ↔ event ∈ before others current :=
    ((perm.filter _).filter _).mem_iff
  have decides {current last : Moment} :
      deciding relevant current = some last ↔ deciding others current = some last := by
    simp only [deciding_iff timed, deciding_iff timed', earlier]
  rw [Bool.eq_iff_iff, armed_iff, armed_iff]
  simp only [same_selected, same_previous, decides, Ambiguous, canaries, earlier]

/-- The deciding instant of a later authorization is after that of an earlier one. -/
theorem deciding_lt (timed : Timed relevant) {cutoff' current current' last last' : Moment}
    (found : selected ownerLogin authorizationLabel relevant cutoff = some current)
    (found' : selected ownerLogin authorizationLabel relevant cutoff' = some current')
    (later : current < current') (decides : deciding relevant current = some last)
    (decides' : deciding relevant current' = some last')
    (once : ∀ earlier ∈ previous ownerLogin authorizationLabel relevant cutoff', earlier < last') :
    last < last' := by
  have own := ((getLast?_greatest (authorizing_sorted timed)).mp found).1
  have own' := ((getLast?_greatest (authorizing_sorted timed)).mp found').1
  obtain ⟨event, inside, authorizes, rfl⟩ := mem_authorizing.mp own
  obtain ⟨event', -, authorizes', rfl⟩ := mem_authorizing.mp own'
  have too : event.createdAt ∈ authorizing ownerLogin authorizationLabel relevant cutoff' := by
    refine mem_authorizing.mpr ⟨event, inside, ?_, rfl⟩
    exact ⟨authorizes.1, authorizes.2.1, authorizes.2.2.1, le_of_lt (lt_of_lt_of_le later authorizes'.2.2.2)⟩
  obtain ⟨earlier, is_previous, above⟩ := le_dropLast_getLast? (authorizing_sorted timed) too found' later
  obtain ⟨⟨canary, there, rfl⟩, -⟩ := (deciding_iff timed).mp decides
  calc canary.createdAt
      _ < event.createdAt := (mem_before.mp there).2
      _ ≤ earlier := above
      _ < last' := once earlier is_previous

/-- An event that arms nothing: it is not the owner's, or it is not before the selected instant and
does not authorize after it. -/
def Harmless (ownerLogin authorizationLabel : String) (relevant : List LabelEvent) (cutoff : Moment)
    (event : LabelEvent) : Prop :=
  event.actor ≠ ownerLogin ∨
    ∃ current, selected ownerLogin authorizationLabel relevant cutoff = some current ∧
      current ≤ event.createdAt ∧
        ¬(event.Authorizes ownerLogin authorizationLabel cutoff ∧ current < event.createdAt)

theorem armed_of_harmless {extra : List LabelEvent} (timed : Timed relevant) (timed' : Timed others)
    (perm : others.Perm (relevant ++ extra))
    (harmless : ∀ event ∈ extra, Harmless ownerLogin authorizationLabel relevant cutoff event)
    (is_armed : armed ownerLogin authorizationLabel others cutoff = true) :
    armed ownerLogin authorizationLabel relevant cutoff = true := by
  obtain ⟨current, last, found, decides, clear, arms, once⟩ := armed_iff.mp is_armed
  have old : relevant ⊆ others := fun event inside => perm.mem_iff.mpr (List.mem_append_left _ inside)
  have split {event : LabelEvent} (inside : event ∈ others) : event ∈ relevant ∨ event ∈ extra :=
    List.mem_append.mp (perm.mem_iff.mp inside)
  have instants : (authorizing ownerLogin authorizationLabel others cutoff).Perm
      (authorizing ownerLogin authorizationLabel relevant cutoff ++
        authorizing ownerLogin authorizationLabel extra cutoff) := by
    rw [authorizing, authorizing, authorizing, ← List.map_append, ← List.filter_append]
    exact (perm.filter _).map _
  -- an extra event that authorizes shares the selected instant
  have copies : ∀ at_ ∈ authorizing ownerLogin authorizationLabel extra cutoff,
      selected ownerLogin authorizationLabel relevant cutoff = some at_ := by
    intro at_ inside
    obtain ⟨event, there, authorizes, rfl⟩ := mem_authorizing.mp inside
    cases harmless event there with
    | inl other => exact absurd authorizes.2.2.1 other
    | inr late =>
        obtain ⟨own, selects, least, not_later⟩ := late
        have same : own = event.createdAt :=
          le_antisymm least (not_lt.mp fun later => not_later ⟨authorizes, later⟩)
        rw [selects, same]
  have same_selected : selected ownerLogin authorizationLabel relevant cutoff = some current := by
    obtain ⟨inside, most⟩ := (getLast?_greatest (authorizing_sorted timed')).mp found
    cases List.mem_append.mp (instants.mem_iff.mp inside) with
    | inl own =>
        refine (getLast?_greatest (authorizing_sorted timed)).mpr ⟨own, fun at_ there => ?_⟩
        exact most at_ (instants.mem_iff.mpr (List.mem_append_left _ there))
    | inr copy => exact copies current copy
  have no_copy : authorizing ownerLogin authorizationLabel extra cutoff = [] := by
    refine List.eq_nil_iff_forall_not_mem.mpr fun at_ inside => ?_
    have same := Option.some.inj ((copies at_ inside).symm.trans same_selected)
    have repeated := dropLast_getLast?_of_copies (authorizing_sorted timed') same_selected found instants
      (same ▸ inside)
    obtain ⟨⟨canary, there, rfl⟩, -⟩ := (deciding_iff timed').mp decides
    exact lt_asymm (mem_before.mp there).2 (once current repeated)
  have same_previous : previous ownerLogin authorizationLabel relevant cutoff =
      previous ownerLogin authorizationLabel others cutoff := by
    rw [no_copy, List.append_nil] at instants
    rw [previous, previous, eq_of_sorted_perm (authorizing_sorted timed') (authorizing_sorted timed) instants]
  have older {event : LabelEvent} (inside : event ∈ before relevant current) : event ∈ before others current := by
    obtain ⟨⟨there, canary⟩, early⟩ := mem_before.mp inside
    exact mem_before.mpr ⟨⟨old there, canary⟩, early⟩
  have own_last : ∃ event ∈ before relevant current, event.createdAt = last := by
    obtain ⟨⟨event, there, same⟩, -⟩ := (deciding_iff timed').mp decides
    obtain ⟨⟨inside, canary⟩, early⟩ := mem_before.mp there
    cases split inside with
    | inl own => exact ⟨event, mem_before.mpr ⟨⟨own, canary⟩, early⟩, same⟩
    | inr added =>
        cases harmless event added with
        | inl other => exact absurd (arms event there same).2 other
        | inr late =>
            obtain ⟨own, selects, least, -⟩ := late
            cases selects.symm.trans same_selected
            exact absurd early (not_lt.mpr least)
  refine armed_iff.mpr ⟨current, last, same_selected, ?_, ?_, ?_, ?_⟩
  · refine (deciding_iff timed).mpr ⟨own_last, fun event inside => ?_⟩
    exact ((deciding_iff timed').mp decides).2 event (older inside)
  · rintro ⟨event, inside, shares⟩
    obtain ⟨there, canary⟩ := mem_canaryEvents.mp inside
    exact clear ⟨event, mem_canaryEvents.mpr ⟨old there, canary⟩, same_previous ▸ shares⟩
  · exact fun event inside same => arms event (older inside) same
  · exact same_previous ▸ once

end

/-- Every event of the list can be read. -/
def WellFormed (events : List Mapping) : Prop := ∀ event ∈ events, ∃ found, readEvent event = .ok found

def eventOf (event : Mapping) : Option LabelEvent := (readEvent event).toOption.join

theorem readEvent_eq {event : Mapping} {found : Option LabelEvent} (read : readEvent event = .ok found) :
    readEvent event = .ok (eventOf event) := by
  rw [eventOf, read]
  rfl

theorem readEvents_eq {events : List Mapping} (formed : WellFormed events) :
    readEvents events = .ok ((events.filterMap eventOf).mergeSort fun a b => a.createdAt ≤ b.createdAt) := by
  have read : events.mapM readEvent = .ok (events.map eventOf) := by
    refine Fallible.mapM_ok_of_forall fun event inside => ?_
    obtain ⟨found, same⟩ := formed event inside
    exact readEvent_eq same
  rw [readEvents, read, ok_bind, List.reduceOption, List.filterMap_map, pure_eq_ok, Function.id_comp]

theorem wellFormed_of_mapM {events : List Mapping} {results : List (Option LabelEvent)}
    (mapped : events.mapM readEvent = .ok results) : WellFormed events := by
  induction events generalizing results with
  | nil => exact fun event inside => absurd inside List.not_mem_nil
  | cons first rest ih =>
      rw [List.mapM_cons] at mapped
      obtain ⟨found, own, mapped⟩ := bind_ok.mp mapped
      obtain ⟨others, mapped, -⟩ := bind_ok.mp mapped
      intro event inside
      cases List.mem_cons.mp inside with
      | inl same => exact ⟨found, same ▸ own⟩
      | inr later => exact ih mapped event later

theorem wellFormed_of_read {events : List Mapping} {relevant : List LabelEvent}
    (read : readEvents events = .ok relevant) : WellFormed events := by
  obtain ⟨results, mapped, -⟩ := bind_ok.mp read
  exact wellFormed_of_mapM mapped

theorem readEvents_timed {events : List Mapping} {relevant : List LabelEvent}
    (read : readEvents events = .ok relevant) :
    Timed relevant ∧ relevant.Perm (events.filterMap eventOf) := by
  rw [readEvents_eq (wellFormed_of_read read)] at read
  cases read
  refine ⟨?_, List.mergeSort_perm _ _⟩
  let earlier (a b : LabelEvent) : Bool := decide (a.createdAt ≤ b.createdAt)
  have sorted := @List.pairwise_mergeSort _ earlier
    (fun a b c below above => decide_eq_true ((of_decide_eq_true below).trans (of_decide_eq_true above)))
    (fun a b => by simpa [earlier] using le_total a.createdAt b.createdAt) (events.filterMap eventOf)
  exact sorted.imp of_decide_eq_true

/-- Events that are listed in the order of their times. -/
theorem readEvents_of_timed {events : List Mapping} {relevant : List LabelEvent}
    (read : events.mapM readEvent = .ok (relevant.map some)) (timed : Timed relevant) :
    readEvents events = .ok relevant := by
  have kept : (relevant.map some).reduceOption = relevant := by
    rw [List.reduceOption, List.filterMap_map, Function.id_comp, List.filterMap_some]
  have sorted : relevant.Pairwise fun a b => decide (a.createdAt ≤ b.createdAt) = true :=
    timed.imp decide_eq_true
  rw [readEvents, read, ok_bind, kept, List.mergeSort_of_pairwise sorted, pure_eq_ok]

theorem fallbackCanaryArmed_ok {ownerLogin authorizationLabel authorizedAt : String} {events : List Mapping}
    {answer : Bool} :
    fallbackCanaryArmed ownerLogin authorizationLabel events authorizedAt = .ok answer ↔
      ∃ relevant cutoff, readEvents events = .ok relevant ∧ instant authorizedAt = .ok cutoff ∧
        armed ownerLogin authorizationLabel relevant cutoff = answer := by
  simp only [fallbackCanaryArmed, bind_ok, pure_eq_ok, Except.ok.injEq, exists_and_left]

section

variable (ownerLogin authorizationLabel : String)

/-- The verdict is the same for every order of the list. -/
def OrderIndependent : Prop :=
  ∀ (events events' : List Mapping) (authorizedAt : String), WellFormed events → events.Perm events' →
    fallbackCanaryArmed ownerLogin authorizationLabel events' authorizedAt =
      fallbackCanaryArmed ownerLogin authorizationLabel events authorizedAt

/-- Two authorizations of one history are armed at different instants. -/
def SingleUse : Prop :=
  ∀ (events : List Mapping) (first second : String) (relevant : List LabelEvent)
    (cutoff cutoff' current current' last last' : Moment),
    fallbackCanaryArmed ownerLogin authorizationLabel events first = .ok true →
    fallbackCanaryArmed ownerLogin authorizationLabel events second = .ok true →
    readEvents events = .ok relevant → instant first = .ok cutoff → instant second = .ok cutoff' →
    selected ownerLogin authorizationLabel relevant cutoff = some current →
    selected ownerLogin authorizationLabel relevant cutoff' = some current' → current ≠ current' →
    deciding relevant current = some last → deciding relevant current' = some last' → last ≠ last'

/-- Events of a kind that are added anywhere never arm the canary. -/
def NeverArmedBy (kind : List LabelEvent → Moment → LabelEvent → Prop) : Prop :=
  ∀ (events extra all : List Mapping) (authorizedAt : String) (relevant : List LabelEvent) (cutoff : Moment),
    readEvents events = .ok relevant → instant authorizedAt = .ok cutoff → all.Perm (events ++ extra) →
    (∀ added ∈ extra, ∀ event, readEvent added = .ok (some event) → kind relevant cutoff event) →
    fallbackCanaryArmed ownerLogin authorizationLabel events authorizedAt = .ok false →
    fallbackCanaryArmed ownerLogin authorizationLabel all authorizedAt ≠ .ok true

/-- An event by someone else, or one that is not earlier than the selected instant. -/
def LateOrForeign (relevant : List LabelEvent) (cutoff : Moment) (event : LabelEvent) : Prop :=
  event.actor ≠ ownerLogin ∨
    ∃ current, selected ownerLogin authorizationLabel relevant cutoff = some current ∧ current ≤ event.createdAt

variable {ownerLogin authorizationLabel}

theorem fallbackCanaryArmed_perm : OrderIndependent ownerLogin authorizationLabel := by
  intro events events' authorizedAt formed perm
  have formed' : WellFormed events' := fun event inside => formed event (perm.mem_iff.mpr inside)
  have read := readEvents_eq formed
  have read' := readEvents_eq formed'
  obtain ⟨timed, sorted⟩ := readEvents_timed read
  obtain ⟨timed', sorted'⟩ := readEvents_timed read'
  have same := (sorted'.trans (perm.symm.filterMap eventOf)).trans sorted.symm
  rw [fallbackCanaryArmed, fallbackCanaryArmed, read, read', ok_bind, ok_bind]
  cases instant authorizedAt with
  | error exn => rw [Fallible.error_bind, Fallible.error_bind]
  | ok cutoff => rw [ok_bind, ok_bind, armed_of_perm timed' timed same]

theorem fallbackCanaryArmed_once : SingleUse ownerLogin authorizationLabel := by
  intro events first second relevant cutoff cutoff' current current' last last' one two read at_ at_' found
    found' apart decides decides' same
  have timed := (readEvents_timed read).1
  have holds {text : String} {moment : Moment} (is_armed : fallbackCanaryArmed ownerLogin authorizationLabel
      events text = .ok true) (reads : instant text = .ok moment) :
      armed ownerLogin authorizationLabel relevant moment = true := by
    obtain ⟨relevant', moment', read', reads', is_true⟩ := fallbackCanaryArmed_ok.mp is_armed
    cases read.symm.trans read'
    cases reads.symm.trans reads'
    exact is_true
  have once {moment own deciding_ : Moment} (is_armed : armed ownerLogin authorizationLabel relevant moment = true)
      (selects : selected ownerLogin authorizationLabel relevant moment = some own)
      (decides : deciding relevant own = some deciding_) :
      ∀ earlier ∈ previous ownerLogin authorizationLabel relevant moment, earlier < deciding_ := by
    obtain ⟨_, _, selects', decides', _, _, law⟩ := armed_iff.mp is_armed
    cases selects.symm.trans selects'
    cases decides.symm.trans decides'
    exact law
  cases lt_or_gt_of_ne apart with
  | inl later =>
      exact ne_of_lt (deciding_lt timed found found' later decides decides'
        (once (holds two at_') found' decides')) same
  | inr earlier =>
      exact ne_of_gt (deciding_lt timed found' found earlier decides' decides
        (once (holds one at_) found decides)) same

theorem fallbackCanaryArmed_harmless :
    NeverArmedBy ownerLogin authorizationLabel (Harmless ownerLogin authorizationLabel) := by
  intro events extra all authorizedAt relevant cutoff read at_ perm harmless unarmed is_armed
  obtain ⟨others, cutoff', read', at_', holds⟩ := fallbackCanaryArmed_ok.mp is_armed
  cases at_.symm.trans at_'
  have formed := wellFormed_of_read read'
  obtain ⟨timed, sorted⟩ := readEvents_timed read
  obtain ⟨timed', sorted'⟩ := readEvents_timed read'
  have together : others.Perm (relevant ++ extra.filterMap eventOf) := by
    refine (sorted'.trans (perm.filterMap eventOf)).trans ?_
    rw [List.filterMap_append]
    exact sorted.symm.append_right _
  have each : ∀ event ∈ extra.filterMap eventOf, Harmless ownerLogin authorizationLabel relevant cutoff event := by
    intro event inside
    obtain ⟨added, there, own⟩ := List.mem_filterMap.mp inside
    obtain ⟨found, reads⟩ := formed added (perm.mem_iff.mpr (List.mem_append_right _ there))
    exact harmless added there event (own ▸ readEvent_eq reads)
  have still := armed_of_harmless timed timed' together each holds
  obtain ⟨relevant', cutoff', read', at_', not_armed⟩ := fallbackCanaryArmed_ok.mp unarmed
  cases read.symm.trans read'
  cases at_.symm.trans at_'
  exact Bool.false_ne_true (not_armed.symm.trans still)

end

/-- The verdict is that of the events in any order, one arming serves one authorization, and only
the owner arms. An event of the owner's that authorizes later selects another instant. -/
theorem fallbackCanaryArmed_law (ownerLogin authorizationLabel : String) :
    OrderIndependent ownerLogin authorizationLabel ∧ SingleUse ownerLogin authorizationLabel ∧
      NeverArmedBy ownerLogin authorizationLabel (Harmless ownerLogin authorizationLabel) :=
  ⟨fallbackCanaryArmed_perm, fallbackCanaryArmed_once, fallbackCanaryArmed_harmless⟩

def sampleEvent (kind label actor created : String) : Mapping :=
  [("event", .str kind), ("label", .obj [("name", .str label)]), ("actor", .obj [("login", .str actor)]),
    ("created_at", .str created)]

def sampleEvents : List Mapping :=
  [sampleEvent "labeled" "authorize" "owner" "2026-01-01T00:00:10Z",
    sampleEvent "labeled" fallbackCanaryLabel "owner" "2026-01-01T00:00:15Z"]

def sampleAuthorizing : Mapping := sampleEvent "labeled" "authorize" "owner" "2026-01-01T00:00:18Z"

/-- So many seconds after the first ones of a year. -/
def sampleSecond (n : Fin 60) : Moment := ⟨63902822400000000 + n * Calendar.microsPerSecond, by
  have few := n.isLt
  simp only [Calendar.microsPerSecond, Calendar.microsPerDay]
  omega⟩

def sampleRelevant : List LabelEvent :=
  [⟨sampleSecond 10, "labeled", "authorize", "owner"⟩,
    ⟨sampleSecond 15, "labeled", fallbackCanaryLabel, "owner"⟩]

def sampleAuthorization : LabelEvent := ⟨sampleSecond 18, "labeled", "authorize", "owner"⟩

theorem sample_texts :
    sampleEvents.mapM readEvent = .ok (sampleRelevant.map some) ∧
    readEvent sampleAuthorizing = .ok (some sampleAuthorization) ∧
    instant "2026-01-01T00:00:20Z" = .ok (sampleSecond 20) := by
  decide

theorem sample_read : readEvents sampleEvents = .ok sampleRelevant ∧
    readEvents (sampleEvents ++ [sampleAuthorizing]) = .ok (sampleRelevant ++ [sampleAuthorization]) := by
  have both : (sampleEvents ++ [sampleAuthorizing]).mapM readEvent =
      .ok ((sampleRelevant ++ [sampleAuthorization]).map some) := by
    rw [List.mapM_append, sample_texts.1, ok_bind, List.mapM_cons, sample_texts.2.1]
    rfl
  refine ⟨readEvents_of_timed sample_texts.1 ?_, readEvents_of_timed both ?_⟩
  · unfold Timed
    decide
  · unfold Timed
    decide

theorem sample_armed :
    fallbackCanaryArmed "owner" "authorize" sampleEvents "2026-01-01T00:00:20Z" = .ok false ∧
    fallbackCanaryArmed "owner" "authorize" (sampleEvents ++ [sampleAuthorizing]) "2026-01-01T00:00:20Z" =
      .ok true := by
  obtain ⟨read, read'⟩ := sample_read
  refine ⟨fallbackCanaryArmed_ok.mpr ⟨_, _, read, sample_texts.2.2, ?_⟩,
    fallbackCanaryArmed_ok.mpr ⟨_, _, read', sample_texts.2.2, ?_⟩⟩
  · decide
  · decide

/-- The owner authorizes again after the arming: the event is later than the one that was selected,
and takes its place. -/
theorem fallbackCanaryArmed_law_fails :
    ¬NeverArmedBy "owner" "authorize" (LateOrForeign "owner" "authorize") := by
  intro law
  refine law sampleEvents [sampleAuthorizing] _ "2026-01-01T00:00:20Z" sampleRelevant (sampleSecond 20)
    sample_read.1 sample_texts.2.2 (List.Perm.refl _) ?_ sample_armed.1 sample_armed.2
  intro event inside found same
  rw [List.mem_singleton.mp inside] at same
  cases sample_texts.2.1.symm.trans same
  exact Or.inr ⟨sampleSecond 10, by decide, by decide⟩

/-- The armed history is read the other way round. -/
theorem fallbackCanaryArmed_law_sample :
    fallbackCanaryArmed "owner" "authorize" (sampleEvents ++ [sampleAuthorizing]).reverse
      "2026-01-01T00:00:20Z" = .ok true := by
  have formed := wellFormed_of_read sample_read.2
  rw [(fallbackCanaryArmed_law "owner" "authorize").1 _ _ _ formed (List.reverse_perm _).symm]
  exact sample_armed.2

end Hunter.IssueAgent
