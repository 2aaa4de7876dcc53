import Mathlib

/-!
Computations that may raise, over any type of exceptions: a check that raises, the
result of a sequence of steps read back step by step, and the state a transaction
leaves, which is the old one when it raises.
-/

namespace Fallible

variable {ε α β : Type}

def require (condition : Prop) [Decidable condition] (exn : ε) : Except ε Unit :=
  if condition then .ok () else .error exn

theorem require_ok {condition : Prop} [Decidable condition] {exn : ε} :
    require condition exn = .ok () ↔ condition := by
  unfold require
  split <;> simp_all

theorem require_of {condition : Prop} [Decidable condition] {exn : ε} (h : condition) :
    require condition exn = .ok () :=
  require_ok.mpr h

@[simp] theorem ok_bind (value : α) (next : α → Except ε β) :
    ((.ok value : Except ε α) >>= next) = next value := rfl

@[simp] theorem error_bind (exn : ε) (next : α → Except ε β) :
    ((.error exn : Except ε α) >>= next) = .error exn := rfl

@[simp] theorem pure_eq_ok (value : α) : (pure value : Except ε α) = .ok value := rfl

theorem bind_ok {first : Except ε α} {next : α → Except ε β} {result : β} :
    (first >>= next) = .ok result ↔ ∃ value, first = .ok value ∧ next value = .ok result := by
  cases first with
  | error exn => simp
  | ok value => simp

theorem exists_unit {P : Unit → Prop} : (∃ value, P value) ↔ P () :=
  ⟨fun ⟨(), holds⟩ => holds, fun holds => ⟨(), holds⟩⟩

theorem check_ok {check : Except ε Unit} {next : Unit → Except ε β} {result : β} :
    (check >>= next) = .ok result ↔ check = .ok () ∧ next () = .ok result := by
  rw [bind_ok]
  exact ⟨fun ⟨(), holds, rest⟩ => ⟨holds, rest⟩, fun ⟨holds, rest⟩ => ⟨(), holds, rest⟩⟩

/-- A check of a condition, then the rest. -/
theorem require_bind_ok {condition : Prop} [Decidable condition] {exn : ε}
    {next : Unit → Except ε β} {result : β} :
    (require condition exn >>= next) = .ok result ↔ condition ∧ next () = .ok result := by
  rw [check_ok, require_ok]

/-- `for` over a sequence: every item is mapped, or the first exception is raised. -/
theorem mapM_ok_of_forall {f : α → Except ε β} {g : α → β} {items : List α}
    (h : ∀ item ∈ items, f item = .ok (g item)) : items.mapM f = .ok (items.map g) := by
  induction items with
  | nil => rfl
  | cons item items ih =>
      rw [List.mapM_cons, h item List.mem_cons_self, ok_bind,
        ih fun other member => h other (List.mem_cons_of_mem item member)]
      rfl

theorem mapM_ok_of_filterMap {f : α → Except ε β} {g : α → Option β} {items : List α}
    (h : ∀ item ∈ items, ∃ value, g item = some value ∧ f item = .ok value) :
    items.mapM f = .ok (items.filterMap g) := by
  induction items with
  | nil => rfl
  | cons item items ih =>
      obtain ⟨value, found, made⟩ := h item List.mem_cons_self
      rw [List.mapM_cons, made, ok_bind, List.filterMap_cons_some found,
        ih fun other member => h other (List.mem_cons_of_mem item member)]
      rfl

/-- Every result of a mapped sequence is the image of an item. -/
theorem mapM_ok_mem {f : α → Except ε β} {items : List α} {results : List β}
    (h : items.mapM f = .ok results) {result : β} (member : result ∈ results) :
    ∃ item ∈ items, f item = .ok result := by
  induction items generalizing results with
  | nil =>
      cases h
      exact absurd member List.not_mem_nil
  | cons item items ih =>
      rw [List.mapM_cons] at h
      obtain ⟨first, made, h⟩ := bind_ok.mp h
      obtain ⟨rest, mapped, h⟩ := bind_ok.mp h
      cases h
      rcases List.mem_cons.mp member with rfl | later
      · exact ⟨item, List.mem_cons_self, made⟩
      · obtain ⟨other, inside, image⟩ := ih mapped later
        exact ⟨other, List.mem_cons_of_mem item inside, image⟩

theorem mapM_ok_length {f : α → Except ε β} {items : List α} {results : List β}
    (h : items.mapM f = .ok results) : results.length = items.length := by
  induction items generalizing results with
  | nil =>
      cases h
      rfl
  | cons item items ih =>
      rw [List.mapM_cons] at h
      obtain ⟨first, -, h⟩ := bind_ok.mp h
      obtain ⟨rest, mapped, h⟩ := bind_ok.mp h
      cases h
      rw [List.length_cons, List.length_cons, ih mapped]

/-- A check of every item. -/
theorem forM_ok {check : α → Except ε Unit} {items : List α} :
    items.forM check = .ok () ↔ ∀ item ∈ items, check item = .ok () := by
  induction items with
  | nil => exact iff_of_true rfl fun _ inside => absurd inside List.not_mem_nil
  | cons item items ih =>
      show (check item >>= fun _ => items.forM check) = .ok () ↔ _
      rw [check_ok, ih, List.forall_mem_cons]

theorem bind_error {first : Except ε α} {next : α → Except ε β} {exn : ε} :
    (first >>= next) = .error exn ↔ first = .error exn ∨ ∃ value, first = .ok value ∧ next value = .error exn := by
  cases first with
  | error other => simp
  | ok value => simp

theorem check_error {check : Except ε Unit} {next : Unit → Except ε β} {exn : ε} :
    (check >>= next) = .error exn ↔ check = .error exn ∨ check = .ok () ∧ next () = .error exn := by
  cases check with
  | error other => simp
  | ok value => simp

theorem require_error {condition : Prop} [Decidable condition] {exn other : ε} :
    require condition exn = .error other ↔ ¬condition ∧ exn = other := by
  unfold require
  split <;> simp_all

/-- The first item whose check raises. -/
theorem forM_error {check : α → Except ε Unit} {items : List α} {exn : ε} :
    items.forM check = .error exn ↔ ∃ front item back, items = front ++ item :: back ∧
      (∀ earlier ∈ front, check earlier = .ok ()) ∧ check item = .error exn := by
  induction items with
  | nil => exact iff_of_false nofun fun ⟨front, _, _, same, _⟩ => by cases front <;> cases same
  | cons first items ih =>
      show (check first >>= fun _ => items.forM check) = .error exn ↔ _
      rw [check_error, ih]
      constructor
      · rintro (raised | ⟨passed, front, item, back, same, earlier, raised⟩)
        · exact ⟨[], first, items, rfl, fun _ inside => absurd inside List.not_mem_nil, raised⟩
        · exact ⟨first :: front, item, back, congrArg (first :: ·) same,
            List.forall_mem_cons.mpr ⟨passed, earlier⟩, raised⟩
      · intro ⟨front, item, back, same, earlier, raised⟩
        cases front with
        | nil =>
            cases same
            exact Or.inl raised
        | cons other front =>
            cases same
            obtain ⟨passed, earlier⟩ := List.forall_mem_cons.mp earlier
            exact Or.inr ⟨passed, front, item, back, rfl, earlier, raised⟩

/-- Every item that stops comes after one that holds. -/
def Late (stops holds : α → Prop) (items : List α) : Prop :=
  ∀ front item back, items = front ++ item :: back → stops item → ∃ earlier ∈ front, holds earlier

section Late

variable {stops holds : α → Prop} {first : α} {items : List α}

theorem late_nil : Late stops holds [] := by
  intro front item back same
  rcases List.append_eq_nil_iff.mp same.symm with ⟨-, ⟨⟩⟩

theorem late_cons :
    Late stops holds (first :: items) ↔ ¬stops first ∧ (holds first ∨ Late stops holds items) := by
  constructor
  · intro late
    have here : ¬stops first := fun stop => by
      obtain ⟨earlier, inside, -⟩ := late [] first items rfl stop
      cases inside
    refine ⟨here, or_iff_not_imp_left.mpr fun other front item back same stop => ?_⟩
    obtain ⟨earlier, inside, held⟩ := late (first :: front) item back (congrArg (first :: ·) same) stop
    rcases List.mem_cons.mp inside with rfl | inside
    · exact absurd held other
    · exact ⟨earlier, inside, held⟩
  · intro ⟨here, rest⟩ front item back same stop
    cases front with
    | nil =>
        cases same
        exact absurd stop here
    | cons other front =>
        cases same
        rcases rest with held | late
        · exact ⟨first, List.mem_cons_self, held⟩
        · obtain ⟨earlier, inside, held⟩ := late front item back rfl stop
          exact ⟨earlier, List.mem_cons_of_mem _ inside, held⟩

theorem late_of_none (none : ∀ item ∈ items, ¬stops item) : Late stops holds items :=
  fun front item _ same stop => absurd stop (none item (same ▸ List.mem_append_right front List.mem_cons_self))

end Late

theorem anyM_false {conditions : List (Except ε Bool)} :
    conditions.anyM id = .ok false ↔ ∀ condition ∈ conditions, condition = .ok false := by
  induction conditions with
  | nil => exact iff_of_true rfl fun _ inside => absurd inside List.not_mem_nil
  | cons condition conditions ih =>
      rw [List.forall_mem_cons]
      cases condition with
      | error exn => exact iff_of_false nofun fun both => nomatch both.1
      | ok answer =>
          cases answer with
          | true => exact iff_of_false nofun fun both => nomatch both.1
          | false => exact ih.trans (iff_and_self.mpr fun _ => rfl)

theorem anyM_true {conditions : List (Except ε Bool)} (found : conditions.anyM id = .ok true) :
    .ok true ∈ conditions := by
  induction conditions with
  | nil => cases found
  | cons condition conditions ih =>
      cases condition with
      | error exn => cases found
      | ok answer =>
          cases answer with
          | true => exact List.mem_cons_self
          | false => exact List.mem_cons_of_mem _ (ih found)

theorem anyM_append {α : Type} {condition : α → Except ε Bool} {xs ys : List α} :
    (xs ++ ys).anyM condition = (xs.anyM condition <||> ys.anyM condition) := by
  induction xs with
  | nil => rfl
  | cons x xs ih =>
      rw [List.cons_append, List.anyM_cons, List.anyM_cons]
      cases condition x with
      | error exn => rfl
      | ok answer =>
          cases answer with
          | true => rfl
          | false => exact ih

theorem anyM_flatMap {α : Type} {conditions : α → List (Except ε Bool)} {items : List α} :
    (items.flatMap conditions).anyM id = items.anyM fun item => (conditions item).anyM id := by
  induction items with
  | nil => rfl
  | cons item items ih =>
      rw [List.flatMap_cons, anyM_append, ih, List.anyM_cons]
      cases (conditions item).anyM id with
      | error exn => rfl
      | ok answer => cases answer <;> rfl

theorem anyM_answered {conditions : List (Except ε Bool)}
    (ok : ∀ condition ∈ conditions, ∃ answer, condition = .ok answer) :
    ∃ answer, conditions.anyM id = .ok answer := by
  induction conditions with
  | nil => exact ⟨false, rfl⟩
  | cons condition conditions ih =>
      obtain ⟨⟨answer, rfl⟩, rest⟩ := List.forall_mem_cons.mp ok
      cases answer with
      | true => exact ⟨true, rfl⟩
      | false => exact ih rest

/-- There is an answer just where every item whose condition raises comes after one whose
condition holds. -/
theorem anyM_late {stops holds : α → Prop} {conditions : α → List (Except ε Bool)} {items : List α}
    (stop : ∀ item ∈ items, stops item → ∃ exn, conditions item = [.error exn])
    (pass : ∀ item ∈ items, ¬stops item → ∀ condition ∈ conditions item, ∃ answer, condition = .ok answer)
    (hold : ∀ item ∈ items, .ok true ∈ conditions item ↔ holds item) :
    (∃ answer, (items.flatMap conditions).anyM id = .ok answer) ↔ Late stops holds items := by
  induction items with
  | nil => exact iff_of_true ⟨false, rfl⟩ late_nil
  | cons item items ih =>
      obtain ⟨stop, stopRest⟩ := List.forall_mem_cons.mp stop
      obtain ⟨pass, passRest⟩ := List.forall_mem_cons.mp pass
      obtain ⟨hold, holdRest⟩ := List.forall_mem_cons.mp hold
      rw [List.flatMap_cons, anyM_append, late_cons]
      by_cases stopped : stops item
      · obtain ⟨exn, raised⟩ := stop stopped
        rw [raised]
        exact iff_of_false (by rintro ⟨answer, ⟨⟩⟩) fun both => both.1 stopped
      · obtain ⟨answer, answered⟩ := anyM_answered (pass stopped)
        rw [answered]
        cases answer with
        | true => exact iff_of_true ⟨true, rfl⟩ ⟨stopped, Or.inl (hold.mp (anyM_true answered))⟩
        | false =>
            have other : ¬holds item := fun held => by cases anyM_false.mp answered _ (hold.mpr held)
            rw [and_iff_right stopped, or_iff_right other]
            exact ih stopRest passRest holdRest

variable {σ : Type}

/-- The state after a transaction: an exception rolls it back. -/
def committed (state : σ) : Except ε (α × σ) → σ
  | .ok (_, after) => after
  | .error _ => state

theorem committed_cases {P : σ → Prop} {state : σ} {result : Except ε (α × σ)} (same : P state)
    (done : ∀ value after, result = .ok (value, after) → P after) : P (committed state result) := by
  cases result with
  | error exn => exact same
  | ok pair => exact done pair.1 pair.2 rfl

theorem committed_error {state : σ} {result : Except ε (α × σ)} {exn : ε}
    (raised : result.map Prod.fst = .error exn) : committed state result = state := by
  cases result with
  | error exn => rfl
  | ok pair => cases raised

end Fallible
