import Mathlib

/-!
Choosing a value from what is known and from what was said. A list settles a choice
if all its items are one value; what was said decides by its last word. The two rules
agree about a list that is cut in two only under a condition on its parts.
-/

namespace Choice

variable {α : Type} [DecidableEq α]

/-- The only value of a list. -/
def sole (values : List α) : Option α :=
  match values.dedup with
  | [value] => some value
  | _ => none

theorem sole_eq_some {values : List α} {a : α} :
    sole values = some a ↔ ∀ b, b ∈ values ↔ b = a := by
  have distinct := values.nodup_dedup
  have same (b : α) : b ∈ values.dedup ↔ b ∈ values := List.mem_dedup
  simp only [sole, ← same]
  generalize values.dedup = items at distinct
  match items, distinct with
  | [], _ => simp
  | [x], _ =>
      simp only [Option.some.injEq, List.mem_singleton]
      exact ⟨fun h b => h ▸ Iff.rfl, fun h => (h x).mp rfl⟩
  | x :: y :: rest, distinct =>
      have apart : x ≠ y := fun same => (List.nodup_cons.mp distinct).1 (same ▸ List.mem_cons_self)
      refine ⟨nofun, fun h => absurd ?_ apart⟩
      rw [(h x).mp List.mem_cons_self, (h y).mp (List.mem_cons_of_mem _ List.mem_cons_self)]

theorem sole_isSome {values : List α} (nonempty : values ≠ []) :
    (sole values).isSome ↔ ∀ a ∈ values, ∀ b ∈ values, a = b := by
  constructor
  · intro one a first b second
    obtain ⟨c, only⟩ := Option.isSome_iff_exists.mp one
    have all := sole_eq_some.mp only
    rw [(all a).mp first, (all b).mp second]
  · intro same
    obtain ⟨a, present⟩ := List.exists_mem_of_ne_nil _ nonempty
    have only : sole values = some a :=
      sole_eq_some.mpr fun b => ⟨fun member => same b member a present, fun here => here ▸ present⟩
    exact Option.isSome_of_eq_some only

theorem sole_congr {a b : List α} (h : ∀ x, x ∈ a ↔ x ∈ b) : sole a = sole b := by
  ext x
  simp only [sole_eq_some, h]

theorem sole_append_left {known said : List α} {a : α} (h : sole known = some a) :
    sole (known ++ said) = if said ⊆ [a] then some a else none := by
  have only := sole_eq_some.mp h
  split
  · rename_i within
    refine sole_eq_some.mpr fun b => ?_
    rw [List.mem_append, only]
    exact ⟨fun h => h.elim id fun member => List.mem_singleton.mp (within member), .inl⟩
  · rename_i beyond
    refine Option.eq_none_iff_forall_ne_some.mpr fun b same => beyond fun x member => ?_
    have all := sole_eq_some.mp same
    have first := (all a).mp (List.mem_append_left _ ((only a).mpr rfl))
    rw [List.mem_singleton, first]
    exact (all x).mp (List.mem_append_right _ member)

/-- What is known decides if it is one value, else the last word does. -/
def choose (known said : List α) : Option α := (sole known).or said.getLast?

theorem choose_nil (known : List α) : choose known [] = sole known := by
  rw [choose, List.getLast?_nil, Option.or_none]

/-- What was said agrees with what is known, or one of the two is silent. -/
def Undisputed (known said : List α) : Prop := said = [] ∨ (sole (known ++ said)).isSome

/-- What is said after a cut keeps the choice as it is when the words before the cut
are known and no longer said. -/
def Settled (known before after : List α) : Prop :=
  before = [] ∨
    match sole known, sole (known ++ before) with
    | some _, some _ => True
    | some a, none => after.getLast? = some a
    | none, some a => ∀ last ∈ after.getLast?, last = a
    | none, none => after ≠ []

omit [DecidableEq α] in
theorem getLast?_append_of_ne {before after : List α} (h : after ≠ []) :
    (before ++ after).getLast? = after.getLast? := by
  obtain ⟨last, same⟩ := Option.ne_none_iff_exists'.mp (mt List.getLast?_eq_none_iff.mp h)
  rw [List.getLast?_append, same, Option.some_or]

theorem choose_append {known before after : List α} :
    choose known (before ++ after) = choose (known ++ before) after ↔
      Settled known before after := by
  by_cases empty : before = []
  · subst empty
    simp [Settled]
  · have some_last : (before ++ after).getLast? ≠ none := by simp [empty]
    simp only [Settled, empty, false_or, choose]
    cases one : sole known with
    | some a =>
        rw [sole_append_left one]
        by_cases within : before ⊆ [a]
        · simp [within]
        · simp only [if_neg within, Option.some_or, Option.none_or]
          exact eq_comm
    | none =>
        simp only [Option.none_or]
        cases both : sole (known ++ before) with
        | none =>
            rw [Option.none_or]
            refine ⟨fun same silent => some_last ?_, getLast?_append_of_ne⟩
            rw [same, silent, List.getLast?_nil]
        | some a =>
            rw [Option.some_or]
            by_cases silent : after = []
            · subst silent
              obtain ⟨last, same⟩ := Option.ne_none_iff_exists'.mp some_last
              have member : last ∈ known ++ before := by
                rw [List.append_nil] at same
                exact List.mem_append_right _ (List.mem_of_getLast? same)
              rw [same, (sole_eq_some.mp both last).mp member]
              simp
            · obtain ⟨last, same⟩ := Option.ne_none_iff_exists'.mp
                (mt List.getLast?_eq_none_iff.mp silent)
              rw [getLast?_append_of_ne silent, same]
              simp

/-- Where nothing is disputed, every cut is settled. -/
theorem Undisputed.settled {known before after : List α}
    (h : Undisputed known (before ++ after)) : Settled known before after := by
  cases h with
  | inl silent => exact .inl (List.append_eq_nil_iff.mp silent).1
  | inr agreed =>
      obtain ⟨a, agreed⟩ := Option.isSome_iff_exists.mp agreed
      have all := sole_eq_some.mp agreed
      by_cases empty : before = []
      · exact .inl empty
      · obtain ⟨word, present⟩ := List.exists_mem_of_ne_nil _ empty
        have one : sole (known ++ before) = some a := by
          refine sole_eq_some.mpr fun b => ⟨fun member => (all b).mp ?_, ?_⟩
          · rw [← List.append_assoc]
            exact List.mem_append_left _ member
          · rintro rfl
            have same := (all word).mp (List.mem_append_right _ (List.mem_append_left _ present))
            exact same ▸ List.mem_append_right _ present
        refine .inr ?_
        rw [one]
        cases sole known with
        | some b => trivial
        | none =>
            intro last found
            have member := List.mem_append_right before (List.mem_of_getLast? found)
            exact (all last).mp (List.mem_append_right _ member)

theorem Undisputed.choose_isSome {known said : List α} (h : said ≠ []) :
    (choose known said).isSome := by
  rw [choose, Option.isSome_or]
  simp [h]

end Choice
