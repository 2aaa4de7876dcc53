import Mathlib

/-!
Lists of records that name their predecessors by key. A list is linked when every
record names the one before it, and the first a given key or none. The record that no
other names is then the last one, and walking back from it visits the list in
reverse. In a forest of records some may name the same one, but none a later one.
-/

namespace Lineage

variable {α κ : Type} (key : α → κ) (parent : α → Option κ)

def Linked : Option κ → List α → Prop
  | _, [] => True
  | before, a :: rest => parent a = before ∧ Linked (some (key a)) rest

/-- The key the next record of a line has to name. -/
def tip (before : Option κ) (items : List α) : Option κ := (items.getLast?.map key).or before

@[simp] theorem tip_nil (before : Option κ) : tip key before [] = before := rfl

@[simp] theorem tip_append_singleton (before : Option κ) (items : List α) (a : α) :
    tip key before (items ++ [a]) = some (key a) := by
  simp [tip]

theorem tip_cons (before : Option κ) (a : α) (items : List α) :
    tip key before (a :: items) = tip key (some (key a)) items := by
  cases items with
  | nil => rfl
  | cons b items => simp [tip, List.getLast?_cons]

variable {key parent}

theorem linked_append {before : Option κ} {xs ys : List α} :
    Linked key parent before (xs ++ ys) ↔
      Linked key parent before xs ∧ Linked key parent (tip key before xs) ys := by
  induction xs generalizing before with
  | nil => simp [Linked]
  | cons a xs ih => rw [List.cons_append, Linked, Linked, ih, tip_cons, and_assoc]

theorem linked_snoc {before : Option κ} {items : List α} {a : α} :
    Linked key parent before (items ++ [a]) ↔
      Linked key parent before items ∧ parent a = tip key before items := by
  rw [linked_append]
  simp [Linked]

/-- Every record names the key the list starts from or the key of another record. -/
theorem Linked.parent_mem {before : Option κ} {items : List α} (h : Linked key parent before items)
    {a : α} (member : a ∈ items) : parent a = before ∨ ∃ b ∈ items, parent a = some (key b) := by
  induction items generalizing before with
  | nil => exact absurd member List.not_mem_nil
  | cons b items ih =>
      obtain ⟨first, rest⟩ := h
      rcases List.mem_cons.mp member with rfl | later
      · exact Or.inl first
      · rcases ih rest later with start | ⟨c, inside, names⟩
        · exact Or.inr ⟨b, List.mem_cons_self, start⟩
        · exact Or.inr ⟨c, List.mem_cons_of_mem b inside, names⟩

/-- A record with another one after it is named by that one. -/
theorem Linked.named_of_append {before : Option κ} {xs ys : List α} {a : α} (ne : ys ≠ [])
    (h : Linked key parent before (xs ++ a :: ys)) : ∃ b ∈ ys, parent b = some (key a) := by
  cases ys with
  | nil => exact absurd rfl ne
  | cons b ys => exact ⟨b, List.mem_cons_self, (linked_append.mp h).2.2.1⟩

variable (key parent)

/-- Records linked from a key, numbered from `start`, every two of which are related
in their order. -/
structure Line (number : α → Nat) (r : α → α → Prop) (before : Option κ) (start : Nat)
    (items : List α) : Prop where
  linked : Linked key parent before items
  numbered : items.map number = List.range' start items.length
  ordered : items.Pairwise r

variable {key parent} {number : α → Nat} {r : α → α → Prop} {before : Option κ} {start : Nat}

theorem Line.nil : Line key parent number r before start [] := ⟨trivial, rfl, List.Pairwise.nil⟩

theorem numbered_snoc {front : List α} {last : α} :
    (front ++ [last]).map number = List.range' start (front ++ [last]).length ↔
      front.map number = List.range' start front.length ∧ number last = start + front.length := by
  rw [List.length_append, List.length_singleton, List.range'_1_concat, List.map_append,
    List.map_singleton]
  constructor
  · intro same
    obtain ⟨fronts, lasts⟩ := List.append_inj' same rfl
    exact ⟨fronts, by simpa using lasts⟩
  · rintro ⟨fronts, lasts⟩
    rw [fronts, lasts]

/-- What a line asks of the record that extends it. -/
theorem Line.snoc {front : List α} {last : α} :
    Line key parent number r before start (front ++ [last]) ↔ Line key parent number r before start front ∧
      parent last = tip key before front ∧ number last = start + front.length ∧
      ∀ a ∈ front, r a last := by
  constructor
  · rintro ⟨linked, numbered, ordered⟩
    obtain ⟨front_linked, names⟩ := linked_snoc.mp linked
    obtain ⟨front_numbered, number_eq⟩ := numbered_snoc.mp numbered
    obtain ⟨front_ordered, -, later⟩ := List.pairwise_append.mp ordered
    refine ⟨⟨front_linked, front_numbered, front_ordered⟩, names, number_eq, ?_⟩
    exact fun a member => later a member last (List.mem_singleton_self last)
  · rintro ⟨⟨linked, numbered, ordered⟩, names, number_eq, later⟩
    refine ⟨linked_snoc.mpr ⟨linked, names⟩, numbered_snoc.mpr ⟨numbered, number_eq⟩, ?_⟩
    refine List.pairwise_append.mpr ⟨ordered, List.pairwise_singleton _ _, ?_⟩
    intro a member b single
    rw [List.mem_singleton.mp single]
    exact later a member

theorem Line.front {front back : List α} (h : Line key parent number r before start (front ++ back)) :
    Line key parent number r before start front := by
  refine ⟨(linked_append.mp h.linked).1, ?_, (List.pairwise_append.mp h.ordered).1⟩
  have numbered := h.numbered
  rw [List.map_append, List.length_append, ← List.range'_append_1] at numbered
  exact (List.append_inj numbered (by simp)).1

theorem Line.increasing {items : List α} (h : Line key parent number r before start items) :
    items.Pairwise fun a b => number a < number b := by
  rw [← List.pairwise_map (R := (· < ·)), h.numbered]
  exact List.pairwise_lt_range'

theorem Line.number_lt {items : List α} (h : Line key parent number r before start items) {a : α}
    (member : a ∈ items) : number a < start + items.length := by
  have place : number a ∈ List.range' start items.length :=
    h.numbered ▸ List.mem_map_of_mem member
  exact (List.mem_range'_1.mp place).2

/-- A later record stands at the place its number names. -/
theorem Line.getElem? {items : List α} (h : Line key parent number r before start items) {a : α}
    (member : a ∈ items) : items[number a - start]? = some a := by
  obtain ⟨i, bound, rfl⟩ := List.getElem_of_mem member
  have place : (items.map number)[i]? = (List.range' start items.length)[i]? := by
    rw [h.numbered]
  rw [List.getElem?_map, List.getElem?_eq_getElem bound, Option.map_some,
    List.getElem?_range' (by simpa using bound)] at place
  have : number items[i] = start + i := by simpa using place
  rw [this, Nat.add_sub_cancel_left, List.getElem?_eq_getElem bound]

/-- Records of one number are one record. -/
theorem Line.eq_of_number {items : List α} (h : Line key parent number r before start items) {a b : α}
    (ha : a ∈ items) (hb : b ∈ items) (same : number a = number b) : a = b := by
  have first := h.getElem? ha
  rw [same, h.getElem? hb] at first
  exact (Option.some.inj first).symm

/-- The predecessor carries the number before. -/
theorem Line.number_of_parent {items : List α} (h : Line key parent number r none start items)
    (distinct : (items.map key).Nodup) {a b : α} (ha : a ∈ items) (hb : b ∈ items)
    (names : parent a = some (key b)) : number a = number b + 1 := by
  obtain ⟨xs, ys, rfl⟩ := List.append_of_mem ha
  have tip_eq := (linked_append.mp h.linked).2.1
  rw [names] at tip_eq
  rcases List.eq_nil_or_concat xs with rfl | ⟨zs, c, rfl⟩
  · cases tip_eq
  · rw [List.concat_eq_append] at *
    rw [tip_append_singleton] at tip_eq
    have same : b = c :=
      List.inj_on_of_nodup_map distinct hb (by simp) (Option.some.inj tip_eq)
    have whole : Line key parent number r none start (zs ++ [c] ++ [a] ++ ys) := by
      simpa using h
    obtain ⟨up_to_c, -, number_a, -⟩ := Line.snoc.mp whole.front
    obtain ⟨-, -, number_c, -⟩ := Line.snoc.mp up_to_c
    rw [number_a, same, number_c, List.length_append, List.length_singleton, Nat.add_assoc]

/-- A list is cut where a property that goes back along it ends. -/
theorem cut {P : α → Prop} [DecidablePred P] {items : List α}
    (back_closed : items.Pairwise fun a b => P b → P a) :
    ∃ front back, items = front ++ back ∧ (∀ a ∈ front, P a) ∧ ∀ a ∈ back, ¬ P a := by
  induction items with
  | nil => exact ⟨[], [], rfl, by simp, by simp⟩
  | cons first rest ih =>
      obtain ⟨before_rest, rest_closed⟩ := List.pairwise_cons.mp back_closed
      by_cases holds : P first
      · obtain ⟨front, back, rfl, inside, outside⟩ := ih rest_closed
        exact ⟨first :: front, back, rfl, List.forall_mem_cons.mpr ⟨holds, inside⟩, outside⟩
      · refine ⟨[], first :: rest, rfl, by simp, List.forall_mem_cons.mpr ⟨holds, ?_⟩⟩
        exact fun a member later => holds (before_rest a member later)

variable (key parent)

/-- Records of which none names itself or a later one. -/
structure Forest (items : List α) : Prop where
  earlier : items.Pairwise fun a b => parent a ≠ some (key b)
  proper : ∀ a ∈ items, parent a ≠ some (key a)

variable {key parent}

theorem Forest.nil : Forest key parent [] :=
  ⟨List.Pairwise.nil, fun _ there => absurd there List.not_mem_nil⟩

theorem Forest.snoc {items : List α} {a : α} (forest : Forest key parent items)
    (fresh : ∀ b ∈ items, parent b ≠ some (key a)) (proper : parent a ≠ some (key a)) :
    Forest key parent (items ++ [a]) := by
  constructor
  · refine List.pairwise_append.mpr ⟨forest.earlier, List.pairwise_singleton _ _, ?_⟩
    intro b there c single
    rw [List.mem_singleton.mp single]
    exact fresh b there
  · intro b there
    rcases List.mem_append.mp there with old | new
    · exact forest.proper b old
    · rw [List.mem_singleton.mp new]
      exact proper

/-- Of the records with a property one is named by none of them: the last. -/
theorem Forest.unnamed {items : List α} (forest : Forest key parent items) {p : α → Prop} {a : α}
    (there : a ∈ items) (holds : p a) :
    ∃ b ∈ items, p b ∧ ∀ c ∈ items, p c → parent c ≠ some (key b) := by
  induction items using List.reverseRecOn with
  | nil => exact absurd there List.not_mem_nil
  | append_singleton items last ih =>
      have later := (List.pairwise_append.mp forest.earlier).2.2
      have front : Forest key parent items :=
        ⟨(List.pairwise_append.mp forest.earlier).1,
          fun b inside => forest.proper b (List.mem_append_left _ inside)⟩
      by_cases chosen : p last
      · refine ⟨last, List.mem_append_right _ (List.mem_singleton_self last), chosen, ?_⟩
        intro c inside _
        rcases List.mem_append.mp inside with old | new
        · exact later c old last (List.mem_singleton_self last)
        · rw [List.mem_singleton.mp new]
          exact forest.proper last (List.mem_append_right _ (List.mem_singleton_self last))
      · have old : a ∈ items := by
          rcases List.mem_append.mp there with old | new
          · exact old
          · exact absurd (List.mem_singleton.mp new ▸ holds) chosen
        obtain ⟨b, inside, is, unnamed⟩ := ih front old
        refine ⟨b, List.mem_append_left _ inside, is, fun c member holds => ?_⟩
        rcases List.mem_append.mp member with older | new
        · exact unnamed c older holds
        · exact absurd (List.mem_singleton.mp new ▸ holds) chosen

variable [DecidableEq κ]

omit [DecidableEq κ] in
/-- A search finds the only record it accepts. -/
theorem find?_of_unique {items : List α} {p : α → Bool} {a : α} (member : a ∈ items)
    (holds : p a = true) (only : ∀ b ∈ items, p b = true → b = a) : items.find? p = some a := by
  cases found : items.find? p with
  | none => exact absurd holds (List.find?_eq_none.mp found a member)
  | some b => rw [only b (List.mem_of_find?_eq_some found) (List.find?_some found)]

/-- Among records of distinct keys a key finds its record. -/
theorem find?_key {items : List α} {a : α} (distinct : (items.map key).Nodup) (member : a ∈ items) :
    items.find? (fun b => key b = key a) = some a := by
  refine find?_of_unique member (by simp) fun b inside same => ?_
  exact List.inj_on_of_nodup_map distinct inside member (of_decide_eq_true same)

variable (key parent)

/-- The records that no other record names. -/
def heads (items : List α) : List α :=
  items.filter fun a => items.all fun b => parent b != some (key a)

variable {key parent}

omit [DecidableEq κ] in
/-- No record of a line of distinct records names the last one. -/
theorem unnamed_last {items : List α} {a : α} (linked : Linked key parent none (items ++ [a]))
    (distinct : ((items ++ [a]).map key).Nodup) : ∀ b ∈ items ++ [a], parent b ≠ some (key a) := by
  intro b member names
  obtain ⟨xs, ys, split⟩ := List.append_of_mem member
  have front := linked
  rw [split] at front
  have back := (linked_append.mp front).2.1
  rw [names] at back
  -- what stands before `b` is not empty and ends with the key of `a`
  rcases List.eq_nil_or_concat xs with rfl | ⟨zs, c, rfl⟩
  · simp at back
  · simp only [List.concat_eq_append, tip_append_singleton, Option.some.injEq] at back
    rw [List.concat_eq_append] at split
    have final : ∃ ws d, b :: ys = ws ++ [d] := by
      rcases List.eq_nil_or_concat (b :: ys) with none | ⟨ws, d, eq⟩
      · cases none
      · exact ⟨ws, d, eq.trans (List.concat_eq_append ..)⟩
    obtain ⟨ws, d, eq⟩ := final
    rw [eq, ← List.append_assoc] at split
    obtain ⟨same, single⟩ := List.append_inj' split rfl
    cases single
    rw [same, List.append_assoc, List.map_append, List.map_append, List.map_append] at distinct
    have apart := List.nodup_append.mp distinct
    have first : key c ∈ zs.map key ++ [c].map key := by simp
    refine apart.2.2 (key c) ?_ (key a) ?_ back.symm <;> simp

/-- The last record of a line of distinct records is its only head. -/
theorem heads_snoc {items : List α} {a : α} (linked : Linked key parent none (items ++ [a]))
    (distinct : ((items ++ [a]).map key).Nodup) : heads key parent (items ++ [a]) = [a] := by
  have last := unnamed_last linked distinct
  have others : ∀ b ∈ items, ¬ ∀ c ∈ items ++ [a], parent c ≠ some (key b) := by
    intro b member none
    obtain ⟨xs, ys, rfl⟩ := List.append_of_mem member
    rw [List.append_assoc, List.cons_append] at linked
    obtain ⟨c, inside, names⟩ := linked.named_of_append (by simp)
    refine none c ?_ names
    rw [List.append_assoc, List.cons_append]
    exact List.mem_append_right xs (List.mem_cons_of_mem b inside)
  have keep : (items ++ [a]).all (fun b => parent b != some (key a)) = true := by
    simpa only [List.all_eq_true, bne_iff_ne] using last
  have drop : ∀ b ∈ items, ¬ (items ++ [a]).all (fun c => parent c != some (key b)) = true := by
    intro b member
    simpa only [List.all_eq_true, bne_iff_ne] using others b member
  rw [heads, List.filter_append, List.filter_eq_nil_iff.mpr drop, List.nil_append]
  exact List.filter_cons_of_pos (by exact keep)

end Lineage
