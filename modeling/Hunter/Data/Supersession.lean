import Mathlib
import Hunter.Data.Lineage

/-!
Lines of records with a time each, read at a cutoff: a record governs there when it is
visible and no visible record names it as its predecessor. A line has at most one such
record at every cutoff as long as its times never rise above both neighbours of a
stretch, and a record may be appended to it exactly when it keeps them so.
-/

namespace Supersession

open Lineage

variable {α κ τ : Type} [LinearOrder τ] (key : α → κ) (parent : α → Option κ) (time : α → τ)

/-- Visible at the cutoff and superseded by nothing visible. -/
def Governs (items : List α) (cutoff : τ) (a : α) : Prop :=
  a ∈ items ∧ time a ≤ cutoff ∧ ∀ b ∈ items, time b ≤ cutoff → parent b ≠ some (key a)

/-- At most one record governs at every cutoff. -/
def Sole (items : List α) : Prop :=
  ∀ cutoff a b, Governs key parent time items cutoff a → Governs key parent time items cutoff b →
    a = b

/-- A record that starts a line, or that follows the record nothing follows yet while
no record stands above both it and its own predecessor. -/
def Extends (items : List α) (a : α) : Prop :=
  (items = [] ∧ parent a = none) ∨
    ∃ p ∈ items, parent a = some (key p) ∧ (∀ b ∈ items, parent b ≠ some (key p)) ∧
      ∀ b ∈ items, ∀ q ∈ items, parent b = some (key q) → time b ≤ time q ∨ time b ≤ time a

/-- A line of distinct records with one governing record at every cutoff. -/
structure Chain (items : List α) : Prop where
  linked : Linked key parent none items
  distinct : (items.map key).Nodup
  sole : Sole key parent time items

variable {key parent time}

theorem Chain.nil : Chain key parent time [] :=
  ⟨trivial, List.nodup_nil, fun _ _ _ governs _ => absurd governs.1 List.not_mem_nil⟩

section

variable {items : List α} (linked : Linked key parent none items)
include linked

/-- A record that nothing follows comes last. -/
theorem eq_last {p : α} (member : p ∈ items) (childless : ∀ b ∈ items, parent b ≠ some (key p)) :
    ∃ front, items = front ++ [p] := by
  obtain ⟨xs, ys, rfl⟩ := List.append_of_mem member
  cases ys with
  | nil => exact ⟨xs, rfl⟩
  | cons b ys =>
      have names := (linked_append.mp linked).2.2.1
      exact absurd names (childless b (by simp))

/-- Every other record is followed by one. -/
theorem named_of_ne {p a : α} (member : p ∈ items)
    (childless : ∀ b ∈ items, parent b ≠ some (key p)) (inside : a ∈ items) (apart : a ≠ p) :
    ∃ b ∈ items, parent b = some (key a) := by
  obtain ⟨front, rfl⟩ := eq_last linked member childless
  have before : a ∈ front := by
    rcases List.mem_append.mp inside with before | last
    · exact before
    · exact absurd (List.mem_singleton.mp last) apart
  obtain ⟨xs, ys, rfl⟩ := List.append_of_mem before
  rw [List.append_assoc, List.cons_append] at linked ⊢
  cases rest : ys ++ [p] with
  | nil => simp at rest
  | cons b others =>
      rw [rest] at linked
      exact ⟨b, by simp, (linked_append.mp linked).2.2.1⟩

/-- Two records that follow the same one are the same. -/
theorem eq_of_parent (distinct : (items.map key).Nodup) {a b : α} (a_in : a ∈ items) (b_in : b ∈ items)
    (same : parent a = parent b) : a = b := by
  induction items using List.reverseRecOn with
  | nil => exact absurd a_in List.not_mem_nil
  | append_singleton front last ih =>
      obtain ⟨before, names⟩ := linked_snoc.mp linked
      have apart : ∀ c ∈ front, parent c ≠ parent last := by
        intro c member parents
        obtain ⟨xs, ys, rfl⟩ := List.append_of_mem member
        have own : parent c = tip key none xs := (linked_append.mp before).2.1
        rw [own, names] at parents
        rw [List.map_append, List.map_append] at distinct
        have separate := (List.nodup_append.mp (List.nodup_append.mp distinct).1).2.2
        -- the last record before `c` would have the key of the last one after it
        rcases List.eq_nil_or_concat xs with rfl | ⟨us, d, rfl⟩
        · rcases List.eq_nil_or_concat (c :: ys) with none | ⟨vs, e, eq⟩
          · cases none
          · rw [eq, List.concat_eq_append, ← List.append_assoc, tip_append_singleton] at parents
            cases parents
        · rcases List.eq_nil_or_concat (c :: ys) with none | ⟨vs, e, eq⟩
          · cases none
          · rw [eq] at parents separate
            simp only [List.concat_eq_append, ← List.append_assoc, tip_append_singleton,
              Option.some.injEq] at parents separate
            exact separate (key d) (by simp) (key e) (by simp) parents
      rcases List.mem_append.mp a_in with a_old | a_new <;>
        rcases List.mem_append.mp b_in with b_old | b_new
      · rw [List.map_append] at distinct
        exact ih before (List.nodup_append.mp distinct).1 a_old b_old
      · rw [List.mem_singleton.mp b_new] at same
        exact absurd same (apart a a_old)
      · rw [List.mem_singleton.mp a_new] at same
        exact absurd same.symm (apart b b_old)
      · rw [List.mem_singleton.mp a_new, List.mem_singleton.mp b_new]

end

theorem Governs.old {items : List α} {a b : α} {cutoff : τ}
    (governs : Governs key parent time (items ++ [a]) cutoff b) (old : b ∈ items) :
    Governs key parent time items cutoff b ∧ (time a ≤ cutoff → parent a ≠ some (key b)) := by
  obtain ⟨-, visible, unnamed⟩ := governs
  refine ⟨⟨old, visible, fun c member => unnamed c (List.mem_append_left _ member)⟩, ?_⟩
  exact unnamed a (List.mem_append_right _ (List.mem_singleton_self a))

section

variable {items : List α} {a : α} (chain : Chain key parent time items)
  (fresh : key a ∉ items.map key)
include chain fresh

/-- A record of a line is named by records of the line only. -/
theorem Chain.not_named : ∀ b ∈ items, parent b ≠ some (key a) := by
  intro b member names
  rcases chain.linked.parent_mem member with none | ⟨c, inside, same⟩
  · rw [names] at none
    cases none
  · rw [names, Option.some.injEq] at same
    exact fresh (same ▸ List.mem_map_of_mem inside)

/-- The new record follows the last one, so whatever else governs would have to stand
under a record that is not visible yet. -/
theorem Chain.append (follows : Extends key parent time items a) :
    Chain key parent time (items ++ [a]) := by
  rcases follows with ⟨rfl, root⟩ | ⟨p, p_in, names, childless, level⟩
  · refine ⟨linked_snoc.mpr ⟨trivial, root⟩, by simp, fun cutoff b c hb hc => ?_⟩
    rw [List.mem_singleton.mp hb.1, List.mem_singleton.mp hc.1]
  have linked : Linked key parent none (items ++ [a]) := by
    obtain ⟨front, rfl⟩ := eq_last chain.linked p_in childless
    exact linked_snoc.mpr ⟨chain.linked, by rw [names, tip_append_singleton]⟩
  have distinct : ((items ++ [a]).map key).Nodup := by
    rw [List.map_append]
    refine List.nodup_append.mpr ⟨chain.distinct, List.nodup_singleton _, ?_⟩
    intro k old l single same
    rw [List.mem_singleton.mp single] at same
    exact fresh (same ▸ old)
  have alone : ∀ cutoff b, Governs key parent time (items ++ [a]) cutoff a →
      Governs key parent time (items ++ [a]) cutoff b → b ∈ items → False := by
    intro cutoff b own other old
    obtain ⟨governs, unnamed⟩ := other.old old
    have apart : b ≠ p := by
      rintro rfl
      exact unnamed own.2.1 names
    obtain ⟨c, c_in, c_names⟩ := named_of_ne chain.linked p_in childless old apart
    have hidden := mt (governs.2.2 c c_in) (not_not.mpr c_names)
    rcases level c c_in b old c_names with low | low
    · exact hidden (low.trans governs.2.1)
    · exact hidden (low.trans own.2.1)
  refine ⟨linked, distinct, fun cutoff b c hb hc => ?_⟩
  rcases List.mem_append.mp hb.1 with b_old | b_new <;>
    rcases List.mem_append.mp hc.1 with c_old | c_new
  · exact chain.sole cutoff b c (hb.old b_old).1 (hc.old c_old).1
  · rw [List.mem_singleton.mp c_new] at hc
    exact (alone cutoff b hc hb b_old).elim
  · rw [List.mem_singleton.mp b_new] at hb
    exact (alone cutoff c hb hc c_old).elim
  · rw [List.mem_singleton.mp b_new, List.mem_singleton.mp c_new]

/-- A line of governing records is only ever extended so. -/
theorem Chain.extends_of_sole
    (named : (items = [] ∧ parent a = none) ∨ ∃ p ∈ items, parent a = some (key p))
    (sole : Sole key parent time (items ++ [a])) : Extends key parent time items a := by
  rcases named with root | ⟨p, p_in, names⟩
  · exact Or.inl root
  have own_not_named : ∀ b ∈ items ++ [a], parent b ≠ some (key a) := by
    intro b member same
    rcases List.mem_append.mp member with old | new
    · exact chain.not_named fresh b old same
    · rw [List.mem_singleton.mp new, names, Option.some.injEq] at same
      exact fresh (same ▸ List.mem_map_of_mem p_in)
  have governs_new : ∀ cutoff, time a ≤ cutoff →
      Governs key parent time (items ++ [a]) cutoff a := fun cutoff visible =>
    ⟨List.mem_append_right _ (List.mem_singleton_self a), visible, fun b member _ =>
      own_not_named b member⟩
  -- a record of the line that governs beside the new one
  have no_other : ∀ b ∈ items, ∀ cutoff, time a ≤ cutoff →
      ¬ Governs key parent time (items ++ [a]) cutoff b := by
    intro b member cutoff visible governs
    have same := sole cutoff a b (governs_new cutoff visible) governs
    exact fresh (same ▸ List.mem_map_of_mem member)
  have childless : ∀ b ∈ items, parent b ≠ some (key p) := by
    intro b b_in b_names
    obtain ⟨front, last, rfl⟩ : ∃ front last, items = front ++ [last] := by
      rcases List.eq_nil_or_concat items with rfl | ⟨front, last, eq⟩
      · exact absurd p_in List.not_mem_nil
      · exact ⟨front, last, eq.trans (List.concat_eq_append ..)⟩
    have top := unnamed_last chain.linked chain.distinct
    have apart : last ≠ p := by
      rintro rfl
      exact top b b_in b_names
    refine no_other last (by simp) (max (time a) (time last)) (le_max_left _ _)
      ⟨by simp, le_max_right _ _, fun c member _ same => ?_⟩
    rcases List.mem_append.mp member with old | new
    · exact top c old same
    · rw [List.mem_singleton.mp new, names, Option.some.injEq] at same
      exact apart (List.inj_on_of_nodup_map chain.distinct p_in (by simp) same).symm
  refine Or.inr ⟨p, p_in, names, childless, fun b b_in q q_in b_names => ?_⟩
  by_contra high
  rw [not_or, not_le, not_le] at high
  refine no_other q q_in (max (time q) (time a)) (le_max_right _ _)
    ⟨List.mem_append_left _ q_in, le_max_left _ _, fun c member visible same => ?_⟩
  rcases List.mem_append.mp member with old | new
  · rw [eq_of_parent chain.linked chain.distinct old b_in (same.trans b_names.symm)] at visible
    exact absurd visible (not_le.mpr (max_lt high.1 high.2))
  · rw [List.mem_singleton.mp new, names, Option.some.injEq] at same
    have parents : p = q := List.inj_on_of_nodup_map chain.distinct p_in q_in same
    exact childless b b_in (parents ▸ b_names)

end

variable (key parent)

/-- A line of distinct records, each related to all that come after it. -/
structure Rising (before : α → α → Prop) (items : List α) : Prop where
  linked : Linked key parent none items
  distinct : (items.map key).Nodup
  ordered : items.Pairwise before

variable {key parent} {before : α → α → Prop}

theorem Rising.nil : Rising key parent before [] := ⟨trivial, List.nodup_nil, List.Pairwise.nil⟩

theorem Rising.root {a : α} (root : parent a = none) : Rising key parent before [a] :=
  ⟨⟨root, trivial⟩, List.nodup_singleton _, List.pairwise_singleton _ _⟩

/-- A new record follows the one that nothing follows yet. -/
theorem Rising.append {items : List α} {a p : α} (rising : Rising key parent before items)
    (trans : ∀ {x y z}, before x y → before y z → before x z) (fresh : key a ∉ items.map key)
    (member : p ∈ items) (names : parent a = some (key p))
    (childless : ∀ b ∈ items, parent b ≠ some (key p)) (follows : before p a) :
    Rising key parent before (items ++ [a]) := by
  obtain ⟨front, rfl⟩ := eq_last rising.linked member childless
  refine ⟨linked_snoc.mpr ⟨rising.linked, by rw [names, tip_append_singleton]⟩, ?_, ?_⟩
  · rw [List.map_append]
    refine List.nodup_append.mpr ⟨rising.distinct, List.nodup_singleton _, ?_⟩
    intro k old l single same
    rw [List.mem_singleton.mp single] at same
    exact fresh (same ▸ old)
  · refine List.pairwise_append.mpr ⟨rising.ordered, List.pairwise_singleton _ _, ?_⟩
    intro b inside c single
    rw [List.mem_singleton.mp single]
    cases List.mem_append.mp inside with
    | inl early =>
        have below := (List.pairwise_append.mp rising.ordered).2.2 b early p (List.mem_singleton_self p)
        exact trans below follows
    | inr last => exact List.mem_singleton.mp last ▸ follows

/-- The record that governs at a cutoff is the last one that is visible there. -/
theorem Rising.governs_iff {items : List α} {cutoff : τ} {a : α}
    (rising : Rising key parent before items) (rise : ∀ {x y}, before x y → time x < time y) :
    Governs key parent time items cutoff a ↔
      (items.filter fun b => time b ≤ cutoff).getLast? = some a := by
  have back_closed : items.Pairwise fun x y => time y ≤ cutoff → time x ≤ cutoff :=
    rising.ordered.imp fun below seen => (rise below).le.trans seen
  obtain ⟨front, back, rfl, inside, outside⟩ := cut back_closed
  have shown : (front ++ back).filter (fun b => decide (time b ≤ cutoff)) = front := by
    rw [List.filter_append, List.filter_eq_self.mpr (by simpa using inside),
      List.filter_eq_nil_iff.mpr (by simpa using outside), List.append_nil]
  rw [shown]
  have linked := (linked_append.mp rising.linked).1
  have distinct : (front.map key).Nodup := by
    have whole := rising.distinct
    rw [List.map_append] at whole
    exact (List.nodup_append.mp whole).1
  have visible : ∀ b ∈ front ++ back, time b ≤ cutoff → b ∈ front := by
    intro b member seen
    cases List.mem_append.mp member with
    | inl there => exact there
    | inr later => exact absurd seen (outside b later)
  constructor
  · rintro ⟨member, seen, unnamed⟩
    obtain ⟨others, rfl⟩ := eq_last linked (visible a member seen) fun b there =>
      unnamed b (List.mem_append_left _ there) (inside b there)
    exact List.getLast?_concat
  · intro last
    obtain ⟨others, rfl⟩ := List.getLast?_eq_some_iff.mp last
    have there : a ∈ others ++ [a] := List.mem_append_right _ (List.mem_singleton_self a)
    refine ⟨List.mem_append_left _ there, inside a there, ?_⟩
    exact fun b member seen => unnamed_last linked distinct b (visible b member seen)

/-- Whatever order they are put in, the first of the visible records that no visible one names is
the last visible one. -/
theorem Rising.head?_tips [DecidableEq κ] {items : List α} (rising : Rising key parent before items)
    (rise : ∀ {x y}, before x y → time x < time y) (cutoff : τ) (le : α → α → Bool) :
    (((items.filter fun a => time a ≤ cutoff).filter fun a =>
        ¬∃ b ∈ items.filter (fun b => time b ≤ cutoff), parent b = some (key a)).mergeSort le).head? =
      (items.filter fun a => time a ≤ cutoff).getLast? := by
  have tip_iff : ∀ a, a ∈ (items.filter fun a => time a ≤ cutoff).filter (fun a =>
      ¬∃ b ∈ items.filter (fun b => time b ≤ cutoff), parent b = some (key a)) ↔
      (items.filter fun a => time a ≤ cutoff).getLast? = some a := by
    intro a
    rw [← rising.governs_iff rise, Governs]
    simp only [List.mem_filter, decide_eq_true_eq, not_exists, not_and, and_assoc]
  generalize (items.filter fun a => time a ≤ cutoff).filter (fun a =>
    ¬∃ b ∈ items.filter (fun b => time b ≤ cutoff), parent b = some (key a)) = tips at tip_iff ⊢
  have perm : (tips.mergeSort le).Perm tips := List.mergeSort_perm _ _
  cases sorted : tips.mergeSort le with
  | nil =>
      rw [sorted] at perm
      cases last : (items.filter fun a => time a ≤ cutoff).getLast? with
      | none => rfl
      | some a => exact absurd (perm.mem_iff.mpr ((tip_iff a).mpr last)) List.not_mem_nil
  | cons first rest =>
      rw [sorted] at perm
      rw [List.head?_cons]
      exact ((tip_iff first).mp (perm.mem_iff.mp List.mem_cons_self)).symm

/-- A record that another one is later than is followed by one. -/
theorem Rising.named_of_lt {items : List α} {p c : α} (rising : Rising key parent before items)
    (rise : ∀ {x y}, before x y → time x < time y) (p_in : p ∈ items) (c_in : c ∈ items)
    (later : time p < time c) : ∃ b ∈ items, parent b = some (key p) := by
  by_contra none
  have childless : ∀ b ∈ items, parent b ≠ some (key p) := fun b inside names => none ⟨b, inside, names⟩
  obtain ⟨front, rfl⟩ := eq_last rising.linked p_in childless
  cases List.mem_append.mp c_in with
  | inl early =>
      have below := (List.pairwise_append.mp rising.ordered).2.2 c early p (List.mem_singleton_self p)
      exact absurd (rise below) (not_lt.mpr later.le)
  | inr last =>
      rw [List.mem_singleton.mp last] at later
      exact absurd later (lt_irrefl _)

variable {ι : Type} [DecidableEq ι] (key parent)

/-- The records of each line rise. -/
structure Lines (line : α → ι) (before : α → α → Prop) (items : List α) : Prop where
  distinct : (items.map key).Nodup
  rising : ∀ l, Rising key parent before (items.filter fun a => line a = l)

variable {key parent} {line : α → ι} {items : List α} {a : α}

theorem Lines.nil : Lines key parent line before [] := ⟨List.nodup_nil, fun _ => .nil⟩

/-- A new record is the end of its own line, and leaves the others as they are. -/
theorem Lines.snoc (lines : Lines key parent line before items) (fresh : key a ∉ items.map key)
    (own : Rising key parent before ((items.filter fun b => line b = line a) ++ [a])) :
    Lines key parent line before (items ++ [a]) := by
  refine ⟨?_, fun l => ?_⟩
  · rw [List.map_append]
    refine List.nodup_append.mpr ⟨lines.distinct, List.nodup_singleton _, ?_⟩
    intro k old other single same
    rw [List.mem_singleton.mp single] at same
    exact fresh (same ▸ old)
  · rw [List.filter_append]
    by_cases there : line a = l
    · subst there
      rwa [List.filter_cons_of_pos (by simp), List.filter_nil]
    · rw [List.filter_cons_of_neg (by simpa using there), List.filter_nil, List.append_nil]
      exact lines.rising l

theorem Lines.root (lines : Lines key parent line before items) (fresh : key a ∉ items.map key)
    (root : parent a = none) (first : ∀ b ∈ items, line b ≠ line a) :
    Lines key parent line before (items ++ [a]) := by
  refine lines.snoc fresh ?_
  rw [List.filter_eq_nil_iff.mpr (by simpa using first)]
  exact .root root

theorem Lines.successor (lines : Lines key parent line before items)
    (trans : ∀ {x y z}, before x y → before y z → before x z) (fresh : key a ∉ items.map key) {p : α}
    (member : p ∈ items) (same : line p = line a) (names : parent a = some (key p))
    (childless : ∀ b ∈ items, parent b ≠ some (key p)) (follows : before p a) :
    Lines key parent line before (items ++ [a]) := by
  refine lines.snoc fresh ((lines.rising (line a)).append trans ?_ ?_ names ?_ follows)
  · exact fun inside => fresh ((List.filter_sublist.map key).subset inside)
  · exact List.mem_filter.mpr ⟨member, decide_eq_true same⟩
  · exact fun b inside => childless b (List.mem_of_mem_filter inside)

variable (key parent)

/-- A root of a line without other records, or the successor of a record without others. -/
def Admits (line : α → ι) (before : α → α → Prop) (items : List α) (a : α) : Prop :=
  (parent a = none ∧ ∀ b ∈ items, line b = line a → key b = key a) ∨
    ∃ p ∈ items, parent a = some (key p) ∧ line p = line a ∧ before p a ∧
      ∀ b ∈ items, parent b = some (key p) → key b = key a

variable {key parent}

omit [DecidableEq ι] in
theorem Admits.of_map {β : Type} {f : β → α} {items : List β} {a : β}
    (admits : Admits key parent line before (items.map f) (f a)) :
    Admits (key ∘ f) (parent ∘ f) (line ∘ f) (fun x y => before (f x) (f y)) items a := by
  cases admits with
  | inl root => exact Or.inl ⟨root.1, fun b inside => root.2 (f b) (List.mem_map_of_mem inside)⟩
  | inr correction =>
      obtain ⟨_, member, names, same, follows, sole⟩ := correction
      obtain ⟨p, inside, rfl⟩ := List.mem_map.mp member
      exact Or.inr ⟨p, inside, names, same, follows, fun b b_in => sole (f b) (List.mem_map_of_mem b_in)⟩

theorem Lines.extend (lines : Lines key parent line before items)
    (trans : ∀ {x y z}, before x y → before y z → before x z) (fresh : key a ∉ items.map key)
    (admits : Admits key parent line before items a) : Lines key parent line before (items ++ [a]) := by
  cases admits with
  | inl root =>
      refine lines.root fresh root.1 fun b inside same => fresh ?_
      exact root.2 b inside same ▸ List.mem_map_of_mem inside
  | inr correction =>
      obtain ⟨p, member, names, same, follows, sole⟩ := correction
      refine lines.successor trans fresh member same names (fun b inside named => fresh ?_) follows
      exact sole b inside named ▸ List.mem_map_of_mem inside

/-- A record that is admitted beside one of its own line and time is there already. -/
theorem Lines.there_of_admits (lines : Lines key parent line before items)
    (rise : ∀ {x y}, before x y → time x < time y) (admits : Admits key parent line before items a) {c : α}
    (member : c ∈ items) (same : line c = line a) (level : time c = time a) :
    key a ∈ items.map key := by
  cases admits with
  | inl root => exact root.2 c member same ▸ List.mem_map_of_mem member
  | inr correction =>
      obtain ⟨p, p_in, -, p_line, follows, sole⟩ := correction
      have own : ∀ b ∈ items, line b = line a → b ∈ items.filter fun b => line b = line a :=
        fun b inside lined => List.mem_filter.mpr ⟨inside, decide_eq_true lined⟩
      obtain ⟨b, inside, named⟩ := (lines.rising (line a)).named_of_lt rise (own p p_in p_line)
        (own c member same) (level ▸ rise follows)
      have there := List.mem_of_mem_filter inside
      exact sole b there named ▸ List.mem_map_of_mem there

end Supersession
