import Mathlib

/-!
Depth-first order of a finite graph: every node is put after the nodes that it leads to.
The walk keeps the nodes whose visit has begun and those whose visit is done, each in its
order; a node is being visited when it is begun and not done, and meeting it again shows
a cycle. A node that comes before one preferred to it is reached from that one, or from a
third node visited earlier.
-/

namespace DepthFirst

variable {κ : Type} [DecidableEq κ]

structure Walk (κ : Type) where
  begun : List κ
  done : List κ

def visit (next : κ → List κ) : Nat → Walk κ → κ → Except κ (Walk κ)
  | 0, _, node => .error node
  | fuel + 1, walk, node =>
      if node ∈ walk.done then .ok walk
      else if node ∈ walk.begun then .error node
      else do
        let walk ← (next node).foldlM (visit next fuel) { walk with begun := walk.begun ++ [node] }
        return { walk with done := walk.done ++ [node] }

/-- All nodes, each visited from the outside when its turn comes; the number of nodes bounds
the depth. -/
def order (next : κ → List κ) (nodes : List κ) : Except κ (Walk κ) :=
  nodes.foldlM (visit next (nodes.length + 1)) ⟨[], []⟩

variable {x y node : κ} {items more : List κ}

theorem idxOf_append_lt (before : items.idxOf x < items.idxOf y) :
    (items ++ more).idxOf x < (items ++ more).idxOf y := by
  have inside : x ∈ items := List.idxOf_lt_length_iff.mp (Nat.lt_of_lt_of_le before List.idxOf_le_length)
  rw [List.idxOf_append_of_mem inside]
  by_cases there : y ∈ items
  · rwa [List.idxOf_append_of_mem there]
  · rw [List.idxOf_append_of_notMem there]
    exact Nat.lt_of_lt_of_le (List.idxOf_lt_length_iff.mpr inside) (Nat.le_add_right _ _)

theorem idxOf_lt_new (inside : x ∈ items) (fresh : y ∉ items) : items.idxOf x < items.idxOf y := by
  rw [List.idxOf_eq_length fresh]
  exact List.idxOf_lt_length_iff.mpr inside

/-- In a list that has grown by one item the older items keep their order. -/
theorem idxOf_snoc_lt (before : (items ++ [node]).idxOf x < (items ++ [node]).idxOf y)
    (inside : y ∈ items) : items.idxOf x < items.idxOf y := by
  rw [List.idxOf_append_of_mem inside] at before
  by_cases there : x ∈ items
  · rwa [List.idxOf_append_of_mem there] at before
  · rw [List.idxOf_append_of_notMem there] at before
    have below := List.idxOf_lt_length_iff.mpr inside
    omega

variable {next : κ → List κ} {nodes : List κ} {walk after : Walk κ}

/-- A path of at least one edge. -/
def Path (next : κ → List κ) : κ → κ → Prop := Relation.TransGen fun x y => y ∈ next x

/-- A node is visited from an earlier one, after the nodes before it there, or from the
outside, after the nodes before it in the list. -/
def Caused (next : κ → List κ) (nodes begun : List κ) (y : κ) : Prop :=
  (∃ v ∈ begun, begun.idxOf v < begun.idxOf y ∧ y ∈ next v ∧
    ∀ d, (next v).idxOf d < (next v).idxOf y → begun.idxOf d < begun.idxOf y) ∨
  ∀ p, nodes.idxOf p < nodes.idxOf y → begun.idxOf p < begun.idxOf y

structure Good (next : κ → List κ) (nodes : List κ) (walk : Walk κ) : Prop where
  begun_nodup : walk.begun.Nodup
  done_nodup : walk.done.Nodup
  done_begun : walk.done ⊆ walk.begun
  begun_nodes : walk.begun ⊆ nodes
  closed : ∀ x ∈ walk.done, ∀ d ∈ next x, walk.done.idxOf d < walk.done.idxOf x
  nested : ∀ x ∈ walk.begun, ∀ y ∈ walk.begun, walk.begun.idxOf x < walk.begun.idxOf y →
    walk.done.idxOf x < walk.done.idxOf y ∨ Path next x y
  caused : ∀ y ∈ walk.begun, Caused next nodes walk.begun y

/-- Every node that is being visited leads to this one. -/
def Leads (next : κ → List κ) (walk : Walk κ) (node : κ) : Prop :=
  ∀ x ∈ walk.begun, x ∉ walk.done → Path next x node

theorem good_empty : Good next nodes ⟨[], []⟩ where
  begun_nodup := List.nodup_nil
  done_nodup := List.nodup_nil
  done_begun := List.Subset.refl _
  begun_nodes := List.nil_subset _
  closed _ there := absurd there List.not_mem_nil
  nested _ there := absurd there List.not_mem_nil
  caused _ there := absurd there List.not_mem_nil

theorem Caused.append (caused : Caused next nodes items y) : Caused next nodes (items ++ more) y := by
  rcases caused with ⟨v, begun, before, edge, earlier⟩ | root
  · exact Or.inl ⟨v, List.mem_append_left _ begun, idxOf_append_lt before, edge,
      fun d preferred => idxOf_append_lt (earlier d preferred)⟩
  · exact Or.inr fun p preferred => idxOf_append_lt (root p preferred)

theorem Good.begin (good : Good next nodes walk) (known : node ∈ nodes) (fresh : node ∉ walk.begun)
    (leads : Leads next walk node) (cause : Caused next nodes (walk.begun ++ [node]) node) :
    Good next nodes { walk with begun := walk.begun ++ [node] } where
  begun_nodup := List.nodup_append.mpr ⟨good.begun_nodup, List.nodup_singleton _, fun x inside y last => by
    rw [List.mem_singleton.mp last]
    exact fun same => fresh (same ▸ inside)⟩
  done_nodup := good.done_nodup
  done_begun _ there := List.mem_append_left _ (good.done_begun there)
  begun_nodes x there := (List.mem_append.mp there).elim (good.begun_nodes ·)
    fun last => List.mem_singleton.mp last ▸ known
  closed := good.closed
  nested := by
    intro x first y second before
    dsimp only at *
    rcases List.mem_append.mp second with older | last
    · have inside : x ∈ walk.begun := List.idxOf_lt_length_iff.mp
        (Nat.lt_of_lt_of_le (idxOf_snoc_lt before older) List.idxOf_le_length)
      exact good.nested x inside y older (idxOf_snoc_lt before older)
    · rw [List.mem_singleton.mp last] at before ⊢
      rcases List.mem_append.mp first with older | same
      · by_cases finished : x ∈ walk.done
        · exact Or.inl (idxOf_lt_new finished fun there => fresh (good.done_begun there))
        · exact Or.inr (leads x older finished)
      · rw [List.mem_singleton.mp same] at before
        exact absurd before (Nat.lt_irrefl _)
  caused y there := by
    rcases List.mem_append.mp there with older | last
    · exact (good.caused y older).append
    · rw [List.mem_singleton.mp last]
      exact cause

theorem Good.finish (good : Good next nodes walk) (begun : node ∈ walk.begun) (fresh : node ∉ walk.done)
    (closed : ∀ d ∈ next node, d ∈ walk.done) :
    Good next nodes { walk with done := walk.done ++ [node] } where
  begun_nodup := good.begun_nodup
  done_nodup := List.nodup_append.mpr ⟨good.done_nodup, List.nodup_singleton _, fun x inside y last => by
    rw [List.mem_singleton.mp last]
    exact fun same => fresh (same ▸ inside)⟩
  done_begun x there := (List.mem_append.mp there).elim (good.done_begun ·)
    fun last => List.mem_singleton.mp last ▸ begun
  begun_nodes := good.begun_nodes
  closed := by
    intro x there d edge
    dsimp only at *
    rcases List.mem_append.mp there with older | last
    · exact idxOf_append_lt (good.closed x older d edge)
    · rw [List.mem_singleton.mp last] at edge ⊢
      exact idxOf_append_lt (idxOf_lt_new (closed d edge) fresh)
  nested x first y second before :=
    (good.nested x first y second before).imp_left idxOf_append_lt
  caused := good.caused

section

omit [DecidableEq κ]

/-- A visit adds nodes, each begun and done within it. -/
structure Extends (walk after : Walk κ) : Prop where
  grown : ∃ begun done, after.begun = walk.begun ++ begun ∧ after.done = walk.done ++ done ∧
    begun.Perm done

theorem Extends.refl (walk : Walk κ) : Extends walk walk :=
  ⟨[], [], (List.append_nil _).symm, (List.append_nil _).symm, List.Perm.refl _⟩

theorem Extends.trans {last : Walk κ} (first : Extends walk after) (second : Extends after last) :
    Extends walk last := by
  obtain ⟨begun, done, begunEq, doneEq, perm⟩ := first.grown
  obtain ⟨begun', done', begunEq', doneEq', perm'⟩ := second.grown
  refine ⟨begun ++ begun', done ++ done', ?_, ?_, perm.append perm'⟩
  · rw [begunEq', begunEq, List.append_assoc]
  · rw [doneEq', doneEq, List.append_assoc]

theorem Extends.done_mem (extends_ : Extends walk after) (there : x ∈ walk.done) : x ∈ after.done := by
  obtain ⟨begun, done, -, doneEq, -⟩ := extends_.grown
  exact doneEq ▸ List.mem_append_left _ there

/-- What is being visited after a visit was being visited before it. -/
theorem Extends.visiting (extends_ : Extends walk after) (begun : x ∈ after.begun) (open_ : x ∉ after.done) :
    x ∈ walk.begun ∧ x ∉ walk.done := by
  refine ⟨?_, fun there => open_ (extends_.done_mem there)⟩
  obtain ⟨added, done, begunEq, doneEq, perm⟩ := extends_.grown
  rw [begunEq] at begun
  rcases List.mem_append.mp begun with older | new
  · exact older
  · exact absurd (doneEq ▸ List.mem_append_right _ (perm.mem_iff.mp new)) open_

theorem Extends.length_sub (extends_ : Extends walk after) :
    after.begun.length + walk.done.length = walk.begun.length + after.done.length := by
  obtain ⟨begun, done, begunEq, doneEq, perm⟩ := extends_.grown
  rw [begunEq, doneEq, List.length_append, List.length_append, perm.length_eq]
  omega

end

/-- A visit that succeeds keeps the walk good and finishes its node; otherwise there is a cycle. -/
def Visits (next : κ → List κ) (nodes : List κ) (walk : Walk κ) (node : κ) :
    Except κ (Walk κ) → Prop
  | .ok after => Good next nodes after ∧ Extends walk after ∧ node ∈ after.done
  | .error c => c ∈ nodes ∧ Path next c c

/-- What a visit of a node needs: what is being visited leads to it, and it has a cause. -/
structure Ready (next : κ → List κ) (nodes : List κ) (walk : Walk κ) (node : κ) (fuel : Nat) : Prop where
  good : Good next nodes walk
  known : node ∈ nodes
  leads : Leads next walk node
  cause : node ∉ walk.begun → Caused next nodes (walk.begun ++ [node]) node
  fuel : nodes.length + walk.done.length < walk.begun.length + fuel

/-- The nodes that a node leads to, visited one after the other below it. -/
theorem fold_visits {fuel : Nat} (inside : ∀ x, next x ⊆ nodes)
    (ih : ∀ walk node, Ready next nodes walk node fuel →
      Visits next nodes walk node (visit next fuel walk node))
    (start : Walk κ) (top : node ∈ start.begun) (leads : ∀ x ∈ start.begun, x ∉ start.done →
      x = node ∨ Path next x node) (fuelled : nodes.length + start.done.length < start.begun.length + fuel) :
    ∀ (front rest : List κ) (walk : Walk κ), next node = front ++ rest → Good next nodes walk →
      Extends start walk → (∀ d ∈ front, d ∈ walk.done) →
      match rest.foldlM (visit next fuel) walk with
      | .ok after => Good next nodes after ∧ Extends start after ∧ ∀ d ∈ next node, d ∈ after.done
      | .error c => c ∈ nodes ∧ Path next c c := by
  intro front rest
  induction rest generalizing front with
  | nil =>
      intro walk split good grown done
      exact ⟨good, grown, fun d edge => done d (by rwa [split, List.append_nil] at edge)⟩
  | cons d rest loop =>
      intro walk split good grown done
      have edge : d ∈ next node := split ▸ List.mem_append_right _ List.mem_cons_self
      have ready : Ready next nodes walk d fuel := by
        refine ⟨good, inside node edge, fun x begun open_ => ?_, fun fresh => ?_, ?_⟩
        · obtain ⟨begun, open_⟩ := grown.visiting begun open_
          rcases leads x begun open_ with rfl | path
          · exact Relation.TransGen.single edge
          · exact path.tail edge
        · have before : node ∈ walk.begun := by
            obtain ⟨added, _, begunEq, _, _⟩ := grown.grown
            exact begunEq ▸ List.mem_append_left _ top
          have new : d ∉ front := fun there => fresh (good.done_begun (done d there))
          refine Or.inl ⟨node, List.mem_append_left _ before,
            idxOf_append_lt (idxOf_lt_new before fresh), edge, fun e preferred => ?_⟩
          rw [split, List.idxOf_append_of_notMem new, List.idxOf_cons_self, Nat.add_zero] at preferred
          have there : e ∈ front := by
            by_contra absent
            rw [List.idxOf_append_of_notMem absent] at preferred
            omega
          exact idxOf_append_lt (idxOf_lt_new (good.done_begun (done e there)) fresh)
        · have lengths := grown.length_sub
          omega
      have visited := ih walk d ready
      rw [List.foldlM_cons]
      cases result : visit next fuel walk d with
      | error c =>
          rw [result] at visited
          exact visited
      | ok after =>
          rw [result] at visited
          obtain ⟨good', grown', finished⟩ := visited
          refine loop (front ++ [d]) after (by rw [split, List.append_assoc]; rfl) good'
            (grown.trans grown') fun e there => ?_
          rcases List.mem_append.mp there with older | last
          · exact grown'.done_mem (done e older)
          · rw [List.mem_singleton.mp last]
            exact finished

theorem visit_visits (inside : ∀ x, next x ⊆ nodes) (fuel : Nat) :
    ∀ walk node, Ready next nodes walk node fuel →
      Visits next nodes walk node (visit next fuel walk node) := by
  induction fuel with
  | zero =>
      -- more nodes would be being visited than there are
      intro walk node ready
      have begun := (List.subperm_of_subset ready.good.begun_nodup ready.good.begun_nodes).length_le
      have fuel := ready.fuel
      omega
  | succ fuel ih =>
      intro walk node ready
      have good := ready.good
      unfold visit
      split
      · rename_i finished
        exact ⟨good, Extends.refl walk, finished⟩
      split
      · rename_i open_ begun
        exact ⟨good.begun_nodes begun, ready.leads node begun open_⟩
      · rename_i fresh begun
        have started := good.begin ready.known begun ready.leads (ready.cause begun)
        have top : node ∈ walk.begun ++ [node] := List.mem_append_right _ List.mem_cons_self
        have fuelled : nodes.length + walk.done.length < (walk.begun ++ [node]).length + fuel := by
          rw [List.length_append, List.length_singleton]
          have bound := ready.fuel
          omega
        have below := fold_visits inside ih { walk with begun := walk.begun ++ [node] } top
          (fun x there open_ => (List.mem_append.mp there).elim (fun older => Or.inr (ready.leads x older open_))
            fun last => Or.inl (List.mem_singleton.mp last))
          fuelled [] (next node) _ rfl started (Extends.refl _) nofun
        cases result : (next node).foldlM (visit next fuel) { walk with begun := walk.begun ++ [node] } with
        | error c =>
            rw [result] at below
            exact below
        | ok after =>
            rw [result] at below
            obtain ⟨good', ⟨added, done, begunEq, doneEq, perm⟩, closed⟩ := below
            dsimp only at begunEq doneEq
            have stays : node ∈ after.begun := begunEq ▸ List.mem_append_left _ top
            have unfinished : node ∉ after.done := by
              rw [doneEq]
              intro there
              rcases List.mem_append.mp there with older | new
              · exact fresh older
              · have nodup := begunEq ▸ good'.begun_nodup
                exact (List.nodup_append.mp nodup).2.2 node top node (perm.mem_iff.mpr new) rfl
            refine ⟨good'.finish stays unfinished closed, ⟨node :: added, done ++ [node], ?_, ?_, ?_⟩,
              List.mem_append_right _ List.mem_cons_self⟩
            · show after.begun = _
              rw [begunEq, List.append_assoc]
              rfl
            · show after.done ++ [node] = _
              rw [doneEq, List.append_assoc]
            · exact (perm.cons node).trans (List.perm_append_singleton node done).symm

theorem order_visits (inside : ∀ x, next x ⊆ nodes) :
    ∀ (front rest : List κ) (walk : Walk κ), nodes = front ++ rest → Good next nodes walk →
      Extends ⟨[], []⟩ walk → (∀ node ∈ front, node ∈ walk.done) →
      match rest.foldlM (visit next (nodes.length + 1)) walk with
      | .ok after => Good next nodes after ∧ ∀ node ∈ nodes, node ∈ after.done
      | .error c => c ∈ nodes ∧ Path next c c := by
  intro front rest
  induction rest generalizing front with
  | nil =>
      intro walk split good grown done
      exact ⟨good, fun node there => done node (by rwa [split, List.append_nil] at there)⟩
  | cons node rest loop =>
      intro walk split good grown done
      have known : node ∈ nodes := split ▸ List.mem_append_right _ List.mem_cons_self
      have ready : Ready next nodes walk node (nodes.length + 1) := by
        refine ⟨good, known, fun x begun open_ => ?_, fun fresh => ?_, ?_⟩
        · exact absurd (grown.visiting begun open_).1 List.not_mem_nil
        · have new : node ∉ front := fun there => fresh (good.done_begun (done node there))
          refine Or.inr fun p preferred => ?_
          rw [split, List.idxOf_append_of_notMem new, List.idxOf_cons_self, Nat.add_zero] at preferred
          have there : p ∈ front := by
            by_contra absent
            rw [List.idxOf_append_of_notMem absent] at preferred
            omega
          exact idxOf_append_lt (idxOf_lt_new (good.done_begun (done p there)) fresh)
        · have lengths := grown.length_sub
          simp only [List.length_nil] at lengths
          omega
      have visited := visit_visits inside (nodes.length + 1) walk node ready
      rw [List.foldlM_cons]
      cases result : visit next (nodes.length + 1) walk node with
      | error c =>
          rw [result] at visited
          exact visited
      | ok after =>
          rw [result] at visited
          obtain ⟨good', grown', finished⟩ := visited
          refine loop (front ++ [node]) after (by rw [split, List.append_assoc]; rfl) good'
            (grown.trans grown') fun e there => ?_
          rcases List.mem_append.mp there with older | last
          · exact grown'.done_mem (done e older)
          · rw [List.mem_singleton.mp last]
            exact finished

theorem order_ok (inside : ∀ x, next x ⊆ nodes) (ordered : order next nodes = .ok walk) :
    Good next nodes walk ∧ ∀ node, node ∈ walk.done ↔ node ∈ nodes := by
  have visits := order_visits inside [] nodes ⟨[], []⟩ rfl good_empty (Extends.refl _) nofun
  rw [show nodes.foldlM (visit next (nodes.length + 1)) ⟨[], []⟩ = _ from ordered] at visits
  exact ⟨visits.1, fun node => ⟨fun there => visits.1.begun_nodes (visits.1.done_begun there),
    visits.2 node⟩⟩

/-- Along a path the position goes down. -/
theorem Good.path (good : Good next nodes walk) (path : Path next x y) (done : x ∈ walk.done) :
    walk.done.idxOf y < walk.done.idxOf x := by
  induction path with
  | single edge => exact good.closed x done _ edge
  | @tail y z _ edge ih =>
      have there : y ∈ walk.done :=
        List.idxOf_lt_length_iff.mp (Nat.lt_trans ih (List.idxOf_lt_length_iff.mpr done))
      exact Nat.lt_trans (good.closed y there z edge) ih

theorem order_isOk (inside : ∀ x, next x ⊆ nodes) :
    (∃ walk, order next nodes = .ok walk) ↔ ∀ node ∈ nodes, ¬Path next node node := by
  refine ⟨fun ⟨walk, ordered⟩ node there path => ?_, fun acyclic => ?_⟩
  · obtain ⟨good, all⟩ := order_ok inside ordered
    exact absurd (good.path path ((all node).mpr there)) (Nat.lt_irrefl _)
  · have visits := order_visits inside [] nodes ⟨[], []⟩ rfl good_empty (Extends.refl _) nofun
    cases ordered : order next nodes with
    | ok walk => exact ⟨walk, rfl⟩
    | error c =>
        rw [show nodes.foldlM (visit next (nodes.length + 1)) ⟨[], []⟩ = _ from ordered] at visits
        exact absurd visits.2 (acyclic c visits.1)

/-- A node put before one that is preferred to it is reached from that one, or is led to by a
third node that was visited earlier and does not lead to the preferred one before it. -/
theorem Good.overtakes (good : Good next nodes walk) (first : x ∈ walk.begun) (second : y ∈ walk.begun)
    (preferred : nodes.idxOf x < nodes.idxOf y) (overtaken : walk.done.idxOf y < walk.done.idxOf x) :
    Path next x y ∨ ∃ v ∈ walk.begun, walk.begun.idxOf v < walk.begun.idxOf x ∧ y ∈ next v ∧
      ¬(next v).idxOf x < (next v).idxOf y := by
  by_cases earlier : walk.begun.idxOf x < walk.begun.idxOf y
  · exact Or.inl ((good.nested x first y second earlier).resolve_left (Nat.lt_asymm overtaken))
  · right
    have different : walk.begun.idxOf x ≠ walk.begun.idxOf y := fun same => by
      rw [(List.idxOf_inj first).mp same] at preferred
      exact absurd preferred (Nat.lt_irrefl _)
    rcases good.caused y second with ⟨v, begun, before, edge, ranked⟩ | root
    · exact ⟨v, begun, by omega, edge, fun rank => earlier (ranked x rank)⟩
    · exact absurd (root x preferred) earlier

end DepthFirst
