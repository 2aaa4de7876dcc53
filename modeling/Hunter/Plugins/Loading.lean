import Hunter.Data.Sorting
import Hunter.Plugins.Manager

/-!
What loading plugins promises: the enabled plugins are refused when something is wrong
with them, and otherwise come in an order that respects their dependencies and departs from
the base order only where a dependency makes it. The manager keeps the promise of plugins
with distinct ids whose dependencies are read alike by the manager and the validator. It
also refuses rightly where the last plugins of their ids form a cycle, or one of them has
invalid metadata.
-/

namespace Hunter.Plugins

open DepthFirst Fallible

def InvalidMetadata (metadata : PluginMetadata) : Prop :=
  missingFields metadata ≠ [] ∨ metadata.capabilities = [] ∨ validVersion metadata.version.scalars = false

/-- A plugin has a dependency on an id. -/
def DependsOn (enabled : List Plugin) (x y : String) : Prop :=
  ∃ plugin ∈ enabled, plugin.id = x ∧ ∃ dependency ∈ plugin.dependencies, dependencyId dependency = y

def Missing (enabled : List Plugin) (dependency : String) : Prop :=
  dependencyId dependency ∉ ids enabled

/-- The plugin that is depended on is below the minimum version. -/
def TooLow (enabled : List Plugin) (dependency : String) : Prop :=
  ∃ plugin ∈ enabled, plugin.id = dependencyId dependency ∧ ∃ minimum actual least,
    (parseDependency dependency).2 = some minimum ∧
      versionTuple plugin.metadata.version.scalars = some actual ∧
      versionTuple minimum = some least ∧ actual < least

/-- Something is wrong with the enabled plugins. -/
inductive Defective (enabled : List Plugin) : Prop where
  | duplicate : ¬(ids enabled).Nodup → Defective enabled
  | metadata (plugin : Plugin) : plugin ∈ enabled → InvalidMetadata plugin.metadata → Defective enabled
  | dependency (plugin : Plugin) (dependency : String) : plugin ∈ enabled →
      dependency ∈ plugin.dependencies → Missing enabled dependency ∨ TooLow enabled dependency →
      Defective enabled
  | cycle (id : String) : Relation.TransGen (DependsOn enabled) id id → Defective enabled

/-- One plugin was visited earlier than another. -/
def VisitedBefore (config : PluginConfig) (enabled : List Plugin) (first second : String) : Prop :=
  ∃ walk, visits (baseOrder config enabled) = .ok walk ∧
    walk.begun.idxOf first < walk.begun.idxOf second

/-- The base order holds of two plugins unless the second is reached from the first, or a third
one that was visited earlier needs it and does not need the first. -/
structure Ordered (config : PluginConfig) (enabled ordered : List Plugin) : Prop where
  perm : ordered.Perm enabled
  dependencies : ∀ plugin ∈ ordered, ∀ dependency ∈ plugin.dependencies,
    (ids ordered).idxOf (dependencyId dependency) < (ids ordered).idxOf plugin.id
  base : ∀ p ∈ enabled, ∀ q ∈ enabled, baseKey config p < baseKey config q →
    (ids ordered).idxOf q.id < (ids ordered).idxOf p.id →
    Relation.TransGen (DependsOn enabled) p.id q.id ∨
      ∃ third ∈ enabled, VisitedBefore config enabled third.id p.id ∧
        DependsOn enabled third.id q.id ∧ ¬DependsOn enabled third.id p.id

/-- What loading leaves and returns, as promised. -/
def Lawful (config : PluginConfig) (enabled : List Plugin) (before after : PluginManager) :
    Py (List Plugin) → Prop
  | .ok ordered => ¬Defective enabled ∧ Ordered config enabled ordered ∧ after.plugins = ordered ∧
      after.registry.values = ordered
  | .error exn => Defective enabled ∧ exn ≠ .valueError ∧
      after.registry = before.registry ∧ after.plugins = before.plugins

inductive Fault where
  | missing | malformed | tooLow
  deriving DecidableEq

/-- What the validator finds wrong with a dependency. -/
def faultOf (plugins : List Plugin) (dependency : String) : Option Fault :=
  let (id, minimum) := parseDependency dependency
  match byId plugins id, minimum with
  | none, _ => some .missing
  | some _, none => none
  | some found, some minimum =>
      match versionTuple found.metadata.version.scalars, versionTuple minimum with
      | some actual, some least => if least ≤ actual then none else some .tooLow
      | _, _ => some .malformed

/-- In dependency order. -/
def firstFault (ordered : List Plugin) : Option Fault :=
  (ordered.flatMap Plugin.dependencies).findSome? (faultOf ordered)

/-- The validator objects to a dependency, or to all of them together. -/
def Objects (ordered : List Plugin) : Prop :=
  firstFault ordered ≠ none ∨ ∃ id ∈ ids ordered, Path (rawNext ordered) id id

/-- Two plugins share an id, or a dependency is missing or too low. -/
def Suspect (enabled : List Plugin) : Prop :=
  ¬(ids enabled).Nodup ∨ ∃ plugin ∈ enabled, ∃ dependency ∈ plugin.dependencies,
    Missing enabled dependency ∨ TooLow enabled dependency

/-- The dependencies of plugins with distinct ids are read alike by the manager and the
validator, and the versions that are compared consist of three integers. -/
structure Legible (enabled : List Plugin) : Prop where
  distinct : (ids enabled).Nodup
  bare : ∀ plugin ∈ enabled, ∀ dependency ∈ plugin.dependencies,
    (parseDependency dependency).2 = none → Chars.strip dependency.scalars = dependency.scalars
  comparable : ∀ plugin ∈ enabled, ∀ dependency ∈ plugin.dependencies,
    ∀ minimum, (parseDependency dependency).2 = some minimum →
      ∀ other ∈ enabled, other.id = dependencyId dependency →
        (versionTuple minimum).isSome ∧ (versionTuple other.metadata.version.scalars).isSome

/-- The last plugins of their ids form a cycle, or the metadata of one are invalid, or the
plugins are legible. -/
inductive Manageable (enabled : List Plugin) : Prop where
  | cycle (id : String) : Path (next enabled) id id → Manageable enabled
  | metadata (id : String) (plugin : Plugin) : byId enabled id = some plugin →
      InvalidMetadata plugin.metadata → Manageable enabled
  | legible : Legible enabled → Manageable enabled

/-- Every dependency, its id stripped, is on an enabled plugin. -/
def Complete (enabled : List Plugin) : Prop :=
  ∀ plugin ∈ enabled, ∀ dependency ∈ plugin.dependencies, dependencyId dependency ∈ ids enabled

variable {plugins enabled ordered : List Plugin} {plugin : Plugin} {id : String} {config : PluginConfig}

theorem byId_some (found : byId plugins id = some plugin) : plugin ∈ plugins ∧ plugin.id = id := by
  have kept := List.find?_some found
  exact ⟨List.mem_reverse.mp (List.mem_of_find?_eq_some found), of_decide_eq_true kept⟩

theorem byId_isSome : (byId plugins id).isSome ↔ id ∈ ids plugins := by
  unfold byId ids
  rw [List.find?_isSome]
  simp

theorem eq_of_id (nodup : (ids plugins).Nodup) {other : Plugin} (first : plugin ∈ plugins)
    (second : other ∈ plugins) (same : plugin.id = other.id) : plugin = other :=
  List.inj_on_of_nodup_map nodup first second same

theorem byId_of_mem (nodup : (ids plugins).Nodup) (there : plugin ∈ plugins) :
    byId plugins plugin.id = some plugin := by
  have present : (byId plugins plugin.id).isSome := byId_isSome.mpr (List.mem_map_of_mem there)
  obtain ⟨other, found⟩ := Option.isSome_iff_exists.mp present
  obtain ⟨inside, same⟩ := byId_some found
  rw [found, eq_of_id nodup inside there same]

theorem mem_next {dependency : String} : dependency ∈ next plugins id ↔
    ∃ plugin, byId plugins id = some plugin ∧
      (∃ text ∈ plugin.dependencies, dependencyId text = dependency) ∧ dependency ∈ ids plugins := by
  unfold next
  cases found : byId plugins id with
  | none => simp
  | some plugin =>
      dsimp only
      rw [List.mem_filter, List.mem_mergeSort, List.mem_map, decide_eq_true_iff]
      constructor
      · exact fun there => ⟨plugin, rfl, there⟩
      · rintro ⟨other, same, there⟩
        cases same
        exact there

theorem next_inside (id : String) : next plugins id ⊆ ids plugins := fun _ there =>
  have ⟨_, _, _, inside⟩ := mem_next.mp there
  inside

theorem mem_rawNext {dependency : String} : dependency ∈ rawNext plugins id ↔
    ∃ plugin, byId plugins id = some plugin ∧
      (∃ text ∈ plugin.dependencies, (parseDependency text).1 = dependency) ∧ dependency ∈ ids plugins := by
  unfold rawNext
  cases found : byId plugins id with
  | none => simp
  | some plugin =>
      dsimp only
      rw [List.mem_filter, List.mem_map, decide_eq_true_iff]
      constructor
      · exact fun there => ⟨plugin, rfl, there⟩
      · rintro ⟨other, same, there⟩
        cases same
        exact there

theorem rawNext_inside (id : String) : rawNext plugins id ⊆ ids plugins := by
  intro dependency there
  obtain ⟨_, _, _, inside⟩ := mem_rawNext.mp there
  exact inside

theorem baseOrder_perm : (baseOrder config enabled).Perm enabled := List.mergeSort_perm enabled _

theorem ids_baseOrder : (ids (baseOrder config enabled)).Perm (ids enabled) :=
  baseOrder_perm.map Plugin.id

/-- The base order does not tell plugins of one id apart. -/
theorem byId_baseOrder : byId (baseOrder config enabled) id = byId enabled id := by
  have stable : (baseOrder config enabled).filter (fun plugin => plugin.id = id) =
      enabled.filter fun plugin => plugin.id = id := by
    refine Sorting.filter_of_key (baseKey config) (fun x y first second => ?_) enabled
    have same : x.id = y.id := (of_decide_eq_true first).trans (of_decide_eq_true second).symm
    unfold baseKey
    rw [same]
  unfold byId
  rw [← List.head?_filter, ← List.head?_filter, List.filter_reverse, List.filter_reverse, stable]

theorem next_baseOrder {x y : String} : y ∈ next (baseOrder config enabled) x ↔ y ∈ next enabled x := by
  rw [mem_next, mem_next, byId_baseOrder, ids_baseOrder.mem_iff]

theorem path_baseOrder {x y : String} : Path (next (baseOrder config enabled)) x y ↔ Path (next enabled) x y :=
  ⟨Relation.TransGen.mono (fun _ _ => next_baseOrder.mp) x y,
    Relation.TransGen.mono (fun _ _ => next_baseOrder.mpr) x y⟩

theorem visits_ok {walk : Walk String} (visited : visits plugins = .ok walk) :
    Good (next plugins) (ids plugins) walk ∧ ∀ id, id ∈ walk.done ↔ id ∈ ids plugins :=
  order_ok next_inside visited

/-- The plugins of a walk have its ids. -/
theorem ids_filterMap {done : List String} (inside : ∀ id ∈ done, id ∈ ids plugins) :
    ids (done.filterMap (byId plugins)) = done := by
  induction done with
  | nil => rfl
  | cons id done ih =>
      obtain ⟨first, others⟩ := List.forall_mem_cons.mp inside
      obtain ⟨plugin, found⟩ := Option.isSome_iff_exists.mp (byId_isSome.mpr first)
      rw [List.filterMap_cons_some found]
      exact congr_arg₂ List.cons (byId_some found).2 (ih others)

/-- What the dependency order is made of. -/
structure Sorted (plugins ordered : List Plugin) (walk : Walk String) : Prop where
  visited : visits plugins = .ok walk
  sameIds : ids ordered = walk.done
  found : ordered = walk.done.filterMap (byId plugins)

theorem dependencyOrder_ok (sorted : dependencyOrder plugins = .ok ordered) :
    ∃ walk, Sorted plugins ordered walk := by
  unfold dependencyOrder at sorted
  split at sorted
  · rename_i walk visited
    cases sorted
    exact ⟨walk, visited, ids_filterMap fun id there => ((visits_ok visited).2 id).mp there, rfl⟩
  · cases sorted

theorem Sorted.nodup {walk : Walk String} (sorted : Sorted plugins ordered walk) : (ids ordered).Nodup :=
  sorted.sameIds ▸ (visits_ok sorted.visited).1.done_nodup

theorem Sorted.mem {walk : Walk String} (sorted : Sorted plugins ordered walk) :
    plugin ∈ ordered ↔ byId plugins plugin.id = some plugin := by
  rw [sorted.found, List.mem_filterMap]
  constructor
  · rintro ⟨id, -, found⟩
    rw [(byId_some found).2]
    exact found
  · intro found
    have inside : plugin.id ∈ ids plugins := byId_isSome.mp (by rw [found]; rfl)
    exact ⟨plugin.id, ((visits_ok sorted.visited).2 _).mpr inside, found⟩

theorem Sorted.perm {walk : Walk String} (sorted : Sorted plugins ordered walk)
    (nodup : (ids plugins).Nodup) : ordered.Perm plugins := by
  refine (List.perm_ext_iff_of_nodup sorted.nodup.of_map nodup.of_map).mpr fun plugin => ?_
  rw [sorted.mem]
  exact ⟨fun found => (byId_some found).1, byId_of_mem nodup⟩

theorem Sorted.enabled_perm {walk : Walk String} (sorted : Sorted (baseOrder config enabled) ordered walk)
    (nodup : (ids enabled).Nodup) : ordered.Perm enabled :=
  (sorted.perm (ids_baseOrder.nodup_iff.mpr nodup)).trans baseOrder_perm

theorem Sorted.closed {walk : Walk String} (sorted : Sorted plugins ordered walk) (there : plugin ∈ ordered)
    {dependency : String} (listed : dependency ∈ plugin.dependencies)
    (known : dependencyId dependency ∈ ids plugins) :
    (ids ordered).idxOf (dependencyId dependency) < (ids ordered).idxOf plugin.id := by
  have edge : dependencyId dependency ∈ next plugins plugin.id :=
    mem_next.mpr ⟨plugin, sorted.mem.mp there, ⟨dependency, listed, rfl⟩, known⟩
  have inside : plugin.id ∈ walk.done := by
    rw [← sorted.sameIds]
    exact List.mem_map_of_mem there
  rw [sorted.sameIds]
  exact (visits_ok sorted.visited).1.closed plugin.id inside _ edge

theorem visits_error {id : String} (raised : visits plugins = .error id) :
    ∃ node, Path (next plugins) node node := by
  by_contra acyclic
  have visited := (order_isOk next_inside).mpr fun node (_ : node ∈ ids plugins) cycle => acyclic ⟨node, cycle⟩
  obtain ⟨walk, visited⟩ := visited
  rw [show visits plugins = .ok walk from visited] at raised
  cases raised

theorem visits_acyclic {walk : Walk String} (visited : visits plugins = .ok walk) :
    ¬Path (next plugins) id id := by
  intro cycle
  have inside : id ∈ ids plugins := by
    obtain ⟨last, -, edge⟩ := Relation.TransGen.tail'_iff.mp cycle
    exact next_inside last edge
  exact (order_isOk next_inside).mp ⟨walk, visited⟩ id inside cycle

theorem dependencyOrder_error {exn : Exn} (raised : dependencyOrder plugins = .error exn) :
    (∃ message, exn = .dependencyError message) ∧ ∃ node, Path (next plugins) node node := by
  unfold dependencyOrder at raised
  split at raised
  · cases raised
  · rename_i node visited
    cases raised
    exact ⟨⟨_, rfl⟩, visits_error visited⟩

theorem lastIndex_of_nodup {items : List String} {item : String} (nodup : items.Nodup) (inside : item ∈ items) :
    lastIndex item items = some (items.idxOf item) := by
  have absent : ∀ others : List String, item ∉ others → lastIndex item others = none := by
    intro others missing
    induction others with
    | nil => rfl
    | cons first others ih =>
        obtain ⟨different, missing⟩ := not_or.mp (List.mem_cons.not.mp missing)
        rw [lastIndex, ih missing]
        exact if_neg (Ne.symm different)
  induction items with
  | nil => exact absurd inside List.not_mem_nil
  | cons first items ih =>
      obtain ⟨fresh, nodup⟩ := List.nodup_cons.mp nodup
      rcases List.mem_cons.mp inside with rfl | later
      · rw [lastIndex, absent items fresh, List.idxOf_cons_self]
        exact if_pos rfl
      · have different : first ≠ item := fun same => fresh (same ▸ later)
        rw [lastIndex, ih nodup later, List.idxOf_cons_ne _ different]

theorem position_eq {items : List String} {item : String} (nodup : items.Nodup) (inside : item ∈ items) :
    position items item = items.idxOf item := by
  rw [position, lastIndex_of_nodup nodup inside]
  rfl

theorem idxOf_ids (nodup : (ids plugins).Nodup) (there : plugin ∈ plugins) :
    (ids plugins).idxOf plugin.id = plugins.idxOf plugin := by
  induction plugins with
  | nil => exact absurd there List.not_mem_nil
  | cons first plugins ih =>
      rw [show ids (first :: plugins) = first.id :: ids plugins from rfl] at nodup ⊢
      obtain ⟨fresh, nodup⟩ := List.nodup_cons.mp nodup
      rcases List.mem_cons.mp there with rfl | later
      · rw [List.idxOf_cons_self, List.idxOf_cons_self]
      · have different : first.id ≠ plugin.id := fun same => fresh (same ▸ List.mem_map_of_mem later)
        rw [List.idxOf_cons_ne _ different, List.idxOf_cons_ne _ fun same => different (congrArg _ same),
          ih nodup later]

theorem baseOrder_lt (nodup : (ids enabled).Nodup) {p q : Plugin} (first : p ∈ enabled) (second : q ∈ enabled)
    (below : baseKey config p < baseKey config q) :
    (ids (baseOrder config enabled)).idxOf p.id < (ids (baseOrder config enabled)).idxOf q.id := by
  have nodup' : (ids (baseOrder config enabled)).Nodup := ids_baseOrder.nodup_iff.mpr nodup
  rw [idxOf_ids nodup' (baseOrder_perm.mem_iff.mpr first), idxOf_ids nodup' (baseOrder_perm.mem_iff.mpr second)]
  exact Sorting.idxOf_lt (Sorting.pairwise_by (baseKey config) enabled) (baseOrder_perm.mem_iff.mpr first) below

/-- What a plugin depends on is visited by its rank. -/
theorem next_ranked (nodup : (ids plugins).Nodup) {x y : String} (first : x ∈ next plugins id)
    (second : y ∈ ids plugins) (preferred : (ids plugins).idxOf x < (ids plugins).idxOf y) :
    (next plugins id).idxOf x < (next plugins id).idxOf y := by
  have sorted : (next plugins id).Pairwise fun a b => position (ids plugins) a ≤ position (ids plugins) b := by
    unfold next
    split
    · exact (Sorting.pairwise_by _ _).sublist List.filter_sublist
    · exact List.Pairwise.nil
  refine Sorting.idxOf_lt sorted first ?_
  rwa [position_eq nodup (next_inside id first), position_eq nodup second]

theorem DependsOn.of_next {x y : String} (edge : y ∈ next (baseOrder config enabled) x) : DependsOn enabled x y := by
  obtain ⟨plugin, found, ⟨dependency, listed, same⟩, -⟩ := mem_next.mp edge
  obtain ⟨there, named⟩ := byId_some found
  exact ⟨plugin, baseOrder_perm.mem_iff.mp there, named, dependency, listed, same⟩

theorem transGen_of_path {x y : String} (path : Path (next (baseOrder config enabled)) x y) :
    Relation.TransGen (DependsOn enabled) x y :=
  Relation.TransGen.mono (fun _ _ => DependsOn.of_next) x y path

theorem DependsOn.next (nodup : (ids enabled).Nodup) {x y : String} (depends : DependsOn enabled x y)
    (known : y ∈ ids enabled) : y ∈ next (baseOrder config enabled) x := by
  obtain ⟨plugin, there, rfl, dependency, listed, same⟩ := depends
  refine mem_next.mpr ⟨plugin, byId_of_mem (ids_baseOrder.nodup_iff.mpr nodup) (baseOrder_perm.mem_iff.mpr there),
    ⟨dependency, listed, same⟩, ids_baseOrder.mem_iff.mpr known⟩

theorem known_of_not_suspect (sound : ¬Suspect enabled) {x y : String} (depends : DependsOn enabled x y) :
    y ∈ ids enabled := by
  by_contra missing
  obtain ⟨plugin, there, -, dependency, listed, rfl⟩ := depends
  exact sound (Or.inr ⟨plugin, there, dependency, listed, Or.inl missing⟩)

theorem path_of_transGen (sound : ¬Suspect enabled) {x y : String}
    (path : Relation.TransGen (DependsOn enabled) x y) : Path (next (baseOrder config enabled)) x y :=
  Relation.TransGen.mono (fun _ _ depends =>
    depends.next (not_not.mp fun twice => sound (Or.inl twice)) (known_of_not_suspect sound depends)) x y path

theorem checkMetadata_ok : checkMetadata plugin = .ok () ↔ ¬InvalidMetadata plugin.metadata := by
  unfold checkMetadata InvalidMetadata
  dsimp only
  rw [require_bind_ok, require_bind_ok, require_ok, not_or, not_or, not_not, Bool.not_eq_false]

theorem checkMetadata_error {exn : Exn} (raised : checkMetadata plugin = .error exn) :
    ∃ message, exn = .validationError message := by
  unfold checkMetadata at raised
  dsimp only at raised
  rw [check_error, check_error, require_error, require_error, require_error] at raised
  rcases raised with ⟨-, rfl⟩ | ⟨-, ⟨-, rfl⟩ | ⟨-, -, rfl⟩⟩
  · exact ⟨_, rfl⟩
  · exact ⟨_, rfl⟩
  · exact ⟨_, rfl⟩

theorem checkDuplicates_ok {seen : List String} (nodup : (ids plugins).Nodup)
    (fresh : ∀ id ∈ ids plugins, id ∉ seen) : checkDuplicates seen plugins = .ok () := by
  induction plugins generalizing seen with
  | nil => rfl
  | cons plugin plugins ih =>
      obtain ⟨new, nodup⟩ := List.nodup_cons.mp nodup
      obtain ⟨first, fresh⟩ := List.forall_mem_cons.mp fresh
      rw [checkDuplicates, require_of first]
      refine ih nodup fun id inside there => ?_
      rcases List.mem_append.mp there with older | last
      · exact fresh id inside older
      · exact new (List.mem_singleton.mp last ▸ inside)

/-- What is raised about a fault. -/
def Reports : Option Fault → Py Unit → Prop
  | none, result => result = .ok ()
  | some .malformed, result => result = .error .valueError
  | some _, result => ∃ message, result = .error (.dependencyError message)

theorem checkDependency_reports (dependency : String) :
    Reports (faultOf plugins dependency) (checkDependency plugins plugin dependency) := by
  unfold faultOf checkDependency
  obtain ⟨id, minimum⟩ := parseDependency dependency
  dsimp only
  cases byId plugins id with
  | none => exact ⟨_, rfl⟩
  | some found =>
      cases minimum with
      | none => rfl
      | some minimum =>
          dsimp only
          cases versionTuple found.metadata.version.scalars with
          | none => rfl
          | some actual =>
              cases versionTuple minimum with
              | none => rfl
              | some least =>
                  dsimp only
                  unfold require
                  split
                  · rfl
                  · exact ⟨_, rfl⟩

/-- Of many checks the first fault is reported. -/
theorem forM_reports {α : Type} {fault : α → Option Fault} {check : α → Py Unit} {items : List α}
    (reports : ∀ item ∈ items, Reports (fault item) (check item)) :
    Reports (items.findSome? fault) (items.forM check) := by
  induction items with
  | nil => rfl
  | cons item items ih =>
      obtain ⟨first, others⟩ := List.forall_mem_cons.mp reports
      have later := ih others
      show Reports _ (check item >>= fun _ => items.forM check)
      rw [List.findSome?_cons]
      cases found : fault item with
      | none =>
          rw [found] at first
          rw [show check item = .ok () from first]
          exact later
      | some fault =>
          rw [found] at first
          cases fault with
          | malformed =>
              rw [show check item = .error .valueError from first]
              rfl
          | missing =>
              obtain ⟨message, raised⟩ := first
              exact ⟨message, by rw [raised]; rfl⟩
          | tooLow =>
              obtain ⟨message, raised⟩ := first
              exact ⟨message, by rw [raised]; rfl⟩

theorem findSome?_flatMap {α β γ : Type} (f : β → Option γ) (g : α → List β) (items : List α) :
    (items.flatMap g).findSome? f = items.findSome? fun item => (g item).findSome? f := by
  induction items with
  | nil => rfl
  | cons item items ih =>
      rw [List.flatMap_cons, List.findSome?_append, List.findSome?_cons, ih]
      cases (g item).findSome? f <;> rfl

theorem dependencies_report : Reports (firstFault plugins)
    (plugins.forM fun plugin => plugin.dependencies.forM (checkDependency plugins plugin)) := by
  unfold firstFault
  rw [findSome?_flatMap]
  exact forM_reports fun plugin _ => forM_reports fun dependency _ => checkDependency_reports dependency

theorem checkAcyclic_cases : (checkAcyclic plugins = .ok () ∧ ∀ id ∈ ids plugins, ¬Path (rawNext plugins) id id) ∨
    ((∃ message, checkAcyclic plugins = .error (.dependencyError message)) ∧
      ∃ id ∈ ids plugins, Path (rawNext plugins) id id) := by
  have inside : ∀ id, rawNext plugins id ⊆ (ids plugins).eraseDups := fun id _ there =>
    List.mem_eraseDups.mpr (rawNext_inside id there)
  have acyclic := order_isOk inside
  unfold checkAcyclic
  cases visited : DepthFirst.order (rawNext plugins) (ids plugins).eraseDups with
  | ok walk =>
      refine Or.inl ⟨rfl, fun id there => ?_⟩
      exact acyclic.mp ⟨walk, visited⟩ id (List.mem_eraseDups.mpr there)
  | error id =>
      refine Or.inr ⟨⟨_, rfl⟩, ?_⟩
      by_contra none
      obtain ⟨walk, visited'⟩ := acyclic.mpr fun id there cycle => none ⟨id, List.mem_eraseDups.mp there, cycle⟩
      rw [visited] at visited'
      cases visited'

/-- The validator's answer on plugins with valid metadata. -/
inductive Judged (ordered : List Plugin) : Py Unit → Prop where
  | accepted : ¬Objects ordered → Judged ordered (.ok ())
  | refused (message : String) : Objects ordered → firstFault ordered ≠ some .malformed →
      Judged ordered (.error (.dependencyError message))
  | malformed : firstFault ordered = some .malformed → Judged ordered (.error .valueError)

theorem checkDependencies_judged : Judged plugins (checkDependencies plugins) := by
  have reported : Reports (firstFault plugins)
      (plugins.forM fun plugin => plugin.dependencies.forM (checkDependency plugins plugin)) :=
    dependencies_report
  unfold checkDependencies
  cases found : firstFault plugins with
  | none =>
      rw [found] at reported
      rw [show (plugins.forM _ : Py Unit) = .ok () from reported, ok_bind]
      rcases @checkAcyclic_cases plugins with ⟨accepted, acyclic⟩ | ⟨⟨message, refused⟩, cycle⟩
      · rw [accepted]
        refine .accepted fun objects => ?_
        rcases objects with faulty | ⟨id, there, cycle⟩
        · exact faulty found
        · exact acyclic id there cycle
      · rw [refused]
        exact .refused message (Or.inr cycle) (by rw [found]; nofun)
  | some fault =>
      have faulty : firstFault plugins ≠ none := by rw [found]; nofun
      rw [found] at reported
      cases fault with
      | malformed =>
          rw [show (plugins.forM _ : Py Unit) = .error .valueError from reported]
          exact .malformed found
      | missing =>
          obtain ⟨message, raised⟩ := reported
          rw [raised]
          exact .refused message (Or.inl faulty) (by rw [found]; nofun)
      | tooLow =>
          obtain ⟨message, raised⟩ := reported
          rw [raised]
          exact .refused message (Or.inl faulty) (by rw [found]; nofun)

theorem validate_judged (nodup : (ids plugins).Nodup)
    (valid : ∀ plugin ∈ plugins, ¬InvalidMetadata plugin.metadata) :
    Judged plugins (validate plugins) := by
  have checked : plugins.forM checkMetadata = .ok () :=
    forM_ok.mpr fun plugin there => checkMetadata_ok.mpr (valid plugin there)
  unfold validate
  rw [checked, ok_bind, checkDuplicates_ok nodup fun _ _ => List.not_mem_nil, ok_bind]
  exact checkDependencies_judged

theorem validate_invalid (there : plugin ∈ plugins) (invalid : InvalidMetadata plugin.metadata) :
    ∃ message, validate plugins = .error (.validationError message) := by
  have unchecked : plugins.forM checkMetadata ≠ .ok () := fun checked =>
    checkMetadata_ok.mp (forM_ok.mp checked plugin there) invalid
  unfold validate
  cases raised : plugins.forM checkMetadata with
  | ok value => exact absurd raised unchecked
  | error exn =>
      obtain ⟨_, _, _, -, -, raised⟩ := forM_error.mp raised
      obtain ⟨message, rfl⟩ := checkMetadata_error raised
      exact ⟨message, rfl⟩

theorem extend_ok {registry : Dict String Plugin} (nodup : (ids plugins).Nodup)
    (fresh : ∀ id ∈ ids plugins, id ∉ registry.keys) :
    ∃ after, extend registry plugins = (after, .ok ()) ∧ after.values = registry.values ++ plugins := by
  induction plugins generalizing registry with
  | nil => exact ⟨registry, rfl, (List.append_nil _).symm⟩
  | cons plugin plugins ih =>
      obtain ⟨new, nodup⟩ := List.nodup_cons.mp nodup
      obtain ⟨first, fresh⟩ := List.forall_mem_cons.mp fresh
      have unseen : ¬(registry.get? plugin.id).isSome = true := fun there =>
        first ((Dict.get?_isSome_iff registry _).mp there)
      rw [extend, if_neg unseen]
      obtain ⟨after, extended, values⟩ := @ih (registry.set plugin.id plugin) nodup fun id inside there => by
        rw [Dict.keys_set, if_neg first] at there
        rcases List.mem_append.mp there with older | last
        · exact fresh id inside older
        · exact new (List.mem_singleton.mp last ▸ inside)
      refine ⟨after, extended, ?_⟩
      rw [values, Dict.values_set_of_notMem first, List.append_assoc]
      rfl

theorem defective_iff {walk : Walk String} (sorted : Sorted (baseOrder config enabled) ordered walk)
    (valid : ∀ plugin ∈ ordered, ¬InvalidMetadata plugin.metadata) : Defective enabled ↔ Suspect enabled := by
  constructor
  · intro defective
    by_contra sound
    have nodup : (ids enabled).Nodup := not_not.mp fun twice => sound (Or.inl twice)
    cases defective with
    | duplicate twice => exact twice nodup
    | metadata plugin there invalid =>
        exact valid plugin ((sorted.enabled_perm nodup).mem_iff.mpr there) invalid
    | dependency plugin dependency there listed wrong =>
        exact sound (Or.inr ⟨plugin, there, dependency, listed, wrong⟩)
    | cycle id path => exact visits_acyclic sorted.visited (path_of_transGen sound path)
  · rintro (twice | ⟨plugin, there, dependency, listed, wrong⟩)
    · exact .duplicate twice
    · exact .dependency plugin dependency there listed wrong

theorem ordered_of_sound {walk : Walk String} (sorted : Sorted (baseOrder config enabled) ordered walk)
    (sound : ¬Suspect enabled) : Ordered config enabled ordered := by
  have nodup : (ids enabled).Nodup := not_not.mp fun twice => sound (Or.inl twice)
  have nodup' : (ids (baseOrder config enabled)).Nodup := ids_baseOrder.nodup_iff.mpr nodup
  have perm := sorted.enabled_perm nodup
  have good := (visits_ok sorted.visited).1
  have done_known := (visits_ok sorted.visited).2
  refine ⟨perm, fun plugin there dependency listed => ?_, fun p first q second below overtaken => ?_⟩
  · have depends : DependsOn enabled plugin.id (dependencyId dependency) :=
      ⟨plugin, perm.mem_iff.mp there, rfl, dependency, listed, rfl⟩
    exact sorted.closed there listed (ids_baseOrder.mem_iff.mpr (known_of_not_suspect sound depends))
  · have begun : ∀ plugin ∈ enabled, plugin.id ∈ walk.begun := fun plugin there => good.done_begun
      ((done_known _).mpr (ids_baseOrder.mem_iff.mpr (List.mem_map_of_mem there)))
    rw [sorted.sameIds] at overtaken
    rcases good.overtakes (begun p first) (begun q second) (baseOrder_lt nodup first second below)
      overtaken with path | ⟨v, there, earlier, edge, unranked⟩
    · exact Or.inl (transGen_of_path path)
    · obtain ⟨third, inside, named⟩ := List.mem_map.mp (ids_baseOrder.mem_iff.mp (good.begun_nodes there))
      subst named
      refine Or.inr ⟨third, inside, ⟨walk, sorted.visited, earlier⟩, .of_next edge, fun depends => unranked ?_⟩
      exact next_ranked nodup' (depends.next nodup (List.mem_map_of_mem first))
        (List.mem_map_of_mem (baseOrder_perm.mem_iff.mpr second)) (baseOrder_lt nodup first second below)

/-- The validator strips the id of a dependency with a minimum version only. -/
theorem parseDependency_id {dependency : String}
    (bare : (parseDependency dependency).2 = none → Chars.strip dependency.scalars = dependency.scalars) :
    (parseDependency dependency).1 = dependencyId dependency := by
  unfold parseDependency dependencyId at *
  cases cut : Chars.cutAt atLeast dependency.scalars with
  | some parts => rfl
  | none =>
      rw [cut] at bare
      dsimp only at bare ⊢
      rw [bare rfl, String.ofList_scalars]

/-- A dependency that the validator finds nothing wrong with. -/
theorem faultOf_none {dependency : String} (sound : faultOf plugins dependency = none) :
    (parseDependency dependency).1 ∈ ids plugins ∧
      ∀ minimum, (parseDependency dependency).2 = some minimum →
        ∃ plugin actual least, byId plugins (parseDependency dependency).1 = some plugin ∧
          versionTuple plugin.metadata.version.scalars = some actual ∧
          versionTuple minimum = some least ∧ least ≤ actual := by
  unfold faultOf at sound
  dsimp only at sound
  cases found : byId plugins (parseDependency dependency).1 with
  | none =>
      rw [found] at sound
      cases sound
  | some plugin =>
      refine ⟨byId_isSome.mp (by rw [found]; rfl), fun minimum named => ?_⟩
      rw [found, named] at sound
      dsimp only at sound
      cases actual : versionTuple plugin.metadata.version.scalars with
      | none =>
          rw [actual] at sound
          cases sound
      | some version =>
          cases least : versionTuple minimum with
          | none =>
              rw [actual, least] at sound
              cases sound
          | some bound =>
              rw [actual, least] at sound
              refine ⟨plugin, version, bound, rfl, actual, rfl, ?_⟩
              by_contra above
              dsimp only at sound
              rw [if_neg above] at sound
              cases sound

theorem faultOf_silent (silent : ¬Objects plugins) (there : plugin ∈ plugins) {dependency : String}
    (listed : dependency ∈ plugin.dependencies) : faultOf plugins dependency = none := by
  have sound : firstFault plugins = none := not_not.mp fun faulty => silent (Or.inl faulty)
  exact List.findSome?_eq_none_iff.mp sound dependency (List.mem_flatMap.mpr ⟨plugin, there, listed⟩)

theorem firstFault_some {fault : Fault} (first : firstFault plugins = some fault) :
    ∃ plugin ∈ plugins, ∃ dependency ∈ plugin.dependencies, faultOf plugins dependency = some fault := by
  obtain ⟨dependency, inside, faulty⟩ := List.exists_of_findSome?_eq_some first
  obtain ⟨plugin, there, listed⟩ := List.mem_flatMap.mp inside
  exact ⟨plugin, there, dependency, listed, faulty⟩

theorem Missing.perm {dependency : String} (perm : ordered.Perm enabled) (missing : Missing ordered dependency) :
    Missing enabled dependency :=
  fun known => missing ((perm.map Plugin.id).mem_iff.mpr known)

theorem TooLow.perm {dependency : String} (perm : ordered.Perm enabled) (tooLow : TooLow ordered dependency) :
    TooLow enabled dependency := by
  obtain ⟨other, present, low⟩ := tooLow
  exact ⟨other, perm.mem_iff.mp present, low⟩

/-- A fault is one of the plugins too, where the dependency is read alike by both. -/
theorem faultOf_legible {dependency : String}
    (alike : (parseDependency dependency).1 = dependencyId dependency)
    (comparable : ∀ minimum, (parseDependency dependency).2 = some minimum →
      ∀ other ∈ plugins, other.id = dependencyId dependency →
        (versionTuple minimum).isSome ∧ (versionTuple other.metadata.version.scalars).isSome)
    {fault : Fault} (faulty : faultOf plugins dependency = some fault) :
    fault ≠ .malformed ∧ (Missing plugins dependency ∨ TooLow plugins dependency) := by
  unfold faultOf at faulty
  dsimp only at faulty
  rw [alike] at faulty
  cases found : byId plugins (dependencyId dependency) with
  | none =>
      rw [found] at faulty
      cases faulty
      refine ⟨nofun, Or.inl fun there => ?_⟩
      have present : (byId plugins (dependencyId dependency)).isSome := byId_isSome.mpr there
      rw [found] at present
      cases present
  | some plugin =>
      obtain ⟨there, named⟩ := byId_some found
      rw [found] at faulty
      cases minimum : (parseDependency dependency).2 with
      | none =>
          rw [minimum] at faulty
          cases faulty
      | some bound =>
          obtain ⟨least, actual⟩ := comparable bound minimum plugin there named
          obtain ⟨least, lower⟩ := Option.isSome_iff_exists.mp least
          obtain ⟨actual, version⟩ := Option.isSome_iff_exists.mp actual
          rw [minimum] at faulty
          dsimp only at faulty
          rw [version, lower] at faulty
          dsimp only at faulty
          split at faulty
          · cases faulty
          · rename_i above
            cases faulty
            refine ⟨nofun, Or.inr ⟨plugin, there, named, bound, actual, least, minimum, version, lower, ?_⟩⟩
            exact not_le.mp above

variable {manager : PluginManager} {discovered : List Plugin}

theorem load_refused {exn : Exn}
    (raised : (do
      let ordered ← order config (discovered.filter (isEnabled config))
      validate ordered
      return ordered) = (.error exn : Py (List Plugin))) :
    load manager config discovered = ({ manager with config := config }, .error exn) := by
  unfold load
  dsimp only
  rw [raised]

theorem load_accepted (sorts : order config (discovered.filter (isEnabled config)) = .ok ordered)
    (nodup : (ids ordered).Nodup) (valid : validate ordered = .ok ()) :
    ∃ registry, registry.values = ordered ∧ load manager config discovered =
      (⟨config, registry, ordered⟩, .ok ordered) := by
  obtain ⟨registry, extended, values⟩ := @extend_ok ordered Dict.empty nodup fun _ _ => List.not_mem_nil
  refine ⟨registry, values, ?_⟩
  unfold load
  dsimp only
  rw [sorts, ok_bind, valid, ok_bind]
  dsimp only [pure_eq_ok]
  rw [extended]

/-- Where the validator is silent, what is left to fear are shared ids and ids with spaces. -/
theorem suspect_of_silent {walk : Walk String} (sorted : Sorted (baseOrder config enabled) ordered walk)
    (silent : ¬Objects ordered) : ¬Suspect enabled ↔ (ids enabled).Nodup ∧ Complete enabled := by
  constructor
  · intro sound
    have nodup : (ids enabled).Nodup := not_not.mp fun twice => sound (Or.inl twice)
    refine ⟨nodup, fun plugin there dependency listed => ?_⟩
    exact known_of_not_suspect sound ⟨plugin, there, rfl, dependency, listed, rfl⟩
  · rintro ⟨nodup, complete⟩ (twice | ⟨plugin, there, dependency, listed, missing | tooLow⟩)
    · exact twice nodup
    · exact missing (complete plugin there dependency listed)
    · have perm := sorted.enabled_perm nodup
      have sound := faultOf_silent silent (perm.mem_iff.mpr there) listed
      obtain ⟨other, present, named, minimum, actual, least, versioned, version, lower, below⟩ := tooLow
      have alike : (parseDependency dependency).1 = dependencyId dependency :=
        parseDependency_id fun bare => by rw [versioned] at bare; cases bare
      obtain ⟨-, compared⟩ := faultOf_none sound
      obtain ⟨found, actual', least', inside, version', lower', above⟩ := compared minimum versioned
      rw [alike, ← named, byId_of_mem sorted.nodup (perm.mem_iff.mpr present)] at inside
      cases inside
      rw [version] at version'
      rw [lower] at lower'
      cases version'
      cases lower'
      exact absurd below (not_lt.mpr above)

/-- Legible dependencies are read alike by the manager and the validator. -/
theorem Legible.alike (legible : Legible enabled) (there : plugin ∈ enabled) {dependency : String}
    (listed : dependency ∈ plugin.dependencies) : (parseDependency dependency).1 = dependencyId dependency :=
  parseDependency_id (legible.bare plugin there dependency listed)

theorem Legible.faults (legible : Legible enabled) (perm : ordered.Perm enabled) {fault : Fault}
    (first : firstFault ordered = some fault) : fault ≠ .malformed ∧ ∃ plugin ∈ enabled,
      ∃ dependency ∈ plugin.dependencies, Missing enabled dependency ∨ TooLow enabled dependency := by
  obtain ⟨plugin, inside, dependency, listed, faulty⟩ := firstFault_some first
  have there := perm.mem_iff.mp inside
  obtain ⟨readable, reason⟩ := faultOf_legible (legible.alike there listed) (fun minimum versioned other present =>
    legible.comparable plugin there dependency listed minimum versioned other (perm.mem_iff.mp present)) faulty
  exact ⟨readable, plugin, there, dependency, listed, reason.imp (Missing.perm perm) (TooLow.perm perm)⟩

/-- The validator objects to legible plugins exactly when there is reason to. -/
theorem objects_of_legible {walk : Walk String} (sorted : Sorted (baseOrder config enabled) ordered walk)
    (legible : Legible enabled) :
    firstFault ordered ≠ some .malformed ∧ (Objects ordered ↔ Suspect enabled) := by
  have perm := sorted.enabled_perm legible.distinct
  have sameIds : (ids ordered).Perm (ids enabled) := perm.map Plugin.id
  refine ⟨fun malformed => (legible.faults perm malformed).1 rfl, fun objects => ?_, fun suspect => ?_⟩
  · rcases objects with faulty | ⟨id, there, cycle⟩
    · obtain ⟨fault, first⟩ := Option.ne_none_iff_exists'.mp faulty
      exact Or.inr (legible.faults perm first).2
    · refine absurd (Relation.TransGen.mono (fun x y edge => ?_) id id cycle) (visits_acyclic sorted.visited)
      obtain ⟨plugin, inside, ⟨dependency, listed, same⟩, known⟩ := mem_rawNext.mp edge
      obtain ⟨there, named⟩ := byId_some inside
      subst named
      refine mem_next.mpr ⟨plugin, sorted.mem.mp there, ⟨dependency, listed, ?_⟩, ?_⟩
      · rw [← legible.alike (perm.mem_iff.mp there) listed, same]
      · exact ids_baseOrder.mem_iff.mpr (sameIds.mem_iff.mp known)
  · by_contra silent
    refine (suspect_of_silent sorted silent).mpr ⟨legible.distinct, ?_⟩ suspect
    intro plugin there dependency listed
    rw [← legible.alike there listed]
    exact sameIds.mem_iff.mp (faultOf_none (faultOf_silent silent (perm.mem_iff.mpr there) listed)).1

/-- Manageable plugins are loaded or refused as promised. Whenever plugins are returned, the
promise is kept exactly when the ids are distinct and no dependency, its id stripped, is
missing. -/
theorem load_lawful (manager : PluginManager) (config : PluginConfig) (discovered : List Plugin) :
    (Manageable (discovered.filter (isEnabled config)) →
      Lawful config (discovered.filter (isEnabled config)) manager (load manager config discovered).1
        (load manager config discovered).2) ∧
    ∀ ordered, (load manager config discovered).2 = .ok ordered →
      (Lawful config (discovered.filter (isEnabled config)) manager (load manager config discovered).1
          (load manager config discovered).2 ↔
        (ids (discovered.filter (isEnabled config))).Nodup ∧
          Complete (discovered.filter (isEnabled config))) := by
  generalize chosen : discovered.filter (isEnabled config) = enabled
  cases sorts : order config enabled with
  | error exn =>
      obtain ⟨⟨message, rfl⟩, node, cycle⟩ := dependencyOrder_error sorts
      rw [load_refused (by rw [chosen, sorts]; rfl)]
      exact ⟨fun _ => ⟨.cycle node (transGen_of_path cycle), nofun, rfl, rfl⟩, nofun⟩
  | ok ordered =>
      obtain ⟨walk, sorted⟩ := dependencyOrder_ok sorts
      by_cases valid : ∀ plugin ∈ ordered, ¬InvalidMetadata plugin.metadata
      · have defective := defective_iff sorted valid
        have judged := validate_judged sorted.nodup valid
        have agreed : Manageable enabled →
            firstFault ordered ≠ some .malformed ∧ (Objects ordered ↔ Suspect enabled) := by
          intro manageable
          cases manageable with
          | cycle id path => exact absurd (path_baseOrder.mpr path) (visits_acyclic sorted.visited)
          | metadata id plugin found invalid =>
              have inside := sorted.mem.mpr (byId_baseOrder.trans ((byId_some found).2 ▸ found))
              exact absurd invalid (valid plugin inside)
          | legible legible => exact objects_of_legible sorted legible
        generalize answer : validate ordered = judgement at judged
        cases judged with
        | accepted silent =>
            obtain ⟨registry, values, loaded⟩ :=
              @load_accepted ordered config manager discovered (chosen ▸ sorts) sorted.nodup answer
            have kept : Lawful config enabled manager ⟨config, registry, ordered⟩ (.ok ordered) ↔
                ¬Suspect enabled :=
              ⟨fun ⟨whole, _⟩ suspect => whole (defective.mpr suspect), fun unsuspected =>
                ⟨fun whole => unsuspected (defective.mp whole), ordered_of_sound sorted unsuspected, rfl, values⟩⟩
            rw [loaded, kept]
            refine ⟨fun manageable suspect => silent ((agreed manageable).2.mpr suspect), ?_⟩
            exact fun _ _ => suspect_of_silent sorted silent
        | refused message objects sound =>
            rw [load_refused (by rw [chosen, sorts, ok_bind, answer]; rfl)]
            refine ⟨fun manageable => ⟨?_, nofun, rfl, rfl⟩, nofun⟩
            exact defective.mpr ((agreed manageable).2.mp objects)
        | malformed fault =>
            rw [load_refused (by rw [chosen, sorts, ok_bind, answer]; rfl)]
            exact ⟨fun manageable => absurd fault (agreed manageable).1, nofun⟩
      · push Not at valid
        obtain ⟨plugin, inside, invalid⟩ := valid
        obtain ⟨message, raised⟩ := validate_invalid inside invalid
        rw [load_refused (by rw [chosen, sorts, ok_bind, raised]; rfl)]
        refine ⟨fun _ => ⟨?_, nofun, rfl, rfl⟩, nofun⟩
        exact .metadata plugin (baseOrder_perm.mem_iff.mp (byId_some (sorted.mem.mp inside)).1) invalid

def sampleMetadata : PluginMetadata where
  id := "scorer"
  name := "Scorer"
  version := "1.0.0"
  author := "Hunter"
  description := "Scores"
  category := "score"
  dependencies := []
  capabilities := ["score"]
  enabled := true

def sampleTwin : PluginMetadata := { sampleMetadata with name := "Other scorer" }

def sampleReport : PluginMetadata :=
  { sampleMetadata with id := "report", name := "Report", dependencies := [" scorer >= 0.9.12"] }

def sampleConfig : PluginConfig := ⟨Dict.empty, [], Dict.empty⟩

def sampleManager : PluginManager := ⟨sampleConfig, Dict.empty, [⟨sampleTwin⟩]⟩

def sampleTwins : List Plugin := [⟨sampleMetadata⟩, ⟨sampleTwin⟩]

def samplePair : List Plugin := [⟨sampleReport⟩, ⟨sampleMetadata⟩]

theorem sample_next (free : ∀ plugin ∈ plugins, plugin.dependencies = []) : next plugins = fun _ => [] := by
  funext id
  refine List.eq_nil_iff_forall_not_mem.mpr fun dependency there => ?_
  obtain ⟨plugin, found, ⟨text, listed, -⟩, -⟩ := mem_next.mp there
  rw [free plugin (byId_some found).1] at listed
  exact absurd listed List.not_mem_nil

theorem sampleTwins_order : order sampleConfig sampleTwins = .ok [⟨sampleTwin⟩] := by
  unfold order dependencyOrder visits
  rw [show baseOrder sampleConfig sampleTwins = sampleTwins from List.mergeSort_of_pairwise (by decide),
    sample_next (by decide)]
  decide

theorem sampleTwins_load : ∃ after, load sampleManager sampleConfig sampleTwins = (after, .ok [⟨sampleTwin⟩]) := by
  obtain ⟨registry, -, loaded⟩ := @load_accepted [⟨sampleTwin⟩] sampleConfig sampleManager sampleTwins
    sampleTwins_order (by decide) (by decide)
  exact ⟨_, loaded⟩

theorem samplePair_next : next samplePair = fun id => if id = "report" then ["scorer"] else [] := by
  funext id
  by_cases report : id = "report"
  · subst report
    rw [if_pos rfl]
    unfold next
    rw [show byId samplePair "report" = some ⟨sampleReport⟩ from by decide]
    dsimp only
    rw [show sampleReport.dependencies.map dependencyId = ["scorer"] from by decide, List.mergeSort_singleton]
    decide
  · rw [if_neg report]
    refine List.eq_nil_iff_forall_not_mem.mpr fun dependency there => ?_
    obtain ⟨plugin, found, ⟨text, listed, -⟩, -⟩ := mem_next.mp there
    obtain ⟨inside, named⟩ := byId_some found
    have free : ∀ plugin ∈ samplePair, plugin.id ≠ "report" → plugin.dependencies = [] := by decide
    rw [free plugin inside (named ▸ report)] at listed
    exact absurd listed List.not_mem_nil

theorem samplePair_order : order sampleConfig samplePair = .ok [⟨sampleMetadata⟩, ⟨sampleReport⟩] := by
  unfold order dependencyOrder visits
  rw [show baseOrder sampleConfig samplePair = samplePair from List.mergeSort_of_pairwise (by decide),
    samplePair_next]
  decide

theorem samplePair_load : ∃ after,
    load sampleManager sampleConfig samplePair = (after, .ok [⟨sampleMetadata⟩, ⟨sampleReport⟩]) := by
  obtain ⟨registry, -, loaded⟩ := @load_accepted [⟨sampleMetadata⟩, ⟨sampleReport⟩] sampleConfig sampleManager
    samplePair samplePair_order (by decide) (by decide)
  exact ⟨_, loaded⟩

theorem samplePair_legible : Legible samplePair where
  distinct := by decide
  bare := by decide
  comparable := by
    intro plugin there dependency listed minimum versioned other present _
    have bounds : ∀ plugin ∈ samplePair, ∀ dependency ∈ plugin.dependencies,
        ((parseDependency dependency).2.bind versionTuple).isSome := by decide
    have versions : ∀ other ∈ samplePair, (versionTuple other.metadata.version.scalars).isSome := by decide
    have bound := bounds plugin there dependency listed
    rw [versioned] at bound
    exact ⟨bound, versions other present⟩

/-- A plugin is loaded after the one that it needs, against the base order. -/
theorem load_lawful_sample : ∃ after,
    load sampleManager sampleConfig samplePair = (after, .ok [⟨sampleMetadata⟩, ⟨sampleReport⟩]) ∧
      Lawful sampleConfig samplePair sampleManager after (.ok [⟨sampleMetadata⟩, ⟨sampleReport⟩]) := by
  have enabled : samplePair.filter (isEnabled sampleConfig) = samplePair := by decide
  obtain ⟨after, loaded⟩ := samplePair_load
  have lawful := (load_lawful sampleManager sampleConfig samplePair).1
    (.legible (by rw [enabled]; exact samplePair_legible))
  rw [loaded, enabled] at lawful
  exact ⟨after, loaded, lawful⟩

/-- The first of two plugins with one id is dropped, and the second is loaded. -/
theorem load_fails : ¬∀ (manager : PluginManager) (config : PluginConfig) (discovered : List Plugin),
    Lawful config (discovered.filter (isEnabled config)) manager (load manager config discovered).1
      (load manager config discovered).2 := by
  intro lawful
  have broken := lawful sampleManager sampleConfig sampleTwins
  obtain ⟨after, loaded⟩ := sampleTwins_load
  rw [loaded] at broken
  exact broken.1 (.duplicate (by decide))

end Hunter.Plugins
