import Mathlib
import Hunter.Automation.Schedule
import Hunter.Data.DepthFirst
import Hunter.Data.Dict

/-!
The plugin manager. The enabled plugins are put in a base order, then in the order of
their dependencies, and what comes out is validated. A dependency is read twice: the
manager strips every id, the validator those with a minimum version only.
-/

namespace Hunter.Plugins

open Fallible

inductive Exn where
  | dependencyError (message : String)
  | validationError (message : String)
  | valueError
  deriving DecidableEq, Repr

abbrev Py : Type → Type := Except Exn

structure PluginMetadata where
  id : String
  name : String
  version : String
  author : String
  description : String
  category : String
  dependencies : List String
  capabilities : List String
  enabled : Bool
  deriving DecidableEq

structure Plugin where
  metadata : PluginMetadata
  deriving DecidableEq

abbrev Plugin.id (plugin : Plugin) : String := plugin.metadata.id

abbrev Plugin.dependencies (plugin : Plugin) : List String := plugin.metadata.dependencies

structure PluginConfig where
  enabled : Dict String Bool
  loadOrder : List String
  priorities : Dict String Int

def atLeast : List Char := ['>', '=']

/-- `_dependency_id` of the manager. -/
def dependencyId (dependency : String) : String :=
  match Chars.cutAt atLeast dependency.scalars with
  | some (id, _) => String.ofList (Chars.strip id)
  | none => String.ofList (Chars.strip dependency.scalars)

/-- `_parse_dependency` of the validator. -/
def parseDependency (dependency : String) : String × Option (List Char) :=
  match Chars.cutAt atLeast dependency.scalars with
  | some (id, version) => (String.ofList (Chars.strip id), some (Chars.strip version))
  | none => (dependency, none)

/-- `int` of a text. -/
def int? (text : List Char) : Option Int := Scheduling.int? (Chars.strip text)

abbrev Version : Type := Lex (Int × Lex (Int × Int))

/-- `_version_tuple`, if the text has three parts and each is an integer. -/
def versionTuple (version : List Char) : Option Version :=
  match version.splitOn '.' with
  | [major, minor, patch] => do
      let major ← int? major
      let minor ← int? minor
      let patch ← int? patch
      return toLex (major, toLex (minor, patch))
  | _ => none

/-- `_valid_version`. -/
def validVersion (version : List Char) : Bool :=
  match version.splitOn '.' with
  | [major, minor, patch] => [major, minor, patch].all fun part =>
      part ≠ [] ∧ part.all fun c => (Scheduling.digitOf c).isSome
  | _ => false

/-- The last index of an item, as a dictionary of the indices keeps it. -/
def lastIndex (item : String) : List String → Option Nat
  | [] => none
  | first :: items =>
      match lastIndex item items with
      | some i => some (i + 1)
      | none => if first = item then some 0 else none

/-- `{item: index}.get(item, len)`. -/
def position (items : List String) (item : String) : Nat :=
  (lastIndex item items).getD items.eraseDups.length

/-- `{plugin.metadata.id: plugin}.get`: the last plugin of an id. -/
def byId (plugins : List Plugin) (id : String) : Option Plugin :=
  plugins.reverse.find? fun plugin => plugin.id = id

def ids (plugins : List Plugin) : List String := plugins.map Plugin.id

/-- By the configured position, then from the highest priority, then by the id. -/
def baseKey (config : PluginConfig) (plugin : Plugin) : Lex (Nat × Lex (Int × String)) :=
  toLex (position config.loadOrder plugin.id,
    toLex (-(config.priorities.get? plugin.id).getD 0, plugin.id))

def baseOrder (config : PluginConfig) (plugins : List Plugin) : List Plugin :=
  plugins.mergeSort fun a b => baseKey config a ≤ baseKey config b

/-- The plugins that a plugin is visited after, by their positions. -/
def next (plugins : List Plugin) (id : String) : List String :=
  match byId plugins id with
  | some plugin =>
      ((plugin.dependencies.map dependencyId).mergeSort fun a b =>
        position (ids plugins) a ≤ position (ids plugins) b).filter fun dependency =>
          dependency ∈ ids plugins
  | none => []

/-- The visits of `_dependency_order`. -/
def visits (plugins : List Plugin) : Except String (DepthFirst.Walk String) :=
  DepthFirst.order (next plugins) (ids plugins)

def cycleMessage (id : String) : String := "Plugin dependency cycle detected at " ++ id

def dependencyOrder (plugins : List Plugin) : Py (List Plugin) :=
  match visits plugins with
  | .ok walk => .ok (walk.done.filterMap (byId plugins))
  | .error id => .error (.dependencyError (cycleMessage id))

/-- The required fields that are blank. -/
def missingFields (metadata : PluginMetadata) : List String :=
  ([("id", metadata.id), ("name", metadata.name), ("version", metadata.version),
    ("author", metadata.author), ("description", metadata.description),
    ("category", metadata.category)].filter fun (_, value) =>
      Chars.strip value.scalars = []).map Prod.fst

/-- `_metadata` of one plugin. -/
def checkMetadata (plugin : Plugin) : Py Unit := do
  let metadata := plugin.metadata
  require (missingFields metadata = []) (.validationError ("Plugin " ++
    (if metadata.id = "" then "<unknown>" else metadata.id) ++ " is missing metadata: " ++
    ", ".intercalate (missingFields metadata)))
  require (metadata.capabilities ≠ [])
    (.validationError ("Plugin " ++ metadata.id ++ " must declare at least one capability"))
  require (validVersion metadata.version.scalars = true)
    (.validationError ("Plugin " ++ metadata.id ++ " has invalid version: " ++ metadata.version))

/-- `_duplicates`, after the ids seen so far. -/
def checkDuplicates : List String → List Plugin → Py Unit
  | _, [] => .ok ()
  | seen, plugin :: plugins => do
      require (plugin.id ∉ seen) (.validationError ("Duplicate plugin id: " ++ plugin.id))
      checkDuplicates (seen ++ [plugin.id]) plugins

/-- `_dependencies` of one dependency of a plugin. -/
def checkDependency (plugins : List Plugin) (plugin : Plugin) (dependency : String) : Py Unit :=
  let (id, minimum) := parseDependency dependency
  match byId plugins id, minimum with
  | none, _ => .error (.dependencyError ("Plugin " ++ plugin.id ++ " depends on missing plugin " ++ id))
  | some _, none => .ok ()
  | some found, some minimum =>
      match versionTuple found.metadata.version.scalars, versionTuple minimum with
      | some actual, some least => require (least ≤ actual) (.dependencyError
          ("Plugin " ++ plugin.id ++ " requires " ++ id ++ ">=" ++ String.ofList minimum))
      | _, _ => .error .valueError

/-- The plugins that a plugin depends on, as the validator reads them. -/
def rawNext (plugins : List Plugin) (id : String) : List String :=
  match byId plugins id with
  | some plugin => (plugin.dependencies.map fun dependency => (parseDependency dependency).1).filter
      fun dependency => dependency ∈ ids plugins
  | none => []

def checkAcyclic (plugins : List Plugin) : Py Unit :=
  match DepthFirst.order (rawNext plugins) (ids plugins).eraseDups with
  | .ok _ => .ok ()
  | .error id => .error (.dependencyError (cycleMessage id))

def checkDependencies (plugins : List Plugin) : Py Unit := do
  plugins.forM fun plugin => plugin.dependencies.forM (checkDependency plugins plugin)
  checkAcyclic plugins

def validate (plugins : List Plugin) : Py Unit := do
  plugins.forM checkMetadata
  checkDuplicates [] plugins
  checkDependencies plugins

structure PluginManager where
  config : PluginConfig
  registry : Dict String Plugin
  plugins : List Plugin

/-- `PluginRegistry.extend`: what is registered, and whether it raises. -/
def extend (registry : Dict String Plugin) : List Plugin → Dict String Plugin × Py Unit
  | [] => (registry, .ok ())
  | plugin :: plugins =>
      if (registry.get? plugin.id).isSome then
        (registry, .error (.validationError ("Duplicate plugin id: " ++ plugin.id)))
      else extend (registry.set plugin.id plugin) plugins

def isEnabled (config : PluginConfig) (plugin : Plugin) : Bool :=
  (config.enabled.get? plugin.id).getD plugin.metadata.enabled

def order (config : PluginConfig) (plugins : List Plugin) : Py (List Plugin) :=
  dependencyOrder (baseOrder config plugins)

/-- `load` of a configuration and the plugins that were discovered. -/
def load (manager : PluginManager) (config : PluginConfig) (discovered : List Plugin) :
    PluginManager × Py (List Plugin) :=
  let manager := { manager with config := config }
  let enabled := discovered.filter (isEnabled config)
  match (do
    let ordered ← order config enabled
    validate ordered
    return ordered) with
  | .error exn => (manager, .error exn)
  | .ok ordered =>
      match extend Dict.empty ordered with
      | (registry, .error exn) => ({ manager with registry := registry }, .error exn)
      | (registry, .ok ()) => ({ manager with registry := registry, plugins := ordered }, .ok ordered)

end Hunter.Plugins
