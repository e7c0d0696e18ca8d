import CodeHealth.Analysis
import CodeHealth.Dependency.Manifest
import CodeHealth.Dependency.Freshness
import CodeHealth.Files.Disk
import CodeHealth.Files.Ownership
import CodeHealth.Settings

/-!
# Projects

A project is a tree of sources and all that its analysis depends on.

* `Project.run` analyzes the whole tree;
* `Project.runSingle` measures the functions of one file;
* `Project.isRelevant` tells whether a change of a file may change the analysis.
-/

namespace CodeHealth

/-- A tree of sources and all that its analysis depends on. `ofSettings` makes one. -/
structure Project where
  /-- The directory of the project. -/
  root : Path
  /-- The language whose files are analyzed. -/
  language : Language
  /-- Names of directories that are passed over. -/
  excluded : List Name
  /-- What directories must not import. -/
  rules : List Boundary.Rule
  /-- The days a dependency may be behind. -/
  staleDays : Int
  /-- What is told of releases when the project is analyzed. -/
  registry : Dependency.Registry
  /-- When the project is analyzed; `Session.Step.observe` lets time pass between two analyses. -/
  now : Instant

/-- Why a project cannot be analyzed by `run`. What goes wrong with a dependency is no such
fault. -/
inductive RunFault where
  | rootNotFound (root : Path)
  deriving DecidableEq, Repr

/-- The message for a project that cannot be analyzed, with the `root` as it was given. -/
def RunFault.message : RunFault → String
  | rootNotFound root => s!"analysis root {root.toString} is not a readable directory"

namespace Project

/-- The language of a project: the one that is set in `settings`, or else the one its manifests tell
(`Manifest.detect?`), or else Go. -/
def languageOf (settings : Settings) (disk : Disk) : Language :=
  match settings.language with
  | some language => language
  | none => ((disk.lookup? settings.root).bind Manifest.detect?).getD .go

/-- The project with some `settings`. Nothing is looked up if they say so (`offline`), and texts
that are no rules are dropped. -/
def ofSettings (settings : Settings) (disk : Disk) (registry : Dependency.Registry)
    (now : Instant) : Project where
  root := settings.root
  language := languageOf settings disk
  excluded := settings.excluded.map String.toList
  rules := Boundary.parseRules (settings.boundaries.map String.toList)
  staleDays := settings.thresholds.limits.staleDays
  registry := if settings.lookups.offline then Dependency.offlineRegistry else registry
  now := now

/-- Whether the file at `p` belongs to the sources of the `project`. -/
def isRelevant (project : Project) (p : Path) : Bool := project.language.accepts project.root p

/-- How fresh the dependencies of the `project` are, where `tree` is what its root leads to. There
are none if its manifest cannot be read. -/
def dependencies (project : Project) (tree : Entry) : List DependencyReport :=
  match Manifest.dependencies project.language tree with
  | .ok declared => Dependency.resolve project.registry project.now project.staleDays declared
  | .error _ => []

/-- The sources of the `project` in the order of discovery, where `tree` is what its root leads
to. -/
def sources (project : Project) (tree : Entry) : List Source :=
  (project.language.discover project.excluded project.root tree).map
    (SourceFile.source project.root)

/-- Everything found in the `tree` that the root of the `project` leads to. -/
def analyze (project : Project) (tree : Entry) : Results :=
  let sources := project.sources tree
  let functions := project.language.measures sources
  { language := project.language
    fileCount := sources.length
    functionCount := functions.length
    functions := Results.ranked functions
    dependencies := project.dependencies tree
    violations := project.language.violations project.rules sources
    unused := project.language.unused sources }

/-- Analyzes the whole `project`. Its root has to lead to a directory, and nothing else can fail. -/
def run (project : Project) (disk : Disk) : Except RunFault Results :=
  match disk.lookup? project.root with
  | some (.directory entries) => .ok (project.analyze (.directory entries))
  | _ => .error (.rootNotFound project.root)

/-- Measures the functions of the file at `p`. Nothing is found in a file that does not belong to
the `project` (`isRelevant`), and a file that cannot be read has no functions. -/
def runSingle (project : Project) (disk : Disk) (p : Path) : Results :=
  if project.isRelevant p then
    let sources := (disk.read? p).toList.map fun content =>
      SourceFile.source project.root ⟨p, content⟩
    let functions := project.language.measures sources
    { Results.empty project.language with
      fileCount := 1
      functionCount := functions.length
      functions := Results.ranked functions }
  else Results.empty project.language

end Project

end CodeHealth
