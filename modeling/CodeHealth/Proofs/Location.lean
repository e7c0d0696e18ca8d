import CodeHealth.Proofs.Discovery
import CodeHealth.Proofs.Paths

/-!
# Where a project lies

The same tree can lie at different places, below directories of any name and under any spelling of
its root. An analysis sees the tree alone: all that it takes from the path of a file is the names
below the root.

* `Project.movedTo` — the project with another root;
* `Project.wanted_movedTo`, `Project.sources_movedTo`, `Project.analyze_movedTo` — the same files,
  the same sources and the same results;
* `Project.relative_discovered` — discovered paths, seen from the root, are the names on the way;
* `Project.run_independent_of_location` — a tree at two places, its language found out at each.
-/

namespace CodeHealth.Project

variable (project : Project)

/-- The `project` with another `root`, and all else as it is. -/
def movedTo (root : Path) : Project := { project with root }

/-! ### Files below the root -/

/-- The names that lead to a file of `wanted` are names in the sense of `IsName`, and there is one
at least, as there is for any file of the walk. -/
theorem names_of_mem_wanted {entries : List (Name × Entry)}
    (hwf : (Entry.directory entries).WellFormed) {f : Entry.Found}
    (hf : f ∈ project.wanted (.directory entries)) : f.names ≠ [] ∧ ∀ n ∈ f.names, IsName n :=
  Entry.names_of_mem_files hwf (List.mem_filter.mp hf).1

/-- Whether a file is relevant depends on the `names` on the way to it alone, and not on the `root`
that they start from. -/
theorem isRelevant_movedTo (root : Path) {names : List Name} (hne : names ≠ [])
    (h : ∀ n ∈ names, IsName n) :
    (project.movedTo root).isRelevant (names.foldl Path.child root)
      = project.isRelevant (names.foldl Path.child project.root) :=
  project.language.filter.accepts_below root project.root hne h

variable {entries : List (Name × Entry)}

/-- The same files are discovered (`wanted`) in one tree from any `root`. -/
theorem wanted_movedTo (hwf : (Entry.directory entries).WellFormed) (root : Path) :
    (project.movedTo root).wanted (.directory entries) = project.wanted (.directory entries) := by
  refine List.filter_congr fun f hf => ?_
  obtain ⟨hne, hnames⟩ := Entry.names_of_mem_files hwf hf
  exact project.isRelevant_movedTo root hne hnames

/-- They have the same labels and contents, so the `sources` are the same: a label is the path seen
from the root, and not the path on the disk. -/
theorem sources_movedTo (hwf : (Entry.directory entries).WellFormed) (root : Path) :
    (project.movedTo root).sources (.directory entries)
      = project.sources (.directory entries) := by
  rw [sources_eq_map_wanted, sources_eq_map_wanted, project.wanted_movedTo hwf]
  refine List.map_congr_left fun f hf => ?_
  obtain ⟨hne, hnames⟩ := project.names_of_mem_wanted hwf hf
  exact SourceFile.source_below root project.root hne hnames f.content

/-- **An analysis does not depend on the root**: `analyze` sees the `root` only through `sources`,
and where it looks for manifests only through the tree. -/
theorem analyze_movedTo (hwf : (Entry.directory entries).WellFormed) (root : Path) :
    (project.movedTo root).analyze (.directory entries)
      = project.analyze (.directory entries) := by
  unfold analyze
  rw [project.sources_movedTo hwf root]
  rfl

/-- The paths of `discovered` files, seen from the root by `relativeTo`, are made of the names on
the way to them. -/
theorem relative_discovered (hwf : (Entry.directory entries).WellFormed) :
    (project.discovered (.directory entries)).map (fun p => p.relativeTo project.root)
      = (project.wanted (.directory entries)).map fun f => ⟨f.names⟩ := by
  rw [discovered_eq_map_wanted, List.map_map]
  refine List.map_congr_left fun f hf => ?_
  obtain ⟨hne, hnames⟩ := project.names_of_mem_wanted hwf hf
  exact Path.relativeTo_below project.root hne hnames

/-! ### Settings with another root -/

/-- The language of a tree is the same wherever it lies: `languageOf` looks at the setting and at
what `lookup?` finds. -/
theorem languageOf_eq {settings settings' : Settings} {disk disk' : Disk}
    (hlanguage : settings'.language = settings.language)
    (htree : disk'.lookup? settings'.root = disk.lookup? settings.root) :
    languageOf settings' disk' = languageOf settings disk := by
  unfold languageOf
  rw [hlanguage, htree]

/-- Projects with the same `settings` but for the root are the same but for the root (`movedTo`), if
both roots lead to the same tree (`htree`). The tree is asked for the language when none is set. -/
theorem ofSettings_movedTo (settings : Settings) {root root' : Path} {disk disk' : Disk}
    (htree : disk'.lookup? root' = disk.lookup? root) (registry : Dependency.Registry)
    (now : Instant) :
    ofSettings { settings with root := root' } disk' registry now
      = (ofSettings { settings with root := root } disk registry now).movedTo root' := by
  have hlanguage : languageOf { settings with root := root' } disk'
      = languageOf { settings with root := root } disk := languageOf_eq rfl htree
  unfold ofSettings movedTo
  rw [hlanguage]

/-- **A run does not depend on where the project lies.** Let two roots lead to the same directory
tree `entries`, on one disk or on two, and let all other settings, the registry and the time be the
same. Then at both roots

* the language is found to be the same;
* the run succeeds, with the same results;
* the same files are `discovered`, in the same order, seen from the root;
* a path of names below the root is relevant at one exactly when it is at the other. -/
theorem run_independent_of_location (settings : Settings) (registry : Dependency.Registry)
    (now : Instant) (disk disk' : Disk) (root root' : Path)
    (hwf : (Entry.directory entries).WellFormed)
    (hroot : disk.lookup? root = some (.directory entries))
    (hroot' : disk'.lookup? root' = some (.directory entries)) :
    let here := ofSettings { settings with root := root } disk registry now
    let there := ofSettings { settings with root := root' } disk' registry now
    here.language = there.language ∧
    (∃ r, here.run disk = .ok r ∧ there.run disk' = .ok r) ∧
    (here.discovered (.directory entries)).map (fun p => p.relativeTo root)
      = (there.discovered (.directory entries)).map (fun p => p.relativeTo root') ∧
    ∀ names, names ≠ [] → (∀ n ∈ names, IsName n) →
      here.isRelevant (root.join ⟨names⟩) = there.isRelevant (root'.join ⟨names⟩) := by
  intro here there
  have hthere : there = here.movedTo root' :=
    ofSettings_movedTo settings (hroot'.trans hroot.symm) registry now
  rw [hthere]
  refine ⟨rfl, ⟨here.analyze (.directory entries), ?_, ?_⟩, ?_, ?_⟩
  · exact here.run_eq_ok_iff.mpr ⟨entries, hroot, rfl⟩
  · exact (here.movedTo root').run_eq_ok_iff.mpr
      ⟨entries, hroot', (here.analyze_movedTo hwf root').symm⟩
  · have hhere := here.relative_discovered hwf
    have hmoved := (here.movedTo root').relative_discovered hwf
    rw [here.wanted_movedTo hwf root'] at hmoved
    exact hhere.trans hmoved.symm
  · intro names hne hnames
    rw [Path.join_mk root hne hnames, Path.join_mk root' hne hnames]
    exact (here.isRelevant_movedTo root' hne hnames).symm

end CodeHealth.Project

namespace CodeHealth.Sample

/-- The files of the project `entries` and a manifest that tells its language, Python. -/
def withManifest : List (Name × Entry) := ("requirements.txt".toList, .file []) :: entries

/-- No two of the files of `withManifest` have one name. -/
theorem withManifest_wellFormed : (Entry.directory withManifest).WellFormed :=
  entries_wellFormed.cons (by decide) (by decide) (.file [])

/-- A disk that holds `withManifest` at `/code`. -/
def plainDisk : Disk := ⟨.directory [("code".toList, .directory withManifest)], []⟩

/-- A disk that holds `withManifest` below `vendor`, which would be passed over inside of a project,
in a directory that is called like a test. -/
def nestedDisk : Disk :=
  ⟨.directory [("vendor".toList, .directory [("test_code".toList, .directory withManifest)])], []⟩

/-- The project is taken for one in Python on `plainDisk` and on `nestedDisk` and gives the same
results, and its file `app.py` is relevant on both. -/
theorem nested_same_results :
    let here := Project.ofSettings { Settings.default with root := Path.ofString "/code" }
      plainDisk Dependency.offlineRegistry ⟨0, 0⟩
    let there := Project.ofSettings
      { Settings.default with root := Path.ofString "/vendor/test_code/../test_code/." }
      nestedDisk Dependency.offlineRegistry ⟨0, 0⟩
    here.language = .python ∧ there.language = .python ∧
      (∃ r, here.run plainDisk = .ok r ∧ there.run nestedDisk = .ok r) ∧
      here.isRelevant (Path.ofString "/code/app.py") = true ∧
      there.isRelevant (Path.ofString "/vendor/test_code/../test_code/./app.py") = true := by
  intro here there
  obtain ⟨hlanguage, hrun, -, hrelevant⟩ :=
    Project.run_independent_of_location Settings.default Dependency.offlineRegistry ⟨0, 0⟩
      plainDisk nestedDisk (Path.ofString "/code")
      (Path.ofString "/vendor/test_code/../test_code/.") withManifest_wellFormed rfl rfl
  have hpython : here.language = .python := rfl
  have happ : here.isRelevant (Path.ofString "/code/app.py") = true := by decide
  exact ⟨hpython, hlanguage ▸ hpython, hrun, happ,
    (hrelevant ["app.py".toList] (by decide) (by decide)).symm.trans happ⟩

end CodeHealth.Sample
