import CodeHealth.Proofs.WalkOrder

/-!
# Dependencies apart from sources

Dependencies are declared in manifests and looked up in a registry. Neither touches what a run finds
in sources: a manifest is no source of its own language, and a registry is asked for dependencies
alone. In turn one dependency does not touch another.

* `Manifest.isManifest` — where the manifests of a language lie below a root;
* `Manifest.accepts_eq_false` — no manifest of a language is one of its sources;
* `Disk.SameButManifests` — two disks that hold the same below a root, apart from manifests;
* `Project.sources_eq_of_same` — such disks hold the same sources;
* `Project.dependencies_of_ok` — there is one record for each declared dependency;
* `Project.run_isolates_dependencies` — what manifests and a registry can change in a run.
-/

namespace CodeHealth

/-! ### Manifests are no sources -/

namespace Manifest

/-- The names of manifests in the root of a project, by language. The project files of C# are told
by their extension instead (`isProjectName`). -/
def fileNames : Language → List String
  | .go => ["go.mod"]
  | .typescript => ["package.json"]
  | .python => ["requirements.txt", "pyproject.toml"]
  | .rust => ["Cargo.toml"]
  | .java => ["pom.xml", "build.gradle", "build.gradle.kts"]
  | .ruby => ["Gemfile"]
  | .php => ["composer.json"]
  | .csharp => []

/-- Whether some names below a root are those of a place where a manifest of the language lies: one
of the `fileNames` in the root, and for project files also one level down. -/
def isManifest (language : Language) : List Name → Bool
  | [name] => ((fileNames language).map String.toList).contains name ||
      (language == .csharp && isProjectName name)
  | [_, name] => language == .csharp && isProjectName name
  | _ => false

/-- The name of a manifest, which is the `last` one on the way to it: one of the `fileNames` of its
language, or in C# one of a project file. -/
theorem name_of_isManifest {language : Language} {names : List Name} {last : Name}
    (h : isManifest language names = true) (hlast : names.getLast? = some last) :
    last ∈ (fileNames language).map String.toList ∨
      language = .csharp ∧ isProjectName last = true := by
  unfold isManifest at h
  split at h
  · obtain rfl : _ = last := Option.some.inj hlast
    simpa using h
  · obtain rfl : _ = last := Option.some.inj hlast
    exact .inr (by simpa using h)
  · cases h

theorem extension_of_fileName {language : Language} {name : Name}
    (h : name ∈ (fileNames language).map String.toList) :
    (Path.mk [name]).extension?.any language.filter.extensions.contains = false := by
  have hall : ∀ language : Language, ∀ name ∈ (fileNames language).map String.toList,
      (Path.mk [name]).extension?.any language.filter.extensions.contains = false := by
    intro language
    cases language <;> decide
  exact hall language name h

theorem extension_of_isProjectName {name : Name} (h : isProjectName name = true) :
    (Path.mk [name]).extension?.any (Language.filter .csharp).extensions.contains = false := by
  obtain ⟨extension, hextension, hlower⟩ := Option.map_eq_some_iff.mp (eq_of_beq h)
  rw [hextension, Option.any_some, List.contains_eq_mem, decide_eq_false_iff_not]
  intro hmem
  obtain rfl : extension = "cs".toList := List.mem_singleton.mp hmem
  exact absurd hlower (by decide)

/-- **Manifests are no sources.** No language takes one of its manifests (`isManifest`) for a
source, wherever it lies below the root. So manifests can change without a change of the sources. -/
theorem accepts_eq_false {language : Language} (root : Path) {names : List Name} (hne : names ≠ [])
    (hnames : ∀ n ∈ names, IsName n) (h : isManifest language names = true) :
    language.accepts root (names.foldl Path.child root) = false := by
  have hlast := List.getLast?_eq_some_getLast hne
  have hextension : (names.foldl Path.child root).extension?.any
      language.filter.extensions.contains = false := by
    rw [Path.extension?_below root hnames hlast]
    rcases name_of_isManifest h hlast with hname | ⟨rfl, hproject⟩
    · exact extension_of_fileName hname
    · exact extension_of_isProjectName hproject
  rw [Language.accepts, FileFilter.accepts, hextension, Bool.false_and, Bool.false_and]

end Manifest

/-! ### Disks that differ in manifests -/

/-- Two disks hold the same files below a `root`, apart from the manifests of a language. Manifests
may be missing on one of them, and their contents may differ in any way. -/
structure Disk.SameButManifests (language : Language) (root : Path) (disk disk' : Disk) : Prop where
  /-- What the root leads to on the first disk is a well-formed tree. -/
  wellFormed : ∀ tree, disk.lookup? root = some tree → tree.WellFormed
  /-- And so is what it leads to on the second. -/
  wellFormed' : ∀ tree, disk'.lookup? root = some tree → tree.WellFormed
  /-- The root is a directory on both or on neither. -/
  directory : disk.isDirectory root = disk'.isDirectory root
  /-- What is no manifest reads the same on both. -/
  read : ∀ names, names ≠ [] → (∀ n ∈ names, IsName n) →
    Manifest.isManifest language names = false →
    disk.read? (names.foldl Path.child root) = disk'.read? (names.foldl Path.child root)

namespace Disk

theorem isDirectory_iff {disk : Disk} {p : Path} :
    disk.isDirectory p = true ↔ ∃ entries, disk.lookup? p = some (.directory entries) := by
  unfold isDirectory
  cases disk.lookup? p with
  | none => simp
  | some e => cases e <;> simp [Entry.isDirectory]

variable {language : Language} {root : Path} {disk disk' : Disk}

/-- The relation `SameButManifests` does not tell its two disks apart, so that what follows from it
holds both ways. -/
theorem SameButManifests.symm (h : SameButManifests language root disk disk') :
    SameButManifests language root disk' disk where
  wellFormed := h.wellFormed'
  wellFormed' := h.wellFormed
  directory := h.directory.symm
  read := fun names hne hnames hmanifest => (h.read names hne hnames hmanifest).symm

end Disk

namespace Project

section Sources

variable (project : Project) {disk disk' : Disk} {entries entries' : List (Name × Entry)}

/-- What is discovered (`wanted`) on one disk is discovered on a disk that differs in manifests, as
no manifest is relevant. -/
theorem mem_wanted_of_same (h : Disk.SameButManifests project.language project.root disk disk')
    (hroot : disk.lookup? project.root = some (.directory entries))
    (hroot' : disk'.lookup? project.root = some (.directory entries')) {f : Entry.Found}
    (hf : f ∈ project.wanted (.directory entries)) : f ∈ project.wanted (.directory entries') := by
  have hwf := h.wellFormed _ hroot
  obtain ⟨hat, hclear, hrelevant⟩ := (project.mem_wanted_iff hwf).mp hf
  have hne := Entry.names_ne_nil_of_at? hat
  have hnames := hwf.isName_of_at? hat
  -- A relevant file is no manifest, so the other disk holds it too.
  have hsource : Manifest.isManifest project.language f.names = false := by
    cases hmanifest : Manifest.isManifest project.language f.names with
    | false => rfl
    | true =>
      have hrefused := Manifest.accepts_eq_false project.root hne hnames hmanifest
      exact absurd (hrelevant.symm.trans hrefused) Bool.noConfusion
  have hread : disk'.read? (f.names.foldl Path.child project.root) = some f.content := by
    rw [← h.read f.names hne hnames hsource]
    exact (Disk.read?_below hroot hnames).mpr hat
  exact (project.mem_wanted_iff (h.wellFormed' _ hroot')).mpr
    ⟨(Disk.read?_below hroot' hnames).mp hread, hclear, hrelevant⟩

/-- The same files are discovered (`wanted`), in the same order: both lists have the same members,
and both are strictly ordered by names. -/
theorem wanted_eq_of_same (h : Disk.SameButManifests project.language project.root disk disk')
    (hroot : disk.lookup? project.root = some (.directory entries))
    (hroot' : disk'.lookup? project.root = some (.directory entries')) :
    project.wanted (.directory entries) = project.wanted (.directory entries') := by
  have hordered : (project.wanted (.directory entries)).Pairwise Entry.Found.Precedes :=
    (Entry.pairwise_files (h.wellFormed _ hroot)).filter _
  have hordered' : (project.wanted (.directory entries')).Pairwise Entry.Found.Precedes :=
    (Entry.pairwise_files (h.wellFormed' _ hroot')).filter _
  refine hordered.eq_of_mem_iff hordered' fun f => ⟨?_, ?_⟩
  · exact project.mem_wanted_of_same h hroot hroot'
  · exact project.mem_wanted_of_same h.symm hroot' hroot

/-- **Same sources.** Disks that differ in manifests hold the same `sources`, since the files that
are `wanted` are the same. -/
theorem sources_eq_of_same (h : Disk.SameButManifests project.language project.root disk disk')
    (hroot : disk.lookup? project.root = some (.directory entries))
    (hroot' : disk'.lookup? project.root = some (.directory entries')) :
    project.sources (.directory entries) = project.sources (.directory entries') := by
  rw [sources_eq_map_wanted, sources_eq_map_wanted, project.wanted_eq_of_same h hroot hroot']

/-- Where the `sources` are the same, so is all that is found but the dependencies: these alone are
read from the tree itself. -/
theorem analyze_eq_of_sources {tree tree' : Entry}
    (h : project.sources tree = project.sources tree') :
    project.analyze tree'
      = { project.analyze tree with dependencies := project.dependencies tree' } := by
  unfold analyze
  rw [h]

end Sources

/-! ### Runs and their dependencies -/

variable (project : Project)

/-- A `run` succeeds exactly when the root of the project leads to a directory. -/
theorem exists_run_eq_ok_iff (disk : Disk) :
    (∃ r, project.run disk = .ok r) ↔ disk.isDirectory project.root = true := by
  rw [Disk.isDirectory_iff]
  constructor
  · rintro ⟨r, hrun⟩
    obtain ⟨entries, hroot, -⟩ := project.run_eq_ok_iff.mp hrun
    exact ⟨entries, hroot⟩
  · rintro ⟨entries, hroot⟩
    exact ⟨_, project.run_eq_ok_iff.mpr ⟨entries, hroot, rfl⟩⟩

/-- Nothing else can go wrong: the only fault of `run` is `rootNotFound`. -/
theorem run_eq_error {disk : Disk} {fault : RunFault} (h : project.run disk = .error fault) :
    fault = .rootNotFound project.root := by
  unfold run at h
  split at h
  · cases h
  · exact (Except.error.inj h).symm

/-- The record of a dependency: told by what it declares, the answer to its own lookup, the time and
the limit, through `classify`. -/
def recordOf (d : Dependency) : DependencyReport :=
  d.classify (project.registry d.ecosystem d.package) project.now project.staleDays

variable {tree : Entry}

/-- Without a manifest that can be read there are no `dependencies`, and the `fault` of the reading
is not reported. -/
theorem dependencies_of_error {fault : Manifest.Fault}
    (h : Manifest.dependencies project.language tree = .error fault) :
    project.dependencies tree = [] := by
  rw [dependencies, h]

/-- There is one record (`recordOf`) for each declared dependency, in order. It is made from the
dependency and the project, and no longer from the tree. -/
theorem dependencies_of_ok {declared : List Dependency}
    (h : Manifest.dependencies project.language tree = .ok declared) :
    project.dependencies tree = declared.map project.recordOf := by
  rw [dependencies, h]
  rfl

end Project

/-- The packages that a project file of C# refers to; none if it cannot be read. -/
def Manifest.packagesIn (content : Bytes) : List Dependency :=
  ((Text.decode? content).bind Projects.dotnet?).getD []

namespace Project

/-- In C# each of the `projectFiles` brings its own records, whatever becomes of the others: a file
that cannot be read brings none. -/
theorem dependencies_csharp (project : Project) (hlanguage : project.language = .csharp)
    (tree : Entry) :
    project.dependencies tree = (Manifest.projectFiles tree).flatMap fun content =>
      (Manifest.packagesIn content).map project.recordOf := by
  cases hfiles : Manifest.projectFiles tree with
  | nil =>
    have habsent : Manifest.dependencies project.language tree = .error (.absent "*.csproj") := by
      rw [hlanguage, Manifest.dependencies, Manifest.dotnetDependencies, hfiles]
    rw [project.dependencies_of_error habsent]
    rfl
  | cons first rest =>
    have hdeclared : Manifest.dependencies project.language tree
        = .ok ((first :: rest).flatMap Manifest.packagesIn) := by
      rw [hlanguage, Manifest.dependencies, Manifest.dotnetDependencies, hfiles]
      rfl
    rw [project.dependencies_of_ok hdeclared, List.map_flatMap]

/-- **Dependency failures stay with dependencies.** Let two disks hold the same below the root of a
project, apart from the manifests of its language (`SameButManifests`), which may be missing, no
text, malformed or of any content, and let there be two registries. Then

* a run succeeds exactly when the root is a directory, and so on both or on neither; it fails for no
  other cause;
* the two results differ in `dependencies` at most;
* there are no dependencies when the manifest cannot be read; otherwise there is one record for each
  declared dependency in order, told by that dependency, the answer to its own lookup, the time and
  the limit (`classify`);
* in C# each project file brings its own records (`packagesIn`). -/
theorem run_isolates_dependencies (project : Project) (registry registry' : Dependency.Registry)
    {disk disk' : Disk} (h : Disk.SameButManifests project.language project.root disk disk') :
    let here := { project with registry := registry }
    let there := { project with registry := registry' }
    ((∃ r, here.run disk = .ok r) ↔ disk.isDirectory project.root = true) ∧
    ((∃ r, here.run disk = .ok r) ↔ ∃ r', there.run disk' = .ok r') ∧
    (∀ fault, here.run disk = .error fault → fault = .rootNotFound project.root) ∧
    (∀ r r', here.run disk = .ok r → there.run disk' = .ok r' →
      r' = { r with dependencies := r'.dependencies }) ∧
    ∀ r, here.run disk = .ok r → ∃ tree, disk.lookup? project.root = some tree ∧
      (∀ fault, Manifest.dependencies project.language tree = .error fault →
        r.dependencies = []) ∧
      (∀ declared, Manifest.dependencies project.language tree = .ok declared →
        r.dependencies.length = declared.length ∧
        ∀ (i : Nat) d, declared[i]? = some d → r.dependencies[i]? = some
          (d.classify (registry d.ecosystem d.package) project.now project.staleDays)) ∧
      (project.language = .csharp → r.dependencies = (Manifest.projectFiles tree).flatMap
        fun content => (Manifest.packagesIn content).map here.recordOf) := by
  intro here there
  have hhere := here.exists_run_eq_ok_iff disk
  have hthere := there.exists_run_eq_ok_iff disk'
  refine ⟨hhere, ?_, fun fault => here.run_eq_error, ?_, ?_⟩
  · rw [hhere, hthere]
    exact Bool.eq_iff_iff.mp h.directory
  · intro r r' hrun hrun'
    obtain ⟨entries, hroot, rfl⟩ := here.run_eq_ok_iff.mp hrun
    obtain ⟨entries', hroot', rfl⟩ := there.run_eq_ok_iff.mp hrun'
    -- The sources decide all but the dependencies, and they do not depend on the registry.
    have hsources := project.sources_eq_of_same h hroot hroot'
    exact there.analyze_eq_of_sources hsources
  · intro r hrun
    obtain ⟨entries, hroot, rfl⟩ := here.run_eq_ok_iff.mp hrun
    refine ⟨.directory entries, hroot, fun fault => here.dependencies_of_error, ?_,
      fun hlanguage => here.dependencies_csharp hlanguage _⟩
    intro declared hdeclared
    have hrecords : (here.analyze (.directory entries)).dependencies
        = declared.map here.recordOf := here.dependencies_of_ok hdeclared
    rw [hrecords]
    refine ⟨List.length_map _, fun i d hd => ?_⟩
    rw [List.getElem?_map, hd]
    rfl

end Project

/-! ### A manifest that comes and goes -/

/-- A manifest that is put under a name that was not used (`hfresh`) changes no other file, so that
the disks with and without it are `SameButManifests`. -/
theorem Disk.sameButManifests_of_added {language : Language} {root : Path} {disk disk' : Disk}
    {entries : List (Name × Entry)} {name : Name} {content : Bytes}
    (hwf : (Entry.directory entries).WellFormed)
    (hroot : disk.lookup? root = some (.directory entries))
    (hroot' : disk'.lookup? root = some (.directory ((name, .file content) :: entries)))
    (hname : IsName name) (hfresh : name ∉ entries.map Prod.fst)
    (hmanifest : Manifest.isManifest language [name] = true) :
    SameButManifests language root disk disk' where
  wellFormed := by
    intro tree htree
    obtain rfl := Option.some.inj (hroot.symm.trans htree)
    exact hwf
  wellFormed' := by
    intro tree htree
    obtain rfl := Option.some.inj (hroot'.symm.trans htree)
    exact hwf.cons hname hfresh (.file content)
  directory := by
    rw [isDirectory, isDirectory, hroot, hroot']
    rfl
  read := by
    intro names hne hnames hother
    obtain ⟨first, rest, rfl⟩ := List.exists_cons_of_ne_nil hne
    rw [read?, read?, lookup?_below hroot hnames, lookup?_below hroot' hnames]
    simp only [Entry.at?, Entry.child?, Entry.entries, List.lookup_cons]
    by_cases hfirst : first = name
    · subst hfirst
      have hnone : entries.lookup first = none := by
        refine List.lookup_eq_none_iff.mpr fun x hx => bne_iff_ne.mpr ?_
        rintro rfl
        exact hfresh (List.mem_map_of_mem hx)
      rw [hnone, beq_self_eq_true]
      -- The name alone is that of the manifest, and nothing lies below a file.
      cases rest with
      | nil => exact absurd (hmanifest.symm.trans hother) Bool.noConfusion
      | cons next others => rfl
    · rw [beq_eq_false_iff_ne.mpr hfirst]

namespace Sample

/-- A manifest with the line `flask==1.0`. -/
def listing : Bytes := [102, 108, 97, 115, 107, 61, 61, 49, 46, 48, 10]

/-- A disk that holds the project with the manifest `listing`. -/
def listedDisk : Disk :=
  ⟨.directory [("code".toList,
    .directory (("requirements.txt".toList, .file listing) :: entries))], []⟩

/-- A registry that knows one undated release of everything. -/
def undatedRegistry : Dependency.Registry := fun _ _ => .ok ⟨"2.0", none⟩

/-- With the manifest `listing` and the `undatedRegistry` the project has a dependency; nothing else
changes. -/
theorem listing_adds_dependency_only :
    let there := { project with registry := undatedRegistry }
    ∃ r r', project.run disk = .ok r ∧ there.run listedDisk = .ok r' ∧
      r' = { r with dependencies := r'.dependencies } ∧ r.dependencies = [] ∧
      r'.dependencies[0]? = some ⟨"flask", "1.0", "2.0", 30, .stale⟩ := by
  intro there
  have hsame : Disk.SameButManifests project.language project.root disk listedDisk :=
    Disk.sameButManifests_of_added entries_wellFormed rfl rfl (by decide) (by decide) (by decide)
  obtain ⟨hok, hboth, -, hdiffer, habsent⟩ :=
    project.run_isolates_dependencies Dependency.offlineRegistry undatedRegistry hsame
  -- The dependencies of the disk with the file are told by the same theorem the other way round.
  obtain ⟨-, -, -, -, hlisted⟩ :=
    project.run_isolates_dependencies undatedRegistry Dependency.offlineRegistry hsame.symm
  obtain ⟨r, hrun⟩ := hok.mpr rfl
  obtain ⟨r', hrun'⟩ := hboth.mp ⟨r, hrun⟩
  obtain ⟨tree, hroot, hnone, -, -⟩ := habsent r hrun
  obtain ⟨tree', hroot', -, hrecords, -⟩ := hlisted r' hrun'
  obtain rfl := Option.some.inj hroot
  obtain rfl := Option.some.inj hroot'
  have hdeclared : Manifest.dependencies project.language
      (.directory (("requirements.txt".toList, .file listing) :: entries))
      = .ok [⟨"flask", "flask", "1.0", .pyPI⟩] := rfl
  exact ⟨r, r', hrun, hrun', hdiffer r r' hrun hrun', hnone _ rfl,
    (hrecords _ hdeclared).2 0 _ rfl⟩

end Sample

end CodeHealth
