import CodeHealth.Proofs.Files
import CodeHealth.Proofs.Project

/-!
# Discovered files and relevant files

A change of a file is told from its path alone, while discovery walks the tree. Both ask the filter
of the language, and only the walk knows which directories are passed over.

* `mem_discover_iff` — discovery finds the files that its filter accepts and that lie in no excluded
  directory;
* `Project.wanted` — the files that discovery finds, with the names on the way to them;
* `Project.mem_wanted_iff` — a file is found when it is relevant and lies in no directory that is
  passed over;
* `Project.mem_discovered_iff` — the same for the path of a file;
* `Project.discovered_iff_relevant_and_clear` — where both views of a file agree, and where not.
-/

namespace CodeHealth

/-! ### Any filter -/

section Discover

variable (filter : FileFilter) (excluded : List Name) (root : Path)

/-- `discover` keeps the files of the walk (`Entry.files`) that the filter accepts at their paths.
So the order of what is discovered is the order of the walk. -/
theorem discover_eq_map (tree : Entry) : discover filter excluded root tree
    = ((tree.files excluded).filter fun f => filter.accepts root (f.pathFrom root)).map
      fun f => ⟨f.pathFrom root, f.content⟩ := by
  rw [discover, List.filter_map]
  rfl

variable {entries : List (Name × Entry)} {names : List Name} {content : Bytes}

theorem Entry.names_ne_nil_of_at? (h : (Entry.directory entries).at? names = some (.file content)) :
    names ≠ [] := by
  rintro rfl
  cases h

/-- To the files of a walk below a well-formed directory lead names, at least one and each of them
`IsName`. With names of that kind, paths below the root can be told apart. -/
theorem Entry.names_of_mem_files {excluded : List Name}
    (hwf : (Entry.directory entries).WellFormed) {f : Entry.Found}
    (hf : f ∈ (Entry.directory entries).files excluded) :
    f.names ≠ [] ∧ ∀ n ∈ f.names, IsName n := by
  obtain ⟨hat, -⟩ := (Entry.mem_files_iff hwf).mp hf
  exact ⟨Entry.names_ne_nil_of_at? hat, hwf.isName_of_at? hat⟩

/-- A file of the tree is found by `discover` exactly when the filter accepts it and no directory on
the way is `excluded`. -/
theorem mem_discover_iff (hwf : (Entry.directory entries).WellFormed)
    (hfile : (Entry.directory entries).at? names = some (.file content)) :
    names.foldl Path.child root
        ∈ (discover filter excluded root (.directory entries)).map SourceFile.path ↔
      filter.accepts root (names.foldl Path.child root) = true ∧
        ∀ d ∈ names.dropLast, d ∉ excluded := by
  rw [discover_eq_map, List.map_map, List.mem_map]
  constructor
  · rintro ⟨f, hf, hpath⟩
    obtain ⟨hf, haccepted⟩ := List.mem_filter.mp hf
    obtain ⟨hne, hnames⟩ := Entry.names_of_mem_files hwf hf
    obtain ⟨-, hclear⟩ := (Entry.mem_files_iff hwf).mp hf
    have hpath' : f.pathFrom root = Entry.Found.pathFrom root ⟨names, content⟩ := hpath
    -- Another file with this path would have the same names on its way.
    have hsame : f.names = names :=
      Entry.Found.pathFrom_injective hnames (hwf.isName_of_at? hfile) hne
        (Entry.names_ne_nil_of_at? hfile) hpath'
    rw [hpath'] at haccepted
    rw [hsame] at hclear
    exact ⟨haccepted, hclear⟩
  · rintro ⟨haccepted, hclear⟩
    exact ⟨⟨names, content⟩, List.mem_filter.mpr
      ⟨(Entry.mem_files_iff hwf).mpr ⟨hfile, hclear⟩, haccepted⟩, rfl⟩

end Discover

end CodeHealth

namespace CodeHealth.Project

/-! ### The filter of a language -/

variable (project : Project)

/-- The names of directories that discovery does not enter: those set for the project (`excluded`)
and the `toolDirectories` of its language. -/
def passedOver : List Name :=
  project.excluded ++ project.language.toolDirectories.map String.toList

/-- The files that discovery finds in the tree below the root, with the names on the way to them.
Unlike `discovered`, this does not mention paths, which depend on where the root lies. -/
def wanted (tree : Entry) : List Entry.Found :=
  (tree.files project.passedOver).filter fun f => project.isRelevant (f.pathFrom project.root)

/-- The paths that `discover` gives for the tree below the root of the project. -/
def discovered (tree : Entry) : List Path :=
  (project.language.discover project.excluded project.root tree).map SourceFile.path

/-- What discovery gives for the project are the `wanted` files at their paths, which is
`discover_eq_map` with the filter and the exclusions of the project. -/
theorem discover_eq_map_wanted (tree : Entry) :
    project.language.discover project.excluded project.root tree
      = (project.wanted tree).map fun f => ⟨f.pathFrom project.root, f.content⟩ :=
  discover_eq_map project.language.filter project.passedOver project.root tree

/-- The `discovered` paths are those of the `wanted` files, in the order in which the walk finds
them. -/
theorem discovered_eq_map_wanted (tree : Entry) :
    project.discovered tree
      = (project.wanted tree).map fun f => f.pathFrom project.root := by
  rw [discovered, discover_eq_map_wanted, List.map_map]
  rfl

/-- The sources that are analysed are the `wanted` files, as they are seen from the root: each with
its label and its decoded content. -/
theorem sources_eq_map_wanted (tree : Entry) :
    project.sources tree = (project.wanted tree).map fun f =>
      SourceFile.source project.root ⟨f.pathFrom project.root, f.content⟩ := by
  rw [sources, discover_eq_map_wanted, List.map_map]
  rfl

variable {tree : Entry}

/-- Discovery finds the relevant files that lie in no directory that is `passedOver`. The last name
is left out (`dropLast`), as it is the name of the file itself. -/
theorem mem_wanted_iff (hwf : tree.WellFormed) {f : Entry.Found} :
    f ∈ project.wanted tree ↔
      tree.at? f.names = some (.file f.content) ∧ (∀ d ∈ f.names.dropLast, d ∉ project.passedOver) ∧
        project.isRelevant (f.pathFrom project.root) = true := by
  rw [wanted, List.mem_filter, Entry.mem_files_iff hwf, and_assoc]

/-- The path of a file is `discovered` exactly when the file is relevant and lies in no directory
that is `passedOver`. -/
theorem mem_discovered_iff {entries : List (Name × Entry)}
    (hwf : (Entry.directory entries).WellFormed) {f : Entry.Found}
    (hfile : (Entry.directory entries).at? f.names = some (.file f.content)) :
    f.pathFrom project.root ∈ project.discovered (.directory entries) ↔
      project.isRelevant (f.pathFrom project.root) = true ∧
        ∀ d ∈ f.names.dropLast, d ∉ project.passedOver :=
  mem_discover_iff project.language.filter project.passedOver project.root hwf hfile

/-- **Discovery and relevance.** For every file of the tree below the root, with the path `p`:

* it is `discovered` exactly when it `isRelevant` and no directory on the way to it is `passedOver`;
* so the two agree unless the file is relevant and does lie in such a directory (`hidden`);
* measuring it alone by `runSingle` finds functions only if it is discovered or lies in such a
  directory. -/
theorem discovered_iff_relevant_and_clear {entries : List (Name × Entry)}
    (hwf : (Entry.directory entries).WellFormed) {names : List Name} {content : Bytes}
    (hfile : (Entry.directory entries).at? names = some (.file content)) :
    let p := names.foldl Path.child project.root
    let hidden := ∃ d ∈ names.dropLast, d ∈ project.passedOver
    (p ∈ project.discovered (.directory entries) ↔ project.isRelevant p = true ∧ ¬ hidden) ∧
    ((project.isRelevant p = true ↔ p ∈ project.discovered (.directory entries)) ↔
      ¬ (project.isRelevant p = true ∧ hidden)) ∧
    ∀ disk, (project.runSingle disk p).functions ≠ [] →
      p ∈ project.discovered (.directory entries) ∨ hidden := by
  intro p hidden
  have hclear : (∀ d ∈ names.dropLast, d ∉ project.passedOver) ↔ ¬ hidden := by
    simp only [hidden, not_exists, not_and]
  have hmem : p ∈ project.discovered (.directory entries) ↔
      project.isRelevant p = true ∧ ¬ hidden := by
    rw [← hclear]
    exact project.mem_discovered_iff hwf (f := ⟨names, content⟩) hfile
  refine ⟨hmem, ?_, ?_⟩
  · rw [hmem]
    by_cases hhidden : hidden <;> simp [hhidden]
  · -- A path that is not relevant has no functions, so `p` fails to be found only if it is
    -- `hidden`.
    intro disk hfunctions
    by_cases hhidden : hidden
    · exact .inr hhidden
    · refine .inl (hmem.mpr ⟨?_, hhidden⟩)
      cases hrelevant : project.isRelevant p with
      | true => rfl
      | false =>
        rw [project.runSingle_of_not_relevant hrelevant] at hfunctions
        exact absurd rfl hfunctions

end CodeHealth.Project

namespace CodeHealth.Sample

/-- The `entries` of the sample project are a well-formed tree, so that the theorem applies to
them. -/
theorem entries_wellFormed : (Entry.directory entries).WellFormed := by
  have hvendor : (Entry.directory [("lib.py".toList, .file declaration)]).WellFormed := by
    refine .directory (by decide) (by decide) fun x hx => ?_
    rw [List.mem_singleton] at hx
    subst hx
    exact .file declaration
  refine .directory (by decide) (by decide) fun x hx => ?_
  rw [entries, List.mem_cons, List.mem_singleton] at hx
  rcases hx with rfl | rfl
  · exact .file declaration
  · exact hvendor

/-- Of the sample project only `app` is discovered. -/
theorem discovered_entries :
    project.discovered (.directory entries) = [app] := by
  decide +kernel

/-- The names on the way to the file in the directory `vendor`, which is passed over. -/
def vendored : List Name := ["vendor".toList, "lib.py".toList]

/-- The file `app` of the project itself is discovered because it is relevant and in no directory
that is `passedOver`. -/
theorem app_discovered_iff :
    let p := ["app.py".toList].foldl Path.child project.root
    p ∈ project.discovered (.directory entries) ↔
      project.isRelevant p = true ∧
        ¬ ∃ d ∈ (["app.py".toList] : List Name).dropLast, d ∈ project.passedOver := by
  have hfile : (Entry.directory entries).at? ["app.py".toList] = some (.file declaration) := rfl
  exact (project.discovered_iff_relevant_and_clear entries_wellFormed hfile).1

/-- The file `vendored`, in a directory that is `passedOver`, is relevant and yet not discovered. -/
theorem vendored_relevant_not_discovered :
    (Entry.directory entries).at? vendored = some (.file declaration) ∧
      ¬ (project.isRelevant (vendored.foldl Path.child project.root) = true ↔
        vendored.foldl Path.child project.root ∈ project.discovered (.directory entries)) := by
  refine ⟨rfl, ?_⟩
  have hrelevant : project.isRelevant (vendored.foldl Path.child project.root) = true := by decide
  rw [hrelevant, discovered_entries]
  decide

end CodeHealth.Sample
