import CodeHealth.Proofs.Isolation

/-!
# Detection and manifests

The language of a project is told by the manifests in its tree, and its dependencies are read from
them. The two look for files on their own: one goes through a table of names in an order of its own,
the other through the names of one language. They agree on whether there is a manifest at all.

* `Manifest.IsAbsent` — reading the dependencies of a language found no manifest;
* `Manifest.isAbsent_dependencies_iff` — that is so exactly when none of its manifests is a file;
* `Manifest.detect?_eq_none_iff` — no language is told exactly when no manifest of any is a file;
* `Manifest.detection_agrees_with_reading` — the two agree on every tree.
-/

namespace CodeHealth

namespace Manifest

/-! ### When a manifest is absent -/

/-- Reading dependencies failed because there is no manifest: the `outcome` is the fault `absent`,
of whatever text. -/
def IsAbsent (outcome : Except Fault (List Dependency)) : Prop :=
  ∃ what, outcome = .error (.absent what)

/-- A manifest that is a file is not absent, whatever its `content` is: `read` may fail, but with
another fault. -/
theorem not_isAbsent_read (content : Bytes) (parse? : List Char → Option (List Dependency)) :
    ¬ IsAbsent (read content parse?) := by
  rintro ⟨what, h⟩
  unfold read at h
  split at h
  · cases h
  · split at h <;> cases h

/-- Of several files to choose from by `firstOf`, none is there: no name of `choices` is that of a
file in the root. -/
theorem isAbsent_firstOf_iff (what : String) (root : Entry)
    (choices : List (String × (List Char → Option (List Dependency)))) :
    IsAbsent (firstOf what root choices)
      ↔ ∀ name ∈ choices.map Prod.fst, file? root name = none := by
  induction choices with
  | nil => simp [firstOf, IsAbsent]
  | cons choice rest ih =>
    obtain ⟨name, parse?⟩ := choice
    rw [firstOf]
    cases hfile : file? root name with
    | none => simp [hfile, ih]
    | some content => simp [hfile, not_isAbsent_read content parse?]

/-- The manifest of C# is absent iff there are no `projectFiles`. -/
theorem isAbsent_dotnetDependencies_iff (root : Entry) :
    IsAbsent (dotnetDependencies root) ↔ projectFiles root = [] := by
  unfold dotnetDependencies
  cases projectFiles root with
  | nil => simp [IsAbsent]
  | cons first rest => simp [IsAbsent]

/-- **The manifest of a language is absent** exactly when none of its names (`fileNames`) is that of
a file in the root, and for C# there is no project file either. -/
theorem isAbsent_dependencies_iff (language : Language) (root : Entry) :
    IsAbsent (dependencies language root) ↔
      (∀ name ∈ fileNames language, file? root name = none) ∧
        (language = .csharp → projectFiles root = []) := by
  cases language with
  | csharp => simpa [dependencies, fileNames] using isAbsent_dotnetDependencies_iff root
  | _ => simp [dependencies, fileNames, isAbsent_firstOf_iff]

/-! ### The table of names -/

/-- The table `markers` of detection and the `fileNames` that reading looks for are the same: each
name of the table is one of its language, and no name of a language is missing. -/
theorem mem_markers_iff (name : String) (language : Language) :
    (name, language) ∈ markers ↔ name ∈ fileNames language := by
  cases language with
  -- The two files of Python stand in one order in the table and in the other for reading.
  | python => simp [markers, fileNames, or_comm]
  | _ => simp [markers, fileNames]

/-- **No language is told** by `detect?` exactly when none of the names in the table `markers` is
that of a file and there is no project file. -/
theorem detect?_eq_none_iff (root : Entry) :
    detect? root = none ↔
      (∀ marker ∈ markers, file? root marker.1 = none) ∧ projectFiles root = [] := by
  unfold detect?
  cases hfound : markers.find? fun marker => (file? root marker.1).isSome with
  | some marker =>
    have hmem := List.mem_of_find?_eq_some hfound
    have hfile : (file? root marker.1).isSome = true := by simpa using List.find?_some hfound
    constructor
    · intro h
      cases h
    · rintro ⟨hmarkers, -⟩
      simp [hmarkers marker hmem] at hfile
  | none =>
    have hnone : ∀ marker ∈ markers, file? root marker.1 = none := by
      simpa using List.find?_eq_none.mp hfound
    cases hprojects : projectFiles root with
    | nil => simpa using hnone
    | cons first rest => simp

/-- The language that `detect?` tells has a manifest: a file under one of its `fileNames`, or else,
for C# alone, one of the `projectFiles`. -/
theorem detect?_eq_some {root : Entry} {language : Language} (h : detect? root = some language) :
    (∃ name ∈ fileNames language, (file? root name).isSome = true) ∨
      language = .csharp ∧ projectFiles root ≠ [] := by
  unfold detect? at h
  split at h
  · rename_i marker hfound
    obtain rfl := Option.some.inj h
    have hname := (mem_markers_iff marker.1 marker.2).mp (List.mem_of_find?_eq_some hfound)
    exact .inl ⟨marker.1, hname, by simpa using List.find?_some hfound⟩
  · split at h
    · cases h
    · rename_i hprojects
      exact .inr ⟨(Option.some.inj h).symm, fun hnil => hprojects (by simp [hnil])⟩

/-- **Detection and reading agree.** On every tree, the manifest of the language that `detect?`
tells is not absent (`IsAbsent`), and no language is told exactly when the manifests of all
languages are absent. -/
theorem detection_agrees_with_reading (root : Entry) :
    (∀ language, detect? root = some language → ¬ IsAbsent (dependencies language root)) ∧
    (detect? root = none ↔ ∀ language, IsAbsent (dependencies language root)) := by
  constructor
  · intro language htold habsent
    obtain ⟨hnames, hprojects⟩ := (isAbsent_dependencies_iff language root).mp habsent
    rcases detect?_eq_some htold with ⟨name, hname, hfile⟩ | ⟨rfl, hsome⟩
    · simp [hnames name hname] at hfile
    · exact hsome (hprojects rfl)
  · rw [detect?_eq_none_iff]
    constructor
    · rintro ⟨hmarkers, hprojects⟩ language
      refine (isAbsent_dependencies_iff language root).mpr
        ⟨fun name hname => ?_, fun _ => hprojects⟩
      exact hmarkers (name, language) ((mem_markers_iff name language).mpr hname)
    · intro hall
      refine ⟨fun marker hmarker => ?_, ?_⟩
      · obtain ⟨hnames, -⟩ := (isAbsent_dependencies_iff marker.2 root).mp (hall marker.2)
        exact hnames marker.1 ((mem_markers_iff marker.1 marker.2).mp hmarker)
      · -- Project files count for one language only.
        exact ((isAbsent_dependencies_iff .csharp root).mp (hall .csharp)).2 rfl

end Manifest

namespace Sample

/-- A project file whose content is malformed. -/
def application : Name × Entry := ("App.CSPROJ".toList, .file [60, 47, 62])

/-- A tree where the project file `application` lies one level down, and a directory has the name of
a marker. -/
def nestedProject : Entry :=
  .directory [("App".toList, .directory [application]), ("go.mod".toList, .directory [])]

/-- The project file of `nestedProject` is found though it lies one level down. -/
theorem projectFiles_nestedProject : Manifest.projectFiles nestedProject = [[60, 47, 62]] := by
  have hroot : Entry.byName nestedProject.entries = nestedProject.entries :=
    List.mergeSort_of_pairwise (by decide)
  have hinner : Entry.byName [application] = [application] := List.mergeSort_singleton _
  have hnothing : Entry.byName ([] : List (Name × Entry)) = [] := List.mergeSort_nil
  have hhere : Manifest.projectsIn nestedProject = [] := by
    rw [Manifest.projectsIn, hroot]
    decide
  rw [Manifest.projectFiles, hhere, hroot]
  simp only [nestedProject, Entry.entries, List.flatMap_cons, List.flatMap_nil, Manifest.projectsIn,
    hinner, hnothing]
  decide

/-- In `nestedProject` the directory `go.mod` is no manifest, so C# is told, and its manifest is not
absent though it is malformed. Not all manifests are absent, and that of Go is. -/
theorem nestedProject_told :
    Manifest.detect? nestedProject = some .csharp ∧
      ¬ Manifest.IsAbsent (Manifest.dependencies .csharp nestedProject) ∧
      (¬ ∀ language, Manifest.IsAbsent (Manifest.dependencies language nestedProject)) ∧
      Manifest.IsAbsent (Manifest.dependencies .go nestedProject) := by
  obtain ⟨htold, hnone⟩ := Manifest.detection_agrees_with_reading nestedProject
  have hcsharp : Manifest.detect? nestedProject = some .csharp := by
    have hmarkers : (Manifest.markers.find? fun marker =>
        (Manifest.file? nestedProject marker.1).isSome) = none := by decide
    rw [Manifest.detect?, hmarkers, projectFiles_nestedProject]
    rfl
  refine ⟨hcsharp, htold .csharp hcsharp, fun hall => ?_, ⟨"go.mod", rfl⟩⟩
  exact absurd (hcsharp.symm.trans (hnone.mpr hall)) (by decide)

end Sample

end CodeHealth
