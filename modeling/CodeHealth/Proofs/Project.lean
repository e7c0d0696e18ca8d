import CodeHealth.Project
import CodeHealth.Proofs.Measures
import CodeHealth.Proofs.Results

/-!
# Analyses of a project and of one of its files

What the results of both have in common: their functions are ranked, each is measured with at least
one, and their number is counted.

* `Project.run_eq_ok_iff` — a project is analyzed exactly when its root leads to a directory;
* `Project.sound_analyze` and `Project.sound_runSingle` — the common facts;
* `Project.mem_runSingle` — the functions of one file all carry its label.
-/

namespace CodeHealth

/-- The functions of the results `r` are ranked, measured with at least one, and counted. -/
structure Results.Sound (r : Results) : Prop where
  /-- The most complex functions come first. -/
  ranked : Ranked r.functions
  /-- Every function has a complexity of at least one. -/
  positive : ∀ f ∈ r.functions, 1 ≤ f.complexity
  /-- The number of functions is that of the list. -/
  counted : r.functionCount = r.functions.length

/-- Results without functions are `Sound`. -/
theorem Results.sound_empty (language : Language) : (Results.empty language).Sound where
  ranked := List.Pairwise.nil
  positive := fun _ hf => absurd hf List.not_mem_nil
  counted := rfl

namespace Project

variable (project : Project)

/-- A project is analyzed exactly when its root leads to a directory, and then the results of `run`
are those of `analyze`. -/
theorem run_eq_ok_iff {disk : Disk} {r : Results} :
    project.run disk = .ok r ↔
      ∃ entries, disk.lookup? project.root = some (.directory entries) ∧
        r = project.analyze (.directory entries) := by
  unfold run
  constructor
  · intro h
    split at h
    · rename_i entries hroot
      exact ⟨entries, hroot, (Except.ok.inj h).symm⟩
    · cases h
  · rintro ⟨entries, hroot, rfl⟩
    rw [hroot]

/-- The functions of an analysis are the `measures` of its `sources`, up to order. -/
theorem analyze_functions_perm (tree : Entry) :
    (project.analyze tree).functions.Perm (project.language.measures (project.sources tree)) :=
  Results.ranked_perm _

/-- The results of `analyze` are `Sound`. -/
theorem sound_analyze (tree : Entry) : (project.analyze tree).Sound where
  ranked := Results.ranked_sorted _
  positive := fun _ hf =>
    (project.language.mem_measures ((project.analyze_functions_perm tree).mem_iff.mp hf)).2
  counted := (project.analyze_functions_perm tree).length_eq.symm

/-- The results of a `run` that succeeds are `Sound`. -/
theorem sound_run {disk : Disk} {r : Results} (h : project.run disk = .ok r) : r.Sound := by
  obtain ⟨entries, _, rfl⟩ := project.run_eq_ok_iff.mp h
  exact project.sound_analyze (.directory entries)

/-! ### One file -/

variable {disk : Disk} {p : Path}

/-- The functions that `runSingle` finds in a file that belongs to the project (`isRelevant`) are
those of its content, up to order. -/
theorem runSingle_functions_perm (hrelevant : project.isRelevant p = true) :
    (project.runSingle disk p).functions.Perm
      ((disk.read? p).toList.flatMap fun content =>
        project.language.measures [SourceFile.source project.root ⟨p, content⟩]) := by
  rw [runSingle, if_pos hrelevant]
  refine (Results.ranked_perm _).trans (List.Perm.of_eq ?_)
  rw [Language.measures_eq_flatMap, List.flatMap_map]

/-- Nothing is found by `runSingle` in a file that does not belong to the project. -/
theorem runSingle_of_not_relevant (h : project.isRelevant p = false) :
    project.runSingle disk p = Results.empty project.language := by
  rw [runSingle, if_neg (by simp [h])]

/-- Every function that `runSingle` finds carries the label of the file and has a complexity of at
least one. -/
theorem mem_runSingle {f : FunctionMeasure} (hf : f ∈ (project.runSingle disk p).functions) :
    f.file = p.label ∧ 1 ≤ f.complexity := by
  cases hrelevant : project.isRelevant p with
  | true =>
    rw [(project.runSingle_functions_perm hrelevant).mem_iff, List.mem_flatMap] at hf
    obtain ⟨content, _, hf⟩ := hf
    exact project.language.mem_measures_singleton hf
  | false =>
    rw [project.runSingle_of_not_relevant hrelevant] at hf
    exact absurd hf List.not_mem_nil

/-- The results of `runSingle` are `Sound`, also for a file that does not belong to the project. -/
theorem sound_runSingle : (project.runSingle disk p).Sound := by
  refine ⟨?_, fun _ hf => (project.mem_runSingle hf).2, ?_⟩
  all_goals
    unfold runSingle
    split
  · exact Results.ranked_sorted _
  · exact (Results.sound_empty _).ranked
  · exact (Results.length_ranked _).symm
  · rfl

end Project

/-! ### A small project -/

namespace Sample

/-- A Python project at `/code`, where the directory `vendor` is passed over. -/
def project : Project where
  root := Path.ofString "/code"
  language := .python
  excluded := ["vendor".toList]
  rules := []
  staleDays := 90
  registry := Dependency.offlineRegistry
  now := ⟨0, 0⟩

/-- The bytes of the line `def f():`. -/
def declaration : Bytes := [100, 101, 102, 32, 102, 40, 41, 58, 10]

/-- The file `app.py` of the project itself, and one in `vendor` that is passed over. -/
def entries : List (Name × Entry) :=
  [("app.py".toList, .file declaration),
    ("vendor".toList, .directory [("lib.py".toList, .file declaration)])]

/-- A disk that holds the `entries` at `/code`. -/
def disk : Disk := ⟨.directory [("code".toList, .directory entries)], []⟩

/-- The file `app.py` of the project itself. -/
def app : Path := Path.ofString "/code/app.py"

/-- The functions of a tree with at most one line can be counted (`Fits`), whatever they are, since
one line has at most one function. -/
theorem analyze_fits {tree : Entry}
    (h : ((project.sources tree).flatMap fun s => Text.lines s.text).length ≤ 1) :
    (project.analyze tree).Fits := by
  have hprofile : project.language.profile? = some Outline.python := rfl
  have hlines := Language.length_measures_le hprofile (project.sources tree)
  have hroom : 1 < twoTo 63 := by decide
  rw [Results.Fits, (project.analyze_functions_perm tree).length_eq]
  omega

end Sample

end CodeHealth
