import CodeHealth.Proofs.Discovery
import CodeHealth.Proofs.Session
import Mathlib.Data.List.Nodup

/-!
# Measuring changed files again

After the contents of some files have changed, measuring these files again one by one gives the same
functions as an analysis of the whole project: the same number of them, the same measures up to the
order of equally complex ones, and so the same score of complexity.

* `Project.measured` — the measures of one discovered file;
* `flatMap_replace_perm` — replacing the functions of one label, when every label belongs to one
  file;
* `Partly` — some of the changed files are measured again, and all the others are not;
* `Partly.replace` and `Partly.steps` — one more file, and any number of them;
* `incremental_eq_full` — when all changed files are measured again.
-/

namespace CodeHealth

/-- The measures of a discovered file `f`, as its language takes them from the file alone. -/
def Project.measured (project : Project) (f : Entry.Found) : List FunctionMeasure :=
  project.language.measures [SourceFile.source project.root ⟨f.pathFrom project.root, f.content⟩]

/-- The label of a found file `f` in reports: its name without the directory. -/
def Project.labelOf (project : Project) (f : Entry.Found) : String :=
  (f.pathFrom project.root).label

namespace Project

variable (project : Project)

theorem file_of_mem_measured {f : Entry.Found} {x : FunctionMeasure} (h : x ∈ project.measured f) :
    x.file = project.labelOf f :=
  (project.language.mem_measures_singleton h).1

/-- A whole analysis measures every discovered file (`wanted`), and ranks the functions. -/
theorem analyze_perm_flatMap (tree : Entry) :
    (project.analyze tree).functions.Perm ((project.wanted tree).flatMap project.measured) := by
  refine (project.analyze_functions_perm tree).trans (List.Perm.of_eq ?_)
  rw [Language.measures_eq_flatMap, sources_eq_map_wanted, List.flatMap_map]
  rfl

/-- With other contents (`rewrite`) the same files are discovered, as discovery looks at names
alone. -/
theorem wanted_rewrite (tree : Entry) (edit : List Name → Bytes → Bytes) :
    project.wanted (tree.rewrite edit) = (project.wanted tree).map (Entry.Found.rewrite edit) := by
  rw [wanted, Entry.files_rewrite, List.filter_map]
  rfl

/-- Measuring a discovered file alone by `runSingle` gives what is `measured` of it, up to order, as
`runSingle` ranks the functions. -/
theorem runSingle_perm_measured {disk : Disk} {tree : Entry} (hwf : tree.WellFormed)
    (hroot : disk.lookup? project.root = some tree) {f : Entry.Found}
    (hf : f ∈ project.wanted tree) :
    (project.runSingle disk (f.pathFrom project.root)).functions.Perm (project.measured f) := by
  obtain ⟨hfound, hrelevant⟩ := List.mem_filter.mp hf
  have hread := Disk.read?_pathFrom hroot hwf hfound
  refine (project.runSingle_functions_perm hrelevant).trans (List.Perm.of_eq ?_)
  rw [hread, Option.toList_some, List.flatMap_singleton]
  rfl

end Project

/-! ### One label -/

section Labels

variable {α : Type} {label : α → String} {measures : α → List FunctionMeasure}

/-- Dropping the functions of a label that none of `files` has (`hfresh`) drops nothing, as every
function has the label of its file (`hmeasures`). -/
theorem filter_flatMap_of_fresh {files : List α} {dropped : String}
    (hmeasures : ∀ f ∈ files, ∀ x ∈ measures f, x.file = label f)
    (hfresh : dropped ∉ files.map label) :
    (files.flatMap measures).filter (fun x => x.file != dropped) = files.flatMap measures := by
  refine List.filter_eq_self.mpr fun x hx => ?_
  obtain ⟨f, hf, hx⟩ := List.mem_flatMap.mp hx
  rw [hmeasures f hf x hx, bne_iff_ne]
  rintro rfl
  exact hfresh (List.mem_map_of_mem hf)

/-- Replacing the functions of one file by its label leaves the functions of all others, as no other
file has the label (`hnodup`). -/
theorem flatMap_replace_perm {files : List α} (hnodup : (files.map label).Nodup)
    (hmeasures : ∀ f ∈ files, ∀ x ∈ measures f, x.file = label f) {changed : α}
    (hchanged : changed ∈ files) (again : List FunctionMeasure) :
    ((files.flatMap measures).filter (fun x => x.file != label changed) ++ again).Perm
      (files.flatMap fun f => if label f = label changed then again else measures f) := by
  -- The label is that of the changed file only, so the list falls apart around it.
  obtain ⟨before, after, rfl⟩ := List.append_of_mem hchanged
  rw [List.map_append, List.map_cons, List.nodup_append, List.nodup_cons] at hnodup
  obtain ⟨_, ⟨hafter, _⟩, hdisjoint⟩ := hnodup
  have hbefore : label changed ∉ before.map label := fun hmem =>
    hdisjoint _ hmem _ List.mem_cons_self rfl
  have hkeep : ∀ files : List α, label changed ∉ files.map label →
      (files.flatMap fun f => if label f = label changed then again else measures f)
        = files.flatMap measures := by
    intro files hfresh
    refine List.flatMap_congr fun f hf => if_neg fun heq => hfresh ?_
    exact List.mem_map.mpr ⟨f, hf, heq⟩
  have hgone : (measures changed).filter (fun x => x.file != label changed) = [] := by
    refine List.filter_eq_nil_iff.mpr fun x hx => ?_
    rw [hmeasures changed hchanged x hx, bne_self_eq_false]
    exact Bool.false_ne_true
  rw [List.flatMap_append, List.flatMap_cons, List.filter_append, List.filter_append, hgone,
    filter_flatMap_of_fresh (fun f hf => hmeasures f (by simp [hf])) hbefore,
    filter_flatMap_of_fresh (fun f hf => hmeasures f (by simp [hf])) hafter,
    List.flatMap_append, List.flatMap_cons, hkeep before hbefore, hkeep after hafter, if_pos rfl,
    List.nil_append, List.append_assoc]
  exact List.Perm.append_left _ List.perm_append_comm

theorem length_flatMap_ite_le (files : List α) (chosen : α → Prop) [DecidablePred chosen]
    (first second : α → List FunctionMeasure) :
    (files.flatMap fun f => if chosen f then first f else second f).length
      ≤ (files.flatMap second).length + (files.flatMap first).length := by
  induction files with
  | nil => simp
  | cons f rest ih =>
    simp only [List.flatMap_cons, List.length_append]
    split <;> omega

end Labels

/-! ### Several files -/

/-- The measures of all files of a tree, those of files with the labels `again` taken after a change
of contents by `edit`. -/
def Project.mixed (project : Project) (tree : Entry) (edit : List Name → Bytes → Bytes)
    (again : List String) : List FunctionMeasure :=
  (project.wanted tree).flatMap fun f =>
    if project.labelOf f ∈ again then project.measured (f.rewrite edit) else project.measured f

/-- There are never more functions than in the trees before and after the change together. This is
why two results that `Fits` leave room for all that is counted in between. -/
theorem Project.length_mixed_le (project : Project) (tree : Entry)
    (edit : List Name → Bytes → Bytes) (again : List String) :
    (project.mixed tree edit again).length ≤ (project.analyze tree).functions.length
      + (project.analyze (tree.rewrite edit)).functions.length := by
  rw [(project.analyze_perm_flatMap tree).length_eq,
    (project.analyze_perm_flatMap (tree.rewrite edit)).length_eq, project.wanted_rewrite,
    List.flatMap_map]
  exact length_flatMap_ite_le _ _ _ _

/-- The results of an analysis of `tree`, after the files with the labels `again` were measured
again with their contents replaced by `edit`. This is what every incremental step keeps. -/
structure Partly (project : Project) (tree : Entry) (edit : List Name → Bytes → Bytes)
    (again : List String) (current : Results) : Prop where
  /-- The functions are `mixed`: new for the files measured again, old for the others. -/
  functions : current.functions.Perm (project.mixed tree edit again)
  ranked : Ranked current.functions
  /-- As many functions are counted as there are, provided that both analyses `Fits`. -/
  counted : (project.analyze tree).Fits → (project.analyze (tree.rewrite edit)).Fits →
    current.functionCount = current.functions.length
  /-- The number of files is that of the whole analysis. -/
  fileCount : current.fileCount = (project.wanted tree).length

namespace Partly

variable {project : Project} {tree : Entry} {edit : List Name → Bytes → Bytes}
  {again : List String} {current : Results}

/-- A whole analysis has measured no file again, and so is `Partly` with no labels. -/
theorem analyze (project : Project) (tree : Entry) (edit : List Name → Bytes → Bytes) :
    Partly project tree edit [] (project.analyze tree) where
  functions := by
    simpa only [Project.mixed, List.not_mem_nil, if_false] using project.analyze_perm_flatMap tree
  ranked := (project.sound_analyze tree).ranked
  counted := fun _ _ => (project.sound_analyze tree).counted
  fileCount := by
    show (project.sources tree).length = _
    rw [project.sources_eq_map_wanted, List.length_map]

/-- **One step.** Measuring one more file again, when the disk has the new contents (`hroot`) and
each discovered file has a label of its own (`hlabels`), keeps `Partly` with the label of this file
added. -/
theorem replace (h : Partly project tree edit again current) (hwf : tree.WellFormed)
    (hlabels : ((project.wanted tree).map project.labelOf).Nodup) {disk : Disk}
    (hroot : disk.lookup? project.root = some (tree.rewrite edit))
    {f : Entry.Found} (hf : f ∈ project.wanted tree) :
    Partly project tree edit (project.labelOf f :: again)
      (current.replaceFile (project.labelOf f)
        (project.runSingle disk (f.pathFrom project.root))) := by
  -- The file is discovered with its new content, and that is what is read from the disk.
  have hf' : f.rewrite edit ∈ project.wanted (tree.rewrite edit) := by
    rw [project.wanted_rewrite]
    exact List.mem_map_of_mem hf
  have hagain : (project.runSingle disk (f.pathFrom project.root)).functions.Perm
      (project.measured (f.rewrite edit)) :=
    project.runSingle_perm_measured (hwf.rewrite edit) hroot hf'
  have hmeasures : ∀ g ∈ project.wanted tree, ∀ x ∈ (if project.labelOf g ∈ again then
      project.measured (g.rewrite edit) else project.measured g), x.file = project.labelOf g := by
    intro g _ x hx
    split at hx
    · exact (project.file_of_mem_measured hx : x.file = project.labelOf (g.rewrite edit))
    · exact project.file_of_mem_measured hx
  have hfunctions : (current.replaceFile (project.labelOf f)
      (project.runSingle disk (f.pathFrom project.root))).functions.Perm
      (project.mixed tree edit (project.labelOf f :: again)) := by
    rw [Results.replaceFile_functions]
    refine (Results.ranked_perm _).trans ?_
    refine ((h.functions.filter _).append hagain).trans ?_
    refine (flatMap_replace_perm hlabels hmeasures hf _).trans (List.Perm.of_eq ?_)
    refine List.flatMap_congr fun g hg => ?_
    by_cases hlabel : project.labelOf g = project.labelOf f
    · -- No other file has this label.
      obtain rfl : g = f := List.inj_on_of_nodup_map hlabels hg hf hlabel
      simp
    · simp [hlabel]
  refine ⟨hfunctions, Results.ranked_sorted _, fun hfits hfits' => ?_, h.fileCount⟩
  refine Results.functionCount_replaceFile (h.counted hfits hfits')
    project.sound_runSingle.counted ?_
  -- In between there may be more functions than before and after, but not more than in both.
  have hle := project.length_mixed_le tree edit (project.labelOf f :: again)
  have hroom : twoTo 63 + twoTo 63 = twoTo 64 := by decide
  rw [hfunctions.length_eq]
  unfold Results.Fits at hfits hfits'
  omega

/-- **A run.** Measuring any number of files again, one after the other, by induction on
`changed`. -/
theorem steps (hwf : tree.WellFormed) (hlabels : ((project.wanted tree).map project.labelOf).Nodup)
    {disk : Disk} (hroot : disk.lookup? project.root = some (tree.rewrite edit))
    {changed : List Path} (hchanged : ∀ p ∈ changed, p ∈ project.discovered tree) {s : Session}
    (hproject : s.project = project) (hdisk : s.disk = disk)
    (h : Partly project tree edit again s.current) :
    Partly project tree edit ((changed.map Path.label).reverse ++ again)
      (s.steps (changed.map fun p => .rerun p .incremental)).2.current := by
  induction changed generalizing s again with
  | nil => exact h
  | cons p rest ih =>
    have hp := hchanged p List.mem_cons_self
    rw [project.discovered_eq_map_wanted] at hp
    obtain ⟨f, hf, rfl⟩ := List.mem_map.mp hp
    have hfirst : Partly project tree edit (project.labelOf f :: again)
        (s.runIncremental (f.pathFrom project.root)).2.current := by
      unfold Session.runIncremental
      rw [hproject, hdisk]
      exact h.replace hwf hlabels hroot hf
    -- The step changes neither the project nor the disk.
    have hrest := ih (fun q hq => hchanged q (List.mem_cons_of_mem _ hq))
      (s := (s.runIncremental (f.pathFrom project.root)).2) hproject hdisk hfirst
    rw [List.map_cons, List.reverse_cons, List.append_assoc]
    exact hrest

end Partly

/-- **Incremental and full analysis agree.** Let `before` be the results of a project, let the
contents of some discovered files change (`edit`, and no others: `honly`), and let every discovered
file have a label of its own (`hlabels`). Once all `changed` files are measured again, in any order
and any number of times each, the results have as many files and functions as a new analysis `after`
of the whole project, the same functions up to the order of equally complex ones, and the same score
of complexity. -/
theorem incremental_eq_full (project : Project) (tree : Entry) (edit : List Name → Bytes → Bytes)
    (disk disk' : Disk) (changed : List Path) (before : Results) (scorer : Scorer Float)
    (hwf : tree.WellFormed)
    (hroot : disk.lookup? project.root = some tree)
    (hroot' : disk'.lookup? project.root = some (tree.rewrite edit))
    (hlabels : ((project.discovered tree).map Path.label).Nodup)
    (hchanged : ∀ p ∈ changed, p ∈ project.discovered tree)
    (honly : ∀ names content, names.foldl Path.child project.root ∉ changed →
      edit names content = content)
    (hbefore : project.run disk = .ok before) :
    ∃ after, project.run disk' = .ok after ∧
      let s : Session := ⟨project, disk', before, scorer⟩
      let current := (s.steps (changed.map fun p => .rerun p .incremental)).2.current
      current.fileCount = after.fileCount ∧
      (before.Fits → after.Fits → current.functionCount = after.functionCount) ∧
      current.functions.Perm after.functions ∧
      current.functions.map FunctionMeasure.complexity
        = after.functions.map FunctionMeasure.complexity ∧
      (scorer.score current).1.aspects.complexity = (scorer.score after).1.aspects.complexity := by
  obtain ⟨entries, hentries, rfl⟩ := project.run_eq_ok_iff.mp hbefore
  obtain rfl : tree = .directory entries := Option.some.inj (hroot.symm.trans hentries)
  refine ⟨project.analyze (Entry.rewrite edit (.directory entries)),
    project.run_eq_ok_iff.mpr ⟨_, hroot', rfl⟩, ?_⟩
  intro s current
  have hlabels' : ((project.wanted (.directory entries)).map project.labelOf).Nodup := by
    rw [project.discovered_eq_map_wanted, List.map_map] at hlabels
    exact hlabels
  have hpartly : Partly project (.directory entries) edit ((changed.map Path.label).reverse ++ [])
      current :=
    Partly.steps hwf hlabels' hroot' hchanged rfl rfl (Partly.analyze project _ edit)
  -- A file that was not measured again has not changed.
  have hmixed : project.mixed (.directory entries) edit ((changed.map Path.label).reverse ++ [])
      = (project.wanted (Entry.rewrite edit (.directory entries))).flatMap project.measured := by
    rw [project.wanted_rewrite, List.flatMap_map]
    refine List.flatMap_congr fun f _ => ?_
    split
    · rfl
    · rename_i hlabel
      have hsame : f.rewrite edit = f := by
        unfold Entry.Found.rewrite
        rw [honly f.names f.content fun hmem => hlabel ?_]
        simpa using ⟨_, hmem, rfl⟩
      rw [hsame]
  have hperm : current.functions.Perm
      (project.analyze (Entry.rewrite edit (.directory entries))).functions := by
    refine hpartly.functions.trans ?_
    rw [hmixed]
    exact (project.analyze_perm_flatMap _).symm
  have hsound := project.sound_analyze (Entry.rewrite edit (.directory entries))
  have hcomplexities := Results.complexities_eq_of_perm hpartly.ranked hsound.ranked hperm
  refine ⟨?_, ?_, hperm, hcomplexities, ?_⟩
  · have hafter := (Partly.analyze project (Entry.rewrite edit (.directory entries)) edit).fileCount
    rw [hpartly.fileCount, hafter, project.wanted_rewrite, List.length_map]
  · intro hfits hfits'
    rw [hpartly.counted hfits hfits', hsound.counted, hperm.length_eq]
  · exact Results.complexityScore_congr scorer.limits hcomplexities

namespace Sample

/-- The edit after which the file `app` of the project is empty. -/
def emptied (names : List Name) (content : Bytes) : Bytes :=
  if names = ["app.py".toList] then [] else content

/-- The `disk` of the project after the file was `emptied`. -/
def emptiedDisk : Disk :=
  ⟨.directory [("code".toList, Entry.rewrite emptied (.directory entries))], []⟩

/-- A scorer with equal weights. -/
def scorer : Scorer Float := { weights := ⟨1, 1, 1, 1, 1⟩, limits := Limits.default }

/-- Measuring the file `app` again after it was `emptied`, even twice, gives what an analysis of the
whole project gives. -/
theorem incremental_eq_full_emptied :
    let s : Session := ⟨project, emptiedDisk, project.analyze (.directory entries), scorer⟩
    let current := (s.steps [.rerun app .incremental, .rerun app .incremental]).2.current
    ∃ after, project.run emptiedDisk = .ok after ∧ current.fileCount = after.fileCount ∧
      current.functionCount = after.functionCount ∧ current.functions.Perm after.functions := by
  have honly : ∀ names content, names.foldl Path.child project.root ∉ [app, app] →
      emptied names content = content := by
    intro names content hother
    refine if_neg fun hnames => hother ?_
    rw [hnames]
    decide
  obtain ⟨after, hafter, hfiles, hcount, hperm, _⟩ :=
    incremental_eq_full project (.directory entries) emptied disk emptiedDisk [app, app]
      (project.analyze (.directory entries)) scorer entries_wellFormed rfl rfl
      (by rw [discovered_entries]; simp)
      (by rw [discovered_entries]; simp) honly rfl
  refine ⟨after, hafter, hfiles, hcount (analyze_fits (by decide +kernel)) ?_, hperm⟩
  obtain ⟨_, hroot, rfl⟩ := project.run_eq_ok_iff.mp hafter
  cases Option.some.inj hroot
  exact analyze_fits (by decide +kernel)

end Sample

end CodeHealth
