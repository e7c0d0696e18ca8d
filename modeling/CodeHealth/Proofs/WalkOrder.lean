import CodeHealth.Proofs.ByteOrder
import CodeHealth.Proofs.Discovery
import CodeHealth.Proofs.Paths
import Mathlib.Data.List.Sort

/-!
# The order of discovered files

Discovery goes through a tree depth first, files and directories of one level together by order of
their names. So the files come in the order of the names on the way to them, no file comes twice,
and a list of files is known by its members alone.

* `Entry.byName_strict` — entries with different names are sorted strictly;
* `Entry.pairwise_files` — the walk lists files in strict order of the names on the way;
* `Entry.files_append` — with more excluded names, the walk loses the files below such directories;
* `discover_exact_and_ordered` — what discovery finds, in which order, and what excluded names do.
-/

namespace CodeHealth

namespace Entry

variable {excluded : List Name}

/-! ### Entries by name -/

/-- `byName` sorts entries by their names. -/
theorem byName_sorted {α : Type} (xs : List (Name × α)) :
    (byName xs).Pairwise fun a b => ¬ b.1 < a.1 := by
  refine List.Pairwise.imp (fun h => by simpa using h) (List.pairwise_mergeSort ?_ ?_ xs)
  · intro a b c hab hbc
    simp only [Bool.not_eq_true', decide_eq_false_iff_not, List.not_lt] at *
    exact List.le_trans hab hbc
  · intro a b
    simp only [Bool.or_eq_true, Bool.not_eq_true', decide_eq_false_iff_not, List.not_lt]
    exact List.le_total a.1 b.1

/-- `byName` sorts entries with different names strictly. -/
theorem byName_strict {α : Type} {xs : List (Name × α)} (hnodup : (xs.map Prod.fst).Nodup) :
    (byName xs).Pairwise fun a b => a.1 < b.1 := by
  have hdifferent : (byName xs).Pairwise fun a b => a.1 ≠ b.1 := by
    have hxs : xs.Pairwise fun a b => a.1 ≠ b.1 := List.pairwise_map.mp hnodup
    exact (List.mergeSort_perm xs _).symm.pairwise hxs Ne.symm
  refine ((byName_sorted xs).and hdifferent).imp ?_
  rintro a b ⟨hle, hne⟩
  exact (List.le_iff_lt_or_eq.mp (List.not_lt.mp hle)).resolve_right hne

/-- `filesEach` enters each entry at most once. -/
theorem filesEach_sublist (excluded : List Name) (entries : List (Name × Entry)) :
    ((filesEach excluded entries).map Prod.fst).Sublist (entries.map Prod.fst) := by
  induction entries with
  | nil => exact List.Sublist.refl _
  | cons x rest ih =>
    obtain ⟨name, e⟩ := x
    rw [filesEach]
    split
    · exact ih.cons name
    · exact ih.cons_cons name

/-! ### Files by the names on the way -/

/-- The file `f` comes before `g` when the names on the way to it do. -/
def Found.Precedes (f g : Found) : Prop := f.names < g.names

-- Of two files one comes first, so a list in this order is known by its members.
instance : Std.Asymm Found.Precedes := ⟨fun _ _ => List.lt_asymm⟩

/-- **The walk is in order.** The `files` below an entry come in strict order of the names on the
way to them, provided that no directory has two entries of one name (`WellFormed`). -/
theorem pairwise_files {e : Entry} (h : e.WellFormed) :
    (e.files excluded).Pairwise Found.Precedes := by
  induction h with
  | file content =>
    rw [files]
    exact List.pairwise_singleton _ _
  | @directory entries nodup names below ih =>
    rw [files, List.pairwise_flatMap]
    constructor
    · -- Below one entry all files have its name in front.
      intro x hx
      rw [byName, List.mem_mergeSort, mem_filesEach] at hx
      obtain ⟨e, hmem, -, hfound⟩ := hx
      rw [hfound, List.pairwise_map]
      refine (ih _ hmem).imp fun hprecedes => ?_
      exact List.cons_lt_cons_iff.mpr (.inr ⟨rfl, hprecedes⟩)
    · -- Files below two entries are told apart by the names of the entries.
      have hstrict := byName_strict (nodup.sublist (filesEach_sublist excluded entries))
      refine hstrict.imp_of_mem fun {x y} hx hy hlt f hf g hg => ?_
      rw [byName, List.mem_mergeSort, mem_filesEach] at hx hy
      obtain ⟨d, -, -, hfound⟩ := hx
      obtain ⟨e, -, -, hfound'⟩ := hy
      rw [hfound] at hf
      rw [hfound'] at hg
      obtain ⟨f, -, rfl⟩ := List.mem_map.mp hf
      obtain ⟨g, -, rfl⟩ := List.mem_map.mp hg
      exact List.cons_lt_cons_iff.mpr (.inl hlt)

/-- **More excluded names.** The walk loses the files that have one of the names `more` above them,
and no others. -/
theorem files_append {e : Entry} (h : e.WellFormed) (more : List Name) :
    e.files (excluded ++ more)
      = (e.files excluded).filter fun f => f.names.dropLast.all fun d => !more.contains d := by
  refine (pairwise_files h).eq_of_mem_iff ((pairwise_files h).filter _) fun f => ?_
  rw [List.mem_filter, mem_files_iff h, mem_files_iff h, and_assoc]
  refine and_congr_right fun _ => ?_
  simp only [List.mem_append, not_or, List.all_eq_true, Bool.not_eq_true', List.contains_eq_mem,
    decide_eq_false_iff_not]
  exact ⟨fun h => ⟨fun d hd => (h d hd).1, fun d hd => (h d hd).2⟩,
    fun h d hd => ⟨h.1 d hd, h.2 d hd⟩⟩

end Entry

/-! ### Discovery -/

section Discover

variable (filter : FileFilter) (excluded : List Name) (root : Path)
  {entries : List (Name × Entry)}

/-- The names on the way to a file of the walk are told by its path, seen from the `root`. So an
order of names is one of paths. -/
theorem Entry.names_relativeTo_pathFrom (hwf : (Entry.directory entries).WellFormed)
    {f : Entry.Found} (hf : f ∈ (Entry.directory entries).files excluded) :
    ((f.pathFrom root).relativeTo root).names = f.names := by
  obtain ⟨hne, hnames⟩ := Entry.names_of_mem_files hwf hf
  rw [Entry.Found.pathFrom, Path.relativeTo_below root hne hnames, Path.names_mk hnames]

/-- The order of paths below a `root`: by the bytes of their names, name by name. -/
def Path.Precedes (root p q : Path) : Prop :=
  (p.relativeTo root).names.map Text.utf8 < (q.relativeTo root).names.map Text.utf8

/-- Files that `discover` finds come in strict order of their paths (`Path.Precedes`), so none of
them is found twice. -/
theorem pairwise_discover (hwf : (Entry.directory entries).WellFormed) :
    (discover filter excluded root (.directory entries)).Pairwise fun f g =>
      Path.Precedes root f.path g.path := by
  rw [discover_eq_map, List.pairwise_map]
  refine List.Pairwise.filter _ ((Entry.pairwise_files hwf).imp_of_mem ?_)
  intro f g hf hg hprecedes
  unfold Path.Precedes
  rw [Entry.names_relativeTo_pathFrom excluded root hwf hf,
    Entry.names_relativeTo_pathFrom excluded root hwf hg]
  exact Text.map_utf8_lt hprecedes

/-- No path is found twice by `discover`. -/
theorem nodup_discover (hwf : (Entry.directory entries).WellFormed) :
    ((discover filter excluded root (.directory entries)).map SourceFile.path).Nodup := by
  refine List.pairwise_map.mpr ((pairwise_discover filter excluded root hwf).imp ?_)
  intro f g hprecedes hsame
  rw [hsame] at hprecedes
  exact List.lt_irrefl _ hprecedes

/-- With `more` excluded names, `discover` loses the files below directories with such a name, and
no others. The name of the file itself does not count (`dropLast`). -/
theorem discover_append (hwf : (Entry.directory entries).WellFormed) (more : List Name) :
    discover filter (excluded ++ more) root (.directory entries)
      = (discover filter excluded root (.directory entries)).filter fun f =>
        (f.path.relativeTo root).names.dropLast.all fun d => !more.contains d := by
  rw [discover_eq_map, discover_eq_map, Entry.files_append hwf, List.filter_map, List.filter_filter,
    List.filter_filter]
  congr 1
  refine List.filter_congr fun f hf => ?_
  rw [Bool.and_comm, Function.comp_apply, Entry.names_relativeTo_pathFrom excluded root hwf hf]

/-- **Discovery.** For every directory tree below a `root` (`WellFormed`), every `filter` and all
names `excluded`:

* `discover` finds the path of a file of the tree once if the filter accepts it and no directory
  between the root and the file has an excluded name, and otherwise not at all;
* nothing else is found;
* the paths come in strict order of the bytes of their names, seen from the root (`Path.Precedes`);
* with further excluded names exactly the files are lost that have a directory of such a name
  between the root and them. -/
theorem discover_exact_and_ordered (hwf : (Entry.directory entries).WellFormed) :
    let tree := Entry.directory entries
    let found := discover filter excluded root tree
    (∀ names content, tree.at? names = some (.file content) →
      (found.map SourceFile.path).count (names.foldl Path.child root)
        = if filter.accepts root (names.foldl Path.child root) = true ∧
            ∀ d ∈ names.dropLast, d ∉ excluded then 1 else 0) ∧
    (∀ f ∈ found, ∃ names, tree.at? names = some (.file f.content) ∧
      f.path = names.foldl Path.child root) ∧
    found.Pairwise (fun f g => Path.Precedes root f.path g.path) ∧
    ∀ more, discover filter (excluded ++ more) root tree = found.filter fun f =>
      (f.path.relativeTo root).names.dropLast.all fun d => !more.contains d := by
  intro tree found
  refine ⟨?_, ?_, pairwise_discover filter excluded root hwf,
    discover_append filter excluded root hwf⟩
  · intro names content hfile
    rw [(nodup_discover filter excluded root hwf).count]
    simp only [mem_discover_iff filter excluded root hwf hfile]
  · intro f hf
    rw [show found = _ from discover_eq_map filter excluded root tree] at hf
    obtain ⟨g, hg, rfl⟩ := List.mem_map.mp hf
    obtain ⟨hat, -⟩ := (Entry.mem_files_iff hwf).mp (List.mem_filter.mp hg).1
    exact ⟨g.names, hat, rfl⟩

end Discover

namespace Sample

/-- The file at `vendored` is discovered once, and not at all when the name `vendor` is excluded. -/
theorem vendored_discovered_unless_excluded :
    ((discover (Language.filter .python) [] project.root (.directory entries)).map
        SourceFile.path).count (vendored.foldl Path.child project.root) = 1 ∧
      ((discover (Language.filter .python) ["vendor".toList] project.root
        (.directory entries)).map SourceFile.path).count
          (vendored.foldl Path.child project.root) = 0 := by
  have hfile : (Entry.directory entries).at? vendored = some (.file declaration) := rfl
  constructor
  · obtain ⟨hcount, -⟩ :=
      discover_exact_and_ordered (Language.filter .python) [] project.root entries_wellFormed
    exact (hcount vendored declaration hfile).trans (if_pos (by decide))
  · obtain ⟨hcount, -⟩ := discover_exact_and_ordered (Language.filter .python) ["vendor".toList]
      project.root entries_wellFormed
    exact (hcount vendored declaration hfile).trans (if_neg (by decide))

end Sample

end CodeHealth
