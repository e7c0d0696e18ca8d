import CodeHealth.Files.Discovery
import CodeHealth.Files.Disk

/-!
# Files below a root

A file is found in a tree by the names on the way to it. This file ties together the three ways in
which the analyses meet files: the walk through a tree, the path of a file below a root, and what a
path leads to on a disk.

* `Entry.at?` — what a chain of names leads to below an entry;
* `Entry.WellFormed` — no directory uses a name twice, and names are neither empty nor dots;
* `Entry.mem_files_iff` — the walk finds the files that no excluded directory is in the way of;
* `Entry.Found.pathFrom_injective` — below a root, different chains of names have different paths;
* `Disk.lookup?_below`, `Disk.read?_below` — the path of some names below a root leads to what the
  names lead to in its tree;
* `Entry.rewrite`, `Entry.files_rewrite` — the same tree with other contents.
-/

namespace CodeHealth

/-- A name that stands for something in a directory: a path steps down by it. The names that `child`
and `follow` treat otherwise are left out. -/
structure IsName (name : Name) : Prop where
  /-- It is not empty and no dot, which would mean to stay. -/
  loud : Path.isSilent name = false
  /-- It is not the two dots that mean to step up. -/
  notUp : name ≠ ['.', '.']

/-- A name is not empty, as the empty piece of a path `isSilent`. -/
theorem IsName.ne_nil {name : Name} (h : IsName name) : name ≠ [] := by
  rintro rfl
  exact absurd h.loud (by decide)

instance (name : Name) : Decidable (IsName name) :=
  decidable_of_iff (Path.isSilent name = false ∧ name ≠ ['.', '.'])
    ⟨fun h => ⟨h.1, h.2⟩, fun h => ⟨h.loud, h.notUp⟩⟩

namespace Entry

/-! ### Well-formed trees -/

/-- What a chain of `names` leads to below an entry, if all names on the way are there. -/
def at? (e : Entry) : List Name → Option Entry
  | [] => some e
  | name :: rest => (e.child? name).bind fun below => below.at? rest

/-- A tree of files as a disk holds it: no directory uses a name twice (`nodup`), and every name can
be stepped down by (`IsName`). -/
inductive WellFormed : Entry → Prop where
  | file (content : Bytes) : WellFormed (file content)
  | directory {entries : List (Name × Entry)} (nodup : (entries.map Prod.fst).Nodup)
      (names : ∀ x ∈ entries, IsName x.1) (below : ∀ x ∈ entries, WellFormed x.2) :
      WellFormed (directory entries)

/-- In a list without repeated names (`hnodup`), looking up a name finds the entry listed under
it. -/
theorem lookup_eq_some_iff {entries : List (Name × Entry)} (hnodup : (entries.map Prod.fst).Nodup)
    {name : Name} {e : Entry} : entries.lookup name = some e ↔ (name, e) ∈ entries := by
  induction entries with
  | nil => simp
  | cons x rest ih =>
    obtain ⟨other, below⟩ := x
    rw [List.map_cons, List.nodup_cons] at hnodup
    obtain ⟨hfresh, hnodup⟩ := hnodup
    by_cases h : name = other
    · subst h
      have habsent : (name, e) ∉ rest := fun hmem => hfresh (List.mem_map.mpr ⟨_, hmem, rfl⟩)
      simp [habsent, eq_comm]
    · have hne : (name == other) = false := beq_eq_false_iff_ne.mpr h
      simp [List.lookup_cons, hne, ih hnodup, h]

/-- Below a well-formed directory, `child?` leads by a name to the entry listed under it. As no name
is listed twice there, it does not matter that `child?` takes the first one. -/
theorem WellFormed.child?_eq_some_iff {entries : List (Name × Entry)}
    (h : WellFormed (.directory entries)) {name : Name} {e : Entry} :
    (Entry.directory entries).child? name = some e ↔ (name, e) ∈ entries := by
  cases h with
  | directory nodup names below => exact lookup_eq_some_iff nodup

/-- What a name leads to in a well-formed tree is well-formed, and the name is one (`IsName`). -/
theorem WellFormed.child {e below : Entry} (h : e.WellFormed) {name : Name}
    (hchild : e.child? name = some below) : IsName name ∧ below.WellFormed := by
  cases e with
  | file content => cases hchild
  | directory entries =>
    have hmem := h.child?_eq_some_iff.mp hchild
    cases h with
    | directory nodup names hbelow => exact ⟨names _ hmem, hbelow _ hmem⟩

/-- A directory stays well-formed when something well-formed is put under a name that it does not
use (`hfresh`), provided that this is a name at all (`hname`). -/
theorem WellFormed.cons {entries : List (Name × Entry)} (h : WellFormed (.directory entries))
    {name : Name} {e : Entry} (hname : IsName name) (hfresh : name ∉ entries.map Prod.fst)
    (he : e.WellFormed) : WellFormed (.directory ((name, e) :: entries)) := by
  cases h with
  | directory nodup names below =>
    refine .directory (List.nodup_cons.mpr ⟨hfresh, nodup⟩) ?_ ?_
    all_goals
      intro x hx
      rcases List.mem_cons.mp hx with rfl | hx
    · exact hname
    · exact names x hx
    · exact he
    · exact below x hx

theorem WellFormed.isName_of_at? {e found : Entry} (h : e.WellFormed) {names : List Name}
    (hat : e.at? names = some found) : ∀ name ∈ names, IsName name := by
  induction names generalizing e with
  | nil => simp
  | cons name rest ih =>
    obtain ⟨below, hchild, hrest⟩ := Option.bind_eq_some_iff.mp hat
    obtain ⟨hname, hbelow⟩ := h.child hchild
    intro n hn
    rcases List.mem_cons.mp hn with rfl | hn
    · exact hname
    · exact ih hbelow hrest n hn

/-! ### The walk -/

variable {excluded : List Name}

/-- What `filesEach` finds below the entries of a directory, entry by entry: nothing below a
directory that is `excluded`, and else the files of the walk with the name put in front. -/
theorem mem_filesEach {entries : List (Name × Entry)} {x : Name × List Found} :
    x ∈ filesEach excluded entries ↔
      ∃ e, (x.1, e) ∈ entries ∧ (e.isDirectory && excluded.contains x.1) = false ∧
        x.2 = (e.files excluded).map (Found.within x.1) := by
  induction entries with
  | nil => simp [filesEach]
  | cons y rest ih =>
    obtain ⟨name, e⟩ := y
    obtain ⟨other, found⟩ := x
    rw [filesEach]
    by_cases h : (e.isDirectory && excluded.contains name) = true
    · -- The walk passes over the entry, and the right side asks that it be no such entry.
      rw [if_pos h, ih]
      constructor
      · rintro ⟨e', hmem, hrest⟩
        exact ⟨e', List.mem_cons_of_mem _ hmem, hrest⟩
      · rintro ⟨e', hmem, hallowed, hfound⟩
        rcases List.mem_cons.mp hmem with heq | hmem
        · obtain ⟨rfl, rfl⟩ := Prod.mk.inj heq
          rw [h] at hallowed
          cases hallowed
        · exact ⟨e', hmem, hallowed, hfound⟩
    · rw [if_neg h, List.mem_cons, ih]
      rw [Bool.not_eq_true] at h
      constructor
      · rintro (heq | ⟨e', hmem, hrest⟩)
        · obtain ⟨rfl, rfl⟩ := Prod.mk.inj heq
          exact ⟨e, List.mem_cons_self, h, rfl⟩
        · exact ⟨e', List.mem_cons_of_mem _ hmem, hrest⟩
      · rintro ⟨e', hmem, hallowed, hfound⟩
        rcases List.mem_cons.mp hmem with heq | hmem
        · obtain ⟨rfl, rfl⟩ := Prod.mk.inj heq
          exact .inl (Prod.ext rfl hfound)
        · exact .inr ⟨e', hmem, hallowed, hfound⟩

/-- A directory is left by one of its entries that is not an `excluded` directory: the files of its
walk are those of such entries, `within` their names. -/
theorem mem_files_directory {entries : List (Name × Entry)} {f : Found} :
    f ∈ (directory entries).files excluded ↔
      ∃ name e, (name, e) ∈ entries ∧ (e.isDirectory && excluded.contains name) = false ∧
        ∃ g ∈ e.files excluded, f = g.within name := by
  rw [files, List.mem_flatMap]
  constructor
  · rintro ⟨x, hx, hf⟩
    rw [byName, List.mem_mergeSort, mem_filesEach] at hx
    obtain ⟨e, hmem, hallowed, hfound⟩ := hx
    rw [hfound] at hf
    obtain ⟨g, hg, rfl⟩ := List.mem_map.mp hf
    exact ⟨x.1, e, hmem, hallowed, g, hg, rfl⟩
  · rintro ⟨name, e, hmem, hallowed, g, hg, rfl⟩
    refine ⟨(name, (e.files excluded).map (Found.within name)), ?_, List.mem_map_of_mem hg⟩
    rw [byName, List.mem_mergeSort, mem_filesEach]
    exact ⟨e, hmem, hallowed, rfl⟩

/-- On the way to a file a name is in the way only as the name of an `excluded` directory: the file
at the end is never excluded by its own name. -/
theorem clear_cons_iff {below : Entry} {name : Name} {rest : List Name} {content : Bytes}
    (hat : below.at? rest = some (file content)) :
    (∀ d ∈ (name :: rest).dropLast, d ∉ excluded) ↔
      (below.isDirectory && excluded.contains name) = false ∧
        ∀ d ∈ rest.dropLast, d ∉ excluded := by
  cases rest with
  | nil =>
    obtain rfl : below = file content := Option.some.inj hat
    simp [isDirectory]
  | cons next others =>
    cases below with
    | file other => cases hat
    | directory entries => simp [isDirectory]

/-- **The walk.** In a well-formed tree the walk `files` finds exactly the files that a chain of
names leads to (`at?`) without an `excluded` directory on the way. -/
theorem mem_files_iff {e : Entry} (h : e.WellFormed) {f : Found} :
    f ∈ e.files excluded ↔
      e.at? f.names = some (file f.content) ∧ ∀ d ∈ f.names.dropLast, d ∉ excluded := by
  -- The induction is on the way to the file, which goes down one directory at a time.
  obtain ⟨names, content⟩ := f
  induction names generalizing e with
  | nil =>
    cases e with
    | file other => simp [files, at?, eq_comm]
    | directory entries => simp [mem_files_directory, at?, Found.within]
  | cons name rest ih =>
    cases e with
    | file other => simp [files, at?, child?, entries]
    | directory entries =>
      rw [mem_files_directory]
      constructor
      · rintro ⟨other, below, hmem, hallowed, g, hg, heq⟩
        obtain ⟨gnames, gcontent⟩ := g
        simp only [Found.within, Found.mk.injEq, List.cons.injEq] at heq
        obtain ⟨⟨rfl, rfl⟩, rfl⟩ := heq
        have hchild := h.child?_eq_some_iff.mpr hmem
        obtain ⟨hat, hclear⟩ := (ih (h.child hchild).2).mp hg
        refine ⟨?_, (clear_cons_iff hat).mpr ⟨hallowed, hclear⟩⟩
        rw [at?, hchild]
        exact hat
      · rintro ⟨hat, hclear⟩
        obtain ⟨below, hchild, hrest⟩ := Option.bind_eq_some_iff.mp hat
        obtain ⟨hallowed, hclear⟩ := (clear_cons_iff hrest).mp hclear
        exact ⟨name, below, h.child?_eq_some_iff.mp hchild, hallowed, ⟨rest, content⟩,
          (ih (h.child hchild).2).mpr ⟨hrest, hclear⟩, rfl⟩

/-! ### Other contents -/

mutual

/-- The tree with the content of each file replaced by what `edit` makes of it and the names on the
way to it. -/
def rewrite (edit : List Name → Bytes → Bytes) : Entry → Entry
  | file content => file (edit [] content)
  | directory entries => directory (rewriteEach edit entries)

/-- The entries with the contents of the files below them replaced, where each name is put in front
of the names on the way. -/
def rewriteEach (edit : List Name → Bytes → Bytes) : List (Name × Entry) → List (Name × Entry)
  | [] => []
  | (name, e) :: rest =>
    (name, rewrite (fun names => edit (name :: names)) e) :: rewriteEach edit rest

end

/-- A found file with its content replaced by what `edit` makes of it. -/
def Found.rewrite (edit : List Name → Bytes → Bytes) (f : Found) : Found :=
  ⟨f.names, edit f.names f.content⟩

@[simp] theorem isDirectory_rewrite (edit : List Name → Bytes → Bytes) (e : Entry) :
    (e.rewrite edit).isDirectory = e.isDirectory := by
  cases e <;> rfl

/-- `rewriteEach` as a `map` over the entries: each is rewritten by the `edit` for the names below
its own. -/
theorem rewriteEach_eq_map (edit : List Name → Bytes → Bytes) (entries : List (Name × Entry)) :
    rewriteEach edit entries
      = entries.map fun x => (x.1, x.2.rewrite fun names => edit (x.1 :: names)) := by
  induction entries with
  | nil => rfl
  | cons x rest ih => rw [rewriteEach, ih, List.map_cons]

theorem WellFormed.rewrite {e : Entry} (h : e.WellFormed) (edit : List Name → Bytes → Bytes) :
    (e.rewrite edit).WellFormed := by
  induction h generalizing edit with
  | file content => exact .file _
  | directory nodup names below ih =>
    rw [Entry.rewrite, rewriteEach_eq_map]
    refine .directory ?_ ?_ ?_
    · rw [List.map_map]
      exact nodup
    · intro x hx
      obtain ⟨y, hy, rfl⟩ := List.mem_map.mp hx
      exact names y hy
    · intro x hx
      obtain ⟨y, hy, rfl⟩ := List.mem_map.mp hx
      exact ih y hy _

/-- Sorting by name (`byName`) does not look at what is sorted along. -/
theorem byName_map {α β : Type} (f : α → β) (xs : List (Name × α)) :
    byName (xs.map fun x => (x.1, f x.2)) = (byName xs).map fun x => (x.1, f x.2) := by
  refine (List.map_mergeSort ?_).symm
  intro a _ b _
  rfl

mutual

/-- **Other contents.** The walk through a tree with other contents (`rewrite`) finds the same files
in the same order, with their new contents. -/
theorem files_rewrite (excluded : List Name) (edit : List Name → Bytes → Bytes) : (e : Entry) →
    (e.rewrite edit).files excluded = (e.files excluded).map (Found.rewrite edit)
  | file content => by simp [rewrite, files, Found.rewrite]
  | directory entries => by
    rw [rewrite, files, files, filesEach_rewrite excluded edit entries, byName_map,
      List.flatMap_map, List.map_flatMap]

theorem filesEach_rewrite (excluded : List Name) (edit : List Name → Bytes → Bytes) :
    (entries : List (Name × Entry)) →
    filesEach excluded (rewriteEach edit entries)
      = (filesEach excluded entries).map fun x => (x.1, x.2.map (Found.rewrite edit))
  | [] => rfl
  | (name, e) :: rest => by
    -- Whether an entry is passed over depends on its name and kind, which stay.
    have hrest := filesEach_rewrite excluded edit rest
    have hfirst := files_rewrite excluded (fun names => edit (name :: names)) e
    rw [rewriteEach, filesEach, filesEach, isDirectory_rewrite, hrest]
    split
    · rfl
    · rw [hfirst, List.map_cons, List.map_map, List.map_map]
      rfl

end

end Entry

/-! ### Paths below a root -/

namespace Path

/-- The pieces of a path that `child` puts a name after: an empty piece at the end, as after a
slash, is dropped. -/
def base (p : Path) : List Name :=
  if p.segments.getLast? == some [] then p.segments.dropLast else p.segments

/-- One step down by a name puts it after the `base` of the path. -/
theorem segments_child (p : Path) (name : Name) : (p.child name).segments = p.base ++ [name] := by
  have hrelative : isAbsolute ⟨[name]⟩ = false := by
    unfold isAbsolute anchor split
    split <;> simp_all
  unfold child join base
  rw [hrelative, if_neg Bool.false_ne_true]
  split <;> rfl

/-- A path that ends in a name keeps all its pieces (`base`) when another one is put after them. -/
theorem base_child (p : Path) {name : Name} (h : IsName name) :
    (p.child name).base = p.base ++ [name] := by
  have hlast : ((p.child name).segments.getLast? == some []) = false := by
    rw [segments_child, List.getLast?_concat]
    simpa using h.ne_nil
  rw [base, hlast, segments_child]
  rfl

/-- The anchor and the pieces of a path that starts at the root, which `split` tells by its empty
first piece. -/
theorem split_root {segments : List Name} (h : segments ≠ []) :
    split ⟨[] :: segments⟩ = (.root, segments) := by
  cases segments with
  | nil => exact absurd rfl h
  | cons next rest => rfl

theorem isAbsolute_iff (p : Path) :
    p.isAbsolute = true ↔ ∃ segments, segments ≠ [] ∧ p.segments = [] :: segments := by
  obtain ⟨all⟩ := p
  constructor
  · intro h
    unfold isAbsolute anchor split at h
    split at h
    · rename_i next rest hall
      exact ⟨next :: rest, by simp, hall⟩
    · cases h
    · cases h
  · rintro ⟨segments, hne, hall⟩
    obtain rfl : all = [] :: segments := hall
    rw [isAbsolute, anchor, split_root hne]
    rfl

/-- The empty first piece of a path that starts at the root stays in its `base`. -/
theorem base_root {segments : List Name} (h : segments ≠ []) :
    base ⟨[] :: segments⟩ = [] :: base ⟨segments⟩ := by
  cases segments with
  | nil => exact absurd rfl h
  | cons next rest =>
    unfold base
    rw [List.getLast?_cons_cons, List.dropLast_cons_cons]
    split <;> rfl

theorem isAbsolute_child (p : Path) {name : Name} (h : IsName name) :
    (p.child name).isAbsolute = p.isAbsolute := by
  rw [Bool.eq_iff_iff, isAbsolute_iff, isAbsolute_iff, segments_child]
  constructor
  · rintro ⟨segments, hne, hchild⟩
    obtain ⟨all⟩ := p
    unfold base at hchild
    -- Either an empty piece at the end gave way to the name, or the name came after all pieces.
    split at hchild
    · rename_i hlast
      obtain ⟨front, rfl⟩ := List.getLast?_eq_some_iff.mp (beq_iff_eq.mp hlast)
      rw [List.dropLast_concat] at hchild
      cases front with
      | nil => exact absurd (List.cons.inj hchild).1 h.ne_nil
      | cons first rest =>
        obtain ⟨rfl, _⟩ := List.cons.inj hchild
        exact ⟨rest ++ [[]], by simp, rfl⟩
    · rename_i hlast
      cases all with
      | nil => exact absurd (List.cons.inj hchild).1 h.ne_nil
      | cons first rest =>
        obtain ⟨rfl, _⟩ := List.cons.inj hchild
        refine ⟨rest, ?_, rfl⟩
        rintro rfl
        exact hlast rfl
  · rintro ⟨segments, hne, hsegments⟩
    have hbase : p.base = [] :: base ⟨segments⟩ := by rw [← base_root hne, ← hsegments]
    exact ⟨base ⟨segments⟩ ++ [name], by simp, by rw [hbase]; rfl⟩

/-- The pieces of the path that some names lead to below `p`: its `base` and then the names. -/
theorem segments_foldl_child (p : Path) {names : List Name} (hne : names ≠ [])
    (h : ∀ name ∈ names, IsName name) : (names.foldl child p).segments = p.base ++ names := by
  induction names generalizing p with
  | nil => exact absurd rfl hne
  | cons name rest ih =>
    rw [List.foldl_cons]
    cases rest with
    | nil => exact p.segments_child name
    | cons next others =>
      rw [ih (p.child name) (by simp) fun n hn => h n (List.mem_cons_of_mem _ hn),
        p.base_child (h name List.mem_cons_self), List.append_assoc]
      rfl

end Path

/-- Below a root, different chains of names have different paths (`pathFrom`): as the chains are not
empty and each member `IsName`, a path can be taken apart again. -/
theorem Entry.Found.pathFrom_injective {root : Path} {f g : Entry.Found}
    (hf : ∀ name ∈ f.names, IsName name) (hg : ∀ name ∈ g.names, IsName name)
    (hfne : f.names ≠ []) (hgne : g.names ≠ []) (h : f.pathFrom root = g.pathFrom root) :
    f.names = g.names := by
  have hsegments := congrArg Path.segments h
  rw [pathFrom, pathFrom, Path.segments_foldl_child root hfne hf,
    Path.segments_foldl_child root hgne hg] at hsegments
  exact List.append_cancel_left hsegments

/-! ### What paths lead to -/

namespace Disk

/-- Following one more name looks it up in what was reached before by `segments`. For `..` this
would not hold, which is why `IsName` is asked for. -/
theorem follow_append_name {name : Name} (h : IsName name) (above : List Entry) (e : Entry)
    (segments : List Name) :
    follow above e (segments ++ [name]) = (follow above e segments).bind fun below =>
      below.child? name := by
  have hup : (name == ['.', '.']) = false := beq_eq_false_iff_ne.mpr h.notUp
  induction segments generalizing above e with
  | nil =>
    cases e with
    | file content => rfl
    | directory entries =>
      simp only [List.nil_append, follow, Entry.isDirectory, h.loud, hup, Option.bind_some]
      cases (Entry.directory entries).child? name <;> rfl
  | cons segment rest ih =>
    simp only [List.cons_append, follow]
    -- The first piece is followed in the same way on both sides.
    split
    · rfl
    · split
      · exact ih above e
      · split
        · cases above with
          | nil => exact ih [] e
          | cons parent above => exact ih above parent
        · cases e.child? segment with
          | none => rfl
          | some below => exact ih (e :: above) below

/-- An empty piece at the end only asks for a directory: what `follow` finds with it is found
without it. Such a piece is what a slash at the end of a path leaves. -/
theorem follow_append_nil {found : Entry} (above : List Entry) (e : Entry) (segments : List Name)
    (h : follow above e (segments ++ [[]]) = some found) :
    follow above e segments = some found := by
  induction segments generalizing above e with
  | nil =>
    cases e with
    | file content => cases h
    | directory entries => exact h
  | cons segment rest ih =>
    simp only [List.cons_append, follow] at h ⊢
    -- The cases of `follow` for the first piece, which both sides share.
    split at h
    · cases h
    · rename_i hdir
      rw [if_neg hdir]
      split at h
      · rename_i hsilent
        rw [if_pos hsilent]
        exact ih above e h
      · rename_i hloud
        rw [if_neg hloud]
        split at h
        · rename_i hup
          rw [if_pos hup]
          cases above with
          | nil => exact ih [] e h
          | cons parent above => exact ih above parent h
        · rename_i hdown
          rw [if_neg hdown]
          cases hchild : e.child? segment with
          | none => rw [hchild] at h; cases h
          | some below =>
            rw [hchild] at h
            exact ih (e :: above) below h

/-- What is found behind pieces of a path is found without an empty piece at their end, that is by
the `base` of the path. -/
theorem follow_base {found : Entry} (above : List Entry) (e : Entry) {before segments : List Name}
    (h : follow above e (before ++ segments) = some found) :
    follow above e (before ++
      if segments.getLast? == some [] then segments.dropLast else segments) = some found := by
  split
  · rename_i hlast
    obtain ⟨front, rfl⟩ := List.getLast?_eq_some_iff.mp (beq_iff_eq.mp hlast)
    rw [List.dropLast_concat]
    rw [← List.append_assoc] at h
    exact follow_append_nil above e _ h
  · exact h

/-- A path that ends in a name has a `text`, while the path without a text leads nowhere. -/
theorem text_isEmpty_child (p : Path) {name : Name} (h : IsName name) :
    (p.child name).text.isEmpty = false := by
  rw [Path.text, Path.segments_child]
  cases hbase : p.base with
  | nil =>
    cases name with
    | nil => exact absurd rfl h.ne_nil
    | cons c rest => rfl
  | cons first rest =>
    cases rest <;> cases first <;> simp [List.intercalate, List.intersperse]

/-- **One step down.** Where a path leads to an entry, the path with one more name leads to what the
name stands for in the entry (`child?`). -/
theorem lookup?_child {disk : Disk} {p : Path} {e : Entry} (h : disk.lookup? p = some e)
    {name : Name} (hname : IsName name) : disk.lookup? (p.child name) = e.child? name := by
  unfold lookup? at h ⊢
  rw [text_isEmpty_child p hname, if_neg Bool.false_ne_true, p.isAbsolute_child hname]
  split at h
  · cases h
  · -- A path is followed from the root of the disk or from the working directory.
    split at h
    · rename_i habsolute
      obtain ⟨segments, hne, hsegments⟩ := p.isAbsolute_iff.mp habsolute
      have hsplit : p.split = (.root, segments) := by
        rw [← Path.split_root hne, ← hsegments]
      have hchild : (p.child name).segments = [] :: (Path.base ⟨segments⟩ ++ [name]) := by
        rw [p.segments_child, ← List.cons_append, ← Path.base_root hne, ← hsegments]
      have hsplit' : (p.child name).split = (.root, Path.base ⟨segments⟩ ++ [name]) := by
        rw [← Path.split_root (by simp), ← hchild]
      rw [hsplit] at h
      rw [if_pos habsolute, hsplit', follow_append_name hname]
      have hfront : follow [] disk.tree ([] ++ Path.base ⟨segments⟩) = some e :=
        follow_base [] disk.tree h
      rw [List.nil_append] at hfront
      rw [hfront, Option.bind_some]
    · rename_i hrelative
      rw [if_neg hrelative, p.segments_child, ← List.append_assoc, follow_append_name hname]
      have hfront : follow [] disk.tree (disk.working ++ p.base) = some e :=
        follow_base [] disk.tree h
      rw [hfront, Option.bind_some]

/-- Nothing is found by `lookup?` below a path that ends in a name and leads nowhere (`h`), whatever
name is looked up there. -/
theorem lookup?_child_of_none {disk : Disk} {p : Path} {last name : Name} (hlast : IsName last)
    (hname : IsName name) (h : disk.lookup? (p.child last) = none) :
    disk.lookup? ((p.child last).child name) = none := by
  -- A path that ends in a name keeps all its pieces when another name is put after them.
  have hsegments : ((p.child last).child name).segments = (p.child last).segments ++ [name] := by
    rw [Path.segments_child, p.base_child hlast, p.segments_child]
  unfold lookup? at h ⊢
  rw [text_isEmpty_child p hlast, if_neg Bool.false_ne_true] at h
  rw [text_isEmpty_child _ hname, if_neg Bool.false_ne_true, Path.isAbsolute_child _ hname]
  split at h
  · rename_i habsolute
    obtain ⟨segments, hne, hall⟩ := (Path.isAbsolute_iff _).mp habsolute
    have hsplit : (p.child last).split = (.root, segments) := by
      rw [← Path.split_root hne, ← hall]
    have hsplit' : ((p.child last).child name).split = (.root, segments ++ [name]) := by
      rw [← Path.split_root (by simp), ← List.cons_append, ← hall, ← hsegments]
    rw [hsplit] at h
    rw [if_pos habsolute, hsplit', follow_append_name hname, h, Option.bind_none]
  · rename_i hrelative
    rw [if_neg hrelative, hsegments, ← List.append_assoc, follow_append_name hname, h,
      Option.bind_none]

theorem lookup?_below_of_none {disk : Disk} {p : Path} {last : Name} (hlast : IsName last)
    (h : disk.lookup? (p.child last) = none) {names : List Name} (hnames : ∀ n ∈ names, IsName n) :
    disk.lookup? (names.foldl Path.child (p.child last)) = none := by
  induction names generalizing p last with
  | nil => exact h
  | cons name rest ih =>
    have hname := hnames name List.mem_cons_self
    rw [List.foldl_cons]
    exact ih hname (lookup?_child_of_none hlast hname h) fun n hn =>
      hnames n (List.mem_cons_of_mem _ hn)

/-- **Paths lead where names lead.** Where a `root` leads to a `tree`, the path of some names below
the root leads to what the names lead to in the tree (`at?`). -/
theorem lookup?_below {disk : Disk} {root : Path} {tree : Entry}
    (h : disk.lookup? root = some tree) {names : List Name} (hnames : ∀ n ∈ names, IsName n) :
    disk.lookup? (names.foldl Path.child root) = tree.at? names := by
  induction names generalizing root tree with
  | nil => exact h
  | cons name rest ih =>
    have hstep := lookup?_child h (hnames name List.mem_cons_self)
    have hrest : ∀ n ∈ rest, IsName n := fun n hn => hnames n (List.mem_cons_of_mem _ hn)
    rw [List.foldl_cons, Entry.at?]
    cases hchild : tree.child? name with
    | none =>
      exact lookup?_below_of_none (hnames name List.mem_cons_self) (hstep.trans hchild) hrest
    | some below => exact ih (hstep.trans hchild) hrest

/-- What is read below a `root` is what its tree has `at?` the names, so that reading from the disk
and looking into the tree are the same. -/
theorem read?_below {disk : Disk} {root : Path} {tree : Entry} (h : disk.lookup? root = some tree)
    {names : List Name} (hnames : ∀ n ∈ names, IsName n) {content : Bytes} :
    disk.read? (names.foldl Path.child root) = some content ↔
      tree.at? names = some (.file content) := by
  rw [read?, lookup?_below h hnames]
  cases tree.at? names with
  | none => simp
  | some e => cases e <;> simp [Entry.content?]

/-- A file found by the walk below a `root` is read at its path, with the content that the walk has
found it with. -/
theorem read?_pathFrom {disk : Disk} {root : Path} {tree : Entry}
    (h : disk.lookup? root = some tree) (hwf : tree.WellFormed) {excluded : List Name}
    {f : Entry.Found} (hf : f ∈ tree.files excluded) :
    disk.read? (f.pathFrom root) = some f.content := by
  obtain ⟨hat, -⟩ := (Entry.mem_files_iff hwf).mp hf
  exact (read?_below h (hwf.isName_of_at? hat)).mpr hat

end Disk

end CodeHealth
