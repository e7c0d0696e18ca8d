import CodeHealth.Analysis
import CodeHealth.Proofs.Files

/-!
# Paths below a root

A file below a root has a path: the root with the names on the way put after it. Reports and filters
look at such a path from the root, so what they see does not depend on how the root is spelled.

* `Path.split_below` — names below a root keep its anchor, and come after its pieces;
* `Path.dropNames_append` — the names of a root are taken off with the pieces that mean nothing;
* `Path.relativeTo_below` — seen from the root, the path of some names is made of these names;
* `Path.fileName?_below` — the last name of the path is the last of these names;
* `FileFilter.accepts_below`, `SourceFile.source_below` — filters and sources see the names alone.
-/

namespace CodeHealth

namespace Path

variable {last : Name} {names : List Name}

/-- How a path can start: not at all, at the root, at the current directory spelled out, or with a
piece that means something (that is not `isSilent`). -/
theorem start_cases (p : Path) : p = ⟨[]⟩ ∨ p = ⟨[[]]⟩ ∨ (∃ rest, rest ≠ [] ∧ p = ⟨[] :: rest⟩) ∨
    (∃ rest, p = ⟨['.'] :: rest⟩) ∨
    ∃ first rest, isSilent first = false ∧ p = ⟨first :: rest⟩ := by
  obtain ⟨segments⟩ := p
  cases segments with
  | nil => exact .inl rfl
  | cons first rest =>
    cases hsilent : isSilent first with
    | false => exact .inr (.inr (.inr (.inr ⟨first, rest, hsilent, rfl⟩)))
    | true =>
      rcases Bool.or_eq_true_iff.mp hsilent with hempty | hdot
      · rw [eq_of_beq hempty]
        cases rest with
        | nil => exact .inr (.inl rfl)
        | cons next rest => exact .inr (.inr (.inl ⟨next :: rest, by simp, rfl⟩))
      · rw [eq_of_beq hdot]
        exact .inr (.inr (.inr (.inl ⟨rest, rfl⟩)))

/-- A path that starts with a piece that means something has no anchor, and `split` leaves it
whole. -/
theorem split_of_loud {first : Name} (h : isSilent first = false) (rest : List Name) :
    split ⟨first :: rest⟩ = (.none, first :: rest) := by
  unfold split
  split
  · rename_i heq
    obtain ⟨rfl, -⟩ := List.cons.inj heq
    exact absurd h (by decide)
  · rename_i heq
    obtain ⟨rfl, -⟩ := List.cons.inj heq
    exact absurd h (by decide)
  · rfl

/-- `base` drops an empty piece at the end, which is one behind the `first` piece unless it is that
piece. -/
theorem base_cons {first : Name} (h : first ≠ []) (rest : List Name) :
    base ⟨first :: rest⟩ = first :: base ⟨rest⟩ := by
  cases rest with
  | nil => simp [base, h]
  | cons next rest =>
    unfold base
    rw [List.getLast?_cons_cons, List.dropLast_cons_cons]
    split <;> rfl

theorem ne_nil_of_loud {first : Name} (h : isSilent first = false) : first ≠ [] := by
  rintro rfl
  cases h

/-- **Names below a root.** They keep the anchor of the `root` and come after its pieces. -/
theorem split_below (root : Path) (hne : names ≠ []) (h : ∀ n ∈ names, IsName n) :
    (names.foldl child root).split = (root.anchor, base ⟨root.split.2⟩ ++ names) := by
  obtain ⟨name, rest, rfl⟩ := List.exists_cons_of_ne_nil hne
  have hloud := (h name List.mem_cons_self).loud
  have hpath : (name :: rest).foldl child root = ⟨root.base ++ name :: rest⟩ := by
    rw [← segments_foldl_child root hne h]
  rw [hpath]
  obtain rfl | rfl | ⟨others, hothers, rfl⟩ | ⟨others, rfl⟩ | ⟨first, others, hfirst, rfl⟩ :=
    start_cases root
  · exact split_of_loud hloud rest
  · exact split_of_loud hloud rest
  · rw [base_root hothers, anchor, split_root hothers]
    exact split_root (by simp)
  · rw [base_cons (by simp)]
    rfl
  · rw [anchor, split_of_loud hfirst, base_cons (ne_nil_of_loud hfirst)]
    exact split_of_loud hfirst _

/-- The pieces that mean something are the same without an empty piece at the end (`base`). -/
theorem filter_base (segments : List Name) :
    (base ⟨segments⟩).filter (fun s => !isSilent s) = segments.filter fun s => !isSilent s := by
  unfold base
  split
  · rename_i hlast
    obtain ⟨front, hfront⟩ := List.getLast?_eq_some_iff.mp (beq_iff_eq.mp hlast)
    have hsilent : isSilent [] = true := rfl
    rw [show segments = front ++ [[]] from hfront]
    simp [hsilent]
  · rfl

/-- Where the names of a root come first in some pieces, `dropNames` takes them off; pieces that
mean nothing (`silent`) may be left of the root. -/
theorem dropNames_append (segments rest : List Name) : ∃ silent,
    dropNames (segments.filter fun s => !isSilent s) (segments ++ rest) = some (silent ++ rest) ∧
      ∀ s ∈ silent, isSilent s = true := by
  induction segments with
  | nil => exact ⟨[], by simp [dropNames], by simp⟩
  | cons segment others ih =>
    cases hsilent : isSilent segment with
    | false =>
      obtain ⟨silent, hdrop, hall⟩ := ih
      refine ⟨silent, ?_, hall⟩
      rw [List.filter_cons_of_pos (by simp [hsilent]), List.cons_append, dropNames, hsilent]
      simpa using hdrop
    | true =>
      rw [List.filter_cons_of_neg (by simp [hsilent])]
      -- As long as names are to come, pieces that mean nothing are passed over.
      cases hnames : others.filter fun s => !isSilent s with
      | nil =>
        refine ⟨segment :: others, by simp [dropNames], ?_⟩
        intro s hs
        rcases List.mem_cons.mp hs with rfl | hs
        · exact hsilent
        · simpa using List.filter_eq_nil_iff.mp hnames s hs
      | cons first more =>
        rw [hnames] at ih
        obtain ⟨silent, hdrop, hall⟩ := ih
        refine ⟨silent, ?_, hall⟩
        rw [List.cons_append, dropNames, if_pos hsilent]
        exact hdrop

/-- Names have nothing to be trimmed at their end, as each of them `IsName`. -/
theorem trimEnd_names (h : ∀ n ∈ names, IsName n) : trimEnd names = names := by
  have hkept : names.reverse.dropWhile isSilent = names.reverse := by
    cases hreverse : names.reverse with
    | nil => rfl
    | cons last front =>
      have hlast : last ∈ names := by
        rw [← List.mem_reverse, hreverse]
        exact List.mem_cons_self
      rw [List.dropWhile_cons_of_neg (by simp [(h last hlast).loud])]
  rw [trimEnd, hkept, List.reverse_reverse]

/-- A `root` without an anchor and without names has no pieces that names could come after. -/
theorem base_of_blank {root : Path} (hanchor : root.anchor = .none) (hnames : root.names = []) :
    base ⟨root.split.2⟩ = [] := by
  obtain rfl | rfl | ⟨others, hne, rfl⟩ | ⟨others, rfl⟩ | ⟨first, others, hloud, rfl⟩ :=
    start_cases root
  · rfl
  · rfl
  · rw [anchor, split_root hne] at hanchor
    cases hanchor
  · cases hanchor
  · rw [Path.names, split_of_loud hloud, List.filter_cons_of_pos (by simp [hloud])] at hnames
    cases hnames

/-- The names of the path of some `names` below a `root` are those of the root and these. -/
theorem names_below (root : Path) (hne : names ≠ []) (h : ∀ n ∈ names, IsName n) :
    (names.foldl child root).names = root.names ++ names := by
  have hkept : names.filter (fun s => !isSilent s) = names :=
    List.filter_eq_self.mpr fun n hn => by simp [(h n hn).loud]
  rw [Path.names, split_below root hne h, List.filter_append, filter_base, hkept]
  rfl

/-- **Seen from the root.** The path of some `names` below a `root`, seen from the root by
`relativeTo?`, is made of these names. -/
theorem relativeTo?_below (root : Path) (hne : names ≠ []) (h : ∀ n ∈ names, IsName n) :
    (names.foldl child root).relativeTo? root = some ⟨names⟩ := by
  obtain ⟨name, rest, rfl⟩ := List.exists_cons_of_ne_nil hne
  have hanchor : ((name :: rest).foldl child root).anchor = root.anchor := by
    rw [anchor, split_below root hne h]
  rw [relativeTo?, hanchor, split_below root hne h]
  split
  · -- The root says nothing, and all pieces of the path are the names.
    rename_i hblank
    obtain ⟨hnone, hnames⟩ := Bool.and_eq_true_iff.mp hblank
    have hnone' : root.anchor = .none := eq_of_beq hnone
    rw [hnone', base_of_blank hnone' (List.isEmpty_iff.mp hnames), List.nil_append,
      trimEnd_names h]
    rfl
  · -- What is left behind the names of the root starts with pieces of the root that mean nothing.
    obtain ⟨silent, hdrop, hsilent⟩ := dropNames_append (base ⟨root.split.2⟩) (name :: rest)
    have hrest : (silent ++ name :: rest).dropWhile isSilent = name :: rest := by
      rw [List.dropWhile_append_of_pos hsilent]
      exact List.dropWhile_cons_of_neg (by simp [(h name List.mem_cons_self).loud])
    rw [filter_base] at hdrop
    rw [if_pos (beq_self_eq_true _), Path.names, hdrop, Option.map_some, hrest, trimEnd_names h]
    rfl

/-- The same for `relativeTo`, which never has to fall back on the path itself here. -/
theorem relativeTo_below (root : Path) (hne : names ≠ []) (h : ∀ n ∈ names, IsName n) :
    (names.foldl child root).relativeTo root = ⟨names⟩ := by
  rw [relativeTo, relativeTo?_below root hne h, Option.getD_some]

/-- The names of a path that is made of `names`, each of which `IsName`. -/
theorem names_mk (h : ∀ n ∈ names, IsName n) : Path.names ⟨names⟩ = names := by
  cases names with
  | nil => rfl
  | cons name rest =>
    rw [Path.names, split_of_loud (h name List.mem_cons_self).loud]
    exact List.filter_eq_self.mpr fun n hn => by simp [(h n hn).loud]

/-- A path whose names end in one that can be stepped down by (`IsName`) leads to something of that
name. -/
theorem fileName?_eq_some {p : Path} (hlast : p.names.getLast? = some last) (hname : IsName last) :
    p.fileName? = some last := by
  have hup : (last == ['.', '.']) = false := beq_eq_false_iff_ne.mpr hname.notUp
  rw [fileName?, hlast]
  simp only [hup, Bool.false_eq_true, if_false]

/-- The last name of the path of some `names` below a root is the `last` of these names. -/
theorem fileName?_below (root : Path) (h : ∀ n ∈ names, IsName n)
    (hlast : names.getLast? = some last) : (names.foldl child root).fileName? = some last := by
  have hne : names ≠ [] := by
    rintro rfl
    cases hlast
  refine fileName?_eq_some ?_ (h last (List.mem_of_getLast? hlast))
  rw [names_below root hne h, List.getLast?_append, hlast, Option.some_or]

/-- The extension of the path of some `names` below a root is that of the `last` name, so the root
has no say in it. -/
theorem extension?_below (root : Path) (h : ∀ n ∈ names, IsName n)
    (hlast : names.getLast? = some last) :
    (names.foldl child root).extension? = extension? ⟨[last]⟩ := by
  have hname : IsName last := h last (List.mem_of_getLast? hlast)
  have hsingle : (Path.mk [last]).fileName? = some last := by
    refine fileName?_eq_some ?_ hname
    rw [names_mk (by simpa using hname), List.getLast?_singleton]
  rw [extension?, fileName?_below root h hlast, extension?, hsingle]

/-- Below a `root`, names joined by slashes lead where the `names` lead one after the other. -/
theorem join_mk (root : Path) (hne : names ≠ []) (h : ∀ n ∈ names, IsName n) :
    root.join ⟨names⟩ = names.foldl child root := by
  obtain ⟨name, rest, rfl⟩ := List.exists_cons_of_ne_nil hne
  have hrelative : isAbsolute ⟨name :: rest⟩ = false := by
    rw [isAbsolute, anchor, split_of_loud (h name List.mem_cons_self).loud]
    rfl
  have hsegments : (root.join ⟨name :: rest⟩).segments = root.base ++ name :: rest := by
    unfold join base
    rw [hrelative, if_neg Bool.false_ne_true]
    split <;> rfl
  rw [← segments_foldl_child root hne h] at hsegments
  exact congrArg Path.mk hsegments

end Path

/-! ### What filters and sources see -/

section Below

variable {names : List Name}

/-- Whether a `filter` accepts the path of some `names` depends on the names alone, and not on the
root: patterns are held against the path as seen from the root. -/
theorem FileFilter.accepts_below (filter : FileFilter) (root root' : Path) (hne : names ≠ [])
    (h : ∀ n ∈ names, IsName n) :
    filter.accepts root (names.foldl Path.child root)
      = filter.accepts root' (names.foldl Path.child root') := by
  have hlast := List.getLast?_eq_some_getLast hne
  unfold FileFilter.accepts
  rw [Path.relativeTo_below root hne h, Path.relativeTo_below root' hne h,
    Path.extension?_below root h hlast, Path.extension?_below root' h hlast,
    Path.fileName?_below root h hlast, Path.fileName?_below root' h hlast]

/-- The `source` at the path of some `names` depends on the names and the content alone, as its
label is the path seen from the root. -/
theorem SourceFile.source_below (root root' : Path) (hne : names ≠ [])
    (h : ∀ n ∈ names, IsName n) (content : Bytes) :
    SourceFile.source root ⟨names.foldl Path.child root, content⟩
      = SourceFile.source root' ⟨names.foldl Path.child root', content⟩ := by
  have hlast := List.getLast?_eq_some_getLast hne
  simp only [SourceFile.source, Path.label, Path.directoryFrom, Path.relativeTo_below _ hne h,
    Path.fileName?_below _ h hlast, Option.getD_some]

end Below

end CodeHealth
