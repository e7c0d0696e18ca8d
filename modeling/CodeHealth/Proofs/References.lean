import CodeHealth.Go.References
import CodeHealth.Proofs.Text
import CodeHealth.Proofs.Unused
import Mathlib.Algebra.Ring.Nat
import Mathlib.Data.List.Sort

/-!
# References over more files

A function is unused when no file refers to it. So more files can only bring references: a function
that is used stays so. Nor does it matter in which order files are looked at, as all that is asked
of them together are sums and memberships.

* `Text.count_corpus` — no name reaches from one source into the next, so counts add up;
* `Outline.Profile.name_mem_unused_iff` — which names are reported for some sources;
* `Outline.Profile.not_unused_of_more`, `Outline.Profile.unusedFunctions_perm` — more sources, and
  the same sources in another order;
* `Go.CallIndex.unusedFunctions_eq` — Go sources are looked at as far as they can be read;
* `Go.CallIndex.key_mem_unused_iff` — which keys are reported for some Go files;
* `Go.CallIndex.not_unused_of_more`, `Go.CallIndex.unused_perm` — the same for Go files;
* `references_monotone_and_orderFree` — both kinds of references together.
-/

namespace CodeHealth

open CodeHealth.Text

-- Of two records one comes first, so a report is known by its members.
instance : Std.Asymm UnusedFunction.Precedes where
  asymm a b hab hba := by
    unfold UnusedFunction.Precedes at hab hba
    grind

/-! ### Counting in joined texts -/

namespace Text

/-- A `needle` without the character `c` that starts a text ends before the first `c` in it. -/
theorem prefix_of_prefix_append {needle text rest : List Char} {c : Char} (hc : c ∉ needle)
    (h : needle <+: text ++ c :: rest) : needle <+: text := by
  have hfront : text ++ [c] <+: text ++ c :: rest := ⟨rest, by simp⟩
  rcases List.prefix_or_prefix_of_prefix h hfront with h | h
  · rcases List.prefix_concat_iff.mp h with rfl | h
    · exact absurd (by simp) hc
    · exact h
  · exact absurd (h.subset (by simp)) hc

variable {needle : List Char}

/-- `countFrom` adds up over both sides of a character `c` that the `needle` does not have.
Characters to `skip` belong to an occurrence before `c` and are skipped before it (`hskip`). -/
theorem countFrom_join (hne : needle ≠ []) {c : Char} (hc : c ∉ needle) (text other : List Char)
    (skip : Nat) (hskip : skip ≤ text.length) :
    countFrom needle skip (text ++ c :: other)
      = countFrom needle skip text + count needle other := by
  -- `hskip` keeps what is skipped inside of `text`, so that the skipping never reaches `c`.
  induction text generalizing skip with
  | nil =>
    obtain rfl : skip = 0 := Nat.le_zero.mp hskip
    have hstart : ¬ needle <+: c :: other := by
      intro h
      have hempty : needle <+: [] := prefix_of_prefix_append hc h
      exact hne (List.prefix_nil.mp hempty)
    have hcount : count needle (c :: other) = count needle other := by
      rw [count_cons, if_neg hstart]
    rw [countFrom, Nat.zero_add]
    exact hcount
  | cons first rest ih =>
    cases skip with
    | succ skip => exact ih skip (Nat.le_of_succ_le_succ hskip)
    | zero =>
      rw [List.cons_append, countFrom, countFrom]
      simp only [List.isPrefixOf_iff_prefix]
      by_cases hstart : needle <+: first :: rest
      · -- An occurrence at the front is one in the longer text too.
        have hlonger : needle <+: first :: (rest ++ c :: other) :=
          hstart.trans (List.prefix_append (first :: rest) (c :: other))
        have hlength := hstart.length_le
        rw [List.length_cons] at hlength
        rw [if_pos hlonger, if_pos hstart, ih (needle.length - 1) (by omega)]
        omega
      · -- An occurrence that is only in the longer text would reach over `c`.
        have hlonger : ¬ needle <+: first :: (rest ++ c :: other) := fun h =>
          hstart (prefix_of_prefix_append hc h)
        rw [if_neg hlonger, if_neg hstart, ih 0 (Nat.zero_le _)]

/-- `count` adds up over both sides of a character `c` that the `needle` does not have. -/
theorem count_join (hne : needle ≠ []) {c : Char} (hc : c ∉ needle) (text other : List Char) :
    count needle (text ++ c :: other) = count needle text + count needle other :=
  countFrom_join hne hc text other 0 (Nat.zero_le _)

/-- **Counts add up over sources**: a `needle` on one line is counted in the `corpus` as often as in
all sources. -/
theorem count_corpus (hne : needle ≠ []) (hline : '\n' ∉ needle)
    (sources : List (String × List Char)) :
    count needle (Outline.Profile.corpus sources)
      = (sources.map fun s => count needle s.2).sum := by
  fun_induction Outline.Profile.corpus sources with
  | case1 => rfl
  | case2 file source => simp
  | case3 file source rest _ ih =>
    rw [List.map_cons, List.sum_cons, ← ih]
    exact count_join hne hline source _

/-- No line that `linesFrom` gives holds a line feed, as long as the `current` one has none. -/
theorem lineFeed_not_mem_linesFrom {text current line : List Char} (hcurrent : '\n' ∉ current)
    (h : line ∈ linesFrom text current) : '\n' ∉ line := by
  -- The invariant is that the line read so far has no line feed.
  fun_induction linesFrom text current with
  | case1 => exact absurd h List.not_mem_nil
  | case2 current _ =>
    rw [List.mem_singleton.mp h, List.mem_reverse]
    exact hcurrent
  | case3 rest current ih =>
    rcases List.mem_cons.mp h with rfl | h
    · rw [List.mem_reverse]
      unfold dropReturn
      split
      · exact fun hmem => hcurrent (List.mem_cons_of_mem _ hmem)
      · exact hcurrent
    · exact ih List.not_mem_nil h
  | case4 c rest current hc ih =>
    refine ih ?_ h
    rw [List.mem_cons, not_or]
    exact ⟨fun hsame => hc hsame.symm, hcurrent⟩

/-- No line of `lines text` holds a line feed. -/
theorem lineFeed_not_mem_lines {text line : List Char} (h : line ∈ lines text) : '\n' ∉ line :=
  lineFeed_not_mem_linesFrom List.not_mem_nil h

end Text

/-! ### Sources read line by line -/

namespace Outline

/-- `allLines` of fewer sources are among those of more. -/
theorem allLines_subset {sources sources' : List (String × List Char)} (h : sources ⊆ sources') :
    allLines sources ⊆ allLines sources' := by
  intro line hline
  obtain ⟨s, hs, hline⟩ := List.mem_flatMap.mp hline
  exact List.mem_flatMap.mpr ⟨s, h hs, hline⟩

/-- `numberedLines` of fewer sources are among those of more. -/
theorem numberedLines_subset {sources sources' : List (String × List Char)}
    (h : sources ⊆ sources') : numberedLines sources ⊆ numberedLines sources' := by
  intro l hl
  obtain ⟨s, hs, hl⟩ := List.mem_flatMap.mp hl
  exact List.mem_flatMap.mpr ⟨s, h hs, hl⟩

namespace Profile

variable {p : Profile} {sources more sources' : List (String × List Char)} {name : List Char}

/-- Some line of the `sources` declares a public function called `name`. -/
def Declares (p : Profile) (sources : List (String × List Char)) (name : List Char) : Prop :=
  ∃ line ∈ allLines sources, ∃ g, p.declaredOn? line = some g ∧ g.content = name

theorem Declares.mono (h : p.Declares sources name) (hsub : sources ⊆ sources') :
    p.Declares sources' name := by
  obtain ⟨line, hline, hname⟩ := h
  exact ⟨line, allLines_subset hsub hline, hname⟩

/-- A `name` that sources declare is a piece of one line, and not empty. -/
theorem Declares.ne_nil_and_lineFeed (h : p.Declares sources name) :
    name ≠ [] ∧ '\n' ∉ name := by
  obtain ⟨line, hline, g, hg, rfl⟩ := h
  obtain ⟨-, -, -, hne⟩ := declaredOn?_eq_some_iff.mp hg
  obtain ⟨s, -, hline⟩ := List.mem_flatMap.mp hline
  exact ⟨hne, fun hmem =>
    lineFeed_not_mem_lines hline ((isInfix_of_declaredOn? hg).subset hmem)⟩

/-- `calledNames` of fewer sources are among those of more. -/
theorem calledNames_subset (hsub : sources ⊆ sources') :
    p.calledNames sources ⊆ p.calledNames sources' := by
  intro name hname
  obtain ⟨s, hs, hname⟩ := List.mem_flatMap.mp hname
  exact List.mem_flatMap.mpr ⟨s, hsub hs, hname⟩

/-- A declared name is counted in the `corpus` as often as before, and in further sources too,
whatever their order. -/
theorem count_le_of_more (hdeclared : p.Declares sources name)
    (hperm : (sources ++ more).Perm sources') :
    count name (corpus sources) ≤ count name (corpus sources') := by
  obtain ⟨hne, hline⟩ := hdeclared.ne_nil_and_lineFeed
  have hsum := (hperm.map fun s => count name s.2).sum_nat
  rw [List.map_append, List.sum_append] at hsum
  rw [count_corpus hne hline, count_corpus hne hline]
  omega

/-- The `publicFunctions` are named as the sources declare (`Declares`), apart from exempt names. -/
theorem exists_mem_publicFunctions_iff : (∃ d ∈ p.publicFunctions sources, d.name = name) ↔
    p.Declares sources name ∧ p.isExempt name = false := by
  constructor
  · rintro ⟨d, hd, rfl⟩
    obtain ⟨l, hl, hdeclared⟩ := exists_declared?_of_mem_publicFunctions hd
    obtain ⟨hname, hexempt, -, -⟩ := declared?_eq_some_iff_declaredOn?.mp hdeclared
    exact ⟨⟨l.text, text_mem_allLines hl, hname⟩, hexempt⟩
  · rintro ⟨⟨line, hline, hname⟩, hexempt⟩
    rw [← map_text_numberedLines] at hline
    obtain ⟨l, hl, rfl⟩ := List.mem_map.mp hline
    have hdeclared : p.declared? l = some ⟨name, l.file, l.number⟩ :=
      declared?_eq_some_iff_declaredOn?.mpr ⟨hname, hexempt, rfl, rfl⟩
    rw [publicFunctions_eq]
    exact exists_mem_latestOf Declared.name (List.mem_filterMap.mpr ⟨l, hl, hdeclared⟩)

/-- **Which names are reported** by `unusedFunctions`: those that are declared and not exempt, that
no call names and that are counted once in the `corpus`. -/
theorem name_mem_unused_iff {name : String} :
    name ∈ (p.unusedFunctions sources).map UnusedFunction.name ↔
      p.Declares sources name.toList ∧ p.isExempt name.toList = false ∧
        name.toList ∉ p.calledNames sources ∧ count name.toList (corpus sources) ≤ 1 := by
  rw [List.mem_map, ← and_assoc, ← exists_mem_publicFunctions_iff]
  constructor
  · rintro ⟨r, hr, rfl⟩
    obtain ⟨d, hd, hcalled, hcount, rfl⟩ := mem_unusedFunctions.mp hr
    rw [String.toList_ofList]
    exact ⟨⟨d, hd, rfl⟩, hcalled, hcount⟩
  · rintro ⟨⟨d, hd, hname⟩, hcalled, hcount⟩
    rw [← hname] at hcalled hcount
    refine ⟨_, mem_unusedFunctions.mpr ⟨d, hd, hcalled, hcount, rfl⟩, ?_⟩
    rw [hname, String.ofList_toList]

/-- **More sources.** A declared name that is not reported for `sources` is not reported for
`sources'`, which are these and `more` in any order: calls and occurrences do not get fewer. -/
theorem not_unused_of_more {name : String} (hperm : (sources ++ more).Perm sources')
    (hdeclared : p.Declares sources name.toList)
    (h : name ∉ (p.unusedFunctions sources).map UnusedFunction.name) :
    name ∉ (p.unusedFunctions sources').map UnusedFunction.name := by
  intro hmem
  obtain ⟨-, hexempt, hcalled, hcount⟩ := name_mem_unused_iff.mp hmem
  have hsub : sources ⊆ sources' := fun s hs => hperm.subset (List.mem_append_left more hs)
  refine h (name_mem_unused_iff.mpr ⟨hdeclared, hexempt, fun hname => ?_, ?_⟩)
  · exact hcalled (calledNames_subset hsub hname)
  · exact Nat.le_trans (count_le_of_more hdeclared hperm) hcount

/-- A name that does not occur `Twice` in the `corpus` is declared once: lines that declare it are
the same line, and so are the declarations. -/
theorem declared_eq_of_not_twice {d d' : Declared} (hname : d'.name = d.name)
    (hnot : ¬ Twice d.name (corpus sources)) {l l' : NumberedLine}
    (hl : l ∈ numberedLines sources) (hl' : l' ∈ numberedLines sources)
    (hline : p.declared? l = some d) (hline' : p.declared? l' = some d') : d = d' := by
  obtain ⟨⟨g, hg, hcontent⟩, -⟩ := declared?_eq_some_iff_declaredOn?.mp hline
  obtain ⟨⟨g', hg', hcontent'⟩, -⟩ := declared?_eq_some_iff_declaredOn?.mp hline'
  have hon : d.name <:+: l.text := hcontent ▸ isInfix_of_declaredOn? hg
  have hon' : d.name <:+: l'.text := hname ▸ hcontent' ▸ isInfix_of_declaredOn? hg'
  rw [eq_of_not_twice hnot hl hl' hon hon'] at hline
  exact Option.some.inj (hline.symm.trans hline')

/-- What `unusedFunctions` reports for some sources is reported for them in another order. -/
theorem mem_unusedFunctions_of_perm (hperm : sources.Perm sources') {r : UnusedFunction}
    (hr : r ∈ p.unusedFunctions sources) : r ∈ p.unusedFunctions sources' := by
  obtain ⟨d, hd, hcalled, hcount, rfl⟩ := mem_unusedFunctions.mp hr
  obtain ⟨hdeclares, hexempt⟩ := exists_mem_publicFunctions_iff.mp ⟨d, hd, rfl⟩
  have hdeclares' := hdeclares.mono hperm.subset
  have hback : (sources' ++ []).Perm sources := by
    rw [List.append_nil]
    exact hperm.symm
  have hcount' : count d.name (corpus sources') ≤ 1 :=
    Nat.le_trans (count_le_of_more hdeclares' hback) hcount
  have honce : ¬ Twice d.name (corpus sources') := by
    rw [← two_le_count_iff hdeclares.ne_nil_and_lineFeed.1]
    omega
  -- The last declaration of the name there is the only one, so it is the one found here.
  obtain ⟨d', hd', hname⟩ := exists_mem_publicFunctions_iff.mpr ⟨hdeclares', hexempt⟩
  obtain ⟨l, hl, hline⟩ := exists_declared?_of_mem_publicFunctions hd
  obtain ⟨l', hl', hline'⟩ := exists_declared?_of_mem_publicFunctions hd'
  obtain rfl := declared_eq_of_not_twice hname honce (numberedLines_subset hperm.subset hl) hl'
    hline hline'
  exact mem_unusedFunctions.mpr
    ⟨d, hd', fun h => hcalled (calledNames_subset hperm.symm.subset h), hcount', rfl⟩

/-- **Sources in another order.** The same functions are reported by `unusedFunctions`, in the same
order. -/
theorem unusedFunctions_perm (hperm : sources.Perm sources') :
    p.unusedFunctions sources = p.unusedFunctions sources' := by
  have hordered : ∀ sources, (p.unusedFunctions sources).Pairwise UnusedFunction.Precedes :=
    fun sources => UnusedFunction.sorted_precedes (p.pairwise_unreferenced sources _)
  exact (hordered sources).eq_of_mem_iff (hordered sources') fun r =>
    ⟨mem_unusedFunctions_of_perm hperm, mem_unusedFunctions_of_perm hperm.symm⟩

end Profile

end Outline

/-! ### Go files -/

namespace Go

namespace CallIndex

variable {files more files' : List (String × Tree)} {key : String}

/-- The index of some `files`, which are taken up one after the other. -/
def ofFiles (files : List (String × Tree)) : CallIndex :=
  files.foldl (fun index f => index.add f.1 f.2) empty

/-- The exported functions that some `files` declare, in order. -/
def declaredIn (files : List (String × Tree)) : List UnusedFunction :=
  files.flatMap fun f => exportedBy f.1 f.2

/-- The `unusedFunctions` of Go sources are those of the files that `parse?` can read. A source that
it cannot read neither declares nor calls anything. -/
theorem unusedFunctions_eq (sources : List (String × List Char)) :
    unusedFunctions sources
      = (ofFiles (sources.filterMap fun s => (parse? s.2).map fun t => (s.1, t))).unused := by
  unfold unusedFunctions ofFiles
  rw [List.foldl_filterMap]
  congr 2
  funext index s
  obtain ⟨file, source⟩ := s
  dsimp only
  cases parse? source <;> rfl

/-- Taking up `files` one after the other takes up all they declare, the latest under each key
(`putLatest`), by induction on the files. -/
theorem exported_foldl_add (files : List (String × Tree)) (index : CallIndex) :
    (files.foldl (fun index f => index.add f.1 f.2) index).exported
      = (declaredIn files).foldl (putLatest UnusedFunction.name) index.exported := by
  induction files generalizing index with
  | nil => rfl
  | cons f files ih =>
    have hcons : declaredIn (f :: files) = exportedBy f.1 f.2 ++ declaredIn files :=
      List.flatMap_cons
    rw [List.foldl_cons, ih, hcons, List.foldl_append]
    rfl

/-- The index of `files` holds the last of the functions they declare under each key. -/
theorem exported_ofFiles (files : List (String × Tree)) :
    (ofFiles files).exported = latestOf UnusedFunction.name (declaredIn files) :=
  exported_foldl_add files empty

/-- Taking up `files` one after the other takes up all they call, beside what the `index` has, by
induction on the files. -/
theorem mem_called_foldl_add (files : List (String × Tree)) (index : CallIndex) :
    key ∈ (files.foldl (fun index f => index.add f.1 f.2) index).called ↔
      (∃ f ∈ files, key ∈ f.2.allCalledNames) ∨ key ∈ index.called := by
  induction files generalizing index with
  | nil => simp
  | cons f files ih =>
    rw [List.foldl_cons, ih, add, List.mem_append]
    simp only [List.mem_cons, exists_eq_or_imp]
    exact or_left_comm.trans or_assoc.symm

/-- What is called according to the index `ofFiles` is called in one of the files. -/
theorem mem_called_ofFiles :
    key ∈ (ofFiles files).called ↔ ∃ f ∈ files, key ∈ f.2.allCalledNames := by
  rw [ofFiles, mem_called_foldl_add]
  exact or_iff_left List.not_mem_nil

/-- The keys of the index `ofFiles` are those that the files declare. -/
theorem exists_mem_exported_iff : (∃ r ∈ (ofFiles files).exported, r.name = key) ↔
    key ∈ (declaredIn files).map UnusedFunction.name := by
  rw [exported_ofFiles, List.mem_map]
  constructor
  · rintro ⟨r, hr, hkey⟩
    exact ⟨r, mem_of_mem_latestOf hr, hkey⟩
  · rintro ⟨r, hr, rfl⟩
    exact exists_mem_latestOf UnusedFunction.name hr

/-- An index reports a function as `unused` when neither its key nor the last part of the key is
called. -/
theorem mem_unused {index : CallIndex} {r : UnusedFunction} : r ∈ index.unused ↔
    r ∈ index.exported ∧ r.name ∉ index.called ∧ lastSegment r.name ∉ index.called := by
  rw [unused, (UnusedFunction.sorted_perm _).mem_iff, List.mem_filter]
  simp

/-- **Which keys are reported** by the index `ofFiles`: those that the files declare and that are
called neither by themselves nor by their last part. -/
theorem key_mem_unused_iff : key ∈ (ofFiles files).unused.map UnusedFunction.name ↔
    key ∈ (declaredIn files).map UnusedFunction.name ∧
      key ∉ (ofFiles files).called ∧ lastSegment key ∉ (ofFiles files).called := by
  rw [← exists_mem_exported_iff, List.mem_map]
  constructor
  · rintro ⟨r, hr, rfl⟩
    obtain ⟨hexported, hcalled⟩ := mem_unused.mp hr
    exact ⟨⟨r, hexported, rfl⟩, hcalled⟩
  · rintro ⟨⟨r, hr, rfl⟩, hcalled⟩
    exact ⟨r, mem_unused.mpr ⟨hr, hcalled⟩, rfl⟩

theorem called_ofFiles_subset (hsub : files ⊆ files') :
    (ofFiles files).called ⊆ (ofFiles files').called := by
  intro name hname
  obtain ⟨f, hf, hname⟩ := mem_called_ofFiles.mp hname
  exact mem_called_ofFiles.mpr ⟨f, hsub hf, hname⟩

/-- **More files.** A declared `key` that is not reported for `files` is not reported for more
files: a call in one of `files` is still there. -/
theorem not_unused_of_more (hsub : files ⊆ files')
    (hdeclared : key ∈ (declaredIn files).map UnusedFunction.name)
    (h : key ∉ (ofFiles files).unused.map UnusedFunction.name) :
    key ∉ (ofFiles files').unused.map UnusedFunction.name := by
  intro hmem
  obtain ⟨-, hkey, hlast⟩ := key_mem_unused_iff.mp hmem
  have hcalled := called_ofFiles_subset hsub
  exact h (key_mem_unused_iff.mpr
    ⟨hdeclared, fun hname => hkey (hcalled hname), fun hname => hlast (hcalled hname)⟩)

theorem mem_called_perm (hperm : files.Perm files') :
    key ∈ (ofFiles files).called ↔ key ∈ (ofFiles files').called :=
  ⟨fun h => called_ofFiles_subset hperm.subset h,
    fun h => called_ofFiles_subset hperm.symm.subset h⟩

/-- **Files in another order.** The same keys are reported by the index `ofFiles`, though it may be
another declaration that is kept under a key. -/
theorem key_mem_unused_perm (hperm : files.Perm files') :
    key ∈ (ofFiles files).unused.map UnusedFunction.name ↔
      key ∈ (ofFiles files').unused.map UnusedFunction.name := by
  have hdeclared : ((declaredIn files).map UnusedFunction.name).Perm
      ((declaredIn files').map UnusedFunction.name) :=
    (hperm.flatMap_right _).map UnusedFunction.name
  rw [key_mem_unused_iff, key_mem_unused_iff, hdeclared.mem_iff, mem_called_perm hperm,
    mem_called_perm hperm]

/-- Without a key that is declared twice (`h`), the index holds all declarations, and its report is
in strict order by `Precedes`. -/
theorem exported_and_ordered (h : (declaredIn files).Pairwise fun a b => a.name ≠ b.name) :
    (ofFiles files).exported = declaredIn files ∧
      (ofFiles files).unused.Pairwise UnusedFunction.Precedes := by
  have hexported : (ofFiles files).exported = declaredIn files := by
    rw [exported_ofFiles]
    exact latestOf_eq_self h
  refine ⟨hexported, UnusedFunction.sorted_precedes (List.Pairwise.filter _ ?_)⟩
  rwa [hexported]

/-- Without a key that is declared twice (`hnodup`), the whole report is the same for files in
another order. -/
theorem unused_perm (hperm : files.Perm files')
    (hnodup : ((declaredIn files).map UnusedFunction.name).Nodup) :
    (ofFiles files).unused = (ofFiles files').unused := by
  have hdeclared : (declaredIn files).Perm (declaredIn files') := hperm.flatMap_right _
  have hkeys : (declaredIn files).Pairwise fun a b => a.name ≠ b.name := List.pairwise_map.mp hnodup
  obtain ⟨hexported, hordered⟩ := exported_and_ordered hkeys
  obtain ⟨hexported', hordered'⟩ := exported_and_ordered (hdeclared.pairwise hkeys Ne.symm)
  refine hordered.eq_of_mem_iff hordered' fun r => ?_
  rw [mem_unused, mem_unused, hexported, hexported', hdeclared.mem_iff, mem_called_perm hperm,
    mem_called_perm hperm]

/-! ### Keys of any declaration -/

theorem lastSegment_qualifiedName {t : Tree} (h : '.' ∉ t.declaredName.toList) :
    lastSegment t.qualifiedName = t.declaredName := by
  unfold lastSegment Tree.qualifiedName
  split
  · rw [String.append_assoc, String.toList_append, String.toList_append]
    exact (congrArg String.ofList (afterLast_append _ h)).trans String.ofList_toList
  · rw [afterLast_eq_self h, String.ofList_toList]

/-- Whether a declaration is taken up is told by the last part of its `key`, where declared names
have no dots (`hplain`). -/
theorem mem_declaredIn_iff (hplain : ∀ f ∈ files, ∀ d ∈ f.2.declarations,
      '.' ∉ d.declaredName.toList) :
    key ∈ (declaredIn files).map UnusedFunction.name ↔
      (∃ f ∈ files, ∃ d ∈ f.2.declarations, d.qualifiedName = key) ∧
        isEntryPoint (lastSegment key) = false ∧ isExported (lastSegment key) = true := by
  constructor
  · intro hkey
    obtain ⟨r, hr, rfl⟩ := List.mem_map.mp hkey
    obtain ⟨f, hf, hr⟩ := List.mem_flatMap.mp hr
    obtain ⟨d, hd, rfl⟩ := List.mem_map.mp hr
    obtain ⟨hd, hstatus⟩ := List.mem_filter.mp hd
    rw [lastSegment_qualifiedName (hplain f hf d hd)]
    exact ⟨⟨f, hf, d, hd, rfl⟩, by simpa using hstatus⟩
  · rintro ⟨⟨f, hf, d, hd, rfl⟩, hstatus⟩
    rw [lastSegment_qualifiedName (hplain f hf d hd)] at hstatus
    refine List.mem_map.mpr ⟨⟨f.1, d.qualifiedName, d.line⟩, List.mem_flatMap.mpr ⟨f, hf, ?_⟩, rfl⟩
    exact List.mem_map.mpr ⟨d, List.mem_filter.mpr ⟨hd, by simpa using hstatus⟩, rfl⟩

/-- Where declared names have no dots (`hplain`), no `key` of any declaration is reported that was
not before, be the function exported or not. -/
theorem not_unused_of_declaration (hsub : files ⊆ files')
    (hplain : ∀ f ∈ files', ∀ d ∈ f.2.declarations, '.' ∉ d.declaredName.toList)
    (hdeclared : ∃ f ∈ files, ∃ d ∈ f.2.declarations, d.qualifiedName = key)
    (h : key ∉ (ofFiles files).unused.map UnusedFunction.name) :
    key ∉ (ofFiles files').unused.map UnusedFunction.name := by
  intro hmem
  obtain ⟨-, hstatus⟩ := (mem_declaredIn_iff hplain).mp (key_mem_unused_iff.mp hmem).1
  have hkey := (mem_declaredIn_iff fun f hf => hplain f (hsub hf)).mpr ⟨hdeclared, hstatus⟩
  exact not_unused_of_more hsub hkey h hmem

end CallIndex

end Go

/-- **References are monotone and free of order.** Let `sources'` be `sources` and `more` in any
order, and the same for `files'` of Go, whose index `ofFiles` takes up one file after the other.
Then

* a name that a line of `sources` declares (`Declares`) and that is not reported for them, is not
  reported for `sources'`, whatever the profile;
* sources in another order give the same report, even if names are declared twice;
* a key that `files` declare (`declaredIn`) and that is not reported for them, is not reported for
  `files'`; where declared names have no dots, this holds of functions that are not exported too;
* files in another order report the same keys, and give the same report if no key is declared
  twice. -/
theorem references_monotone_and_orderFree :
    (∀ (p : Outline.Profile) (sources more sources' : List (String × List Char)),
      (sources ++ more).Perm sources' →
      ∀ name : String, p.Declares sources name.toList →
        name ∉ (p.unusedFunctions sources).map UnusedFunction.name →
        name ∉ (p.unusedFunctions sources').map UnusedFunction.name) ∧
    (∀ (p : Outline.Profile) (sources sources' : List (String × List Char)),
      sources.Perm sources' → p.unusedFunctions sources = p.unusedFunctions sources') ∧
    (∀ files more files' : List (String × Go.Tree), (files ++ more).Perm files' →
      ∀ key, key ∉ (Go.CallIndex.ofFiles files).unused.map UnusedFunction.name →
        key ∈ (Go.CallIndex.declaredIn files).map UnusedFunction.name ∨
          (∀ f ∈ files', ∀ d ∈ f.2.declarations, '.' ∉ d.declaredName.toList) ∧
            (∃ f ∈ files, ∃ d ∈ f.2.declarations, d.qualifiedName = key) →
        key ∉ (Go.CallIndex.ofFiles files').unused.map UnusedFunction.name) ∧
    ∀ files files' : List (String × Go.Tree), files.Perm files' →
      (∀ key, key ∈ (Go.CallIndex.ofFiles files).unused.map UnusedFunction.name ↔
        key ∈ (Go.CallIndex.ofFiles files').unused.map UnusedFunction.name) ∧
      (((Go.CallIndex.declaredIn files).map UnusedFunction.name).Nodup →
        (Go.CallIndex.ofFiles files).unused = (Go.CallIndex.ofFiles files').unused) := by
  refine ⟨?_, ?_, ?_, ?_⟩
  · intro p sources more sources' hperm name hdeclared
    exact Outline.Profile.not_unused_of_more hperm hdeclared
  · intro p sources sources' hperm
    exact Outline.Profile.unusedFunctions_perm hperm
  · intro files more files' hperm key h hdeclared
    have hsub : files ⊆ files' := fun f hf => hperm.subset (List.mem_append_left more hf)
    rcases hdeclared with hdeclared | ⟨hplain, hdeclared⟩
    · exact Go.CallIndex.not_unused_of_more hsub hdeclared h
    · exact Go.CallIndex.not_unused_of_declaration hsub hplain hdeclared h
  · intro files files' hperm
    exact ⟨fun key => Go.CallIndex.key_mem_unused_perm hperm, Go.CallIndex.unused_perm hperm⟩

namespace Sample

open Go.CallIndex

/-- A source that declares again what another one of `callers` declares and calls. -/
def library : String × List Char := ("lib.py", "def low():\n    pass\n".toList)

/-- A Go file that exports the function `Run` and calls it. -/
def runner : Go.Tree :=
  .node .file 1 [.node .functionDeclaration 1 [.node (.identifier "Run") 1 []],
    .node .functionDeclaration 2 [.node (.identifier "main") 2 [],
      .node .call 3 [.node (.identifier "Run") 3 []]]]

/-- A Go file that exports the function `Stop`, which nothing calls. -/
def stopper : Go.Tree :=
  .node .file 1 [.node .functionDeclaration 1 [.node (.identifier "Stop") 1 []]]

/-- What is used stays so when `library` or `stopper` is put in front, and the order of files is not
seen. -/
theorem used_with_file_in_front :
    "low" ∉ (Outline.python.unusedFunctions (library :: callers)).map UnusedFunction.name ∧
      Outline.python.unusedFunctions (callers ++ [library])
        = Outline.python.unusedFunctions (library :: callers) ∧
      "Run" ∉ (ofFiles [("b.go", stopper), ("a.go", runner)]).unused.map UnusedFunction.name ∧
      "main" ∉ (ofFiles [("b.go", stopper), ("a.go", runner)]).unused.map UnusedFunction.name ∧
      (ofFiles [("a.go", runner), ("b.go", stopper)]).unused
        = (ofFiles [("b.go", stopper), ("a.go", runner)]).unused := by
  obtain ⟨hmore, horder, hmoreGo, horderGo⟩ := references_monotone_and_orderFree
  have hpython : Language.profile? .python = some Outline.python := rfl
  have hcallers : (callers ++ [library]).Perm (library :: callers) := List.perm_append_comm
  have hfiles : [("a.go", runner), ("b.go", stopper)].Perm [("b.go", stopper), ("a.go", runner)] :=
    List.Perm.swap _ _ _
  refine ⟨?_, horder _ _ _ hcallers, ?_, ?_, (horderGo _ _ hfiles).2 (by decide)⟩
  · refine hmore _ _ _ _ hcallers "low" ⟨"def low():".toList, ?_, ?_⟩ ?_
    · decide +kernel
    · exact (Outline.Profile.capture?_eq_some_iff hpython).mp (by cbv)
    · intro hmem
      obtain ⟨-, -, -, hcount⟩ := Outline.Profile.name_mem_unused_iff.mp hmem
      exact absurd hcount (by decide +kernel)
  · refine hmoreGo [("a.go", runner)] [("b.go", stopper)] _ hfiles "Run" ?_ (.inl (by decide))
    intro hmem
    obtain ⟨-, hcalled, -⟩ := key_mem_unused_iff.mp hmem
    exact hcalled (by decide +kernel)
  · refine hmoreGo [("a.go", runner)] [("b.go", stopper)] _ hfiles "main" ?_ (.inr ⟨?_, ?_⟩)
    · intro hmem
      exact absurd (key_mem_unused_iff.mp hmem).1 (by decide)
    · decide
    · exact ⟨_, List.mem_singleton_self _, _, List.mem_cons_of_mem _ List.mem_cons_self, rfl⟩

end Sample

end CodeHealth
