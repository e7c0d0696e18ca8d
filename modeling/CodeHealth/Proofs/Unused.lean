import CodeHealth.Proofs.Declarations
import CodeHealth.Proofs.Keyed
import Mathlib.Data.List.Basic

/-!
# What it means to be unused

A public function is reported iff its name occurs in all the sources together once and nowhere else,
namely where it is declared.

* `Profile.DeclaredAt` — a record gives a line that declares the function it names;
* `Profile.twice_of_called` — a declared name that is called occurs twice;
* `Profile.twice_of_declared` — so does a name that two lines declare;
* `Profile.unused_iff_declared_and_occursOnce` — the exact meaning of the list of unused functions.
-/

namespace CodeHealth

open CodeHealth.Text

/-! ### The order of reports -/

namespace UnusedFunction

/-- The order of a report `a` before another `b`: by file, then by line, then by name. -/
def Precedes (a b : UnusedFunction) : Prop :=
  a.file < b.file ∨
    (a.file = b.file ∧ (a.line < b.line ∨ (a.line = b.line ∧ a.name < b.name)))

/-- The test `before` that reports are sorted by, in terms of the three fields. -/
theorem before_iff (a b : UnusedFunction) : a.before b = true ↔ a.file < b.file ∨
    (a.file = b.file ∧ (a.line < b.line ∨ (a.line = b.line ∧ ¬ b.name < a.name))) := by
  simp [before]

/-- `before` is transitive, as sorting needs it. -/
theorem before_trans (a b c : UnusedFunction) (hab : a.before b = true) (hbc : b.before c = true) :
    a.before c = true := by
  rw [before_iff] at *
  grind

/-- `before` compares any two records, as sorting needs it. -/
theorem before_total (a b : UnusedFunction) : (a.before b || b.before a) = true := by
  rw [Bool.or_eq_true, before_iff, before_iff]
  grind

/-- `sorted` keeps all records. -/
theorem sorted_perm (found : List UnusedFunction) : (sorted found).Perm found :=
  List.mergeSort_perm found before

/-- Records with different names have different names when they are `sorted`, as sorting only
changes their order. -/
theorem sorted_names {found : List UnusedFunction}
    (hnames : found.Pairwise fun a b => a.name ≠ b.name) :
    (sorted found).Pairwise fun a b => a.name ≠ b.name :=
  (sorted_perm found).symm.pairwise hnames fun h => Ne.symm h

/-- Reports of functions with different names (`hnames`) come in strict order when they are
`sorted`. -/
theorem sorted_precedes {found : List UnusedFunction}
    (hnames : found.Pairwise fun a b => a.name ≠ b.name) : (sorted found).Pairwise Precedes := by
  have hsorted : (sorted found).Pairwise fun a b => a.before b = true :=
    List.pairwise_mergeSort before_trans before_total found
  refine (hsorted.and (sorted_names hnames)).imp ?_
  rintro a b ⟨hbefore, hne⟩
  rw [before_iff] at hbefore
  unfold Precedes
  grind

end UnusedFunction

namespace Outline

/-! ### Lines and their numbers -/

/-- A line of a file with its number, as it is given in an `UnusedFunction`. -/
structure NumberedLine where
  /-- The file that the line is in. -/
  file : String
  /-- Its number, counted from one. -/
  number : Nat
  /-- The line itself. -/
  text : List Char

/-- The lines of some `sources`, those of each source numbered from one on. -/
def numberedLines (sources : List (String × List Char)) : List NumberedLine :=
  sources.flatMap fun s => (lines s.2).zipIdx 1 |>.map fun l => ⟨s.1, l.2, l.1⟩

/-- Without numbers, `numberedLines` are `allLines`. -/
theorem map_text_numberedLines (sources : List (String × List Char)) :
    (numberedLines sources).map NumberedLine.text = allLines sources := by
  unfold numberedLines allLines
  rw [List.map_flatMap]
  congr 1
  funext s
  rw [List.map_map]
  exact List.zipIdx_map_fst 1 (lines s.2)

/-- The text of a numbered line is one of `allLines`. -/
theorem text_mem_allLines {sources : List (String × List Char)} {l : NumberedLine}
    (hl : l ∈ numberedLines sources) : l.text ∈ allLines sources := by
  rw [← map_text_numberedLines]
  exact List.mem_map_of_mem hl

/-- A numbered line is a line of one of the `sources`, counted from one, with the file that the
source has for a label. -/
theorem mem_numberedLines {sources : List (String × List Char)} {l : NumberedLine} :
    l ∈ numberedLines sources ↔ ∃ source, (l.file, source) ∈ sources ∧ 1 ≤ l.number ∧
      (lines source)[l.number - 1]? = some l.text := by
  simp only [numberedLines, List.mem_flatMap, List.mem_map, Prod.exists]
  constructor
  · rintro ⟨file, source, hsource, text, number, hline, rfl⟩
    exact ⟨source, hsource, List.mk_mem_zipIdx_iff_le_and_getElem?_sub.mp hline⟩
  · rintro ⟨source, hsource, hline⟩
    exact ⟨l.file, source, hsource, l.text, l.number,
      List.mk_mem_zipIdx_iff_le_and_getElem?_sub.mpr hline, rfl⟩

namespace Profile

variable {language : Language} {p : Profile} {sources : List (String × List Char)}

/-- The public function that a line `l` declares, when it may be reported. -/
def declared? (p : Profile) (l : NumberedLine) : Option Declared :=
  (p.declaredOn? l.text).bind fun g =>
    if p.isExempt g.content then none else some ⟨g.content, l.file, l.number⟩

/-- `declaredFrom` goes through numbered lines and takes what is `declared?` on each, so that a
declaration depends on its own line alone. -/
theorem declaredFrom_eq_filterMap (p : Profile) (file : String) (number : Nat)
    (rest : List (List Char)) :
    p.declaredFrom file number rest = ((rest.zipIdx number).map fun l =>
      (⟨file, l.2, l.1⟩ : NumberedLine)).filterMap p.declared? := by
  induction rest generalizing number with
  | nil => rfl
  | cons line rest ih =>
    rw [declaredFrom, ih, List.zipIdx_cons, List.map_cons, List.filterMap_cons, declared?]
    cases p.declaredOn? line with
    | none => rfl
    | some g => by_cases hexempt : p.isExempt g.content = true <;> simp [hexempt]

/-! ### Declarations -/

/-- The `publicFunctions` of some sources are those `declared?` on their lines, the latest of each
name (`latestOf`). -/
theorem publicFunctions_eq (p : Profile) (sources : List (String × List Char)) :
    p.publicFunctions sources
      = latestOf Declared.name ((numberedLines sources).filterMap p.declared?) := by
  have hdeclared : (sources.flatMap fun s => p.declaredFrom s.1 1 (lines s.2))
      = (numberedLines sources).filterMap p.declared? := by
    unfold numberedLines
    rw [List.filterMap_flatMap]
    congr 1
    funext s
    exact p.declaredFrom_eq_filterMap s.1 1 (lines s.2)
  rw [← hdeclared]
  rfl

/-! ### Names in the sources -/

/-- A `line` that declares a function lies in the `corpus` of the sources, where the name
`StandsAlone`. -/
theorem exists_standsAlone {line : List Char} (hline : line ∈ allLines sources)
    {g : Pattern.Group} (hg : g.StandsAlone line) :
    ∃ front back, corpus sources = front ++ line ++ back ∧
      corpus sources = front ++ line.take g.position ++ g.content ++
        (line.drop (g.position + g.length) ++ back) ∧
      StandsAlone (front ++ line.take g.position) g.content
        (line.drop (g.position + g.length) ++ back) := by
  obtain ⟨ls, ms, hsplit⟩ := List.append_of_mem hline
  have hlaid := laid_corpus sources
  rw [hsplit] at hlaid
  obtain ⟨front, back, htext, hback, -, -⟩ := hlaid.split
  refine ⟨front, back, htext, ?_, hg.2.embed front hback⟩
  rw [htext]
  conv => lhs; rw [hg.1.split]
  simp

/-- The end of a text without the characters of a class `f` is its start. -/
theorem reverse_dropWhile_isPrefix (f : Char → Bool) (text : List Char) :
    (text.reverse.dropWhile f).reverse <+: text := by
  have hsuffix := List.dropWhile_suffix f (l := text.reverse)
  rwa [← List.reverse_prefix, List.reverse_reverse] at hsuffix

/-- `calledName` gives a piece of the `content`, and how many characters stand before it, which
tells the place of the name on its line. -/
theorem calledName_eq (content : List Char) : ∃ before after,
    content = before ++ (calledName content).2 ++ after ∧
      before.length = (calledName content).1 := by
  have hname : (calledName content).2 <+: content.drop (calledName content).1 :=
    (reverse_dropWhile_isPrefix isSpace _).trans (reverse_dropWhile_isPrefix (· == '(') _)
  obtain ⟨after, hafter⟩ := hname
  refine ⟨content.take (calledName content).1, after, ?_, ?_⟩
  · rw [List.append_assoc, hafter, List.take_append_drop]
  · exact List.length_take_of_le (List.takeWhile_prefix _).length_le

/-- **A call has a place of its own.** A name that `calledOn` gives for a line occurs there, and not
where the line declares a function. -/
theorem mem_calledOn {line name : List Char} (h : name ∈ p.calledOn line) :
    ∃ before after, line = before ++ name ++ after ∧
      ∀ g, p.declaredOn? line = some g → before.length ≠ g.position := by
  obtain ⟨pattern, -, hcalls⟩ := List.mem_flatMap.mp h
  obtain ⟨call, hcall, hname⟩ := List.mem_filterMap.mp hcalls
  have hon := Pattern.findAll_on hcall
  obtain ⟨before, after, hcontent, hlength⟩ := calledName_eq call.content
  -- A call without a name is dropped, and so is one at the place of the declared name.
  have hkept : (if (calledName call.content).2.isEmpty ||
      (p.declaredOn? line).map Pattern.Group.position
        == some (call.position + (calledName call.content).1) then none
    else some (calledName call.content).2) = some name := hname
  split at hkept
  · cases hkept
  · rename_i hother
    cases hkept
    refine ⟨line.take call.position ++ before,
      after ++ line.drop (call.position + call.length), ?_, ?_⟩
    · conv => lhs; rw [hon.split, hcontent]
      simp
    · intro g hg hposition
      refine hother (Bool.or_eq_true_iff.mpr (Or.inr ?_))
      have hle := hon.1
      rw [List.length_append, List.length_take_of_le (by omega), hlength] at hposition
      rw [hg, Option.map_some, hposition, beq_self_eq_true]

/-- The name that a line declares by `declaredOn?` is a piece of the line. -/
theorem isInfix_of_declaredOn? {line : List Char} {g : Pattern.Group}
    (hg : p.declaredOn? line = some g) : g.content <:+: line := by
  obtain ⟨found, hfound, hgroup, -⟩ := declaredOn?_eq_some_iff.mp hg
  have hon := Pattern.find?_on hfound g (List.mem_of_find?_eq_some hgroup)
  exact ⟨_, _, hon.split.symm⟩

/-- The name that `capture?` gives is a piece of the line. -/
theorem isInfix_of_capture? (h : language.profile? = some p) {line name : List Char}
    (hcapture : p.capture? line = some name) : name <:+: line := by
  obtain ⟨g, hg, rfl⟩ := (capture?_eq_some_iff h).mp hcapture
  exact isInfix_of_declaredOn? hg

/-- The name that `capture?` gives is not empty. -/
theorem ne_nil_of_capture? (h : language.profile? = some p) {line name : List Char}
    (hcapture : p.capture? line = some name) : name ≠ [] := by
  obtain ⟨g, hg, rfl⟩ := (capture?_eq_some_iff h).mp hcapture
  exact (declaredOn?_standsAlone h hg).2.nonempty

/-- **A declared name that is called occurs twice** in the `corpus`: where it is declared on `line`,
and where it is called. -/
theorem twice_of_called (h : language.profile? = some p) {line name : List Char}
    (hline : line ∈ allLines sources) (hcapture : p.capture? line = some name)
    (hcalled : name ∈ p.calledNames sources) : Twice name (corpus sources) := by
  obtain ⟨g, hg, rfl⟩ := (capture?_eq_some_iff h).mp hcapture
  have halone := declaredOn?_standsAlone h hg
  obtain ⟨calling, hcalling, hname⟩ : ∃ l ∈ allLines sources,
      g.content ∈ p.calledOn l := by
    obtain ⟨s, hs, hcalled⟩ := List.mem_flatMap.mp hcalled
    obtain ⟨l, hl, hname⟩ := List.mem_flatMap.mp hcalled
    exact ⟨l, List.mem_flatMap.mpr ⟨s, hs, hl⟩, hname⟩
  obtain ⟨before, after, hbefore, hplace⟩ := mem_calledOn hname
  obtain ⟨i, hi⟩ := List.getElem?_of_mem hline
  obtain ⟨j, hj⟩ := List.getElem?_of_mem hcalling
  by_cases hij : i = j
  · -- The call is on the line of the declaration, at another place.
    obtain rfl : line = calling := by simpa [← hij, hi] using hj
    obtain ⟨front, back, htext, hdeclared, hstands⟩ := exists_standsAlone hline halone
    have hcall : corpus sources = (front ++ before) ++ g.content ++ (after ++ back) := by
      rw [htext, hbefore]
      simp
    rw [hdeclared]
    refine hstands.twice (hdeclared.symm.trans hcall) fun hsame => ?_
    have hlength := congrArg List.length (List.append_cancel_left hsame)
    have hle := halone.1.1
    rw [List.length_take_of_le (by omega)] at hlength
    exact hplace g hg hlength
  · exact (laid_corpus sources).twice_of_ne hij hi hj (isInfix_of_capture? h hcapture)
      ⟨before, after, hbefore.symm⟩

/-- **A name that two lines declare occurs twice** in the `corpus`, once on each. Occurrences on
different lines do not overlap. -/
theorem twice_of_declared (h : language.profile? = some p) {i j : Nat} (hij : i ≠ j)
    {first second name : List Char}
    (hi : (allLines sources)[i]? = some first)
    (hj : (allLines sources)[j]? = some second)
    (hfirst : p.capture? first = some name) (hsecond : p.capture? second = some name) :
    Twice name (corpus sources) :=
  (laid_corpus sources).twice_of_ne hij hi hj (isInfix_of_capture? h hfirst)
    (isInfix_of_capture? h hsecond)

/-! ### The list of unused functions -/

/-- A line gives a function to report iff it declares one by `declaredOn?` whose name is not exempt.
File and number are those of the line. -/
theorem declared?_eq_some_iff_declaredOn? {l : NumberedLine} {d : Declared} :
    p.declared? l = some d ↔ (∃ g, p.declaredOn? l.text = some g ∧ g.content = d.name) ∧
      p.isExempt d.name = false ∧ d.file = l.file ∧ d.line = l.number := by
  constructor
  · intro hd
    obtain ⟨g, hg, hkept⟩ := Option.bind_eq_some_iff.mp hd
    split at hkept
    · cases hkept
    · rename_i hexempt
      cases hkept
      exact ⟨⟨g, hg, rfl⟩, by simpa using hexempt, rfl, rfl⟩
  · rintro ⟨⟨g, hg, hname⟩, hexempt, hfile, hline⟩
    simp [declared?, hg, hname, hexempt, ← hfile, ← hline]

/-- A line gives a function to report iff `capture?` gives a name on it that is not exempt. This is
for the profiles of languages (`h`), whose patterns find what `capture?` tells. -/
theorem declared?_eq_some_iff (h : language.profile? = some p) {l : NumberedLine} {d : Declared} :
    p.declared? l = some d ↔ p.capture? l.text = some d.name ∧ p.isExempt d.name = false ∧
      d.file = l.file ∧ d.line = l.number := by
  rw [capture?_eq_some_iff h]
  exact declared?_eq_some_iff_declaredOn?

/-- A function is reported when no call names it and its name is counted at most once in the
`corpus`. -/
theorem mem_unusedFunctions {r : UnusedFunction} : r ∈ p.unusedFunctions sources ↔
    ∃ d ∈ p.publicFunctions sources, d.name ∉ p.calledNames sources ∧
      count d.name (corpus sources) ≤ 1 ∧ r = ⟨d.file, String.ofList d.name, d.line⟩ := by
  show r ∈ UnusedFunction.sorted _ ↔ _
  rw [(UnusedFunction.sorted_perm _).mem_iff, List.mem_map]
  constructor
  · rintro ⟨d, hd, rfl⟩
    obtain ⟨hd, hkept⟩ := List.mem_filter.mp hd
    exact ⟨d, hd, by simpa using (Bool.and_eq_true_iff.mp hkept).1,
      by simpa using (Bool.and_eq_true_iff.mp hkept).2, rfl⟩
  · rintro ⟨d, hd, hcalled, hcount, rfl⟩
    exact ⟨d, List.mem_filter.mpr ⟨hd, by simp [hcalled, hcount]⟩, rfl⟩

/-- A `name` that does not occur `Twice` in the `corpus` is on one line: two lines with the name are
the same line of the same source. -/
theorem eq_of_not_twice {name : List Char} (hnot : ¬ Twice name (corpus sources))
    {l l' : NumberedLine} (hl : l ∈ numberedLines sources) (hl' : l' ∈ numberedLines sources)
    (hname : name <:+: l.text) (hname' : name <:+: l'.text) : l = l' := by
  obtain ⟨i, hi⟩ := List.getElem?_of_mem hl
  obtain ⟨j, hj⟩ := List.getElem?_of_mem hl'
  have hline : (allLines sources)[i]? = some l.text := by
    rw [← map_text_numberedLines, List.getElem?_map, hi, Option.map_some]
  have hline' : (allLines sources)[j]? = some l'.text := by
    rw [← map_text_numberedLines, List.getElem?_map, hj, Option.map_some]
  by_cases hij : i = j
  · rw [hij, hj] at hi
    exact (Option.some.inj hi).symm
  · exact absurd ((laid_corpus sources).twice_of_ne hij hline hline' hname hname') hnot

/-- A `name` that `OccursOnce` in the `corpus` is declared on one line, so that there is no choice
of what to report. -/
theorem eq_of_occursOnce (h : language.profile? = some p) {name : List Char}
    (honce : OccursOnce name (corpus sources)) {l l' : NumberedLine}
    (hl : l ∈ numberedLines sources) (hl' : l' ∈ numberedLines sources)
    (hcapture : p.capture? l.text = some name) (hcapture' : p.capture? l'.text = some name) :
    l = l' :=
  eq_of_not_twice (honce.not_twice (ne_nil_of_capture? h hcapture)) hl hl'
    (isInfix_of_capture? h hcapture) (isInfix_of_capture? h hcapture')

theorem exists_declared?_of_mem_publicFunctions {d : Declared}
    (hd : d ∈ p.publicFunctions sources) : ∃ l ∈ numberedLines sources, p.declared? l = some d := by
  rw [publicFunctions_eq] at hd
  exact List.mem_filterMap.mp (mem_of_mem_latestOf hd)

/-- A public function comes from a line on which `capture?` gives its name, and the name is not
exempt. -/
theorem exists_line_of_mem_publicFunctions (h : language.profile? = some p) {d : Declared}
    (hd : d ∈ p.publicFunctions sources) : ∃ l ∈ numberedLines sources,
      p.capture? l.text = some d.name ∧ p.isExempt d.name = false ∧
        d.file = l.file ∧ d.line = l.number := by
  obtain ⟨l, hl, hdeclared⟩ := exists_declared?_of_mem_publicFunctions hd
  exact ⟨l, hl, (declared?_eq_some_iff h).mp hdeclared⟩

/-- A `name` that `OccursOnce` is that of a public function, on the line where `capture?` gives
it. -/
theorem mem_publicFunctions_of_occursOnce (h : language.profile? = some p) {l : NumberedLine}
    (hl : l ∈ numberedLines sources) {name : List Char} (hcapture : p.capture? l.text = some name)
    (hexempt : p.isExempt name = false) (honce : OccursOnce name (corpus sources)) :
    ⟨name, l.file, l.number⟩ ∈ p.publicFunctions sources := by
  have hmem : (⟨name, l.file, l.number⟩ : Declared)
      ∈ (numberedLines sources).filterMap p.declared? :=
    List.mem_filterMap.mpr
      ⟨l, hl, (declared?_eq_some_iff h).mpr ⟨hcapture, hexempt, rfl, rfl⟩⟩
  -- The last line that declares the name is the only one.
  obtain ⟨d, hd, hname⟩ := exists_mem_latestOf Declared.name hmem
  rw [← publicFunctions_eq] at hd
  obtain ⟨l', hl', hcapture', -, hfile, hnumber⟩ := exists_line_of_mem_publicFunctions h hd
  rw [hname] at hcapture'
  obtain rfl := eq_of_occursOnce h honce hl hl' hcapture hcapture'
  rw [← hfile, ← hnumber, ← show d.name = name from hname]
  exact hd

/-- For a `name` that `capture?` gives on some line, the `count` decides whether it `OccursOnce`. -/
theorem occursOnce_iff_count (h : language.profile? = some p) {line name : List Char}
    (hline : line ∈ allLines sources) (hcapture : p.capture? line = some name) :
    OccursOnce name (corpus sources) ↔ count name (corpus sources) ≤ 1 := by
  obtain ⟨g, hg, rfl⟩ := (capture?_eq_some_iff h).mp hcapture
  obtain ⟨front, back, -, hdeclared, hstands⟩ :=
    exists_standsAlone hline (declaredOn?_standsAlone h hg)
  rw [hdeclared]
  exact hstands.occursOnce_iff

/-- The record `r` gives a source and the number of a line in it on which `capture?` gives its
name. -/
def DeclaredAt (p : Profile) (sources : List (String × List Char)) (r : UnusedFunction) : Prop :=
  ∃ source line, (r.file, source) ∈ sources ∧ 1 ≤ r.line ∧
    (lines source)[r.line - 1]? = some line ∧ p.capture? line = some r.name.toList

/-- `DeclaredAt` in terms of `numberedLines`, in which the lemmas on public functions are stated. -/
theorem declaredAt_iff {r : UnusedFunction} : p.DeclaredAt sources r ↔
    ∃ l ∈ numberedLines sources, l.file = r.file ∧ l.number = r.line ∧
      p.capture? l.text = some r.name.toList := by
  constructor
  · rintro ⟨source, line, hsource, hle, hline, hcapture⟩
    exact ⟨⟨r.file, r.line, line⟩, mem_numberedLines.mpr ⟨source, hsource, hle, hline⟩, rfl, rfl,
      hcapture⟩
  · rintro ⟨l, hl, hfile, hnumber, hcapture⟩
    obtain ⟨source, hsource, hle, hline⟩ := mem_numberedLines.mp hl
    rw [hfile] at hsource
    rw [hnumber] at hle hline
    exact ⟨source, l.text, hsource, hle, hline, hcapture⟩

/-- **A function is unused iff its name occurs once in all the sources**, where it is declared
(`DeclaredAt`). -/
theorem mem_unusedFunctions_iff_occursOnce (h : language.profile? = some p) {r : UnusedFunction} :
    r ∈ p.unusedFunctions sources ↔ p.DeclaredAt sources r ∧
      p.isExempt r.name.toList = false ∧ OccursOnce r.name.toList (corpus sources) := by
  rw [mem_unusedFunctions, declaredAt_iff]
  constructor
  · rintro ⟨d, hd, -, hcount, rfl⟩
    obtain ⟨l, hl, hcapture, hexempt, hfile, hnumber⟩ := exists_line_of_mem_publicFunctions h hd
    have honce := (occursOnce_iff_count h (text_mem_allLines hl) hcapture).mpr hcount
    rw [String.toList_ofList]
    exact ⟨⟨l, hl, hfile.symm, hnumber.symm, hcapture⟩, hexempt, honce⟩
  · rintro ⟨⟨l, hl, hfile, hnumber, hcapture⟩, hexempt, honce⟩
    -- A call anywhere would be a second occurrence.
    have hcalled : r.name.toList ∉ p.calledNames sources := fun hcalled =>
      honce.not_twice (ne_nil_of_capture? h hcapture)
        (twice_of_called h (text_mem_allLines hl) hcapture hcalled)
    have hcount := (occursOnce_iff_count h (text_mem_allLines hl) hcapture).mp honce
    refine ⟨_, mem_publicFunctions_of_occursOnce h hl hcapture hexempt honce, hcalled, hcount, ?_⟩
    rw [String.ofList_toList, hfile, hnumber]

/-- A function that is reported is on one of the lines of the source it names, so that its `line` is
at most their number. -/
theorem line_le_of_mem_unusedFunctions (h : language.profile? = some p) {r : UnusedFunction}
    (hr : r ∈ p.unusedFunctions sources) :
    ∃ source, (r.file, source) ∈ sources ∧ 1 ≤ r.line ∧ r.line ≤ (lines source).length := by
  obtain ⟨⟨source, line, hsource, hone, hline, -⟩, -⟩ :=
    (mem_unusedFunctions_iff_occursOnce h).mp hr
  obtain ⟨hlt, -⟩ := List.getElem?_eq_some_iff.mp hline
  exact ⟨source, hsource, hone, by omega⟩

/-- The functions reported, before they are sorted, have different names, whichever of the
`publicFunctions` are kept. -/
theorem pairwise_unreferenced (p : Profile) (sources : List (String × List Char))
    (keep : Declared → Bool) :
    (((p.publicFunctions sources).filter keep).map fun d =>
      (⟨d.file, String.ofList d.name, d.line⟩ : UnusedFunction)).Pairwise
        fun a b => a.name ≠ b.name := by
  have hpublic : (p.publicFunctions sources).Pairwise fun a b => a.name ≠ b.name := by
    rw [publicFunctions_eq]
    exact pairwise_latestOf _ _
  refine List.pairwise_map.mpr ((hpublic.filter keep).imp fun hne heq => hne ?_)
  exact String.ofList_injective heq

/-- **The exact meaning of an unused function.** For every list of `sources`, in every language with
a profile `p`:

* a record is given iff it names a function that its line declares (`DeclaredAt`), that is not
  exempt, and whose name `OccursOnce` in the `corpus`;
* the records come in strict order (`Precedes`), and no name is reported twice;
* a name called on a line (`calledOn`) occurs there at another place than the declaration of the
  line;
* a declared name that is called is also counted twice or more in the `corpus`;
* a name that two lines declare is not reported. -/
theorem unused_iff_declared_and_occursOnce (h : language.profile? = some p)
    (sources : List (String × List Char)) :
    (∀ r, r ∈ p.unusedFunctions sources ↔ p.DeclaredAt sources r ∧
      p.isExempt r.name.toList = false ∧ OccursOnce r.name.toList (corpus sources)) ∧
    (p.unusedFunctions sources).Pairwise UnusedFunction.Precedes ∧
    ((p.unusedFunctions sources).map UnusedFunction.name).Nodup ∧
    (∀ line name, name ∈ p.calledOn line → ∃ before after, line = before ++ name ++ after ∧
      ∀ g, p.declaredOn? line = some g → before.length ≠ g.position) ∧
    (∀ r, p.DeclaredAt sources r → r.name.toList ∈ p.calledNames sources →
      2 ≤ count r.name.toList (corpus sources)) ∧
    ∀ (i j : Nat) (first second name : List Char), i ≠ j →
      (allLines sources)[i]? = some first →
      (allLines sources)[j]? = some second →
      p.capture? first = some name → p.capture? second = some name →
      ∀ r ∈ p.unusedFunctions sources, r.name.toList ≠ name := by
  refine ⟨fun r => mem_unusedFunctions_iff_occursOnce h, ?_, ?_, ?_, ?_, ?_⟩
  · exact UnusedFunction.sorted_precedes (p.pairwise_unreferenced sources _)
  · exact List.pairwise_map.mpr
      (UnusedFunction.sorted_names (p.pairwise_unreferenced sources _))
  · exact fun line name => mem_calledOn
  · intro r hdeclared hcalled
    obtain ⟨l, hl, -, -, hcapture⟩ := declaredAt_iff.mp hdeclared
    rw [two_le_count_iff (ne_nil_of_capture? h hcapture)]
    exact twice_of_called h (text_mem_allLines hl) hcapture hcalled
  · rintro i j first second name hij hi hj hfirst hsecond r hr rfl
    obtain ⟨-, -, honce⟩ := (mem_unusedFunctions_iff_occursOnce h).mp hr
    exact honce.not_twice (ne_nil_of_capture? h hfirst)
      (twice_of_declared h hij hi hj hfirst hsecond)

end Profile

end Outline

namespace Sample

open Outline

/-- A function `top` that nothing calls, and one, `low`, that it calls. -/
def callers : List (String × List Char) :=
  [("app.py", "def top():\n    low()\n\ndef low():\n    pass\n".toList)]

/-- Of the two functions of `callers` the first is reported, and the other one is not. -/
theorem top_unused_low_used :
    (⟨"app.py", "top", 1⟩ : UnusedFunction) ∈ python.unusedFunctions callers ∧
      ∀ r ∈ python.unusedFunctions callers, r.name ≠ "low" := by
  have hprofile : Language.profile? .python = some python := rfl
  obtain ⟨hmeaning, -⟩ := Profile.unused_iff_declared_and_occursOnce hprofile callers
  constructor
  · rw [hmeaning]
    refine ⟨⟨_, "def top():".toList, List.mem_singleton_self _, Nat.le_refl _, ?_, ?_⟩, ?_, ?_⟩
    · decide +kernel
    · cbv
    · decide +kernel
    · decide +kernel
  · intro r hr hname
    obtain ⟨-, -, honce⟩ := (hmeaning r).mp hr
    rw [hname] at honce
    revert honce
    decide +kernel

end Sample

end CodeHealth
