import CodeHealth.Proofs.GoMod
import Mathlib.Data.List.Forall2

/-!
# The grammar of Go modules

A module is written in directives of their own, in blocks of entries, and in lines about something
else. The reader stays in step with this grammar: it is inside of a block exactly between the lines
of its brackets, and an entry is cut into its path and its version whatever white space and comment
stand around them.

* `GoMod.Requirement`, `GoMod.Requirement.Spelled` — what an entry requires and how it is written;
* `GoMod.Written` — the lines of a module and what they require;
* `GoMod.Requirement.Spelled.record?` — what is read off an entry;
* `GoMod.requirementsFrom_directive`, `GoMod.requirementsFrom_block` — the reader is out of blocks
  where the grammar is;
* `GoMod.requirements_written` — what is read is what is required.
-/

namespace CodeHealth.GoMod

open CodeHealth.Text

variable {front back line : List Char}

/-! ### The grammar of modules -/

/-- A path or a version: a `text` that has no white space and no comment in it. -/
structure IsToken (text : List Char) : Prop where
  /-- It is not empty. -/
  ne_nil : text ≠ []
  /-- No character of it is white space. -/
  ink : ∀ c ∈ text, isSpace c = false
  /-- It has no `commentMark` in it, although paths have slashes. -/
  not_commented : ¬ commentMark <:+: text

/-- A module that is required, and in which version: both are tokens (`IsToken`). -/
structure Requirement where
  /-- The path of the module. -/
  path : List Char
  /-- The version that is required. -/
  version : List Char
  /-- The path is a token. -/
  isToken_path : IsToken path
  /-- The version is a token. -/
  isToken_version : IsToken version

/-- An entry for `r`: the path and the version with white space between them, and behind them white
space or a comment that white space sets off. -/
inductive Requirement.Spelled (r : Requirement) : List Char → Prop where
  | plain {gap back : List Char} (hne : gap ≠ []) (hgap : isBlank gap = true)
      (hback : isBlank back = true) : r.Spelled (r.path ++ gap ++ r.version ++ back)
  | commented {gap space : List Char} (hne : gap ≠ []) (hgap : isBlank gap = true)
      (hspaced : space ≠ []) (hspace : isBlank space = true) (note : List Char) :
      r.Spelled (r.path ++ gap ++ r.version ++ space ++ commentMark ++ note)

/-- What is required by a `line` with the entry `r` on it: nothing, if it is marked as indirect. -/
def Requirement.on (r : Requirement) (line : List Char) : List Requirement :=
  if "// indirect".toList <:+: line then [] else [r]

/-- A line of a block, and what it requires: an entry (`Spelled`), or nothing on a blank line or a
comment. -/
inductive BlockLine : List Char → List Requirement → Prop where
  | entry {r : Requirement} {front entry : List Char} (hfront : isBlank front = true)
      (hentry : r.Spelled entry) : BlockLine (front ++ entry) (r.on (front ++ entry))
  | blank {line : List Char} (h : isBlank line = true) : BlockLine line []
  | comment {front : List Char} (hfront : isBlank front = true) (note : List Char) :
      BlockLine (front ++ commentMark ++ note) []

/-- The lines of a block, each a `BlockLine`, and what they require together. -/
inductive Body : List (List Char) → List Requirement → Prop where
  | nil : Body [] []
  | cons {line : List Char} {rest : List (List Char)} {now later : List Requirement}
      (hline : BlockLine line now) (hrest : Body rest later) : Body (line :: rest) (now ++ later)

/-- The lines of a module, and what they require: directives of their own, blocks with a `Body`, and
lines that are about something else. -/
inductive Written : List (List Char) → List Requirement → Prop where
  | nil : Written [] []
  | directive {r : Requirement} {front gap entry : List Char} {rest : List (List Char)}
      {later : List Requirement} (hfront : isBlank front = true) (hne : gap ≠ [])
      (hgap : isBlank gap = true) (hentry : r.Spelled entry) (hrest : Written rest later) :
      Written ((front ++ keyword ++ (gap ++ entry)) :: rest)
        (r.on (front ++ keyword ++ (gap ++ entry)) ++ later)
  | block {front gap back front' back' : List Char} {body rest : List (List Char)}
      {now later : List Requirement} (hfront : isBlank front = true) (hgap : isBlank gap = true)
      (hback : isBlank back = true) (hbody : Body body now) (hfront' : isBlank front' = true)
      (hback' : isBlank back' = true) (hrest : Written rest later) :
      Written ((front ++ keyword ++ (gap ++ ['('] ++ back)) ::
        (body ++ (front' ++ [')'] ++ back') :: rest)) (now ++ later)
  | other {line : List Char} {rest : List (List Char)} {later : List Requirement}
      (h : ¬ keyword <+: trim line) (hrest : Written rest later) : Written (line :: rest) later

/-- The dependency `d` that reports a requirement `r`. Its name is the last part of the path. -/
structure Requirement.Reports (r : Requirement) (d : Dependency) : Prop where
  /-- It is looked up by the path. -/
  package : d.package.toList = r.path
  /-- Its version is the one that is required. -/
  version : d.version.toList = r.version
  /-- It is looked up where Go modules are. -/
  ecosystem : d.ecosystem = .goProxy
  /-- Its name is one part of a path. -/
  slash_not_mem : '/' ∉ d.name.toList
  /-- Its name is the last part of the path. -/
  ends : r.path = d.name.toList ∨ ∃ front, r.path = front ++ '/' :: d.name.toList

/-! ### Entries of the grammar -/

namespace Requirement

variable {r : Requirement} {gap entry : List Char}

/-- The dependency that a requirement is read as by `record?`. -/
def dependency (r : Requirement) : Dependency :=
  ⟨String.ofList (afterLast '/' r.path), String.ofList r.path, String.ofList r.version, .goProxy⟩

/-- The `dependency` of a requirement is a report of it: `afterLast` gives the last part of the
path. -/
theorem reports_dependency (r : Requirement) : r.Reports r.dependency := by
  obtain ⟨hslash, hends⟩ := afterLast_cases '/' r.path
  refine ⟨String.toList_ofList, String.toList_ofList, rfl, ?_, ?_⟩
  · rw [dependency, String.toList_ofList]
    exact hslash
  · rw [dependency, String.toList_ofList]
    exact hends

/-- The path and the version are the `fields` of an entry, whatever white space is around them, as
long as there is some between them (`hne`). -/
theorem fields_entry (hne : gap ≠ []) (hgap : isBlank gap = true) (hfront : isBlank front = true)
    (hback : isBlank back = true) :
    fields (front ++ (r.path ++ gap ++ r.version ++ back)) = [r.path, r.version] := by
  rw [fields_blank_append hfront, fields_append_blank hback, fields_append_gap hne hgap,
    fields_of_ink r.isToken_path.ne_nil r.isToken_path.ink,
    fields_of_ink r.isToken_version.ne_nil r.isToken_version.ink]
  rfl

/-- There is no `commentMark` in an entry but the one of a comment behind it: neither the path nor
the version has one, and the gap keeps them apart (`hne`). -/
theorem not_commented_entry (hne : gap ≠ []) (hgap : isBlank gap = true)
    (hfront : isBlank front = true) (hback : isBlank back = true) :
    ¬ commentMark <:+: front ++ (r.path ++ gap ++ r.version ++ back) := by
  intro hoccurs
  have hstart := isInfix_of_blank_append (by decide) isTrimmed_commentMark.1 hfront hoccurs
  have hcore := isInfix_of_append_blank (by decide) isTrimmed_commentMark.2 hback hstart
  exact not_pair_isInfix_of_gap (by decide) (by decide) hne hgap r.isToken_path.not_commented
    r.isToken_version.not_commented hcore

/-- Without its comment, an entry for `r` has two `fields`, the path and the version. -/
theorem Spelled.fields_uncommented (h : r.Spelled entry) (hfront : isBlank front = true) :
    fields (uncommented (front ++ entry)) = [r.path, r.version] := by
  cases h with
  | plain hne hgap hback =>
    rw [uncommented_of_not_isInfix (not_commented_entry hne hgap hfront hback)]
    exact fields_entry hne hgap hfront hback
  | @commented gap space hne hgap hspaced hspace note =>
    have hall : front ++ (r.path ++ gap ++ r.version ++ space ++ commentMark ++ note)
        = front ++ (r.path ++ gap ++ r.version ++ space) ++ commentMark ++ note := by
      simp only [List.append_assoc]
    -- White space stands before the comment, so its slashes are the first ones.
    have hlast : (front ++ (r.path ++ gap ++ r.version ++ space)).getLast? ≠ some '/' := by
      rw [← List.append_assoc, List.getLast?_append_of_ne_nil _ hspaced]
      intro hslash
      exact not_mem_of_isBlank hspace (by decide) (List.mem_of_getLast? hslash)
    rw [hall, uncommented_append (not_commented_entry hne hgap hfront hspace) hlast]
    exact fields_entry hne hgap hfront hspace

/-- An entry for `r` is read by `record?` as its `dependency`, unless it is marked as indirect. The
mark is looked for in the whole line, comment included. -/
theorem Spelled.record? (h : r.Spelled entry) (hfront : isBlank front = true) :
    GoMod.record? (front ++ entry)
      = if indirectMark <:+: front ++ entry then none else some r.dependency := by
  rw [record?_eq, h.fields_uncommented hfront]
  rfl

/-- An entry for `r` is longer than a bracket, also when it is trimmed. -/
theorem Spelled.trim_ne (h : r.Spelled entry) (front : List Char) (c : Char) :
    trim (front ++ entry) ≠ [c] := by
  -- The path, the gap and the version are still there when the line is trimmed.
  obtain ⟨gap, rest, hgap, rfl⟩ : ∃ gap rest, gap ≠ [] ∧
      entry = r.path ++ gap ++ r.version ++ rest := by
    cases h with
    | @plain gap back hne hgap hback => exact ⟨gap, back, hne, rfl⟩
    | @commented gap space hne hgap hspaced hspace note =>
      exact ⟨gap, space ++ commentMark ++ note, hne, by simp only [List.append_assoc]⟩
  have hpath := r.isToken_path
  have hversion := r.isToken_version
  have htrimmed : IsTrimmed (r.path ++ gap ++ r.version) := by
    constructor
    · intro d hd
      rw [List.append_assoc, List.head?_append_of_ne_nil _ hpath.ne_nil] at hd
      exact hpath.ink d (List.mem_of_head? hd)
    · intro d hd
      rw [List.getLast?_append_of_ne_nil _ hversion.ne_nil] at hd
      exact hversion.ink d (List.mem_of_getLast? hd)
  have hoccurs : r.path ++ gap ++ r.version <:+: front ++ (r.path ++ gap ++ r.version ++ rest) :=
    ⟨front, rest, by simp only [List.append_assoc]⟩
  have hne : r.path ++ gap ++ r.version ≠ [] := by simp [hpath.ne_nil]
  intro hbracket
  have hlength := ((isInfix_trim_iff hne htrimmed).mpr hoccurs).length_le
  have hpos := List.length_pos_iff.mpr hpath.ne_nil
  have hpos' := List.length_pos_iff.mpr hgap
  rw [hbracket] at hlength
  simp only [List.length_append, List.length_singleton] at hlength
  omega

/-- The mark of an indirect requirement does not start in a text `front` without slashes. -/
theorem on_append (r : Requirement) (h : '/' ∉ front) (line : List Char) :
    r.on (front ++ line) = r.on line := by
  have hiff : indirectMark <:+: front ++ line ↔ indirectMark <:+: line :=
    ⟨isInfix_of_append_of_not_mem h, fun hoccurs => hoccurs.trans List.infix_append_right⟩
  unfold Requirement.on
  rw [toList_indirect]
  simp only [hiff]

/-- An entry is read by `record?` as what it requires (`on`). -/
theorem Spelled.toList_record? (h : r.Spelled entry) (hfront : isBlank front = true) :
    (GoMod.record? (front ++ entry)).toList = (r.on (front ++ entry)).map dependency := by
  unfold Requirement.on
  rw [h.record? hfront, toList_indirect]
  split <;> rfl

end Requirement

/-! ### Following the grammar -/

/-- A line of a block gives what it requires, and the block goes on: `turns` is false of it. -/
theorem BlockLine.reads {now : List Requirement} (h : BlockLine line now) :
    turns true line = false ∧ found true line = now.map Requirement.dependency := by
  have hopen : ∀ {line : List Char}, trim line ≠ [')'] → turns true line = false :=
    fun hne => beq_eq_false_iff_ne.mpr hne
  cases h with
  | entry hfront hentry => exact ⟨hopen (hentry.trim_ne _ ')'), hentry.toList_record? hfront⟩
  | blank hblank =>
    refine ⟨hopen ?_, ?_⟩
    · rw [trim_eq_nil_iff.mpr hblank]
      decide
    · rw [found, if_pos rfl, record?_of_isBlank hblank]
      rfl
  | @comment front hfront note =>
    have hslash : '/' ∉ front := not_mem_of_isBlank hfront (by decide)
    have hmark : ¬ commentMark <:+: front := fun hoccurs =>
      hslash (hoccurs.subset (List.mem_cons_self (a := '/')))
    -- Without its comment the line is blank.
    have hfields : fields (uncommented (front ++ commentMark ++ note)) = [] := by
      rw [uncommented_append hmark fun hlast => hslash (List.mem_of_getLast? hlast)]
      exact fields_of_isBlank hfront
    refine ⟨hopen (trim_ne_of_commentMark ⟨front, note, rfl⟩ ')'), ?_⟩
    rw [found, if_pos rfl, record?_of_fields hfields]
    rfl

/-- The lines of a `Body` give what they require, and the reader stays inside of the block (`true`),
by induction on the lines. -/
theorem requirementsFrom_body {body : List (List Char)} {now : List Requirement}
    (h : Body body now) (rest : List (List Char)) :
    requirementsFrom true (body ++ rest)
      = now.map Requirement.dependency ++ requirementsFrom true rest := by
  induction h with
  | nil => rfl
  | cons hline _ ih =>
    obtain ⟨hturns, hfound⟩ := hline.reads
    rw [List.cons_append, requirementsFrom_cons, hturns, hfound, Bool.xor_false, ih,
      List.map_append, List.append_assoc]

/-- A directive of its own gives what it requires (`on`), and no block starts, since an entry is not
a bracket alone. -/
theorem requirementsFrom_directive {r : Requirement} {gap entry : List Char}
    (hfront : isBlank front = true) (hne : gap ≠ []) (hgap : isBlank gap = true)
    (hentry : r.Spelled entry) (rest : List (List Char)) :
    requirementsFrom false ((front ++ keyword ++ (gap ++ entry)) :: rest)
      = (r.on (front ++ keyword ++ (gap ++ entry))).map Requirement.dependency ++
        requirementsFrom false rest := by
  have hturns : turns false (front ++ keyword ++ (gap ++ entry)) = false := by
    rw [turns_keyword hfront]
    exact beq_eq_false_iff_ne.mpr (hentry.trim_ne gap '(')
  -- The gap is white space, so that the word is not part of a longer one.
  have hhead : (gap ++ entry).head?.any isSpace = true := by
    obtain ⟨c, others, rfl⟩ := List.exists_cons_of_ne_nil hne
    exact isBlank_eq_true.mp hgap c List.mem_cons_self
  rw [requirementsFrom_cons, hturns, Bool.xor_false, found_keyword hfront, single,
    if_pos hhead, hentry.toList_record? hgap, r.on_append (slash_not_mem_keyword hfront)]

/-- A block gives what the lines of its `Body` require, and behind its last line the reader is out
of it. The two bracket lines have nothing but white space around their brackets. -/
theorem requirementsFrom_block {gap front' back' : List Char} {body : List (List Char)}
    {now : List Requirement} (hfront : isBlank front = true) (hgap : isBlank gap = true)
    (hback : isBlank back = true) (hbody : Body body now) (hfront' : isBlank front' = true)
    (hback' : isBlank back' = true) (rest : List (List Char)) :
    requirementsFrom false ((front ++ keyword ++ (gap ++ ['('] ++ back)) ::
        (body ++ (front' ++ [')'] ++ back') :: rest))
      = now.map Requirement.dependency ++ requirementsFrom false rest := by
  have hbracket : trim (gap ++ ['('] ++ back) = ['('] := by
    rw [trim_around hgap hback]
    decide
  have hopen : turns false (front ++ keyword ++ (gap ++ ['('] ++ back)) = true := by
    rw [turns_keyword hfront, hbracket]
    rfl
  have hclose : trim (front' ++ [')'] ++ back') = [')'] := by
    rw [trim_around hfront' hback']
    decide
  have hlast : turns true (front' ++ [')'] ++ back') = true := beq_iff_eq.mpr hclose
  have hnone : found true (front' ++ [')'] ++ back') = [] := by
    rw [found, if_pos rfl, ← record?_trim, hclose]
    decide
  -- The first line turns the reader in, the body keeps it there, and the last line turns it out.
  rw [requirementsFrom_cons, found_keyword hfront, single_of_bracket hbracket, hopen,
    Bool.false_xor, requirementsFrom_body hbody, requirementsFrom_cons, hnone, hlast,
    Bool.xor_self]
  rfl

/-- Lines that follow the grammar give what they require, by induction on `Written`, with one of the
lemmas above for each rule. -/
theorem requirementsFrom_written {lines : List (List Char)} {all : List Requirement}
    (h : Written lines all) :
    requirementsFrom false lines = all.map Requirement.dependency := by
  induction h with
  | nil => rfl
  | directive hfront hne hgap hentry _ ih =>
    rw [requirementsFrom_directive hfront hne hgap hentry, ih, List.map_append]
  | block hfront hgap hback hbody hfront' hback' _ ih =>
    rw [requirementsFrom_block hfront hgap hback hbody hfront' hback', ih, List.map_append]
  | other hother _ ih =>
    obtain ⟨hturns, hfound⟩ := reads_of_not_isPrefix hother
    rw [requirementsFrom_cons, hturns, hfound, Bool.xor_false, ih]
    rfl

/-- **What is read is what is required.** Of a module whose lines follow the grammar `Written`, one
dependency is reported (`Reports`) for each entry that is not marked as indirect, in order: its key
is the path, its name what follows the last slash of the path, and its version the one of the
entry. -/
theorem requirements_written {content : List Char} {all : List Requirement}
    (h : Written (content.splitOn '\n') all) :
    List.Forall₂ Requirement.Reports all (requirements content) := by
  rw [requirements_eq, requirementsFrom_written h, List.forall₂_map_right_iff]
  exact List.forall₂_same.mpr fun r _ => r.reports_dependency

end CodeHealth.GoMod

namespace CodeHealth.Sample

open Text GoMod

/-- A module with a directive, and a block with an indirect requirement, a comment and an entry. -/
def moduleText : List Char :=
  "module m\n\nrequire a v1\r\nrequire(\n\tb v2 // indirect\n// c v3\n d/e v4 // f\n)\n".toList

/-- `IsToken` by computation, for texts that are written out: no white space (`hink`), no
`commentMark`, and not empty. -/
theorem isToken_of_all {text : List Char} (hne : text ≠ [])
    (hink : text.all (fun c => isSpace c = false) = true) (hmark : ¬ commentMark <:+: text) :
    IsToken text :=
  ⟨hne, List.all_iff_forall_prop.mp hink, hmark⟩

/-- The requirement of the directive in `moduleText`. -/
def requiredA : Requirement := ⟨['a'], ['v', '1'],
  isToken_of_all (by decide) (by decide) (by decide),
  isToken_of_all (by decide) (by decide) (by decide)⟩

/-- The requirement in `moduleText` that is marked as indirect. -/
def requiredB : Requirement := ⟨['b'], ['v', '2'],
  isToken_of_all (by decide) (by decide) (by decide),
  isToken_of_all (by decide) (by decide) (by decide)⟩

/-- The last requirement in `moduleText`, whose path has a slash. -/
def requiredE : Requirement := ⟨['d', '/', 'e'], ['v', '4'],
  isToken_of_all (by decide) (by decide) (by decide),
  isToken_of_all (by decide) (by decide) (by decide)⟩

/-- The lines of `moduleText` follow the grammar, and require what is not marked as indirect. -/
theorem moduleText_written : Written (moduleText.splitOn '\n') [requiredA, requiredE] := by
  have hlines : moduleText.splitOn '\n' = ["module m".toList, [],
      [] ++ keyword ++ ([' '] ++ (requiredA.path ++ [' '] ++ requiredA.version ++ ['\r'])),
      [] ++ keyword ++ ([] ++ ['('] ++ []),
      ['\t'] ++ (requiredB.path ++ [' '] ++ requiredB.version ++ [' '] ++ commentMark ++
        " indirect".toList),
      [] ++ commentMark ++ " c v3".toList,
      [' '] ++ (requiredE.path ++ [' '] ++ requiredE.version ++ [' '] ++ commentMark ++
        " f".toList),
      [] ++ [')'] ++ [], []] := by
    decide +kernel
  have hspace : isBlank [' '] = true := by decide
  have hgap : [' '] ≠ [] := by decide
  have hbody := Body.cons
    (.entry (by decide : isBlank ['\t'] = true)
      (.commented (r := requiredB) hgap hspace hgap hspace " indirect".toList))
    (.cons (.comment (rfl : isBlank [] = true) " c v3".toList)
      (.cons (.entry hspace (.commented (r := requiredE) hgap hspace hgap hspace " f".toList))
        .nil))
  have hblock := Written.block (rfl : isBlank [] = true) (rfl : isBlank [] = true)
    (rfl : isBlank [] = true) hbody (rfl : isBlank [] = true) (rfl : isBlank [] = true)
    (.other (by decide +kernel : ¬ keyword <+: trim []) .nil)
  have hdirective := Written.directive (rfl : isBlank [] = true) hgap hspace
    (.plain (r := requiredA) hgap hspace (by decide : isBlank ['\r'] = true)) hblock
  rw [hlines]
  refine .other (by decide +kernel) (.other (by decide +kernel) ?_)
  unfold Requirement.on at hdirective
  rw [if_neg (by decide +kernel), if_pos (by decide +kernel), if_neg (by decide +kernel)]
    at hdirective
  exact hdirective

/-- The entry of the directive and the last one of the block of `moduleText` are reported. -/
theorem moduleText_reported : Written (moduleText.splitOn '\n') [requiredA, requiredE] ∧
    List.Forall₂ Requirement.Reports [requiredA, requiredE] (requirements moduleText) :=
  ⟨moduleText_written, requirements_written moduleText_written⟩

end CodeHealth.Sample
