import CodeHealth.Dependency.Manifest.GoMod
import CodeHealth.Proofs.Text

/-!
# Reading the requirements of a Go module

The lines of a module are read one by one, inside of a block of requirements or not. What a line
gives, and whether it starts or ends a block, is said once by `found` and `turns`; what is read off
all lines follows from that line by line.

* `GoMod.record?_trim` — white space around an entry does not matter;
* `GoMod.requirementsFrom_cons` — what one line does;
* `GoMod.found_keyword`, `GoMod.turns_keyword`, `GoMod.reads_of_not_isPrefix` — a line with the word
  at its start, and one without it;
* `GoMod.requirements_eq` — a module is read off the pieces between its line feeds.
-/

namespace CodeHealth.GoMod

open CodeHealth.Text

variable {text front back line after : List Char} {inside : Bool}

/-! ### Entries -/

/-- What a comment starts with: two slashes. -/
def commentMark : List Char := ['/', '/']

/-- An entry without its comment: what stands before the first `commentMark`. -/
def uncommented (entry : List Char) : List Char := (splitOn commentMark entry).headD []

/-- The dependency that the first two fields of an entry tell, as `record?` reads them: its module
path, named by the last element, and its version. -/
def ofFields? : List (List Char) → Option Dependency
  | path :: version :: _ =>
    some ⟨String.ofList (afterLast '/' path), String.ofList path, String.ofList version, .goProxy⟩
  | _ => none

/-- **What an entry gives**: nothing if it has the `indirectMark`, and else what the fields of its
`uncommented` part tell (`ofFields?`). The lemmas on entries go by this form. -/
theorem record?_eq (entry : List Char) : record? entry =
    if indirectMark <:+: entry then none else ofFields? (fields (uncommented entry)) := by
  have hmark : occursIn indirectMark entry = true ↔ indirectMark <:+: entry := occursIn_iff_isInfix
  unfold record?
  by_cases hindirect : indirectMark <:+: entry
  · rw [if_pos (hmark.mpr hindirect), if_pos hindirect]
  · rw [if_neg (mt hmark.mp hindirect), if_neg hindirect]
    rfl

/-- `uncommented` leaves a text without a `commentMark` as it is. -/
theorem uncommented_of_not_isInfix (h : ¬ commentMark <:+: text) : uncommented text = text := by
  rw [uncommented, splitOn_of_not_isInfix h]
  rfl

/-- A comment starts at the first two slashes: `front` has none of them, nor a single one at its end
that would be the first of the two. -/
theorem uncommented_append (h : ¬ commentMark <:+: front) (hlast : front.getLast? ≠ some '/')
    (note : List Char) : uncommented (front ++ commentMark ++ note) = front := by
  have hfirst : ¬ commentMark <:+: front ++ commentMark.dropLast := by
    show ¬ ['/', '/'] <:+: front ++ ['/']
    rw [pair_isInfix_append_iff]
    rintro (hoccurs | hoccurs | ⟨hslash, -⟩)
    · exact h hoccurs
    · exact absurd hoccurs (by decide)
    · exact hlast hslash
  rw [uncommented, splitOn_append (by decide) hfirst]
  rfl

/-- The `commentMark` has no white space at its ends, so that white space around a text does not
touch it. -/
theorem isTrimmed_commentMark : IsTrimmed commentMark := by
  constructor <;> intro c hc <;> obtain rfl := Option.some.inj hc <;> decide

/-- A text with a `commentMark` in it is longer than a bracket, so a commented line is never a
bracket alone. -/
theorem trim_ne_of_commentMark (h : commentMark <:+: text) (c : Char) : trim text ≠ [c] := by
  have hlength := ((isInfix_trim_iff (by decide) isTrimmed_commentMark).mpr h).length_le
  intro htrim
  rw [htrim] at hlength
  simp [commentMark] at hlength

theorem toList_indirect : "// indirect".toList = indirectMark := rfl

theorem isTrimmed_indirectMark : IsTrimmed indirectMark := by
  constructor <;> intro c hc <;> obtain rfl := Option.some.inj hc <;> decide

/-- White space around an entry changes none of its `fields`, whether it has a comment or not.
Behind a comment the white space is cut off together with it. -/
theorem fields_uncommented_around (hfront : isBlank front = true) (hback : isBlank back = true)
    (text : List Char) :
    fields (uncommented (front ++ text ++ back)) = fields (uncommented text) := by
  by_cases hmark : commentMark <:+: text
  · -- The comment starts at the same place, and takes the white space behind it.
    obtain ⟨left, right, rfl, hleft⟩ := exists_first (by decide) hmark
    have hfirst : ¬ commentMark <:+: front ++ left ++ commentMark.dropLast := by
      intro hoccurs
      rw [List.append_assoc] at hoccurs
      exact hleft (isInfix_of_blank_append (by decide) isTrimmed_commentMark.1 hfront hoccurs)
    have hall : front ++ (left ++ commentMark ++ right) ++ back
        = front ++ left ++ commentMark ++ (right ++ back) := by
      simp only [List.append_assoc]
    rw [hall, uncommented, uncommented, splitOn_append (by decide) hfirst,
      splitOn_append (by decide) hleft]
    exact fields_blank_append hfront left
  · have hnone : ¬ commentMark <:+: front ++ text ++ back := by
      intro hoccurs
      have hstart := isInfix_of_append_blank (by decide) isTrimmed_commentMark.2 hback hoccurs
      exact hmark (isInfix_of_blank_append (by decide) isTrimmed_commentMark.1 hfront hstart)
    rw [uncommented_of_not_isInfix hnone, uncommented_of_not_isInfix hmark,
      fields_append_blank hback, fields_blank_append hfront]

/-- White space around an entry does not matter to `record?`. -/
theorem record?_trim (text : List Char) : record? (trim text) = record? text := by
  obtain ⟨front, back, hfront, hback, htext⟩ := exists_trim text
  have hfields := fields_uncommented_around hfront hback (trim text)
  rw [← htext] at hfields
  have hindirect : indirectMark <:+: trim text ↔ indirectMark <:+: text :=
    isInfix_trim_iff (by decide) isTrimmed_indirectMark
  rw [record?_eq, record?_eq, hfields]
  simp only [hindirect]

theorem record?_of_fields (h : fields (uncommented text) = []) : record? text = none := by
  rw [record?_eq, h]
  split <;> rfl

theorem record?_of_isBlank (h : isBlank text = true) : record? text = none := by
  have hmark : ¬ commentMark <:+: text := fun hoccurs =>
    not_mem_of_isBlank h (by decide) (hoccurs.subset (List.mem_cons_self (a := '/')))
  refine record?_of_fields ?_
  rw [uncommented_of_not_isInfix hmark]
  exact fields_of_isBlank h

/-! ### One line -/

/-- The word `require` that a directive starts with, as a list of characters. -/
def keyword : List Char := ['r', 'e', 'q', 'u', 'i', 'r', 'e']

theorem toList_require : "require".toList = keyword := rfl

/-- Whether a line starts a block: a bracket stands behind the `keyword`, and nothing else. -/
def opensBlock (line : List Char) : Bool :=
  (stripStart keyword (trim line)).any fun after => trim after == ['(']

/-- Whether a line ends a block: it is a bracket when it is trimmed (`trim`). -/
def closesBlock (line : List Char) : Bool := trim line == [')']

/-- Whether a line starts or ends a block, read `inside` of a block or not. -/
def turns (inside : Bool) (line : List Char) : Bool :=
  if inside then closesBlock line else opensBlock line

/-- The requirement of a directive on one line, given what follows the `keyword`: an entry behind
white space. -/
def single (after : List Char) : Option Dependency :=
  if after.head?.any isSpace then record? after else none

/-- The requirements on a line, read `inside` of a block or not. A bracket alone is none. -/
def found (inside : Bool) (line : List Char) : List Dependency :=
  if inside then (record? line).toList
  else ((stripStart keyword (trim line)).bind single).toList

/-- Whether a block is open after some lines, where one is open before them or not (`inside`). -/
def insideAfter (inside : Bool) (lines : List (List Char)) : Bool :=
  lines.foldl (fun inside line => inside ^^ turns inside line) inside

/-- A line without the `keyword` at its start is no directive of requirements. -/
theorem directive_of_none (h : stripStart keyword line = none) : directive line = .other := by
  rw [directive, toList_require, h]

/-- A line with the `keyword` is told by what comes `after` it: a bracket, an entry behind white
space, or something else. -/
theorem directive_of_some (h : stripStart keyword line = some after) : directive line =
    if trim after = ['('] then .block
    else if after.head?.any isSpace then .require (record? after) else .other := by
  rw [directive, toList_require, h]
  simp only [beq_iff_eq, record?_trim]

theorem single_of_bracket (h : trim after = ['(']) : single after = none := by
  have hnone : record? after = none := by
    rw [← record?_trim, h]
    decide
  rw [single, hnone, ite_self]

/-- **One line.** It gives what is `found` on it, and the rest is read inside of a block or not, as
the line `turns`. Everything about modules follows from this equation by induction on lines. -/
theorem requirementsFrom_cons (inside : Bool) (line : List Char) (rest : List (List Char)) :
    requirementsFrom inside (line :: rest)
      = found inside line ++ requirementsFrom (inside ^^ turns inside line) rest := by
  -- Inside of a block only a closing bracket turns; outside the word decides, and what comes after
  -- it.
  cases inside with
  | true =>
    have hfound : found true line = (record? (trim line)).toList := by
      rw [record?_trim]
      rfl
    rw [requirementsFrom, hfound]
    by_cases hclose : trim line = [')']
    · have hturns : turns true line = true := beq_iff_eq.mpr hclose
      have hnone : record? [')'] = none := by decide
      simp [hclose, hturns, hnone]
    · have hturns : turns true line = false := beq_eq_false_iff_ne.mpr hclose
      simp [hclose, hturns]
  | false =>
    rw [requirementsFrom]
    cases hstrip : stripStart keyword (trim line) with
    | none =>
      have hturns : turns false line = false := by simp [turns, opensBlock, hstrip]
      simp [directive_of_none hstrip, found, hturns, hstrip]
    | some after =>
      have hturns : turns false line = (trim after == ['(']) := by
        simp [turns, opensBlock, hstrip]
      have hfound : found false line = (single after).toList := by simp [found, hstrip]
      rw [directive_of_some hstrip, hfound, hturns]
      by_cases hopen : trim after = ['(']
      · simp [hopen, single_of_bracket hopen]
      · have hopen' : (trim after == ['(']) = false := beq_eq_false_iff_ne.mpr hopen
        by_cases hspace : after.head?.any isSpace = true
        · simp [hopen, hopen', hspace, single]
        · simp [hopen, hopen', hspace, single]

/-! ### A line with the word -/

theorem single_trimEnd (after : List Char) : single (trimEnd after) = single after := by
  obtain ⟨back, hback, hafter⟩ := exists_trimEnd after
  have hrecord : record? (trimEnd after) = record? after := by
    have htrim := trim_append_blank hback (trimEnd after)
    rw [← hafter] at htrim
    rw [← record?_trim, ← htrim, record?_trim]
  unfold single
  cases hend : trimEnd after with
  | nil =>
    -- Nothing but white space follows, which is no entry.
    have hnone : record? after = none := by
      rw [← hrecord, hend]
      decide
    rw [hnone, ite_self]
    rfl
  | cons c rest =>
    have hhead : after.head? = some c := by
      rw [hafter, hend]
      rfl
    rw [← hend, hrecord, hhead, hend, List.head?_cons]

/-- White space before the word and at the end of a line is cut off by `trim`. -/
theorem trim_keyword (hfront : isBlank front = true) (after : List Char) :
    trim (front ++ keyword ++ after) = keyword ++ trimEnd after := by
  have hfirst : ∀ c, (keyword ++ after).head? = some c → isSpace c = false := by
    intro c hc
    obtain rfl := Option.some.inj hc
    decide
  have hlast : ∀ c, keyword.getLast? = some c → isSpace c = false := by
    intro c hc
    obtain rfl := Option.some.inj hc
    decide
  rw [trim, List.append_assoc, trimStart_append hfront hfirst, trimEnd_append_of_ink hlast]

/-- What stands behind the `keyword`. -/
theorem stripStart_keyword (after : List Char) :
    stripStart keyword (keyword ++ after) = some after := by
  rw [stripStart, if_pos (List.isPrefixOf_iff_prefix.mpr (List.prefix_append _ _)),
    List.drop_left]

/-- A line with the word at its start, behind white space, gives what is told by the text behind it
(`single`). -/
theorem found_keyword (hfront : isBlank front = true) (after : List Char) :
    found false (front ++ keyword ++ after) = (single after).toList := by
  have hstrip := stripStart_keyword (trimEnd after)
  simp only [found, trim_keyword hfront, hstrip, Option.bind_some, single_trimEnd,
    Bool.false_eq_true, if_false]

/-- A line with the word at its start opens a block iff a bracket comes `after` it. -/
theorem turns_keyword (hfront : isBlank front = true) (after : List Char) :
    turns false (front ++ keyword ++ after) = (trim after == ['(']) := by
  obtain ⟨back, hback, hafter⟩ := exists_trimEnd after
  have htrim := trim_append_blank hback (trimEnd after)
  rw [← hafter] at htrim
  have hstrip := stripStart_keyword (trimEnd after)
  simp only [turns, opensBlock, trim_keyword hfront, hstrip, Option.any_some, ← htrim,
    Bool.false_eq_true, if_false]

theorem slash_not_mem_keyword (hfront : isBlank front = true) : '/' ∉ front ++ keyword := by
  rw [List.mem_append, not_or]
  exact ⟨not_mem_of_isBlank hfront (by decide), by decide⟩

/-- The `keyword` at the start of a trimmed line stands behind white space in the line. -/
theorem exists_keyword (h : keyword <+: trim line) :
    ∃ front after, isBlank front = true ∧ line = front ++ keyword ++ after := by
  obtain ⟨rest, hrest⟩ := h
  obtain ⟨front, back, hfront, -, hline⟩ := exists_trim line
  refine ⟨front, rest ++ back, hfront, ?_⟩
  rw [hline, ← hrest]
  simp only [List.append_assoc]

/-- Outside of blocks a line without the `keyword` at its start gives nothing and opens nothing. -/
theorem reads_of_not_isPrefix (h : ¬ keyword <+: trim line) :
    turns false line = false ∧ found false line = [] := by
  have hstrip : stripStart keyword (trim line) = none := by
    rw [stripStart, if_neg (by rwa [List.isPrefixOf_iff_prefix])]
  constructor
  · simp [turns, opensBlock, hstrip]
  · simp [found, hstrip]

/-- The word does not reach into white space behind it: it is all in `text` if `back` starts with
white space. -/
theorem keyword_isPrefix_of_append (hback : ∀ c, back.head? = some c → isSpace c = true)
    (h : keyword <+: text ++ back) : keyword <+: text := by
  cases back with
  | nil => rwa [List.append_nil] at h
  | cons c rest =>
    have hc : c ∉ keyword := fun hmem => by
      have hspace := hback c rfl
      have hink : ∀ d ∈ keyword, isSpace d = false :=
        List.all_iff_forall_prop.mp (by decide)
      exact Bool.noConfusion (hspace.symm.trans (hink c hmem))
    have hfront : text ++ [c] <+: text ++ c :: rest := ⟨rest, by simp⟩
    rcases List.prefix_or_prefix_of_prefix h hfront with hstarts | hstarts
    · rcases List.prefix_concat_iff.mp hstarts with heq | hstarts
      · exact absurd (heq ▸ List.mem_append_right text (List.mem_singleton_self c)) hc
      · exact hstarts
    · exact absurd (hstarts.subset (List.mem_append_right text (List.mem_singleton_self c))) hc

/-- Whether a line starts with the `keyword` does not depend on white space at its end. -/
theorem keyword_isPrefix_trim_iff : keyword <+: trim text ↔ keyword <+: trimStart text := by
  obtain ⟨back, hback, hstart⟩ := exists_trimEnd (trimStart text)
  constructor
  · intro h
    rw [hstart]
    exact h.trans (List.prefix_append _ _)
  · intro h
    rw [hstart] at h
    exact keyword_isPrefix_of_append
      (fun c hc => isBlank_eq_true.mp hback c (List.mem_of_head? hc)) h

/-- What is put behind a line after white space does not bring the word to its start, unless the
line is blank and it starts with the word itself (`hnot`). -/
theorem keyword_isPrefix_trim_append_iff (hback : ∀ c, back.head? = some c → isSpace c = true)
    (hnot : ¬ keyword <+: trim back) :
    keyword <+: trim (line ++ back) ↔ keyword <+: trim line := by
  by_cases hblank : isBlank line = true
  · rw [trim_blank_append hblank, trim_eq_nil_iff.mpr hblank]
    exact iff_of_false hnot (by decide)
  · have hink : ¬ (line.dropWhile isSpace).isEmpty = true := by
      rw [List.isEmpty_iff, List.dropWhile_eq_nil_iff, ← isBlank_eq_true]
      exact hblank
    have hstart : trimStart (line ++ back) = trimStart line ++ back := by
      rw [trimStart, List.dropWhile_append, if_neg hink]
      rfl
    rw [keyword_isPrefix_trim_iff, keyword_isPrefix_trim_iff, hstart]
    exact ⟨keyword_isPrefix_of_append hback, fun h => h.trans (List.prefix_append _ _)⟩

/-! ### All lines -/

/-- White space around lines does not matter to `requirementsFrom`. -/
theorem requirementsFrom_map_trim (inside : Bool) (lines : List (List Char)) :
    requirementsFrom inside (lines.map trim) = requirementsFrom inside lines := by
  induction lines generalizing inside with
  | nil => rfl
  | cons line rest ih =>
    have hturns : turns inside (trim line) = turns inside line := by
      simp only [turns, opensBlock, closesBlock, trim_trim]
    have hfound : found inside (trim line) = found inside line := by
      simp only [found, trim_trim, record?_trim]
    rw [List.map_cons, requirementsFrom_cons, requirementsFrom_cons, hturns, hfound, ih]

theorem requirementsFrom_append_empty (inside : Bool) (lines : List (List Char)) :
    requirementsFrom inside (lines ++ [[]]) = requirementsFrom inside lines := by
  induction lines generalizing inside with
  | nil => cases inside <;> decide
  | cons line rest ih => rw [List.cons_append, requirementsFrom_cons, requirementsFrom_cons, ih]

/-- A module is read off what stands between its line feeds: `lines`, which drops returns and an
empty last line, gives the same. -/
theorem requirements_eq (content : List Char) :
    requirements content = requirementsFrom false (content.splitOn '\n') := by
  have hreturn : ∀ line, trim (line ++ ['\r']) = trim line := trim_append_blank (by decide)
  rw [requirements, ← requirementsFrom_map_trim, ← requirementsFrom_map_trim _ (content.splitOn _)]
  rcases map_lines hreturn content with hlines | hlines
  · rw [hlines]
  · rw [hlines]
    exact (requirementsFrom_append_empty false _).symm

end CodeHealth.GoMod
