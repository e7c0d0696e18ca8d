import CodeHealth.Proofs.GoMod
import Mathlib.Data.List.Forall2

/-!
# Comments in Go modules

A comment is cut off an entry, but a line starts or ends a block only if nothing stands behind its
bracket. So comments can be put behind all lines of a module but those of brackets: there a comment
hides the bracket, and the reader misses the start or the end of the block.

* `GoMod.Commented` — a line with a comment behind it, or without;
* `GoMod.found_annotated` — a comment does not change what is found on a line;
* `GoMod.turns_annotated` — a line with a comment neither starts nor ends a block;
* `GoMod.requirements_of_commented` — comments behind lines other than those of brackets.
-/

namespace CodeHealth.GoMod

open CodeHealth.Text

variable {back : List Char}

/-! ### Comments -/

/-- A `line` with the comment `note` behind it. White space `back` at its very end, such as the
return of a line end, stays there. -/
def annotated (line note back : List Char) : List Char :=
  line ++ [' ', '/', '/', ' '] ++ note ++ back

/-- A line as it is, or with a comment behind it (`annotated`). -/
inductive Commented : List Char → List Char → Prop where
  | same (line : List Char) : Commented line line
  | behind (line note : List Char) {back : List Char} (hback : isBlank back = true) :
      Commented (line ++ back) (annotated line note back)

section Annotated

variable {line note : List Char}

theorem annotated_append (front line note back : List Char) :
    annotated (front ++ line) note back = front ++ annotated line note back := by
  simp only [annotated, List.append_assoc]

/-- There is a comment on an `annotated` line. -/
theorem commentMark_isInfix_annotated (line note back : List Char) :
    commentMark <:+: annotated line note back :=
  ⟨line ++ [' '], ' ' :: (note ++ back), by simp [commentMark, annotated]⟩

/-- A line with a comment behind it neither starts nor ends a block: `turns` is false of it, inside
of a block and outside. -/
theorem turns_annotated (inside : Bool) (line note back : List Char) :
    turns inside (annotated line note back) = false := by
  have hmark := commentMark_isInfix_annotated line note back
  cases inside with
  | true => exact beq_eq_false_iff_ne.mpr (trim_ne_of_commentMark hmark ')')
  | false =>
    by_cases hkey : keyword <+: trim (annotated line note back)
    · -- The comment stands behind the word, so that more than a bracket does.
      obtain ⟨front, after, hfront, heq⟩ := exists_keyword hkey
      rw [heq] at hmark ⊢
      have hafter : commentMark <:+: after :=
        isInfix_of_append_of_not_mem (slash_not_mem_keyword hfront) hmark
      rw [turns_keyword hfront]
      exact beq_eq_false_iff_ne.mpr (trim_ne_of_commentMark hafter '(')
    · exact (reads_of_not_isPrefix hkey).1

/-- A comment does not bring the word `require` to the start of a line, nor take it from there. -/
theorem keyword_isPrefix_trim_annotated_iff :
    keyword <+: trim (annotated line note back) ↔ keyword <+: trim line := by
  have hline : annotated line note back = line ++ annotated [] note back := by
    rw [← annotated_append, List.append_nil]
  have hspace : ∀ c, (annotated [] note back).head? = some c → isSpace c = true := by
    intro c hc
    obtain rfl := Option.some.inj hc
    decide
  have hslash : (trim (annotated [] note back)).head? = some '/' := by
    rw [head?_trim]
    rfl
  have hnot : ¬ keyword <+: trim (annotated [] note back) := by
    rintro ⟨rest, hrest⟩
    rw [← hrest] at hslash
    simp [keyword] at hslash
  rw [hline, keyword_isPrefix_trim_append_iff hspace hnot]

variable (hplain : ¬ commentMark <:+: line ++ back) (hback : isBlank back = true)
  (hindirect : ¬ indirectMark <:+: annotated line note back)

include hplain hback hindirect

/-- A comment behind an entry does not matter to `record?`, unless it is the mark of an indirect
requirement (`hindirect`). -/
theorem record?_annotated : record? (annotated line note back) = record? (line ++ back) := by
  have hline : ¬ commentMark <:+: line := fun h => hplain (h.trans List.infix_append_left)
  have hspaced : ¬ commentMark <:+: line ++ [' '] := fun h =>
    hline (isInfix_of_append_blank (by decide) isTrimmed_commentMark.2 (by decide) h)
  have hlast : (line ++ [' ']).getLast? ≠ some '/' := by simp
  have hcut : annotated line note back
      = line ++ [' '] ++ commentMark ++ (' ' :: (note ++ back)) := by
    simp [commentMark, annotated]
  have hfields : fields (uncommented (annotated line note back)) = fields line := by
    rw [hcut, uncommented_append hspaced hlast, fields_append_blank (by decide)]
  -- The mark of an indirect requirement is a comment itself.
  have hdirect : ¬ indirectMark <:+: line ++ back := fun h =>
    hplain (List.IsInfix.trans ⟨[], " indirect".toList, rfl⟩ h)
  rw [record?_eq, record?_eq, if_neg hindirect, if_neg hdirect, hfields,
    uncommented_of_not_isInfix hplain, fields_append_blank hback]

/-- Nor does one behind a directive matter to `single`, also when nothing stands between it and the
word. -/
theorem single_annotated : single (annotated line note back) = single (line ++ back) := by
  rw [single, single, record?_annotated hplain hback hindirect]
  cases line with
  | nil =>
    have hnone : record? ([] ++ back) = none := record?_of_isBlank hback
    rw [hnone, ite_self, ite_self]
  | cons c rest => rfl

/-- A comment behind a line does not change what is `found` on it, inside of a block or outside. -/
theorem found_annotated (inside : Bool) :
    found inside (annotated line note back) = found inside (line ++ back) := by
  cases inside with
  | true => exact congrArg Option.toList (record?_annotated hplain hback hindirect)
  | false =>
    -- Outside of a block a line counts only from its keyword on, so the rest is compared there.
    by_cases hkey : keyword <+: trim line
    · obtain ⟨front, after, hfront, rfl⟩ := exists_keyword hkey
      rw [annotated_append] at hindirect ⊢
      rw [List.append_assoc (front ++ keyword)] at hplain ⊢
      have hplain' : ¬ commentMark <:+: after ++ back := fun h =>
        hplain (h.trans List.infix_append_right)
      have hindirect' : ¬ indirectMark <:+: annotated after note back := fun h =>
        hindirect (h.trans List.infix_append_right)
      rw [found_keyword hfront, found_keyword hfront, single_annotated hplain' hback hindirect']
    · have hblank : ∀ c, back.head? = some c → isSpace c = true := fun c hc =>
        isBlank_eq_true.mp hback c (List.mem_of_head? hc)
      have hnot : ¬ keyword <+: trim back := by
        rw [trim_eq_nil_iff.mpr hback]
        decide
      have hkey' : ¬ keyword <+: trim (line ++ back) := by
        rwa [keyword_isPrefix_trim_append_iff hblank hnot]
      rw [← keyword_isPrefix_trim_annotated_iff] at hkey
      rw [(reads_of_not_isPrefix hkey).2, (reads_of_not_isPrefix hkey').2]

end Annotated

/-! ### Comments on any lines -/

/-- Two readers go through `lines` and `lines'` that differ in comments side by side. They find the
same, and stay inside of the same blocks as long as no comment hides the start or the end of one
(`hblocks`). -/
theorem requirementsFrom_commented {lines lines' : List (List Char)}
    (h : List.Forall₂ Commented lines lines')
    (hplain : ∀ line ∈ lines, ¬ commentMark <:+: line)
    (hindirect : ∀ line ∈ lines', ¬ indirectMark <:+: line) (inside : Bool)
    (hblocks : ∀ i line, lines[i]? = some line → lines'[i]? ≠ some line →
      turns (insideAfter inside (lines.take i)) line = false) :
    requirementsFrom inside lines' = requirementsFrom inside lines := by
  induction h generalizing inside with
  | nil => rfl
  | @cons line line' rest rest' hline _ ih =>
    have hplain' := fun other hother => hplain other (List.mem_cons_of_mem line hother)
    have hindirect' := fun other hother => hindirect other (List.mem_cons_of_mem line' hother)
    -- Below, the lines are read in the state in which this one leaves the reader.
    have hblocks' : ∀ i other, rest[i]? = some other → rest'[i]? ≠ some other →
        turns (insideAfter (inside ^^ turns inside line) (rest.take i)) other = false :=
      fun i other hother hother' => hblocks (i + 1) other hother hother'
    have hrest := ih hplain' hindirect' _ hblocks'
    have hsame : found inside line' = found inside line ∧
        turns inside line' = turns inside line := by
      cases hline with
      | same => exact ⟨rfl, rfl⟩
      | @behind first note back hback =>
        have hfirst := hplain _ List.mem_cons_self
        have hnote := hindirect _ List.mem_cons_self
        have hne : some (annotated first note back) ≠ some (first ++ back) := by
          intro heq
          rw [← Option.some.inj heq] at hfirst
          exact hfirst (commentMark_isInfix_annotated first note back)
        exact ⟨found_annotated hfirst hback hnote inside,
          (turns_annotated inside first note back).trans (hblocks 0 _ rfl hne).symm⟩
    rw [requirementsFrom_cons, requirementsFrom_cons, hsame.1, hsame.2, hrest]

/-- **Comments matter on the lines of brackets only.** When comments are put behind lines of a
module `content` that has none (`hplain`), and no requirement is marked as indirect by that
(`hindirect`), the same `requirements` are read as before, provided that none of these lines starts
or ends a block where it stands (`hblocks`). A comment there would hide the bracket, see
`turns_annotated`. -/
theorem requirements_of_commented {content content' : List Char}
    (hplain : ¬ commentMark <:+: content)
    (hcomments : List.Forall₂ Commented (content.splitOn '\n') (content'.splitOn '\n'))
    (hindirect : ∀ line ∈ content'.splitOn '\n', ¬ "// indirect".toList <:+: line)
    (hblocks : ∀ i line, (content.splitOn '\n')[i]? = some line →
      (content'.splitOn '\n')[i]? ≠ some line →
      turns (insideAfter false ((content.splitOn '\n').take i)) line = false) :
    requirements content' = requirements content := by
  rw [requirements_eq, requirements_eq]
  refine requirementsFrom_commented hcomments (fun line hline hmark => ?_) hindirect false hblocks
  exact hplain (hmark.trans (isInfix_of_mem_splitOn hline))

end CodeHealth.GoMod

namespace CodeHealth.Sample

open Text GoMod

/-- A block with one entry and no comments. -/
def blockText : List Char := "require (\n\ta/b v1\n)".toList

/-- The block `blockText` with a comment behind its first bracket. -/
def annotatedBlock : List Char := "require ( // c\n\ta/b v1\n)".toList

/-- The comment of `annotatedBlock` hides the bracket, so that no block is read and the requirement
of `blockText` is lost. All conditions but the one on brackets hold. -/
theorem annotatedBlock_lost :
    ¬ commentMark <:+: blockText ∧
      List.Forall₂ Commented (blockText.splitOn '\n') (annotatedBlock.splitOn '\n') ∧
      (∀ line ∈ annotatedBlock.splitOn '\n', ¬ "// indirect".toList <:+: line) ∧
      requirements blockText = [⟨"b", "a/b", "v1", .goProxy⟩] ∧
      requirements annotatedBlock = [] := by
  have hlines : blockText.splitOn '\n' = ["require (".toList ++ [], "\ta/b v1".toList, [')']] := by
    decide +kernel
  have hlines' : annotatedBlock.splitOn '\n'
      = [annotated "require (".toList ['c'] [], "\ta/b v1".toList, [')']] := by
    decide +kernel
  refine ⟨by decide +kernel, ?_, by decide +kernel, by decide +kernel, by decide +kernel⟩
  rw [hlines, hlines']
  exact .cons (.behind _ _ rfl) (.cons (.same _) (.cons (.same _) .nil))

/-- A block with a comment behind its entry, on a line that ends with a return. -/
def annotatedEntry : List Char := "require (\n\ta/b v1 // )\r\n)".toList

/-- The block `annotatedEntry` without its comment. -/
def returnedBlock : List Char := "require (\n\ta/b v1\r\n)".toList

/-- The comment of `annotatedEntry` changes nothing, although it has a closing bracket in it. -/
theorem annotatedEntry_read :
    ¬ commentMark <:+: returnedBlock ∧
      List.Forall₂ Commented (returnedBlock.splitOn '\n') (annotatedEntry.splitOn '\n') ∧
      (∀ line ∈ annotatedEntry.splitOn '\n', ¬ "// indirect".toList <:+: line) ∧
      (∀ i line, (returnedBlock.splitOn '\n')[i]? = some line →
        (annotatedEntry.splitOn '\n')[i]? ≠ some line →
        turns (insideAfter false ((returnedBlock.splitOn '\n').take i)) line = false) ∧
      requirements annotatedEntry = requirements returnedBlock := by
  have hlines : returnedBlock.splitOn '\n'
      = ["require (".toList, "\ta/b v1".toList ++ ['\r'], [')']] := by
    decide +kernel
  have hlines' : annotatedEntry.splitOn '\n'
      = ["require (".toList, annotated "\ta/b v1".toList [')'] ['\r'], [')']] := by
    decide +kernel
  have hplain : ¬ commentMark <:+: returnedBlock := by decide +kernel
  have hcomments : List.Forall₂ Commented (returnedBlock.splitOn '\n')
      (annotatedEntry.splitOn '\n') := by
    rw [hlines, hlines']
    exact .cons (.same _) (.cons (.behind _ _ (by decide)) (.cons (.same _) .nil))
  have hindirect : ∀ line ∈ annotatedEntry.splitOn '\n', ¬ "// indirect".toList <:+: line := by
    decide +kernel
  have hblocks : ∀ i line, (returnedBlock.splitOn '\n')[i]? = some line →
      (annotatedEntry.splitOn '\n')[i]? ≠ some line →
      turns (insideAfter false ((returnedBlock.splitOn '\n').take i)) line = false := by
    rw [hlines, hlines']
    rintro (_ | _ | _ | i) line hline hline'
    · exact absurd hline hline'
    · obtain rfl := Option.some.inj hline
      decide +kernel
    · exact absurd hline hline'
    · exact absurd hline (by simp)
  exact ⟨hplain, hcomments, hindirect, hblocks,
    requirements_of_commented hplain hcomments hindirect hblocks⟩

end CodeHealth.Sample
