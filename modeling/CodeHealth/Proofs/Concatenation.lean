import CodeHealth.Proofs.IdleLines

/-!
# Sources one after the other

A body that is told by indentation and is still open at the end of a source goes on into what is put
after it. When the first line there that is not blank starts at the margin, it ends every body, and
the blank lines before it have no decisions. So the functions of two Python sources, one after the
other, are those of each of them.

* `Outline.body_indentation` — the lines that are measured for a declaration;
* `Outline.StartsAtMargin` — the first line that is not blank is not indented;
* `Outline.StartsAtMargin.isBlank_of_mem` — the lines that a body takes from such a source are
  blank;
* `Outline.python_measures_append` — the functions of two sources put together.
-/

namespace CodeHealth.Outline

open CodeHealth.Text

variable {later : List (List Char)}

/-- The `body` of a declaration by indentation is what follows it, as far as lines are blank or
deeper than it. -/
theorem body_indentation (declaration : List Char) (rest : List (List Char)) :
    (findSpan .indentation (declaration :: rest) 0).body (declaration :: rest)
      = rest.takeWhile fun line => isBlank line || indentation declaration < indentation line := by
  rw [Profile.body_findSpan]
  simp only [List.drop_zero, Style.extent, List.drop_succ_cons, Nat.add_sub_cancel_left,
    indentedLines]
  exact (List.prefix_iff_eq_take.mp (List.takeWhile_prefix _)).symm

/-- The first line that is not blank, if there is one, is not indented. Such a source ends every
body that is still open before it. -/
def StartsAtMargin (lines : List (List Char)) : Prop :=
  ∀ line, (lines.find? fun line => !isBlank line) = some line → indentation line = 0

/-- The lines that a body of any `depth` takes from a source that `StartsAtMargin` are blank, since
the first line that is not stops it. -/
theorem StartsAtMargin.isBlank_of_mem (h : StartsAtMargin later) (depth : Nat) :
    ∀ line ∈ later.takeWhile fun line => isBlank line || depth < indentation line,
      isBlank line = true := by
  induction later with
  | nil => simp
  | cons first rest ih =>
    intro line hline
    rw [List.takeWhile_cons] at hline
    cases hfirst : isBlank first with
    | true =>
      have hrest : StartsAtMargin rest := by
        intro other hother
        exact h other (by rwa [List.find?_cons_of_neg (by simp [hfirst])])
      rw [hfirst, Bool.true_or, if_pos rfl] at hline
      rcases List.mem_cons.mp hline with rfl | hline
      · exact hfirst
      · exact ih hrest line hline
    | false =>
      -- This line is at the margin, so it ends the body.
      have hmargin : indentation first = 0 := h first (List.find?_cons_of_pos (by simp [hfirst]))
      simp [hfirst, hmargin] at hline

theorem Profile.decisionsOn_eq_zero (p : Profile) {lines : List (List Char)}
    (h : ∀ line ∈ lines, p.lineDecisions line = 0) : p.decisionsOn lines = 0 := by
  induction lines with
  | nil => rfl
  | cons line rest ih =>
    rw [p.decisionsOn_cons, h line List.mem_cons_self,
      ih fun other hother => h other (List.mem_cons_of_mem line hother)]

/-- The measure of a Python function does not depend on a source `later` that `StartsAtMargin`: what
its body takes from there has no decisions. -/
theorem python_measureAt?_append (h : StartsAtMargin later) {file : String} (number : Nat)
    (declaration : List Char) (rest : List (List Char)) :
    python.measureAt? file number (declaration :: (rest ++ later))
      = python.measureAt? file number (declaration :: rest) := by
  refine python.measureAt?_congr rfl rfl ?_
  show python.decisionsOn ((findSpan .indentation _ 0).body _)
    = python.decisionsOn ((findSpan .indentation _ 0).body _)
  rw [body_indentation, body_indentation, List.takeWhile_append]
  split
  · rename_i hopen
    -- The body is open at the end of its source, and goes on with blank lines.
    have hblank := python.decisionsOn_eq_zero fun line hline =>
      lineDecisions_blank (rfl : Language.profile? .python = some python)
        (h.isBlank_of_mem (indentation declaration) line hline)
    rw [python.decisionsOn_append, hblank, Nat.add_zero,
      (List.takeWhile_prefix _).eq_of_length hopen]
  · rfl

/-- The measures of `lines` and of `later` put together, numbered from `number` on, by induction on
the lines before `later`. -/
theorem python_measuresFrom_append (h : StartsAtMargin later) {file : String} (number : Nat)
    (lines : List (List Char)) :
    python.measuresFrom file number (lines ++ later)
      = python.measuresFrom file number lines
        ++ python.measuresFrom file (number + lines.length) later := by
  induction lines generalizing number with
  | nil => rfl
  | cons declaration rest ih =>
    rw [List.cons_append, Profile.measuresFrom, Profile.measuresFrom, python_measureAt?_append h,
      ih, List.append_assoc, List.length_cons, Nat.add_right_comm number 1, Nat.add_assoc number]

/-- **Python sources are measured one by one.** When the first line of `later` that is not blank is
not indented (`h`), the functions of both put together are those of `lines`, and then those of
`later`, further `down` by the number of `lines`. -/
theorem python_measures_append (file : String) (lines later : List (List Char))
    (h : ∀ line, (later.find? fun line => !isBlank line) = some line → indentation line = 0) :
    python.measures file (lines ++ later)
      = python.measures file lines
        ++ (python.measures file later).map (FunctionMeasure.down lines.length) := by
  rw [Profile.measures, python_measuresFrom_append h, python.measuresFrom_add]
  rfl

end CodeHealth.Outline

namespace CodeHealth.Sample

open Outline Text

/-- A function that is open at the end of the source. -/
def openFunction : List (List Char) := ["def a():".toList, " if b: c".toList]

/-- A blank line and a function, to be put behind `openFunction`. -/
def laterFunction : List (List Char) := [[], "def a():".toList]

/-- The function `openFunction` does not take the one after it into its body, and the later one is
reported on its line of the whole. -/
theorem functions_put_together :
    (∀ line, (laterFunction.find? fun line => !isBlank line) = some line →
        indentation line = 0) ∧
      ⟨"a.py", "a", 1, 2⟩ ∈ python.measures "a.py" (openFunction ++ laterFunction) ∧
      ⟨"a.py", "a", 4, 1⟩ ∈ python.measures "a.py" (openFunction ++ laterFunction) := by
  have hmargin : ∀ line, (laterFunction.find? fun line => !isBlank line) = some line →
      indentation line = 0 := by
    intro line hline
    have hfirst : (laterFunction.find? fun line => !isBlank line) = some "def a():".toList := by
      decide +kernel
    rw [← Option.some.inj (hfirst.symm.trans hline)]
    decide +kernel
  have hdecision : python.decisionsOn [" if b: c".toList] = 1 := by cbv
  have hbody : (findSpan python.style openFunction 0).body openFunction = [" if b: c".toList] := by
    decide +kernel
  have hbody' : (findSpan python.style laterFunction 1).body laterFunction = [] := by
    decide +kernel
  refine ⟨hmargin, ?_, ?_⟩
  · rw [python_measures_append "a.py" openFunction laterFunction hmargin]
    refine List.mem_append_left _ (python.mem_measures_iff.mpr ⟨0, ['a'], ?_, ?_⟩)
    · exact ⟨⟨_, rfl, python_declares_outer⟩, .inr rfl⟩
    · rw [Profile.measureOf, hbody, hdecision]
  · rw [python_measures_append "a.py" openFunction laterFunction hmargin]
    -- The function is on line 2 of its own lines, two lines down.
    refine List.mem_append_right _ (List.mem_map.mpr ⟨⟨"a.py", "a", 2, 1⟩, ?_, rfl⟩)
    refine python.mem_measures_iff.mpr ⟨1, ['a'], ?_, ?_⟩
    · exact ⟨⟨_, rfl, python_declares_outer⟩, .inr rfl⟩
    · rw [Profile.measureOf, hbody']
      rfl

end CodeHealth.Sample
