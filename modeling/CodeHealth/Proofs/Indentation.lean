import CodeHealth.Proofs.Spans

/-!
# Bodies by indentation

A body that is told by indentation goes on while lines are blank or deeper than the declaration. A
line further in starts a body of its own, which stops where the outer one stops or before. So two
bodies are nested or apart.

* `Outline.indentedLines_le` — a deeper declaration has no more lines from the same place on;
* `Outline.indentedLines_eq_add` — lines that belong to a body can be taken off its front;
* `Outline.findSpan_indentation_within` — a body that starts inside of another one stays inside;
* `Outline.python_bodies_laminar` — the bodies of the functions reported for a Python source.
-/

namespace CodeHealth.Outline

open CodeHealth.Text

variable {lines : List (List Char)}

/-! ### Lines of a body -/

/-- The count of `indentedLines`, line by line: a line belongs to the body if it is blank or deeper,
and else ends it. -/
theorem indentedLines_cons (depth : Nat) (line : List Char) (rest : List (List Char)) :
    indentedLines depth (line :: rest)
      = if isBlank line || depth < indentation line then indentedLines depth rest + 1 else 0 := by
  unfold indentedLines
  rw [List.takeWhile_cons]
  split <;> rfl

/-- A declaration that stands `deeper` has no more lines in its body. -/
theorem indentedLines_le {depth deeper : Nat} (h : depth ≤ deeper) (lines : List (List Char)) :
    indentedLines deeper lines ≤ indentedLines depth lines := by
  induction lines with
  | nil => exact Nat.le_refl _
  | cons line rest ih =>
    rw [indentedLines_cons, indentedLines_cons]
    by_cases hdeeper : (isBlank line || decide (deeper < indentation line)) = true
    · have hdepth : (isBlank line || decide (depth < indentation line)) = true := by
        simp only [Bool.or_eq_true, decide_eq_true_eq] at hdeeper ⊢
        exact hdeeper.imp_right (Nat.lt_of_le_of_lt h)
      rw [if_pos hdeeper, if_pos hdepth]
      exact Nat.succ_le_succ ih
    · rw [if_neg hdeeper]
      exact Nat.zero_le _

/-- A line of a body, which lies among the `indentedLines`, is deeper than the declaration unless it
is blank (`hink`); the indentation of the declaration is `depth`. -/
theorem deeper_of_lt_indentedLines {depth k : Nat} {line : List Char}
    (h : k < indentedLines depth lines) (hline : lines[k]? = some line)
    (hink : isBlank line = false) : depth < indentation line := by
  induction lines generalizing k with
  | nil => cases hline
  | cons first rest ih =>
    rw [indentedLines_cons] at h
    split at h
    · rename_i hfirst
      cases k with
      | zero =>
        obtain rfl : first = line := Option.some.inj hline
        simpa [hink] using hfirst
      | succ k => exact ih (Nat.lt_of_succ_lt_succ h) hline
    · cases h

/-- Lines that belong to a body are counted one by one, and then the body goes on from line `k`. -/
theorem indentedLines_eq_add {depth k : Nat} (h : k ≤ indentedLines depth lines) :
    indentedLines depth lines = k + indentedLines depth (lines.drop k) := by
  induction k generalizing lines with
  | zero => rw [Nat.zero_add, List.drop_zero]
  | succ k ih =>
    cases lines with
    | nil => cases h
    | cons line rest =>
      rw [indentedLines_cons] at h ⊢
      split at h
      · rw [if_pos ‹_›, List.drop_succ_cons, ih (Nat.le_of_succ_le_succ h)]
        omega
      · cases h

/-! ### Nested bodies -/

/-- The body of a declaration on line `i` starts on the next line and has `indentedLines` lines,
counted with the indentation of the declaration. -/
theorem findSpan_indentation {i : Nat} {declaration : List Char}
    (h : lines[i]? = some declaration) :
    findSpan .indentation lines i
      = ⟨i + 1, i + 1 + indentedLines (indentation declaration) (lines.drop (i + 1)), true⟩ := by
  obtain ⟨hi, rfl⟩ := List.getElem?_eq_some_iff.mp h
  rw [findSpan, List.drop_eq_getElem_cons hi, Style.extent, Nat.add_assoc]

/-- **A body that starts inside stays inside** (`Within`). The declaration `inner` is no blank line
(`hink`), so that it stands deeper than the declaration around it. -/
theorem findSpan_indentation_within {i j : Nat} {outer inner : List Char}
    (houter : lines[i]? = some outer) (hinner : lines[j]? = some inner)
    (hink : isBlank inner = false) (hij : i < j)
    (hcovered : j < (findSpan .indentation lines i).stop) :
    (findSpan .indentation lines j).Within (findSpan .indentation lines i) := by
  rw [findSpan_indentation houter] at hcovered ⊢
  rw [findSpan_indentation hinner]
  -- The inner declaration is line `k` of the outer body.
  obtain ⟨k, rfl⟩ : ∃ k, j = i + 1 + k := Nat.exists_eq_add_of_le hij
  have hk : k < indentedLines (indentation outer) (lines.drop (i + 1)) :=
    Nat.lt_of_add_lt_add_left hcovered
  have hdeeper : indentation outer < indentation inner :=
    deeper_of_lt_indentedLines hk (by rwa [List.getElem?_drop]) hink
  -- After it, the outer body goes on at least as far as the inner one.
  have hsplit : indentedLines (indentation outer) (lines.drop (i + 1))
      = k + 1 + indentedLines (indentation outer) (lines.drop (i + 1 + k + 1)) := by
    rw [indentedLines_eq_add (Nat.succ_le_of_lt hk), List.drop_drop]
    rfl
  have hle := indentedLines_le (Nat.le_of_lt hdeeper) (lines.drop (i + 1 + k + 1))
  constructor
  · show i + 1 ≤ i + 1 + k + 1
    omega
  · show i + 1 + k + 1 + indentedLines (indentation inner) (lines.drop (i + 1 + k + 1))
      ≤ i + 1 + indentedLines (indentation outer) (lines.drop (i + 1))
    omega

/-- **Python bodies form a laminar family.** Of two functions reported for a source, declared on
lines `i` and `j` after it: if line `j` is in the body of the first, the whole body of the second is
in it (`Within`) and the second is no more complex; otherwise the body of the second starts where
the body of the first has ended. -/
theorem python_bodies_laminar {file : String} {source : List Char} {first second : FunctionMeasure}
    (hfirst : first ∈ python.functionMeasures file source)
    (hsecond : second ∈ python.functionMeasures file source) {i j : Nat}
    (hi : first.line = i + 1) (hj : second.line = j + 1) (hij : i < j) :
    let body := findSpan python.style (Text.lines source) i
    let later := findSpan python.style (Text.lines source) j
    (body.start ≤ j ∧ j < body.stop →
      later.Within body ∧ second.complexity ≤ first.complexity) ∧
    (¬ (body.start ≤ j ∧ j < body.stop) → body.stop ≤ later.start) := by
  intro body later
  obtain ⟨name, ⟨⟨outer, houter, -⟩, -⟩, -⟩ := python.exists_of_mem_measures hfirst hi
  obtain ⟨name', ⟨⟨inner, hinner, hdeclared⟩, -⟩, -⟩ := python.exists_of_mem_measures hsecond hj
  have hbody : body = _ := findSpan_indentation houter
  have hlater : later = _ := findSpan_indentation hinner
  constructor
  · rintro ⟨-, hstop⟩
    -- The line declares a function, which a blank line does not.
    have hprofile : Language.profile? .python = some python := rfl
    have hink : isBlank inner = false := by
      rw [← Bool.not_eq_true]
      intro hblank
      simp [Profile.declaredName?_blank hprofile hblank] at hdeclared
    have hwithin := findSpan_indentation_within houter hinner hink hij hstop
    exact ⟨hwithin, python.complexity_le_of_within hfirst hsecond hi hj hwithin⟩
  · intro hout
    have hstart : body.start ≤ j := by
      rw [hbody]
      exact hij
    have hstop : body.stop ≤ j := Nat.le_of_not_lt fun hlt => hout ⟨hstart, hlt⟩
    rw [hlater]
    exact Nat.le_succ_of_le hstop

end CodeHealth.Outline

namespace CodeHealth.Sample

open Outline

/-- A function with another one inside of it, whose body has a blank line. -/
def nestedFunctions : List Char := "def a():\n def b():\n\n  if c: d\n e".toList

/-- The first line of `nestedFunctions` declares the function `a`. -/
theorem python_declares_outer : python.declaredName? "def a():".toList = some ['a'] := by
  have hname : (python.signature.find? "def a():".toList).bind python.functionName
      = some ['a'] := by
    cbv
  exact python.declaredName?_eq_some (by decide +kernel) hname (by decide)

/-- The second line of `nestedFunctions` declares the function `b`. -/
theorem python_declares_inner : python.declaredName? " def b():".toList = some ['b'] := by
  have hname : (python.signature.find? " def b():".toList).bind python.functionName
      = some ['b'] := by
    cbv
  exact python.declaredName?_eq_some (by decide +kernel) hname (by decide)

/-- The inner body of `nestedFunctions` is a part of the outer one, and has no more decisions. -/
theorem inner_within_outer :
    let lines := Text.lines nestedFunctions
    findSpan python.style lines 0 = ⟨1, 5, true⟩ ∧ findSpan python.style lines 1 = ⟨2, 4, true⟩ ∧
      (findSpan python.style lines 1).Within (findSpan python.style lines 0) ∧
      (python.measureOf "a.py" lines 1 ['b']).complexity
        ≤ (python.measureOf "a.py" lines 0 ['a']).complexity := by
  intro lines
  have hlines : lines = ["def a():".toList, " def b():".toList, [], "  if c: d".toList,
      " e".toList] := by decide +kernel
  have houter : python.Reports lines 0 ['a'] :=
    ⟨⟨_, by rw [hlines]; rfl, python_declares_outer⟩, .inr rfl⟩
  have hinner : python.Reports lines 1 ['b'] :=
    ⟨⟨_, by rw [hlines]; rfl, python_declares_inner⟩, .inr rfl⟩
  have hspan : findSpan python.style lines 0 = ⟨1, 5, true⟩ := by
    rw [hlines]
    decide +kernel
  have hspan' : findSpan python.style lines 1 = ⟨2, 4, true⟩ := by
    rw [hlines]
    decide +kernel
  obtain ⟨hnested, -⟩ := python_bodies_laminar (python.mem_measures_iff.mpr ⟨0, _, houter, rfl⟩)
    (python.mem_measures_iff.mpr ⟨1, _, hinner, rfl⟩) rfl rfl Nat.zero_lt_one
  exact ⟨hspan, hspan', hnested (by rw [hspan]; decide)⟩

end CodeHealth.Sample
