import CodeHealth.Proofs.References

/-!
# Line ends

A line may end in a line feed alone or in a carriage return and a line feed. What is measured and
what is imported is read off the lines, which have no ends. The search for references also goes
through the raw text of all sources, but no name reaches over the end of a line, so it is found as
often before a return as before a line feed.

* `Text.withReturns` — a text with a return before every line feed;
* `Text.lines_withReturns` — it has the same lines;
* `Text.count_withReturns` — a name on one line is counted as often in it;
* `Outline.Profile.unusedFunctions_returned` — the same functions are unused;
* `Outline.Profile.analyses_ignore_line_ends` — all analyses of some sources together.
-/

namespace CodeHealth

namespace Text

/-- The `text` with a carriage return before every line feed. -/
def withReturns (text : List Char) : List Char :=
  text.flatMap fun c => if c = '\n' then ['\r', '\n'] else [c]

variable {line text needle : List Char}

/-- `withReturns` leaves a `line` without line feeds as it is. -/
theorem withReturns_of_not_mem (h : '\n' ∉ line) : withReturns line = line := by
  induction line with
  | nil => rfl
  | cons c rest ih =>
    rw [List.mem_cons, not_or] at h
    have hc : c ≠ '\n' := Ne.symm h.1
    show (if c = '\n' then ['\r', '\n'] else [c]) ++ withReturns rest = c :: rest
    rw [if_neg hc, ih h.2]
    rfl

/-- `withReturns` puts a return behind a `line` without line feeds, and goes on with the `rest`. -/
theorem withReturns_append_feed (h : '\n' ∉ line) (rest : List Char) :
    withReturns (line ++ '\n' :: rest) = line ++ '\r' :: '\n' :: withReturns rest := by
  have hsplit : withReturns (line ++ '\n' :: rest)
      = withReturns line ++ withReturns ('\n' :: rest) := List.flatMap_append
  rw [hsplit, withReturns_of_not_mem h]
  rfl

/-! ### Lines -/

/-- `lines` splits off one `line` with its end, where a return before the line feed belongs to the
end. -/
theorem lines_append_end (h : '\n' ∉ line) (rest : List Char) :
    lines (line ++ '\n' :: rest) = (dropReturn line.reverse).reverse :: lines rest := by
  rw [lines, linesFrom_append_of_not_mem h, List.append_nil, linesFrom, if_pos rfl]
  rfl

/-- `dropReturn` drops nothing of a text without returns. -/
theorem dropReturn_of_not_mem (h : '\r' ∉ text) : dropReturn text = text := by
  unfold dropReturn
  split
  · exact absurd List.mem_cons_self h
  · rfl

/-- **Returns before line feeds change no line**: `lines` reads `withReturns text` as it reads
`text`, provided that `text` has no returns of its own. -/
theorem lines_withReturns (h : '\r' ∉ text) : lines (withReturns text) = lines text := by
  induction text using lines_induction with
  | last line hline => rw [withReturns_of_not_mem hline]
  | feed line rest hline ih =>
    simp only [List.mem_append, List.mem_cons, not_or] at h
    obtain ⟨hreturn, -, hrest⟩ := h
    have hsplit : line ++ '\r' :: '\n' :: withReturns rest
        = line ++ ['\r'] ++ '\n' :: withReturns rest := by simp
    have hline' : '\n' ∉ line ++ ['\r'] := by simp [hline]
    have hplain : dropReturn line.reverse = line.reverse :=
      dropReturn_of_not_mem (mt List.mem_reverse.mp hreturn)
    -- The return at the end of the line is dropped, and without it there is none to drop.
    rw [withReturns_append_feed hline, hsplit, lines_append_end hline', lines_append_end hline,
      hplain, ih hrest]
    simp [dropReturn]

/-- What a `line` of `lines text` holds is in the `text`. -/
theorem mem_of_mem_lines {c : Char} (hline : line ∈ lines text) (hc : c ∈ line) : c ∈ text :=
  ((laid_lines text).isInfix_of_mem hline).subset hc

/-! ### Occurrences -/

/-- **A name that stands on one line is found as often with returns as without.** The `needle` has
neither a line feed nor a return in it, so every occurrence is one in a line. -/
theorem count_withReturns (hne : needle ≠ []) (hfeed : '\n' ∉ needle) (hreturn : '\r' ∉ needle)
    (text : List Char) : count needle (withReturns text) = count needle text := by
  induction text using lines_induction with
  | last line hline => rw [withReturns_of_not_mem hline]
  | feed line rest hline ih =>
    have hnone : count needle [] = 0 := rfl
    calc count needle (withReturns (line ++ '\n' :: rest))
        = count needle (line ++ ['\r'] ++ '\n' :: withReturns rest) := by
          rw [withReturns_append_feed hline]
          simp
      _ = count needle line + count needle (withReturns rest) := by
          rw [count_join hne hfeed, count_join hne hreturn, hnone, Nat.add_zero]
      _ = count needle (line ++ '\n' :: rest) := by
          rw [ih, count_join hne hfeed]

end Text

namespace Outline

open Text

/-- A source as it is, or with returns before its line feeds (`withReturns`). -/
inductive Returned : String × List Char → String × List Char → Prop where
  | same (s : String × List Char) : Returned s s
  | returns (file : String) (text : List Char) : Returned (file, text) (file, withReturns text)

variable {sources sources' : List (String × List Char)}

/-- What `f` reads off the sources one by one is the same for `Returned` ones, if `withReturns`
makes no difference to it (`hf`). -/
theorem map_eq_of_returned {α : Type} {f : String × List Char → α}
    (hf : ∀ s ∈ sources, f (s.1, withReturns s.2) = f s)
    (h : List.Forall₂ Returned sources sources') : sources'.map f = sources.map f := by
  induction h with
  | nil => rfl
  | cons hfirst _ ih =>
    rw [List.map_cons, List.map_cons, ih fun s hs => hf s (List.mem_cons_of_mem _ hs)]
    cases hfirst with
    | same s => rfl
    | returns file text => rw [hf (file, text) List.mem_cons_self]

namespace Profile

variable (p : Profile)

/-- `publicFunctions` are the same for `Returned` sources, as they are found line by line and the
lines are the same (`lines_withReturns`). -/
theorem publicFunctions_returned (hplain : ∀ s ∈ sources, '\r' ∉ s.2)
    (h : List.Forall₂ Returned sources sources') :
    p.publicFunctions sources' = p.publicFunctions sources := by
  have hdeclared := map_eq_of_returned (f := fun s => p.declaredFrom s.1 1 (lines s.2))
    (fun s hs => by rw [lines_withReturns (hplain s hs)]) h
  simp only [publicFunctions, List.flatMap_def, hdeclared]

/-- `calledNames` are the same for `Returned` sources, as they too are found line by line. The plain
sources have no carriage returns of their own (`hplain`). -/
theorem calledNames_returned (hplain : ∀ s ∈ sources, '\r' ∉ s.2)
    (h : List.Forall₂ Returned sources sources') :
    p.calledNames sources' = p.calledNames sources := by
  have hcalled := map_eq_of_returned (f := fun s => (lines s.2).flatMap p.calledOn)
    (fun s hs => by rw [lines_withReturns (hplain s hs)]) h
  exact congrArg List.flatten hcalled

/-- A name that is declared (`Declares`), and so stands on one line, is found as often in the
`corpus` of `Returned` sources. -/
theorem count_corpus_returned (hplain : ∀ s ∈ sources, '\r' ∉ s.2)
    (h : List.Forall₂ Returned sources sources') {name : List Char}
    (hname : p.Declares sources name) :
    count name (corpus sources') = count name (corpus sources) := by
  obtain ⟨hne, hfeed⟩ := hname.ne_nil_and_lineFeed
  have hreturn : '\r' ∉ name := by
    obtain ⟨line, hline, g, hg, rfl⟩ := hname
    obtain ⟨s, hs, hline⟩ := List.mem_flatMap.mp hline
    intro hmem
    exact hplain s hs (mem_of_mem_lines hline ((isInfix_of_declaredOn? hg).subset hmem))
  have hcounts := map_eq_of_returned (f := fun s => count name s.2)
    (fun s _ => count_withReturns hne hfeed hreturn s.2) h
  rw [count_corpus hne hfeed, count_corpus hne hfeed, hcounts]

/-- **Returns make no function used or unused.** `unusedFunctions` reads the declared names, the
calls and the occurrences in the `corpus`, and each of these is the same. -/
theorem unusedFunctions_returned (hplain : ∀ s ∈ sources, '\r' ∉ s.2)
    (h : List.Forall₂ Returned sources sources') :
    p.unusedFunctions sources' = p.unusedFunctions sources := by
  have hkept : ∀ d ∈ p.publicFunctions sources,
      count d.name (corpus sources') = count d.name (corpus sources) := by
    intro d hd
    obtain ⟨hdeclares, -⟩ := exists_mem_publicFunctions_iff.mp ⟨d, hd, rfl⟩
    exact p.count_corpus_returned hplain h hdeclares
  simp only [unusedFunctions, p.publicFunctions_returned hplain h, p.calledNames_returned hplain h]
  congr 2
  apply List.filter_congr
  intro d hd
  rw [hkept d hd]

/-- **Line ends do not matter.** For `sources` without returns (`hplain`), a return before every
line feed of some of them (`Returned`) changes neither the `functionMeasures` nor the `imports` of
any source, and neither the `unusedFunctions` of all of them together. -/
theorem analyses_ignore_line_ends (p : Profile) {sources sources' : List (String × List Char)}
    (hplain : ∀ s ∈ sources, '\r' ∉ s.2) (h : List.Forall₂ Returned sources sources') :
    (sources'.map fun s => p.functionMeasures s.1 s.2)
        = sources.map (fun s => p.functionMeasures s.1 s.2) ∧
      (sources'.map fun s => p.imports s.2) = sources.map (fun s => p.imports s.2) ∧
      p.unusedFunctions sources' = p.unusedFunctions sources := by
  refine ⟨map_eq_of_returned ?_ h, map_eq_of_returned ?_ h, p.unusedFunctions_returned hplain h⟩
  · intro s hs
    rw [functionMeasures, lines_withReturns (hplain s hs)]
    rfl
  · intro s hs
    rw [imports, lines_withReturns (hplain s hs)]
    rfl

end Profile

end Outline

namespace Sample

open Outline Text

/-- Two sources with plain line feeds, of which the first declares `go` and imports `a`. -/
def plainEnds : List (String × List Char) :=
  [("a.rs", "use a;\npub fn go() \x7b\x7d\n".toList), ("b.rs", "mod b;\n".toList)]

/-- The sources `plainEnds`, the first one `withReturns`. -/
def mixedEnds : List (String × List Char) :=
  [("a.rs", withReturns "use a;\npub fn go() \x7b\x7d\n".toList), ("b.rs", "mod b;\n".toList)]

/-- The import and the unused function of `mixedEnds` are found, on the same lines as in
`plainEnds`. -/
theorem mixedEnds_analysed :
    (∀ s ∈ plainEnds, '\r' ∉ s.2) ∧ List.Forall₂ Returned plainEnds mixedEnds ∧
      (mixedEnds.map fun s => rust.functionMeasures s.1 s.2)
        = plainEnds.map (fun s => rust.functionMeasures s.1 s.2) ∧
      (mixedEnds.map fun s => rust.imports s.2) = [[⟨['a'], 1⟩], []] ∧
      rust.unusedFunctions mixedEnds = [⟨"a.rs", "go", 2⟩] := by
  have hplain : ∀ s ∈ plainEnds, '\r' ∉ s.2 := by
    simp only [plainEnds, List.forall_mem_cons]
    decide
  have hreturned : List.Forall₂ Returned plainEnds mixedEnds :=
    .cons (.returns _ _) (.cons (.same _) .nil)
  have himports : (plainEnds.map fun s => rust.imports s.2) = [[⟨['a'], 1⟩], []] := by
    simp only [plainEnds, List.map_cons, List.map_nil]
    cbv
  have hunused : rust.unusedFunctions plainEnds = [⟨"a.rs", "go", 2⟩] := by cbv
  obtain ⟨hmeasures, himports', hunused'⟩ := rust.analyses_ignore_line_ends hplain hreturned
  exact ⟨hplain, hreturned, hmeasures, himports'.trans himports, hunused'.trans hunused⟩

end Sample

end CodeHealth
