import CodeHealth.Proofs.IdleLines

/-!
# Spans and the lines around them

The search for the end of a body looks at one line after the other. Whatever the style of blocks, a
line either ends the search, no matter what comes after it, or leads to another state of the search.
From this alone it follows that a span stays within the lines of its source, and that it depends
neither on the lines above the declaration nor on those below its end.

* `Outline.LineSearch` — a search of this kind;
* `Outline.LineSearch.count_le_length`, `Outline.LineSearch.append_of_lt` — it stays within the
  lines, and what comes after its end does not count;
* `Outline.lineSearch_braces`, `Outline.lineSearch_indentation`, `Outline.lineSearch_keywords` — the
  three styles are such searches;
* `Outline.Style.extent_bounds`, `Outline.Style.extent_append` — what follows for extents;
* `Outline.findSpan_within_and_local` — spans lie within the lines and do not depend on others.
-/

namespace CodeHealth.Outline

open CodeHealth.Text

/-! ### Searching line by line -/

/-- A `search` that counts lines one after the other and gives the count together with a verdict.
Its state is all it knows of the lines before: a line either ends it, whatever comes after, or is
counted and leads to another state. -/
structure LineSearch {σ : Type} (search : σ → List (List Char) → Nat × Bool) : Prop where
  /-- Without lines nothing is counted. -/
  nil : ∀ s, (search s []).1 = 0
  /-- A line ends the search or is counted. -/
  cons : ∀ s line,
    (∃ found : Nat × Bool, found.1 ≤ 1 ∧ ∀ rest, search s (line :: rest) = found) ∨
      ∃ next, ∀ rest, search s (line :: rest) = ((search next rest).1 + 1, (search next rest).2)

namespace LineSearch

variable {σ : Type} {search : σ → List (List Char) → Nat × Bool}

/-- A `LineSearch` counts no more lines than there are. -/
theorem count_le_length (h : LineSearch search) (s : σ) (lines : List (List Char)) :
    (search s lines).1 ≤ lines.length := by
  induction lines generalizing s with
  | nil => simp [h.nil s]
  | cons line rest ih =>
    rw [List.length_cons]
    obtain ⟨found, hfound, hends⟩ | ⟨next, hnext⟩ := h.cons s line
    · rw [hends]
      omega
    · rw [hnext]
      have hrest := ih next
      show (search next rest).1 + 1 ≤ rest.length + 1
      omega

/-- **A search that ends before the last line has seen all it needs.** Further lines `after` change
neither the count nor the verdict. -/
theorem append_of_lt (h : LineSearch search) {s : σ} {lines : List (List Char)}
    (hlt : (search s lines).1 < lines.length) (after : List (List Char)) :
    search s (lines ++ after) = search s lines := by
  induction lines generalizing s with
  | nil => simp at hlt
  | cons line rest ih =>
    rw [List.cons_append]
    obtain ⟨found, -, hends⟩ | ⟨next, hnext⟩ := h.cons s line
    · rw [hends, hends]
    · -- The line is counted, so the search ends before the last one of the others.
      have hrest : (search next rest).1 < rest.length := by
        rw [hnext, List.length_cons] at hlt
        exact Nat.lt_of_succ_lt_succ hlt
      rw [hnext, hnext, ih hrest]

end LineSearch

/-- `bracesFrom` is a `LineSearch`, with the depth and whether a brace was opened for a state. It
stops where the depth is back at zero, and at a semicolon while nothing is opened. -/
theorem lineSearch_braces :
    LineSearch fun (s : Int × Bool) lines => bracesFrom s.1 s.2 0 lines where
  nil _ := rfl
  cons s line := by
    obtain ⟨hasBody, hends⟩ | ⟨depth, opened, -, hnext⟩ := bracesFrom_cons_cases s.1 s.2 line
    · exact .inl ⟨(1, hasBody), Nat.le_refl 1, hends⟩
    · exact .inr ⟨(depth, opened), hnext⟩

/-- `indentedLines` is a `LineSearch`, whose state is the depth of the declaration and never
changes. It stops at the first line that is not deeper and not blank. -/
theorem lineSearch_indentation :
    LineSearch fun (depth : Nat) lines => (indentedLines depth lines, true) where
  nil _ := rfl
  cons depth line := by
    simp only [indentedLines_cons]
    by_cases hbody : (isBlank line || decide (depth < indentation line)) = true
    · right
      exact ⟨depth, fun rest => by rw [if_pos hbody]⟩
    · left
      exact ⟨(0, true), Nat.zero_le 1, fun rest => by rw [if_neg hbody]⟩

/-- `keywordLines` is a `LineSearch`, with the number of open blocks for a state. It stops at the
terminator of the declaration. -/
theorem lineSearch_keywords (blocks : KeywordBlocks) (indent : Nat) :
    LineSearch fun (depth : Int) lines => (keywordLines blocks indent depth lines, true) where
  nil _ := rfl
  cons depth line := by
    obtain hends | ⟨next, hnext⟩ := keywordLines_cons_cases blocks indent depth line
    · exact .inl ⟨(0, true), Nat.zero_le 1, fun rest => by rw [hends rest]⟩
    · exact .inr ⟨next, fun rest => by rw [hnext rest]⟩

/-! ### Extents -/

/-- Every `extent` is the result of a `LineSearch`, which starts with the `declaration` or on the
line after it. -/
theorem Style.exists_search (style : Style) (declaration : List Char) :
    ∃ (σ : Type) (search : σ → List (List Char) → Nat × Bool) (s : σ) (first : Nat),
      LineSearch search ∧ first ≤ 1 ∧ ∀ rest, style.extent (declaration :: rest)
        = ⟨first, first + (search s ((declaration :: rest).drop first)).1,
            (search s ((declaration :: rest).drop first)).2⟩ := by
  cases style with
  | braces =>
    refine ⟨_, _, (0, false), 0, lineSearch_braces, Nat.zero_le 1, fun rest => ?_⟩
    rw [List.drop_zero, Nat.zero_add]
    rfl
  | indentation =>
    exact ⟨_, _, Text.indentation declaration, 1, lineSearch_indentation, Nat.le_refl 1,
      fun rest => rfl⟩
  | keywords blocks =>
    exact ⟨_, _, 1, 1, lineSearch_keywords blocks (Text.indentation declaration), Nat.le_refl 1,
      fun rest => rfl⟩

variable {lines : List (List Char)}

/-- A body does not end before it starts, nor after the last line: `extent` lies within the `lines`,
of which there is at least the declaration (`hne`). -/
theorem Style.extent_bounds (style : Style) (hne : lines ≠ []) :
    (style.extent lines).start ≤ (style.extent lines).stop ∧
      (style.extent lines).stop ≤ lines.length := by
  obtain ⟨declaration, rest, rfl⟩ := List.exists_cons_of_ne_nil hne
  obtain ⟨σ, search, s, first, hsearch, hfirst, hextent⟩ := style.exists_search declaration
  have hcount := hsearch.count_le_length s ((declaration :: rest).drop first)
  rw [List.length_drop, List.length_cons] at hcount
  rw [hextent, List.length_cons]
  dsimp only
  omega

/-- A body that ends before the last line (`hstop`) does not depend on lines `after` that one. -/
theorem Style.extent_append {style : Style} (hstop : (style.extent lines).stop < lines.length)
    (after : List (List Char)) : style.extent (lines ++ after) = style.extent lines := by
  cases lines with
  | nil => simp at hstop
  | cons declaration rest =>
    -- Every style searches with a state from some line on, and a search that stops looks no
    -- further.
    obtain ⟨σ, search, s, first, hsearch, hfirst, hextent⟩ := style.exists_search declaration
    have hlength : first ≤ (declaration :: rest).length := by
      rw [List.length_cons]
      omega
    have hlt : (search s ((declaration :: rest).drop first)).1
        < ((declaration :: rest).drop first).length := by
      rw [hextent] at hstop
      rw [List.length_drop]
      dsimp only at hstop
      omega
    have hsame := hsearch.append_of_lt hlt after
    rw [← List.drop_append_of_le_length hlength, List.cons_append] at hsame
    rw [List.cons_append, hextent, hextent, hsame]

/-! ### Spans -/

/-- The same `span` so many lines further down. -/
def Span.down (count : Nat) (span : Span) : Span :=
  ⟨span.start + count, span.stop + count, span.hasBody⟩

/-- The body of a `span` whose lines are all there is as long as it should be. -/
theorem Span.length_body {span : Span} (h : span.stop ≤ lines.length) :
    (span.body lines).length = span.stop - span.start := by
  rw [body, List.length_take, List.length_drop]
  omega

/-- `findSpan` only looks at the lines from the declaration on, so lines `before` it move the span
`down` by their number and change nothing else. -/
theorem findSpan_prepend (style : Style) (lines : List (List Char)) (start : Nat)
    (before : List (List Char)) :
    findSpan style (before ++ lines) (start + before.length)
      = (findSpan style lines start).down before.length := by
  have hdrop : (before ++ lines).drop (start + before.length) = lines.drop start := by
    rw [Nat.add_comm, List.drop_length_add_append]
  simp only [findSpan, Span.down, hdrop, Span.mk.injEq, and_true]
  omega

/-- **Spans lie within the lines and depend on nothing else.** For a declaration on a line that is
there (`hstart`), the body that `findSpan` finds starts on the declaration or after it and ends with
the last line at the latest, so that all of its lines are there. Lines put in above the source move
the span `down` and change nothing else about it. Lines put in below change nothing at all, if the
span ends before the last line. -/
theorem findSpan_within_and_local (style : Style) {lines : List (List Char)} {start : Nat}
    (hstart : start < lines.length) :
    (start ≤ (findSpan style lines start).start ∧
      (findSpan style lines start).start ≤ (findSpan style lines start).stop ∧
      (findSpan style lines start).stop ≤ lines.length ∧
      ((findSpan style lines start).body lines).length
        = (findSpan style lines start).stop - (findSpan style lines start).start) ∧
    (∀ before, findSpan style (before ++ lines) (start + before.length)
      = (findSpan style lines start).down before.length) ∧
    ((findSpan style lines start).stop < lines.length →
      ∀ after, findSpan style (lines ++ after) start = findSpan style lines start) := by
  have hne : lines.drop start ≠ [] := by
    rw [Ne, List.drop_eq_nil_iff]
    omega
  obtain ⟨hle, hstop⟩ := style.extent_bounds hne
  rw [List.length_drop] at hstop
  have hwithin : (findSpan style lines start).stop ≤ lines.length := by
    show start + (style.extent (lines.drop start)).stop ≤ lines.length
    omega
  refine ⟨⟨Nat.le_add_right _ _, Nat.add_le_add_left hle start, hwithin,
    Span.length_body hwithin⟩, findSpan_prepend style lines start, ?_⟩
  -- The span ends before the last line, so the search had stopped by itself.
  intro hends after
  have hlt : (style.extent (lines.drop start)).stop < (lines.drop start).length := by
    change start + (style.extent (lines.drop start)).stop < lines.length at hends
    rw [List.length_drop]
    omega
  rw [findSpan, List.drop_append_of_le_length (Nat.le_of_lt hstart), Style.extent_append hlt]
  rfl

end CodeHealth.Outline

namespace CodeHealth.Sample

open Outline

/-- A method with a block in it, and a line after the method. -/
def methodAndMore : List (List Char) :=
  ["def f", "  if a", "  end", "end", "g"].map String.toList

/-- The method of `methodAndMore` keeps its body with a class opened above it, and with one more
terminator below. -/
theorem method_span_in_class :
    0 < methodAndMore.length ∧
      findSpan (.keywords rubyBlocks) methodAndMore 0 = ⟨1, 3, true⟩ ∧
      findSpan (.keywords rubyBlocks) (["class A".toList] ++ methodAndMore) 1 = ⟨2, 4, true⟩ ∧
      findSpan (.keywords rubyBlocks) (methodAndMore ++ ["end".toList]) 0 = ⟨1, 3, true⟩ := by
  have hspan : findSpan (.keywords rubyBlocks) methodAndMore 0 = ⟨1, 3, true⟩ := by
    decide +kernel
  have hlength : 0 < methodAndMore.length := by decide
  obtain ⟨-, habove, hbelow⟩ := findSpan_within_and_local (.keywords rubyBlocks) hlength
  rw [hspan] at habove hbelow
  exact ⟨hlength, hspan, habove ["class A".toList], hbelow (by decide) ["end".toList]⟩

end CodeHealth.Sample
