import CodeHealth.Text.Lines
import CodeHealth.Text.Search
import Mathlib.Data.Bool.AllAny
import Mathlib.Data.List.Infix
import Mathlib.Data.List.TakeWhile

/-!
# Texts and how they are cut

What is read line by line is cut in several ways: at line feeds, at white space, and around a text
that occurs in it. What each cut leaves is said here apart from the readers that make it.

* `Text.spacePoints` — the code points of white space;
* `Text.firstInk?`, `Text.IsTrimmed` — texts and the white space around them;
* `Text.trim_around`, `Text.isInfix_trim_iff` — white space around a text does not matter;
* `Text.map_lines` — lines are what stands between line feeds;
* `Text.splitClass_append_cons` — the pieces before a character of a class and those after it;
* `Text.fields_append_cons` — the fields before a white space and those after it;
* `Text.exists_first`, `Text.splitOn_append`, `Text.breakOn_append` — around the first occurrence of
  a text;
* `Text.pair_isInfix_append_iff` — where two characters stand side by side in an append.
-/

namespace CodeHealth.Text

variable {text front back line : List Char}

/-! ### The characters of white space -/

/-- A number that `inRanges` finds lies in one of the `ranges`. -/
theorem inRanges_eq_true {ranges : List (Nat × Nat)} {n : Nat} (h : inRanges ranges n = true) :
    ∃ r ∈ ranges, r.1 ≤ n ∧ n ≤ r.2 := by
  fun_induction inRanges ranges n with
  | case1 => cases h
  | case2 => cases h
  | case3 lo hi rest n hlo hhi => exact ⟨(lo, hi), List.mem_cons_self, by simpa using hlo, hhi⟩
  | case4 lo hi rest n _ _ ih =>
    obtain ⟨r, hr, hle⟩ := ih h
    exact ⟨r, List.mem_cons_of_mem _ hr, hle⟩

/-- The code points of white space, by `spaceRanges`. There are few, so that a class can be tried on
all of them. -/
def spacePoints : List Nat :=
  spaceRanges.flatMap fun range => List.range' range.1 (range.2 + 1 - range.1)

/-- Every character that `isSpace` is one of the `spacePoints`. -/
theorem mem_spacePoints {c : Char} (h : isSpace c = true) : c.toNat ∈ spacePoints := by
  obtain ⟨range, hrange, hlo, hhi⟩ := inRanges_eq_true h
  exact List.mem_flatMap.mpr ⟨range, hrange, List.mem_range'_1.mpr ⟨hlo, by omega⟩⟩

/-! ### Lines without the blanks around them -/

/-- The first character of a `line` that is no white space. -/
def firstInk? (line : List Char) : Option Char := (trimStart line).head?

/-- What `firstInk?` gives is no white space. -/
theorem isSpace_of_firstInk? {c : Char} (h : firstInk? line = some c) : isSpace c = false := by
  have hkept := List.head?_dropWhile_not isSpace line
  rw [← trimStart, ← firstInk?, h] at hkept
  exact hkept

theorem firstInk?_eq_none_iff : firstInk? line = none ↔ isBlank line = true := by
  rw [firstInk?, List.head?_eq_none_iff, trimStart, List.dropWhile_eq_nil_iff, isBlank,
    List.all_eq_true]

/-- From the end, `trimEnd` drops nothing beyond the last character that is no white space. -/
theorem trimEnd_cons {c : Char} (h : isSpace c = false) (rest : List Char) :
    ∃ kept, trimEnd (c :: rest) = c :: kept := by
  rw [trimEnd, List.reverse_cons, List.dropWhile_append]
  split
  · exact ⟨[], by simp [h]⟩
  · exact ⟨(rest.reverse.dropWhile isSpace).reverse, by simp⟩

/-- What is left by `trim` starts with `firstInk?` of the line. -/
theorem head?_trim (line : List Char) : (trim line).head? = firstInk? line := by
  cases hstart : trimStart line with
  | nil => simp [trim, trimEnd, firstInk?, hstart]
  | cons c rest =>
    have hfirst : firstInk? line = some c := by rw [firstInk?, hstart, List.head?_cons]
    obtain ⟨kept, hkept⟩ := trimEnd_cons (isSpace_of_firstInk? hfirst) rest
    rw [trim, hstart, hkept, hfirst, List.head?_cons]

/-! ### Without white space around -/

/-- The `text` neither starts nor ends with white space. -/
def IsTrimmed (text : List Char) : Prop :=
  (∀ c, text.head? = some c → isSpace c = false) ∧
    ∀ c, text.getLast? = some c → isSpace c = false

/-- `isBlank` says that all characters are white space. -/
theorem isBlank_eq_true : isBlank text = true ↔ ∀ c ∈ text, isSpace c = true := by
  rw [isBlank, List.all_eq_true]

theorem isBlank_append : isBlank (front ++ back) = true ↔
    isBlank front = true ∧ isBlank back = true := by
  rw [isBlank, isBlank, isBlank, List.all_append, Bool.and_eq_true]

theorem not_mem_of_isBlank (h : isBlank text = true) {c : Char} (hc : isSpace c = false) :
    c ∉ text := by
  intro hmem
  have hspace := isBlank_eq_true.mp h c hmem
  exact Bool.noConfusion (hspace.symm.trans hc)

/-- `trimStart` drops white space at the start up to the first character that is none. -/
theorem trimStart_append (hfront : isBlank front = true)
    (htext : ∀ c, text.head? = some c → isSpace c = false) : trimStart (front ++ text) = text := by
  rw [trimStart, List.dropWhile_append_of_pos (isBlank_eq_true.mp hfront)]
  cases text with
  | nil => rfl
  | cons c rest => rw [List.dropWhile_cons, htext c rfl, if_neg Bool.false_ne_true]

/-- `trimEnd` does the same at the end, which is the start of the text in reverse. -/
theorem trimEnd_append (hback : isBlank back = true)
    (htext : ∀ c, text.getLast? = some c → isSpace c = false) : trimEnd (text ++ back) = text := by
  have hback' : isBlank back.reverse = true := by
    rw [isBlank, List.all_reverse]
    exact hback
  have htext' : ∀ c, text.reverse.head? = some c → isSpace c = false := by
    intro c hc
    rw [List.head?_reverse] at hc
    exact htext c hc
  have hreverse := trimStart_append hback' htext'
  rw [trimStart, ← List.reverse_append] at hreverse
  rw [trimEnd, hreverse, List.reverse_reverse]

/-- A text that `IsTrimmed` and stands between white space is what `trim` leaves. -/
theorem trim_surrounded (hfront : isBlank front = true) (htext : IsTrimmed text) (hne : text ≠ [])
    (hback : isBlank back = true) : trim (front ++ text ++ back) = text := by
  have hstart : trimStart (front ++ (text ++ back)) = text ++ back := by
    refine trimStart_append hfront fun c hc => htext.1 c ?_
    rwa [List.head?_append_of_ne_nil _ hne] at hc
  rw [trim, List.append_assoc, hstart, trimEnd_append hback htext.2]

/-- What `trimEnd` leaves of a text has no white space at its end. -/
theorem isSpace_of_getLast?_trimEnd {c : Char} (h : (trimEnd text).getLast? = some c) :
    isSpace c = false := by
  have hkept := List.head?_dropWhile_not isSpace text.reverse
  rw [trimEnd, List.getLast?_reverse] at h
  rw [h] at hkept
  exact hkept

/-- What `trim` leaves `IsTrimmed`. -/
theorem isTrimmed_trim (text : List Char) : IsTrimmed (trim text) := by
  constructor
  · intro c hc
    rw [head?_trim] at hc
    exact isSpace_of_firstInk? hc
  · intro c hc
    exact isSpace_of_getLast?_trimEnd hc

/-- `trim` leaves a stretch of the text. -/
theorem trim_isInfix (text : List Char) : trim text <:+: text := by
  have hstart : trimStart text <:+: text := (List.dropWhile_suffix isSpace).isInfix
  have hend : trimEnd (trimStart text) <:+: trimStart text := by
    rw [trimEnd, ← List.reverse_infix, List.reverse_reverse]
    exact (List.dropWhile_suffix isSpace).isInfix
  exact hend.trans hstart

/-- What `trimEnd` drops is white space. -/
theorem exists_trimEnd (text : List Char) :
    ∃ back, isBlank back = true ∧ text = trimEnd text ++ back := by
  refine ⟨(text.reverse.takeWhile isSpace).reverse, ?_, ?_⟩
  · rw [isBlank, List.all_reverse]
    exact List.all_takeWhile
  · rw [trimEnd, ← List.reverse_append, List.takeWhile_append_dropWhile, List.reverse_reverse]

/-- What `trimEnd` leaves starts like the text, if anything is left. -/
theorem head?_of_trimEnd {c : Char} (h : (trimEnd text).head? = some c) : text.head? = some c := by
  obtain ⟨back, -, htext⟩ := exists_trimEnd text
  rw [htext, List.head?_append, h]
  rfl

/-- `trimEnd` drops nothing before the last character that is no white space. -/
theorem trimEnd_append_of_ink (h : ∀ c, front.getLast? = some c → isSpace c = false)
    (text : List Char) : trimEnd (front ++ text) = front ++ trimEnd text := by
  obtain ⟨back, hback, htext⟩ := exists_trimEnd text
  have hlast : ∀ c, (front ++ trimEnd text).getLast? = some c → isSpace c = false := by
    intro c hc
    by_cases hend : trimEnd text = []
    · rw [hend, List.append_nil] at hc
      exact h c hc
    · rw [List.getLast?_append_of_ne_nil _ hend] at hc
      exact isSpace_of_getLast?_trimEnd hc
  have hall : front ++ text = front ++ trimEnd text ++ back := by
    rw [List.append_assoc, ← htext]
  rw [hall, trimEnd_append hback hlast]

/-- `trim` takes white space off both ends and nothing else: the text is what is left between two
blank pieces. -/
theorem exists_trim (text : List Char) :
    ∃ front back, isBlank front = true ∧ isBlank back = true ∧
      text = front ++ trim text ++ back := by
  obtain ⟨back, hback, hend⟩ := exists_trimEnd (trimStart text)
  refine ⟨text.takeWhile isSpace, back, List.all_takeWhile, hback, ?_⟩
  rw [trim, List.append_assoc, ← hend]
  exact List.takeWhile_append_dropWhile.symm

/-- `trim` leaves nothing of blank texts only. -/
theorem trim_eq_nil_iff : trim text = [] ↔ isBlank text = true := by
  rw [← firstInk?_eq_none_iff, ← head?_trim, List.head?_eq_none_iff]

/-- White space around a `text` is trimmed off with its own. -/
theorem trim_around (hfront : isBlank front = true) (hback : isBlank back = true)
    (text : List Char) : trim (front ++ text ++ back) = trim text := by
  by_cases hempty : trim text = []
  · have hblank := trim_eq_nil_iff.mp hempty
    rw [hempty, trim_eq_nil_iff, isBlank_append, isBlank_append]
    exact ⟨⟨hfront, hblank⟩, hback⟩
  · obtain ⟨front', back', hfront', hback', htext⟩ := exists_trim text
    have hall : front ++ text ++ back = (front ++ front') ++ trim text ++ (back' ++ back) := by
      calc front ++ text ++ back
          = front ++ (front' ++ trim text ++ back') ++ back := by rw [← htext]
        _ = (front ++ front') ++ trim text ++ (back' ++ back) := by simp only [List.append_assoc]
    rw [hall]
    exact trim_surrounded (isBlank_append.mpr ⟨hfront, hfront'⟩) (isTrimmed_trim text) hempty
      (isBlank_append.mpr ⟨hback', hback⟩)

/-- White space behind a text makes no difference to `trim`. -/
theorem trim_append_blank (hback : isBlank back = true) (text : List Char) :
    trim (text ++ back) = trim text := by
  have hnil : isBlank [] = true := rfl
  exact trim_around hnil hback text

/-- White space in front of a text makes no difference to `trim`. -/
theorem trim_blank_append (hfront : isBlank front = true) (text : List Char) :
    trim (front ++ text) = trim text := by
  have haround := trim_around hfront (rfl : isBlank [] = true) text
  rwa [List.append_nil] at haround

theorem trim_trim (text : List Char) : trim (trim text) = trim text := by
  obtain ⟨front, back, hfront, hback, htext⟩ := exists_trim text
  have haround := trim_around hfront hback (trim text)
  rw [← htext] at haround
  exact haround.symm

/-! ### Occurrences -/

variable {needle left right : List Char}

/-- `occursIn` decides whether `needle` is an infix. -/
theorem occursIn_iff_isInfix : occursIn needle text = true ↔ needle <:+: text := by
  induction text with
  | nil => rw [occursIn, List.isEmpty_iff, List.infix_nil]
  | cons c rest ih =>
    rw [occursIn, Bool.or_eq_true, List.isPrefixOf_iff_prefix, ih, List.infix_cons_iff]

/-- A text does not start in another one, `front`, that lacks its first character. -/
theorem isInfix_of_append_of_not_mem {c : Char} (hfront : c ∉ front)
    (h : c :: needle <:+: front ++ text) : c :: needle <:+: text := by
  induction front with
  | nil => exact h
  | cons d front ih =>
    rw [List.mem_cons, not_or] at hfront
    obtain ⟨hd, hfront⟩ := hfront
    rcases List.infix_cons_iff.mp h with hstart | hoccurs
    · exact absurd (List.cons_prefix_cons.mp hstart).1 hd
    · exact ih hfront hoccurs

/-- A `needle` that does not start with white space (`hhead`) does not start in white space, so it
occurs in what follows the blank `front`. -/
theorem isInfix_of_blank_append (hne : needle ≠ [])
    (hhead : ∀ c, needle.head? = some c → isSpace c = false) (hfront : isBlank front = true)
    (h : needle <:+: front ++ text) : needle <:+: text := by
  obtain ⟨c, rest, rfl⟩ := List.exists_cons_of_ne_nil hne
  exact isInfix_of_append_of_not_mem (not_mem_of_isBlank hfront (hhead c rfl)) h

/-- Nor does a `needle` that does not end with white space (`hlast`) end in it: that is the start of
the reverse. -/
theorem isInfix_of_append_blank (hne : needle ≠ [])
    (hlast : ∀ c, needle.getLast? = some c → isSpace c = false) (hback : isBlank back = true)
    (h : needle <:+: text ++ back) : needle <:+: text := by
  have hback' : isBlank back.reverse = true := by
    rw [isBlank, List.all_reverse]
    exact hback
  have hhead : ∀ c, needle.reverse.head? = some c → isSpace c = false := by
    intro c hc
    rw [List.head?_reverse] at hc
    exact hlast c hc
  have hne' : needle.reverse ≠ [] := by simpa using hne
  rw [← List.reverse_infix, List.reverse_append] at h
  exact List.reverse_infix.mp (isInfix_of_blank_append hne' hhead hback' h)

/-- A `needle` that `IsTrimmed` occurs in a text iff it occurs in what `trim` leaves of it. -/
theorem isInfix_trim_iff (hne : needle ≠ []) (hneedle : IsTrimmed needle) :
    needle <:+: trim text ↔ needle <:+: text := by
  refine ⟨fun h => h.trans (trim_isInfix text), fun h => ?_⟩
  obtain ⟨front, back, hfront, hback, htext⟩ := exists_trim text
  rw [htext] at h
  have hstart := isInfix_of_append_blank hne hneedle.2 hback h
  exact isInfix_of_blank_append hne hneedle.1 hfront hstart

/-- Two characters side by side in `left ++ right` are in one of the two, or meet where these do. -/
theorem pair_isInfix_append_iff {a b : Char} : [a, b] <:+: left ++ right ↔
    [a, b] <:+: left ∨ [a, b] <:+: right ∨ left.getLast? = some a ∧ right.head? = some b := by
  rw [List.infix_append_iff_ne_nil, ← List.singleton_suffix_iff_getLast?_eq_some,
    ← List.singleton_prefix_iff_head?_eq_some]
  refine or_congr Iff.rfl (or_congr Iff.rfl ⟨?_, ?_⟩)
  · rintro ⟨first, second, hfirst, hsecond, hpair, hleft, hright⟩
    obtain ⟨c, first, rfl⟩ := List.exists_cons_of_ne_nil hfirst
    obtain ⟨d, second, rfl⟩ := List.exists_cons_of_ne_nil hsecond
    cases first with
    | nil =>
      simp only [List.singleton_append, List.cons.injEq] at hpair
      obtain ⟨rfl, rfl, rfl⟩ := hpair
      exact ⟨hleft, hright⟩
    -- Two characters that lie across the seam leave one on each side.
    | cons e first =>
      have hlength := congrArg List.length hpair
      simp only [List.length_cons, List.length_append, List.length_nil] at hlength
      omega
  · rintro ⟨hleft, hright⟩
    exact ⟨[a], [b], List.cons_ne_nil a [], List.cons_ne_nil b [], rfl, hleft, hright⟩

/-- Two characters that are no white space do not stand side by side across a `gap` of it. So the
pair occurs only where it did on one of the sides. -/
theorem not_pair_isInfix_of_gap {a b : Char} (ha : isSpace a = false) (hb : isSpace b = false)
    {gap : List Char} (hne : gap ≠ []) (hgap : isBlank gap = true) (hleft : ¬ [a, b] <:+: left)
    (hright : ¬ [a, b] <:+: right) : ¬ [a, b] <:+: left ++ gap ++ right := by
  have hagap : a ∉ gap := not_mem_of_isBlank hgap ha
  have hbgap : b ∉ gap := not_mem_of_isBlank hgap hb
  rw [pair_isInfix_append_iff, pair_isInfix_append_iff]
  rintro ((h | h | ⟨-, hhead⟩) | h | ⟨hlast, -⟩)
  · exact hleft h
  · exact hagap (h.subset (List.mem_cons_self))
  · exact hbgap (List.mem_of_head? hhead)
  · exact hright h
  · rw [List.getLast?_append_of_ne_nil _ hne] at hlast
    exact hagap (List.mem_of_getLast? hlast)

/-! ### The first occurrence -/

/-- An occurrence of `needle` is the first one when no other starts before it, also none that
overlaps it. That is why `h` is about `left ++ needle.dropLast` and not about `left` alone. -/
theorem not_isPrefix_of_first {c : Char}
    (h : ¬ needle <:+: c :: left ++ needle.dropLast) (right : List Char) :
    ¬ needle <+: c :: (left ++ needle ++ right) := by
  intro hstarts
  have hfront : c :: left ++ needle.dropLast <+: c :: (left ++ needle ++ right) := by
    have hdrop : needle.dropLast <+: needle ++ right :=
      (List.dropLast_prefix needle).trans (List.prefix_append needle right)
    simpa using hdrop
  have hlength : needle.length ≤ (c :: left ++ needle.dropLast).length := by
    simp only [List.length_append, List.length_cons, List.length_dropLast]
    omega
  exact h (List.prefix_of_prefix_length_le hstarts hfront hlength).isInfix

/-- A `needle` that occurs in a text has a first occurrence. -/
theorem exists_first (hne : needle ≠ []) (h : needle <:+: text) :
    ∃ left right, text = left ++ needle ++ right ∧ ¬ needle <:+: left ++ needle.dropLast := by
  induction text with
  | nil => exact absurd (List.infix_nil.mp h) hne
  | cons c rest ih =>
    -- The first occurrence is here, or it is the first one of the rest.
    by_cases hstarts : needle <+: c :: rest
    · obtain ⟨right, hright⟩ := hstarts
      refine ⟨[], right, hright.symm, fun hoccurs => ?_⟩
      have hlength := hoccurs.length_le
      have hpos := List.length_pos_iff.mpr hne
      simp only [List.nil_append, List.length_dropLast] at hlength
      omega
    · obtain ⟨left, right, rfl, hleft⟩ := ih ((List.infix_cons_iff.mp h).resolve_left hstarts)
      refine ⟨c :: left, right, rfl, fun hoccurs => ?_⟩
      rcases List.infix_cons_iff.mp hoccurs with hstart | hoccurs
      · -- Even an occurrence up to its last character would start one here.
        refine hstarts (hstart.trans ?_)
        have hdrop : needle.dropLast <+: needle ++ right :=
          (List.dropLast_prefix needle).trans (List.prefix_append needle right)
        simpa using hdrop
      · exact hleft hoccurs

/-- `splitFrom` skips characters that belong to the last occurrence. -/
theorem splitFrom_skip (needle piece skipped text : List Char) :
    splitFrom needle skipped.length piece (skipped ++ text) = splitFrom needle 0 piece text := by
  induction skipped with
  | nil => rfl
  | cons c skipped ih => exact ih

/-- `splitFrom` ends its `piece` at the first occurrence of `needle`, and starts anew behind it.
That it is the first one is what `h` says: none starts earlier. -/
theorem splitFrom_append (hne : needle ≠ []) (h : ¬ needle <:+: left ++ needle.dropLast)
    (piece right : List Char) :
    splitFrom needle 0 piece (left ++ needle ++ right)
      = (piece.reverse ++ left) :: splitOn needle right := by
  induction left generalizing piece with
  | nil =>
    obtain ⟨c, rest, rfl⟩ := List.exists_cons_of_ne_nil hne
    have hstart : (c :: rest).isPrefixOf (c :: (rest ++ right)) = true :=
      List.isPrefixOf_iff_prefix.mpr (List.prefix_append (c :: rest) right)
    rw [List.nil_append, List.cons_append, splitFrom, if_pos hstart, List.append_nil]
    exact congrArg _ (splitFrom_skip (c :: rest) [] rest right)
  | cons c left ih =>
    have hnot : ¬ needle.isPrefixOf (c :: (left ++ needle ++ right)) = true := by
      rw [List.isPrefixOf_iff_prefix]
      exact not_isPrefix_of_first h right
    have hleft : ¬ needle <:+: left ++ needle.dropLast :=
      fun hoccurs => h (List.infix_cons_iff.mpr (.inr hoccurs))
    rw [List.cons_append, List.cons_append, splitFrom, if_neg hnot, ih hleft]
    simp

/-- The first piece of `splitOn` ends at the first occurrence of `needle`, and the others are those
of what follows. -/
theorem splitOn_append (hne : needle ≠ []) (h : ¬ needle <:+: left ++ needle.dropLast)
    (right : List Char) :
    splitOn needle (left ++ needle ++ right) = left :: splitOn needle right := by
  rw [splitOn, splitFrom_append hne h]
  rfl

/-- `splitFrom` adds a text without `needle` to its `piece` as a whole. -/
theorem splitFrom_of_not_isInfix (h : ¬ needle <:+: text) (piece : List Char) :
    splitFrom needle 0 piece text = [piece.reverse ++ text] := by
  induction text generalizing piece with
  | nil => simp [splitFrom]
  | cons c rest ih =>
    rw [List.infix_cons_iff, not_or] at h
    rw [splitFrom, if_neg (by rw [List.isPrefixOf_iff_prefix]; exact h.1), ih h.2]
    simp

/-- `splitOn` does not cut a text without `needle`. -/
theorem splitOn_of_not_isInfix (h : ¬ needle <:+: text) : splitOn needle text = [text] := by
  rw [splitOn, splitFrom_of_not_isInfix h]
  rfl

/-- `breakFrom` ends at the first occurrence of `needle`, with what stood `before` it, given in
reverse, in front. -/
theorem breakFrom_append (h : ¬ needle <:+: left ++ needle.dropLast) (hne : needle ≠ [])
    (before right : List Char) :
    breakFrom needle before (left ++ needle ++ right) = some (before.reverse ++ left, right) := by
  induction left generalizing before with
  | nil =>
    obtain ⟨c, rest, rfl⟩ := List.exists_cons_of_ne_nil hne
    have hstart : (c :: rest).isPrefixOf (c :: (rest ++ right)) = true :=
      List.isPrefixOf_iff_prefix.mpr (List.prefix_append (c :: rest) right)
    rw [List.nil_append, List.cons_append, breakFrom, if_pos hstart, List.append_nil]
    simp
  | cons c left ih =>
    have hnot : ¬ needle.isPrefixOf (c :: (left ++ needle ++ right)) = true := by
      rw [List.isPrefixOf_iff_prefix]
      exact not_isPrefix_of_first h right
    have hleft : ¬ needle <:+: left ++ needle.dropLast :=
      fun hoccurs => h (List.infix_cons_iff.mpr (.inr hoccurs))
    rw [List.cons_append, List.cons_append, breakFrom, if_neg hnot, ih hleft]
    simp

/-- `breakOn` breaks a text at the first occurrence of `needle`. -/
theorem breakOn_append (hne : needle ≠ []) (h : ¬ needle <:+: left ++ needle.dropLast)
    (right : List Char) : breakOn needle (left ++ needle ++ right) = some (left, right) := by
  rw [breakOn, breakFrom_append h hne]
  rfl

/-- `breakFrom` finds nothing in a text without `needle`. -/
theorem breakFrom_of_not_isInfix (h : ¬ needle <:+: text) (before : List Char) :
    breakFrom needle before text = none := by
  induction text generalizing before with
  | nil =>
    have hne : ¬ needle.isEmpty = true := by
      rw [List.isEmpty_iff]
      rintro rfl
      exact h List.infix_rfl
    rw [breakFrom, if_neg hne]
  | cons c rest ih =>
    rw [List.infix_cons_iff, not_or] at h
    rw [breakFrom, if_neg (by rw [List.isPrefixOf_iff_prefix]; exact h.1), ih h.2]

/-! ### After the last of a character -/

section AfterLast

variable {c : Char} {name : List Char}

/-- Going back from the end, a `name` without `c` is passed as a whole. -/
theorem takeWhile_reverse_append (h : c ∉ name) (rest : List Char) :
    (name.reverse ++ rest).takeWhile (· ≠ c) = name.reverse ++ rest.takeWhile (· ≠ c) := by
  refine List.takeWhile_append_of_pos fun d hd => decide_eq_true ?_
  rintro rfl
  exact h (List.mem_reverse.mp hd)

/-- `afterLast` gives the `name` behind the last `c`. -/
theorem afterLast_append (front : List Char) (h : c ∉ name) :
    afterLast c (front ++ c :: name) = name := by
  have hreverse : (front ++ c :: name).reverse = name.reverse ++ c :: front.reverse := by simp
  rw [afterLast, hreverse, takeWhile_reverse_append h]
  simp

/-- `afterLast` gives a text without `c` as a whole. -/
theorem afterLast_eq_self (h : c ∉ name) : afterLast c name = name := by
  have hall := takeWhile_reverse_append h []
  rw [List.append_nil, List.takeWhile_nil, List.append_nil] at hall
  rw [afterLast, hall, List.reverse_reverse]

/-- What `afterLast` gives has no `c` in it, and is the end of the text: the whole text, or what
follows a `c`. -/
theorem afterLast_cases (c : Char) (text : List Char) :
    c ∉ afterLast c text ∧
      (text = afterLast c text ∨ ∃ front, text = front ++ c :: afterLast c text) := by
  by_cases hmem : c ∈ text
  · -- The last one is the first of the text in reverse.
    obtain ⟨after, before, hreverse, hafter⟩ :=
      List.eq_append_cons_of_mem (List.mem_reverse.mpr hmem)
    have htext : text = before.reverse ++ c :: after.reverse := by
      rw [← List.reverse_reverse text, hreverse]
      simp
    have hlast : c ∉ after.reverse := fun h => hafter (List.mem_reverse.mp h)
    rw [htext, afterLast_append _ hlast]
    exact ⟨hlast, .inr ⟨before.reverse, rfl⟩⟩
  · rw [afterLast_eq_self hmem]
    exact ⟨hmem, .inl rfl⟩

end AfterLast

/-! ### Pieces and fields -/

section Pieces

variable {p : Char → Bool} {c : Char}

/-- `splitClassFrom` is the recursion behind `List.splitOnP`. -/
theorem splitClassFrom_eq_splitOnPPrepend (p : Char → Bool) (piece text : List Char) :
    splitClassFrom p piece text = List.splitOnPPrepend p text piece := by
  induction text generalizing piece with
  | nil => rfl
  | cons c rest ih =>
    rw [splitClassFrom, List.splitOnPPrepend_cons_eq_if, ih, ih]
    rfl

/-- `splitClass` is `List.splitOnP`, so that what is known of that can be used. -/
theorem splitClass_eq_splitOnP (p : Char → Bool) (text : List Char) :
    splitClass p text = text.splitOnP p := by
  rw [splitClass, splitClassFrom_eq_splitOnPPrepend]
  rfl

/-- The pieces of a text are those before any character of the class `p` in it and those after
it. -/
theorem splitClass_append_cons (hc : p c = true) (left right : List Char) :
    splitClass p (left ++ c :: right) = splitClass p left ++ splitClass p right := by
  simp only [splitClass_eq_splitOnP]
  exact List.splitOnP_append_cons left right hc

/-- A text without characters of the class `p` is one piece. -/
theorem splitClass_eq_singleton (h : ∀ c ∈ text, p c = false) : splitClass p text = [text] := by
  rw [splitClass_eq_splitOnP]
  exact List.splitOnP_eq_singleton h

end Pieces

/-- **Fields are cut at white space.** The `fields` of a text are those before any white space in it
and those after it. -/
theorem fields_append_cons {c : Char} (hc : isSpace c = true) (left right : List Char) :
    fields (left ++ c :: right) = fields left ++ fields right := by
  unfold fields
  rw [splitClass_append_cons hc, List.filter_append]

theorem fields_of_ink (hne : text ≠ []) (h : ∀ c ∈ text, isSpace c = false) :
    fields text = [text] := by
  rw [fields, splitClass_eq_singleton h]
  simp [hne]

/-- White space in front of a text makes no difference to its `fields`. -/
theorem fields_blank_append (hfront : isBlank front = true) (text : List Char) :
    fields (front ++ text) = fields text := by
  induction front with
  | nil => rfl
  | cons c front ih =>
    have hspace := isBlank_eq_true.mp hfront
    have hcut := fields_append_cons (hspace c List.mem_cons_self) [] (front ++ text)
    rw [List.nil_append] at hcut
    rw [List.cons_append, hcut, ih (isBlank_eq_true.mpr fun d hd =>
      hspace d (List.mem_cons_of_mem c hd))]
    rfl

/-- A blank text has no `fields`. -/
theorem fields_of_isBlank (h : isBlank text = true) : fields text = [] := by
  have hblank := fields_blank_append h []
  rw [List.append_nil] at hblank
  rw [hblank]
  rfl

/-- White space behind a text makes no difference to its `fields`. -/
theorem fields_append_blank (hback : isBlank back = true) (text : List Char) :
    fields (text ++ back) = fields text := by
  cases back with
  | nil => rw [List.append_nil]
  | cons c back =>
    have hspace := isBlank_eq_true.mp hback
    have hblank : isBlank back = true :=
      isBlank_eq_true.mpr fun d hd => hspace d (List.mem_cons_of_mem c hd)
    rw [fields_append_cons (hspace c List.mem_cons_self), fields_of_isBlank hblank,
      List.append_nil]

/-- Two texts with a `gap` of white space between them have the `fields` of both. -/
theorem fields_append_gap {gap : List Char} (hne : gap ≠ []) (hgap : isBlank gap = true)
    (left right : List Char) : fields (left ++ gap ++ right) = fields left ++ fields right := by
  obtain ⟨c, rest, rfl⟩ := List.exists_cons_of_ne_nil hne
  have hspace := isBlank_eq_true.mp hgap
  have hrest : isBlank rest = true :=
    isBlank_eq_true.mpr fun d hd => hspace d (List.mem_cons_of_mem c hd)
  rw [List.append_assoc, List.cons_append, fields_append_cons (hspace c List.mem_cons_self),
    fields_blank_append hrest]

/-! ### Lines -/

/-- `linesFrom` adds a text without line feeds to its `current` line as a whole. -/
theorem linesFrom_append_of_not_mem (h : '\n' ∉ line) (rest current : List Char) :
    linesFrom (line ++ rest) current = linesFrom rest (line.reverse ++ current) := by
  induction line generalizing current with
  | nil => rfl
  | cons c line ih =>
    have hc : c ≠ '\n' := fun heq => h (heq ▸ List.mem_cons_self)
    have hline : '\n' ∉ line := fun hmem => h (List.mem_cons_of_mem c hmem)
    rw [List.cons_append, linesFrom, if_neg hc, ih hline]
    simp

/-- A text without line feeds is one of its `lines`, or has none when it is empty. -/
theorem lines_of_not_mem (h : '\n' ∉ text) : lines text = if text = [] then [] else [text] := by
  have hall := linesFrom_append_of_not_mem h [] []
  rw [List.append_nil, List.append_nil] at hall
  rw [lines, hall]
  cases text with
  | nil => rfl
  | cons c rest =>
    rw [if_neg (List.cons_ne_nil c rest), linesFrom]
    · simp
    · simp

/-- What stands before a line feed is one of the `lines`, without a return at its end, and the other
lines are those of the `rest`. -/
theorem lines_append_feed (h : '\n' ∉ line) (rest : List Char) :
    ∃ kept, (line = kept ∨ line = kept ++ ['\r']) ∧
      lines (line ++ '\n' :: rest) = kept :: lines rest := by
  refine ⟨(dropReturn line.reverse).reverse, ?_, ?_⟩
  · unfold dropReturn
    split
    · rename_i others hothers
      right
      rw [← List.reverse_reverse line, hothers]
      simp
    · left
      simp
  · rw [lines, linesFrom_append_of_not_mem h, List.append_nil, linesFrom, if_pos rfl]
    rfl

/-- A text is built up from its end, line by line: the induction that follows `lines`. -/
theorem lines_induction {motive : List Char → Prop}
    (last : ∀ line, '\n' ∉ line → motive line)
    (feed : ∀ line rest, '\n' ∉ line → motive rest → motive (line ++ '\n' :: rest))
    (text : List Char) : motive text := by
  -- Each line feed shortens what is left to cut.
  induction hlength : text.length using Nat.strong_induction_on generalizing text with
  | _ n ih =>
  by_cases hmem : '\n' ∈ text
  · obtain ⟨line, rest, rfl, hline⟩ := List.eq_append_cons_of_mem hmem
    have hshorter : rest.length < n := by
      rw [← hlength, List.length_append, List.length_cons]
      omega
    exact feed line rest hline (ih rest.length hshorter rest rfl)
  · exact last text hmem

/-- **Lines stand between line feeds.** For a reader `f` that takes no notice of a return at the end
of a line (`hf`), the `lines` of a text are its pieces between line feeds, but for an empty last
piece. -/
theorem map_lines {α : Type} {f : List Char → α} (hf : ∀ line, f (line ++ ['\r']) = f line)
    (text : List Char) :
    (text.splitOn '\n').map f = (lines text).map f ∨
      (text.splitOn '\n').map f = (lines text).map f ++ [f []] := by
  induction text using lines_induction with
  -- Behind the last line feed `lines` leaves an empty line out, and `splitOn` does not.
  | last line hline =>
    rw [List.splitOn_eq_singleton hline, lines_of_not_mem hline]
    split
    · rename_i hempty
      right
      rw [hempty]
      rfl
    · exact .inl rfl
  | feed line rest hline ih =>
    obtain ⟨kept, hkept, hlines⟩ := lines_append_feed hline rest
    -- Before a line feed `lines` drops a carriage return, of which `f` takes no notice.
    have hsame : f line = f kept := by
      rcases hkept with rfl | rfl
      · rfl
      · exact hf kept
    rw [List.splitOn_append_cons_self_of_not_mem hline, hlines, List.map_cons, List.map_cons,
      hsame, List.cons_append]
    rcases ih with heq | heq
    · exact .inl (by rw [heq])
    · exact .inr (by rw [heq])

theorem isInfix_of_mem_splitOn (h : line ∈ text.splitOn '\n') : line <:+: text := by
  induction text using lines_induction with
  | last text htext =>
    rw [List.splitOn_eq_singleton htext, List.mem_singleton] at h
    exact h ▸ List.infix_rfl
  | feed first rest hfirst ih =>
    rw [List.splitOn_append_cons_self_of_not_mem hfirst, List.mem_cons] at h
    rcases h with rfl | h
    · exact List.infix_append_left
    · exact (ih h).trans ((List.suffix_cons '\n' rest).trans (List.suffix_append _ _)).isInfix

end CodeHealth.Text
