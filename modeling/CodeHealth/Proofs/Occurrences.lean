import CodeHealth.Outline.Unused

/-!
# Occurrences of a name in a text

A text is searched for a name without regard to lines or words, and occurrences are counted without
overlap. A name that stands alone, cut off from the word characters around it, cannot overlap with
another occurrence, so for such a name the count says exactly how often it occurs.

* `OccursOnce` and `Twice` say that a text has one occurrence, or two that do not overlap;
* `StandsAlone` — what cuts a name off from its surroundings;
* `StandsAlone.occursOnce_iff` — a name that stands alone occurs once iff it is counted at most
  once;
* `Laid` — some lines follow each other in a text, each up to the end of its line;
* `laid_corpus` — the lines of some sources are laid out so in the sources joined.
-/

namespace CodeHealth.Text

/-! ### Counting -/

/-- There is one place where `needle` occurs in `text`. -/
def OccursOnce (needle text : List Char) : Prop :=
  ∃ before after, text = before ++ needle ++ after ∧
    ∀ other rest, text = other ++ needle ++ rest → other = before

/-- `needle` occurs in `text` and occurs again after that. -/
def Twice (needle text : List Char) : Prop :=
  ∃ before between after, text = before ++ needle ++ between ++ needle ++ after

/-- The positions in `text` where `needle` starts, overlaps included. -/
def positions (needle text : List Char) : List Nat :=
  (List.range (text.length + 1)).filter fun i => needle.isPrefixOf (text.drop i)

/-- `positions` are the lengths of what stands before an occurrence of `needle`. -/
theorem mem_positions {needle text : List Char} {i : Nat} : i ∈ positions needle text ↔
    ∃ before after, text = before ++ needle ++ after ∧ before.length = i := by
  rw [positions, List.mem_filter, List.mem_range, List.isPrefixOf_iff_prefix]
  constructor
  · rintro ⟨hi, after, hafter⟩
    exact ⟨text.take i, after, by rw [List.append_assoc, hafter, List.take_append_drop],
      List.length_take_of_le (by omega)⟩
  · -- An occurrence starts inside the text, or at its end when it is empty.
    rintro ⟨before, after, rfl, rfl⟩
    refine ⟨by simp only [List.length_append]; omega, after, ?_⟩
    rw [List.append_assoc, List.drop_left]

/-- A text occurs once (`OccursOnce`) iff it starts at one of the `positions`, so `OccursOnce` can
be decided. -/
theorem length_positions_eq_one_iff {needle text : List Char} :
    (positions needle text).length = 1 ↔ OccursOnce needle text := by
  constructor
  · intro hone
    obtain ⟨i, hi⟩ := List.length_eq_one_iff.mp hone
    obtain ⟨before, after, htext, rfl⟩ := mem_positions.mp (hi ▸ List.mem_singleton_self i)
    refine ⟨before, after, htext, fun other rest hother => ?_⟩
    have hmem : other.length ∈ positions needle text := mem_positions.mpr ⟨other, rest, hother, rfl⟩
    rw [hi, List.mem_singleton] at hmem
    rw [htext, List.append_assoc, List.append_assoc] at hother
    exact (List.append_inj_left hother hmem.symm).symm
  · rintro ⟨before, after, htext, honly⟩
    -- A list without repetition whose members are all the same has one member.
    have hall : ∀ i ∈ positions needle text, i = before.length := by
      intro i hi
      obtain ⟨other, rest, hother, rfl⟩ := mem_positions.mp hi
      rw [honly other rest hother]
    have hnodup : (positions needle text).Nodup := List.nodup_range.filter _
    have hmem : before.length ∈ positions needle text :=
      mem_positions.mpr ⟨before, after, htext, rfl⟩
    have hcount := List.count_eq_length.mpr fun i hi => (hall i hi).symm
    have hle := List.nodup_iff_count.mp hnodup before.length
    have hpos := List.count_pos_iff.mpr hmem
    omega

instance (needle text : List Char) : Decidable (OccursOnce needle text) :=
  decidable_of_iff _ length_positions_eq_one_iff

/-- Characters to be skipped are as good as not there: `countFrom needle skip` counts in the text
without its first `skip` characters. -/
theorem countFrom_eq_count_drop (needle : List Char) (skip : Nat) (text : List Char) :
    countFrom needle skip text = count needle (text.drop skip) := by
  induction text generalizing skip with
  | nil => cases skip <;> rfl
  | cons c rest ih =>
    cases skip with
    | zero => rfl
    | succ skip => exact ih skip

/-- `count` goes by the first character of a text: behind the `needle` that starts there, or else
behind that character. -/
theorem count_cons (needle : List Char) (c : Char) (rest : List Char) :
    count needle (c :: rest) =
      if needle <+: c :: rest then count needle (rest.drop (needle.length - 1)) + 1
      else count needle rest := by
  show countFrom needle 0 (c :: rest) = _
  rw [countFrom, countFrom_eq_count_drop]
  simp only [List.isPrefixOf_iff_prefix]
  rfl

/-- A `needle` is counted at all iff it occurs. It is not empty (`hne`), as the empty text is
counted at every place. -/
theorem one_le_count_iff {needle : List Char} (hne : needle ≠ []) (text : List Char) :
    1 ≤ count needle text ↔ needle <:+: text := by
  induction text with
  | nil =>
    rw [List.infix_nil]
    exact ⟨fun h => absurd h (Nat.not_succ_le_zero 0), fun h => absurd h hne⟩
  | cons c rest ih =>
    rw [count_cons, List.infix_cons_iff, ← ih]
    by_cases hstart : needle <+: c :: rest
    · simp [hstart]
    · simp [hstart]

/-- **Counting is exact up to two.** A `needle` is counted twice or more iff it occurs, and again
behind that occurrence (`Twice`). Overlapping occurrences make no difference to this. -/
theorem two_le_count_iff {needle : List Char} (hne : needle ≠ []) (text : List Char) :
    2 ≤ count needle text ↔ Twice needle text := by
  induction text with
  | nil =>
    refine ⟨fun h => absurd h (Nat.not_succ_le_zero 1), ?_⟩
    rintro ⟨before, between, after, h⟩
    simp [hne] at h
  | cons c rest ih =>
    rw [count_cons]
    by_cases hstart : needle <+: c :: rest
    · -- The occurrence at the front is counted, and the rest has to hold another one.
      obtain ⟨tail, htail⟩ := hstart
      have hdrop : rest.drop (needle.length - 1) = tail := by
        cases needle with
        | nil => exact absurd rfl hne
        | cons d needle =>
          obtain ⟨-, rfl⟩ := List.cons.inj htail
          simp
      rw [if_pos ⟨tail, htail⟩, hdrop, Nat.succ_le_succ_iff, one_le_count_iff hne]
      constructor
      · rintro ⟨between, after, rfl⟩
        exact ⟨[], between, after, by simp [← htail]⟩
      · -- Of two occurrences the second one is not touched by dropping one needle's length.
        rintro ⟨before, between, after, h⟩
        refine ⟨(before ++ needle ++ between).drop needle.length, after, ?_⟩
        have hlength : needle.length ≤ (before ++ needle ++ between).length := by
          simp only [List.length_append]
          omega
        have htail' : tail = (c :: rest).drop needle.length := by simp [← htail]
        rw [htail', h, List.append_assoc _ needle after, List.append_assoc _ needle after,
          List.drop_append_of_le_length hlength]
    · rw [if_neg hstart, ih]
      constructor
      · rintro ⟨before, between, after, rfl⟩
        exact ⟨c :: before, between, after, by simp⟩
      · rintro ⟨before, between, after, h⟩
        cases before with
        | nil =>
          refine absurd ⟨between ++ needle ++ after, ?_⟩ hstart
          rw [h]
          simp
        | cons d before =>
          obtain ⟨-, rfl⟩ := List.cons.inj h
          exact ⟨before, between, after, rfl⟩

/-- What occurs `Twice` does not occur once, since the two occurrences start at different places. -/
theorem OccursOnce.not_twice {needle text : List Char} (hne : needle ≠ [])
    (h : OccursOnce needle text) : ¬ Twice needle text := by
  obtain ⟨place, rest, -, honly⟩ := h
  rintro ⟨before, between, after, rfl⟩
  have hfirst := honly before (between ++ needle ++ after) (by simp)
  have hsecond := honly (before ++ needle ++ between) after (by simp)
  have hlength := congrArg List.length (hsecond.trans hfirst.symm)
  have hpos := List.length_pos_iff.mpr hne
  simp only [List.length_append] at hlength
  omega

/-! ### Names that stand alone -/

/-- A `name` that has word characters up to the last one at least, after something that is no word
character. -/
structure StartsAlone (before name : List Char) : Prop where
  /-- There is something to look for. -/
  nonempty : name ≠ []
  /-- All characters but the last one are word characters. -/
  word : ∀ c ∈ name.dropLast, isWord c = true
  /-- What stands before the name ends in something that is no word character. -/
  left : ∃ c, before.getLast? = some c ∧ isWord c = false

/-- A `name` cut off from its surroundings: when it ends in a word character, none follows it. -/
structure StandsAlone (before name after : List Char) : Prop extends StartsAlone before name where
  /-- Where the last character is a word character, the next one is none. -/
  right : name.getLast?.any isWord = true → after.head?.any isWord = false

namespace StandsAlone

variable {before name after : List Char}

/-- A name that `StandsAlone` in a line stands alone in the text around the line, as long as no word
character follows the line (`hback`). -/
theorem embed (h : StandsAlone before name after) (front : List Char) {back : List Char}
    (hback : back.head?.any isWord = false) :
    StandsAlone (front ++ before) name (after ++ back) := by
  refine ⟨⟨h.nonempty, h.word, ?_⟩, fun hlast => ?_⟩
  · obtain ⟨c, hc, hword⟩ := h.left
    exact ⟨c, by rw [List.getLast?_append, hc, Option.some_or], hword⟩
  · cases after with
    | nil => exact hback
    | cons c after => exact h.right hlast

/-- The characters of `name` in a text that has it in the middle. -/
theorem getElem?_middle (before name after : List Char) {i : Nat} (hi : i < name.length) :
    (before ++ name ++ after)[before.length + i]? = name[i]? := by
  rw [List.append_assoc, List.getElem?_append_right (by omega), Nat.add_sub_cancel_left,
    List.getElem?_append_left hi]

/-- A character of a name that `StandsAlone` is a word character, unless it is the last one. -/
theorem isWord_getElem? (h : StandsAlone before name after) {i : Nat} (hi : i + 1 < name.length)
    {c : Char} (hc : name[i]? = some c) : isWord c = true := by
  refine h.word c (List.mem_of_getElem? (i := i) ?_)
  rw [List.getElem?_dropLast, if_pos (by omega), hc]

/-- When the last character of a name that `StandsAlone` is a word character (`hlast`), all of them
are. -/
theorem isWord_of_mem (h : StandsAlone before name after)
    (hlast : name.getLast?.any isWord = true) {c : Char} (hc : c ∈ name) : isWord c = true := by
  obtain ⟨last, hlast', hword⟩ := (Option.any_eq_true _ _).mp hlast
  obtain ⟨front, rfl⟩ := List.getLast?_eq_some_iff.mp hlast'
  have hfront := h.word
  rw [List.dropLast_concat] at hfront
  rcases List.mem_append.mp hc with hc | hc
  · exact hfront c hc
  · rw [List.mem_singleton.mp hc, hword]

/-- **No overlap.** Another occurrence of a name that `StandsAlone` ends before it or starts behind
it, since an overlapping one would reach over the character beside the name, which no name has. -/
theorem disjoint (h : StandsAlone before name after) {other rest : List Char}
    (heq : before ++ name ++ after = other ++ name ++ rest) (hne : other ≠ before) :
    other.length + name.length ≤ before.length ∨ before.length + name.length ≤ other.length := by
  have hlengths : before.length ≠ other.length := by
    intro hlength
    rw [List.append_assoc, List.append_assoc] at heq
    exact hne (List.append_inj_left heq hlength).symm
  have hpos := List.length_pos_iff.mpr h.nonempty
  rcases Nat.lt_or_gt_of_ne hlengths with hlt | hgt
  · by_cases hright : before.length + name.length ≤ other.length
    · exact Or.inr hright
    -- Both occurrences hold the last character of the name, the other one further to its front.
    obtain ⟨k, hk⟩ := Nat.exists_eq_add_of_lt hlt
    have hlast : name[name.length - 1]? = name[name.length - 2 - k]? := by
      rw [← getElem?_middle before name after (by omega),
        ← getElem?_middle other name rest (by omega), heq]
      congr 1
      omega
    have hword : name.getLast?.any isWord = true := by
      rw [List.getLast?_eq_getElem?, hlast, Option.any_eq_true]
      obtain ⟨c, hc⟩ : ∃ c, name[name.length - 2 - k]? = some c :=
        ⟨_, List.getElem?_eq_getElem (by omega)⟩
      exact ⟨c, hc, h.isWord_getElem? (by omega) hc⟩
    -- So the name has word characters only, and one of them is what follows it.
    have hnext : after.head? = name[name.length - 1 - k]? := by
      rw [← getElem?_middle other name rest (by omega), ← heq, List.head?_eq_getElem?,
        List.getElem?_append_right (by simp only [List.length_append]; omega)]
      congr 1
      simp only [List.length_append]
      omega
    obtain ⟨c, hc⟩ : ∃ c, name[name.length - 1 - k]? = some c :=
      ⟨_, List.getElem?_eq_getElem (by omega)⟩
    have hcontra := h.right hword
    rw [hnext, hc, Option.any_some, h.isWord_of_mem hword (List.mem_of_getElem? hc)] at hcontra
    simp at hcontra
  · by_cases hleft : other.length + name.length ≤ before.length
    · exact Or.inl hleft
    -- The character before the name lies inside the other occurrence.
    obtain ⟨k, hk⟩ := Nat.exists_eq_add_of_lt hgt
    obtain ⟨c, hc, hword⟩ := h.left
    have hinside : name[k]? = some c := by
      rw [← getElem?_middle other name rest (by omega), ← heq, List.append_assoc,
        List.getElem?_append_left (by omega), ← hc, List.getLast?_eq_getElem?]
      congr 1
      omega
    have hcontra := h.isWord_getElem? (by omega) hinside
    simp [hword] at hcontra

/-- Another occurrence of a name that `StandsAlone` makes it occur `Twice`, by `disjoint`: the two
do not overlap, so `count` sees both. -/
theorem twice (h : StandsAlone before name after) {other rest : List Char}
    (heq : before ++ name ++ after = other ++ name ++ rest) (hne : other ≠ before) :
    Twice name (before ++ name ++ after) := by
  have hname : before ++ name <+: before ++ name ++ after := ⟨after, rfl⟩
  have hother : other ++ name <+: before ++ name ++ after := ⟨rest, heq.symm⟩
  rcases h.disjoint heq hne with hle | hle
  · -- The other occurrence is first.
    have hfront : other ++ name <+: before :=
      List.prefix_of_prefix_length_le hother ⟨name ++ after, by simp⟩ (by simpa using hle)
    obtain ⟨between, hbetween⟩ := hfront
    exact ⟨other, between, after, by rw [← hbetween]⟩
  · have hfront : before ++ name <+: other :=
      List.prefix_of_prefix_length_le hname ⟨name ++ rest, by simp [heq]⟩ (by simpa using hle)
    obtain ⟨between, hbetween⟩ := hfront
    exact ⟨before, between, rest, by rw [heq, ← hbetween]⟩

/-- **A name that stands alone occurs once iff it is counted at most once.** This is what makes
`count`, which passes over overlaps, a test for `OccursOnce`. -/
theorem occursOnce_iff (h : StandsAlone before name after) :
    OccursOnce name (before ++ name ++ after) ↔ count name (before ++ name ++ after) ≤ 1 := by
  rw [← Nat.not_lt, ← Nat.succ_le_iff, two_le_count_iff h.nonempty]
  refine ⟨fun honce => honce.not_twice h.nonempty, fun htwice => ⟨before, after, rfl, ?_⟩⟩
  intro other rest heq
  exact Decidable.byContradiction fun hne => htwice (h.twice heq hne)

end StandsAlone

/-! ### Lines in a text -/

theorem isWord_lineFeed : isWord '\n' = false := by decide +kernel

theorem isWord_return : isWord '\r' = false := by decide +kernel

/-- These lines follow each other in a text, and no word character (`isWord`) follows any of
them. -/
inductive Laid : List (List Char) → List Char → Prop where
  | nil (text : List Char) : Laid [] text
  | cons (before line after : List Char) {lines : List (List Char)}
      (hafter : after.head?.any isWord = false) :
      Laid lines after → Laid (line :: lines) (before ++ line ++ after)

namespace Laid

variable {ls ms : List (List Char)} {text : List Char}

/-- Text in `front` of lines that are `Laid` changes nothing. -/
theorem prepend (h : Laid ls text) (front : List Char) : Laid ls (front ++ text) := by
  cases h with
  | nil => exact .nil _
  | cons before line after hafter h =>
    rw [← List.append_assoc, ← List.append_assoc]
    exact .cons (front ++ before) line after hafter h

/-- The lines `ls` and `ms` of two texts follow each other when a line feed joins the texts. -/
theorem join (h : Laid ls text) {other : List Char} (hother : Laid ms other) :
    Laid (ls ++ ms) (text ++ '\n' :: other) := by
  induction h with
  | nil text => simpa using hother.prepend (text ++ ['\n'])
  | cons before line after hafter _ ih =>
    rw [List.append_assoc]
    refine .cons before line _ ?_ ih
    cases after with
    | nil => exact isWord_lineFeed
    | cons c after => exact hafter

/-- Each `line` of those that are `Laid` in a text occurs in it. -/
theorem isInfix_of_mem (h : Laid ls text) {line : List Char} (hline : line ∈ ls) :
    line <:+: text := by
  induction h with
  | nil text => exact absurd hline List.not_mem_nil
  | cons before first after hafter _ ih =>
    rcases List.mem_cons.mp hline with rfl | hline
    · exact ⟨before, after, rfl⟩
    · exact (ih hline).trans (List.suffix_append _ _).isInfix

/-- Where one `line` is in the text: the lines `ls` before it are in `front` of it, and the lines
`ms` after it are in what comes `back` of it. -/
theorem split {line : List Char} (h : Laid (ls ++ line :: ms) text) :
    ∃ front back, text = front ++ line ++ back ∧
      back.head?.any isWord = false ∧
      (∀ other ∈ ls, other <:+: front) ∧ ∀ other ∈ ms, other <:+: back := by
  induction ls generalizing text with
  | nil =>
    obtain _ | ⟨before, _, after, hafter, h⟩ := h
    exact ⟨before, after, rfl, hafter, by simp, fun other hother => h.isInfix_of_mem hother⟩
  | cons first ls ih =>
    obtain _ | ⟨before, _, after, hafter, h⟩ := h
    obtain ⟨front, back, rfl, hback, hls, hms⟩ := ih h
    refine ⟨before ++ first ++ front, back, by simp, hback, ?_, hms⟩
    intro other hother
    rcases List.mem_cons.mp hother with rfl | hother
    · exact ⟨before, front, rfl⟩
    · exact (hls other hother).trans (List.suffix_append _ _).isInfix

/-- A `needle` that is in an earlier line and in a later one occurs `Twice` in the text that these
lines are `Laid` in. -/
theorem twice_of_lt (h : Laid ls text) {i j : Nat} (hij : i < j) {first second needle : List Char}
    (hi : ls[i]? = some first) (hj : ls[j]? = some second) (hfirst : needle <:+: first)
    (hsecond : needle <:+: second) : Twice needle text := by
  obtain ⟨hilt, rfl⟩ := List.getElem?_eq_some_iff.mp hi
  have hsplit : ls = ls.take i ++ ls[i] :: ls.drop (i + 1) := by simp
  rw [hsplit] at h
  obtain ⟨front, back, rfl, -, -, hback⟩ := h.split
  have hmem : second ∈ ls.drop (i + 1) := by
    refine List.mem_of_getElem? (i := j - (i + 1)) ?_
    rw [List.getElem?_drop, ← hj]
    congr 1
    omega
  obtain ⟨a, b, hab⟩ := hfirst
  obtain ⟨c, d, rfl⟩ := hsecond.trans (hback second hmem)
  exact ⟨front ++ a, b ++ c, d, by simp [← hab]⟩

/-- A `needle` that is in two of the lines occurs `Twice` in the text, whichever of them comes first
(`twice_of_lt`). -/
theorem twice_of_ne (h : Laid ls text) {i j : Nat} (hij : i ≠ j) {first second needle : List Char}
    (hi : ls[i]? = some first) (hj : ls[j]? = some second) (hfirst : needle <:+: first)
    (hsecond : needle <:+: second) : Twice needle text := by
  rcases Nat.lt_or_gt_of_ne hij with hlt | hgt
  · exact h.twice_of_lt hlt hi hj hfirst hsecond
  · exact h.twice_of_lt hgt hj hi hsecond hfirst

end Laid

/-- The lines still to come follow each other in what is left, the `current` line included, which
`linesFrom` keeps in reverse. -/
theorem laid_linesFrom (text current : List Char) :
    Laid (linesFrom text current) (current.reverse ++ text) := by
  fun_induction linesFrom text current with
  | case1 => exact .nil _
  | case2 current _ => simpa using Laid.cons [] current.reverse [] rfl (.nil _)
  | case3 rest current ih =>
    rw [List.reverse_nil, List.nil_append] at ih
    -- A carriage return before the line feed belongs to the end of the line.
    unfold dropReturn
    split
    · simpa using Laid.cons [] (List.reverse _) ('\r' :: '\n' :: rest) isWord_return
        (ih.prepend ['\r', '\n'])
    · simpa using Laid.cons [] (List.reverse _) ('\n' :: rest) isWord_lineFeed (ih.prepend ['\n'])
  | case4 c rest current _ ih => simpa using ih

/-- The `lines` of a text follow each other in it. -/
theorem laid_lines (text : List Char) : Laid (lines text) text := laid_linesFrom text []

/-- The `lines` of some sources, one source after the other. -/
def allLines (sources : List (String × List Char)) : List (List Char) :=
  sources.flatMap fun s => lines s.2

/-- `allLines` of some sources follow each other in their `corpus`. -/
theorem laid_corpus (sources : List (String × List Char)) :
    Laid (allLines sources) (Outline.Profile.corpus sources) := by
  fun_induction Outline.Profile.corpus sources with
  | case1 => exact .nil _
  | case2 file source => simpa [allLines] using laid_lines source
  | case3 file source rest _ ih => exact (laid_lines source).join ih

end CodeHealth.Text
