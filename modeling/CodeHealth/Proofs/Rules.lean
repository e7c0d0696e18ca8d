import CodeHealth.Boundary
import CodeHealth.Proofs.Occurrences
import CodeHealth.Proofs.Text

/-!
# The grammar of boundary rules

A rule is two texts around one arrow. The arrow cannot overlap with itself, so a text is cut into
two pieces iff the arrow occurs in it once. What is read off the pieces has no arrow in it and no
white space around it, hence a rule that is written out is read back as it was.

* `Text.OccursOnce.sides_eq` — what stands around the only occurrence of a text;
* `Boundary.Rule.splitOn_arrow_eq_pair_iff` — when a text is cut into two pieces;
* `Boundary.Rule.occursOnce_arrow` — the same, as occurrences of the arrow;
* `Boundary.Rule.parse?_eq_some_iff` — what a text says as a rule;
* `Boundary.Rule.parse?_exact_and_round_trips` — which texts are rules, and reading back.
-/

namespace CodeHealth

namespace Text

/-! ### Around the only occurrence -/

variable {needle text left right left' right' : List Char}

/-- There is one way to cut a `text` around its only occurrence of `needle`. -/
theorem OccursOnce.sides_eq (h : OccursOnce needle text) (htext : text = left ++ needle ++ right)
    (htext' : text = left' ++ needle ++ right') : left = left' ∧ right = right' := by
  obtain ⟨before, after, -, honly⟩ := h
  obtain rfl : left = before := honly left right htext
  obtain rfl : left' = left := honly left' right' htext'
  exact ⟨rfl, List.append_cancel_left (htext.symm.trans htext')⟩

/-- Around the only occurrence of `needle` there is no other. -/
theorem OccursOnce.not_isInfix (h : OccursOnce needle text) (hne : needle ≠ [])
    (htext : text = left ++ needle ++ right) : ¬ needle <:+: left ∧ ¬ needle <:+: right := by
  have hpos : 0 < needle.length := List.length_pos_iff.mpr hne
  constructor
  · rintro ⟨front, back, hback⟩
    -- Split at the occurrence on the left, the text has a shorter left side.
    have htext' : text = front ++ needle ++ (back ++ needle ++ right) := by
      rw [htext, ← hback]
      simp
    obtain ⟨rfl, -⟩ := h.sides_eq htext htext'
    have hlength := congrArg List.length hback
    simp only [List.length_append] at hlength
    omega
  · rintro ⟨front, back, hback⟩
    -- Split at the occurrence on the right, it has a longer one.
    have htext' : text = left ++ needle ++ front ++ needle ++ back := by
      rw [htext, ← hback]
      simp
    have hlength := congrArg List.length (h.sides_eq htext htext').1
    simp only [List.length_append] at hlength
    omega

end Text

namespace Boundary

namespace Rule

open CodeHealth.Text

variable {text left right : List Char} {rule : Rule}

/-! ### Cutting at arrows -/

/-- An `arrow` does not overlap with an arrow after it: a text without arrows has none with all but
the last character of one behind it. -/
theorem not_isInfix_arrow_start (h : ¬ arrow <:+: left) : ¬ arrow <:+: left ++ arrow.dropLast := by
  have hpair : arrow = ['-', '>'] := rfl
  rw [hpair] at h ⊢
  rw [pair_isInfix_append_iff, not_or, not_or]
  exact ⟨h, by decide, by simp⟩

/-- `splitOn` cuts a text at its first arrow. -/
theorem splitOn_of_arrow (h : ¬ arrow <:+: left) (right : List Char) :
    splitOn arrow (left ++ arrow ++ right) = left :: splitOn arrow right :=
  splitOn_append (by decide) (not_isInfix_arrow_start h) right

theorem exists_first_arrow (h : arrow <:+: text) :
    ∃ left right, text = left ++ arrow ++ right ∧ ¬ arrow <:+: left := by
  obtain ⟨left, right, htext, hleft⟩ := exists_first (by decide) h
  exact ⟨left, right, htext, fun hoccurs => hleft (hoccurs.trans List.infix_append_left)⟩

/-- `splitFrom` always gives a piece. -/
theorem splitFrom_ne_nil (needle : List Char) (skip : Nat) (piece text : List Char) :
    splitFrom needle skip piece text ≠ [] := by
  fun_induction splitFrom needle skip piece text with
  | case1 skip piece => exact List.cons_ne_nil _ _
  | case2 piece c rest skip ih => exact ih
  | case3 piece c rest hprefix ih => exact List.cons_ne_nil _ _
  | case4 piece c rest hprefix ih => exact ih

/-- **Two pieces.** `splitOn` cuts a text into two iff these are what stands around an arrow, and
have no arrow themselves. -/
theorem splitOn_arrow_eq_pair_iff : splitOn arrow text = [left, right] ↔
    text = left ++ arrow ++ right ∧ ¬ arrow <:+: left ∧ ¬ arrow <:+: right := by
  constructor
  · intro hsplit
    by_cases h : arrow <:+: text
    · obtain ⟨first, rest, rfl, hfirst⟩ := exists_first_arrow h
      rw [splitOn_of_arrow hfirst, List.cons.injEq] at hsplit
      obtain ⟨rfl, hsplit⟩ := hsplit
      by_cases hrest : arrow <:+: rest
      · -- A second arrow would give a third piece.
        obtain ⟨second, rest, rfl, hsecond⟩ := exists_first_arrow hrest
        rw [splitOn_of_arrow hsecond, List.cons.injEq] at hsplit
        exact absurd hsplit.2 (splitFrom_ne_nil arrow 0 [] rest)
      · rw [splitOn_of_not_isInfix hrest, List.cons.injEq] at hsplit
        obtain ⟨rfl, -⟩ := hsplit
        exact ⟨rfl, hfirst, hrest⟩
    · rw [splitOn_of_not_isInfix h] at hsplit
      simp at hsplit
  · rintro ⟨rfl, hleft, hright⟩
    rw [splitOn_of_arrow hleft, splitOn_of_not_isInfix hright]

/-! ### Occurrences of the arrow -/

/-- Of two occurrences of `arrow` the first is over before the second starts. -/
theorem arrows_apart {shift rest : List Char} (h : arrow ++ rest = shift ++ (arrow ++ right)) :
    shift = [] ∨ ∃ between, shift = arrow ++ between ∧ rest = between ++ arrow ++ right := by
  match shift with
  | [] => exact .inl rfl
  | [c] => simp [arrow] at h
  | c :: d :: between =>
    simp only [arrow, List.cons_append, List.nil_append, List.cons.injEq] at h
    obtain ⟨rfl, rfl, rfl⟩ := h
    exact .inr ⟨between, rfl, by simp [arrow]⟩

/-- An arrow with none before it and none after it is the only one (`OccursOnce`). -/
theorem occursOnce_arrow (hleft : ¬ arrow <:+: left) (hright : ¬ arrow <:+: right) :
    OccursOnce arrow (left ++ arrow ++ right) := by
  refine ⟨left, right, rfl, fun other rest heq => ?_⟩
  rw [List.append_assoc, List.append_assoc, List.append_eq_append_iff] at heq
  rcases heq with ⟨shift, rfl, hshift⟩ | ⟨shift, rfl, hshift⟩
  · rcases arrows_apart hshift with rfl | ⟨between, -, hrest⟩
    · exact List.append_nil left
    · exact absurd ⟨between, rest, hrest.symm⟩ hright
  · rcases arrows_apart hshift with rfl | ⟨between, rfl, -⟩
    · exact (List.append_nil other).symm
    · exact absurd ⟨other, between, by rw [List.append_assoc]⟩ hleft

/-! ### Reading a rule -/

/-- What `parse?` makes of two pieces: a rule, unless one of them is blank. Backslashes count as
slashes on the left only. -/
theorem parse?_of_pieces (hsplit : splitOn arrow text = [left, right]) :
    parse? text = if trim left = [] ∨ trim right = [] then none
      else some ⟨slashed (trim left), trim right⟩ := by
  rw [parse?, hsplit]
  simp only [List.map_cons, List.map_nil, List.isEmpty_iff, Bool.or_eq_true]

/-- `parse?` reads a rule off two pieces, neither of them blank; any other number of pieces is no
rule. -/
theorem parse?_eq_some_iff_splitOn : parse? text = some rule ↔
    ∃ left right, splitOn arrow text = [left, right] ∧ trim left ≠ [] ∧ trim right ≠ [] ∧
      rule = ⟨slashed (trim left), trim right⟩ := by
  constructor
  · intro hrule
    match hsplit : splitOn arrow text with
    | [] | [_] | _ :: _ :: _ :: _ => simp [parse?, hsplit] at hrule
    | [left, right] =>
      rw [parse?_of_pieces hsplit] at hrule
      split at hrule
      · cases hrule
      · rename_i hblank
        rw [not_or] at hblank
        exact ⟨left, right, rfl, hblank.1, hblank.2, (Option.some.inj hrule).symm⟩
  · rintro ⟨left, right, hsplit, hleft, hright, rfl⟩
    rw [parse?_of_pieces hsplit, if_neg (not_or.mpr ⟨hleft, hright⟩)]

/-- **What a text says as a rule** to `parse?`: what stands around its only arrow, neither of it
blank. Both sides are trimmed, and the left one is `slashed`. -/
theorem parse?_eq_some_iff : parse? text = some rule ↔
    ∃ left right, text = left ++ arrow ++ right ∧ ¬ arrow <:+: left ∧ ¬ arrow <:+: right ∧
      trim left ≠ [] ∧ trim right ≠ [] ∧ rule = ⟨slashed (trim left), trim right⟩ := by
  simp only [parse?_eq_some_iff_splitOn, splitOn_arrow_eq_pair_iff, and_assoc]

/-- `slashed` keeps the number of characters, so nothing becomes of nothing only. -/
theorem slashed_eq_nil_iff : slashed text = [] ↔ text = [] := List.map_eq_nil_iff

theorem slashed_slashed (text : List Char) : slashed (slashed text) = slashed text := by
  rw [slashed, slashed, replaceChar, replaceChar, List.map_map]
  refine List.map_congr_left fun c _ => ?_
  by_cases hc : c = '\\' <;> simp [hc]

/-- `slashed` makes no white space, so a text stays trimmed. -/
theorem isTrimmed_slashed (h : IsTrimmed text) : IsTrimmed (slashed text) := by
  have hspace : ∀ c, isSpace c = false → isSpace (if c = '\\' then '/' else c) = false := by
    intro c hc
    split
    · decide +kernel
    · exact hc
  constructor
  · intro c hc
    rw [slashed, replaceChar, List.head?_map, Option.map_eq_some_iff] at hc
    obtain ⟨d, hd, rfl⟩ := hc
    exact hspace d (h.1 d hd)
  · intro c hc
    rw [slashed, replaceChar, List.getLast?_map, Option.map_eq_some_iff] at hc
    obtain ⟨d, hd, rfl⟩ := hc
    exact hspace d (h.2 d hd)

/-- Nor does `slashed` make arrows. -/
theorem arrow_isInfix_of_slashed (h : arrow <:+: slashed text) : arrow <:+: text := by
  obtain ⟨front, back, heq⟩ := h
  obtain ⟨before, back', rfl, hbefore, -⟩ := List.map_eq_append_iff.mp heq.symm
  obtain ⟨front', middle, rfl, -, hmiddle⟩ := List.map_eq_append_iff.mp hbefore
  have hkept : ∀ c ∈ middle, (if c = '\\' then '/' else c) = c := by
    intro c hc
    have harrow : (if c = '\\' then '/' else c) ∈ arrow := hmiddle ▸ List.mem_map_of_mem hc
    split at harrow
    · exact absurd harrow (by decide)
    · rename_i hne
      exact if_neg hne
  have hsame : middle = arrow := by
    rw [← hmiddle, List.map_congr_left hkept, List.map_id']
  exact ⟨front', back', by rw [hsame]⟩

/-- A `rule` that can be written: no arrow in it, no white space around its halves, and forward
slashes only in the directory. -/
structure IsWritable (rule : Rule) : Prop where
  /-- The directory is not empty. -/
  source_ne_nil : rule.source ≠ []
  /-- What is not to be imported is not empty. -/
  target_ne_nil : rule.target ≠ []
  /-- There is no white space around the directory. -/
  source_trimmed : IsTrimmed rule.source
  /-- There is none around what is not to be imported. -/
  target_trimmed : IsTrimmed rule.target
  /-- There is no arrow in the directory. -/
  source_arrow : ¬ arrow <:+: rule.source
  /-- There is none in what is not to be imported. -/
  target_arrow : ¬ arrow <:+: rule.target
  /-- The directory has forward slashes only. -/
  source_slashed : slashed rule.source = rule.source

/-- Every rule that `parse?` reads `IsWritable`. -/
theorem isWritable_of_parse? (h : parse? text = some rule) : rule.IsWritable := by
  obtain ⟨left, right, rfl, hleft, hright, hsource, htarget, rfl⟩ := parse?_eq_some_iff.mp h
  constructor
  · exact fun hnil => hsource (slashed_eq_nil_iff.mp hnil)
  · exact htarget
  · exact isTrimmed_slashed (isTrimmed_trim left)
  · exact isTrimmed_trim right
  · exact fun harrow => hleft ((arrow_isInfix_of_slashed harrow).trans (trim_isInfix left))
  · exact fun harrow => hright (harrow.trans (trim_isInfix right))
  · exact slashed_slashed (trim left)

/-- **Reading back.** A rule that `IsWritable` is read by `parse?` as it was. -/
theorem IsWritable.parse?_text (h : rule.IsWritable) : parse? rule.text = some rule := by
  have hblank : isBlank [' '] = true := by decide +kernel
  have hempty : isBlank [] = true := rfl
  have hsource : trim (rule.source ++ [' ']) = rule.source :=
    trim_surrounded hempty h.source_trimmed h.source_ne_nil hblank
  have htarget : trim (' ' :: rule.target) = rule.target := by
    have hsurrounded := trim_surrounded hblank h.target_trimmed h.target_ne_nil hempty
    rwa [List.append_nil] at hsurrounded
  refine parse?_eq_some_iff.mpr ⟨rule.source ++ [' '], ' ' :: rule.target, ?_, ?_, ?_, ?_, ?_, ?_⟩
  · simp [text, arrow]
  · -- The blank after the left half is no part of an arrow, nor is the one before the right half.
    have hlast : ¬ arrow <:+ rule.source ++ [' '] := by
      intro hsuffix
      have hsame := hsuffix.getLast (by decide)
      rw [List.getLast_concat] at hsame
      exact absurd hsame (by decide)
    rw [List.infix_concat_iff, not_or]
    exact ⟨hlast, h.source_arrow⟩
  · rw [List.infix_cons_iff, not_or]
    exact ⟨by simp [arrow], h.target_arrow⟩
  · rw [hsource]
    exact h.source_ne_nil
  · rw [htarget]
    exact h.target_ne_nil
  · rw [hsource, htarget, h.source_slashed]

/-- **Rules read exactly their grammar and can be read back.** A text is a rule (`parse?`) iff the
arrow occurs in it once (`OccursOnce`) and neither side of it is blank. Then the rule has the left
side, trimmed and with forward slashes only, and the right side, trimmed; neither of them has an
arrow in it or white space around it; and written out, the rule is read as the same rule again. -/
theorem parse?_exact_and_round_trips (text : List Char) :
    ((parse? text).isSome = true ↔ OccursOnce arrow text ∧
      ∀ left right, text = left ++ arrow ++ right → trim left ≠ [] ∧ trim right ≠ []) ∧
    ∀ rule, parse? text = some rule →
      (∀ left right, text = left ++ arrow ++ right →
        rule.source = replaceChar '\\' '/' (trim left) ∧ rule.target = trim right) ∧
      (¬ arrow <:+: rule.source ∧ ¬ arrow <:+: rule.target) ∧
      (IsTrimmed rule.source ∧ IsTrimmed rule.target) ∧
      parse? (rule.source ++ [' ', '-', '>', ' '] ++ rule.target) = some rule := by
  refine ⟨⟨?_, ?_⟩, ?_⟩
  · intro hsome
    obtain ⟨rule, hrule⟩ := Option.isSome_iff_exists.mp hsome
    obtain ⟨left, right, rfl, hleft, hright, hsource, htarget, -⟩ := parse?_eq_some_iff.mp hrule
    have honce := occursOnce_arrow hleft hright
    refine ⟨honce, fun left' right' htext => ?_⟩
    -- The arrow occurs once, so every way to split the text is the one that `parse?` found.
    obtain ⟨rfl, rfl⟩ := honce.sides_eq rfl htext
    exact ⟨hsource, htarget⟩
  · rintro ⟨honce, hsides⟩
    obtain ⟨left, right, htext, -⟩ := id honce
    obtain ⟨hleft, hright⟩ := honce.not_isInfix (by decide) htext
    obtain ⟨hsource, htarget⟩ := hsides left right htext
    rw [parse?_eq_some_iff.mpr ⟨left, right, htext, hleft, hright, hsource, htarget, rfl⟩]
    rfl
  · intro rule hrule
    have hwritable := isWritable_of_parse? hrule
    refine ⟨?_, ⟨hwritable.source_arrow, hwritable.target_arrow⟩,
      ⟨hwritable.source_trimmed, hwritable.target_trimmed⟩, ?_⟩
    · intro left' right' htext
      obtain ⟨left, right, rfl, hleft, hright, -, -, rfl⟩ := parse?_eq_some_iff.mp hrule
      obtain ⟨rfl, rfl⟩ := (occursOnce_arrow hleft hright).sides_eq rfl htext
      exact ⟨rfl, rfl⟩
    · have htext : rule.source ++ [' ', '-', '>', ' '] ++ rule.target = rule.text := by
        simp [Rule.text, arrow]
      rw [htext]
      exact hwritable.parse?_text

end Rule

end Boundary

namespace Sample

open Text Boundary Boundary.Rule

/-- A rule with white space of several kinds, a dash and a bracket that touch its `arrow`, and a
backslash. -/
def ruleText : List Char := "\tpkg\\api--> >db\u00a0".toList

/-- The rule that `ruleText` says. -/
def readRule : Rule := ⟨"pkg/api-".toList, ">db".toList⟩

/-- The arrow occurs once in `ruleText`, and what is read off the text is read again when it is
written. -/
theorem ruleText_read_and_back :
    parse? ruleText = some readRule ∧ OccursOnce arrow ruleText ∧
      readRule.source = replaceChar '\\' '/' (trim "\tpkg\\api-".toList) ∧
      parse? "pkg/api- -> >db".toList = some readRule := by
  have hread : parse? ruleText = some readRule := by decide +kernel
  obtain ⟨hiff, hrule⟩ := parse?_exact_and_round_trips ruleText
  obtain ⟨hsides, -, -, hback⟩ := hrule readRule hread
  have honce := (hiff.mp (by rw [hread]; rfl)).1
  exact ⟨hread, honce, (hsides _ " >db\u00a0".toList (by decide)).1, hback⟩

end Sample

end CodeHealth
