import CodeHealth.Dependency.Manifest.Requirements
import CodeHealth.Proofs.Text
import Mathlib.Data.List.Forall2
import Mathlib.Data.List.ReduceOption

/-!
# Files of Python requirements

A line of requirements is cut four times: at a comment, at a marker, at a separator that is looked
for in an order of preference, and at a comma. Where a line follows the grammar these cuts do not
get into each other's way: what stands before the marker has one separator at most, because a
separator is two characters and none of the parts around it lends it one.

* `Requirements.stripped_eq` — a line up to its marker or its comment;
* `Requirements.Row` — the grammar of lines and what they require;
* `Requirements.Clear` — texts that no separator is in or starts at the end of;
* `Requirements.version_constrained` — the version behind the only separator;
* `Requirements.ofFile_rows` — what is read off a file is what its lines require.
-/

namespace CodeHealth.Requirements

open CodeHealth.Text

variable {text front back left right name gap extras constraint tail version : List Char}

/-! ### Cutting at a character -/

/-- `before c` keeps a text in front that has no `c`. -/
theorem before_append_of_not_mem {c : Char} (h : c ∉ left) (right : List Char) :
    before c (left ++ right) = left ++ before c right := by
  refine List.takeWhile_append_of_pos fun d hd => bne_iff_ne.mpr ?_
  rintro rfl
  exact h hd

/-- `before c` keeps all of a text that has no `c`. -/
theorem before_of_not_mem {c : Char} (h : c ∉ text) : before c text = text := by
  refine List.takeWhile_eq_self_iff.mpr fun d hd => bne_iff_ne.mpr ?_
  rintro rfl
  exact h hd

/-- `before c` keeps nothing of a text that starts with `c`. -/
theorem before_cons_self (c : Char) (text : List Char) : before c (c :: text) = [] := by
  simp [before]

/-- White space around a text does not matter for what stands `before` a character in it, once that
is trimmed. -/
theorem trim_before_around {c : Char} (hc : isSpace c = false) (hfront : isBlank front = true)
    (hback : isBlank back = true) (text : List Char) :
    trim (before c (front ++ text ++ back)) = trim (before c text) := by
  rw [List.append_assoc, before_append_of_not_mem (not_mem_of_isBlank hfront hc),
    trim_blank_append hfront]
  by_cases hmem : c ∈ text
  · obtain ⟨first, rest, rfl, hfirst⟩ := List.eq_append_cons_of_mem hmem
    rw [List.append_assoc, before_append_of_not_mem hfirst, before_append_of_not_mem hfirst,
      List.cons_append, before_cons_self, before_cons_self]
  · -- The character is nowhere, so that all is kept.
    rw [before_append_of_not_mem hmem, before_of_not_mem hmem,
      before_of_not_mem (not_mem_of_isBlank hback hc)]
    exact trim_append_blank hback text

/-- A text may be trimmed before it is cut at `c`, if it is trimmed after that. -/
theorem trim_before_trim {c : Char} (hc : isSpace c = false) (text : List Char) :
    trim (before c (trim text)) = trim (before c text) := by
  obtain ⟨front, back, hfront, hback, htext⟩ := exists_trim text
  have haround := trim_before_around hc hfront hback (trim text)
  rw [← htext] at haround
  exact haround.symm

theorem trim_before_trimEnd {c : Char} (hc : isSpace c = false) (text : List Char) :
    trim (before c (trimEnd text)) = trim (before c text) := by
  obtain ⟨back, hback, htext⟩ := exists_trimEnd text
  have haround := trim_before_around hc (rfl : isBlank [] = true) hback (trimEnd text)
  rw [List.nil_append, ← htext] at haround
  exact haround.symm

/-- `stripped` cuts a line at its comment and at its marker, and trims it. -/
theorem stripped_eq (line : List Char) : stripped line = trim (before ';' (before '#' line)) := by
  rw [stripped, trim_before_trim (by decide)]

/-- White space at the end of a line, such as the return of a line end, is `stripped`. -/
theorem stripped_append_blank (hback : isBlank back = true) (line : List Char) :
    stripped (line ++ back) = stripped line := by
  have haround := trim_before_around (by decide : isSpace '#' = false) (rfl : isBlank [] = true)
    hback line
  rw [List.nil_append] at haround
  rw [stripped, stripped, haround]

/-! ### The grammar of lines -/

/-- What the `separators` start with. Each of them ends with an equals sign. -/
def comparators : List Char := ['=', '>', '<', '~', '!']

/-- A `name`: letters, numbers, dashes, underscores and dots, with no dash at the start. -/
structure IsPackageName (name : List Char) : Prop where
  /-- It is not empty. -/
  ne_nil : name ≠ []
  /-- It is made of the characters that names may have. -/
  chars : ∀ c ∈ name, isAlphanumeric c = true ∨ c = '-' ∨ c = '_' ∨ c = '.'
  /-- It does not start like an option. -/
  head_ne : name.head? ≠ some '-'

/-- A `text` that may stand where no separator, marker or comment is to start. -/
structure IsPlain (text : List Char) : Prop where
  /-- No marker starts in it. -/
  semicolon : ';' ∉ text
  /-- No comment starts in it. -/
  hash : '#' ∉ text
  /-- It has no separator in it. -/
  separator : ∀ c ∈ comparators, ¬ [c, '='] <:+: text

/-- The extras of a requirement, if it has any: a text in brackets. -/
inductive IsExtras : List Char → Prop where
  | none : IsExtras []
  | some {inner back : List Char} (hinner : IsPlain inner) (hback : isBlank back = true) :
      IsExtras (['['] ++ (inner ++ [']'] ++ back))

/-- A `version`: it is not empty and has nothing in it that could end it or start something else. -/
structure IsVersion (version : List Char) : Prop where
  /-- It is not empty. -/
  ne_nil : version ≠ []
  /-- It has no white space in it. -/
  ink : ∀ c ∈ version, isSpace c = false
  /-- It has no equals sign in it. -/
  equals : '=' ∉ version
  /-- It has no comma in it. -/
  comma : ',' ∉ version
  /-- No marker starts in it. -/
  semicolon : ';' ∉ version
  /-- No comment starts in it. -/
  hash : '#' ∉ version

/-- What follows the first version of a constraint: nothing, or a comma and more of it. -/
inductive IsMore : List Char → Prop where
  | none : IsMore []
  | some {rest : List Char} (hrest : IsPlain rest) : IsMore (',' :: rest)

/-- A constraint and its version, which is empty when there is none. Any of the `comparators` may
start it, and only the first version of several counts. -/
inductive Constrains : List Char → List Char → Prop where
  | none : Constrains [] []
  | some {c : Char} {gap version back more : List Char} (hc : c ∈ comparators)
      (hgap : isBlank gap = true) (hversion : IsVersion version) (hback : isBlank back = true)
      (hmore : IsMore more) : Constrains ([c, '='] ++ (gap ++ version ++ back ++ more)) version

/-- What follows a requirement: a marker, in which or behind which there may be a comment, or a
comment alone. -/
inductive IsTail : List Char → Prop where
  | none : IsTail []
  | marker (text : List Char) : IsTail (';' :: text)
  | comment (text : List Char) : IsTail ('#' :: text)

/-- A line of a file, and the name and version that it requires: nothing on blank lines, comments
and options. -/
inductive Row : List Char → Option (List Char × List Char) → Prop where
  | blank {line : List Char} (h : isBlank line = true) : Row line none
  | comment {front : List Char} (hfront : isBlank front = true) (text : List Char) :
      Row (front ++ '#' :: text) none
  | option {front : List Char} (hfront : isBlank front = true) (text : List Char) :
      Row (front ++ '-' :: text) none
  | requirement {front name gap extras constraint tail version : List Char}
      (hfront : isBlank front = true) (hname : IsPackageName name) (hgap : isBlank gap = true)
      (hextras : IsExtras extras) (hconstraint : Constrains constraint version)
      (htail : IsTail tail) :
      Row (front ++ (name ++ gap ++ extras ++ constraint) ++ tail) (some (name, version))

/-! ### Separators -/

/-- The `separators` are the `comparators` with an equals sign after each. -/
theorem separators_eq : separators = comparators.map fun c => [c, '='] := rfl

theorem not_separator_of_not_mem (h : '=' ∉ text) (c : Char) : ¬ [c, '='] <:+: text :=
  fun hoccurs => h (hoccurs.subset (List.mem_cons_of_mem c List.mem_cons_self))

/-- A text that has none of the `separators` in it, and whose end starts none. -/
structure Clear (text : List Char) : Prop where
  /-- There is no separator in it. -/
  separator : ∀ c ∈ comparators, ¬ [c, '='] <:+: text
  /-- Its last character is none of the `comparators`. -/
  last : ∀ c ∈ comparators, text.getLast? ≠ some c

/-- Two `Clear` texts after each other are clear: no separator comes about where they meet. -/
theorem Clear.append (hleft : Clear left) (hright : Clear right) : Clear (left ++ right) := by
  constructor
  · intro c hc
    rw [pair_isInfix_append_iff]
    rintro (h | h | ⟨hlast, -⟩)
    · exact hleft.separator c hc h
    · exact hright.separator c hc h
    · exact hleft.last c hc hlast
  · intro c hc
    by_cases hempty : right = []
    · rw [hempty, List.append_nil]
      exact hleft.last c hc
    · rw [List.getLast?_append_of_ne_nil _ hempty]
      exact hright.last c hc

/-- A text without the `comparators` is `Clear`. -/
theorem clear_of_forall (h : ∀ c ∈ text, c ∉ comparators) : Clear text := by
  have hequals : '=' ∉ text := fun hmem => h '=' hmem (by decide)
  refine ⟨fun c _ => not_separator_of_not_mem hequals c, fun c hc hlast => ?_⟩
  exact h c (List.mem_of_getLast? hlast) hc

/-- White space is `Clear`. -/
theorem clear_of_isBlank (h : isBlank text = true) : Clear text := by
  refine clear_of_forall fun c hmem hc => ?_
  have hink : ∀ c ∈ comparators, isSpace c = false := List.all_iff_forall_prop.mp (by decide)
  exact not_mem_of_isBlank h (hink c hc) hmem

/-- The characters of a package name are those that `leadingName` takes. -/
theorem IsPackageName.isNameChar (h : IsPackageName name) {c : Char} (hc : c ∈ name) :
    Requirements.isNameChar c = true := by
  rcases h.chars c hc with hchar | rfl | rfl | rfl
  · rw [Requirements.isNameChar, hchar]
    rfl
  all_goals decide

/-- A character that is no `isNameChar` is not in a package name. -/
theorem IsPackageName.not_mem (h : IsPackageName name) {c : Char}
    (hc : Requirements.isNameChar c = false) : c ∉ name :=
  fun hmem => Bool.noConfusion ((h.isNameChar hmem).symm.trans hc)

/-- White space is no `isNameChar`, so it ends a name. -/
theorem isNameChar_of_isSpace {c : Char} (h : isSpace c = true) :
    Requirements.isNameChar c = false := by
  have hall : ∀ n ∈ spacePoints,
      (inRanges alphabeticRanges n || inRanges numericRanges n) = false := by
    decide +kernel
  have hclass := hall c.toNat (mem_spacePoints h)
  have hmark : ∀ d ∈ ['-', '_', '.'], c ≠ d := by
    rintro d hd rfl
    have hink : ∀ d ∈ ['-', '_', '.'], isSpace d = false :=
      List.all_iff_forall_prop.mp (by decide)
    exact Bool.noConfusion (h.symm.trans (hink c hd))
  unfold Requirements.isNameChar isAlphanumeric isAlphabetic
  rw [hclass]
  simp [hmark]

theorem IsPackageName.ink (h : IsPackageName name) {c : Char} (hc : c ∈ name) :
    isSpace c = false := by
  refine Bool.eq_false_iff.mpr fun hspace => ?_
  exact h.not_mem (isNameChar_of_isSpace hspace) hc

/-- A package name is `Clear`. -/
theorem IsPackageName.clear (h : IsPackageName name) : Clear name := by
  refine clear_of_forall fun c hmem hc => ?_
  have hnone : ∀ c ∈ comparators, Requirements.isNameChar c = false :=
    List.all_iff_forall_prop.mp (by decide)
  exact h.not_mem (hnone c hc) hmem

/-- Extras are `Clear`: a bracket ends them. -/
theorem IsExtras.clear (h : IsExtras extras) : Clear extras := by
  cases h with
  | none => exact clear_of_forall (by simp)
  | @some inner back hinner hback =>
    have hclosed : Clear (inner ++ [']']) := by
      constructor
      · intro c hc
        rw [pair_isInfix_append_iff]
        -- A separator would lie in the extras, in the bracket, or across the two.
        rintro (h | h | ⟨-, hhead⟩)
        · exact hinner.separator c hc h
        · exact absurd h.length_le (by simp)
        · simp at hhead
      · intro c hc hlast
        rw [List.getLast?_concat] at hlast
        obtain rfl := Option.some.inj hlast
        exact absurd hc (by decide)
    have hopen : Clear ['['] := clear_of_forall (List.all_iff_forall_prop.mp (by decide))
    exact hopen.append (hclosed.append (clear_of_isBlank hback))

/-- What follows a separator has none of the `separators` in it, up to the end of the line and
whatever comes behind a comma (`hmore`). -/
theorem not_separator_of_version {more : List Char} (hgap : isBlank gap = true)
    (hversion : IsVersion version) (hback : isBlank back = true) (hmore : IsMore more) :
    ∀ c ∈ comparators, ¬ [c, '='] <:+: gap ++ version ++ back ++ more := by
  have hequals : '=' ∉ gap ++ version ++ back := by
    simp only [List.mem_append, not_or]
    exact ⟨⟨not_mem_of_isBlank hgap (by decide), hversion.equals⟩,
      not_mem_of_isBlank hback (by decide)⟩
  intro c hc
  cases hmore with
  | none =>
    rw [List.append_nil]
    exact not_separator_of_not_mem hequals c
  | @some rest hrest =>
    rw [pair_isInfix_append_iff, List.infix_cons_iff]
    -- It would lie before the comma, start at it, follow it, or end at it.
    rintro (h | (h | h) | ⟨-, hhead⟩)
    · exact not_separator_of_not_mem hequals c h
    · obtain ⟨rfl, -⟩ := List.cons_prefix_cons.mp h
      exact absurd hc (by decide)
    · exact hrest.separator c hc h
    · simp at hhead

/-! ### The version -/

/-- `afterSeparator?` finds nothing in a text without the `separator`. -/
theorem afterSeparator?_of_not_isInfix {separator : List Char} (h : ¬ separator <:+: text) :
    afterSeparator? text separator = none := by
  rw [afterSeparator?, breakOn, breakFrom_of_not_isInfix h]

theorem version_of_clear (h : ∀ c ∈ comparators, ¬ [c, '='] <:+: text) :
    Requirements.version text = [] := by
  have hnone : separators.findSome? (afterSeparator? text) = none := by
    rw [separators_eq, List.findSome?_eq_none_iff]
    intro separator hmem
    obtain ⟨c, hc, rfl⟩ := List.mem_map.mp hmem
    exact afterSeparator?_of_not_isInfix (h c hc)
  rw [Requirements.version, hnone]

section Constrained

variable {c : Char} (hc : c ∈ comparators) (hne : left ≠ []) (hleft : Clear left)
  (hright : ∀ d ∈ comparators, ¬ [d, '='] <:+: right) (hhead : right.head? ≠ some '=')

include hleft hright hhead

/-- There is no separator but the one between a `Clear` text and what follows, if that has none and
does not start with an equals sign (`hhead`). -/
theorem eq_of_separator_isInfix {d : Char} (hd : d ∈ comparators)
    (h : [d, '='] <:+: left ++ [c, '='] ++ right) : d = c := by
  -- It stands in one of the three texts, or across one of the two joints.
  rw [pair_isInfix_append_iff, pair_isInfix_append_iff] at h
  rcases h with (h | h | ⟨hlast, -⟩) | h | ⟨-, hequals⟩
  · exact absurd h (hleft.separator d hd)
  · have hpair := h.eq_of_length rfl
    exact (List.cons.inj hpair).1
  · exact absurd hlast (hleft.last d hd)
  · exact absurd h (hright d hd)
  · exact absurd hequals hhead

include hc hne

/-- The separator is found, whatever is looked for before it in the list of `separators`. -/
theorem findSome?_afterSeparator? :
    separators.findSome? (afterSeparator? (left ++ [c, '='] ++ right)) = some right := by
  have hfirst : ¬ [c, '='] <:+: left ++ [c, '='].dropLast := by
    show ¬ [c, '='] <:+: left ++ [c]
    rw [pair_isInfix_append_iff]
    rintro (h | h | ⟨hlast, -⟩)
    · exact hleft.separator c hc h
    · exact absurd h.length_le (by simp)
    · exact hleft.last c hc hlast
  have hfound : afterSeparator? (left ++ [c, '='] ++ right) [c, '='] = some right := by
    obtain ⟨d, others, rfl⟩ := List.exists_cons_of_ne_nil hne
    rw [afterSeparator?, breakOn_append (List.cons_ne_nil _ _) hfirst]
  obtain ⟨earlier, later, hsplit, hearlier⟩ := List.eq_append_cons_of_mem hc
  rw [separators_eq, hsplit, List.map_append, List.map_cons, List.findSome?_eq_some_iff]
  refine ⟨_, _, _, rfl, hfound, fun separator hmem => ?_⟩
  -- Another separator would be this one.
  obtain ⟨d, hd, rfl⟩ := List.mem_map.mp hmem
  refine afterSeparator?_of_not_isInfix fun h => ?_
  have hd' : d ∈ comparators := hsplit ▸ List.mem_append_left _ hd
  exact hearlier (eq_of_separator_isInfix hleft hright hhead hd' h ▸ hd)

end Constrained

/-- **The version behind the separator** `[c, '=']`. It ends at a comma or at the end of the line.
What stands before is `Clear` of separators, so this one is found, and found first. -/
theorem version_constrained {c : Char} {more : List Char} (hc : c ∈ comparators) (hne : left ≠ [])
    (hleft : Clear left) (hgap : isBlank gap = true) (hversion : IsVersion version)
    (hback : isBlank back = true) (hmore : IsMore more) :
    Requirements.version (left ++ [c, '='] ++ trimEnd (gap ++ version ++ back ++ more))
      = version := by
  -- White space at the end may be gone, but no separator comes about by that.
  obtain ⟨dropped, -, hpost⟩ := exists_trimEnd (gap ++ version ++ back ++ more)
  have hright : ∀ d ∈ comparators, ¬ [d, '='] <:+: trimEnd (gap ++ version ++ back ++ more) := by
    intro d hd h
    refine not_separator_of_version hgap hversion hback hmore d hd ?_
    rw [hpost]
    exact h.trans List.infix_append_left
  -- Nor is there an equals sign right behind this one, which would make two of it.
  have hequals : '=' ∉ gap ++ version := by
    rw [List.mem_append, not_or]
    exact ⟨not_mem_of_isBlank hgap (by decide), hversion.equals⟩
  have hhead : (trimEnd (gap ++ version ++ back ++ more)).head? ≠ some '=' := by
    intro h
    have hfirst := head?_of_trimEnd h
    rw [List.append_assoc, List.head?_append_of_ne_nil _ (by simp [hversion.ne_nil])] at hfirst
    exact hequals (List.mem_of_head? hfirst)
  have hcomma : ',' ∉ gap ++ version ++ back := by
    simp only [List.mem_append, not_or]
    exact ⟨⟨not_mem_of_isBlank hgap (by decide), hversion.comma⟩,
      not_mem_of_isBlank hback (by decide)⟩
  have hmore' : before ',' more = [] := by
    cases hmore with
    | none => rfl
    | some hrest => exact before_cons_self ',' _
  have htrimmed : IsTrimmed version :=
    ⟨fun d hd => hversion.ink d (List.mem_of_head? hd),
      fun d hd => hversion.ink d (List.mem_of_getLast? hd)⟩
  rw [Requirements.version, findSome?_afterSeparator? hc hne hleft hright hhead]
  show trim (before ',' (trimEnd (gap ++ version ++ back ++ more))) = version
  rw [trim_before_trimEnd (by decide), before_append_of_not_mem hcomma, hmore', List.append_nil]
  exact trim_surrounded hgap htrimmed hversion.ne_nil hback

/-! ### One line -/

/-- `requirement?` looks at a `stripped` line. -/
theorem requirement?_congr {line line' : List Char} (h : stripped line = stripped line') :
    requirement? line = requirement? line' := by
  rw [requirement?, requirement?, h]

theorem requirement?_of_isBlank (h : isBlank text = true) : requirement? text = none := by
  have hnone : requirement? [] = none := by decide
  rw [← hnone]
  exact requirement?_congr (stripped_append_blank h [])

theorem requirement?_of_comment (hfront : isBlank front = true) (text : List Char) :
    requirement? (front ++ '#' :: text) = none := by
  rw [← requirement?_of_isBlank hfront]
  refine requirement?_congr ?_
  have hhash : '#' ∉ front := not_mem_of_isBlank hfront (by decide)
  rw [stripped, stripped, before_append_of_not_mem hhash, before_cons_self, List.append_nil,
    before_of_not_mem hhash]

theorem requirement?_of_option (hfront : isBlank front = true) (text : List Char) :
    requirement? (front ++ '-' :: text) = none := by
  have hcut : before ';' (before '#' (front ++ '-' :: text))
      = front ++ '-' :: before ';' (before '#' text) := by
    rw [before_append_of_not_mem (not_mem_of_isBlank hfront (by decide)),
      before_append_of_not_mem (not_mem_of_isBlank hfront (by decide))]
    rfl
  have hhead : (stripped (front ++ '-' :: text)).head? = some '-' := by
    have hdash : ∀ c, ('-' :: before ';' (before '#' text)).head? = some c → isSpace c = false := by
      intro c hc
      obtain rfl := Option.some.inj hc
      decide
    rw [stripped_eq, hcut, head?_trim, firstInk?, trimStart_append hfront hdash]
    rfl
  unfold requirement?
  exact if_pos (beq_iff_eq.mpr hhead)

section Marks

variable {c : Char} (hc : c = ';' ∨ c = '#')

include hc

theorem isSpace_of_mark : isSpace c = false := by
  rcases hc with rfl | rfl <;> decide

/-- A text that `IsPlain` has neither mark in it. -/
theorem IsPlain.not_mem_of_mark (h : IsPlain text) : c ∉ text := by
  rcases hc with rfl | rfl
  · exact h.semicolon
  · exact h.hash

theorem IsExtras.not_mem_of_mark (h : IsExtras extras) : c ∉ extras := by
  have hbracket : c ≠ '[' ∧ c ≠ ']' := by rcases hc with rfl | rfl <;> decide
  cases h with
  | none => exact List.not_mem_nil
  | some hinner hback =>
    simp only [List.mem_append, List.mem_singleton, not_or]
    exact ⟨hbracket.1, ⟨hinner.not_mem_of_mark hc, hbracket.2⟩,
      not_mem_of_isBlank hback (isSpace_of_mark hc)⟩

theorem IsMore.not_mem_of_mark {more : List Char} (h : IsMore more) : c ∉ more := by
  have hcomma : c ≠ ',' := by rcases hc with rfl | rfl <;> decide
  cases h with
  | none => exact List.not_mem_nil
  | some hrest =>
    rw [List.mem_cons, not_or]
    exact ⟨hcomma, hrest.not_mem_of_mark hc⟩

theorem Constrains.not_mem_of_mark (h : Constrains constraint version) : c ∉ constraint := by
  have hspace := isSpace_of_mark hc
  have hsign : ∀ d ∈ '=' :: comparators, c ≠ d := by
    rcases hc with rfl | rfl <;> exact List.all_iff_forall_prop.mp (by decide)
  cases h with
  | none => exact List.not_mem_nil
  | some hd hgap hversion hback hmore =>
    have hversion' : c ∉ version := by
      rcases hc with rfl | rfl
      · exact hversion.semicolon
      · exact hversion.hash
    simp only [List.mem_append, List.mem_cons, List.not_mem_nil, or_false, not_or]
    exact ⟨⟨hsign _ (List.mem_cons_of_mem _ hd), hsign '=' List.mem_cons_self⟩,
      ⟨⟨not_mem_of_isBlank hgap hspace, hversion'⟩, not_mem_of_isBlank hback hspace⟩,
      hmore.not_mem_of_mark hc⟩

end Marks

section Required

variable (hname : IsPackageName name) (hgap : isBlank gap = true) (hextras : IsExtras extras)
  (hconstraint : Constrains constraint version)

include hname

/-- `leadingName` reads a `name` up to the first character that is none of a name. -/
theorem leadingName_append (h : ∀ c, right.head? = some c → isNameChar c = false) :
    leadingName (name ++ right) = name := by
  have hright : right.takeWhile isNameChar = [] := by
    cases right with
    | nil => rfl
    | cons c rest => rw [List.takeWhile_cons, h c rfl, if_neg Bool.false_ne_true]
  rw [leadingName, List.takeWhile_append_of_pos fun c hc => hname.isNameChar hc, hright,
    List.append_nil]

/-- What a line requires that starts with a `name` when it is `stripped`: the name ends where no
`isNameChar` follows (`h`), and the version is looked for in the whole of it. -/
theorem requirement?_of_stripped {line : List Char} (hstripped : stripped line = name ++ right)
    (h : ∀ c, right.head? = some c → isNameChar c = false) :
    requirement? line
      = some (Dependency.ofNamed .pyPI name (Requirements.version (name ++ right))) := by
  have hhead : ¬ ((name ++ right).head? == some '-') = true := by
    rw [beq_iff_eq, List.head?_append_of_ne_nil _ hname.ne_nil]
    exact hname.head_ne
  unfold requirement?
  rw [hstripped]
  show (if (name ++ right).head? == some '-' then none else _) = _
  rw [if_neg hhead, leadingName_append hname h]
  obtain ⟨c, rest, rfl⟩ := List.exists_cons_of_ne_nil hname.ne_nil
  rfl

/-- A text that starts with a `name` has nothing to be trimmed in front. -/
theorem trim_name_append (right : List Char) : trim (name ++ right) = name ++ trimEnd right := by
  have hhead : ∀ c, (name ++ right).head? = some c → isSpace c = false := by
    intro c hc
    rw [List.head?_append_of_ne_nil _ hname.ne_nil] at hc
    exact hname.ink (List.mem_of_head? hc)
  have hstart := trimStart_append (rfl : isBlank [] = true) hhead
  rw [List.nil_append] at hstart
  rw [trim, hstart]
  exact trimEnd_append_of_ink (fun c hc => hname.ink (List.mem_of_getLast? hc)) right

include hgap hextras hconstraint

/-- No part of a requirement has a mark `c` in it that the line could be cut at by `stripped`. -/
theorem not_mem_of_mark {c : Char} (hc : c = ';' ∨ c = '#') :
    c ∉ name ++ (gap ++ extras ++ constraint) := by
  have hnameChar : isNameChar c = false := by rcases hc with rfl | rfl <;> decide
  simp only [List.mem_append, not_or]
  exact ⟨hname.not_mem hnameChar,
    ⟨not_mem_of_isBlank hgap (isSpace_of_mark hc), hextras.not_mem_of_mark hc⟩,
    hconstraint.not_mem_of_mark hc⟩

/-- A requirement is `stripped` of what stands around it: white space in front, and its `tail`,
which is a marker, a comment or both. -/
theorem stripped_required (hfront : isBlank front = true) (htail : IsTail tail) :
    stripped (front ++ (name ++ (gap ++ extras ++ constraint)) ++ tail)
      = name ++ trimEnd (gap ++ extras ++ constraint) := by
  have hmark : ∀ c, c = ';' ∨ c = '#' → c ∉ front ++ (name ++ (gap ++ extras ++ constraint)) := by
    intro c hc
    rw [List.mem_append, not_or]
    exact ⟨not_mem_of_isBlank hfront (isSpace_of_mark hc),
      not_mem_of_mark hname hgap hextras hconstraint hc⟩
  have hcut : before ';' (before '#' tail) = [] := by
    cases htail with
    | none => rfl
    | marker text => exact before_cons_self ';' _
    | comment text =>
      rw [before_cons_self]
      rfl
  rw [stripped_eq, before_append_of_not_mem (hmark '#' (.inr rfl)),
    before_append_of_not_mem (hmark ';' (.inl rfl)), hcut, List.append_nil,
    trim_blank_append hfront, trim_name_append hname]

/-- The version of a requirement is the one of its `constraint`. -/
theorem version_required :
    Requirements.version (name ++ trimEnd (gap ++ extras ++ constraint)) = version := by
  have hclear : Clear (name ++ (gap ++ extras)) :=
    hname.clear.append ((clear_of_isBlank hgap).append hextras.clear)
  cases hconstraint with
  | none =>
    obtain ⟨dropped, -, hrest⟩ := exists_trimEnd (gap ++ extras)
    refine version_of_clear fun c hc h => hclear.separator c hc ?_
    rw [List.append_nil] at h
    rw [hrest, ← List.append_assoc]
    exact h.trans List.infix_append_left
  | @some c gap' _ back more hc hgap' hversion hback hmore =>
    have hlast : ∀ d, (gap ++ extras ++ [c, '=']).getLast? = some d → isSpace d = false := by
      intro d hd
      rw [List.getLast?_append_of_ne_nil _ (List.cons_ne_nil _ _)] at hd
      obtain rfl : '=' = d := Option.some.inj hd
      decide
    rw [← List.append_assoc, trimEnd_append_of_ink hlast, ← List.append_assoc, ← List.append_assoc]
    exact version_constrained hc (by simp [hname.ne_nil]) hclear hgap' hversion hback hmore

end Required

/-- What follows a name in a requirement is no `isNameChar`, so it ends the name: white space, a
bracket of extras or the start of a constraint. -/
theorem isNameChar_of_head? {c : Char} (hgap : isBlank gap = true) (hextras : IsExtras extras)
    (hconstraint : Constrains constraint version)
    (h : (gap ++ extras ++ constraint).head? = some c) : isNameChar c = false := by
  have hsign : ∀ d ∈ '[' :: comparators, isNameChar d = false :=
    List.all_iff_forall_prop.mp (by decide)
  cases gap with
  | cons d rest =>
    obtain rfl := Option.some.inj h
    exact isNameChar_of_isSpace (isBlank_eq_true.mp hgap d List.mem_cons_self)
  | nil =>
    cases hextras with
    | some hinner hback =>
      obtain rfl := Option.some.inj h
      exact hsign '[' List.mem_cons_self
    | none =>
      cases hconstraint with
      | none => cases h
      | some hc _ _ _ _ =>
        obtain rfl := Option.some.inj h
        exact hsign _ (List.mem_cons_of_mem _ hc)

/-- The dependency that a line requires, from its name and version. -/
def required (r : List Char × List Char) : Dependency where
  name := String.ofList r.1
  package := String.ofList r.1
  version := String.ofList r.2
  ecosystem := .pyPI

/-- **One line**: `requirement?` reads a `Row` as what it requires, case by case. -/
theorem requirement?_row {line : List Char} {r : Option (List Char × List Char)} (h : Row line r) :
    requirement? line = r.map required := by
  cases h with
  | blank h => exact requirement?_of_isBlank h
  | comment hfront text => exact requirement?_of_comment hfront text
  | option hfront text => exact requirement?_of_option hfront text
  | @requirement front name gap extras constraint tail version hfront hname hgap hextras hconstraint
      htail =>
    have hstripped := stripped_required hname hgap hextras hconstraint hfront htail
    have hrow := requirement?_of_stripped hname hstripped fun c hc =>
      isNameChar_of_head? hgap hextras hconstraint (head?_of_trimEnd hc)
    rw [version_required hname hgap hextras hconstraint] at hrow
    rw [List.append_assoc name, List.append_assoc name]
    exact hrow

/-! ### The whole file -/

/-- **All lines**: each of them is read as what its `Row` requires, and as nothing where the row has
nothing. -/
theorem map_requirement?_rows {all : List (List Char)}
    {rows : List (Option (List Char × List Char))}
    (h : List.Forall₂ Row all rows) : all.map requirement? = rows.map (Option.map required) := by
  induction h with
  | nil => rfl
  | cons hrow _ ih => rw [List.map_cons, List.map_cons, requirement?_row hrow, ih]

/-- The lines that `ofFile` reads can be taken to be what stands between line feeds. -/
theorem ofFile_eq (content : List Char) :
    ofFile content = ((content.splitOn '\n').map requirement?).reduceOption := by
  have hreturn : ∀ line, requirement? (line ++ ['\r']) = requirement? line :=
    fun line => requirement?_congr (stripped_append_blank (by decide) line)
  have hlines : ((lines content).map requirement?).reduceOption = ofFile content := by
    rw [ofFile, List.reduceOption, List.filterMap_map]
    rfl
  rcases map_lines hreturn content with h | h
  · rw [h, hlines]
  · -- Behind the last line feed there is nothing.
    rw [h, requirement?_of_isBlank rfl, List.reduceOption_append, hlines]
    exact (List.append_nil _).symm

/-- **Requirements are read as they are written.** A file whose lines are `Row`s yields, in the
order of its lines, the name and the version of every requirement in it, whatever its markers and
comments say. -/
theorem ofFile_rows {content : List Char} {rows : List (Option (List Char × List Char))}
    (h : List.Forall₂ Row (content.splitOn '\n') rows) :
    ofFile content = rows.reduceOption.map required := by
  rw [ofFile_eq, map_requirement?_rows h, List.reduceOption_map]

end CodeHealth.Requirements

namespace CodeHealth.Sample

open Text Requirements

/-- A file with lines of every kind. The marker and the comments have separators in them. -/
def requirementsText : List Char :=
  ("# tools\n-r base.txt\n\nrequests==2.31.0\n" ++
    "h2 [a, b] ~= 0.27 , <1 ; python_version >= '3.8' # x==1\r\n  plain # y>=2\n").toList

/-- What the lines of `requirementsText` require. -/
def requirementsRows : List (Option (List Char × List Char)) :=
  [none, none, none, some ("requests".toList, "2.31.0".toList), some ("h2".toList, "0.27".toList),
    some ("plain".toList, []), none]

/-- `IsPlain` by computation, for texts that are written out. -/
theorem isPlain_of_all {text : List Char} (h : text.all (fun c => c ∉ [';', '#', '=']) = true) :
    IsPlain text := by
  have hall := List.all_iff_forall_prop.mp h
  refine ⟨fun hmem => hall ';' hmem (by decide), fun hmem => hall '#' hmem (by decide), ?_⟩
  exact fun c _ => not_separator_of_not_mem (fun hmem => hall '=' hmem (by decide)) c

/-- `IsVersion` by computation, for texts that are written out: none of the characters that end a
version is in them. -/
theorem isVersion_of_all {text : List Char} (hne : text ≠ [])
    (h : text.all (fun c => isSpace c = false ∧ c ∉ ['=', ',', ';', '#']) = true) :
    IsVersion text := by
  have hall := List.all_iff_forall_prop.mp h
  have hmark : ∀ c, c ∈ ['=', ',', ';', '#'] → c ∉ text := fun c hc hmem => (hall c hmem).2 hc
  exact ⟨hne, fun c hc => (hall c hc).1, hmark _ (by decide), hmark _ (by decide),
    hmark _ (by decide), hmark _ (by decide)⟩

/-- The lines of `requirementsText` follow the grammar. -/
theorem requirementsText_rows :
    List.Forall₂ Row (requirementsText.splitOn '\n') requirementsRows := by
  have hlines : requirementsText.splitOn '\n' = [[] ++ '#' :: " tools".toList,
      [] ++ '-' :: "r base.txt".toList, [],
      [] ++ ("requests".toList ++ [] ++ [] ++
        (['=', '='] ++ ([] ++ "2.31.0".toList ++ [] ++ []))) ++ [],
      [] ++ ("h2".toList ++ [' '] ++ (['['] ++ ("a, b".toList ++ [']'] ++ [' '])) ++
        (['~', '='] ++ ([' '] ++ "0.27".toList ++ [' '] ++ (',' :: " <1 ".toList)))) ++
        (';' :: " python_version >= '3.8' # x==1\r".toList),
      [' ', ' '] ++ ("plain".toList ++ [' '] ++ [] ++ []) ++ ('#' :: " y>=2".toList), []] := by
    decide +kernel
  have hnil : isBlank [] = true := rfl
  have hspace : isBlank [' '] = true := by decide
  have hname : ∀ name ∈ ["requests".toList, "h2".toList, "plain".toList], IsPackageName name := by
    have hchars : ∀ name ∈ ["requests".toList, "h2".toList, "plain".toList], name ≠ [] ∧
        name.all (fun c => isAlphanumeric c = true ∨ c = '-' ∨ c = '_' ∨ c = '.') = true ∧
        name.head? ≠ some '-' := by
      decide +kernel
    intro name h
    obtain ⟨hne, hall, hhead⟩ := hchars name h
    exact ⟨hne, List.all_iff_forall_prop.mp hall, hhead⟩
  have hrequests := Constrains.some (c := '=') (by decide) hnil
    (isVersion_of_all (by decide) (by decide) : IsVersion "2.31.0".toList) hnil .none
  have hh2 := Constrains.some (c := '~') (by decide) hspace
    (isVersion_of_all (by decide) (by decide) : IsVersion "0.27".toList) hspace
    (.some (isPlain_of_all (by decide) : IsPlain " <1 ".toList))
  have hextras : IsExtras (['['] ++ ("a, b".toList ++ [']'] ++ [' '])) :=
    .some (isPlain_of_all (by decide)) hspace
  rw [hlines]
  refine .cons (.comment hnil _) (.cons (.option hnil _) (.cons (.blank hnil) (.cons
    (.requirement hnil (hname _ (by decide)) hnil .none hrequests .none) (.cons
    (.requirement hnil (hname _ (by decide)) hspace hextras hh2 (.marker _)) (.cons
    (.requirement (by decide) (hname _ (by decide)) hspace .none .none (.comment _))
    (.cons (.blank hnil) .nil))))))

/-- Two versions of `requirementsText` are read behind separators, and one requirement has none. -/
theorem requirementsText_read : List.Forall₂ Row (requirementsText.splitOn '\n') requirementsRows ∧
    ofFile requirementsText = [⟨"requests", "requests", "2.31.0", .pyPI⟩,
      ⟨"h2", "h2", "0.27", .pyPI⟩, ⟨"plain", "plain", "", .pyPI⟩] := by
  have hread := ofFile_rows requirementsText_rows
  have hrows : requirementsRows.reduceOption.map required =
      [⟨"requests", "requests", "2.31.0", .pyPI⟩, ⟨"h2", "h2", "0.27", .pyPI⟩,
        ⟨"plain", "plain", "", .pyPI⟩] := by
    decide +kernel
  exact ⟨requirementsText_rows, hread.trans hrows⟩

end CodeHealth.Sample
