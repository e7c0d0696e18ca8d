import CodeHealth.Proofs.Indentation
import CodeHealth.Proofs.Keywords
import CodeHealth.Proofs.Measures

/-!
# Lines that are not measured

A line of white space declares nothing, has no decisions, and the search for the end of a body
passes it, whatever the style of blocks. In Ruby the same holds of comments. Such a line can stand
anywhere: the functions of a source stay what they are, and those below it move down by one line.

* `Outline.CountsOver` — a count of lines up to some end, without and with one more line;
* `Outline.Style.Passes` — a line that the search for the end of a body passes in any state;
* `Outline.Style.extent_insert` — what such a line does to the extent of a body around it;
* `Outline.Profile.Idle` — a line that has no part in any measure;
* `Outline.Profile.Idle.measuresFrom_insert` — measures around an idle line;
* `measures_insert_blank_or_comment` — blank lines and comments of Ruby change no complexity.
-/

namespace CodeHealth

open CodeHealth.Text

/-! ### Measures further down -/

/-- The measure of a function with `count` more lines above it. -/
def FunctionMeasure.down (count : Nat) (f : FunctionMeasure) : FunctionMeasure :=
  { f with line := f.line + count }

/-- The measure of a function after one more line was put in as line `first`: it moves `down` if it
was on this line or below it. -/
def FunctionMeasure.movedFrom (first : Nat) (f : FunctionMeasure) : FunctionMeasure :=
  if first ≤ f.line then f.down 1 else f

namespace Outline

variable {line : List Char}

namespace Profile

variable (p : Profile) {file : String}

/-- The measure that `measureAt?` gives of a declaration with another number moves with it: only the
line of the measure depends on where the declaration stands. -/
theorem measureAt?_add (number count : Nat) (lines : List (List Char)) :
    p.measureAt? file (number + count) lines
      = (p.measureAt? file number lines).map (FunctionMeasure.down count) := by
  unfold measureAt?
  cases lines.head? with
  | none => rfl
  | some declaration =>
    cases hname : p.declaredName? declaration with
    | none => simp [hname]
    | some name =>
      simp only [hname, Option.bind_eq_bind, Option.bind_some]
      split <;> rfl

/-- The numbers of lines are counted from that of the first one: with `count` more, all measures
move `down` by it. -/
theorem measuresFrom_add (number count : Nat) (lines : List (List Char)) :
    p.measuresFrom file (number + count) lines
      = (p.measuresFrom file number lines).map (FunctionMeasure.down count) := by
  induction lines generalizing number with
  | nil => rfl
  | cons current rest ih =>
    rw [measuresFrom, measuresFrom, List.map_append, p.measureAt?_add, Nat.add_right_comm, ih,
      Option.toList_map]

/-- No measure has a line before the `number` of the first one. -/
theorem le_line_of_mem_measuresFrom {number : Nat} {lines : List (List Char)} {f : FunctionMeasure}
    (h : f ∈ p.measuresFrom file number lines) : number ≤ f.line := by
  obtain ⟨i, hi⟩ := p.mem_measuresFrom_iff.mp h
  rw [(p.measureAt?_eq_some hi).2.1]
  exact Nat.le_add_right number i

/-- All that a measure takes from the lines after a declaration is whether there is a body (`hhas`)
and the decisions on it (`hbody`). -/
theorem measureAt?_congr {number : Nat} {lines lines' : List (List Char)}
    (hhead : lines'.head? = lines.head?)
    (hhas : (p.style.extent lines').hasBody = (p.style.extent lines).hasBody)
    (hbody : p.decisionsOn ((findSpan p.style lines' 0).body lines')
      = p.decisionsOn ((findSpan p.style lines 0).body lines)) :
    p.measureAt? file number lines' = p.measureAt? file number lines := by
  rw [body_findSpan, body_findSpan, List.drop_zero, List.drop_zero] at hbody
  simp only [measureAt?, hhead, hhas, hbody]

end Profile

/-! ### Ends of bodies -/

/-- The number of lines up to some end, and the same after one more line was put in at the index
`place`: either the end comes before the line, or the line is counted too. At the place itself both
may be so. -/
def CountsOver (place count count' : Nat) : Prop :=
  count' = count ∧ count ≤ place ∨ count' = count + 1 ∧ place ≤ count

/-- One line more in front moves the `place` and both counts. -/
theorem CountsOver.succ {place count count' : Nat} (h : CountsOver place count count') :
    CountsOver (place + 1) (count + 1) (count' + 1) := by
  unfold CountsOver at h ⊢
  omega

/-- A line that the search for the end of a body passes in any state: without braces and semicolon
at its end, blank, or ignored, as the style has it. -/
def Style.Passes : Style → List Char → Prop
  | .braces, line => '\x7b' ∉ line ∧ '\x7d' ∉ line ∧ endsInSemicolon line = false
  | .indentation, line => isBlank line = true
  | .keywords blocks, line => blocks.isIgnored (trim line) = true

/-- A blank line among the lines of a body by indentation, at any place, is counted by
`indentedLines` or not reached. -/
theorem indentedLines_insert (h : isBlank line = true) (depth : Nat)
    (front back : List (List Char)) :
    CountsOver front.length (indentedLines depth (front ++ back))
      (indentedLines depth (front ++ line :: back)) := by
  induction front with
  | nil =>
    refine .inr ⟨?_, Nat.zero_le _⟩
    rw [List.nil_append, indentedLines_cons, h, Bool.true_or, if_pos rfl, List.nil_append]
  | cons first front ih =>
    rw [List.cons_append, List.cons_append, indentedLines_cons, indentedLines_cons]
    split
    · exact ih.succ
    · exact .inl ⟨rfl, Nat.zero_le _⟩

/-- One line either ends the body whatever follows, or leads to a number of open blocks (`next`)
from which the lines after it are counted. -/
theorem keywordLines_cons_cases (blocks : KeywordBlocks) (indent : Nat) (depth : Int)
    (line : List Char) :
    (∀ rest, keywordLines blocks indent depth (line :: rest) = 0) ∨
      ∃ next, ∀ rest, keywordLines blocks indent depth (line :: rest)
        = keywordLines blocks indent next rest + 1 := by
  simp only [keywordLines]
  split
  · exact .inr ⟨depth, fun _ => rfl⟩
  · split
    · split
      · exact .inl fun _ => rfl
      · exact .inr ⟨depth - 1, fun _ => rfl⟩
    · split
      · exact .inr ⟨depth + 1, fun _ => rfl⟩
      · exact .inr ⟨depth, fun _ => rfl⟩

/-- A line that is ignored, among the lines of a body by keywords, is counted by `keywordLines` or
not reached. -/
theorem keywordLines_insert {blocks : KeywordBlocks} (h : blocks.isIgnored (trim line) = true)
    (indent : Nat) (depth : Int) (front back : List (List Char)) :
    CountsOver front.length (keywordLines blocks indent depth (front ++ back))
      (keywordLines blocks indent depth (front ++ line :: back)) := by
  induction front generalizing depth with
  | nil => exact .inr ⟨keywordLines_ignored h, Nat.zero_le _⟩
  | cons first front ih =>
    rw [List.cons_append, List.cons_append, List.length_cons]
    obtain hends | ⟨next, hnext⟩ := keywordLines_cons_cases blocks indent depth first
    · rw [hends, hends]
      exact .inl ⟨rfl, Nat.zero_le _⟩
    · rw [hnext, hnext]
      exact (ih next).succ

/-- The lines `passed` before are only added to the count of `bracesFrom`, so that lemmas about it
may start from zero. -/
theorem bracesFrom_passed (depth : Int) (opened : Bool) (passed : Nat) (lines : List (List Char)) :
    bracesFrom depth opened passed lines
      = ((bracesFrom depth opened 0 lines).1 + passed, (bracesFrom depth opened 0 lines).2) := by
  induction lines generalizing depth opened passed with
  | nil => simp [bracesFrom]
  | cons first rest ih =>
    simp only [bracesFrom]
    split
    · simp [Nat.add_comm]
    · split
      · simp [Nat.add_comm]
      · rw [ih _ _ (passed + 1), ih _ _ (0 + 1)]
        simp only [Prod.mk.injEq, and_true]
        omega

/-- One line either ends the span whatever follows, or leads to a state (`depth'`, `opened'`) from
which the lines after it are counted, and in which some brace is open if one was opened. -/
theorem bracesFrom_cons_cases (depth : Int) (opened : Bool) (line : List Char) :
    (∃ hasBody, ∀ rest, bracesFrom depth opened 0 (line :: rest) = (1, hasBody)) ∨
      ∃ depth' opened', (opened' = true → 0 < depth') ∧ ∀ rest,
        bracesFrom depth opened 0 (line :: rest)
          = ((bracesFrom depth' opened' 0 rest).1 + 1, (bracesFrom depth' opened' 0 rest).2) := by
  simp only [bracesFrom]
  split
  · exact .inl ⟨true, fun _ => rfl⟩
  · rename_i hdeep
    split
    · exact .inl ⟨false, fun _ => rfl⟩
    · refine .inr ⟨_, _, fun hopened => ?_, fun rest => bracesFrom_passed _ _ _ rest⟩
      rw [hopened, Bool.true_and, decide_eq_true_eq] at hdeep
      exact Int.lt_of_not_ge hdeep

/-- A line that `Passes` leaves the state as it is. If some brace is open whenever one was opened
(`hstate`), the search goes on in this state. -/
theorem bracesFrom_cons_passed (h : Style.braces.Passes line) {depth : Int} {opened : Bool}
    (hstate : opened = true → 0 < depth) (rest : List (List Char)) :
    bracesFrom depth opened 0 (line :: rest)
      = ((bracesFrom depth opened 0 rest).1 + 1, (bracesFrom depth opened 0 rest).2) := by
  obtain ⟨hopening, hclosing, hends⟩ := h
  have hbalance : braceBalance line = 0 := by
    rw [braceBalance, List.count_eq_zero.mpr hopening, List.count_eq_zero.mpr hclosing]
    rfl
  have hcontains : line.contains '\x7b' = false := by simpa using hopening
  have hdeep : ¬ (opened && decide (depth ≤ 0)) = true := by
    rw [Bool.and_eq_true, decide_eq_true_eq]
    exact fun hclosed => Int.not_le.mpr (hstate hclosed.1) hclosed.2
  rw [← bracesFrom_passed depth opened 1 rest]
  simp only [bracesFrom, hbalance, hcontains, hends, Bool.or_false, Int.add_zero, if_neg hdeep,
    Bool.and_false, Bool.false_eq_true, if_false]

/-- A line without braces and semicolon, among the lines of a span, is counted by `bracesFrom` or
not reached, and there is a body as before. -/
theorem bracesFrom_insert (h : Style.braces.Passes line) {depth : Int} {opened : Bool}
    (hstate : opened = true → 0 < depth) (front back : List (List Char)) :
    (bracesFrom depth opened 0 (front ++ line :: back)).2
        = (bracesFrom depth opened 0 (front ++ back)).2 ∧
      CountsOver front.length (bracesFrom depth opened 0 (front ++ back)).1
        (bracesFrom depth opened 0 (front ++ line :: back)).1 := by
  induction front generalizing depth opened with
  | nil =>
    rw [List.nil_append, List.nil_append, bracesFrom_cons_passed h hstate]
    exact ⟨rfl, .inr ⟨rfl, Nat.zero_le _⟩⟩
  | cons first front ih =>
    rw [List.cons_append, List.cons_append, List.length_cons]
    obtain ⟨hasBody, hends⟩ | ⟨depth', opened', hstate', hnext⟩ :=
      bracesFrom_cons_cases depth opened first
    · rw [hends, hends]
      exact ⟨rfl, .inl ⟨rfl, Nat.succ_le_succ (Nat.zero_le _)⟩⟩
    · rw [hnext, hnext]
      exact (ih hstate').imp_right CountsOver.succ

/-- **A line that is passed widens the bodies around it.** What starts above the line keeps its
start, and its end stays where it was or moves down by the line (`CountsOver`), in each of the three
styles. -/
theorem Style.extent_insert {style : Style} (h : style.Passes line) (declaration : List Char)
    (front back : List (List Char)) :
    let narrow := style.extent (declaration :: (front ++ back))
    let wide := style.extent (declaration :: (front ++ line :: back))
    wide.start = narrow.start ∧ narrow.start ≤ 1 ∧ wide.hasBody = narrow.hasBody ∧
      CountsOver (front.length + 1) narrow.stop wide.stop := by
  cases style with
  | braces =>
    have hclosed : false = true → (0 : Int) < 0 := fun hopened => Bool.noConfusion hopened
    obtain ⟨hhas, hstop⟩ := bracesFrom_insert h hclosed (declaration :: front) back
    exact ⟨rfl, Nat.zero_le 1, hhas, hstop⟩
  | indentation =>
    refine ⟨rfl, Nat.le_refl 1, rfl, ?_⟩
    show CountsOver (front.length + 1) (1 + indentedLines _ _) (1 + indentedLines _ _)
    rw [Nat.add_comm 1, Nat.add_comm 1]
    exact (indentedLines_insert h _ front back).succ
  | keywords blocks =>
    refine ⟨rfl, Nat.le_refl 1, rfl, ?_⟩
    show CountsOver (front.length + 1) (1 + keywordLines _ _ _ _) (1 + keywordLines _ _ _ _)
    rw [Nat.add_comm 1, Nat.add_comm 1]
    exact (keywordLines_insert h _ _ front back).succ

/-! ### Idle lines -/

namespace Profile

variable (p : Profile) {file : String}

theorem decisionsOn_cons (line : List Char) (rest : List (List Char)) :
    p.decisionsOn (line :: rest) = p.lineDecisions line + p.decisionsOn rest := rfl

theorem decisionsOn_append (front back : List (List Char)) :
    p.decisionsOn (front ++ back) = p.decisionsOn front + p.decisionsOn back := by
  induction front with
  | nil => exact (Nat.zero_add _).symm
  | cons line front ih =>
    rw [List.cons_append, p.decisionsOn_cons, p.decisionsOn_cons, ih, Nat.add_assoc]

/-- A line without decisions (`hzero`) adds nothing to a stretch of lines, inside of it or outside:
where it lies before the end, `CountsOver` has the stretch end one line further down. -/
theorem decisionsOn_stretch_insert (hzero : p.lineDecisions line = 0)
    (front back : List (List Char)) {start stop stop' : Nat} (hstart : start ≤ front.length)
    (hstop : CountsOver front.length stop stop') :
    p.decisionsOn (((front ++ line :: back).take stop').drop start)
      = p.decisionsOn (((front ++ back).take stop).drop start) := by
  rcases hstop with ⟨rfl, hle⟩ | ⟨rfl, hle⟩
  · -- The stretch ends above the line.
    rw [List.take_append_of_le_length hle, List.take_append_of_le_length hle]
  · obtain ⟨more, rfl⟩ := Nat.exists_eq_add_of_le hle
    rw [Nat.add_assoc, List.take_length_add_append, List.take_length_add_append,
      List.take_succ_cons, List.drop_append_of_le_length hstart,
      List.drop_append_of_le_length hstart, p.decisionsOn_append, p.decisionsOn_append,
      p.decisionsOn_cons, hzero, Nat.zero_add]

/-- A line that has no part in any measure of the profile `p`. -/
structure Idle (line : List Char) : Prop where
  /-- It declares nothing. -/
  undeclared : p.declaredName? line = none
  /-- It has no decisions. -/
  weightless : p.lineDecisions line = 0
  /-- The search for the end of a body passes it. -/
  passed : p.style.Passes line

variable {p}

/-- The measure of a declaration above an `Idle` line does not depend on the line: it adds no
decision, and the body ends on the same line as without it. -/
theorem Idle.measureAt?_insert (h : p.Idle line) (number : Nat) (declaration : List Char)
    (front back : List (List Char)) :
    p.measureAt? file number (declaration :: (front ++ line :: back))
      = p.measureAt? file number (declaration :: (front ++ back)) := by
  obtain ⟨hstart, hle, hhas, hstop⟩ := Style.extent_insert h.passed declaration front back
  refine p.measureAt?_congr rfl hhas ?_
  rw [Span.body_eq_drop_take, Span.body_eq_drop_take]
  simp only [findSpan, List.drop_zero, Nat.zero_add]
  rw [hstart]
  exact p.decisionsOn_stretch_insert h.weightless (declaration :: front) back
    (Nat.le_trans hle (Nat.succ_le_succ (Nat.zero_le _))) hstop

/-- **Measures around an idle line.** Below the line they move down by one, above it they stay
(`movedFrom`). -/
theorem Idle.measuresFrom_insert (h : p.Idle line) (number : Nat)
    (before after : List (List Char)) :
    p.measuresFrom file number (before ++ line :: after)
      = (p.measuresFrom file number (before ++ after)).map
          (FunctionMeasure.movedFrom (number + before.length)) := by
  induction before generalizing number with
  | nil =>
    have hnone : p.measureAt? file number (line :: after) = none := by
      simp [measureAt?, h.undeclared]
    rw [List.nil_append, List.nil_append, measuresFrom, hnone, p.measuresFrom_add]
    -- Everything is below the line.
    refine List.map_congr_left fun f hf => ?_
    exact (if_pos (p.le_line_of_mem_measuresFrom hf)).symm
  | cons declaration before ih =>
    rw [List.cons_append, List.cons_append, measuresFrom, measuresFrom, h.measureAt?_insert, ih,
      List.map_append, List.length_cons, Nat.add_right_comm number 1, Nat.add_assoc number]
    congr 1
    -- The declaration itself is above the line.
    cases hmeasure : p.measureAt? file number (declaration :: (before ++ after)) with
    | none => rfl
    | some f =>
      have hline := (p.measureAt?_eq_some hmeasure).2.1
      have habove : ¬ number + (before.length + 1) ≤ f.line := by omega
      simp [FunctionMeasure.movedFrom, habove]

end Profile

/-! ### The languages -/

variable {language : Language} {p : Profile}

/-- Every decision has something written out in it (`needsInk`), so that no blank line can match
it. -/
theorem decisions_needInk (h : language.profile? = some p) :
    ∀ pattern ∈ p.decisions, pattern.needsInk = true := by
  rw [← List.all_eq_true]
  cases language <;> cases h <;> decide +kernel

/-- Blank lines have no decisions (`lineDecisions`), in any language that is read line by line. -/
theorem lineDecisions_blank (h : language.profile? = some p) (hblank : isBlank line = true) :
    p.lineDecisions line = 0 := by
  unfold Profile.lineDecisions
  split
  · rfl
  · refine List.countP_eq_zero.mpr fun pattern hpattern => ?_
    rw [Pattern.occurs, Pattern.find?_blank (decisions_needInk h pattern hpattern) hblank]
    exact Bool.false_ne_true

/-- The search for the end of a body `Passes` blank lines, whatever the style of the language. -/
theorem passes_blank (h : language.profile? = some p) (hblank : isBlank line = true) :
    p.style.Passes line := by
  have hink : ∀ c, isSpace c = false → c ∉ line := by
    intro c hc hmem
    rw [List.all_eq_true.mp hblank c hmem] at hc
    cases hc
  have hbraces : Style.braces.Passes line := by
    refine ⟨hink _ (by decide), hink _ (by decide), ?_⟩
    have htrim : trimEnd line = [] := by
      rw [trimEnd, List.reverse_eq_nil_iff, List.dropWhile_eq_nil_iff]
      exact fun c hc => List.all_eq_true.mp hblank c (List.mem_reverse.mp hc)
    rw [endsInSemicolon, htrim]
    rfl
  -- Only Python and Ruby end bodies by other things than braces, and Go has no profile.
  cases language with
  | go => cases h
  | python =>
    cases h
    exact hblank
  | ruby =>
    cases h
    exact isIgnored_trim_iff.mpr (.inl hblank)
  | typescript | rust | java | php | csharp =>
    cases h
    exact hbraces

/-- So a blank line is `Idle`. -/
theorem idle_of_blank (h : language.profile? = some p) (hblank : isBlank line = true) :
    p.Idle line :=
  ⟨Profile.declaredName?_blank h hblank, lineDecisions_blank h hblank, passes_blank h hblank⟩

end Outline

/-! ### Comments of Ruby -/

namespace Pattern

variable {line : List Char}

/-- A place before a comment of Ruby, which starts with `#`, with nothing but white space in
between. -/
def BeforeComment (s : Place) : Prop := firstInk? s.rest = some '#'

/-- What can be passed before a comment is white space, or else the mark `#` of the comment itself,
which `f` then has to accept. -/
theorem BeforeComment.next {s e : Place} {f : Char → Bool} (h : BeforeComment s)
    (hnext : s.next? f = some e) :
    (BeforeComment e ∧ ∃ c, isSpace c = true ∧ f c = true) ∨ f '#' = true := by
  obtain ⟨c, rest, hrest, hc, rfl⟩ := Place.next?_eq_some_iff.mp hnext
  unfold BeforeComment firstInk? trimStart at h ⊢
  rw [hrest, List.dropWhile_cons] at h
  split at h
  · rename_i hspace
    exact .inl ⟨h, c, hspace, hc⟩
  · obtain rfl : c = '#' := Option.some.inj h
    exact .inr hc

theorem BeforeComment.leave {s : Place} (h : BeforeComment s) (index : Nat) :
    BeforeComment (s.leave index) := by
  rwa [BeforeComment, Place.rest_leave]

/-- The start of a comment line is `BeforeComment`. -/
theorem leads_start_beforeComment (h : firstInk? line = some '#') :
    start.Leads (Place.On line) BeforeComment := by
  intro fuel places hplaces e he
  cases places with
  | nil => simp at he
  | cons s places =>
    obtain ⟨hmem, hzero⟩ := List.mem_filter.mp he
    unfold BeforeComment
    rwa [(hplaces e hmem).rest, eq_of_beq hzero, List.drop_zero]

theorem leads_spaces_beforeComment : spaces.Leads BeforeComment BeforeComment := by
  refine Leads.star (Leads.one fun s e hs hnext => ?_)
  obtain ⟨he, -⟩ | hspace := hs.next hnext
  · exact he
  · exact absurd hspace (by decide)

/-- The word `def` cannot be read where a comment starts. -/
theorem leads_def_beforeComment : (text "def").Leads BeforeComment fun _ => False := by
  have hfirst : (one (· == 'd')).Leads BeforeComment fun _ => False := by
    refine Leads.one fun s e hs hnext => ?_
    obtain ⟨-, c, hspace, hc⟩ | hmark := hs.next hnext
    · rw [eq_of_beq hc] at hspace
      exact absurd hspace (by decide)
    · exact absurd hmark (by decide)
  exact hfirst.seq (leads_from_nowhere _)

end Pattern

namespace Outline

open Pattern

variable {line : List Char}

theorem ruby_signature_comment (h : firstInk? line = some '#') :
    ruby.signature.find? line = none := by
  have hindent : (group 1 spaces).Leads BeforeComment BeforeComment :=
    Leads.group (fun _ hs => hs) leads_spaces_beforeComment fun _ hs => hs.leave 1
  have hnowhere : (start ++ group 1 spaces ++ text "def").Leads (Place.On line) fun _ => False :=
    ((leads_start_beforeComment h).seq hindent).seq leads_def_beforeComment
  refine find?_eq_none ?_ (Place.on_start line) (fun _ _ hs => hs.next) fun _ hs => hs.enter
  exact ((hnowhere.seq (leads_from_nowhere _)).seq (leads_from_nowhere _)).seq
    (leads_from_nowhere _)

/-- A comment line is `Idle` in Ruby: it is not searched for decisions, and it is passed. -/
theorem idle_of_comment (h : firstInk? line = some '#') : ruby.Idle line where
  undeclared := by
    rw [Profile.declaredName?, ruby_signature_comment h]
    split <;> rfl
  weightless := by
    obtain ⟨rest, hrest⟩ := List.head?_eq_some_iff.mp h
    refine if_pos ?_
    rw [hrest]
    rfl
  passed := isIgnored_trim_iff.mpr (.inr h)

end Outline

/-- **Blank lines change no complexity**, in any language that is read line by line, and neither do
comments in Ruby. Wherever such a `line` is put in, the same functions are reported in the same
order with the same names and complexities, those declared below it one line further down
(`movedFrom`). -/
theorem measures_insert_blank_or_comment {language : Language} {p : Outline.Profile}
    (h : language.profile? = some p) {line : List Char}
    (hline : isBlank line = true ∨ language = .ruby ∧ firstInk? line = some '#') (file : String)
    (before after : List (List Char)) :
    p.measures file (before ++ line :: after)
      = (p.measures file (before ++ after)).map
          (FunctionMeasure.movedFrom (before.length + 1)) := by
  have hidle : p.Idle line := by
    rcases hline with hblank | ⟨rfl, hcomment⟩
    · exact Outline.idle_of_blank h hblank
    · cases h
      exact Outline.idle_of_comment hcomment
  rw [Nat.add_comm before.length 1]
  exact hidle.measuresFrom_insert 1 before after

namespace Sample

open Outline

/-- The start of a method in Ruby, with a decision in it. -/
def methodStart : List (List Char) := ["def f".toList, " a if b".toList]

/-- The end of the method of `methodStart`, and the method once more without a body. -/
def methodRest : List (List Char) := ["end".toList, "def f".toList, "end".toList]

/-- The first line of `methodStart` declares the method `f`. -/
theorem ruby_declares_method : ruby.declaredName? "def f".toList = some ['f'] := by
  have hname : (ruby.signature.find? "def f".toList).bind ruby.functionName = some ['f'] := by cbv
  exact ruby.declaredName?_eq_some (by decide +kernel) hname (by decide)

/-- Both methods of `methodStart` and `methodRest` are reported, the first one with its decision. -/
theorem methods_measured :
    ⟨"a.rb", "f", 1, 2⟩ ∈ ruby.measures "a.rb" (methodStart ++ methodRest) ∧
      ⟨"a.rb", "f", 4, 1⟩ ∈ ruby.measures "a.rb" (methodStart ++ methodRest) := by
  have hspan : (findSpan ruby.style (methodStart ++ methodRest) 0).body (methodStart ++ methodRest)
      = [" a if b".toList] := by decide +kernel
  have hspan' : (findSpan ruby.style (methodStart ++ methodRest) 3).body (methodStart ++ methodRest)
      = [] := by decide +kernel
  have hbody : ruby.decisionsOn [" a if b".toList] = 1 := by cbv
  refine ⟨ruby.mem_measures_iff.mpr ⟨0, ['f'], ?_, ?_⟩,
    ruby.mem_measures_iff.mpr ⟨3, ['f'], ?_, ?_⟩⟩
  · exact ⟨⟨_, rfl, ruby_declares_method⟩, .inr rfl⟩
  · rw [Profile.measureOf, hspan, hbody]
  · exact ⟨⟨_, rfl, ruby_declares_method⟩, .inr rfl⟩
  · rw [Profile.measureOf, hspan']
    rfl

/-- A comment between `methodStart` and `methodRest`: the decision in it does not count, the method
keeps its end, and only the second method moves down. -/
theorem methods_measured_with_comment :
    Language.profile? .ruby = some ruby ∧ firstInk? " # while a".toList = some '#' ∧
      ⟨"a.rb", "f", 1, 2⟩
        ∈ ruby.measures "a.rb" (methodStart ++ " # while a".toList :: methodRest) ∧
      ⟨"a.rb", "f", 5, 1⟩
        ∈ ruby.measures "a.rb" (methodStart ++ " # while a".toList :: methodRest) := by
  have hcomment : firstInk? " # while a".toList = some '#' := by decide +kernel
  obtain ⟨hfirst, hsecond⟩ := methods_measured
  have hmoved := measures_insert_blank_or_comment (rfl : Language.profile? .ruby = some ruby)
    (.inr ⟨rfl, hcomment⟩) "a.rb" methodStart methodRest
  refine ⟨rfl, hcomment, ?_, ?_⟩
  · rw [hmoved]
    exact List.mem_map.mpr ⟨_, hfirst, by decide⟩
  · rw [hmoved]
    exact List.mem_map.mpr ⟨_, hsecond, by decide⟩

end Sample

end CodeHealth
