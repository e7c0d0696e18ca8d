import CodeHealth.Analysis
import CodeHealth.Proofs.Occurrences
import CodeHealth.Proofs.Patterns
import CodeHealth.Proofs.Text

/-!
# Declared names stand alone

The pattern for a public function of every language starts with keywords and white space, and takes
as the name a word, in Ruby with one mark after it. What follows the name is a parenthesis, or else
the word is taken as far as it goes. So a name that a line declares is cut off from the rest of the
line on both sides.

* `Apart` — a place after something that is no word character;
* `Spelling` — a place inside a group whose stretch so far has some property;
* `prefers_word`, `prefers_markedWord` and `prefers_wordBefore` — the three ways to end a
  declaration;
* `Outline.Profile.declaredOn?_standsAlone` — the name a line declares stands alone in it.
-/

namespace CodeHealth

open CodeHealth.Text

namespace Text

/-- White space (`isSpace`) is no word character (`isWord`), as the ranges of both show. -/
theorem isWord_eq_false_of_isSpace {c : Char} (h : isSpace c = true) : isWord c = false := by
  have hall : ∀ n ∈ spacePoints,
      (inRanges alphabeticRanges n || inRanges markRanges n || inRanges decimalRanges n ||
        inRanges connectorRanges n || inRanges joinerRanges n) = false := by
    decide +kernel
  have hclass := hall c.toNat (mem_spacePoints h)
  unfold isWord isAlphabetic
  rw [hclass, Bool.false_and]

end Text

namespace Pattern

variable {line : List Char} {p q : Pattern} {P Q : Place → Prop}

/-! ### Before the name -/

/-- A pattern `isPlain` if it has no groups; these lemmas compute it over the ways to build
patterns. -/
@[simp] theorem isPlain_append (p q : Pattern) :
    (p ++ q).isPlain = (p.isPlain && q.isPlain) := rfl

@[simp] theorem isPlain_or (p q : Pattern) :
    (p ||| q).isPlain = (p.isPlain && q.isPlain) := rfl

@[simp] theorem isPlain_opt (p : Pattern) : (opt p).isPlain = p.isPlain := Bool.and_true _

@[simp] theorem isPlain_plus (p : Pattern) : (plus p).isPlain = p.isPlain := Bool.and_self _

@[simp] theorem isPlain_gap : gap.isPlain = true := rfl

@[simp] theorem isPlain_text (s : String) : (text s).isPlain = true := by
  unfold text
  induction s.toList with
  | nil => rfl
  | cons c rest ih => exact ih

@[simp] theorem isPlain_texts (ss : List String) : (texts ss).isPlain = true := by
  fun_induction texts ss with
  | case1 => rfl
  | case2 s => exact isPlain_text s
  | case3 s rest _ ih => exact Bool.and_eq_true_iff.mpr ⟨isPlain_text s, ih⟩

/-- A place after something that is no word character, as a name needs it to stand alone on its left
(`StartsAlone`). -/
def Apart (s : Place) : Prop := ∃ c, s.previous = some c ∧ isWord c = false

/-- Whether a place is `Apart` does not depend on the orders noted at it. -/
theorem rankFree_apart : RankFree Apart := fun _ _ h => h

theorem leads_true (p : Pattern) (P : Place → Prop) : p.Leads P fun _ => True :=
  fun _ _ _ _ _ => trivial

/-- A character that is no word character leads to places `Apart`. -/
theorem leads_one_apart {f : Char → Bool} (hf : ∀ c, f c = true → isWord c = false) :
    (one f).Leads P Apart := by
  refine Leads.one fun s e _ hnext => ?_
  obtain ⟨c, rest, -, hc, rfl⟩ := Place.next?_eq_some_iff.mp hnext
  exact ⟨c, rfl, hf c hc⟩

/-- White space at the end of a pattern sets apart what comes after it, whatever `p` does before. -/
theorem leads_gap (p : Pattern) (P : Place → Prop) : (p ++ gap).Leads P Apart := by
  -- The first character sets apart what follows, and every further one does so again.
  have hspace : ∀ P, space.Leads P Apart := fun _ =>
    leads_one_apart fun _ => isWord_eq_false_of_isSpace
  exact (leads_true p P).seq ((hspace _).seq (Leads.star (hspace Apart)))

/-- What may be missing, but ends in white space if it is there, keeps a place `Apart`. -/
theorem leads_opt_gap (p : Pattern) : (opt (p ++ gap)).Leads Apart Apart :=
  Leads.opt rankFree_apart (leads_gap p Apart)

/-- A text whose last character `c` is no word character sets apart what comes after it. -/
theorem leads_text_apart {s : String} {c : Char} (hlast : s.toList.getLast? = some c)
    (hc : isWord c = false) (P : Place → Prop) : (text s).Leads P Apart := by
  obtain ⟨front, hfront⟩ := List.getLast?_eq_some_iff.mp hlast
  unfold text
  rw [hfront]
  clear hlast hfront
  -- By induction on what comes before the last character, which says nothing about it.
  induction front generalizing P with
  | nil =>
    refine Leads.seq (leads_one_apart fun d hd => ?_) Leads.empty
    rwa [eq_of_beq hd]
  | cons d front ih => exact (leads_true _ P).seq (ih fun _ => True)

/-- What comes before the name of a declaration: it `isPlain`, so it has no groups, and sets the
name `Apart`. -/
structure Introduces (p : Pattern) : Prop where
  /-- It remembers no group, so that the name will be the first. -/
  plain : p.isPlain = true
  /-- After it comes a place that is `Apart`. -/
  apart : p.Leads (fun _ => True) Apart

/-- A plain pattern leads from a `Fresh` place to such places. -/
theorem leads_fresh (hp : p.isPlain = true) : p.Leads (Fresh line) (Fresh line) :=
  Leads.kept (fun _ _ h => ⟨Place.On.rankFree line _ _ h.1, h.2⟩) (fun _ _ _ => Fresh.next) p
    fun h => absurd (hp.symm.trans h) (by simp)

/-- From a place that remembers nothing (`Fresh`) it leads to such places, set apart. -/
theorem Introduces.leads (h : p.Introduces) :
    p.Leads (Fresh line) fun s => Fresh line s ∧ Apart s :=
  fun fuel places hplaces e he =>
    ⟨leads_fresh h.plain fuel places hplaces e he, h.apart fuel places (fun _ _ => trivial) e he⟩

/-! ### The name -/

/-- A place inside a group that starts after no word character and whose stretch up to the place has
the property `W`. While a name is read, `W` grows from the empty text to the whole name. -/
def Spelling (line : List Char) (W : List Char → Prop) (s : Place) : Prop :=
  Fresh line s ∧ ∃ position outer, s.opened = (position, line.drop position) :: outer ∧
    (∃ c, (line.take position).getLast? = some c ∧ isWord c = false) ∧
    W ((line.drop position).take (s.position - position))

/-- At its start, by `enter`, the stretch of a group is empty. -/
theorem spelling_enter {s : Place} (h : Fresh line s ∧ Apart s) :
    Spelling line (· = []) s.enter := by
  obtain ⟨⟨hon, hgroups⟩, c, hprevious, hc⟩ := h
  refine ⟨⟨hon.enter, hgroups⟩, s.position, s.opened, ?_, ⟨c, ?_, hc⟩, ?_⟩
  · rw [← hon.rest]
    rfl
  · rw [← hon.previous, hprevious]
  · show (line.drop s.position).take (s.position - s.position) = []
    rw [Nat.sub_self, List.take_zero]

/-- One more character makes the stretch longer by it, so `W'` has to hold of what `W` holds of with
a character added (`hW`). -/
theorem Spelling.next {W W' : List Char → Prop} {f : Char → Bool}
    (hW : ∀ name c, W name → f c = true → W' (name ++ [c])) {s e : Place} (h : Spelling line W s)
    (hnext : s.next? f = some e) : Spelling line W' e := by
  obtain ⟨hfresh, position, outer, hopened, hleft, hname⟩ := h
  have hfresh' := hfresh.next hnext
  obtain ⟨c, rest, hrest, hc, rfl⟩ := Place.next?_eq_some_iff.mp hnext
  refine ⟨hfresh', position, outer, hopened, hleft, ?_⟩
  have hle := (hfresh.1.opened _ (by rw [hopened]; exact List.mem_cons_self)).1
  obtain ⟨hlt, htake⟩ := hfresh.1.take_succ hrest
  -- The stretch is taken from the start of the group, the character from the place.
  have hlonger : (line.drop position).take (s.position + 1 - position)
      = (line.drop position).take (s.position - position) ++ [c] := by
    rw [← List.drop_take, ← List.drop_take, htake, List.drop_append_of_le_length]
    rw [List.length_take_of_le (Nat.le_of_lt hlt)]
    exact hle
  show W' ((line.drop position).take (s.position + 1 - position))
  rw [hlonger]
  exact hW _ c hname hc

/-- The names that patterns call words: not empty, and of word characters alone. -/
def IsWordText (name : List Char) : Prop := name ≠ [] ∧ ∀ c ∈ name, isWord c = true

/-- A word in the form that `Spelling.leave` asks for, where the last character may be any. -/
theorem IsWordText.dropLast {name : List Char} (h : IsWordText name) :
    name ≠ [] ∧ ∀ c ∈ name.dropLast, isWord c = true :=
  ⟨h.1, fun c hc => h.2 c ((List.dropLast_sublist name).subset hc)⟩

theorem isWordText_append {name : List Char} {c : Char} (hname : ∀ c ∈ name, isWord c = true)
    (hc : isWord c = true) : IsWordText (name ++ [c]) := by
  refine ⟨by simp, fun d hd => ?_⟩
  rcases List.mem_append.mp hd with hd | hd
  · exact hname d hd
  · rw [List.mem_singleton.mp hd, hc]

theorem leads_wordChar : wordChar.Leads (Spelling line (· = [])) (Spelling line IsWordText) := by
  refine Leads.one fun s e h hnext => h.next (fun name c hname hc => ?_) hnext
  rw [hname]
  exact isWordText_append (by simp) hc

theorem spelling_next_isWord {s e : Place} (h : Spelling line IsWordText s)
    (hnext : s.next? isWord = some e) : Spelling line IsWordText e :=
  h.next (fun _ _ hname hc => isWordText_append hname.2 hc) hnext

/-- The pattern `word` leads from an empty stretch to a word. -/
theorem leads_word : word.Leads (Spelling line (· = [])) (Spelling line IsWordText) :=
  leads_wordChar.seq (Leads.star (Leads.one fun _ _ => spelling_next_isWord))

/-- A word is taken as far as it goes: at its preferred end (`Prefers`) no word character
follows. -/
theorem prefers_word_furthest : Prefers line word (Spelling line (· = []))
    fun s => Spelling line IsWordText s ∧ s.next? isWord = none :=
  Prefers.seq leads_wordChar (Prefers.star_one (fun _ h => h.1.1) fun _ _ => spelling_next_isWord)

/-! ### After the name -/

/-- A group whose stretch stands alone in the line, in the sense of `Text.StandsAlone`: no word
character touches it where it has one itself. -/
def Group.StandsAlone (line : List Char) (g : Group) : Prop :=
  g.On line ∧ Text.StandsAlone (line.take g.position) g.content
    (line.drop (g.position + g.length))

/-- When the group is closed by `leave`, it is all that is remembered and ends at the place, with
the name that was spelled. -/
theorem Spelling.leave {W : List Char → Prop} {s : Place} (h : Spelling line W s) (index : Nat)
    (hW : ∀ name, W name → name ≠ [] ∧ ∀ c ∈ name.dropLast, isWord c = true) :
    (s.leave index).On line ∧ ∀ g ∈ (s.leave index).groups,
      StartsAlone (line.take g.position) g.content ∧ W g.content ∧
        g.position + g.length = s.position := by
  obtain ⟨⟨hon, hgroups⟩, position, outer, hopened, hleft, hname⟩ := h
  have hle := (hon.opened _ (by rw [hopened]; exact List.mem_cons_self)).1
  refine ⟨hon.leave index, fun g hg => ?_⟩
  -- Nothing was remembered before, so this group is the only one.
  have hleave : (s.leave index).groups
      = [⟨index, position, line.drop position, s.position - position⟩] := by
    rw [Place.leave, hopened, hgroups]
  rw [hleave, List.mem_singleton] at hg
  rw [hg]
  exact ⟨⟨(hW _ hname).1, (hW _ hname).2, hleft⟩, hname, Nat.add_sub_cancel' hle⟩

/-- A place at which all groups remembered stand alone in the line (`Group.StandsAlone`). -/
def Captured (line : List Char) (s : Place) : Prop := ∀ g ∈ s.groups, g.StandsAlone line

/-- A word (`IsWordText`) that is closed where no further word character follows stands alone. -/
theorem captured_of_word {s : Place} (h : Spelling line IsWordText s ∧ s.next? isWord = none)
    (index : Nat) : Captured line (s.leave index) := by
  obtain ⟨hon, hgroups⟩ := h.1.leave index fun _ => IsWordText.dropLast
  intro g hg
  obtain ⟨hstarts, -, hend⟩ := hgroups g hg
  refine ⟨hon.groups g hg, hstarts, fun _ => ?_⟩
  rw [hend, ← h.1.1.1.rest]
  exact Place.next?_eq_none_iff.mp h.2

/-- A declaration may end with its name: what `Introduces` it, and then a group with a word. -/
theorem prefers_word (hp : p.Introduces) (index : Nat) :
    Prefers line (p ++ group index word) (Fresh line) (Captured line) :=
  Prefers.seq hp.leads
    (Prefers.group (fun _ => spelling_enter) prefers_word_furthest
      fun _ h => captured_of_word h index)

/-- The names that end in a mark: word characters and then one character that is none. -/
def IsMarkedText (name : List Char) : Prop :=
  name ≠ [] ∧ (∀ c ∈ name.dropLast, isWord c = true) ∧ name.getLast?.any isWord = false

/-- A name that ends in a mark (`IsMarkedText`) stands alone whatever follows, as its end is no word
character. -/
theorem captured_of_mark {s : Place} (h : Spelling line IsMarkedText s) (index : Nat) :
    Captured line (s.leave index) := by
  obtain ⟨hon, hgroups⟩ := h.leave index fun name hname => ⟨hname.1, hname.2.1⟩
  intro g hg
  obtain ⟨hstarts, hmarked, -⟩ := hgroups g hg
  refine ⟨hon.groups g hg, hstarts, fun hlast => ?_⟩
  rw [hmarked.2.2] at hlast
  cases hlast

/-- A declaration may end with its name and a mark that belongs to it, which `f` accepts. As `f`
accepts no character of a word (`hf`), the mark does not make the name any shorter. -/
theorem prefers_markedWord (hp : p.Introduces) (index : Nat) {f : Char → Bool}
    (hf : ∀ c, f c = true → isWord c = false) :
    Prefers line (p ++ group index (word ++ opt (one f))) (Fresh line) (Captured line) := by
  refine Prefers.seq hp.leads (Prefers.group (fun _ => spelling_enter)
    (Prefers.seq_opt_one prefers_word_furthest
      (R := fun s => (Spelling line IsWordText s ∧ s.next? isWord = none) ∨
        Spelling line IsMarkedText s) fun s hs => ?_) fun s hs => ?_)
  · -- The mark is taken when it is there, and otherwise the word alone is the name.
    cases hnext : s.next? f with
    | none => exact Or.inl hs
    | some e =>
      refine Or.inr (hs.1.next (fun name c hname hc => ?_) hnext)
      refine ⟨by simp, ?_, ?_⟩
      · rw [List.dropLast_concat]
        exact hname.2
      · rw [List.getLast?_concat]
        exact hf c hc
  · rcases hs with hs | hs
    · exact captured_of_word hs index
    · exact captured_of_mark hs index

/-- A place at or behind the groups remembered, each of which starts alone and `StandsAlone` when
the place is behind it. This holds while the text after a name is matched. -/
def Trailing (line : List Char) (s : Place) : Prop :=
  s.On line ∧ ∀ g ∈ s.groups, StartsAlone (line.take g.position) g.content ∧
    (g.position + g.length = s.position ∨ g.StandsAlone line)

theorem Trailing.next {s e : Place} (h : Trailing line s) {f : Char → Bool}
    (hf : ∀ c, f c = true → isWord c = false) (hnext : s.next? f = some e) :
    Trailing line e ∧ Captured line e := by
  have hon := h.1.next hnext
  -- A name that ends here is followed by this character, and the others stood alone before.
  have hcaptured : Captured line e := by
    obtain ⟨c, rest, hrest, hc, rfl⟩ := Place.next?_eq_some_iff.mp hnext
    intro g hg
    obtain ⟨hstarts, hend | halone⟩ := h.2 g hg
    · refine ⟨h.1.groups g hg, hstarts, fun _ => ?_⟩
      rw [hend, ← h.1.rest, hrest]
      exact hf c hc
    · exact halone
  exact ⟨⟨hon, fun g hg => ⟨(hcaptured g hg).2.toStartsAlone, Or.inr (hcaptured g hg)⟩⟩, hcaptured⟩

/-- A declaration may go on with white space and a parenthesis after its name, which then is
preferred to be a whole word. -/
theorem prefers_wordBefore (hp : p.Introduces) (index : Nat) :
    Prefers line (p ++ group index word ++ spaces ++ text "(") (Fresh line) (Captured line) := by
  have hname : (group index word).Leads (fun s => Fresh line s ∧ Apart s) (Trailing line) := by
    -- After the name, white space and the parenthesis are passed as a `Trailing` place.
    refine Leads.group (fun _ => spelling_enter) leads_word fun s hs => ?_
    obtain ⟨hon, hgroups⟩ := hs.leave index fun _ => IsWordText.dropLast
    refine ⟨hon, fun g hg => ⟨(hgroups g hg).1, Or.inl ?_⟩⟩
    rw [(hgroups g hg).2.2, Place.position_leave]
  have hspaces : spaces.Leads (Trailing line) (Trailing line) :=
    Leads.star (Leads.one fun _ _ hs hnext =>
      (hs.next (fun _ => isWord_eq_false_of_isSpace) hnext).1)
  have hparenthesis : (text "(").Leads (Trailing line) (Captured line) := by
    refine Leads.seq (Leads.one fun s e hs hnext => (hs.next (fun c hc => ?_) hnext).2) Leads.empty
    rw [eq_of_beq hc]
    decide +kernel
  exact Prefers.of_leads (((hp.leads.seq hname).seq hspaces).seq hparenthesis)

end Pattern

/-! ### The languages -/

namespace Outline

open Pattern

/-- **The names of public functions stand alone**, in every language that is read line by line: the
first match of `p.exported` leaves only groups that stand alone (`Captured`). -/
theorem captured_exported {language : Language} {p : Profile} (h : language.profile? = some p)
    (line : List Char) : Prefers line p.exported (Fresh line) (Captured line) := by
  -- In each language the name comes last, or before white space and a parenthesis; what comes
  -- before it ends in white space.
  cases language with
  | go => cases h
  | typescript =>
    cases h
    exact prefers_word ⟨by simp, leads_gap _ _⟩ 1
  | python =>
    cases h
    exact prefers_wordBefore ⟨by simp [isPlain], leads_gap _ _⟩ 1
  | rust =>
    cases h
    exact prefers_word ⟨by simp [isPlain], leads_gap _ _⟩ 1
  | java =>
    cases h
    -- Each modifier and the type may be missing, but what is there ends in white space.
    refine prefers_wordBefore ⟨by simp [isPlain, wordChar, oneOf], ?_⟩ 1
    exact (((leads_gap _ _).seq (leads_opt_gap _)).seq (leads_opt_gap _)).seq (leads_opt_gap _)
  | ruby =>
    cases h
    -- The name comes after white space or after the dot of `self.`.
    refine prefers_markedWord ⟨by simp [isPlain, spaces, space], ?_⟩ 1 ?_
    · exact (leads_gap _ _).seq (Leads.opt rankFree_apart (leads_text_apart (c := '.') rfl rfl _))
    · have hmarks : ("?!=".toList.all fun c => !isWord c) = true := by decide +kernel
      intro c hc
      simpa using List.all_eq_true.mp hmarks c (List.contains_iff_mem.mp hc)
  | php =>
    cases h
    exact prefers_word ⟨by simp, leads_gap _ _⟩ 1
  | csharp =>
    cases h
    refine prefers_wordBefore ⟨by simp [isPlain, wordChar, oneOf], ?_⟩ 1
    exact (((((leads_gap _ _).seq (leads_opt_gap _)).seq (leads_opt_gap _)).seq
        (leads_opt_gap _)).seq (leads_opt_gap _)).seq (leads_opt_gap _)

namespace Profile

/-- The text of the first group of the pattern `exported` for public functions on a line. -/
def capture? (p : Profile) (line : List Char) : Option (List Char) :=
  (p.exported.find? line).bind fun found => found.text? 1

variable {language : Language} {p : Profile} {line name : List Char}

/-- `declaredOn?` is the first group of a match of `exported`, if it is not empty. -/
theorem declaredOn?_eq_some_iff {g : Group} : p.declaredOn? line = some g ↔
    ∃ found, p.exported.find? line = some found ∧ found.group? 1 = some g ∧ g.content ≠ [] := by
  constructor
  · intro hdeclared
    obtain ⟨found, hfound, hgroup⟩ := Option.bind_eq_some_iff.mp hdeclared
    obtain ⟨g', hg', hkept⟩ := Option.bind_eq_some_iff.mp hgroup
    split at hkept
    · cases hkept
    · rename_i hempty
      cases hkept
      exact ⟨found, hfound, hg', by simpa using hempty⟩
  · rintro ⟨found, hfound, hg, hne⟩
    simp [declaredOn?, hfound, hg, hne]

/-- **The name a line declares stands alone in the line.** This is `captured_exported` for the group
that `declaredOn?` gives. -/
theorem declaredOn?_standsAlone (h : language.profile? = some p) {g : Group}
    (hg : p.declaredOn? line = some g) : g.StandsAlone line := by
  obtain ⟨found, hfound, hgroup, -⟩ := declaredOn?_eq_some_iff.mp hg
  exact find?_groups (captured_exported h line) hfound g (List.mem_of_find?_eq_some hgroup)

/-- A line declares what `capture?` gives on it, as this is never empty: a group that stands alone
has a character. -/
theorem capture?_eq_some_iff (h : language.profile? = some p) :
    p.capture? line = some name ↔ ∃ g, p.declaredOn? line = some g ∧ g.content = name := by
  constructor
  · intro hcapture
    obtain ⟨found, hfound, htext⟩ := Option.bind_eq_some_iff.mp hcapture
    obtain ⟨g, hg, rfl⟩ := Option.map_eq_some_iff.mp htext
    have halone :=
      find?_groups (captured_exported h line) hfound g (List.mem_of_find?_eq_some hg)
    exact ⟨g, declaredOn?_eq_some_iff.mpr ⟨found, hfound, hg, halone.2.nonempty⟩, rfl⟩
  · rintro ⟨g, hdeclared, rfl⟩
    obtain ⟨found, hfound, hg, -⟩ := declaredOn?_eq_some_iff.mp hdeclared
    simp [capture?, hfound, Match.text?, hg]

end Profile

end Outline

end CodeHealth
