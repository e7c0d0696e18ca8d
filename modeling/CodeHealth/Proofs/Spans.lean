import CodeHealth.Analysis
import CodeHealth.Proofs.Declarations

/-!
# Spans and what is measured in them

A function is reported for the line that declares it, and its complexity is counted on the lines of
its span. What the styles of blocks say about spans is thereby said about complexities.

* `Outline.Profile.mem_measures_iff` — which functions are reported, each with the span of its line;
* `Outline.Span.Within` — one span lies in another;
* `Outline.Profile.complexity_le_of_within` — a function whose span lies in that of another is no
  more complex;
* `Outline.Profile.declaredName?_blank` — a line of white space declares nothing in any language.
-/

namespace CodeHealth

open CodeHealth.Text

namespace Outline

variable {lines : List (List Char)}

/-! ### Spans in other spans -/

/-- The lines of the span `inner` are among those of `outer`. -/
structure Span.Within (inner outer : Span) : Prop where
  /-- It does not start before the other. -/
  start_le : outer.start ≤ inner.start
  /-- It does not end after the other. -/
  stop_le : inner.stop ≤ outer.stop

/-- The body of a `span`, cut at its end first. -/
theorem Span.body_eq_drop_take (span : Span) (lines : List (List Char)) :
    span.body lines = (lines.take span.stop).drop span.start := by
  rw [body, List.drop_take]

/-- The body of a span that lies `Within` another one is a part of its body. -/
theorem Span.Within.body_sublist {inner outer : Span} (h : inner.Within outer)
    (lines : List (List Char)) : (inner.body lines).Sublist (outer.body lines) := by
  rw [Span.body_eq_drop_take, Span.body_eq_drop_take]
  have hshorter : ((lines.take inner.stop).drop inner.start).Sublist
      ((lines.take outer.stop).drop inner.start) :=
    (List.take_sublist_take_left h.stop_le).drop inner.start
  exact hshorter.trans (List.drop_sublist_drop_left _ h.start_le)

namespace Profile

variable (p : Profile) {file : String}

/-! ### What is reported -/

/-- More lines have no fewer decisions (`decisionsOn`). -/
theorem decisionsOn_le_of_sublist {inner outer : List (List Char)} (h : inner.Sublist outer) :
    p.decisionsOn inner ≤ p.decisionsOn outer := by
  induction h with
  | slnil => exact Nat.le_refl _
  | cons line _ ih => exact Nat.le_trans ih (Nat.le_add_left _ _)
  | cons_cons line _ ih => exact Nat.add_le_add_left ih _

/-- The lines that are measured for the declaration on line `i` are those of its span: it does not
matter whether the lines before it are dropped first. -/
theorem body_findSpan (style : Style) (lines : List (List Char)) (i : Nat) :
    (findSpan style lines i).body lines
      = ((lines.drop i).drop (style.extent (lines.drop i)).start).take
          ((style.extent (lines.drop i)).stop - (style.extent (lines.drop i)).start) := by
  rw [Span.body, findSpan, List.drop_drop, Nat.add_sub_add_left]

/-- A `line` declares the name that its signature gives, unless a word at its start (`hword`) or the
name itself (`hkept`) speaks against it. -/
theorem declaredName?_eq_some {line : List Char} {c : Char} {rest : List Char}
    (hword : statementWords.contains (firstIdentifier line) = false)
    (hname : (p.signature.find? line).bind p.functionName = some (c :: rest))
    (hkept : (reservedNames.contains (c :: rest) || p.hides (c :: rest)) = false) :
    p.declaredName? line = some (c :: rest) := by
  obtain ⟨found, hfound, hgiven⟩ := Option.bind_eq_some_iff.mp hname
  simp only [declaredName?, hword, hfound, hgiven, hkept, Bool.false_eq_true, if_false,
    Option.bind_eq_bind, Option.bind_some]

/-- The line of index `i` declares a function called `name`, and it is one to report. -/
structure Reports (lines : List (List Char)) (i : Nat) (name : List Char) : Prop where
  /-- The line is there and declares the name. -/
  declared : ∃ declaration, lines[i]? = some declaration ∧ p.declaredName? declaration = some name
  /-- The function has a body, or the language keeps functions without one. -/
  kept : (findSpan p.style lines i).hasBody = true ∨ p.keepsBodiless = true

/-- The measure of the function that the line of index `i` declares: one more than the decisions in
its span. -/
def measureOf (file : String) (lines : List (List Char)) (i : Nat) (name : List Char) :
    FunctionMeasure :=
  ⟨file, String.ofList name, i + 1, 1 + p.decisionsOn ((findSpan p.style lines i).body lines)⟩

/-- `measureAt?` gives a measure for a line exactly when its function is to be reported (`Reports`),
and the measure is then `measureOf` that function. -/
theorem measureAt?_eq_some_iff {i : Nat} {f : FunctionMeasure} :
    p.measureAt? file (i + 1) (lines.drop i) = some f ↔
      ∃ name, p.Reports lines i name ∧ f = p.measureOf file lines i name := by
  simp only [measureAt?, Option.bind_eq_bind, Option.bind_eq_some_iff, List.head?_drop, measureOf,
    body_findSpan]
  constructor
  · rintro ⟨declaration, hline, name, hname, hmeasure⟩
    split at hmeasure
    · rename_i hkept
      refine ⟨name, ⟨⟨declaration, hline, hname⟩, ?_⟩, (Option.some.inj hmeasure).symm⟩
      exact Bool.or_eq_true_iff.mp hkept
    · cases hmeasure
  · rintro ⟨name, ⟨⟨declaration, hline, hname⟩, hkept⟩, rfl⟩
    refine ⟨declaration, hline, name, hname, ?_⟩
    exact if_pos (Bool.or_eq_true_iff.mpr hkept)

/-- The functions that `measuresFrom` reports from some line on are those of the lines one by one,
each with what follows it. -/
theorem mem_measuresFrom_iff {line : Nat} {f : FunctionMeasure} :
    f ∈ p.measuresFrom file line lines ↔
      ∃ i, p.measureAt? file (line + i) (lines.drop i) = some f := by
  induction lines generalizing line with
  | nil => simp [measuresFrom, measureAt?]
  | cons current rest ih =>
    rw [measuresFrom, List.mem_append, Option.mem_toList, ih]
    constructor
    · rintro (hhere | ⟨i, hlater⟩)
      · exact ⟨0, hhere⟩
      · refine ⟨i + 1, ?_⟩
        rwa [← Nat.add_assoc, Nat.add_right_comm]
    · rintro ⟨i, h⟩
      cases i with
      | zero => exact .inl h
      | succ i =>
        refine .inr ⟨i, ?_⟩
        rwa [Nat.add_right_comm, Nat.add_assoc]

/-- **What is reported.** The `measures` of some lines are those of the functions to report
(`Reports`), each on the line that declares it and with the decisions of its span (`measureOf`). -/
theorem mem_measures_iff {f : FunctionMeasure} :
    f ∈ p.measures file lines ↔
      ∃ i name, p.Reports lines i name ∧ f = p.measureOf file lines i name := by
  rw [measures, mem_measuresFrom_iff]
  refine exists_congr fun i => ?_
  rw [Nat.add_comm 1 i]
  exact p.measureAt?_eq_some_iff

/-- A measure that is reported for a line is the `measureOf` a function that this line declares.
Lines are counted from one in a measure, and from zero here. -/
theorem exists_of_mem_measures {f : FunctionMeasure} {i : Nat} (h : f ∈ p.measures file lines)
    (hline : f.line = i + 1) :
    ∃ name, p.Reports lines i name ∧ f = p.measureOf file lines i name := by
  obtain ⟨k, name, hreports, rfl⟩ := p.mem_measures_iff.mp h
  obtain rfl : k = i := Nat.succ.inj hline
  exact ⟨name, hreports, rfl⟩

/-- **Spans and complexities.** A function whose span lies `Within` the span of another one is no
more complex. -/
theorem complexity_le_of_within {inner outer : FunctionMeasure} {i j : Nat}
    (houter : outer ∈ p.measures file lines) (hinner : inner ∈ p.measures file lines)
    (hi : outer.line = i + 1) (hj : inner.line = j + 1)
    (h : (findSpan p.style lines j).Within (findSpan p.style lines i)) :
    inner.complexity ≤ outer.complexity := by
  obtain ⟨name, -, rfl⟩ := p.exists_of_mem_measures houter hi
  obtain ⟨name', -, rfl⟩ := p.exists_of_mem_measures hinner hj
  exact Nat.add_le_add_left (p.decisionsOn_le_of_sublist (h.body_sublist lines)) 1

end Profile

end Outline

/-! ### Blank lines -/

namespace Pattern

/-- Whether every match of a pattern has a character that is no white space, told by its parts. -/
def needsInk : Pattern → Bool
  | one accepts => spacePoints.all fun n => !accepts (Char.ofNat n)
  | seq p q => p.needsInk || q.needsInk
  | alt p q => p.needsInk && q.needsInk
  | group _ p => p.needsInk
  | _ => false

/-- A sequence `needsInk` if one of its patterns does. -/
theorem needsInk_append (p q : Pattern) : (p ++ q).needsInk = (p.needsInk || q.needsInk) := rfl

/-- An alternative `needsInk` if both of its patterns do. -/
theorem needsInk_or (p q : Pattern) : (p ||| q).needsInk = (p.needsInk && q.needsInk) := rfl

/-- A text that is written out `needsInk` when it has some itself. -/
theorem needsInk_text {s : String} (h : s.toList.any (fun c => !isSpace c) = true) :
    (text s).needsInk = true := by
  obtain ⟨c, hc, hink⟩ := List.any_eq_true.mp h
  have hspaces : ∀ n ∈ spacePoints, isSpace (Char.ofNat n) = true := by decide
  have hone : (one (· == c)).needsInk = true := by
    refine List.all_eq_true.mpr fun n hn => ?_
    have hne : Char.ofNat n ≠ c := by
      rintro rfl
      simp [hspaces n hn] at hink
    simp [hne]
  unfold text
  generalize s.toList = chars at hc
  induction chars with
  | nil => cases hc
  | cons d rest ih =>
    rw [List.foldr_cons, needsInk_append, Bool.or_eq_true_iff]
    rcases List.mem_cons.mp hc with rfl | hc
    · exact .inl hone
    · exact .inr (ih hc)

/-- A place `s` with nothing but white space after it. -/
def BeforeBlank (s : Place) : Prop := ∀ c ∈ s.rest, isSpace c = true

/-- Passing a character stays `BeforeBlank`. -/
theorem BeforeBlank.next {s e : Place} {f : Char → Bool} (h : BeforeBlank s)
    (hnext : s.next? f = some e) : BeforeBlank e := by
  obtain ⟨c, rest, hrest, -, rfl⟩ := Place.next?_eq_some_iff.mp hnext
  intro d hd
  exact h d (hrest ▸ List.mem_cons_of_mem c hd)

/-- Closing a group stays `BeforeBlank`. -/
theorem BeforeBlank.leave {s : Place} (h : BeforeBlank s) (index : Nat) :
    BeforeBlank (s.leave index) := by
  rwa [BeforeBlank, Place.rest_leave]

/-- From nowhere every pattern `Leads` nowhere. -/
theorem leads_from_nowhere (p : Pattern) : p.Leads (fun _ => False) fun _ => False :=
  Leads.kept (fun _ _ hs => hs) (fun _ _ _ hs _ => hs) p fun _ => ⟨fun _ hs => hs, fun _ _ hs => hs⟩

/-- Where only white space follows (`BeforeBlank`), a pattern that `needsInk` leads nowhere. -/
theorem leads_nowhere {p : Pattern} (h : p.needsInk = true) :
    p.Leads BeforeBlank fun _ => False := by
  -- A part that asks for no ink may still pass white space, and ends before white space.
  have hkept : ∀ q : Pattern, q.Leads BeforeBlank BeforeBlank := fun q =>
    Leads.kept (fun _ _ hs => hs) (fun _ _ _ => BeforeBlank.next) q
      fun _ => ⟨fun _ hs => hs, fun index _ hs => hs.leave index⟩
  induction p with
  | one accepts =>
    refine Leads.one fun s e hs hnext => ?_
    obtain ⟨c, rest, hrest, hc, -⟩ := Place.next?_eq_some_iff.mp hnext
    have hspace : isSpace c = true := hs c (hrest ▸ List.mem_cons_self)
    have hrefused := List.all_eq_true.mp h c.toNat (mem_spacePoints hspace)
    rw [Char.ofNat_toNat, hc] at hrefused
    cases hrefused
  | seq p q ihp ihq =>
    rcases Bool.or_eq_true_iff.mp h with hp | hq
    · exact (ihp hp).seq (leads_from_nowhere q)
    · exact (hkept p).seq (ihq hq)
  | alt p q ihp ihq =>
    obtain ⟨hp, hq⟩ := Bool.and_eq_true_iff.mp h
    exact Leads.alt (fun _ _ hs => hs) (fun _ _ hs => hs) (ihp hp) (ihq hq)
  | group index p ih => exact Leads.group (fun _ hs => hs) (ih h) fun _ hs => hs
  -- The others do not ask for ink.
  | empty => cases h
  | star p => cases h
  | start => cases h
  | boundary => cases h

/-- A pattern that `Leads` nowhere from the places of a line does not occur in it. The property `P`
of these places holds at the start and is kept by passing a character (`hnext`). -/
theorem find?_eq_none {p : Pattern} {P : Place → Prop} {line : List Char}
    (hp : p.Leads P fun _ => False) (hstart : P (Place.start line))
    (hnext : ∀ s e, P s → s.next? (fun _ => true) = some e → P e)
    (henter : ∀ s, P s → P s.enter) : p.find? line = none := by
  cases hfind : p.find? line with
  | none => rfl
  | some m =>
    obtain ⟨⟨m', e⟩, hfrom, -⟩ := Option.map_eq_some_iff.mp hfind
    obtain ⟨places, hplaces, hmatch⟩ := findFrom?_eq_some hnext hstart hfrom
    obtain ⟨t, ht, -, -⟩ := matchFrom?_eq_some hmatch
    refine (hp (bound line) _ ?_ t (List.mem_of_mem_head? ht)).elim
    intro s hs
    obtain ⟨u, hu, rfl⟩ := List.mem_map.mp hs
    exact henter u (hplaces u hu)

/-- A pattern that `needsInk` does not occur in a blank line. -/
theorem find?_blank {p : Pattern} (h : p.needsInk = true) {line : List Char}
    (hblank : isBlank line = true) : p.find? line = none :=
  find?_eq_none (leads_nowhere h) (List.all_eq_true.mp hblank) (fun _ _ => BeforeBlank.next)
    fun _ hs => hs

end Pattern

/-- **Blank lines declare nothing**, in any language with a `profile?`, as every signature asks for
a character that is no white space. -/
theorem Outline.Profile.declaredName?_blank {language : Language} {p : Profile}
    (h : language.profile? = some p) {line : List Char} (hblank : isBlank line = true) :
    p.declaredName? line = none := by
  -- Every signature has some text that is written out, in each of its alternatives.
  have hink : p.signature.needsInk = true := by
    cases language <;> cases h <;>
      simp (disch := decide) only [typeScript, python, rust, java, ruby, php, cSharp,
        Pattern.needsInk_append, Pattern.needsInk_or, Pattern.needsInk_text, Bool.or_true,
        Bool.true_or, Bool.and_self]
  unfold declaredName?
  rw [Pattern.find?_blank hink hblank]
  split <;> rfl

end CodeHealth
