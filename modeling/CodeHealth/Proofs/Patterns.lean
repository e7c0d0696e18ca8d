import CodeHealth.Pattern

/-!
# What a match keeps

A pattern leads from some places of a line to others. What it says of the places it leads to is put
together from what its parts say, one rule for each kind of pattern.

* `Leads` — from places with one property a pattern leads to places with another one;
* `Place.On` — a place lies on a line, and so does all that it remembers;
* `leads_on` — from places on a line every pattern leads to places on it;
* `Prefers` — the same for the preferred end alone, which for a repetition is the furthest one;
* `find?_groups`, `find?_on`, `findAll_on` — what follows for a search.
-/

namespace CodeHealth.Pattern

open CodeHealth.Text

/-! ### Ends of a pattern -/

@[simp] theorem ends_nil (fuel : Nat) (p : Pattern) : p.ends fuel [] = [] := by
  cases p <;> rfl

/-- `empty` stays where it is. -/
theorem ends_empty (fuel : Nat) (places : List Place) : empty.ends fuel places = places := by
  cases places <;> rfl

/-- `one f` passes a character from each place where `f` holds of the next one. -/
theorem ends_one (fuel : Nat) (f : Char → Bool) (places : List Place) :
    (one f).ends fuel places = places.filterMap (Place.next? f) := by
  cases places <;> rfl

/-- `p ++ q` leads where `q` leads from the ends of `p`. -/
theorem ends_seq (fuel : Nat) (p q : Pattern) (places : List Place) :
    (p ++ q).ends fuel places = q.ends fuel (p.ends fuel places) := by
  cases places with
  | nil => simp
  | cons s places => rfl

/-- `star p` is `repeated` with the ends of `p` for a step. -/
theorem ends_star (fuel : Nat) (p : Pattern) (places : List Place) (hne : places ≠ []) :
    (star p).ends fuel places = repeated fuel (fun s => p.ends fuel [s]) places := by
  cases places with
  | nil => exact absurd rfl hne
  | cons s places => rfl

/-- `group index p` opens a group at each place (`Place.enter`) and closes it at the ends of `p`
(`Place.leave`). -/
theorem ends_group (fuel index : Nat) (p : Pattern) (places : List Place) :
    (group index p).ends fuel places
      = (p.ends fuel (places.map Place.enter)).map (Place.leave index) := by
  cases places with
  | nil => simp
  | cons s places => rfl

/-- The first of these places at each position that was not `seen` before. -/
def unseen (seen : Std.HashSet Nat) : List Place → List Place
  | [] => []
  | s :: places =>
    if seen.contains s.position then unseen seen places
    else s :: unseen (seen.insert s.position) places

/-- Each position is kept once: the fold in `distinct` is the recursion `unseen` over the places. -/
theorem distinct_eq_unseen (places : List Place) : distinct places = unseen ∅ places := by
  -- The fold keeps what it found in reverse, in front of what was found before.
  have hfold : ∀ (places : List Place) (seen : Std.HashSet Nat) (found : List Place),
      (places.foldl (fun (kept : Std.HashSet Nat × List Place) (s : Place) =>
        if kept.1.contains s.position then (kept.1, kept.2)
        else (kept.1.insert s.position, s :: kept.2)) (seen, found)).2
        = (unseen seen places).reverse ++ found := by
    intro places
    induction places with
    | nil => exact fun _ _ => rfl
    | cons s places ih =>
      intro seen found
      rw [List.foldl_cons, unseen]
      by_cases hseen : seen.contains s.position
      · rw [if_pos hseen, if_pos hseen, ih]
      · rw [if_neg hseen, if_neg hseen, ih, List.reverse_cons, List.append_assoc]
        rfl
  have hreverse := congrArg List.reverse (hfold places ∅ [])
  rw [List.append_nil, List.reverse_reverse] at hreverse
  exact hreverse

/-- `unseen` only leaves places out. -/
theorem unseen_sublist (seen : Std.HashSet Nat) (places : List Place) :
    (unseen seen places).Sublist places := by
  fun_induction unseen seen places with
  | case1 => exact .slnil
  | case2 seen s places _ ih => exact ih.cons s
  | case3 seen s places _ ih => exact ih.cons_cons s

/-- `distinct` only leaves places out. -/
theorem mem_distinct {places : List Place} {e : Place} (h : e ∈ distinct places) : e ∈ places := by
  rw [distinct_eq_unseen] at h
  exact (unseen_sublist ∅ places).subset h

/-- `distinct` keeps the first place, which is the preferred one. -/
theorem head?_distinct (places : List Place) : (distinct places).head? = places.head? := by
  rw [distinct_eq_unseen]
  cases places with
  | nil => rfl
  -- Nothing was seen before the first place.
  | cons s places => simp [unseen]

/-- `Place.ranked` only notes an order with the places. -/
theorem mem_ranked {places : List Place} {e : Place} (h : e ∈ Place.ranked places) :
    ∃ s ∈ places, ∃ i, e = { s with ranks := i :: s.ranks } := by
  obtain ⟨i, hi, rfl⟩ := List.mem_mapIdx.mp h
  exact ⟨places[i], List.getElem_mem hi, i, rfl⟩

/-- The place that a task is about, be it to `repeat` or to `stop`. -/
def Task.place : Task → Place
  | .repeat s => s
  | .stop s => s

/-- On the way to the next repetition only places of `tasks` are found. -/
theorem mem_nextRepeat {seen : Std.HashSet Nat} {tasks : List Task} {found : List Place} {e : Place}
    (h : e ∈ (nextRepeat seen tasks found).2) : e ∈ found ∨ ∃ t ∈ tasks, t.place = e := by
  fun_induction nextRepeat seen tasks found with
  | case1 found => exact Or.inl h
  | case2 s tasks found ih =>
    rcases ih h with he | ⟨t, ht, rfl⟩
    · rcases List.mem_cons.mp he with rfl | he
      · exact Or.inr ⟨.stop e, List.mem_cons_self, rfl⟩
      · exact Or.inl he
    · exact Or.inr ⟨t, List.mem_cons_of_mem _ ht, rfl⟩
  | case3 s tasks found _ ih =>
    rcases ih h with he | ⟨t, ht, rfl⟩
    · exact Or.inl he
    · exact Or.inr ⟨t, List.mem_cons_of_mem _ ht, rfl⟩
  | case4 s tasks found _ => exact Or.inl h

/-- The next repetition is one of the `tasks`, and those after it are among them, so that what holds
of all tasks is kept. -/
theorem nextRepeat_eq_some {seen : Std.HashSet Nat} {tasks rest : List Task} {found : List Place}
    {s : Place} (h : (nextRepeat seen tasks found).1 = some (s, rest)) :
    .repeat s ∈ tasks ∧ rest ⊆ tasks := by
  fun_induction nextRepeat seen tasks found with
  | case1 found => cases h
  | case2 s' tasks found ih =>
    obtain ⟨hs, hrest⟩ := ih h
    exact ⟨List.mem_cons_of_mem _ hs, fun t ht => List.mem_cons_of_mem _ (hrest ht)⟩
  | case3 s' tasks found _ ih =>
    obtain ⟨hs, hrest⟩ := ih h
    exact ⟨List.mem_cons_of_mem _ hs, fun t ht => List.mem_cons_of_mem _ (hrest ht)⟩
  | case4 s' tasks found _ =>
    cases h
    exact ⟨List.mem_cons_self, fun t ht => List.mem_cons_of_mem _ ht⟩

/-! ### Rules -/

/-- A property of places that the order noted with them (`ranks`) has no part in. -/
def RankFree (P : Place → Prop) : Prop := ∀ s ranks, P s → P { s with ranks := ranks }

/-- From places with the property `P` the pattern `p` leads only to places with the property `Q`.
This is the triple that the rules below derive from the parts of a pattern. -/
def Leads (p : Pattern) (P Q : Place → Prop) : Prop :=
  ∀ fuel places, (∀ s ∈ places, P s) → ∀ e ∈ p.ends fuel places, Q e

/-- Whether a pattern has no `group` in it. -/
def isPlain : Pattern → Bool
  | seq p q | alt p q => p.isPlain && q.isPlain
  | star p => p.isPlain
  | group _ _ => false
  | _ => true

namespace Leads

variable {p q : Pattern} {P Q R : Place → Prop}

/-- `Pattern.empty` keeps every property. -/
theorem empty : Pattern.empty.Leads P P := by
  intro fuel places hplaces e he
  rw [ends_empty] at he
  exact hplaces e he

/-- `Pattern.one f` leads to `Q` when passing a character does. -/
theorem one {f : Char → Bool} (h : ∀ s e, P s → s.next? f = some e → Q e) :
    (Pattern.one f).Leads P Q := by
  intro fuel places hplaces e he
  rw [ends_one] at he
  obtain ⟨s, hs, hnext⟩ := List.mem_filterMap.mp he
  exact h s e (hplaces s hs) hnext

/-- Properties are passed on through a sequence: what `p` leads to is where `q` starts. -/
theorem seq (hp : p.Leads P Q) (hq : q.Leads Q R) : (p ++ q).Leads P R := by
  intro fuel places hplaces e he
  rw [ends_seq] at he
  exact hq fuel _ (hp fuel places hplaces) e he

/-- Both alternatives have to lead to the same, and neither property may depend on the order
(`RankFree`). -/
theorem alt (hP : RankFree P) (hQ : RankFree Q) (hp : p.Leads P Q) (hq : q.Leads P Q) :
    (p ||| q).Leads P Q := by
  intro fuel places hplaces e he
  cases places with
  | nil => simp at he
  | cons s places =>
    -- Only the order of the places is noted before both patterns are tried, and forgotten after.
    have hranked : ∀ t ∈ Place.ranked (s :: places), P t := by
      intro t ht
      obtain ⟨u, hu, i, rfl⟩ := mem_ranked ht
      exact hP u _ (hplaces u hu)
    obtain ⟨t, ht, rfl⟩ := List.mem_map.mp (mem_distinct he)
    rcases List.mem_merge.mp ht with ht | ht
    · exact hQ t _ (hp fuel _ hranked t ht)
    · exact hQ t _ (hq fuel _ hranked t ht)

theorem opt (hP : RankFree P) (h : p.Leads P P) : p.opt.Leads P P := alt hP hP h empty

/-- Between the start and the end of a group the place knows where the group starts: `P'` and `Q'`
are properties of places with one group more open. -/
theorem group {index : Nat} {P' Q' : Place → Prop} (henter : ∀ s, P s → P' s.enter)
    (hp : p.Leads P' Q') (hleave : ∀ s, Q' s → Q (s.leave index)) :
    (Pattern.group index p).Leads P Q := by
  intro fuel places hplaces e he
  rw [ends_group] at he
  obtain ⟨t, ht, rfl⟩ := List.mem_map.mp he
  refine hleave t (hp fuel _ ?_ t ht)
  intro s hs
  obtain ⟨u, hu, rfl⟩ := List.mem_map.mp hs
  exact henter u (hplaces u hu)

/-- `Pattern.start` keeps every property, as it moves nowhere. -/
theorem start : Pattern.start.Leads P P := by
  intro fuel places hplaces e he
  cases places with
  | nil => simp at he
  | cons s places => exact hplaces e (List.mem_filter.mp he).1

/-- `Pattern.boundary` keeps every property, as it moves nowhere. -/
theorem boundary : Pattern.boundary.Leads P P := by
  intro fuel places hplaces e he
  cases places with
  | nil => simp at he
  | cons s places => exact hplaces e (List.mem_filter.mp he).1

/-- What holds of the places of all `tasks` and of the places `found`, and is kept by the `step`,
holds of all places that `repeatAll` finds in the end. -/
theorem of_repeatAll {step : Place → List Place} (hstep : ∀ s, P s → ∀ e ∈ step s, P e)
    (fuel : Nat) (seen : Std.HashSet Nat) (tasks : List Task) (found : List Place)
    (htasks : ∀ t ∈ tasks, P t.place) (hfound : ∀ s ∈ found, P s) :
    ∀ e ∈ repeatAll step fuel seen tasks found, P e := by
  induction fuel generalizing seen tasks found with
  | zero => exact hfound
  | succ fuel ih =>
    have hkept : ∀ s ∈ (nextRepeat seen tasks found).2, P s := by
      intro s hs
      rcases mem_nextRepeat hs with hs | ⟨t, ht, rfl⟩
      · exact hfound s hs
      · exact htasks t ht
    rw [repeatAll]
    split
    · rename_i found' hnext
      rw [hnext] at hkept
      exact hkept
    · rename_i s rest found' hnext
      obtain ⟨hs, hrest⟩ := nextRepeat_eq_some (congrArg Prod.fst hnext)
      rw [hnext] at hkept
      have hPs : P s := htasks _ hs
      -- The new tasks are the places after one step, and to stop where the step started.
      refine ih _ _ _ ?_ hkept
      intro t ht
      rcases List.mem_append.mp ht with ht | ht
      · obtain ⟨e, he, rfl⟩ := List.mem_map.mp ht
        exact hstep s hPs e he
      · rcases List.mem_cons.mp ht with rfl | ht
        · exact hPs
        · exact htasks t (hrest ht)

/-- A repetition keeps what its body keeps, however often it is passed: the step of `repeatAll` is
the body. -/
theorem star (h : p.Leads P P) : (Pattern.star p).Leads P P := by
  intro fuel places hplaces e he
  by_cases hne : places = []
  · simp [hne] at he
  · rw [ends_star fuel p places hne] at he
    refine of_repeatAll (fun s hs => h fuel [s] (by simpa using hs)) fuel ∅ _ [] ?_ (by simp) e
      (List.mem_reverse.mp he)
    intro t ht
    obtain ⟨s, hs, rfl⟩ := List.mem_map.mp ht
    exact hplaces s hs

/-- **What every step keeps, a match keeps.** A property that does not depend on the order (`hrank`)
and is kept by passing a character (`hnext`) is kept by every pattern `p`, by induction on it. Only
a pattern that is not `isPlain` opens and closes groups. -/
theorem kept (hrank : RankFree P) (hnext : ∀ f s e, P s → s.next? f = some e → P e) (p : Pattern)
    (hgroups : p.isPlain = false → (∀ s, P s → P s.enter) ∧ ∀ i s, P s → P (s.leave i)) :
    p.Leads P P := by
  induction p with
  | empty => exact empty
  | one f => exact one (hnext f)
  | seq p q ihp ihq =>
    exact seq (ihp fun h => hgroups (by simp [isPlain, h]))
      (ihq fun h => hgroups (by simp [isPlain, h]))
  | alt p q ihp ihq =>
    exact alt hrank hrank (ihp fun h => hgroups (by simp [isPlain, h]))
      (ihq fun h => hgroups (by simp [isPlain, h]))
  | star p ih => exact star (ih hgroups)
  | group index p ih =>
    obtain ⟨henter, hleave⟩ := hgroups rfl
    exact group henter (ih fun _ => ⟨henter, hleave⟩) (hleave index)
  | start => exact start
  | boundary => exact boundary

end Leads

/-! ### Places on a line -/

/-- The group `g` is a stretch of the `line`. -/
def Group.On (line : List Char) (g : Group) : Prop :=
  g.position + g.length ≤ line.length ∧ g.rest = line.drop g.position

/-- The `line` around a stretch `g` of it. -/
theorem Group.On.split {line : List Char} {g : Group} (h : g.On line) :
    line = line.take g.position ++ g.content ++ line.drop (g.position + g.length) := by
  rw [Group.content, h.2, List.append_assoc, ← List.drop_drop, List.take_append_drop,
    List.take_append_drop]

namespace Place

variable {line : List Char} {s e : Place}

/-- A place that lies on a `line`: what is before and after it there, and that the groups open at it
and those it remembers are of the line. -/
structure On (line : List Char) (s : Place) : Prop where
  /-- It is no further than the end of the line. -/
  position_le : s.position ≤ line.length
  /-- What is left is the line from the position on. -/
  rest : s.rest = line.drop s.position
  /-- The character before it is that of the line. -/
  previous : s.previous = (line.take s.position).getLast?
  /-- Open groups start before it, each with what is left of the line there. -/
  opened : ∀ o ∈ s.opened, o.1 ≤ s.position ∧ o.2 = line.drop o.1
  /-- Groups that were closed are stretches of the line. -/
  groups : ∀ g ∈ s.groups, g.On line

/-- What it takes for `next?` to pass a character, and where this leads: the first character of the
rest has `f`, and is the previous one afterwards. -/
theorem next?_eq_some_iff {f : Char → Bool} :
    s.next? f = some e ↔ ∃ c rest, s.rest = c :: rest ∧ f c = true ∧
      e = { s with position := s.position + 1, previous := some c, rest := rest } := by
  -- `next?` asks for a character first, and then whether `f` holds of it.
  unfold next?
  split
  · rename_i hrest
    simp [hrest]
  · rename_i c rest hrest
    rw [hrest]
    by_cases hf : f c = true
    · rw [if_pos hf, Option.some.injEq]
      constructor
      · rintro rfl
        exact ⟨c, rest, rfl, hf, rfl⟩
      · rintro ⟨c', rest', hcons, -, rfl⟩
        obtain ⟨rfl, rfl⟩ := List.cons.inj hcons
        rfl
    · rw [if_neg hf]
      constructor
      · exact fun h => absurd h (by simp)
      · rintro ⟨c', rest', hcons, hf', -⟩
        obtain ⟨rfl, rfl⟩ := List.cons.inj hcons
        exact absurd hf' hf

/-- `next?` stays when there is no character left of which `f` holds. -/
theorem next?_eq_none_iff {f : Char → Bool} :
    s.next? f = none ↔ s.rest.head?.any f = false := by
  unfold next?
  cases s.rest with
  | nil => simp
  | cons c rest => simp

/-- `next?` does not look at the order. -/
theorem next?_ranks (f : Char → Bool) (s : Place) (ranks : List Nat) :
    ({ s with ranks := ranks } : Place).next? f
      = (s.next? f).map fun e => { e with ranks := ranks } := by
  unfold next?
  cases s.rest with
  | nil => rfl
  | cons c rest => by_cases hf : f c = true <;> simp [hf]

theorem position_leave (index : Nat) (s : Place) : (s.leave index).position = s.position := by
  unfold leave
  split <;> rfl

theorem rest_leave (index : Nat) (s : Place) : (s.leave index).rest = s.rest := by
  unfold leave
  split <;> rfl

/-- Closing a group by `leave` adds at most one to what is remembered: the other groups were there
before. -/
theorem inner_subset_groups {index : Nat} {whole : Group} {inner : List Group}
    (h : (s.leave index).groups = whole :: inner) : inner ⊆ s.groups := by
  intro g hg
  unfold leave at h
  split at h
  · rw [h]
    exact List.mem_cons_of_mem whole hg
  · rw [(List.cons.inj h).2]
    exact hg

/-- The start of a `line` lies on it. -/
theorem on_start (line : List Char) : (start line).On line :=
  ⟨Nat.zero_le _, rfl, rfl, by simp [start], by simp [start]⟩

namespace On

/-- Lying on a `line` does not depend on the order. -/
theorem rankFree (line : List Char) : RankFree (On line) :=
  fun _ _ h => ⟨h.position_le, h.rest, h.previous, h.opened, h.groups⟩

/-- The character after a place `On` a line is the next one of the line. -/
theorem take_succ (h : s.On line) {c : Char} {rest : List Char} (hrest : s.rest = c :: rest) :
    s.position < line.length ∧ line.take (s.position + 1) = line.take s.position ++ [c] := by
  have hhead := congrArg List.head? (h.rest.symm.trans hrest)
  rw [List.head?_drop, List.head?_cons] at hhead
  obtain ⟨hlt, -⟩ := List.getElem?_eq_some_iff.mp hhead
  exact ⟨hlt, by rw [List.take_add_one, hhead, Option.toList_some]⟩

/-- The next place after one `On` a line is on the line. -/
theorem next (h : s.On line) {f : Char → Bool} (hnext : s.next? f = some e) : e.On line := by
  obtain ⟨c, rest, hrest, -, rfl⟩ := next?_eq_some_iff.mp hnext
  obtain ⟨hlt, htake⟩ := h.take_succ hrest
  refine ⟨hlt, ?_, ?_, fun o ho => ?_, h.groups⟩
  · have htail := congrArg List.tail (h.rest.symm.trans hrest)
    rw [List.tail_drop] at htail
    exact htail.symm
  · show some c = (line.take (s.position + 1)).getLast?
    rw [htake, List.getLast?_concat]
  · obtain ⟨hle, ho⟩ := h.opened o ho
    exact ⟨Nat.le_succ_of_le hle, ho⟩

/-- Opening a group stays `On` the line. -/
theorem enter (h : s.On line) : s.enter.On line := by
  refine ⟨h.position_le, h.rest, h.previous, fun o ho => ?_, h.groups⟩
  rcases List.mem_cons.mp ho with rfl | ho
  · exact ⟨Nat.le_refl _, h.rest⟩
  · exact h.opened o ho

/-- Closing a group stays `On` the line, and the group that it closes is a stretch of the line. -/
theorem leave (h : s.On line) (index : Nat) : (s.leave index).On line := by
  unfold Place.leave
  split
  · exact h
  · rename_i position text outer hopened
    obtain ⟨hle, htext⟩ := h.opened (position, text) (by simp [hopened])
    refine ⟨h.position_le, h.rest, h.previous, fun o ho => ?_, fun g hg => ?_⟩
    · exact h.opened o (by simp [hopened, show o ∈ outer from ho])
    · rcases List.mem_cons.mp hg with rfl | hg
      · -- The stretch ends at the place itself.
        refine ⟨?_, htext⟩
        have hposition := h.position_le
        show position + (s.position - position) ≤ line.length
        simp only at hle
        omega
      · exact h.groups g hg

end On

end Place

/-- From places `On` a line every pattern leads to places on the line. -/
theorem leads_on (line : List Char) (p : Pattern) : p.Leads (Place.On line) (Place.On line) :=
  Leads.kept (Place.On.rankFree line) (fun _ _ _ h hnext => h.next hnext) p
    fun _ => ⟨fun _ h => h.enter, fun i _ h => h.leave i⟩

/-! ### The preferred end -/

/-- From places with the property `P` the preferred end of the pattern `p` has the property `Q`,
given fuel for the `line`. -/
def Prefers (line : List Char) (p : Pattern) (P Q : Place → Prop) : Prop :=
  ∀ fuel places, bound line ≤ fuel → (∀ s ∈ places, P s) →
    ∀ e, (p.ends fuel places).head? = some e → Q e

/-- What was `found` before stays at the end of the list. -/
theorem suffix_nextRepeat (seen : Std.HashSet Nat) (tasks : List Task) (found : List Place) :
    found <:+ (nextRepeat seen tasks found).2 := by
  fun_induction nextRepeat seen tasks found with
  | case1 found => exact List.suffix_refl found
  | case2 s tasks found ih => exact (List.suffix_cons s found).trans ih
  | case3 s tasks found _ ih => exact ih
  | case4 s tasks found _ => exact List.suffix_refl found

/-- What was `found` first stays first in what `repeatAll` finds, where the list is kept in
reverse. -/
theorem suffix_repeatAll (step : Place → List Place) (fuel : Nat) (seen : Std.HashSet Nat)
    (tasks : List Task) (found : List Place) : found <:+ repeatAll step fuel seen tasks found := by
  induction fuel generalizing seen tasks found with
  | zero => exact List.suffix_refl found
  | succ fuel ih =>
    have hnext := suffix_nextRepeat seen tasks found
    rw [repeatAll]
    split
    · rename_i found' heq
      rwa [heq] at hnext
    · rename_i s rest found' heq
      rw [heq] at hnext
      exact hnext.trans (ih _ _ _)

/-- To `stop` at a place is to find it: it is put in front of what was found before, which is in
reverse. -/
theorem repeatAll_stop (step : Place → List Place) (fuel : Nat) (seen : Std.HashSet Nat) (s : Place)
    (tasks : List Task) (found : List Place) :
    repeatAll step (fuel + 1) seen (.stop s :: tasks) found
      = repeatAll step (fuel + 1) seen tasks (s :: found) := by
  rw [repeatAll, repeatAll, nextRepeat]

/-- To `repeat` from a place that was not `seen` is to take the `step`, and to `stop` at the place
after all that follows: longer repetitions are preferred. -/
theorem repeatAll_repeat (step : Place → List Place) (fuel : Nat) {seen : Std.HashSet Nat}
    {s : Place} (hseen : ¬ seen.contains s.position = true) (tasks : List Task)
    (found : List Place) :
    repeatAll step (fuel + 1) seen (.repeat s :: tasks) found
      = repeatAll step fuel (seen.insert s.position)
          ((step s).map Task.repeat ++ .stop s :: tasks) found := by
  rw [repeatAll, nextRepeat, if_neg hseen]

/-- Where nothing is left to repeat (`hstep`), the first place that `repeatAll` finds is the place
itself, whatever other `tasks` there are. -/
theorem first_repeatAll {step : Place → List Place} (fuel : Nat) {seen : Std.HashSet Nat}
    {s : Place} (hseen : ¬ seen.contains s.position = true) (hstep : step s = [])
    (tasks : List Task) : [s] <:+ repeatAll step (fuel + 2) seen (.repeat s :: tasks) [] := by
  rw [repeatAll_repeat step _ hseen, hstep]
  show [s] <:+ repeatAll step (fuel + 1) _ (.stop s :: tasks) []
  rw [repeatAll_stop]
  exact suffix_repeatAll step _ _ tasks [s]

/-- Repetition of one character goes on from a place as far as it can before it stops anywhere: the
first place found is one where `next? f` stays. -/
theorem furthest_repeatAll {f : Char → Bool} {step : Place → List Place}
    (hstep : ∀ s, step s = (s.next? f).toList) {fuel : Nat} {seen : Std.HashSet Nat} {s : Place}
    (tasks : List Task) (hfuel : s.rest.length + 2 ≤ fuel)
    (hseen : ∀ n, seen.contains n = true → n < s.position) :
    ∃ e, e.next? f = none ∧ [e] <:+ repeatAll step fuel seen (.repeat s :: tasks) [] := by
  -- By induction on the rest of the line: each round passes one character of it.
  induction hrest : s.rest generalizing s fuel seen tasks with
  | nil =>
    obtain ⟨fuel, rfl⟩ : ∃ k, fuel = k + 2 := ⟨fuel - 2, by omega⟩
    have hnone : s.next? f = none := by rw [Place.next?, hrest]
    exact ⟨s, hnone, first_repeatAll fuel (fun h => Nat.lt_irrefl _ (hseen _ h))
      (by rw [hstep, hnone]; rfl) tasks⟩
  | cons c rest ih =>
    obtain ⟨fuel, rfl⟩ : ∃ k, fuel = k + 2 := ⟨fuel - 2, by omega⟩
    cases hnext : s.next? f with
    | none =>
      exact ⟨s, hnext, first_repeatAll fuel (fun h => Nat.lt_irrefl _ (hseen _ h))
        (by rw [hstep, hnext]; rfl) tasks⟩
    | some e =>
      rw [repeatAll_repeat step _ (fun h => Nat.lt_irrefl _ (hseen _ h)), hstep, hnext]
      obtain ⟨c', rest', hcons, -, rfl⟩ := Place.next?_eq_some_iff.mp hnext
      obtain ⟨rfl, rfl⟩ := List.cons.inj (hrest.symm.trans hcons)
      refine ih (.stop s :: tasks) ?_ ?_ rfl
      · rw [hrest, List.length_cons] at hfuel
        show rest.length + 2 ≤ fuel + 1
        omega
      · -- Positions are seen from left to right.
        intro n hn
        show n < s.position + 1
        rw [Std.HashSet.contains_insert, Bool.or_eq_true] at hn
        rcases hn with hn | hn
        · have hposition := eq_of_beq hn
          omega
        · have hbefore := hseen n hn
          omega

theorem head?_merge_cons {xs ys : List Place} {y : Place}
    (h : ∀ x ∈ xs, Place.noLater x y = false) :
    (List.merge xs (y :: ys) Place.noLater).head? = some y := by
  cases xs with
  | nil => simp
  | cons x xs => simp [h x]

/-- An optional character is passed when the first of the places has it after it (`next?`), and that
place is kept otherwise. -/
theorem head?_ends_opt_one (fuel : Nat) (f : Char → Bool) (s : Place) (places : List Place) :
    ((opt (one f)).ends fuel (s :: places)).head? = some ((s.next? f).getD s) := by
  show (distinct ((List.merge ((one f).ends fuel (Place.ranked (s :: places)))
    (empty.ends fuel (Place.ranked (s :: places))) Place.noLater).map Place.unranked)).head? = _
  obtain ⟨others, hranked, hothers⟩ : ∃ others, Place.ranked (s :: places)
      = { s with ranks := 0 :: s.ranks } :: others ∧ ∀ t ∈ others, 0 < t.ranks.headD 0 := by
    refine ⟨_, List.mapIdx_cons, fun t ht => ?_⟩
    obtain ⟨i, hi, rfl⟩ := List.mem_mapIdx.mp ht
    exact Nat.succ_pos i
  rw [head?_distinct, List.head?_map, ends_one, ends_empty, hranked, List.filterMap_cons,
    Place.next?_ranks]
  cases hnext : s.next? f with
  | none =>
    -- Whatever the other places lead to comes later than the first place.
    have hlater : ∀ e ∈ others.filterMap (Place.next? f),
        Place.noLater e { s with ranks := 0 :: s.ranks } = false := by
      intro e he
      obtain ⟨t, ht, hte⟩ := List.mem_filterMap.mp he
      obtain ⟨c, rest, -, -, rfl⟩ := Place.next?_eq_some_iff.mp hte
      exact decide_eq_false (Nat.not_le.mpr (hothers t ht))
    exact congrArg (Option.map Place.unranked) (head?_merge_cons hlater)
  | some e =>
    obtain ⟨c, rest, -, -, rfl⟩ := Place.next?_eq_some_iff.mp hnext
    simp [Place.noLater, Place.unranked]

namespace Prefers

variable {line : List Char} {p q : Pattern} {P Q R : Place → Prop}

/-- What holds of every end (`Leads`) holds of the preferred one. -/
theorem of_leads (h : p.Leads P Q) : p.Prefers line P Q :=
  fun fuel places _ hplaces e he => h fuel places hplaces e (List.mem_of_mem_head? he)

theorem seq (hp : p.Leads P Q) (hq : Prefers line q Q R) : Prefers line (p ++ q) P R := by
  intro fuel places hfuel hplaces e he
  rw [ends_seq] at he
  exact hq fuel _ hfuel (hp fuel places hplaces) e he

theorem group {index : Nat} {P' Q' : Place → Prop} (henter : ∀ s, P s → P' s.enter)
    (hp : Prefers line p P' Q') (hleave : ∀ s, Q' s → Q (s.leave index)) :
    Prefers line (Pattern.group index p) P Q := by
  intro fuel places hfuel hplaces e he
  rw [ends_group, List.head?_map] at he
  obtain ⟨t, ht, rfl⟩ := Option.map_eq_some_iff.mp he
  refine hleave t (hp fuel _ hfuel ?_ t ht)
  intro s hs
  obtain ⟨u, hu, rfl⟩ := List.mem_map.mp hs
  exact henter u (hplaces u hu)

/-- **Repetition of one character is preferred to go as far as it can**: at the preferred end of
`star (one f)` there is no further character of which `f` holds. -/
theorem star_one {f : Char → Bool} (hon : ∀ s, P s → s.On line)
    (hnext : ∀ s e, P s → s.next? f = some e → P e) :
    Prefers line (star (one f)) P fun s => P s ∧ s.next? f = none := by
  intro fuel places hfuel hplaces e he
  cases places with
  | nil => simp at he
  | cons s places =>
    refine ⟨(Leads.star (Leads.one hnext)) fuel (s :: places) hplaces e
      (List.mem_of_mem_head? he), ?_⟩
    have hrest : s.rest.length + 2 ≤ fuel := by
      have hs := hon s (hplaces s List.mem_cons_self)
      rw [hs.rest, List.length_drop]
      unfold bound at hfuel
      omega
    have hstep : ∀ s, (one f).ends fuel [s] = (s.next? f).toList := by
      intro s
      rw [ends_one]
      cases hs : s.next? f <;> simp [hs]
    -- The first place found is the last of the list that is built up.
    have hseen : ∀ n, (∅ : Std.HashSet Nat).contains n = true → n < s.position := by simp
    obtain ⟨far, hfar, front, hfront⟩ :=
      furthest_repeatAll hstep (places.map Task.repeat) hrest hseen
    rw [ends_star fuel _ _ (by simp), repeated, List.head?_reverse, List.map_cons, ← hfront,
      List.getLast?_concat, Option.some.injEq] at he
    rwa [← he]

/-- After the preferred end of a pattern `p` an optional character is passed when it is there. -/
theorem seq_opt_one {f : Char → Bool} (hp : Prefers line p P Q)
    (hnext : ∀ s, Q s → R ((s.next? f).getD s)) : Prefers line (p ++ opt (one f)) P R := by
  intro fuel places hfuel hplaces e he
  rw [ends_seq] at he
  cases hends : p.ends fuel places with
  | nil => simp [hends] at he
  | cons s rest =>
    rw [hends, head?_ends_opt_one, Option.some.injEq] at he
    rw [← he]
    exact hnext s (hp fuel places hfuel hplaces s (by simp [hends]))

end Prefers

/-! ### Searches -/

section Search

variable {P : Place → Prop} {p : Pattern} {line : List Char}

theorem mem_run (hnext : ∀ s e, P s → s.next? (fun _ => true) = some e → P e) (count : Nat)
    {s : Place} (hs : P s) : ∀ t ∈ s.run count, P t := by
  fun_induction Place.run count s with
  | case1 s => simp
  | case2 count s _ => simpa using hs
  | case3 count s e he ih =>
    intro t ht
    rcases List.mem_cons.mp ht with rfl | ht
    · exact hs
    · exact ih (hnext s e hs he) t ht

/-- A match that `findFrom?` gives starts from places that share what the search started with: a
property `P` that passing a character keeps (`hnext`). -/
theorem findFrom?_eq_some (hnext : ∀ s e, P s → s.next? (fun _ => true) = some e → P e)
    {fuel rounds count : Nat} {s : Place} (hs : P s) {found : Match × Place}
    (h : p.findFrom? fuel rounds count s = some found) :
    ∃ places, (∀ t ∈ places, P t) ∧ p.matchFrom? fuel places = some found := by
  induction rounds generalizing count s with
  | zero => cases h
  | succ rounds ih =>
    have hrun := mem_run hnext count hs
    rw [findFrom?] at h
    split at h
    · rename_i found' hmatch
      cases h
      exact ⟨_, hrun, hmatch⟩
    · split at h
      · rename_i e he
        obtain ⟨last, hlast, hlaste⟩ := Option.bind_eq_some_iff.mp he
        exact ih (hnext last e (hrun last (List.mem_of_getLast? hlast)) hlaste) h
      · cases h

/-- A match is what the preferred end `t` remembers once the group of the whole match is closed.
That end is the first one of `ends`. -/
theorem matchFrom?_eq_some {fuel : Nat} {places : List Place} {m : Match} {e : Place}
    (h : p.matchFrom? fuel places = some (m, e)) :
    ∃ t, (p.ends fuel (places.map Place.enter)).head? = some t ∧
      (t.leave 0).groups = m.whole :: m.groups ∧ e = { t.leave 0 with groups := [] } := by
  obtain ⟨t, ht, hm⟩ := Option.bind_eq_some_iff.mp h
  rw [ends_group, List.head?_map] at ht
  obtain ⟨u, hu, rfl⟩ := Option.map_eq_some_iff.mp ht
  split at hm
  · cases hm
  · rename_i whole inner hgroups
    cases hm
    exact ⟨u, hu, hgroups, rfl⟩

/-- A place on the `line` that remembers nothing yet. -/
def Fresh (line : List Char) (s : Place) : Prop := s.On line ∧ s.groups = []

/-- The place after a `Fresh` one is fresh. -/
theorem Fresh.next {s e : Place} {f : Char → Bool} (h : Fresh line s) (hnext : s.next? f = some e) :
    Fresh line e := by
  refine ⟨h.1.next hnext, ?_⟩
  obtain ⟨c, rest, -, -, rfl⟩ := Place.next?_eq_some_iff.mp hnext
  exact h.2

/-- **Groups of a search.** What the preferred end knows of all it remembers (`hp`), holds of the
groups of the match that `find?` gives. -/
theorem find?_groups {G : Group → Prop}
    (hp : Prefers line p (Fresh line) fun s => ∀ g ∈ s.groups, G g) {m : Match}
    (h : p.find? line = some m) : ∀ g ∈ m.groups, G g := by
  obtain ⟨⟨m', e⟩, hfind, rfl⟩ := Option.map_eq_some_iff.mp h
  obtain ⟨places, hplaces, hmatch⟩ := findFrom?_eq_some (fun _ _ => Fresh.next)
    ⟨Place.on_start line, rfl⟩ hfind
  obtain ⟨t, ht, hgroups, -⟩ := matchFrom?_eq_some hmatch
  have hknown : ∀ g ∈ t.groups, G g := by
    refine hp (bound line) _ (Nat.le_refl _) ?_ t ht
    intro s hs
    obtain ⟨u, hu, rfl⟩ := List.mem_map.mp hs
    exact ⟨(hplaces u hu).1.enter, (hplaces u hu).2⟩
  exact fun g hg => hknown g (Place.inner_subset_groups hgroups hg)

/-- **Every group of a match is a stretch of the line**, by `leads_on`. -/
theorem find?_on {m : Match} (h : p.find? line = some m) : ∀ g ∈ m.groups, g.On line := by
  have hon : Prefers line p (Fresh line) fun s => ∀ g ∈ s.groups, g.On line :=
    fun fuel places _ hplaces t ht => (leads_on line p fuel places (fun s hs => (hplaces s hs).1) t
      (List.mem_of_mem_head? ht)).groups
  exact find?_groups hon h

/-- A match found from a place `On` the line is a stretch of the line, and so is where it ends. -/
theorem findFrom?_on {fuel rounds count : Nat} {s : Place} (hs : s.On line) {m : Match} {e : Place}
    (h : p.findFrom? fuel rounds count s = some (m, e)) : m.whole.On line ∧ e.On line := by
  obtain ⟨places, hplaces, hmatch⟩ := findFrom?_eq_some (fun _ _ hs => hs.next) hs h
  obtain ⟨t, ht, hgroups, rfl⟩ := matchFrom?_eq_some hmatch
  have hon : (t.leave 0).On line := by
    refine (leads_on line p fuel _ ?_ t (List.mem_of_mem_head? ht)).leave 0
    intro s hs
    obtain ⟨u, hu, rfl⟩ := List.mem_map.mp hs
    exact (hplaces u hu).enter
  exact ⟨hon.groups _ (by simp [hgroups]),
    ⟨hon.position_le, hon.rest, hon.previous, hon.opened, by simp⟩⟩

/-- So is every further match of `findAllFrom`, each search starting where the match before
ended. -/
theorem findAllFrom_on {fuel count : Nat} {s : Place} (hs : s.On line) {m : Match}
    (hm : m ∈ p.findAllFrom fuel count s) : m.whole.On line := by
  induction count generalizing s with
  | zero => exact absurd hm List.not_mem_nil
  | succ count ih =>
    rw [findAllFrom] at hm
    split at hm
    · exact absurd hm List.not_mem_nil
    · rename_i found e hfind
      obtain ⟨hfound, he⟩ := findFrom?_on hs hfind
      -- After an empty match the search goes on one character further, if there is one.
      split at hm
      · split at hm
        · rename_i e' hnext
          rcases List.mem_cons.mp hm with rfl | hm
          · exact hfound
          · exact ih (he.next hnext) hm
        · rw [List.mem_singleton.mp hm]
          exact hfound
      · rcases List.mem_cons.mp hm with rfl | hm
        · exact hfound
        · exact ih he hm

/-- **Every match of `findAll` in a line is a stretch of the line.** -/
theorem findAll_on {m : Match} (h : m ∈ p.findAll line) : m.whole.On line :=
  findAllFrom_on (Place.on_start line) h

end Search

end CodeHealth.Pattern
