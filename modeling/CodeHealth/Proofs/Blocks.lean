import CodeHealth.Proofs.Braces

/-!
# Blocks and the spans that cover them

The body of a function with braces is a block: it starts with the first opening brace from the
declaration on, and ends with the closing brace that matches it. The search for the end of a span
counts every brace from the start of the declaration line, those before the block among them, and
looks at the count at the ends of lines only. So it may miss the end of the block: closing braces
before it make up for braces that the block has opened.

* `Outline.placed` — the characters of some lines with the places they stand at;
* `Outline.Block` — the block of a declaration;
* `Outline.Block.goesOn_iff` — when the search goes on at the end of a line inside of the block;
* `Outline.covers_block_iff` — when the span of a declaration covers its block.
-/

namespace CodeHealth.Outline

open CodeHealth.Text

variable {lines : List (List Char)}

/-! ### Places of characters -/

/-- The characters of `lines`, each paired with the index of its line; the first line has the index
`index`. Line feeds have no place, since `lines` holds the lines without their ends. -/
def placed : Nat → List (List Char) → List (Nat × Char)
  | _, [] => []
  | index, line :: rest => line.map (index, ·) ++ placed (index + 1) rest

/-- Without their places, the characters of `placed index lines` are those of the lines, one after
the other. -/
theorem map_snd_placed (index : Nat) (lines : List (List Char)) :
    (placed index lines).map Prod.snd = lines.flatten := by
  induction lines generalizing index with
  | nil => rfl
  | cons line rest ih => simp [placed, ih, Function.comp_def]

/-- A place is the index of one of the `lines`, counted from `index` on. -/
theorem mem_placed {index : Nat} {c : Nat × Char} (h : c ∈ placed index lines) :
    index ≤ c.1 ∧ c.1 < index + lines.length := by
  induction lines generalizing index with
  | nil => cases h
  | cons line rest ih =>
    rw [placed, List.mem_append, List.mem_map] at h
    rw [List.length_cons]
    rcases h with ⟨d, -, rfl⟩ | h
    · exact ⟨Nat.le_refl _, by simp⟩
    · have hrest := ih h
      omega

/-- The characters of `placed index lines` stand in the order of their lines, so that their places
never decrease. -/
theorem pairwise_placed (index : Nat) (lines : List (List Char)) :
    (placed index lines).Pairwise fun c d => c.1 ≤ d.1 := by
  induction lines generalizing index with
  | nil => exact List.Pairwise.nil
  | cons line rest ih =>
    rw [placed, List.pairwise_append]
    refine ⟨?_, ih (index + 1), ?_⟩
    · rw [List.pairwise_map]
      exact List.pairwise_of_forall fun _ _ => Nat.le_refl _
    · intro c hc d hd
      obtain ⟨_, -, rfl⟩ := List.mem_map.mp hc
      exact Nat.le_of_succ_le (mem_placed hd).1

/-- `placed` of the first `n` lines and `placed` of the others, which are numbered from `index + n`
on, make up `placed` of all of them. -/
theorem placed_eq_append (index n : Nat) (lines : List (List Char)) :
    placed index lines = placed index (lines.take n) ++ placed (index + n) (lines.drop n) := by
  induction n generalizing index lines with
  | zero => rfl
  | succ n ih =>
    cases lines with
    | nil => rfl
    | cons line rest =>
      rw [List.take_succ_cons, List.drop_succ_cons, placed, placed, ih (index + 1) rest,
        List.append_assoc, Nat.add_right_comm, Nat.add_assoc]

/-- The characters of `text` up to the end of line `k`, where `text` stands in the order of lines,
as `placed` does (`pairwise_placed`). -/
def upTo (k : Nat) (text : List (Nat × Char)) : List (Nat × Char) :=
  text.takeWhile fun c => c.1 ≤ k

/-- `upTo k` takes nothing from the first character `c` on that stands below line `k`
(`k < c.1`). -/
theorem upTo_append_cons {k : Nat} {c : Nat × Char} (h : k < c.1) (text rest : List (Nat × Char)) :
    upTo k (text ++ c :: rest) = upTo k text := by
  unfold upTo
  induction text with
  | nil => simp [h]
  | cons d text ih => simp [List.takeWhile_cons, ih]

/-- A `text` that stands on line `k` or above it is taken whole by `upTo k`. -/
theorem upTo_append {k : Nat} {text : List (Nat × Char)} (h : ∀ c ∈ text, c.1 ≤ k)
    (rest : List (Nat × Char)) : upTo k (text ++ rest) = text ++ upTo k rest :=
  List.takeWhile_append_of_pos fun c hc => decide_eq_true (h c hc)

/-- `front lines (n + 1)`, the text of the first `n + 1` lines, is what stands up to the end of the
last of them. This is how the depth that the search keeps is told by places. -/
theorem front_eq_map_upTo (index n : Nat) (lines : List (List Char)) :
    front lines (n + 1) = (upTo (index + n) (placed index lines)).map Prod.snd := by
  -- The first lines stand at or above the line `index + n`, and all others below it.
  have hin : ∀ c ∈ placed index (lines.take (n + 1)), c.1 ≤ index + n := by
    intro c hc
    have hlt := (mem_placed hc).2
    rw [List.length_take] at hlt
    omega
  have hout : upTo (index + n) (placed (index + (n + 1)) (lines.drop (n + 1))) = [] := by
    cases hlater : placed (index + (n + 1)) (lines.drop (n + 1)) with
    | nil => rfl
    | cons c rest =>
      have hmem : c ∈ placed (index + (n + 1)) (lines.drop (n + 1)) := by
        rw [hlater]
        exact List.mem_cons_self
      exact upTo_append_cons (mem_placed hmem).1 [] rest
  rw [placed_eq_append index (n + 1) lines, upTo_append hin, hout, List.append_nil, map_snd_placed,
    front]

/-! ### Blocks -/

/-- The block of a declaration on line `start`: the first opening brace at or after the beginning of
the line, and the first closing brace after it where the braces counted from it balance. All
characters come with their lines, as in `placed`. -/
structure Block (lines : List (List Char)) (start : Nat) where
  /-- What stands before the opening brace. -/
  before : List (Nat × Char)
  /-- The line of the opening brace. -/
  opening : Nat
  /-- What stands between the braces. -/
  inside : List (Nat × Char)
  /-- The line of the closing brace. -/
  closing : Nat
  /-- What stands after the closing brace. -/
  after : List (Nat × Char)
  /-- The five parts make up the text from the beginning of line `start` on. -/
  text_eq : placed start (lines.drop start)
    = before ++ (opening, '\x7b') :: (inside ++ (closing, '\x7d') :: after)
  /-- It is the first opening brace: `before` has none. -/
  first : '\x7b' ∉ before.map Prod.snd
  /-- No brace inside closes the block: the balance of every beginning of `inside` is at least
  zero. -/
  unclosed : ∀ n ≤ inside.length, 0 ≤ braceBalance ((inside.take n).map Prod.snd)
  /-- All braces opened inside are closed inside. -/
  balanced : braceBalance (inside.map Prod.snd) = 0

namespace Block

variable {start : Nat} (block : Block lines start)

/-- How many closing braces stand before the block opens, on the lines from `start` on. The search
counts them too, although they do not belong to the block. -/
def closersBefore : Nat := (block.before.map Prod.snd).count '\x7d'

/-- How many braces are open at the end of line `k` inside of the block, the brace that opens the
block among them. -/
def openAfter (k : Nat) : Int :=
  1 + braceBalance ((upTo k block.inside).map Prod.snd)

/-- At the end of a line inside of the block the block itself is open (`1 ≤ openAfter k`), because
`unclosed` bounds the balance of every beginning of `inside`. -/
theorem one_le_openAfter (k : Nat) : 1 ≤ block.openAfter k := by
  have hpart : upTo k block.inside <+: block.inside := List.takeWhile_prefix _
  have hinside := block.unclosed _ hpart.length_le
  rw [← List.prefix_iff_eq_take.mp hpart] at hinside
  unfold openAfter
  omega

/-- The five parts of a block stand in the order of their lines, as `pairwise_placed` says of the
text that they make up. -/
theorem pairwise_text : (block.before ++ (block.opening, '\x7b') ::
    (block.inside ++ (block.closing, '\x7d') :: block.after)).Pairwise fun c d => c.1 ≤ d.1 := by
  rw [← block.text_eq]
  exact pairwise_placed start (lines.drop start)

/-- What stands `before` the opening brace is on its line or above it. -/
theorem le_opening {c : Nat × Char} (h : c ∈ block.before) : c.1 ≤ block.opening :=
  (List.pairwise_append.mp block.pairwise_text).2.2 c h _ List.mem_cons_self

/-- The opening brace stands on line `start` or below it. -/
theorem start_le_opening : start ≤ block.opening := by
  have hmem : (block.opening, '\x7b') ∈ placed start (lines.drop start) := by
    rw [block.text_eq]
    simp
  exact (mem_placed hmem).1

/-- The closing brace stands on one of the `lines`. -/
theorem closing_lt : block.closing < start + (lines.drop start).length := by
  have hmem : (block.closing, '\x7d') ∈ placed start (lines.drop start) := by
    rw [block.text_eq]
    simp
  exact (mem_placed hmem).2

/-- The lines down to one above `block.opening` have no opening brace: all that they hold stands
`before` it. -/
theorem not_mem_front {n : Nat} (h : start + n < block.opening) :
    '\x7b' ∉ front (lines.drop start) (n + 1) := by
  rw [front_eq_map_upTo start, block.text_eq, upTo_append_cons h]
  intro hmem
  exact block.first (((List.takeWhile_sublist _).map Prod.snd).subset hmem)

/-- On a line from `block.opening` on, all that comes before the block and the opening brace itself
have been passed (`c.1 ≤ start + n`). -/
theorem le_of_mem_opened {n : Nat} (h : block.opening ≤ start + n) :
    ∀ c ∈ block.before ++ [(block.opening, '\x7b')], c.1 ≤ start + n := by
  intro c hc
  rcases List.mem_append.mp hc with hc | hc
  · exact Nat.le_trans (block.le_opening hc) h
  · rw [List.mem_singleton.mp hc]
    exact h

/-- The lines down to `block.opening`, or to one below it, have an opening brace. -/
theorem mem_front {n : Nat} (h : block.opening ≤ start + n) :
    '\x7b' ∈ front (lines.drop start) (n + 1) := by
  rw [front_eq_map_upTo start, block.text_eq, List.append_cons,
    upTo_append (block.le_of_mem_opened h)]
  simp

/-- The depth at the end of a line inside of the block is `openAfter` less `closersBefore`: the
braces that were closed before the block are counted too. -/
theorem braceBalance_front {n : Nat} (hopening : block.opening ≤ start + n)
    (hclosing : start + n < block.closing) :
    braceBalance (front (lines.drop start) (n + 1))
      = block.openAfter (start + n) - block.closersBefore := by
  have hfront : front (lines.drop start) (n + 1) = block.before.map Prod.snd ++
      ['\x7b'] ++ (upTo (start + n) block.inside).map Prod.snd := by
    rw [front_eq_map_upTo start, block.text_eq, List.append_cons,
      upTo_append (block.le_of_mem_opened hopening), upTo_append_cons hclosing, List.map_append,
      List.map_append]
    rfl
  have hbefore : braceBalance (block.before.map Prod.snd) = -block.closersBefore := by
    rw [braceBalance, List.count_eq_zero.mpr block.first, closersBefore]
    omega
  have hopens : braceBalance ['\x7b'] = 1 := rfl
  rw [hfront, braceBalance_append, braceBalance_append, hbefore, hopens, openAfter]
  omega

/-- At the end of a line inside of the block the search goes on (`GoesOn`) exactly when more braces
are open than were closed before the block. -/
theorem goesOn_iff {n : Nat} (hopening : block.opening ≤ start + n)
    (hclosing : start + n < block.closing) :
    GoesOn (lines.drop start) n ↔ (block.closersBefore : Int) < block.openAfter (start + n) := by
  have hmem := block.mem_front hopening
  have hbalance := block.braceBalance_front hopening hclosing
  constructor
  · intro h
    have hdeep := h.deep hmem
    omega
  · intro h
    exact ⟨fun _ => by omega, fun hunopened => absurd hmem hunopened⟩

/-- No line of the signature, from `start` down to the line above the opening brace, ends in a
semicolon. Such a line would make it a declaration without a body. -/
def Unended : Prop :=
  ∀ k line, start ≤ k → k < block.opening → lines[k]? = some line → endsInSemicolon line = false

/-- However the search ends (`BracesEnd`), a declaration with a block that is `Unended` has a body:
without one it would have to end on a line above the opening brace. -/
theorem hasBody_of_ends {found : Nat × Bool} (hunended : block.Unended)
    (h : BracesEnd (lines.drop start) found) : found.2 = true := by
  cases h with
  | closed => rfl
  | unclosed => rfl
  | bodiless n line hline hunopened hends =>
    have hn : start + n < block.opening := Nat.lt_of_not_le fun hle =>
      hunopened (block.mem_front hle)
    rw [List.getElem?_drop] at hline
    exact absurd (hends.symm.trans (hunended _ line (Nat.le_add_right _ _) hn hline))
      Bool.noConfusion

/-- A search that stops short of the closing brace (`stop`) ends on a line inside of the block,
where it does not go on. -/
theorem exists_of_stop_le {found : Nat × Bool} (hunended : block.Unended)
    (h : BracesEnd (lines.drop start) found) (hstop : start + found.1 ≤ block.closing) :
    ∃ n, block.opening ≤ start + n ∧ start + n < block.closing ∧
      ¬ GoesOn (lines.drop start) n := by
  have hbody := block.hasBody_of_ends hunended h
  cases h with
  | closed n hn hopened hdepth =>
    refine ⟨n, Nat.le_of_not_lt fun hlt => block.not_mem_front hlt hopened, hstop, ?_⟩
    exact not_goesOn_of_closed hopened hdepth
  | bodiless => cases hbody
  | unclosed => exact absurd block.closing_lt (Nat.not_lt.mpr hstop)

end Block

/-- **When a span reaches the end of its block.** Let `block` be the first opening brace from a
declaration on with the closing brace that matches it, where no line above the opening brace ends in
a semicolon (`Unended`). Then the declaration has a body. Its span goes beyond the line of the
closing brace exactly when at the end of every line `k` from the opening brace up to there more
braces are open, counted from the opening one (`openAfter k`), than were closed before it from the
start of the declaration line on (`closersBefore`). So it does if none was closed before. -/
theorem covers_block_iff {start : Nat} (block : Block lines start) (hunended : block.Unended) :
    let span := findSpan .braces lines start
    span.hasBody = true ∧
    (block.closing < span.stop ↔ ∀ k, block.opening ≤ k → k < block.closing →
      (block.closersBefore : Int) < block.openAfter k) ∧
    (block.closersBefore = 0 → block.closing < span.stop) := by
  intro span
  obtain ⟨found, hends, hspan⟩ := findSpan_braces lines start
  have hstop : span.stop = start + found.1 := congrArg Span.stop hspan
  have hbody : span.hasBody = found.2 := congrArg Span.hasBody hspan
  have hiff : block.closing < span.stop ↔ ∀ k, block.opening ≤ k → k < block.closing →
      (block.closersBefore : Int) < block.openAfter k := by
    -- Inside of the block `GoesOn` is the comparison of the two counts, so that the search reaches
    -- the end of the block exactly if it goes on at every line there.
    -- Inside of the block `GoesOn` is the comparison of the two counts, so that the search reaches
    -- the end of the block exactly if it goes on at every line there.
    constructor
    · intro hreached k hopening hclosing
      obtain ⟨n, rfl⟩ := Nat.exists_eq_add_of_le (Nat.le_trans block.start_le_opening hopening)
      exact (block.goesOn_iff hopening hclosing).mp (hends.goesOn_of_lt (by omega))
    · intro hdeep
      refine Nat.lt_of_not_le fun hle => ?_
      obtain ⟨n, hopening, hclosing, hnot⟩ := block.exists_of_stop_le hunended hends (hstop ▸ hle)
      exact hnot ((block.goesOn_iff hopening hclosing).mpr (hdeep _ hopening hclosing))
  refine ⟨hbody.trans (block.hasBody_of_ends hunended hends), hiff, fun hnone => ?_⟩
  refine hiff.mpr fun k _ _ => ?_
  have hopen := block.one_le_openAfter k
  omega

end CodeHealth.Outline

namespace CodeHealth.Sample

open Outline

/-- A method that starts where the one before it is closed, and opens two blocks on its first
line. -/
def twiceOpened : List (List Char) :=
  ["\x7d, b() \x7b if (x) \x7b", "y();", "\x7d\x7d"].map String.toList

/-- The block of the method of `twiceOpened`. -/
def twiceOpenedBlock : Block twiceOpened 0 where
  before := placed 0 ["\x7d, b() ".toList]
  opening := 0
  inside := placed 0 [" if (x) \x7b".toList, "y();".toList, "\x7d".toList]
  closing := 2
  after := []
  text_eq := by decide
  first := by decide
  unclosed := by decide
  balanced := by decide

/-- Though one brace is closed before the block of `twiceOpened`, its span covers it: two braces are
open at the end of both its lines. -/
theorem twiceOpened_covered :
    twiceOpenedBlock.closersBefore = 1 ∧
      twiceOpenedBlock.closing < (findSpan .braces twiceOpened 0).stop := by
  have hunended : twiceOpenedBlock.Unended := fun k _ _ hk => absurd hk (Nat.not_lt_zero k)
  obtain ⟨-, hiff, -⟩ := covers_block_iff twiceOpenedBlock hunended
  have hdeep : ∀ k < 2, (twiceOpenedBlock.closersBefore : Int) < twiceOpenedBlock.openAfter k := by
    decide
  exact ⟨by decide, hiff.mpr fun k _ hk => hdeep k hk⟩

/-- A method that starts where the one before it is closed. -/
def resumed : List (List Char) := ["\x7d, b() \x7b", "  y();", "\x7d"].map String.toList

/-- The block of the method of `resumed`. -/
def resumedBlock : Block resumed 0 where
  before := placed 0 ["\x7d, b() ".toList]
  opening := 0
  inside := placed 1 ["  y();".toList]
  closing := 2
  after := []
  text_eq := by decide
  first := by decide
  unclosed := by decide
  balanced := by decide

/-- The brace that is closed before the method of `resumed` makes up for the one that it opens, so
the span is cut off after the first line. -/
theorem resumed_cut_short :
    resumedBlock.Unended ∧ findSpan .braces resumed 0 = ⟨0, 1, true⟩ ∧
      ¬ resumedBlock.closing < (findSpan .braces resumed 0).stop := by
  refine ⟨fun k _ _ hk => absurd hk (Nat.not_lt_zero k), ?_, ?_⟩
  · decide
  · decide

end CodeHealth.Sample
