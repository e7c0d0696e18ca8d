import CodeHealth.Proofs.Spans

/-!
# Spans by braces

The span of a function with braces ends at the end of a line: where a brace was opened and no more
braces are open than at its start, where a declaration without a body ends in a semicolon, or at the
end of the file. The count starts with the declaration line, closing braces included.

* `Outline.GoesOn` — the search for the end goes on after a line;
* `Outline.BracesEnd` — all the ways in which the search can end;
* `Outline.bracesFrom_ends` — it ends in one of these;
* `Outline.braces_nested` — a span that starts inside of another one ends inside of it.
-/

namespace CodeHealth.Outline

open CodeHealth.Text

variable {lines : List (List Char)}

/-! ### The first lines of a text -/

@[simp] theorem braceBalance_nil : braceBalance [] = 0 := rfl

/-- The `braceBalance` of two texts in a row is the sum of theirs, as both kinds of braces are
counted. -/
@[simp] theorem braceBalance_append (text rest : List Char) :
    braceBalance (text ++ rest) = braceBalance text + braceBalance rest := by
  simp only [braceBalance, List.count_append]
  omega

/-- The text of the first `n` lines, one after the other and without line feeds. The search for the
end of a span counts the braces of such texts. -/
def front (lines : List (List Char)) (n : Nat) : List Char := (lines.take n).flatten

/-- The first `m + n` lines are the first `m` and then the first `n` of the others. -/
theorem front_add (lines : List (List Char)) (m n : Nat) :
    front lines (m + n) = front lines m ++ front (lines.drop m) n := by
  rw [front, List.take_add, List.flatten_append]
  rfl

/-- `front lines n` and the text of the other lines make up the text of all `lines`. -/
theorem front_append_flatten (lines : List (List Char)) (n : Nat) :
    front lines n ++ (lines.drop n).flatten = lines.flatten := by
  rw [front, ← List.flatten_append, List.take_append_drop]

/-- A character of line `k` is in `front lines n` for every `n` beyond `k`. -/
theorem mem_front_of_line {k n : Nat} {line : List Char} {c : Char}
    (hline : lines[k]? = some line) (hk : k < n) (hc : c ∈ line) : c ∈ front lines n := by
  have hmem : line ∈ lines.take n := by
    refine List.mem_of_getElem? (i := k) ?_
    rwa [List.getElem?_take_of_lt hk]
  exact List.mem_flatten.mpr ⟨line, hmem, hc⟩

/-- What is in `front lines n` is in the text of all `lines`. -/
theorem mem_flatten_of_front {n : Nat} {c : Char} (h : c ∈ front lines n) : c ∈ lines.flatten := by
  rw [← front_append_flatten lines n]
  exact List.mem_append_left _ h

/-! ### Where the search ends -/

/-- The search goes on after the line of index `n`: a brace was opened and some are still open, or
none was opened and the line does not end the declaration. Both are told by
`front lines (n + 1)`. -/
structure GoesOn (lines : List (List Char)) (n : Nat) : Prop where
  /-- Once a brace was opened, more are opened than closed. -/
  deep : '\x7b' ∈ front lines (n + 1) → 0 < braceBalance (front lines (n + 1))
  /-- Before that, the line does not end in a semicolon. -/
  unended : '\x7b' ∉ front lines (n + 1) → ∀ line, lines[n]? = some line →
    endsInSemicolon line = false

/-- The search does not go on where a brace was opened and as many are closed (`hdepth`). -/
theorem not_goesOn_of_closed {n : Nat} (hopened : '\x7b' ∈ front lines (n + 1))
    (hdepth : braceBalance (front lines (n + 1)) ≤ 0) : ¬ GoesOn lines n :=
  fun h => Int.not_lt.mpr hdepth (h.deep hopened)

/-- `GoesOn` does not hold where no brace was opened up to line `n` (`hunopened`) and that line ends
in a semicolon: a declaration without a body ends there. -/
theorem not_goesOn_of_semicolon {n : Nat} {line : List Char} (hline : lines[n]? = some line)
    (hunopened : '\x7b' ∉ front lines (n + 1)) (hends : endsInSemicolon line = true) :
    ¬ GoesOn lines n :=
  fun h => Bool.noConfusion (hends.symm.trans (h.unended hunopened line hline))

/-- The ways in which the search for the end of a span can go over `lines`, with the number of lines
up to the end and whether there is a body. In each of them the search has gone on (`GoesOn`) at all
lines before. -/
inductive BracesEnd (lines : List (List Char)) : Nat × Bool → Prop where
  /-- A brace was opened, and no more are open than at the start. -/
  | closed (n : Nat) (hn : n < lines.length) (hopened : '\x7b' ∈ front lines (n + 1))
      (hdepth : braceBalance (front lines (n + 1)) ≤ 0) (hbefore : ∀ k < n, GoesOn lines k) :
      BracesEnd lines (n + 1, true)
  /-- A semicolon ends the declaration before any brace. -/
  | bodiless (n : Nat) (line : List Char) (hline : lines[n]? = some line)
      (hunopened : '\x7b' ∉ front lines (n + 1)) (hends : endsInSemicolon line = true)
      (hbefore : ∀ k < n, GoesOn lines k) : BracesEnd lines (n + 1, false)
  /-- The file ends first. -/
  | unclosed (hall : ∀ k < lines.length, GoesOn lines k) : BracesEnd lines (lines.length, true)

/-- After the lines `seen` have been passed, with the search going on at each of them (`hbefore`),
it goes on from their depth to one of the ends of `BracesEnd`. -/
theorem bracesFrom_ends (seen rest : List (List Char))
    (hbefore : ∀ k < seen.length, GoesOn (seen ++ rest) k) :
    BracesEnd (seen ++ rest) (bracesFrom (braceBalance seen.flatten)
      (seen.flatten.contains '\x7b') seen.length rest) := by
  -- By induction on the lines to come; those passed are the state of the search.
  induction rest generalizing seen with
  | nil =>
    have hall : ∀ k < (seen ++ []).length, GoesOn (seen ++ []) k := by simpa using hbefore
    have hend := BracesEnd.unclosed hall
    rwa [List.append_nil] at hend ⊢
  | cons line rest ih =>
    have hsplit : seen ++ line :: rest = seen ++ [line] ++ rest := by simp
    have hflatten : (seen ++ [line]).flatten = seen.flatten ++ line := by simp
    have hfront : front (seen ++ line :: rest) (seen.length + 1) = seen.flatten ++ line := by
      rw [front, hsplit, List.take_left' (by simp), hflatten]
    have hline : (seen ++ line :: rest)[seen.length]? = some line := by simp
    have hlength : seen.length < (seen ++ line :: rest).length := by simp
    have hcontains : (seen.flatten.contains '\x7b' || line.contains '\x7b')
        = (seen.flatten ++ line).contains '\x7b' := by simp
    have hnext := ih (seen ++ [line])
    rw [hflatten, ← hsplit, List.length_append, List.length_singleton] at hnext
    -- The state of the search after the line is that of the lines `seen ++ [line]`.
    rw [bracesFrom, hcontains, ← braceBalance_append]
    rw [← hfront] at hnext ⊢
    simp only [Bool.and_eq_true, decide_eq_true_eq, Bool.not_eq_true', List.contains_eq_mem,
      decide_eq_false_iff_not] at hnext ⊢
    split
    · rename_i hclosed
      exact .closed _ hlength hclosed.1 hclosed.2 hbefore
    · rename_i hdeep
      split
      · rename_i hended
        exact .bodiless _ line hline hended.1 hended.2 hbefore
      · rename_i hunended
        refine hnext fun k hk => ?_
        rcases Nat.lt_succ_iff_lt_or_eq.mp hk with hk | rfl
        · exact hbefore k hk
        · refine ⟨fun hopened => Int.lt_of_not_ge fun hle => hdeep ⟨hopened, hle⟩, ?_⟩
          intro hunopened line' hline'
          obtain rfl : line = line' := Option.some.inj (hline.symm.trans hline')
          exact Bool.eq_false_iff.mpr fun hends => hunended ⟨hunopened, hends⟩

namespace BracesEnd

variable {found : Nat × Bool}

/-- The search ends within the `lines`. -/
theorem stop_le_length (h : BracesEnd lines found) : found.1 ≤ lines.length := by
  cases h with
  | closed n hn => exact hn
  | bodiless n line hline => exact (List.getElem?_eq_some_iff.mp hline).1
  | unclosed => exact Nat.le_refl _

/-- The search has gone on (`GoesOn`) after every line before the last one of the span. -/
theorem goesOn_of_lt (h : BracesEnd lines found) {k : Nat} (hk : k + 1 < found.1) :
    GoesOn lines k := by
  cases h with
  | closed n _ _ _ hbefore => exact hbefore k (Nat.lt_of_succ_lt_succ hk)
  | bodiless n _ _ _ _ hbefore => exact hbefore k (Nat.lt_of_succ_lt_succ hk)
  | unclosed hall => exact hall k (Nat.lt_of_succ_lt hk)

/-- A line `k` after which the search does not go on is the last one of the span, if it comes so
far. -/
theorem stop_le_of_not_goesOn (h : BracesEnd lines found) {k : Nat} (hk : ¬ GoesOn lines k) :
    found.1 ≤ k + 1 :=
  Nat.le_of_not_lt fun hlt => hk (h.goesOn_of_lt hlt)

end BracesEnd

/-- The span that `findSpan .braces` gives for line `i` is where the search over the lines from `i`
on ends, in one of the ways of `BracesEnd`. -/
theorem findSpan_braces (lines : List (List Char)) (i : Nat) :
    ∃ found, BracesEnd (lines.drop i) found ∧
      findSpan .braces lines i = ⟨i, i + found.1, found.2⟩ := by
  refine ⟨bracesFrom 0 false 0 (lines.drop i), ?_, ?_⟩
  · exact bracesFrom_ends [] (lines.drop i) fun k hk => absurd hk (Nat.not_lt_zero k)
  · unfold findSpan
    cases lines.drop i <;> rfl

/-! ### Nested spans -/

/-- No closing brace of a text stands before its first opening one. Without this the count of a
search may be below zero when its first brace is opened. -/
def OpensFirst (text : List Char) : Prop :=
  '\x7b' ∈ text → '\x7d' ∉ text.takeWhile (· != '\x7b')

instance (text : List Char) : Decidable (OpensFirst text) := inferInstanceAs (Decidable (_ → _))

/-- In a text that `OpensFirst`, no brace is closed as long as none is opened (`hn`), so the balance
is zero. Without `hopened` the text might have closing braces only. -/
theorem braceBalance_front_eq_zero (hfirst : OpensFirst lines.flatten)
    (hopened : '\x7b' ∈ lines.flatten) {n : Nat} (hn : '\x7b' ∉ front lines n) :
    braceBalance (front lines n) = 0 := by
  have hall : ∀ c ∈ front lines n, (c != '\x7b') = true := by
    intro c hc
    exact bne_iff_ne.mpr fun heq => hn (heq ▸ hc)
  have hclosing : '\x7d' ∉ front lines n := by
    intro hc
    refine hfirst hopened ?_
    rw [← front_append_flatten lines n, List.takeWhile_append_of_pos hall]
    exact List.mem_append_left _ hc
  rw [braceBalance, List.count_eq_zero.mpr hn, List.count_eq_zero.mpr hclosing]
  rfl

/-- In a text that `OpensFirst`, no more braces are closed than opened while the search goes on
(`hbefore`): it goes on only where the balance is positive or no brace is opened yet. -/
theorem braceBalance_front_nonneg (hfirst : OpensFirst lines.flatten)
    (hopened : '\x7b' ∈ lines.flatten) {n : Nat} (hbefore : ∀ k < n, GoesOn lines k) :
    0 ≤ braceBalance (front lines n) := by
  by_cases hn : '\x7b' ∈ front lines n
  · cases n with
    | zero => cases hn
    | succ k => exact Int.le_of_lt ((hbefore k (Nat.lt_succ_self k)).deep hn)
  · exact Int.le_of_eq (braceBalance_front_eq_zero hfirst hopened hn).symm

/-- **Where an inner search ends.** Of two searches the second starts at a line `d` that the first
has passed (`hd`). If it can end at all before the end of the first, which is what `hend` says, it
does. -/
theorem BracesEnd.nested {outer inner : Nat × Bool} {d : Nat} (houter : BracesEnd lines outer)
    (hinner : BracesEnd (lines.drop d) inner) (hd : d < outer.1)
    (hfirst : OpensFirst lines.flatten)
    (hend : ∃ k line, d ≤ k ∧ k < outer.1 ∧ lines[k]? = some line ∧
      ('\x7b' ∈ line ∨ endsInSemicolon line = true)) : d + inner.1 ≤ outer.1 := by
  cases houter with
  | unclosed hall =>
    have hle := hinner.stop_le_length
    rw [List.length_drop] at hle
    simp only at hd ⊢
    omega
  | bodiless n line hline hunopened hends hbefore =>
    -- The same semicolon ends both.
    obtain ⟨e, rfl⟩ := Nat.exists_eq_add_of_le (Nat.le_of_lt_succ hd)
    rw [Nat.add_assoc, front_add] at hunopened
    rw [← List.getElem?_drop] at hline
    have hstop : ¬ GoesOn (lines.drop d) e :=
      not_goesOn_of_semicolon hline (fun hc => hunopened (List.mem_append_right _ hc)) hends
    have hle := hinner.stop_le_of_not_goesOn hstop
    simp only
    omega
  | closed n hn hopened hdepth hbefore =>
    obtain ⟨e, rfl⟩ := Nat.exists_eq_add_of_le (Nat.le_of_lt_succ hd)
    by_cases hlater : '\x7b' ∈ front (lines.drop d) (e + 1)
    · -- The inner count starts no lower than the outer one stands, so it comes down to zero too.
      have hstart := braceBalance_front_nonneg hfirst (mem_flatten_of_front hopened)
        fun k hk => hbefore k (Nat.lt_add_right e hk)
      rw [Nat.add_assoc, front_add, braceBalance_append] at hdepth
      have hstop : ¬ GoesOn (lines.drop d) e := not_goesOn_of_closed hlater (by omega)
      have hle := hinner.stop_le_of_not_goesOn hstop
      simp only
      omega
    · -- Without a brace to open, the line that is given ends the inner search by its semicolon.
      obtain ⟨k, line, hdk, hk, hline, hcause⟩ := hend
      obtain ⟨m, rfl⟩ := Nat.exists_eq_add_of_le hdk
      have hline' : (lines.drop d)[m]? = some line := by rwa [List.getElem?_drop]
      have hm : m < e + 1 := by
        simp only at hk
        omega
      have hends : endsInSemicolon line = true :=
        hcause.resolve_left fun hc => hlater (mem_front_of_line hline' hm hc)
      have hunopened : '\x7b' ∉ front (lines.drop d) (m + 1) := by
        intro hc
        obtain ⟨r, hr⟩ := Nat.exists_eq_add_of_le (Nat.succ_le_of_lt hm)
        rw [hr, front_add] at hlater
        exact hlater (List.mem_append_left _ hc)
      have hle := hinner.stop_le_of_not_goesOn (not_goesOn_of_semicolon hline' hunopened hends)
      simp only
      omega

/-- **Brace spans nest.** Let line `j` be inside of the span of line `i` (`hcovered`), let no
closing brace stand before the first opening one from line `i` on (`hfirst`), and let some line from
`j` to the end of that span have an opening brace or end in a semicolon (`hend`). Then the span of
line `j` ends no later. So of two functions that a language with braces reports for these lines, the
inner one is no more complex. -/
theorem braces_nested {i j : Nat} (hij : i < j) (hcovered : j < (findSpan .braces lines i).stop)
    (hfirst : OpensFirst (lines.drop i).flatten)
    (hend : ∃ k line, j ≤ k ∧ k < (findSpan .braces lines i).stop ∧ lines[k]? = some line ∧
      ('\x7b' ∈ line ∨ endsInSemicolon line = true)) :
    (findSpan .braces lines j).stop ≤ (findSpan .braces lines i).stop ∧
    ∀ p : Profile, p.style = .braces → ∀ file, ∀ outer ∈ p.measures file lines,
      ∀ inner ∈ p.measures file lines, outer.line = i + 1 → inner.line = j + 1 →
        inner.complexity ≤ outer.complexity := by
  obtain ⟨found, houter, hspan⟩ := findSpan_braces lines i
  obtain ⟨found', hinner, hspan'⟩ := findSpan_braces lines j
  obtain ⟨d, rfl⟩ := Nat.exists_eq_add_of_le (Nat.le_of_lt hij)
  -- Both searches are over the lines from their declarations on, the inner one `d` lines further
  -- down.
  have hwithin : (findSpan .braces lines (i + d)).Within (findSpan .braces lines i) := by
    rw [hspan] at hcovered hend ⊢
    rw [hspan']
    rw [← List.drop_drop] at hinner
    obtain ⟨k, line, hdk, hk, hline, hcause⟩ := hend
    obtain ⟨m, rfl⟩ := Nat.exists_eq_add_of_le hdk
    have hnested := houter.nested hinner (Nat.lt_of_add_lt_add_left hcovered) hfirst
      ⟨d + m, line, Nat.le_add_right d m, by simp only at hk; omega,
        by rwa [List.getElem?_drop, ← Nat.add_assoc], hcause⟩
    exact ⟨Nat.le_add_right i d, by simp only; omega⟩
  refine ⟨hwithin.stop_le, ?_⟩
  intro p hstyle file outer houter inner hinner hi hj
  refine p.complexity_le_of_within houter hinner hi hj ?_
  rwa [hstyle]

end CodeHealth.Outline

namespace CodeHealth.Sample

open Outline

/-- A function inside of another one, in the style of `rust`. -/
def nestedItems : List (List Char) :=
  ["fn a() \x7b", " fn b() \x7b", "  c();", " \x7d", "\x7d"].map String.toList

/-- The first line of `nestedItems` declares the function `a`. -/
theorem rust_declares_outer : rust.declaredName? "fn a() \x7b".toList = some ['a'] := by
  have hname : (rust.signature.find? "fn a() \x7b".toList).bind rust.functionName
      = some ['a'] := by
    cbv
  exact rust.declaredName?_eq_some (by decide +kernel) hname (by decide)

/-- The second line of `nestedItems` declares the function `b`. -/
theorem rust_declares_inner : rust.declaredName? " fn b() \x7b".toList = some ['b'] := by
  have hname : (rust.signature.find? " fn b() \x7b".toList).bind rust.functionName
      = some ['b'] := by
    cbv
  exact rust.declaredName?_eq_some (by decide +kernel) hname (by decide)

/-- The inner function of `nestedItems` ends inside of the outer one and is no more complex, as
`braces_nested` says. -/
theorem nestedItems_nested :
    findSpan .braces nestedItems 0 = ⟨0, 5, true⟩ ∧ findSpan .braces nestedItems 1 = ⟨1, 4, true⟩ ∧
      (findSpan .braces nestedItems 1).stop ≤ (findSpan .braces nestedItems 0).stop ∧
      (rust.measureOf "a.rs" nestedItems 1 ['b']).complexity
        ≤ (rust.measureOf "a.rs" nestedItems 0 ['a']).complexity := by
  have houter : findSpan .braces nestedItems 0 = ⟨0, 5, true⟩ := by decide +kernel
  have hinner : findSpan .braces nestedItems 1 = ⟨1, 4, true⟩ := by decide +kernel
  have hcovered : 1 < (findSpan .braces nestedItems 0).stop := by
    rw [houter]
    decide
  obtain ⟨hstop, hcomplexity⟩ := braces_nested Nat.zero_lt_one hcovered (by decide)
    ⟨1, " fn b() \x7b".toList, Nat.le_refl 1, hcovered, rfl, .inl (by decide)⟩
  refine ⟨houter, hinner, hstop, hcomplexity rust rfl "a.rs" _ ?_ _ ?_ rfl rfl⟩
  · exact rust.mem_measures_iff.mpr
      ⟨0, _, ⟨⟨_, rfl, rust_declares_outer⟩, .inl (congrArg Span.hasBody houter)⟩, rfl⟩
  · exact rust.mem_measures_iff.mpr
      ⟨1, _, ⟨⟨_, rfl, rust_declares_inner⟩, .inl (congrArg Span.hasBody hinner)⟩, rfl⟩

end CodeHealth.Sample
