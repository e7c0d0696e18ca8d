import CodeHealth.Analysis

/-!
# What every measure says

Whatever the language, the measures of some sources are those of each source in turn
(`measures_eq_flatMap`), and a measure names the source it comes from and is at least one
(`mem_measures`). Languages that are read line by line have at most one function a line
(`length_measures_le`), and their numbers are bounded by the number of lines (`records_fit`).
-/

namespace CodeHealth

/-! ### Line by line -/

namespace Outline.Profile

variable (p : Profile) {file : String} {f : FunctionMeasure}

/-- What `measureAt?` gives is made of the `file`, the `line` and the decisions in a body that lies
among the `lines`. -/
theorem exists_body_of_measureAt? {line : Nat} {lines : List (List Char)}
    (h : p.measureAt? file line lines = some f) :
    ∃ name body, body.length ≤ lines.length ∧ f = ⟨file, name, line, 1 + p.decisionsOn body⟩ := by
  simp only [measureAt?, Option.bind_eq_bind, Option.bind_eq_some_iff] at h
  obtain ⟨first, -, name, -, h⟩ := h
  split at h
  · obtain rfl := Option.some.inj h
    refine ⟨_, _, ?_, rfl⟩
    rw [List.length_take, List.length_drop]
    omega
  · cases h

/-- What `measureAt?` gives names the `file` and the `line` it was asked for, and counts one for the
function itself. -/
theorem measureAt?_eq_some {line : Nat} {lines : List (List Char)}
    (h : p.measureAt? file line lines = some f) :
    f.file = file ∧ f.line = line ∧ 1 ≤ f.complexity := by
  obtain ⟨name, body, -, rfl⟩ := p.exists_body_of_measureAt? h
  exact ⟨rfl, rfl, Nat.le_add_right 1 _⟩

/-- Every measure that `measuresFrom` gives names the `file` and has a complexity of at least
one. -/
theorem mem_measuresFrom {line : Nat} {lines : List (List Char)}
    (h : f ∈ p.measuresFrom file line lines) : f.file = file ∧ 1 ≤ f.complexity := by
  induction lines generalizing line with
  | nil => cases h
  | cons current rest ih =>
    rw [measuresFrom, List.mem_append, Option.mem_toList] at h
    rcases h with h | h
    · obtain ⟨hfile, _, hone⟩ := p.measureAt?_eq_some h
      exact ⟨hfile, hone⟩
    · exact ih h

/-- Each of the `lines` declares at most one function. -/
theorem length_measuresFrom_le (line : Nat) (lines : List (List Char)) :
    (p.measuresFrom file line lines).length ≤ lines.length := by
  induction lines generalizing line with
  | nil => exact Nat.le_refl 0
  | cons current rest ih =>
    have hone : (p.measureAt? file line (current :: rest)).toList.length ≤ 1 := by
      cases p.measureAt? file line (current :: rest) <;> simp
    have hrest := ih (line + 1)
    rw [measuresFrom, List.length_append, List.length_cons]
    omega

/-- A `source` has at most as many `functionMeasures` as lines. -/
theorem length_functionMeasures_le (source : List Char) :
    (p.functionMeasures file source).length ≤ (Text.lines source).length :=
  p.length_measuresFrom_le 1 (Text.lines source)

/-! ### Bounds -/

/-- A line adds at most one for each of the `decisions` of the profile. -/
theorem lineDecisions_le (line : List Char) : p.lineDecisions line ≤ p.decisions.length := by
  unfold lineDecisions
  split
  · exact Nat.zero_le _
  · exact List.countP_le_length

/-- So `lines` add at most `p.decisions.length` each. -/
theorem decisionsOn_le (lines : List (List Char)) :
    p.decisionsOn lines ≤ p.decisions.length * lines.length := by
  induction lines with
  | nil => exact Nat.zero_le _
  | cons line rest ih =>
    have hline := p.lineDecisions_le line
    have hcons : p.decisionsOn (line :: rest) = p.lineDecisions line + p.decisionsOn rest := rfl
    rw [hcons, List.length_cons, Nat.mul_succ]
    omega

/-- The complexity of the function on the first of `lines` is bounded by the number of `lines`, as
its body lies among them. -/
theorem complexity_le_of_measureAt? {line : Nat} {lines : List (List Char)}
    (h : p.measureAt? file line lines = some f) :
    f.complexity ≤ 1 + p.decisions.length * lines.length := by
  obtain ⟨name, body, hbody, rfl⟩ := p.exists_body_of_measureAt? h
  refine Nat.add_le_add_left ?_ 1
  calc p.decisionsOn body ≤ p.decisions.length * body.length := p.decisionsOn_le body
    _ ≤ p.decisions.length * lines.length := Nat.mul_le_mul_left _ hbody

/-- A measure of `lines` that are numbered from `line` on has the number of one of them, and its
complexity is bounded by how many there are. -/
theorem bounds_of_mem_measuresFrom {line : Nat} {lines : List (List Char)}
    (h : f ∈ p.measuresFrom file line lines) : f.line < line + lines.length ∧
      f.complexity ≤ 1 + p.decisions.length * lines.length := by
  induction lines generalizing line with
  | nil => cases h
  | cons current rest ih =>
    rw [measuresFrom, List.mem_append, Option.mem_toList] at h
    rcases h with h | h
    · rw [(p.measureAt?_eq_some h).2.1]
      exact ⟨Nat.lt_add_of_pos_right (Nat.succ_pos _), p.complexity_le_of_measureAt? h⟩
    · obtain ⟨hline, hcomplexity⟩ := ih h
      rw [List.length_cons, Nat.mul_succ]
      omega

/-- An import on `lines` that are numbered from `line` on has the number of one of them. -/
theorem line_lt_of_mem_importsFrom {line : Nat} {lines : List (List Char)} {i : Boundary.Import}
    (h : i ∈ p.importsFrom line lines) : i.line < line + lines.length := by
  induction lines generalizing line with
  | nil => cases h
  | cons current rest ih =>
    rw [importsFrom, List.mem_append] at h
    rw [List.length_cons]
    rcases h with h | h
    · have hline : i.line = line := by
        simp only [importsOn, List.mem_filterMap, Option.bind_eq_bind, Option.bind_eq_some_iff] at h
        obtain ⟨_, _, _, _, _, _, hi⟩ := h
        exact (Option.some.inj hi) ▸ rfl
      omega
    · have hrest := ih h
      omega

end Outline.Profile

/-! ### Go -/

namespace Go

/-- A function in a Go tree has a `complexity` of at least one. -/
theorem Tree.one_le_complexity (t : Tree) : 1 ≤ t.complexity := by
  unfold complexity
  cases t.body? with
  | some body => exact Nat.le_add_right 1 _
  | none => exact Nat.le_refl 1

/-- Every measure of a Go `source` names its `file` and has a complexity of at least one. -/
theorem mem_functionMeasures {file : String} {source : List Char} {f : FunctionMeasure}
    (h : f ∈ functionMeasures file source) : f.file = file ∧ 1 ≤ f.complexity := by
  unfold functionMeasures at h
  split at h
  · obtain ⟨t, _, rfl⟩ := List.mem_map.mp h
    exact ⟨rfl, t.one_le_complexity⟩
  · cases h

end Go

/-! ### Every language -/

namespace Language

variable (language : Language)

/-- The `measures` of some sources are those of each of them, in order. -/
theorem measures_eq_flatMap (sources : List Source) :
    language.measures sources = sources.flatMap fun s => language.measures [s] := by
  simp only [measures, List.flatMap_cons, List.flatMap_nil, List.append_nil]

/-- Every measure of a source `s` has its label and a complexity of at least one. -/
theorem mem_measures_singleton {s : Source} {f : FunctionMeasure}
    (h : f ∈ language.measures [s]) : f.file = s.label ∧ 1 ≤ f.complexity := by
  simp only [measures, List.flatMap_cons, List.flatMap_nil, List.append_nil] at h
  split at h
  · exact Outline.Profile.mem_measuresFrom _ h
  · exact Go.mem_functionMeasures h

/-- Every measure of some `sources` has the label of one of them and a complexity of at least
one. -/
theorem mem_measures {sources : List Source} {f : FunctionMeasure}
    (h : f ∈ language.measures sources) : (∃ s ∈ sources, f.file = s.label) ∧ 1 ≤ f.complexity := by
  rw [measures_eq_flatMap, List.mem_flatMap] at h
  obtain ⟨s, hs, hf⟩ := h
  obtain ⟨hfile, hone⟩ := language.mem_measures_singleton hf
  exact ⟨⟨s, hs, hfile⟩, hone⟩

/-- A language that is read line by line (`profile?`) has at most as many functions as its sources
have lines. -/
theorem length_measures_le {language : Language} {profile : Outline.Profile}
    (h : language.profile? = some profile) (sources : List Source) :
    (language.measures sources).length ≤ (sources.flatMap fun s => Text.lines s.text).length := by
  induction sources with
  | nil => exact Nat.le_refl 0
  | cons s rest ih =>
    rw [measures, h] at ih ⊢
    rw [List.flatMap_cons, List.flatMap_cons, List.length_append, List.length_append]
    exact Nat.add_le_add (profile.length_functionMeasures_le s.text) ih

/-- No profile has more than 15 patterns for `decisions`. -/
theorem length_decisions_le {language : Language} {profile : Outline.Profile}
    (h : language.profile? = some profile) : profile.decisions.length ≤ 15 := by
  cases language with
  | go => cases h
  | _ =>
    obtain rfl := Option.some.inj h
    decide

/-- **Measures and imports have room in 32 bits.** In a language that is read line by line, sources
of less than `twoTo 28` lines give functions and imports whose `line` and `complexity` are below
`twoTo 32`, so that it makes no difference to them how wide a number is kept beyond that. -/
theorem records_fit {language : Language} {profile : Outline.Profile}
    (h : language.profile? = some profile) {s : Source}
    (hroom : (Text.lines s.text).length < twoTo 28) :
    (∀ f ∈ language.measures [s], f.line < twoTo 32 ∧ f.complexity < twoTo 32) ∧
      ∀ i ∈ language.imports s, i.line < twoTo 32 := by
  have hpowers : twoTo 32 = 16 * twoTo 28 := by decide
  constructor
  · intro f hf
    rw [measures, h, List.flatMap_singleton] at hf
    obtain ⟨hline, hcomplexity⟩ := profile.bounds_of_mem_measuresFrom hf
    have hdecisions := Nat.mul_le_mul_right (Text.lines s.text).length (length_decisions_le h)
    omega
  · intro i hi
    rw [imports, h] at hi
    have hline := profile.line_lt_of_mem_importsFrom hi
    omega

end Language

end CodeHealth
