import CodeHealth.Proofs.Results

/-!
# Replacing the functions of files again

A ranking is known by two things: complexities fall, and functions of one complexity stand in the
order given. So it makes no difference whether functions are left out before or after ranking, nor
whether a part of them was ranked before. Of a file whose functions are replaced again and again,
only the last time counts, and different files are replaced independently of each other.

* `Results.eq_of_ofComplexity` — ranked functions are known by those of each complexity;
* `Results.filter_ranked_eq`, `Results.ranked_ranked_append` — ranking fewer functions, and ranking
  again;
* `Results.countIn` — how many functions a file has, and what replacing files does to it;
* `Results.replaceFile_last_wins` — a file that is replaced twice, and two files in either order.
-/

namespace CodeHealth

/-- The first of `Ranked` functions is as complex as any of them. -/
theorem Ranked.complexity_le_head {functions : List FunctionMeasure} {f g : FunctionMeasure}
    (h : Ranked (f :: functions)) (hg : g ∈ f :: functions) : g.complexity ≤ f.complexity := by
  rcases List.mem_cons.mp hg with rfl | hg
  · exact Nat.le_refl _
  · exact List.rel_of_pairwise_cons h hg

namespace Results

variable {functions others : List FunctionMeasure}

/-! ### Functions of one complexity -/

/-- The functions of the complexity `c`, in order. -/
def ofComplexity (c : Nat) (functions : List FunctionMeasure) : List FunctionMeasure :=
  functions.filter fun f => f.complexity == c

/-- Membership in `ofComplexity`, by both of its conditions. -/
theorem mem_ofComplexity {c : Nat} {f : FunctionMeasure} :
    f ∈ ofComplexity c functions ↔ f ∈ functions ∧ f.complexity = c := by
  rw [ofComplexity, List.mem_filter, beq_iff_eq]

/-- `ranked` keeps the order of equally complex functions. -/
theorem ofComplexity_ranked (c : Nat) (functions : List FunctionMeasure) :
    ofComplexity c (ranked functions) = ofComplexity c functions := by
  refine filter_ranked _ (List.pairwise_of_forall_mem_list fun f hf g hg => ?_)
  have hcf : f.complexity = c := (mem_ofComplexity.mp hf).2
  have hcg : g.complexity = c := (mem_ofComplexity.mp hg).2
  exact Nat.le_of_eq (hcg.trans hcf.symm)

theorem ofComplexity_filter (c : Nat) (kind : FunctionMeasure → Bool)
    (functions : List FunctionMeasure) :
    ofComplexity c (functions.filter kind) = (ofComplexity c functions).filter kind := by
  simp only [ofComplexity, List.filter_filter, Bool.and_comm]

/-- Two lists with the same functions `ofComplexity` have the same members. -/
theorem mem_iff_of_ofComplexity (hsame : ∀ c, ofComplexity c functions = ofComplexity c others)
    (f : FunctionMeasure) : f ∈ functions ↔ f ∈ others := by
  have hf : f ∈ ofComplexity f.complexity functions ↔ f ∈ ofComplexity f.complexity others := by
    rw [hsame]
  simpa only [mem_ofComplexity, and_true] using hf

/-- **Ranked functions are known by those of each complexity**: two `Ranked` lists with the same
`ofComplexity` are the same, by induction on both. -/
theorem eq_of_ofComplexity (h : Ranked functions) (h' : Ranked others)
    (hsame : ∀ c, ofComplexity c functions = ofComplexity c others) : functions = others := by
  have hmem := mem_iff_of_ofComplexity hsame
  induction functions generalizing others with
  | nil =>
    symm
    rw [List.eq_nil_iff_forall_not_mem]
    intro f hf
    exact List.not_mem_nil ((hmem f).mpr hf)
  | cons f functions ih =>
    cases others with
    | nil => exact absurd ((hmem f).mp List.mem_cons_self) List.not_mem_nil
    | cons g others =>
      -- The first functions are equally complex, so each is the first of the same complexity.
      have hle : f.complexity ≤ g.complexity :=
        h'.complexity_le_head ((hmem f).mp List.mem_cons_self)
      have hge : g.complexity ≤ f.complexity :=
        h.complexity_le_head ((hmem g).mpr List.mem_cons_self)
      have heq : g.complexity = f.complexity := Nat.le_antisymm hge hle
      have hfirst := hsame f.complexity
      simp only [ofComplexity, List.filter_cons, heq, beq_self_eq_true, if_true,
        List.cons.injEq] at hfirst
      obtain ⟨rfl, -⟩ := hfirst
      have hrest : ∀ c, ofComplexity c functions = ofComplexity c others := by
        intro c
        have hc := hsame c
        simp only [ofComplexity, List.filter_cons] at hc
        split at hc
        · exact (List.cons.inj hc).2
        · exact hc
      rw [ih h.of_cons h'.of_cons hrest (mem_iff_of_ofComplexity hrest)]

/-- Rankings are the same when the functions of each complexity are (`hsame`). -/
theorem ranked_congr (hsame : ∀ c, ofComplexity c functions = ofComplexity c others) :
    ranked functions = ranked others := by
  refine eq_of_ofComplexity (ranked_sorted functions) (ranked_sorted others) fun c => ?_
  rw [ofComplexity_ranked, ofComplexity_ranked, hsame]

/-! ### Ranking again -/

/-- Functions may be left out before or after they are `ranked`. -/
theorem filter_ranked_eq (kind : FunctionMeasure → Bool) (functions : List FunctionMeasure) :
    (ranked functions).filter kind = ranked (functions.filter kind) := by
  refine eq_of_ofComplexity ((ranked_sorted functions).filter kind)
    (ranked_sorted (functions.filter kind)) fun c => ?_
  calc ofComplexity c ((ranked functions).filter kind)
      = (ofComplexity c functions).filter kind := by rw [ofComplexity_filter, ofComplexity_ranked]
    _ = ofComplexity c (functions.filter kind) := (ofComplexity_filter c kind functions).symm
    _ = ofComplexity c (ranked (functions.filter kind)) := (ofComplexity_ranked c _).symm

/-- A part that was `ranked` before makes no difference when all are ranked. -/
theorem ranked_ranked_append (functions others : List FunctionMeasure) :
    ranked (ranked functions ++ others) = ranked (functions ++ others) := by
  refine ranked_congr fun c => ?_
  have hpart := ofComplexity_ranked c functions
  unfold ofComplexity at hpart ⊢
  rw [List.filter_append, List.filter_append, hpart]

/-! ### The functions of each file -/

variable {r again : Results} {file other : String}

/-- What is found in one `file`: functions of this file alone, with their number. -/
structure IsPartial (file : String) (again : Results) : Prop where
  /-- Every function is one of the file. -/
  labelled : ∀ f ∈ again.functions, f.file = file
  /-- The number of functions is that of the list. -/
  counted : again.functionCount = again.functions.length

/-- How many functions of the results `r` are in a `file`. -/
def countIn (r : Results) (file : String) : Nat := r.functions.countP fun f => f.file == file

/-- The functions of a `file` and those of all others are all functions. -/
theorem countIn_add_length (r : Results) (file : String) :
    r.countIn file + (r.functions.filter fun f => f.file != file).length = r.functions.length := by
  rw [countIn, ← List.countP_eq_length_filter,
    List.length_eq_countP_add_countP fun f => f.file == file]
  exact congrArg _ (List.countP_congr fun f _ => by simp)

/-- `replaceFile` lets the number of functions drop by those of the file and grow by the new ones,
in 64 bits. -/
theorem functionCount_replaceFile_eq (r : Results) (file : String) (again : Results) :
    (r.replaceFile file again).functionCount
      = (r.functionCount - r.countIn file + again.functionCount) % twoTo 64 := by
  have hlength := r.countIn_add_length file
  have hremoved : r.functions.length - (r.functions.filter fun f => f.file != file).length
      = r.countIn file := by omega
  rw [← hremoved]
  rfl

/-- After `replaceFile` a file `other` has those of its functions that are not of `file`, and those
that are found `again`. -/
theorem countIn_replaceFile (r : Results) (file other : String) (again : Results) :
    (r.replaceFile file again).countIn other
      = (r.functions.filter fun f => f.file != file).countP (fun f => f.file == other)
        + again.countIn other := by
  rw [countIn, replaceFile_functions, (ranked_perm _).countP_eq, List.countP_append]
  rfl

/-- A replaced file has the new functions, if these are of this file alone (`IsPartial`). -/
theorem countIn_replaceFile_same (h : IsPartial file again) :
    (r.replaceFile file again).countIn file = again.functions.length := by
  have hkept : (r.functions.filter fun f => f.file != file).countP (fun f => f.file == file)
      = 0 := by
    rw [List.countP_eq_zero]
    intro f hf
    simpa using (List.mem_filter.mp hf).2
  have hnew : again.countIn file = again.functions.length :=
    List.countP_eq_length.mpr fun f hf => beq_iff_eq.mpr (h.labelled f hf)
  rw [countIn_replaceFile, hkept, hnew, Nat.zero_add]

/-- Every file but the replaced one has as many functions as before (`countIn`). -/
theorem countIn_replaceFile_other (h : IsPartial file again) (hne : other ≠ file) :
    (r.replaceFile file again).countIn other = r.countIn other := by
  have hkept : (r.functions.filter fun f => f.file != file).countP (fun f => f.file == other)
      = r.countIn other := by
    rw [List.countP_filter, countIn]
    refine List.countP_congr fun f _ => ?_
    by_cases hf : f.file = other
    · simp [hf, hne]
    · simp [hf]
  have hnew : again.countIn other = 0 := by
    rw [countIn, List.countP_eq_zero]
    intro f hf
    rw [h.labelled f hf, beq_iff_eq]
    exact fun heq => hne heq.symm
  rw [countIn_replaceFile, hkept, hnew, Nat.add_zero]

/-! ### Replacing twice -/

/-- The number of functions after `file` is replaced can be counted in 64 bits. -/
def CountFits (r : Results) (file : String) (again : Results) : Prop :=
  r.functionCount - r.countIn file + again.functionCount < twoTo 64

instance (r : Results) (file : String) (again : Results) : Decidable (r.CountFits file again) :=
  inferInstanceAs (Decidable (_ < _))

/-- The number of functions after a second replacement, when the first one `CountFits`: the number
in between has not been cut off at `twoTo 64`. -/
theorem CountFits.functionCount_twice {first : Results} (h : r.CountFits file first)
    (other : String) (second : Results) :
    ((r.replaceFile file first).replaceFile other second).functionCount
      = (r.functionCount - r.countIn file + first.functionCount
          - (r.replaceFile file first).countIn other + second.functionCount) % twoTo 64 := by
  rw [functionCount_replaceFile_eq (r.replaceFile file first), functionCount_replaceFile_eq r,
    Nat.mod_eq_of_lt h]

/-- `replaceFile` leaves all but the functions and their number, so that two results of it are the
same when these are. -/
theorem replaceFile_eq (r : Results) (file : String) (again : Results) :
    r.replaceFile file again = { r with
      functionCount := (r.replaceFile file again).functionCount
      functions := (r.replaceFile file again).functions } := rfl

/-- A file that is replaced twice has the functions of the `second` time. All functions of the
`first` time are dropped again, as they are all of this file (`hfirst`). -/
theorem replaceFile_functions_twice (r : Results) {first : Results} (hfirst : IsPartial file first)
    (second : Results) :
    ((r.replaceFile file first).replaceFile file second).functions
      = (r.replaceFile file second).functions := by
  have hgone : first.functions.filter (fun f => f.file != file) = [] := by
    rw [List.filter_eq_nil_iff]
    intro f hf
    simp [hfirst.labelled f hf]
  have hkept : (r.replaceFile file first).functions.filter (fun f => f.file != file)
      = ranked (r.functions.filter fun f => f.file != file) := by
    rw [replaceFile_functions, filter_ranked_eq, List.filter_append, List.filter_filter, hgone,
      List.append_nil]
    simp only [Bool.and_self]
  rw [replaceFile_functions, hkept, ranked_ranked_append, replaceFile_functions]

/-- Two files that are replaced one after the other by `replaceFile` have their new functions, and
all other files those they had, up to order. -/
theorem replaceFile_functions_perm (r : Results) {first second : Results}
    (hfirst : IsPartial file first) (hne : other ≠ file) :
    ((r.replaceFile file first).replaceFile other second).functions.Perm
      ((r.functions.filter fun f => f.file != other && f.file != file)
        ++ (first.functions ++ second.functions)) := by
  have hstays : first.functions.filter (fun f => f.file != other) = first.functions := by
    rw [List.filter_eq_self]
    intro f hf
    rw [hfirst.labelled f hf, bne_iff_ne]
    exact fun heq => hne heq.symm
  have hkept : (r.replaceFile file first).functions.filter (fun f => f.file != other)
      = ranked ((r.functions.filter fun f => f.file != other && f.file != file)
        ++ first.functions) := by
    rw [replaceFile_functions, filter_ranked_eq, List.filter_append, List.filter_filter, hstays]
  rw [replaceFile_functions, hkept, ranked_ranked_append, List.append_assoc]
  exact ranked_perm _

/-- After `replaceFile` the functions are `Ranked`. -/
theorem replaceFile_ranked (r : Results) (file : String) (again : Results) :
    Ranked (r.replaceFile file again).functions := ranked_sorted _

/-- **The last replacement wins.** Let `first` be found in the file `file` alone (`IsPartial`),
whatever the results `r` are and in whichever order its functions stand, and let the number of
functions stay below the limit of 64 bits when the file is replaced (`CountFits`).

* When the file is replaced by `first` and then by anything else, the first time leaves no trace:
  all fields are what the second time alone makes them, functions in the same order.
* When another file is replaced too by what is found in it alone, the order of the two does not
  matter: the number of functions is the same, so are the complexities one by one, and the functions
  up to order. Everything else is as in `r`. -/
theorem replaceFile_last_wins (r : Results) (file : String) (first : Results)
    (hfirst : IsPartial file first) (hfits : r.CountFits file first) :
    (∀ second, (r.replaceFile file first).replaceFile file second = r.replaceFile file second) ∧
    ∀ other second, other ≠ file → IsPartial other second → r.CountFits other second →
      r.countIn file + r.countIn other ≤ r.functionCount →
      let one := (r.replaceFile file first).replaceFile other second
      let two := (r.replaceFile other second).replaceFile file first
      one.functionCount = two.functionCount ∧
        one.functions.map FunctionMeasure.complexity
          = two.functions.map FunctionMeasure.complexity ∧
        one.functions.Perm two.functions ∧
        one = { r with functionCount := one.functionCount, functions := one.functions } ∧
        two = { r with functionCount := two.functionCount, functions := two.functions } := by
  refine ⟨?_, ?_⟩
  · intro second
    have hcount : ((r.replaceFile file first).replaceFile file second).functionCount
        = (r.replaceFile file second).functionCount := by
      rw [hfits.functionCount_twice, countIn_replaceFile_same hfirst, hfirst.counted,
        Nat.add_sub_cancel, functionCount_replaceFile_eq]
    rw [replaceFile_eq (r.replaceFile file first), replaceFile_functions_twice r hfirst, hcount]
    rfl
  · intro other second hne hsecond hfits' hcounted one two
    -- Both orders leave what is in neither file, and then hold the two files in either order.
    have hperm : one.functions.Perm two.functions := by
      refine (replaceFile_functions_perm r hfirst hne).trans
        (.trans ?_ (replaceFile_functions_perm r hsecond hne.symm).symm)
      simp only [Bool.and_comm]
      exact List.Perm.append_left _ List.perm_append_comm
    refine ⟨?_, ?_, hperm, rfl, rfl⟩
    · show ((r.replaceFile file first).replaceFile other second).functionCount
        = ((r.replaceFile other second).replaceFile file first).functionCount
      rw [hfits.functionCount_twice, hfits'.functionCount_twice,
        countIn_replaceFile_other hfirst hne, countIn_replaceFile_other hsecond hne.symm]
      congr 1
      omega
    · exact complexities_eq_of_perm (replaceFile_ranked _ _ _) (replaceFile_ranked _ _ _) hperm

end Results

namespace Sample

/-- Results with functions of the files `a.go` and `b.go`, which are not ranked. -/
def unranked : Results :=
  { Results.empty .go with
    functionCount := 3
    functions := [⟨"a.go", "Low", 1, 1⟩, ⟨"b.go", "Middle", 1, 4⟩, ⟨"a.go", "High", 9, 7⟩] }

/-- Results with some `functions` and their number. -/
def foundIn (functions : List FunctionMeasure) : Results :=
  { Results.empty .go with functionCount := functions.length, functions := functions }

/-- The functions of `a.go` when it is measured again. -/
def firstAgain : Results := foundIn [⟨"a.go", "New", 3, 5⟩]

/-- The functions of `b.go` when it is measured again. -/
def secondAgain : Results := foundIn [⟨"b.go", "Other", 2, 5⟩, ⟨"b.go", "Middle", 8, 4⟩]

/-- In the results `unranked` the first time leaves no trace, and two files are replaced in either
order, up to the order of equally complex functions, which does differ. -/
theorem replaced_twice_and_both :
    Results.IsPartial "a.go" firstAgain ∧ unranked.CountFits "a.go" firstAgain ∧
      (unranked.replaceFile "a.go" firstAgain).replaceFile "a.go" (foundIn [])
        = unranked.replaceFile "a.go" (foundIn []) ∧
      ((unranked.replaceFile "a.go" firstAgain).replaceFile "b.go" secondAgain).functions.Perm
        ((unranked.replaceFile "b.go" secondAgain).replaceFile "a.go" firstAgain).functions ∧
      ((unranked.replaceFile "a.go" firstAgain).replaceFile "b.go" secondAgain).functions
        ≠ ((unranked.replaceFile "b.go" secondAgain).replaceFile "a.go" firstAgain).functions := by
  have hfirst : Results.IsPartial "a.go" firstAgain := ⟨by decide, rfl⟩
  have hsecond : Results.IsPartial "b.go" secondAgain := ⟨by decide, rfl⟩
  have hfits : unranked.CountFits "a.go" firstAgain := by decide
  have hfits' : unranked.CountFits "b.go" secondAgain := by decide
  obtain ⟨hlast, hboth⟩ := Results.replaceFile_last_wins unranked "a.go" firstAgain hfirst hfits
  obtain ⟨-, -, hperm, -, -⟩ :=
    hboth "b.go" secondAgain (by decide) hsecond hfits' (by decide)
  refine ⟨hfirst, hfits, hlast (foundIn []), hperm, ?_⟩
  simp [unranked, firstAgain, secondAgain, foundIn, Results.replaceFile, Results.ranked,
    Results.empty, List.mergeSort, List.MergeSort.Internal.splitInTwo]

end Sample

end CodeHealth
