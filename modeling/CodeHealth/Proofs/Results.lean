import CodeHealth.Score

/-!
# Ranked functions and replaced files

Ranking is a stable sort by falling complexity. Replacing the functions of a file ranks all of them
again, so what is left of the others depends on stability alone.

* `ranked_perm`, `ranked_sorted`, `filter_ranked` — the same functions, the most complex first, and
  a part of them that is ranked already keeps its order;
* `complexities_eq_of_perm`, `complexityScore_congr` — complexities and their score do not depend on
  the order of equally complex functions;
* `filter_replaceFile_same`, `filter_replaceFile_other` — the functions of the replaced file are the
  new ones, and those of every other file stay as they are, in order;
* `functionCount_replaceFile` — the number of functions stays right.
-/

namespace CodeHealth

/-- The `functions` stand from the most complex one to the least. -/
def Ranked (functions : List FunctionMeasure) : Prop :=
  functions.Pairwise fun a b => b.complexity ≤ a.complexity

namespace Results

variable {functions others : List FunctionMeasure}

/-! ### Ranking -/

/-- `ranked` keeps all functions. -/
theorem ranked_perm (functions : List FunctionMeasure) : (ranked functions).Perm functions :=
  List.mergeSort_perm _ _

/-- `ranked` keeps the number of functions. -/
@[simp] theorem length_ranked (functions : List FunctionMeasure) :
    (ranked functions).length = functions.length :=
  (ranked_perm functions).length_eq

/-- `ranked` keeps the members. -/
@[simp] theorem mem_ranked {f : FunctionMeasure} : f ∈ ranked functions ↔ f ∈ functions :=
  (ranked_perm functions).mem_iff

private theorem noLess_trans (a b c : FunctionMeasure)
    (hab : decide (b.complexity ≤ a.complexity) = true)
    (hbc : decide (c.complexity ≤ b.complexity) = true) :
    decide (c.complexity ≤ a.complexity) = true := by
  simp only [decide_eq_true_eq] at *
  omega

private theorem noLess_total (a b : FunctionMeasure) :
    (decide (b.complexity ≤ a.complexity) || decide (a.complexity ≤ b.complexity)) = true := by
  simp only [Bool.or_eq_true, decide_eq_true_eq]
  omega

/-- `ranked` functions are `Ranked`. -/
theorem ranked_sorted (functions : List FunctionMeasure) : Ranked (ranked functions) := by
  refine List.Pairwise.imp ?_ (List.pairwise_mergeSort noLess_trans noLess_total functions)
  intro a b hab
  exact of_decide_eq_true hab

/-- A `Ranked` part of the functions is a part of their ranking, as sorting is stable. -/
theorem sublist_ranked (h : Ranked others) (hsub : others.Sublist functions) :
    others.Sublist (ranked functions) := by
  refine List.sublist_mergeSort noLess_trans noLess_total (List.Pairwise.imp ?_ h) hsub
  intro a b hab
  exact decide_eq_true hab

/-- **Stability.** When the functions of some `kind` are `Ranked` already, ranking all functions
leaves those of the kind in their order. -/
theorem filter_ranked (kind : FunctionMeasure → Bool) (h : Ranked (functions.filter kind)) :
    (ranked functions).filter kind = functions.filter kind := by
  have hsub : (functions.filter kind).Sublist (ranked functions) :=
    sublist_ranked h List.filter_sublist
  -- Both sides are the functions of the kind, so one being a part of the other is enough.
  have hsub' : (functions.filter kind).Sublist ((ranked functions).filter kind) := by
    simpa only [List.filter_filter, Bool.and_self] using hsub.filter kind
  have hlength : (functions.filter kind).length = ((ranked functions).filter kind).length :=
    ((ranked_perm functions).filter kind).length_eq.symm
  exact (hsub'.eq_of_length hlength).symm

/-! ### Complexities -/

/-- `Ranked` functions that are the same up to order have the same complexities in the same order,
though functions of one complexity may have changed places. -/
theorem complexities_eq_of_perm (h : Ranked functions) (h' : Ranked others)
    (hperm : functions.Perm others) :
    functions.map FunctionMeasure.complexity = others.map FunctionMeasure.complexity := by
  have hsorted : (functions.map FunctionMeasure.complexity).Pairwise fun m n => n ≤ m :=
    List.pairwise_map.mpr h
  have hsorted' : (others.map FunctionMeasure.complexity).Pairwise fun m n => n ≤ m :=
    List.pairwise_map.mpr h'
  -- Equally complex functions may come in another order, but their complexities cannot.
  refine List.Perm.eq_of_pairwise ?_ hsorted hsorted' (hperm.map _)
  intro m n _ _ hmn hnm
  exact Nat.le_antisymm hnm hmn

/-- The score of complexity (`complexityScore`) depends on the complexities alone, so that names and
lines do not count. -/
theorem complexityScore_congr {α : Type} [Number α] (limits : Limits)
    (h : functions.map FunctionMeasure.complexity = others.map FunctionMeasure.complexity) :
    (Score.complexityScore limits functions : α) = Score.complexityScore limits others := by
  have hpenalties : ∀ fs : List FunctionMeasure,
      (fs.filter fun f => limits.effectiveComplexity < f.complexity).map
          (fun f => (Score.functionPenalty limits.effectiveComplexity f.complexity : α))
        = ((fs.map FunctionMeasure.complexity).filter fun c => limits.effectiveComplexity < c).map
          (fun c : Nat => Score.functionPenalty limits.effectiveComplexity c) := by
    intro fs
    rw [List.filter_map, List.map_map]
    rfl
  unfold Score.complexityScore
  simp only
  rw [hpenalties, hpenalties, h]

/-! ### Replacing the functions of a file -/

/-- The results `r` have no more functions than a list in memory can hold, so that two of them can
be counted in 64 bits together. -/
def Fits (r : Results) : Prop := r.functions.length < twoTo 63

variable {r again : Results} {file label : String}

/-- The functions after `replaceFile`: those of other files and the new ones, `ranked` together. -/
theorem replaceFile_functions (r : Results) (file : String) (again : Results) :
    (r.replaceFile file again).functions
      = ranked (r.functions.filter (fun f => f.file != file) ++ again.functions) := rfl

/-- After `replaceFile` there are no more functions than before and anew together. -/
theorem length_replaceFile_le (r : Results) (file : String) (again : Results) :
    (r.replaceFile file again).functions.length ≤ r.functions.length + again.functions.length := by
  rw [replaceFile_functions, length_ranked, List.length_append]
  exact Nat.add_le_add_right (List.length_filter_le _ _) _

/-- The functions of a replaced file are the new ones, in their order, if these are `Ranked` and of
this file alone (`hlabel`). -/
theorem filter_replaceFile_same (hranked : Ranked again.functions)
    (hlabel : ∀ f ∈ again.functions, f.file = file) :
    (r.replaceFile file again).functions.filter (fun f => f.file == file) = again.functions := by
  have hpart : (r.functions.filter (fun f => f.file != file) ++ again.functions).filter
      (fun f => f.file == file) = again.functions := by
    have hkept : (r.functions.filter fun f => f.file != file).filter (fun f => f.file == file)
        = [] := by
      simp [List.filter_filter]
    have hnew : again.functions.filter (fun f => f.file == file) = again.functions :=
      List.filter_eq_self.mpr fun f hf => beq_iff_eq.mpr (hlabel f hf)
    rw [List.filter_append, hkept, hnew, List.nil_append]
  rw [replaceFile_functions, filter_ranked _ (by rw [hpart]; exact hranked), hpart]

/-- The functions of every other file stay as they are under `replaceFile`, in their order. For this
the old ones are `Ranked` and the new ones are all of `file` (`hlabel`). -/
theorem filter_replaceFile_other (hranked : Ranked r.functions)
    (hlabel : ∀ f ∈ again.functions, f.file = file) (hne : label ≠ file) :
    (r.replaceFile file again).functions.filter (fun f => f.file == label)
      = r.functions.filter fun f => f.file == label := by
  -- Before they are ranked again, the functions of the file are where they were.
  have hpart : (r.functions.filter (fun f => f.file != file) ++ again.functions).filter
      (fun f => f.file == label) = r.functions.filter fun f => f.file == label := by
    have hkept : (r.functions.filter fun f => f.file != file).filter (fun f => f.file == label)
        = r.functions.filter fun f => f.file == label := by
      rw [List.filter_filter]
      refine List.filter_congr fun f _ => ?_
      by_cases h : f.file = label
      · simp [h, hne]
      · simp [h]
    have hnew : again.functions.filter (fun f => f.file == label) = [] := by
      refine List.filter_eq_nil_iff.mpr fun f hf => ?_
      rw [hlabel f hf, beq_iff_eq]
      exact fun h => hne h.symm
    rw [List.filter_append, hkept, hnew, List.append_nil]
  have hstill : Ranked ((r.functions.filter (fun f => f.file != file) ++ again.functions).filter
      fun f => f.file == label) := by
    rw [hpart]
    exact hranked.sublist List.filter_sublist
  rw [replaceFile_functions, filter_ranked _ hstill, hpart]

/-- The number of functions stays right when a file is replaced, while it can be counted in 64 bits
(`hfits`). -/
theorem functionCount_replaceFile (hcount : r.functionCount = r.functions.length)
    (hagain : again.functionCount = again.functions.length)
    (hfits : (r.replaceFile file again).functions.length < twoTo 64) :
    (r.replaceFile file again).functionCount = (r.replaceFile file again).functions.length := by
  have hle : (r.functions.filter fun f => f.file != file).length ≤ r.functions.length :=
    List.length_filter_le _ _
  rw [replaceFile_functions, length_ranked, List.length_append] at hfits ⊢
  -- The count is kept by subtraction and addition, and the list is as long as both say.
  show (r.functionCount - (r.functions.length - (r.functions.filter fun f => f.file != file).length)
      + again.functionCount) % twoTo 64 = _
  rw [hcount, hagain, Nat.mod_eq_of_lt (by omega)]
  omega

end Results

end CodeHealth
