import CodeHealth.Proofs.Staleness
import CodeHealth.Score
import Mathlib.Data.Rat.Floor
import Mathlib.Tactic.GCongr
import Mathlib.Tactic.Linarith
import Mathlib.Tactic.NormNum
import Mathlib.Tactic.Positivity
import Mathlib.Tactic.Ring

/-!
# Scores in exact arithmetic

The rules for scores make sense for any numbers. Over the rational numbers nothing is lost on the
way, and all aspects have one shape: every finding owes a penalty, which may be nothing, and the
score is what all of them leave of 100.

* `Score.exact` — the rational numbers as numbers of scores;
* `Score.left` — what is left of a full score when findings owe something;
* `Score.exactAspects_eq` — every aspect is scored in this way;
* `Score.left_insert`, `Score.left_perm` — a further finding takes something off or nothing, and the
  order of findings does not count;
* `Score.roundAway_mono`, `Score.abs_roundAway_sub_le` — rounding keeps the order and stays near;
* `Score.scores_bounded_monotone_orderFree` — what follows for the scores and their total.
-/

namespace CodeHealth

namespace Aspects

/-- Values are compared aspect by aspect. -/
instance : LE (Aspects ℚ) where
  le a b := a.complexity ≤ b.complexity ∧ a.dependencies ≤ b.dependencies ∧
    a.boundaries ≤ b.boundaries ∧ a.unused ≤ b.unused ∧ a.coverage ≤ b.coverage

/-- The same value `x` for every aspect. -/
def constant (x : ℚ) : Aspects ℚ := ⟨x, x, x, x, x⟩

/-- The values of all aspects together, such as the sum of all weights. -/
def sum (a : Aspects ℚ) : ℚ := a.complexity + a.dependencies + a.boundaries + a.unused + a.coverage

end Aspects

namespace Limits

/-- The limit `effectiveComplexity` that functions are held to is positive, so one may divide by
it. -/
theorem effectiveComplexity_pos (l : Limits) : 0 < l.effectiveComplexity := by
  rw [effectiveComplexity]
  split
  · decide
  · omega

end Limits

namespace Score

/-! ### Rounding -/

/-- The nearest whole number; a half goes away from zero, where `round` sends it up. -/
def roundAway (x : ℚ) : ℤ := if x < 0 then -round (-x) else round x

/-- `round` keeps the order. -/
theorem round_mono {x y : ℚ} (h : x ≤ y) : round x ≤ round y := by
  rw [round_eq, round_eq]
  exact Int.floor_mono (by linarith)

/-- `round` gives no negative number for one that is not. -/
theorem round_nonneg {x : ℚ} (h : 0 ≤ x) : 0 ≤ round x := by
  simpa only [round_zero] using round_mono h

/-- `roundAway` keeps the order, by cases on the signs of `x` and `y`. -/
theorem roundAway_mono {x y : ℚ} (h : x ≤ y) : roundAway x ≤ roundAway y := by
  unfold roundAway
  by_cases hx : x < 0 <;> by_cases hy : y < 0
  · rw [if_pos hx, if_pos hy]
    exact neg_le_neg (round_mono (neg_le_neg h))
  · -- A negative number and one that is not are on different sides of zero.
    rw [if_pos hx, if_neg hy]
    have hleft := round_nonneg (neg_nonneg.mpr hx.le)
    have hright := round_nonneg (not_lt.mp hy)
    omega
  · exact absurd (h.trans_lt hy) hx
  · rw [if_neg hx, if_neg hy]
    exact round_mono h

/-- `roundAway` moves a number by a half at most. -/
theorem abs_roundAway_sub_le (x : ℚ) : |(roundAway x : ℚ) - x| ≤ 1 / 2 := by
  unfold roundAway
  split
  · have hnear := abs_sub_round (-x)
    rw [Int.cast_neg, show -((round (-x) : ℤ) : ℚ) - x = -x - round (-x) by ring]
    exact hnear
  · rw [abs_sub_comm]
    exact abs_sub_round x

/-- `roundAway` leaves whole numbers as they are. -/
theorem roundAway_intCast (n : ℤ) : roundAway n = n := by
  unfold roundAway
  split
  · rw [← Int.cast_neg, round_intCast, neg_neg]
  · exact round_intCast n

example : roundAway (5 / 2) = 3 ∧ roundAway (-5 / 2) = -3 := by decide +kernel

/-! ### Exact arithmetic -/

/-- The rational numbers as a `Number` of scores. This is no instance, since the rational numbers
have their operations already. -/
@[reducible] def exact : Number ℚ where
  ofInt n := n
  less a b := decide (a < b)
  round x := roundAway x

/-- The scores of all aspects, in exact arithmetic (`exact`). -/
abbrev exactAspects (limits : Limits) (r : Results) : Aspects ℚ := @aspectsOf ℚ exact limits r

/-- The sum of the scores, each times its weight, in exact arithmetic (`exact`). -/
abbrev exactSum (weights scores : Aspects ℚ) : ℚ := @weightedSum ℚ exact weights scores

/-- The total of the scores with one decimal, in exact arithmetic (`exact`). -/
abbrev exactTotal (weights scores : Aspects ℚ) : ℚ := @weightedTotal ℚ exact weights scores

/-- `Number.capped` is the minimum. -/
theorem capped_exact (cap x : ℚ) : @Number.capped ℚ exact cap x = min x cap := by
  show (if decide (x < cap) = true then x else cap) = min x cap
  by_cases h : x < cap
  · rw [if_pos (decide_eq_true h), min_eq_left h.le]
  · rw [if_neg (by simpa using h), min_eq_right (not_lt.mp h)]

/-- `Number.sum` is the sum of a list. -/
theorem sum_exact (xs : List ℚ) : @Number.sum ℚ exact xs = xs.sum := by
  rw [List.sum_eq_foldl]
  show xs.foldl (· + ·) ((0 : ℤ) : ℚ) = _
  rw [Int.cast_zero]

/-- `afterPenalty` takes a penalty off 100, within the bounds of a score. -/
theorem afterPenalty_exact (penalty : ℚ) :
    @afterPenalty ℚ exact penalty = max 0 (min (100 - penalty) 100) := by
  show (if decide (((100 : ℤ) : ℚ) - penalty < (0 : ℤ)) = true then ((0 : ℤ) : ℚ)
    else if decide (((100 : ℤ) : ℚ) < (100 : ℤ) - penalty) = true then ((100 : ℤ) : ℚ)
    else (100 : ℤ) - penalty) = _
  simp only [decide_eq_true_eq, Int.cast_zero, Int.cast_ofNat]
  split_ifs with hlow hhigh
  · rw [max_eq_left (le_trans (min_le_left _ _) hlow.le)]
  · rw [min_eq_right hhigh.le, max_eq_right (by norm_num)]
  · rw [min_eq_left (not_lt.mp hhigh), max_eq_right (not_lt.mp hlow)]

/-- `functionPenalty` grows by 20 for each `limit` that is exceeded, up to 20: twice the limit is as
bad as it gets. -/
theorem functionPenalty_exact (limit complexity : ℤ) :
    @functionPenalty ℚ exact limit complexity
      = min (((complexity : ℚ) - limit) / limit * 20) 20 :=
  capped_exact _ _

/-- `dependencyPenalty` grows by 15 for each `limit` of days, up to 15. -/
theorem dependencyPenalty_exact (limit days : ℤ) :
    @dependencyPenalty ℚ exact limit days = min ((days : ℚ) / limit * 15) 15 :=
  capped_exact _ _

/-! ### What findings owe -/

/-- What a function `f` owes: its penalty if it is above the limit, and nothing otherwise. -/
def functionDue (limits : Limits) (f : FunctionMeasure) : ℚ :=
  if limits.effectiveComplexity < f.complexity then
    @functionPenalty ℚ exact limits.effectiveComplexity f.complexity
  else 0

/-- What a dependency `d` owes: its penalty if it is behind, and nothing otherwise. -/
def dependencyDue (limits : Limits) (d : DependencyReport) : ℚ :=
  if d.status.isBehind then
    @dependencyPenalty ℚ exact (Dependency.effectiveLimit limits.staleDays) d.staleDays
  else 0

/-- A function owes something or nothing: `functionDue` is never negative. -/
theorem functionDue_nonneg (limits : Limits) (f : FunctionMeasure) : 0 ≤ functionDue limits f := by
  unfold functionDue
  split
  case isTrue habove =>
    have hlimit : (0 : ℚ) < limits.effectiveComplexity := by
      exact_mod_cast limits.effectiveComplexity_pos
    have hexcess : (0 : ℚ) < f.complexity - limits.effectiveComplexity := by
      rw [sub_pos]
      exact_mod_cast habove
    rw [functionPenalty_exact, Int.cast_natCast, Int.cast_natCast]
    positivity
  case isFalse => exact le_refl 0

/-- The limit `effectiveLimit` that dependencies are held to is positive, so one may divide by
it. -/
theorem effectiveLimit_cast_pos (limits : Limits) :
    (0 : ℚ) < Dependency.effectiveLimit limits.staleDays := by
  exact_mod_cast Dependency.effectiveLimit_pos limits.staleDays

/-- A dependency that is not behind by less than no days (`h`) owes something or nothing. -/
theorem dependencyDue_nonneg (limits : Limits) {d : DependencyReport}
    (h : d.status.isBehind = true → 0 ≤ d.staleDays) : 0 ≤ dependencyDue limits d := by
  unfold dependencyDue
  split
  case isTrue hbehind =>
    have hlimit := effectiveLimit_cast_pos limits
    have hdays : (0 : ℚ) ≤ d.staleDays := by exact_mod_cast h hbehind
    rw [dependencyPenalty_exact]
    positivity
  case isFalse => exact le_refl 0

section Left

variable {α : Type} {due : α → ℚ} {found others : List α}

/-- What is left of a full score when each of the findings `found` owes what is `due` for it. -/
def left (due : α → ℚ) (found : List α) : ℚ := @afterPenalty ℚ exact (found.map due).sum

/-- No score is negative, whatever is `due`. -/
theorem left_nonneg (due : α → ℚ) (found : List α) : 0 ≤ left due found := by
  rw [left, afterPenalty_exact]
  exact le_max_left _ _

/-- No score is above 100, whatever is `due`. -/
theorem left_le (due : α → ℚ) (found : List α) : left due found ≤ 100 := by
  rw [left, afterPenalty_exact]
  exact max_le (by norm_num) (min_le_right _ _)

/-- A further finding `x`, wherever it is put, takes something off, or nothing. -/
theorem left_insert (before after : List α) {x : α} (hx : 0 ≤ due x) :
    left due (before ++ x :: after) ≤ left due (before ++ after) := by
  have hsum : ((before ++ x :: after).map due).sum = ((before ++ after).map due).sum + due x := by
    simp only [List.map_append, List.map_cons, List.sum_append, List.sum_cons]
    ring
  rw [left, left, afterPenalty_exact, afterPenalty_exact, hsum]
  gcongr
  linarith

/-- What is `left` does not depend on the order of the findings. -/
theorem left_perm (due : α → ℚ) (h : found.Perm others) : left due found = left due others := by
  rw [left, left, (h.map due).sum_eq]

/-- As long as nothing is given back (`h`), a full score is not exceeded, and what is `left` has one
bound only. -/
theorem left_eq (h : ∀ x ∈ found, 0 ≤ due x) :
    left due found = max 0 (100 - (found.map due).sum) := by
  have hsum : 0 ≤ (found.map due).sum := List.sum_nonneg (List.forall_mem_map.mpr h)
  rw [left, afterPenalty_exact, min_eq_left (by linarith)]

theorem sum_map_filter (counts : α → Bool) (due : α → ℚ) (found : List α) :
    ((found.filter counts).map due).sum
      = (found.map fun x => if counts x = true then due x else 0).sum := by
  rw [List.sum_map_ite]
  simp

end Left

/-! ### Scores -/

/-- The score of functions is what is `left` after `functionDue` of each. -/
theorem complexityScore_exact (limits : Limits) (functions : List FunctionMeasure) :
    @complexityScore ℚ exact limits functions = left (functionDue limits) functions := by
  have hdue : functionDue limits = fun f =>
      if decide (limits.effectiveComplexity < f.complexity) = true then
        @functionPenalty ℚ exact limits.effectiveComplexity f.complexity
      else 0 := by
    funext f
    simp only [functionDue, decide_eq_true_eq]
  unfold complexityScore
  simp only
  rw [sum_exact, sum_map_filter, left, hdue]

/-- The score of dependencies is what is `left` after `dependencyDue` of each. -/
theorem dependencyScore_exact (limits : Limits) (dependencies : List DependencyReport) :
    @dependencyScore ℚ exact limits dependencies = left (dependencyDue limits) dependencies := by
  unfold dependencyScore
  simp only
  rw [sum_exact, sum_map_filter]
  rfl

/-- A score by number is what is `left` when all findings owe the same `penalty`. -/
theorem countScore_exact {α : Type} (found : List α) (penalty : ℤ) :
    @countScore ℚ exact found.length penalty = left (fun _ => penalty) found := by
  have hsum : (found.map fun _ => (penalty : ℚ)).sum = ((found.length : ℤ) : ℚ) * penalty := by
    rw [List.map_const', List.sum_replicate, nsmul_eq_mul, Int.cast_natCast]
  rw [left, hsum]
  rfl

/-- **Every aspect is scored in the same way**, as what is `left`, with dues of its own, so that
lemmas about `left` hold of all of them. -/
theorem exactAspects_eq (limits : Limits) (r : Results) :
    exactAspects limits r =
      { complexity := left (functionDue limits) r.functions
        dependencies := left (dependencyDue limits) r.dependencies
        boundaries := left (fun _ => (violationPenalty : ℚ)) r.violations
        unused := left (fun _ => (unusedPenalty : ℚ)) r.unused
        coverage := 100 } := by
  have hcoverage : exact.ofInt 100 = 100 := Int.cast_ofNat 100
  unfold exactAspects aspectsOf
  rw [complexityScore_exact, dependencyScore_exact, countScore_exact, countScore_exact, hcoverage]

/-! ### Totals -/

/-- Better scores have no worse sum, for weights that are not negative (`hweights`). -/
theorem exactSum_mono {weights lower higher : Aspects ℚ} (hweights : Aspects.constant 0 ≤ weights)
    (h : lower ≤ higher) : exactSum weights lower ≤ exactSum weights higher := by
  obtain ⟨hw₁, hw₂, hw₃, hw₄, hw₅⟩ := hweights
  obtain ⟨h₁, h₂, h₃, h₄, h₅⟩ := h
  simp only [Aspects.constant] at hw₁ hw₂ hw₃ hw₄ hw₅
  show lower.complexity * weights.complexity + lower.dependencies * weights.dependencies
      + lower.boundaries * weights.boundaries + lower.unused * weights.unused
      + lower.coverage * weights.coverage
    ≤ higher.complexity * weights.complexity + higher.dependencies * weights.dependencies
      + higher.boundaries * weights.boundaries + higher.unused * weights.unused
      + higher.coverage * weights.coverage
  gcongr

/-- The sum of equal scores is the score times the `sum` of the weights. -/
theorem exactSum_constant (weights : Aspects ℚ) (x : ℚ) :
    exactSum weights (Aspects.constant x) = x * weights.sum := by
  show x * weights.complexity + x * weights.dependencies + x * weights.boundaries
    + x * weights.unused + x * weights.coverage = _
  rw [Aspects.sum]
  ring

/-- The total is the sum, rounded by `roundAway` to one decimal. -/
theorem exactTotal_eq (weights scores : Aspects ℚ) :
    exactTotal weights scores = roundAway (exactSum weights scores * 10) / 10 := by
  show (roundAway (exactSum weights scores * ((10 : ℤ) : ℚ)) : ℚ) / ((10 : ℤ) : ℚ) = _
  rw [Int.cast_ofNat]

theorem exactTotal_mono {weights lower higher : Aspects ℚ}
    (hweights : Aspects.constant 0 ≤ weights) (h : lower ≤ higher) :
    exactTotal weights lower ≤ exactTotal weights higher := by
  have hsum := exactSum_mono hweights h
  have hround : roundAway (exactSum weights lower * 10)
      ≤ roundAway (exactSum weights higher * 10) :=
    roundAway_mono (by linarith)
  rw [exactTotal_eq, exactTotal_eq]
  gcongr

/-- The total of equal whole scores `n` is that score, for weights that sum up to 1. -/
theorem exactTotal_constant {weights : Aspects ℚ} (hweights : weights.sum = 1) (n : ℤ) :
    exactTotal weights (Aspects.constant n) = n := by
  have hsum : exactSum weights (Aspects.constant n) * 10 = ((n * 10 : ℤ) : ℚ) := by
    rw [exactSum_constant, hweights]
    push_cast
    ring
  rw [exactTotal_eq, hsum, roundAway_intCast]
  push_cast
  ring

/-- The `exactTotal` is near the `exactSum`, to within half a tenth. -/
theorem abs_exactTotal_sub_le (weights scores : Aspects ℚ) :
    |exactTotal weights scores - exactSum weights scores| ≤ 1 / 20 := by
  have hnear := abs_le.mp (abs_roundAway_sub_le (exactSum weights scores * 10))
  rw [exactTotal_eq, abs_le]
  constructor <;> linarith

/-- **Scores are bounded, monotone and free of order**, in exact arithmetic. Scores `exactAspects`
lie between 0 and 100. One more finding, wherever it is put, leaves its own score as it is or lowers
it, and it leaves the other scores as they are; a dependency that is behind must not be behind by
less than no days. The order of findings does not count. Scores that are no better have no better
`exactTotal`, which lies between 0 and 100 for weights that sum up to 1, and which is the `exactSum`
to within half a tenth. -/
theorem scores_bounded_monotone_orderFree (limits : Limits) :
    (∀ r : Results, Aspects.constant 0 ≤ exactAspects limits r ∧
      exactAspects limits r ≤ Aspects.constant 100) ∧
    (∀ (r : Results) (before after : List FunctionMeasure) (f : FunctionMeasure),
      r.functions = before ++ after →
      ∃ lower ≤ (exactAspects limits r).complexity,
        exactAspects limits { r with functions := before ++ f :: after }
          = { exactAspects limits r with complexity := lower }) ∧
    (∀ (r : Results) (before after : List DependencyReport) (d : DependencyReport),
      r.dependencies = before ++ after → (d.status.isBehind = true → 0 ≤ d.staleDays) →
      ∃ lower ≤ (exactAspects limits r).dependencies,
        exactAspects limits { r with dependencies := before ++ d :: after }
          = { exactAspects limits r with dependencies := lower }) ∧
    (∀ (r : Results) (before after : List Violation) (v : Violation),
      r.violations = before ++ after →
      ∃ lower ≤ (exactAspects limits r).boundaries,
        exactAspects limits { r with violations := before ++ v :: after }
          = { exactAspects limits r with boundaries := lower }) ∧
    (∀ (r : Results) (before after : List UnusedFunction) (u : UnusedFunction),
      r.unused = before ++ after →
      ∃ lower ≤ (exactAspects limits r).unused,
        exactAspects limits { r with unused := before ++ u :: after }
          = { exactAspects limits r with unused := lower }) ∧
    (∀ r r' : Results, r.functions.Perm r'.functions → r.dependencies.Perm r'.dependencies →
      r.violations.Perm r'.violations → r.unused.Perm r'.unused →
      exactAspects limits r = exactAspects limits r') ∧
    (∀ weights lower higher : Aspects ℚ, Aspects.constant 0 ≤ weights → lower ≤ higher →
      exactTotal weights lower ≤ exactTotal weights higher) ∧
    (∀ weights scores : Aspects ℚ, Aspects.constant 0 ≤ weights → weights.sum = 1 →
      Aspects.constant 0 ≤ scores → scores ≤ Aspects.constant 100 →
      0 ≤ exactTotal weights scores ∧ exactTotal weights scores ≤ 100) ∧
    ∀ weights scores : Aspects ℚ, (∃ tenths : ℤ, exactTotal weights scores = tenths / 10) ∧
      |exactTotal weights scores - exactSum weights scores| ≤ 1 / 20 := by
  refine ⟨?_, ?_, ?_, ?_, ?_, ?_, ?_, ?_, ?_⟩
  · intro r
    rw [exactAspects_eq]
    exact ⟨⟨left_nonneg _ _, left_nonneg _ _, left_nonneg _ _, left_nonneg _ _,
        show (0 : ℚ) ≤ 100 by norm_num⟩,
      ⟨left_le _ _, left_le _ _, left_le _ _, left_le _ _, le_refl 100⟩⟩
  · intro r before after f h
    rw [exactAspects_eq, exactAspects_eq, h]
    exact ⟨_, left_insert before after (functionDue_nonneg limits f), rfl⟩
  · intro r before after d h hdays
    rw [exactAspects_eq, exactAspects_eq, h]
    exact ⟨_, left_insert before after (dependencyDue_nonneg limits hdays), rfl⟩
  · intro r before after v h
    rw [exactAspects_eq, exactAspects_eq, h]
    exact ⟨_, left_insert before after (by norm_num [violationPenalty]), rfl⟩
  · intro r before after u h
    rw [exactAspects_eq, exactAspects_eq, h]
    exact ⟨_, left_insert before after (by norm_num [unusedPenalty]), rfl⟩
  · intro r r' hfunctions hdependencies hviolations hunused
    rw [exactAspects_eq, exactAspects_eq, left_perm _ hfunctions, left_perm _ hdependencies,
      left_perm _ hviolations, left_perm _ hunused]
  · intro weights lower higher hweights h
    exact exactTotal_mono hweights h
  · -- The total lies between those of the worst and of the best scores.
    intro weights scores hweights hsum hlow hhigh
    have hworst := exactTotal_mono hweights hlow
    have hbest := exactTotal_mono hweights hhigh
    have h₀ : exactTotal weights (Aspects.constant 0) = 0 := exactTotal_constant hsum 0
    have h₁₀₀ : exactTotal weights (Aspects.constant 100) = 100 := exactTotal_constant hsum 100
    exact ⟨h₀ ▸ hworst, h₁₀₀ ▸ hbest⟩
  · intro weights scores
    exact ⟨⟨_, exactTotal_eq weights scores⟩, abs_exactTotal_sub_le weights scores⟩

end Score

end CodeHealth

namespace CodeHealth.Sample

open Score

/-- Results with a function and a dependency above their limits. -/
def scored : Results :=
  { Results.empty .go with
    functions := [⟨"a.go", "f", 1, 30⟩]
    dependencies := [⟨"m", "1", "2", 45, .stale⟩] }

/-- The usual weights, which sum up to 1. -/
def shares : Aspects ℚ := ⟨3 / 10, 1 / 5, 1 / 5, 3 / 20, 3 / 20⟩

/-- With no limits set, a function in front, an outdated dependency behind and a violation each
lower their own score of `scored` alone. The total of the scores is in range, and it is no better
than that of full scores. -/
theorem scored_with_more :
    (∃ lower ≤ (exactAspects ⟨0, 0⟩ scored).complexity,
      exactAspects ⟨0, 0⟩ { scored with functions := [⟨"b.go", "g", 9, 18⟩, ⟨"a.go", "f", 1, 30⟩] }
        = { exactAspects ⟨0, 0⟩ scored with complexity := lower }) ∧
    (∃ lower ≤ (exactAspects ⟨0, 0⟩ scored).dependencies,
      exactAspects ⟨0, 0⟩ { scored with dependencies :=
          [⟨"m", "1", "2", 45, .stale⟩, ⟨"n", "1", "2", 180, .outdated⟩] }
        = { exactAspects ⟨0, 0⟩ scored with dependencies := lower }) ∧
    (∃ lower ≤ (exactAspects ⟨0, 0⟩ scored).boundaries,
      exactAspects ⟨0, 0⟩ { scored with violations := [⟨"a.go", 3, "api", "db", "x/db"⟩] }
        = { exactAspects ⟨0, 0⟩ scored with boundaries := lower }) ∧
    0 ≤ exactTotal shares (exactAspects ⟨0, 0⟩ scored) ∧
    exactTotal shares (exactAspects ⟨0, 0⟩ scored) ≤ exactTotal shares (Aspects.constant 100) := by
  obtain ⟨hrange, hfunction, hdependency, hviolation, -, -, hmono, htotal, -⟩ :=
    scores_bounded_monotone_orderFree ⟨0, 0⟩
  have hweights : Aspects.constant 0 ≤ shares := by
    refine ⟨?_, ?_, ?_, ?_, ?_⟩ <;> norm_num [Aspects.constant, shares]
  have hsum : shares.sum = 1 := by norm_num [Aspects.sum, shares]
  obtain ⟨hlow, hhigh⟩ := hrange scored
  exact ⟨hfunction scored [] _ _ rfl, hdependency scored [_] [] _ rfl (by decide),
    hviolation scored [] [] _ rfl, (htotal shares _ hweights hsum hlow hhigh).1,
    hmono shares _ _ hweights hhigh⟩

end CodeHealth.Sample
