import CodeHealth.Dependency.Freshness
import CodeHealth.Findings
import CodeHealth.Score.Number

/-!
# Health scores

Health has five aspects, and each has a score from 0 to 100. It starts at 100, and everything an
analysis finds takes a penalty off:

* a function above the complexity limit loses up to 20, in proportion to how far it is above;
* a dependency behind its latest release loses up to 15, in proportion to its days;
* an import that a rule denies loses 10;
* an unused function loses 5;
* coverage is not measured and loses nothing.

The total is the sum of the scores, each times its weight, with one decimal. `Scorer` remembers the
last total, so that a score also tells the change since then.
-/

namespace CodeHealth

/-- A value of the type `α` for each aspect of health: a weight or a score. -/
structure Aspects (α : Type) where
  complexity : α
  dependencies : α
  boundaries : α
  unused : α
  coverage : α
  deriving Repr

/-- What may be found without a penalty: the limits that `functionPenalty` and `dependencyPenalty`
compare with. -/
structure Limits where
  /-- The complexity a function may have; 0 stands for the usual limit. -/
  complexity : Nat
  /-- The days a dependency may be behind; no days stand for the usual limit. -/
  staleDays : Int
  deriving DecidableEq, Repr

/-- A `total`, the scores it is made of, and the change since the total before. -/
structure Score (α : Type) where
  /-- The weighted sum of the scores, with one decimal. -/
  total : α
  /-- The scores of the aspects. -/
  aspects : Aspects α
  /-- The change since the last total, zero for the first one. -/
  delta : α
  deriving Repr

namespace Limits

/-- The limits when none are set: a complexity of 15 and `Dependency.defaultLimit`. -/
def default : Limits := ⟨15, Dependency.defaultLimit⟩

/-- The complexity that a function may have under the limits `l`, which is never 0. -/
def effectiveComplexity (l : Limits) : Nat :=
  if l.complexity = 0 then default.complexity else l.complexity

end Limits

namespace Score

open Number

variable {α : Type} [Number α]

/-! ### Penalties -/

/-- The penalty of a function whose `complexity` is above the `limit`: 20 for each time that the
limit is exceeded, but at most 20. -/
def functionPenalty (limit complexity : Int) : α :=
  capped (ofInt 20) ((ofInt complexity - ofInt limit) / ofInt limit * ofInt 20)

/-- The penalty of a dependency that is `days` behind: 15 for each `limit` of days, but at most
15. -/
def dependencyPenalty (limit days : Int) : α :=
  capped (ofInt 15) (ofInt days / ofInt limit * ofInt 15)

/-- The penalty of an import that a rule denies, as `countScore` takes it off. -/
def violationPenalty : Int := 10

/-- The penalty of an unused function, as `countScore` takes it off. -/
def unusedPenalty : Int := 5

/-! ### Aspects -/

/-- What is left of a full score after a `penalty`, between 0 and 100. -/
def afterPenalty (penalty : α) : α := clamp (ofInt 0) (ofInt 100) (ofInt 100 - penalty)

/-- The score of the complexity of some `functions`, of which those above the limit count. -/
def complexityScore (limits : Limits) (functions : List FunctionMeasure) : α :=
  let limit : Nat := limits.effectiveComplexity
  let above := functions.filter fun f => limit < f.complexity
  afterPenalty (sum (above.map fun f => functionPenalty limit f.complexity))

/-- The score of the freshness of some `dependencies`, of which those that are behind count
(`isBehind`). -/
def dependencyScore (limits : Limits) (dependencies : List DependencyReport) : α :=
  let limit := Dependency.effectiveLimit limits.staleDays
  let behind := dependencies.filter fun d => d.status.isBehind
  afterPenalty (sum (behind.map fun d => dependencyPenalty limit d.staleDays))

/-- The score when this many things are found (`count`) that all take the same `penalty`. -/
def countScore (count : Nat) (penalty : Int) : α :=
  afterPenalty (ofInt count * ofInt penalty)

/-- The scores of all aspects of the results `r`. Nothing is known of coverage, so it has a full
score. -/
def aspectsOf (limits : Limits) (r : Results) : Aspects α where
  complexity := complexityScore limits r.functions
  dependencies := dependencyScore limits r.dependencies
  boundaries := countScore r.violations.length violationPenalty
  unused := countScore r.unused.length unusedPenalty
  coverage := ofInt 100

/-! ### Total -/

/-- The sum of the `scores`, each times its weight, in the order of the aspects. -/
def weightedSum (weights scores : Aspects α) : α :=
  scores.complexity * weights.complexity + scores.dependencies * weights.dependencies
    + scores.boundaries * weights.boundaries + scores.unused * weights.unused
    + scores.coverage * weights.coverage

/-- The total of the `scores`: their `weightedSum` with one decimal. -/
def weightedTotal (weights scores : Aspects α) : α := roundTenths (weightedSum weights scores)

end Score

/-- What scores depend on, and the total of the last one, from which `score` counts the change. -/
structure Scorer (α : Type) where
  weights : Aspects α
  limits : Limits
  /-- The total of the last score, if there was one. -/
  previous : Option α := none

namespace Scorer

open Number

variable {α : Type} [Number α]

/-- The score of the results `r`, and the scorer that remembers its total. -/
def score (s : Scorer α) (r : Results) : Score α × Scorer α :=
  let aspects := Score.aspectsOf s.limits r
  let total := Score.weightedTotal s.weights aspects
  let delta := match s.previous with
    | some previous => total - previous
    | none => ofInt 0
  (⟨total, aspects, delta⟩, { s with previous := some total })

end Scorer

end CodeHealth
