/-!
# Lists with one entry for each key

A list stands for a finite map when its entries have different keys. `putLatest` adds an entry in
place of an earlier one with its key, and `latestOf` does so for all entries of a list, so that the
last entry under each key is kept.
-/

namespace CodeHealth

variable {α κ : Type} [BEq κ]

/-- `kept` with `x` at its end, in place of the earlier entries whose `key` is that of `x`. -/
def putLatest (key : α → κ) (kept : List α) (x : α) : List α :=
  kept.filter (fun other => key other != key x) ++ [x]

/-- The last entry of `xs` under each `key`, in the order in which these entries come. -/
def latestOf (key : α → κ) (xs : List α) : List α := xs.foldl (putLatest key) []

end CodeHealth
