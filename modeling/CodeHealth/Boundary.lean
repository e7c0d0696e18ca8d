import CodeHealth.Findings
import CodeHealth.Text.Lines
import CodeHealth.Text.Search

/-!
# Import boundaries

A rule `from -> to` denies files whose directory starts with `from` to import anything whose path
contains `to`. Both are compared as plain text, so `pkg/api` also covers `pkg/apiv2`.

* `Rule.parse?` reads a rule and `Rule.text` writes it;
* `violationsOf` holds the imports of a file against the rules.

The line of an import is a natural number without a bound, as all numbers of lines are.
-/

namespace CodeHealth.Boundary

open CodeHealth.Text

/-- A boundary between a directory (`source`) and what it must not import (`target`). -/
structure Rule where
  /-- What the directory of a file starts with. -/
  source : List Char
  /-- What an imported path must not contain. -/
  target : List Char
  deriving DecidableEq, Repr

/-- An import found in a file. Its `line` has no bound here; `Language.records_fit` says for which
sources it has room in 32 bits. -/
structure Import where
  /-- What is imported, as it is written. -/
  path : List Char
  /-- The number of the line, counted from one. -/
  line : Nat
  deriving DecidableEq, Repr

namespace Rule

/-- The arrow `->` between the two halves of a rule. -/
def arrow : List Char := ['-', '>']

/-- The directory `dir` with forward slashes only, as directories are compared. -/
def slashed (dir : List Char) : List Char := replaceChar '\\' '/' dir

/-- Reads a rule from a `text`: two halves around one `arrow`, neither of them blank. -/
def parse? (text : List Char) : Option Rule :=
  match (splitOn arrow text).map trim with
  | [source, target] =>
    if source.isEmpty || target.isEmpty then none else some ⟨slashed source, target⟩
  | _ => none

/-- The `rule` as text, which `parse?` reads again. -/
def text (rule : Rule) : List Char := rule.source ++ ' ' :: arrow ++ ' ' :: rule.target

/-- Whether the `rule` speaks of files in the directory `dir`. -/
def covers (rule : Rule) (dir : List Char) : Bool := rule.source.isPrefixOf (slashed dir)

/-- Whether the `rule` denies the import of `path`. -/
def denies (rule : Rule) (path : List Char) : Bool := occursIn rule.target path

end Rule

/-- The rules among the `texts`; texts that are no rule are dropped. -/
def parseRules (texts : List (List Char)) : List Rule := texts.filterMap Rule.parse?

/-- The `imports` of a `file` in the directory `dir` that `rules` deny, one violation for each pair
of an import and a rule: imports in the order given, and for each one the rules in the order given.
-/
def violationsOf (file : String) (dir : List Char) (imports : List Import) (rules : List Rule) :
    List Violation :=
  imports.flatMap fun i =>
    (rules.filter fun rule => rule.covers dir && rule.denies i.path).map fun rule =>
      ⟨file, i.line, String.ofList rule.source, String.ofList rule.target, String.ofList i.path⟩

end CodeHealth.Boundary
