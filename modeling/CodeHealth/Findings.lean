import CodeHealth.Decimal.Power
import CodeHealth.Language

/-!
# What an analysis finds

* `FunctionMeasure`: a function and its complexity;
* `UnusedFunction`: a public function without a reference;
* `Violation`: an import that a boundary rule denies;
* `DependencyReport`: a dependency and how far behind it is;
* `Results`: everything one run finds.

`Results.replaceFile` takes over the functions of one file that was measured again.

Numbers of lines and complexities are natural numbers here and have no bound, while reports keep
them in 32 bits. In a language that is read line by line a source of less than `twoTo 28` lines has
room for all of them, by `Language.records_fit`; for Go it has to be taken for granted that a source
has less than `twoTo 32` lines and decisions.
-/

namespace CodeHealth

/-- A function, where it is declared, and its complexity. Neither `line` nor `complexity` has a
bound here; `Language.records_fit` says for which sources both have room in 32 bits. -/
structure FunctionMeasure where
  /-- The name of the file without its directory. -/
  file : String
  name : String
  /-- The number of the line that declares the function, counted from one. -/
  line : Nat
  /-- One, and one more for each decision in the body. -/
  complexity : Nat
  deriving DecidableEq, Repr

/-- A public function that nothing refers to. Its `line` has no bound here; it is at most the number
of lines of the source, by `Profile.line_le_of_mem_unusedFunctions`. -/
structure UnusedFunction where
  file : String
  name : String
  line : Nat
  deriving DecidableEq, Repr

/-- An import in a file that a rule keeps apart from what it imports. Its `line` is that of a
`Boundary.Import`, which `Language.records_fit` bounds. -/
structure Violation where
  file : String
  line : Nat
  /-- The half of the rule that the directory of the file starts with. -/
  source : String
  /-- The half of the rule that is in what is imported. -/
  target : String
  /-- What is imported. -/
  path : String
  deriving DecidableEq, Repr

/-- How fresh a dependency is, compared with its latest release, as `Dependency.classify` tells. -/
inductive Freshness where
  | current | stale | outdated | unknown
  deriving DecidableEq, Repr

namespace Freshness

/-- Every degree of freshness, as `ofName?` tries them. -/
def all : List Freshness := [.current, .stale, .outdated, .unknown]

/-- The name of a degree of freshness in reports, the `status` of a dependency. -/
def name : Freshness → String
  | current => "current"
  | stale => "stale"
  | outdated => "outdated"
  | unknown => "unknown"

/-- The degree of freshness with exactly this `name`. -/
def ofName? (name : String) : Option Freshness := all.find? fun s => s.name == name

/-- Whether the dependency is known to be behind its latest release: `stale` or `outdated`. -/
def isBehind : Freshness → Bool
  | stale | outdated => true
  | current | unknown => false

end Freshness

/-- A declared dependency and its latest release, as `Dependency.classify` tells them. -/
structure DependencyReport where
  module : String
  currentVersion : String
  latestVersion : String
  /-- How many days the release in use is behind, as `Dependency.classify` counts them. -/
  staleDays : Int
  status : Freshness
  deriving DecidableEq, Repr

/-- Everything that one run of a `Project` finds. -/
structure Results where
  language : Language
  /-- How many files were looked at. -/
  fileCount : Nat
  /-- How many functions were found. It is kept apart from `functions`, see `replaceFile`. -/
  functionCount : Nat
  /-- The functions, the most complex first. -/
  functions : List FunctionMeasure
  dependencies : List DependencyReport
  violations : List Violation
  unused : List UnusedFunction
  deriving DecidableEq, Repr

namespace UnusedFunction

/-- The order of reports `a` and `b`: by file, then by line, then by name. -/
def before (a b : UnusedFunction) : Bool :=
  a.file < b.file ||
    (a.file == b.file && (a.line < b.line || (a.line == b.line && !(b.name < a.name))))

/-- What was `found`, sorted for a report by `before`. -/
def sorted (found : List UnusedFunction) : List UnusedFunction := found.mergeSort before

end UnusedFunction

namespace Results

/-- The results of a `language` when nothing is found yet. -/
def empty (language : Language) : Results := ⟨language, 0, 0, [], [], [], []⟩

/-- The `functions` from the most complex to the least, equally complex ones in the order given. -/
def ranked (functions : List FunctionMeasure) : List FunctionMeasure :=
  functions.mergeSort fun a b => b.complexity ≤ a.complexity

/-- The results `r` with their functions `ranked`. -/
def rank (r : Results) : Results := { r with functions := ranked r.functions }

/-- The results `r` after the file called `file` was measured again: its functions are replaced by
those of `again`, and everything else stays. Files are told apart by their names alone, and counts
are kept in 64 bits. -/
def replaceFile (r : Results) (file : String) (again : Results) : Results :=
  let kept := r.functions.filter fun f => f.file != file
  let removed := r.functions.length - kept.length
  { r with
    functionCount := (r.functionCount - removed + again.functionCount) % twoTo 64
    functions := ranked (kept ++ again.functions) }

end Results

end CodeHealth
