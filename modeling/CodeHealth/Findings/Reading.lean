import CodeHealth.Data.Document
import CodeHealth.Findings

/-!
# Reading results

Results are read back from a document in which every field is given.
-/

namespace CodeHealth

open Document

/-- Reads a degree of freshness by its name (`Freshness.ofName?`). -/
def Freshness.ofDocument? : Document → Option Freshness := choice? .json Freshness.ofName?

/-- Reads a function with its complexity from `d`. Numbers have to fit in 32 bits. -/
def FunctionMeasure.ofDocument? (d : Document) : Option FunctionMeasure := do
  match ← d.fields? .json ["file", "name", "line", "complexity"] with
  | [file, name, line, complexity] =>
    return {
      file := ← required string? file
      name := ← required string? name
      line := ← required (natural? 32) line
      complexity := ← required (natural? 32) complexity }
  | _ => none

/-- The fields of a `DependencyReport` in a document, in the order in which an array gives them. -/
def DependencyReport.fields : List String :=
  ["module", "current_version", "latest_version", "stale_days", "status"]

/-- Reads a report on a dependency from `d`. -/
def DependencyReport.ofDocument? (d : Document) : Option DependencyReport := do
  match ← d.fields? .json fields with
  | [module, current, latest, staleDays, status] =>
    return {
      module := ← required string? module
      currentVersion := ← required string? current
      latestVersion := ← required string? latest
      staleDays := ← required signed? staleDays
      status := ← required Freshness.ofDocument? status }
  | _ => none

/-- Reads an import that a rule denies from `d`. Its line has to fit in 32 bits. -/
def Violation.ofDocument? (d : Document) : Option Violation := do
  match ← d.fields? .json ["file", "line", "from", "to", "import"] with
  | [file, line, source, target, path] =>
    return {
      file := ← required string? file
      line := ← required (natural? 32) line
      source := ← required string? source
      target := ← required string? target
      path := ← required string? path }
  | _ => none

/-- Reads an unused function from `d`. Its line has to fit in 32 bits. -/
def UnusedFunction.ofDocument? (d : Document) : Option UnusedFunction := do
  match ← d.fields? .json ["file", "name", "line"] with
  | [file, name, line] =>
    return {
      file := ← required string? file
      name := ← required string? name
      line := ← required (natural? 32) line }
  | _ => none

/-- Reads results from `d`, in which every field is given. -/
def Results.ofDocument? (d : Document) : Option Results := do
  match ← d.fields? .json ["language", "file_count", "function_count", "complexity", "dependencies",
      "violations", "dead_code"] with
  | [language, fileCount, functionCount, functions, dependencies, violations, unused] =>
    return {
      language := ← required (choice? .json Language.ofName?) language
      fileCount := ← required (natural? 64) fileCount
      functionCount := ← required (natural? 64) functionCount
      functions := ← required (list? FunctionMeasure.ofDocument?) functions
      dependencies := ← required (list? DependencyReport.ofDocument?) dependencies
      violations := ← required (list? Violation.ofDocument?) violations
      unused := ← required (list? UnusedFunction.ofDocument?) unused }
  | _ => none

end CodeHealth
