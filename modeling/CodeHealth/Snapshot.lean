import CodeHealth.Data.Json.Printer
import CodeHealth.Findings
import CodeHealth.Score

/-!
# Snapshots

A snapshot is a document with the results of an analysis and their score. The keys of every table
are in alphabetical order.
-/

namespace CodeHealth

open Document

/-- The function `f` with its complexity as a document. -/
def FunctionMeasure.toDocument (f : FunctionMeasure) : Document :=
  table [("complexity", integer f.complexity), ("file", string f.file), ("line", integer f.line),
    ("name", string f.name)]

/-- The unused function `f` as a document. -/
def UnusedFunction.toDocument (f : UnusedFunction) : Document :=
  table [("file", string f.file), ("line", integer f.line), ("name", string f.name)]

/-- The report `d` on a dependency as a document. -/
def DependencyReport.toDocument (d : DependencyReport) : Document :=
  table [("current_version", string d.currentVersion), ("latest_version", string d.latestVersion),
    ("module", string d.module), ("stale_days", integer d.staleDays),
    ("status", string d.status.name)]

/-- The import `v` that a rule denies as a document. -/
def Violation.toDocument (v : Violation) : Document :=
  table [("file", string v.file), ("from", string v.source), ("import", string v.path),
    ("line", integer v.line), ("to", string v.target)]

/-- The results `r` as a document, which `Results.ofDocument?` reads again. -/
def Results.toDocument (r : Results) : Document :=
  table [("complexity", array (r.functions.map FunctionMeasure.toDocument)),
    ("dead_code", array (r.unused.map UnusedFunction.toDocument)),
    ("dependencies", array (r.dependencies.map DependencyReport.toDocument)),
    ("file_count", integer r.fileCount), ("function_count", integer r.functionCount),
    ("language", string r.language.name),
    ("violations", array (r.violations.map Violation.toDocument))]

/-- The score `s` as a document, aspects and total side by side. -/
def Score.toDocument (s : Score Float) : Document :=
  table [("boundaries", float s.aspects.boundaries), ("complexity", float s.aspects.complexity),
    ("coverage", float s.aspects.coverage), ("dead_code", float s.aspects.unused),
    ("delta", float s.delta), ("deps", float s.aspects.dependencies), ("total", float s.total)]

/-- The snapshot of the results `r` and their score `s`. -/
def snapshot (r : Results) (s : Score Float) : Document :=
  table [("results", r.toDocument), ("score", s.toDocument)]

end CodeHealth
