import CodeHealth.Path
import CodeHealth.Score

/-!
# Settings

The settings of a project, and their values when nothing is set.

`Settings.starterText` is the file that a new project starts with. It spells out the defaults.
-/

namespace CodeHealth

/-- How releases of packages are looked up, if they are (`offline`). -/
structure LookupSettings where
  /-- How long a request may take. -/
  timeoutSeconds : Nat
  /-- How many requests are made at a time. -/
  workers : Nat
  /-- Whether nothing is looked up. -/
  offline : Bool
  deriving DecidableEq, Repr

/-- When a project counts as healthy: its `limits`, and the least total. -/
structure Thresholds where
  limits : Limits
  minScore : Float
  deriving Repr

/-- The settings of a project, from which `Project.ofSettings` makes one. -/
structure Settings where
  /-- The root of the tree that is analyzed. -/
  root : Path
  /-- The language, unless it is to be found out. -/
  language : Option Language
  /-- Names of directories that are passed over. -/
  excluded : List String
  weights : Aspects Float
  /-- The rules between directories, as written. -/
  boundaries : List String
  thresholds : Thresholds
  lookups : LookupSettings
  deriving Repr

/-- The lookups when nothing is set, as `starterText` spells them out. -/
def LookupSettings.default : LookupSettings := ⟨5, 8, false⟩

/-- The thresholds when nothing is set: `Limits.default` and a total of 70. -/
def Thresholds.default : Thresholds := ⟨Limits.default, 70⟩

namespace Settings

/-- The weights when nothing is set, part of `default`. They sum up to 1. -/
def defaultWeights : Aspects Float := ⟨0.30, 0.20, 0.20, 0.15, 0.15⟩

/-- The excluded directories when nothing is set, in the order of `starterText`. -/
def defaultExcluded : List String :=
  ["vendor", "node_modules", ".git", "testdata", "__pycache__", ".venv", "target", "dist", "build"]

/-- The settings when nothing is set. Settings that are read are laid over these (`ofDocument?`). -/
def default : Settings where
  root := Path.ofString "."
  language := none
  excluded := defaultExcluded
  weights := defaultWeights
  boundaries := []
  thresholds := Thresholds.default
  lookups := LookupSettings.default

/-- The names that a file with settings may have, the preferred one first (`Settings.load`). -/
def fileNames : List String := ["drift.toml", ".drift.toml", ".drift.json"]

/-- The lines of `starterText`. -/
def starterLines : List String :=
  ["# Drift configuration", "# language = \"go\"  # override auto-detection", "",
    "root = \".\"", "exclude = ["] ++
  defaultExcluded.map (fun name => s!"    \"{name}\",") ++
  ["]", "",
    "[weights]", "complexity = 0.3", "deps = 0.2", "boundaries = 0.2", "dead_code = 0.15",
    "coverage = 0.15", "",
    "[thresholds]", "max_complexity = 15", "max_stale_days = 90", "min_score = 70.0", "",
    "[registry]", "timeout_secs = 5", "workers = 8", "offline = false",
    "# Deny imports from one directory prefix into another:", "# [[boundaries]]",
    "# deny = \"pkg/api -> internal/db\""]

/-- The file that a new project starts with. It sets everything to what `default` has. -/
def starterText : String := String.join (starterLines.map fun line => line ++ "\n")

end Settings

end CodeHealth
