import CodeHealth.CommandLine.Arguments
import CodeHealth.Decimal.Fixed
import CodeHealth.Settings.Reading
import CodeHealth.Snapshot

/-!
# The command line

A command looks at a disk, prints a text, and ends with an exit code.

* `snapshot` prints results and score as JSON;
* `check` prints the score and fails when it is below a threshold;
* `init` writes a file with default settings;
* `watch` announces that it watches a project, and scores it for the first time.
-/

namespace CodeHealth.CommandLine

/-- How a command ends, and what it leaves behind: a `code`, what is printed, and the disk. -/
structure Outcome where
  /-- The exit code, which is zero for success. -/
  code : Nat
  /-- The text that is printed. -/
  output : String
  /-- The message of a failure. -/
  error : Option String
  /-- The disk after the command. Only `runInit` writes to it. -/
  disk : Disk

/-- Where a command runs: all that an `Outcome` depends on besides the arguments. -/
structure Surroundings where
  /-- The disk that is looked at. -/
  disk : Disk
  /-- What package registries answer. -/
  registry : Dependency.Registry
  /-- The time of the command. -/
  now : Instant

namespace Surroundings

/-- The end of a command that went well and prints `output`. -/
def succeed (s : Surroundings) (output : String) : Outcome := ⟨0, output, none, s.disk⟩

/-- The end of a command that failed with a `message` and prints nothing. -/
def fail (s : Surroundings) (message : String) : Outcome := ⟨1, "", some message, s.disk⟩

/-- The path from the root to what `p` leads to, by which it can be found from anywhere, if there is
something. -/
def canonical? (s : Surroundings) (p : Path) : Option Path :=
  if s.disk.holds p then some (Path.build .root (s.disk.namesTo p)) else none

end Surroundings

/-! ### Texts -/

/-- The text of `lines`, each with a line feed behind it. -/
def textOf (lines : List String) : String := String.join (lines.map fun line => line ++ "\n")

/-- The number `x` with one decimal (`Decimal.fixed`). -/
def oneDecimal (x : Float) : String := String.ofList (Decimal.fixed 1 x)

/-- The text `s` filled up with blanks behind to a `width`. A longer text stays as it is. -/
def padRight (width : Nat) (s : String) : String :=
  s ++ String.ofList (List.replicate (width - s.length) ' ')

/-- The text `s` filled up with blanks in front to a `width`. A longer text stays as it is. -/
def padLeft (width : Nat) (s : String) : String :=
  String.ofList (List.replicate (width - s.length) ' ') ++ s

/-- A line of a `summary` on one aspect: its label, its score and some `detail`. -/
def aspectLine (label : String) (value : Float) (detail : String) : String :=
  s!"  {padRight 12 label} {padLeft 5 (oneDecimal value)}  {detail}"

/-- The lines of a summary of the results `r` and the score `s` of the project at `root`. -/
def summary (root : Path) (r : Results) (s : Score Float) : List String :=
  let totalLabel := padRight 12 "Total"
  let counts := s!"{r.fileCount} files, {r.functionCount} functions"
  ["",
    s!"Health {root.toString} ({r.language.name}, {counts})",
    "",
    s!"  {totalLabel} {oneDecimal s.total}",
    aspectLine "Complexity" s.aspects.complexity s!"{r.functions.length} functions",
    aspectLine "Deps" s.aspects.dependencies s!"{r.dependencies.length} dependencies",
    aspectLine "Boundaries" s.aspects.boundaries s!"{r.violations.length} violations",
    aspectLine "Dead code" s.aspects.unused s!"{r.unused.length} unreferenced",
    aspectLine "Coverage" s.aspects.coverage ""]

/-- The lines that announce what is watched, which `runWatch` prints first. -/
def announcement (project : Project) : List String :=
  ["", s!"Watching {project.root.toString} ({project.language.name}) for changes...", "",
    "  → Save a file to trigger a re-score", "  → Press Ctrl+C to stop", ""]

/-- The number `x` with one decimal (`oneDecimal`) and its sign, also where that is a plus. -/
def signedDecimal (x : Float) : String :=
  if x.isNaN || Decimal.isNegative x then oneDecimal x else "+" ++ oneDecimal x

/-! ### Commands -/

/-- The settings of the invocation `i`: those of `Settings.load` for its path, or the message of a
failure. -/
def settingsOf (s : Surroundings) (i : Invocation) : Except String Settings :=
  match s.canonical? (Path.ofString i.path) with
  | none => .error s!"Path does not exist: {i.path}"
  | some repository =>
    match Settings.load s.disk repository (i.config.map Path.ofString) with
    | .ok settings => .ok settings
    | .error _ => .error "Failed to load project configuration"

/-- The project with the given `settings`, on the disk and at the time of `s`. -/
def projectOf (s : Surroundings) (settings : Settings) : Project :=
  Project.ofSettings settings s.disk s.registry s.now

/-- The results and the score of the project with the given `settings`. It has no earlier score. -/
def analyze (s : Surroundings) (settings : Settings) : Except RunFault (Results × Score Float) :=
  (projectOf s settings |>.run s.disk).map fun r =>
    let scorer : Scorer Float :=
      { weights := settings.weights, limits := settings.thresholds.limits }
    (r, (scorer.score r).1)

/-- Prints results and score as JSON (`Json.pretty`). -/
def runSnapshot (s : Surroundings) (settings : Settings) : Outcome :=
  match analyze s settings with
  | .error fault => s.fail fault.message
  | .ok (r, score) => s.succeed (String.ofList (Json.pretty (snapshot r score)) ++ "\n")

/-- Prints the score. Fails without a message when the total is below the threshold, which is
`failUnder` or else the one of the `settings`. -/
def runCheck (s : Surroundings) (settings : Settings) (failUnder : Option Float) : Outcome :=
  match analyze s settings with
  | .error fault => s.fail fault.message
  | .ok (r, score) =>
    let threshold := failUnder.getD settings.thresholds.minScore
    let below := decide (score.total < threshold)
    let total := oneDecimal score.total
    let verdict :=
      if below then s!"✗ Score {total} is below {oneDecimal threshold}"
      else s!"✓ Score {total} meets {oneDecimal threshold}"
    let output := textOf (summary settings.root r score ++ ["", verdict])
    ⟨if below then 1 else 0, output, none, s.disk⟩

/-- Writes a file with default settings (`Settings.starterText`) into the directory at `path`,
unless there is one. -/
def runInit (s : Surroundings) (path : String) : Outcome :=
  match s.canonical? (Path.ofString path) with
  | none => s.fail s!"Path does not exist: {path}"
  | some repository =>
    if !s.disk.isDirectory repository then
      s.fail s!"Path is not a directory: {repository.toString}"
    else
      let file := repository.child "drift.toml".toList
      if s.disk.holds file then
        s.fail s!"{file.toString} already exists; remove it first to regenerate"
      else
        let content := Settings.starterText.toUTF8.toList
        { s.succeed (textOf [s!"✓ Created {file.toString}", "", "Next steps:",
            "  1. Add [[boundaries]] rules for layers that must not import each other",
            "  2. Run drift check to see the current score",
            "  3. Run drift watch while you edit"]) with
          disk := s.disk.put file (.file content) }

/-- Announces that a project is watched, and scores it for the first time (`analyze`). -/
def runWatch (s : Surroundings) (settings : Settings) : Outcome :=
  let announced := announcement (projectOf s settings)
  match analyze s settings with
  | .error fault => { s.fail fault.message with output := textOf announced }
  | .ok (_, score) => s.succeed (textOf (announced ++
      [s!"initial score {oneDecimal score.total} ({signedDecimal score.delta})"]))

/-- Runs `next` with the settings of the invocation `i`, or fails as `settingsOf` does. -/
def withSettings (s : Surroundings) (i : Invocation) (next : Settings → Outcome) : Outcome :=
  match settingsOf s i with
  | .ok settings => next settings
  | .error message => s.fail message

/-- Runs the command of the invocation `i`. All but `runInit` need its settings. -/
def runInvocation (s : Surroundings) (i : Invocation) : Outcome :=
  match i.command with
  | .init => runInit s i.path
  | .snapshot => withSettings s i fun settings => runSnapshot s settings
  | .check failUnder => withSettings s i fun settings => runCheck s settings failUnder
  | .watch _ => withSettings s i fun settings => runWatch s settings

/-- The text that tells how to use the program, as `help` prints it. -/
def usage : String :=
  textOf ["Usage: drift [OPTIONS] [PATH] <COMMAND>", "",
    "Commands: snapshot, check, init, watch, help"]

/-- Runs the program with some `arguments`. Arguments that cannot be understood (`parse`) end it
with code 2. -/
def run (s : Surroundings) (arguments : List String) : Outcome :=
  match parse arguments with
  | .error _ => ⟨2, "", none, s.disk⟩
  | .ok .version => s.succeed "drift 0.1.0\n"
  | .ok .help => s.succeed usage
  | .ok (.invocation i) => runInvocation s i

end CodeHealth.CommandLine
