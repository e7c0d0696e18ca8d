import CodeHealth.Data.Json
import CodeHealth.Data.Toml.Reader
import CodeHealth.Files.Disk
import CodeHealth.Settings
import CodeHealth.Text.Utf8

/-!
# Reading settings

Settings are written as a document. A field that it leaves out has its default value, and keys that
are no fields are passed over.

* `Settings.ofDocument?` reads settings from a document;
* `Settings.load` finds the settings of a repository.
-/

namespace CodeHealth

open Document

/-- Reads a value for each aspect of health, taking missing ones from `default`. -/
def Aspects.ofDocument? (format : Format) (default : Aspects Float) (d : Document) :
    Option (Aspects Float) := do
  match ← d.fields? format ["complexity", "deps", "boundaries", "dead_code", "coverage"] with
  | [complexity, dependencies, boundaries, unused, coverage] =>
    return {
      complexity := ← withDefault default.complexity float? complexity
      dependencies := ← withDefault default.dependencies float? dependencies
      boundaries := ← withDefault default.boundaries float? boundaries
      unused := ← withDefault default.unused float? unused
      coverage := ← withDefault default.coverage float? coverage }
  | _ => none

/-- Reads thresholds from `d`, taking missing ones from `Thresholds.default`. -/
def Thresholds.ofDocument? (format : Format) (d : Document) : Option Thresholds := do
  match ← d.fields? format ["max_complexity", "max_stale_days", "min_score"] with
  | [complexity, staleDays, minScore] =>
    let limits : Limits := {
      complexity := ← withDefault Limits.default.complexity (natural? 32) complexity
      staleDays := ← withDefault Limits.default.staleDays signed? staleDays }
    return ⟨limits, ← withDefault Thresholds.default.minScore float? minScore⟩
  | _ => none

/-- Reads how releases are looked up from `d`, taking missing values from
`LookupSettings.default`. -/
def LookupSettings.ofDocument? (format : Format) (d : Document) : Option LookupSettings := do
  match ← d.fields? format ["timeout_secs", "workers", "offline"] with
  | [timeout, workers, offline] =>
    return {
      timeoutSeconds := ← withDefault LookupSettings.default.timeoutSeconds (natural? 64) timeout
      workers := ← withDefault LookupSettings.default.workers (natural? 64) workers
      offline := ← withDefault LookupSettings.default.offline bool? offline }
  | _ => none

namespace Settings

/-- Reads a rule between directories: the text of the one field `deny`, be it a rule or not. -/
def boundary? (format : Format) (d : Document) : Option String := do
  match ← d.fields? format ["deny"] with
  | [deny] => required string? deny
  | _ => none

/-- Reads settings from `d`, taking missing ones from `Settings.default`. -/
def ofDocument? (format : Format) (d : Document) : Option Settings := do
  match ← d.fields? format ["root", "language", "exclude", "weights", "boundaries", "thresholds",
      "registry"] with
  | [root, language, excluded, weights, boundaries, thresholds, lookups] =>
    return {
      root := ← withDefault default.root (fun d => d.string?.map Path.ofString) root
      language := ← withDefault default.language
        (optional? (choice? format Language.ofName?)) language
      excluded := ← withDefault default.excluded (list? string?) excluded
      weights := ← withDefault default.weights (Aspects.ofDocument? format default.weights) weights
      boundaries := ← withDefault default.boundaries (list? (boundary? format)) boundaries
      thresholds := ← withDefault default.thresholds (Thresholds.ofDocument? format) thresholds
      lookups := ← withDefault default.lookups (LookupSettings.ofDocument? format) lookups }
  | _ => none

/-- The format of the file at `p`, by its extension in any case: JSON, or else TOML. -/
def formatOf (p : Path) : Format :=
  if (p.extension?.map fun e => e.map Text.asciiLower) == some "json".toList then .json else .toml

/-- Reads the text of a document in its `Format`. -/
def parseText? : Format → List Char → Option Document
  | .json, text => Json.parse? text
  | .toml, text => Toml.parse? text

/-- Reads settings from the `content` of the file at `p`, which has to be a text. -/
def ofContent? (p : Path) (content : Bytes) : Option Settings := do
  let text ← Text.decode? content
  let d ← parseText? (formatOf p) text
  ofDocument? (formatOf p) d

/-- Reads settings from the file at `p`, if there is one. -/
def ofFile? (disk : Disk) (p : Path) : Option Settings := do
  ofContent? p (← disk.read? p)

/-- The message for a file `p` whose settings were asked for and cannot be read. -/
def loadMessage (p : Path) : String := s!"Failed to load config {p.toString}"

/-- The settings of a `repository` as they are written. They come from the file that is asked for,
or else from the first of the `fileNames` that can be read, or else they are the defaults. Fails
with the file that is asked for and cannot be read. -/
def written (disk : Disk) (repository : Path) : Option Path → Except Path Settings
  | some p =>
    match ofFile? disk p with
    | some settings => .ok settings
    | none => .error p
  | none =>
    let found := fileNames.findSome? fun name => ofFile? disk (repository.child name.toList)
    .ok (found.getD default)

/-- The settings of a `repository`, with the root seen from where the repository is seen from. -/
def load (disk : Disk) (repository : Path) (file : Option Path) : Except Path Settings :=
  (written disk repository file).map fun settings =>
    { settings with root := repository.join settings.root }

end Settings

end CodeHealth
