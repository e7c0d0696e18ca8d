import CodeHealth.Dependency.Manifest.GoMod
import CodeHealth.Dependency.Manifest.Packages
import CodeHealth.Dependency.Manifest.Projects
import CodeHealth.Dependency.Manifest.Requirements
import CodeHealth.Files.Entry
import CodeHealth.Language
import CodeHealth.Text.Utf8

/-!
# Manifests

Every language has files that declare dependencies. They lie in the root of a project; only the
project files of C# may lie one directory below it.

* `Manifest.dependencies` reads the dependencies of a project in a language;
* `Manifest.detect?` tells the language of a project by the manifests it has.
-/

namespace CodeHealth.Manifest

open CodeHealth.Text

/-- Why a project has no list of dependencies. `Project.dependencies` is empty then. -/
inductive Fault where
  /-- There is no manifest of this kind. -/
  | absent (what : String)
  /-- The manifest is no text. -/
  | unreadable
  | malformed
  deriving DecidableEq, Repr

/-- The message for a manifest that is missing, where `what` are the names it may have. -/
def absentMessage (what : String) : String := s!"no {what} found"

/-- The content of the file `name` in the root of a project. -/
def file? (root : Entry) (name : String) : Option Bytes :=
  (root.child? name.toList).bind Entry.content?

/-- Reads the `content` of a manifest, which has to be a text that `parse?` understands. -/
def read (content : Bytes) (parse? : List Char → Option (List Dependency)) :
    Except Fault (List Dependency) :=
  match decode? content with
  | none => .error .unreadable
  | some text =>
    match parse? text with
    | some found => .ok found
    | none => .error .malformed

/-- Reads the first of some files that the `root` has, each in its own way. Later ones do not count,
even if the first one cannot be read. -/
def firstOf (what : String) (root : Entry) :
    List (String × (List Char → Option (List Dependency))) → Except Fault (List Dependency)
  | [] => .error (.absent what)
  | (name, parse?) :: rest =>
    match file? root name with
    | some content => read content parse?
    | none => firstOf what root rest

/-! ### Project files of C# -/

/-- Whether a `name` has the extension of a project file, in any case. -/
def isProjectName (name : Name) : Bool :=
  ((Path.mk [name]).extension?.map fun e => e.map asciiLower) == some "csproj".toList

/-- The contents of the project files in a `directory`, by order of names. -/
def projectsIn (directory : Entry) : List Bytes :=
  (Entry.byName directory.entries).filterMap fun (name, e) =>
    if isProjectName name then e.content? else none

/-- The contents of the project files of a project: those in its `root`, or else those one directory
below. -/
def projectFiles (root : Entry) : List Bytes :=
  match projectsIn root with
  | [] => (Entry.byName root.entries).flatMap fun (_, e) => projectsIn e
  | found => found

/-- The packages that the `projectFiles` refer to. A file that cannot be read is left out. -/
def dotnetDependencies (root : Entry) : Except Fault (List Dependency) :=
  match projectFiles root with
  | [] => .error (.absent "*.csproj")
  | contents => .ok (contents.flatMap fun content =>
      ((decode? content).bind Projects.dotnet?).getD [])

/-! ### All languages -/

/-- The dependencies that a project in a `language` declares, where `root` is what its root leads
to. -/
def dependencies (language : Language) (root : Entry) : Except Fault (List Dependency) :=
  match language with
  | .go => firstOf "go.mod" root [("go.mod", fun c => some (GoMod.requirements c))]
  | .typescript => firstOf "package.json" root [("package.json", Packages.node?)]
  -- The first of these files that exists counts alone.
  | .python => firstOf "requirements.txt or pyproject.toml" root
      [("requirements.txt", fun c => some (Requirements.ofFile c)),
        ("pyproject.toml", fun c => some (Requirements.ofProject c))]
  | .rust => firstOf "Cargo.toml" root [("Cargo.toml", Packages.crates?)]
  | .java => firstOf "pom.xml or build.gradle" root
      [("pom.xml", Projects.maven?), ("build.gradle", fun c => some (Projects.gradle c)),
        ("build.gradle.kts", fun c => some (Projects.gradle c))]
  | .ruby => firstOf "Gemfile" root [("Gemfile", fun c => some (Projects.gems c))]
  | .php => firstOf "composer.json" root [("composer.json", Packages.php?)]
  | .csharp => dotnetDependencies root

/-- Files that tell the language of a project, in the order in which `detect?` looks for them. -/
def markers : List (String × Language) :=
  [("go.mod", .go), ("package.json", .typescript), ("pyproject.toml", .python),
    ("requirements.txt", .python), ("Cargo.toml", .rust), ("pom.xml", .java),
    ("build.gradle", .java), ("build.gradle.kts", .java), ("Gemfile", .ruby),
    ("composer.json", .php)]

/-- The language of a project by the manifests it has, where `root` is what its root leads to: the
first of the `markers` counts, and `projectFiles` if there is none. -/
def detect? (root : Entry) : Option Language :=
  match markers.find? fun marker => (file? root marker.1).isSome with
  | some marker => some marker.2
  | none => if (projectFiles root).isEmpty then none else some .csharp

end CodeHealth.Manifest
