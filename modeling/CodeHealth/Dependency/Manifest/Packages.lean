import CodeHealth.Data.Json
import CodeHealth.Data.Toml.Reader
import CodeHealth.Dependency.Spec
import CodeHealth.Text.Lines

/-!
# Manifests with a table of packages

Three formats name their dependencies by the keys of a table: the packages of Node, of PHP and of
Rust. Reports list them by order of names, whatever their order in the manifest.

* `Packages.Kind.ofText` is the dependency of an entry with a version, in each of the formats;
* `Packages.node?`, `Packages.php?` and `Packages.crates?` read a manifest.
-/

namespace CodeHealth.Packages

open CodeHealth.Text

/-- The `entries` by order of their keys. -/
def byKey {α : Type} (entries : List (String × α)) : List (String × α) :=
  entries.mergeSort fun a b => !decide (b.1 < a.1)

/-- The `version` without any of the `marks` in front of it. -/
def unmarked (marks : String) (version : List Char) : List Char :=
  version.dropWhile fun c => marks.toList.contains c

/-- The formats that name dependencies by the keys of a table, which stands under the `key` of the
format. -/
inductive Kind where
  | node | php | crates

namespace Kind

/-- The key of the table in a manifest of each format, such as `require` in PHP. -/
def key : Kind → String
  | node => "dependencies"
  | php => "require"
  | crates => "dependencies"

/-- The dependency of an entry whose value is a text: a version behind the marks of a range
(`unmarked`), which differ between the formats. -/
def ofText : Kind → String → String → Dependency
  | node, name, range =>
    .ofNamed .npm name.toList (trim (unmarked "^~><=" (trim range.toList)))
  | php, name, constraint =>
    .ofNamed .packagist name.toList (unmarked "^~>=<! " constraint.toList)
  | crates, name, version =>
    ⟨name, name, String.ofList (trim (unmarked "^~=><" version.toList)), .cratesIo⟩

end Kind

/-- The table of texts in the `field` of a record that has no other field. A missing field is an
empty table. -/
def textTable? (field : String) (d : Document) : Option (List (String × String)) := do
  match ← d.fields? .json [field] with
  | [value] => Document.withDefault [] (Document.map? Document.string?) value
  | _ => none

/-- The dependencies of a Node package with this manifest, by name. Every value of the table has to
be a text (`textTable?`). -/
def node? (content : List Char) : Option (List Dependency) := do
  let entries ← textTable? Kind.node.key (← Json.parse? content)
  return (byKey entries).map fun (name, range) => Kind.node.ofText name range

/-- Whether a `name` stands for the platform and not for a package. -/
def isPlatform (name : String) : Bool := name == "php" || "ext-".toList.isPrefixOf name.toList

/-- The packages that a PHP project with this manifest requires, by name, without the platform
(`isPlatform`). -/
def php? (content : List Char) : Option (List Dependency) := do
  let entries ← textTable? Kind.php.key (← Json.parse? content)
  return ((byKey entries).filter fun e => !isPlatform e.1).map fun (name, constraint) =>
    Kind.php.ofText name constraint

/-- The version of an entry of a crate: the entry itself, or its field `version` when it is a
table. -/
def crateVersion? : Document → Option String
  | .string version => some version
  | .table entries => (Document.value? "version" entries).bind Document.string?
  | _ => none

/-- The dependency of an entry `name` of a crate, with the value `d`. One without a version is not
published. -/
def crate? (name : String) (d : Document) : Option Dependency := do
  let version ← crateVersion? d
  let package := ((d.get? "package").bind Document.string?).getD name
  return { Kind.crates.ofText name version with package }

/-- The dependencies of a Rust crate with this manifest, by name. A manifest without the table has
none; values that are neither a text nor a table are passed over (`crate?`). -/
def crates? (content : List Char) : Option (List Dependency) := do
  match (← Toml.parse? content).get? Kind.crates.key with
  | some (.table entries) => some ((byKey entries).filterMap fun (name, d) => crate? name d)
  | _ => some []

end CodeHealth.Packages
