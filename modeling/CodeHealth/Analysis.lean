import CodeHealth.Files.Discovery
import CodeHealth.Go.References
import CodeHealth.Outline.CSharp
import CodeHealth.Outline.Java
import CodeHealth.Outline.Php
import CodeHealth.Outline.Python
import CodeHealth.Outline.Ruby
import CodeHealth.Outline.Rust
import CodeHealth.Outline.TypeScript
import CodeHealth.Outline.Unused
import CodeHealth.Text.Utf8

/-!
# Analysis of source files

What the analyses of all languages have in common: they take the sources of a project and give
functions with their complexities, imports that rules deny, and public functions without a
reference.
-/

namespace CodeHealth

open CodeHealth.Boundary

/-- A source file as the analyses see it: what a `SourceFile` becomes when it is seen from a
root. -/
structure Source where
  /-- The name of the file without its directory. -/
  label : String
  /-- The directory of the file, seen from the root. -/
  directory : List Char
  /-- The content of the file. -/
  text : List Char

/-- The file `f` seen from a `root`. Bytes that are no text are replaced by `decodeLossy`. -/
def SourceFile.source (root : Path) (f : SourceFile) : Source :=
  ⟨f.path.label, f.path.directoryFrom root, Text.decodeLossy f.content⟩

namespace Language

/-- The profile by which a language is read line by line; `go` has none. -/
def profile? : Language → Option Outline.Profile
  | go => none
  | typescript => some Outline.typeScript
  | python => some Outline.python
  | rust => some Outline.rust
  | java => some Outline.java
  | ruby => some Outline.ruby
  | php => some Outline.php
  | csharp => some Outline.cSharp

/-- The functions of some `sources` with their complexities, in order. -/
def measures (language : Language) (sources : List Source) : List FunctionMeasure :=
  sources.flatMap fun s =>
    match language.profile? with
    | some profile => profile.functionMeasures s.label s.text
    | none => Go.functionMeasures s.label s.text

/-- The imports of a source `s`, in order. -/
def imports (language : Language) (s : Source) : List Import :=
  match language.profile? with
  | some profile => profile.imports s.text
  | none => Go.importsOf s.text

/-- The imports of some `sources` that `rules` deny, in order (`violationsOf`). -/
def violations (language : Language) (rules : List Rule) (sources : List Source) :
    List Violation :=
  if rules.isEmpty then []
  else sources.flatMap fun s => violationsOf s.label s.directory (language.imports s) rules

/-- The public functions of some `sources` that nothing in them refers to. -/
def unused (language : Language) (sources : List Source) : List UnusedFunction :=
  let texts := sources.map fun s => (s.label, s.text)
  match language.profile? with
  | some profile => profile.unusedFunctions texts
  | none => Go.unusedFunctions texts

end Language

end CodeHealth
