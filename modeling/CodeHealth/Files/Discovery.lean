import CodeHealth.Files.Entry

/-!
# Discovery of source files

A filter tells which files belong to a language. Discovery lists the files below a root that a
filter accepts, depth first and by order of names, and does not enter directories with an excluded
name.
-/

namespace CodeHealth

open CodeHealth.Text

/-- Which files are wanted, told by their paths alone (`accepts`). -/
structure FileFilter where
  /-- Extensions of wanted files, without the dot. -/
  extensions : List (List Char)
  /-- Texts that must not occur in the path of a file below the root. -/
  skipPatterns : List (List Char)
  /-- Texts that the name of a file must not end in. -/
  skipSuffixes : List (List Char)

/-- Whether the file at a path `p` is wanted by the `filter`, seen from a `root`. -/
def FileFilter.accepts (filter : FileFilter) (root p : Path) : Bool :=
  let name := p.fileName?.getD []
  let relative := (p.relativeTo root).slashed
  p.extension?.any filter.extensions.contains &&
    !filter.skipSuffixes.any (fun suffix => suffix.isSuffixOf name) &&
    !filter.skipPatterns.any (fun pattern => occursIn pattern relative)

/-- A file that was read, or is to be: its path and its content. `discover` gives these. -/
structure SourceFile where
  /-- The path that leads to the file. -/
  path : Path
  /-- What the file holds. -/
  content : Bytes

/-- The path of a file `f` that was found below a `root`. -/
def Entry.Found.pathFrom (root : Path) (f : Entry.Found) : Path := f.names.foldl Path.child root

/-- The files below a `root` that a `filter` accepts, where `tree` is what the root leads to.
Directories with a name that is `excluded` are not entered. -/
def discover (filter : FileFilter) (excluded : List Name) (root : Path) (tree : Entry) :
    List SourceFile :=
  ((tree.files excluded).map fun f => SourceFile.mk (f.pathFrom root) f.content).filter fun f =>
    filter.accepts root f.path

end CodeHealth
