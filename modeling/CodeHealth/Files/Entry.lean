import CodeHealth.Data.Keyed
import CodeHealth.Path

/-!
# Trees of files

A tree is a file with its bytes, or a directory with named entries.

* `Entry.child?` looks up a name in a directory;
* `Entry.put` and `Entry.remove` change what is at a path below an entry;
* `Entry.files` lists the files below an entry, each directory by order of names.

There is nothing else in a tree: no symbolic links, so a path leads to one entry and no walk comes
back to where it was, and no files or directories that cannot be read. Names are texts (`Name`), so
that the order of names is that of their bytes.
-/

namespace CodeHealth

/-- The content of a file, which need not be a text; `decodeLossy` makes one of it. -/
abbrev Bytes := List UInt8

/-- A file that can be read, or a directory and what it holds, entries under their `Name`s. -/
inductive Entry where
  | file (content : Bytes)
  | directory (entries : List (Name × Entry))

namespace Entry

/-- A directory that holds nothing, as `put` makes it on its way. -/
def emptyDirectory : Entry := directory []

/-- The content of an entry that is a file, and `none` for a directory. -/
def content? : Entry → Option Bytes
  | file content => some content
  | directory _ => none

/-- What a directory holds; nothing for a `file`. -/
def entries : Entry → List (Name × Entry)
  | file _ => []
  | directory entries => entries

/-- Whether the entry is a `directory`. -/
def isDirectory : Entry → Bool
  | file _ => false
  | directory _ => true

/-- Whether the entry `e` is a file. -/
def isFile (e : Entry) : Bool := !e.isDirectory

/-- The entry that is called `name` in a directory `e`. -/
def child? (e : Entry) (name : Name) : Option Entry := e.entries.lookup name

/-- The `entries` with `value` under `name`, in place of what had that name. -/
def setEntry (name : Name) (value : Entry) (entries : List (Name × Entry)) : List (Name × Entry) :=
  putLatest Prod.fst entries (name, value)

/-- The entry with `value` put at the end of a chain of names. Directories on the way are made when
they are missing, and a file on the way gives way to one. -/
def put : Entry → List Name → Entry → Entry
  | _, [], value => value
  | e, name :: rest, value =>
    let below := (e.child? name).getD emptyDirectory
    directory (setEntry name (put below rest value) e.entries)

/-- The entry with nothing left at the end of a chain of names, which `at?` then finds nothing
at. -/
def remove : List Name → Entry → Entry
  | [], e => e
  | [name], e => directory (e.entries.filter fun entry => entry.1 != name)
  | name :: rest, e =>
    match e.child? name with
    | some below => directory (setEntry name (remove rest below) e.entries)
    | none => e

/-- Named things `xs` by order of their names. -/
def byName {α : Type} (xs : List (Name × α)) : List (Name × α) :=
  xs.mergeSort fun a b => !decide (b.1 < a.1)

/-- A file found below an entry by `files`: the names on the way, and its content. -/
structure Found where
  /-- The names on the way, that of the file last. -/
  names : List Name
  /-- What the file holds. -/
  content : Bytes

/-- The file `f` seen from one directory up, where its own directory is called `name`. -/
def Found.within (name : Name) (f : Found) : Found := ⟨name :: f.names, f.content⟩

mutual

/-- The files below an entry, where directories with a name that is `excluded` are left out. A file
is listed as itself. -/
def files (excluded : List Name) : Entry → List Found
  | file content => [⟨[], content⟩]
  | directory entries => (byName (filesEach excluded entries)).flatMap Prod.snd

/-- The files below each of some entries, with the name of the entry. `files` sorts them by that
name. -/
def filesEach (excluded : List Name) : List (Name × Entry) → List (Name × List Found)
  | [] => []
  | (name, e) :: rest =>
    if e.isDirectory && excluded.contains name then filesEach excluded rest
    else (name, (files excluded e).map (Found.within name)) :: filesEach excluded rest

end

end Entry

end CodeHealth
