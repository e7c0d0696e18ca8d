import CodeHealth.Text.Search

/-!
# Paths

A path is kept as written: the pieces of its text between slashes. What it means is given by its
anchor (the root, the current directory spelled out, or nothing) and its names. Empty pieces and
single dots inside a path mean nothing, but they stay in its text.

* `Path.ofText` and `Path.text` read and write a path;
* `Path.join` puts one path after another;
* `Path.relativeTo?` takes a path off the front of another, by anchor and names;
* `Path.parent?`, `Path.fileName?` and `Path.extension?` look at the end of a path.

Names are texts: a name on disk whose bytes are no UTF-8 has no counterpart here. So a name is shown
in reports as it is, where other bytes would be replaced first.
-/

namespace CodeHealth

open CodeHealth.Text

/-- The name of a file or directory, a text. Names whose bytes are no text are outside of what is
modelled, so that no name has to be decoded (`decodeLossy`). -/
abbrev Name := List Char

/-- A path, as the pieces of its text between slashes (`ofString`), `.` and `..` among them. -/
structure Path where
  /-- The pieces, those that mean nothing included. -/
  segments : List Name
  deriving DecidableEq, Repr

namespace Path

/-- Reads a path from a `text`, of which no piece is lost. -/
def ofText (text : List Char) : Path := ⟨splitClass (· == '/') text⟩

/-- Reads a path from a string, as `ofText` does. -/
def ofString (text : String) : Path := ofText text.toList

/-- The path `p` as text. -/
def text (p : Path) : List Char := ['/'].intercalate p.segments

/-- The path `p` as a string. -/
def toString (p : Path) : String := String.ofList p.text

/-! ### Anchor and names -/

/-- Where a path starts: at the root, at the current directory spelled out, or with a name
(`build`). -/
inductive Anchor where
  | root | here | none
  deriving DecidableEq, Repr

/-- Whether a piece of a path means nothing: it is empty, or a single dot. `Disk.follow` passes it
over. -/
def isSilent (segment : Name) : Bool := segment == [] || segment == ['.']

/-- The anchor of a path `p` and the pieces after it. -/
def split (p : Path) : Anchor × List Name :=
  match p.segments with
  | [] :: next :: rest => (.root, next :: rest)
  | ['.'] :: rest => (.here, rest)
  | segments => (.none, segments)

/-- The path with an anchor and pieces after it, which `split` takes apart again. -/
def build : Anchor → List Name → Path
  | .root, [] => ⟨[[], []]⟩
  | .root, rest => ⟨[] :: rest⟩
  | .here, rest => ⟨['.'] :: rest⟩
  | .none, [] => ⟨[[]]⟩
  | .none, rest => ⟨rest⟩

/-- Where the path `p` starts. -/
def anchor (p : Path) : Anchor := p.split.1

/-- The pieces of the path `p` that mean something, those that are not `isSilent`. -/
def names (p : Path) : List Name := p.split.2.filter fun s => !isSilent s

/-- Whether the path `p` starts at the root. -/
def isAbsolute (p : Path) : Bool := p.anchor == .root

/-- The pieces `segments` without silent ones at the end. -/
def trimEnd (segments : List Name) : List Name :=
  (segments.reverse.dropWhile isSilent).reverse

/-! ### Joining and taking apart -/

/-- The path `q`, seen from `p`: a path that starts at the root stays as it is. -/
def join (p q : Path) : Path :=
  if q.isAbsolute then q
  else if p.segments.getLast? == some [] then ⟨p.segments.dropLast ++ q.segments⟩
  else ⟨p.segments ++ q.segments⟩

/-- The path of what is called `name` in the directory that `p` leads to. -/
def child (p : Path) (name : Name) : Path := p.join ⟨[name]⟩

/-- The pieces after the given names, when these names come first, silent pieces (`isSilent`)
aside. -/
def dropNames : List Name → List Name → Option (List Name)
  | [], segments => some segments
  | _ :: _, [] => none
  | name :: rest, segment :: segments =>
    if isSilent segment then dropNames (name :: rest) segments
    else if segment == name then dropNames rest segments
    else none

/-- What is left of a path `p` after another one, `base`, when it starts so. The text of the rest is
kept, apart from silent pieces at both ends. -/
def relativeTo? (p base : Path) : Option Path :=
  if base.anchor == .none && base.names.isEmpty then
    some (build p.anchor (trimEnd p.split.2))
  else if p.anchor == base.anchor then
    (dropNames base.names p.split.2).map fun rest =>
      build .none (trimEnd (rest.dropWhile isSilent))
  else none

/-- The path of the directory that holds what `p` leads to. -/
def parent? (p : Path) : Option Path :=
  match trimEnd p.split.2 with
  | [] => if p.anchor == .here then some (ofText []) else none
  | segments => some (build p.anchor (trimEnd segments.dropLast))

/-- The last of the `names` of a path, unless the path ends in a step up. -/
def fileName? (p : Path) : Option Name :=
  match p.names.getLast? with
  | some name => if name == ['.', '.'] then none else some name
  | none => none

/-- What follows the last dot of the `fileName?`. A dot in front of a name starts no extension. -/
def extension? (p : Path) : Option (List Char) := do
  let name ← p.fileName?
  match name with
  | [] => none
  | _ :: rest => if rest.contains '.' then some (afterLast '.' rest) else none

/-! ### Labels in reports -/

/-- The path `p` seen from a `root`, or the whole path when it is not below it. -/
def relativeTo (p root : Path) : Path := (p.relativeTo? root).getD p

/-- The path `p` as text with forward slashes only. -/
def slashed (p : Path) : List Char := replaceChar '\\' '/' p.text

/-- The directory of a path `p`, seen from a `root`, and a dot for the root itself. -/
def directoryFrom (p root : Path) : List Char :=
  match (p.relativeTo root).parent? with
  | some parent => if parent.text.isEmpty then ['.'] else parent.slashed
  | none => ['.']

/-- The name by which reports call the file at `p`: its `fileName?`, or else the whole path. -/
def label (p : Path) : String := String.ofList (p.fileName?.getD p.text)

end Path

end CodeHealth
