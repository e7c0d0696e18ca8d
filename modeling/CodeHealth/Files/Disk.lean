import CodeHealth.Files.Entry

/-!
# Disks

A disk is a tree of files and a working directory, at which paths without an anchor at the root
start. A path is followed piece by piece: every piece but the last needs a directory, and a step up
from the root stays there.
-/

namespace CodeHealth

/-- A tree of files and the names from its root to the working directory, from where a relative path
leads on (`lookup?`). -/
structure Disk where
  /-- What the root of the disk holds. -/
  tree : Entry
  /-- The names from the root to the working directory. -/
  working : List Name

namespace Disk

/-- Follows pieces of a path from an entry `e`, where `above` are the directories it lies in, the
nearest first. -/
def follow (above : List Entry) (e : Entry) : List Name → Option Entry
  | [] => some e
  | segment :: rest =>
    if !e.isDirectory then none
    else if Path.isSilent segment then follow above e rest
    else if segment == ['.', '.'] then
      match above with
      | parent :: above => follow above parent rest
      -- The root is its own parent.
      | [] => follow [] e rest
    else
      match e.child? segment with
      | some below => follow (e :: above) below rest
      | none => none

/-- What a path `p` leads to on a `disk`. The empty path leads nowhere. -/
def lookup? (disk : Disk) (p : Path) : Option Entry :=
  if p.text.isEmpty then none
  else if p.isAbsolute then follow [] disk.tree p.split.2
  else follow [] disk.tree (disk.working ++ p.segments)

/-- Whether a path `p` leads to something. -/
def holds (disk : Disk) (p : Path) : Bool := (disk.lookup? p).isSome

/-- Whether a path `p` leads to a directory. -/
def isDirectory (disk : Disk) (p : Path) : Bool := (disk.lookup? p).any Entry.isDirectory

/-- The content of the file that a path `p` leads to. -/
def read? (disk : Disk) (p : Path) : Option Bytes := (disk.lookup? p).bind Entry.content?

/-- The names from the root to where a path `p` leads, without looking at the tree. -/
def namesTo (disk : Disk) (p : Path) : List Name :=
  let start := if p.isAbsolute then [] else disk.working
  p.names.foldl (fun names n => if n == ['.', '.'] then names.dropLast else names ++ [n]) start

/-- The `disk` after `e` was put where a path `p` leads. -/
def put (disk : Disk) (p : Path) (e : Entry) : Disk :=
  { disk with tree := disk.tree.put (disk.namesTo p) e }

/-- The `disk` after what a path `p` leads to was removed. -/
def remove (disk : Disk) (p : Path) : Disk :=
  { disk with tree := disk.tree.remove (disk.namesTo p) }

end Disk

end CodeHealth
