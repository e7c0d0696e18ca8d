import CodeHealth.Dependency.Spec
import CodeHealth.Text.Lines
import CodeHealth.Text.Search

/-!
# The requirements of a Go module

A requirement is a module and its version, in a directive of its own or in a block of them. One that
is marked as indirect is left out.
-/

namespace CodeHealth.GoMod

open CodeHealth.Text

/-- The mark of a requirement that the module does not use itself. It counts wherever it stands on a
line, and `record?` passes such a line over. -/
def indirectMark : List Char := "// indirect".toList

/-- The requirement of an `entry`: a module and its version, before a comment. The name is the last
part of the module's path. -/
def record? (entry : List Char) : Option Dependency :=
  if occursIn indirectMark entry then none
  else
    match fields ((splitOn "//".toList entry).headD []) with
    | module :: version :: _ =>
      some ⟨String.ofList (afterLast '/' module), String.ofList module, String.ofList version,
        .goProxy⟩
    | _ => none

/-- What a line outside of blocks says, as `directive` reads it. -/
inductive Directive where
  /-- A block of requirements starts. -/
  | block
  /-- A requirement, if it is one to report. -/
  | require (found : Option Dependency)
  | other

/-- Reads a `line` outside of blocks, white space around it removed. -/
def directive (line : List Char) : Directive :=
  match stripStart "require".toList line with
  | none => .other
  | some rest =>
    if trim rest == ['('] then .block
    else if rest.head?.any isSpace then .require (record? (trim rest))
    else .other

/-- The requirements on these lines, which are inside of a block (`true`) or not. -/
def requirementsFrom : Bool → List (List Char) → List Dependency
  | _, [] => []
  | true, line :: rest =>
    if trim line == [')'] then requirementsFrom false rest
    else (record? (trim line)).toList ++ requirementsFrom true rest
  | false, line :: rest =>
    match directive (trim line) with
    | .block => requirementsFrom true rest
    | .require found => found.toList ++ requirementsFrom false rest
    | .other => requirementsFrom false rest

/-- The requirements of a module with this `content`, in order. -/
def requirements (content : List Char) : List Dependency := requirementsFrom false (lines content)

end CodeHealth.GoMod
