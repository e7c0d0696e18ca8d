import CodeHealth.Dependency.Spec
import CodeHealth.Text.Lines
import CodeHealth.Text.Search

/-!
# Requirements of Python projects

A file of requirements has one on each line, with comments and options in between. A project file
lists them in an array or a table; their versions are not taken from there.
-/

namespace CodeHealth.Requirements

open CodeHealth.Text

/-- Whether `c` is a character of the name of a distribution. -/
def isNameChar (c : Char) : Bool := isAlphanumeric c || c == '-' || c == '_' || c == '.'

/-- The name at the start of a requirement: as far as characters are `isNameChar`. -/
def leadingName (entry : List Char) : List Char := entry.takeWhile isNameChar

/-- The `text` before the first occurrence of the character `c`. -/
def before (c : Char) (text : List Char) : List Char := text.takeWhile (· != c)

/-- What may stand between a name and a version, in the order in which `version` looks for them. -/
def separators : List (List Char) := ["==", ">=", "<=", "~=", "!="].map String.toList

/-- What follows the first occurrence of a `separator` that is not at the start of the `line`. -/
def afterSeparator? (line separator : List Char) : Option (List Char) :=
  match breakOn separator line with
  | some (_ :: _, rest) => some rest
  | _ => none

/-- The version of a requirement: what its first constraint asks for, or nothing. Constraints are
looked for in the order of `separators`, not in that of the line. -/
def version (line : List Char) : List Char :=
  match separators.findSome? (afterSeparator? line) with
  | some rest => trim (before ',' rest)
  | none => []

/-- The `line` without its comment, its marker, and white space around what is left. -/
def stripped (line : List Char) : List Char := trim (before ';' (trim (before '#' line)))

/-- The requirement on a `line`, unless it is an option or has no name. -/
def requirement? (line : List Char) : Option Dependency :=
  let line := stripped line
  if line.head? == some '-' then none
  else
    match leadingName line with
    | [] => none
    | name => some (Dependency.ofNamed .pyPI name (version line))

/-- The requirements of a file of them, in order, one line after the other (`requirement?`). -/
def ofFile (content : List Char) : List Dependency := (lines content).filterMap requirement?

/-- Lines that open a list of requirements in a project file, for `ofProject`. -/
def listStarts : List (List Char) :=
  ["dependencies = [", "[tool.poetry.dependencies]"].map String.toList

/-- Whether `c` is a quote or a comma, such as may stand around a requirement in a list. -/
def isQuoteOrComma (c : Char) : Bool := c == '"' || c == '\'' || c == ','

/-- The requirement on a `line` of a list. The language itself is none. -/
def listed? (line : List Char) : Option Dependency :=
  match leadingName (trimClass isQuoteOrComma line) with
  | [] => none
  | name => if name == "python".toList then none else some (Dependency.ofNamed .pyPI name [])

/-- The requirements on these lines of a project file, which are `inside` of a list or not. -/
def listedFrom : Bool → List (List Char) → List Dependency
  | _, [] => []
  | inside, line :: rest =>
    let line := trim line
    if listStarts.contains line then listedFrom true rest
    else if !inside || line.head? == some '[' || line == [']'] then listedFrom false rest
    else (listed? line).toList ++ listedFrom true rest

/-- The requirements of a project file with this `content`, in order and without versions. -/
def ofProject (content : List Char) : List Dependency := listedFrom false (lines content)

end CodeHealth.Requirements
