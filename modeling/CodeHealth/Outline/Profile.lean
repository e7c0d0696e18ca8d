import CodeHealth.Boundary
import CodeHealth.Outline.Span
import CodeHealth.Pattern

/-!
# Analysis line by line

A profile says how one language looks on the level of lines: what declares a function, how bodies
are delimited, which patterns are decisions, and how imports, exports and calls are written. The
analyses work for every profile.

* `Profile.functionMeasures` measures the functions of a source;
* `Profile.imports` lists its imports.

Bodies are found by text alone, so a function inside another one is counted in both.
-/

namespace CodeHealth.Outline

open CodeHealth.Text CodeHealth.Boundary

/-- What the analyses know of a language that is read line by line. `Language.profile?` gives it for
every language but Go. -/
structure Profile where
  /-- A line that declares a function. -/
  signature : Pattern
  /-- The name a declaration gives, when it gives one. -/
  functionName : Pattern.Match → Option (List Char)
  /-- Names that are not reported. -/
  hides : List Char → Bool
  /-- How the bodies of functions are delimited. -/
  style : Style
  /-- Whether declarations without a body are reported. -/
  keepsBodiless : Bool
  /-- Each adds one to the complexity for every line it occurs in. -/
  decisions : List Pattern
  /-- What a line starts with that is not searched for decisions. -/
  comment : Option (List Char)
  /-- The first group is the path. -/
  importPatterns : List Pattern
  /-- The first group is the name of a public function. -/
  exported : Pattern
  /-- Each match holds the name of a function that is called. -/
  calls : List Pattern
  /-- Names that are called from outside. -/
  entryPoints : List String

/-- The name of a function whose declaration gives none (`functionName`). -/
def anonymous : List Char := "anonymous".toList

/-- Words that a signature may take for a name. `declaredName?` gives none of them. -/
def reservedNames : List (List Char) :=
  ["if", "else", "elseif", "for", "foreach", "while", "do", "switch", "case", "catch", "try",
    "return", "new", "throw", "function", "using", "lock", "synchronized", "match", "await",
    "typeof", "sizeof", "when"].map String.toList

/-- Words at the start of a line that declares nothing, whatever its `signature` looks like. -/
def statementWords : List (List Char) :=
  ["return", "new", "throw", "else", "await", "yield", "echo"].map String.toList

/-- The identifier that a `line` starts with, blanks aside. -/
def firstIdentifier (line : List Char) : List Char := (trimStart line).takeWhile isIdentifier

namespace Profile

/-- The name of the function that a `line` declares, when it declares one that is reported. -/
def declaredName? (p : Profile) (line : List Char) : Option (List Char) :=
  if statementWords.contains (firstIdentifier line) then none
  else do
    let found ← p.signature.find? line
    let name := match p.functionName found with
      | some (c :: rest) => c :: rest
      | _ => anonymous
    if reservedNames.contains name || p.hides name then none else some name

/-- The decisions on a `line` of a body: one for each of the `decisions` of the profile that occurs
in it, and none on a comment. -/
def lineDecisions (p : Profile) (line : List Char) : Nat :=
  if p.comment.any fun comment => comment.isPrefixOf (trimStart line) then 0
  else p.decisions.countP fun pattern => pattern.occurs line

/-- The decisions on several `lines`, added up. -/
def decisionsOn (p : Profile) (lines : List (List Char)) : Nat :=
  lines.foldr (fun line n => p.lineDecisions line + n) 0

/-- The measure of the function declared on the first of these `lines`, whose number is `line`, when
there is one to report. -/
def measureAt? (p : Profile) (file : String) (line : Nat) (lines : List (List Char)) :
    Option FunctionMeasure := do
  let name ← p.declaredName? (← lines.head?)
  let extent := p.style.extent lines
  if extent.hasBody || p.keepsBodiless then
    let body := (lines.drop extent.start).take (extent.stop - extent.start)
    some ⟨file, String.ofList name, line, 1 + p.decisionsOn body⟩
  else none

/-- The measures of the functions declared on these lines, the first of which has the number
`line`. -/
def measuresFrom (p : Profile) (file : String) : Nat → List (List Char) → List FunctionMeasure
  | _, [] => []
  | line, current :: rest =>
    (p.measureAt? file line (current :: rest)).toList ++ p.measuresFrom file (line + 1) rest

/-- The functions declared on some `lines`, with their complexities, in order. -/
def measures (p : Profile) (file : String) (lines : List (List Char)) : List FunctionMeasure :=
  p.measuresFrom file 1 lines

/-- The functions of a `source` with their complexities, in order. -/
def functionMeasures (p : Profile) (file : String) (source : List Char) : List FunctionMeasure :=
  p.measures file (lines source)

/-- The imports on a line: at most one for each of the `importPatterns`, in their order. -/
def importsOn (p : Profile) (line : Nat) (content : List Char) : List Import :=
  p.importPatterns.filterMap fun pattern => do
    let found ← pattern.find? content
    return ⟨← found.text? 1, line⟩

/-- The imports on these lines, the first of which has the number `line`. -/
def importsFrom (p : Profile) : Nat → List (List Char) → List Import
  | _, [] => []
  | line, current :: rest => p.importsOn line current ++ p.importsFrom (line + 1) rest

/-- The imports of a `source`, in order. -/
def imports (p : Profile) (source : List Char) : List Import := p.importsFrom 1 (lines source)

end Profile

end CodeHealth.Outline
