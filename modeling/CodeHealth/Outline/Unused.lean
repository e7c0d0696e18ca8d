import CodeHealth.Data.Keyed
import CodeHealth.Outline.Profile

/-!
# Public functions without a reference

A public function counts as referenced when a call names it, or when its name occurs more than once
in all the sources together, as plain text. The place where it is declared is no call.

`Profile.unusedFunctions` lists the public functions without a reference.
-/

namespace CodeHealth.Outline

open CodeHealth.Text

/-- Whether a `name` is that of a test: `test` or `Test`, alone or before an underscore, an
upper-case letter or a digit. -/
def isTestName (name : List Char) : Bool :=
  match (stripStart "test".toList name).or (stripStart "Test".toList name) with
  | none => false
  | some [] => true
  | some (c :: _) => c == '_' || isUppercase c || isDigit c

/-- The name in a call `content`: what stands before it and the parenthesis after it are left out.
Also gives how many characters stand before it. -/
def calledName (content : List Char) : Nat × List Char :=
  let before := content.takeWhile fun c => !isIdentifier c
  let name := content.drop before.length
  (before.length, trimEnd (name.reverse.dropWhile (· == '(')).reverse)

namespace Profile

/-- Whether a function called `name` is never reported as unused: an entry point, or a test. -/
def isExempt (p : Profile) (name : List Char) : Bool :=
  p.entryPoints.contains (String.ofList name) || isTestName name

/-- The public function that a `line` declares, and where its name starts. -/
def declaredOn? (p : Profile) (line : List Char) : Option Pattern.Group := do
  let group ← (← p.exported.find? line).group? 1
  if group.content.isEmpty then none else some group

/-- The names called on a `line`. The declaration on the line (`declaredOn?`) is no call. -/
def calledOn (p : Profile) (line : List Char) : List (List Char) :=
  let declared := (p.declaredOn? line).map Pattern.Group.position
  p.calls.flatMap fun pattern =>
    (pattern.findAll line).filterMap fun call =>
      let (offset, name) := calledName call.content
      if name.isEmpty || declared == some (call.position + offset) then none else some name

/-- A public function and where it is declared, as `publicFunctions` finds it. -/
structure Declared where
  name : List Char
  file : String
  line : Nat

/-- The public functions declared on these lines that may be reported, the first line having the
number `line`. -/
def declaredFrom (p : Profile) (file : String) : Nat → List (List Char) → List Declared
  | _, [] => []
  | line, current :: rest =>
    let here := match p.declaredOn? current with
      | some group => if p.isExempt group.content then [] else [⟨group.content, file, line⟩]
      | none => []
    here ++ p.declaredFrom file (line + 1) rest

/-- The public functions of some `sources`, a later one in place of an earlier one of its name
(`latestOf`). -/
def publicFunctions (p : Profile) (sources : List (String × List Char)) : List Declared :=
  latestOf Declared.name
    (sources.flatMap fun (file, source) => p.declaredFrom file 1 (lines source))

/-- The names called in some `sources`. -/
def calledNames (p : Profile) (sources : List (String × List Char)) : List (List Char) :=
  sources.flatMap fun (_, source) => (lines source).flatMap p.calledOn

/-- The sources joined by line feeds, in which `count` looks for names. -/
def corpus : List (String × List Char) → List Char
  | [] => []
  | [(_, source)] => source
  | (_, source) :: rest => source ++ '\n' :: corpus rest

/-- The public functions of some `sources` that no call names and whose names do not occur again in
the `corpus`. -/
def unusedFunctions (p : Profile) (sources : List (String × List Char)) : List UnusedFunction :=
  let called := p.calledNames sources
  let text := corpus sources
  UnusedFunction.sorted
    (((p.publicFunctions sources).filter fun d =>
      !called.contains d.name && count d.name text ≤ 1).map fun d =>
        ⟨d.file, String.ofList d.name, d.line⟩)

end Profile

end CodeHealth.Outline
