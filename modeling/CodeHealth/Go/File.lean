import CodeHealth.Go.Lexer
import CodeHealth.Go.Statements

/-!
# Reading Go files

A file is a list of declarations and statements with terminators after them. A declaration of a
function, an import or a package may end the file without one.

* `grammar` ties the parsers together: each level of nesting uses the parsers one level down;
* `parse?` gives the tree of a source, when the whole source can be read.
-/

namespace CodeHealth.Go

open CodeHealth.Go.Parser

/-- The parsers for constructs nested at most `fuel` levels deep, each built from those one level
down; `bound` limits repetitions. At level zero every parser is `fail`. -/
def grammar (bound : Nat) : Nat → Nested
  | 0 => ⟨bound, fun _ => fail, fun _ => fail, fun _ => fail, fail, fail, fail⟩
  | fuel + 1 =>
    { fuel := bound
      type := fun newline => remember newline.toNat fun ts memory =>
        typeOf (grammar bound fuel) newline ts memory
      reading := fun follow => rememberReading follow.code fun ts memory =>
        readingAt (grammar bound fuel) follow ts memory
      unary := fun follow ts memory => unaryOperand (grammar bound fuel) follow ts memory
      literalValue := remember 2 fun ts memory => literalValue (grammar bound fuel) ts memory
      block := remember 3 fun ts memory => blockOf (grammar bound fuel) ts memory
      statement := remember 4 fun ts memory => statementOf (grammar bound fuel) ts memory }

/-! ### Declarations of a file -/

/-- The package a file belongs to: `package` and a name. -/
def packageClause : Parser Phrase := do
  let line ← keyword .package
  return .node .packageClause line [← identifier]

/-- An imported package: its path, with a name, an underscore or a dot before it. The path is a
`string`. -/
def importSpec : Parser Phrase := peek fun ts =>
  let path : Parser Phrase := peek fun ts =>
    match skip ts with
    | ⟨.string text, line, _⟩ :: rest => resume rest (pure (.leaf (.string text) line))
    | _ => fail
  let line := lineOf ts
  match skip ts with
  | ⟨.identifier name, _, _⟩ :: rest => resume rest do
    return .node .importSpec line [.leaf (.identifier name) line, ← path]
  | ⟨.mark .dot, _, _⟩ :: rest => resume rest do return .node .importSpec line [← path]
  | _ => do return .node .importSpec line [← path]

/-- A function declaration: `func`, a name, type parameters or none, and a `signature`. Its body may
be left out. -/
def functionDeclaration (g : Nested) : Parser Phrase := do
  let line ← keyword .func
  let name ← identifier
  let types ← peek fun ts =>
    if sees false .bracketL ts then do pure [← typeParameters g] else pure []
  let signature ← signature g true
  let body ← peek fun ts => if sees true .braceL ts then do pure [← g.block] else pure []
  return .node .functionDeclaration line (name :: types ++ signature ++ body)

/-- The start of a method declaration: its line, the receiver and the name, with a parenthesis after
them. `fileItem` tells a method by it. -/
def methodHead (g : Nested) : Parser (Nat × Phrase × Phrase) := do
  let line ← keyword .func
  let receiver ← parameters g
  let name ← identifier
  peek fun ts => if sees false .parenL ts then return (line, receiver, name) else fail

/-- A method declaration after its start, which `methodHead` has read. -/
def methodDeclaration (g : Nested) (line : Nat) (receiver name : Phrase) : Parser Phrase := do
  let signature ← signature g true
  let body ← peek fun ts => if sees true .braceL ts then do pure [← g.block] else pure []
  return .node .methodDeclaration line (receiver :: name :: signature ++ body)

/-- An item of a file, and whether it may end the file without a terminator. What starts like a
method (`methodHead`) is one, and no statement. -/
def fileItem (g : Nested) : Parser (Phrase × Bool) := peek fun ts =>
  match skip ts with
  | ⟨.keyword .package, _, _⟩ :: _ => do return (← packageClause, true)
  | ⟨.keyword .import, _, _⟩ :: _ => do
    return (← declaration g .import .importDeclaration false fun _ => importSpec, true)
  | ⟨.keyword .func, _, _⟩ :: rest =>
    if sees false .parenL rest then do
      match ← orDefault (do return some (← methodHead g)) (pure none) with
      | some (line, receiver, name) => return (← methodDeclaration g line receiver name, true)
      | none => return (← g.statement, false)
    else do return (← functionDeclaration g, true)
  | _ => do return (← g.statement, false)

/-- The items of a file up to its end, each a `fileItem`. -/
def fileItems (g : Nested) : Parser (List Phrase) := do
  let found ← iterate Phrase.heavierOf (fun seen => peek fun ts =>
    if (skip ts).isEmpty then return .done seen
    else do
      let (item, closes) ← fileItem g
      peek fun ts =>
        if seesTerminator ts then do
          terminator
          return .more (item :: seen)
        else if closes && (skip ts).isEmpty then return .done (item :: seen)
        else fail) g.fuel []
  return found.reverse

/-- The tree of a `source`, when the whole source can be read as a file. The number of its tokens
bounds both the nesting and the repetitions of `grammar`. -/
def parse? (source : List Char) : Option Tree := do
  let tokens ← Lexer.tokens? source
  let bound := tokens.length + 2
  let items ← (fileItems (grammar bound (4 * bound + 64))).run? tokens
  return .node .file 1 (items.map Phrase.tree)

end CodeHealth.Go
