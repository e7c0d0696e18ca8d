import CodeHealth.Go.Parser

/-!
# Reading Go types, parameters and signatures

The parsers take the parsers for nested constructs as an argument. The flag `newline` says whether
the place lets a statement end after the type, so that a line feed there is not a blank.

* `typeOf` reads any type;
* `parameters` and `signature` read what follows the name of a function;
* `typeParameters` reads a list of type parameters.
-/

namespace CodeHealth.Go

open CodeHealth.Go.Parser

/-- A type with others after bars: an element of a constraint. A type alone stays as it is, and
several make a `unionType`. -/
def typeElement (g : Nested) (newline : Bool) : Parser Phrase := do
  let first ← g.type newline
  let types ← iterate Phrase.heavierOf (fun seen => peek fun ts =>
    if sees newline .bar ts then do
      let _ ← mark .bar
      return .more ((← g.type newline) :: seen)
    else return .done seen) g.fuel [first]
  match types with
  | [t] => return t
  | many => return .node .unionType first.line many.reverse

/-- Types in brackets, each a `typeElement`. -/
def bracketedTypes (g : Nested) : Parser (List Phrase) := do
  let _ ← mark .bracketL
  let types ← listOf g.fuel (typeElement g false)
  optionalMark .comma
  let _ ← mark .bracketR
  return types

/-- Types after a comma, when a comma and a `typeElement` follow. -/
def furtherTypes (g : Nested) : Parser (List Phrase) := peek fun ts =>
  if sees false .comma ts then
    orDefault
      (do let _ ← mark .comma
          listOf g.fuel (typeElement g false))
      (pure [])
  else pure []

/-- Types in brackets at a place where the bracket could also open the length of an array. The first
is then read as a `Reading`, which may be either. -/
def lengthOrTypes (g : Nested) : Parser (List Phrase) := do
  let _ ← mark .bracketL
  let first ← g.reading Follow.inner
  let others ← furtherTypes g
  optionalMark .comma
  let _ ← mark .bracketR
  match first.type with
  | some t => return t.asType :: others
  | none => fail

/-- A type that starts with a name: the name alone, with a package before it, and with type
arguments after it. A name that `mayBeField` could also name something of the type that follows. -/
def namedType (g : Nested) (newline mayBeField : Bool) : Parser Phrase := peek fun ts =>
  match skip ts with
  | ⟨.identifier name, line, _⟩ :: rest => resume rest do
    let alone := Phrase.leaf (.typeName name) line
    let qualified := sees newline .dot rest
    let base ←
      if qualified then do
        let _ ← mark .dot
        pure (Phrase.node .qualifiedType line [alone, ← identifier])
      else pure alone
    peek fun ts =>
      if sees newline .bracketL ts then do
        let types ← if mayBeField && !qualified then lengthOrTypes g else bracketedTypes g
        return .node .genericType line [base, .node .typeArguments (lineOf ts) types]
      else return base
  | _ => fail

/-- A type preceded by a tilde: all types with that underlying type. Its kind is
`Kind.negatedType`. -/
def negatedType (g : Nested) (newline : Bool) : Parser Phrase := do
  let line ← mark .tilde
  return .node .negatedType line [← g.type newline]

/-- The given `type` with the type arguments that follow (`bracketedTypes`). -/
def genericOf (g : Nested) (type : Phrase) : Parser Phrase := peek fun ts => do
  return .node .genericType type.line
    [type, .node .typeArguments (lineOf ts) (← bracketedTypes g)]

/-- A type preceded by a tilde (`negatedType`), with type arguments when some follow. -/
def negatedOrGeneric (g : Nested) (newline : Bool) : Parser Phrase := do
  let type ← negatedType g newline
  peek fun ts =>
    if sees newline .bracketL ts then either (genericOf g type) (pure type) else return type

mutual

/-- The type that gets the type arguments at the end of a type, and these, when it ends in some:
those of the first `genericType` on the way along last parts. -/
def Tree.genericEnd? : Tree → Option (Tree × List Tree)
  | .node .genericType _ [base, .node .typeArguments _ types] => some (base, types)
  | .node .sliceType _ parts | .node .arrayType _ parts | .node .mapType _ parts
  | .node .channelType _ parts | .node .pointerType _ parts | .node .negatedType _ parts
  | .node .functionType _ parts => lastGenericEnd? parts
  | _ => none

/-- The type that gets the type arguments at the end of the last of these (`Tree.genericEnd?`), and
these arguments. -/
def lastGenericEnd? : List Tree → Option (Tree × List Tree)
  | [] => none
  | [t] => t.genericEnd?
  | _ :: rest => lastGenericEnd? rest

end

/-- What a type weighs less when the type arguments at its end belong to it as a whole, and the type
`base` before them alone stands at a place for any type (`asType`). -/
def endWeight (base : Tree) : Int :=
  let alone : Phrase := ⟨base, 0⟩
  alone.asType.weight

/-- A type `t` preceded by a tilde as a generic type, when it ends in type arguments
(`Tree.genericEnd?`). -/
def negatedGeneric? (t : Phrase) : Option Phrase :=
  match t.kind with
  | .negatedType => t.tree.genericEnd?.map fun (base, types) =>
    ⟨.node .genericType t.line [t.tree, .node .typeArguments t.line types],
      t.weight + endWeight base⟩
  | _ => none

/-! ### Parameters -/

/-- One entry between the parentheses of a parameter list, before `groupParameters` decides which
names share a type. -/
inductive ParameterEntry where
  /-- A type alone, or a name whose type follows a later name. -/
  | bare (type : Phrase)
  /-- A name with its type. -/
  | named (name type : Phrase)
  /-- An entry with an ellipsis: the type, with a name before it or without. -/
  | variadic (parts : List Phrase)

/-- An entry of a parameter list, in each way it can be read as a `ParameterEntry`. -/
def parameterEntry (g : Nested) : Parser ParameterEntry := peek fun ts =>
  if sees false .ellipsis ts then do
    let _ ← mark .ellipsis
    return .variadic [← g.type false]
  else
    let type : Parser Phrase := match ahead false ts with
      | some (.identifier _) => do return (← namedType g false true).asType
      | _ => g.type false
    either (do return .bare (← type)) do
      let name ← identifier
      peek fun ts =>
        if sees false .ellipsis ts then do
          let _ ← mark .ellipsis
          return .variadic [name, ← g.type false]
        else do
          return .named name (← g.type false)

/-- A parameter of a `type` without a name. -/
def unnamedParameter (type : Phrase) : Phrase := .node .parameter type.line [type]

/-- The line of the first of the phrases `parts`, and zero where there is none. -/
def firstLine (parts : List Phrase) : Nat := (parts.head?.map Phrase.line).getD 0

/-- How many names can share the type of the last of them in `groupParameters`. -/
def sharedNames : Nat := 9

/-- Parameters from entries: the `names` before a named entry share its type, and those beyond
`sharedNames` are types of their own. The names seen so far are held in reverse. -/
def groupParameters (names : List Phrase) : List ParameterEntry → List Phrase
  | [] => names.reverse.map unnamedParameter
  | .variadic parts :: rest =>
    names.reverse.map unnamedParameter ++
      .node .variadicParameter (firstLine parts) parts :: groupParameters [] rest
  | .named name type :: rest =>
    -- The names are in reverse, so those nearest to the type come first.
    let (shared, alone) := names.splitAt (sharedNames - 1)
    let shared := (name :: shared.map fun n => .leaf n.kind n.line).reverse
    alone.reverse.map unnamedParameter ++
      .node .parameter (firstLine shared) (shared ++ [type]) :: groupParameters [] rest
  | .bare type :: rest =>
    match type.kind with
    | .typeName _ => groupParameters (type :: names) rest
    | _ => names.reverse.map unnamedParameter ++
        unnamedParameter type :: groupParameters [] rest

/-- A parameter list in parentheses, grouped by `groupParameters`. Of two readings of an entry that
end at the same place, the first counts. -/
def parameters (g : Nested) : Parser Phrase := do
  let line ← mark .parenL
  let first {α : Type} (a _ : α) : α := a
  let entries ← orDefault
    (lineOfItems first false g.fuel (merge first (parameterEntry g))) (pure [])
  optionalMark .comma
  let _ ← mark .parenR
  return .node .parameterList line (groupParameters [] entries)

/-- Whether a type other than one in parentheses may start with a token. `result` looks for one
so. -/
def Lexeme.startsType : Lexeme → Bool
  | .identifier _ => true
  | .mark m => m == .star || m == .bracketL || m == .arrow || m == .tilde
  | .keyword word =>
    word == .struct || word == .interface || word == .map || word == .chan || word == .func
  | _ => false

/-- A result after parameters, when there is one: a parameter list (`parameters`) or a type. -/
def result (g : Nested) (newline : Bool) : Parser (List Phrase) := peek fun ts =>
  match ahead newline ts with
  | some (.mark .parenL) => do return [← parameters g]
  | some lexeme => if lexeme.startsType then do return [← g.type newline] else return []
  | none => return []

/-- Parameters and a `result` that may be left out. -/
def signature (g : Nested) (newline : Bool) : Parser (List Phrase) := do
  let parameters ← parameters g
  return parameters :: (← result g newline)

/-- Type parameters in brackets. Every name needs a constraint (`typeElement`) after it or after a
later name. -/
def typeParameters (g : Nested) : Parser Phrase := do
  let line ← mark .bracketL
  let entries ← lineOfItems (fun a _ => a) false g.fuel do
    let name ← identifier
    either (do return ([name, ← typeElement g false], true)) (pure ([name], false))
  optionalMark .comma
  let _ ← mark .bracketR
  match entries.getLast? with
  | some (_, true) => return .node .typeParameters line (entries.flatMap (·.1))
  | _ => fail

/-! ### Structures and interfaces -/

/-- A `string` that labels a field, when there is one on the same line. -/
def fieldTag : Parser (List Phrase) := peek fun ts =>
  match here ts with
  | ⟨.string text, line, _⟩ :: rest => resume rest (pure [.leaf (.string text) line])
  | _ => pure []

/-- A field of a structure: names with a type, or an embedded type. A line feed after the first name
ends the field, and of two readings the `heavier` counts. -/
def field (g : Nested) : Parser Phrase := peek fun ts => merge Phrase.heavier do
  let embedded (mayBeField : Bool) : Parser (List Phrase) := peek fun ts =>
    if sees false .tilde ts then do
      let type ← negatedType g false
      match negatedGeneric? type with
      | some generic => either (pure [generic]) do return [← genericOf g type]
      | none => return [← genericOf g type]
    else do return [← namedType g true mayBeField]
  let unnamed : Parser (List Phrase) :=
    if sees false .star ts then do
      let _ ← mark .star
      embedded false
    else embedded true
  let named : Parser (List Phrase) := do
    let first ← identifier
    let others ← peek fun ts =>
      match here ts with
      | ⟨.newline, _, _⟩ :: _ => fail
      | ⟨.mark .comma, _, _⟩ :: rest => resume rest (listOf g.fuel identifier)
      | _ => pure []
    return first :: others ++ [← g.type true]
  let parts ← either unnamed named
  return .node .field (lineOf ts) (parts ++ (← fieldTag))

/-- A structure type: `struct` and its fields in braces. -/
def structType (g : Nested) : Parser Phrase := do
  let line ← keyword .struct
  let _ ← mark .braceL
  return .node .structType line (← terminated g.fuel false .braceR fun _ => field g)

/-- An element of an interface: a method, or types with bars between them (`typeElement`). -/
def interfaceElement (g : Nested) : Parser Phrase := peek fun ts =>
  match skip ts with
  | ⟨.identifier name, line, _⟩ :: rest =>
    if sees true .parenL rest then resume rest do
      return .node .methodElement line (.leaf (.identifier name) line :: (← signature g true))
    else typeElement g true
  | _ => typeElement g true

/-- An interface type: `interface` and its elements in braces. -/
def interfaceType (g : Nested) : Parser Phrase := do
  let line ← keyword .interface
  let _ ← mark .braceL
  return .node .interfaceType line (← terminated g.fuel false .braceR fun _ => interfaceElement g)

/-! ### All types -/

/-- The comments directly in front of the tokens `ts`, as phrases. -/
def leadingComments (ts : List Token) : List Phrase :=
  ((ts.takeWhile fun t => t.lexeme == .comment || t.lexeme == .newline).filter
    fun t => t.lexeme == .comment).map fun t => .leaf .comment t.line

/-- A channel type from its reserved word `chan` on. -/
def channelType (g : Nested) (newline : Bool) : Parser Phrase := do
  let line ← keyword .chan
  optionalMark .arrow
  return .node .channelType line [← g.type newline]

/-- A map type: `map`, the type of the keys in brackets, and the type of the values. -/
def mapType (g : Nested) (newline : Bool) : Parser Phrase := do
  let line ← keyword .map
  let _ ← mark .bracketL
  let key ← g.type false
  let _ ← mark .bracketR
  return .node .mapType line [key, ← g.type newline]

/-- A slice type, or an array type with its length, from the bracket on. The length is any
expression (`Nested.expression`). -/
def bracketType (g : Nested) (newline : Bool) : Parser Phrase := do
  let line ← mark .bracketL
  peek fun ts =>
    if sees false .bracketR ts then do
      let _ ← mark .bracketR
      return .node .sliceType line [← g.type newline]
    else do
      let length ← g.expression Follow.inner
      let _ ← mark .bracketR
      return .node .arrayType line [length, ← g.type newline]

/-- A pointer type. Comments between the star and the type are children in front of the type
(`leadingComments`). -/
def pointerType (g : Nested) (newline : Bool) : Parser Phrase := do
  let line ← mark .star
  peek fun ts => do return .node .pointerType line (leadingComments ts ++ [← g.type newline])

/-- A type in parentheses, which keeps a node of its own (`Kind.parenthesizedType`). -/
def parenthesizedType (g : Nested) : Parser Phrase := do
  let line ← mark .parenL
  let inner ← g.type false
  let _ ← mark .parenR
  return .node .parenthesizedType line [inner]

/-- A channel type that only receives: an arrow before `chan`. -/
def receiveType (g : Nested) (newline : Bool) : Parser Phrase := do
  let line ← mark .arrow
  let _ ← keyword .chan
  return .node .channelType line [← g.type newline]

/-- A function type: `func` and a `signature`. -/
def functionType (g : Nested) (newline : Bool) : Parser Phrase := do
  let line ← keyword .func
  return .node .functionType line (← signature g newline)

/-- Any type, by the token it starts with, as it weighs at a place for any type (`asType`). -/
def typeOf (g : Nested) (newline : Bool) : Parser Phrase :=
  merge Phrase.heavier <| peek fun ts => do
  let found ← match ahead false ts with
    | some (.identifier _) => namedType g newline false
    | some (.mark .star) => pointerType g newline
    | some (.mark .bracketL) => bracketType g newline
    | some (.mark .parenL) => parenthesizedType g
    | some (.mark .tilde) => negatedOrGeneric g newline
    | some (.mark .arrow) => receiveType g newline
    | some (.keyword .chan) => channelType g newline
    | some (.keyword .map) => mapType g newline
    | some (.keyword .struct) => structType g
    | some (.keyword .interface) => interfaceType g
    | some (.keyword .func) => functionType g newline
    | _ => fail
  return found.asType

end CodeHealth.Go
