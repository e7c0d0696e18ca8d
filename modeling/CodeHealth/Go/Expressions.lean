import CodeHealth.Go.Types

/-!
# Reading Go expressions

An operand is read as an expression and as a type at once, and each suffix keeps the readings it
fits. What the tokens cannot decide is settled by weight.

* What stands in parentheses after type arguments is converted, when it is one plain argument, or it
  is passed: to the element that the brackets select, or to the function that they give type
  arguments. The heaviest of these counts, and the first of them when they weigh the same.
* In the head of a statement, a brace after a plain name opens the body. After a name with a
  package or with type arguments, both the literal and the body are tried.

Main parsers: `suffixes` reads what follows an operand, `operatorLevel` reads the operators between
operands by their precedence, and `literalValue` reads the braces of a composite literal.
-/

namespace CodeHealth.Go

open CodeHealth.Go.Parser

/-! ### Readings of types -/

/-- A type `t` that does not start with a name. When it ends in type arguments without bars between
them (`Tree.genericEnd?`), these may also belong to the type before them as a whole, which makes an
expression. -/
def typeReading (t : Phrase) : Reading :=
  let whole := t.tree.genericEnd?.bind fun (base, types) =>
    if types.all fun t => t.kind != .unionType then
      some ⟨.node .instantiation t.line [t.tree],
        t.asType.weight - Kind.genericType.weight - Kind.typeArguments.weight
          + endWeight base + Kind.instantiation.weight⟩
    else none
  ⟨whole, some t, none⟩

/-- The reading `r`, unless it is empty (`Reading.isEmpty`). -/
def readingOf (r : Reading) : Parser Reading := if r.isEmpty then fail else pure r

/-- A type `t` as it stands before the braces of a composite literal, when it may stand there. A
pointer or function type may not. -/
def literalType? (t : Phrase) : Option Phrase :=
  match t.kind with
  | .typeName _ | .qualifiedType | .genericType | .arrayType | .sliceType | .mapType
  | .structType => some t
  | _ => negatedGeneric? t

/-- Whether a type of this kind may be given type arguments (`instanceSuffix`). -/
def Kind.takesArguments : Kind → Bool
  | .typeName _ | .qualifiedType | .negatedType => true
  | _ => false

/-! ### Composite literals and arguments -/

/-- An expression or a nested `literalValue`. -/
def literalItem (g : Nested) : Parser Phrase := peek fun ts =>
  if sees false .braceL ts then g.literalValue else g.expression Follow.inner

/-- An element of a literal value (`literalItem`), with its key when it has one. -/
def literalElement (g : Nested) : Parser Phrase := do
  let item ← literalItem g
  peek fun ts =>
    if sees false .colon ts then do
      let _ ← mark .colon
      return .node .keyedElement item.line [item, ← literalItem g]
    else return item

/-- The elements of a composite literal in braces, each a `literalElement`. There may be none. -/
def literalValue (g : Nested) : Parser Phrase := do
  let line ← mark .braceL
  let elements ← orDefault (listOf g.fuel (literalElement g)) (pure [])
  optionalMark .comma
  let _ ← mark .braceR
  return .node .literalValue line elements

/-- An argument of a call, which may be spread by an ellipsis (`Kind.spread`). -/
def argument (g : Nested) : Parser Phrase := do
  let e ← g.expression Follow.inner
  peek fun ts =>
    if sees false .ellipsis ts then do
      let _ ← mark .ellipsis
      return .node .spread e.line [e]
    else return e

/-- The arguments of a call in parentheses, each an `argument`. There may be none. -/
def arguments (g : Nested) : Parser (List Phrase) := do
  let _ ← mark .parenL
  peek fun ts =>
    if sees false .parenR ts then do
      let _ ← mark .parenR
      return []
    else do
      let items ← listOf g.fuel (argument g)
      optionalMark .comma
      let _ ← mark .parenR
      return items

/-- The arguments of `new` and `make`: a type, then expressions. -/
def typeFirstArguments (g : Nested) : Parser (List Phrase) := do
  let _ ← mark .parenL
  peek fun ts =>
    if sees false .parenR ts then do
      let _ ← mark .parenR
      return []
    else do
      let type ← g.type false
      let others ← peek fun ts =>
        if sees false .comma ts then
          orDefault
            (do let _ ← mark .comma
                g.expressions Follow.inner)
            (pure [])
        else pure []
      optionalMark .comma
      let _ ← mark .parenR
      return type :: others

/-! ### Suffixes -/

/-- A call of a `function`, which may have type arguments. -/
def call (function : Phrase) (types arguments : List Phrase) : Phrase :=
  .node .call function.line
    (function :: types ++ [.node .arguments function.line arguments])

/-- The conversion to a `type`, when the arguments are one plain argument. A `spread` one is not
plain. -/
def conversion? (type : Phrase) : List Phrase → Option Phrase
  | [e] => if e.kind == .spread then none else some (.node .conversion type.line [type.asType, e])
  | _ => none

/-- A call of what was read so far, or a conversion to it: the heaviest of the three ways to take
`r`. -/
def callSuffix (g : Nested) (r : Reading) : Parser Reading := do
  let arguments ← arguments g
  let converted := r.plainType.bind fun t => conversion? t arguments
  let called := r.expression.map fun f => call f [] arguments
  let instantiated := r.instance?.map fun i => call i.function [i.arguments] arguments
  match Phrase.heavier? converted (Phrase.heavier? called instantiated) with
  | some e => return .ofExpression e
  | none => fail

/-- The end of a slice expression after its first colon, where `start` holds the bound before it if
there is one. -/
def sliceSuffix (g : Nested) (operand : Phrase) (start : List Phrase) : Parser Reading := do
  let _ ← mark .colon
  let bounds ← peek fun ts =>
    if sees false .bracketR ts then pure []
    else do
      let stop ← g.expression Follow.inner
      peek fun ts =>
        if sees false .colon ts then do
          let _ ← mark .colon
          return [stop, ← g.expression Follow.inner]
        else return [stop]
  let _ ← mark .bracketR
  return .ofExpression (.node .slice operand.line (operand :: start ++ bounds))

/-- An index or a slice of the expression `operand`, or type arguments for it. A comma at the end
leaves only type arguments. -/
def indexSuffix (g : Nested) (operand : Phrase) : Parser Reading := do
  let line ← mark .bracketL
  peek fun ts =>
    if sees false .colon ts then sliceSuffix g operand []
    else do
      let first ← g.reading Follow.inner
      peek fun ts => do
        match first.expression, ahead false ts with
        | some start, some (.mark .colon) => sliceSuffix g operand [start]
        | item, following =>
          let others ← furtherTypes g
          optionalMark .comma
          let _ ← mark .bracketR
          -- An index has one item, and no comma behind it.
          let index := if following == some (.mark .bracketR) then item else none
          let types := first.type.map fun t => Phrase.node .typeArguments line (t.asType :: others)
          readingOf ⟨index.map fun item => .node .index operand.line [operand, item], none,
            types.map fun types => ⟨operand, types⟩⟩

/-- Type arguments of a `type`. They make a generic type, and an expression that stands for it
unless one of them is a union. -/
def instanceSuffix (g : Nested) (type : Phrase) : Parser Reading := peek fun ts => do
  let types ← bracketedTypes g
  let generic := Phrase.node .genericType type.line
    [type, .node .typeArguments (lineOf ts) types]
  let whole := Phrase.node .instantiation type.line (type.asType :: types)
  readingOf ⟨if types.all fun t => t.kind != .unionType then some whole else none,
    if type.kind.takesArguments then some generic else none, none⟩

/-- Brackets after what was read so far: `indexSuffix` after the expression of `r` and
`instanceSuffix` after its type. -/
def bracketSuffix (g : Nested) (r : Reading) : Parser Reading :=
  merge Reading.join (either
    (match r.expression with
      | some e => indexSuffix g e
      | none => fail)
    (match r.plainType with
      | some t => instanceSuffix g t
      | none => fail))

/-- A member, a type assertion, or the end when a type switch follows, after what was read as
`r`. -/
def dotSuffix (g : Nested) (r : Reading) : Parser (Round Reading) := peek fun ts => do
  let _ ← mark .dot
  peek fun after =>
    match skip after with
    | ⟨.identifier name, line, _⟩ :: rest => resume rest do
      let member := Phrase.leaf (.identifier name) line
      let selected := r.expression.map fun e => Phrase.node .selector e.line [e, member]
      let qualified := r.type.bind fun t =>
        match t.kind with
        | .typeName _ => some (Phrase.node .qualifiedType t.line [t, member])
        | _ => none
      return .more (← readingOf ⟨selected, qualified, none⟩)
    | ⟨.mark .parenL, _, _⟩ :: rest =>
      -- The mark of a type switch is not part of its operand.
      if seesKeyword false .type rest then resume ts (pure (.done r))
      else resume rest do
        let type ← g.type false
        let _ ← mark .parenR
        match r.expression with
        | some e => return .more (.ofExpression (.node .typeAssertion e.line [e, type]))
        | none => fail
    | _ => fail

/-- Braces after what was read so far: a literal of the type of `r`, the start of a body, or
both. -/
def braceSuffix (g : Nested) (follow : Follow) (r : Reading) : Parser (Round Reading) :=
  let stop : Parser (Round Reading) := pure (.done r)
  match r.type.bind literalType? with
  | none => stop
  | some t =>
    let literal : Parser (Round Reading) := do
      let value ← g.literalValue
      return .more (.ofExpression (.node .compositeLiteral t.line [t, value]))
    match follow.brace, r.expression, t.kind with
      | true, some _, .typeName _ => stop
      | true, some _, _ => either stop literal
      | _, _, _ => literal

/-- One suffix of `r`, or the end, where the tokens in front have no blanks. -/
def suffixAt (g : Nested) (follow : Follow) (r : Reading) : Parser (Round Reading) := peek fun ts =>
  match ahead false ts with
  | some (.mark .dot) => dotSuffix g r
  | some (.mark .bracketL) => do return .more (← bracketSuffix g r)
  | some (.mark .parenL) => do return .more (← callSuffix g r)
  | some (.mark .braceL) => braceSuffix g follow r
  | _ => pure (.done r)

/-- One suffix, or the end. A line feed ends an expression where a statement may end
(`Follow.newline`). A type with a package or with arguments has not ended yet, nor has a function
with type arguments: read so, it goes on after the line feed. -/
def suffix (g : Nested) (follow : Follow) (r : Reading) : Parser (Round Reading) := peek fun ts =>
  if ahead (follow.newline && r.expression.isSome) ts == some .newline then
    let goesOn := r.instance?.isSome || r.type.any fun t =>
      match t.kind with
      | .typeName _ => false
      | _ => true
    let onward : Parser (Round Reading) := do
      match ← suffixAt g follow { r with expression := none } with
      | .more r => return .more r
      | .done _ => fail
    if goesOn then either (pure (.done r)) onward else pure (.done r)
  else suffixAt g follow r

/-- Everything that follows an operand `r`, one `suffix` after the other. -/
def suffixes (g : Nested) (follow : Follow) (r : Reading) : Parser Reading :=
  iterate Reading.join (suffix g follow) g.fuel r

/-! ### Operands -/

/-- The names that stand for fixed values where an expression may stand: `nil`, `true`, `false` and
`iota`. -/
def isConstantName (name : String) : Bool :=
  name == "nil" || name == "true" || name == "false" || name == "iota"

/-- The names of the built-in functions whose first argument is a type: `new` and `make`. -/
def isAllocatorName (name : String) : Bool := name == "new" || name == "make"

/-- An operand that starts with a name. A name that is neither constant (`isConstantName`) nor an
allocator may be a type as well. -/
def nameOperand (g : Nested) (follow : Follow) : Parser Reading := peek fun ts =>
  match skip ts with
  | ⟨.identifier name, line, _⟩ :: rest => resume rest do
    let alone := Phrase.leaf (.identifier name) line
    if isConstantName name then return .ofExpression (.leaf .constant line)
    else if isAllocatorName name then
      if sees follow.newline .parenL rest then
        return .ofExpression (call alone [] (← typeFirstArguments g))
      else return .ofExpression alone
    else return ⟨some alone, some (.leaf (.typeName name) line), none⟩
  | _ => fail

/-- An operand in parentheses, as an expression and as a type where `inner` has these readings. -/
def parenthesizedOperand (g : Nested) : Parser Reading := do
  let line ← mark .parenL
  let inner ← g.reading Follow.inner
  let _ ← mark .parenR
  readingOf ⟨inner.expression.map fun e => .node .parenthesized line [e],
    inner.plainType.map fun t => .node .parenthesizedType line [t.asType], none⟩

/-- An operand that starts with a bracket: a slice or array type (`bracketType`), or a literal of an
array whose length is counted. -/
def bracketOperand (g : Nested) : Parser Reading := peek fun ts => do
  let line ← mark .bracketL
  peek fun after =>
    if sees false .ellipsis after then do
      let _ ← mark .ellipsis
      let _ ← mark .bracketR
      let type := Phrase.node .openArrayType line [← g.type false]
      return .ofExpression (.node .compositeLiteral line [type, ← g.literalValue])
    else resume ts do
      return typeReading (← bracketType g false)

/-- A function literal or a function type. Before a body (`Follow.brace`) both are tried. -/
def functionOperand (g : Nested) (follow : Follow) : Parser Reading := do
  let line ← keyword .func
  let signature ← signature g false
  let type : Parser Reading := pure (typeReading (.node .functionType line signature))
  peek fun ts =>
    if sees false .braceL ts then
      let literal : Parser Reading := do
        return .ofExpression (.node .functionLiteral line (signature ++ [← g.block]))
      if follow.brace then either type literal else literal
    else type

/-- An operand without its `suffixes`. -/
def operand (g : Nested) (follow : Follow) : Parser Reading := peek fun ts =>
  match skip ts with
  | ⟨.identifier _, _, _⟩ :: _ => nameOperand g follow
  | ⟨.literal, line, _⟩ :: rest => resume rest (pure (.ofExpression (.leaf .literal line)))
  | ⟨.string text, line, _⟩ :: rest =>
    resume rest (pure (.ofExpression (.leaf (.string text) line)))
  | ⟨.mark .parenL, _, _⟩ :: _ => parenthesizedOperand g
  | ⟨.mark .bracketL, _, _⟩ :: _ => bracketOperand g
  | ⟨.keyword .func, _, _⟩ :: _ => functionOperand g follow
  | ⟨.keyword .chan, _, _⟩ :: _ => do return typeReading (← channelType g false)
  | ⟨.keyword .map, _, _⟩ :: _ => do return typeReading (← mapType g false)
  | ⟨.keyword .struct, _, _⟩ :: _ => do return typeReading (← structType g)
  | ⟨.keyword .interface, _, _⟩ :: _ => do return typeReading (← interfaceType g)
  | ⟨.mark .tilde, _, _⟩ :: _ => do return typeReading (← negatedType g false)
  | _ => fail

/-! ### Operators -/

/-- A prefix operator on an `operand`, as an expression only. -/
def prefixed (line : Nat) (operand : Parser Reading) : Parser Reading := do
  match (← operand).expression with
  | some e => return .ofExpression (.node .unary line [e])
  | none => fail

/-- A star before an operand: the value a pointer points to, or a pointer type. The operand is read
by `Nested.unary`. -/
def starOperand (g : Nested) (follow : Follow) : Parser Reading := do
  let line ← mark .star
  peek fun ts => do
    let r ← g.unary follow
    readingOf ⟨r.expression.map fun e => .node .unary line [e],
      r.plainType.map fun t => .node .pointerType line (leadingComments ts ++ [t.asType]), none⟩

/-- An arrow before an operand: a value received, or a channel type that only receives. The operand
is read by `Nested.unary`. -/
def arrowOperand (g : Nested) (follow : Follow) : Parser Reading := do
  let line ← mark .arrow
  let r ← g.unary follow
  readingOf ⟨r.expression.map fun e => .node .unary line [e],
    r.type.bind fun t =>
      match t.tree with
      | .node .channelType _ parts => some { t with tree := .node .channelType line parts }
      | _ => none, none⟩

/-- An operand with its prefix operators and `suffixes`. Two prefix operators that look like one
operator between operands are read as two. -/
def unaryOperand (g : Nested) (follow : Follow) : Parser Reading := peek fun ts =>
  match skip ts with
  | ⟨.mark m, line, place⟩ :: rest =>
    let again (second : Mark) := resume (⟨.mark second, line, place - 1⟩ :: rest) (g.unary follow)
    match m with
    | .plus | .minus | .bang | .caret | .ampersand => resume rest (prefixed line (g.unary follow))
    -- The lexer has taken two operators for one.
    | .andAlso => prefixed line (again .ampersand)
    | .increment => prefixed line (again .plus)
    | .decrement => prefixed line (again .minus)
    | .andNot => prefixed line (again .caret)
    | .star => starOperand g follow
    | .arrow => arrowOperand g follow
    | _ => do suffixes g follow (← operand g follow)
  | _ => do suffixes g follow (← operand g follow)

/-- The precedence of an operator between operands: five for products down to one for `||`, and zero
for other marks. -/
def precedence : Mark → Nat
  | .orElse => 1
  | .andAlso => 2
  | .equal | .notEqual | .less | .lessEqual | .greater | .greaterEqual => 3
  | .plus | .minus | .bar | .caret => 4
  | .star | .slash | .percent | .shiftL | .shiftR | .ampersand | .andNot => 5
  | _ => 0

/-- The operator between operands that comes next and the tokens after it. Where a statement's own
operators cannot follow (`Follow.arrow`, `Follow.step`), an arrow is a comparison with a negative
and a step operator is a sum. -/
def operatorAt (follow : Follow) (complete : Bool) (ts : List Token) :
    Option (Mark × List Token) :=
  match next (follow.newline && complete) ts with
  | ⟨.mark m, line, place⟩ :: rest =>
    let split (first second : Mark) := some (first, ⟨.mark second, line, place - 1⟩ :: rest)
    match m with
    | .arrow => if follow.arrow then none else split .less .minus
    | .increment => if follow.step then none else split .plus .plus
    | .decrement => if follow.step then none else split .minus .minus
    | m => some (m, rest)
  | _ => none

/-- What the operator `m` makes of the expressions `left` and `right` on its two sides. -/
def operation (m : Mark) (left right : Phrase) : Phrase :=
  let operator : BinaryOperator := match m with
    | .orElse => .orElse
    | .andAlso => .andAlso
    | _ => .other
  .node (.binary operator) left.line [left, right]

/-- What the operator `m` makes of the operand `left` before it and the one after it. A bar between
types is a union. -/
def joined (g : Nested) (m : Mark) (left : Reading) (operand : Parser Reading) : Parser Reading :=
  let expression : Parser Reading := do
    match left.expression, (← operand).expression with
    | some l, some r => return .ofExpression (operation m l r)
    | _, _ => fail
  match m, left.type with
  | .bar, some l => either expression do
    return .ofType (.node .unionType l.line [l.asType, ← g.type false])
  | _, _ => expression

/-- Operands and the operators between them from some `precedence` up, operators of one precedence
from left to right. The level is six less the precedence, and level zero has no operators. -/
def operatorLevel (g : Nested) (follow : Follow) : Nat → Parser Reading
  | 0 => unaryOperand g follow
  | level + 1 => do
    let first ← operatorLevel g follow level
    iterate Reading.join (fun left => peek fun ts =>
      match operatorAt follow left.expression.isSome ts with
      | some (m, rest) =>
        -- An operator of another precedence is left to the level that has it.
        if precedence m + level = 5 then resume rest do
          return .more (← joined g m left (operatorLevel g follow level))
        else return .done left
      | none => return .done left) g.fuel first

/-- An expression or a type at the place `follow`, with operators of every level. -/
def readingAt (g : Nested) (follow : Follow) : Parser Reading :=
  merge Reading.join (operatorLevel g follow 5)

end CodeHealth.Go
