import CodeHealth.Go.Expressions

/-!
# Reading Go statements

Statements stand in lists with terminators between them. An empty statement is a semicolon of its
own, besides the terminators around it. A label may stand alone only at the end of a list.

* `simpleStatement` reads the statements that may stand in the head of another one;
* `statementOf` reads any statement, and `blockOf` a list of them in braces.
-/

namespace CodeHealth.Go

open CodeHealth.Go.Parser

/-! ### Declarations -/

/-- The specification of constants: names, and values that may be left out. A type stands only
before values. Its kind is `Kind.spec`. -/
def constSpec (g : Nested) : Parser Phrase := do
  let names ← lineOfItems Phrase.heavierOf true g.fuel identifier
  let values : Parser (List Phrase) := do
    let _ ← mark .assign
    g.expressions Follow.tail
  let spec (others : List Phrase) : Phrase := .node .spec (firstLine names) (names ++ others)
  peek fun ts =>
    match ahead true ts with
    | some (.mark .assign) => do return spec (← values)
    | some .newline => return spec []
    | _ => orDefault
      (do let type ← g.type false
          return spec (type :: (← values)))
      (pure (spec []))

/-- The specification of variables: names with a type, with values, or with both. Its kind is
`Kind.spec`. -/
def varSpec (g : Nested) : Parser Phrase := do
  let names ← listOf g.fuel identifier
  let values : Parser (List Phrase) := do
    let _ ← mark .assign
    g.expressions Follow.tail
  let spec (others : List Phrase) : Phrase := .node .spec (firstLine names) (names ++ others)
  peek fun ts =>
    if sees false .assign ts then do return spec (← values)
    else do
      let type ← g.type true
      peek fun ts =>
        if sees true .assign ts then do return spec (type :: (← values))
        else return spec [type]

/-- Whether a `name` stands for nothing fixed where an expression may stand. -/
def isFreeName (name : String) : Bool := !isConstantName name && !isAllocatorName name

/-- The tokens after a bracket and a free name (`isFreeName`), when these come next. Type parameters
may start so, and so may the length of an array. -/
def afterBracketName? (ts : List Token) : Option (List Token) :=
  match skip ts with
  | ⟨.mark .bracketL, _, _⟩ :: rest =>
    match skip rest with
    | ⟨.identifier name, _, _⟩ :: rest => if isFreeName name then some rest else none
    | _ => none
  | _ => none

/-- The heavier of two readings `ps` and `qs` of what follows the name of a type: type parameters
and a type, or a type alone whose brackets hold a length. When they weigh the same, brackets that
weigh nothing are type parameters, unless the specification is the `opening` one of a group. -/
def preferredSpec (opening : Bool) (ps qs : List Phrase) : List Phrase :=
  match ps with
  | parameters :: _ :: _ =>
    if Phrase.total ps == Phrase.total qs && (opening || parameters.weight != 0) then qs
    else Phrase.heavierOf ps qs
  | _ => Phrase.heavierOf ps qs

/-- The specification of a type, with or without type parameters, or of another name for one. An
arrow after the first name in brackets is part of its constraint; otherwise `preferredSpec`
decides. -/
def typeSpec (g : Nested) (opening : Bool) : Parser Phrase := do
  let name ← identifier
  let plain : Parser (List Phrase) := do
    optionalMark .assign
    return [← g.type true]
  let parameterized : Parser (List Phrase) := do
    let parameters ← typeParameters g
    return parameters :: (← plain)
  let parts ← peek fun ts =>
    match afterBracketName? ts with
    | none => plain
    | some rest =>
      if sees false .arrow rest then parameterized
      else merge (preferredSpec opening) (either parameterized plain)
  return .node .spec name.line (name :: parts)

/-- A declaration from the reserved `word` on: one specification, or several in parentheses. The
parser `spec` for one is told whether it opens a group. -/
def declaration (g : Nested) (word : Keyword) (kind : Kind) (strict : Bool)
    (spec : Bool → Parser Phrase) : Parser Phrase := do
  let line ← keyword word
  peek fun ts =>
    if sees false .parenL ts then do
      let _ ← mark .parenL
      return .node kind line (← terminated g.fuel strict .parenR spec)
    else do return .node kind line [← spec false]

/-! ### Simple statements -/

/-- A simple statement: an expression alone, or something done with expressions. Only the former can
be the condition of an `if` or a loop. -/
inductive Simple where
  /-- An expression that stands alone. -/
  | expression (e : Phrase)
  /-- An assignment, a declaration, a send or a step. -/
  | action (s : Phrase)

namespace Simple

/-- A simple statement as a phrase; an expression becomes an `expressionStatement`. -/
def phrase : Simple → Phrase
  | expression e => .node .expressionStatement e.line [e]
  | action s => s

end Simple

/-- The kind of statement that an operator makes of the expressions on its two sides, and `none` for
tokens that are no such operator. -/
def assignmentKind : Lexeme → Option Kind
  | .mark .define => some .shortDeclaration
  | .mark .assign | .mark .assignThrough => some .assignment
  | _ => none

/-- A statement without a body, given what may follow its first expression (`lead`) and its last one
(`tail`). -/
def simpleStatement (g : Nested) (lead tail : Follow) : Parser Simple := do
  let first ← g.expression lead
  let action (kind : Kind) (parts : List Phrase) : Simple := .action (.node kind first.line parts)
  let assigned (left : List Phrase) : Parser Simple := peek fun ts =>
    -- Between several expressions and their operator a line feed is a blank.
    match next (lead.newline && left.length == 1) ts with
    | t :: rest =>
      match assignmentKind t.lexeme with
      | some kind => resume rest do return action kind (left ++ (← g.expressions tail))
      | none => fail
    | [] => fail
  peek fun ts =>
    match next lead.newline ts with
    | ⟨.mark .arrow, _, _⟩ :: rest => resume rest do
      return action .sendStatement [first, ← g.expression tail]
    | ⟨.mark .increment, _, _⟩ :: rest => resume rest (pure (action .stepStatement [first]))
    | ⟨.mark .decrement, _, _⟩ :: rest => resume rest (pure (action .stepStatement [first]))
    | ⟨.mark .comma, _, _⟩ :: rest => resume rest do
      let others ← g.expressions Follow.inner
      assigned (first :: others)
    | t :: _ =>
      if (assignmentKind t.lexeme).isSome then assigned [first] else return .expression first
    | [] => return .expression first

/-! ### Lists and blocks -/

/-- Whether a list of `statements` ends here: at a closing brace, or where the next clause
starts. -/
def endsList (ts : List Token) : Bool :=
  match ahead false ts with
  | some (.mark .braceR) | some (.keyword .case) | some (.keyword .default) => true
  | _ => false

/-- A label with nothing after it, at the end of a list (`endsList`). -/
def lastLabel : Parser Phrase := peek fun ts =>
  match skip ts with
  | ⟨.identifier name, line, _⟩ :: rest =>
    match here rest with
    | ⟨.mark .colon, _, _⟩ :: rest =>
      if isFreeName name && endsList rest then
        resume rest (pure (.node .labeledStatement line [.leaf (.identifier name) line]))
      else fail
    | _ => fail
  | _ => fail

/-- Statements with terminators between them, up to the end of the list (`endsList`). -/
def statements (g : Nested) : Parser (List Phrase) := do
  let found ← iterate Phrase.heavierOf (fun seen => peek fun ts =>
    if endsList ts then return .done seen
    else
      either
        (do let s ← g.statement
            peek fun ts =>
              if seesTerminator ts then do
                terminator
                return .more (s :: seen)
              else if endsList ts then return .done (s :: seen)
              else fail)
        (do return .done ((← lastLabel) :: seen))) g.fuel []
  return found.reverse

/-- A list of `statements` in braces. -/
def blockOf (g : Nested) : Parser Phrase := do
  let line ← mark .braceL
  let body ← statements g
  let _ ← mark .braceR
  return .node .block line body

/-! ### Statements with a body -/

/-- A conditional. The head may hold a simple statement before the condition, and behind `else`
stands a block or another conditional. -/
def ifStatement (g : Nested) : Parser Phrase := do
  let line ← keyword .if
  let first ← simpleStatement g Follow.headLead Follow.inner
  let head ← peek fun ts =>
    if sees false .semicolon ts then do
      let _ ← mark .semicolon
      pure [first.phrase, ← g.expression Follow.headTail]
    else match first with
      | .expression e => pure [e]
      -- Only an expression can be the condition.
      | .action _ => fail
  let body ← g.block
  peek fun ts =>
    if seesKeyword true .else ts then do
      let _ ← keyword .else
      let alternative ← peek fun ts =>
        if seesKeyword false .if ts then g.statement else g.block
      return .node .ifStatement line (head ++ [body, alternative])
    else return .node .ifStatement line (head ++ [body])

/-- The mark between what is assigned to and what is assigned, where no operation may be combined
with it: `=` or `:=`. -/
def assignMark : Parser Unit := do
  let _ ← either (mark .assign) (mark .define)

/-- A range clause, with or without what its values are assigned to (`assignMark`). -/
def rangeClause (g : Nested) : Parser Phrase := peek fun ts => do
  let line := lineOf ts
  let left ← if seesKeyword false .range ts then pure [] else do
    let first ← g.expression Follow.headLead
    let others ← peek fun ts =>
      if sees false .comma ts then do
        let _ ← mark .comma
        g.expressions Follow.inner
      else pure []
    assignMark
    pure (first :: others)
  let _ ← keyword .range
  return .node .rangeClause line (left ++ [← g.expression Follow.headTail])

/-- The clause of a counting loop after its first semicolon, given the statement before it in
`start`. -/
def forClause (g : Nested) (line : Nat) (start : List Phrase) : Parser Phrase := do
  let _ ← mark .semicolon
  let condition ← peek fun ts =>
    if sees false .semicolon ts then pure [] else do pure [← g.expression Follow.inner]
  let _ ← mark .semicolon
  let update ← peek fun ts =>
    if sees false .braceL ts then pure []
    else do pure [(← simpleStatement g Follow.headLead Follow.headTail).phrase]
  return .node .forClause line (start ++ condition ++ update)

/-- The head of a loop: nothing, a condition, a `forClause` or a `rangeClause`. -/
def forHead (g : Nested) : Parser (List Phrase) := peek fun ts =>
  if sees false .braceL ts then pure []
  else if sees false .semicolon ts then do return [← forClause g (lineOf ts) []]
  else if seesKeyword false .range ts then do return [← rangeClause g]
  else either (do return [← rangeClause g]) do
    let first ← simpleStatement g Follow.headLead Follow.inner
    peek fun ts =>
      if sees false .semicolon ts then do
        return [← forClause g first.phrase.line [first.phrase]]
      else match first with
        | .expression e => return [e]
        | .action _ => fail

/-- A loop: `for`, its head and its block. -/
def forStatement (g : Nested) : Parser Phrase := do
  let line ← keyword .for
  let head ← forHead g
  return .node .forStatement line (head ++ [← g.block])

/-- What a switch decides on, as `guard` reads it. -/
inductive Guard where
  /-- A value, or nothing at all. -/
  | value (parts : List Phrase)
  /-- The type of an operand, with the names it is given before it. -/
  | type (parts : List Phrase)

/-- The mark of a type switch after its operand: `.(type)`. -/
def typeMark : Parser Unit := do
  let _ ← mark .dot
  let _ ← mark .parenL
  let _ ← keyword .type
  let _ ← mark .parenR

/-- Whether a name that is not free (`isFreeName`) comes after stars and parentheses. -/
def startsFixed : List Token → Bool
  | [] => false
  | t :: rest =>
    match t.lexeme with
    | .mark .star | .mark .parenL | .comment | .newline => startsFixed rest
    | .identifier name => !isFreeName name
    | _ => false

/-- An operand a type switch may decide on: one without operators around it. A star or an arrow in
front is part of a type, to which a value is converted, so a name after it has to be free
(`startsFixed`). -/
def guardOperand (follow : Follow) (g : Nested) : Parser Phrase := peek fun ts => do
  let e ←
    if sees false .star ts || sees false .arrow ts then do
      if startsFixed ts then fail
      let r ← suffixes g follow (typeReading (← g.type false))
      match r.expression with
      | some e => pure e
      | none => fail
    else g.expression follow
  match e.kind with
  | .unary | .binary _ => fail
  | _ => return e

/-- The last part of the head of a switch, given what may `follow` an expression there. -/
def guard (g : Nested) (follow : Follow) : Parser Guard := peek fun ts =>
  if sees false .braceL ts then return .value []
  else either
    -- a value, the type of an operand, or that type with a name for the operand
    (do let value ← g.expression follow
        peek fun ts => if sees false .braceL ts then return .value [value] else fail)
    (either
      (do let operand ← guardOperand follow g
          typeMark
          return .type [operand])
      (do let first ← g.expression follow
          let others ← peek fun ts =>
            if sees false .comma ts then do
              let _ ← mark .comma
              g.expressions Follow.inner
            else pure []
          let _ ← mark .define
          let operand ← guardOperand Follow.inner g
          typeMark
          return .type (first :: others ++ [operand])))

/-- A case of the given `kind` or a default clause, where `head` reads what stands between `case`
and the colon. -/
def clause (g : Nested) (kind : Kind) (head : Parser (List Phrase)) : Parser Phrase :=
  peek fun ts =>
    if seesKeyword false .default ts then do
      let line ← keyword .default
      let _ ← mark .colon
      return .node .defaultCase line (← statements g)
    else do
      let line ← keyword .case
      let head ← head
      let _ ← mark .colon
      return .node kind line (head ++ (← statements g))

/-- The clauses of a switch or select in braces, each a `clause`. -/
def clauses (g : Nested) (kind : Kind) (head : Parser (List Phrase)) : Parser (List Phrase) := do
  let _ ← mark .braceL
  let found ← iterate Phrase.heavierOf (fun seen => peek fun ts =>
    if sees false .braceR ts then return .done seen
    else do return .more ((← clause g kind head) :: seen)) g.fuel []
  let _ ← mark .braceR
  return found.reverse

/-- A switch over values or over types. A simple statement may stand before its `guard`. -/
def switchStatement (g : Nested) : Parser Phrase := do
  let line ← keyword .switch
  let initialised : Parser (List Phrase × Guard) := do
    let first ← simpleStatement g Follow.headLead Follow.inner
    let _ ← mark .semicolon
    return ([first.phrase], ← guard g Follow.headTail)
  let plain : Parser (List Phrase × Guard) := do
    return ([], ← guard g Follow.headLead)
  match ← either plain initialised with
  | (start, .value parts) =>
    return .node .expressionSwitch line
      (start ++ parts ++ (← clauses g .expressionCase (g.expressions Follow.inner)))
  | (start, .type parts) =>
    return .node .typeSwitch line
      (start ++ parts ++ (← clauses g .typeCase (listOf g.fuel (g.type false))))

/-- What a case of a select waits for: a send, or a receive that may be assigned (`assignMark`). -/
def communication (g : Nested) : Parser (List Phrase) := do
  let first ← g.expression Follow.channel
  let receive (parts : List Phrase) : List Phrase := [.node .receiveStatement first.line parts]
  peek fun ts =>
    match ahead false ts with
    | some (.mark .arrow) => do
      let _ ← mark .arrow
      return [.node .sendStatement first.line [first, ← g.expression Follow.inner]]
    | some (.mark .colon) => return receive [first]
    | _ => do
      let others ← peek fun ts =>
        if sees false .comma ts then do
          let _ ← mark .comma
          g.expressions Follow.inner
        else pure []
      assignMark
      return receive (first :: others ++ [← g.expression Follow.inner])

/-- A select, whose cases each wait for a `communication`. -/
def selectStatement (g : Nested) : Parser Phrase := do
  let line ← keyword .select
  return .node .selectStatement line (← clauses g .communicationCase (communication g))

/-! ### All statements -/

/-- A statement made of a reserved `word` and perhaps a label, which is on the same line unless it
`needsLabel`. -/
def branchStatement (word : Keyword) (needsLabel : Bool) : Parser Phrase := do
  let line ← keyword word
  peek fun ts =>
    match next (!needsLabel) ts with
    | ⟨.identifier name, labelLine, _⟩ :: rest =>
      resume rest (pure (.node .branchStatement line [.leaf (.identifier name) labelLine]))
    | _ => if needsLabel then fail else return .leaf .branchStatement line

/-- A `return` with its values, of which there are none before a line feed. -/
def returnStatement (g : Nested) : Parser Phrase := do
  let line ← keyword .return
  peek fun ts =>
    if ahead true ts == some .newline then return .leaf .returnStatement line
    else orDefault
      (do return .node .returnStatement line (← g.expressions Follow.tail))
      (pure (.leaf .returnStatement line))

/-- A simple statement that stands alone (`simpleStatement`). -/
def plainStatement (g : Nested) : Parser Phrase := do
  return (← simpleStatement g Follow.lead Follow.tail).phrase

/-- A statement that starts with a `name`: a labeled statement when a colon follows, or a simple
one. -/
def namedStatement (g : Nested) (name : String) (line : Nat) (rest : List Token) : Parser Phrase :=
  match here rest with
  | ⟨.mark .colon, _, _⟩ :: rest =>
    if isFreeName name then resume rest do
      return .node .labeledStatement line [.leaf (.identifier name) line, ← g.statement]
    -- A fixed name is no label.
    else fail
  | _ => plainStatement g

/-- Any statement, by the token it starts with; what starts no other is a `plainStatement`. -/
def statementOf (g : Nested) : Parser Phrase := peek fun ts =>
  match skip ts with
  | ⟨.identifier name, line, _⟩ :: rest => namedStatement g name line rest
  | ⟨.mark .semicolon, line, _⟩ :: rest => resume rest (pure (.leaf .emptyStatement line))
  | ⟨.mark .braceL, _, _⟩ :: _ => g.block
  | ⟨.keyword word, line, _⟩ :: rest =>
    match word with
    | .const => declaration g .const .constDeclaration true fun _ => constSpec g
    | .var => declaration g .var .varDeclaration true fun _ => varSpec g
    | .type => declaration g .type .typeDeclaration false (typeSpec g)
    | .return => returnStatement g
    | .go => resume rest do return .node .goStatement line [← g.expression Follow.tail]
    | .defer => resume rest do return .node .deferStatement line [← g.expression Follow.tail]
    | .if => ifStatement g
    | .for => forStatement g
    | .switch => switchStatement g
    | .select => selectStatement g
    | .fallthrough => resume rest (pure (.leaf .branchStatement line))
    | .break => branchStatement .break false
    | .continue => branchStatement .continue false
    | .goto => branchStatement .goto true
    -- A reserved word may also start an expression, as `func` does.
    | _ => plainStatement g
  | _ => plainStatement g

end CodeHealth.Go
