import CodeHealth.Go.Phrase
import CodeHealth.Go.Token
import Std.Data.HashMap

/-!
# Reading tokens in every possible way

A parser gives the readings of the tokens in front of it, each with the tokens left over. Readings
that leave the same tokens are joined, so their number stays small.

A line feed is a token of its own. It ends a statement where a statement may end and is skipped
everywhere else; which of the two holds depends on the place in the grammar only. `Follow` says
what may come after an expression at its place.

What was read at a place is remembered, so that a stretch of tokens is read once however many ways
there are around it.

* `Parser`, `iterate`, `listOf` and `terminated` are the combinators;
* `Nested` holds the parsers for what is nested one level deeper.
-/

namespace CodeHealth.Go

/-- What was read so far, by what was looked for and the place where it starts (`remember`). -/
structure Memory where
  /-- What was read as phrases, each with the tokens left over. -/
  phrases : Std.HashMap Nat (List (Phrase × List Token))
  /-- What was read as expressions or types, each with the tokens left over. -/
  readings : Std.HashMap Nat (List (Reading × List Token))

/-- The readings of a token sequence, each with the tokens left over. A parser also takes a `Memory`
and gives back a fuller one. -/
def Parser (α : Type) : Type := List Token → Memory → List (α × List Token) × Memory

namespace Parser

/-- The readings by `f` of what follows each of some readings, one after the other. -/
def afterEach {α β : Type} (f : α → Parser β) :
    List (α × List Token) → Memory → List (β × List Token) × Memory
  | [], memory => ([], memory)
  | (a, rest) :: others, memory =>
    let (found, memory) := f a rest memory
    let (more, memory) := afterEach f others memory
    (found ++ more, memory)

instance : Monad Parser where
  pure a := fun ts memory => ([(a, ts)], memory)
  bind p f := fun ts memory =>
    match p ts memory with
    | ([], memory) => ([], memory)
    | ([(a, rest)], memory) => f a rest memory
    | (readings, memory) => afterEach f readings memory

/-- A parser that needs to remember nothing: it leaves the `Memory` as it is. -/
def reads {α : Type} (f : List Token → List (α × List Token)) : Parser α :=
  fun ts memory => (f ts, memory)

/-- No reading, whatever the tokens are; `either` takes no notice of it. -/
def fail {α : Type} : Parser α := reads fun _ => []

/-- The readings of both parsers, those of `p` first. -/
def either {α : Type} (p q : Parser α) : Parser α := fun ts memory =>
  let (found, memory) := p ts memory
  let (more, memory) := q ts memory
  (found ++ more, memory)

/-- The readings of `p`, or those of `q` when there are none. -/
def orDefault {α : Type} (p q : Parser α) : Parser α := fun ts memory =>
  match p ts memory with
  | ([], memory) => q ts memory
  | found => found

/-- A parser chosen by the tokens in front, none of which `choose` takes. -/
def peek {α : Type} (choose : List Token → Parser α) : Parser α :=
  fun ts memory => choose ts ts memory

/-- A parser that goes on from the tokens `ts` and not from those in front of it. -/
def resume {α : Type} (ts : List Token) (p : Parser α) : Parser α := fun _ memory => p ts memory

/-- Adds the reading `a` to others. When one of them leaves the same tokens (`placeOf`), the two are
joined by `join`. -/
def addReading {α : Type} (join : α → α → α) (a : α) (rest : List Token) :
    List (α × List Token) → List (α × List Token)
  | [] => [(a, rest)]
  | (b, other) :: more =>
    if placeOf other == placeOf rest then (join b a, other) :: more
    else (b, other) :: addReading join a rest more

/-- The readings of a parser `p`, one for each sequence of tokens left over (`addReading`). -/
def merge {α : Type} (join : α → α → α) (p : Parser α) : Parser α := fun ts memory =>
  match p ts memory with
  | ([], memory) => ([], memory)
  | ([reading], memory) => ([reading], memory)
  | (readings, memory) =>
    (readings.foldl (fun kept (a, rest) => addReading join a rest kept) [], memory)

/-- The phrases of a parser `p`, looked up in the `Memory` when they were read before. The number
`what` stands for what is read. -/
def remember (what : Nat) (p : Parser Phrase) : Parser Phrase := fun ts memory =>
  let key := 64 * placeOf ts + what
  match memory.phrases[key]? with
  | some found => (found, memory)
  | none =>
    let (found, ⟨phrases, readings⟩) := p ts memory
    (found, ⟨phrases.insert key found, readings⟩)

/-- The readings of a parser `p`, looked up in the `Memory` when they were read before. The number
`what` stands for what is read. -/
def rememberReading (what : Nat) (p : Parser Reading) : Parser Reading := fun ts memory =>
  let key := 64 * placeOf ts + what
  match memory.readings[key]? with
  | some found => (found, memory)
  | none =>
    let (found, ⟨phrases, readings⟩) := p ts memory
    (found, ⟨phrases, readings.insert key found⟩)

/-- The first reading of the tokens `ts` by `p`, starting with an empty `Memory`. -/
def run? {α : Type} (p : Parser α) (ts : List Token) : Option α :=
  (p ts ⟨∅, ∅⟩).1.head?.map Prod.fst

end Parser

open CodeHealth.Go.Parser

/-! ### Blanks and single tokens -/

/-- The tokens `ts` without the comments in front. A line feed stays. -/
def here (ts : List Token) : List Token := ts.dropWhile fun t => t.lexeme == .comment

/-- The tokens `ts` without the comments and line feeds in front. -/
def skip (ts : List Token) : List Token :=
  ts.dropWhile fun t => t.lexeme == .comment || t.lexeme == .newline

/-- The tokens to look at next, where `newline` says that a line feed counts: `here` or `skip`. -/
def next (newline : Bool) (ts : List Token) : List Token := if newline then here ts else skip ts

/-- What the next token is, after what `next` passes over. -/
def ahead (newline : Bool) (ts : List Token) : Option Lexeme :=
  (next newline ts).head?.map Token.lexeme

/-- Whether the next token is the mark `m` (`ahead`). -/
def sees (newline : Bool) (m : Mark) (ts : List Token) : Bool := ahead newline ts == some (.mark m)

/-- Whether the next token is this reserved word (`ahead`). -/
def seesKeyword (newline : Bool) (word : Keyword) (ts : List Token) : Bool :=
  ahead newline ts == some (.keyword word)

/-- The line of the next token after what `skip` passes over, and zero at the end of the source. -/
def lineOf (ts : List Token) : Nat := ((skip ts).head?.map Token.line).getD 0

/-- Reads a token that is this `lexeme` and gives its line. -/
def token (lexeme : Lexeme) : Parser Nat := reads fun ts =>
  match skip ts with
  | t :: rest => if t.lexeme == lexeme then [(t.line, rest)] else []
  | [] => []

/-- Reads the mark `m` and gives its line. -/
def mark (m : Mark) : Parser Nat := token (.mark m)

/-- Reads a reserved `word` and gives its line. -/
def keyword (word : Keyword) : Parser Nat := token (.keyword word)

/-- Reads an identifier, as a phrase of kind `Kind.identifier`. -/
def identifier : Parser Phrase := reads fun ts =>
  match skip ts with
  | ⟨.identifier name, line, _⟩ :: rest => [(.leaf (.identifier name) line, rest)]
  | _ => []

/-- Reads the mark `m`, which may be left out. -/
def optionalMark (m : Mark) : Parser Unit := peek fun ts =>
  if sees false m ts then do let _ ← mark m else pure ()

/-- Reads what ends a statement: a line feed, a semicolon or a null character (`Lexeme.null`). -/
def terminator : Parser Unit := reads fun ts =>
  match here ts with
  | t :: rest =>
    if t.lexeme == .newline || t.lexeme == .mark .semicolon || t.lexeme == .null then [((), rest)]
    else []
  | [] => []

/-- Whether a statement ends here, so that `terminator` can read. -/
def seesTerminator (ts : List Token) : Bool :=
  match ahead true ts with
  | some .newline | some (.mark .semicolon) | some .null => true
  | _ => false

/-! ### Repetition -/

/-- The outcome of one round of a repetition (`iterate`). -/
inductive Round (α : Type) where
  /-- Another round follows, from this value. -/
  | more (value : α)
  /-- The repetition ends with this value. -/
  | done (value : α)

/-- The readings of a repetition: those that go on and those that are finished (`settle`). -/
structure Frontier (α : Type) where
  /-- The readings that have rounds to come. -/
  ongoing : List (α × List Token)
  /-- The readings that are done. -/
  finished : List (α × List Token)

namespace Frontier

variable {α : Type}

/-- Takes up the outcome of a round into the frontier `f`, among the ongoing or the finished
readings. -/
def add (join : α → α → α) (f : Frontier α) : Round α × List Token → Frontier α
  | (.more a, rest) => { f with ongoing := addReading join a rest f.ongoing }
  | (.done a, rest) => { f with finished := addReading join a rest f.finished }

/-- The reading that has most tokens left, and the others; `none` where there is no reading. -/
def behind : List (α × List Token) → Option ((α × List Token) × List (α × List Token))
  | [] => none
  | reading :: others =>
    match behind others with
    | none => some (reading, [])
    | some (least, rest) =>
      if placeOf reading.2 < placeOf least.2 then some (least, reading :: rest)
      else some (reading, others)

/-- Repeats a `round` until no reading goes on, for a bounded number of times. The reading that is
furthest `behind` goes first, so that readings meet when they leave the same tokens. -/
def settle (join : α → α → α) (round : α → Parser (Round α)) :
    Nat → Frontier α → Memory → List (α × List Token) × Memory
  | 0, f, memory => (f.finished, memory)
  | fuel + 1, f, memory =>
    match behind f.ongoing with
    | none => (f.finished, memory)
    | some ((a, ts), others) =>
      let (found, memory) := round a ts memory
      settle join round fuel (found.foldl (add join) ⟨others, f.finished⟩) memory

end Frontier

/-- Repeats a `round` from the value `start` until it is done, at most `fuel` times. -/
def iterate {α : Type} (join : α → α → α) (round : α → Parser (Round α)) (fuel : Nat) (start : α) :
    Parser α :=
  fun ts memory => Frontier.settle join round fuel ⟨[(start, ts)], []⟩ memory

/-- One item or more with commas between them, where `newline` says that a line feed ends the list.
A comma after the last item is left over. -/
def lineOfItems {α : Type} (join : List α → List α → List α) (newline : Bool) (fuel : Nat)
    (item : Parser α) : Parser (List α) := do
  let first ← item
  let items ← iterate join (fun seen => peek fun ts =>
    if sees newline .comma ts then
      orDefault
        (do let _ ← mark .comma
            return .more ((← item) :: seen))
        (pure (.done seen))
    else return .done seen) fuel [first]
  return items.reverse

/-- One phrase or more with commas between them, on any lines (`lineOfItems`). -/
def listOf (fuel : Nat) (item : Parser Phrase) : Parser (List Phrase) :=
  lineOfItems Phrase.heavierOf false fuel item

/-- Phrases up to the mark `close`, with a terminator after each. Unless `strict`, the last one may
go without. The parser `item` for one is told whether it is the first. -/
def terminated (fuel : Nat) (strict : Bool) (close : Mark) (item : Bool → Parser Phrase) :
    Parser (List Phrase) := do
  let items ← iterate Phrase.heavierOf (fun seen => peek fun ts =>
    if sees false close ts then return .done seen
    else do
      let found ← item seen.isEmpty
      peek fun ts =>
        if seesTerminator ts then do
          terminator
          return .more (found :: seen)
        else if !strict && sees true close ts then return .done (found :: seen)
        else fail) fuel []
  let _ ← mark close
  return items.reverse

/-! ### Places in the grammar -/

/-- What may come directly after an expression at its place, other than more of the expression.
Parsers for expressions take it as an argument, as `Nested.reading` does. -/
structure Follow where
  /-- The end of a statement, so a line feed ends the expression. -/
  newline : Bool
  /-- The brace that opens a body, so a name before a brace is not the type of a literal. -/
  brace : Bool
  /-- The arrow of a send. -/
  arrow : Bool
  /-- The operator of a statement that counts up or down. -/
  step : Bool

namespace Follow

/-- Between brackets: only closing marks, commas and colons. No field of `Follow` holds. -/
def inner : Follow := ⟨false, false, false, false⟩

/-- The first expression of a statement, after which `<-` or `++` may come. -/
def lead : Follow := ⟨true, false, true, true⟩

/-- The last expression of a statement, which a line feed ends (`Follow.newline`). -/
def tail : Follow := ⟨true, false, false, false⟩

/-- The first expression in the head of a statement with a body, such as `if`. -/
def headLead : Follow := ⟨false, true, true, true⟩

/-- The last expression in the head of a statement with a body, such as `if`. -/
def headTail : Follow := ⟨false, true, false, false⟩

/-- The first expression of a case that waits for a channel, after which `<-` may come. -/
def channel : Follow := ⟨false, false, true, false⟩

/-- A number below sixteen for each place, by which `rememberReading` tells places apart. -/
def code (f : Follow) : Nat :=
  f.newline.toNat + 2 * f.brace.toNat + 4 * f.arrow.toNat + 8 * f.step.toNat

end Follow

/-- The parsers for what is nested one level deeper, and the bound for repetitions. `grammar` builds
it level by level. -/
structure Nested where
  /-- How often a repetition goes on at most. -/
  fuel : Nat
  /-- Reads a type, and is told whether a line feed ends it. -/
  type : Bool → Parser Phrase
  /-- Reads an expression or a type at a place. -/
  reading : Follow → Parser Reading
  /-- Reads an operand with its prefix operators and suffixes. -/
  unary : Follow → Parser Reading
  /-- Reads the braces of a composite literal. -/
  literalValue : Parser Phrase
  /-- Reads a list of statements in braces. -/
  block : Parser Phrase
  /-- Reads any statement. -/
  statement : Parser Phrase

/-- An expression at a place, where only the reading as one counts (`Reading.expression`). -/
def Nested.expression (g : Nested) (follow : Follow) : Parser Phrase := do
  match (← g.reading follow).expression with
  | some e => return e
  | none => fail

/-- Expressions with commas between them, at a place where the list may end after each
(`lineOfItems`). -/
def Nested.expressions (g : Nested) (follow : Follow) : Parser (List Phrase) :=
  lineOfItems Phrase.heavierOf follow.newline g.fuel (g.expression follow)

end CodeHealth.Go
