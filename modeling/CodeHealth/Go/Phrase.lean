import CodeHealth.Go.Tree

/-!
# Phrases of Go

A phrase is a stretch of tokens read as a tree. The same tokens can sometimes be read in more than
one way: brackets after a name hold an index or type arguments, and parentheses after a type hold
what is converted or what is passed. Every reading has a weight, and of two readings the heavier one
counts.

* A `Phrase` weighs what its nodes weigh together; `Kind.weight` says what a node adds.
* A `Reading` is what a stretch of tokens may still become: an expression, a type, or a function
  with type arguments.
-/

namespace CodeHealth.Go

/-- What a node of a kind adds to the weight of a `Phrase`. -/
def Kind.weight : Kind → Int
  | .typeArguments => 2
  | .genericType | .index => 1
  | .conversion | .instantiation => -1
  | _ => 0

/-- A tree and the weight of reading its tokens so. Of two readings of the same tokens the `heavier`
counts. -/
structure Phrase where
  /-- How the tokens are read. -/
  tree : Tree
  /-- The sum of `Kind.weight` over the nodes, and what `asType` adds. -/
  weight : Int

namespace Phrase

/-- What the phrase `p` is. -/
def kind (p : Phrase) : Kind := p.tree.kind

/-- The number of the line that the phrase `p` starts on. -/
def line (p : Phrase) : Nat := p.tree.line

/-- The weight of several phrases, added up. `heavierOf` compares sequences by it. -/
def total (parts : List Phrase) : Int := parts.foldl (fun sum p => sum + p.weight) 0

/-- A phrase made of `parts`, with the weight of its own `kind` added to theirs. -/
def node (kind : Kind) (line : Nat) (parts : List Phrase) : Phrase :=
  ⟨.node kind line (parts.map tree), kind.weight + total parts⟩

/-- A phrase without parts, such as a name: a `node` with nothing below it. -/
def leaf (kind : Kind) (line : Nat) : Phrase := node kind line []

/-- The type `p` at a place for any type. A name alone is lighter there, and a map type heavier. -/
def asType (p : Phrase) : Phrase :=
  match p.kind with
  | .typeName _ => { p with weight := p.weight - 1 }
  | .mapType => { p with weight := p.weight + 3 }
  | _ => p

/-- The heavier of the phrases `p` and `q`, the first when they weigh the same. -/
def heavier (p q : Phrase) : Phrase := if p.weight < q.weight then q else p

/-- The heavier of two sequences of phrases by their `total`, the first when they weigh the same. -/
def heavierOf (ps qs : List Phrase) : List Phrase := if total ps < total qs then qs else ps

/-- The `heavier` of two phrases that may be missing. -/
def heavier? : Option Phrase → Option Phrase → Option Phrase
  | some p, some q => some (heavier p q)
  | some p, none => some p
  | none, q => q

end Phrase

/-- A function and its type arguments, which only a call can use together (`Reading.instance?`). -/
structure Instance where
  function : Phrase
  arguments : Phrase

namespace Instance

/-- The weight of both parts of the instance `i`. -/
def weight (i : Instance) : Int := i.function.weight + i.arguments.weight

/-- The heavier of two instances that may be missing, by `weight`. -/
def heavier? : Option Instance → Option Instance → Option Instance
  | some i, some j => if i.weight < j.weight then some j else some i
  | some i, none => some i
  | none, j => j

end Instance

/-- What a stretch of tokens can be read as. A name or a bracketed form may be both an `expression`
and a `type` until the next token decides. -/
structure Reading where
  /-- The reading as an expression, if there is one. -/
  expression : Option Phrase
  /-- The reading as a type, if there is one. -/
  type : Option Phrase
  /-- The reading as a function with type arguments, if there is one. -/
  instance? : Option Instance

namespace Reading

/-- The reading that is only the expression `e`. -/
def ofExpression (e : Phrase) : Reading := ⟨some e, none, none⟩

/-- The reading that is only the type `t`. -/
def ofType (t : Phrase) : Reading := ⟨none, some t, none⟩

/-- The type of the reading `r`, unless it is a union. -/
def plainType (r : Reading) : Option Phrase :=
  r.type.filter fun t => t.kind != .unionType

/-- Whether nothing is left of the reading `r`. -/
def isEmpty (r : Reading) : Bool := r.expression.isNone && r.type.isNone && r.instance?.isNone

/-- Both readings `r` and `s` of the same tokens, where the heavier counts for each thing they can
be. -/
def join (r s : Reading) : Reading :=
  ⟨Phrase.heavier? r.expression s.expression, Phrase.heavier? r.type s.type,
    Instance.heavier? r.instance? s.instance?⟩

end Reading

end CodeHealth.Go
