/-!
# Syntax trees of Go

A source is read as a tree of labelled nodes. Every construct of the grammar is a node, whose
children are the constructs it is made of, in source order. A node knows the line it starts on.

* `Kind` is what a node is, with the text that identifiers, strings and operators carry;
* `Tree` is a node with its children;
* `Tree.preorder` lists a node and all nodes below it, parents first.
-/

namespace CodeHealth.Go

/-- Operators between two operands. Only `orElse` and `andAlso`, which decide whether their right
side is evaluated, are told apart. -/
inductive BinaryOperator where
  | orElse | andAlso | other
  deriving DecidableEq, Repr

/-- What a node of a `Tree` is. -/
inductive Kind where
  -- files and declarations
  | file | packageClause | importDeclaration | importSpec
  | functionDeclaration | methodDeclaration
  | constDeclaration | varDeclaration | typeDeclaration | spec
  | typeParameters | parameterList | parameter | variadicParameter
  -- types
  | typeName (name : String) | qualifiedType | genericType | typeArguments | pointerType
  | arrayType | openArrayType | sliceType | structType | field | interfaceType | methodElement
  | unionType | mapType | channelType | functionType | negatedType | parenthesizedType
  -- statements
  | block | labeledStatement | expressionStatement | sendStatement | receiveStatement
  | stepStatement | assignment | shortDeclaration | returnStatement | goStatement
  | deferStatement | ifStatement | forStatement | forClause | rangeClause
  | expressionSwitch | typeSwitch | selectStatement
  | expressionCase | typeCase | communicationCase | defaultCase
  | branchStatement | emptyStatement
  -- expressions
  | identifier (name : String) | constant | literal | string (text : String)
  | parenthesized | call | arguments | spread | selector | index | slice | typeAssertion
  | conversion | instantiation | compositeLiteral | literalValue | keyedElement
  | functionLiteral | unary | binary (operator : BinaryOperator)
  | expressionList | comment
  deriving DecidableEq, Repr

/-- A node of a syntax tree: its `Kind`, the line it starts on, and its children in source order. -/
inductive Tree where
  | node (kind : Kind) (line : Nat) (children : List Tree)
  deriving Repr

namespace Tree

/-- What the node is, without its children: its `Kind`. -/
def kind : Tree → Kind
  | node kind _ _ => kind

/-- The number of the line that the node starts on, counted from one as in `Token`. -/
def line : Tree → Nat
  | node _ line _ => line

/-- The nodes directly below, in source order. The `preorder` of a node starts with it and goes on
there. -/
def children : Tree → List Tree
  | node _ _ children => children

/-- The first child of `t` whose kind has the property `p`. -/
def child? (t : Tree) (p : Kind → Bool) : Option Tree := t.children.find? fun c => p c.kind

mutual

/-- The node and every node below it: each node before its `children`, the children from left to
right. -/
def preorder : Tree → List Tree
  | node kind line children => node kind line children :: preorderAll children

/-- The nodes of several trees, one tree after the other (`preorder`). -/
def preorderAll : List Tree → List Tree
  | [] => []
  | t :: rest => preorder t ++ preorderAll rest

end

end Tree

end CodeHealth.Go
