import CodeHealth.Findings
import CodeHealth.Go.Walk
import CodeHealth.Go.File

/-!
# Functions of a Go file

The functions of a file are the function and method declarations at its top. The complexity of one
is one more than the number of decisions in its body: branches, loops, cases other than the
default, type switches, selects, and the operators that may skip their right side. A function
literal is a function of its own and its decisions are not counted.

* `Tree.decisions` counts, `Tree.functionMeasure` measures a declaration;
* `Tree.qualifiedName` names a method by its receiver;
* `functionMeasures` measures a source.
-/

namespace CodeHealth.Go

namespace Tree

/-- Whether the node `t` is a decision: control may go two ways there. -/
def isDecision (t : Tree) : Bool :=
  match t.kind with
  | .ifStatement | .forStatement | .expressionCase | .typeCase | .communicationCase
  | .typeSwitch | .selectStatement => true
  | .binary .andAlso | .binary .orElse => true
  | _ => false

mutual

/-- The decisions in a tree (`isDecision`), those inside function literals left out. -/
def decisions : Tree → Nat
  | .node kind line children =>
    if kind = .functionLiteral then 0
    else (if isDecision (.node kind line children) then 1 else 0) + decisionsAll children

/-- The decisions in several trees, added up (`decisions`). -/
def decisionsAll : List Tree → Nat
  | [] => 0
  | t :: rest => decisions t + decisionsAll rest

end

/-- The name of a node `t` that is an `identifier`. -/
def identifierName? (t : Tree) : Option String :=
  match t.kind with
  | .identifier name => some name
  | _ => none

/-- The name that a declaration `t` declares: its first identifier, or nothing. -/
def declaredName (t : Tree) : String := (t.children.findSome? identifierName?).getD ""

/-- The body of a declaration `t`, if it has one. -/
def body? (t : Tree) : Option Tree := t.child? (· == Kind.block)

/-- The name of the type of a receiver: a `typeName`, also behind pointers and with type arguments.
Every other type has none. -/
def receiverName : Tree → String
  | .node (.typeName name) _ _ => name
  | .node .pointerType _ (first :: _) => receiverName first
  | .node .genericType _ (first :: _) => receiverName first
  | _ => "?"

/-- The name of a function, or the name of a method behind the name of its receiver's type
(`receiverName`). -/
def qualifiedName (t : Tree) : String :=
  match t.kind with
  | .methodDeclaration =>
    let receiver := do
      let list ← t.child? (· == Kind.parameterList)
      let parameter ← list.child? (· == Kind.parameter)
      return receiverName (← parameter.children.getLast?)
    receiver.getD "?" ++ "." ++ t.declaredName
  | _ => t.declaredName

/-- Whether the node `t` declares a function or a method. -/
def declaresFunction (t : Tree) : Bool :=
  match t.kind with
  | .functionDeclaration | .methodDeclaration => true
  | _ => false

/-- The function and method declarations of a file `t`, which are at its top. -/
def declarations (t : Tree) : List Tree := t.children.filter declaresFunction

/-- The complexity of a declared function `t`: one more than the `decisions` of its body. -/
def complexity (t : Tree) : Nat :=
  match t.body? with
  | some body => 1 + body.decisions
  | none => 1

/-- The measure of a declared function `t` in a `file`. -/
def functionMeasure (file : String) (t : Tree) : FunctionMeasure :=
  ⟨file, t.qualifiedName, t.line, t.complexity⟩

end Tree

/-- The functions of a Go `source` with their complexities. A source that cannot be read as a file
(`parse?`) has none. -/
def functionMeasures (file : String) (source : List Char) : List FunctionMeasure :=
  match parse? source with
  | some t => t.declarations.map (Tree.functionMeasure file)
  | none => []

end CodeHealth.Go
