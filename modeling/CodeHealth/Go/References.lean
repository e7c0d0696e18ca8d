import CodeHealth.Boundary
import CodeHealth.Data.Keyed
import CodeHealth.Go.Functions

/-!
# Imports and unused functions of Go files

* `Tree.imports` lists the imports of a file;
* `CallIndex` collects the exported functions and the names that are called over several files;
* `CallIndex.unused` lists the exported functions that nothing calls. A call counts for every
  function of the called name, whatever its receiver.
-/

namespace CodeHealth.Go

open CodeHealth.Text CodeHealth.Boundary

namespace Tree

/-- The text of a node `t` that is a `string`, with its quotes. -/
def stringText? (t : Tree) : Option String :=
  match t.kind with
  | .string text => some text
  | _ => none

/-- Whether `c` is a quote of either kind of string. -/
def isQuote (c : Char) : Bool := c == '"' || c == '\x60'

/-- The import that a node `t` stands for: its path without quotes, if it is an `importSpec`. -/
def import? (t : Tree) : Option Import :=
  match t.kind with
  | .importSpec =>
    (t.children.findSome? stringText?).map fun text => ⟨trimClass isQuote text.toList, t.line⟩
  | _ => none

/-- The imports of a file `t`, in source order. -/
def imports (t : Tree) : List Import := t.collect import?

/-- The names that a call `t` refers to: the name of the function, and behind its operand when that
is a name too. -/
def calledNames (t : Tree) : List String :=
  match t with
  | .node .call _ (.node (.identifier name) _ _ :: _) => [name]
  | .node .call _ (.node .selector _ [operand, .node (.identifier name) _ _] :: _) =>
    match operand with
    | .node (.identifier owner) _ _ => [name, owner ++ "." ++ name]
    | _ => [name]
  | _ => []

/-- All names that calls anywhere in a tree `t` refer to (`calledNames`). -/
def allCalledNames (t : Tree) : List String :=
  t.fold (fun found node => node.calledNames ++ found) []

end Tree

/-- Whether a `name` can be used from other packages: it starts with an upper-case letter. -/
def isExported (name : String) : Bool :=
  match name.toList with
  | c :: _ => isUppercase c
  | [] => false

/-- Whether the function `name` is called by the runtime or by the test tool. -/
def isEntryPoint (name : String) : Bool :=
  name == "main" || name == "init" ||
    ["Test", "Benchmark", "Example"].any fun start => start.toList.isPrefixOf name.toList

/-- The exported functions of some files, under their qualified names, and the names called; `add`
takes up a file. -/
structure CallIndex where
  /-- The latest exported function under each name. -/
  exported : List UnusedFunction
  /-- The names that are called, in any order. -/
  called : List String

namespace CallIndex

/-- The index of no file, from which `add` goes on. -/
def empty : CallIndex := ⟨[], []⟩

/-- The exported functions that a `file` with the tree `t` declares, entry points left out. -/
def exportedBy (file : String) (t : Tree) : List UnusedFunction :=
  (t.declarations.filter fun d =>
    !isEntryPoint d.declaredName && isExported d.declaredName).map fun d =>
      ⟨file, d.qualifiedName, d.line⟩

/-- The `index` with a `file` taken up. An exported function replaces an earlier one of the same
name (`putLatest`). -/
def add (index : CallIndex) (file : String) (t : Tree) : CallIndex where
  exported := (exportedBy file t).foldl (putLatest UnusedFunction.name) index.exported
  called := t.allCalledNames ++ index.called

/-- The part of a qualified `name` after its last dot. -/
def lastSegment (name : String) : String := String.ofList (afterLast '.' name.toList)

/-- The exported functions of the `index` that are called neither by their qualified name nor by its
last part (`lastSegment`). -/
def unused (index : CallIndex) : List UnusedFunction :=
  UnusedFunction.sorted (index.exported.filter fun f =>
    !index.called.contains f.name && !index.called.contains (lastSegment f.name))

end CallIndex

/-- The imports of a Go `source`. A source that cannot be read as a file (`parse?`) has none. -/
def importsOf (source : List Char) : List Import :=
  match parse? source with
  | some t => t.imports
  | none => []

/-- The exported functions of Go `sources` that nothing calls. Sources that cannot be read as a file
(`parse?`) count for nothing. -/
def unusedFunctions (sources : List (String × List Char)) : List UnusedFunction :=
  (sources.foldl (fun index (file, source) =>
    match parse? source with
    | some t => index.add file t
    | none => index) CallIndex.empty).unused

end CodeHealth.Go
