import CodeHealth.Data.Document

/-!
# Tables of TOML while they are read

A table can be opened by a header, by a dotted key, or by being on the way of one of these. What may
still be added to it depends on that:

* a table on the way of a header may get a header of its own later;
* a table made by dotted keys takes further dotted keys, but no header;
* a table with a header takes neither a second header nor dotted keys from outside;
* an inline table and a plain array are complete when they are read.
-/

namespace CodeHealth.Toml

/-- A value while a text is read, with what is needed to know what may be added to it
(`modifyAt`). -/
inductive Node where
  /-- A complete value. -/
  | value (d : Document)
  /-- A table: whether it is only on the way to others, and whether dotted keys made it. -/
  | table (implicit dotted : Bool) (entries : List (String × Node))
  /-- An array of tables with headers. -/
  | tables (items : List Node)

namespace Node

/-- A table opened by a header, with nothing in it: neither `implicit` nor made by dotted keys. -/
def opened : Node := table false false []

/-- The entries with the one under `key` set to `node` in place, or added at the end. -/
def setEntry (key : String) (node : Node) : List (String × Node) → List (String × Node)
  | [] => [(key, node)]
  | (k, n) :: rest => if k == key then (k, node) :: rest else (k, n) :: setEntry key node rest

/-- Changes the table at the end of a path by `change`. Tables on the way are made when they are
missing, and an array of tables stands for its last one. -/
def modifyAt (byDots : Bool) (change : Node → Option Node) : List String → Node → Option Node
  | [], node => change node
  | key :: path, table implicit dotted entries => do
    let next ← match entries.find? fun e => e.1 == key with
      | none => modifyAt byDots change path (table true byDots [])
      | some (_, value _) => none
      -- A path leads on into the last table of an array.
      | some (_, tables items) => do
        let last ← modifyAt byDots change path (← items.getLast?)
        some (tables (items.dropLast ++ [last]))
      | some (_, table inner viaDots below) =>
        -- Dotted keys lead only through tables that are on the way to others.
        if byDots && !inner then none else modifyAt byDots change path (table inner viaDots below)
    some (table implicit dotted (setEntry key next entries))
  | _ :: _, _ => none

/-- Adds the value `d` to a table under a dotted `key`. The table is one that dotted keys made
exactly when the key has more than one part. -/
def insert (key : List String) (d : Document) (node : Node) : Option Node := do
  let last ← key.getLast?
  let path := key.dropLast
  modifyAt true (fun
    | table implicit dotted entries =>
      if dotted == path.isEmpty || entries.any (fun e => e.1 == last) then none
      else some (table implicit dotted (entries ++ [(last, value d)]))
    | _ => none) path node

/-- Opens the table at `key` by a header. It may have been on the way to others, but not opened
before. -/
def openTable (key : List String) (root : Node) : Option Node := do
  let last ← key.getLast?
  modifyAt false (fun
    | table implicit dotted entries =>
      match entries.find? fun e => e.1 == last with
      | none => some (table implicit dotted (entries ++ [(last, opened)]))
      | some (_, table true false below) =>
        some (table implicit dotted (setEntry last (table false false below) entries))
      | _ => none
    | _ => none) key.dropLast root

/-- Opens the next table of the array at `key` by a header. -/
def openNext (key : List String) (root : Node) : Option Node := do
  let last ← key.getLast?
  modifyAt false (fun
    | table implicit dotted entries =>
      match entries.find? fun e => e.1 == last with
      | none => some (table implicit dotted (entries ++ [(last, tables [opened])]))
      | some (_, tables items) =>
        some (table implicit dotted (setEntry last (tables (items ++ [opened])) entries))
      | _ => none
    | _ => none) key.dropLast root

mutual

/-- The value of a `Node` when all is read. -/
def document : Node → Document
  | value d => d
  | table _ _ entries => .table (documentEntries entries)
  | tables items => .array (documentItems items)

/-- The entries of a table when all is read, by `document`. -/
def documentEntries : List (String × Node) → List (String × Document)
  | [] => []
  | (key, node) :: rest => (key, document node) :: documentEntries rest

/-- The items of an array when all is read, by `document`. -/
def documentItems : List Node → List Document
  | [] => []
  | node :: rest => document node :: documentItems rest

end

end Node

end CodeHealth.Toml
