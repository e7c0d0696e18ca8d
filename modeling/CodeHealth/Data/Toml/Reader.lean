import CodeHealth.Data.Toml.Scalar
import CodeHealth.Data.Toml.Table

/-!
# TOML

`Toml.parse?` reads a text line by line: keys with values, headers of tables, and comments. Values
may be nested at most 79 deep, and a key has at most 79 parts.
-/

namespace CodeHealth.Toml

open CodeHealth.Text

/-- How deep values may be nested (`value?`), and how many parts a key may have. -/
def nestingLimit : Nat := 79

/-! ### Comments and line ends -/

/-- The text after a comment, if it starts with one by `#`. -/
def skipComment : List Char → List Char
  | '#' :: rest => rest.dropWhile isPlain
  | text => text

/-- The `text` after the rest of a line: blanks, a comment that may be missing, and the line end or
the end of the text. -/
def lineEnd? (text : List Char) : Option (List Char) :=
  match skipComment (skipGap text) with
  | [] => some []
  | rest => newline? rest

/-- The text after blanks, comments and line ends, as far as the fuel reaches. Inside of arrays
(`items?`) they do not count. -/
def skipLines : Nat → List Char → List Char
  | 0, text => text
  | fuel + 1, text =>
    let text := skipGap text
    match text with
    | '#' :: _ =>
      match newline? (skipComment text) with
      | some rest => skipLines fuel rest
      -- A comment that no line feed ends is left for the caller.
      | none => text
    | _ =>
      match newline? text with
      | some rest => skipLines fuel rest
      | none => text

/-! ### Keys -/

/-- Whether `c` may stand in a key without quotes. -/
def isBare (c : Char) : Bool :=
  ('a' ≤ c && c ≤ 'z') || ('A' ≤ c && c ≤ 'Z') || isDigit c || c == '_' || c == '-'

/-- Reads one part of a key, with quotes or without. Dots between parts are left to the caller. -/
def keyPart? : List Char → Option (List Char × List Char)
  | '"' :: rest => basic? rest
  | '\'' :: rest => literal? rest
  | text =>
    match text.takeWhile isBare with
    | [] => none
    | part => some (part, text.drop part.length)

/-- Reads a key of at most `limit` parts between dots, with blanks around them. -/
def key? : Nat → List Char → Option (List String × List Char)
  | 0, _ => none
  | limit + 1, text => do
    let (part, rest) ← keyPart? (skipGap text)
    match skipGap rest with
    | '.' :: rest => (key? limit rest).map fun (parts, rest) => (String.ofList part :: parts, rest)
    | rest => some ([String.ofList part], rest)

/-! ### Values -/

/-- Reads the text `word` exactly and gives the value `d` for it. -/
def word? (word : String) (d : Document) (text : List Char) : Option (Document × List Char) :=
  if word.toList.isPrefixOf text then some (d, text.drop word.length) else none

mutual

/-- Reads a value, where the first number bounds the length of the text and the second the depth of
values (`nestingLimit`). -/
def value? : Nat → Nat → List Char → Option (Document × List Char)
  | 0, _, _ => none
  | fuel + 1, depth, text =>
    match text with
    | '"' :: _ => (string? text).map fun (s, rest) => (.string (String.ofList s), rest)
    | '\'' :: _ => (string? text).map fun (s, rest) => (.string (String.ofList s), rest)
    | '[' :: rest =>
      -- Values that are nested too deeply are refused.
      if depth == 0 then none
      else (items? fuel (depth - 1) rest).map fun (items, rest) => (.array items, rest)
    | '\x7b' :: rest =>
      if depth == 0 then none
      else
        match skipGap rest with
        | '\x7d' :: rest => some (.table [], rest)
        | rest => (members? fuel (depth - 1) Node.opened rest).map fun (node, rest) =>
            (node.document, rest)
    | 't' :: _ => word? "true" (.bool true) text
    | 'f' :: _ => word? "false" (.bool false) text
    | _ => number? text

/-- Reads the items of an array by `value?`, and its closing bracket. -/
def items? : Nat → Nat → List Char → Option (List Document × List Char)
  | 0, _, _ => none
  | fuel + 1, depth, text =>
    match skipLines text.length text with
    | ']' :: rest => some ([], rest)
    | text => do
      let (item, rest) ← value? fuel depth text
      match skipLines rest.length rest with
      | ',' :: rest => (items? fuel depth rest).map fun (items, rest) => (item :: items, rest)
      | ']' :: rest => some ([item], rest)
      | _ => none

/-- Reads the members of an inline table by `value?`, and its closing brace. -/
def members? : Nat → Nat → Node → List Char → Option (Node × List Char)
  | 0, _, _, _ => none
  | fuel + 1, depth, node, text => do
    let (key, rest) ← key? nestingLimit text
    let (d, rest) ← value? fuel depth (skipGap (← mark? ['='] rest))
    let node ← node.insert key d
    match skipGap rest with
    | ',' :: rest => members? fuel depth node rest
    | '\x7d' :: rest => some (node, rest)
    | _ => none

end

/-! ### Lines -/

/-- What is read so far, and the table that lines with keys belong to, as the last `header?` has
named it. -/
structure State where
  /-- The table of the whole text. -/
  root : Node
  /-- The key of the table that was opened last. -/
  current : List String

/-- Adds the value `d` under `key` to the current table. -/
def State.insert (s : State) (key : List String) (d : Document) : Option State := do
  let root ← s.root.modifyAt false (Node.insert key d) s.current
  return { s with root }

/-- Reads the header of a table after its first bracket and opens the table in `s`. A second bracket
makes it one of an array. -/
def header? (s : State) : List Char → Option (State × List Char)
  | '[' :: text => do
    let (key, rest) ← key? nestingLimit text
    let rest ← lineEnd? (← mark? [']'] (← mark? [']'] rest))
    return (⟨← s.root.openNext key, key⟩, rest)
  | text => do
    let (key, rest) ← key? nestingLimit text
    let rest ← lineEnd? (← mark? [']'] rest)
    return (⟨← s.root.openTable key, key⟩, rest)

/-- Reads a line with a key and a value, and puts the value into the table that `s` is in. -/
def assignment? (s : State) (text : List Char) : Option (State × List Char) := do
  let (key, rest) ← key? nestingLimit text
  let (d, rest) ← value? (2 * text.length) nestingLimit (skipGap (← mark? ['='] rest))
  return (← s.insert key d, ← lineEnd? rest)

/-- Reads all lines from the state on, where the fuel bounds their number: headers (`header?`),
assignments (`assignment?`) and lines with nothing on them. -/
def linesFrom : Nat → State → List Char → Option State
  | 0, _, _ => none
  | fuel + 1, s, text =>
    match skipGap text with
    | [] => some s
    | '#' :: rest => do linesFrom fuel s (← lineEnd? ('#' :: rest))
    | '[' :: rest => do
      let (s, rest) ← header? s rest
      linesFrom fuel s rest
    | text =>
      match newline? text with
      | some rest => linesFrom fuel s rest
      | none => do
        let (s, rest) ← assignment? s text
        linesFrom fuel s rest

/-- Reads a `text`. A byte order mark in front is passed over. -/
def parse? (text : List Char) : Option Document := do
  let text := if text.head? == some '\uFEFF' then text.tail else text
  let s ← linesFrom (text.length + 1) ⟨Node.opened, []⟩ text
  return s.root.document

end CodeHealth.Toml
