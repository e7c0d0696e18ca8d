import CodeHealth.Decimal.Power
import CodeHealth.Text.Lines
import CodeHealth.Text.Search

/-!
# XML

`Xml.parse?` reads a well-formed document with namespaces and without a document type, and gives its
root element. Elements are called by their local names, whatever their namespace; attributes are
told apart by their namespaces too.

* Text and character data next to each other are one text.
* A line end of any kind in a text is a line feed, except for a carriage return next to a reference;
  in an attribute, white space is a space. This does not apply to characters that are written as
  references.
-/

namespace CodeHealth.Xml

open CodeHealth.Text

/-- A local name and the namespace it belongs to, if it belongs to one. Two attributes of an element
have different ones (`resolve?`). -/
structure ExpandedName where
  /-- The namespace, not its prefix. -/
  space : Option (List Char)
  /-- The name in the namespace. -/
  localPart : List Char
  deriving DecidableEq

/-- A node of a document, with names resolved (`resolve?`). Comments and instructions are nodes too,
with nothing in them. -/
inductive Node where
  | text (content : List Char)
  /-- An element with its local name, its attributes and what it holds. -/
  | element (name : List Char) (attributes : List (ExpandedName × List Char))
      (children : List Node)
  /-- A comment or an instruction. -/
  | other

namespace Node

/-- The local name of an `element`; nothing else has one. -/
def name : Node → List Char
  | element name _ _ => name
  | _ => []

/-- What an `element` holds; nothing else holds anything. -/
def children : Node → List Node
  | element _ _ children => children
  | _ => []

/-- The value of the attribute called `key` that belongs to no namespace. -/
def attribute? (key : String) : Node → Option (List Char)
  | element _ attributes _ => attributes.lookup ⟨none, key.toList⟩
  | _ => none

/-- The text at the start of the element `n`, before anything else in it. -/
def leadingText? (n : Node) : Option (List Char) :=
  match n.children with
  | text content :: _ => some content
  | _ => none

/-- The children of `n` with the local name `key`. -/
def childrenNamed (key : String) (n : Node) : List Node :=
  n.children.filter fun c => c.name == key.toList

/-- The text of the first child of `n` with the local name `key`, without white space around it. -/
def childText (key : String) (n : Node) : List Char :=
  trim (((n.childrenNamed key).head?.bind leadingText?).getD [])

mutual

/-- The node and all nodes below it, each before what it holds. Elements are looked for in it by
name. -/
def preorder : Node → List Node
  | element name attributes children => element name attributes children :: preorderAll children
  | n => [n]

/-- Some nodes and all nodes below them, by `preorder`. -/
def preorderAll : List Node → List Node
  | [] => []
  | n :: rest => preorder n ++ preorderAll rest

end

end Node

/-! ### Characters and names -/

/-- Whether `c` is white space between parts of a tag. -/
def isGap (c : Char) : Bool := c == ' ' || c == '\t' || c == '\n' || c == '\r'

/-- The `text` after white space. -/
def skipGap (text : List Char) : List Char := text.dropWhile isGap

/-- Whether `c` may occur in a document. -/
def isAllowed (c : Char) : Bool :=
  if c.toNat < 0x20 then isGap c else c.toNat != 0xFFFE && c.toNat != 0xFFFF

/-- Characters that start a name, apart from the colon (`startsName`). -/
def nameStarts : List (Nat × Nat) := [
  (0x41, 0x5A), (0x5F, 0x5F), (0x61, 0x7A), (0xC0, 0xD6), (0xD8, 0xF6), (0xF8, 0x2FF),
  (0x370, 0x37D), (0x37F, 0x1FFF), (0x200C, 0x200D), (0x2070, 0x218F), (0x2C00, 0x2FEF),
  (0x3001, 0xD7FF), (0xF900, 0xFDCF), (0xFDF0, 0xFFFD), (0x10000, 0xEFFFF)]

/-- Characters that continue a name and do not start one (`continuesName`). -/
def nameExtras : List (Nat × Nat) := [
  (0x2D, 0x2E), (0x30, 0x39), (0xB7, 0xB7), (0x300, 0x36F), (0x203F, 0x2040)]

/-- Whether `c` starts a name. The colon is not counted among `nameStarts`. -/
def startsName (c : Char) : Bool := inRanges nameStarts c.toNat

/-- Whether `c` continues a name. -/
def continuesName (c : Char) : Bool := startsName c || inRanges nameExtras c.toNat

/-- Reads a name that may hold colons, as an instruction or a reference has one; see `qname?`. -/
def name? : List Char → Option (List Char × List Char)
  | c :: rest =>
    if startsName c || c == ':' then
      let more := rest.takeWhile fun c => continuesName c || c == ':'
      some (c :: more, rest.drop more.length)
    else none
  | [] => none

/-- A name with the prefix that its namespace has in the text, before `Bindings` tell the
namespace. -/
structure QName where
  /-- The prefix, empty if there is none. -/
  space : List Char
  /-- The name behind the prefix. -/
  localPart : List Char
  deriving DecidableEq

/-- Reads a name with at most one colon (`QName`). Both parts start like names, and the prefix may
be missing. -/
def qname? (text : List Char) : Option (QName × List Char) :=
  let found := text.takeWhile fun c => continuesName c || c == ':'
  let rest := text.drop found.length
  let space := found.takeWhile (· != ':')
  match found.drop space.length with
  | [] => if found.head?.any startsName then some (⟨[], found⟩, rest) else none
  | _ :: localPart =>
    if (space.isEmpty || space.head?.any startsName) && localPart.head?.any startsName &&
        !localPart.contains ':' then
      some (⟨space, localPart⟩, rest)
    else none

/-! ### References -/

/-- The character with the number `n`, when it may occur in a document (`isAllowed`). A number that
is no character stands for the replacement character. -/
def character? (n : Nat) : Option Char :=
  if twoTo 32 ≤ n then none
  else
    let c := if n.isValidChar then Char.ofNat n else '\uFFFD'
    if isAllowed c then some c else none

/-- Reads a number in a `base` with digits of the class `p`. -/
def number? (base : Nat) (p : Char → Bool) (text : List Char) : Option (Nat × List Char) :=
  match text.takeWhile p with
  | [] => none
  | digits => some (numeral base digits, text.drop digits.length)

/-- Reads a semicolon after something that was read, as it ends a `reference?`. -/
def closed {α : Type} : α × List Char → Option (α × List Char)
  | (x, ';' :: rest) => some (x, rest)
  | _ => none

/-- Reads a reference to a character after its ampersand: by its number, or by one of five names,
such as `lt`. -/
def reference? : List Char → Option (Char × List Char)
  | '#' :: 'x' :: rest => do
    let (n, rest) ← number? 16 isHexDigit rest
    closed (← character? n, rest)
  | '#' :: rest => do
    let (n, rest) ← number? 10 isDigit rest
    closed (← character? n, rest)
  | text => do
    let (name, rest) ← name? text
    let c ← match String.ofList name with
      | "quot" => some '"'
      | "amp" => some '&'
      | "apos" => some '\''
      | "lt" => some '<'
      | "gt" => some '>'
      | _ => none
    closed (c, rest)

/-! ### Line ends and white space -/

/-- Adds the character `c` of the text to what is there in reverse. A carriage return becomes a line
feed when more text follows it or the text `ends`, and a line feed after it adds nothing. -/
def addLine (ends : Bool) (c : Char) (seen : List Char) : List Char :=
  let added := if ends && c == '\r' then '\n' else c
  match seen with
  | '\r' :: seen => if c == '\n' then '\n' :: seen else added :: '\n' :: seen
  | seen => added :: seen

/-- Line ends of any kind as line feeds, after what is there in reverse, character by character
(`addLine`). -/
def normalizeFrom : List Char → List Char → List Char
  | seen, [] => seen.reverse
  | seen, c :: rest => normalizeFrom (addLine rest.isEmpty c seen) rest

/-- The `text` with line ends of any kind as line feeds. -/
def normalizeLines (text : List Char) : List Char := normalizeFrom [] text

/-- Replaces references (`reference?`) in a text and normalizes its line ends, after what is there
in reverse. A character right after a reference is taken as it is. -/
def expandFrom : Nat → Bool → List Char → List Char → Option (List Char)
  | 0, _, _, _ => none
  | _ + 1, _, seen, [] => some seen.reverse
  | fuel + 1, _, seen, '&' :: rest => do
    let (c, rest) ← reference? rest
    expandFrom fuel true (c :: seen) rest
  | fuel + 1, true, seen, c :: rest => expandFrom fuel false (c :: seen) rest
  | fuel + 1, false, seen, c :: rest => expandFrom fuel false (addLine rest.isEmpty c seen) rest

/-- The `text` with its references replaced and its line ends normalized (`expandFrom`). -/
def expandText (text : List Char) : Option (List Char) :=
  expandFrom (text.length + 1) false [] text

/-- Replaces references (`reference?`) in the value of an attribute, and makes white space of any
other kind a space, a line end of two characters one space. -/
def expandValueFrom : Nat → List Char → Option (List Char)
  | 0, _ => none
  | _ + 1, [] => some []
  | fuel + 1, '&' :: rest => do
    let (c, rest) ← reference? rest
    return c :: (← expandValueFrom fuel rest)
  | fuel + 1, '\r' :: '\n' :: rest => (expandValueFrom fuel rest).map (' ' :: ·)
  | fuel + 1, c :: rest => (expandValueFrom fuel rest).map ((if isGap c then ' ' else c) :: ·)

/-- The value `text` of an attribute with its references replaced and its white space normalized. -/
def expandValue (text : List Char) : Option (List Char) :=
  expandValueFrom (text.length + 1) text

/-! ### Tags -/

/-- Reads allowed characters up to the text `stop`, and that text. -/
def upTo? (stop : List Char) : List Char → Option (List Char × List Char)
  | [] => none
  | c :: rest =>
    if stop.isPrefixOf (c :: rest) then some ([], (c :: rest).drop stop.length)
    else if isAllowed c then (upTo? stop rest).map fun (found, rest) => (c :: found, rest)
    else none

/-- The `text` after a `word` that it has to start with. -/
def expect? (word : String) (text : List Char) : Option (List Char) :=
  if word.toList.isPrefixOf text then some (text.drop word.length) else none

/-- Reads a value between quotes of either kind, which has no `<` in it. -/
def quoted? : List Char → Option (List Char × List Char)
  | q :: rest =>
    if q == '"' || q == '\'' then do
      let (value, rest) ← upTo? [q] rest
      if value.contains '<' then none else some (value, rest)
    else none
  | [] => none

/-- Reads an attribute from a `text`; its value is not expanded. -/
def attribute? (text : List Char) : Option ((QName × List Char) × List Char) := do
  let (name, rest) ← qname? text
  let rest ← expect? "=" (skipGap rest)
  let (value, rest) ← quoted? (skipGap rest)
  return ((name, value), rest)

/-- How an opening tag ends: the element has content, or it is empty. `attributes?` reads up to
it. -/
inductive TagEnd where
  | opened | empty

/-- Reads the attributes of a tag up to its end (`TagEnd`). White space stands before each of
them. -/
def attributes? : Nat → List Char → Option (List (QName × List Char) × TagEnd × List Char)
  | 0, _ => none
  | fuel + 1, text =>
    match skipGap text with
    | '/' :: '>' :: rest => some ([], .empty, rest)
    | '>' :: rest => some ([], .opened, rest)
    | found => do
      if found.length == text.length then none
      else
        let ((name, value), rest) ← attribute? found
        let (more, tagEnd, rest) ← attributes? fuel rest
        return ((name, ← expandValue value) :: more, tagEnd, rest)

/-- The `text` after a comment, whose opening mark was read. Two hyphens end it. -/
def comment? (text : List Char) : Option (List Char) := do
  let (_, rest) ← upTo? "--".toList text
  expect? ">" rest

/-- The `text` after an instruction, whose opening mark was read. A declaration is none. -/
def instruction? (text : List Char) : Option (List Char) := do
  if "xml ".toList.isPrefixOf text then none
  else
    let (_, rest) ← name? text
    let (_, rest) ← upTo? "?>".toList (skipGap rest)
    return rest

/-! ### Namespaces -/

/-- The namespaces that prefixes stand for, the nearest first, as `declared?` adds them. The empty
prefix is for names without one. -/
abbrev Bindings := List (List Char × List Char)

/-- A namespace that the standard on namespaces itself names, by the `path` that follows its
authority. -/
def standardSpace (path : List String) : List Char :=
  (String.intercalate "/" ("http:" :: "" :: "www.w3.org" :: path)).toList

/-- The prefix `xmlns` of attributes that declare namespaces. -/
def declares : List Char := "xmlns".toList

/-- The namespace of attributes that declare namespaces, which no prefix may be given
(`declared?`). -/
def declaringSpace : List Char := standardSpace ["2000", "xmlns", ""]

/-- The prefix `xml`, which needs no declaration. -/
def predeclared : List Char := "xml".toList

/-- The namespace of the prefix `predeclared`. -/
def predeclaredSpace : List Char := standardSpace ["XML", "1998", "namespace"]

/-- Takes up what an attribute declares, after those `seen`. No prefix is declared twice. The two
namespaces of the standard cannot be declared, except that the predeclared prefix may be given its
own. -/
def declare? (seen : Bindings) (name : QName) (value : List Char) : Option Bindings :=
  if name.space == declares then
    if value == declaringSpace then none
    else if name.localPart == predeclared then
      if value == predeclaredSpace then some seen else none
    else if value == predeclaredSpace || (seen.lookup name.localPart).isSome then none
    else some (seen ++ [(name.localPart, value)])
  else if name.localPart == declares then
    if value == predeclaredSpace || value == declaringSpace then none
    else some (seen ++ [([], value)])
  else some seen

/-- The namespaces that the `attributes` of an element declare. -/
def declared? (attributes : List (QName × List Char)) : Option Bindings :=
  attributes.foldlM (fun seen a => declare? seen a.1 a.2) []

/-- Whether an attribute called `name` declares a namespace. -/
def isDeclaration (name : QName) : Bool := name.space == declares || name.localPart == declares

/-- The namespace and local name of an attribute `name`, where its prefix must be declared. Without
a prefix it belongs to no namespace. -/
def expandedName? (bindings : Bindings) (name : QName) : Option ExpandedName :=
  if name.space.isEmpty then some ⟨none, name.localPart⟩
  else if name.space == predeclared then some ⟨some predeclaredSpace, name.localPart⟩
  else (bindings.lookup name.space).map fun space => ⟨some space, name.localPart⟩

/-- The `attributes` of an element that declare no namespace. Their prefixes are declared, and no
two of them have the same `ExpandedName`. -/
def resolve? (bindings : Bindings) (attributes : List (QName × List Char)) :
    Option (List (ExpandedName × List Char)) := do
  let proper := attributes.filter fun a => !isDeclaration a.1
  let resolved ← proper.mapM fun a => (expandedName? bindings a.1).map (·, a.2)
  let names := resolved.map Prod.fst
  if names.eraseDups.length == names.length then some resolved else none

/-! ### Content -/

/-- Puts a text in front of nodes. Text next to text becomes one `Node.text`. -/
def prepend (content : List Char) : List Node → List Node
  | .text more :: rest => .text (content ++ more) :: rest
  | nodes => .text content :: nodes

mutual

/-- Reads an element after its opening bracket, where the fuel bounds the length of the text. Its
closing tag, which `content?` reads, has the name of its opening one, prefix included. -/
def element? : Nat → Bindings → List Char → Option (Node × List Char)
  | 0, _, _ => none
  | fuel + 1, outer, text => do
    let (name, rest) ← qname? text
    let (attributes, tagEnd, rest) ← attributes? (rest.length + 1) rest
    -- What an element declares hides what is declared around it, and holds for its own name too.
    let bindings := (← declared? attributes) ++ outer
    let resolved ← resolve? bindings attributes
    if name.space == declares then none
    else if !name.space.isEmpty && (bindings.lookup name.space).isNone then none
    else
      match tagEnd with
      | .empty => some (.element name.localPart resolved [], rest)
      | .opened =>
        let (children, closing, rest) ← content? fuel bindings rest
        if closing == name then some (.element name.localPart resolved children, rest) else none

/-- Reads what an element holds and its closing tag, whose name is given for `element?` to
compare. -/
def content? : Nat → Bindings → List Char → Option (List Node × QName × List Char)
  | 0, _, _ => none
  | fuel + 1, bindings, text =>
    match text with
    | [] => none
    | '<' :: '/' :: rest => do
      let (name, rest) ← qname? rest
      let rest ← expect? ">" (skipGap rest)
      return ([], name, rest)
    | '<' :: '?' :: rest => do
      let (nodes, closing, rest) ← content? fuel bindings (← instruction? rest)
      return (.other :: nodes, closing, rest)
    | '<' :: '!' :: '-' :: '-' :: rest => do
      let (nodes, closing, rest) ← content? fuel bindings (← comment? rest)
      return (.other :: nodes, closing, rest)
    | '<' :: '!' :: rest => do
      let (data, rest) ← upTo? "]]>".toList (← expect? "[CDATA[" rest)
      let (nodes, closing, rest) ← content? fuel bindings rest
      return (prepend (normalizeLines data) nodes, closing, rest)
    | '<' :: rest => do
      let (child, rest) ← element? fuel bindings rest
      let (nodes, closing, rest) ← content? fuel bindings rest
      return (child :: nodes, closing, rest)
    -- Text up to the next tag, where references are expanded and the end of a section is refused.
    | c :: rest => do
      let found := (c :: rest).takeWhile (· != '<')
      if !found.all isAllowed || occursIn "]]>".toList found then none
      else
        let expanded ← expandText found
        let (nodes, closing, rest) ← content? fuel bindings ((c :: rest).drop found.length)
        return (prepend expanded nodes, closing, rest)

end

/-! ### Documents -/

/-- The text after comments, instructions and white space, which may stand around the one
`element?`. -/
def misc? : Nat → List Char → Option (List Char)
  | 0, _ => none
  | fuel + 1, text =>
    match skipGap text with
    | '<' :: '!' :: '-' :: '-' :: rest => do misc? fuel (← comment? rest)
    | '<' :: '?' :: rest => do misc? fuel (← instruction? rest)
    | rest => some rest

/-- The `text` after an attribute of the declaration, if it starts with one of this `name`, and
after the white space that separates it from what follows. -/
def declarationPart? (name : String) (text : List Char) : Option (List Char) :=
  if name.toList.isPrefixOf text then do
    let (_, rest) ← attribute? text
    if rest.isEmpty || rest.head?.any isGap || "?>".toList.isPrefixOf rest then
      some (skipGap rest)
    else none
  else some text

/-- The `text` after the declaration of a document, if it starts with one. The declaration names a
version first. -/
def declaration? (text : List Char) : Option (List Char) :=
  if "<?xml ".toList.isPrefixOf text then
    let rest := skipGap (text.drop 6)
    if "version".toList.isPrefixOf rest then do
      let rest ← declarationPart? "version" rest
      let rest ← declarationPart? "encoding" rest
      let rest ← if "standalone".toList.isPrefixOf rest then (attribute? rest).map Prod.snd
        else some rest
      expect? "?>" (skipGap rest)
    else none
  else some text

/-- Reads a document and gives its root element (`element?`). A byte order mark in front is passed
over. -/
def parse? (text : List Char) : Option Node := do
  let text := if text.head? == some '\uFEFF' then text.tail else text
  let fuel := text.length + 1
  match ← misc? fuel (← declaration? text) with
  | '<' :: rest =>
    let (root, rest) ← element? (2 * fuel) [] rest
    if (← misc? fuel rest).isEmpty then some root else none
  | _ => none

end CodeHealth.Xml
