import CodeHealth.Go.Token
import CodeHealth.Text.Class
import CodeHealth.Text.Property.NameContinue
import CodeHealth.Text.Property.NameStart

/-!
# Cutting Go source into tokens

Every token is the longest one that starts at its place. A source that has a character no token
starts with, or a string or rune that does not end, has no token sequence. The null character stands
alone: no string, rune or comment holds it.

The readers below take the characters from some place on and give the rest after what they read.

* `number`, `rune`, `interpreted`, `raw` and `comment` read the longer tokens;
* `tokens?` reads a whole source.
-/

namespace CodeHealth.Go.Lexer

open CodeHealth.Text

/-! ### Numbers -/

/-- How far a number was read: how many characters belong to it, and the rest. Readers of numbers go
from one `Reach` to the next. -/
structure Reach where
  /-- How many characters belong to the number so far. -/
  count : Nat
  /-- The text after them. -/
  rest : List Char

/-- Digits of the class `p` that may each have an underscore before them, after `count`
characters. -/
def digitsMore (p : Char → Bool) (count : Nat) : List Char → Reach
  | '_' :: c :: rest =>
    if p c then digitsMore p (count + 2) rest else ⟨count, '_' :: c :: rest⟩
  | c :: rest => if p c then digitsMore p (count + 1) rest else ⟨count, c :: rest⟩
  | [] => ⟨count, []⟩

/-- One digit of the class `p` or more, with single underscores between them. -/
def digits (p : Char → Bool) : Reach → Option Reach
  | ⟨count, c :: rest⟩ => if p c then some (digitsMore p (count + 1) rest) else none
  | ⟨_, []⟩ => none

/-- Passes over one character when it is of the class `p`. -/
def skipOne (p : Char → Bool) : Reach → Reach
  | ⟨count, c :: rest⟩ => if p c then ⟨count + 1, rest⟩ else ⟨count, c :: rest⟩
  | ⟨count, []⟩ => ⟨count, []⟩

/-- Reads one character of the class `p`. -/
def one (p : Char → Bool) : Reach → Option Reach
  | ⟨count, c :: rest⟩ => if p c then some ⟨count + 1, rest⟩ else none
  | ⟨_, []⟩ => none

/-- How far `read` reads from `r`, or the same place when it reads nothing. -/
def optional (read : Reach → Option Reach) (r : Reach) : Reach := (read r).getD r

/-- How far the one of the `readers` reads that reads most from `r`. -/
def longest (readers : List (Reach → Option Reach)) (r : Reach) : Option Reach :=
  readers.foldl (fun best read =>
    match best, read r with
    | none, found => found
    | some best, some found => if best.count < found.count then some found else some best
    | some best, none => some best) none

/-- Whether `c` is an octal digit. -/
def isOctal (c : Char) : Bool := '0' ≤ c && c ≤ '7'

/-- Whether `c` is a binary digit. -/
def isBinary (c : Char) : Bool := c == '0' || c == '1'

/-- A zero, one of the letters `lower` and `upper`, and digits of the class `p`. -/
def based (lower upper : Char) (p : Char → Bool) (r : Reach) : Option Reach := do
  let r ← one (· == '0') r
  let r ← one (fun c => c == lower || c == upper) r
  digits p (skipOne (· == '_') r)

/-- A zero and octal digits, with or without the letter that marks the base, from `r` on. -/
def octal (r : Reach) : Option Reach := do
  let r ← one (· == '0') r
  digits isOctal (skipOne (· == '_') (skipOne (fun c => c == 'o' || c == 'O') r))

/-- A single zero, or a decimal number that does not start with one, from `r` on. -/
def decimal (r : Reach) : Option Reach :=
  (one (· == '0') r).or do
    let r ← one isDigit r
    return optional (fun r => digits isDigit (skipOne (· == '_') r)) r

/-- An integer in any base, the `longest` one. -/
def integer : Reach → Option Reach :=
  longest [based 'b' 'B' isBinary, decimal, octal, based 'x' 'X' isHexDigit]

/-- An exponent: its letter (`lower` or `upper`), a sign that may be left out, and digits. -/
def exponent (lower upper : Char) (r : Reach) : Option Reach := do
  let r ← one (fun c => c == lower || c == upper) r
  digits isDigit (skipOne (fun c => c == '+' || c == '-') r)

/-- A floating-point number with decimal digits, the `longest` of its three forms. -/
def decimalFloat : Reach → Option Reach :=
  longest [
    fun r => do
      let r ← digits isDigit r
      let r ← one (· == '.') r
      return optional (exponent 'e' 'E') (optional (digits isDigit) r),
    fun r => do exponent 'e' 'E' (← digits isDigit r),
    fun r => do
      let r ← one (· == '.') r
      return optional (exponent 'e' 'E') (← digits isDigit r)]

/-- A floating-point number with hexadecimal digits, which needs an `exponent`. -/
def hexFloat (r : Reach) : Option Reach := do
  let r ← one (· == '0') r
  let r ← one (fun c => c == 'x' || c == 'X') r
  longest [
    fun r => do
      let r ← digits isHexDigit (skipOne (· == '_') r)
      exponent 'p' 'P' (optional (digits isHexDigit) (← one (· == '.') r)),
    fun r => do exponent 'p' 'P' (← digits isHexDigit (skipOne (· == '_') r)),
    fun r => do exponent 'p' 'P' (← digits isHexDigit (← one (· == '.') r))] r

/-- The rest of a `text` after any number, with the letter that makes it imaginary when there is
one. -/
def number (text : List Char) : Option (List Char) :=
  let plain := [digits isDigit, integer, decimalFloat, hexFloat]
  let imaginary := plain.map fun read r => do one (· == 'i') (← read r)
  (longest ([integer, decimalFloat, hexFloat] ++ imaginary) ⟨0, text⟩).map Reach.rest

/-! ### Quoted tokens and comments -/

/-- The character that ends an item of a source and is never part of a longer token. It is a
`Lexeme` of its own. -/
def null : Char := '\x00'

/-- The text after exactly this many hexadecimal digits, as an escape of a `rune` asks for them. -/
def hexDigits : Nat → List Char → Option (List Char)
  | 0, text => some text
  | n + 1, c :: text => if isHexDigit c then hexDigits n text else none
  | _ + 1, [] => none

/-- The text after a closing single quote, with which a `rune` ends. -/
def closingQuote : List Char → Option (List Char)
  | '\'' :: rest => some rest
  | _ => none

/-- A rune after its opening quote, with its closing quote (`closingQuote`): one character, or an
escape. -/
def rune : List Char → Option (List Char)
  | '\\' :: 'x' :: text => do closingQuote (← hexDigits 2 text)
  | '\\' :: 'u' :: text => do closingQuote (← hexDigits 4 text)
  | '\\' :: 'U' :: text => do closingQuote (← hexDigits 8 text)
  | '\\' :: a :: text =>
    -- An octal escape has three digits.
    if isOctal a then
      match text with
      | b :: c :: text => if isOctal b && isOctal c then closingQuote text else none
      | _ => none
    else if ['a', 'b', 'f', 'n', 'r', 't', 'v', '\\', '\'', '"'].contains a then
      closingQuote text
    else none
  | c :: text => if c = '\'' || c = '\\' || c = null then none else closingQuote text
  | [] => none

/-- A string in double quotes after its opening quote, and what was read of it in reverse after
`seen`. -/
def interpreted (seen : List Char) : List Char → Option (List Char × List Char)
  | '"' :: text => some ('"' :: seen, text)
  | '\\' :: 'x' :: a :: b :: text =>
    if isHexDigit a && isHexDigit b then interpreted (b :: a :: 'x' :: '\\' :: seen) text else none
  | '\\' :: 'u' :: a :: b :: c :: d :: text =>
    if [a, b, c, d].all isHexDigit then interpreted (d :: c :: b :: a :: 'u' :: '\\' :: seen) text
    else none
  | '\\' :: 'U' :: a :: b :: c :: d :: e :: f :: g :: h :: text =>
    if [a, b, c, d, e, f, g, h].all isHexDigit then
      interpreted (h :: g :: f :: e :: d :: c :: b :: a :: 'U' :: '\\' :: seen) text
    else none
  | '\\' :: c :: text =>
    -- An escape in hexadecimal digits has its full length, which the cases before ask for.
    if c = 'x' || c = 'u' || c = 'U' || c = null then none
    else interpreted (c :: '\\' :: seen) text
  | c :: text =>
    if c = '\n' || c = '\\' || c = null then none else interpreted (c :: seen) text
  | [] => none

/-- A string in back quotes after its opening quote, and what was read of it in reverse after
`seen`. -/
def raw (seen : List Char) : List Char → Option (List Char × List Char)
  | c :: text =>
    if c = '\x60' then some (c :: seen, text)
    else if c = null then none
    else raw (c :: seen) text
  | [] => none

/-- A comment in stars after its opening, and the number of lines it ends, `newlines` of them so
far. -/
def comment (newlines : Nat) : List Char → Option (Nat × List Char)
  | '*' :: '/' :: text => some (newlines, text)
  | c :: text =>
    if c = null then none else comment (if c = '\n' then newlines + 1 else newlines) text
  | [] => none

/-- A comment in stars from its first character on, when it ends (`comment`). -/
def starComment : Char → List Char → Option (Nat × List Char)
  | '/', '*' :: text => comment 0 text
  | _, _ => none

/-! ### Marks, words and the whole source -/

/-- The mark that starts at a place: the longest one, as those of three characters are tried first,
and then those of two. Unlike `Go.mark` it reads characters. -/
def mark : List Char → Option (Mark × List Char)
  -- three characters
  | '<' :: '<' :: '=' :: text => some (.assignThrough, text)
  | '>' :: '>' :: '=' :: text => some (.assignThrough, text)
  | '&' :: '^' :: '=' :: text => some (.assignThrough, text)
  | '.' :: '.' :: '.' :: text => some (.ellipsis, text)
  -- two characters
  | '<' :: '<' :: text => some (.shiftL, text)
  | '>' :: '>' :: text => some (.shiftR, text)
  | '&' :: '^' :: text => some (.andNot, text)
  | '&' :: '&' :: text => some (.andAlso, text)
  | '|' :: '|' :: text => some (.orElse, text)
  | '<' :: '-' :: text => some (.arrow, text)
  | '+' :: '+' :: text => some (.increment, text)
  | '-' :: '-' :: text => some (.decrement, text)
  | '=' :: '=' :: text => some (.equal, text)
  | '!' :: '=' :: text => some (.notEqual, text)
  | '<' :: '=' :: text => some (.lessEqual, text)
  | '>' :: '=' :: text => some (.greaterEqual, text)
  | ':' :: '=' :: text => some (.define, text)
  | '+' :: '=' :: text => some (.assignThrough, text)
  | '-' :: '=' :: text => some (.assignThrough, text)
  | '*' :: '=' :: text => some (.assignThrough, text)
  | '/' :: '=' :: text => some (.assignThrough, text)
  | '%' :: '=' :: text => some (.assignThrough, text)
  | '&' :: '=' :: text => some (.assignThrough, text)
  | '|' :: '=' :: text => some (.assignThrough, text)
  | '^' :: '=' :: text => some (.assignThrough, text)
  | '(' :: text => some (.parenL, text)
  | ')' :: text => some (.parenR, text)
  | '[' :: text => some (.bracketL, text)
  | ']' :: text => some (.bracketR, text)
  | '\x7b' :: text => some (.braceL, text)
  | '\x7d' :: text => some (.braceR, text)
  | ',' :: text => some (.comma, text)
  | ';' :: text => some (.semicolon, text)
  | ':' :: text => some (.colon, text)
  | '.' :: text => some (.dot, text)
  | '=' :: text => some (.assign, text)
  | '<' :: text => some (.less, text)
  | '>' :: text => some (.greater, text)
  | '+' :: text => some (.plus, text)
  | '-' :: text => some (.minus, text)
  | '|' :: text => some (.bar, text)
  | '^' :: text => some (.caret, text)
  | '*' :: text => some (.star, text)
  | '/' :: text => some (.slash, text)
  | '%' :: text => some (.percent, text)
  | '&' :: text => some (.ampersand, text)
  | '!' :: text => some (.bang, text)
  | '~' :: text => some (.tilde, text)
  | _ => none

/-- Whether `c` may start an identifier. -/
def startsName (c : Char) : Bool :=
  c == '_' || (inRanges nameStartRanges c.toNat && !isRecent c)

/-- Whether `c` may continue an identifier. -/
def continuesName (c : Char) : Bool :=
  c == '_' || (inRanges nameContinueRanges c.toNat && !isRecent c)

/-- The reserved word (`Keyword`) or identifier that is spelled `name`. -/
def word (name : String) : Lexeme :=
  match Keyword.ofText? name with
  | some keyword => .keyword keyword
  | none => .identifier name

/-- Whether `c` is white space between tokens. Blanks outside ASCII are not among it. -/
def isBlank (c : Char) : Bool := c == ' ' || ('\t' ≤ c && c ≤ '\r')

/-- How many characters of a `text` are line feeds. -/
def countNewlines (text : List Char) : Nat := text.countP (· == '\n')

/-- One step: what starts with the character `c`, the lines it ends, and the rest. White space gives
no lexeme. -/
def next? (c : Char) (rest : List Char) : Option (Option Lexeme × Nat × List Char) :=
  if c = '\n' then some (some .newline, 1, rest)
  else if isBlank c then some (none, 0, rest)
  -- Names come before anything else that may start with a letter.
  else if startsName c then
    let name := c :: rest.takeWhile continuesName
    some (some (word (String.ofList name)), 0, rest.dropWhile continuesName)
  else if c = '"' then
    (interpreted ['"'] rest).map fun (seen, rest) =>
      (some (.string (String.ofList seen.reverse)), countNewlines seen, rest)
  else if c = '\x60' then
    (raw [c] rest).map fun (seen, rest) =>
      (some (.string (String.ofList seen.reverse)), countNewlines seen, rest)
  else if c = '\'' then
    (rune rest).map fun after => (some .literal, if rest.head? = some '\n' then 1 else 0, after)
  else if c = '/' && rest.head? = some '/' then
    some (some .comment, 0, rest.dropWhile fun c => c != '\n' && c != null)
  else if c = null then some (some .null, 0, rest)
  else
    -- A slash may start a comment, and a point may start a number: both are tried before marks.
    match starComment c rest, number (c :: rest) with
    | some (newlines, rest), _ => some (some .comment, newlines, rest)
    | none, some rest => some (some .literal, 0, rest)
    | none, none => (mark (c :: rest)).map fun (mark, rest) => (some (.mark mark), 0, rest)

/-- What starts at each place from some place on, with its line, where `seen` holds what was there
before in reverse; the result is in reverse too. Every step reads a character, so as many steps as
there are characters are enough. -/
def lexemesFrom : Nat → Nat → List (Lexeme × Nat) → List Char → Option (List (Lexeme × Nat))
  | _, _, seen, [] => some seen
  | 0, _, _, _ :: _ => none
  | fuel + 1, line, seen, c :: rest =>
    match next? c rest with
    | some (some lexeme, newlines, rest) =>
      lexemesFrom fuel (line + newlines) ((lexeme, line) :: seen) rest
    | some (none, newlines, rest) => lexemesFrom fuel (line + newlines) seen rest
    | none => none

/-- The tokens of lexemes that are given in reverse, in front of the tokens `following`. -/
def placed (following : List Token) : List (Lexeme × Nat) → List Token
  | [] => following
  | (lexeme, line) :: before =>
    placed (⟨lexeme, line, placeOf following + 2⟩ :: following) before

/-- The tokens of a `source`, when it has any reading as tokens. A byte order mark at the front is
skipped. -/
def tokens? (source : List Char) : Option (List Token) :=
  let source := match source with
    | '\ufeff' :: rest => rest
    | text => text
  (lexemesFrom (source.length + 1) 1 [] source).map (placed [])

end CodeHealth.Go.Lexer
