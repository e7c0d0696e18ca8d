/-!
# Tokens of Go

A source is cut into tokens before it is parsed. Line feeds and comments stay in the sequence: a
line feed ends a statement wherever the grammar lets a statement end, and is a blank elsewhere,
which only the parser can tell.
-/

namespace CodeHealth.Go

/-- The reserved words of Go, each of which is a `Lexeme` of its own. -/
inductive Keyword where
  | break | case | chan | const | continue | default | defer | else | fallthrough | for | func
  | go | goto | if | import | interface | map | package | range | return | select | struct
  | switch | type | var
  deriving DecidableEq, Repr

/-- The reserved word with this spelling, and `none` for any other identifier. -/
def Keyword.ofText? : String → Option Keyword
  | "break" => some .break
  | "case" => some .case
  | "chan" => some .chan
  | "const" => some .const
  | "continue" => some .continue
  | "default" => some .default
  | "defer" => some .defer
  | "else" => some .else
  | "fallthrough" => some .fallthrough
  | "for" => some .for
  | "func" => some .func
  | "go" => some .go
  | "goto" => some .goto
  | "if" => some .if
  | "import" => some .import
  | "interface" => some .interface
  | "map" => some .map
  | "package" => some .package
  | "range" => some .range
  | "return" => some .return
  | "select" => some .select
  | "struct" => some .struct
  | "switch" => some .switch
  | "type" => some .type
  | "var" => some .var
  | _ => none

/-- Operators and punctuation. The operators that assign through an operation, such as `+=`, are one
mark: nothing asks which operation it is. -/
inductive Mark where
  | parenL | parenR | bracketL | bracketR | braceL | braceR
  | comma | semicolon | colon | dot | ellipsis
  | assign | define | assignThrough | arrow | increment | decrement
  | orElse | andAlso
  | equal | notEqual | less | lessEqual | greater | greaterEqual
  | plus | minus | bar | caret
  | star | slash | percent | shiftL | shiftR | ampersand | andNot
  | bang | tilde
  deriving DecidableEq, Repr

/-- What a token is, without where it stands: `Token` adds that. -/
inductive Lexeme where
  /-- A line feed. -/
  | newline
  /-- A comment of either kind. -/
  | comment
  | keyword (word : Keyword)
  | identifier (name : String)
  /-- An integer, floating-point or imaginary number, or a rune. -/
  | literal
  /-- A string with its quotes. -/
  | string (text : String)
  | mark (mark : Mark)
  /-- The null character, which ends a statement like a semicolon. -/
  | null
  deriving DecidableEq, Repr

/-- A token, the line it starts on, counted from one, and its `place`: twice the number of tokens
from here to the end of the source. Where a mark is taken for two, the second has a place in
between. -/
structure Token where
  /-- What the token is. -/
  lexeme : Lexeme
  /-- The number of the line it starts on. -/
  line : Nat
  /-- Where it stands, counted from the end. -/
  place : Nat
  deriving Repr

/-- The `place` where tokens start, and zero at the end of the source. -/
def placeOf : List Token → Nat
  | [] => 0
  | t :: _ => t.place

end CodeHealth.Go
