import CodeHealth.Text.Lines

/-!
# The languages that can be analyzed

Go is read by its grammar, the others line by line. Go is also the language assumed when nothing
tells which one a project uses.
-/

namespace CodeHealth

open CodeHealth.Text

/-- A language that the analyses know. Only `go` is read by its grammar. -/
inductive Language where
  | go | typescript | python | rust | java | ruby | php | csharp
  deriving DecidableEq, Repr

namespace Language

/-- Every language, in the order in which `ofName?` tries them. -/
def all : List Language := [.go, .typescript, .python, .rust, .java, .ruby, .php, .csharp]

/-- The name of a language in settings and reports, by which `ofName?` finds it again. -/
def name : Language → String
  | go => "go"
  | typescript => "typescript"
  | python => "python"
  | rust => "rust"
  | java => "java"
  | ruby => "ruby"
  | php => "php"
  | csharp => "csharp"

/-- The language with exactly this `name`. -/
def ofName? (name : String) : Option Language := all.find? fun l => l.name == name

/-- The language that a user means by the text `given`: a name or a usual abbreviation, in any case
and with blanks around it. The text as it was understood is given when it means none. -/
def parse (given : String) : Except String Language :=
  match String.ofList ((trim given.toList).map asciiLower) with
  | "go" | "golang" => .ok go
  | "typescript" | "ts" | "javascript" | "js" => .ok typescript
  | "python" | "py" => .ok python
  | "rust" | "rs" => .ok rust
  | "java" => .ok java
  | "ruby" | "rb" => .ok ruby
  | "php" => .ok php
  | "csharp" | "c#" | "cs" => .ok csharp
  | other => .error other

/-- The message for a `text` that means no language. -/
def unknownMessage (text : String) : String := s!"unknown language '{text}'"

end Language

end CodeHealth
