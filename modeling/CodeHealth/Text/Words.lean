import CodeHealth.Text.Search

/-!
# Words of a line

A word is a longest stretch of identifier characters.
-/

namespace CodeHealth.Text

/-- The words of a `line`: its longest stretches of characters that are `isIdentifier`. -/
def words (line : List Char) : List (List Char) :=
  (splitClass (fun c => !isIdentifier c) line).filter fun w => !w.isEmpty

/-- Whether the text `word` is one of the `words` of a `line`. -/
def containsWord (line word : List Char) : Bool := (words line).contains word

end CodeHealth.Text
