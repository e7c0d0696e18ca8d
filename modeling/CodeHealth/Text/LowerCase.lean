import CodeHealth.Text.Class
import CodeHealth.Text.Property.CaseIgnorable
import CodeHealth.Text.Property.Cased
import CodeHealth.Text.Property.Lowercase

/-!
# Text in lower case

Every letter becomes its lower-case form. A capital sigma at the end of a word has a form of its
own, and the dotted capital I becomes two characters.
-/

namespace CodeHealth.Text

/-- The lower-case form of a letter `c` by `lowerRuns`; every other character as it is. -/
def lowerChar (c : Char) : Char :=
  match lowerRuns.find? fun (first, last, step, _) =>
      first ≤ c.toNat && c.toNat ≤ last && (c.toNat - first) % step == 0 with
  | some (_, _, _, distance) => Char.ofNat (c.toNat + distance).toNat
  | none => c

/-- Whether `c` is a letter that has upper and lower case (`casedRanges`). -/
def isCased (c : Char) : Bool := inRanges casedRanges c.toNat

/-- Whether `c` does not end a word, such as an accent or an apostrophe (`caseIgnorableRanges`). -/
def isCaseIgnorable (c : Char) : Bool := inRanges caseIgnorableRanges c.toNat

/-- Whether a word with upper and lower case goes on in a `text`, characters that are
`isCaseIgnorable` aside. -/
def meetsCased (text : List Char) : Bool := (text.dropWhile isCaseIgnorable).head?.any isCased

/-- The lower-case form of a text, after the characters `before` in reverse: whether a capital sigma
ends a word depends on both sides of it. -/
def lowerFrom (before : List Char) : List Char → List Char
  | [] => []
  | c :: rest =>
    let lowered :=
      if c == 'Σ' && meetsCased before && !meetsCased rest then ['ς']
      else if c == 'İ' then ['i', '̇']
      else [lowerChar c]
    lowered ++ lowerFrom (c :: before) rest

/-- The `text` in lower case, letter by letter. -/
def lowerCase (text : List Char) : List Char := lowerFrom [] text

end CodeHealth.Text
