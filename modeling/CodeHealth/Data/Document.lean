import CodeHealth.Data.Keyed
import CodeHealth.Decimal.Power

/-!
# Documents

A document is the value that a text in a data format stands for. Tables keep their entries in the
order of the text, and also the earlier of two entries with one key.

A record is read from a table by the names of its fields, or from an array by their order. What an
array may hold beyond the fields depends on the format.

* `Document.fields?` finds the values of the fields of a record;
* `Document.choice?` reads one of some named things;
* `Document.string?`, `Document.integer?`, `Document.list?` and the like read values.
-/

namespace CodeHealth

/-- The value that a text in a data format stands for. Which values can be read as records depends
on the `Format` (`fields?`). -/
inductive Document where
  | null
  | bool (value : Bool)
  | integer (value : Int)
  | float (value : Float)
  | string (value : String)
  /-- A date, a time of day, or both. -/
  | moment
  /-- A value that is well formed but cannot be represented. -/
  | unrepresentable
  | array (items : List Document)
  | table (entries : List (String × Document))

namespace Document

/-! ### Simple values -/

/-- The text of a document that is a `string`. -/
def string? : Document → Option String
  | string value => some value
  | _ => none

/-- The truth value of a document that is a `bool`. -/
def bool? : Document → Option Bool
  | bool value => some value
  | _ => none

/-- An integer between `low` and `high`, both included. -/
def integer? (low high : Int) : Document → Option Int
  | integer value => if low ≤ value ∧ value ≤ high then some value else none
  | _ => none

/-- A natural number of at most `bits` bits. -/
def natural? (bits : Nat) (d : Document) : Option Nat :=
  (d.integer? 0 (Int.ofNat (twoTo bits) - 1)).map Int.toNat

/-- An integer of 64 bits with a sign, if `d` is one. A `float` is none, even without a fraction. -/
def signed? (d : Document) : Option Int :=
  d.integer? (-Int.ofNat (twoTo 63)) (Int.ofNat (twoTo 63) - 1)

/-- A floating-point number; an `integer` is rounded to one. -/
def float? : Document → Option Float
  | float value => some value
  | integer value => some (Float.ofInt value)
  | _ => none

/-- The items of an `array`, each read by `read`. -/
def list? {α : Type} (read : Document → Option α) : Document → Option (List α)
  | array items => items.mapM read
  | _ => none

/-- Nothing, or a value that `read` gives: `null` stands for nothing. -/
def optional? {α : Type} (read : Document → Option α) : Document → Option (Option α)
  | null => some none
  | d => (read d).map some

/-! ### Tables -/

/-- The value of a `key`: the last one, when the key is given more than once. -/
def value? (key : String) (entries : List (String × Document)) : Option Document :=
  entries.reverse.lookup key

/-- The value at a `key` of a `table`. -/
def get? (key : String) : Document → Option Document
  | table entries => value? key entries
  | _ => none

/-- The entry that counts for each key of a `table` (`latestOf`), with every value read by
`read`. -/
def map? {α : Type} (read : Document → Option α) : Document → Option (List (String × α))
  | table entries => do
    let values ← entries.mapM fun (key, d) => (read d).map (key, ·)
    return latestOf Prod.fst values
  | _ => none

/-! ### Choices -/

/-- The formats of documents, which differ in what records may be (`fields?`). -/
inductive Format where
  | json | toml
  deriving DecidableEq, Repr

/-- Whether a value stands for nothing: `null`, or something empty in a format without null. -/
def Format.isNothing : Format → Document → Bool
  | json, null => true
  | toml, array items => items.isEmpty
  | toml, table entries => entries.isEmpty
  | _, _ => false

/-- One of some named things, told by `ofName?`. It is given by its name, or as the only key of a
table with nothing for a value. -/
def choice? {α : Type} (format : Format) (ofName? : String → Option α) : Document → Option α
  | string name => ofName? name
  | table [(name, value)] => if format.isNothing value then ofName? name else none
  | _ => none

/-! ### Records -/

/-- The values of the fields `names` in a table. A field must not be given twice, and keys that name
no field are passed over. -/
def namedFields? (names : List String) (entries : List (String × Document)) :
    Option (List (Option Document)) :=
  names.mapM fun name =>
    match entries.filter fun e => e.1 == name with
    | [] => some none
    | [e] => some (some e.2)
    | _ => none

/-- Whether an array may hold more than the fields of a record, which is then passed over
(`fields?`). -/
def Format.allowsMore : Format → Bool
  | json => false
  | toml => true

/-- The values of the fields of a record, in the order of their `names`. Missing fields at the end
of an array are missing in the record. -/
def fields? (format : Format) (names : List String) :
    Document → Option (List (Option Document))
  | table entries => namedFields? names entries
  | array items =>
    if items.length ≤ names.length || format.allowsMore then
      some ((items.take names.length).map some ++
        List.replicate (names.length - items.length) none)
    else none
  | moment => some (names.map fun _ => none)
  | _ => none

/-- The value of a `field` that must be given. -/
def required {α : Type} (read : Document → Option α) (field : Option Document) : Option α :=
  field.bind read

/-- The value of a field that may be left out: `default`, when it is. -/
def withDefault {α : Type} (default : α) (read : Document → Option α) :
    Option Document → Option α
  | none => some default
  | some d => read d

end Document

end CodeHealth
