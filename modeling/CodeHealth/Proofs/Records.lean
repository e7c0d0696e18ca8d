import CodeHealth.Data.Document
import Mathlib.Data.List.Nodup

/-!
# Records in documents

A record is written as a table, or as an array that holds its fields in their order. Either way each
field has a value of its own or none, and nothing else that is written counts.

* `Document.field?` — the value of a field;
* `Document.namedFields?_eq` — a table is a record when it gives no field twice;
* `Document.fields?_eq_some`, `Document.fields?_bind_eq_some_iff` — reading a record finds the value
  of every field;
* `Document.fields?_insert` — keys that name no field do not count.
-/

namespace CodeHealth.Document

variable {format : Format} {names : List String} {entries before after : List (String × Document)}
  {name key : String} {value : Document}

/-- The value of the field `name` of a record: the value of its key, or the item in its place of an
array. -/
def field? (names : List String) (name : String) : Document → Option Document
  | array items => items[names.idxOf name]?
  | d => d.get? name

/-- The entries with the key `name`, which may be given more than once. -/
def entriesOf (name : String) (entries : List (String × Document)) : List (String × Document) :=
  entries.filter fun e => e.1 == name

/-- `entriesOf` goes through entries in order. -/
theorem entriesOf_append (name : String) (before after : List (String × Document)) :
    entriesOf name (before ++ after) = entriesOf name before ++ entriesOf name after :=
  List.filter_append before after

/-- `entriesOf` keeps an entry exactly when it has the key, and keeps the order of the others. -/
theorem entriesOf_cons (name : String) (e : String × Document) (entries) :
    entriesOf name (e :: entries) = if e.1 = name then e :: entriesOf name entries
      else entriesOf name entries := by
  simp [entriesOf, List.filter_cons]

/-- The last of the `entriesOf` a key counts for `value?`. -/
theorem value?_eq (name : String) (entries : List (String × Document)) :
    value? name entries = (entriesOf name entries).getLast?.map Prod.snd := by
  have hlookup : ∀ es : List (String × Document),
      es.lookup name = (entriesOf name es).head?.map Prod.snd := by
    intro es
    induction es with
    | nil => rfl
    | cons e es ih =>
      obtain ⟨key, value⟩ := e
      by_cases hkey : key = name
      · rw [entriesOf_cons, if_pos hkey, hkey, List.lookup_cons_self]
        rfl
      · have hbeq : (name == key) = false := by simpa using fun h => hkey h.symm
        rw [entriesOf_cons, if_neg hkey, List.lookup_cons, hbeq, ih]
  rw [value?, hlookup, entriesOf, List.filter_reverse, List.head?_reverse]
  rfl

/-- The value of a field that is not given twice: `some none` when it is not given at all. -/
def onlyValue? (entries : List (String × Document)) (name : String) : Option (Option Document) :=
  if (entriesOf name entries).length ≤ 1 then some (value? name entries) else none

/-- `namedFields?` takes the fields one by one by `onlyValue?`. -/
theorem namedFields?_eq_mapM (names : List String) (entries : List (String × Document)) :
    namedFields? names entries = names.mapM (onlyValue? entries) := by
  unfold namedFields?
  congr 1
  funext name
  have hentries : (entries.filter fun e => e.1 == name) = entriesOf name entries := rfl
  rw [hentries, onlyValue?, value?_eq]
  rcases entriesOf name entries with _ | ⟨e, _ | ⟨_, _⟩⟩ <;> simp

/-- **Tables as records.** A table is a record with the fields `names` when it gives none of them
twice. Keys that are no fields do not count, even twice. -/
theorem namedFields?_eq (names : List String) (entries : List (String × Document)) :
    namedFields? names entries =
      if ∀ name ∈ names, (entriesOf name entries).length ≤ 1 then
        some (names.map fun name => value? name entries)
      else none := by
  rw [namedFields?_eq_mapM]
  induction names with
  | nil => rfl
  | cons name names ih =>
    rw [List.mapM_cons, ih, onlyValue?]
    have hcons : (∀ n ∈ name :: names, (entriesOf n entries).length ≤ 1) ↔
        (entriesOf name entries).length ≤ 1 ∧ ∀ n ∈ names, (entriesOf n entries).length ≤ 1 := by
      simp only [List.forall_mem_cons]
    by_cases hone : (entriesOf name entries).length ≤ 1
    · by_cases hall : ∀ n ∈ names, (entriesOf n entries).length ≤ 1
      · rw [if_pos hone, if_pos hall, if_pos (hcons.mpr ⟨hone, hall⟩)]
        rfl
      · rw [if_pos hone, if_neg hall, if_neg fun h => hall (hcons.mp h).2]
        rfl
    · rw [if_neg hone, if_neg fun h => hone (hcons.mp h).1]
      rfl

/-- **Reading a record** by `fields?` finds the value of every field, from a table or from an array.
In an array a field is found by its place among `names`, which are therefore different
(`hnames`). -/
theorem fields?_eq_some {d : Document} {values : List (Option Document)} (hnames : names.Nodup)
    (h : d.fields? format names = some values) :
    values = names.map fun name => d.field? names name := by
  cases d with
  | table entries =>
    rw [fields?, namedFields?_eq] at h
    split at h
    · cases h
      rfl
    · cases h
  | array items =>
    rw [fields?] at h
    split at h
    · cases h
      -- A name has the item at its own place, or nothing where the sequence is too short.
      apply List.ext_getElem
      · simp
        omega
      · intro i hi hi'
        have hname : i < names.length := by simpa using hi'
        have hplace : (names.map fun name => (array items).field? names name)[i] = items[i]? := by
          rw [List.getElem_map, field?, hnames.idxOf_getElem i hname]
        rw [hplace, List.getElem_append]
        split
        case isTrue hgiven =>
          have hitem : i < items.length := by
            simp only [List.length_map, List.length_take] at hgiven
            omega
          rw [List.getElem_map, List.getElem_take, List.getElem?_eq_getElem hitem]
        case isFalse hmissing =>
          have hitem : items.length ≤ i := by
            simp only [List.length_map, List.length_take] at hmissing
            omega
          rw [List.getElem_replicate, List.getElem?_eq_none hitem]
    · cases h
  | moment =>
    cases h
    rfl
  | null | bool | integer | float | string | unrepresentable => cases h

/-- A record is read when its fields are there and what they hold can be `read`. The values are
those of `field?`, in the order of `names`. -/
theorem fields?_bind_eq_some_iff {α : Type} {d : Document} {a : α} (hnames : names.Nodup)
    (read : List (Option Document) → Option α) :
    (d.fields? format names >>= read) = some a ↔
      (d.fields? format names).isSome ∧
        read (names.map fun name => d.field? names name) = some a := by
  cases hfields : d.fields? format names with
  | none => simp
  | some values =>
    rw [fields?_eq_some hnames hfields]
    simp

theorem field?_eq_get? {d : Document} (h : ∀ items, d ≠ array items) (names : List String)
    (name : String) : d.field? names name = d.get? name := by
  cases d with
  | array items => exact absurd rfl (h items)
  | null | bool | integer | float | string | moment | unrepresentable | table => rfl

/-- A field that may be left out has its default value `a`, or the value that is `read`. A value
that cannot be read is no reason to take the default. -/
theorem withDefault_eq_some_iff {α : Type} {a b : α} {read : Document → Option α}
    {field : Option Document} :
    withDefault a read field = some b ↔
      (field = none → b = a) ∧ ∀ value, field = some value → read value = some b := by
  cases field with
  | none => simp [withDefault, eq_comm]
  | some value => simp [withDefault]

/-! ### One more entry -/

/-- An entry with another `key` does not change the `entriesOf` a name. -/
theorem entriesOf_insert_of_ne (h : key ≠ name) (value : Document) :
    entriesOf name (before ++ (key, value) :: after) = entriesOf name (before ++ after) := by
  rw [entriesOf_append, entriesOf_cons, if_neg h, entriesOf_append]

/-- An entry is one of the `entriesOf` its own key, between those `before` it and those `after`
it. -/
theorem entriesOf_insert_self (key : String) (value : Document) :
    entriesOf key (before ++ (key, value) :: after)
      = entriesOf key before ++ (key, value) :: entriesOf key after := by
  rw [entriesOf_append, entriesOf_cons, if_pos rfl]

/-- An entry with another `key` does not change the field `name`, wherever in the table it is
inserted. -/
theorem field?_insert_of_ne (h : key ≠ name) (names : List String) (value : Document) :
    (table (before ++ (key, value) :: after)).field? names name
      = (table (before ++ after)).field? names name := by
  show value? name _ = value? name _
  rw [value?_eq, value?_eq, entriesOf_insert_of_ne h]

/-- **Other keys do not count**: `fields?` is the same with and without an entry whose `key` is none
of the `names`. -/
theorem fields?_insert (h : key ∉ names) (format : Format)
    (before after : List (String × Document)) (value : Document) :
    (table (before ++ (key, value) :: after)).fields? format names
      = (table (before ++ after)).fields? format names := by
  have hentries : ∀ name ∈ names, entriesOf name (before ++ (key, value) :: after)
      = entriesOf name (before ++ after) := by
    intro name hname
    have hne : key ≠ name := fun heq => h (heq ▸ hname)
    exact entriesOf_insert_of_ne hne value
  have honce : (∀ name ∈ names, (entriesOf name (before ++ (key, value) :: after)).length ≤ 1)
      ↔ ∀ name ∈ names, (entriesOf name (before ++ after)).length ≤ 1 :=
    forall₂_congr fun name hname => by rw [hentries name hname]
  have hvalues : (names.map fun name => value? name (before ++ (key, value) :: after))
      = names.map fun name => value? name (before ++ after) :=
    List.map_congr_left fun name hname => by rw [value?_eq, value?_eq, hentries name hname]
  rw [fields?, fields?, namedFields?_eq, namedFields?_eq, hvalues]
  simp only [honce]

section Absent

variable (h : entriesOf key (before ++ after) = [])

include h

/-- A table that does not have a `key` yet takes it without giving a field twice, so it is a record
with it exactly when it is one without. -/
theorem isSome_fields?_insert (format : Format) (names : List String) (value : Document) :
    ((table (before ++ (key, value) :: after)).fields? format names).isSome
      = ((table (before ++ after)).fields? format names).isSome := by
  have honce : ∀ name, (entriesOf name (before ++ (key, value) :: after)).length ≤ 1
      ↔ (entriesOf name (before ++ after)).length ≤ 1 := by
    intro name
    by_cases hname : key = name
    · subst hname
      rw [entriesOf_append, List.append_eq_nil_iff] at h
      rw [entriesOf_insert_self, entriesOf_append, h.1, h.2]
      simp
    · rw [entriesOf_insert_of_ne hname]
  rw [fields?, fields?, namedFields?_eq, namedFields?_eq]
  simp only [honce]
  split <;> rfl

/-- The `key` that was put into a table has its `value`. -/
theorem field?_insert_self (names : List String) (value : Document) :
    (table (before ++ (key, value) :: after)).field? names key = some value := by
  rw [entriesOf_append, List.append_eq_nil_iff] at h
  show value? key _ = some value
  rw [value?_eq, entriesOf_insert_self, h.1, h.2]
  rfl

/-- Before that, the `key` had no value. -/
theorem field?_absent (names : List String) :
    (table (before ++ after)).field? names key = none := by
  show value? key _ = none
  rw [value?_eq, h]
  rfl

end Absent

theorem fields?_eq_none (hname : key ∈ names) (h : entriesOf key (before ++ after) ≠ [])
    (format : Format) (value : Document) :
    (table (before ++ (key, value) :: after)).fields? format names = none := by
  rw [fields?, namedFields?_eq, if_neg]
  intro honce
  have hlength := honce key hname
  rw [entriesOf_insert_self, List.length_append, List.length_cons] at hlength
  rw [entriesOf_append, Ne, ← List.length_eq_zero_iff, List.length_append] at h
  omega

end CodeHealth.Document
