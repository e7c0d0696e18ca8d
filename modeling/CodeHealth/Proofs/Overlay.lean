import CodeHealth.Proofs.Records
import CodeHealth.Settings.Reading
import Mathlib.Logic.Relation

/-!
# Settings laid over their defaults

Settings are read field by field. Each of them has a place of its own in a document, and it has its
default value when nothing is there, whether the part of the document it belongs to is there or not.

* `Setting`, `Setting.all` — the single settings: where each is written, how it is read and where it
  is kept;
* `Setting.at?` — what a document holds for a setting;
* `Settings.ofDocument?_eq_some_iff_overlays` — settings are the defaults, laid over by what is
  written;
* `Settings.Untouched`, `Settings.ofDocument?_eq_of_eqvGen` — unknown keys and empty parts do not
  count;
* `Settings.load_overlays_defaults` — the settings of a repository, which come from the first file
  that can be read.
-/

namespace CodeHealth

open Document

variable {format : Format} {d : Document} {o : Option Document}

/-! ### Records of settings -/

/-- The fields of weights (`Aspects`), in the order in which an array gives them. -/
def Aspects.fields : List String := ["complexity", "deps", "boundaries", "dead_code", "coverage"]

/-- The fields of `Thresholds`, in the order in which an array gives them. -/
def Thresholds.fields : List String := ["max_complexity", "max_stale_days", "min_score"]

/-- The fields of `LookupSettings`, in the order in which an array gives them. -/
def LookupSettings.fields : List String := ["timeout_secs", "workers", "offline"]

/-- The fields of `Settings`, in the order in which an array gives them. -/
def Settings.fields : List String :=
  ["root", "language", "exclude", "weights", "boundaries", "thresholds", "registry"]

/-- Weights `a` are read field by field, from a record or from nothing: each weight is that of its
field, or the one of `default` where the field is not given. -/
theorem Aspects.withDefault_eq_some_iff {default a : Aspects Float} :
    withDefault default (Aspects.ofDocument? format default) o = some a ↔
      (∀ inner, o = some inner → (inner.fields? format fields).isSome) ∧
      withDefault default.complexity float? (o.bind (field? fields "complexity"))
        = some a.complexity ∧
      withDefault default.dependencies float? (o.bind (field? fields "deps"))
        = some a.dependencies ∧
      withDefault default.boundaries float? (o.bind (field? fields "boundaries"))
        = some a.boundaries ∧
      withDefault default.unused float? (o.bind (field? fields "dead_code")) = some a.unused ∧
      withDefault default.coverage float? (o.bind (field? fields "coverage"))
        = some a.coverage := by
  obtain ⟨complexity, dependencies, boundaries, unused, coverage⟩ := a
  cases o with
  | none =>
    obtain ⟨complexity', dependencies', boundaries', unused', coverage'⟩ := default
    simp [withDefault]
  | some inner =>
    simp only [Option.bind_some, Option.some.injEq, forall_eq']
    show (inner.fields? format fields >>= _) = _ ↔ _
    rw [fields?_bind_eq_some_iff (by decide)]
    simp [fields, Option.bind_eq_some_iff]

/-- Thresholds `t` are read field by field, from a record or from nothing: each field is its default
or what is found under its name. -/
theorem Thresholds.withDefault_eq_some_iff {t : Thresholds} :
    withDefault default (Thresholds.ofDocument? format) o = some t ↔
      (∀ inner, o = some inner → (inner.fields? format fields).isSome) ∧
      withDefault default.limits.complexity (natural? 32) (o.bind (field? fields "max_complexity"))
        = some t.limits.complexity ∧
      withDefault default.limits.staleDays signed? (o.bind (field? fields "max_stale_days"))
        = some t.limits.staleDays ∧
      withDefault default.minScore float? (o.bind (field? fields "min_score"))
        = some t.minScore := by
  obtain ⟨⟨complexity, staleDays⟩, minScore⟩ := t
  cases o with
  | none => simp [withDefault, default, Limits.default, and_assoc]
  | some inner =>
    simp only [Option.bind_some, Option.some.injEq, forall_eq']
    show (inner.fields? format fields >>= _) = _ ↔ _
    rw [fields?_bind_eq_some_iff (by decide)]
    simp [fields, Option.bind_eq_some_iff, default]

/-- The settings `l` of lookups are read field by field, from a record or from nothing: each field
is its default or what is found under its name. -/
theorem LookupSettings.withDefault_eq_some_iff {l : LookupSettings} :
    withDefault default (LookupSettings.ofDocument? format) o = some l ↔
      (∀ inner, o = some inner → (inner.fields? format fields).isSome) ∧
      withDefault default.timeoutSeconds (natural? 64) (o.bind (field? fields "timeout_secs"))
        = some l.timeoutSeconds ∧
      withDefault default.workers (natural? 64) (o.bind (field? fields "workers"))
        = some l.workers ∧
      withDefault default.offline bool? (o.bind (field? fields "offline")) = some l.offline := by
  obtain ⟨timeout, workers, offline⟩ := l
  cases o with
  | none => simp [withDefault, default]
  | some inner =>
    simp only [Option.bind_some, Option.some.injEq, forall_eq']
    show (inner.fields? format fields >>= _) = _ ↔ _
    rw [fields?_bind_eq_some_iff (by decide)]
    simp [fields, Option.bind_eq_some_iff, -Bool.exists_bool]

namespace Settings

/-- **Settings are read field by field.** `ofDocument?` gives `s` exactly when the document has the
`fields` of settings, and each field of `s` is what is read from the field of the document. -/
theorem ofDocument?_eq_some_iff {s : Settings} :
    ofDocument? format d = some s ↔
      (d.fields? format fields).isSome ∧
      withDefault default.root (fun d => d.string?.map Path.ofString) (d.field? fields "root")
        = some s.root ∧
      withDefault default.language (optional? (choice? format Language.ofName?))
        (d.field? fields "language") = some s.language ∧
      withDefault default.excluded (list? string?) (d.field? fields "exclude") = some s.excluded ∧
      withDefault default.weights (Aspects.ofDocument? format default.weights)
        (d.field? fields "weights") = some s.weights ∧
      withDefault default.boundaries (list? (boundary? format)) (d.field? fields "boundaries")
        = some s.boundaries ∧
      withDefault default.thresholds (Thresholds.ofDocument? format) (d.field? fields "thresholds")
        = some s.thresholds ∧
      withDefault default.lookups (LookupSettings.ofDocument? format) (d.field? fields "registry")
        = some s.lookups := by
  obtain ⟨root, language, excluded, weights, boundaries, thresholds, lookups⟩ := s
  show (d.fields? format fields >>= _) = _ ↔ _
  rw [fields?_bind_eq_some_iff (by decide)]
  simp [fields, Option.bind_eq_some_iff]

end Settings

/-! ### Single settings -/

/-- The parts of `Settings` that are records of their own. -/
inductive Part where
  | weights | thresholds | lookups
  deriving DecidableEq

namespace Part

/-- The key that a part has in a document. -/
def name : Part → String
  | weights => "weights"
  | thresholds => "thresholds"
  | lookups => "registry"

/-- The fields of a part, in the order in which an array gives them. -/
def fields : Part → List String
  | weights => Aspects.fields
  | thresholds => Thresholds.fields
  | lookups => LookupSettings.fields

/-- The key of a part is a field of `Settings`. -/
theorem name_mem_fields (part : Part) : part.name ∈ Settings.fields := by
  cases part <;> decide

theorem name_injective : Function.Injective name := by
  intro part part'
  cases part <;> cases part' <;> decide

end Part

/-- A single setting: where it is written, how it is read and where it is kept. -/
structure Setting where
  /-- What the setting is set to. -/
  Value : Type
  /-- The part that it belongs to, if any. -/
  part : Option Part
  /-- Its key, in the part or in the whole document. -/
  name : String
  /-- How its value is read. -/
  read? : Format → Document → Option Value
  /-- Where its value is kept. -/
  value : Settings → Value

namespace Setting

/-- Every setting, by the field of `Settings` that keeps it. -/
def all : List Setting :=
  [⟨Path, none, "root", fun _ d => d.string?.map Path.ofString, Settings.root⟩,
    ⟨Option Language, none, "language", fun format => optional? (choice? format Language.ofName?),
      Settings.language⟩,
    ⟨List String, none, "exclude", fun _ => list? string?, Settings.excluded⟩,
    ⟨List String, none, "boundaries", fun format => list? (Settings.boundary? format),
      Settings.boundaries⟩,
    ⟨Float, some .weights, "complexity", fun _ => float?, fun s => s.weights.complexity⟩,
    ⟨Float, some .weights, "deps", fun _ => float?, fun s => s.weights.dependencies⟩,
    ⟨Float, some .weights, "boundaries", fun _ => float?, fun s => s.weights.boundaries⟩,
    ⟨Float, some .weights, "dead_code", fun _ => float?, fun s => s.weights.unused⟩,
    ⟨Float, some .weights, "coverage", fun _ => float?, fun s => s.weights.coverage⟩,
    ⟨Nat, some .thresholds, "max_complexity", fun _ => natural? 32,
      fun s => s.thresholds.limits.complexity⟩,
    ⟨Int, some .thresholds, "max_stale_days", fun _ => signed?,
      fun s => s.thresholds.limits.staleDays⟩,
    ⟨Float, some .thresholds, "min_score", fun _ => float?, fun s => s.thresholds.minScore⟩,
    ⟨Nat, some .lookups, "timeout_secs", fun _ => natural? 64, fun s => s.lookups.timeoutSeconds⟩,
    ⟨Nat, some .lookups, "workers", fun _ => natural? 64, fun s => s.lookups.workers⟩,
    ⟨Bool, some .lookups, "offline", fun _ => bool?, fun s => s.lookups.offline⟩]

/-- What a document holds for a setting `x`: its own field, or a field of its part. -/
def at? (x : Setting) (d : Document) : Option Document :=
  match x.part with
  | none => d.field? Settings.fields x.name
  | some part => (d.field? Settings.fields part.name).bind (field? part.fields x.name)

/-- The value that a document gives to a setting `x`: the one of `at?`, or the default value. -/
def of? (x : Setting) (format : Format) (d : Document) : Option x.Value :=
  withDefault (x.value Settings.default) (x.read? format) (x.at? d)

/-- What a document holds at the keys that lead to a setting `x`. This may differ from `at?` where
an array stands for a record. -/
def keyed? (x : Setting) (d : Document) : Option Document :=
  match x.part with
  | none => d.get? x.name
  | some part => (d.get? part.name).bind (get? x.name)

/-- No array stands for a record of settings in the document `d`, neither for the whole nor for a
`Part`. -/
def Keyed (d : Document) : Prop :=
  (∀ items, d ≠ .array items) ∧ ∀ (part : Part) items, d.get? part.name ≠ some (.array items)

/-- What counts for a setting stands at its keys, if no array stands for a record (`Keyed`). -/
theorem at?_eq_keyed? (x : Setting) (h : Keyed d) : x.at? d = x.keyed? d := by
  unfold at? keyed?
  cases x.part with
  | none => exact field?_eq_get? h.1 _ _
  | some part =>
    simp only [field?_eq_get? h.1]
    cases hpart : d.get? part.name with
    | none => rfl
    | some inner =>
      have harray : ∀ items, inner ≠ .array items := by
        rintro items rfl
        exact h.2 part items hpart
      exact field?_eq_get? harray _ _

/-- Settings are known by the values of `all`: no field is left out. -/
theorem eq_of_all {s s' : Settings} (h : ∀ x ∈ all, x.value s = x.value s') : s = s' := by
  obtain ⟨root, language, excluded, ⟨w₁, w₂, w₃, w₄, w₅⟩, boundaries, ⟨⟨t₁, t₂⟩, t₃⟩,
    ⟨l₁, l₂, l₃⟩⟩ := s
  obtain ⟨root', language', excluded', ⟨w₁', w₂', w₃', w₄', w₅'⟩, boundaries', ⟨⟨t₁', t₂'⟩, t₃'⟩,
    ⟨l₁', l₂', l₃'⟩⟩ := s'
  simp only [all, List.forall_mem_cons] at h
  obtain ⟨rfl, rfl, rfl, rfl, rfl, rfl, rfl, rfl, rfl, rfl, rfl, rfl, rfl, rfl, rfl, -⟩ := h
  rfl

end Setting

/-! ### Reading settings one by one -/

/-- The settings `s` are the defaults, laid over by what a document `d` holds. -/
def Settings.Overlays (format : Format) (d : Document) (s : Settings) : Prop :=
  ∀ x ∈ Setting.all, x.of? format d = some (x.value s)

/-- A document `d` is a record, and so is every part of it that is given. -/
structure Settings.IsRecord (format : Format) (d : Document) : Prop where
  /-- The document as a whole can be read by its fields. -/
  fields : (d.fields? format fields).isSome
  /-- Each part that is given can be read by its own fields. -/
  parts (part : Part) (inner : Document) :
    d.field? Settings.fields part.name = some inner → (inner.fields? format part.fields).isSome

/-- `IsRecord` with its three parts written out. In this form it is what reading the document of
settings asks for. -/
theorem Settings.isRecord_iff :
    IsRecord format d ↔ (d.fields? format fields).isSome ∧
      (∀ inner, d.field? fields "weights" = some inner →
        (inner.fields? format Aspects.fields).isSome) ∧
      (∀ inner, d.field? fields "thresholds" = some inner →
        (inner.fields? format Thresholds.fields).isSome) ∧
      ∀ inner, d.field? fields "registry" = some inner →
        (inner.fields? format LookupSettings.fields).isSome := by
  constructor
  · intro h
    exact ⟨h.fields, h.parts .weights, h.parts .thresholds, h.parts .lookups⟩
  · rintro ⟨hfields, hweights, hthresholds, hlookups⟩
    refine ⟨hfields, fun part => ?_⟩
    cases part with
    | weights => exact hweights
    | thresholds => exact hthresholds
    | lookups => exact hlookups

/-- **A document gives settings** when it is a record (`IsRecord`) and each of the settings can be
read (`Overlays`). -/
theorem Settings.ofDocument?_eq_some_iff_overlays {s : Settings} :
    ofDocument? format d = some s ↔ IsRecord format d ∧ Overlays format d s := by
  rw [ofDocument?_eq_some_iff, Aspects.withDefault_eq_some_iff, Overlays, isRecord_iff]
  rw [show default.thresholds = Thresholds.default from rfl, Thresholds.withDefault_eq_some_iff,
    show default.lookups = LookupSettings.default from rfl, LookupSettings.withDefault_eq_some_iff]
  simp only [Setting.all, Setting.of?, Setting.at?, List.forall_mem_cons, List.not_mem_nil,
    false_implies, implies_true, and_true, Part.name, Part.fields]
  -- both sides have the same conditions, on the left grouped by the parts
  constructor
  · rintro ⟨h, root, language, excluded, ⟨hw, weights⟩, boundaries, ⟨ht, thresholds⟩, hl, lookups⟩
    exact ⟨⟨h, hw, ht, hl⟩, root, language, excluded, boundaries, weights.1, weights.2.1,
      weights.2.2.1, weights.2.2.2.1, weights.2.2.2.2, thresholds.1, thresholds.2.1,
      thresholds.2.2, lookups⟩
  · rintro ⟨⟨h, hw, ht, hl⟩, root, language, excluded, boundaries, w₁, w₂, w₃, w₄, w₅, t₁, t₂, t₃,
      lookups⟩
    exact ⟨h, root, language, excluded, ⟨hw, w₁, w₂, w₃, w₄, w₅⟩, boundaries, ⟨ht, t₁, t₂, t₃⟩, hl,
      lookups⟩

/-! ### Documents with the same settings -/

/-- The same is read from two values of a `part`, or from one value and its absence. -/
structure Part.Agrees (part : Part) (format : Format) (o o' : Option Document) : Prop where
  /-- Both are records or not given, or neither is. -/
  record : (∀ inner, o = some inner → (inner.fields? format part.fields).isSome) ↔
    ∀ inner, o' = some inner → (inner.fields? format part.fields).isSome
  /-- Every field of the part is the same in both. -/
  field (name : String) : name ∈ part.fields →
    o.bind (field? part.fields name) = o'.bind (field? part.fields name)

/-- The same is read from one value of a `part`. -/
theorem Part.Agrees.refl (part : Part) (format : Format) (o : Option Document) :
    part.Agrees format o o :=
  ⟨Iff.rfl, fun _ _ => rfl⟩

namespace Setting

/-- The settings of a `part` are fields of it. -/
theorem name_mem_fields {x : Setting} {part : Part} (hx : x ∈ all) (h : x.part = some part) :
    x.name ∈ part.fields := by
  have hall : ∀ x ∈ all, ∀ part ∈ x.part, x.name ∈ part.fields := by decide
  exact hall x hx part h

/-- The settings outside of a `part` are fields of the whole, and not parts of it. -/
theorem name_mem_of_part_eq_none {x : Setting} (hx : x ∈ all) (h : x.part = none) :
    x.name ∈ Settings.fields ∧ ∀ part : Part, part.name ≠ x.name := by
  have hall : ∀ part : Part, ∀ x ∈ all, x.part = none →
      x.name ∈ Settings.fields ∧ part.name ≠ x.name := by
    intro part
    cases part <;> decide
  exact ⟨(hall .weights x hx h).1, fun part => (hall part x hx h).2⟩

end Setting

namespace Settings

variable {d' : Document} {before after : List (String × Document)} {key : String}

/-- Two documents give the same settings if both can be read by the `fields`, each setting outside
of the parts is the same in both (`hown`), and so is each part (`hparts`). -/
theorem ofDocument?_congr
    (hfields : (d.fields? format fields).isSome = (d'.fields? format fields).isSome)
    (hown : ∀ x ∈ Setting.all, x.part = none → x.of? format d = x.of? format d')
    (hparts : ∀ part : Part,
      part.Agrees format (d.field? fields part.name) (d'.field? fields part.name)) :
    ofDocument? format d = ofDocument? format d' := by
  have hrecord : IsRecord format d ↔ IsRecord format d' :=
    ⟨fun h => ⟨hfields ▸ h.fields, fun part => (hparts part).record.mp (h.parts part)⟩,
      fun h => ⟨hfields ▸ h.fields, fun part => (hparts part).record.mpr (h.parts part)⟩⟩
  have hof : ∀ x ∈ Setting.all, x.of? format d = x.of? format d' := by
    intro x hx
    -- A setting outside of all parts is at its own key, and any other is inside of one part.
    cases hpart : x.part with
    | none => exact hown x hx hpart
    | some part =>
      have hat : x.at? d = x.at? d' := by
        simp only [Setting.at?, hpart]
        exact (hparts part).field x.name (Setting.name_mem_fields hx hpart)
      rw [Setting.of?, Setting.of?, hat]
  apply Option.ext
  intro s
  have hoverlays : Overlays format d s ↔ Overlays format d' s :=
    forall₂_congr fun x hx => by rw [hof x hx]
  rw [ofDocument?_eq_some_iff_overlays, ofDocument?_eq_some_iff_overlays, hrecord, hoverlays]

/-- A document that cannot be read by the `fields` gives no settings. -/
theorem ofDocument?_eq_none (h : d.fields? format fields = none) : ofDocument? format d = none := by
  show (d.fields? format fields >>= _) = none
  rw [h]
  rfl

/-- A `key` that is none of the `fields` of settings does not count, wherever it stands in the table
and whatever its value is. -/
theorem ofDocument?_insert (h : key ∉ fields) (format : Format)
    (before after : List (String × Document)) (value : Document) :
    ofDocument? format (table (before ++ (key, value) :: after))
      = ofDocument? format (table (before ++ after)) := by
  have hne : ∀ name ∈ fields, key ≠ name := fun name hname heq => h (heq ▸ hname)
  apply ofDocument?_congr
  · rw [fields?_insert h]
  · intro x hx hpart
    have hname := (Setting.name_mem_of_part_eq_none hx hpart).1
    simp only [Setting.of?, Setting.at?, hpart]
    rw [field?_insert_of_ne (hne _ hname)]
  · intro part
    rw [field?_insert_of_ne (hne _ part.name_mem_fields)]
    exact .refl ..

/-- A `part` with nothing in it does not count, if it is not given elsewhere in the document (`h`):
all its settings have their defaults, as they have without it. -/
theorem ofDocument?_insert_empty (part : Part) (h : entriesOf part.name (before ++ after) = [])
    (format : Format) :
    ofDocument? format (table (before ++ (part.name, table []) :: after))
      = ofDocument? format (table (before ++ after)) := by
  apply ofDocument?_congr
  · exact isSome_fields?_insert h ..
  · intro x hx hpart
    have hne := (Setting.name_mem_of_part_eq_none hx hpart).2 part
    simp only [Setting.of?, Setting.at?, hpart]
    rw [field?_insert_of_ne hne]
  · intro other
    by_cases hname : part.name = other.name
    · rw [← hname, field?_insert_self h, field?_absent h]
      refine ⟨?_, fun name _ => rfl⟩
      have hempty : ((table []).fields? format other.fields).isSome := by
        rw [fields?, namedFields?_eq, if_pos (by simp [entriesOf])]
        rfl
      simp [hempty]
    · rw [field?_insert_of_ne hname]
      exact .refl ..

/-- The field `key` may be written in another way that reads the same, be it a setting of its own
(`hown`) or a part (`hpart`). -/
theorem ofDocument?_replace (hkey : key ∈ fields) {value value' : Document}
    (hown : ∀ x ∈ Setting.all, x.part = none → x.name = key →
      x.read? format value = x.read? format value')
    (hpart : ∀ part : Part, part.name = key → part.Agrees format (some value) (some value')) :
    ofDocument? format (table (before ++ (key, value) :: after))
      = ofDocument? format (table (before ++ (key, value') :: after)) := by
  by_cases h : entriesOf key (before ++ after) = []
  · apply ofDocument?_congr
    · rw [isSome_fields?_insert h, isSome_fields?_insert h]
    · intro x hx hnone
      simp only [Setting.of?, Setting.at?, hnone]
      by_cases hname : key = x.name
      · rw [← hname, field?_insert_self h, field?_insert_self h]
        exact hown x hx hnone hname.symm
      · rw [field?_insert_of_ne hname, field?_insert_of_ne hname]
    · intro part
      by_cases hname : key = part.name
      · rw [← hname, field?_insert_self h, field?_insert_self h]
        exact hpart part hname.symm
      · rw [field?_insert_of_ne hname, field?_insert_of_ne hname]
        exact .refl ..
  -- a field that is given twice spoils both documents
  · rw [ofDocument?_eq_none (fields?_eq_none hkey h format value),
      ofDocument?_eq_none (fields?_eq_none hkey h format value')]

/-- A `key` that is none of the fields of a `part` does not count in it, wherever it stands among
the entries of the part. -/
theorem ofDocument?_insert_part (part : Part) (h : key ∉ part.fields) (format : Format)
    (inside inside' : List (String × Document)) (value : Document) :
    ofDocument? format
        (table (before ++ (part.name, table (inside ++ (key, value) :: inside')) :: after))
      = ofDocument? format (table (before ++ (part.name, table (inside ++ inside')) :: after)) := by
  apply ofDocument?_replace part.name_mem_fields
  · intro x hx hnone hname
    exact absurd hname.symm ((Setting.name_mem_of_part_eq_none hx hnone).2 part)
  · intro other hother
    obtain rfl : other = part := Part.name_injective hother
    refine ⟨?_, fun name hname => ?_⟩
    · simp only [Option.some.injEq, forall_eq', fields?_insert h]
    · have hne : key ≠ name := fun heq => h (heq ▸ hname)
      exact field?_insert_of_ne hne other.fields value

/-- A `key` other than `deny` does not count in a rule between directories, wherever it stands in
the table of the rule. -/
theorem boundary?_insert (h : key ≠ "deny") (format : Format)
    (inside inside' : List (String × Document)) (value : Document) :
    boundary? format (table (inside ++ (key, value) :: inside'))
      = boundary? format (table (inside ++ inside')) := by
  have hkey : key ∉ ["deny"] := by simpa using h
  rw [boundary?, boundary?, fields?_insert hkey]

theorem ofDocument?_insert_rule (h : key ≠ "deny") (format : Format)
    (rules rules' : List Document) (inside inside' : List (String × Document)) (value : Document) :
    ofDocument? format (table (before ++
        ("boundaries", array (rules ++ table (inside ++ (key, value) :: inside') :: rules'))
          :: after))
      = ofDocument? format (table (before ++
        ("boundaries", array (rules ++ table (inside ++ inside') :: rules')) :: after)) := by
  have hread : list? (boundary? format)
        (array (rules ++ table (inside ++ (key, value) :: inside') :: rules'))
      = list? (boundary? format) (array (rules ++ table (inside ++ inside') :: rules')) := by
    simp only [list?, List.mapM_append, List.mapM_cons, boundary?_insert h]
  apply ofDocument?_replace (by decide)
  · have hall : ∀ x ∈ Setting.all, x.part = none → x.name = "boundaries" →
        x.read? format (array (rules ++ table (inside ++ (key, value) :: inside') :: rules'))
          = x.read? format (array (rules ++ table (inside ++ inside') :: rules')) := by
      simp [Setting.all, hread]
    exact hall
  · intro part hname
    cases part <;> exact absurd hname (by decide)

/-- Changes to a document that touch no setting. Its steps may be taken in either direction, see
`ofDocument?_eq_of_eqvGen`. -/
inductive Untouched : Document → Document → Prop
  /-- A key is taken away that is no setting. -/
  | key {key : String} (h : key ∉ fields) (before after : List (String × Document))
      (value : Document) :
    Untouched (table (before ++ (key, value) :: after)) (table (before ++ after))
  /-- A key is taken away that is no field of the part it stands in. -/
  | partKey (part : Part) {key : String} (h : key ∉ part.fields) (before after inside inside')
      (value : Document) :
    Untouched (table (before ++ (part.name, table (inside ++ (key, value) :: inside')) :: after))
      (table (before ++ (part.name, table (inside ++ inside')) :: after))
  /-- A key of a rule between directories is taken away that is not the rule itself. -/
  | ruleKey {key : String} (h : key ≠ "deny") (before after rules rules' inside inside')
      (value : Document) :
    Untouched
      (table (before ++
        ("boundaries", array (rules ++ table (inside ++ (key, value) :: inside') :: rules'))
          :: after))
      (table (before ++
        ("boundaries", array (rules ++ table (inside ++ inside') :: rules')) :: after))
  /-- An empty part is taken away. -/
  | emptyPart (part : Part) (before after) (h : entriesOf part.name (before ++ after) = []) :
    Untouched (table (before ++ (part.name, table []) :: after)) (table (before ++ after))

/-- **One change** that touches no setting leaves what `ofDocument?` reads. -/
theorem Untouched.ofDocument?_eq (h : Untouched d d') (format : Format) :
    ofDocument? format d = ofDocument? format d' := by
  cases h with
  | key h before after value => exact ofDocument?_insert h ..
  | partKey part h before after inside inside' value => exact ofDocument?_insert_part part h ..
  | ruleKey h before after rules rules' inside inside' value => exact ofDocument?_insert_rule h ..
  | emptyPart part before after h => exact ofDocument?_insert_empty part h format

/-- **Any number of changes**, back and forth, leave what `ofDocument?` reads, by induction on the
chain. -/
theorem ofDocument?_eq_of_eqvGen (h : Relation.EqvGen Untouched d d') (format : Format) :
    ofDocument? format d = ofDocument? format d' := by
  induction h with
  | rel d d' h => exact h.ofDocument?_eq format
  | refl d => rfl
  | symm d d' h ih => exact ih.symm
  | trans d d' d'' h h' ih ih' => exact ih.trans ih'

/-! ### The settings of a repository -/

variable {disk : Disk} {p : Path} {s : Settings}

/-- The file `p` is there and gives the settings `s`. -/
def Accepted (disk : Disk) (p : Path) (s : Settings) : Prop :=
  ∃ content, disk.read? p = some content ∧ ofContent? p content = some s

/-- `ofFile?` gives settings exactly when the file is `Accepted` with them. -/
theorem ofFile?_eq_some_iff : ofFile? disk p = some s ↔ Accepted disk p s :=
  Option.bind_eq_some_iff

/-- `ofFile?` gives nothing exactly when the file is not `Accepted` with any settings. -/
theorem ofFile?_eq_none_iff : ofFile? disk p = none ↔ ∀ s, ¬ Accepted disk p s := by
  rw [Option.eq_none_iff_forall_ne_some]
  exact forall_congr' fun s => not_congr ofFile?_eq_some_iff

/-- The content of a file gives settings `s` when it is a text, the text is a document of the format
that the name of the file tells, the document is a record, and each setting is its default value or
is read from what the document holds for it. -/
theorem ofContent?_eq_some_iff {content : Bytes} :
    ofContent? p content = some s ↔ ∃ text d, Text.decode? content = some text ∧
      parseText? (formatOf p) text = some d ∧ IsRecord (formatOf p) d ∧
      ∀ x ∈ Setting.all, (x.at? d = none → x.value s = x.value default) ∧
        ∀ value, x.at? d = some value → x.read? (formatOf p) value = some (x.value s) := by
  have hoverlays : ∀ d, ofDocument? (formatOf p) d = some s ↔ IsRecord (formatOf p) d ∧
      ∀ x ∈ Setting.all, (x.at? d = none → x.value s = x.value default) ∧
        ∀ value, x.at? d = some value → x.read? (formatOf p) value = some (x.value s) := by
    intro d
    rw [ofDocument?_eq_some_iff_overlays]
    exact and_congr_right' (forall₂_congr fun x _ => withDefault_eq_some_iff)
  simp only [ofContent?, Option.bind_eq_bind, Option.bind_eq_some_iff, hoverlays]
  constructor
  · rintro ⟨text, htext, d, hd, h⟩
    exact ⟨text, d, htext, hd, h⟩
  · rintro ⟨text, d, htext, hd, h⟩
    exact ⟨text, htext, d, hd, h⟩

/-- The settings of the first of the files `names` that gives any (`Accepted`), or the defaults when
none does. -/
def First (disk : Disk) (repository : Path) (names : List String) (s : Settings) : Prop :=
  (∃ earlier name later, names = earlier ++ name :: later ∧
    Accepted disk (repository.child name.toList) s ∧
    ∀ n ∈ earlier, ∀ s', ¬ Accepted disk (repository.child n.toList) s') ∨
  ((∀ n ∈ names, ∀ s', ¬ Accepted disk (repository.child n.toList) s') ∧ s = default)

/-- Trying the files `names` in order gives the `First` settings: those of the first file that can
be read as settings, or the default. -/
theorem first_findSome? (disk : Disk) (repository : Path) (names : List String) :
    First disk repository names
      ((names.findSome? fun name => ofFile? disk (repository.child name.toList)).getD default) := by
  cases hfound : names.findSome? fun name => ofFile? disk (repository.child name.toList) with
  | none =>
    refine .inr ⟨fun n hn => ?_, rfl⟩
    exact ofFile?_eq_none_iff.mp (List.findSome?_eq_none_iff.mp hfound n hn)
  | some s =>
    obtain ⟨earlier, name, later, hnames, hname, hearlier⟩ := List.findSome?_eq_some_iff.mp hfound
    refine .inl ⟨earlier, name, later, hnames, ofFile?_eq_some_iff.mp hname, fun n hn => ?_⟩
    exact ofFile?_eq_none_iff.mp (hearlier n hn)

/-- Two disks with the same `Accepted` settings in the usual files give the same settings by `load`:
what else is on the disks does not count. -/
theorem load_congr {disk' : Disk} {repository : Path}
    (h : ∀ name ∈ fileNames, ∀ s, Accepted disk (repository.child name.toList) s ↔
      Accepted disk' (repository.child name.toList) s) :
    load disk repository none = load disk' repository none := by
  have hfile : ∀ name ∈ fileNames, ofFile? disk (repository.child name.toList)
      = ofFile? disk' (repository.child name.toList) := by
    intro name hname
    apply Option.ext
    intro s
    rw [ofFile?_eq_some_iff, ofFile?_eq_some_iff, h name hname]
  have hfound : (fileNames.findSome? fun name => ofFile? disk (repository.child name.toList))
      = fileNames.findSome? fun name => ofFile? disk' (repository.child name.toList) := by
    simp only [fileNames, List.forall_mem_cons] at hfile
    obtain ⟨hfirst, hsecond, hthird, -⟩ := hfile
    simp only [fileNames, List.findSome?_cons, List.findSome?_nil, hfirst, hsecond, hthird]
  rw [load, load, written, written, hfound]

/-- **The settings of a repository are laid over the defaults.** A file gives settings
(`ofContent?`) when its document is a record and each `Setting` can be read from what the document
holds for it alone (`at?`); a setting for which it holds nothing has its default value. What the
document holds for a setting stands at its keys (`keyed?`), unless an array is written for a record.
Unknown keys and empty parts change nothing (`Untouched`). Without a file that is asked for, the
`First` usual file that gives settings counts, and a file that gives none counts as little as one
that is not there. -/
theorem load_overlays_defaults (disk : Disk) (repository : Path) :
    (∀ p content s, ofContent? p content = some s ↔
      ∃ text d, Text.decode? content = some text ∧ parseText? (formatOf p) text = some d ∧
        IsRecord (formatOf p) d ∧
        ∀ x ∈ Setting.all, (x.at? d = none → x.value s = x.value default) ∧
          ∀ value, x.at? d = some value → x.read? (formatOf p) value = some (x.value s)) ∧
    (∀ s s', (∀ x ∈ Setting.all, x.value s = x.value s') → s = s') ∧
    (∀ d, Setting.Keyed d → ∀ x : Setting, x.at? d = x.keyed? d) ∧
    (∀ format d d', Relation.EqvGen Untouched d d' →
      ofDocument? format d = ofDocument? format d') ∧
    (∃ s, load disk repository none = .ok { s with root := repository.join s.root } ∧
      First disk repository ["drift.toml", ".drift.toml", ".drift.json"] s) ∧
    ∀ disk', (∀ name ∈ ["drift.toml", ".drift.toml", ".drift.json"], ∀ s,
        Accepted disk (repository.child name.toList) s ↔
          Accepted disk' (repository.child name.toList) s) →
      load disk repository none = load disk' repository none := by
  refine ⟨fun p content s => ofContent?_eq_some_iff, fun s s' => Setting.eq_of_all, ?_, ?_, ?_, ?_⟩
  · intro d hkeyed x
    exact x.at?_eq_keyed? hkeyed
  · intro format d d' huntouched
    exact ofDocument?_eq_of_eqvGen huntouched format
  · exact ⟨_, rfl, first_findSome? disk repository fileNames⟩
  · intro disk' hsame
    exact load_congr hsame

end Settings

namespace Sample

open Settings

/-- A file with a text of ASCII characters, one byte each. -/
def plainFile (text : String) : Entry := .file (text.toList.map fun c => c.toNat.toUInt8)

/-- A repository with a file `drift.toml` that is broken and a file `.drift.json` that is not. -/
def settingsDisk : Disk :=
  ⟨.directory [("drift.toml".toList, plainFile "registry = ["),
    (".drift.json".toList,
      plainFile "\x7b\"registry\": \x7b\"offline\": true\x7d, \"colour\": 1\x7d")], []⟩

/-- The path of the repository on `settingsDisk`. -/
def settingsRoot : Path := Path.ofString "/"

/-- The broken settings of `settingsDisk` do not count, the defaults stand behind the others, and
the unknown key among those may as well be left out. -/
theorem settingsDisk_loaded :
    (∃ s, load settingsDisk settingsRoot none = .ok s ∧ s.lookups = ⟨5, 8, true⟩ ∧
      s.thresholds.limits = ⟨15, 90⟩) ∧
    ofDocument? .json (table [("registry", table [("offline", bool true)]), ("colour", integer 1)])
      = ofDocument? .json (table [("registry", table [("offline", bool true)])]) := by
  obtain ⟨-, -, -, huntouched, ⟨s, hload, hfirst⟩, -⟩ :=
    load_overlays_defaults settingsDisk settingsRoot
  have hbroken : ofFile? settingsDisk (settingsRoot.child "drift.toml".toList) = none :=
    Option.isNone_iff_eq_none.mp (by decide +kernel)
  have hmissing : ofFile? settingsDisk (settingsRoot.child ".drift.toml".toList) = none :=
    Option.isNone_iff_eq_none.mp (by decide +kernel)
  have hgiven : (ofFile? settingsDisk (settingsRoot.child ".drift.json".toList)).map
      (fun s => (s.lookups, s.thresholds.limits.complexity, s.thresholds.limits.staleDays))
        = some (⟨5, 8, true⟩, 15, 90) := by
    decide +kernel
  obtain ⟨given, hfile, hvalues⟩ := Option.map_eq_some_iff.mp hgiven
  simp only [Prod.mk.injEq] at hvalues
  obtain ⟨hlookups, hcomplexity, hstale⟩ := hvalues
  have hs : s = given := by
    rcases hfirst with ⟨earlier, name, later, hnames, haccepted, hearlier⟩ | ⟨hnone, -⟩
    · rcases earlier with _ | ⟨first, _ | ⟨second, _ | ⟨third, rest⟩⟩⟩
      · cases hnames
        exact absurd haccepted (ofFile?_eq_none_iff.mp hbroken s)
      · cases hnames
        exact absurd haccepted (ofFile?_eq_none_iff.mp hmissing s)
      · cases hnames
        rw [← ofFile?_eq_some_iff, hfile] at haccepted
        exact (Option.some.inj haccepted).symm
      · simp at hnames
    · exact absurd (ofFile?_eq_some_iff.mp hfile) (hnone ".drift.json" (by decide) given)
  subst hs
  refine ⟨⟨_, hload, hlookups, ?_⟩, huntouched _ _ _ (.rel _ _ ?_)⟩
  · exact (Limits.mk.injEq ..).mpr ⟨hcomplexity, hstale⟩
  · exact .key (by decide) [("registry", table [("offline", bool true)])] [] (integer 1)

/-- The setting for how long a lookup may take, one of `Setting.all`. -/
def timeout : Setting :=
  ⟨Nat, some .lookups, "timeout_secs", fun _ => natural? 64, fun s => s.lookups.timeoutSeconds⟩

/-- A list in place of the lookups sets the `timeout`, although nothing stands at its keys: the
values of a list are taken for the fields in order. -/
theorem listed_timeout_counts :
    timeout ∈ Setting.all ∧
    ∃ d s, parseText? .toml "registry = [7]\n".toList = some d ∧ ofDocument? .toml d = some s ∧
      timeout.keyed? d = none ∧ timeout.value s = (7 : Nat) ∧
      timeout.value Settings.default = (5 : Nat) := by
  refine ⟨by simp [Setting.all, timeout], ?_⟩
  have hread : ((parseText? .toml "registry = [7]\n".toList).bind fun d =>
      (ofDocument? .toml d).map fun s => ((timeout.keyed? d).isNone, s.lookups.timeoutSeconds))
        = some (true, 7) := by
    decide +kernel
  obtain ⟨d, hd, hs⟩ := Option.bind_eq_some_iff.mp hread
  obtain ⟨s, hs, hvalues⟩ := Option.map_eq_some_iff.mp hs
  simp only [Prod.mk.injEq] at hvalues
  exact ⟨d, s, hd, hs, Option.isNone_iff_eq_none.mp hvalues.1, hvalues.2, rfl⟩

end Sample

end CodeHealth
