import CodeHealth.Dependency.Manifest.Packages
import CodeHealth.Proofs.ByteOrder
import CodeHealth.Proofs.Keyed
import CodeHealth.Proofs.Records
import Mathlib.Data.List.Rotate
import Mathlib.Data.String.Basic

/-!
# What is read from a table of packages

The manifests of Node, of PHP and of Rust name dependencies by the keys of a table. Whatever the
order of the table, the dependencies are listed by name, one for every entry that is not passed
over, and nothing else in the manifest has a part in the list.

* `Packages.byKey_strict`, `Packages.byKey_eq_of_perm` — entries by key, whatever their order was;
* `Packages.Kind` — the three formats, with what an entry declares (`Kind.Declares`) and which
  entries are passed over (`Kind.Skips`);
* `Packages.Kind.listed_strict`, `Packages.Kind.listed_exact` — the list of a table;
* `Packages.Kind.dependencies?_eq_some_iff` — a manifest gives the list of its table;
* `Packages.Kind.listed_by_name_and_orderFree` — what is read from a manifest.
-/

namespace CodeHealth.Packages

open CodeHealth.Text CodeHealth.Document

/-! ### Entries by key -/

section ByKey

variable {α β : Type} {entries entries' : List (String × α)}

/-- `byKey` only rearranges entries. -/
theorem byKey_perm (entries : List (String × α)) : (byKey entries).Perm entries :=
  List.mergeSort_perm entries _

/-- `byKey` sorts entries with different keys strictly. -/
theorem byKey_strict (h : (entries.map Prod.fst).Nodup) :
    (byKey entries).Pairwise fun a b => a.1 < b.1 := by
  have hsorted : (byKey entries).Pairwise fun a b => (!decide (b.1 < a.1)) = true := by
    apply List.pairwise_mergeSort
    · intro a b c hab hbc
      simp only [Bool.not_eq_true', decide_eq_false_iff_not, not_lt] at *
      exact le_trans hab hbc
    · intro a b
      simp only [Bool.or_eq_true, Bool.not_eq_true', decide_eq_false_iff_not, not_lt]
      exact le_total a.1 b.1
  have hdifferent : (byKey entries).Pairwise fun a b => a.1 ≠ b.1 :=
    (byKey_perm entries).symm.pairwise (List.pairwise_map.mp h) Ne.symm
  apply (hsorted.and hdifferent).imp
  rintro a b ⟨hle, hne⟩
  simp only [Bool.not_eq_true', decide_eq_false_iff_not, not_lt] at hle
  exact lt_of_le_of_ne hle hne

/-- The order in which entries with different keys were given is lost: `byKey` is the same for every
permutation of them. -/
theorem byKey_eq_of_perm (h : (entries.map Prod.fst).Nodup) (hperm : entries.Perm entries') :
    byKey entries = byKey entries' := by
  have h' : (entries'.map Prod.fst).Nodup := (hperm.map Prod.fst).nodup_iff.mp h
  have hsame : (byKey entries).Perm (byKey entries') :=
    (byKey_perm entries).trans (hperm.trans (byKey_perm entries').symm)
  refine hsame.eq_of_pairwise (fun a b _ _ hab hba => ?_) (byKey_strict h) (byKey_strict h')
  exact absurd hba (lt_asymm hab)

/-- Only the keys decide the order: `byKey` may be applied before or after a map `f` that keeps
them. -/
theorem byKey_map (f : String × α → String × β) (hf : ∀ e, (f e).1 = e.1)
    (entries : List (String × α)) : byKey (entries.map f) = (byKey entries).map f := by
  rw [byKey, byKey, List.map_mergeSort]
  intro a _ b _
  rw [hf, hf]

end ByKey

/-! ### Tables of texts -/

/-- An entry of a document with a text for its value. -/
def textEntry (e : String × String) : String × Document := (e.1, .string e.2)

variable {entries entries' : List (String × Document)} {texts : List (String × String)}

/-- All entries are read as `texts` exactly when they are the `textEntry` of these: one value that
is no text makes the whole table unreadable. -/
theorem mapM_string?_eq_some_iff :
    (entries.mapM fun e => (string? e.2).map (e.1, ·)) = some texts ↔
      entries = texts.map textEntry := by
  -- The entries are read from the left, and `texts` has to shrink with them.
  induction entries generalizing texts with
  | nil => cases texts <;> simp
  | cons e rest ih =>
    obtain ⟨key, d⟩ := e
    simp only [List.mapM_cons, Option.bind_eq_bind, Option.bind_eq_some_iff, Option.map_eq_some_iff,
      ih]
    constructor
    · rintro ⟨_, ⟨text, htext, rfl⟩, others, rfl, hcons⟩
      obtain rfl := Option.some.inj hcons
      cases d with
      | string value =>
        obtain rfl := Option.some.inj htext
        rfl
      | _ => cases htext
    · intro hentries
      cases texts with
      | nil => cases hentries
      | cons first others =>
        obtain ⟨hfirst, rfl⟩ := List.cons.inj hentries
        obtain ⟨rfl, rfl⟩ := Prod.mk.inj hfirst
        exact ⟨first, ⟨first.2, rfl, rfl⟩, others, rfl, rfl⟩

/-- **Tables of texts.** A table with different keys can be read as a table of texts by `map?` when
every value is a text, and then all of it is read. -/
theorem map?_string?_eq_some_iff (h : (entries.map Prod.fst).Nodup) :
    map? string? (.table entries) = some texts ↔ entries = texts.map textEntry := by
  have hkept : ∀ values : List (String × String), entries = values.map textEntry →
      latestOf Prod.fst values = values := by
    rintro values rfl
    rw [List.map_map] at h
    exact latestOf_eq_self (List.pairwise_map.mp h)
  have hread : map? string? (.table entries)
      = (entries.mapM fun e => (string? e.2).map (e.1, ·)).map (latestOf Prod.fst) := by
    rw [map?, Option.map_eq_bind]
    rfl
  rw [hread, Option.map_eq_some_iff]
  simp only [mapM_string?_eq_some_iff]
  constructor
  · rintro ⟨values, hvalues, rfl⟩
    rwa [hkept values hvalues]
  · intro htexts
    exact ⟨texts, htexts, hkept texts htexts⟩

/-! ### The formats -/

namespace Kind

/-- The document that a manifest stands for: `crates` have theirs in TOML, the others in JSON. -/
def parse? : Kind → List Char → Option Document
  | node | php => Json.parse?
  | crates => Toml.parse?

/-- The dependencies that a manifest lists, as the reader for its kind finds them. -/
def dependencies? : Kind → List Char → Option (List Dependency)
  | node => node?
  | php => php?
  | crates => crates?

/-- Which entries are passed over: in `php` those that stand for the platform, and `crates` that
have no text for a version, neither as their value nor in a table. -/
def Skips : Kind → String × Document → Prop
  | node, _ => False
  | php, e => e.1 = "php" ∨ "ext-".toList <+: e.1.toList
  | crates, e => (∀ version, e.2 ≠ .string version) ∧
      ∀ fields version, e.2 = .table fields → value? "version" fields ≠ some (.string version)

/-- What an entry declares: a dependency under the key of the entry, with the version that it
gives. -/
inductive Declares : Kind → String × Document → Dependency → Prop where
  /-- The value is the version. -/
  | text {kind : Kind} {name version : String} (hkept : ¬ kind.Skips (name, .string version)) :
      Declares kind (name, .string version) (kind.ofText name version)
  /-- The value is a table with the version, and perhaps with another name for the package. -/
  | table {name version : String} {fields : List (String × Document)}
      (hversion : value? "version" fields = some (.string version)) :
      Declares crates (name, .table fields)
        { crates.ofText name version with
          package := ((value? "package" fields).bind string?).getD name }

/-- Whether an entry can be read: `crates` take anything, the others texts only. -/
def Readable (kind : Kind) (e : String × Document) : Prop :=
  kind ≠ crates → ∃ text, e.2 = .string text

/-- The dependency of an entry, if it is not passed over. `declares_iff` compares it with
`Declares`. -/
def dependency? : Kind → String × Document → Option Dependency
  | node, e => (string? e.2).map (node.ofText e.1)
  | php, e => if isPlatform e.1 then none else (string? e.2).map (php.ofText e.1)
  | crates, e => crate? e.1 e.2

variable {kind : Kind} {e : String × Document} {dep : Dependency}

/-- The names of the platform are `php` and those that start with `ext-`. -/
theorem isPlatform_iff {name : String} :
    isPlatform name = true ↔ name = "php" ∨ "ext-".toList <+: name.toList := by
  rw [isPlatform, Bool.or_eq_true, beq_iff_eq, List.isPrefixOf_iff_prefix]

/-- What an entry `Declares` is found by `dependency?`. -/
theorem dependency?_of_declares (h : kind.Declares e dep) : kind.dependency? e = some dep := by
  cases h with
  | text hkept =>
    cases kind with
    | node => rfl
    | php => exact if_neg (mt isPlatform_iff.mp hkept)
    | crates => rfl
  | table hversion => simp [dependency?, crate?, crateVersion?, hversion, string?, get?, ofText]

/-- What `dependency?` finds is what the entry `Declares`. -/
theorem declares_of_dependency? (h : kind.dependency? e = some dep) : kind.Declares e dep := by
  obtain ⟨name, d⟩ := e
  -- The cases follow `dependency?`: which documents a kind takes for a version.
  cases kind with
  | node =>
    cases d with
    | string version =>
      obtain rfl := Option.some.inj h
      exact .text not_false
    | _ => cases h
  | php =>
    by_cases hplatform : isPlatform name = true
    · rw [dependency?, if_pos hplatform] at h
      cases h
    · rw [dependency?, if_neg hplatform] at h
      cases d with
      | string version =>
        obtain rfl := Option.some.inj h
        exact .text (mt isPlatform_iff.mpr hplatform)
      | _ => cases h
  | crates =>
    cases d with
    | string version =>
      obtain rfl := Option.some.inj h
      exact .text fun hskipped => hskipped.1 version rfl
    | table fields =>
      obtain ⟨version, hversion, hdep⟩ := Option.bind_eq_some_iff.mp h
      obtain rfl := Option.some.inj hdep
      obtain ⟨value, hvalue, htext⟩ := Option.bind_eq_some_iff.mp hversion
      cases value with
      | string text =>
        obtain rfl := Option.some.inj htext
        exact .table hvalue
      | _ => cases htext
    | _ => cases h

/-- **Declarations are read**: `dependency?` finds exactly what an entry `Declares`. -/
theorem declares_iff : kind.Declares e dep ↔ kind.dependency? e = some dep :=
  ⟨dependency?_of_declares, declares_of_dependency?⟩

/-- The dependency that an entry `Declares` has its key for a name. -/
theorem Declares.name_eq (h : kind.Declares e dep) : dep.name = e.1 := by
  cases h with
  | text => cases kind <;> simp [ofText, Dependency.ofNamed]
  | table => rfl

/-- An entry that `Declares` a dependency is not passed over. -/
theorem Declares.not_skips (h : kind.Declares e dep) : ¬ kind.Skips e := by
  cases h with
  | text hkept => exact hkept
  | table hversion => exact fun hskipped => hskipped.2 _ _ rfl hversion

/-- **One or the other.** An entry that is `Readable` declares a dependency, unless it is passed
over (`Skips`). -/
theorem exists_declares (hreadable : kind.Readable e) (hkept : ¬ kind.Skips e) :
    ∃ dep, kind.Declares e dep := by
  obtain ⟨name, d⟩ := e
  cases kind with
  | node =>
    obtain ⟨version, rfl⟩ := hreadable nofun
    exact ⟨_, .text hkept⟩
  | php =>
    obtain ⟨version, rfl⟩ := hreadable nofun
    exact ⟨_, .text hkept⟩
  | crates =>
    by_cases htext : ∃ version, d = .string version
    · obtain ⟨version, rfl⟩ := htext
      exact ⟨_, .text hkept⟩
    · -- A crate that declares nothing has no version in a table either, so it would be passed over.
      by_contra hnone
      refine hkept ⟨fun version hd => htext ⟨version, hd⟩, ?_⟩
      rintro fields version rfl hversion
      exact hnone ⟨_, .table hversion⟩

/-! ### The list of a table -/

/-- The dependencies of a table `entries`, by name. -/
def listed (kind : Kind) (entries : List (String × Document)) : List Dependency :=
  (byKey entries).filterMap kind.dependency?

/-- **By name.** Dependencies are `listed` strictly by the bytes of their names, if the keys
differ. -/
theorem listed_strict (kind : Kind) (h : (entries.map Prod.fst).Nodup) :
    (kind.listed entries).Pairwise fun a b => utf8 a.name.toList < utf8 b.name.toList := by
  refine (byKey_strict h).filterMap _ fun a b hlt dep hdep dep' hdep' => ?_
  rw [(declares_iff.mpr hdep).name_eq, (declares_iff.mpr hdep').name_eq, utf8_lt_iff]
  exact String.lt_iff_toList_lt.mp hlt

/-- `filterMap` goes through the members for which `f` has a value, one by one. -/
theorem forall₂_filterMap {α β : Type} (f : α → Option β) (l : List α) :
    List.Forall₂ (fun a b => f a = some b) (l.filter fun a => (f a).isSome) (l.filterMap f) := by
  induction l with
  | nil => exact .nil
  | cons a rest ih =>
    cases hf : f a with
    | none => simpa [hf] using ih
    | some b => simpa [hf] using ih

/-- **Exactly one each.** The dependencies that are `listed` are those of the entries `kept`, which
are the ones that are not passed over (`Skips`). -/
theorem listed_exact (h : (entries.map Prod.fst).Nodup)
    (hreadable : ∀ e ∈ entries, kind.Readable e) :
    ∃ kept : List (String × Document), kept.Nodup ∧
      (∀ e, e ∈ kept ↔ e ∈ entries ∧ ¬ kind.Skips e) ∧
      List.Forall₂ kind.Declares kept (kind.listed entries) := by
  refine ⟨(byKey entries).filter fun e => (kind.dependency? e).isSome, ?_, fun e => ?_, ?_⟩
  · exact ((byKey_perm entries).nodup_iff.mpr h.of_map).filter _
  · rw [List.mem_filter, (byKey_perm entries).mem_iff, Option.isSome_iff_exists]
    refine and_congr_right fun hmem => ⟨?_, fun hkept => ?_⟩
    · rintro ⟨dep, hdep⟩
      exact (declares_iff.mpr hdep).not_skips
    · obtain ⟨dep, hdep⟩ := exists_declares (hreadable e hmem) hkept
      exact ⟨dep, declares_iff.mp hdep⟩
  · exact (forall₂_filterMap kind.dependency? (byKey entries)).imp fun _ _ => declares_iff.mpr

/-- **In any order.** Rearranging a table with different keys leaves what is `listed`. -/
theorem listed_eq_of_perm (kind : Kind) (h : (entries.map Prod.fst).Nodup)
    (hperm : entries.Perm entries') : kind.listed entries = kind.listed entries' := by
  rw [listed, byKey_eq_of_perm h hperm, listed]

/-! ### The list of a manifest -/

/-- The entries of a value that is a table, and no entries of any other value. -/
def tableEntries : Option Document → List (String × Document)
  | some (.table entries) => entries
  | _ => []

/-- The value that the table of a manifest is read from, at the `key` of its kind. -/
def table? : Kind → Document → Option Document
  | crates, d => d.get? crates.key
  | kind, d => d.field? [kind.key] kind.key

/-- The entries of the table of a manifest `d`, none when it is missing. -/
def entriesIn (kind : Kind) (d : Document) : List (String × Document) :=
  tableEntries (kind.table? d)

/-- The documents that manifests may have. For `crates` every document will do, for the others a
record with a table of texts, if any. -/
def Accepts (kind : Kind) (d : Document) : Prop :=
  kind ≠ crates → (d.fields? .json [kind.key]).isSome ∧
    ∀ value, kind.table? d = some value →
      ∃ entries, value = .table entries ∧ ∀ e ∈ entries, ∃ text, e.2 = .string text

/-- Tables with the same entries, in any order, or else the same value. -/
inductive Rearranged : Option Document → Option Document → Prop where
  | refl (value : Option Document) : Rearranged value value
  | table {entries entries' : List (String × Document)} (hperm : entries.Perm entries') :
      Rearranged (some (.table entries)) (some (.table entries'))

/-- A table of `texts` is read from a value that is such a table, and nothing is read when it is
missing. The keys of the table are different (`h`), so none of its entries is replaced. -/
theorem withDefault_texts_eq_some_iff {value : Option Document}
    (h : ((tableEntries value).map Prod.fst).Nodup) :
    withDefault [] (map? string?) value = some texts ↔
      (∀ v, value = some v → ∃ entries, v = .table entries) ∧
        tableEntries value = texts.map textEntry := by
  cases value with
  | none => simp [withDefault, tableEntries, eq_comm]
  | some v =>
    cases v with
    | table entries => simpa [withDefault, tableEntries] using map?_string?_eq_some_iff h
    | _ => simp [withDefault, map?]

theorem exists_texts_iff :
    (∃ texts : List (String × String), entries = texts.map textEntry) ↔
      ∀ e ∈ entries, ∃ text, e.2 = .string text := by
  constructor
  · rintro ⟨texts, rfl⟩ e hmem
    obtain ⟨t, _, rfl⟩ := List.mem_map.mp hmem
    exact ⟨t.2, rfl⟩
  · intro htexts
    induction entries with
    | nil => exact ⟨[], rfl⟩
    | cons e rest ih =>
      obtain ⟨text, htext⟩ := htexts e List.mem_cons_self
      obtain ⟨others, rfl⟩ := ih fun e' hmem => htexts e' (List.mem_cons_of_mem _ hmem)
      exact ⟨(e.1, text) :: others, by rw [List.map_cons, textEntry, ← htext]⟩

/-- `textTable?` reads the one `field` of a record, or nothing when the field is missing. Other
fields of the record do not count. -/
theorem textTable?_eq_some_iff {field : String} {d : Document} :
    textTable? field d = some texts ↔ (d.fields? .json [field]).isSome ∧
      withDefault [] (map? string?) (d.field? [field] field) = some texts :=
  fields?_bind_eq_some_iff (List.nodup_singleton field) _

/-- What is `listed` of texts, with their order decided before they become entries: sorting by key
does not look at the values. -/
theorem listed_texts (kind : Kind) (texts : List (String × String)) :
    kind.listed (texts.map textEntry)
      = (byKey texts).filterMap fun e => kind.dependency? (textEntry e) := by
  rw [listed, byKey_map textEntry (fun _ => rfl), List.filterMap_map]
  rfl

section Manifest

variable {content : List Char} {d : Document} {found : List Dependency}

/-- Node and PHP manifests (`hkind`) list the dependencies of their table of texts (`textTable?`),
and a table with another value in it makes them unreadable. -/
theorem dependencies?_eq_texts (hkind : kind ≠ crates) (hparse : kind.parse? content = some d) :
    kind.dependencies? content
      = (textTable? kind.key d).map fun texts => kind.listed (texts.map textEntry) := by
  simp only [listed_texts]
  cases kind with
  | node =>
    have hread : node? content = (textTable? node.key d).map fun texts =>
        (byKey texts).map fun e => node.ofText e.1 e.2 := by
      rw [node?, show Json.parse? content = some d from hparse]
      simp only [Option.bind_eq_bind, Option.bind_some]
      cases textTable? node.key d <;> rfl
    show node? content = _
    rw [hread]
    simp only [← List.filterMap_eq_map]
    rfl
  | php =>
    have hread : php? content = (textTable? php.key d).map fun texts =>
        ((byKey texts).filter fun e => !isPlatform e.1).map fun e => php.ofText e.1 e.2 := by
      rw [php?, show Json.parse? content = some d from hparse]
      simp only [Option.bind_eq_bind, Option.bind_some]
      cases textTable? php.key d <;> rfl
    show php? content = _
    rw [hread]
    -- Names of the platform are taken out of the table first, here in the same pass as the rest.
    simp only [← List.filterMap_eq_map, List.filterMap_filter]
    congr! 3 with texts e
    cases hplatform : isPlatform e.1 <;> simp [dependency?, textEntry, string?, hplatform]
  | crates => exact absurd rfl hkind

/-- A manifest of crates always lists something: what is `listed` of its table, or nothing. -/
theorem dependencies?_eq_crates (hparse : Toml.parse? content = some d) :
    crates.dependencies? content = some (crates.listed (crates.entriesIn d)) := by
  show crates? content = _
  rw [crates?, hparse]
  simp only [entriesIn, table?, key, Option.bind_eq_bind, Option.bind_some]
  cases d.get? "dependencies" with
  | none => simp [tableEntries, listed, byKey]
  | some value =>
    cases value with
    | table entries => rfl
    | _ => simp [tableEntries, listed, byKey]

/-- `Accepts` for Node and PHP: a record, in which the table, if any, has texts for its values. -/
theorem accepts_iff (hkind : kind ≠ crates) :
    kind.Accepts d ↔ (d.fields? .json [kind.key]).isSome ∧
      (∀ value, kind.table? d = some value → ∃ entries, value = .table entries) ∧
      ∃ texts : List (String × String), kind.entriesIn d = texts.map textEntry := by
  rw [Accepts, imp_iff_right hkind, exists_texts_iff, entriesIn]
  refine and_congr_right fun _ => ?_
  cases kind.table? d with
  | none => simp [tableEntries]
  | some value =>
    cases value with
    | table entries => simp [tableEntries]
    | _ => simp

/-- What `dependencies?` gives, and when it gives anything: what is `listed` of the table, when the
document is one that the kind `Accepts`. -/
theorem dependencies?_eq_some_iff (hparse : kind.parse? content = some d)
    (hkeys : ((kind.entriesIn d).map Prod.fst).Nodup) :
    kind.dependencies? content = some found ↔
      kind.Accepts d ∧ found = kind.listed (kind.entriesIn d) := by
  by_cases hkind : kind = crates
  · subst hkind
    rw [dependencies?_eq_crates hparse, Option.some_inj, eq_comm]
    exact ⟨fun hfound => ⟨fun hkind => absurd rfl hkind, hfound⟩, And.right⟩
  · have htable : kind.table? d = d.field? [kind.key] kind.key := by
      cases kind <;> first | rfl | exact absurd rfl hkind
    rw [dependencies?_eq_texts hkind hparse, Option.map_eq_some_iff, accepts_iff hkind]
    simp only [textTable?_eq_some_iff, ← htable, withDefault_texts_eq_some_iff hkeys]
    constructor
    · rintro ⟨texts, ⟨hrecord, htables, htexts⟩, rfl⟩
      exact ⟨⟨hrecord, htables, texts, htexts⟩, congrArg kind.listed htexts.symm⟩
    · rintro ⟨⟨hrecord, htables, texts, htexts⟩, rfl⟩
      exact ⟨texts, ⟨hrecord, htables, htexts⟩, congrArg kind.listed htexts.symm⟩

/-- The entries of a manifest that its kind `Accepts` are `Readable`. -/
theorem Accepts.readable (h : kind.Accepts d) : ∀ e ∈ kind.entriesIn d, kind.Readable e := by
  intro e hmem hkind
  obtain ⟨-, -, htexts⟩ := (accepts_iff hkind).mp h
  exact exists_texts_iff.mp htexts e hmem

variable {top top' : List (String × Document)}

/-- The table of a manifest stands at the `key` of its kind. -/
theorem table?_table (kind : Kind) (top : List (String × Document)) :
    kind.table? (.table top) = value? kind.key top := by
  cases kind <;> rfl

/-- A document in which no key is given twice can be read by `fields?` with any one field. -/
theorem isSome_fields?_of_nodup (h : (top.map Prod.fst).Nodup) (name : String) :
    ((Document.table top).fields? .json [name]).isSome := by
  have honce : (entriesOf name top).length ≤ 1 := by
    have hcount := List.nodup_iff_count_le_one.mp h name
    rw [List.count_eq_countP, List.countP_map, List.countP_eq_length_filter] at hcount
    exact hcount
  rw [fields?, namedFields?_eq, if_pos]
  · rfl
  · simpa using honce

/-- A manifest that its kind `Accepts` stays one when the table is `Rearranged`, whatever else it
has (`top'`), as long as it gives no key twice. -/
theorem Accepts.rearranged (h : kind.Accepts (.table top)) (hnames : (top'.map Prod.fst).Nodup)
    (hvalue : Rearranged (value? kind.key top) (value? kind.key top')) :
    kind.Accepts (.table top') := by
  intro hkind
  obtain ⟨-, htable⟩ := h hkind
  refine ⟨isSome_fields?_of_nodup hnames kind.key, ?_⟩
  rw [table?_table] at htable ⊢
  generalize value? kind.key top = value at hvalue htable
  generalize value? kind.key top' = value' at hvalue ⊢
  cases hvalue with
  | refl => exact htable
  | table hperm =>
    rintro _ ⟨⟩
    obtain ⟨_, ⟨⟩, htexts⟩ := htable _ rfl
    exact ⟨_, rfl, fun e hmem => htexts e (hperm.mem_iff.mpr hmem)⟩

/-- The entries of a `Rearranged` table are a permutation of those of the other. -/
theorem Rearranged.perm {value value' : Option Document} (h : Rearranged value value') :
    (tableEntries value).Perm (tableEntries value') := by
  cases h with
  | refl => exact .refl _
  | table hperm => exact hperm

/-- **Manifests with a table of packages.** A manifest `d` can be read when its kind `Accepts` it.
If the keys of its table differ (`hkeys`), the dependencies are listed by name in the order of
bytes; they are what the entries that are not passed over (`Skips`) declare (`Declares`), one each;
and the same list is read from every manifest whose table is `Rearranged`, whatever the order of the
entries and whatever else stands in it. -/
theorem listed_by_name_and_orderFree (kind : Kind) (hparse : kind.parse? content = some d)
    (hkeys : ((kind.entriesIn d).map Prod.fst).Nodup) :
    ((kind.dependencies? content).isSome ↔ kind.Accepts d) ∧
      ∀ found, kind.dependencies? content = some found →
        (found.Pairwise fun a b => utf8 a.name.toList < utf8 b.name.toList) ∧
        (∃ kept : List (String × Document), kept.Nodup ∧
          (∀ e, e ∈ kept ↔ e ∈ kind.entriesIn d ∧ ¬ kind.Skips e) ∧
          List.Forall₂ kind.Declares kept found) ∧
        ∀ top top' content', d = .table top → kind.parse? content' = some (.table top') →
          (top'.map Prod.fst).Nodup →
          Rearranged (value? kind.key top) (value? kind.key top') →
          kind.dependencies? content' = some found := by
  have hread : ∀ found, kind.dependencies? content = some found ↔
      kind.Accepts d ∧ found = kind.listed (kind.entriesIn d) :=
    fun found => dependencies?_eq_some_iff hparse hkeys
  refine ⟨?_, fun found hfound => ?_⟩
  · simp [Option.isSome_iff_exists, hread]
  · obtain ⟨haccepts, rfl⟩ := (hread found).mp hfound
    refine ⟨listed_strict kind hkeys, listed_exact hkeys haccepts.readable, ?_⟩
    rintro top top' content' rfl hparse' hnames hvalue
    -- Of the other manifest only the entries of the table count, and these are the same ones.
    have hperm : (kind.entriesIn (.table top)).Perm (kind.entriesIn (.table top')) := by
      rw [entriesIn, entriesIn, table?_table, table?_table]
      exact hvalue.perm
    have hkeys' : ((kind.entriesIn (.table top')).map Prod.fst).Nodup :=
      (hperm.map Prod.fst).nodup_iff.mp hkeys
    rw [dependencies?_eq_some_iff hparse' hkeys']
    exact ⟨haccepts.rearranged hnames hvalue, listed_eq_of_perm kind hkeys hperm⟩

end Manifest

end Kind

end CodeHealth.Packages

namespace CodeHealth.Sample

open CodeHealth.Document CodeHealth.Packages

/-- The packages of `plainCrate`: one under its own name, one under another name, and one that is
not published. -/
def crateEntries : List (String × Document) :=
  [("serde", .string "^1"),
    ("log", .table [("version", .string "=2"), ("package", .string "logger")]),
    ("own", .table [("path", .string "own")])]

/-- By name, `log` and `own` come before `serde`. -/
theorem byKey_crateEntries : byKey crateEntries = crateEntries.rotate 1 := by
  have hperm : crateEntries.Perm (crateEntries.rotate 1) := (List.rotate_perm crateEntries 1).symm
  rw [byKey_eq_of_perm (by decide) hperm]
  exact List.mergeSort_of_pairwise (by decide)

/-- A manifest with nothing but the packages `crateEntries`. -/
def plainCrate : List Char :=
  ("[dependencies]\nserde = \"^1\"\nlog = \x7b version = \"=2\", package = \"logger\" \x7d\n" ++
    "own = \x7b path = \"own\" \x7d\n").toList

/-- A manifest with the packages of `plainCrate` in reverse order, after another table. -/
def titledCrate : List Char :=
  ("[package]\nname = \"x\"\n[dependencies]\nown = \x7b path = \"own\" \x7d\n" ++
    "log = \x7b version = \"=2\", package = \"logger\" \x7d\nserde = \"^1\"\n").toList

/-- The document of `plainCrate` has one table. -/
theorem plainCrate_document :
    Toml.parse? plainCrate = some (.table [("dependencies", .table crateEntries)]) := by
  cbv

/-- The document of `titledCrate` has the packages in reverse order. -/
theorem titledCrate_document :
    Toml.parse? titledCrate = some (.table [("package", .table [("name", .string "x")]),
      ("dependencies", .table crateEntries.reverse)]) := by
  cbv

/-- Both `plainCrate` and `titledCrate` list the two packages that are published, by name. -/
theorem titledCrate_same_packages :
    (crateEntries.map Prod.fst).Nodup ∧
      Kind.crates.dependencies? plainCrate
        = some [⟨"log", "logger", "2", .cratesIo⟩, ⟨"serde", "serde", "1", .cratesIo⟩] ∧
      Kind.crates.dependencies? titledCrate
        = some [⟨"log", "logger", "2", .cratesIo⟩, ⟨"serde", "serde", "1", .cratesIo⟩] := by
  have hkeys : (crateEntries.map Prod.fst).Nodup := by decide
  have hplain : Kind.crates.dependencies? plainCrate
      = some [⟨"log", "logger", "2", .cratesIo⟩, ⟨"serde", "serde", "1", .cratesIo⟩] := by
    rw [Kind.dependencies?_eq_crates plainCrate_document]
    show some ((byKey crateEntries).filterMap Kind.crates.dependency?) = _
    rw [byKey_crateEntries]
    decide +kernel
  obtain ⟨-, hfound⟩ := Kind.crates.listed_by_name_and_orderFree plainCrate_document hkeys
  obtain ⟨-, -, hsame⟩ := hfound _ hplain
  refine ⟨hkeys, hplain, hsame _ _ titledCrate rfl titledCrate_document (by decide) ?_⟩
  exact .table (List.reverse_perm crateEntries).symm

end CodeHealth.Sample
