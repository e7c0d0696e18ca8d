import CodeHealth.Analysis
import CodeHealth.Files.Disk
import CodeHealth.Proofs.Preorder
import CodeHealth.Proofs.Rules
import Mathlib.Data.List.Flatten

/-!
# Imports that boundary rules deny

Violations come from three lists, one inside the other: the files, the imports of a file and the
rules. What each of them gives is listed by the indices at which it gives something, and so is what
all of them give together, in the order of the indices. Which violations there are and in which
order is then one statement, and lines that rise with the indices rise in the list.

* `Lists`, `Lists.filterMap`, `Lists.flatMap` — what is listed by rising indices;
* `Boundary.violation?` — when an import breaks a rule;
* `Outline.Profile.lists_imports`, `Go.Tree.lists_imports` — the imports of a source;
* `Language.lists_violationsAt` — violations by files, imports and rules;
* `Language.violations_exact_and_ordered` — which violations there are, in which order.
-/

namespace CodeHealth

/-! ### Listing by rising indices -/

section Listing

variable {ι κ α β : Type}

/-- What `value` gives is listed in `xs`, once for each index at which it gives something, in rising
order of the indices. -/
def Lists (lt : ι → ι → Prop) (value : ι → Option α) (xs : List α) : Prop :=
  ∃ indices : List ι, indices.Pairwise lt ∧ (∀ i, i ∈ indices ↔ (value i).isSome = true) ∧
    indices.filterMap value = xs

/-- A list `Lists` its own members by their positions. -/
theorem lists_getElem? (xs : List α) : Lists (· < ·) (fun i : Nat => xs[i]?) xs := by
  refine ⟨List.range xs.length, List.pairwise_lt_range, fun i => ?_, ?_⟩
  · rw [List.mem_range, isSome_getElem?]
  · induction xs with
    | nil => rfl
    | cons x xs ih =>
      rw [List.length_cons, List.range_succ_eq_map, List.filterMap_cons, List.filterMap_map]
      exact congrArg (List.cons x) ih

variable {lt : ι → ι → Prop} {lt' : κ → κ → Prop} {value : ι → Option α} {xs : List α}

/-- `Lists` looks at the values and the list alone. -/
theorem Lists.congr (h : Lists lt value xs) {value' : ι → Option α} {xs' : List α}
    (hvalue : ∀ i, value' i = value i) (hxs : xs' = xs) : Lists lt value' xs' := by
  rw [hxs, funext hvalue]
  exact h

/-- What is picked out of a list by `pick` is listed by the same indices. -/
theorem Lists.filterMap (h : Lists lt value xs) (pick : α → Option β) :
    Lists lt (fun i => (value i).bind pick) (xs.filterMap pick) := by
  obtain ⟨indices, hrising, hmem, rfl⟩ := h
  refine ⟨indices.filter fun i => ((value i).bind pick).isSome, hrising.filter _, fun i => ?_, ?_⟩
  · rw [List.mem_filter, hmem]
    refine and_iff_right_of_imp fun hsome => ?_
    exact Option.isSome_of_isSome_bind hsome
  · rw [List.filterMap_filter, List.filterMap_filterMap]
    refine List.filterMap_congr fun i _ => ?_
    cases (value i).bind pick <;> rfl

/-- The pairs of an index `i` and the indices that go with what it gives. -/
def pairsAt (value : ι → Option α) (further : α → List κ) (i : ι) : List (ι × κ) :=
  match value i with
  | some a => (further a).map fun k => (i, k)
  | none => []

/-- Membership in `pairsAt`, by both indices. -/
theorem mem_pairsAt {further : α → List κ} {i : ι} {pair : ι × κ} :
    pair ∈ pairsAt value further i ↔ pair.1 = i ∧ ∃ a, value i = some a ∧ pair.2 ∈ further a := by
  obtain ⟨j, k⟩ := pair
  unfold pairsAt
  cases value i with
  | none => simp
  | some a => simp [eq_comm, and_comm]

theorem flatMap_filterMap_eq (value : ι → Option α) (f : α → List β) (indices : List ι) :
    (indices.filterMap value).flatMap f
      = indices.flatMap fun i => ((value i).map f).getD [] := by
  induction indices with
  | nil => rfl
  | cons i indices ih =>
    rw [List.flatMap_cons, ← ih]
    cases hvalue : value i with
    | none => simp [hvalue]
    | some a => simp [hvalue]

/-- What is listed for each member of a list is listed by two indices, that of the member first
(`Prod.Lex`). -/
theorem Lists.flatMap (h : Lists lt value xs) {inner : α → κ → Option β} {f : α → List β}
    (hf : ∀ a, Lists lt' (inner a) (f a)) :
    Lists (Prod.Lex lt lt') (fun ik => (value ik.1).bind fun a => inner a ik.2) (xs.flatMap f) := by
  obtain ⟨indices, hrising, hmem, rfl⟩ := h
  choose further hrising' hmem' hlists using hf
  refine ⟨indices.flatMap (pairsAt value further), ?_, ?_, ?_⟩
  · -- The pairs rise: inside of one index by the second component, across indices by the first.
    rw [List.pairwise_flatMap]
    constructor
    · intro i _
      unfold pairsAt
      cases value i with
      | none => exact List.Pairwise.nil
      | some a => exact List.pairwise_map.mpr ((hrising' a).imp fun h => Prod.Lex.right i h)
    · refine hrising.imp ?_
      rintro i j hij ⟨i', k⟩ hi ⟨j', k'⟩ hj
      obtain rfl : i' = i := (mem_pairsAt.mp hi).1
      obtain rfl : j' = j := (mem_pairsAt.mp hj).1
      exact Prod.Lex.left _ _ hij
  · -- The pairs are those that have a value.
    rintro ⟨i, k⟩
    simp only [List.mem_flatMap, mem_pairsAt, hmem, hmem']
    constructor
    · rintro ⟨_, -, rfl, a, ha, hk⟩
      rw [ha]
      exact hk
    · intro hsome
      obtain ⟨a, ha⟩ := Option.isSome_iff_exists.mp (Option.isSome_of_isSome_bind hsome)
      rw [ha] at hsome
      exact ⟨i, by rw [ha]; rfl, rfl, a, ha, hsome⟩
  · -- Their values, in order, are the list.
    rw [List.filterMap_flatMap, flatMap_filterMap_eq]
    refine List.flatMap_congr fun i _ => ?_
    unfold pairsAt
    cases hvalue : value i with
    | none => rfl
    | some a => simpa [List.filterMap_map, Function.comp_def, hvalue] using hlists a

/-- What is related at rising indices (`hR`) is related in the order of the list. -/
theorem Lists.pairwise {R : α → α → Prop} (h : Lists lt value xs)
    (hR : ∀ i j a b, lt i j → value i = some a → value j = some b → R a b) : xs.Pairwise R := by
  obtain ⟨indices, hrising, -, rfl⟩ := h
  rw [List.pairwise_filterMap]
  exact hrising.imp fun hij a ha b hb => hR _ _ a b hij ha hb

end Listing

/-! ### Matching rules -/

namespace Boundary

variable {rule : Rule}

/-- Directories seen from a root by `directoryFrom` have forward slashes already. -/
theorem slashed_directoryFrom (p root : Path) :
    Rule.slashed (p.directoryFrom root) = p.directoryFrom root := by
  unfold Path.directoryFrom
  split
  · split
    · rfl
    · exact Rule.slashed_slashed _
  · rfl

/-- A rule covers a directory that is seen from a root when the directory starts with its
`source`. -/
theorem covers_directoryFrom {p root : Path} :
    rule.covers (p.directoryFrom root) = true ↔ rule.source <+: p.directoryFrom root := by
  rw [Rule.covers, slashed_directoryFrom, List.isPrefixOf_iff_prefix]

/-- A rule denies a path that has its `target` in it. -/
theorem denies_iff {path : List Char} : rule.denies path = true ↔ rule.target <:+: path :=
  Text.occursIn_iff_isInfix

/-- The violation that an import `found` makes of a `rule`, in a file with this name and
directory. -/
def violation? (file : String) (dir : List Char) (found : Import) (rule : Rule) :
    Option Violation :=
  if rule.source <+: dir ∧ rule.target <:+: found.path then
    some ⟨file, found.line, String.ofList rule.source, String.ofList rule.target,
      String.ofList found.path⟩
  else none

/-- The violations of a file are the `violation?` of each import and rule, by imports and then by
rules. The directory of the file is the same for all of them. -/
theorem violationsOf_eq_flatMap (file : String) (p root : Path) (imports : List Import)
    (rules : List Rule) :
    violationsOf file (p.directoryFrom root) imports rules
      = imports.flatMap fun i => rules.filterMap (violation? file (p.directoryFrom root) i) := by
  unfold violationsOf
  refine List.flatMap_congr fun i _ => ?_
  rw [← List.filterMap_eq_map, List.filterMap_filter]
  refine List.filterMap_congr fun rule _ => ?_
  simp only [violation?, Bool.and_eq_true, covers_directoryFrom, denies_iff, Function.comp_apply]

theorem line_of_mem_violationsOf {file : String} {dir : List Char} {i : Import} {rules : List Rule}
    {v : Violation} (h : v ∈ violationsOf file dir [i] rules) : v.line = i.line := by
  rw [violationsOf, List.flatMap_singleton] at h
  obtain ⟨rule, -, rfl⟩ := List.mem_map.mp h
  rfl

/-- Imports in the order of their lines (`h`) have their violations in that order, whatever the
`rules` are: a violation has the line of its import. -/
theorem violationsOf_inLineOrder (file : String) (dir : List Char) {imports : List Import}
    (rules : List Rule) (h : imports.Pairwise fun a b => a.line ≤ b.line) :
    (violationsOf file dir imports rules).Pairwise fun a b => a.line ≤ b.line := by
  have heach : violationsOf file dir imports rules
      = imports.flatMap fun i => violationsOf file dir [i] rules := by
    simp only [violationsOf, List.flatMap_singleton]
  rw [heach, List.pairwise_flatMap]
  constructor
  · intro i _
    refine List.pairwise_of_forall_mem_list fun v hv w hw => Nat.le_of_eq ?_
    rw [line_of_mem_violationsOf hv, line_of_mem_violationsOf hw]
  · refine h.imp fun {i j} hij v hv w hw => ?_
    rw [line_of_mem_violationsOf hv, line_of_mem_violationsOf hw]
    exact hij

/-- A `fewer` number of rules is broken in fewer places, and what is left stays in its order. -/
theorem violationsOf_sublist (file : String) (dir : List Char) (imports : List Import)
    {fewer rules : List Rule} (h : fewer.Sublist rules) :
    (violationsOf file dir imports fewer).Sublist (violationsOf file dir imports rules) :=
  List.Sublist.flatMap_right imports fun _ _ => (h.filter _).map _

end Boundary

/-! ### Imports of a source -/

namespace Outline.Profile

open CodeHealth.Text CodeHealth.Boundary

variable {p : Profile}

/-- The import that a pattern finds on a line, both given by their indices in `place`. -/
def importAt? (p : Profile) (contents : List (List Char)) (place : Nat × Nat) : Option Import := do
  let content ← contents[place.1]?
  let pattern ← p.importPatterns[place.2]?
  let found ← pattern.find? content
  return ⟨← found.text? 1, place.1 + 1⟩

/-- `importsFrom` goes through the lines with their numbers, and what it finds on a line depends on
nothing else. -/
theorem importsFrom_eq_flatMap (line : Nat) (contents : List (List Char)) :
    p.importsFrom line contents
      = (contents.zipIdx line).flatMap fun numbered => p.importsOn numbered.2 numbered.1 := by
  induction contents generalizing line with
  | nil => rfl
  | cons content rest ih => rw [importsFrom, ih, List.zipIdx_cons, List.flatMap_cons]

/-- The `imports` of a source are listed by lines and, on a line, by patterns (`importAt?`). -/
theorem lists_imports (p : Profile) (source : List Char) :
    Lists (Prod.Lex (· < ·) (· < ·)) (p.importAt? (lines source)) (p.imports source) := by
  have hlists := (lists_getElem? ((lines source).zipIdx 1)).flatMap
    fun numbered => (lists_getElem? p.importPatterns).filterMap fun pattern =>
      (pattern.find? numbered.1).bind fun found =>
        (found.text? 1).bind fun path => some (⟨path, numbered.2⟩ : Import)
  refine hlists.congr ?_ ?_
  · rintro ⟨i, k⟩
    rw [List.getElem?_zipIdx, Option.bind_map, Nat.add_comm]
    rfl
  · rw [imports, importsFrom_eq_flatMap]
    rfl

theorem line_of_importAt? {contents : List (List Char)} {place : Nat × Nat} {found : Import}
    (h : p.importAt? contents place = some found) : found.line = place.1 + 1 := by
  simp only [importAt?, Option.bind_eq_bind, Option.bind_eq_some_iff] at h
  obtain ⟨content, -, pattern, -, _, -, path, -, hfound⟩ := h
  rw [← Option.some.inj hfound]

/-- Lines come one after the other, so `imports` come in the order of their lines. -/
theorem imports_inLineOrder (p : Profile) (source : List Char) :
    (p.imports source).Pairwise fun a b => a.line ≤ b.line := by
  refine (p.lists_imports source).pairwise fun i j a b hij ha hb => ?_
  rw [line_of_importAt? ha, line_of_importAt? hb]
  rcases Prod.lex_def.mp hij with hlt | ⟨heq, -⟩ <;> omega

end Outline.Profile

namespace Go

open CodeHealth.Boundary

/-- The import specs of a tree `t` come in the order of their lines. -/
def Tree.ImportsInLineOrder (t : Tree) : Prop :=
  (t.preorder.filter fun node => node.kind == .importSpec).Pairwise fun a b => a.line ≤ b.line

instance (t : Tree) : Decidable t.ImportsInLineOrder :=
  inferInstanceAs (Decidable (List.Pairwise _ _))

/-- The `imports` of a Go file are listed by its nodes in `preorder`. -/
theorem Tree.lists_imports (t : Tree) :
    Lists (· < ·) (fun i : Nat => t.preorder[i]?.bind Tree.import?) t.imports := by
  rw [imports, collect_eq_filterMap]
  exact (lists_getElem? t.preorder).filterMap Tree.import?

theorem Tree.of_import? {t : Tree} {found : Import} (h : t.import? = some found) :
    t.kind = .importSpec ∧ found.line = t.line := by
  unfold import? at h
  split at h
  · rename_i hkind
    obtain ⟨text, -, rfl⟩ := Option.map_eq_some_iff.mp h
    exact ⟨hkind, rfl⟩
  · cases h

/-- Where import specs come in the order of their lines (`ImportsInLineOrder`), so do `imports`. -/
theorem Tree.imports_inLineOrder {t : Tree} (h : t.ImportsInLineOrder) :
    t.imports.Pairwise fun a b => a.line ≤ b.line := by
  rw [imports, collect_eq_filterMap, List.pairwise_filterMap]
  refine (List.pairwise_filter.mp h).imp fun {node other} hle a ha b hb => ?_
  obtain ⟨hkind, hline⟩ := of_import? ha
  obtain ⟨hkind', hline'⟩ := of_import? hb
  rw [hline, hline']
  exact hle (by rw [hkind]; rfl) (by rw [hkind']; rfl)

end Go

/-! ### Violations over some paths -/

/-- The files at some `paths`. A path without a readable file has none. -/
def Disk.filesAt (disk : Disk) (paths : List Path) : List SourceFile :=
  paths.filterMap fun p => (disk.read? p).map fun content => ⟨p, content⟩

namespace Language

open CodeHealth.Boundary

variable (language : Language) (disk : Disk) (root : Path) (paths : List Path) (rules : List Rule)

/-- The `violations` of some sources are those of each of them. Without rules nothing is denied, so
there is no need to ask. -/
theorem violations_eq_flatMap (sources : List Source) : language.violations rules sources
    = sources.flatMap fun s => violationsOf s.label s.directory (language.imports s) rules := by
  rw [violations]
  split
  · rename_i hempty
    rw [List.isEmpty_iff.mp hempty]
    simp [violationsOf]
  · rfl

/-- The imports of the files at some `paths` that `rules` deny. -/
def violationsAt : List Violation :=
  language.violations rules ((disk.filesAt paths).map (SourceFile.source root))

/-- The violation at three places, if there is one: that of a file among the `paths`, of an import
in it, and of a rule. -/
def violationAt? (place : Nat × Nat × Nat) : Option Violation := do
  let p ← paths[place.1]?
  let content ← disk.read? p
  let found ← (language.imports (SourceFile.source root ⟨p, content⟩))[place.2.1]?
  let rule ← rules[place.2.2]?
  violation? p.label (p.directoryFrom root) found rule

/-- Violations are listed by files, imports and rules (`violationAt?`): in the lexicographic order
of the three indices, and each of them once. -/
theorem lists_violationsAt :
    Lists (Prod.Lex (· < ·) (Prod.Lex (· < ·) (· < ·)))
      (language.violationAt? disk root paths rules)
      (language.violationsAt disk root paths rules) := by
  have hfiles := (lists_getElem? paths).filterMap fun p =>
    (disk.read? p).map fun content => (⟨p, content⟩ : SourceFile)
  have hlists := hfiles.flatMap fun f =>
    (lists_getElem? (language.imports (f.source root))).flatMap fun found =>
      (lists_getElem? rules).filterMap (violation? f.path.label (f.path.directoryFrom root) found)
  refine hlists.congr ?_ ?_
  · rintro ⟨i, j, k⟩
    simp only [violationAt?, Option.bind_eq_bind, Option.bind_assoc, Option.bind_map]
    rfl
  · rw [violationsAt, violations_eq_flatMap, List.flatMap_map]
    exact List.flatMap_congr fun f _ => violationsOf_eq_flatMap _ f.path root _ rules

/-- Each of the `paths` has its own violations. -/
theorem violationsAt_eq_flatMap : language.violationsAt disk root paths rules
    = paths.flatMap fun p => language.violationsAt disk root [p] rules := by
  simp only [violationsAt, violations_eq_flatMap, List.flatMap_map]
  induction paths with
  | nil => rfl
  | cons p paths ih =>
    rw [List.flatMap_cons, ← ih]
    cases hread : disk.read? p with
    | none => simp [Disk.filesAt, hread]
    | some content => simp [Disk.filesAt, hread]

/-- Over all `paths`, too, a `fewer` number of rules is broken in fewer places, file by file. -/
theorem violationsAt_sublist {fewer : List Rule} (h : fewer.Sublist rules) :
    (language.violationsAt disk root paths fewer).Sublist
      (language.violationsAt disk root paths rules) := by
  simp only [violationsAt, violations_eq_flatMap]
  exact List.Sublist.flatMap_right _ fun s _ => violationsOf_sublist _ _ _ h

/-- The violations of the file at a path `p` come in the order of their lines when its imports do
(`h`). -/
theorem violationsAt_inLineOrder (p : Path) (h : ∀ content, disk.read? p = some content →
      (language.imports (SourceFile.source root ⟨p, content⟩)).Pairwise
        fun a b => a.line ≤ b.line) :
    (language.violationsAt disk root [p] rules).Pairwise fun a b => a.line ≤ b.line := by
  rw [violationsAt, violations_eq_flatMap, List.flatMap_map]
  cases hread : disk.read? p with
  | none => simp [Disk.filesAt, hread]
  | some content =>
    simp only [Disk.filesAt, List.filterMap_cons, hread, Option.map_some, List.filterMap_nil,
      List.flatMap_cons, List.flatMap_nil, List.append_nil]
    exact violationsOf_inLineOrder _ _ rules (h content hread)

/-- The `imports` of a source come in the order of their lines, in Go when the tree of the source
has them so (`ImportsInLineOrder`). -/
theorem imports_inLineOrder (s : Source)
    (h : language = .go → ∀ t, Go.parse? s.text = some t → t.ImportsInLineOrder) :
    (language.imports s).Pairwise fun a b => a.line ≤ b.line := by
  rw [imports]
  cases hprofile : language.profile? with
  | some profile => exact profile.imports_inLineOrder s.text
  | none =>
    have hgo : language = .go := by
      cases language <;> first | rfl | cases hprofile
    simp only [Go.importsOf]
    split
    · rename_i t ht
      exact Go.Tree.imports_inLineOrder (h hgo t ht)
    · exact List.Pairwise.nil

/-- **Boundary analysis.** For every language, all `paths`, whether readable or not, all `rules` and
every `root`:

* there is one violation for each readable file, import in it and rule, such that the directory of
  the file, seen from the root, starts with one half of the rule and the imported path contains the
  other (`violationAt?`); they come by files, for a file by imports and for an import by rules;
* imports are those that the patterns of a profile find, by lines and patterns (`importAt?`), or
  those that the tree specifies, and a source without a tree has none;
* the violations of all files are those of each file, one file after the other;
* those of one file come in the order of their lines, in Go when the tree of the file has its import
  specs so (`ImportsInLineOrder`);
* with fewer rules, none at all included, violations only get lost. -/
theorem violations_exact_and_ordered :
    Lists (Prod.Lex (· < ·) (Prod.Lex (· < ·) (· < ·)))
        (language.violationAt? disk root paths rules)
        (language.violationsAt disk root paths rules) ∧
      (∀ s profile, language.profile? = some profile → Lists (Prod.Lex (· < ·) (· < ·))
        (profile.importAt? (Text.lines s.text)) (language.imports s)) ∧
      (∀ s, language = .go → match Go.parse? s.text with
        | some t => Lists (· < ·) (fun i : Nat => t.preorder[i]?.bind Go.Tree.import?)
          (language.imports s)
        | none => language.imports s = []) ∧
      language.violationsAt disk root paths rules
        = paths.flatMap (fun p => language.violationsAt disk root [p] rules) ∧
      (∀ p ∈ paths, (language = .go → ∀ content t, disk.read? p = some content →
          Go.parse? (Text.decodeLossy content) = some t → t.ImportsInLineOrder) →
        (language.violationsAt disk root [p] rules).Pairwise fun a b => a.line ≤ b.line) ∧
      ∀ fewer : List Rule, fewer.Sublist rules →
        (language.violationsAt disk root paths fewer).Sublist
          (language.violationsAt disk root paths rules) := by
  refine ⟨lists_violationsAt .., ?_, ?_, violationsAt_eq_flatMap .., ?_,
    fun fewer h => violationsAt_sublist _ _ _ _ _ h⟩
  · intro s profile hprofile
    rw [imports, hprofile]
    exact profile.lists_imports s.text
  · rintro s rfl
    split
    · rename_i t ht
      rw [imports, profile?, Go.importsOf, ht]
      exact t.lists_imports
    · rename_i hnone
      rw [imports, profile?, Go.importsOf, hnone]
  · intro p _ horder
    refine violationsAt_inLineOrder _ _ _ _ p fun content hread => ?_
    exact imports_inLineOrder _ _ fun hgo t ht => horder hgo content t hread ht

end Language

namespace Sample

open Boundary

/-- A Go file with the lines `import "a"` and `import "ab"`. -/
def importing : Bytes :=
  [105, 109, 112, 111, 114, 116, 32, 34, 97, 34, 10,
    105, 109, 112, 111, 114, 116, 32, 34, 97, 98, 34]

/-- The text of the file `importing`. -/
theorem decodeLossy_importing :
    Text.decodeLossy importing = "import \"a\"\nimport \"ab\"".toList := by
  decide +kernel

/-- The tree of the file `importing`. -/
def importingTree : Go.Tree :=
  .node .file 1 [
    .node .importDeclaration 1 [.node .importSpec 1 [.node (.string "\"a\"") 1 []]],
    .node .importDeclaration 2 [.node .importSpec 2 [.node (.string "\"ab\"") 2 []]]]

set_option maxRecDepth 4000 in
/-- The file `importing` is read as `importingTree`. -/
theorem parse?_importing : Go.parse? (Text.decodeLossy importing) = some importingTree := by
  rw [decodeLossy_importing]
  cbv

/-- A disk with the file `importing` in a directory of the project. -/
def importingDisk : Disk :=
  ⟨.directory [("code".toList, .directory [("api".toList,
    .directory [("a.go".toList, .file importing)])])], []⟩

/-- The root of the project on `importingDisk`. -/
def importingRoot : Path := Path.ofString "/code"

/-- A path to no file on `importingDisk`, and the path to the file `importing`. -/
def importingPaths : List Path := [Path.ofString "/code/b.go", Path.ofString "/code/api/a.go"]

/-- Two rules for the directory of the file `importing`. Both imports break the first, and one the
second. -/
def importingRules : List Rule := [⟨"ap".toList, "a".toList⟩, ⟨"api".toList, "b".toList⟩]

/-- The two imports of the file `importing`, with their lines. -/
theorem imports_importing : Language.go.imports (SourceFile.source importingRoot
    ⟨Path.ofString "/code/api/a.go", importing⟩) = [⟨"a".toList, 1⟩, ⟨"ab".toList, 2⟩] := by
  rw [Language.imports, Language.profile?, Go.importsOf, SourceFile.source, parse?_importing]
  decide +kernel

/-- The second of the `importingRules` is broken on the second line of `importing`, and the first
rule alone finds no more than both. -/
theorem second_line_denied :
    importingTree.ImportsInLineOrder ∧
      ⟨"a.go", 2, "api", "b", "ab"⟩ ∈
        Language.go.violationsAt importingDisk importingRoot importingPaths importingRules ∧
      (Language.go.violationsAt importingDisk importingRoot [Path.ofString "/code/api/a.go"]
        importingRules).Pairwise (fun a b => a.line ≤ b.line) ∧
      (Language.go.violationsAt importingDisk importingRoot importingPaths
        (importingRules.take 1)).Sublist
          (Language.go.violationsAt importingDisk importingRoot importingPaths importingRules) := by
  have hread : importingDisk.read? (Path.ofString "/code/api/a.go") = some importing := rfl
  have horder : importingTree.ImportsInLineOrder := by decide
  obtain ⟨⟨places, -, hplaces, hlisted⟩, -, -, -, hlines, hfewer⟩ :=
    Language.go.violations_exact_and_ordered importingDisk importingRoot importingPaths
      importingRules
  refine ⟨horder, ?_, ?_, hfewer _ (List.take_sublist 1 _)⟩
  · have hat : Language.go.violationAt? importingDisk importingRoot importingPaths importingRules
        (1, 1, 1) = some ⟨"a.go", 2, "api", "b", "ab"⟩ := by
      have hpath : importingPaths[1]? = some (Path.ofString "/code/api/a.go") := rfl
      simp only [Language.violationAt?, hpath, hread, imports_importing, Option.bind_eq_bind,
        Option.bind_some]
      decide +kernel
    rw [← hlisted, List.mem_filterMap]
    exact ⟨(1, 1, 1), (hplaces _).mpr (by rw [hat]; rfl), hat⟩
  · refine hlines _ (List.mem_cons_of_mem _ List.mem_cons_self) fun _ content t hread' ht => ?_
    obtain rfl : importing = content := Option.some.inj (hread.symm.trans hread')
    obtain rfl : importingTree = t := Option.some.inj (parse?_importing.symm.trans ht)
    exact horder

end Sample

end CodeHealth
